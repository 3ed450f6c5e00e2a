import FormBuilder.Proofs.Store.Draw
import FormBuilder.Proofs.Store.Reachable

/-!
When an operation is refused.  `Refusal` lists the reasons and `Effect` what an operation
does where there is none.  These are all outcomes, and a refused operation leaves the
store as it was: `perform_allOrNothing`.
-/

namespace FormBuilder

/-- The field that has to be there for an operation. -/
def Operation.target? : Operation → Option FieldId
  | remove id | patch id _ | select (some id) | addOption id | updateOption id _ _ _ => some id
  | _ => none

namespace Attributes

/-- The attributes with other options, if they have any. -/
def withOptions (options : List Choice) : Attributes → Attributes
  | select c => .select { c with options }
  | radio c => .radio { c with options }
  | a => a

theorem options?_eq_none_iff {a : Attributes} :
    a.options? = none ↔ a.kind ≠ .select ∧ a.kind ≠ .radio := by
  cases a <;> simp [options?, kind]

theorem applyTo?_replaceOptions {a : Attributes} {old : List Choice} (h : a.options? = some old)
    (options : List Choice) :
    ∃ p, AttributesPatch.replaceOptions? a.kind options = some p ∧
      p.applyTo? a = some (a.withOptions options) := by
  cases a <;> first | exact ⟨_, rfl, rfl⟩ | exact nomatch h

end Attributes

theorem AttributesPatch.applyTo?_eq_none_iff {p : AttributesPatch} {a : Attributes} :
    p.applyTo? a = none ↔ p.kind ≠ a.kind := by
  rw [← not_iff_not, ← ne_eq, Option.ne_none_iff_isSome, isSome_applyTo?, not_not]

/-- A patch is refused for its kind only. -/
theorem Field.patch_eq_error_iff {f : Field} {p : FieldPatch} {why : PatchError} :
    f.patch p = .error why ↔
      ∃ a, p.attributes = some a ∧ a.kind ≠ f.kind ∧ why = .kindMismatch f.kind a.kind := by
  unfold patch
  cases hp : p.attributes with
  | none => simp
  | some a =>
    cases ha : a.applyTo? f.attributes with
    | none =>
      have hkind : a.kind ≠ f.kind := AttributesPatch.applyTo?_eq_none_iff.mp ha
      simp [ha, hkind, eq_comm]
    | some attributes =>
      have hkind : a.kind = f.kind :=
        (AttributesPatch.isSome_applyTo? a f.attributes).mp (ha ▸ rfl)
      simp [ha, hkind]

namespace Store

variable {s t : Store} {id : FieldId} {f new : Field} {e : Entropy} {op : Operation}
  {why : StoreError}

/-! ## Reasons and effects -/

/-- Why no id can be given to a new field. -/
inductive NoId (s : Store) (e : Entropy) : StoreError → Prop where
  | length (h : ¬ (4 ≤ s.config.idLength ∧ s.config.idLength ≤ 64)) :
    NoId s e (.invalidIdLength s.config.idLength)
  | taken (hlength : 4 ≤ s.config.idLength ∧ s.config.idLength ≤ 64)
    (h : ∀ k < 32, candidate s.config.idLength e k ∈ s.ids) : NoId s e .idsExhausted

/-- The id that a new field gets. -/
def IsFirstFree (s : Store) (e : Entropy) (id : FieldId) : Prop :=
  (4 ≤ s.config.idLength ∧ s.config.idLength ≤ 64) ∧ id ∉ s.ids ∧
    ∃ k < 32, id = candidate s.config.idLength e k ∧
      ∀ j < k, candidate s.config.idLength e j ∈ s.ids

/-- Why an operation is refused. -/
inductive Refusal (s : Store) (e : Entropy) : Operation → StoreError → Prop where
  | create {kind : Kind} {why : StoreError} (h : NoId s e why) : Refusal s e (.create kind) why
  | add {kind : Kind} {why : StoreError} (h : NoId s e why) : Refusal s e (.add kind) why
  | insert {f : Field} (h : f.id ∈ s.ids) : Refusal s e (.insert f) (.duplicateId f.id)
  | unknown {op : Operation} {id : FieldId} (htarget : op.target? = some id) (h : id ∉ s.ids) :
    Refusal s e op (.unknownField id)
  | patch {f : Field} {p : FieldPatch} {a : AttributesPatch} (hf : f ∈ s.fields)
    (ha : p.attributes = some a) (h : a.kind ≠ f.kind) :
    Refusal s e (.patch f.id p) (.patch (.kindMismatch f.kind a.kind))
  | addOption {f : Field} (hf : f ∈ s.fields) (h : f.kind ≠ .select ∧ f.kind ≠ .radio) :
    Refusal s e (.addOption f.id) (.noOptions f.kind)
  | updateOption {f : Field} {index : Nat} {label value : Option String} (hf : f ∈ s.fields)
    (h : f.kind ≠ .select ∧ f.kind ≠ .radio) :
    Refusal s e (.updateOption f.id index label value) (.noOptions f.kind)
  | index {f : Field} {options : List Choice} {index : Nat} {label value : Option String}
    (hf : f ∈ s.fields) (ho : f.attributes.options? = some options) (h : options.length ≤ index) :
    Refusal s e (.updateOption f.id index label value)
      (.patch (.optionOutOfBounds index options.length))
  | source {source target : Nat} (h : s.fields.length ≤ source) :
    Refusal s e (.reorder source target) (.indexOutOfBounds source s.fields.length)
  | target {source target : Nat} (hsource : source < s.fields.length)
    (h : s.fields.length ≤ target) :
    Refusal s e (.reorder source target) (.indexOutOfBounds target s.fields.length)

/-- The store with a field in the place of the one with its id. -/
def withField (s : Store) (new : Field) : Store :=
  { s with fields := s.fields.map fun g => if g.id = new.id then new else g }

/-- What an operation that is not refused answers, and the store that it leaves. -/
inductive Effect (s : Store) (e : Entropy) : Operation → Answer → Store → Prop where
  | create {kind : Kind} {id : FieldId} (h : IsFirstFree s e id) :
    Effect s e (.create kind) (.field (Field.new id kind s.config.suffixLength)) s
  | add {kind : Kind} {id : FieldId} {f : Field} (h : IsFirstFree s e id)
    (hf : f = Field.new id kind s.config.suffixLength) :
    Effect s e (.add kind) (.field f) { s with fields := s.fields ++ [f] }
  | insert {f : Field} (h : f.id ∉ s.ids) :
    Effect s e (.insert f) .done { s with fields := s.fields ++ [f] }
  | remove {f : Field} (hf : f ∈ s.fields) :
    Effect s e (.remove f.id) (.field f) { s with
      fields := s.fields.filter (·.id ≠ f.id)
      selected := s.selected.filter (· ≠ f.id) }
  | patch {f new : Field} {p : FieldPatch} (hf : f ∈ s.fields) (h : f.patch p = .ok new) :
    Effect s e (.patch f.id p) .done (s.withField new)
  | reorder {source target : Nat} (hsource : source < s.fields.length)
    (htarget : target < s.fields.length) :
    Effect s e (.reorder source target) .done
      { s with fields := moveElement source target s.fields }
  | select {choice : Option FieldId} (h : ∀ id ∈ choice, id ∈ s.ids) :
    Effect s e (.select choice) .done { s with selected := choice }
  | addOption {f : Field} {options : List Choice} (hf : f ∈ s.fields)
    (ho : f.attributes.options? = some options) :
    Effect s e (.addOption f.id) .done
      (s.withField { f with attributes := f.attributes.withOptions (options ++ [.new]) })
  | updateOption {f : Field} {options : List Choice} {index : Nat} {c : Choice}
    {label value : Option String} (hf : f ∈ s.fields)
    (ho : f.attributes.options? = some options) (hc : options[index]? = some c) :
    Effect s e (.updateOption f.id index label value) .done
      (s.withField { f with
        attributes := f.attributes.withOptions
          (options.set index ⟨label.getD c.label, value.getD c.value⟩) })

/-! ## New fields -/

theorem allocateId_of_noId (h : NoId s e why) :
    ∃ e', s.allocateId e = (.error why, e') ∧ (why ≠ .idsExhausted → e' = e) := by
  cases h with
  | length h => exact ⟨e, allocateId_of_length h, fun _ => rfl⟩
  | taken hlength h => exact ⟨_, allocateId_of_taken hlength h, fun hne => absurd rfl hne⟩

theorem allocateId_of_isFirstFree (h : IsFirstFree s e id) :
    ∃ e', s.allocateId e = (.ok id, e') := by
  obtain ⟨hlength, hid, k, hk, rfl, hbefore⟩ := h
  exact ⟨_, allocateId_of_free hlength hk hid hbefore⟩

theorem create_of_noId (h : NoId s e why) (kind : Kind) :
    ∃ e', s.create kind e = (.error why, e') ∧ (why ≠ .idsExhausted → e' = e) := by
  obtain ⟨e', hid, hsupply⟩ := allocateId_of_noId h
  refine ⟨e', ?_, hsupply⟩
  rw [create, hid]

theorem create_of_isFirstFree (h : IsFirstFree s e id) (kind : Kind) :
    ∃ e', s.create kind e = (.ok (Field.new id kind s.config.suffixLength), e') := by
  obtain ⟨e', hid⟩ := allocateId_of_isFirstFree h
  refine ⟨e', ?_⟩
  rw [create, hid]

theorem noId_or_isFirstFree (s : Store) (e : Entropy) :
    (∃ why, NoId s e why) ∨ ∃ id, IsFirstFree s e id := by
  by_cases hlength : 4 ≤ s.config.idLength ∧ s.config.idLength ≤ 64
  · rcases taken_or_exists_free s.config.idLength 32 s.ids e with h | ⟨k, hk, hfree, hbefore⟩
    · exact .inl ⟨_, .taken hlength h⟩
    · exact .inr ⟨_, hlength, hfree, k, hk, rfl, hbefore⟩
  · exact .inl ⟨_, .length hlength⟩

/-! ## Fields in their place -/

theorem replaceField_eq_map {fields : List Field} (h : (fields.map Field.id).Nodup)
    (new : Field) :
    replaceField new fields = fields.map fun g => if g.id = new.id then new else g := by
  induction fields with
  | nil => rfl
  | cons f rest ih =>
    obtain ⟨hf, hrest⟩ := List.nodup_cons.mp h
    by_cases hid : f.id = new.id
    · have hother : ∀ g ∈ rest, g.id ≠ new.id :=
        fun g hg he => hf (hid ▸ he ▸ List.mem_map_of_mem hg)
      have hsame : rest.map (fun g => if g.id = new.id then new else g) = rest.map id :=
        List.map_congr_left fun g hg => if_neg (hother g hg)
      rw [replaceField, if_pos hid, List.map_cons, if_pos hid, hsame, List.map_id]
    · rw [replaceField, if_neg hid, List.map_cons, if_neg hid, ih hrest]

theorem eraseP_eq_filter {fields : List Field} (h : (fields.map Field.id).Nodup) (id : FieldId) :
    fields.eraseP (·.id = id) = fields.filter (·.id ≠ id) := by
  induction fields with
  | nil => rfl
  | cons f rest ih =>
    obtain ⟨hf, hrest⟩ := List.nodup_cons.mp h
    by_cases hid : f.id = id
    · have hother : ∀ g ∈ rest, g.id ≠ id := fun g hg he => hf (hid ▸ he ▸ List.mem_map_of_mem hg)
      have hsame : rest.filter (·.id ≠ id) = rest :=
        List.filter_eq_self.mpr fun g hg => decide_eq_true (hother g hg)
      rw [List.eraseP_cons_of_pos (by simpa using hid), List.filter_cons_of_neg (by simpa using hid),
        hsame]
    · rw [List.eraseP_cons_of_neg (by simpa using hid), List.filter_cons_of_pos (by simpa using hid),
        ih hrest]

theorem edit_of_not_mem {change : Field → Except StoreError Field} (h : id ∉ s.ids) :
    s.edit id change = .error (.unknownField id) := by
  rw [edit, find?_eq_none_iff.mpr h]

theorem edit_of_error {change : Field → Except StoreError Field} (hs : s.Coherent)
    (hf : f ∈ s.fields) (h : change f = .error why) : s.edit f.id change = .error why := by
  have hfind := hs.find?_eq_some_iff.mpr ⟨hf, rfl⟩
  simp only [edit, hfind, h]
  rfl

theorem edit_of_ok {change : Field → Except StoreError Field} (hs : s.Coherent)
    (hf : f ∈ s.fields) (h : change f = .ok new) : s.edit f.id change = .ok (s.withField new) := by
  have hfind := hs.find?_eq_some_iff.mpr ⟨hf, rfl⟩
  simp only [edit, hfind, h, withField, ← replaceField_eq_map hs.nodup]
  rfl

/-! ## Options -/

/-- Where there are options, the patch that replaces them is never refused. -/
theorem exists_replaceOptions {old : List Choice} (h : f.attributes.options? = some old)
    (options : List Choice) :
    ∃ p, AttributesPatch.replaceOptions? f.kind options = some p ∧
      patchField { attributes := some p } f =
        .ok { f with attributes := f.attributes.withOptions options } := by
  obtain ⟨p, hp, happly⟩ := Attributes.applyTo?_replaceOptions h options
  refine ⟨p, hp, ?_⟩
  simp only [patchField, Field.patch, happly]
  rfl

theorem editOptions_eq {change : List Choice → Except PatchError (List Choice)}
    {old : List Choice} (h : f.attributes.options? = some old) :
    editOptions change f = ((change old).mapError .patch).map fun options =>
      { f with attributes := f.attributes.withOptions options } := by
  simp only [editOptions, h]
  cases change old with
  | error why => rfl
  | ok options =>
    obtain ⟨p, hp, hpatch⟩ := exists_replaceOptions h options
    dsimp only [Except.mapError, bind, Except.bind]
    simp only [hp, hpatch]
    rfl

theorem editOptions_of_none {change : List Choice → Except PatchError (List Choice)}
    (h : f.kind ≠ .select ∧ f.kind ≠ .radio) : editOptions change f = .error (.noOptions f.kind) := by
  rw [editOptions, Attributes.options?_eq_none_iff.mpr h]

/-! ## Outcomes -/

/-- What remains of a refused operation.  Random bytes are drawn in vain only where the ids
have run out. -/
structure IsRefused (s : Store) (e : Entropy) (why : StoreError) (outcome : Outcome) : Prop where
  answer : outcome.1 = .error why
  store : outcome.2.1 = s
  supply : why ≠ .idsExhausted → outcome.2.2 = e

theorem isRefused_settle {α : Type} {x : Except StoreError α} {result : α → Answer × Store}
    (h : x = .error why) : IsRefused s e why (s.settle e (x.map result)) := by
  subst h
  exact ⟨rfl, rfl, fun _ => rfl⟩

theorem isRefused_unknown (htarget : op.target? = some id) (h : id ∉ s.ids) :
    IsRefused s e (.unknownField id) (s.perform e op) := by
  cases op with
  | create _ | add _ | insert _ | reorder _ _ => exact nomatch htarget
  | remove _ =>
    obtain rfl := Option.some.inj htarget
    refine isRefused_settle ?_
    rw [remove, find?_eq_none_iff.mpr h]
  | patch _ _ | addOption _ | updateOption _ _ _ _ =>
    obtain rfl := Option.some.inj htarget
    exact isRefused_settle (edit_of_not_mem h)
  | select choice =>
    cases choice with
    | none => exact nomatch htarget
    | some _ =>
      obtain rfl := Option.some.inj htarget
      exact isRefused_settle (if_neg h)

theorem checkIndex_of_le {index : Nat} (h : s.fields.length ≤ index) :
    s.checkIndex index = .error (.indexOutOfBounds index s.fields.length) :=
  if_neg (Nat.not_lt.mpr h)

theorem checkIndex_of_lt {index : Nat} (h : index < s.fields.length) :
    s.checkIndex index = .ok () := if_pos h

theorem reorder_of_source_le {source target : Nat} (h : s.fields.length ≤ source) :
    s.reorder source target = .error (.indexOutOfBounds source s.fields.length) := by
  rw [reorder, checkIndex_of_le h]
  rfl

theorem reorder_of_target_le {source target : Nat} (hsource : source < s.fields.length)
    (h : s.fields.length ≤ target) :
    s.reorder source target = .error (.indexOutOfBounds target s.fields.length) := by
  rw [reorder, checkIndex_of_lt hsource, checkIndex_of_le h]
  rfl

theorem reorder_of_lt {source target : Nat} (hsource : source < s.fields.length)
    (htarget : target < s.fields.length) :
    s.reorder source target = .ok { s with fields := moveElement source target s.fields } := by
  rw [reorder, checkIndex_of_lt hsource, checkIndex_of_lt htarget]
  rfl

theorem isRefused_of_refusal (hs : s.Coherent) (h : Refusal s e op why) :
    IsRefused s e why (s.perform e op) := by
  cases h with
  | @create kind _ h =>
    obtain ⟨e', hcreate, hsupply⟩ := create_of_noId h kind
    simp only [perform, hcreate]
    exact ⟨rfl, rfl, hsupply⟩
  | @add kind _ h =>
    obtain ⟨e', hcreate, hsupply⟩ := create_of_noId h kind
    simp only [perform, add, hcreate]
    exact ⟨rfl, rfl, hsupply⟩
  | insert h => exact isRefused_settle (if_pos h)
  | unknown htarget h => exact isRefused_unknown htarget h
  | @patch f p a hf ha hkind =>
    have hpatch : f.patch p = .error (.kindMismatch f.kind a.kind) :=
      Field.patch_eq_error_iff.mpr ⟨a, ha, hkind, rfl⟩
    refine isRefused_settle (edit_of_error hs hf ?_)
    rw [patchField, hpatch]
    rfl
  | addOption hf hkind | updateOption hf hkind =>
    exact isRefused_settle (edit_of_error hs hf (editOptions_of_none hkind))
  | @index f options index label value hf ho hindex =>
    refine isRefused_settle (edit_of_error hs hf ?_)
    rw [editOptions_eq ho, updateChoice, List.getElem?_eq_none hindex]
    rfl
  | source hsource => exact isRefused_settle (reorder_of_source_le hsource)
  | target hsource htarget => exact isRefused_settle (reorder_of_target_le hsource htarget)

/-- An operation is done: it answers and leaves a store as `Effect` says. -/
def IsDone (s : Store) (e : Entropy) (op : Operation) (outcome : Outcome) : Prop :=
  ∃ answer, outcome.1 = .ok answer ∧ Effect s e op answer outcome.2.1

theorem isDone_settle {α : Type} {x : Except StoreError α} {result : α → Answer × Store} {a : α}
    (h : x = .ok a) (heffect : Effect s e op (result a).1 (result a).2) :
    IsDone s e op (s.settle e (x.map result)) := by
  subst h
  exact ⟨(result a).1, rfl, heffect⟩

theorem isDone_create {kind : Kind} (h : IsFirstFree s e id) :
    IsDone s e (.create kind) (s.perform e (.create kind)) := by
  obtain ⟨e', hcreate⟩ := create_of_isFirstFree h kind
  simp only [perform, hcreate]
  exact ⟨_, rfl, .create h⟩

theorem isDone_add {kind : Kind} (h : IsFirstFree s e id) :
    IsDone s e (.add kind) (s.perform e (.add kind)) := by
  obtain ⟨e', hcreate⟩ := create_of_isFirstFree h kind
  simp only [perform, add, hcreate]
  exact ⟨_, rfl, .add h rfl⟩

theorem isDone_remove (hs : s.Coherent) (hf : f ∈ s.fields) :
    IsDone s e (.remove f.id) (s.perform e (.remove f.id)) := by
  have hselected : (if s.selected = some f.id then none else s.selected) =
      s.selected.filter (· ≠ f.id) := by
    cases s.selected with
    | none => rfl
    | some id => by_cases hid : id = f.id <;> simp [hid, Option.filter]
  have hremove : s.remove f.id = .ok (f, { s with
      fields := s.fields.filter (·.id ≠ f.id)
      selected := s.selected.filter (· ≠ f.id) }) := by
    rw [remove, hs.find?_eq_some_iff.mpr ⟨hf, rfl⟩, eraseP_eq_filter hs.nodup, hselected]
  exact isDone_settle hremove (.remove hf)

theorem exists_refusal_or_isDone (hs : s.Coherent) (e : Entropy) (op : Operation) :
    (∃ why, Refusal s e op why) ∨ IsDone s e op (s.perform e op) := by
  -- An operation on a field either finds it or is refused.
  have hfind : ∀ {op : Operation} {id : FieldId}, op.target? = some id →
      (∀ f ∈ s.fields, f.id = id → (∃ why, Refusal s e op why) ∨ IsDone s e op (s.perform e op)) →
      (∃ why, Refusal s e op why) ∨ IsDone s e op (s.perform e op) := by
    intro op id htarget h
    by_cases hid : id ∈ s.ids
    · obtain ⟨f, hf, hfid⟩ := List.mem_map.mp hid
      exact h f hf hfid
    · exact .inl ⟨_, .unknown htarget hid⟩
  cases op with
  | create kind =>
    rcases noId_or_isFirstFree s e with ⟨why, h⟩ | ⟨id, h⟩
    · exact .inl ⟨why, .create h⟩
    · exact .inr (isDone_create h)
  | add kind =>
    rcases noId_or_isFirstFree s e with ⟨why, h⟩ | ⟨id, h⟩
    · exact .inl ⟨why, .add h⟩
    · exact .inr (isDone_add h)
  | insert f =>
    by_cases hid : f.id ∈ s.ids
    · exact .inl ⟨_, .insert hid⟩
    · exact .inr (isDone_settle (if_neg hid) (.insert hid))
  | remove id =>
    refine hfind rfl fun f hf hid => ?_
    subst hid
    exact .inr (isDone_remove hs hf)
  | patch id p =>
    refine hfind rfl fun f hf hid => ?_
    subst hid
    cases hpatch : f.patch p with
    | error why =>
      obtain ⟨a, ha, hkind, -⟩ := Field.patch_eq_error_iff.mp hpatch
      exact .inl ⟨_, .patch hf ha hkind⟩
    | ok new =>
      have hnew : patchField p f = .ok new := mapError_eq_ok_iff.mpr hpatch
      exact .inr (isDone_settle (edit_of_ok hs hf hnew) (.patch hf hpatch))
  | reorder source target =>
    by_cases hsource : source < s.fields.length
    · by_cases htarget : target < s.fields.length
      · have hreorder := reorder_of_lt hsource htarget
        exact .inr (isDone_settle hreorder (.reorder hsource htarget))
      · exact .inl ⟨_, .target hsource (Nat.not_lt.mp htarget)⟩
    · exact .inl ⟨_, .source (Nat.not_lt.mp hsource)⟩
  | select choice =>
    cases choice with
    | none => exact .inr (isDone_settle rfl (.select fun _ hid => nomatch hid))
    | some id =>
      refine hfind rfl fun f hf hid => ?_
      subst hid
      have hmem : f.id ∈ s.ids := List.mem_map_of_mem hf
      have hselect : ∀ id ∈ some f.id, id ∈ s.ids := fun id hid => Option.some.inj hid ▸ hmem
      exact .inr (isDone_settle (if_pos hmem) (.select hselect))
  | addOption id =>
    refine hfind rfl fun f hf hid => ?_
    subst hid
    cases ho : f.attributes.options? with
    | none => exact .inl ⟨_, .addOption hf (Attributes.options?_eq_none_iff.mp ho)⟩
    | some options =>
      exact .inr (isDone_settle (edit_of_ok hs hf (editOptions_eq ho)) (.addOption hf ho))
  | updateOption id index label value =>
    refine hfind rfl fun f hf hid => ?_
    subst hid
    cases ho : f.attributes.options? with
    | none => exact .inl ⟨_, .updateOption hf (Attributes.options?_eq_none_iff.mp ho)⟩
    | some options =>
      cases hc : options[index]? with
      | none => exact .inl ⟨_, .index hf ho (List.getElem?_eq_none_iff.mp hc)⟩
      | some c =>
        have hedit : editOptions (updateChoice index label value) f = .ok { f with
            attributes := f.attributes.withOptions
              (options.set index ⟨label.getD c.label, value.getD c.value⟩) } := by
          rw [editOptions_eq ho, updateChoice, hc]
          rfl
        exact .inr (isDone_settle (edit_of_ok hs hf hedit) (.updateOption hf ho hc))

/-- In every store that operations lead to, an operation is refused exactly for the reasons
listed and for no other.  Refused, it changes nothing and draws no random byte, unless
all the ids that may be tried are taken; otherwise its effect is there in full. -/
theorem perform_allOrNothing (h : Reachable s) (e : Entropy) (op : Operation) :
    (∀ why, (s.perform e op).1 = .error why ↔ Refusal s e op why) ∧
      (∀ why, (s.perform e op).1 = .error why →
        (s.perform e op).2.1 = s ∧ (why ≠ .idsExhausted → (s.perform e op).2.2 = e)) ∧
      ∀ answer, (s.perform e op).1 = .ok answer → Effect s e op answer (s.perform e op).2.1 := by
  have hrefused : ∀ {why}, Refusal s e op why → IsRefused s e why (s.perform e op) :=
    isRefused_of_refusal h.coherent
  rcases exists_refusal_or_isDone h.coherent e op with ⟨why, hwhy⟩ | ⟨answer, hanswer, heffect⟩
  · obtain ⟨herror, hstore, hsupply⟩ := hrefused hwhy
    refine ⟨fun why' => ⟨fun he => ?_, fun hr => (hrefused hr).answer⟩, fun why' he => ?_, ?_⟩
    · exact Except.error.inj (herror.symm.trans he) ▸ hwhy
    · exact Except.error.inj (herror.symm.trans he) ▸ ⟨hstore, hsupply⟩
    · exact fun answer hok => nomatch herror.symm.trans hok
  · refine ⟨fun why => ⟨fun he => ?_, fun hr => (hrefused hr).answer⟩, fun why he => ?_, ?_⟩
    · exact nomatch hanswer.symm.trans he
    · exact nomatch hanswer.symm.trans he
    · exact fun answer' hok => Except.ok.inj (hanswer.symm.trans hok) ▸ heffect

/-- A radio field has one option, and the second is to be changed. -/
theorem perform_allOrNothing_index :
    let f : Field := { id := "a", name := "n", attributes := .radio { options := [⟨"Yes", "yes"⟩] } }
    let s : Store := { fields := [f] }
    let outcome := s.perform (.ofBytes #[]) (.updateOption "a" 1 (some "No") none)
    Reachable s ∧ outcome.1 = .error (.patch (.optionOutOfBounds 1 1)) ∧ outcome.2.1 = s := by
  intro f s outcome
  have h : Reachable s := (Reachable.new {}).perform (.ofBytes #[]) (.insert f)
  obtain ⟨hrefused, hunchanged, -⟩ :=
    perform_allOrNothing h (.ofBytes #[]) (.updateOption "a" 1 (some "No") none)
  have herror := (hrefused (.patch (.optionOutOfBounds 1 1))).mpr
    (.index (f := f) (List.mem_singleton.mpr rfl) rfl (Nat.le_refl 1))
  exact ⟨h, herror, (hunchanged _ herror).1⟩

end Store
end FormBuilder
