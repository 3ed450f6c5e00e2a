import FormBuilder.Proofs.Store.Refusal

/-!
Operations of several clients that do not disturb each other.  Edits of one field, moves
and selections are lanes: each reads and writes a part of the store that the other lanes
leave alone.  So every operation does in a run of all lanes what it does in the run of its
own lane, and the order between lanes does not matter: `performAll_eq_of_merges`.
-/

namespace FormBuilder

/-- What an operation is about: one field, the order of all fields, or the selection. -/
inductive Lane where
  | field (id : FieldId)
  | order
  | selection
  deriving DecidableEq

/-- The lane of an operation that neither adds nor removes a field. -/
def Operation.lane? : Operation → Option Lane
  | patch id _ | addOption id | updateOption id _ _ _ => some (.field id)
  | reorder _ _ => some .order
  | select _ => some .selection
  | create _ | add _ | insert _ | remove _ => none

namespace Store

variable {s t u : Store} {id other : FieldId} {f new : Field} {e : Entropy} {op : Operation}
  {lane : Lane} {change : Field → Except StoreError Field}

/-- Stores that look the same from a lane. -/
def SameTo : Lane → Store → Store → Prop
  | .field id, s, t => s.find? id = t.find? id
  | .order, s, t => s.ids = t.ids
  | .selection, s, t => s.selected = t.selected ∧ ∀ id, id ∈ s.ids ↔ id ∈ t.ids

theorem SameTo.refl (lane : Lane) (s : Store) : SameTo lane s s := by
  cases lane with
  | field id => exact Eq.refl (s.find? id)
  | order => exact Eq.refl s.ids
  | selection => exact ⟨rfl, fun _ => Iff.rfl⟩

theorem SameTo.symm (h : SameTo lane s t) : SameTo lane t s := by
  cases lane with
  | field id => exact Eq.symm h
  | order => exact Eq.symm h
  | selection => exact ⟨h.1.symm, fun id => (h.2 id).symm⟩

theorem SameTo.trans (h : SameTo lane s t) (h' : SameTo lane t u) : SameTo lane s u := by
  cases lane with
  | field id => exact Eq.trans h h'
  | order => exact Eq.trans h h'
  | selection => exact ⟨h.1.trans h'.1, fun id => (h.2 id).trans (h'.2 id)⟩

/-- All lanes together see the whole store. -/
theorem Coherent.eq_of_sameTo (hs : s.Coherent) (ht : t.Coherent) (hconfig : s.config = t.config)
    (h : ∀ lane, SameTo lane s t) : s = t := by
  have hids : s.ids = t.ids := h .order
  have hlength : s.fields.length = t.fields.length := by
    simpa only [ids, List.length_map] using congrArg List.length hids
  have hfields : s.fields = t.fields := by
    refine List.ext_getElem hlength fun i hi hi' => ?_
    have hid : s.fields[i].id = t.fields[i].id := by
      simpa only [ids, List.getElem_map] using
        List.getElem_of_eq hids (by simpa only [ids, List.length_map] using hi)
    have hfind := hs.find?_eq_some_iff.mpr ⟨List.getElem_mem hi, rfl⟩
    have hfind' := ht.find?_eq_some_iff.mpr ⟨List.getElem_mem hi', rfl⟩
    have hsame : s.find? s.fields[i].id = t.find? s.fields[i].id := h (.field _)
    rw [hfind, hid, hfind'] at hsame
    exact Option.some.inj hsame
  have hselected : s.selected = t.selected := (h .selection).1
  obtain ⟨config, fields, selected⟩ := s
  obtain ⟨config', fields', selected'⟩ := t
  exact (Store.mk.injEq ..).mpr ⟨hconfig, hfields, hselected⟩

/-! ## Edits -/

theorem ids_withField (s : Store) (new : Field) : (s.withField new).ids = s.ids := by
  rw [ids, withField, List.map_map]
  refine List.map_congr_left fun g _ => ?_
  by_cases hid : g.id = new.id
  · simp [hid]
  · simp [hid]

theorem Coherent.withField (hs : s.Coherent) (new : Field) : (s.withField new).Coherent :=
  hs.of_perm (.of_eq (ids_withField s new)) rfl

theorem Coherent.find?_withField_self (hs : s.Coherent) (hf : f ∈ s.fields)
    (hid : new.id = f.id) : (s.withField new).find? new.id = some new :=
  (hs.withField new).find?_eq_some_iff.mpr
    ⟨List.mem_map.mpr ⟨f, hf, if_pos hid.symm⟩, rfl⟩

theorem find?_withField_of_ne (hne : other ≠ new.id) (s : Store) :
    (s.withField new).find? other = s.find? other := by
  obtain ⟨config, fields, selected⟩ := s
  show (fields.map fun g => if g.id = new.id then new else g).find? (·.id = other) =
    fields.find? (·.id = other)
  induction fields with
  | nil => rfl
  | cons g rest ih =>
    by_cases hid : g.id = new.id
    · have hgo : g.id ≠ other := fun ho => hne (ho.symm.trans hid)
      simp [hid, Ne.symm hne, ih]
    · simp [hid, List.find?_cons, ih]

/-- The operations on one field differ in the change that they make to it. -/
theorem exists_edit (h : op.lane? = some (.field id)) :
    ∃ change : Field → Except StoreError Field,
      (∀ f new, change f = .ok new → new.id = f.id) ∧
      ∀ (s : Store) (e : Entropy),
        s.perform e op = s.settle e ((s.edit id change).map fun new => (.done, new)) := by
  cases op with
  | patch id' p =>
    obtain rfl := Lane.field.inj (Option.some.inj h)
    exact ⟨patchField p, fun _ _ => id_of_patchField, fun _ _ => rfl⟩
  | addOption id' =>
    obtain rfl := Lane.field.inj (Option.some.inj h)
    exact ⟨_, fun _ _ => id_of_editOptions, fun _ _ => rfl⟩
  | updateOption id' index label value =>
    obtain rfl := Lane.field.inj (Option.some.inj h)
    exact ⟨_, fun _ _ => id_of_editOptions, fun _ _ => rfl⟩
  | create _ | add _ | insert _ | remove _ => exact nomatch h
  | reorder _ _ | select _ => exact nomatch Option.some.inj h

theorem exists_reorder (h : op.lane? = some .order) :
    ∃ source target, op = .reorder source target := by
  cases op with
  | reorder source target => exact ⟨source, target, rfl⟩
  | create _ | add _ | insert _ | remove _ => exact nomatch h
  | patch _ _ | addOption _ | updateOption _ _ _ _ | select _ => exact nomatch Option.some.inj h

theorem exists_select (h : op.lane? = some .selection) : ∃ choice, op = .select choice := by
  cases op with
  | select choice => exact ⟨choice, rfl⟩
  | create _ | add _ | insert _ | remove _ => exact nomatch h
  | patch _ _ | addOption _ | updateOption _ _ _ _ | reorder _ _ =>
    exact nomatch Option.some.inj h

/-- Where a field stands does not matter to an edit, nor what else there is. -/
theorem edit_sameTo (hchange : ∀ f new, change f = .ok new → new.id = f.id) (hs : s.Coherent)
    (ht : t.Coherent) (h : s.find? id = t.find? id) :
    (∃ why, s.edit id change = .error why ∧ t.edit id change = .error why) ∨
      ∃ s' t', s.edit id change = .ok s' ∧ t.edit id change = .ok t' ∧
        SameTo (.field id) s' t' := by
  cases hfind : s.find? id with
  | none =>
    have hmem := find?_eq_none_iff.mp hfind
    have hmem' := find?_eq_none_iff.mp (h.symm.trans hfind)
    exact .inl ⟨_, edit_of_not_mem hmem, edit_of_not_mem hmem'⟩
  | some f =>
    obtain ⟨hf, rfl⟩ := hs.find?_eq_some_iff.mp hfind
    obtain ⟨hf', -⟩ := ht.find?_eq_some_iff.mp (h.symm.trans hfind)
    cases hresult : change f with
    | error why => exact .inl ⟨why, edit_of_error hs hf hresult, edit_of_error ht hf' hresult⟩
    | ok new =>
      have hid := hchange f new hresult
      refine .inr ⟨_, _, edit_of_ok hs hf hresult, edit_of_ok ht hf' hresult, ?_⟩
      show (s.withField new).find? f.id = (t.withField new).find? f.id
      rw [← hid, hs.find?_withField_self hf hid, ht.find?_withField_self hf' hid]

/-- An edit is seen from its own lane only. -/
theorem sameTo_edit (hchange : ∀ f new, change f = .ok new → new.id = f.id) (hs : s.Coherent)
    (h : s.edit id change = .ok t) (hne : lane ≠ .field id) : SameTo lane s t := by
  obtain ⟨f, new, hfind, hresult, -⟩ := edit_eq_ok hchange h
  obtain ⟨hf, rfl⟩ := hs.find?_eq_some_iff.mp hfind
  obtain rfl := Except.ok.inj ((edit_of_ok hs hf hresult).symm.trans h)
  cases lane with
  | field other =>
    have hother : other ≠ new.id := fun he =>
      hne (congrArg Lane.field (he.trans (hchange f new hresult)))
    exact (find?_withField_of_ne hother s).symm
  | order => exact (ids_withField s new).symm
  | selection => exact ⟨rfl, fun id => by rw [ids_withField]⟩

/-! ## Moves -/

theorem map_moveElement {α β : Type} (g : α → β) (source target : Nat) (xs : List α) :
    (moveElement source target xs).map g = moveElement source target (xs.map g) := by
  unfold moveElement
  rw [List.getElem?_map]
  cases xs[source]? with
  | none => rfl
  | some x => simp [List.map_insertIdx, List.eraseIdx_map]

/-- A move knows fields by their places only. -/
theorem reorder_sameTo (h : s.ids = t.ids) (source target : Nat) :
    (∃ why, s.reorder source target = .error why ∧ t.reorder source target = .error why) ∨
      ∃ s' t', s.reorder source target = .ok s' ∧ t.reorder source target = .ok t' ∧
        SameTo .order s' t' := by
  have hlength : s.fields.length = t.fields.length := by
    simpa only [ids, List.length_map] using congrArg List.length h
  by_cases hsource : source < s.fields.length
  · by_cases htarget : target < s.fields.length
    · refine .inr ⟨_, _, reorder_of_lt hsource htarget,
        reorder_of_lt (hlength ▸ hsource) (hlength ▸ htarget), ?_⟩
      show (moveElement source target s.fields).map Field.id =
        (moveElement source target t.fields).map Field.id
      rw [map_moveElement, map_moveElement]
      exact congrArg (moveElement source target) h
    · have hbeyond := Nat.not_lt.mp htarget
      refine .inl ⟨_, reorder_of_target_le hsource hbeyond, ?_⟩
      rw [reorder_of_target_le (hlength ▸ hsource) (hlength ▸ hbeyond), hlength]
  · have hbeyond := Nat.not_lt.mp hsource
    refine .inl ⟨_, reorder_of_source_le hbeyond, ?_⟩
    rw [reorder_of_source_le (hlength ▸ hbeyond), hlength]

theorem Coherent.find?_eq_of_perm (hs : s.Coherent) (ht : t.Coherent)
    (h : t.fields.Perm s.fields) (id : FieldId) : s.find? id = t.find? id := by
  refine Option.ext fun f => ?_
  rw [hs.find?_eq_some_iff, ht.find?_eq_some_iff, h.mem_iff]

theorem sameTo_reorder {source target : Nat} (hs : s.Coherent) (ht : t.Coherent)
    (h : s.reorder source target = .ok t) (hne : lane ≠ .order) : SameTo lane s t := by
  obtain ⟨hsource, htarget, rfl⟩ := reorder_eq_ok h
  have hperm : (moveElement source target s.fields).Perm s.fields :=
    moveElement_perm hsource htarget
  cases lane with
  | field id => exact hs.find?_eq_of_perm ht hperm id
  | order => exact absurd rfl hne
  | selection => exact ⟨rfl, fun id => ((hperm.map Field.id).mem_iff (a := id)).symm⟩

/-! ## Selections -/

theorem select_sameTo (h : ∀ id, id ∈ s.ids ↔ id ∈ t.ids) (choice : Option FieldId) :
    (∃ why, s.select choice = .error why ∧ t.select choice = .error why) ∨
      ∃ s' t', s.select choice = .ok s' ∧ t.select choice = .ok t' ∧ SameTo .selection s' t' := by
  cases choice with
  | none => exact .inr ⟨_, _, rfl, rfl, rfl, h⟩
  | some id =>
    by_cases hid : id ∈ s.ids
    · exact .inr ⟨_, _, if_pos hid, if_pos ((h id).mp hid), rfl, h⟩
    · exact .inl ⟨_, if_neg hid, if_neg (mt (h id).mpr hid)⟩

theorem sameTo_select {choice : Option FieldId} (h : s.select choice = .ok t)
    (hne : lane ≠ .selection) : SameTo lane s t := by
  obtain ⟨-, rfl⟩ := select_eq_ok h
  cases lane with
  | field id => exact Eq.refl (s.find? id)
  | order => exact Eq.refl s.ids
  | selection => exact absurd rfl hne

/-! ## One operation -/

/-- Outcomes that look the same from a lane. -/
structure Outcome.SameTo (lane : Lane) (x y : Outcome) : Prop where
  answer : x.1 = y.1
  store : Store.SameTo lane x.2.1 y.2.1

theorem sameTo_settle {x y : Except StoreError Store} {e' : Entropy} (hst : SameTo lane s t)
    (h : (∃ why, x = .error why ∧ y = .error why) ∨
      ∃ s' t', x = .ok s' ∧ y = .ok t' ∧ SameTo lane s' t') :
    Outcome.SameTo lane (s.settle e (x.map fun new => (.done, new)))
      (t.settle e' (y.map fun new => (.done, new))) := by
  rcases h with ⟨why, rfl, rfl⟩ | ⟨s', t', rfl, rfl, hsame⟩
  · exact ⟨rfl, hst⟩
  · exact ⟨rfl, hsame⟩

/-- What an operation answers and does to its lane depends on its lane only. -/
theorem perform_sameTo (hlane : op.lane? = some lane) (hs : s.Coherent) (ht : t.Coherent)
    (h : SameTo lane s t) (e e' : Entropy) :
    Outcome.SameTo lane (s.perform e op) (t.perform e' op) := by
  cases lane with
  | field id =>
    obtain ⟨change, hchange, hperform⟩ := exists_edit hlane
    rw [hperform, hperform]
    exact sameTo_settle h (edit_sameTo hchange hs ht h)
  | order =>
    obtain ⟨source, target, rfl⟩ := exists_reorder hlane
    exact sameTo_settle h (reorder_sameTo h source target)
  | selection =>
    obtain ⟨choice, rfl⟩ := exists_select hlane
    exact sameTo_settle h (select_sameTo h.2 choice)

theorem sameTo_settle_self {x : Except StoreError Store} (h : ∀ t, x = .ok t → SameTo lane s t) :
    SameTo lane s (s.settle e (x.map fun new => (.done, new))).2.1 := by
  cases x with
  | error why => exact .refl lane s
  | ok t => exact h t rfl

/-- No other lane notices an operation. -/
theorem sameTo_perform {own : Lane} (hlane : op.lane? = some own) (hne : lane ≠ own)
    (hs : s.Coherent) (e : Entropy) : SameTo lane s (s.perform e op).2.1 := by
  cases own with
  | field id =>
    obtain ⟨change, hchange, hperform⟩ := exists_edit hlane
    rw [hperform]
    exact sameTo_settle_self fun t ht => sameTo_edit hchange hs ht hne
  | order =>
    obtain ⟨source, target, rfl⟩ := exists_reorder hlane
    refine sameTo_settle_self fun t ht => ?_
    have hstep : Step s t := by
      obtain ⟨hsource, htarget, rfl⟩ := reorder_eq_ok ht
      exact .move hsource htarget
    exact sameTo_reorder hs (hstep.coherent hs) ht hne
  | selection =>
    obtain ⟨choice, rfl⟩ := exists_select hlane
    exact sameTo_settle_self fun t ht => sameTo_select ht hne

/-! ## Runs -/

theorem Step.config_eq (h : Step s t) : t.config = s.config := by
  cases h <;> rfl

theorem supply_settle (s : Store) (e : Entropy) (x : Except StoreError (Answer × Store)) :
    (s.settle e x).2.2 = e := by
  cases x <;> rfl

/-- No lane draws random bytes. -/
theorem supply_perform (hlane : op.lane? = some lane) (s : Store) (e : Entropy) :
    (s.perform e op).2.2 = e := by
  cases lane with
  | field id =>
    obtain ⟨change, -, hperform⟩ := exists_edit hlane
    rw [hperform, supply_settle]
  | order =>
    obtain ⟨source, target, rfl⟩ := exists_reorder hlane
    exact supply_settle s e _
  | selection =>
    obtain ⟨choice, rfl⟩ := exists_select hlane
    exact supply_settle s e _

theorem performAll_cons (s : Store) (e : Entropy) (op : Operation) (rest : List Operation) :
    s.performAll e (op :: rest) =
      let next := (s.perform e op).2.1.performAll (s.perform e op).2.2 rest
      ((s.perform e op).1 :: next.1, next.2) := rfl

variable {ops : List Operation}

theorem Coherent.performAll (hs : s.Coherent) (e : Entropy) (ops : List Operation) :
    (s.performAll e ops).2.1.Coherent ∧ (s.performAll e ops).2.1.config = s.config := by
  induction ops generalizing s e with
  | nil => exact ⟨hs, rfl⟩
  | cons op rest ih =>
    have hstep := step_perform s e op
    obtain ⟨hcoherent, hconfig⟩ := ih (hstep.coherent hs) (s.perform e op).2.2
    exact ⟨hcoherent, hconfig.trans hstep.config_eq⟩

/-- Every operation has a lane. -/
def InLanes (ops : List Operation) : Prop := ∀ op ∈ ops, op.lane?.isSome

/-- The operations of one lane, in their order. -/
def ofLane (lane : Lane) (ops : List Operation) : List Operation :=
  ops.filter (·.lane? = some lane)

/-- The answers to the operations of one lane, in their order. -/
def answersTo (lane : Lane) (ops : List Operation) (answers : List (Except StoreError Answer)) :
    List (Except StoreError Answer) :=
  ((ops.zip answers).filter (·.1.lane? = some lane)).map Prod.snd

theorem supply_performAll (h : InLanes ops) (s : Store) (e : Entropy) :
    (s.performAll e ops).2.2 = e := by
  induction ops generalizing s with
  | nil => rfl
  | cons op rest ih =>
    obtain ⟨hop, hrest⟩ := List.forall_mem_cons.mp h
    obtain ⟨lane, hlane⟩ := Option.isSome_iff_exists.mp hop
    show ((s.perform e op).2.1.performAll (s.perform e op).2.2 rest).2.2 = e
    rw [supply_perform hlane, ih hrest]

/-- From a lane, a run looks like the run of the lane's own operations. -/
theorem performAll_sameTo (h : InLanes ops) (hs : s.Coherent) (ht : t.Coherent)
    (hst : SameTo lane s t) (e e' : Entropy) :
    answersTo lane ops (s.performAll e ops).1 = (t.performAll e' (ofLane lane ops)).1 ∧
      SameTo lane (s.performAll e ops).2.1 (t.performAll e' (ofLane lane ops)).2.1 := by
  induction ops generalizing s t e e' with
  | nil => exact ⟨rfl, hst⟩
  | cons op rest ih =>
    obtain ⟨hop, hrest⟩ := List.forall_mem_cons.mp h
    obtain ⟨own, hlane⟩ := Option.isSome_iff_exists.mp hop
    have hs' := (step_perform s e op).coherent hs
    by_cases hown : own = lane
    · subst hown
      have hsame := perform_sameTo hlane hs ht hst e e'
      have ht' := (step_perform t e' op).coherent ht
      obtain ⟨hanswers, hstore⟩ := ih hrest hs' ht' hsame.store (s.perform e op).2.2
        (t.perform e' op).2.2
      have hof : ofLane own (op :: rest) = op :: ofLane own rest := by
        simp [ofLane, hlane]
      have hto : ∀ answer answers, answersTo own (op :: rest) (answer :: answers) =
          answer :: answersTo own rest answers := by
        simp [answersTo, hlane]
      rw [hof, performAll_cons, performAll_cons, hto, hsame.answer, hanswers]
      exact ⟨rfl, hstore⟩
    · have hskip : SameTo lane (s.perform e op).2.1 t :=
        (sameTo_perform hlane (Ne.symm hown) hs e).symm.trans hst
      obtain ⟨hanswers, hstore⟩ := ih hrest hs' ht hskip (s.perform e op).2.2 e'
      have hof : ofLane lane (op :: rest) = ofLane lane rest := by
        simp [ofLane, hlane, hown]
      have hto : ∀ answer answers, answersTo lane (op :: rest) (answer :: answers) =
          answersTo lane rest answers := by
        simp [answersTo, hlane, hown]
      rw [hof, performAll_cons, hto]
      exact ⟨hanswers, hstore⟩

/-- A run that is made of one sequence of operations for each lane. -/
structure Merges (calls : Lane → List Operation) (ops : List Operation) : Prop where
  inLanes : InLanes ops
  ofLane_eq : ∀ lane, ofLane lane ops = calls lane

/-- Edits of different fields, moves and selections do not disturb each other.  However
the sequences of several clients are merged into a run, the store at its end is the same,
and each operation is answered the same.  Each field ends as after its own edits alone,
the order is that after the moves alone, and the selection that after the selections
alone. -/
theorem performAll_eq_of_merges (h : Reachable s) (e : Entropy) {calls : Lane → List Operation}
    {ops ops' : List Operation} (hops : Merges calls ops) (hops' : Merges calls ops') :
    (s.performAll e ops).2 = (s.performAll e ops').2 ∧
      (∀ lane, answersTo lane ops (s.performAll e ops).1 =
        answersTo lane ops' (s.performAll e ops').1) ∧
      ∀ lane, answersTo lane ops (s.performAll e ops).1 = (s.performAll e (calls lane)).1 ∧
        SameTo lane (s.performAll e ops).2.1 (s.performAll e (calls lane)).2.1 := by
  have halone : ∀ {ops}, Merges calls ops → ∀ lane,
      answersTo lane ops (s.performAll e ops).1 = (s.performAll e (calls lane)).1 ∧
        SameTo lane (s.performAll e ops).2.1 (s.performAll e (calls lane)).2.1 := by
    intro ops hops lane
    rw [← hops.ofLane_eq lane]
    exact performAll_sameTo hops.inLanes h.coherent h.coherent (.refl lane s) e e
  obtain ⟨hcoherent, hconfig⟩ := h.coherent.performAll e ops
  obtain ⟨hcoherent', hconfig'⟩ := h.coherent.performAll e ops'
  have hstore : (s.performAll e ops).2.1 = (s.performAll e ops').2.1 := by
    refine hcoherent.eq_of_sameTo hcoherent' (hconfig.trans hconfig'.symm) fun lane => ?_
    exact (halone hops lane).2.trans (halone hops' lane).2.symm
  have hsupply : (s.performAll e ops).2.2 = (s.performAll e ops').2.2 := by
    rw [supply_performAll hops.inLanes, supply_performAll hops'.inLanes]
  refine ⟨Prod.ext hstore hsupply, fun lane => ?_, halone hops⟩
  exact (halone hops lane).1.trans (halone hops' lane).1.symm

/-- One client edits the options of two fields, of which one has none, while another one
moves and selects fields. -/
theorem performAll_eq_of_merges_options :
    let radio : Field := { id := "a", name := "answer", attributes := .radio {} }
    let terms : Field := { id := "b", name := "terms", attributes := .checkbox {} }
    let s : Store := { fields := [radio, terms] }
    let e : Entropy := .ofBytes #[]
    let ops : List Operation := [.addOption "a", .reorder 0 1,
      .updateOption "a" 0 (some "Yes") none, .select (some "b"), .addOption "b"]
    let ops' : List Operation := [.select (some "b"), .addOption "a", .addOption "b",
      .updateOption "a" 0 (some "Yes") none, .reorder 0 1]
    let calls : Lane → List Operation := fun lane => ofLane lane ops
    Reachable s ∧ Merges calls ops ∧ Merges calls ops' ∧
      (s.performAll e ops).2 = (s.performAll e ops').2 := by
  intro radio terms s e ops ops' calls
  have h : Reachable s := ((Reachable.new {}).perform e (.insert radio)).perform e (.insert terms)
  have hops : Merges calls ops := ⟨by unfold InLanes; decide, fun _ => rfl⟩
  have hops' : Merges calls ops' := by
    refine ⟨by unfold InLanes; decide, fun lane => ?_⟩
    cases lane with
    | field id =>
      by_cases ha : "a" = id
      · subst ha
        rfl
      · by_cases hb : "b" = id
        · subst hb
          rfl
        · simp [calls, ops, ops', ofLane, Operation.lane?, ha, hb]
    | order => rfl
    | selection => rfl
  exact ⟨h, hops, hops', (performAll_eq_of_merges h e hops hops').1⟩

end Store
end FormBuilder
