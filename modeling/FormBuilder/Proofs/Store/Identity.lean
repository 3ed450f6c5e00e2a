import FormBuilder.Proofs.Store.Frame

/-!
What never changes about a field.  As long as its id is in the store, whatever is done to
it and around it, a field keeps its kind and which attributes it has, and a name once given
is not lost: `continues_of_run`.  Every operation explains the fields that it leaves, each
of which either was there before or is new: `exists_origin`.
-/

namespace FormBuilder

/-- The same attributes, whatever they are set to. -/
inductive Attributes.SameLayout : Attributes → Attributes → Prop where
  | text {t t' : TextInput} : SameLayout (.text t) (.text t')
  | number {n n' : NumberInput} : SameLayout (.number n) (.number n')
  | textarea {t t' : TextArea} : SameLayout (.textarea t) (.textarea t')
  | select {c c' : ChoiceList} : SameLayout (.select c) (.select c')
  | radio {c c' : ChoiceList} : SameLayout (.radio c) (.radio c')
  | checkbox {t t' : Toggle} : SameLayout (.checkbox t) (.checkbox t')
  | switch {t t' : Toggle} : SameLayout (.switch t) (.switch t')
  | date {d d' : DateInput} : SameLayout (.date d) (.date d')

namespace Attributes.SameLayout

variable {a b c : Attributes}

theorem refl (a : Attributes) : SameLayout a a := by cases a <;> constructor

theorem trans (h : SameLayout a b) (h' : SameLayout b c) : SameLayout a c := by
  cases h <;> cases h' <;> constructor

theorem kind_eq (h : SameLayout a b) : b.kind = a.kind := by cases h <;> rfl

theorem of_applyTo? {p : AttributesPatch} (h : p.applyTo? a = some b) : SameLayout a b := by
  unfold AttributesPatch.applyTo? at h
  split at h <;> cases h <;> constructor

theorem withOptions (options : List Choice) (a : Attributes) :
    SameLayout a (a.withOptions options) := by
  cases a <;> constructor

end Attributes.SameLayout

/-- A later state of a field. -/
structure Field.Continues (f g : Field) : Prop where
  id : g.id = f.id
  layout : f.attributes.SameLayout g.attributes
  name : f.name ≠ "" → g.name ≠ ""

namespace Field

variable {f g : Field}

theorem Continues.refl (f : Field) : f.Continues f := ⟨rfl, .refl f.attributes, fun h => h⟩

theorem Continues.trans {g' : Field} (h : f.Continues g) (h' : g.Continues g') : f.Continues g' :=
  ⟨h'.id.trans h.id, h.layout.trans h'.layout, fun hname => h'.name (h.name hname)⟩

theorem Continues.kind_eq (h : f.Continues g) : g.kind = f.kind := h.layout.kind_eq

/-- An empty name in a patch leaves the name as it is. -/
theorem newName_ne_empty (p : FieldPatch) (old : String) (h : old ≠ "") : p.newName old ≠ "" := by
  unfold FieldPatch.newName
  split
  · split_ifs with hname
    · exact h
    · exact hname
  · exact h

theorem continues_of_patch {p : FieldPatch} (h : f.patch p = .ok g) : f.Continues g := by
  have hname := newName_ne_empty p f.name
  unfold patch at h
  split at h
  · obtain rfl := Except.ok.inj h
    exact ⟨rfl, .refl f.attributes, hname⟩
  · split at h
    · next happly =>
      obtain rfl := Except.ok.inj h
      exact ⟨rfl, .of_applyTo? happly, hname⟩
    · exact nomatch h

theorem continues_withOptions (f : Field) (options : List Choice) :
    f.Continues { f with attributes := f.attributes.withOptions options } :=
  ⟨rfl, .withOptions options f.attributes, fun h => h⟩

theorem name_new_ne_empty (id : FieldId) (kind : Kind) (suffixLength : Nat) :
    (Field.new id kind suffixLength).name ≠ "" := by
  intro h
  have hprefix : kind.name ++ "_" = "" := (String.append_eq_empty_iff.mp h).1
  have hkind : kind.name = "" := (String.append_eq_empty_iff.mp hprefix).1
  cases kind <;> exact absurd hkind (by decide)

end Field

namespace Store

variable {s t : Store} {id : FieldId} {f g new : Field} {e : Entropy} {op : Operation}
  {answer : Answer} {ops : List Operation}

/-! ## One operation -/

/-- Where a field that an operation leaves comes from. -/
inductive Origin (s : Store) (op : Operation) (g : Field) : Prop where
  | field {f : Field} (hf : f ∈ s.fields) (h : f.Continues g)
  | added {kind : Kind} (hid : g.id ∉ s.ids) (hop : op = .add kind) (hname : g.name ≠ "")
  | inserted (hid : g.id ∉ s.ids) (hop : op = .insert g)

theorem origin_of_mem_withField (hf : f ∈ s.fields) (hnew : f.Continues new)
    (hg : g ∈ (s.withField new).fields) : Origin s op g := by
  obtain ⟨old, hold, rfl⟩ := List.mem_map.mp hg
  split_ifs
  · exact .field hf hnew
  · exact .field hold (.refl old)

theorem origin_of_mem_append (hnew : Origin s op new) (hg : g ∈ s.fields ++ [new]) :
    Origin s op g := by
  rcases List.mem_append.mp hg with hg | hg
  · exact .field hg (.refl g)
  · exact List.mem_singleton.mp hg ▸ hnew

theorem origin_of_effect (h : Effect s e op answer t) (hg : g ∈ t.fields) : Origin s op g := by
  cases h with
  | create _ => exact .field hg (.refl g)
  | @add kind id _ hid hf =>
    subst hf
    exact origin_of_mem_append (.added hid.2.1 rfl (Field.name_new_ne_empty id kind _)) hg
  | insert hid => exact origin_of_mem_append (.inserted hid rfl) hg
  | remove _ => exact .field (List.mem_filter.mp hg).1 (.refl g)
  | patch hf hpatch => exact origin_of_mem_withField hf (Field.continues_of_patch hpatch) hg
  | reorder hsource htarget =>
    exact .field ((moveElement_perm hsource htarget).mem_iff.mp hg) (.refl g)
  | select _ => exact .field hg (.refl g)
  | addOption hf _ | updateOption hf _ _ =>
    exact origin_of_mem_withField hf (Field.continues_withOptions _ _) hg

theorem exists_origin (hs : s.Coherent) (e : Entropy) (op : Operation)
    (hg : g ∈ (s.perform e op).2.1.fields) : Origin s op g := by
  rcases exists_refusal_or_isDone hs e op with ⟨why, hwhy⟩ | ⟨answer, -, heffect⟩
  · rw [(isRefused_of_refusal hs hwhy).store] at hg
    exact .field hg (.refl g)
  · exact origin_of_effect heffect hg

/-- A field whose id stays in the store continues. -/
theorem exists_continues (hs : s.Coherent) (e : Entropy) (op : Operation) (hf : f ∈ s.fields)
    (hid : f.id ∈ (s.perform e op).2.1.ids) :
    ∃ g ∈ (s.perform e op).2.1.fields, f.Continues g := by
  obtain ⟨g, hg, hgf⟩ := List.mem_map.mp hid
  have hmem : g.id ∈ s.ids := hgf ▸ List.mem_map_of_mem hf
  cases exists_origin hs e op hg with
  | @field old hold hcontinues =>
    have hsame : old = f := List.inj_on_of_nodup_map hs.nodup hold hf (hcontinues.id ▸ hgf)
    exact ⟨g, hg, hsame ▸ hcontinues⟩
  | added hnew _ _ => exact absurd hmem hnew
  | inserted hnew _ => exact absurd hmem hnew

/-- An id that is in the store leaves it when its field is removed, and only then. -/
theorem mem_ids_perform_iff (hs : s.Coherent) (hid : id ∈ s.ids) (e : Entropy) (op : Operation) :
    id ∈ (s.perform e op).2.1.ids ↔ op ≠ .remove id := by
  rw [mem_ids_perform hs, and_iff_right hid]
  constructor
  · rintro h rfl
    obtain ⟨f, hf, rfl⟩ := List.mem_map.mp hid
    obtain ⟨answer, hanswer, -⟩ := isDone_remove (e := e) hs hf
    rw [hanswer] at h
    exact h.elim (fun hadds => hadds) fun hkept => hkept rfl
  · exact fun hop => .inr fun hremoves => hop hremoves.op_eq

/-! ## Runs -/

/-- An id is in the store before, between and after the operations of a run. -/
def Stays (s : Store) (e : Entropy) (ops : List Operation) (id : FieldId) : Prop :=
  ∀ front back, ops = front ++ back → id ∈ (s.performAll e front).2.1.ids

theorem stays_nil : Stays s e [] id ↔ id ∈ s.ids := by
  refine ⟨fun h => h [] [] rfl, fun hid front back hops => ?_⟩
  obtain ⟨rfl, -⟩ := List.append_eq_nil_iff.mp hops.symm
  exact hid

theorem stays_cons :
    Stays s e (op :: ops) id ↔
      id ∈ s.ids ∧ Stays (s.perform e op).2.1 (s.perform e op).2.2 ops id := by
  constructor
  · intro h
    refine ⟨h [] (op :: ops) rfl, fun front back hops => ?_⟩
    exact h (op :: front) back (congrArg (op :: ·) hops)
  · rintro ⟨hfirst, hrest⟩ front back hops
    cases front with
    | nil => exact hfirst
    | cons other front =>
      obtain ⟨rfl, hback⟩ := List.cons.inj hops
      exact hrest front back hback

/-- An id stays exactly if no operation of the run removes its field. -/
theorem stays_iff (hs : s.Coherent) (hid : id ∈ s.ids) :
    Stays s e ops id ↔ .remove id ∉ ops := by
  induction ops generalizing s e with
  | nil => exact iff_of_true (stays_nil.mpr hid) List.not_mem_nil
  | cons op ops ih =>
    have hs' := (step_perform s e op).coherent hs
    rw [stays_cons, List.mem_cons, not_or, ← ne_eq, ne_comm, ← mem_ids_perform_iff hs hid e op]
    constructor
    · rintro ⟨-, hstays⟩
      have hid' := hstays [] ops rfl
      exact ⟨hid', (ih hs' hid').mp hstays⟩
    · rintro ⟨hid', hops⟩
      exact ⟨hid, (ih hs' hid').mpr hops⟩

theorem exists_continues_of_stays (hs : s.Coherent) (hf : f ∈ s.fields)
    (h : Stays s e ops f.id) : ∃ g ∈ (s.performAll e ops).2.1.fields, f.Continues g := by
  induction ops generalizing s e f with
  | nil => exact ⟨f, hf, .refl f⟩
  | cons op ops ih =>
    obtain ⟨-, hrest⟩ := stays_cons.mp h
    obtain ⟨g, hg, hfg⟩ := exists_continues hs e op hf (hrest [] ops rfl)
    obtain ⟨g', hg', hgg'⟩ := ih ((step_perform s e op).coherent hs) hg (hfg.id.symm ▸ hrest)
    exact ⟨g', hg', hfg.trans hgg'⟩

/-- Without insertions no name is empty that was not empty before. -/
theorem names_ne_empty (hs : s.Coherent) (hnames : ∀ f ∈ s.fields, f.name ≠ "")
    (hops : ∀ f, .insert f ∉ ops) : ∀ f ∈ (s.performAll e ops).2.1.fields, f.name ≠ "" := by
  induction ops generalizing s e with
  | nil => exact hnames
  | cons op ops ih =>
    refine ih ((step_perform s e op).coherent hs) (fun g hg => ?_)
      fun f hf => hops f (List.mem_cons_of_mem op hf)
    cases exists_origin hs e op hg with
    | field hf hcontinues => exact hcontinues.name (hnames _ hf)
    | added _ _ hname => exact hname
    | inserted _ hop => exact absurd (hop ▸ List.mem_cons_self) (hops g)

/-- Whatever a run of operations does to a field and around it: as long as the id stays in
the store, that is unless the field is removed, the field of this id has the same kind and
the same attributes at the end as at the start, and a name if it had one.  Where all fields
have names and none is inserted, as in a run that starts with an empty store, all fields
have names at the end. -/
theorem continues_of_run (h : Reachable s) (e : Entropy) (ops : List Operation) :
    (∀ f ∈ s.fields, (Stays s e ops f.id ↔ .remove f.id ∉ ops) ∧
      (Stays s e ops f.id → ∃ g, (s.performAll e ops).2.1.find? f.id = some g ∧
        g.kind = f.kind ∧ f.attributes.SameLayout g.attributes ∧
        (f.name ≠ "" → g.name ≠ ""))) ∧
      ((∀ f ∈ s.fields, f.name ≠ "") → (∀ f, .insert f ∉ ops) →
        ∀ f ∈ (s.performAll e ops).2.1.fields, f.name ≠ "") := by
  refine ⟨fun f hf => ⟨stays_iff h.coherent (List.mem_map_of_mem hf), fun hstays => ?_⟩,
    names_ne_empty h.coherent⟩
  obtain ⟨g, hg, hfg⟩ := exists_continues_of_stays h.coherent hf hstays
  have hend := (h.coherent.performAll e ops).1
  exact ⟨g, hend.find?_eq_some_iff.mpr ⟨hg, hfg.id⟩, hfg.kind_eq, hfg.layout, hfg.name⟩

/-- A field loses its options, is given an empty name and attributes of another kind, and
stands behind a new field in the end. -/
theorem continues_of_run_emptied :
    let f : Field :=
      { id := "a", name := "n", attributes := .radio { options := [⟨"Yes", "yes"⟩] } }
    let other : Field := { id := "b", name := "m", attributes := .checkbox {} }
    let s : Store := { fields := [f, other] }
    let e : Entropy := .ofBytes #[]
    let ops : List Operation := [
      .patch "a" { name := some "", attributes := some (.radio { options := some [] }) },
      .patch "a" { attributes := some (.select {}) }, .remove "b", .add .text, .reorder 0 1]
    Reachable s ∧ Stays s e ops "a" ∧
      (∃ g, (s.performAll e ops).2.1.find? "a" = some g ∧ g.kind = .radio ∧ g.name ≠ "") ∧
      ∀ f ∈ (s.performAll e ops).2.1.fields, f.name ≠ "" := by
  intro f other s e ops
  have h : Reachable s := ((Reachable.new {}).perform e (.insert f)).perform e (.insert other)
  obtain ⟨hfield, hnames⟩ := continues_of_run h e ops
  obtain ⟨hstays, hcontinues⟩ := hfield f List.mem_cons_self
  have hstay : Stays s e ops "a" := hstays.mpr (by simp [ops, f])
  obtain ⟨g, hg, hkind, -, hname⟩ := hcontinues hstay
  refine ⟨h, hstay, ⟨g, hg, hkind, hname (by decide)⟩, hnames (by decide) fun f hf => ?_⟩
  simp [ops] at hf

end Store
end FormBuilder
