import FormBuilder.Proofs.Source.Object

/-!
What the first preview of a form submits, and what the source of the form denotes.  Both have
the same members but for two kinds of names that the language of the source treats in its own
way: an entry for `__proto__` makes no member, and array indices are listed first.  So they
agree exactly where no submitted name is `__proto__` and the indices among the names stand in
front, in ascending order: `denoted_of_submit_start`.
-/

namespace FormBuilder

open Source

namespace PreviewForm

/-! ## Submitted members -/

variable {name : String} {v : Json} {out : List (String × Json)}

theorem putMember_of_notMem (h : name ∉ out.map Prod.fst) :
    putMember name v out = out ++ [(name, v)] := by
  induction out with
  | nil => rfl
  | cons m out ih =>
    rw [List.map_cons, List.mem_cons, not_or] at h
    rw [putMember, if_neg (Ne.symm h.1), ih h.2]
    rfl

/-- A member that is there already is put where it is. -/
theorem putMember_of_mem (h : (name, v) ∈ out) (hsame : ∀ w, (name, w) ∈ out → w = v) :
    putMember name v out = out := by
  induction out with
  | nil => exact absurd h List.not_mem_nil
  | cons m out ih =>
    obtain ⟨other, w⟩ := m
    rw [putMember]
    split_ifs with hname
    · subst hname
      rw [hsame w List.mem_cons_self]
    · have hrest : (name, v) ∈ out := by
        refine (List.mem_cons.mp h).resolve_left fun heq => hname (Prod.mk.inj heq).1.symm
      rw [ih hrest fun w hw => hsame w (List.mem_cons_of_mem _ hw)]

/-- The value that fields of a name show. -/
def shown (form : PreviewForm) (name : String) : Value := (form.value name).getD .absent

/-- What one more field does to the members. -/
theorem members_concat (form : PreviewForm) (fields : List Field) (f : Field) :
    form.members (fields ++ [f]) =
      match (form.shown f.name).toJson? with
      | some v => putMember f.name v (form.members fields)
      | none => form.members fields := by
  rw [members, List.foldl_concat]
  rfl

theorem membersOf_concat (value : String → Value) (names : List String) (name : String) :
    membersOf value (names ++ [name]) =
      membersOf value names ++ ((value name).toJson?.map (name, ·)).toList := by
  rw [membersOf, List.filterMap_append, membersOf]
  cases hv : (value name).toJson? <;> simp [hv]

/-- The submitted members stand in the order of the first fields of their names. -/
theorem members_eq (form : PreviewForm) (fields : List Field) :
    form.members fields = membersOf form.shown (fields.map Field.name).eraseDups := by
  induction fields using List.reverseRecOn with
  | nil => rfl
  | append_singleton fields f ih =>
    have hmem : ∀ w, (f.name, w) ∈ membersOf form.shown (fields.map Field.name).eraseDups ↔
        f.name ∈ fields.map Field.name ∧ (form.shown f.name).toJson? = some w := by
      intro w
      rw [mem_membersOf, List.mem_eraseDups]
    rw [members_concat, ih, List.map_append, List.map_singleton, eraseDups_concat]
    cases hv : (form.shown f.name).toJson? with
    | none => split_ifs <;> simp [membersOf_concat, hv]
    | some v =>
      rw [hv] at hmem
      split_ifs with hname
      · refine putMember_of_mem ((hmem v).mpr ⟨hname, rfl⟩) fun w hw => ?_
        exact (Option.some.inj ((hmem w).mp hw).2).symm
      · rw [membersOf_concat, hv]
        refine putMember_of_notMem fun hmember => hname ?_
        rw [map_fst_membersOf] at hmember
        exact List.mem_eraseDups.mp (List.mem_of_mem_filter hmember)

theorem submitted_eq {form : PreviewForm} {fields : List Field} {submitted : List (String × Json)}
    (h : (form.submit fields).1 = .ok submitted) : submitted = form.members fields := by
  unfold submit at h
  dsimp only at h
  split_ifs at h
  exact (Except.ok.inj h).symm

end PreviewForm

namespace Source

variable (fields : List Field)

/-- The source denotes a value for each name but `__proto__`, the one that the preview shows. -/
theorem value_of_mem_names {name : String} (h : name ∈ (initialObject fields).names) :
    (initialObject fields).value name =
      ((PreviewForm.start fields).shown name).withoutZeroSign := by
  rw [names_initialObject] at h
  exact value_initialObject fields (List.mem_filter.mp h).2

theorem isSome_toJson?_withoutZeroSign (v : Value) :
    v.withoutZeroSign.toJson?.isSome = v.toJson?.isSome := by
  rw [Value.toJson?_withoutZeroSign, Option.isSome_map]

/-- The names of the submitted members but for `__proto__`, as an object lists them. -/
theorem map_fst_members_initialObject :
    (initialObject fields).members.map Prod.fst =
      listed ((((PreviewForm.start fields).members fields).map Prod.fst).filter isOrdinary) := by
  have hpresent : ∀ name ∈ (initialObject fields).names,
      ((initialObject fields).value name).toJson?.isSome =
        ((PreviewForm.start fields).shown name).toJson?.isSome := by
    intro name hname
    rw [value_of_mem_names fields hname, isSome_toJson?_withoutZeroSign]
  rw [Object.members, map_fst_membersOf, PreviewForm.members_eq, map_fst_membersOf,
    ← listed_filter, List.filter_congr hpresent, names_initialObject, List.filter_filter,
    List.filter_filter]
  simp only [Bool.and_comm]

/-- Every member that the source denotes is submitted. -/
theorem exists_submitted_of_mem_members {m : String × Json}
    (h : m ∈ (initialObject fields).members) :
    ∃ v, (m.1, v) ∈ (PreviewForm.start fields).members fields ∧ m.2 = v.withoutZeroSign := by
  obtain ⟨hlisted, hjson⟩ := mem_membersOf.mp h
  have hname := mem_listed.mp hlisted
  rw [value_of_mem_names fields hname, Value.toJson?_withoutZeroSign,
    Option.map_eq_some_iff] at hjson
  obtain ⟨v, hv, hm⟩ := hjson
  rw [names_initialObject] at hname
  refine ⟨v, ?_, hm.symm⟩
  rw [PreviewForm.members_eq]
  exact mem_membersOf.mpr ⟨List.mem_of_mem_filter hname, hv⟩

/-- The source denotes the submitted members when it denotes their names. -/
theorem members_initialObject_of_map_fst_eq
    (h : (initialObject fields).members.map Prod.fst =
      ((PreviewForm.start fields).members fields).map Prod.fst) :
    (initialObject fields).members =
      ((PreviewForm.start fields).members fields).map fun m => (m.1, m.2.withoutZeroSign) := by
  have hvalue : ∀ name ∈ (initialObject fields).members.map Prod.fst,
      (initialObject fields).value name =
        ((PreviewForm.start fields).shown name).withoutZeroSign := by
    intro name hname
    obtain ⟨m, hm, rfl⟩ := List.mem_map.mp hname
    exact value_of_mem_names fields (mem_listed.mp (mem_membersOf.mp hm).1)
  calc (initialObject fields).members
      = membersOf (initialObject fields).value ((initialObject fields).members.map Prod.fst) :=
        (membersOf_map_fst _ _).symm
    _ = membersOf (fun name => ((PreviewForm.start fields).shown name).withoutZeroSign)
          ((initialObject fields).members.map Prod.fst) := membersOf_congr hvalue
    _ = _ := by
      rw [membersOf_withoutZeroSign, h, PreviewForm.members_eq, membersOf_map_fst]

/-- Whatever an untouched form submits in its preview, the source of the form denotes an object
with these members but for `__proto__`, as an object lists them.  So it denotes the submitted
members if and only if none of them is `__proto__` and array indices stand in front, from the
least up. -/
theorem denoted_of_submit_start {submitted : List (String × Json)}
    (h : ((PreviewForm.start fields).submit fields).1 = .ok submitted) :
    ∃ denoted, denoted? (generate fields).toList = some denoted ∧
      denoted.members.map Prod.fst = listed ((submitted.map Prod.fst).filter isOrdinary) ∧
      (∀ m ∈ denoted.members, ∃ v, (m.1, v) ∈ submitted ∧ m.2 = v.withoutZeroSign) ∧
      (denoted.members = submitted.map (fun m => (m.1, m.2.withoutZeroSign)) ↔
        "__proto__" ∉ submitted.map Prod.fst ∧ Ascending (submitted.map Prod.fst)) := by
  obtain rfl := PreviewForm.submitted_eq h
  have hnames := map_fst_members_initialObject fields
  refine ⟨initialObject fields, denoted?_generate fields, hnames,
    fun m hm => exists_submitted_of_mem_members fields hm, fun hsame => ?_, fun hordinary => ?_⟩
  · rw [← listed_ordinary_eq_self_iff, ← hnames, hsame, List.map_map]
    rfl
  · refine members_initialObject_of_map_fst_eq fields ?_
    rw [hnames, listed_ordinary_eq_self_iff.mpr hordinary]

/-- Of two fields with one name the second one wins, and an empty number is no member. -/
theorem denoted_of_submit_start_twice :
    let ulm : Field := { id := "u", name := "city", attributes := .text { initial := some "Ulm" } }
    let age : Field := { id := "a", name := "age", attributes := .number {} }
    let bonn : Field :=
      { id := "b", name := "city", attributes := .text { initial := some "Bonn" } }
    let fields := [ulm, age, bonn]
    ((PreviewForm.start fields).submit fields).1 = .ok [("city", .string "Bonn")] ∧
      ∃ denoted, denoted? (generate fields).toList = some denoted ∧
        denoted.members = [("city", .string "Bonn")] := by
  intro ulm age bonn fields
  have h : ((PreviewForm.start fields).submit fields).1 = .ok [("city", .string "Bonn")] := rfl
  obtain ⟨denoted, hdenoted, -, -, hsame⟩ := denoted_of_submit_start fields h
  exact ⟨h, denoted, hdenoted, hsame.mpr ⟨by decide, List.pairwise_singleton _ _⟩⟩

/-- A field named `__proto__` is submitted but not denoted, and an index behind another name
is denoted in front of it. -/
theorem denoted_ne_submitted :
    let hidden : Field :=
      { id := "h", name := "__proto__", attributes := .text { initial := some "x" } }
    let other : Field := { id := "o", name := "b", attributes := .text { initial := some "x" } }
    let index : Field := { id := "i", name := "1", attributes := .text { initial := some "y" } }
    (((PreviewForm.start [hidden]).submit [hidden]).1 = .ok [("__proto__", .string "x")] ∧
      (denoted? (generate [hidden]).toList).map Object.members = some []) ∧
    ((PreviewForm.start [other, index]).submit [other, index]).1 =
        .ok [("b", .string "x"), ("1", .string "y")] ∧
      (denoted? (generate [other, index]).toList).map Object.members =
        some [("1", .string "y"), ("b", .string "x")] := by
  intro hidden other index
  have hnone : listed [] = [] := (listed_eq_self_iff []).mpr List.Pairwise.nil
  have hfront : listed ["b", "1"] = ["1", "b"] := by
    have hindices : ["b", "1"].filter isIndex = ["1"] := by decide +kernel
    have hothers : ["b", "1"].filter (!isIndex ·) = ["b"] := by decide +kernel
    rw [listed, indices, hindices, hothers, List.mergeSort_singleton]
    rfl
  refine ⟨⟨rfl, ?_⟩, rfl, ?_⟩
  · have hmembers : (initialObject [hidden]).members =
        membersOf (initialObject [hidden]).value (listed []) := rfl
    rw [denoted?_generate, Option.map_some, hmembers, hnone]
    rfl
  · have hmembers : (initialObject [other, index]).members =
        membersOf (initialObject [other, index]).value (listed ["b", "1"]) := rfl
    rw [denoted?_generate, Option.map_some, hmembers, hfront]
    rfl

end Source
end FormBuilder
