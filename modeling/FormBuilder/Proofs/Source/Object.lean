import FormBuilder.Proofs.Source.Evaluation
import FormBuilder.Proofs.Source.Initializers
import Mathlib.Data.List.Sort

/-!
The object that the initial values in a source denote, by the rules of the language that the
source is written in.  A later entry for a name replaces the value and keeps the place of the
first, an entry for `__proto__` makes no member, and array indices are listed in front.  The
source of every form denotes an object, `denoted?_generate`, with the names of the fields and
the values that the first preview shows.
-/

namespace FormBuilder
namespace Source

/-! ## Names -/

/-- The number that the digits of a name spell. -/
def indexOf (name : String) : Nat := Nat.ofDigitChars 10 name.toList 0

/-- Is a name an array index: a number below `2 ^ 32 - 1`, with its digits as usual? -/
def isIndex (name : String) : Bool :=
  decide (Nat.toDigits 10 (indexOf name) = name.toList) && decide (indexOf name < 2 ^ 32 - 1)

/-- The array indices among names, from the least up. -/
def indices (names : List String) : List String :=
  (names.filter isIndex).mergeSort fun a b => indexOf a ≤ indexOf b

/-- Names in the order in which an object lists them: array indices first, then the others
in the order of their creation. -/
def listed (names : List String) : List String := indices names ++ names.filter (!isIndex ·)

/-- An array index stands behind lesser ones only. -/
def Ascending (names : List String) : Prop :=
  names.Pairwise fun a b => isIndex b = true → isIndex a = true ∧ indexOf a ≤ indexOf b

theorem eq_of_indexOf_eq {a b : String} (ha : isIndex a = true) (hb : isIndex b = true)
    (h : indexOf a = indexOf b) : a = b := by
  have hdigits : ∀ {name}, isIndex name = true → Nat.toDigits 10 (indexOf name) = name.toList :=
    fun hname => of_decide_eq_true (Bool.and_eq_true_iff.mp hname).1
  rw [← String.toList_inj, ← hdigits ha, ← hdigits hb, h]

theorem indices_perm (names : List String) : (indices names).Perm (names.filter isIndex) :=
  List.mergeSort_perm _ _

theorem mem_indices {names : List String} {name : String} :
    name ∈ indices names ↔ name ∈ names ∧ isIndex name = true := by
  rw [(indices_perm names).mem_iff, List.mem_filter]

theorem pairwise_indices (names : List String) :
    (indices names).Pairwise fun a b => indexOf a ≤ indexOf b := by
  have htrans : ∀ a b c : String, decide (indexOf a ≤ indexOf b) = true →
      decide (indexOf b ≤ indexOf c) = true → decide (indexOf a ≤ indexOf c) = true := by
    intro a b c
    simp only [decide_eq_true_eq]
    omega
  have htotal : ∀ a b : String,
      (decide (indexOf a ≤ indexOf b) || decide (indexOf b ≤ indexOf a)) = true := by
    intro a b
    simp only [Bool.or_eq_true, decide_eq_true_eq]
    omega
  exact (List.pairwise_mergeSort htrans htotal (names.filter isIndex)).imp of_decide_eq_true

theorem indices_filter (p : String → Bool) (names : List String) :
    indices (names.filter p) = (indices names).filter p := by
  have hperm : (indices (names.filter p)).Perm ((indices names).filter p) := by
    refine (indices_perm _).trans (.trans ?_ ((indices_perm names).filter p).symm)
    rw [List.filter_filter, List.filter_filter]
    simp only [Bool.and_comm]
    rfl
  refine hperm.eq_of_pairwise ?_ (pairwise_indices _) ((pairwise_indices names).filter p)
  intro a b ha hb hab hba
  have ha := (mem_indices.mp ha).2
  have hb := (mem_indices.mp (List.mem_of_mem_filter hb)).2
  exact eq_of_indexOf_eq ha hb (Nat.le_antisymm hab hba)

theorem listed_filter (p : String → Bool) (names : List String) :
    listed (names.filter p) = (listed names).filter p := by
  rw [listed, listed, indices_filter, List.filter_append, List.filter_filter, List.filter_filter]
  simp only [Bool.and_comm]

theorem mem_listed {names : List String} {name : String} : name ∈ listed names ↔ name ∈ names := by
  rw [listed, List.mem_append, mem_indices, List.mem_filter, Bool.not_eq_true']
  cases isIndex name <;> simp

theorem ascending_listed (names : List String) : Ascending (listed names) := by
  have hother : ∀ b ∈ names.filter (!isIndex ·), ¬ isIndex b = true := by simp
  refine List.pairwise_append.mpr ⟨?_, ?_, fun a _ b hb hindex => absurd hindex (hother b hb)⟩
  · refine (pairwise_indices names).imp_of_mem fun ha _ hab _ => ?_
    exact ⟨(mem_indices.mp ha).2, hab⟩
  · refine (List.pairwise_of_forall fun _ _ => trivial).imp_of_mem fun _ hb _ hindex => ?_
    exact absurd hindex (hother _ hb)

theorem filter_append_filter_of_ascending {names : List String} (h : Ascending names) :
    names.filter isIndex ++ names.filter (!isIndex ·) = names := by
  induction names with
  | nil => rfl
  | cons a names ih =>
    obtain ⟨ha, hrest⟩ := List.pairwise_cons.mp h
    cases hindex : isIndex a with
    | true => simp [hindex, ih hrest]
    | false =>
      have hnone : ∀ b ∈ names, ¬ isIndex b = true := by
        intro b hb hbindex
        exact Bool.false_ne_true (hindex.symm.trans (ha b hb hbindex).1)
      have hfilter : names.filter isIndex = [] := List.filter_eq_nil_iff.mpr hnone
      have hothers : names.filter (!isIndex ·) = names :=
        List.filter_eq_self.mpr (by simpa using hnone)
      simp [hindex, hfilter, hothers]

/-- Names stay in their order if and only if their indices ascend in front of the others. -/
theorem listed_eq_self_iff (names : List String) : listed names = names ↔ Ascending names := by
  refine ⟨fun h => h ▸ ascending_listed names, fun h => ?_⟩
  have hsorted : (names.filter isIndex).Pairwise
      fun a b => decide (indexOf a ≤ indexOf b) = true := by
    refine (List.Pairwise.filter isIndex h).imp_of_mem fun _ hb hab => ?_
    exact decide_eq_true (hab (List.mem_filter.mp hb).2).2
  rw [listed, indices, List.mergeSort_of_pairwise hsorted, filter_append_filter_of_ascending h]

/-- Does an entry with this name make a member?  One for `__proto__` does not. -/
def isOrdinary (name : String) : Bool := name ≠ "__proto__"

theorem isOrdinary_iff {name : String} : isOrdinary name = true ↔ name ≠ "__proto__" :=
  decide_eq_true_iff

theorem listed_ordinary_eq_self_iff {names : List String} :
    listed (names.filter isOrdinary) = names ↔ "__proto__" ∉ names ∧ Ascending names := by
  have hordinary : "__proto__" ∉ names ↔ names.filter isOrdinary = names := by
    rw [List.filter_eq_self]
    constructor
    · intro h name hname
      exact isOrdinary_iff.mpr fun heq => h (heq ▸ hname)
    · intro h hmem
      exact isOrdinary_iff.mp (h _ hmem) rfl
  rw [hordinary]
  constructor
  · intro h
    have hfilter : names.filter isOrdinary = names := by
      refine List.filter_eq_self.mpr fun name hname => ?_
      rw [← h, mem_listed] at hname
      exact (List.mem_filter.mp hname).2
    rw [hfilter] at h
    exact ⟨hfilter, (listed_eq_self_iff names).mp h⟩
  · rintro ⟨hfilter, hascending⟩
    rw [hfilter, listed_eq_self_iff]
    exact hascending

/-! ## Members -/

/-- The members of names that have values, without those that are absent. -/
def membersOf (value : String → Value) (names : List String) : List (String × Json) :=
  names.filterMap fun name => (value name).toJson?.map (name, ·)

variable {value : String → Value} {names : List String}

theorem mem_membersOf {m : String × Json} :
    m ∈ membersOf value names ↔ m.1 ∈ names ∧ (value m.1).toJson? = some m.2 := by
  simp only [membersOf, List.mem_filterMap, Option.map_eq_some_iff]
  constructor
  · rintro ⟨name, hname, v, hv, rfl⟩
    exact ⟨hname, hv⟩
  · rintro ⟨hname, hv⟩
    exact ⟨m.1, hname, m.2, hv, rfl⟩

theorem map_fst_membersOf (value : String → Value) (names : List String) :
    (membersOf value names).map Prod.fst =
      names.filter fun name => (value name).toJson?.isSome := by
  induction names with
  | nil => rfl
  | cons name names ih => cases hv : (value name).toJson? <;> simpa [membersOf, hv] using ih

/-- Members need no names but their own. -/
theorem membersOf_map_fst (value : String → Value) (names : List String) :
    membersOf value ((membersOf value names).map Prod.fst) = membersOf value names := by
  rw [map_fst_membersOf, membersOf, List.filterMap_filter, membersOf]
  congr 1
  funext name
  cases (value name).toJson? <;> rfl

theorem membersOf_congr {value' : String → Value} (h : ∀ name ∈ names, value name = value' name) :
    membersOf value names = membersOf value' names :=
  List.filterMap_congr fun name hname => by rw [h name hname]

theorem membersOf_withoutZeroSign (value : String → Value) (names : List String) :
    membersOf (fun name => (value name).withoutZeroSign) names =
      (membersOf value names).map fun m => (m.1, m.2.withoutZeroSign) := by
  simp only [membersOf, List.map_filterMap, Value.toJson?_withoutZeroSign, Option.map_map]
  rfl

/-! ## Objects -/

/-- An object: its names in the order of their creation, and what each of them holds. -/
structure Object where
  names : List String := []
  value : String → Value := fun _ => .absent

namespace Object

def set (o : Object) (name : String) (v : Value) : Object where
  names := if name ∈ o.names then o.names else o.names ++ [name]
  value := PreviewForm.setAt name v o.value

/-- The object that entries make. -/
def ofEntries (entries : List (String × Value)) : Object :=
  entries.foldl (fun o e => if isOrdinary e.1 then o.set e.1 e.2 else o) {}

/-- The members of an object as it lists them. -/
def members (o : Object) : List (String × Json) := membersOf o.value (listed o.names)

end Object

/-- The object that the initial values in a source denote. -/
def denoted? (source : List Char) : Option Object := do
  let entries ← readInitializers? source
  let values ← entries.mapM fun e => (evaluate? e.2).map (e.1, ·)
  return .ofEntries values

/-- The object of all initial values. -/
def initialObject (fields : List Field) : Object :=
  .ofEntries (fields.map fun f => (f.name, f.initialValue.withoutZeroSign))

/-- The source of every form denotes the object of its initial values. -/
theorem denoted?_generate (fields : List Field) :
    denoted? (generate fields).toList = some (initialObject fields) := by
  have hvalues : (fields.map initializer).mapM (fun e => (evaluate? e.2).map (e.1, ·)) =
      some (fields.map fun f => (f.name, f.initialValue.withoutZeroSign)) := by
    induction fields with
    | nil => rfl
    | cons f fields ih =>
      rw [List.map_cons, List.mapM_cons, ih, initializer, evaluate?_value]
      rfl
  rw [denoted?, generate, String.toList_ofList, readInitializers?_form, Option.bind_eq_bind,
    Option.bind_some, hvalues]
  rfl

theorem eraseDups_concat (names : List String) (name : String) :
    (names ++ [name]).eraseDups =
      if name ∈ names then names.eraseDups else names.eraseDups ++ [name] := by
  rw [List.eraseDups_append]
  split_ifs with h <;> simp [List.removeAll, h, List.eraseDups_cons]

theorem initialObject_concat (fields : List Field) (f : Field) :
    initialObject (fields ++ [f]) =
      if isOrdinary f.name then (initialObject fields).set f.name f.initialValue.withoutZeroSign
      else initialObject fields := by
  rw [initialObject, List.map_append, Object.ofEntries, List.map_singleton, List.foldl_concat]
  rfl

theorem names_initialObject (fields : List Field) :
    (initialObject fields).names = (fields.map Field.name).eraseDups.filter isOrdinary := by
  -- from the last field on, since that is where entries are set
  induction fields using List.reverseRecOn with
  | nil => rfl
  | append_singleton fields f ih =>
    rw [initialObject_concat, List.map_append, List.map_singleton, eraseDups_concat]
    by_cases hordinary : isOrdinary f.name = true
    · have hmem : f.name ∈ (initialObject fields).names ↔ f.name ∈ fields.map Field.name := by
        rw [ih, List.mem_filter, List.mem_eraseDups, and_iff_left hordinary]
      rw [if_pos hordinary]
      show (if f.name ∈ (initialObject fields).names then _ else _) = _
      by_cases hname : f.name ∈ fields.map Field.name
      · rw [if_pos (hmem.mpr hname), if_pos hname, ih]
      · rw [if_neg (mt hmem.mp hname), if_neg hname, ih, List.filter_append,
          List.filter_cons_of_pos hordinary]
        rfl
    · rw [if_neg hordinary, ih]
      split_ifs <;> simp [hordinary]

theorem value_initialObject (fields : List Field) {name : String} (h : isOrdinary name = true) :
    (initialObject fields).value name =
      (((PreviewForm.start fields).value name).getD .absent).withoutZeroSign := by
  induction fields using List.reverseRecOn with
  | nil => rfl
  | append_singleton fields f ih =>
    rw [initialObject_concat, start_concat]
    by_cases hname : name = f.name
    · rw [if_pos (hname ▸ h), PreviewForm.setAt, if_pos hname]
      exact if_pos hname
    · rw [PreviewForm.setAt, if_neg hname, ← ih]
      split_ifs
      · exact if_neg hname
      · rfl

end Source
end FormBuilder
