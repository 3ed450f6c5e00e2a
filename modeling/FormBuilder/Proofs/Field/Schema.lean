import FormBuilder.Field.Document
import FormBuilder.Proofs.Json.Brackets
import Mathlib.Data.List.Forall2
import Mathlib.Tactic.SplitIfs

/-!
Which objects are fields.  `Field.IsOf` says what the members of an object have to be,
whatever their order, and which field they make; the reader takes exactly these objects:
`Field.ofMembers_eq_ok_iff`.
-/

namespace FormBuilder

/-! ## Members -/

/-- The values of the members so named. -/
def valuesOf (name : String) (members : List (String × Json)) : List Json :=
  (members.filter (·.1 = name)).map Prod.snd

section Values

variable {name : String} {m : String × Json} {members : List (String × Json)}

@[simp]
theorem valuesOf_nil (name : String) : valuesOf name [] = [] := rfl

theorem valuesOf_cons (name other : String) (v : Json) (members : List (String × Json)) :
    valuesOf name ((other, v) :: members) =
      if other = name then v :: valuesOf name members else valuesOf name members := by
  by_cases h : other = name <;> simp [valuesOf, h]

theorem valuesOf_cons_self (name : String) (v : Json) (members : List (String × Json)) :
    valuesOf name ((name, v) :: members) = v :: valuesOf name members := by
  rw [valuesOf_cons, if_pos rfl]

theorem valuesOf_cons_of_ne {other : String} (h : other ≠ name) (v : Json)
    (members : List (String × Json)) :
    valuesOf name ((other, v) :: members) = valuesOf name members := by
  rw [valuesOf_cons, if_neg h]

@[simp]
theorem valuesOf_singleton (name other : String) (v : Json) :
    valuesOf name [(other, v)] = if other = name then [v] else [] :=
  valuesOf_cons name other v []

theorem valuesOf_eq_nil_iff : valuesOf name members = [] ↔ ∀ m ∈ members, m.1 ≠ name := by
  simp [valuesOf, List.filter_eq_nil_iff]

/-- Other members do not matter. -/
theorem valuesOf_filter {p : String × Json → Bool} (h : ∀ m : String × Json, m.1 = name → p m) :
    valuesOf name (members.filter p) = valuesOf name members := by
  have hboth : ∀ m ∈ members, (decide (m.1 = name) && p m) = decide (m.1 = name) := by
    intro m _
    by_cases hm : m.1 = name
    · simp [hm, h m hm]
    · simp [hm]
  rw [valuesOf, valuesOf, List.filter_filter, List.filter_congr hboth]

theorem valuesOf_perm {members' : List (String × Json)} (h : members.Perm members') :
    (valuesOf name members).Perm (valuesOf name members') :=
  (h.filter _).map _

end Values

/-! ## What values have to be -/

def IsText (v : Json) (s : String) : Prop := v = .string s

def IsFlag (v : Json) (b : Bool) : Prop := v = .bool b

/-- A double, or an integer, which stands for the double next to it. -/
def IsDouble (v : Json) (x : Binary64) : Prop :=
  v = .float x ∨ ∃ n : Int, v = .int n ∧ x = (Decimal.mk n.natAbs 0).toBinary64 (decide (n < 0))

/-- An integer of 32 bits without a sign. -/
def IsWord32 (v : Json) (w : UInt32) : Prop := v = .int w.toNat

/-- An object with a label and a value and anything else, or an array of a label and a
value. -/
inductive IsChoice : Json → Choice → Prop where
  | object {members c} (hlabel : valuesOf "label" members = [.string c.label])
      (hvalue : valuesOf "value" members = [.string c.value]) : IsChoice (.object members) c
  | array {c : Choice} : IsChoice (.array [.string c.label, .string c.value]) c

def IsChoices (v : Json) (cs : List Choice) : Prop :=
  ∃ items, v = .array items ∧ List.Forall₂ IsChoice items cs

/-- A kind is given by its name or by its index. -/
def IsKind (v : Json) (k : Kind) : Prop := v = .string k.name ∨ v = .int k.index

/-- A value that is missing when it is `null`. -/
inductive Nullable {α : Type} (is : Json → α → Prop) : Json → Option α → Prop where
  | null : Nullable is .null none
  | value {v a} (h : is v a) : Nullable is v (some a)

/-- What the values of one name make of `old`, which stays when there are none. -/
inductive Given {α : Type} (is : Json → α → Prop) (old : α) : List Json → α → Prop where
  | missing : Given is old [] old
  | value {v a} (h : is v a) : Given is old [v] a

@[simp]
theorem given_nil_iff {α : Type} {is : Json → α → Prop} {old new : α} :
    Given is old [] new ↔ old = new :=
  ⟨fun h => by cases h; rfl, fun h => h ▸ .missing⟩

@[simp]
theorem given_singleton_iff {α : Type} {is : Json → α → Prop} {old new : α} {v : Json} :
    Given is old [v] new ↔ is v new :=
  ⟨fun h => by cases h; assumption, .value⟩

theorem given_perm_iff {α : Type} {is : Json → α → Prop} {old new : α} {vs vs' : List Json}
    (h : vs.Perm vs') : Given is old vs new ↔ Given is old vs' new := by
  have hone : ∀ {vs vs' : List Json}, vs.Perm vs' → Given is old vs new → Given is old vs' new := by
    intro vs vs' hperm hgiven
    cases hgiven with
    | missing => exact List.nil_perm.mp hperm ▸ .missing
    | value hv => exact List.singleton_perm.mp hperm ▸ .value hv
  exact ⟨hone h, hone h.symm⟩

/-! ## What members have to be -/

/-- The attributes that members make of others. -/
def Attributes.GivenBy (members : List (String × Json)) : Attributes → Attributes → Prop
  | .text old, .text new =>
    Given (Nullable IsText) old.placeholder (valuesOf "placeholder" members) new.placeholder ∧
    Given (Nullable IsText) old.initial (valuesOf "defaultValue" members) new.initial
  | .number old, .number new =>
    Given (Nullable IsDouble) old.min (valuesOf "min" members) new.min ∧
    Given (Nullable IsDouble) old.max (valuesOf "max" members) new.max ∧
    Given (Nullable IsDouble) old.step (valuesOf "step" members) new.step ∧
    Given (Nullable IsDouble) old.initial (valuesOf "defaultValue" members) new.initial
  | .textarea old, .textarea new =>
    Given (Nullable IsWord32) old.rows (valuesOf "rows" members) new.rows ∧
    Given (Nullable IsText) old.placeholder (valuesOf "placeholder" members) new.placeholder ∧
    Given (Nullable IsText) old.initial (valuesOf "defaultValue" members) new.initial
  | .select old, .select new | .radio old, .radio new =>
    Given IsChoices old.options (valuesOf "options" members) new.options ∧
    Given (Nullable IsText) old.initial (valuesOf "defaultValue" members) new.initial
  | .checkbox old, .checkbox new | .switch old, .switch new =>
    Given (Nullable IsFlag) old.checked (valuesOf "defaultChecked" members) new.checked
  | .date old, .date new =>
    Given (Nullable IsText) old.min (valuesOf "min" members) new.min ∧
    Given (Nullable IsText) old.max (valuesOf "max" members) new.max ∧
    Given (Nullable IsText) old.initial (valuesOf "defaultValue" members) new.initial
  | _, _ => False

namespace Field

/-- The names of the members that fields of every kind may have. -/
def commonNames : List String := ["id", "name", "label", "required", "kind"]

/-- The members of an object make a field. -/
structure IsOf (members : List (String × Json)) (f : Field) : Prop where
  id : valuesOf "id" members = [.string f.id]
  name : valuesOf "name" members = [.string f.name]
  label : Given (Nullable IsText) none (valuesOf "label" members) f.label
  required : Given IsFlag false (valuesOf "required" members) f.required
  kind : ∃ v, valuesOf "kind" members = [v] ∧ IsKind v f.kind
  attributes : f.kind.blank.GivenBy members f.attributes
  known : ∀ m ∈ members, m.1 ∈ commonNames ∨ m.1 ∈ f.kind.attributeNames

/-- The order of the members does not matter. -/
theorem IsOf.perm {members members' : List (String × Json)} {f : Field}
    (h : IsOf members f) (hperm : members.Perm members') : IsOf members' f := by
  have hone : ∀ {name : String} {v : Json}, valuesOf name members = [v] →
      valuesOf name members' = [v] := by
    intro name v hv
    exact (List.singleton_perm.mp (hv ▸ valuesOf_perm hperm)).symm
  have hgiven : ∀ {α : Type} {is : Json → α → Prop} {old new : α} {name : String},
      Given is old (valuesOf name members) new ↔ Given is old (valuesOf name members') new :=
    given_perm_iff (valuesOf_perm hperm)
  obtain ⟨v, hv, hkind⟩ := h.kind
  refine ⟨hone h.id, hone h.name, hgiven.mp h.label, hgiven.mp h.required,
    ⟨v, hone hv, hkind⟩, ?_, fun m hm => h.known m (hperm.mem_iff.mpr hm)⟩
  have hattributes := h.attributes
  cases hold : f.kind.blank <;> cases hnew : f.attributes <;>
    simp only [hold, hnew, Attributes.GivenBy, hgiven] at hattributes ⊢ <;> exact hattributes

end Field

/-! ## Taking values -/

/-- A value that is read after a check, and put in its place. -/
theorem exists_read_iff {ε α σ : Type} {check : Except ε Unit} {r : Except ε α} {put : α → σ}
    {P : σ → Prop} : (∃ d, (do check; .ok (put (← r))) = .ok d ∧ P d) ↔
      check = .ok () ∧ ∃ a, r = .ok a ∧ P (put a) := by
  cases check <;> cases r <;> simp [bind, Except.bind]

section Shapes

variable {α : Type} {v : Json}

theorem asString_eq_ok_iff {s : String} : v.asString = .ok s ↔ IsText v s := by
  cases v <;> simp [Json.asString, Json.wrongType, IsText]

theorem asBool_eq_ok_iff {b : Bool} : v.asBool = .ok b ↔ IsFlag v b := by
  cases v <;> simp [Json.asBool, Json.wrongType, IsFlag]

theorem asDouble_eq_ok_iff {x : Binary64} : v.asDouble = .ok x ↔ IsDouble v x := by
  cases v <;> simp [Json.asDouble, Json.wrongType, IsDouble, eq_comm]

theorem asWord32_eq_ok_iff {w : UInt32} : v.asWord32 = .ok w ↔ IsWord32 v w := by
  cases v with
  | int n =>
    cases n with
    | ofNat n =>
      have hsize := w.toNat_lt_size
      by_cases hn : n < UInt32.size
      · have hvalue : UInt32.ofNat n = w ↔ n = w.toNat := by
          rw [← UInt32.toNat_inj, UInt32.toNat_ofNat_of_lt' hn]
        simp only [Json.asWord32, Json.asNatBelow, IsWord32, if_pos hn, Except.map, hvalue,
          Except.ok.injEq, Json.int.injEq]
        exact Int.ofNat_inj.symm
      · simp only [Json.asWord32, Json.asNatBelow, IsWord32, if_neg hn, Except.map,
          Json.int.injEq, reduceCtorEq, false_iff]
        intro hvalue
        have hsame := Int.ofNat_inj.mp hvalue
        omega
    | negSucc n => simp [Json.asWord32, Json.asNatBelow, IsWord32, Except.map]
  | _ => simp [Json.asWord32, Json.asNatBelow, Json.wrongType, IsWord32, Except.map]

theorem asOptional_eq_ok_iff {as : Json → Except Json.Mismatch α} {is : Json → α → Prop}
    (has : ∀ v a, as v = .ok a ↔ is v a) (hnull : ∀ a, ¬ is .null a) {o : Option α} :
    Json.asOptional as v = .ok o ↔ Nullable is v o := by
  by_cases hv : v = .null
  · subst hv
    constructor
    · intro h
      exact Except.ok.inj h ▸ .null
    · intro h
      cases h with
      | null => rfl
      | value h => exact absurd h (hnull _)
  · have hmap : Json.asOptional as v = (as v).map some := by
      cases v <;> first | rfl | exact absurd rfl hv
    rw [hmap]
    constructor
    · intro h
      obtain ⟨a, ha, rfl⟩ := map_eq_ok_iff.mp h
      exact .value ((has v a).mp ha)
    · intro h
      cases h with
      | null => exact absurd rfl hv
      | value h => exact map_eq_ok_iff.mpr ⟨_, (has _ _).mpr h, rfl⟩

@[simp]
theorem optionalText_eq_ok_iff {o : Option String} :
    Json.asOptional Json.asString v = .ok o ↔ Nullable IsText v o :=
  asOptional_eq_ok_iff (fun _ _ => asString_eq_ok_iff) (by simp [IsText])

@[simp]
theorem optionalFlag_eq_ok_iff {o : Option Bool} :
    Json.asOptional Json.asBool v = .ok o ↔ Nullable IsFlag v o :=
  asOptional_eq_ok_iff (fun _ _ => asBool_eq_ok_iff) (by simp [IsFlag])

@[simp]
theorem optionalDouble_eq_ok_iff {o : Option Binary64} :
    Json.asOptional Json.asDouble v = .ok o ↔ Nullable IsDouble v o :=
  asOptional_eq_ok_iff (fun _ _ => asDouble_eq_ok_iff) (by simp [IsDouble])

@[simp]
theorem optionalWord32_eq_ok_iff {o : Option UInt32} :
    Json.asOptional Json.asWord32 v = .ok o ↔ Nullable IsWord32 v o :=
  asOptional_eq_ok_iff (fun _ _ => asWord32_eq_ok_iff) (by simp [IsWord32])

end Shapes

end FormBuilder
