import FormBuilder.Json.Reader
import FormBuilder.Proofs.Except

/-!
What stands between brackets.  `Items` and `Members` say which values, and which members,
a text holds up to its closing bracket.  The loops that read arrays and objects find
exactly these: `foldItems_eq_ok_iff` and `foldMembers_eq_ok_iff`, whatever is made of
each of them.
-/

namespace FormBuilder
namespace Json

/-! ## Arrays -/

variable (value : Reader Json)

/-- The items of an array from a place in it, and the text after the array. -/
inductive Items : Bool → List Char → List Json → List Char → Prop where
  | close {first s rest} (h : nextItem first s = .ok (.close rest)) : Items first s [] rest
  | item {first s s' s'' v items rest} (h : nextItem first s = .ok (.item s'))
      (hv : value s' = .ok (v, s'')) (hrest : Items false s'' items rest) :
      Items first s (v :: items) rest

/-- The members of an object from a place in it, and the text after the object. -/
inductive Members : Bool → List Char → List (String × Json) → List Char → Prop where
  | close {first s rest} (h : nextKey first s = .ok (.close rest)) : Members first s [] rest
  | member {first s s₁ s₂ s₃ name v members rest} (h : nextKey first s = .ok (.key name s₁))
      (hcolon : readColon s₁ = .ok s₂) (hv : value s₂ = .ok (v, s₃))
      (hrest : Members false s₃ members rest) : Members first s ((name, v) :: members) rest

variable {value} {σ : Type} {fuel : Nat} {first : Bool} {s rest : List Char} {acc acc' : σ}

theorem foldItems_eq_ok_iff {step : σ → Reader σ} {f : σ → Json → Except Mismatch σ}
    (hstep : ∀ acc s acc' rest, step acc s = .ok (acc', rest) ↔
      ∃ v, value s = .ok (v, rest) ∧ f acc v = .ok acc') :
    foldItems step fuel first acc s = .ok (acc', rest) ↔
      ∃ items, Items value first s items rest ∧ items.length < fuel ∧
        items.foldlM f acc = .ok acc' := by
  induction fuel generalizing first acc s with
  | zero => exact ⟨fun h => (nomatch h), fun ⟨_, _, h, _⟩ => absurd h (Nat.not_lt_zero _)⟩
  | succ fuel ih =>
    rw [foldItems, bind_eq_ok_iff]
    constructor
    · rintro ⟨next, hnext, h⟩
      cases next with
      | close rest' =>
        obtain ⟨rfl, rfl⟩ := Prod.mk.inj (Except.ok.inj h)
        exact ⟨[], .close hnext, Nat.succ_pos fuel, rfl⟩
      | item s' =>
        obtain ⟨⟨acc₁, s''⟩, hacc, h⟩ := bind_eq_ok_iff.mp h
        obtain ⟨v, hv, hf⟩ := (hstep _ _ _ _).mp hacc
        obtain ⟨items, hitems, hfuel, hfold⟩ := ih.mp h
        refine ⟨v :: items, .item hnext hv hitems, Nat.succ_lt_succ hfuel, ?_⟩
        exact bind_eq_ok_iff.mpr ⟨acc₁, hf, hfold⟩
    · rintro ⟨items, hitems, hfuel, hfold⟩
      cases hitems with
      | close hnext =>
        obtain rfl := Except.ok.inj hfold
        exact ⟨_, hnext, rfl⟩
      | item hnext hv hitems =>
        obtain ⟨acc₁, hf, hfold⟩ := bind_eq_ok_iff.mp hfold
        refine ⟨_, hnext, bind_eq_ok_iff.mpr ⟨_, (hstep _ _ _ _).mpr ⟨_, hv, hf⟩, ?_⟩⟩
        exact ih.mpr ⟨_, hitems, Nat.lt_of_succ_lt_succ hfuel, hfold⟩

theorem foldMembers_eq_ok_iff {step : σ → String → Reader σ}
    {f : σ → String × Json → Except Mismatch σ}
    (hstep : ∀ acc name s acc' rest, step acc name s = .ok (acc', rest) ↔
      ∃ s' v, readColon s = .ok s' ∧ value s' = .ok (v, rest) ∧ f acc (name, v) = .ok acc') :
    foldMembers step fuel first acc s = .ok (acc', rest) ↔
      ∃ members, Members value first s members rest ∧ members.length < fuel ∧
        members.foldlM f acc = .ok acc' := by
  induction fuel generalizing first acc s with
  | zero => exact ⟨fun h => (nomatch h), fun ⟨_, _, h, _⟩ => absurd h (Nat.not_lt_zero _)⟩
  | succ fuel ih =>
    rw [foldMembers, bind_eq_ok_iff]
    constructor
    · rintro ⟨next, hnext, h⟩
      cases next with
      | close rest' =>
        obtain ⟨rfl, rfl⟩ := Prod.mk.inj (Except.ok.inj h)
        exact ⟨[], .close hnext, Nat.succ_pos fuel, rfl⟩
      | key name s₁ =>
        obtain ⟨⟨acc₁, s₃⟩, hacc, h⟩ := bind_eq_ok_iff.mp h
        obtain ⟨s₂, v, hcolon, hv, hf⟩ := (hstep _ _ _ _ _).mp hacc
        obtain ⟨members, hmembers, hfuel, hfold⟩ := ih.mp h
        refine ⟨(name, v) :: members, .member hnext hcolon hv hmembers, Nat.succ_lt_succ hfuel, ?_⟩
        exact bind_eq_ok_iff.mpr ⟨acc₁, hf, hfold⟩
    · rintro ⟨members, hmembers, hfuel, hfold⟩
      cases hmembers with
      | close hnext =>
        obtain rfl := Except.ok.inj hfold
        exact ⟨_, hnext, rfl⟩
      | member hnext hcolon hv hmembers =>
        obtain ⟨acc₁, hf, hfold⟩ := bind_eq_ok_iff.mp hfold
        refine ⟨_, hnext, bind_eq_ok_iff.mpr ⟨_, (hstep _ _ _ _ _).mpr ⟨_, _, hcolon, hv, hf⟩, ?_⟩⟩
        exact ih.mpr ⟨_, hmembers, Nat.lt_of_succ_lt_succ hfuel, hfold⟩

/-! ## Values in brackets -/

/-- Keeps everything that is read. -/
def collect {α : Type} (acc : List α) (x : α) : Except Mismatch (List α) := .ok (acc ++ [x])

theorem foldlM_collect {α : Type} (xs acc : List α) : xs.foldlM collect acc = .ok (acc ++ xs) := by
  induction xs generalizing acc with
  | nil => exact congrArg Except.ok (List.append_nil acc).symm
  | cons x xs ih => exact (ih (acc ++ [x])).trans (congrArg Except.ok (List.append_assoc acc [x] xs))

theorem readItems_eq_ok_iff {items : List Json} :
    readItems (readItem value) [] s = .ok (items, rest) ↔
      Items value true s items rest ∧ items.length < s.length + 1 := by
  have hstep : ∀ acc s acc' rest, readItem value acc s = .ok (acc', rest) ↔
      ∃ v, value s = .ok (v, rest) ∧ collect acc v = .ok acc' := by
    intro acc s acc' rest
    rw [readItem, bind_eq_ok_iff]
    constructor
    · rintro ⟨⟨v, s'⟩, hv, h⟩
      obtain ⟨rfl, rfl⟩ := Prod.mk.inj (Except.ok.inj h)
      exact ⟨v, hv, rfl⟩
    · rintro ⟨v, hv, h⟩
      obtain rfl := Except.ok.inj h
      exact ⟨_, hv, rfl⟩
  rw [readItems, foldItems_eq_ok_iff hstep]
  constructor
  · rintro ⟨items', hitems, hfuel, hfold⟩
    obtain rfl := Except.ok.inj ((foldlM_collect items' []).symm.trans hfold)
    exact ⟨hitems, hfuel⟩
  · rintro ⟨hitems, hfuel⟩
    exact ⟨items, hitems, hfuel, foldlM_collect items []⟩

theorem readMembers_eq_ok_iff {members : List (String × Json)} :
    readMembers (readMember value) [] s = .ok (members, rest) ↔
      Members value true s members rest ∧ members.length < s.length + 1 := by
  have hstep : ∀ acc name s acc' rest, readMember value acc name s = .ok (acc', rest) ↔
      ∃ s' v, readColon s = .ok s' ∧ value s' = .ok (v, rest) ∧
        collect acc (name, v) = .ok acc' := by
    intro acc name s acc' rest
    rw [readMember, bind_eq_ok_iff]
    constructor
    · rintro ⟨s', hcolon, h⟩
      obtain ⟨⟨v, s''⟩, hv, h⟩ := bind_eq_ok_iff.mp h
      obtain ⟨rfl, rfl⟩ := Prod.mk.inj (Except.ok.inj h)
      exact ⟨s', v, hcolon, hv, rfl⟩
    · rintro ⟨s', v, hcolon, hv, h⟩
      obtain rfl := Except.ok.inj h
      exact ⟨s', hcolon, bind_eq_ok_iff.mpr ⟨_, hv, rfl⟩⟩
  rw [readMembers, foldMembers_eq_ok_iff hstep]
  constructor
  · rintro ⟨members', hmembers, hfuel, hfold⟩
    obtain rfl := Except.ok.inj ((foldlM_collect members' []).symm.trans hfold)
    exact ⟨hmembers, hfuel⟩
  · rintro ⟨hmembers, hfuel⟩
    exact ⟨members, hmembers, hfuel, foldlM_collect members []⟩

end Json
end FormBuilder
