import FormBuilder.Proofs.Store.Alphabet
import FormBuilder.Proofs.Store.Draw
import FormBuilder.Proofs.Store.Step
import Mathlib.Order.Bounds.Basic

/-!
New fields, to the byte.  Creating and adding a field draw the same candidates, use the
first one that is free and leave the supply right behind it: `create_and_add_draw`.  So to
add a field is to create it and put it into the store, whatever the store is like.
-/

namespace FormBuilder
namespace Store

variable {s : Store} {e e' : Entropy} {id : FieldId} {why : StoreError}

/-- A field is created and then put into the store as it is. -/
def createThenInsert (s : Store) (e : Entropy) (kind : Kind) : Outcome :=
  match s.perform e (.create kind) with
  | (.ok (.field f), s, e) =>
    match s.perform e (.insert f) with
    | (.ok _, s, e) => (.ok (.field f), s, e)
    | (.error why, s, e) => (.error why, s, e)
  | outcome => outcome

/-! ## From an id to a field -/

section Fields

variable (kind : Kind)

theorem perform_create_of_ok (h : s.allocateId e = (.ok id, e')) :
    s.perform e (.create kind) =
      (.ok (.field (Field.new id kind s.config.suffixLength)), s, e') := by
  rw [perform, create, h]

theorem perform_create_of_error (h : s.allocateId e = (.error why, e')) :
    s.perform e (.create kind) = (.error why, s, e') := by
  rw [perform, create, h]

theorem perform_add_of_ok (h : s.allocateId e = (.ok id, e')) :
    s.perform e (.add kind) =
      (.ok (.field (Field.new id kind s.config.suffixLength)),
        { s with fields := s.fields ++ [Field.new id kind s.config.suffixLength] }, e') := by
  rw [perform, add, create, h]

theorem perform_add_of_error (h : s.allocateId e = (.error why, e')) :
    s.perform e (.add kind) = (.error why, s, e') := by
  rw [perform, add, create, h]

end Fields

/-- A created field has an id that is free, so that it can be put into the same store. -/
theorem perform_add_eq_createThenInsert (s : Store) (e : Entropy) (kind : Kind) :
    s.perform e (.add kind) = s.createThenInsert e kind := by
  cases h : s.allocateId e with
  | mk answer e' =>
    cases answer with
    | error why =>
      rw [createThenInsert, perform_create_of_error kind h]
      exact perform_add_of_error kind h
    | ok id =>
      have hfree : (Field.new id kind s.config.suffixLength).id ∉ s.ids := not_mem_of_allocateId h
      rw [createThenInsert, perform_create_of_ok kind h]
      simp only [perform, insert, if_neg hfree]
      exact perform_add_of_ok kind h

/-- With a length of ids that is in bounds, a new field gets the first of 32 candidates that
is not taken, and the blocks of random bytes up to this candidate are used up.  If all 32
are taken there is no field, and 32 blocks are used up.  In every store, to add a field has
the same outcome as to create it and put it into the store right away. -/
theorem create_and_add_draw (s : Store) (e : Entropy) (kind : Kind) :
    let id (k : Nat) := candidate s.config.idLength e k
    let after (k : Nat) := e.skip (k * (3 * ((s.config.idLength + 3) / 4)))
    let new (k : Nat) := Field.new (id k) kind s.config.suffixLength
    (4 ≤ s.config.idLength ∧ s.config.idLength ≤ 64 →
      (∀ k, IsLeast {k | k < 32 ∧ id k ∉ s.ids} k →
        s.perform e (.create kind) = (.ok (.field (new k)), s, after (k + 1)) ∧
        s.perform e (.add kind) =
          (.ok (.field (new k)), { s with fields := s.fields ++ [new k] }, after (k + 1))) ∧
      ((∀ k < 32, id k ∈ s.ids) →
        s.perform e (.create kind) = (.error .idsExhausted, s, after 32) ∧
        s.perform e (.add kind) = (.error .idsExhausted, s, after 32))) ∧
    s.perform e (.add kind) = s.createThenInsert e kind := by
  intro id after new
  refine ⟨fun hlength => ⟨fun k hk => ?_, fun htaken => ?_⟩,
    perform_add_eq_createThenInsert s e kind⟩
  · obtain ⟨⟨hlt, hfree⟩, hleast⟩ := hk
    have hbefore : ∀ j < k, id j ∈ s.ids := by
      intro j hj
      by_contra hj'
      exact Nat.not_lt.mpr (hleast ⟨hj.trans hlt, hj'⟩) hj
    have hid := allocateId_of_free hlength hlt hfree hbefore
    rw [FieldId.blockLength_eq] at hid
    exact ⟨perform_create_of_ok kind hid, perform_add_of_ok kind hid⟩
  · have hid := allocateId_of_taken hlength htaken
    rw [FieldId.blockLength_eq] at hid
    exact ⟨perform_create_of_error kind hid, perform_add_of_error kind hid⟩

/-- The first candidate is taken, so that two blocks are drawn; with bytes that are all zero
every candidate is taken. -/
theorem create_and_add_draw_taken :
    let taken : Field := { id := "AAAAA", name := "n", attributes := .date {} }
    let s : Store := { config := { idLength := 5 }, fields := [taken] }
    let e : Entropy := .ofBytes #[0, 0, 0, 0, 0, 0, 255, 255, 255, 255, 255, 255]
    let zeros : Entropy := .ofBytes #[]
    let new := Field.new "_____" .radio 4
    IsLeast {k | k < 32 ∧ candidate 5 e k ∉ s.ids} 1 ∧
      s.perform e (.create .radio) = (.ok (.field new), s, e.skip 12) ∧
      s.perform e (.add .radio) = (.ok (.field new), { s with fields := [taken, new] }, e.skip 12) ∧
      (∀ k < 32, candidate 5 zeros k ∈ s.ids) ∧
      s.perform zeros (.add .radio) = (.error .idsExhausted, s, zeros.skip 192) := by
  intro taken s e zeros new
  have hlength : 4 ≤ s.config.idLength ∧ s.config.idLength ≤ 64 := by decide
  have hfirst : candidate 5 e 0 ∈ s.ids := by decide +kernel
  have hsecond : candidate 5 e 1 = "_____" := by decide +kernel
  have hleast : IsLeast {k | k < 32 ∧ candidate 5 e k ∉ s.ids} 1 := by
    refine ⟨⟨by decide, ?_⟩, fun k hk => Nat.one_le_iff_ne_zero.mpr ?_⟩
    · rw [hsecond]
      decide
    · rintro rfl
      exact hk.2 hfirst
  have hzeros : ∀ k < 32, candidate 5 zeros k ∈ s.ids := by decide +kernel
  have hnew : Field.new (candidate 5 e 1) .radio 4 = new := congrArg (Field.new · .radio 4) hsecond
  obtain ⟨hcreate, hadd⟩ := ((create_and_add_draw s e .radio).1 hlength).1 1 hleast
  have hnone := (((create_and_add_draw s zeros .radio).1 hlength).2 hzeros).2
  have hblock : 3 * ((s.config.idLength + 3) / 4) = 6 := by decide
  rw [hblock] at hcreate hadd hnone
  exact ⟨hleast, hnew ▸ hcreate, hnew ▸ hadd, hzeros, hnone⟩

end Store
end FormBuilder
