import FormBuilder.Store.Basic
import Mathlib.Data.Nat.Find

/-!
Which id a new field gets.  The supply of random bytes is a sequence of candidates, and
the first one that is not taken is drawn: `allocateId_of_free`.  Where all candidates that
may be tried are taken there is no id: `allocateId_of_taken`.  Both say how many bytes that
takes.
-/

namespace FormBuilder

theorem Entropy.skip_zero (e : Entropy) : e.skip 0 = e := rfl

/-- One block after another. -/
theorem Entropy.skip_skip_mul (e : Entropy) (block n : Nat) :
    (e.skip block).skip (n * block) = e.skip ((n + 1) * block) := by
  have hnext : block + n * block = (n + 1) * block := by rw [Nat.succ_mul, Nat.add_comm]
  simp only [skip, Nat.add_assoc, hnext]

namespace Store

/-- The id made of the random bytes after those of `k` others. -/
def candidate (length : Nat) (e : Entropy) (k : Nat) : FieldId :=
  (FieldId.generate length (e.skip (k * FieldId.blockLength length))).1

variable {length attempts k : Nat} {taken : List FieldId} {e : Entropy}

theorem candidate_skip (length : Nat) (e : Entropy) (k : Nat) :
    candidate length (e.skip (FieldId.blockLength length)) k = candidate length e (k + 1) := by
  rw [candidate, Entropy.skip_skip_mul, candidate]

theorem drawId_succ (length : Nat) (taken : List FieldId) (attempts : Nat) (e : Entropy) :
    drawId length taken (attempts + 1) e =
      if candidate length e 0 ∈ taken then
        drawId length taken attempts (e.skip (FieldId.blockLength length))
      else (some (candidate length e 0), e.skip (FieldId.blockLength length)) := by
  rw [candidate, Nat.zero_mul, Entropy.skip_zero]
  rfl

theorem drawId_of_free (hk : k < attempts) (hfree : candidate length e k ∉ taken)
    (hbefore : ∀ j < k, candidate length e j ∈ taken) :
    drawId length taken attempts e =
      (some (candidate length e k), e.skip ((k + 1) * FieldId.blockLength length)) := by
  induction k generalizing attempts e with
  | zero =>
    obtain ⟨attempts, rfl⟩ := Nat.exists_eq_add_one.mpr hk
    rw [drawId_succ, if_neg hfree, Nat.zero_add, Nat.one_mul]
  | succ k ih =>
    obtain ⟨attempts, rfl⟩ := Nat.exists_eq_add_one.mpr (Nat.zero_lt_of_lt hk)
    have hbefore' : ∀ j < k, candidate length (e.skip (FieldId.blockLength length)) j ∈ taken :=
      fun j hj => candidate_skip length e j ▸ hbefore (j + 1) (Nat.succ_lt_succ hj)
    rw [drawId_succ, if_pos (hbefore 0 (Nat.succ_pos k)),
      ih (Nat.lt_of_succ_lt_succ hk) (candidate_skip length e k ▸ hfree) hbefore',
      candidate_skip, Entropy.skip_skip_mul]

theorem drawId_of_taken (h : ∀ j < attempts, candidate length e j ∈ taken) :
    drawId length taken attempts e = (none, e.skip (attempts * FieldId.blockLength length)) := by
  induction attempts generalizing e with
  | zero => rw [Nat.zero_mul, Entropy.skip_zero, drawId]
  | succ attempts ih =>
    have h' : ∀ j < attempts, candidate length (e.skip (FieldId.blockLength length)) j ∈ taken :=
      fun j hj => candidate_skip length e j ▸ h (j + 1) (Nat.succ_lt_succ hj)
    rw [drawId_succ, if_pos (h 0 (Nat.succ_pos attempts)), ih h', Entropy.skip_skip_mul]

/-- Either every candidate is taken, or there is a first one that is not. -/
theorem taken_or_exists_free (length attempts : Nat) (taken : List FieldId) (e : Entropy) :
    (∀ k < attempts, candidate length e k ∈ taken) ∨
      ∃ k < attempts, candidate length e k ∉ taken ∧ ∀ j < k, candidate length e j ∈ taken := by
  by_cases hfree : ∃ k, k < attempts ∧ candidate length e k ∉ taken
  · obtain ⟨hlt, hnot⟩ := Nat.find_spec hfree
    refine .inr ⟨Nat.find hfree, hlt, hnot, fun j hj => ?_⟩
    by_contra hj'
    exact Nat.find_min hfree hj ⟨Nat.lt_trans hj hlt, hj'⟩
  · refine .inl fun k hk => ?_
    by_contra hk'
    exact hfree ⟨k, hk, hk'⟩

variable {s : Store}

/-! ## Allocation -/

theorem isValid_iff {c : StoreConfig} : c.isValid = true ↔ 4 ≤ c.idLength ∧ c.idLength ≤ 64 := by
  rw [StoreConfig.isValid, Bool.and_eq_true, decide_eq_true_eq, decide_eq_true_eq]
  rfl

theorem validate_of_valid {c : StoreConfig} (h : 4 ≤ c.idLength ∧ c.idLength ≤ 64) :
    c.validate = .ok () := if_pos (isValid_iff.mpr h)

theorem validate_of_not_valid {c : StoreConfig} (h : ¬ (4 ≤ c.idLength ∧ c.idLength ≤ 64)) :
    c.validate = .error (.invalidIdLength c.idLength) := if_neg (isValid_iff.not.mpr h)

theorem allocateId_of_length (h : ¬ (4 ≤ s.config.idLength ∧ s.config.idLength ≤ 64)) :
    s.allocateId e = (.error (.invalidIdLength s.config.idLength), e) := by
  rw [allocateId, validate_of_not_valid h]

theorem allocateId_of_free (hlength : 4 ≤ s.config.idLength ∧ s.config.idLength ≤ 64)
    (hk : k < 32) (hfree : candidate s.config.idLength e k ∉ s.ids)
    (hbefore : ∀ j < k, candidate s.config.idLength e j ∈ s.ids) :
    s.allocateId e = (.ok (candidate s.config.idLength e k),
      e.skip ((k + 1) * FieldId.blockLength s.config.idLength)) := by
  have hmax : k < maxAttempts := hk
  rw [allocateId, validate_of_valid hlength, drawId_of_free hmax hfree hbefore]

theorem allocateId_of_taken (hlength : 4 ≤ s.config.idLength ∧ s.config.idLength ≤ 64)
    (h : ∀ k < 32, candidate s.config.idLength e k ∈ s.ids) :
    s.allocateId e =
      (.error .idsExhausted, e.skip (32 * FieldId.blockLength s.config.idLength)) := by
  have hmax : ∀ k < maxAttempts, candidate s.config.idLength e k ∈ s.ids := h
  rw [allocateId, validate_of_valid hlength, drawId_of_taken hmax]
  rfl

end Store
end FormBuilder
