import Mathlib.Data.Set.Card
import Mathlib.Data.Fintype.BigOperators
import Mathlib.Data.Vector.Basic

/-!
Numbers as lists of bits, the most significant first.  Numbers side by side are their bits
side by side, `ofNat_append`, so that one row of bits can be cut into numbers of any width.
How many rows of a length there are that start with given bits is `ncard_startingWith`.
-/

namespace FormBuilder
namespace Bits

/-- The lowest `width` bits of a number. -/
def ofNat : (width : Nat) → Nat → List Bool
  | 0, _ => []
  | width + 1, n => ofNat width (n / 2) ++ [decide (n % 2 = 1)]

def toNat (bits : List Bool) : Nat := bits.foldl (fun n bit => 2 * n + bit.toNat) 0

variable {width : Nat}

theorem length_ofNat (width n : Nat) : (ofNat width n).length = width := by
  induction width generalizing n with
  | zero => rfl
  | succ width ih => rw [ofNat, List.length_append, ih, List.length_singleton]

theorem toNat_concat (bits : List Bool) (bit : Bool) :
    toNat (bits ++ [bit]) = 2 * toNat bits + bit.toNat := by
  rw [toNat, List.foldl_append]
  rfl

theorem toNat_ofNat {n : Nat} (h : n < 2 ^ width) : toNat (ofNat width n) = n := by
  induction width generalizing n with
  | zero =>
    obtain rfl : n = 0 := by simpa using h
    rfl
  | succ width ih =>
    have hhalf : n / 2 < 2 ^ width := by rw [Nat.pow_succ] at h; omega
    have hlast : (decide (n % 2 = 1)).toNat = n % 2 := by
      rcases Nat.mod_two_eq_zero_or_one n with h | h <;> rw [h] <;> rfl
    rw [ofNat, toNat_concat, ih hhalf, hlast, Nat.div_add_mod]

theorem toNat_lt (bits : List Bool) : toNat bits < 2 ^ bits.length := by
  induction bits using List.reverseRecOn with
  | nil => exact Nat.one_pos
  | append_singleton bits bit ih =>
    have hbit := bit.toNat_le
    rw [toNat_concat, List.length_append, List.length_singleton, Nat.pow_succ]
    omega

theorem ofNat_toNat (bits : List Bool) : ofNat bits.length (toNat bits) = bits := by
  induction bits using List.reverseRecOn with
  | nil => rfl
  | append_singleton bits bit ih =>
    have hhalf : (2 * toNat bits + bit.toNat) / 2 = toNat bits := by
      have := bit.toNat_le
      omega
    have hlast : decide ((2 * toNat bits + bit.toNat) % 2 = 1) = bit := by
      cases bit <;> simp
    rw [toNat_concat, List.length_append, List.length_singleton, ofNat, hhalf, ih, hlast]

theorem ofNat_append (width width' n : Nat) {n' : Nat} (h : n' < 2 ^ width') :
    ofNat (width + width') (n * 2 ^ width' + n') = ofNat width n ++ ofNat width' n' := by
  induction width' generalizing n' with
  | zero =>
    obtain rfl : n' = 0 := by simpa using h
    simp [ofNat]
  | succ width' ih =>
    have hdouble : n * 2 ^ (width' + 1) = 2 * (n * 2 ^ width') := by
      rw [Nat.pow_succ, ← Nat.mul_assoc, Nat.mul_comm]
    have hhalf : (n * 2 ^ (width' + 1) + n') / 2 = n * 2 ^ width' + n' / 2 := by
      rw [hdouble]
      omega
    have hlast : (n * 2 ^ (width' + 1) + n') % 2 = n' % 2 := by
      rw [hdouble]
      omega
    have hlt : n' / 2 < 2 ^ width' := by rw [Nat.pow_succ] at h; omega
    rw [← Nat.add_assoc, ofNat, hhalf, hlast, ih hlt, ofNat, List.append_assoc]

theorem ofNat_add (width width' n : Nat) :
    ofNat (width + width') n = ofNat width (n / 2 ^ width') ++ ofNat width' (n % 2 ^ width') := by
  rw [← ofNat_append _ _ _ (Nat.mod_lt n (Nat.two_pow_pos width')), Nat.div_add_mod']

/-! ## Rows of numbers -/

section Rows

variable {α : Type} {f : α → List Bool}

theorem length_flatMap (h : ∀ a, (f a).length = width) (xs : List α) :
    (xs.flatMap f).length = width * xs.length := by
  induction xs with
  | nil => rfl
  | cons a xs ih =>
    rw [List.flatMap_cons, List.length_append, h, ih, List.length_cons, Nat.mul_succ, Nat.add_comm]

theorem take_flatMap (h : ∀ a, (f a).length = width) (n : Nat) (xs : List α) :
    (xs.flatMap f).take (width * n) = (xs.take n).flatMap f := by
  induction n generalizing xs with
  | zero => simp
  | succ n ih =>
    cases xs with
    | nil => simp
    | cons a xs =>
      rw [List.flatMap_cons, List.take_succ_cons, List.flatMap_cons, Nat.mul_succ, Nat.add_comm,
        ← h a, List.take_length_add_append, h a, ih]

theorem drop_flatMap (h : ∀ a, (f a).length = width) (n : Nat) (xs : List α) :
    (xs.flatMap f).drop (width * n) = (xs.drop n).flatMap f := by
  induction n generalizing xs with
  | zero => simp
  | succ n ih =>
    cases xs with
    | nil => simp
    | cons a xs =>
      rw [List.flatMap_cons, List.drop_succ_cons, Nat.mul_succ, Nat.add_comm,
        ← h a, List.drop_length_add_append, h a, ih]

/-- Numbers of one width can be told apart in a row. -/
theorem flatMap_injOn (hwidth : 0 < width) (h : ∀ a, (f a).length = width) {p : α → Prop}
    (hinj : ∀ a b, p a → p b → f a = f b → a = b) {xs ys : List α} (hxs : ∀ a ∈ xs, p a)
    (hys : ∀ b ∈ ys, p b) (heq : xs.flatMap f = ys.flatMap f) : xs = ys := by
  have hlength : xs.length = ys.length := by
    have := congrArg List.length heq
    rw [length_flatMap h, length_flatMap h] at this
    exact Nat.eq_of_mul_eq_mul_left hwidth this
  induction xs generalizing ys with
  | nil => exact (List.length_eq_zero_iff.mp hlength.symm).symm
  | cons a xs ih =>
    cases ys with
    | nil => exact nomatch hlength
    | cons b ys =>
      obtain ⟨ha, hxs⟩ := List.forall_mem_cons.mp hxs
      obtain ⟨hb, hys⟩ := List.forall_mem_cons.mp hys
      rw [List.flatMap_cons, List.flatMap_cons] at heq
      obtain ⟨hfirst, hrest⟩ := List.append_inj heq ((h a).trans (h b).symm)
      rw [hinj a b ha hb hfirst, ih hxs hys hrest (Nat.succ.inj hlength)]

end Rows

/-! ## Bytes -/

/-- The bits of some bytes. -/
def ofBytes (bytes : List UInt8) : List Bool := bytes.flatMap fun byte => ofNat 8 byte.toNat

theorem length_ofBytes (bytes : List UInt8) : (ofBytes bytes).length = 8 * bytes.length :=
  length_flatMap (fun _ => length_ofNat 8 _) bytes

theorem ofBytes_injective {bytes bytes' : List UInt8} (h : ofBytes bytes = ofBytes bytes') :
    bytes = bytes' := by
  refine flatMap_injOn (p := fun _ => True) (by decide) (fun _ => length_ofNat 8 _)
    (fun a b _ _ hab => UInt8.toNat_inj.mp ?_) (fun _ _ => trivial) (fun _ _ => trivial) h
  rw [← toNat_ofNat a.toNat_lt, ← toNat_ofNat b.toNat_lt, hab]

theorem exists_byte_eq {bits : List Bool} (h : bits.length = 8) :
    ∃ byte : UInt8, ofNat 8 byte.toNat = bits := by
  have hlt := toNat_lt bits
  rw [h] at hlt
  refine ⟨UInt8.ofNatLT (toNat bits) hlt, ?_⟩
  rw [UInt8.toNat_ofNatLT, ← h, ofNat_toNat]

/-- Bits are those of bytes if they can be cut into eights. -/
theorem exists_ofBytes_eq {n : Nat} {bits : List Bool} (h : bits.length = 8 * n) :
    ∃ bytes, bytes.length = n ∧ ofBytes bytes = bits := by
  induction n generalizing bits with
  | zero => exact ⟨[], rfl, (List.length_eq_zero_iff.mp h).symm⟩
  | succ n ih =>
    have hfirst : (bits.take 8).length = 8 := by
      rw [List.length_take]
      omega
    have hrest : (bits.drop 8).length = 8 * n := by
      rw [List.length_drop]
      omega
    obtain ⟨byte, hbyte⟩ := exists_byte_eq hfirst
    obtain ⟨bytes, hlength, hbytes⟩ := ih hrest
    refine ⟨byte :: bytes, congrArg Nat.succ hlength, ?_⟩
    rw [ofBytes, List.flatMap_cons, hbyte, ← ofBytes, hbytes, List.take_append_drop]

/-! ## Counting -/

theorem ncard_length (n : Nat) : {bits : List Bool | bits.length = n}.ncard = 2 ^ n := by
  have hcard : Nat.card (List.Vector Bool n) = 2 ^ n := by
    rw [Nat.card_eq_fintype_card, card_vector, Fintype.card_bool]
  exact (Nat.card_coe_set_eq _).symm.trans hcard

/-- What follows the given bits may be anything. -/
theorem ncard_startingWith {n : Nat} {start : List Bool} (h : start.length ≤ 8 * n) :
    {bytes : List UInt8 | bytes.length = n ∧
      (ofBytes bytes).take start.length = start}.ncard = 2 ^ (8 * n - start.length) := by
  rw [← ncard_length]
  -- bytes that start with the given bits are known by their other bits
  refine Set.ncard_congr (fun bytes _ => (ofBytes bytes).drop start.length) ?_ ?_ ?_
  · rintro bytes ⟨hlength, -⟩
    rw [Set.mem_ofPred_eq, List.length_drop, length_ofBytes, hlength]
  · rintro bytes bytes' ⟨-, hstart⟩ ⟨-, hstart'⟩ hrest
    apply ofBytes_injective
    rw [← List.take_append_drop start.length (ofBytes bytes), hstart, hrest]
    nth_rewrite 1 [← hstart']
    rw [List.take_append_drop]
  · intro rest hrest
    have hbits : (start ++ rest).length = 8 * n := by
      rw [List.length_append, hrest.out]
      omega
    obtain ⟨bytes, hlength, hbytes⟩ := exists_ofBytes_eq hbits
    refine ⟨bytes, ⟨hlength, ?_⟩, ?_⟩
    · rw [hbytes, List.take_left]
    · rw [hbytes, List.drop_left]

end Bits
end FormBuilder
