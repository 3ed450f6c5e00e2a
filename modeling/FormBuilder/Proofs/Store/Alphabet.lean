import FormBuilder.Store.Id

/-!
What ids look like.  Every three bytes give four characters, all of them letters, digits,
`-` or `_`; a block has the bytes for as many characters as the id is to have.
-/

namespace FormBuilder

theorem Entropy.length_peek (e : Entropy) (n : Nat) : (e.peek n).length = n := by
  simp [peek]

namespace FieldId

/-- The characters of ids: letters without accents, digits, `-` and `_`. -/
def IsPlain (c : Char) : Prop := c.isAlphanum = true ∨ c = '-' ∨ c = '_'

theorem isPlain_character {n : Nat} (h : n < 64) : IsPlain (character n) := by
  have hall : ∀ n, n < 64 →
      (character n).isAlphanum = true ∨ character n = '-' ∨ character n = '_' := by decide
  exact hall n h

theorem exists_character_of_mem_encode {bytes : List UInt8} :
    ∀ c ∈ encode bytes, ∃ n < 64, character n = c := by
  induction bytes using encode.induct with
  | case1 a b c rest ih =>
    have ha : a.toNat < 256 := a.toNat_lt_size
    have hb : b.toNat < 256 := b.toNat_lt_size
    have hc : c.toNat < 256 := c.toNat_lt_size
    simp only [encode, List.forall_mem_cons]
    refine ⟨⟨_, ?_, rfl⟩, ⟨_, ?_, rfl⟩, ⟨_, ?_, rfl⟩, ⟨_, ?_, rfl⟩, ih⟩ <;> omega
  | case2 bytes h =>
    rw [encode.eq_2 bytes h]
    exact fun _ hc => absurd hc List.not_mem_nil

theorem isPlain_of_mem_encode {bytes : List UInt8} : ∀ c ∈ encode bytes, IsPlain c := by
  intro c hc
  obtain ⟨n, hn, rfl⟩ := exists_character_of_mem_encode c hc
  exact isPlain_character hn

theorem length_lt_three {bytes : List UInt8}
    (h : ∀ a b c rest, bytes = a :: b :: c :: rest → False) : bytes.length < 3 := by
  match bytes, h with
  | [], _ | [_], _ | [_, _], _ => simp
  | a :: b :: c :: rest, h => exact absurd rfl (h a b c rest)

theorem length_encode (bytes : List UInt8) : (encode bytes).length = bytes.length / 3 * 4 := by
  induction bytes using encode.induct with
  | case1 a b c rest ih =>
    simp only [encode, List.length_cons, ih]
    omega
  | case2 bytes h =>
    rw [encode.eq_2 bytes h, Nat.div_eq_of_lt (length_lt_three h)]
    rfl

variable {length : Nat} {e : Entropy}

theorem blockLength_eq (length : Nat) : blockLength length = 3 * ((length + 3) / 4) :=
  Nat.mul_comm _ _

theorem length_generate (length : Nat) (e : Entropy) : (generate length e).1.length = length := by
  simp only [generate, ofBlock, String.length_ofList, List.length_take, length_encode,
    Entropy.length_peek, blockLength]
  omega

theorem isPlain_of_mem_generate : ∀ c ∈ (generate length e).1.toList, IsPlain c := by
  intro c hc
  simp only [generate, ofBlock, String.toList_ofList] at hc
  exact isPlain_of_mem_encode c (List.mem_of_mem_take hc)

end FieldId
end FormBuilder
