import FormBuilder.Proofs.Number.Bits
import FormBuilder.Proofs.Store.Alphabet

/-!
How random ids are.  The bits of an id are the first bits of its block of random bytes, six
for every character: `flatMap_ofBlock`.  So an id holds as many random bits as there is room
for, and every text of its length is as likely as any other one: `generate_bits`.
-/

namespace FormBuilder

theorem Entropy.peek_ofBytes (bytes : List UInt8) :
    (ofBytes bytes.toArray).peek bytes.length = bytes := by
  refine List.ext_getElem (length_peek _ _) fun i hi hi' => ?_
  simp [peek, ofBytes, hi']

namespace FieldId

/-- Letters without accents, digits, `-` and `_`, in the order of the numbers they stand for. -/
def alphabet : List Char :=
  "ABCDEFGHIJKLMNOPQRSTUVWXYZabcdefghijklmnopqrstuvwxyz0123456789-_".toList

/-- The six bits that a character stands for. -/
def characterBits (c : Char) : List Bool := Bits.ofNat 6 (sextet c)

variable {length i : Nat} {bytes block : List UInt8} {c c' : Char}

/-! ## Characters -/

theorem alphabet_eq : alphabet = (List.range 64).map character := by decide

theorem getElem?_alphabet {n : Nat} (h : n < 64) : alphabet[n]? = some (character n) := by
  simp [alphabet_eq, h]

theorem sextet_of_mem_alphabet (h : c ∈ alphabet) :
    sextet c < 64 ∧ character (sextet c) = c := by
  rw [alphabet_eq] at h
  obtain ⟨n, hn, rfl⟩ := List.mem_map.mp h
  have hlt := List.mem_range.mp hn
  rw [sextet_character n hlt]
  exact ⟨hlt, rfl⟩

theorem length_characterBits (c : Char) : (characterBits c).length = 6 := Bits.length_ofNat 6 _

theorem toNat_characterBits (h : c ∈ alphabet) : Bits.toNat (characterBits c) = sextet c :=
  Bits.toNat_ofNat (sextet_of_mem_alphabet h).1

theorem characterBits_injOn (h : c ∈ alphabet) (h' : c' ∈ alphabet)
    (heq : characterBits c = characterBits c') : c = c' := by
  rw [← (sextet_of_mem_alphabet h).2, ← (sextet_of_mem_alphabet h').2,
    ← toNat_characterBits h, ← toNat_characterBits h', heq]

theorem mem_alphabet_of_mem_encode (h : c ∈ encode bytes) : c ∈ alphabet := by
  obtain ⟨n, hn, rfl⟩ := exists_character_of_mem_encode c h
  exact List.mem_of_getElem? (getElem?_alphabet hn)

/-! ## Blocks -/

theorem characterBits_character {n : Nat} (h : n < 64) :
    characterBits (character n) = Bits.ofNat 6 n := by
  rw [characterBits, sextet_character n h]

theorem characterBits_of_lt {n : Nat} (h : n < 0x1000000) :
    characterBits (character (n / 0x40000)) ++ characterBits (character (n / 0x1000 % 0x40)) ++
      characterBits (character (n / 0x40 % 0x40)) ++ characterBits (character (n % 0x40)) =
      Bits.ofNat 24 n := by
  have hfirst : n / 0x40000 < 64 := by omega
  have hmod : ∀ m, m % 0x40 < 64 := fun m => Nat.mod_lt m (by decide)
  have hcut := Bits.ofNat_add 18 6 n
  rw [Bits.ofNat_add 12 6, Bits.ofNat_add 6 6] at hcut
  simp only [Nat.div_div_eq_div_mul, Nat.reducePow, Nat.reduceMul, Nat.reduceAdd] at hcut
  rw [characterBits_character hfirst, characterBits_character (hmod _),
    characterBits_character (hmod _), characterBits_character (hmod _)]
  exact hcut.symm

theorem ofNat_of_bytes (a b c : UInt8) :
    Bits.ofNat 24 ((a.toNat * 0x100 + b.toNat) * 0x100 + c.toNat) =
      Bits.ofNat 8 a.toNat ++ Bits.ofNat 8 b.toNat ++ Bits.ofNat 8 c.toNat := by
  have hpair := Bits.ofNat_append 8 8 a.toNat b.toNat_lt
  have hall := Bits.ofNat_append 16 8 (a.toNat * 2 ^ 8 + b.toNat) c.toNat_lt
  simp only [Nat.reducePow, Nat.reduceAdd] at hpair hall
  rw [hall, hpair]

/-- Three bytes have the bits of four characters. -/
theorem flatMap_encode (h : 3 ∣ bytes.length) :
    (encode bytes).flatMap characterBits = Bits.ofBytes bytes := by
  -- by blocks of three bytes; fewer than three are left only if none are
  induction bytes using encode.induct with
  | case1 a b c rest ih =>
    have hrest : 3 ∣ rest.length := (Nat.dvd_add_left (Nat.dvd_refl 3)).mp h
    have hlt : (a.toNat * 0x100 + b.toNat) * 0x100 + c.toNat < 0x1000000 := by
      have := a.toNat_lt
      have := b.toNat_lt
      have := c.toNat_lt
      omega
    have hbits := (characterBits_of_lt hlt).trans (ofNat_of_bytes a b c)
    simp only [encode, Bits.ofBytes, List.flatMap_cons, ← List.append_assoc, hbits, ih hrest]
  | case2 bytes hshort =>
    have hnil : bytes.length = 0 := Nat.eq_zero_of_dvd_of_lt h (length_lt_three hshort)
    rw [List.length_eq_zero_iff.mp hnil]
    rfl

theorem getElem?_encode (h : 3 ∣ bytes.length) (hi : i < (encode bytes).length) :
    (encode bytes)[i]? = alphabet[Bits.toNat (((Bits.ofBytes bytes).drop (6 * i)).take 6)]? := by
  have hbits : ((Bits.ofBytes bytes).drop (6 * i)).take 6 = characterBits (encode bytes)[i] := by
    rw [← flatMap_encode h, Bits.drop_flatMap length_characterBits, List.drop_eq_getElem_cons hi,
      List.flatMap_cons, ← length_characterBits (encode bytes)[i], List.take_left]
  have hmem := mem_alphabet_of_mem_encode (List.getElem_mem hi)
  obtain ⟨hlt, hcharacter⟩ := sextet_of_mem_alphabet hmem
  rw [hbits, toNat_characterBits hmem, getElem?_alphabet hlt, hcharacter,
    List.getElem?_eq_getElem hi]

theorem length_of_mem_blocks (h : block.length = blockLength length) :
    length ≤ (encode block).length ∧ 3 ∣ block.length := by
  rw [length_encode, h, blockLength]
  omega

theorem mem_alphabet_of_mem_ofBlock (h : c ∈ (ofBlock length block).toList) : c ∈ alphabet := by
  rw [ofBlock, String.toList_ofList] at h
  exact mem_alphabet_of_mem_encode (List.mem_of_mem_take h)

/-- The bits of an id are the first bits of its block. -/
theorem flatMap_ofBlock (h : block.length = blockLength length) :
    (ofBlock length block).toList.flatMap characterBits =
      (Bits.ofBytes block).take (6 * length) := by
  obtain ⟨-, hthree⟩ := length_of_mem_blocks h
  rw [ofBlock, String.toList_ofList, ← Bits.take_flatMap length_characterBits,
    flatMap_encode hthree]

theorem toList_injOn {id id' : FieldId} (h : ∀ c ∈ id.toList, c ∈ alphabet)
    (h' : ∀ c ∈ id'.toList, c ∈ alphabet)
    (heq : id.toList.flatMap characterBits = id'.toList.flatMap characterBits) : id = id' :=
  String.toList_inj.mp (Bits.flatMap_injOn (by decide) length_characterBits
    (fun _ _ => characterBits_injOn) h h' heq)

theorem ofBlock_eq_iff {id : FieldId} (h : block.length = blockLength length)
    (hid : ∀ c ∈ id.toList, c ∈ alphabet) :
    ofBlock length block = id ↔
      (Bits.ofBytes block).take (6 * length) = id.toList.flatMap characterBits := by
  rw [← flatMap_ofBlock h]
  exact ⟨fun heq => heq ▸ rfl, toList_injOn (fun _ => mem_alphabet_of_mem_ofBlock) hid⟩

/-! ## Ids -/

theorem generate_fst (length : Nat) (e : Entropy) :
    (generate length e).1 = ofBlock length (e.peek (blockLength length)) := rfl

theorem ncard_ofBlock {id : FieldId} (hlength : id.length = length)
    (hid : ∀ c ∈ id.toList, c ∈ alphabet) :
    {block : List UInt8 | block.length = blockLength length ∧ ofBlock length block = id}.ncard =
      2 ^ (8 * blockLength length - 6 * length) := by
  have hbits : (id.toList.flatMap characterBits).length = 6 * length := by
    rw [Bits.length_flatMap length_characterBits, String.length_toList, hlength]
  have hroom : (id.toList.flatMap characterBits).length ≤ 8 * blockLength length := by
    rw [hbits, blockLength]
    omega
  rw [← hbits, ← Bits.ncard_startingWith hroom, hbits]
  congr 1
  ext block
  exact and_congr_right fun hblock => ofBlock_eq_iff hblock hid

/-- The random bits that are drawn for an id. -/
def drawnBits (length : Nat) (e : Entropy) : List Bool :=
  Bits.ofBytes (e.peek (blockLength length))

/-- An id of any length takes three bytes for every four characters.  Its characters are
those of the alphabet that six random bits each stand for, so that ids are the same exactly if
these bits are, and every text of this length over the alphabet comes from the same number of
blocks.  The number of bytes fits into every word of two bits or more into which the length
fits. -/
theorem generate_bits (length : Nat) :
    (∀ e, (generate length e).2 = e.skip (3 * ((length + 3) / 4)) ∧
      drawnBits length e = Bits.ofBytes (e.peek (3 * ((length + 3) / 4))) ∧
      (generate length e).1.length = length ∧
      ∀ i < length, (generate length e).1.toList[i]? =
        alphabet[Bits.toNat (((drawnBits length e).drop (6 * i)).take 6)]?) ∧
    (∀ e e', (generate length e).1 = (generate length e').1 ↔
      (drawnBits length e).take (6 * length) = (drawnBits length e').take (6 * length)) ∧
    (∀ id : FieldId, id.length = length → (∀ c ∈ id.toList, c ∈ alphabet) →
      {block : List UInt8 | block.length = 3 * ((length + 3) / 4) ∧
        (generate length (.ofBytes block.toArray)).1 = id}.ncard =
          2 ^ (24 * ((length + 3) / 4) - 6 * length)) ∧
    ∀ width, 2 ≤ width → length < 2 ^ width → 3 * ((length + 3) / 4) < 2 ^ width := by
  have hpeek : ∀ e : Entropy, (e.peek (blockLength length)).length = blockLength length :=
    fun e => e.length_peek _
  rw [← blockLength_eq]
  refine ⟨fun e => ⟨rfl, rfl, length_generate length e, fun i hi => ?_⟩, fun e e' => ?_,
    fun id hlength hid => ?_, fun width hwidth hfits => ?_⟩
  · obtain ⟨hlong, hthree⟩ := length_of_mem_blocks (hpeek e)
    rw [generate_fst, ofBlock, String.toList_ofList, List.getElem?_take_of_lt hi,
      getElem?_encode hthree (hi.trans_le hlong), drawnBits]
  · rw [generate_fst, generate_fst, ofBlock_eq_iff (hpeek e) fun _ => mem_alphabet_of_mem_ofBlock,
      flatMap_ofBlock (hpeek e'), drawnBits, drawnBits]
  · have hexponent : 24 * ((length + 3) / 4) - 6 * length = 8 * blockLength length - 6 * length := by
      rw [blockLength_eq]
      omega
    rw [hexponent, ← ncard_ofBlock hlength hid]
    congr 1
    ext block
    refine and_congr_right fun hblock => ?_
    rw [generate_fst, ← hblock, Entropy.peek_ofBytes]
  · obtain ⟨width, rfl⟩ := Nat.exists_eq_add_of_le hwidth
    rw [Nat.pow_add] at hfits
    rw [blockLength_eq, Nat.pow_add]
    omega

/-- The last two bits of the fourth byte and what comes after it do not show in an id of five
characters. -/
theorem generate_bits_five :
    let e : Entropy := .ofBytes #[0x00, 0x10, 0x83, 0x10, 0x51, 0x87]
    let e' : Entropy := .ofBytes #[0x00, 0x10, 0x83, 0x13, 0xFF, 0xFF]
    (generate 5 e).1 = "ABCDE" ∧ (generate 5 e).1 = (generate 5 e').1 ∧
      (generate 5 e).1.toList[4]? = some 'E' ∧
      (∀ c ∈ "ABCDE".toList, c ∈ alphabet) ∧
      {block : List UInt8 | block.length = 6 ∧
        (generate 5 (.ofBytes block.toArray)).1 = "ABCDE"}.ncard = 2 ^ 18 ∧ 6 < 2 ^ 16 := by
  intro e e'
  have hid : (generate 5 e).1 = "ABCDE" := by decide +kernel
  have hmem : ∀ c ∈ "ABCDE".toList, c ∈ alphabet := fun c hc =>
    mem_alphabet_of_mem_ofBlock (hid ▸ hc : c ∈ (generate 5 e).1.toList)
  obtain ⟨hcharacters, hsame, hcount, hfits⟩ := generate_bits 5
  obtain ⟨-, -, -, hcharacter⟩ := hcharacters e
  refine ⟨hid, (hsame e e').mpr (by decide +kernel), ?_, hmem,
    hcount "ABCDE" (by decide) hmem, hfits 16 (by decide) (by decide)⟩
  rw [hcharacter 4 (by decide)]
  decide +kernel

end FieldId
end FormBuilder
