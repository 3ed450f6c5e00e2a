import FormBuilder.Json.Quoted
import FormBuilder.Json.Reader
import FormBuilder.Proofs.Text.Lines
import Mathlib.Data.List.Forall2
import Mathlib.Tactic.SplitIfs

/-!
Literals of strings.  `IsLiteral` is their grammar, in which a character may be spelled in
several ways.  A literal is read back wherever it stands, `readString_spellings`, so its
text and what follows it determine both; and quoted strings are literals without line breaks.
-/

namespace FormBuilder
namespace Quoted

open Json

/-! ## Grammar -/

/-- What may stand for one character between quotes. -/
inductive Spells : List Char → Char → Prop where
  | plain {c : Char} (hquote : c ≠ '"') (hback : c ≠ '\\') (h : 0x20 ≤ c.toNat) : Spells [c] c
  | short {e c : Char} (h : escapedChar? e = some c) : Spells ['\\', e] c
  | unit {a b c d : Char} {n : Nat} (h : hexUnit a b c d = .ok n)
    (hleading : ¬ isLeading n = true) (htrailing : ¬ isTrailing n = true) :
    Spells ['\\', 'u', a, b, c, d] (Char.ofNat n)
  | pair {a b c d a' b' c' d' : Char} {n m : Nat} (h : hexUnit a b c d = .ok n)
    (h' : hexUnit a' b' c' d' = .ok m) (hleading : isLeading n = true)
    (htrailing : isTrailing m = true) :
    Spells ['\\', 'u', a, b, c, d, '\\', 'u', a', b', c', d'] (pairChar n m)

/-- A text that is a string in quotes, and the string. -/
def IsLiteral (t s : List Char) : Prop :=
  ∃ spellings, List.Forall₂ Spells spellings s ∧ t = '"' :: (spellings.flatten ++ ['"'])

/-! ## Reading back -/

/-- What a reader returns with one more character in front. -/
def withChar (c : Char) (r : Except Error (Read (List Char))) : Except Error (Read (List Char)) :=
  r.map fun p => (c :: p.1, p.2)

theorem readString_spelling {t : List Char} {c : Char} (h : Spells t c) (rest : List Char) :
    readString (t ++ rest) = withChar c (readString rest) := by
  cases h with
  | plain hquote hback h =>
    show readString (c :: rest) = _
    rw [readString.eq_7 c rest (fun hc => absurd hc hquote) (fun hc => absurd hc hback)
      (fun _ _ _ _ _ hc => absurd hc hback) (fun _ hc => absurd hc hback)
      (fun _ _ hc => absurd hc hback), if_neg (Nat.not_lt.mpr h)]
    cases readString rest <;> rfl
  | @short e _ h =>
    have hu : e ≠ 'u' := by
      rintro rfl
      exact nomatch h
    show readString ('\\' :: e :: rest) = _
    rw [readString.eq_6 e rest (fun _ _ _ _ _ he => absurd he hu) (fun he => absurd he hu), h]
    cases readString rest <;> rfl
  | @unit a b c d n h hleading htrailing =>
    show readString ('\\' :: 'u' :: a :: b :: c :: d :: rest) = _
    rw [readString.eq_4, h]
    show (if isTrailing n = true then _ else _) = _
    rw [if_neg htrailing, if_neg hleading]
    cases readString rest <;> rfl
  | @pair a b c d a' b' c' d' n m h h' hleading htrailing =>
    have hnot : ¬ isTrailing n = true := by
      simp only [isLeading, isTrailing, Bool.and_eq_true, decide_eq_true_eq] at hleading ⊢
      omega
    show readString ('\\' :: 'u' :: a :: b :: c :: d :: '\\' :: 'u' :: a' :: b' :: c' :: d' ::
      rest) = _
    rw [readString.eq_4, h]
    show (if isTrailing n = true then _ else _) = _
    rw [if_neg hnot, if_pos hleading]
    show (hexUnit a' b' c' d' >>= _) = _
    rw [h']
    show (if isTrailing m = true then _ else _) = _
    rw [if_pos htrailing]
    cases readString rest <;> rfl

theorem readString_spellings {spellings : List (List Char)} {s : List Char}
    (h : List.Forall₂ Spells spellings s) (rest : List Char) :
    readString (spellings.flatten ++ '"' :: rest) = .ok (s, rest) := by
  induction h with
  | nil => rfl
  | cons hc _ ih =>
    rw [List.flatten_cons, List.append_assoc, readString_spelling hc, ih]
    rfl

/-- A literal ends at one place only, and is one string only. -/
theorem IsLiteral.append_inj {t t' s s' rest rest' : List Char} (h : IsLiteral t s)
    (h' : IsLiteral t' s') (heq : t ++ rest = t' ++ rest') : s = s' ∧ rest = rest' := by
  obtain ⟨spellings, hs, rfl⟩ := h
  obtain ⟨spellings', hs', rfl⟩ := h'
  have hbody : spellings.flatten ++ '"' :: rest = spellings'.flatten ++ '"' :: rest' := by
    simpa using heq
  have hread := congrArg readString hbody
  rw [readString_spellings hs, readString_spellings hs'] at hread
  simpa using hread

/-! ## Quoted strings -/

theorem hexDigit?_digitChar : ∀ n, n < 16 → hexDigit? (Nat.digitChar n) = some n := by decide

/-- A control character from its two hexadecimal digits. -/
theorem hexUnit_digitChar {n : Nat} (h : n < 0x20) :
    hexUnit '0' '0' (Nat.digitChar (n / 16)) (Nat.digitChar (n % 16)) = .ok n := by
  have hzero : hexDigit? '0' = some 0 := by decide
  have hhigh := hexDigit?_digitChar (n / 16) (by omega)
  have hlow := hexDigit?_digitChar (n % 16) (by omega)
  have hn : n / 16 * 16 + n % 16 = n := by omega
  simp only [hexUnit, hzero, hhigh, hlow, Nat.zero_mul, Nat.zero_add, hn]

theorem spells_control {c : Char} (h : c.toNat < 0x20) :
    Spells ['\\', 'u', '0', '0', Nat.digitChar (c.toNat / 16), Nat.digitChar (c.toNat % 16)] c := by
  have hleading : ¬ isLeading c.toNat = true := by simp [isLeading]; omega
  have htrailing : ¬ isTrailing c.toNat = true := by simp [isTrailing]; omega
  have hunit := Spells.unit (hexUnit_digitChar h) hleading htrailing
  rwa [Char.ofNat_toNat] at hunit

/-- The ways in which `escape` spells a character. -/
inductive Escaped (c : Char) : List Char → Prop where
  | plain (hquote : c ≠ '"') (hback : c ≠ '\\') (h : 0x20 ≤ c.toNat) : Escaped c [c]
  | short {e : Char} (h : escapedChar? e = some c) (he : 0x20 ≤ e.toNat) : Escaped c ['\\', e]
  | control (h : c.toNat < 0x20) :
    Escaped c ['\\', 'u', '0', '0', Nat.digitChar (c.toNat / 16), Nat.digitChar (c.toNat % 16)]

theorem escaped_escape (c : Char) : Escaped c (escape c) := by
  unfold escape
  split_ifs with hquote hback hb ht hn hf hr hcontrol
  · subst hquote
    exact .short rfl (by decide)
  · subst hback
    exact .short rfl (by decide)
  · subst hb
    exact .short rfl (by decide)
  · subst ht
    exact .short rfl (by decide)
  · subst hn
    exact .short rfl (by decide)
  · subst hf
    exact .short rfl (by decide)
  · subst hr
    exact .short rfl (by decide)
  · exact .control hcontrol
  · exact .plain hquote hback (Nat.not_lt.mp hcontrol)

theorem Escaped.spells {c : Char} {t : List Char} (h : Escaped c t) : Spells t c := by
  cases h with
  | plain hquote hback h => exact .plain hquote hback h
  | short h _ => exact .short h
  | control h => exact spells_control h

theorem forall₂_spells_escape (s : List Char) : List.Forall₂ Spells (s.map escape) s := by
  rw [List.forall₂_map_left_iff]
  exact List.forall₂_same.mpr fun c _ => (escaped_escape c).spells

theorem isLiteral_encode (s : List Char) : IsLiteral (encode s) s :=
  ⟨s.map escape, forall₂_spells_escape s, by rw [encode, List.flatMap_def]⟩

theorem readString_encode (s rest : List Char) :
    readString (s.flatMap escape ++ '"' :: rest) = .ok (s, rest) := by
  rw [List.flatMap_def]
  exact readString_spellings (forall₂_spells_escape s) rest

theorem readScalar_encode (s : String) (rest : List Char) :
    readScalar (encode s.toList ++ rest) = .ok (.string s, rest) := by
  rw [encode, List.cons_append, List.append_assoc, List.singleton_append, readScalar,
    readString_encode]
  show Except.ok (Json.string (String.ofList s.toList), rest) = _
  rw [String.ofList_toList]

/-- A quoted string ends at one place only. -/
theorem encode_append_inj {s t rest rest' : List Char}
    (h : encode s ++ rest = encode t ++ rest') : s = t ∧ rest = rest' :=
  (isLiteral_encode s).append_inj (isLiteral_encode t) h

theorem encode_injective {s t : List Char} (h : encode s = encode t) : s = t :=
  (encode_append_inj (congrArg (· ++ []) h)).1

/-! ## Lines -/

theorem Escaped.le_toNat {c : Char} {t : List Char} (h : Escaped c t) :
    ∀ d ∈ t, 0x20 ≤ d.toNat := by
  have hdigit : ∀ n, n < 16 → 0x20 ≤ (Nat.digitChar n).toNat := by decide
  cases h with
  | plain _ _ h => exact List.forall_mem_singleton.mpr h
  | short _ he =>
    simp only [List.forall_mem_cons]
    exact ⟨by decide, he, List.forall_mem_nil _⟩
  | control h =>
    have hhigh := hdigit (c.toNat / 16) (by omega)
    have hlow := hdigit (c.toNat % 16) (by omega)
    simp only [List.forall_mem_cons]
    exact ⟨by decide, by decide, by decide, by decide, hhigh, hlow, List.forall_mem_nil _⟩

/-- A quoted string has no control characters. -/
theorem le_toNat_of_mem_encode (s : List Char) : ∀ c ∈ encode s, 0x20 ≤ c.toNat := by
  rw [encode, List.forall_mem_cons, List.forall_mem_append, List.forall_mem_singleton]
  refine ⟨by decide, fun d hd => ?_, by decide⟩
  obtain ⟨c, -, hc⟩ := List.mem_flatMap.mp hd
  exact (escaped_escape c).le_toNat d hc

theorem isLine_encode (s : List Char) : Text.IsLine (encode s) := by
  constructor
  · exact fun h => absurd (le_toNat_of_mem_encode s _ h) (by decide)
  · exact fun h => absurd (le_toNat_of_mem_encode s _ h) (by decide)

end Quoted
end FormBuilder
