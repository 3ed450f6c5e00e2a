import FormBuilder.Json.Shape
import FormBuilder.Proofs.Json.RoundTrip

/-!
What the reader returns.  Values that are read have no NaN, no infinities and no integers
out of range, so they come back from their own text unchanged: `readValue_isPlain`.  A
reader that wants a scalar, an array or an object at once finds what the reader of any
value finds, if that is one.
-/

namespace FormBuilder
namespace Json

/-- A value that its own text spells. -/
structure IsPlain (n : Nat) (v : Json) : Prop where
  fits : Fits n v
  printed : v.printed = v

theorem IsPlain.items {n : Nat} {items : List Json} (h : IsPlain (n + 1) (.array items)) :
    ∀ v ∈ items, IsPlain n v := by
  intro v hv
  have hprinted : items.map Json.printed = items.map id := by
    rw [List.map_id, ← array.injEq, ← printed_array, h.printed]
  cases h.fits with
  | array hfits => exact ⟨hfits v hv, List.map_inj_left.mp hprinted v hv⟩

theorem IsPlain.members {n : Nat} {members : List (String × Json)}
    (h : IsPlain (n + 1) (.object members)) : ∀ m ∈ members, IsPlain n m.2 := by
  intro m hm
  have hprinted : (members.map fun m => (m.1, m.2.printed)) = members.map id := by
    rw [List.map_id, ← object.injEq, ← printed_object, h.printed]
  cases h.fits with
  | object hfits =>
    exact ⟨hfits m hm, congrArg Prod.snd (List.map_inj_left.mp hprinted m hm)⟩

/-! ## Scalars -/

variable {s rest : List Char} {v : Json} {negative : Bool}

theorem ofDecimal_isPlain {d : Decimal} (h : ofDecimal negative d = .ok v) (n : Nat) :
    IsPlain n v := by
  unfold ofDecimal at h
  split at h
  next m _ => exact Except.ok.inj h ▸ ⟨.float n _, rfl⟩
  next => exact nomatch h

theorem ofInteger_isPlain {digits : List Char} (h : ofInteger negative digits = .ok v) (n : Nat) :
    IsPlain n v := by
  unfold ofInteger at h
  extract_lets k signed at h
  split_ifs at h with hfloat
  · exact ofDecimal_isPlain h n
  · have hrange : isInteger signed = true := by
      by_contra hnot
      exact hfloat (.inr hnot)
    exact Except.ok.inj h ▸ ⟨.int n hrange, rfl⟩

theorem readExponent_isPlain {whole fraction : List Char}
    (h : readExponent negative whole fraction s = .ok (v, rest)) (n : Nat) : IsPlain n v := by
  unfold readExponent at h
  dsimp only at h
  split_ifs at h
  obtain ⟨w, hw, h⟩ := bind_eq_ok_iff.mp h
  obtain ⟨rfl, -⟩ := Prod.mk.inj (Except.ok.inj h)
  exact ofDecimal_isPlain hw n

theorem readFraction_isPlain {whole : List Char}
    (h : readFraction negative whole s = .ok (v, rest)) (n : Nat) : IsPlain n v := by
  unfold readFraction at h
  split at h
  next =>
    dsimp only at h
    split_ifs at h
    split at h
    next => exact readExponent_isPlain h n
    next => exact readExponent_isPlain h n
    next =>
      obtain ⟨w, hw, h⟩ := bind_eq_ok_iff.mp h
      obtain ⟨rfl, -⟩ := Prod.mk.inj (Except.ok.inj h)
      exact ofDecimal_isPlain hw n
  next => exact readExponent_isPlain h n
  next => exact readExponent_isPlain h n
  next =>
    obtain ⟨w, hw, h⟩ := bind_eq_ok_iff.mp h
    obtain ⟨rfl, -⟩ := Prod.mk.inj (Except.ok.inj h)
    exact ofInteger_isPlain hw n

theorem readNumber_isPlain (h : readNumber negative s = .ok (v, rest)) (n : Nat) : IsPlain n v := by
  unfold readNumber at h
  split at h
  next => exact nomatch h
  next => exact nomatch h
  next => exact nomatch h
  next => exact readFraction_isPlain h n

theorem readScalar_isPlain (h : readScalar s = .ok (v, rest)) (n : Nat) : IsPlain n v := by
  unfold readScalar at h
  split at h
  next => exact nomatch h
  next =>
    obtain ⟨_, -, h⟩ := bind_eq_ok_iff.mp h
    exact (Prod.mk.inj (Except.ok.inj h)).1 ▸ ⟨.null n, rfl⟩
  next =>
    obtain ⟨_, -, h⟩ := bind_eq_ok_iff.mp h
    exact (Prod.mk.inj (Except.ok.inj h)).1 ▸ ⟨.bool n _, rfl⟩
  next =>
    obtain ⟨_, -, h⟩ := bind_eq_ok_iff.mp h
    exact (Prod.mk.inj (Except.ok.inj h)).1 ▸ ⟨.bool n _, rfl⟩
  next =>
    obtain ⟨_, -, h⟩ := bind_eq_ok_iff.mp h
    exact (Prod.mk.inj (Except.ok.inj h)).1 ▸ ⟨.string n _, rfl⟩
  next => exact readNumber_isPlain h n
  next =>
    split_ifs at h
    exact readNumber_isPlain h n

/-! ## Values -/

/-- No array and no object starts here. -/
def NoBracket (s : List Char) : Prop := ∀ c ∈ s.head?, c ≠ '[' ∧ c ≠ '{'

theorem noBracket_cons {c : Char} : NoBracket (c :: s) ↔ c ≠ '[' ∧ c ≠ '{' := by simp [NoBracket]

/-- What the text of a value starts with, and what is read of it. -/
inductive Value : Nat → List Char → Json → List Char → Prop where
  | scalar {n s v rest} (hs : NoBracket (skipBlank s)) (h : readScalar (skipBlank s) = .ok (v, rest)) :
      Value n s v rest
  | array {n s t items rest} (hs : skipBlank s = '[' :: t)
      (h : readItems (readItem (readValue n)) [] t = .ok (items, rest)) :
      Value (n + 1) s (.array items) rest
  | object {n s t members rest} (hs : skipBlank s = '{' :: t)
      (h : readMembers (readMember (readValue n)) [] t = .ok (members, rest)) :
      Value (n + 1) s (.object members) rest

theorem readValue_of_noBracket (hs : NoBracket (skipBlank s)) (n : Nat) :
    readValue n s = readScalar (skipBlank s) := by
  have hany : ∀ inner, readAny inner s = readScalar (skipBlank s) := by
    intro inner
    unfold readAny
    split
    next heq => exact absurd rfl (noBracket_cons.mp (heq ▸ hs)).1
    next heq => exact absurd rfl (noBracket_cons.mp (heq ▸ hs)).2
    next heq => exact absurd rfl (noBracket_cons.mp (heq ▸ hs)).1
    next heq => exact absurd rfl (noBracket_cons.mp (heq ▸ hs)).2
    next => rfl
  cases n <;> exact hany _

theorem readValue_congr {t : List Char} (h : skipBlank s = skipBlank t) (n : Nat) :
    readValue n s = readValue n t := by
  have hany : ∀ inner, readAny inner s = readAny inner t := by
    intro inner
    unfold readAny
    rw [h]
  cases n <;> exact hany _

theorem bracket_or_brace_of_not_noBracket (h : ¬ NoBracket s) :
    ∃ t, s = '[' :: t ∨ s = '{' :: t := by
  cases s with
  | nil => exact absurd (fun c hc => nomatch hc) h
  | cons c t =>
    rw [noBracket_cons, not_and_or, not_not, not_not] at h
    exact ⟨t, h.imp (fun hc => by rw [hc]) fun hc => by rw [hc]⟩

theorem readValue_eq_ok_iff {n : Nat} : readValue n s = .ok (v, rest) ↔ Value n s v rest := by
  constructor
  · intro h
    by_cases hs : NoBracket (skipBlank s)
    · exact .scalar hs ((readValue_of_noBracket hs n).symm.trans h)
    · obtain ⟨t, ht | ht⟩ := bracket_or_brace_of_not_noBracket hs
      · rw [readValue_congr (show skipBlank s = skipBlank ('[' :: t) from ht)] at h
        cases n with
        | zero => exact nomatch h
        | succ n =>
          rw [readValue_bracket, map_eq_ok_iff] at h
          obtain ⟨⟨items, _⟩, hitems, hv⟩ := h
          obtain ⟨rfl, rfl⟩ := Prod.mk.inj hv
          exact .array ht hitems
      · rw [readValue_congr (show skipBlank s = skipBlank ('{' :: t) from ht)] at h
        cases n with
        | zero => exact nomatch h
        | succ n =>
          rw [readValue_brace, map_eq_ok_iff] at h
          obtain ⟨⟨members, _⟩, hmembers, hv⟩ := h
          obtain ⟨rfl, rfl⟩ := Prod.mk.inj hv
          exact .object ht hmembers
  · intro h
    cases h with
    | scalar hs h => exact (readValue_of_noBracket hs _).trans h
    | @array n _ t items _ hs h =>
      rw [readValue_congr (show skipBlank s = skipBlank ('[' :: t) from hs), readValue_bracket, h]
      rfl
    | @object n _ t members _ hs h =>
      rw [readValue_congr (show skipBlank s = skipBlank ('{' :: t) from hs), readValue_brace, h]
      rfl

/-- No array and no object. -/
def isFlat : Json → Bool
  | .array _ | .object _ => false
  | _ => true

theorem isFlat_of_isPlain_zero (h : IsPlain 0 v) : v.isFlat = true := by
  cases h.fits <;> rfl

theorem readValue_array_iff {n : Nat} {items : List Json} :
    readValue (n + 1) s = .ok (.array items, rest) ↔
      ∃ t, skipBlank s = '[' :: t ∧ Items (readValue n) true t items rest ∧
        items.length < t.length + 1 := by
  rw [readValue_eq_ok_iff]
  constructor
  · intro h
    cases h with
    | scalar _ h => exact nomatch isFlat_of_isPlain_zero (readScalar_isPlain h 0)
    | array hs h => exact ⟨_, hs, readItems_eq_ok_iff.mp h⟩
  · rintro ⟨t, hs, h⟩
    exact .array hs (readItems_eq_ok_iff.mpr h)

theorem readValue_object_iff {n : Nat} {members : List (String × Json)} :
    readValue (n + 1) s = .ok (.object members, rest) ↔
      ∃ t, skipBlank s = '{' :: t ∧ Members (readValue n) true t members rest ∧
        members.length < t.length + 1 := by
  rw [readValue_eq_ok_iff]
  constructor
  · intro h
    cases h with
    | scalar _ h => exact nomatch isFlat_of_isPlain_zero (readScalar_isPlain h 0)
    | object hs h => exact ⟨_, hs, readMembers_eq_ok_iff.mp h⟩
  · rintro ⟨t, hs, h⟩
    exact .object hs (readMembers_eq_ok_iff.mpr h)

theorem readFlat_eq_ok_iff {wanted : String} (n : Nat) :
    readFlat wanted s = .ok (v, rest) ↔ readValue n s = .ok (v, rest) ∧ v.isFlat = true := by
  by_cases hs : NoBracket (skipBlank s)
  · have hflat : readFlat wanted s = readScalar (skipBlank s) := by
      unfold readFlat
      split
      next heq => exact absurd rfl (noBracket_cons.mp (heq ▸ hs)).1
      next heq => exact absurd rfl (noBracket_cons.mp (heq ▸ hs)).2
      next => rfl
    rw [hflat, readValue_of_noBracket hs]
    exact ⟨fun h => ⟨h, isFlat_of_isPlain_zero (readScalar_isPlain h 0)⟩, And.left⟩
  · have hrefused : ∃ e, readFlat wanted s = .error e := by
      obtain ⟨t, ht | ht⟩ := bracket_or_brace_of_not_noBracket hs <;>
      · rw [readFlat, ht]
        exact ⟨_, rfl⟩
    obtain ⟨e, he⟩ := hrefused
    rw [he]
    refine ⟨fun h => (nomatch h), fun ⟨h, hflat⟩ => ?_⟩
    cases readValue_eq_ok_iff.mp h with
    | scalar hs' => exact absurd hs' hs
    | array => exact nomatch hflat
    | object => exact nomatch hflat

end Json
end FormBuilder
