import FormBuilder.Proofs.Json.Brackets
import FormBuilder.Proofs.Json.Number
import FormBuilder.Proofs.Json.Quoted

/-!
A value is read back from its text, on one line or indented: `parse_compact` and
`parse_pretty`.  Only NaN and the infinities are lost; they come back as `null`.
-/

namespace FormBuilder
namespace Json

/-! ## What a text spells -/

mutual

/-- The value that the text of a value spells. -/
def printed : Json → Json
  | .float (.finite negative m) => .float (.finite negative m)
  | .float _ => .null
  | .array items => .array (printedItems items)
  | .object members => .object (printedMembers members)
  | v => v

def printedItems : List Json → List Json
  | [] => []
  | v :: rest => v.printed :: printedItems rest

def printedMembers : List (String × Json) → List (String × Json)
  | [] => []
  | (name, v) :: rest => (name, v.printed) :: printedMembers rest

end

theorem printed_array (items : List Json) : (array items).printed = .array (items.map printed) := by
  have h : printedItems items = items.map printed := by
    induction items with
    | nil => rfl
    | cons v rest ih => rw [printedItems, ih, List.map_cons]
  rw [printed, h]

theorem printed_object (members : List (String × Json)) :
    (object members).printed = .object (members.map fun m => (m.1, m.2.printed)) := by
  have h : printedMembers members = members.map fun m => (m.1, m.2.printed) := by
    induction members with
    | nil => rfl
    | cons m rest ih => rw [printedMembers, ih, List.map_cons]
  rw [printed, h]

/-- Values with at most `n` arrays and objects around each other, all integers in
their range. -/
inductive Fits : Nat → Json → Prop where
  | null (n) : Fits n .null
  | bool (n b) : Fits n (.bool b)
  | int (n) {i} (h : isInteger i = true) : Fits n (.int i)
  | float (n x) : Fits n (.float x)
  | string (n s) : Fits n (.string s)
  | array {n items} (h : ∀ v ∈ items, Fits n v) : Fits (n + 1) (.array items)
  | object {n members} (h : ∀ m ∈ members, Fits n (Prod.snd m)) : Fits (n + 1) (.object members)

/-! ## White space -/

def AllBlank (s : List Char) : Prop := ∀ c ∈ s, isBlank c = true

instance (s : List Char) : Decidable (AllBlank s) := List.decidableBAll _ s

theorem allBlank_nil : AllBlank [] := fun _ hc => absurd hc List.not_mem_nil

theorem skipBlank_append {blank : List Char} (h : AllBlank blank) (s : List Char) :
    skipBlank (blank ++ s) = skipBlank s :=
  List.dropWhile_append_of_pos h

theorem skipBlank_cons {c : Char} (h : isBlank c = false) (s : List Char) :
    skipBlank (c :: s) = c :: s :=
  List.dropWhile_cons_of_neg (by simp [h])

/-- White space, and a colon with white space after it. -/
structure Layout.IsBlank (l : Layout) : Prop where
  newline : ∀ depth, AllBlank (l.newline depth)
  colon : ∃ after, l.colon = ':' :: after ∧ AllBlank after

theorem Layout.isBlank_compact : Layout.IsBlank .compact where
  newline := fun _ => allBlank_nil
  colon := ⟨[], rfl, allBlank_nil⟩

theorem Layout.isBlank_pretty : Layout.IsBlank .pretty where
  newline := by
    intro depth
    refine List.forall_mem_cons.mpr ⟨rfl, fun c hc => ?_⟩
    rw [List.eq_of_mem_replicate hc]
    rfl
  colon := ⟨[' '], rfl, by decide⟩

theorem readAny_append {blank : List Char} (h : AllBlank blank) (inner : Option (Reader Json))
    (s : List Char) : readAny inner (blank ++ s) = readAny inner s := by
  unfold readAny
  rw [skipBlank_append h]

theorem readValue_append {blank : List Char} (h : AllBlank blank) (n : Nat) (s : List Char) :
    readValue n (blank ++ s) = readValue n s := by
  cases n <;> exact readAny_append h _ s

/-! ## The first character -/

/-- A character that a value can start with. -/
def StartsValue (c : Char) : Prop := isBlank c = false ∧ c ≠ ']'

instance (c : Char) : Decidable (StartsValue c) := inferInstanceAs (Decidable (_ ∧ _))

/-- A character that a value without brackets can start with. -/
def StartsScalar (c : Char) : Prop := StartsValue c ∧ c ≠ '[' ∧ c ≠ '{'

instance (c : Char) : Decidable (StartsScalar c) := inferInstanceAs (Decidable (_ ∧ _))

theorem readValue_eq_readScalar {c : Char} (h : StartsScalar c) (n : Nat) (s : List Char) :
    readValue n (c :: s) = readScalar (c :: s) := by
  obtain ⟨⟨hblank, -⟩, hbracket, hbrace⟩ := h
  have hany : ∀ inner, readAny inner (c :: s) = readScalar (c :: s) := by
    intro inner
    unfold readAny
    rw [skipBlank_cons hblank]
    split
    next heq => exact absurd (List.cons.inj heq).1 hbracket
    next heq => exact absurd (List.cons.inj heq).1 hbrace
    next heq => exact absurd (List.cons.inj heq).1 hbracket
    next heq => exact absurd (List.cons.inj heq).1 hbrace
    next => rfl
  cases n <;> exact hany _

theorem startsScalar_of_isDigit {c : Char} (h : c.isDigit = true) : StartsScalar c := by
  have hne : ∀ d, d.isDigit = false → c ≠ d := by
    rintro d hd rfl
    exact Bool.noConfusion (hd.symm.trans h)
  have hblank : isBlank c = false := by
    simp [isBlank, hne ' ' rfl, hne '\t' rfl, hne '\n' rfl, hne '\r' rfl]
  exact ⟨⟨hblank, hne ']' rfl⟩, hne '[' rfl, hne '{' rfl⟩

theorem exists_signed_eq_cons (negative : Bool) (p : Numeral.Spelling) :
    ∃ c s, signed negative p.text = c :: s ∧ StartsScalar c := by
  cases negative with
  | true => exact ⟨'-', p.text, rfl, by decide⟩
  | false =>
    obtain ⟨c, whole, hcons⟩ := List.exists_cons_of_ne_nil p.isWhole.ne_nil
    have hc : c.isDigit = true := p.isWhole.isDigits c (hcons ▸ List.mem_cons_self)
    exact ⟨c, _, by rw [signed, if_neg (by decide), Numeral.Spelling.text, hcons, List.cons_append],
      startsScalar_of_isDigit hc⟩

theorem exists_write_eq_cons (l : Layout) (depth : Nat) (v : Json) :
    ∃ c s, write l depth v = c :: s ∧ StartsValue c := by
  have hscalar : ∀ {t : List Char}, (∃ c s, t = c :: s ∧ StartsScalar c) →
      ∃ c s, t = c :: s ∧ StartsValue c := fun ⟨c, s, ht, hc⟩ => ⟨c, s, ht, hc.1⟩
  cases v with
  | null => exact ⟨_, _, rfl, by decide⟩
  | bool b => cases b <;> exact ⟨_, _, rfl, by decide⟩
  | int n => exact hscalar (by rw [write, intText_eq_signed]; exact exists_signed_eq_cons _ _)
  | float x =>
    cases x with
    | nan => exact ⟨_, _, rfl, by decide⟩
    | infinite negative => exact ⟨_, _, rfl, by decide⟩
    | finite negative m =>
      obtain ⟨p, htext, -, -⟩ := exists_floatText_eq_signed negative m
      exact hscalar (by rw [write, htext]; exact exists_signed_eq_cons negative p)
  | string s => exact ⟨_, _, rfl, by decide⟩
  | array items => cases items <;> exact ⟨_, _, rfl, by decide⟩
  | object members => cases members <;> exact ⟨_, _, rfl, by decide⟩

/-! ## Commas, brackets and keys -/

theorem nextItem_of_comma (s : List Char) :
    nextItem false (',' :: s) =
      match skipBlank s with
      | [] => .error (.unfinished .value)
      | ']' :: _ => .error (.malformed .trailingComma)
      | rest => .ok (.item rest) := rfl

theorem nextKey_of_comma (s : List Char) :
    nextKey false (',' :: s) =
      match skipBlank s with
      | [] => .error (.unfinished .value)
      | '"' :: rest => readKey rest
      | '}' :: _ => .error (.malformed .trailingComma)
      | _ => .error (.malformed .keyNotString) := rfl

theorem readKey_encode (key : String) (s : List Char) :
    readKey (key.toList.flatMap Quoted.escape ++ ['"'] ++ s) = .ok (.key key s) := by
  rw [List.append_assoc, List.singleton_append, readKey, Quoted.readString_encode]
  show Except.ok (NextKey.key (String.ofList key.toList) s) = _
  rw [String.ofList_toList]

section Next

variable {blank : List Char} (hblank : AllBlank blank)
include hblank

theorem nextItem_close (first : Bool) (s : List Char) :
    nextItem first (blank ++ ']' :: s) = .ok (.close s) := by
  rw [nextItem, skipBlank_append hblank, skipBlank_cons (by decide)]
  rfl

theorem nextItem_first {c : Char} (hc : StartsValue c) (s : List Char) :
    nextItem true (blank ++ c :: s) = .ok (.item (c :: s)) := by
  rw [nextItem, skipBlank_append hblank, skipBlank_cons hc.1]
  split
  next heq => exact nomatch heq
  next heq => exact absurd (List.cons.inj heq).1 hc.2
  next heq => rw [if_pos rfl, heq]

theorem nextItem_comma {c : Char} (hc : StartsValue c) (s : List Char) :
    nextItem false (',' :: (blank ++ c :: s)) = .ok (.item (c :: s)) := by
  rw [nextItem_of_comma, skipBlank_append hblank, skipBlank_cons hc.1]
  split
  next heq => exact nomatch heq
  next heq => exact absurd (List.cons.inj heq).1 hc.2
  next heq => rfl

theorem nextKey_close (first : Bool) (s : List Char) :
    nextKey first (blank ++ '}' :: s) = .ok (.close s) := by
  rw [nextKey, skipBlank_append hblank, skipBlank_cons (by decide)]
  rfl

theorem nextKey_first (key : String) (s : List Char) :
    nextKey true (blank ++ (Quoted.encode key.toList ++ s)) = .ok (.key key s) := by
  rw [nextKey, skipBlank_append hblank, Quoted.encode, List.cons_append,
    skipBlank_cons (by decide)]
  exact readKey_encode key s

theorem nextKey_comma (key : String) (s : List Char) :
    nextKey false (',' :: (blank ++ (Quoted.encode key.toList ++ s))) = .ok (.key key s) := by
  rw [nextKey_of_comma, skipBlank_append hblank, Quoted.encode, List.cons_append,
    skipBlank_cons (by decide)]
  exact readKey_encode key s

end Next

/-- Wherever a value stands in a text, it is read as what its text spells. -/
def ReadsBack (l : Layout) (n : Nat) (v : Json) : Prop :=
  ∀ depth rest, NumberEnds rest → readValue n (write l depth v ++ rest) = .ok (v.printed, rest)

/-! ## Arrays and objects -/

theorem numberEnds_append {blank : List Char} (h : AllBlank blank) {c : Char}
    (hc : c = ',' ∨ c = ']' ∨ c = '}') (s : List Char) : NumberEnds (blank ++ c :: s) := by
  cases blank with
  | nil => rcases hc with rfl | rfl | rfl <;> exact numberEnds_cons.mpr (by decide)
  | cons b blank =>
    have hb : ((b = ' ' ∨ b = '\t') ∨ b = '\n') ∨ b = '\r' := by
      simpa [isBlank] using h b List.mem_cons_self
    rcases hb with ((rfl | rfl) | rfl) | rfl <;> exact numberEnds_cons.mpr (by decide)

section Lists

variable {l : Layout} (hl : l.IsBlank) {n : Nat}
include hl

theorem numberEnds_writeItems (depth : Nat) (items : List Json) (rest : List Char) :
    NumberEnds (writeItems l depth items ++ rest) := by
  cases items with
  | nil =>
    rw [writeItems, List.append_assoc]
    exact numberEnds_append (hl.newline depth) (.inr (.inl rfl)) rest
  | cons v items => exact numberEnds_append allBlank_nil (.inl rfl) _

theorem numberEnds_writeMembers (depth : Nat) (members : List (String × Json))
    (rest : List Char) : NumberEnds (writeMembers l depth members ++ rest) := by
  cases members with
  | nil =>
    rw [writeMembers, List.append_assoc]
    exact numberEnds_append (hl.newline depth) (.inr (.inr rfl)) rest
  | cons m members => exact numberEnds_append allBlank_nil (.inl rfl) _

theorem items_writeItems {items : List Json} (h : ∀ v ∈ items, ReadsBack l n v) (depth : Nat)
    (rest : List Char) :
    Items (readValue n) false (writeItems l depth items ++ rest) (items.map printed) rest := by
  induction items with
  | nil =>
    rw [writeItems, List.append_assoc]
    exact .close (nextItem_close (hl.newline depth) false rest)
  | cons v items ih =>
    obtain ⟨hv, hitems⟩ := List.forall_mem_cons.mp h
    obtain ⟨c, s, hcons, hc⟩ := exists_write_eq_cons l (depth + 1) v
    have hnext := nextItem_comma (hl.newline (depth + 1)) hc (s ++ (writeItems l depth items ++ rest))
    have hread := hv (depth + 1) _ (numberEnds_writeItems hl depth items rest)
    refine .item ?_ hread (ih hitems)
    simpa only [writeItems, hcons, List.cons_append, List.append_assoc] using hnext

theorem items_of_mem {v : Json} {items : List Json} (h : ∀ w ∈ v :: items, ReadsBack l n w)
    (depth : Nat) (rest : List Char) :
    Items (readValue n) true
      (l.newline (depth + 1) ++ write l (depth + 1) v ++ writeItems l depth items ++ rest)
      ((v :: items).map printed) rest := by
  obtain ⟨hv, hitems⟩ := List.forall_mem_cons.mp h
  obtain ⟨c, s, hcons, hc⟩ := exists_write_eq_cons l (depth + 1) v
  have hnext := nextItem_first (hl.newline (depth + 1)) hc (s ++ (writeItems l depth items ++ rest))
  have hread := hv (depth + 1) _ (numberEnds_writeItems hl depth items rest)
  refine .item ?_ hread (items_writeItems hl hitems depth rest)
  simpa only [hcons, List.cons_append, List.append_assoc] using hnext

theorem readColon_colon (s : List Char) :
    ∃ after, readColon (l.colon ++ s) = .ok (after ++ s) ∧ AllBlank after := by
  obtain ⟨after, hcolon, hafter⟩ := hl.colon
  refine ⟨after, ?_, hafter⟩
  rw [hcolon, List.cons_append, readColon, skipBlank_cons (by decide)]
  rfl

/-- A key, a colon and a value, with the rest of the object after them. -/
theorem members_cons {first : Bool} {t : List Char} {m : String × Json}
    {members members' : List (String × Json)} {depth : Nat} {rest : List Char}
    (hm : ReadsBack l n m.2)
    (hkey : nextKey first t = .ok (.key m.1
      (l.colon ++ (write l (depth + 1) m.2 ++ (writeMembers l depth members ++ rest)))))
    (hmembers : Members (readValue n) false (writeMembers l depth members ++ rest) members' rest) :
    Members (readValue n) first t ((m.1, m.2.printed) :: members') rest := by
  obtain ⟨after, hcolon, hafter⟩ := readColon_colon hl
    (write l (depth + 1) m.2 ++ (writeMembers l depth members ++ rest))
  refine .member hkey hcolon ?_ hmembers
  rw [readValue_append hafter]
  exact hm (depth + 1) _ (numberEnds_writeMembers hl depth members rest)

theorem members_writeMembers {members : List (String × Json)}
    (h : ∀ m ∈ members, ReadsBack l n m.2) (depth : Nat) (rest : List Char) :
    Members (readValue n) false (writeMembers l depth members ++ rest)
      (members.map fun m => (m.1, m.2.printed)) rest := by
  induction members with
  | nil =>
    rw [writeMembers, List.append_assoc]
    exact .close (nextKey_close (hl.newline depth) false rest)
  | cons m members ih =>
    obtain ⟨hm, hmembers⟩ := List.forall_mem_cons.mp h
    refine members_cons hl hm ?_ (ih hmembers)
    have hnext := nextKey_comma (hl.newline (depth + 1)) m.1
      (l.colon ++ (write l (depth + 1) m.2 ++ (writeMembers l depth members ++ rest)))
    simpa only [writeMembers, List.cons_append, List.append_assoc] using hnext

theorem members_of_mem {m : String × Json} {members : List (String × Json)}
    (h : ∀ k ∈ m :: members, ReadsBack l n k.2) (depth : Nat) (rest : List Char) :
    Members (readValue n) true
      (l.newline (depth + 1) ++ Quoted.encode m.1.toList ++ l.colon ++ write l (depth + 1) m.2 ++
        writeMembers l depth members ++ rest)
      ((m :: members).map fun k => (k.1, k.2.printed)) rest := by
  obtain ⟨hm, hmembers⟩ := List.forall_mem_cons.mp h
  refine members_cons hl hm ?_ (members_writeMembers hl hmembers depth rest)
  have hnext := nextKey_first (hl.newline (depth + 1)) m.1
    (l.colon ++ (write l (depth + 1) m.2 ++ (writeMembers l depth members ++ rest)))
  simpa only [List.append_assoc] using hnext

end Lists

/-! ## Values -/

theorem length_le_writeItems (l : Layout) (depth : Nat) (items : List Json) :
    items.length ≤ (writeItems l depth items).length := by
  induction items with
  | nil => exact Nat.zero_le _
  | cons v items ih =>
    simp only [writeItems, List.length_cons, List.length_append]
    omega

theorem length_le_writeMembers (l : Layout) (depth : Nat) (members : List (String × Json)) :
    members.length ≤ (writeMembers l depth members).length := by
  induction members with
  | nil => exact Nat.zero_le _
  | cons m members ih =>
    simp only [writeMembers, List.length_cons, List.length_append]
    omega

theorem readValue_bracket (n : Nat) (s : List Char) :
    readValue (n + 1) ('[' :: s) =
      (readItems (readItem (readValue n)) [] s).map fun p => (.array p.1, p.2) :=
  bind_ok _ _

theorem readValue_brace (n : Nat) (s : List Char) :
    readValue (n + 1) ('{' :: s) =
      (readMembers (readMember (readValue n)) [] s).map fun p => (.object p.1, p.2) :=
  bind_ok _ _

section Values

variable {l : Layout} (hl : l.IsBlank) {n : Nat}
include hl

theorem readsBack_array {items : List Json} (h : ∀ v ∈ items, ReadsBack l n v) :
    ReadsBack l (n + 1) (.array items) := by
  intro depth rest _
  obtain ⟨s, htext, hitems, hlength⟩ : ∃ s, write l depth (.array items) ++ rest = '[' :: s ∧
      Items (readValue n) true s (items.map printed) rest ∧ items.length < s.length + 1 := by
    cases items with
    | nil => exact ⟨']' :: rest, rfl, .close rfl, Nat.succ_pos _⟩
    | cons v items =>
      refine ⟨_, rfl, items_of_mem hl h depth rest, ?_⟩
      have hlength := length_le_writeItems l depth items
      obtain ⟨c, s, hcons, -⟩ := exists_write_eq_cons l (depth + 1) v
      simp only [hcons, List.append_eq, List.length_cons, List.length_append]
      omega
  have hread := readItems_eq_ok_iff.mpr ⟨hitems, by rwa [List.length_map]⟩
  rw [htext, readValue_bracket, hread, printed_array]
  rfl

theorem readsBack_object {members : List (String × Json)}
    (h : ∀ m ∈ members, ReadsBack l n m.2) : ReadsBack l (n + 1) (.object members) := by
  intro depth rest _
  obtain ⟨s, htext, hmembers, hlength⟩ : ∃ s, write l depth (.object members) ++ rest = '{' :: s ∧
      Members (readValue n) true s (members.map fun m => (m.1, m.2.printed)) rest ∧
      members.length < s.length + 1 := by
    cases members with
    | nil => exact ⟨'}' :: rest, rfl, .close rfl, Nat.succ_pos _⟩
    | cons m members =>
      refine ⟨_, rfl, members_of_mem hl h depth rest, ?_⟩
      have hlength := length_le_writeMembers l depth members
      simp only [Quoted.encode, List.append_eq, List.length_cons, List.length_append]
      omega
  have hread := readMembers_eq_ok_iff.mpr ⟨hmembers, by rwa [List.length_map]⟩
  rw [htext, readValue_brace, hread, printed_object]
  rfl

theorem readsBack {v : Json} (h : Fits n v) : ReadsBack l n v := by
  induction h with
  | null n =>
    intro depth rest _
    exact readValue_eq_readScalar (by decide) n _
  | bool n b =>
    intro depth rest _
    cases b <;> exact readValue_eq_readScalar (by decide) n _
  | @int n i h =>
    -- digits in `rest` would be read as part of the number; `hrest` says there are none
    intro depth rest hrest
    obtain ⟨c, s, hcons, hc⟩ := exists_signed_eq_cons (i < 0) (.ofNat i.natAbs)
    rw [← intText_eq_signed] at hcons
    have hread := readScalar_intText h hrest
    rw [hcons] at hread
    rw [write, hcons, List.cons_append, readValue_eq_readScalar hc]
    exact hread
  | float n x =>
    intro depth rest hrest
    cases x with
    | nan => exact readValue_eq_readScalar (by decide) n _
    | infinite negative => exact readValue_eq_readScalar (by decide) n _
    | finite negative m =>
      obtain ⟨p, htext, -, -⟩ := exists_floatText_eq_signed negative m
      obtain ⟨c, s, hcons, hc⟩ := exists_signed_eq_cons negative p
      rw [← htext] at hcons
      have hread := readScalar_floatText negative m hrest
      rw [hcons] at hread
      rw [write, hcons, List.cons_append, readValue_eq_readScalar hc]
      exact hread
  | string n s =>
    intro depth rest _
    rw [write, Quoted.encode, List.cons_append, readValue_eq_readScalar (by decide)]
    exact Quoted.readScalar_encode s rest
  | array h ih => exact readsBack_array hl ih
  | object h ih => exact readsBack_object hl ih

end Values

/-! ## Texts -/

theorem parse_write {l : Layout} (hl : l.IsBlank) {v : Json} (h : Fits maxDepth v) :
    parse (String.ofList (write l 0 v)) = .ok v.printed := by
  have hread := readsBack hl h 0 [] numberEnds_nil
  rw [List.append_nil] at hread
  rw [parse, readText, String.toList_ofList, hread]
  rfl

/-- Nothing but NaN and the infinities is lost on one line. -/
theorem parse_compact {v : Json} (h : Fits maxDepth v) : parse v.compact = .ok v.printed :=
  parse_write Layout.isBlank_compact h

theorem parse_pretty {v : Json} (h : Fits maxDepth v) : parse v.pretty = .ok v.printed :=
  parse_write Layout.isBlank_pretty h

end Json
end FormBuilder
