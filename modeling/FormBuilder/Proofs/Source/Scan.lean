import FormBuilder.Proofs.Source.Layout

/-!
Scans of source text that know literals and brackets only.  `isBalanced` asks that a
scan closes whatever it opens, and `eraseLiterals` drops what stands within double
quotes.  A string literal leaves a scan where it was, whatever its text: `run_string`.
-/

namespace FormBuilder
namespace Source

open Text

/-! ## Literals and brackets -/

/-- Where a scan stands: in code, in a literal, or after a backslash in a literal. -/
inductive Mode where
  | code
  | literal (quote : Char)
  | escape (quote : Char)
  deriving DecidableEq

def isQuote (c : Char) : Bool := c = '"' || c = '\x27' || c = '\x60'

namespace Mode

def next : Mode → Char → Mode
  | code, c => if isQuote c then literal c else code
  | literal quote, c =>
    if c = '\\' then escape quote else if c = quote then code else literal quote
  | escape quote, _ => literal quote

/-- Is a character part of the content of a literal in double quotes? -/
def hides : Mode → Char → Bool
  | code, _ => false
  | literal quote, c => quote = '"' && c ≠ '"'
  | escape quote, _ => quote = '"'

end Mode

def isOpening (c : Char) : Bool := c = '(' || c = '{' || c = '['

/-- The bracket that a closing one belongs to. -/
def opening? : Char → Option Char
  | ')' => some '('
  | '}' => some '{'
  | ']' => some '['
  | _ => none

/-- The open brackets after a character of code, the innermost first. -/
def brackets? (brackets : List Char) (c : Char) : Option (List Char) :=
  if isOpening c then some (c :: brackets)
  else
    match opening? c with
    | none => some brackets
    | some o => if brackets.head? = some o then some brackets.tail else none

structure Scan where
  mode : Mode := .code
  brackets : List Char := []
  deriving DecidableEq

namespace Scan

/-- A scan fails at a closing bracket that does not fit, and at a line break within
simple or double quotes. -/
def step (s : Scan) (c : Char) : Option Scan :=
  match s.mode with
  | .code => (brackets? s.brackets c).map fun brackets => ⟨s.mode.next c, brackets⟩
  | .literal quote =>
    if c = '\n' ∧ quote ≠ '\x60' then none else some { s with mode := s.mode.next c }
  | .escape _ => some { s with mode := s.mode.next c }

def run : Scan → List Char → Option Scan
  | s, [] => some s
  | s, c :: rest => (s.step c).bind (run · rest)

end Scan

/-- Are all literals and all brackets outside of literals closed? -/
def isBalanced (source : String) : Bool := Scan.run {} source.toList = some {}

/-- A text without the contents of its literals in double quotes. -/
def eraseFrom : Mode → List Char → List Char
  | _, [] => []
  | m, c :: rest => if m.hides c then eraseFrom (m.next c) rest else c :: eraseFrom (m.next c) rest

def eraseLiterals (source : String) : String := String.ofList (eraseFrom .code source.toList)

/-! ## One scan -/

namespace Scan

theorem run_append (s : Scan) (t u : List Char) :
    s.run (t ++ u) = (s.run t).bind (run · u) := by
  induction t generalizing s with
  | nil => rfl
  | cons c t ih =>
    rw [List.cons_append, run, run, Option.bind_assoc]
    exact congrArg _ (funext fun s => ih s)

theorem mode_of_step {s s' : Scan} {c : Char} (h : s.step c = some s') :
    s'.mode = s.mode.next c := by
  unfold step at h
  split at h
  · obtain ⟨brackets, -, rfl⟩ := Option.map_eq_some_iff.mp h
    rfl
  · split_ifs at h
    rw [← Option.some.inj h]
  · rw [← Option.some.inj h]

theorem brackets?_append {b b' : List Char} {c : Char} (h : brackets? b c = some b')
    (k : List Char) : brackets? (b ++ k) c = some (b' ++ k) := by
  unfold brackets? at h ⊢
  split_ifs at h ⊢ with hopen
  · rw [← Option.some.inj h, List.cons_append]
  · cases ho : opening? c with
    | none =>
      rw [ho] at h
      rw [← Option.some.inj h]
    | some o =>
      rw [ho] at h
      simp only at h ⊢
      split_ifs at h with hhead
      obtain ⟨rest, rfl⟩ : ∃ rest, b = o :: rest := List.head?_eq_some_iff.mp hhead
      rw [← Option.some.inj h]
      simp

/-- A scan does not look below the brackets that it closes. -/
theorem run_frame {m m' : Mode} {b b' t : List Char} (h : run ⟨m, b⟩ t = some ⟨m', b'⟩)
    (k : List Char) : run ⟨m, b ++ k⟩ t = some ⟨m', b' ++ k⟩ := by
  induction t generalizing m b with
  | nil =>
    obtain ⟨rfl, rfl⟩ := Scan.mk.inj (Option.some.inj h)
    rfl
  | cons c t ih =>
    obtain ⟨⟨m₁, b₁⟩, hstep, hrest⟩ := Option.bind_eq_some_iff.mp h
    have hframe : step ⟨m, b ++ k⟩ c = some ⟨m₁, b₁ ++ k⟩ := by
      cases m with
      | code =>
        obtain ⟨b₂, hb, he⟩ := Option.map_eq_some_iff.mp hstep
        obtain ⟨rfl, rfl⟩ := Scan.mk.inj he
        exact Option.map_eq_some_iff.mpr ⟨_, brackets?_append hb k, rfl⟩
      | literal quote =>
        simp only [step] at hstep ⊢
        split_ifs at hstep ⊢
        obtain ⟨rfl, rfl⟩ := Scan.mk.inj (Option.some.inj hstep)
        rfl
      | escape quote =>
        obtain ⟨rfl, rfl⟩ := Scan.mk.inj (Option.some.inj hstep)
        rfl
    rw [run, hframe]
    exact ih hrest

end Scan

theorem eraseFrom_append {m m' : Mode} {b b' t : List Char}
    (h : Scan.run ⟨m, b⟩ t = some ⟨m', b'⟩) (u : List Char) :
    eraseFrom m (t ++ u) = eraseFrom m t ++ eraseFrom m' u := by
  induction t generalizing m b with
  | nil =>
    obtain ⟨rfl, -⟩ := Scan.mk.inj (Option.some.inj h)
    rfl
  | cons c t ih =>
    obtain ⟨⟨m₁, b₁⟩, hstep, hrest⟩ := Option.bind_eq_some_iff.mp h
    have hm : m₁ = m.next c := Scan.mode_of_step hstep
    subst hm
    rw [List.cons_append, eraseFrom, eraseFrom, ih hrest]
    split_ifs
    · rfl
    · rw [List.cons_append]

theorem eraseFrom_code_eq_nil_iff {t : List Char} : eraseFrom .code t = [] ↔ t = [] := by
  cases t with
  | nil => simp [eraseFrom]
  | cons c t => simp [eraseFrom, Mode.hides]

/-! ## String literals -/

/-- Within double quotes a scan comes to the end of a text and stays there. -/
structure IsContent (t : List Char) : Prop where
  run : ∀ b, Scan.run ⟨.literal '"', b⟩ t = some ⟨.literal '"', b⟩
  erase : eraseFrom (.literal '"') t = []

theorem isContent_nil : IsContent [] := ⟨fun _ => rfl, rfl⟩

theorem IsContent.append {t u : List Char} (ht : IsContent t) (hu : IsContent u) :
    IsContent (t ++ u) where
  run b := by
    rw [Scan.run_append, ht.run b]
    exact hu.run b
  erase := by
    rw [eraseFrom_append (ht.run []) u, ht.erase, hu.erase]
    rfl

theorem isContent_singleton {c : Char} (hquote : c ≠ '"') (hback : c ≠ '\\') (hbreak : c ≠ '\n') :
    IsContent [c] where
  run b := by
    have hnext : (Mode.literal '"').next c = .literal '"' := by
      simp only [Mode.next, hback, hquote, if_false]
    simp only [Scan.run, Scan.step, hbreak, false_and, if_false, hnext, Option.bind_some]
  erase := by
    simp [eraseFrom, Mode.hides, hquote]

theorem isContent_escaped (c : Char) : IsContent ['\\', c] where
  run _ := rfl
  erase := rfl

theorem isContent_of_escaped {c : Char} {t : List Char} (h : Quoted.Escaped c t) :
    IsContent t := by
  have hdigit : ∀ n, n < 16 → Nat.digitChar n ≠ '"' ∧ Nat.digitChar n ≠ '\\' ∧
      Nat.digitChar n ≠ '\n' := by decide
  cases h with
  | plain hquote hback h =>
    have hbreak : c ≠ '\n' := by
      rintro rfl
      exact absurd h (by decide)
    exact isContent_singleton hquote hback hbreak
  | short => exact isContent_escaped _
  | control h =>
    obtain ⟨hhigh₁, hhigh₂, hhigh₃⟩ := hdigit (c.toNat / 16) (by omega)
    obtain ⟨hlow₁, hlow₂, hlow₃⟩ := hdigit (c.toNat % 16) (by omega)
    have hzeros : IsContent (['\\', 'u'] ++ ['0'] ++ ['0']) :=
      ((isContent_escaped 'u').append
        (isContent_singleton (by decide) (by decide) (by decide))).append
        (isContent_singleton (by decide) (by decide) (by decide))
    exact (hzeros.append (isContent_singleton hhigh₁ hhigh₂ hhigh₃)).append
      (isContent_singleton hlow₁ hlow₂ hlow₃)

theorem isContent_flatMap_escape (s : List Char) : IsContent (s.flatMap Quoted.escape) := by
  induction s with
  | nil => exact isContent_nil
  | cons c s ih =>
    rw [List.flatMap_cons]
    exact (isContent_of_escaped (Quoted.escaped_escape c)).append ih

theorem run_string (s : String) (b : List Char) :
    Scan.run ⟨.code, b⟩ (string s) = some ⟨.code, b⟩ := by
  have hopen : Scan.step ⟨.code, b⟩ '"' = some ⟨.literal '"', b⟩ := rfl
  rw [string, Quoted.encode, Scan.run, hopen, Option.bind_some, Scan.run_append,
    (isContent_flatMap_escape s.toList).run b]
  rfl

theorem eraseFrom_string (s : String) : eraseFrom .code (string s) = ['"', '"'] := by
  have hcontent := isContent_flatMap_escape s.toList
  show '"' :: eraseFrom (.literal '"') (s.toList.flatMap Quoted.escape ++ ['"']) = _
  rw [eraseFrom_append (hcontent.run []) ['"'], hcontent.erase]
  rfl

end Source
end FormBuilder
