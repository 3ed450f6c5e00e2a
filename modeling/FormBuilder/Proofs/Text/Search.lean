import FormBuilder.Proofs.Text.Lines
import Mathlib.Tactic.SplitIfs

/-!
Searching a text for the first place where another one stands.  If that one starts with a
line break, it is enough to know how the lines start: `splitFirst?_joinLines`.
-/

namespace FormBuilder
namespace Text

/-- The text before and the text after the first place where a pattern stands. -/
def splitFirst? (pattern : List Char) : List Char → Option (List Char × List Char)
  | [] => if pattern = [] then some ([], []) else none
  | c :: rest =>
    if pattern <+: c :: rest then some ([], (c :: rest).drop pattern.length)
    else (splitFirst? pattern rest).map fun p => (c :: p.1, p.2)

variable {pattern s before after : List Char}

theorem splitFirst?_here (pattern rest : List Char) :
    splitFirst? pattern (pattern ++ rest) = some ([], rest) := by
  cases h : pattern ++ rest with
  | nil =>
    obtain ⟨rfl, rfl⟩ := List.append_eq_nil_iff.mp h
    rfl
  | cons c t => rw [splitFirst?, ← h, if_pos (List.prefix_append _ _), List.drop_left]

theorem splitFirst?_cons {c : Char} (h : ¬ pattern <+: c :: s) :
    splitFirst? pattern (c :: s) = (splitFirst? pattern s).map fun p => (c :: p.1, p.2) :=
  if_neg h

theorem length_le_of_splitFirst? {p : List Char × List Char} (h : splitFirst? pattern s = some p) :
    pattern.length ≤ s.length := by
  induction s generalizing p with
  | nil =>
    rw [splitFirst?] at h
    split_ifs at h with hpattern
    exact Nat.le_of_eq (congrArg List.length hpattern)
  | cons c s ih =>
    by_cases hprefix : pattern <+: c :: s
    · exact hprefix.length_le
    · rw [splitFirst?_cons hprefix, Option.map_eq_some_iff] at h
      obtain ⟨q, hq, -⟩ := h
      exact Nat.le_succ_of_le (ih hq)

/-- More text at the end does not move the first place. -/
theorem splitFirst?_append (h : splitFirst? pattern s = some (before, after)) (rest : List Char) :
    splitFirst? pattern (s ++ rest) = some (before, after ++ rest) := by
  induction s generalizing before with
  | nil =>
    rw [splitFirst?] at h
    split_ifs at h with hpattern
    obtain ⟨rfl, rfl⟩ := Prod.mk.inj (Option.some.inj h)
    rw [hpattern]
    exact splitFirst?_here [] rest
  | cons c s ih =>
    by_cases hprefix : pattern <+: c :: s
    · obtain ⟨t, ht⟩ := hprefix
      rw [← ht, splitFirst?_here] at h
      obtain ⟨rfl, rfl⟩ := Prod.mk.inj (Option.some.inj h)
      rw [← ht, List.append_assoc, splitFirst?_here]
    · rw [splitFirst?_cons hprefix, Option.map_eq_some_iff] at h
      obtain ⟨p, hp, hsplit⟩ := h
      obtain ⟨rfl, rfl⟩ := Prod.mk.inj hsplit
      -- the pattern is found in `s`, so it is no longer than `s` and needs nothing of `rest`
      have hlength := length_le_of_splitFirst? hp
      have hprefix' : ¬ pattern <+: c :: (s ++ rest) := by
        intro hmore
        refine hprefix (List.prefix_of_prefix_length_le hmore (List.prefix_append (c :: s) rest) ?_)
        exact Nat.le_succ_of_le hlength
      rw [List.cons_append, splitFirst?_cons hprefix', ih hp]
      rfl

variable {start : List Char}

/-- A pattern that starts with a line break does not start inside of a line. -/
theorem splitFirst?_line {l : List Char} (hl : '\n' ∉ l) (rest : List Char) :
    splitFirst? ('\n' :: start) (l ++ rest) =
      (splitFirst? ('\n' :: start) rest).map fun p => (l ++ p.1, p.2) := by
  induction l with
  | nil => simp
  | cons c l ih =>
    have hprefix : ¬ '\n' :: start <+: c :: (l ++ rest) :=
      fun h => hl ((List.cons_prefix_cons.mp h).1 ▸ List.mem_cons_self)
    rw [List.cons_append, splitFirst?_cons hprefix, ih (List.not_mem_of_not_mem_cons hl),
      Option.map_map]
    rfl

theorem prefix_of_prefix_line {l rest : List Char} (hstart : '\n' ∉ start)
    (h : start <+: l ++ '\n' :: rest) : start <+: l := by
  by_cases hlength : start.length ≤ l.length
  · exact List.prefix_of_prefix_length_le h (List.prefix_append l _) hlength
  · have hbreak : l ++ ['\n'] <+: l ++ '\n' :: rest := ⟨rest, List.append_assoc l ['\n'] rest⟩
    have hinside : l ++ ['\n'] <+: start := by
      refine List.prefix_of_prefix_length_le hbreak h ?_
      rw [List.length_append, List.length_singleton]
      omega
    exact absurd (hinside.subset List.mem_concat_self) hstart

/-- The text of some lines is found before a line that starts as none of them does, the
first one apart. -/
theorem splitFirst?_joinLines {ls : List (List Char)} (hstart : '\n' ∉ start) (hls : ls ≠ [])
    (hline : ∀ l ∈ ls, '\n' ∉ l) (hfree : ∀ l ∈ ls.tail, ¬ start <+: l) (after : List Char) :
    splitFirst? ('\n' :: start) (joinLines ls ++ '\n' :: (start ++ after)) =
      some (joinLines ls, after) := by
  induction ls with
  | nil => exact absurd rfl hls
  | cons l ls ih =>
    obtain ⟨hl, hline⟩ := List.forall_mem_cons.mp hline
    cases ls with
    | nil =>
      rw [joinLines_singleton, splitFirst?_line hl, ← List.cons_append, splitFirst?_here,
        Option.map_some, List.append_nil]
    | cons m ls =>
      -- the line break after `l` starts no match: `m` would have to go on as `start` does
      obtain ⟨hm, hfree⟩ := List.forall_mem_cons.mp hfree
      have hprefix : ¬ '\n' :: start <+:
          '\n' :: (joinLines (m :: ls) ++ '\n' :: (start ++ after)) := by
        intro h
        have hstarts := (List.cons_prefix_cons.mp h).2
        cases ls with
        | nil => exact hm (prefix_of_prefix_line hstart (joinLines_singleton m ▸ hstarts))
        | cons k ls =>
          rw [joinLines_cons_cons, List.append_assoc, List.cons_append] at hstarts
          exact hm (prefix_of_prefix_line hstart hstarts)
      rw [joinLines_cons_cons, List.append_assoc, splitFirst?_line hl, List.cons_append,
        splitFirst?_cons hprefix, ih (List.cons_ne_nil m ls) hline hfree]
      rfl

end Text
end FormBuilder
