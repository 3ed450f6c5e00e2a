import FormBuilder.Proofs.Text.Lines
import Mathlib.Data.List.Basic
import Mathlib.Tactic.SplitIfs

/-!
Indenting.  A text without carriage returns that does not end with a line break is read line
by line without loss, and to indent it is to put spaces in front of each of its lines that is
not empty.  So the spaces can be taken away again, `unindent?_indent`, and texts that line
breaks join are indented one by one, `indent_intercalate`.
-/

namespace FormBuilder
namespace Text

variable {t u : List Char} {ts ls : List (List Char)} {width : Nat}

/-! ## Pieces between line breaks -/

theorem joinLines_splitOn (t : List Char) : joinLines (t.splitOn '\n') = t :=
  List.intercalate_splitOn '\n'

theorem isLine_of_mem_splitOn (h : '\r' ∉ t) : ∀ l ∈ t.splitOn '\n', IsLine l := by
  induction t with
  | nil => exact List.forall_mem_singleton.mpr isLine_nil
  | cons c t ih =>
    rw [List.mem_cons, not_or] at h
    have hrest := ih h.2
    rw [List.splitOn_cons_eq_if_modifyHead]
    split_ifs with hc
    · exact List.forall_mem_cons.mpr ⟨isLine_nil, hrest⟩
    · obtain ⟨l, ls, hsplit⟩ := List.exists_cons_of_ne_nil (List.splitOn_ne_nil '\n' t)
      rw [hsplit, List.forall_mem_cons] at hrest
      rw [hsplit, List.modifyHead_cons, List.forall_mem_cons, isLine_cons]
      exact ⟨⟨⟨by simpa using hc, Ne.symm h.1⟩, hrest.1⟩, hrest.2⟩

/-- A text without carriage returns that does not end with a line break. -/
structure IsIndentable (t : List Char) : Prop where
  noReturn : '\r' ∉ t
  noBreak : t.getLast? ≠ some '\n'

theorem isIndentable_nil : IsIndentable [] := ⟨by decide, by decide⟩

theorem isIndentable_of_isLine {l : List Char} (h : IsLine l) : IsIndentable l :=
  ⟨h.2, fun hbreak => h.1 (List.mem_of_getLast? hbreak)⟩

theorem isIndentable_joinLines (h : ∀ l ∈ ls, IsLine l) (hlast : ls.getLast? ≠ some []) :
    IsIndentable (joinLines ls) where
  noReturn := return_not_mem_joinLines h
  noBreak := by
    obtain rfl | ⟨front, l, rfl⟩ := List.eq_nil_or_concat' ls
    · decide
    · have hl : l ≠ [] := by simpa using hlast
      rw [getLast?_joinLines front hl]
      exact (isIndentable_of_isLine (h l (by simp))).noBreak

namespace IsIndentable

/-- What stands in front of a text of this kind may end with a line break. -/
theorem append (ht : '\r' ∉ t) (hu : IsIndentable u) (hne : u ≠ []) : IsIndentable (t ++ u) where
  noReturn := by
    rw [List.mem_append, not_or]
    exact ⟨ht, hu.noReturn⟩
  noBreak := by
    rw [List.getLast?_append, Option.or_of_isSome (List.getLast?_isSome.mpr hne)]
    exact hu.noBreak

theorem append_break (ht : IsIndentable t) (hu : IsIndentable u) (hne : u ≠ []) :
    IsIndentable (t ++ '\n' :: u) := by
  rw [List.append_cons]
  refine append ?_ hu hne
  rw [List.mem_append, not_or]
  exact ⟨ht.noReturn, by decide⟩

theorem getLast?_splitOn (h : IsIndentable t) (hne : t ≠ []) :
    (t.splitOn '\n').getLast? ≠ some [] := by
  intro hlast
  obtain ⟨front, hfront⟩ := List.getLast?_eq_some_iff.mp hlast
  have ht : joinLines (front ++ [[]]) = t := by rw [← hfront, joinLines_splitOn]
  have hempty : front ≠ [] := fun hnil => hne (by rw [← ht, hnil]; rfl)
  rw [joinLines_append hempty (List.cons_ne_nil [] [])] at ht
  exact h.noBreak (by rw [← ht]; simp)

end IsIndentable

/-! ## Indenting -/

/-- Read line by line, such a text falls apart at its line breaks. -/
theorem lines_eq_splitOn (h : IsIndentable t) (hne : t ≠ []) : lines t = t.splitOn '\n' := by
  have hread := lines_joinLines (isLine_of_mem_splitOn h.noReturn) (h.getLast?_splitOn hne)
  rwa [joinLines_splitOn] at hread

theorem indent_eq_joinLines (h : IsIndentable t) :
    indent width t = joinLines ((t.splitOn '\n').map (pad width)) := by
  by_cases hne : t = []
  · subst hne
    rfl
  · rw [indent, lines_eq_splitOn h hne]

theorem splitOn_indent (h : IsIndentable t) :
    (indent width t).splitOn '\n' = (t.splitOn '\n').map (pad width) := by
  have hline := isLine_of_mem_splitOn h.noReturn
  rw [indent_eq_joinLines h]
  exact splitOn_joinLines (mt List.map_eq_nil_iff.mp (List.splitOn_ne_nil '\n' t))
    (List.forall_mem_map.mpr fun l hl => isLine_pad (hline l hl))

theorem lines_indent (h : IsIndentable t) : lines (indent width t) = (lines t).map (pad width) := by
  by_cases hne : t = []
  · subst hne
    rfl
  · have hline := isLine_of_mem_splitOn h.noReturn
    rw [indent, lines_eq_splitOn h hne]
    exact lines_joinLines (List.forall_mem_map.mpr fun l hl => isLine_pad (hline l hl))
      (getLast?_map_pad (h.getLast?_splitOn hne))

/-- A line without the spaces in front, which it must have unless it is empty. -/
def unpad? (width : Nat) (l : List Char) : Option (List Char) :=
  if l = [] then some [] else l.dropPrefix? (List.replicate width ' ')

/-- A text without `width` spaces in front of each line that is not empty. -/
def unindent? (width : Nat) (t : List Char) : Option (List Char) :=
  ((t.splitOn '\n').mapM (unpad? width)).map joinLines

theorem unpad?_pad (width : Nat) (l : List Char) : unpad? width (pad width l) = some l := by
  by_cases hl : l = []
  · subst hl
    rfl
  · rw [unpad?, if_neg (mt pad_eq_nil_iff.mp hl), pad, if_neg hl]
    exact List.dropPrefix?_append_of_beq l (beq_self_eq_true _)

theorem unindent?_indent (h : IsIndentable t) : unindent? width (indent width t) = some t := by
  have hpads : ∀ ls : List (List Char), (ls.map (pad width)).mapM (unpad? width) = some ls := by
    intro ls
    have hpad : unpad? width ∘ pad width = fun l => pure l := funext (unpad?_pad width)
    rw [List.mapM_map, hpad, List.mapM_pure, List.map_id']
    rfl
  rw [unindent?, splitOn_indent h, hpads, Option.map_some, joinLines_splitOn]

/-! ## Joined texts -/

theorem indent_append_break (ht : IsIndentable t) (hu : IsIndentable u) (hne : u ≠ []) :
    indent width (t ++ '\n' :: u) = indent width t ++ '\n' :: indent width u := by
  have hpieces : ∀ v : List Char, (v.splitOn '\n').map (pad width) ≠ [] :=
    fun v => mt List.map_eq_nil_iff.mp (List.splitOn_ne_nil '\n' v)
  rw [indent_eq_joinLines (ht.append_break hu hne), List.splitOn_append_cons_self, List.map_append,
    joinLines_append (hpieces t) (hpieces u), ← indent_eq_joinLines ht, ← indent_eq_joinLines hu]

theorem isIndentable_breaks (h : IsIndentable t) (hne : t ≠ []) (n : Nat) :
    IsIndentable (List.replicate n '\n' ++ t) :=
  .append (fun hc => absurd (List.eq_of_mem_replicate hc) (by decide)) h hne

theorem indent_breaks (h : IsIndentable t) (hne : t ≠ []) (n : Nat) :
    indent width (List.replicate n '\n' ++ t) = List.replicate n '\n' ++ indent width t := by
  induction n with
  | zero => rfl
  | succ n ih =>
    -- an empty line is a text of its own, of which indenting leaves nothing but the break
    rw [List.replicate_succ, List.cons_append, List.cons_append, ← ih]
    exact indent_append_break isIndentable_nil (isIndentable_breaks h hne n)
      (List.append_ne_nil_of_right_ne_nil _ hne)

theorem isIndentable_intercalate {sep : List Char} (hsep : '\r' ∉ sep)
    (h : ∀ t ∈ ts, IsIndentable t ∧ t ≠ []) : IsIndentable (sep.intercalate ts) := by
  induction ts with
  | nil => exact isIndentable_nil
  | cons t ts ih =>
    obtain ⟨⟨ht, -⟩, hts⟩ := List.forall_mem_cons.mp h
    cases ts with
    | nil => rwa [List.intercalate_singleton]
    | cons u ts =>
      rw [List.intercalate_cons_cons]
      refine .append ?_ (ih hts) (intercalate_ne_nil (hts u List.mem_cons_self).2 sep ts)
      rw [List.mem_append, not_or]
      exact ⟨ht.noReturn, hsep⟩

/-- Texts that stand some line breaks apart are indented one by one. -/
theorem indent_intercalate (h : ∀ t ∈ ts, IsIndentable t ∧ t ≠ []) (n : Nat) :
    indent width ((List.replicate (n + 1) '\n').intercalate ts) =
      (List.replicate (n + 1) '\n').intercalate (ts.map (indent width)) := by
  have hreturn : '\r' ∉ List.replicate (n + 1) '\n' :=
    fun hc => absurd (List.eq_of_mem_replicate hc) (by decide)
  generalize hsep : List.replicate (n + 1) '\n' = sep at hreturn ⊢
  have hbreak : ∀ v w : List Char, v ++ sep ++ w = v ++ '\n' :: (List.replicate n '\n' ++ w) := by
    intro v w
    rw [← hsep, List.append_assoc, List.replicate_succ, List.cons_append]
  induction ts with
  | nil => rfl
  | cons t ts ih =>
    obtain ⟨⟨ht, -⟩, hts⟩ := List.forall_mem_cons.mp h
    cases ts with
    | nil => rw [List.map_singleton, List.intercalate_singleton, List.intercalate_singleton]
    | cons u ts =>
      have hrest := isIndentable_intercalate hreturn hts
      have hne := intercalate_ne_nil (hts u List.mem_cons_self).2 sep ts
      -- the first break ends the last line of `t`, the others are empty lines before the rest
      calc indent width (sep.intercalate (t :: u :: ts))
          = indent width (t ++ '\n' :: (List.replicate n '\n' ++ sep.intercalate (u :: ts))) := by
            rw [List.intercalate_cons_cons, hbreak]
        _ = indent width t ++ '\n' ::
              (List.replicate n '\n' ++ indent width (sep.intercalate (u :: ts))) := by
            rw [indent_append_break ht (isIndentable_breaks hrest hne n)
              (List.append_ne_nil_of_right_ne_nil _ hne), indent_breaks hrest hne]
        _ = sep.intercalate ((t :: u :: ts).map (indent width)) := by
            rw [ih hts, ← hbreak]
            exact List.intercalate_cons_cons.symm

end Text
end FormBuilder
