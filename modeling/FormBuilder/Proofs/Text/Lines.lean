import FormBuilder.Text.Lines

/-!
Texts made of lines.  Where no line contains a line break, joining lines and taking
a text apart are inverse to each other: the text determines the lines, and to
indent the text is to pad each of them.
-/

namespace FormBuilder
namespace Text

/-! ## Joining -/

@[simp]
theorem joinLines_singleton (l : List Char) : joinLines [l] = l := List.intercalate_singleton

theorem joinLines_cons_cons (l m : List Char) (ls : List (List Char)) :
    joinLines (l :: m :: ls) = l ++ '\n' :: joinLines (m :: ls) := by
  unfold joinLines
  rw [List.intercalate_cons_cons, List.append_assoc]
  rfl

theorem intercalate_append {α : Type} {xs ys : List (List α)} (hxs : xs ≠ []) (hys : ys ≠ [])
    (sep : List α) :
    sep.intercalate (xs ++ ys) = sep.intercalate xs ++ (sep ++ sep.intercalate ys) := by
  obtain ⟨y, ys, rfl⟩ := List.exists_cons_of_ne_nil hys
  induction xs with
  | nil => exact absurd rfl hxs
  | cons x xs ih =>
    cases xs with
    | nil =>
      rw [List.singleton_append, List.intercalate_cons_cons, List.intercalate_singleton,
        List.append_assoc]
    | cons w xs =>
      have hrest := ih (List.cons_ne_nil w xs)
      rw [List.cons_append] at hrest
      rw [List.cons_append, List.cons_append, List.intercalate_cons_cons,
        List.intercalate_cons_cons, hrest, List.append_assoc _ (sep.intercalate (w :: xs))]

theorem map_intercalate {α β : Type} (g : α → β) (sep : List α) (xs : List (List α)) :
    (sep.intercalate xs).map g = (sep.map g).intercalate (xs.map (List.map g)) := by
  induction xs with
  | nil => rfl
  | cons x xs ih =>
    cases xs with
    | nil => simp
    | cons y xs =>
      rw [List.map_cons, List.map_cons, List.intercalate_cons_cons, List.intercalate_cons_cons,
        List.map_append, List.map_append, ih, List.map_cons]

theorem joinLines_append {ls ms : List (List Char)} (hls : ls ≠ []) (hms : ms ≠ []) :
    joinLines (ls ++ ms) = joinLines ls ++ '\n' :: joinLines ms :=
  intercalate_append hls hms ['\n']

theorem forall_mem_intercalate {α : Type} {P : α → Prop} {sep : List α} {xs : List (List α)}
    (hsep : ∀ a ∈ sep, P a) (h : ∀ x ∈ xs, ∀ a ∈ x, P a) : ∀ a ∈ sep.intercalate xs, P a := by
  induction xs with
  | nil => exact fun a ha => absurd ha List.not_mem_nil
  | cons x xs ih =>
    obtain ⟨hx, hxs⟩ := List.forall_mem_cons.mp h
    cases xs with
    | nil => rwa [List.intercalate_singleton]
    | cons y xs =>
      rw [List.intercalate_cons_cons]
      exact List.forall_mem_append.mpr ⟨List.forall_mem_append.mpr ⟨hx, hsep⟩, ih hxs⟩

theorem intercalate_ne_nil {α : Type} {x : List α} (hx : x ≠ []) (sep : List α)
    (xs : List (List α)) : sep.intercalate (x :: xs) ≠ [] := by
  cases xs with
  | nil => rwa [List.intercalate_singleton]
  | cons y xs =>
    rw [List.intercalate_cons_cons, List.append_assoc]
    exact List.append_ne_nil_of_left_ne_nil hx _

theorem getLast?_joinLines (front : List (List Char)) {l : List Char} (hl : l ≠ []) :
    (joinLines (front ++ [l])).getLast? = l.getLast? := by
  by_cases hfront : front = []
  · rw [hfront, List.nil_append, joinLines_singleton]
  · rw [joinLines_append hfront (List.cons_ne_nil l []), joinLines_singleton, List.append_cons,
      List.getLast?_append, Option.or_of_isSome (List.getLast?_isSome.mpr hl)]

/-- A text of several lines among other lines. -/
theorem joinLines_embed {ms : List (List Char)} (hms : ms ≠ []) (before after : List (List Char)) :
    joinLines (before ++ joinLines ms :: after) = joinLines (before ++ (ms ++ after)) := by
  have hback : joinLines (joinLines ms :: after) = joinLines (ms ++ after) := by
    cases after with
    | nil => rw [List.append_nil, joinLines_singleton]
    | cons l after => rw [joinLines_cons_cons, joinLines_append hms (List.cons_ne_nil l after)]
  by_cases hbefore : before = []
  · rw [hbefore, List.nil_append, List.nil_append, hback]
  · rw [joinLines_append hbefore (List.cons_ne_nil _ _), hback,
      joinLines_append hbefore (List.append_ne_nil_of_left_ne_nil hms after)]

/-- Pieces one empty line apart. -/
theorem intercalate_map_joinLines {pieces : List (List (List Char))} (h : ∀ p ∈ pieces, p ≠ []) :
    ['\n', '\n'].intercalate (pieces.map joinLines) = joinLines ([[]].intercalate pieces) := by
  induction pieces with
  | nil => rfl
  | cons p pieces ih =>
    have ih := ih fun q hq => h q (List.mem_cons_of_mem p hq)
    cases pieces with
    | nil => simp
    | cons q pieces =>
      have hp : p ++ [[]] ≠ [] := by simp
      have hrest : [[]].intercalate (q :: pieces) ≠ [] :=
        intercalate_ne_nil (h q (by simp)) [[]] pieces
      rw [List.intercalate_cons_cons, joinLines_append hp hrest,
        joinLines_append (h p List.mem_cons_self) (List.cons_ne_nil _ _), ← ih, List.map_cons,
        List.map_cons, List.intercalate_cons_cons]
      simp

/-! ## Taking apart -/

/-- A text without line breaks. -/
def IsLine (l : List Char) : Prop := '\n' ∉ l ∧ '\r' ∉ l

instance (l : List Char) : Decidable (IsLine l) := inferInstanceAs (Decidable (_ ∧ _))

@[simp]
theorem isLine_nil : IsLine [] := by decide

@[simp]
theorem isLine_cons {c : Char} {l : List Char} :
    IsLine (c :: l) ↔ (c ≠ '\n' ∧ c ≠ '\r') ∧ IsLine l := by
  simp only [IsLine, List.mem_cons, not_or, ne_comm (a := c)]
  exact and_and_and_comm

@[simp]
theorem isLine_append {l m : List Char} : IsLine (l ++ m) ↔ IsLine l ∧ IsLine m := by
  simp only [IsLine, List.mem_append, not_or]
  exact and_and_and_comm

/-- Of a literal the list it stands for is looked at: to take its characters off the string
again is slow. -/
theorem isLine_ofList {l : List Char} (h : IsLine l) : IsLine (String.ofList l).toList := by
  rwa [String.toList_ofList]

theorem dropReturn_of_isLine {l : List Char} (h : IsLine l) : dropReturn l = l := by
  have hlast : l.getLast? ≠ some '\r' := fun hr => h.2 (List.mem_of_getLast? hr)
  rw [dropReturn, if_neg hlast]

/-- Lines are read back from their text, but an empty last line leaves no trace. -/
theorem lines_joinLines {ls : List (List Char)} (h : ∀ l ∈ ls, IsLine l)
    (hlast : ls.getLast? ≠ some []) : lines (joinLines ls) = ls := by
  by_cases hls : ls = []
  · subst hls
    rfl
  · have hpieces : (joinLines ls).splitOn '\n' = ls :=
      List.splitOn_intercalate '\n' (fun l hl => (h l hl).1) hls
    have hend : ls.getLast hls ≠ [] := by
      rwa [List.getLast?_eq_some_getLast hls, ne_eq, Option.some.injEq] at hlast
    have hfront : ls.dropLast.map dropReturn = ls.dropLast := by
      have hline := fun l hl => dropReturn_of_isLine (h l (List.dropLast_subset ls hl))
      rw [List.map_congr_left hline, List.map_id']
    have hlastD : ls.getLastD [] = ls.getLast hls := by
      rw [List.getLastD_eq_getLast?, List.getLast?_eq_some_getLast hls, Option.getD_some]
    simp only [lines, hpieces, hlastD, hfront, if_neg hend]
    exact List.dropLast_concat_getLast hls

theorem return_not_mem_joinLines {ls : List (List Char)} (h : ∀ l ∈ ls, IsLine l) :
    '\r' ∉ joinLines ls := by
  have hbreak : ∀ c ∈ ['\n'], c ≠ '\r' := List.forall_mem_singleton.mpr (by decide)
  have hlines : ∀ l ∈ ls, ∀ c ∈ l, c ≠ '\r' := fun l hl c hc hr => (h l hl).2 (hr ▸ hc)
  exact fun hmem => forall_mem_intercalate hbreak hlines '\r' hmem rfl

theorem joinLines_injective {ls ms : List (List Char)} (hls : ls ≠ []) (hms : ms ≠ [])
    (hl : ∀ l ∈ ls, IsLine l) (hm : ∀ m ∈ ms, IsLine m) (h : joinLines ls = joinLines ms) :
    ls = ms := by
  have hsplit := congrArg (List.splitOn '\n') h
  unfold joinLines at hsplit
  rwa [List.splitOn_intercalate '\n' (fun l hl' => (hl l hl').1) hls,
    List.splitOn_intercalate '\n' (fun m hm' => (hm m hm').1) hms] at hsplit

theorem splitOn_joinLines {ls : List (List Char)} (hls : ls ≠ []) (h : ∀ l ∈ ls, IsLine l) :
    (joinLines ls).splitOn '\n' = ls :=
  List.splitOn_intercalate '\n' (fun l hl => (h l hl).1) hls

/-- The pieces of a text that stand an empty line apart. -/
def paragraphs (t : List Char) : List (List Char) :=
  ((t.splitOn '\n').splitOn []).map joinLines

theorem paragraphs_intercalate {pieces : List (List (List Char))} (hpieces : pieces ≠ [])
    (h : ∀ p ∈ pieces, p ≠ [] ∧ ∀ l ∈ p, IsLine l ∧ l ≠ []) :
    paragraphs (['\n', '\n'].intercalate (pieces.map joinLines)) = pieces.map joinLines := by
  have hne : ∀ p ∈ pieces, p ≠ [] := fun p hp => (h p hp).1
  have hline : ∀ l ∈ [[]].intercalate pieces, IsLine l :=
    forall_mem_intercalate (List.forall_mem_singleton.mpr isLine_nil)
      fun p hp l hl => ((h p hp).2 l hl).1
  have hjoined : [[]].intercalate pieces ≠ [] := by
    obtain ⟨p, rest, rfl⟩ := List.exists_cons_of_ne_nil hpieces
    exact intercalate_ne_nil (hne p List.mem_cons_self) [[]] rest
  have hfull : ∀ p ∈ pieces, [] ∉ p := fun p hp hnil => ((h p hp).2 [] hnil).2 rfl
  rw [intercalate_map_joinLines hne, paragraphs, splitOn_joinLines hjoined hline,
    List.splitOn_intercalate [] hfull hpieces]

/-! ## Indenting -/

@[simp]
theorem pad_eq_nil_iff {width : Nat} {l : List Char} : pad width l = [] ↔ l = [] := by
  by_cases hl : l = [] <;> simp [pad, hl]

theorem pad_injective {width : Nat} {l m : List Char} (h : pad width l = pad width m) : l = m := by
  by_cases hl : l = []
  · have hm : pad width m = [] := by rw [← h, hl]; rfl
    rw [hl, pad_eq_nil_iff.mp hm]
  · have hm : m ≠ [] := fun hm => hl (pad_eq_nil_iff.mp (by rw [h, hm]; rfl))
    rw [pad, pad, if_neg hl, if_neg hm] at h
    exact List.append_cancel_left h

theorem isLine_pad {width : Nat} {l : List Char} (h : IsLine l) : IsLine (pad width l) := by
  have hspaces : IsLine (List.replicate width ' ') := by
    constructor <;> exact fun hc => absurd (List.eq_of_mem_replicate hc) (by decide)
  by_cases hl : l = []
  · rw [pad, if_pos hl]
    exact isLine_nil
  · rw [pad, if_neg hl]
    exact isLine_append.mpr ⟨hspaces, h⟩

theorem getLast?_map_pad {width : Nat} {ls : List (List Char)} (h : ls.getLast? ≠ some []) :
    (ls.map (pad width)).getLast? ≠ some [] := by
  rw [List.getLast?_map]
  intro hlast
  obtain ⟨l, hl, hpad⟩ := Option.map_eq_some_iff.mp hlast
  exact h (pad_eq_nil_iff.mp hpad ▸ hl)

theorem indent_joinLines {width : Nat} {ls : List (List Char)} (h : ∀ l ∈ ls, IsLine l)
    (hlast : ls.getLast? ≠ some []) :
    indent width (joinLines ls) = joinLines (ls.map (pad width)) := by
  rw [indent, lines_joinLines h hlast]

end Text
end FormBuilder
