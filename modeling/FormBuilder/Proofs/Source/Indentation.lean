import FormBuilder.Proofs.Source.Layout
import FormBuilder.Proofs.Text.Indentation

/-!
What is indented in the source of a form: the entries, each control, and the fragments with
the controls in them.  Texts of the fields stand in them in string literals only, so they bring
no line breaks and no carriage returns, and indenting moves whole lines of the template and
nothing inside of a literal: `indent_lineByLine`.
-/

namespace FormBuilder
namespace Source

open Text

theorem isIndentable_markup {ls : List (List Char)} (hls : ls ≠ []) (h : ∀ l ∈ ls, IsMarkup l) :
    IsIndentable (joinLines ls) ∧ joinLines ls ≠ [] := by
  constructor
  · exact isIndentable_joinLines (fun l hl => (h l hl).isLine)
      fun hlast => (h [] (List.mem_of_getLast? hlast)).ne_nil rfl
  · obtain ⟨l, ls, rfl⟩ := List.exists_cons_of_ne_nil hls
    exact intercalate_ne_nil (h l List.mem_cons_self).ne_nil ['\n'] ls

/-- What the parts of a source are joined from, whatever texts the field holds. -/
theorem isIndentable_pieces (f : Field) :
    ∀ t ∈ [entry f, control f, fragment f], IsIndentable t ∧ t ≠ [] := by
  have hentry : IsIndentable (entry f) ∧ entry f ≠ [] :=
    ⟨isIndentable_of_isLine (isLine_entry f), entry_ne_nil f⟩
  have hcontrol : IsIndentable (control f) ∧ control f ≠ [] :=
    isIndentable_markup (controlLines_ne_nil f) fun _ => isMarkup_of_mem_controlLines
  have hfragment : IsIndentable (fragment f) ∧ fragment f ≠ [] := by
    rw [fragment_eq]
    exact isIndentable_markup (fragmentLines_ne_nil f) fun _ => isMarkup_of_mem_fragmentLines
  simp only [List.forall_mem_cons]
  exact ⟨hentry, hcontrol, hfragment, List.forall_mem_nil _⟩

theorem isIndentable_entries (fields : List Field) : IsIndentable (entries fields) :=
  isIndentable_intercalate (by decide)
    (List.forall_mem_map.mpr fun f _ => isIndentable_pieces f _ (by simp))

theorem isIndentable_fragments (fields : List Field) : IsIndentable (fragments fields) :=
  isIndentable_intercalate (by decide)
    (List.forall_mem_map.mpr fun f _ => isIndentable_pieces f _ (by simp))

/-- To indent a text without carriage returns and without a line break at its end is to indent
its lines: there are as many afterwards, and without the spaces in front of those that are not
empty they are the text again.  Such texts, one or two line breaks apart, are indented one by
one.  The entries of a form, the control of a field and the fragments of a form, which are what
is indented in its source, are texts of this kind, and so are the texts that entries and
fragments are joined from. -/
theorem indent_lineByLine :
    (∀ width t, IsIndentable t →
      (lines (indent width t)).length = (lines t).length ∧
        unindent? width (indent width t) = some t) ∧
    (∀ width ts, (∀ t ∈ ts, IsIndentable t ∧ t ≠ []) →
      indent width (joinLines ts) = joinLines (ts.map (indent width)) ∧
        indent width (['\n', '\n'].intercalate ts) =
          ['\n', '\n'].intercalate (ts.map (indent width))) ∧
    ∀ fields, IsIndentable (entries fields) ∧ IsIndentable (fragments fields) ∧
      ∀ f ∈ fields, ∀ t ∈ [entry f, control f, fragment f], IsIndentable t ∧ t ≠ [] := by
  refine ⟨fun width t h => ⟨?_, unindent?_indent h⟩, fun width ts h => ?_, fun fields => ?_⟩
  · rw [lines_indent h, List.length_map]
  · exact ⟨indent_intercalate h 0, indent_intercalate h 1⟩
  · exact ⟨isIndentable_entries fields, isIndentable_fragments fields,
      fun f _ => isIndentable_pieces f⟩

/-- An empty line, a line that is indented already, and line breaks in all texts of a field. -/
theorem indent_lineByLine_nested :
    let t : List Char := "a\n\n  b".toList
    let f : Field :=
      { id := "\n", name := "\r\n", label := some "\n",
        attributes := .select { options := [⟨"\n\n", "\r"⟩] } }
    IsIndentable t ∧ (lines (indent 2 t)).length = 3 ∧
    indent 2 t = "  a\n\n    b".toList ∧ unindent? 2 (indent 2 t) = some t ∧
    indent 2 (['\n', '\n'].intercalate [t, ['c']]) =
      indent 2 t ++ "\n\n  c".toList ∧
    IsIndentable (entries [f]) ∧ IsIndentable (control f) ∧ IsIndentable (fragments [f]) := by
  intro t f
  have ht : IsIndentable t := ⟨by decide, by decide⟩
  have hc : IsIndentable ['c'] := ⟨by decide, by decide⟩
  have hts : ∀ u ∈ [t, ['c']], IsIndentable u ∧ u ≠ [] := by
    simp only [List.forall_mem_cons]
    exact ⟨⟨ht, by decide⟩, ⟨hc, by decide⟩, List.forall_mem_nil _⟩
  obtain ⟨hlines, hjoined, hsource⟩ := indent_lineByLine
  obtain ⟨hentries, hfragments, hpieces⟩ := hsource [f]
  refine ⟨ht, (hlines 2 t ht).1, by decide, (hlines 2 t ht).2, ?_, hentries, ?_, hfragments⟩
  · exact (hjoined 2 [t, ['c']] hts).2
  · exact (hpieces f List.mem_cons_self (control f) (by simp)).1

end Source
end FormBuilder
