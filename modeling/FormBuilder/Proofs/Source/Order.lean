import FormBuilder.Proofs.Source.Initializers

/-!
The order of things in the source of a form.  Entries and fragments stand in the order of
the fields, each in lines of its own, the fragments one empty line apart.  No text of the
user adds a line or takes one away, so a reader that looks for line breaks and empty lines
finds each of them: `generate_inOrder`.
-/

namespace FormBuilder

namespace Text

/-! ## White space -/

/-- The characters that Unicode counts as white space. -/
def isSpace (c : Char) : Bool :=
  ('\u0009' ≤ c && c ≤ '\u000d') || c = ' ' || c = '\u0085' || c = '\u00a0' || c = '\u1680' ||
    ('\u2000' ≤ c && c ≤ '\u200a') || c = '\u2028' || c = '\u2029' || c = '\u202f' ||
    c = '\u205f' || c = '\u3000'

/-- A text without the white space at its end. -/
def trimEnd (t : List Char) : List Char := t.rdropWhile isSpace

theorem trimEnd_eq_self {t : List Char} {c : Char} (hlast : t.getLast? = some c)
    (hc : isSpace c = false) : trimEnd t = t := by
  refine List.rdropWhile_eq_self_iff.mpr fun hne hspace => ?_
  rw [List.getLast?_eq_some_getLast hne, Option.some.injEq] at hlast
  rw [hlast, hc] at hspace
  exact Bool.false_ne_true hspace

/-- A text with spaces in front of each of its lines. -/
def shift (width : Nat) (t : List Char) : List Char :=
  joinLines ((t.splitOn '\n').map (List.replicate width ' ' ++ ·))

end Text

namespace Source

open Text

variable {f : Field} {l : List Char}

/-! ## The lines of one fragment -/

/-- How many lines the fragment of a field has. -/
def lineCount (f : Field) : Nat :=
  match f.attributes.options? with
  | none => 9
  | some options => 10 + options.length

theorem length_controlLines (f : Field) :
    (controlLines f).length = match f.attributes.options? with
      | none => 1
      | some options => options.length + 2 := by
  unfold controlLines
  cases f.attributes <;> simp [selectLines, radioLines, Attributes.options?]

theorem length_fragmentLines (f : Field) : (fragmentLines f).length = lineCount f := by
  simp only [fragmentLines, fragmentTop, fragmentBottom, List.length_append, List.length_map,
    List.length_cons, List.length_nil, length_controlLines, lineCount]
  cases f.attributes.options? with
  | none => rfl
  | some options => simp only; omega

theorem IsMarkup.trimEnd_eq (h : IsMarkup l) : trimEnd l = l := by
  obtain ⟨c, hlast, hc⟩ := (Option.any_eq_true ..).mp h.getLast
  have hclosing : ∀ c ∈ ['>', '(', '\x7d'], isSpace c = false := by
    simp only [List.forall_mem_cons]
    exact ⟨by decide, by decide, by decide, fun _ hc => absurd hc List.not_mem_nil⟩
  exact trimEnd_eq_self hlast (hclosing c (List.contains_iff_mem.mp hc))

theorem splitOn_fragment (f : Field) : (fragment f).splitOn '\n' = fragmentLines f := by
  rw [fragment_eq]
  exact splitOn_joinLines (fragmentLines_ne_nil f) fun _ hl =>
    (isMarkup_of_mem_fragmentLines hl).isLine

theorem return_not_mem_fragment (f : Field) : '\r' ∉ fragment f := by
  rw [fragment_eq]
  exact return_not_mem_joinLines fun _ hl => (isMarkup_of_mem_fragmentLines hl).isLine

/-- The line break that ends the template of a fragment is all that is trimmed. -/
theorem trimEnd_fragment (f : Field) : trimEnd (fragment f ++ ['\n']) = fragment f := by
  have hlines : fragmentLines f = (fragmentTop f ++ ((controlLines f).map (pad 6) ++
      fragmentBottom.dropLast)) ++ ["</form.Field>".toList] := by
    rw [List.append_assoc, List.append_assoc]
    rfl
  have hlast : (fragment f).getLast? = some '>' := by
    rw [fragment_eq, hlines, getLast?_joinLines _ (by decide)]
    rfl
  rw [trimEnd, List.rdropWhile_concat_pos _ _ _ (by decide)]
  exact trimEnd_eq_self hlast (by decide)

/-! ## Entries and fragments in their places -/

/-- The entry of a field as it stands in the source. -/
def entryPiece (f : Field) : List Char := List.replicate 6 ' ' ++ entry f

/-- The fragment of a field as it stands in the source. -/
def fragmentPiece (f : Field) : List Char := shift 8 (fragment f)

/-- What stands in the place of the entries. -/
def entryPart (fields : List Field) : List Char := joinLines (fields.map entryPiece)

/-- What stands in the place of the fragments. -/
def fieldPart (fields : List Field) : List Char :=
  ['\n', '\n'].intercalate (fields.map fragmentPiece)

theorem map_entryPiece (fields : List Field) : fields.map entryPiece = entryLines fields := by
  rw [entryLines, List.map_map]
  exact List.map_congr_left fun f _ => (pad_entry f).symm

/-- The lines of a fragment as they stand in the source. -/
def pieceLines (f : Field) : List (List Char) := (fragmentLines f).map (pad 8)

theorem pieceLines_ne_nil (f : Field) : pieceLines f ≠ [] :=
  fun hnil => fragmentLines_ne_nil f (List.map_eq_nil_iff.mp hnil)

theorem isMarkup_of_mem_pieceLines (h : l ∈ pieceLines f) : IsMarkup l := by
  obtain ⟨m, hm, rfl⟩ := List.mem_map.mp h
  exact (isMarkup_of_mem_fragmentLines hm).pad

theorem fragmentPiece_eq (f : Field) : fragmentPiece f = joinLines (pieceLines f) := by
  rw [fragmentPiece, shift, splitOn_fragment, pieceLines]
  refine congrArg joinLines (List.map_congr_left fun l hl => ?_)
  rw [pad, if_neg (isMarkup_of_mem_fragmentLines hl).ne_nil]

theorem map_fragmentPiece (fields : List Field) :
    fields.map fragmentPiece = (fields.map pieceLines).map joinLines := by
  rw [List.map_map]
  exact List.map_congr_left fun f _ => fragmentPiece_eq f

theorem fieldPart_eq (fields : List Field) :
    fieldPart fields = joinLines ((fieldLines fields).map (pad 8)) := by
  have hne : ∀ p ∈ fields.map pieceLines, p ≠ [] :=
    List.forall_mem_map.mpr fun f _ => pieceLines_ne_nil f
  rw [fieldPart, map_fragmentPiece, intercalate_map_joinLines hne, fieldLines, map_intercalate,
    List.map_map]
  rfl

theorem form_eq_component (fields : List Field) :
    form fields = component (entryPart fields) (fieldPart fields) := by
  rw [form, indent_entries, indent_fragments, entryBlock, fieldBlock, joinLines_block,
    joinLines_block, entryPart, map_entryPiece, entryLines, fieldPart_eq]

theorem splitOn_entryPart {fields : List Field} (h : fields ≠ []) :
    (entryPart fields).splitOn '\n' = fields.map entryPiece := by
  refine splitOn_joinLines (mt List.map_eq_nil_iff.mp h) (List.forall_mem_map.mpr fun f _ => ?_)
  rw [entryPiece, ← pad_entry]
  exact isLine_pad (isLine_entry f)

theorem paragraphs_fieldPart {fields : List Field} (h : fields ≠ []) :
    paragraphs (fieldPart fields) = fields.map fragmentPiece := by
  rw [fieldPart, map_fragmentPiece]
  refine paragraphs_intercalate (mt List.map_eq_nil_iff.mp h) ?_
  refine List.forall_mem_map.mpr fun f _ => ⟨pieceLines_ne_nil f, fun l hl => ?_⟩
  exact ⟨(isMarkup_of_mem_pieceLines hl).isLine, (isMarkup_of_mem_pieceLines hl).ne_nil⟩

theorem fieldPart_append {fields others : List Field} (hfields : fields ≠ [])
    (hothers : others ≠ []) :
    fieldPart (fields ++ others) = fieldPart fields ++ '\n' :: '\n' :: fieldPart others := by
  rw [fieldPart, List.map_append, intercalate_append (mt List.map_eq_nil_iff.mp hfields)
    (mt List.map_eq_nil_iff.mp hothers)]
  rfl

/-! ## Reading them back -/

/-- The line in front of the fragments, without its line break. -/
def fieldsStart : List Char := "\n      >".toList

/-- The start of the line behind the empty line that follows the fragments. -/
def fieldsEnd : List Char := "\n        <button".toList

/-- The text between the first start of fragments in a source and their next end, without
the line breaks around it. -/
def fieldText? (source : List Char) : Option (List Char) :=
  (splitFirst? fieldsStart source).bind fun p =>
    (splitFirst? fieldsEnd p.2.tail).map fun q => q.1.dropLast

/-- The lines in front of the fragments, the last one apart. -/
def beforeFields (fields : List Field) : List (List Char) :=
  head ++ (entryBlock fields ++ middle.dropLast)

/-- Where entries are indented as far as the line in front of the fragments, they go on with
a quote. -/
theorem not_prefix_beforeFields (fields : List Field) :
    ∀ l ∈ (beforeFields fields).tail, ¬ "      >".toList <+: l := by
  have hhead : ∀ l ∈ head.tail, ¬ "      >".toList <+: l := by
    unfold head
    repeat rw [String.toList_ofList]
    decide
  have hmiddle : ∀ l ∈ middle.dropLast, ¬ "      >".toList <+: l := by
    unfold middle
    repeat rw [String.toList_ofList]
    decide
  have hentries : ∀ l ∈ entryBlock fields, ¬ "      >".toList <+: l := by
    unfold entryBlock block
    split_ifs
    · decide
    · rintro l hl ⟨rest, hrest⟩
      obtain ⟨e, he, rfl⟩ := List.mem_map.mp hl
      obtain ⟨f, -, rfl⟩ := List.mem_map.mp he
      rw [pad_entry] at hrest
      have hseventh : some '>' = some '"' := congrArg (·[6]?) hrest
      exact absurd hseventh (by decide)
  rw [beforeFields, List.tail_append_of_ne_nil (by decide)]
  exact List.forall_mem_append.mpr ⟨hhead, List.forall_mem_append.mpr ⟨hentries, hmiddle⟩⟩

/-- No line of a fragment starts with a tag of this kind. -/
theorem not_prefix_fragmentLines (f : Field) : ∀ l ∈ fragmentLines f, ¬ "<button".toList <+: l := by
  have htop : ∀ l ∈ fragmentTop f, ¬ "<button".toList <+: l := by
    simp only [fragmentTop, List.forall_mem_cons]
    refine ⟨?_, by decide, by decide, ?_, fun _ hl => absurd hl List.not_mem_nil⟩
    · rintro ⟨rest, hrest⟩
      have hsecond : some 'b' = some 'f' := congrArg (·[1]?) hrest
      exact absurd hsecond (by decide)
    · rintro ⟨rest, hrest⟩
      have hfirst : some '<' = some ' ' := congrArg (·[0]?) hrest
      exact absurd hfirst (by decide)
  have hcontrol : ∀ l ∈ (controlLines f).map (pad 6), ¬ "<button".toList <+: l := by
    rintro l hl ⟨rest, hrest⟩
    obtain ⟨m, hm, rfl⟩ := List.mem_map.mp hl
    rw [pad, if_neg (isMarkup_of_mem_controlLines hm).ne_nil] at hrest
    have hfirst : some '<' = some ' ' := congrArg (·[0]?) hrest
    exact absurd hfirst (by decide)
  have hbottom : ∀ l ∈ fragmentBottom, ¬ "<button".toList <+: l := by
    unfold fragmentBottom errorLine
    rw [String.toList_append]
    repeat rw [String.toList_ofList]
    decide
  exact List.forall_mem_append.mpr ⟨htop, List.forall_mem_append.mpr ⟨hcontrol, hbottom⟩⟩

theorem not_prefix_fieldBlock (fields : List Field) :
    ∀ l ∈ fieldBlock fields ++ [[]], ¬ "        <button".toList <+: l := by
  have hnil : ¬ "        <button".toList <+: [] := by decide
  have hline : ∀ l ∈ fieldLines fields, ¬ "        <button".toList <+: pad 8 l := by
    refine forall_mem_intercalate (List.forall_mem_singleton.mpr hnil) ?_
    refine List.forall_mem_map.mpr fun f _ l hl hprefix => ?_
    rw [pad, if_neg (isMarkup_of_mem_fragmentLines hl).ne_nil] at hprefix
    exact not_prefix_fragmentLines f l hl
      ((List.prefix_append_right_inj (List.replicate 8 ' ')).mp hprefix)
  refine List.forall_mem_append.mpr ⟨?_, List.forall_mem_singleton.mpr hnil⟩
  unfold fieldBlock block
  split_ifs
  · exact List.forall_mem_singleton.mpr hnil
  · exact List.forall_mem_map.mpr hline

/-- The text behind the end of the fragments. -/
def afterFields : List Char := (joinLines foot.tail).drop "        <button".toList.length

/-- The text from the first fragment on. -/
def fromFields (fields : List Field) : List Char :=
  joinLines (fieldBlock fields ++ [[]]) ++ '\n' :: ("        <button".toList ++ afterFields)

theorem formLines_eq_around (fields : List Field) :
    formLines fields =
      beforeFields fields ++ ("      >".toList :: ((fieldBlock fields ++ [[]]) ++ foot.tail)) := by
  have hmiddle : middle = middle.dropLast ++ ["      >".toList] := rfl
  have hfoot : foot = [[]] ++ foot.tail := rfl
  calc formLines fields
      = head ++ (entryBlock fields ++ ((middle.dropLast ++ ["      >".toList]) ++
          (fieldBlock fields ++ ([[]] ++ foot.tail)))) := by rw [← hmiddle, ← hfoot, formLines]
    _ = _ := by simp only [beforeFields, List.append_assoc, List.singleton_append]

theorem form_eq_around (fields : List Field) :
    form fields = joinLines (beforeFields fields) ++
      '\n' :: ("      >".toList ++ '\n' :: fromFields fields) := by
  have hbefore : beforeFields fields ≠ [] := List.cons_ne_nil _ _
  have hinside : fieldBlock fields ++ [[]] ≠ [] := List.append_ne_nil_of_right_ne_nil _ (by decide)
  have hfoot : foot.tail ≠ [] := List.cons_ne_nil _ _
  have hbutton : "        <button".toList <+: joinLines foot.tail := by
    unfold foot
    repeat rw [String.toList_ofList]
    decide
  have hafter : "        <button".toList ++ afterFields = joinLines foot.tail :=
    List.prefix_iff_eq_append.mp hbutton
  have hrest : joinLines ("      >".toList :: ((fieldBlock fields ++ [[]]) ++ foot.tail)) =
      "      >".toList ++ '\n' :: joinLines ((fieldBlock fields ++ [[]]) ++ foot.tail) :=
    joinLines_append (List.cons_ne_nil "      >".toList [])
      (List.append_ne_nil_of_left_ne_nil hinside _)
  rw [form_eq, formLines_eq_around, joinLines_append hbefore (List.cons_ne_nil _ _), hrest,
    joinLines_append hinside hfoot, ← hafter, fromFields]

theorem fieldText?_form (fields : List Field) :
    fieldText? (form fields) = some (fieldPart fields) := by
  have hinside : fieldBlock fields ++ [[]] ≠ [] := List.append_ne_nil_of_right_ne_nil _ (by decide)
  have hline : ∀ l ∈ formLines fields, '\n' ∉ l := fun l hl => (isLine_of_mem_formLines hl).1
  rw [formLines_eq_around, List.forall_mem_append, List.forall_mem_cons, List.forall_mem_append]
    at hline
  obtain ⟨hbefore, -, hfields, -⟩ := hline
  have hstart : splitFirst? fieldsStart (form fields) =
      some (joinLines (beforeFields fields), '\n' :: fromFields fields) := by
    rw [form_eq_around]
    exact splitFirst?_joinLines (by decide) (List.cons_ne_nil _ _) hbefore
      (not_prefix_beforeFields fields) ('\n' :: fromFields fields)
  have hend : splitFirst? fieldsEnd (fromFields fields) =
      some (joinLines (fieldBlock fields ++ [[]]), afterFields) :=
    splitFirst?_joinLines (by decide) hinside hfields
      (fun l hl => not_prefix_fieldBlock fields l (List.mem_of_mem_tail hl)) afterFields
  have hlast : joinLines (fieldBlock fields ++ [[]]) = fieldPart fields ++ ['\n'] := by
    have hblock : fieldBlock fields ≠ [] := block_ne_nil _
    rw [joinLines_append hblock (List.cons_ne_nil [] []), fieldBlock, joinLines_block, fieldPart_eq]
    rfl
  rw [fieldText?, hstart, Option.bind_some, List.tail_cons, hend, Option.map_some, hlast,
    List.dropLast_concat]

theorem entryText?_eq (fields : List Field) :
    entryText? (form fields) = some (entryPart fields) := by
  rw [entryText?_form, entryPart, map_entryPiece]

/-- The entries in a source, each with the fragment that stands at its place among the
fragments. -/
def pieces? (source : List Char) : Option (List (List Char × List Char)) := do
  let entries ← entryText? source
  let fields ← fieldText? source
  some ((entries.splitOn '\n').zip (paragraphs fields))

theorem pieces?_form {fields : List Field} (h : fields ≠ []) :
    pieces? (form fields) = some (fields.map fun f => (entryPiece f, fragmentPiece f)) := by
  simp only [pieces?, entryText?_eq, fieldText?_form, Option.bind_eq_bind, Option.bind_some,
    splitOn_entryPart h, paragraphs_fieldPart h, List.zip_map']

/-- What the lines of a fragment are like, whatever texts the field holds. -/
structure InLines (f : Field) : Prop where
  noReturn : '\r' ∉ fragment f
  full : ∀ l ∈ (fragment f).splitOn '\n', l ≠ []
  trimmed : ∀ l ∈ (fragment f).splitOn '\n', trimEnd l = l
  count : ((fragment f).splitOn '\n').length = lineCount f
  /-- Of the filled template, which ends with a line break, nothing else is trimmed. -/
  template : trimEnd (fragment f ++ ['\n']) = fragment f

theorem inLines (f : Field) : InLines f where
  noReturn := return_not_mem_fragment f
  full l hl := by
    rw [splitOn_fragment] at hl
    exact (isMarkup_of_mem_fragmentLines hl).ne_nil
  trimmed l hl := by
    rw [splitOn_fragment] at hl
    exact (isMarkup_of_mem_fragmentLines hl).trimEnd_eq
  count := by rw [splitOn_fragment, length_fragmentLines]
  template := trimEnd_fragment f

/-- In the places of the template stand the entries, one on a line and six spaces in, and
the fragments, eight spaces in and one empty line apart, both in the order of the fields.
Line breaks and empty lines are where they are whatever texts the fields hold, so all
entries and fragments can be found again by them.  The fragments of two lists of fields
together are those of one, an empty line and those of the other; and fields in another order
give the same entries and fragments in that order. -/
theorem generate_inOrder (fields : List Field) :
    generate fields = String.ofList (component (entryPart fields) (fieldPart fields)) ∧
    (∀ f, InLines f) ∧
    entryText? (generate fields).toList = some (entryPart fields) ∧
    fieldText? (generate fields).toList = some (fieldPart fields) ∧
    (fields ≠ [] → pieces? (generate fields).toList =
      some (fields.map fun f => (entryPiece f, fragmentPiece f))) ∧
    (∀ others, fields ≠ [] → others ≠ [] → fieldText? (generate (fields ++ others)).toList =
      some (fieldPart fields ++ '\n' :: '\n' :: fieldPart others)) ∧
    ∀ others, fields ≠ [] → others.Perm fields → ∃ pieces,
      pieces? (generate others).toList = some pieces ∧
        pieces.Perm (fields.map fun f => (entryPiece f, fragmentPiece f)) := by
  have hsource : ∀ fields, (generate fields).toList = form fields := fun _ => String.toList_ofList
  simp only [hsource]
  refine ⟨?_, inLines, entryText?_eq fields, fieldText?_form fields, pieces?_form, ?_, ?_⟩
  · rw [generate, form_eq_component]
  · intro others hfields hothers
    rw [fieldText?_form, fieldPart_append hfields hothers]
  · intro others hfields hperm
    have hothers : others ≠ [] := fun hnil => hfields (List.nil_perm.mp (hnil ▸ hperm))
    exact ⟨_, pieces?_form hothers, hperm.map _⟩

/-- Texts that look like what the reader goes by: empty lines, and the lines around the
fragments. -/
theorem generate_inOrder_imitated :
    let f : Field :=
      { id := "a", name := "\n      >\n", attributes := .text { initial := some "\r\n" } }
    let g : Field :=
      { id := "b", name := "\n\n        <button",
        attributes := .select { options := [⟨"\n\n", " "⟩, ⟨"\u2028", "\t"⟩] } }
    ((fragment g).splitOn '\n').length = 12 ∧
    fieldText? (generate ([f] ++ [g])).toList =
      some (fieldPart [f] ++ '\n' :: '\n' :: fieldPart [g]) ∧
    ∃ pieces, pieces? (generate [g, f]).toList = some pieces ∧
      pieces.Perm [(entryPiece f, fragmentPiece f), (entryPiece g, fragmentPiece g)] := by
  intro f g
  obtain ⟨-, hlines, -, -, -, happend, -⟩ := generate_inOrder [f]
  obtain ⟨-, -, -, -, -, -, hperm⟩ := generate_inOrder [f, g]
  exact ⟨(hlines g).count, happend [g] (List.cons_ne_nil f []) (List.cons_ne_nil g []),
    hperm [g, f] (List.cons_ne_nil f [g]) (.swap f g [])⟩

end Source
end FormBuilder
