import FormBuilder.Source.Form
import FormBuilder.Proofs.Json.Quoted
import FormBuilder.Proofs.Number.Figures

/-!
The lines of a form component.  Nothing in a field adds a line break, so the source
is the lines of its template, one line for each entry and the lines of each
fragment: `form_eq`.
-/

namespace FormBuilder
namespace Source

open Text

/-! ## Pieces of lines -/

@[simp]
theorem isLine_string (s : String) : IsLine (string s) := Quoted.isLine_encode s.toList

@[simp]
theorem isLine_braces {code : List Char} : IsLine (braces code) ↔ IsLine code := by
  simp [braces]

@[simp]
theorem isLine_expression (s : String) : IsLine (expression s) := by
  simp [expression]

@[simp]
theorem isLine_formatNumber (x : Binary64) : IsLine (Value.formatNumber x) :=
  ⟨Value.not_mem_formatNumber (by decide) (by decide) x,
    Value.not_mem_formatNumber (by decide) (by decide) x⟩

@[simp]
theorem isLine_toDigits (n : Nat) : IsLine (Nat.toDigits 10 n) := by
  have hdigit := fun c (hc : c ∈ Nat.toDigits 10 n) =>
    Nat.isDigit_of_mem_toDigits (by decide) (by decide) hc
  exact ⟨fun hc => absurd (hdigit _ hc) (by decide), fun hc => absurd (hdigit _ hc) (by decide)⟩

@[simp]
theorem isLine_value (v : Value) : IsLine (value v) := by
  cases v with
  | bool b => cases b <;> decide
  | number x => exact isLine_formatNumber x
  | text s => exact isLine_string s
  | absent => decide

@[simp]
theorem isLine_codeAttribute {name : String} {code : List Char} :
    IsLine (codeAttribute name code) ↔ IsLine name.toList ∧ IsLine code := by
  simp [codeAttribute]

@[simp]
theorem isLine_readValue : IsLine readValue :=
  isLine_codeAttribute.mpr ⟨by decide, isLine_ofList (by decide)⟩

@[simp]
theorem isLine_writeText : IsLine writeText :=
  isLine_codeAttribute.mpr ⟨by decide, isLine_ofList (by decide)⟩

@[simp]
theorem isLine_writeNumber : IsLine writeNumber :=
  isLine_codeAttribute.mpr ⟨by decide, isLine_ofList (by decide)⟩

@[simp]
theorem isLine_readChecked : IsLine readChecked :=
  isLine_codeAttribute.mpr ⟨by decide, isLine_ofList (by decide)⟩

@[simp]
theorem isLine_writeChecked : IsLine writeChecked :=
  isLine_codeAttribute.mpr ⟨by decide, isLine_ofList (by decide)⟩

theorem isLine_openTag {name : String} {attributes : List (List Char)}
    (hname : IsLine name.toList) (h : ∀ a ∈ attributes, IsLine a) :
    IsLine (openTag name attributes) := by
  have hattributes : IsLine (attributes.flatMap (' ' :: ·)) := by
    induction attributes with
    | nil => exact isLine_nil
    | cons a attributes ih =>
      rw [List.forall_mem_cons] at h
      rw [List.flatMap_cons, isLine_append, isLine_cons]
      exact ⟨⟨by decide, h.1⟩, ih h.2⟩
  rw [openTag, isLine_cons, isLine_append]
  exact ⟨by decide, hname, hattributes⟩

/-- An attribute that may be left out. -/
def optional (name : String) (code : Option (List Char)) : List (List Char) :=
  (code.map (codeAttribute name)).toList

theorem numberBound_eq (name : String) (bound : Option Binary64) :
    numberBound name bound = optional name (bound.map Value.formatNumber) := by
  rw [optional, Option.map_map]
  rfl

theorem dateBound_eq (name : String) (bound : Option String) :
    dateBound name bound = optional name ((bound.filter (· ≠ "")).map string) := by
  rw [optional, Option.map_map]
  rfl

theorem isLine_of_mem_map {α : Type} {code : α → List Char} (h : ∀ a, IsLine (code a))
    (x : Option α) : ∀ c ∈ x.map code, IsLine c := by
  simp only [Option.mem_def, Option.map_eq_some_iff]
  rintro c ⟨a, -, rfl⟩
  exact h a

theorem isLine_optional {name : String} (hname : IsLine name.toList) {code : Option (List Char)}
    (h : ∀ c ∈ code, IsLine c) : ∀ a ∈ optional name code, IsLine a := by
  simp only [optional, Option.mem_toList, Option.map_eq_some_iff]
  rintro a ⟨c, hc, rfl⟩
  exact isLine_codeAttribute.mpr ⟨hname, h c hc⟩

/-! ## Controls -/

/-- A line of markup.  It ends with a bracket, so it is not empty and no blank stands
at its end. -/
structure IsMarkup (l : List Char) : Prop where
  isLine : IsLine l
  getLast : l.getLast?.any (['>', '(', '\x7d'].contains ·) = true

namespace IsMarkup

theorem ne_nil {l : List Char} (h : IsMarkup l) : l ≠ [] := by
  rintro rfl
  exact Bool.noConfusion h.getLast

theorem append {l m : List Char} (hl : IsLine l) (hm : IsMarkup m) : IsMarkup (l ++ m) where
  isLine := isLine_append.mpr ⟨hl, hm.isLine⟩
  getLast := by
    obtain ⟨c, hc⟩ := Option.ne_none_iff_exists'.mp (List.getLast?_eq_none_iff.not.mpr hm.ne_nil)
    rw [List.getLast?_append, hc, Option.some_or, ← hc]
    exact hm.getLast

theorem cons {c : Char} {l : List Char} (hc : c ≠ '\n' ∧ c ≠ '\r') (h : IsMarkup l) :
    IsMarkup (c :: l) := append (isLine_cons.mpr ⟨hc, isLine_nil⟩) h

theorem pad {width : Nat} {l : List Char} (h : IsMarkup l) : IsMarkup (pad width l) := by
  rw [Text.pad, if_neg h.ne_nil]
  refine append ?_ h
  constructor <;> exact fun hc => absurd (List.eq_of_mem_replicate hc) (by decide)

end IsMarkup

/-- Lines between two fixed ones. -/
theorem isMarkup_of_mem_frame {first last : List Char} {ls : List (List Char)}
    (hfirst : IsMarkup first) (hlast : IsMarkup last) (h : ∀ l ∈ ls, IsMarkup l) :
    ∀ l ∈ first :: (ls ++ [last]), IsMarkup l := by
  simp only [List.forall_mem_cons, List.forall_mem_append]
  exact ⟨hfirst, h, hlast, fun _ hl => absurd hl List.not_mem_nil⟩

theorem isMarkup_emptyTag {name : String} {attributes : List (List Char)}
    (hname : IsLine name.toList) (h : ∀ a ∈ attributes, IsLine a) :
    IsMarkup (emptyTag name attributes) :=
  .append (isLine_openTag hname h) ⟨by decide, by decide⟩

theorem isMarkup_ofList {l : List Char} (h : IsMarkup l) : IsMarkup (String.ofList l).toList := by
  rwa [String.toList_ofList]

theorem isMarkup_optionLine (c : Choice) : IsMarkup (optionLine c) := by
  unfold optionLine
  have hend : IsMarkup "</option>".toList := isMarkup_ofList ⟨by decide, by decide⟩
  refine .append ?_ (.cons (by decide) (.append (isLine_expression _) hend))
  simp only [isLine_append, isLine_codeAttribute, isLine_string]
  decide

theorem isMarkup_radioLine (name : String) (c : Choice) : IsMarkup (radioLine name c) := by
  unfold radioLine
  have hend : IsMarkup "</label>".toList := isMarkup_ofList ⟨by decide, by decide⟩
  have hstate : IsLine "field.state.value === ".toList := isLine_ofList (by decide)
  have hcall : IsLine "() => field.handleChange(".toList := isLine_ofList (by decide)
  refine .append (isLine_append.mpr ⟨by decide, (isMarkup_emptyTag (by decide) ?_).isLine⟩)
    (.cons (by decide) (.append (isLine_expression _) hend))
  simp only [List.forall_mem_cons, isLine_append, isLine_codeAttribute, isLine_string, hstate,
    hcall]
  decide

theorem isMarkup_checkbox {role : List (List Char)} (h : ∀ a ∈ role, IsLine a) :
    IsMarkup (checkbox role) := by
  refine isMarkup_emptyTag (by decide) ?_
  simp only [List.forall_mem_cons, List.forall_mem_append, isLine_readChecked, isLine_writeChecked]
  exact ⟨by decide, h, by decide⟩

section Lines

variable {f : Field}

theorem controlLines_text {t : TextInput} (h : f.attributes = .text t) :
    controlLines f = [emptyTag "input" (["type=\"text\"".toList, readValue, writeText] ++
      [placeholder t.placeholder])] := by
  rw [controlLines, h]
  rfl

theorem controlLines_number {n : NumberInput} (h : f.attributes = .number n) :
    controlLines f = [emptyTag "input" (["type=\"number\"".toList, readValue, writeNumber] ++
      (optional "min" (n.min.map Value.formatNumber) ++
        (optional "max" (n.max.map Value.formatNumber) ++
          [codeAttribute "step" (Value.formatNumber n.stepOrDefault)])))] := by
  simp only [controlLines, h, numberBound_eq, List.append_assoc]

theorem controlLines_textarea {t : TextArea} (h : f.attributes = .textarea t) :
    controlLines f = [emptyTag "textarea"
      ([] ++ codeAttribute "rows" (Nat.toDigits 10 t.rowsOrDefault.toNat) ::
        ([readValue, writeText] ++ [placeholder t.placeholder]))] := by
  rw [controlLines, h]
  rfl

theorem controlLines_date {d : DateInput} (h : f.attributes = .date d) :
    controlLines f = [emptyTag "input" (["type=\"date\"".toList, readValue, writeText] ++
      (optional "min" ((d.min.filter (· ≠ "")).map string) ++
        (optional "max" ((d.max.filter (· ≠ "")).map string) ++ [])))] := by
  simp only [controlLines, h, dateBound_eq, List.append_assoc, List.append_nil]

theorem isMarkup_of_mem_controlLines {l : List Char} (h : l ∈ controlLines f) : IsMarkup l := by
  cases hf : f.attributes with
  | text t =>
    rw [controlLines_text hf, List.mem_singleton] at h
    rw [h]
    refine isMarkup_emptyTag (by decide) ?_
    simp only [List.forall_mem_append, List.forall_mem_cons, placeholder, isLine_codeAttribute,
      isLine_string, isLine_readValue, isLine_writeText]
    decide
  | number n =>
    rw [controlLines_number hf, List.mem_singleton] at h
    rw [h]
    refine isMarkup_emptyTag (by decide) ?_
    have hnumber := isLine_of_mem_map isLine_formatNumber
    simp only [List.forall_mem_append, List.forall_mem_cons, isLine_codeAttribute,
      isLine_formatNumber, isLine_readValue, isLine_writeNumber]
    exact ⟨by decide, isLine_optional (by decide) (hnumber _),
      isLine_optional (by decide) (hnumber _), by decide⟩
  | textarea t =>
    rw [controlLines_textarea hf, List.mem_singleton] at h
    rw [h]
    refine isMarkup_emptyTag (by decide) ?_
    simp only [List.forall_mem_append, List.forall_mem_cons, placeholder, isLine_codeAttribute,
      isLine_string, isLine_toDigits, isLine_readValue, isLine_writeText]
    decide
  | select c =>
    rw [controlLines, hf] at h
    have hopen : IsMarkup (openTag "select" [readValue, writeText] ++ ['>']) := by
      refine .append (isLine_openTag (by decide) ?_) ⟨by decide, by decide⟩
      simp only [List.forall_mem_cons, isLine_readValue, isLine_writeText]
      decide
    refine isMarkup_of_mem_frame hopen (isMarkup_ofList ⟨by decide, by decide⟩) ?_ l h
    exact List.forall_mem_map.mpr fun c _ => isMarkup_optionLine c
  | radio c =>
    rw [controlLines, hf] at h
    refine isMarkup_of_mem_frame (isMarkup_ofList ⟨by decide, by decide⟩)
      (isMarkup_ofList ⟨by decide, by decide⟩) ?_ l h
    exact List.forall_mem_map.mpr fun c _ => isMarkup_radioLine f.name c
  | checkbox _ =>
    rw [controlLines, hf] at h
    rw [List.mem_singleton.mp h]
    exact isMarkup_checkbox (by decide)
  | switch _ =>
    rw [controlLines, hf] at h
    rw [List.mem_singleton.mp h]
    exact isMarkup_checkbox (by decide)
  | date d =>
    rw [controlLines_date hf, List.mem_singleton] at h
    rw [h]
    refine isMarkup_emptyTag (by decide) ?_
    have hdate := isLine_of_mem_map isLine_string
    simp only [List.forall_mem_append, List.forall_mem_cons, isLine_readValue, isLine_writeText]
    exact ⟨by decide, isLine_optional (by decide) (hdate _),
      isLine_optional (by decide) (hdate _), by decide⟩

end Lines

theorem controlLines_ne_nil (f : Field) : controlLines f ≠ [] := by
  unfold controlLines
  split <;> exact List.cons_ne_nil _ _

/-! ## Fragments -/

/-- The lines of a fragment in front of its control. -/
def fragmentTop (f : Field) : List (List Char) :=
  [openField f, "  \x7b(field) => (".toList, "    <div className=\"field\">".toList, labelLine f]

/-- The lines of a fragment after its control. -/
def fragmentBottom : List (List Char) :=
  [errorLine, "    </div>".toList, "  )\x7d".toList, "</form.Field>".toList]

/-- The lines of a fragment. -/
def fragmentLines (f : Field) : List (List Char) :=
  fragmentTop f ++ ((controlLines f).map (pad 6) ++ fragmentBottom)

theorem fragmentLines_ne_nil (f : Field) : fragmentLines f ≠ [] := List.cons_ne_nil _ _

theorem fragment_eq (f : Field) : fragment f = joinLines (fragmentLines f) := by
  have hcontrol : indent 6 (control f) = joinLines ((controlLines f).map (pad 6)) :=
    indent_joinLines (fun _ hl => (isMarkup_of_mem_controlLines hl).isLine)
      fun hlast => (isMarkup_of_mem_controlLines (List.mem_of_getLast? hlast)).ne_nil rfl
  have hmap : (controlLines f).map (pad 6) ≠ [] :=
    fun hnil => controlLines_ne_nil f (List.map_eq_nil_iff.mp hnil)
  show joinLines (fragmentTop f ++ indent 6 (control f) :: fragmentBottom) = _
  rw [hcontrol, joinLines_embed hmap, fragmentLines]

theorem isLine_validators (f : Field) : IsLine (validators f) := by
  unfold validators
  cases f.rule? with
  | none => exact isLine_nil
  | some rule =>
    have hmessage : IsLine rule.message.toList := by
      cases rule
      decide
    exact isLine_append.mpr ⟨isLine_append.mpr ⟨isLine_ofList (by decide), hmessage⟩,
      isLine_ofList (by decide)⟩

theorem isMarkup_openField (f : Field) : IsMarkup (openField f) := by
  unfold openField
  refine .append ?_ ⟨by decide, by decide⟩
  simp only [isLine_append, isLine_codeAttribute, isLine_string]
  exact ⟨by decide, isLine_validators f⟩

theorem isMarkup_labelLine (f : Field) : IsMarkup (labelLine f) := by
  unfold labelLine
  refine .append (isLine_append.mpr ⟨by decide, isLine_expression _⟩) ⟨by decide, by decide⟩

theorem isMarkup_errorLine : IsMarkup errorLine := by
  unfold errorLine
  rw [String.toList_append]
  exact .append (isLine_ofList (by decide)) (isMarkup_ofList ⟨by decide, by decide⟩)

theorem isMarkup_of_mem_fragmentLines {f : Field} {l : List Char} (h : l ∈ fragmentLines f) :
    IsMarkup l := by
  have htop : ∀ l ∈ fragmentTop f, IsMarkup l := by
    simp only [fragmentTop, List.forall_mem_cons]
    exact ⟨isMarkup_openField f, isMarkup_ofList ⟨by decide, by decide⟩,
      isMarkup_ofList ⟨by decide, by decide⟩, isMarkup_labelLine f, List.forall_mem_nil _⟩
  have hcontrol : ∀ l ∈ (controlLines f).map (pad 6), IsMarkup l :=
    List.forall_mem_map.mpr fun _ hl => (isMarkup_of_mem_controlLines hl).pad
  have hbottom : ∀ l ∈ fragmentBottom, IsMarkup l := by
    simp only [fragmentBottom, List.forall_mem_cons]
    exact ⟨isMarkup_errorLine, isMarkup_ofList ⟨by decide, by decide⟩,
      isMarkup_ofList ⟨by decide, by decide⟩, isMarkup_ofList ⟨by decide, by decide⟩,
      List.forall_mem_nil _⟩
  rcases List.mem_append.mp h with h | h
  · exact htop l h
  · rcases List.mem_append.mp h with h | h
    · exact hcontrol l h
    · exact hbottom l h

/-- The lines of all fragments, one empty line apart. -/
def fieldLines (fields : List Field) : List (List Char) :=
  [[]].intercalate (fields.map fragmentLines)

@[simp]
theorem fieldLines_nil : fieldLines [] = [] := rfl

@[simp]
theorem fieldLines_singleton (f : Field) : fieldLines [f] = fragmentLines f :=
  List.intercalate_singleton

theorem fieldLines_cons_cons (f g : Field) (rest : List Field) :
    fieldLines (f :: g :: rest) = fragmentLines f ++ [] :: fieldLines (g :: rest) := by
  unfold fieldLines
  rw [List.map_cons, List.map_cons, List.intercalate_cons_cons, List.append_assoc]
  rfl

theorem fieldLines_ne_nil (f : Field) (rest : List Field) : fieldLines (f :: rest) ≠ [] :=
  intercalate_ne_nil (fragmentLines_ne_nil f) [[]] _

theorem fragments_eq (fields : List Field) : fragments fields = joinLines (fieldLines fields) := by
  have hne : ∀ p ∈ fields.map fragmentLines, p ≠ [] :=
    List.forall_mem_map.mpr fun f _ => fragmentLines_ne_nil f
  have hmap : fields.map fragment = (fields.map fragmentLines).map joinLines := by
    rw [List.map_map]
    exact List.map_congr_left fun f _ => fragment_eq f
  rw [fragments, hmap, intercalate_map_joinLines hne, fieldLines]

theorem isLine_of_mem_fieldLines {fields : List Field} {l : List Char}
    (h : l ∈ fieldLines fields) : IsLine l := by
  refine forall_mem_intercalate (List.forall_mem_singleton.mpr isLine_nil) ?_ l h
  exact List.forall_mem_map.mpr fun f _ l hl => (isMarkup_of_mem_fragmentLines hl).isLine

theorem getLast?_fieldLines (fields : List Field) : (fieldLines fields).getLast? ≠ some [] := by
  induction fields with
  | nil => simp
  | cons f fields ih =>
    cases fields with
    | nil =>
      intro hlast
      rw [fieldLines_singleton] at hlast
      exact (isMarkup_of_mem_fragmentLines (List.mem_of_getLast? hlast)).ne_nil rfl
    | cons g rest =>
      have hne : (fieldLines (g :: rest)).getLast? ≠ none := by
        rw [ne_eq, List.getLast?_eq_none_iff]
        exact fieldLines_ne_nil g rest
      obtain ⟨l, hl⟩ := Option.ne_none_iff_exists'.mp hne
      rw [fieldLines_cons_cons, List.getLast?_append, List.getLast?_cons, hl]
      rwa [hl] at ih

/-! ## The component -/

/-- The lines of a part of the source.  A part without lines takes an empty one. -/
def block (ls : List (List Char)) : List (List Char) := if ls = [] then [[]] else ls

theorem block_ne_nil (ls : List (List Char)) : block ls ≠ [] := by
  unfold block
  split_ifs with h
  · exact List.cons_ne_nil _ _
  · exact h

theorem joinLines_block (ls : List (List Char)) : joinLines (block ls) = joinLines ls := by
  unfold block
  split_ifs with h
  · rw [h]
    rfl
  · rfl

theorem isLine_of_mem_block {ls : List (List Char)} (h : ∀ l ∈ ls, IsLine l) :
    ∀ l ∈ block ls, IsLine l := by
  unfold block
  split_ifs
  · decide
  · exact h

theorem isLine_entry (f : Field) : IsLine (entry f) := by
  unfold entry
  simp only [isLine_append, isLine_cons, isLine_string, isLine_value]
  decide

theorem isLine_of_mem_entries {fields : List Field} : ∀ l ∈ fields.map entry, IsLine l :=
  List.forall_mem_map.mpr fun f _ => isLine_entry f

theorem entry_ne_nil (f : Field) : entry f ≠ [] := List.cons_ne_nil _ _

/-- The lines of all entries. -/
def entryBlock (fields : List Field) : List (List Char) :=
  block ((fields.map entry).map (pad 6))

/-- The lines of all fragments, in their place. -/
def fieldBlock (fields : List Field) : List (List Char) :=
  block ((fieldLines fields).map (pad 8))

theorem getLast?_entries (fields : List Field) : (fields.map entry).getLast? ≠ some [] := by
  intro hlast
  obtain ⟨f, -, hf⟩ := List.mem_map.mp (List.mem_of_getLast? hlast)
  exact entry_ne_nil f hf

theorem indent_entries (fields : List Field) :
    indent 6 (entries fields) = joinLines (entryBlock fields) := by
  rw [entries, indent_joinLines isLine_of_mem_entries (getLast?_entries fields), entryBlock,
    joinLines_block]

theorem indent_fragments (fields : List Field) :
    indent 8 (fragments fields) = joinLines (fieldBlock fields) := by
  rw [fragments_eq, indent_joinLines (fun _ hl => isLine_of_mem_fieldLines hl)
    (getLast?_fieldLines fields), fieldBlock, joinLines_block]

/-- The lines of a form component. -/
def formLines (fields : List Field) : List (List Char) :=
  head ++ (entryBlock fields ++ (middle ++ (fieldBlock fields ++ foot)))

theorem form_eq (fields : List Field) : form fields = joinLines (formLines fields) := by
  have hentries : entryBlock fields ≠ [] := block_ne_nil _
  have hfields : fieldBlock fields ≠ [] := block_ne_nil _
  calc form fields
      = joinLines (head ++ joinLines (entryBlock fields) ::
          (middle ++ joinLines (fieldBlock fields) :: foot)) := by
        rw [form, component, indent_entries, indent_fragments]
    _ = joinLines ((head ++ (entryBlock fields ++ middle)) ++
          joinLines (fieldBlock fields) :: foot) := by
        rw [joinLines_embed hentries, List.append_assoc, List.append_assoc]
    _ = joinLines (formLines fields) := by
        rw [joinLines_embed hfields, formLines, List.append_assoc, List.append_assoc]

theorem isLine_of_mem_template : ∀ l ∈ head ++ (middle ++ foot), IsLine l := by
  unfold head middle foot
  repeat rw [String.toList_ofList]
  decide

theorem isLine_of_mem_formLines {fields : List Field} {l : List Char}
    (h : l ∈ formLines fields) : IsLine l := by
  have hentries : ∀ l ∈ entryBlock fields, IsLine l :=
    isLine_of_mem_block
      (List.forall_mem_map.mpr fun l hl => isLine_pad (isLine_of_mem_entries l hl))
  have hfields : ∀ l ∈ fieldBlock fields, IsLine l :=
    isLine_of_mem_block
      (List.forall_mem_map.mpr fun _ hl => isLine_pad (isLine_of_mem_fieldLines hl))
  obtain ⟨hhead, hrest⟩ := List.forall_mem_append.mp isLine_of_mem_template
  obtain ⟨hmiddle, hfoot⟩ := List.forall_mem_append.mp hrest
  simp only [formLines, List.mem_append] at h
  rcases h with h | h | h | h | h
  · exact hhead l h
  · exact hentries l h
  · exact hmiddle l h
  · exact hfields l h
  · exact hfoot l h

end Source
end FormBuilder
