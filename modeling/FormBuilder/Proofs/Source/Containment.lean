import FormBuilder.Proofs.Source.Parallel

/-!
The texts of a field stay within the string literals of its source.  Two lists of
fields with the same outlines have sources that differ in the contents of literals
only, and every source is balanced.
-/

namespace FormBuilder

open Source Text

/-! ## Outlines -/

/-- What shows of the attributes of a field outside of string literals. -/
inductive ControlOutline where
  | text
  | number (min max : Option (List Char)) (step : List Char)
  | textarea (rows : UInt32)
  | select (options : Nat)
  | radio (options : Nat)
  | checkbox
  | switch
  | date (min max : Bool)

def Attributes.outline : Attributes → ControlOutline
  | text _ => .text
  | number n =>
    .number (n.min.map Value.formatNumber) (n.max.map Value.formatNumber)
      (Value.formatNumber n.stepOrDefault)
  | textarea t => .textarea t.rowsOrDefault
  | select c => .select c.options.length
  | radio c => .radio c.options.length
  | checkbox _ => .checkbox
  | switch _ => .switch
  | date d => .date (d.min.filter (· ≠ "")).isSome (d.max.filter (· ≠ "")).isSome

/-- The literal of a value, unless it is a string literal. -/
def Value.outline : Value → Option (List Char)
  | text _ => none
  | v => some (value v)

structure Outline where
  required : Bool
  control : ControlOutline
  initial : Option (List Char)

/-- What shows of a field outside of string literals. -/
def Field.outline (f : Field) : Outline where
  required := f.required
  control := f.attributes.outline
  initial := f.initialValue.outline

namespace Source

/-! ## Controls -/

theorem alike_readValue : Alike readValue readValue :=
  .codeAttribute (.ofList (by decide)) (.ofList (by decide))

theorem alike_writeText : Alike writeText writeText :=
  .codeAttribute (.ofList (by decide)) (.ofList (by decide))

theorem alike_writeNumber : Alike writeNumber writeNumber :=
  .codeAttribute (.ofList (by decide)) (.ofList (by decide))

theorem alike_readChecked : Alike readChecked readChecked :=
  .codeAttribute (.ofList (by decide)) (.ofList (by decide))

theorem alike_writeChecked : Alike writeChecked writeChecked :=
  .codeAttribute (.ofList (by decide)) (.ofList (by decide))

theorem alike_placeholder (p q : Option String) : Alike (placeholder p) (placeholder q) :=
  .codeAttribute (.ofList (by decide)) (alike_string _ _)

theorem alike_optional {name : String} (hname : Alike name.toList name.toList)
    {s t : Option (List Char)} (h : Option.Rel Alike s t) :
    List.Forall₂ Alike (optional name s) (optional name t) := by
  cases h with
  | none => exact .nil
  | some hst => exact .cons (.codeAttribute hname hst) .nil

theorem alike_map_formatNumber {x y : Option Binary64}
    (h : x.map Value.formatNumber = y.map Value.formatNumber) :
    Option.Rel Alike (x.map Value.formatNumber) (y.map Value.formatNumber) := by
  rw [← h]
  cases x with
  | none => exact .none
  | some x => exact .some (alike_formatNumber x)

theorem alike_map_string {p q : Option String} (h : p.isSome = q.isSome) :
    Option.Rel Alike (p.map string) (q.map string) := by
  cases p with
  | none =>
    rw [Option.isSome_none, eq_comm, Option.isSome_eq_false_iff, Option.isNone_iff_eq_none] at h
    rw [h]
    exact .none
  | some s =>
    rw [Option.isSome_some, eq_comm, Option.isSome_iff_exists] at h
    obtain ⟨t, rfl⟩ := h
    exact .some (alike_string s t)

theorem alike_optionLine (c d : Choice) : Alike (optionLine c) (optionLine d) := by
  have hstart : Alike "  <option ".toList "  <option ".toList := .ofList (by decide)
  have hend : Alike "</option>".toList "</option>".toList := .ofList (by decide)
  have hbracket : Alike ['>'] ['>'] := .of_run (by decide)
  have hvalue : Alike (codeAttribute "value" (string c.value))
      (codeAttribute "value" (string d.value)) :=
    .codeAttribute (.ofList (by decide)) (alike_string _ _)
  exact (hstart.append hvalue).append (hbracket.append ((alike_expression _ _).append hend))

theorem alike_radioLine (name name' : String) (c d : Choice) :
    Alike (radioLine name c) (radioLine name' d) := by
  have hstart : Alike "  <label>".toList "  <label>".toList := .ofList (by decide)
  have hend : Alike "</label>".toList "</label>".toList := .ofList (by decide)
  have hspace : Alike [' '] [' '] := .of_run (by decide)
  have htype : Alike "type=\"radio\"".toList "type=\"radio\"".toList := .ofList (by decide)
  have hname : Alike (codeAttribute "name" (string name)) (codeAttribute "name" (string name')) :=
    .codeAttribute (.ofList (by decide)) (alike_string _ _)
  have hchecked : Alike
      (codeAttribute "checked" ("field.state.value === ".toList ++ string c.value))
      (codeAttribute "checked" ("field.state.value === ".toList ++ string d.value)) :=
    .codeAttribute (.ofList (by decide)) (.append (.ofList (by decide)) (alike_string _ _))
  have hcall : Parallel [] ['('] "() => field.handleChange(".toList
      "() => field.handleChange(".toList := .ofList (by decide)
  have hchange : Alike
      (codeAttribute "onChange" ("() => field.handleChange(".toList ++ string c.value ++ [')']))
      (codeAttribute "onChange" ("() => field.handleChange(".toList ++ string d.value ++ [')'])) :=
    .codeAttribute (.ofList (by decide))
      ((hcall.append (.of_alike (alike_string _ _) _)).append (.of_run (by decide)))
  have hinput : Alike "input".toList "input".toList := .ofList (by decide)
  have htag := alike_emptyTag hinput
    (.cons htype (.cons hname (.cons hchecked (.cons hchange .nil))))
  exact (hstart.append htag).append (hspace.append ((alike_expression _ _).append hend))

/-- Lines made of two lists of equally many options. -/
theorem forall₂_map_of_length {line line' : Choice → List Char}
    (h : ∀ c d, Alike (line c) (line' d)) {cs ds : List Choice} (hlength : cs.length = ds.length) :
    List.Forall₂ Alike (cs.map line) (ds.map line') := by
  rw [List.forall₂_map_left_iff, List.forall₂_map_right_iff]
  exact List.forall₂_iff_zip.mpr ⟨hlength, fun _ => h _ _⟩

theorem alike_frame {first last : List Char} {ls ms : List (List Char)} (hfirst : Alike first first)
    (hlast : Alike last last) (h : List.Forall₂ Alike ls ms) :
    List.Forall₂ Alike (first :: (ls ++ [last])) (first :: (ms ++ [last])) :=
  .cons hfirst (List.rel_append h (.cons hlast .nil))

theorem alike_checkbox {role : List (List Char)} (h : List.Forall₂ Alike role role) :
    Alike (checkbox role) (checkbox role) := by
  have hstate : List.Forall₂ Alike [readChecked, writeChecked] [readChecked, writeChecked] :=
    .cons alike_readChecked (.cons alike_writeChecked .nil)
  have htype : Alike "type=\"checkbox\"".toList "type=\"checkbox\"".toList := .ofList (by decide)
  exact alike_emptyTag (.ofList (by decide)) (.cons htype (List.rel_append h hstate))

theorem alike_controlLines {f g : Field} (h : f.attributes.outline = g.attributes.outline) :
    List.Forall₂ Alike (controlLines f) (controlLines g) := by
  have hinput : Alike "input".toList "input".toList := .ofList (by decide)
  have hmin : Alike "min".toList "min".toList := .ofList (by decide)
  have hmax : Alike "max".toList "max".toList := .ofList (by decide)
  have hrw : List.Forall₂ Alike [readValue, writeText] [readValue, writeText] :=
    .cons alike_readValue (.cons alike_writeText .nil)
  -- Attributes of different kinds have different outlines.
  cases hf : f.attributes <;> cases hg : g.attributes <;> rw [hf, hg] at h
  all_goals try contradiction
  case text.text t u =>
    rw [controlLines_text hf, controlLines_text hg]
    have htype : Alike "type=\"text\"".toList "type=\"text\"".toList := .ofList (by decide)
    have hfixed := List.Forall₂.cons htype hrw
    have hplaceholder := alike_placeholder t.placeholder u.placeholder
    exact .cons (alike_emptyTag hinput (List.rel_append hfixed (.cons hplaceholder .nil))) .nil
  case number.number n m =>
    rw [controlLines_number hf, controlLines_number hg]
    obtain ⟨hlower, hupper, hstep⟩ := ControlOutline.number.inj h
    have hfixed : List.Forall₂ Alike ["type=\"number\"".toList, readValue, writeNumber]
        ["type=\"number\"".toList, readValue, writeNumber] :=
      .cons (.ofList (by decide)) (.cons alike_readValue (.cons alike_writeNumber .nil))
    have hlower := alike_optional hmin (alike_map_formatNumber hlower)
    have hupper := alike_optional hmax (alike_map_formatNumber hupper)
    have hstep : Alike (codeAttribute "step" (Value.formatNumber n.stepOrDefault))
        (codeAttribute "step" (Value.formatNumber m.stepOrDefault)) := by
      rw [← hstep]
      exact .codeAttribute (.ofList (by decide)) (alike_formatNumber _)
    exact .cons (alike_emptyTag hinput (List.rel_append hfixed
      (List.rel_append hlower (List.rel_append hupper (.cons hstep .nil))))) .nil
  case textarea.textarea t u =>
    rw [controlLines_textarea hf, controlLines_textarea hg, ControlOutline.textarea.inj h]
    have hrows : Alike (codeAttribute "rows" (Nat.toDigits 10 u.rowsOrDefault.toNat))
        (codeAttribute "rows" (Nat.toDigits 10 u.rowsOrDefault.toNat)) :=
      .codeAttribute (.ofList (by decide)) (alike_toDigits _)
    have hplaceholder := alike_placeholder t.placeholder u.placeholder
    exact .cons (alike_emptyTag (.ofList (by decide))
      (.cons hrows (List.rel_append hrw (.cons hplaceholder .nil)))) .nil
  case select.select c d =>
    have hlength := ControlOutline.select.inj h
    rw [controlLines, controlLines, hf, hg]
    have hopen : Alike (openTag "select" [readValue, writeText])
        (openTag "select" [readValue, writeText]) := alike_openTag (.ofList (by decide)) hrw
    exact alike_frame (hopen.append (.of_run rfl)) (.ofList (by decide))
      (forall₂_map_of_length alike_optionLine hlength)
  case radio.radio c d =>
    have hlength := ControlOutline.radio.inj h
    rw [controlLines, controlLines, hf, hg]
    exact alike_frame (.ofList (by decide)) (.ofList (by decide))
      (forall₂_map_of_length (alike_radioLine f.name g.name) hlength)
  case checkbox.checkbox =>
    rw [controlLines, controlLines, hf, hg]
    exact .cons (alike_checkbox .nil) .nil
  case switch.switch =>
    rw [controlLines, controlLines, hf, hg]
    exact .cons (alike_checkbox (.cons (.ofList (by decide)) .nil)) .nil
  case date.date d e =>
    rw [controlLines_date hf, controlLines_date hg]
    obtain ⟨hlower, hupper⟩ := ControlOutline.date.inj h
    have htype : Alike "type=\"date\"".toList "type=\"date\"".toList := .ofList (by decide)
    have hfixed := List.Forall₂.cons htype hrw
    have hlower := alike_optional hmin (alike_map_string hlower)
    have hupper := alike_optional hmax (alike_map_string hupper)
    exact .cons (alike_emptyTag hinput (List.rel_append hfixed
      (List.rel_append hlower (List.rel_append hupper .nil)))) .nil

/-! ## Fragments and entries -/

theorem alike_validators {f g : Field} (h : f.required = g.required) :
    Alike (validators f) (validators g) := by
  unfold validators Field.rule?
  rw [h]
  cases g.required with
  | false => exact .of_run rfl
  | true =>
    simp only [if_pos, Rule.message, Refusal.message]
    repeat rw [String.toList_ofList]
    exact .of_run (by decide)

theorem alike_openField {f g : Field} (h : f.required = g.required) :
    Alike (openField f) (openField g) := by
  have hstart : Alike "<form.Field ".toList "<form.Field ".toList := .ofList (by decide)
  have hend : Alike ['>'] ['>'] := .of_run (by decide)
  have hname : Alike (codeAttribute "name" (string f.name))
      (codeAttribute "name" (string g.name)) :=
    .codeAttribute (.ofList (by decide)) (alike_string _ _)
  exact ((hstart.append hname).append (alike_validators h)).append hend

theorem alike_labelLine (f g : Field) : Alike (labelLine f) (labelLine g) := by
  have hstart : Alike "      <label>".toList "      <label>".toList := .ofList (by decide)
  have hend : Alike "</label>".toList "</label>".toList := .ofList (by decide)
  exact (hstart.append (alike_expression _ _)).append hend

theorem alike_errorLine : Alike errorLine errorLine := by
  unfold errorLine
  rw [String.toList_append, String.toList_ofList, String.toList_ofList]
  exact .of_run (by decide)

theorem parallel_fragmentLines {f g : Field} (h : f.outline = g.outline) :
    ParallelLines [] [] (fragmentLines f) (fragmentLines g) := by
  obtain ⟨hrequired, hcontrol, -⟩ := Outline.mk.inj h
  have hdiv : Alike "    <div className=\"field\">".toList "    <div className=\"field\">".toList :=
    .ofList (by decide)
  have hdiv' : Alike "    </div>".toList "    </div>".toList := .ofList (by decide)
  have hend : Alike "</form.Field>".toList "</form.Field>".toList := .ofList (by decide)
  have hopen : Parallel [] ['(', '{'] "  \x7b(field) => (".toList "  \x7b(field) => (".toList :=
    .ofList (by decide)
  have hclose : Parallel ['(', '{'] [] "  )\x7d".toList "  )\x7d".toList := .ofList (by decide)
  have htop : ParallelLines [] ['(', '{'] (fragmentTop f) (fragmentTop g) :=
    .cons (alike_openField hrequired) (.cons hopen (.cons (.of_alike hdiv _)
      (.cons (.of_alike (alike_labelLine f g) _) .nil)))
  have hmiddle := (ParallelLines.of_forall₂ (alike_controlLines hcontrol) ['(', '{']).pad 6
  have hbottom : ParallelLines ['(', '{'] [] fragmentBottom fragmentBottom :=
    .cons (.of_alike alike_errorLine _) (.cons (.of_alike hdiv' _) (.cons hclose (.cons hend .nil)))
  exact htop.append (hmiddle.append hbottom)

theorem alike_value_self (v : Value) : Alike (value v) (value v) := by
  cases v with
  | bool b => cases b <;> exact .of_run (by decide)
  | number x => exact alike_formatNumber x
  | text s => exact alike_string s s
  | absent => exact .of_run (by decide)

theorem alike_value {v w : Value} (h : v.outline = w.outline) : Alike (value v) (value w) := by
  by_cases hv : v.outline = none
  · have hw : w.outline = none := h ▸ hv
    obtain ⟨s, rfl⟩ : ∃ s, v = .text s := by cases v <;> simp_all [Value.outline]
    obtain ⟨t, rfl⟩ : ∃ t, w = .text t := by cases w <;> simp_all [Value.outline]
    exact alike_string s t
  · have hvalue : value v = value w := by
      cases v <;> cases w <;> simp_all [Value.outline]
    rw [← hvalue]
    exact alike_value_self v

theorem alike_entry {f g : Field} (h : f.outline = g.outline) : Alike (entry f) (entry g) := by
  obtain ⟨-, -, hinitial⟩ := Outline.mk.inj h
  have hcolon : Alike [':', ' '] [':', ' '] := .of_run (by decide)
  have hcomma : Alike [','] [','] := .of_run (by decide)
  exact (alike_string _ _).append (hcolon.append ((alike_value hinitial).append hcomma))

/-! ## The component -/

theorem parallel_fieldLines {fs gs : List Field}
    (h : List.Forall₂ (fun f g => f.outline = g.outline) fs gs) :
    ParallelLines [] [] (fieldLines fs) (fieldLines gs) := by
  induction h with
  | nil => exact .nil
  | @cons f g fs gs hfg hrest ih =>
    cases hrest with
    | nil =>
      rw [fieldLines_singleton, fieldLines_singleton]
      exact parallel_fragmentLines hfg
    | cons hfg' hrest' =>
      rw [fieldLines_cons_cons, fieldLines_cons_cons]
      exact (parallel_fragmentLines hfg).append (.cons (.of_run rfl) ih)

theorem parallel_entries {fs gs : List Field}
    (h : List.Forall₂ (fun f g => f.outline = g.outline) fs gs) :
    ParallelLines [] [] (fs.map entry) (gs.map entry) := by
  apply ParallelLines.of_forall₂
  rw [List.forall₂_map_left_iff, List.forall₂_map_right_iff]
  exact h.imp fun f g hfg => alike_entry hfg

theorem parallel_head : Parallel [] ['{', '{', '(', '{'] (joinLines head) (joinLines head) := by
  unfold head
  repeat rw [String.toList_ofList]
  exact .of_run (by decide)

set_option maxRecDepth 2000 in
theorem parallel_middle :
    Parallel ['{', '{', '(', '{'] ['(', '{'] (joinLines middle) (joinLines middle) := by
  unfold middle
  repeat rw [String.toList_ofList]
  exact .of_run (by decide)

theorem parallel_foot : Parallel ['(', '{'] [] (joinLines foot) (joinLines foot) := by
  unfold foot
  repeat rw [String.toList_ofList]
  exact .of_run (by decide)

/-- Fields with the same outlines have alike sources. -/
theorem alike_form {fs gs : List Field} (h : fs.map Field.outline = gs.map Field.outline) :
    Alike (form fs) (form gs) := by
  have hfields : List.Forall₂ (fun f g => f.outline = g.outline) fs gs := by
    rwa [← List.forall₂_eq_eq_eq, List.forall₂_map_left_iff, List.forall₂_map_right_iff] at h
  have hentries := ((parallel_entries hfields).pad 6).block.join
  have hfragments := ((parallel_fieldLines hfields).pad 8).block.join
  have htail := (hfragments.frame ['(', '{']).joinLines_append parallel_foot (block_ne_nil _)
    (block_ne_nil _) (List.cons_ne_nil _ _) (List.cons_ne_nil _ _)
  have hmiddle : middle ≠ [] := List.cons_ne_nil _ _
  have hback := parallel_middle.joinLines_append htail hmiddle hmiddle
    (List.append_ne_nil_of_left_ne_nil (block_ne_nil _) _)
    (List.append_ne_nil_of_left_ne_nil (block_ne_nil _) _)
  have hbody := (hentries.frame ['{', '{', '(', '{']).joinLines_append hback (block_ne_nil _)
    (block_ne_nil _) (List.append_ne_nil_of_left_ne_nil hmiddle _)
    (List.append_ne_nil_of_left_ne_nil hmiddle _)
  rw [form_eq, form_eq]
  exact parallel_head.joinLines_append hbody (List.cons_ne_nil _ _) (List.cons_ne_nil _ _)
    (List.append_ne_nil_of_left_ne_nil (block_ne_nil _) _)
    (List.append_ne_nil_of_left_ne_nil (block_ne_nil _) _)

/-- Whatever the fields, every literal of their source is closed on its line, and the
brackets outside of literals nest. -/
theorem isBalanced_generate (fields : List Field) : isBalanced (generate fields) = true := by
  have hrun := (alike_form (rfl : fields.map Field.outline = fields.map Field.outline)).left
  rw [isBalanced, generate, String.toList_ofList]
  exact decide_eq_true hrun

/-- User text cannot leave its string literal. -/
theorem eraseLiterals_generate {fs gs : List Field}
    (h : fs.map Field.outline = gs.map Field.outline) :
    eraseLiterals (generate fs) = eraseLiterals (generate gs) := by
  have herase := (alike_form h).erase
  rw [eraseLiterals, eraseLiterals, generate, generate, String.toList_ofList, String.toList_ofList,
    herase]

/-- Quotes, backslashes, brackets and line breaks in every text of a field. -/
theorem eraseLiterals_generate_hostile :
    let plain : List Field :=
      [{ id := "1", name := "a", required := true
         attributes := .select { options := [⟨"l", "v"⟩] } },
        { id := "2", name := "b", attributes := .date { min := some "x" } },
        { id := "3", name := "c", attributes := .number { initial := some .one } }]
    let hostile : List Field :=
      [{ id := "\"", name := "a\"\x7d\\", label := some "\x7b\x60'\n", required := true
         attributes := .select
          { options := [⟨"</select>\x7b", "\\\"$\x7bx\x7d"⟩], initial := some "\\" } },
        { id := "", name := "", label := some "\"\""
          attributes := .date { min := some "\"", initial := some "'" } },
        { id := "\n", name := "\"'\x60(", attributes := .number { initial := some .one } }]
    plain.map Field.outline = hostile.map Field.outline ∧
      eraseLiterals (generate plain) = eraseLiterals (generate hostile) :=
  ⟨rfl, eraseLiterals_generate rfl⟩

end Source
end FormBuilder
