import FormBuilder.Source.Literal
import FormBuilder.Text.Lines

/-!
The source of the control of a field.  User text stands in string literals only.
-/

namespace FormBuilder
namespace Source

/-- An attribute of a tag whose value is code. -/
def codeAttribute (name : String) (code : List Char) : List Char :=
  name.toList ++ '=' :: braces code

def readValue : List Char := codeAttribute "value" "field.state.value ?? ''".toList

def writeText : List Char :=
  codeAttribute "onChange" "(e) => field.handleChange(e.target.value)".toList

/-- An empty number input is no number. -/
def writeNumber : List Char :=
  codeAttribute "onChange"
    "(e) => field.handleChange(e.target.value === '' ? undefined : Number(e.target.value))".toList

def readChecked : List Char := codeAttribute "checked" "!!field.state.value".toList

def writeChecked : List Char :=
  codeAttribute "onChange" "(e) => field.handleChange(e.target.checked)".toList

/-- A tag with its attributes, up to where it is closed. -/
def openTag (name : String) (attributes : List (List Char)) : List Char :=
  '<' :: (name.toList ++ attributes.flatMap (' ' :: ·))

/-- A tag without content. -/
def emptyTag (name : String) (attributes : List (List Char)) : List Char :=
  openTag name attributes ++ " />".toList

def placeholder (text : Option String) : List Char :=
  codeAttribute "placeholder" (string (text.getD ""))

/-- A numeric attribute, left out when it is not set. -/
def numberBound (name : String) (bound : Option Binary64) : List (List Char) :=
  (bound.map fun x => codeAttribute name (Value.formatNumber x)).toList

/-- A date attribute, left out when it is not set or empty. -/
def dateBound (name : String) (bound : Option String) : List (List Char) :=
  ((bound.filter (· ≠ "")).map fun date => codeAttribute name (string date)).toList

def optionLine (c : Choice) : List Char :=
  "  <option ".toList ++ codeAttribute "value" (string c.value) ++ '>' ::
    (expression c.label ++ "</option>".toList)

def radioLine (name : String) (c : Choice) : List Char :=
  "  <label>".toList ++
    emptyTag "input"
      ["type=\"radio\"".toList,
        codeAttribute "name" (string name),
        codeAttribute "checked" ("field.state.value === ".toList ++ string c.value),
        codeAttribute "onChange" ("() => field.handleChange(".toList ++ string c.value ++ [')'])] ++
    ' ' :: (expression c.label ++ "</label>".toList)

def selectLines (c : ChoiceList) : List (List Char) :=
  (openTag "select" [readValue, writeText] ++ ['>']) ::
    (c.options.map optionLine ++ ["</select>".toList])

def radioLines (name : String) (c : ChoiceList) : List (List Char) :=
  "<div className=\"radio-group\">".toList ::
    (c.options.map (radioLine name) ++ ["</div>".toList])

def checkbox (role : List (List Char)) : List Char :=
  emptyTag "input" ("type=\"checkbox\"".toList :: (role ++ [readChecked, writeChecked]))

/-- The lines of the control of a field. -/
def controlLines (f : Field) : List (List Char) :=
  match f.attributes with
  | .text t =>
    [emptyTag "input" ["type=\"text\"".toList, readValue, writeText, placeholder t.placeholder]]
  | .number n =>
    [emptyTag "input" (["type=\"number\"".toList, readValue, writeNumber] ++
      numberBound "min" n.min ++ numberBound "max" n.max ++
      [codeAttribute "step" (Value.formatNumber n.stepOrDefault)])]
  | .textarea t =>
    [emptyTag "textarea" [codeAttribute "rows" (Nat.toDigits 10 t.rowsOrDefault.toNat), readValue,
      writeText, placeholder t.placeholder]]
  | .select c => selectLines c
  | .radio c => radioLines f.name c
  | .checkbox _ => [checkbox []]
  | .switch _ => [checkbox ["role=\"switch\"".toList]]
  | .date d =>
    [emptyTag "input" (["type=\"date\"".toList, readValue, writeText] ++
      dateBound "min" d.min ++ dateBound "max" d.max)]

def control (f : Field) : List Char := Text.joinLines (controlLines f)

end Source
end FormBuilder
