import FormBuilder.Field.Rule
import FormBuilder.Source.Control

/-!
The source of a form component: the initial values of all fields, and a fragment
of markup for each of them.
-/

namespace FormBuilder
namespace Source

/-! ## Fragments -/

/-- The validators of a fragment, with the condition under which a value is
refused. -/
def validators (f : Field) : List Char :=
  match f.rule? with
  | none => []
  | some rule =>
    " validators=\x7b\x7b onChange: (\x7b value \x7d) => (!value && value !== 0 ? '".toList ++
      rule.message.toList ++ "' : undefined) \x7d\x7d".toList

def openField (f : Field) : List Char :=
  "<form.Field ".toList ++ codeAttribute "name" (string f.name) ++ validators f ++ ['>']

def labelLine (f : Field) : List Char :=
  "      <label>".toList ++ expression f.caption ++ "</label>".toList

def errorLine : List Char :=
  ("      \x7bfield.state.meta.errors?.length ? <div className=\"error\">" ++
    "\x7bfield.state.meta.errors.join(', ')\x7d</div> : null\x7d").toList

/-- The markup of one field. -/
def fragment (f : Field) : List Char :=
  Text.joinLines
    [openField f,
      "  \x7b(field) => (".toList,
      "    <div className=\"field\">".toList,
      labelLine f,
      Text.indent 6 (control f),
      errorLine,
      "    </div>".toList,
      "  )\x7d".toList,
      "</form.Field>".toList]

/-! ## The component -/

/-- The initial value of a field, as a property of an object. -/
def entry (f : Field) : List Char :=
  string f.name ++ ':' :: ' ' :: (value f.initialValue ++ [','])

def entries (fields : List Field) : List Char := Text.joinLines (fields.map entry)

/-- Fragments stand one empty line apart. -/
def fragments (fields : List Field) : List Char :=
  ['\n', '\n'].intercalate (fields.map fragment)

/-- The lines in front of the entries. -/
def head : List (List Char) :=
  ["import * as React from 'react';".toList,
    "import \x7b useForm \x7d from '@tanstack/react-form';".toList,
    [],
    "export function GeneratedForm() \x7b".toList,
    "  const form = useForm(\x7b".toList,
    "    defaultValues: \x7b".toList]

/-- The lines between the entries and the fragments. -/
def middle : List (List Char) :=
  ["    \x7d,".toList,
    "    onSubmit: async (\x7b value \x7d) => \x7b".toList,
    "      alert('Submitted: ' + JSON.stringify(value, null, 2));".toList,
    "    \x7d,".toList,
    "  \x7d);".toList,
    [],
    "  return (".toList,
    "    <form.Provider>".toList,
    "      <form".toList,
    "        onSubmit=\x7b(e) => \x7b".toList,
    "          e.preventDefault();".toList,
    "          form.handleSubmit();".toList,
    "        \x7d\x7d".toList,
    "        className=\"generated-form\"".toList,
    "      >".toList]

/-- The lines after the fragments. -/
def foot : List (List Char) :=
  [[],
    "        <button type=\"submit\">Submit</button>".toList,
    "      </form>".toList,
    "    </form.Provider>".toList,
    "  );".toList,
    "\x7d".toList,
    []]

/-- The component around its entries and its fragments. -/
def component (entries fragments : List Char) : List Char :=
  Text.joinLines (head ++ entries :: (middle ++ fragments :: foot))

/-- The source of a form component for these fields. -/
def form (fields : List Field) : List Char :=
  component (Text.indent 6 (entries fields)) (Text.indent 8 (fragments fields))

def generate (fields : List Field) : String := String.ofList (form fields)

end Source
end FormBuilder
