import FormBuilder.Preview.Form
import FormBuilder.Store.Operation

/-!
What is done with a form and with the fields that it shows, as data, so that whole runs
can be spoken of.  The form learns of changed fields only when it is told to follow them.
-/

namespace FormBuilder

/-- What is done with a form while its fields stay as they are. -/
inductive FormStep where
  | change (name : String) (v : Value)
  | submit
  | render

/-- The form after a step.  Showing it leaves it as it is, and so does a refused change. -/
def PreviewForm.after (form : PreviewForm) (fields : List Field) : FormStep → PreviewForm
  | .change name v =>
    match form.change fields name v with
    | .ok new => new
    | .error _ => form
  | .submit => (form.submit fields).2
  | .render => form

/-- A store, the random bytes that it draws from, and a form for its fields. -/
structure Session where
  store : Store
  supply : Entropy
  form : PreviewForm

inductive Action where
  | operation (op : Operation)
  | sync
  | use (step : FormStep)

namespace Session

def act (s : Session) : Action → Session
  | .operation op =>
    let (_, store, supply) := s.store.perform s.supply op
    { s with store, supply }
  | .sync => { s with form := s.form.sync s.store.fields }
  | .use step => { s with form := s.form.after s.store.fields step }

def run (s : Session) (actions : List Action) : Session := actions.foldl act s

end Session
end FormBuilder
