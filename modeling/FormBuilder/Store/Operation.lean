import FormBuilder.Store.Basic

/-!
The operations on a store as data, so that whole runs can be spoken of.
-/

namespace FormBuilder

inductive Operation where
  | create (kind : Kind)
  | add (kind : Kind)
  | insert (field : Field)
  | remove (id : FieldId)
  | patch (id : FieldId) (patch : FieldPatch)
  | reorder (source target : Nat)
  | select (id : Option FieldId)
  | addOption (id : FieldId)
  | updateOption (id : FieldId) (index : Nat) (label value : Option String)

/-- What a successful operation answers. -/
inductive Answer where
  | done
  | field (f : Field)
  deriving DecidableEq

namespace Store

/-- The answer to an operation, with the store and the supply of random bytes that
it leaves. -/
abbrev Outcome := Except StoreError Answer × Store × Entropy

/-- An operation that draws nothing. -/
def settle (s : Store) (e : Entropy) : Except StoreError (Answer × Store) → Outcome
  | .ok (answer, new) => (.ok answer, new, e)
  | .error why => (.error why, s, e)

def perform (s : Store) (e : Entropy) : Operation → Outcome
  | .create kind =>
    match s.create kind e with
    | (.ok f, e) => (.ok (.field f), s, e)
    | (.error why, e) => (.error why, s, e)
  | .add kind =>
    match s.add kind e with
    | (.ok (f, new), e) => (.ok (.field f), new, e)
    | (.error why, e) => (.error why, s, e)
  | .insert f => s.settle e ((s.insert f).map fun new => (.done, new))
  | .remove id => s.settle e ((s.remove id).map fun (f, new) => (.field f, new))
  | .patch id p => s.settle e ((s.patch id p).map fun new => (.done, new))
  | .reorder source target => s.settle e ((s.reorder source target).map fun new => (.done, new))
  | .select id => s.settle e ((s.select id).map fun new => (.done, new))
  | .addOption id => s.settle e ((s.addOption id).map fun new => (.done, new))
  | .updateOption id index label value =>
    s.settle e ((s.updateOption id index label value).map fun new => (.done, new))

/-- The answers to one operation after another, and the store and supply at the
end. -/
def performAll (s : Store) (e : Entropy) :
    List Operation → List (Except StoreError Answer) × Store × Entropy
  | [] => ([], s, e)
  | op :: rest =>
    let (answer, s, e) := s.perform e op
    let (answers, s, e) := performAll s e rest
    (answer :: answers, s, e)

end Store
end FormBuilder
