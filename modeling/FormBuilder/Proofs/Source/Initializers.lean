import FormBuilder.Preview.Form
import FormBuilder.Proofs.Source.Layout
import FormBuilder.Proofs.Text.Search
import Mathlib.Data.List.Forall2

/-!
The initial values in the source of a form.  They stand between two fixed texts, which
neither names nor values can imitate, one entry on each line.  A reader that knows how
strings are quoted, and nothing else of the language, gets all names and literals back,
and they bind the names as the preview does: `start_eq_bindings`.
-/

namespace FormBuilder

theorem lastNamed?_concat (name : String) (fields : List Field) (f : Field) :
    lastNamed? name (fields ++ [f]) = if name = f.name then some f else lastNamed? name fields := by
  rw [lastNamed?, List.reverse_append, List.reverse_singleton, List.singleton_append,
    List.find?_cons, lastNamed?]
  by_cases h : name = f.name
  · simp [h]
  · simp [h, Ne.symm h]

namespace Source

open Text

/-! ## The block of entries -/

/-- What stands in front of the entries. -/
def entriesStart : List Char := "defaultValues: \x7b\n".toList

/-- What stands after the entries. -/
def entriesEnd : List Char := "\n    \x7d,".toList

/-- The text between the first start of entries in a source and their next end. -/
def entryText? (source : List Char) : Option (List Char) :=
  (splitFirst? entriesStart source).bind fun p => (splitFirst? entriesEnd p.2).map Prod.fst

/-- The lines of all entries. -/
def entryLines (fields : List Field) : List (List Char) := (fields.map entry).map (pad 6)

theorem pad_entry (f : Field) : pad 6 (entry f) = List.replicate 6 ' ' ++ entry f :=
  if_neg (entry_ne_nil f)

theorem mem_of_mem_tail_block {ls : List (List Char)} {l : List Char} (h : l ∈ (block ls).tail) :
    l ∈ ls := by
  unfold block at h
  split_ifs at h
  · exact absurd h List.not_mem_nil
  · exact List.mem_of_mem_tail h

/-- Entries are indented further than the line after them, whatever they hold. -/
theorem not_prefix_entryBlock (fields : List Field) :
    ∀ l ∈ (entryBlock fields).tail, ¬ "    \x7d,".toList <+: l := by
  rintro l hl ⟨rest, hrest⟩
  obtain ⟨e, he, rfl⟩ := List.mem_map.mp (mem_of_mem_tail_block hl)
  obtain ⟨f, -, rfl⟩ := List.mem_map.mp he
  rw [pad_entry] at hrest
  have hfifth : some '\x7d' = some ' ' := congrArg (·[4]?) hrest
  exact absurd hfifth (by decide)

/-- The text of a form from the line after its entries on. -/
def afterEntries (fields : List Field) : List Char :=
  joinLines (middle ++ (fieldBlock fields ++ foot))

theorem form_eq_append (fields : List Field) :
    form fields = (joinLines head ++ ['\n']) ++
      (joinLines (entryBlock fields) ++ '\n' :: afterEntries fields) := by
  have hentries : entryBlock fields ≠ [] := block_ne_nil _
  have hmiddle : middle ++ (fieldBlock fields ++ foot) ≠ [] := List.cons_ne_nil _ _
  rw [form_eq, formLines, joinLines_append (by decide) (List.append_ne_nil_of_left_ne_nil hentries _),
    joinLines_append hentries hmiddle, afterEntries, List.append_assoc]
  rfl

theorem entryText?_form (fields : List Field) :
    entryText? (form fields) = some (joinLines (entryLines fields)) := by
  have hstart : (splitFirst? entriesStart (joinLines head ++ ['\n'])).map Prod.snd = some [] := by
    unfold entriesStart head
    repeat rw [String.toList_ofList]
    decide +kernel
  obtain ⟨⟨before, _⟩, hhead, rfl⟩ := Option.map_eq_some_iff.mp hstart
  have hsource := splitFirst?_append hhead
    (joinLines (entryBlock fields) ++ '\n' :: afterEntries fields)
  rw [← form_eq_append] at hsource
  have hline : ∀ l ∈ entryBlock fields, '\n' ∉ l := by
    intro l hl
    have hform : l ∈ formLines fields := List.mem_append_right head (List.mem_append_left _ hl)
    exact (isLine_of_mem_formLines hform).1
  have hend : splitFirst? entriesEnd (joinLines (entryBlock fields) ++ '\n' :: afterEntries fields) =
      some (joinLines (entryBlock fields), _) :=
    splitFirst?_joinLines (by decide) (block_ne_nil _) hline (not_prefix_entryBlock fields) _
  rw [entryText?, hsource, Option.bind_some, List.nil_append, hend, entryBlock, joinLines_block]
  rfl

theorem lines_entryLines (fields : List Field) :
    lines (joinLines (entryLines fields)) = entryLines fields := by
  refine lines_joinLines ?_ (getLast?_map_pad (getLast?_entries fields))
  exact List.forall_mem_map.mpr fun l hl => isLine_pad (isLine_of_mem_entries l hl)

/-- What stands behind the opening quote of a name. -/
def quotedName (f : Field) : List Char := f.name.toList.flatMap Quoted.escape ++ ['"']

theorem readString_quotedName (f : Field) (rest : List Char) :
    Json.readString (quotedName f ++ rest) = .ok (f.name.toList, rest) := by
  rw [quotedName, List.append_assoc]
  exact Quoted.readString_encode f.name.toList rest

theorem pad_entry_eq_append (f : Field) :
    pad 6 (entry f) = List.replicate 6 ' ' ++
      '"' :: (quotedName f ++ ':' :: ' ' :: (value f.initialValue ++ [','])) := pad_entry f

/-- A line is the entry of a field: six spaces, a string literal that spells the name of the
field, a colon and a space, the literal of its initial value, and a comma. -/
def IsEntryOf (line : List Char) (f : Field) : Prop :=
  ∃ quoted, Json.readString quoted = .ok (f.name.toList, []) ∧
    line = List.replicate 6 ' ' ++
      '"' :: (quoted ++ ':' :: ' ' :: (value f.initialValue ++ [',']))

theorem isEntryOf_entryLines (fields : List Field) :
    List.Forall₂ IsEntryOf (entryLines fields) fields := by
  rw [entryLines, List.map_map, List.forall₂_map_left_iff]
  refine List.forall₂_same.mpr fun f _ => ⟨quotedName f, ?_, pad_entry_eq_append f⟩
  exact List.append_nil (quotedName f) ▸ readString_quotedName f []

/-! ## Reading entries -/

/-- The name and the literal on the line of an entry, the name being a quoted string and
the literal all between the colon and the comma at the end. -/
def readInitializer? (line : List Char) : Option (String × List Char) :=
  match line.drop 6 with
  | '"' :: rest =>
    match Json.readString rest with
    | .ok (name, ':' :: ' ' :: rest) =>
      if rest.getLast? = some ',' then some (String.ofList name, rest.dropLast) else none
    | _ => none
  | _ => none

def readInitializers? (source : List Char) : Option (List (String × List Char)) := do
  (lines (← entryText? source)).mapM readInitializer?

/-- The name of a field and the literal of its initial value. -/
def initializer (f : Field) : String × List Char := (f.name, value f.initialValue)

theorem readInitializer?_entry (f : Field) :
    readInitializer? (pad 6 (entry f)) = some (initializer f) := by
  have hdrop : (pad 6 (entry f)).drop 6 =
      '"' :: (quotedName f ++ ':' :: ' ' :: (value f.initialValue ++ [','])) := by
    rw [pad_entry_eq_append]
    rfl
  rw [readInitializer?, hdrop]
  simp only [readString_quotedName, List.getLast?_concat, if_true, List.dropLast_concat,
    String.ofList_toList, initializer]

theorem readInitializers?_form (fields : List Field) :
    readInitializers? (form fields) = some (fields.map initializer) := by
  have hread : ∀ fields, (entryLines fields).mapM readInitializer? = some (fields.map initializer) := by
    intro fields
    induction fields with
    | nil => rfl
    | cons f fields ih =>
      rw [entryLines] at ih ⊢
      rw [List.map_cons, List.map_cons, List.mapM_cons, readInitializer?_entry, ih]
      rfl
  rw [readInitializers?, entryText?_form]
  exact (congrArg (List.mapM readInitializer?) (lines_entryLines fields)).trans (hread fields)

/-! ## Bindings -/

/-- What names are bound to after all entries, each of which replaces those of its name. -/
def bindings (entries : List (String × List Char)) : String → Option (List Char) :=
  entries.foldl (fun bound e => PreviewForm.setAt e.1 (some e.2) bound) fun _ => none

theorem bindings_concat (entries : List (String × List Char)) (e : String × List Char) :
    bindings (entries ++ [e]) = PreviewForm.setAt e.1 (some e.2) (bindings entries) := by
  rw [bindings, List.foldl_concat, bindings]

theorem start_concat (fields : List Field) (f : Field) :
    (PreviewForm.start (fields ++ [f])).value =
      PreviewForm.setAt f.name (some f.initialValue) (PreviewForm.start fields).value := by
  funext name
  show (lastNamed? name (fields ++ [f])).map Field.initialValue = _
  rw [lastNamed?_concat, PreviewForm.setAt]
  split_ifs <;> rfl

theorem map_setAt {α β : Type} (g : α → β) (name other : String) (a : α)
    (old : String → Option α) :
    (PreviewForm.setAt name (some a) old other).map g =
      PreviewForm.setAt name (some (g a)) (fun n => (old n).map g) other := by
  unfold PreviewForm.setAt
  split_ifs <;> rfl

/-- The preview starts with what the entries bind. -/
theorem map_start_eq_bindings (fields : List Field) (name : String) :
    ((PreviewForm.start fields).value name).map value = bindings (fields.map initializer) name := by
  -- from the last field on, since that is the one that wins
  induction fields using List.reverseRecOn generalizing name with
  | nil => rfl
  | append_singleton fields f ih =>
    rw [List.map_append, List.map_singleton, bindings_concat, start_concat, map_setAt, funext ih]
    rfl

theorem isSome_bindings (entries : List (String × List Char)) (name : String) :
    (bindings entries name).isSome = true ↔ name ∈ entries.map Prod.fst := by
  induction entries using List.reverseRecOn with
  | nil => simp [bindings]
  | append_singleton entries e ih =>
    rw [bindings_concat, List.map_append, List.mem_append, ← ih, List.map_singleton,
      List.mem_singleton, PreviewForm.setAt]
    split_ifs with h <;> simp [h]

/-- Between the two texts that surround them the source of a form has one line for each
field, with its name in quotes and the literal of its initial value.  A reader finds these
and no others, and once it has let each entry replace those before it, it knows the names
that the first preview of the form binds, and the literal of each value. -/
theorem start_eq_bindings (fields : List Field) :
    ∃ text entries,
      entryText? (generate fields).toList = some text ∧
      text = joinLines (lines text) ∧
      List.Forall₂ IsEntryOf (lines text) fields ∧
      readInitializers? (generate fields).toList = some entries ∧
      entries = fields.map (fun f => (f.name, value f.initialValue)) ∧
      ∀ name,
        (((PreviewForm.start fields).value name).isSome = true ↔ name ∈ entries.map Prod.fst) ∧
        ((PreviewForm.start fields).value name).map value = bindings entries name := by
  rw [generate, String.toList_ofList]
  refine ⟨joinLines (entryLines fields), fields.map initializer, entryText?_form fields, ?_, ?_,
    readInitializers?_form fields, rfl, fun name => ?_⟩
  · rw [lines_entryLines]
  · rw [lines_entryLines]
    exact isEntryOf_entryLines fields
  · have hbound := map_start_eq_bindings fields name
    refine ⟨?_, hbound⟩
    rw [← isSome_bindings, ← hbound, Option.isSome_map]

end Source
end FormBuilder
