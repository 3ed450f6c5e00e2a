import FormBuilder.Proofs.Command.Loading
import FormBuilder.Proofs.Store.Alphabet
import FormBuilder.Proofs.Store.Interleaving

/-!
New fields.  They come in the order of the kinds asked for, each with an id of its own and
a name made of its kind and its id, and a document of them loads into the same fields.
There are none only if for one of them all ids that are tried have been given to those
before it: `scaffold_loads`.
-/

namespace FormBuilder

variable {s : Store} {config : StoreConfig} {kind : Kind} {kinds : List Kind} {f : Field}
  {e : Entropy}

/-- A field that is new to a store with these settings. -/
structure StoreConfig.MakesNew (config : StoreConfig) (kind : Kind) (f : Field) : Prop where
  eq_new : f = Field.new f.id kind config.suffixLength
  length : f.id.length = config.idLength
  plain : ∀ c ∈ f.id.toList, FieldId.IsPlain c

namespace StoreConfig.MakesNew

theorem kind_eq (h : config.MakesNew kind f) : f.kind = kind := by
  rw [h.eq_new]
  exact kind.kind_defaultAttributes

theorem name_eq (h : config.MakesNew kind f) :
    f.name = f.kind.name ++ "_" ++ String.ofList (f.id.toList.take config.suffixLength) := by
  rw [h.kind_eq]
  exact congrArg Field.name h.eq_new

/-- A document keeps new fields whole: none of their numbers is infinite. -/
theorem stored_eq (h : config.MakesNew kind f) : f.stored = f := by
  rw [h.eq_new]
  cases kind <;> rfl

end StoreConfig.MakesNew

theorem map_kind_eq {fields : List Field} (h : List.Forall₂ config.MakesNew kinds fields) :
    kinds = fields.map Field.kind := by
  induction h with
  | nil => rfl
  | cons hf _ ih => rw [List.map_cons, hf.kind_eq, ← ih]

namespace Store

/-- A new field gets the first free id.  With a length of ids that is in bounds, there is
none only if all that may be tried are taken. -/
theorem add_cases (hlength : 4 ≤ s.config.idLength ∧ s.config.idLength ≤ 64) (e : Entropy)
    (kind : Kind) :
    (∃ f e', s.add kind e = (.ok (f, { s with fields := s.fields ++ [f] }), e') ∧
      s.config.MakesNew kind f) ∨
    ∃ e', s.add kind e = (.error .idsExhausted, e') ∧
      ∀ k < 32, candidate s.config.idLength e k ∈ s.ids := by
  rcases noId_or_isFirstFree s e with ⟨why, hwhy⟩ | ⟨id, hid⟩
  · obtain ⟨e', hcreate, -⟩ := create_of_noId hwhy kind
    cases hwhy with
    | length hbad => exact absurd hlength hbad
    | taken _ htaken =>
      refine .inr ⟨e', ?_, htaken⟩
      rw [add, hcreate]
  · obtain ⟨e', hcreate⟩ := create_of_isFirstFree hid kind
    obtain ⟨-, -, k, -, rfl, -⟩ := hid
    refine .inl ⟨_, e', by rw [add, hcreate], rfl, ?_, ?_⟩
    · exact FieldId.length_generate _ _
    · exact FieldId.isPlain_of_mem_generate

end Store

namespace Command

open Store (candidate)

/-- The store and the supply after fields of these kinds have been added. -/
def afterAdding (s : Store) (e : Entropy) (kinds : List Kind) : Store × Entropy :=
  (s.performAll e (kinds.map .add)).2

/-- The fields of the first kinds are there, and all ids that may be tried for one of the next
kind have been given to them. -/
def StopsAt (s : Store) (e : Entropy) (front : List Kind) : Prop :=
  scaffold.go s e front = .ok (afterAdding s e front).1.fields ∧
    ∀ k < 32,
      candidate s.config.idLength (afterAdding s e front).2 k ∈ (afterAdding s e front).1.ids

section Adding

variable {t : Store} {e' : Entropy}

theorem scaffold_go_cons (h : s.add kind e = (.ok (f, t), e')) (kinds : List Kind) :
    scaffold.go s e (kind :: kinds) = scaffold.go t e' kinds := by
  rw [scaffold.go, h]

theorem afterAdding_cons (h : s.add kind e = (.ok (f, t), e')) (kinds : List Kind) :
    afterAdding s e (kind :: kinds) = afterAdding t e' kinds := by
  have hperform : s.perform e (.add kind) = (.ok (.field f), t, e') := by
    rw [Store.perform, h]
  rw [afterAdding, List.map_cons, Store.performAll_cons, hperform]
  rfl

theorem StopsAt.cons (h : s.add kind e = (.ok (f, t), e')) (hconfig : t.config = s.config)
    {front : List Kind} (hstops : StopsAt t e' front) : StopsAt s e (kind :: front) := by
  rw [StopsAt, scaffold_go_cons h, afterAdding_cons h, ← hconfig]
  exact hstops

end Adding

theorem scaffold_go_cases (hlength : 4 ≤ s.config.idLength ∧ s.config.idLength ≤ 64) (e : Entropy)
    (kinds : List Kind) :
    (∃ new, scaffold.go s e kinds = .ok (s.fields ++ new) ∧
      (afterAdding s e kinds).1.fields = s.fields ++ new ∧
      List.Forall₂ s.config.MakesNew kinds new) ∨
    scaffold.go s e kinds = .error .idsExhausted ∧
      ∃ front kind rest, kinds = front ++ kind :: rest ∧ StopsAt s e front := by
  induction kinds generalizing s e with
  | nil => exact .inl ⟨[], by rw [List.append_nil]; rfl, (List.append_nil s.fields).symm, .nil⟩
  | cons kind kinds ih =>
    rcases Store.add_cases hlength e kind with ⟨f, e', hadd, hnew⟩ | ⟨e', hadd, htaken⟩
    · rw [scaffold_go_cons hadd, afterAdding_cons hadd]
      rcases ih (s := { s with fields := s.fields ++ [f] }) hlength e' with
        ⟨new, hgo, hfields, hall⟩ | ⟨hgo, front, kind', rest, rfl, hstops⟩
      · rw [List.append_assoc] at hgo hfields
        exact .inl ⟨f :: new, hgo, hfields, .cons hnew hall⟩
      · exact .inr ⟨hgo, kind :: front, kind', rest, rfl, hstops.cons hadd rfl⟩
    · refine .inr ⟨?_, [], kind, kinds, rfl, rfl, htaken⟩
      rw [scaffold.go, hadd]

/-- New fields of all kinds that are asked for, or none: of each kind in turn, with an id of
the length that is set, made of plain characters and unlike all others, and with a name that
says the kind and how the id starts.  Their document loads into a store with these very
fields.  If there are none, it is because for one of them all of the 32 ids that are tried
have been given to those before it. -/
theorem scaffold_loads (hlength : 4 ≤ config.idLength ∧ config.idLength ≤ 64) (kinds : List Kind)
    (e : Entropy) :
    (∃ fields, scaffold config kinds e = .ok fields ∧
      fields.map Field.kind = kinds ∧ (fields.map Field.id).Nodup ∧
      (∀ f ∈ fields, f.id.length = config.idLength ∧ (∀ c ∈ f.id.toList, FieldId.IsPlain c) ∧
        f.name = f.kind.name ++ "_" ++
          String.ofList (f.id.toList.take (min config.nameSuffixLength config.idLength))) ∧
      ∀ config', loadStore config' (Json.pretty (fieldsToJson fields)).toUTF8 =
        .ok { config := config', fields, selected := none }) ∨
    scaffold config kinds e = .error .idsExhausted ∧
      ∃ front kind rest, kinds = front ++ kind :: rest ∧
        ∃ given, scaffold config front e = .ok given ∧
          ∀ k < 32, candidate config.idLength (afterAdding { config } e front).2 k ∈
            given.map Field.id := by
  rcases scaffold_go_cases (s := { config }) hlength e kinds with
    ⟨fields, hgo, hfields, hall⟩ | ⟨hgo, front, kind, rest, hkinds, hfront, htaken⟩
  · have hkinds : fields.map Field.kind = kinds := (map_kind_eq hall).symm
    have hnew : ∀ f ∈ fields, config.MakesNew f.kind f := by
      rwa [← hkinds, List.forall₂_map_left_iff, List.forall₂_same] at hall
    have hids : (fields.map Field.id).Nodup := by
      have hreach := (Store.Reachable.new config).performAll e (kinds.map .add)
      have hsame : (afterAdding { config } e kinds).1.fields = fields := hfields
      exact hsame ▸ hreach.coherent.nodup
    refine .inl ⟨fields, hgo, hkinds, hids, fun f hf => ?_, fun config' => ?_⟩
    · exact ⟨(hnew f hf).length, (hnew f hf).plain, (hnew f hf).name_eq⟩
    · have hstored : fields.map Field.stored = fields :=
        (List.map_congr_left fun f hf => (hnew f hf).stored_eq).trans (List.map_id fields)
      rw [loadStore_layout (List.mem_cons_of_mem _ List.mem_cons_self) hids, hstored]
  · exact .inr ⟨hgo, front, kind, rest, hkinds, _, hfront, htaken⟩

/-- The second field is given the third id, because the second one is the first again. -/
theorem scaffold_loads_again :
    let config : StoreConfig := { idLength := 5, nameSuffixLength := 9 }
    let e : Entropy := .ofBytes #[0, 0, 0, 0, 0, 0, 0, 0, 0, 0, 0, 0, 255, 255, 255, 255, 255, 255]
    let fields := [Field.new "AAAAA" .number 5, Field.new "_____" .radio 5]
    (4 ≤ config.idLength ∧ config.idLength ≤ 64) ∧
      scaffold config [.number, .radio] e = .ok fields ∧ (fields.map Field.id).Nodup ∧
      loadStore {} (Json.pretty (fieldsToJson fields)).toUTF8 = .ok { config := {}, fields } := by
  intro config e fields
  have hscaffold : scaffold config [.number, .radio] e = .ok fields := by decide +kernel
  have hlength : 4 ≤ config.idLength ∧ config.idLength ≤ 64 := by decide
  rcases scaffold_loads hlength [.number, .radio] e with
    ⟨fields', hok, -, hids, -, hload⟩ | ⟨hno, -⟩
  · obtain rfl := Except.ok.inj (hscaffold.symm.trans hok)
    exact ⟨hlength, hscaffold, hids, hload {}⟩
  · exact nomatch hscaffold.symm.trans hno

end Command
end FormBuilder
