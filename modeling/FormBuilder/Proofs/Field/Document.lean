import FormBuilder.Proofs.Field.Acceptance

/-!
Field documents.  What is written for a field is an object of that field, apart from
NaN and the infinities, which are not kept: `Field.isOf_printed`.  So the document of a
list of fields is read back as these fields: `parseFields_layout`.  Fields that were read
have neither, so all of them is kept: `map_stored_of_parseFields`.
-/

namespace FormBuilder

/-! ## What a document keeps -/

/-- The attributes that a document keeps: numbers have to be finite. -/
def Attributes.stored : Attributes → Attributes
  | .number n =>
    .number
      { min := n.min.filter (·.isFinite)
        max := n.max.filter (·.isFinite)
        step := n.step.filter (·.isFinite)
        initial := n.initial.filter (·.isFinite) }
  | a => a

theorem Attributes.kind_stored (a : Attributes) : a.stored.kind = a.kind := by cases a <;> rfl

/-- The field that a document keeps. -/
def Field.stored (f : Field) : Field := { f with attributes := f.attributes.stored }

/-! ## Written members -/

/-- A member as it is read back. -/
def printedMember (m : String × Json) : String × Json := (m.1, m.2.printed)

theorem valuesOf_append (name : String) (members others : List (String × Json)) :
    valuesOf name (members ++ others) = valuesOf name members ++ valuesOf name others := by
  rw [valuesOf, List.filter_append, List.map_append, valuesOf, valuesOf]

theorem valuesOf_map_printedMember (name : String) (members : List (String × Json)) :
    valuesOf name (members.map printedMember) = (valuesOf name members).map Json.printed := by
  induction members with
  | nil => rfl
  | cons m members ih =>
    obtain ⟨other, v⟩ := m
    by_cases h : other = name
    · subst h
      rw [List.map_cons, printedMember, valuesOf_cons_self, valuesOf_cons_self, ih, List.map_cons]
    · rw [List.map_cons, printedMember, valuesOf_cons_of_ne h, valuesOf_cons_of_ne h, ih]

theorem valuesOf_optionalMember {α : Type} (name other : String) (toJson : α → Json)
    (o : Option α) :
    valuesOf name (Json.optionalMember other toJson o) =
      if other = name then (o.map toJson).toList else [] := by
  cases o with
  | none => simp [Json.optionalMember]
  | some a => simp [Json.optionalMember]

theorem given_optional {α : Type} {is : Json → α → Prop} {toJson : α → Json}
    (h : ∀ a, is (toJson a).printed a) (o : Option α) :
    Given (Nullable is) none ((o.map toJson).toList.map Json.printed) o := by
  cases o with
  | none => exact .missing
  | some a => exact .value (.value (h a))

theorem given_string (o : Option String) :
    Given (Nullable IsText) none ((o.map Json.string).toList.map Json.printed) o :=
  given_optional (fun _ => rfl) o

theorem given_bool (o : Option Bool) :
    Given (Nullable IsFlag) none ((o.map Json.bool).toList.map Json.printed) o :=
  given_optional (fun _ => rfl) o

theorem given_rows (o : Option UInt32) :
    Given (Nullable IsWord32) none
      ((o.map fun rows => Json.int rows.toNat).toList.map Json.printed) o :=
  given_optional (fun _ => rfl) o

/-- Doubles are kept if they are finite. -/
theorem given_double (o : Option Binary64) :
    Given (Nullable IsDouble) none ((o.map Json.float).toList.map Json.printed)
      (o.filter (·.isFinite)) := by
  cases o with
  | none => exact .missing
  | some x =>
    cases x with
    | nan => exact .value .null
    | infinite negative => exact .value .null
    | finite negative m => exact .value (.value (.inl rfl))

theorem isChoice_printed (c : Choice) : IsChoice c.toJson.printed c := .object rfl rfl

theorem isChoices_printed (cs : List Choice) :
    IsChoices (Json.array (cs.map Choice.toJson)).printed cs := by
  refine ⟨_, Json.printed_array _, ?_⟩
  rw [List.map_map, List.forall₂_map_left_iff]
  exact List.forall₂_same.mpr fun c _ => isChoice_printed c

theorem name_of_mem_optionalMember {α : Type} {name : String} {toJson : α → Json} {o : Option α} :
    ∀ m ∈ Json.optionalMember name toJson o, m.1 = name := by
  intro m hm
  cases o with
  | none => exact absurd hm List.not_mem_nil
  | some a => exact congrArg Prod.fst (List.mem_singleton.mp hm)

theorem fits_optionalMember {α : Type} {n : Nat} {toJson : α → Json}
    (h : ∀ a, Json.Fits n (toJson a)) (name : String) (o : Option α) :
    ∀ m ∈ Json.optionalMember name toJson o, Json.Fits n m.2 := by
  intro m hm
  cases o with
  | none => exact absurd hm List.not_mem_nil
  | some a => exact List.mem_singleton.mp hm ▸ h a

theorem isInteger_toNat (w : UInt32) : Json.isInteger w.toNat = true := by
  have hlt : w.toNat < 0x100000000 := w.toNat_lt_size
  simp only [Json.isInteger, Bool.and_eq_true, decide_eq_true_eq]
  omega

theorem fits_choice (c : Choice) (n : Nat) : Json.Fits (n + 1) c.toJson := by
  refine .object ?_
  simp only [List.forall_mem_cons]
  exact ⟨.string n _, .string n _, fun m hm => absurd hm List.not_mem_nil⟩

namespace Attributes

theorem givenBy_printed (a : Attributes) :
    a.kind.blank.GivenBy (a.toMembers.map printedMember) a.stored := by
  cases a <;>
    simp only [kind, Kind.blank, GivenBy, stored, toMembers, valuesOf_map_printedMember,
      valuesOf_append, valuesOf_cons, valuesOf_optionalMember, String.reduceEq, if_true, if_false,
      List.append_nil, List.nil_append]
  case text t => exact ⟨given_string _, given_string _⟩
  case number n => exact ⟨given_double _, given_double _, given_double _, given_double _⟩
  case textarea t => exact ⟨given_rows _, given_string _, given_string _⟩
  case select c => exact ⟨.value (isChoices_printed c.options), given_string _⟩
  case radio c => exact ⟨.value (isChoices_printed c.options), given_string _⟩
  case checkbox t => exact given_bool _
  case switch t => exact given_bool _
  case date d => exact ⟨given_string _, given_string _, given_string _⟩

theorem mem_attributeNames_of_mem_toMembers {a : Attributes} :
    ∀ m ∈ a.toMembers, m.1 ∈ a.kind.attributeNames := by
  intro m hm
  cases a <;>
    simp only [toMembers, List.mem_append, List.mem_cons, kind, Kind.attributeNames,
      List.not_mem_nil] at hm ⊢ <;>
    grind [name_of_mem_optionalMember]

theorem fits_of_mem_toMembers {a : Attributes} (n : Nat) :
    ∀ m ∈ a.toMembers, Json.Fits (n + 2) m.2 := by
  have hstring := fits_optionalMember (Json.Fits.string (n + 2))
  have hfloat := fits_optionalMember (Json.Fits.float (n + 2))
  have hbool := fits_optionalMember (Json.Fits.bool (n + 2))
  have hrows := fits_optionalMember fun rows : UInt32 => Json.Fits.int (n + 2) (isInteger_toNat rows)
  have hchoices : ∀ cs : List Choice, Json.Fits (n + 2) (.array (cs.map Choice.toJson)) := by
    refine fun cs => .array fun v hv => ?_
    obtain ⟨c, -, rfl⟩ := List.mem_map.mp hv
    exact fits_choice c n
  cases a <;> simp only [toMembers, List.forall_mem_append, List.forall_mem_cons]
  case text t => exact ⟨hstring _ _, hstring _ _⟩
  case number x => exact ⟨⟨⟨hfloat _ _, hfloat _ _⟩, hfloat _ _⟩, hfloat _ _⟩
  case textarea t => exact ⟨⟨hrows _ _, hstring _ _⟩, hstring _ _⟩
  case select c => exact ⟨hchoices _, hstring _ _⟩
  case radio c => exact ⟨hchoices _, hstring _ _⟩
  case checkbox t => exact hbool _ _
  case switch t => exact hbool _ _
  case date d => exact ⟨⟨hstring _ _, hstring _ _⟩, hstring _ _⟩

end Attributes

namespace Field

/-- The members that every field has, without its attributes. -/
def commonMembers (f : Field) : List (String × Json) :=
  [("id", .string f.id), ("name", .string f.name)] ++
  Json.optionalMember "label" .string f.label ++
  [("required", .bool f.required), ("kind", .string f.kind.name)]

theorem toMembers_eq (f : Field) : f.toMembers = f.commonMembers ++ f.attributes.toMembers := rfl

theorem mem_commonNames_of_mem_commonMembers {f : Field} :
    ∀ m ∈ f.commonMembers, m.1 ∈ commonNames := by
  intro m hm
  simp only [commonMembers, List.mem_append, List.mem_cons, List.not_mem_nil, commonNames] at hm ⊢
  grind [name_of_mem_optionalMember]

theorem valuesOf_commonMembers (f : Field) :
    valuesOf "id" f.commonMembers = [.string f.id] ∧
    valuesOf "name" f.commonMembers = [.string f.name] ∧
    valuesOf "label" f.commonMembers = (f.label.map Json.string).toList ∧
    valuesOf "required" f.commonMembers = [.bool f.required] ∧
    valuesOf "kind" f.commonMembers = [.string f.kind.name] := by
  obtain ⟨id, name, label, required, attributes⟩ := f
  cases label <;> exact ⟨rfl, rfl, rfl, rfl, rfl⟩

theorem valuesOf_toMembers_of_mem {f : Field} {name : String} (h : name ∈ f.kind.attributeNames) :
    valuesOf name f.toMembers = valuesOf name f.attributes.toMembers := by
  have hcommon : valuesOf name f.commonMembers = [] := by
    refine valuesOf_eq_nil_iff.mpr fun m hm hname => ?_
    exact not_mem_commonNames f.kind name h (hname ▸ mem_commonNames_of_mem_commonMembers m hm)
  rw [toMembers_eq, valuesOf_append, hcommon, List.nil_append]

theorem valuesOf_toMembers_of_common {f : Field} {name : String} (h : name ∈ commonNames) :
    valuesOf name f.toMembers = valuesOf name f.commonMembers := by
  have hattributes : valuesOf name f.attributes.toMembers = [] := by
    refine valuesOf_eq_nil_iff.mpr fun m hm hname => ?_
    have hmem := Attributes.mem_attributeNames_of_mem_toMembers m hm
    exact not_mem_commonNames _ _ hmem (hname ▸ h)
  rw [toMembers_eq, valuesOf_append, hattributes, List.append_nil]

/-- What is written for a field is an object of the field that is kept. -/
theorem isOf_printed (f : Field) : IsOf (f.toMembers.map printedMember) f.stored := by
  have hkind : f.stored.kind = f.kind := Attributes.kind_stored f.attributes
  have hcommon : ∀ {name : String}, name ∈ commonNames →
      valuesOf name (f.toMembers.map printedMember) =
        (valuesOf name f.commonMembers).map Json.printed := by
    intro name h
    rw [valuesOf_map_printedMember, valuesOf_toMembers_of_common h]
  have hattributes : f.kind.blank.GivenBy (f.toMembers.map printedMember) f.attributes.stored := by
    refine (Attributes.givenBy_congr fun n hn => ?_).mpr f.attributes.givenBy_printed
    rw [valuesOf_map_printedMember, valuesOf_map_printedMember,
      valuesOf_toMembers_of_mem (Kind.kind_blank f.kind ▸ hn)]
  obtain ⟨hid, hname, hlabel, hrequired, hkindName⟩ := valuesOf_commonMembers f
  refine ⟨?_, ?_, ?_, ?_, ⟨.string f.kind.name, ?_, .inl (by rw [hkind])⟩, hkind ▸ hattributes, ?_⟩
  · rw [hcommon (by decide), hid]
    rfl
  · rw [hcommon (by decide), hname]
    rfl
  · rw [hcommon (by decide), hlabel]
    exact given_string f.label
  · rw [hcommon (by decide), hrequired]
    exact .value rfl
  · rw [hcommon (by decide), hkindName]
    rfl
  · rw [hkind, toMembers_eq]
    refine List.forall_mem_map.mpr (List.forall_mem_append.mpr
      ⟨fun m hm => .inl ?_, fun m hm => .inr ?_⟩)
    · exact mem_commonNames_of_mem_commonMembers m hm
    · exact Attributes.mem_attributeNames_of_mem_toMembers m hm

theorem fits_toJson (f : Field) (n : Nat) : Json.Fits (n + 3) f.toJson := by
  refine .object ?_
  simp only [toMembers, List.forall_mem_append, List.forall_mem_cons]
  exact ⟨⟨⟨⟨.string _ _, .string _ _, fun _ h => absurd h List.not_mem_nil⟩,
      fits_optionalMember (Json.Fits.string (n + 2)) _ _⟩,
    ⟨.bool _ _, .string _ _, fun _ h => absurd h List.not_mem_nil⟩⟩,
    Attributes.fits_of_mem_toMembers n⟩

end Field

/-! ## Documents -/

/-- How documents are written: on one line, or indented. -/
def layouts : List (Json → String) := [Json.compact, Json.pretty]

theorem parse_layout {write : Json → String} {v : Json} (hwrite : write ∈ layouts)
    (hv : Json.Fits Json.maxDepth v) : Json.parse (write v) = .ok v.printed := by
  simp only [layouts, List.mem_cons, List.not_mem_nil, or_false] at hwrite
  rcases hwrite with rfl | rfl
  · exact Json.parse_compact hv
  · exact Json.parse_pretty hv

theorem fits_fieldsToJson (fields : List Field) : Json.Fits Json.maxDepth (fieldsToJson fields) := by
  refine .array fun v hv => ?_
  obtain ⟨f, -, rfl⟩ := List.mem_map.mp hv
  exact f.fits_toJson 123

theorem printed_fieldsToJson (fields : List Field) :
    (fieldsToJson fields).printed =
      .array (fields.map fun f => .object (f.toMembers.map printedMember)) := by
  rw [fieldsToJson, Json.printed_array, List.map_map]
  exact congrArg _ (List.map_congr_left fun f _ => Json.printed_object f.toMembers)

/-- What a document says of fields. -/
def AreOf (items : List Json) (fields : List Field) : Prop :=
  List.Forall₂ (fun v f => ∃ members, v = .object members ∧ Field.IsOf members f) items fields

/-- Appends the field that an item is. -/
def collectField (fields : List Field) (v : Json) : Except Json.Mismatch (List Field) :=
  (Field.ofJson v).map fun f => fields ++ [f]

theorem foldlM_collectField_eq_ok_iff {items : List Json} {before fields : List Field} :
    items.foldlM collectField before = .ok fields ↔
      ∃ new, List.Forall₂ (fun v f => Field.ofJson v = .ok f) items new ∧ before ++ new = fields := by
  induction items generalizing before with
  | nil => simp [pure, Except.pure]
  | cons v items ih =>
    rw [List.foldlM_cons, bind_eq_ok_iff]
    simp only [collectField, map_eq_ok_iff, ih, List.forall₂_cons_left_iff]
    constructor
    · rintro ⟨_, ⟨f, hf, rfl⟩, new, hnew, rfl⟩
      exact ⟨f :: new, ⟨f, new, hf, hnew, rfl⟩, List.append_cons _ _ _⟩
    · rintro ⟨_, ⟨f, new, hf, hnew, rfl⟩, rfl⟩
      exact ⟨before ++ [f], ⟨f, hf, rfl⟩, new, hnew, (List.append_cons _ _ _).symm⟩

theorem Field.ofJson_eq_ok_iff {v : Json} {f : Field} :
    ofJson v = .ok f ↔ ∃ members, v = .object members ∧ IsOf members f := by
  cases v <;> simp [ofJson, Json.wrongType, ofMembers_eq_ok_iff]

theorem foldlM_collectField_nil_eq_ok_iff {items : List Json} {fields : List Field} :
    items.foldlM collectField [] = .ok fields ↔ AreOf items fields := by
  simp only [foldlM_collectField_eq_ok_iff, Field.ofJson_eq_ok_iff, List.nil_append,
    exists_eq_right]
  rfl

theorem Field.readItem_eq_ok_iff {fields fields' : List Field} {s rest : List Char} :
    readItem fields s = .ok (fields', rest) ↔
      ∃ v, Json.readValue (Json.maxDepth - 1) s = .ok (v, rest) ∧
        collectField fields v = .ok fields' := by
  rw [readItem, bind_eq_ok_iff]
  simp only [collectField, map_eq_ok_iff, Field.ofJson_eq_ok_iff]
  constructor
  · rintro ⟨⟨f, rest'⟩, hread, h⟩
    obtain ⟨rfl, rfl⟩ := Prod.mk.inj (Except.ok.inj h)
    obtain ⟨members, hv, hf⟩ := read_eq_ok_iff.mp hread
    exact ⟨_, hv, f, ⟨members, rfl, ofMembers_eq_ok_iff.mp hf⟩, rfl⟩
  · rintro ⟨_, hv, f, ⟨members, rfl, hf⟩, rfl⟩
    exact ⟨(f, rest), read_eq_ok_iff.mpr ⟨members, hv, ofMembers_eq_ok_iff.mpr hf⟩, rfl⟩

theorem Field.readList_eq_ok_iff {fields : List Field} {s rest : List Char} :
    readList s = .ok (fields, rest) ↔
      ∃ items, Json.readValue Json.maxDepth s = .ok (.array items, rest) ∧ AreOf items fields := by
  have hitems : ∀ {t : List Char}, Json.readItems readItem [] t = .ok (fields, rest) ↔
      ∃ items, Json.Items (Json.readValue (Json.maxDepth - 1)) true t items rest ∧
        items.length < t.length + 1 ∧ items.foldlM collectField [] = .ok fields :=
    Json.foldItems_eq_ok_iff fun _ _ _ _ => readItem_eq_ok_iff
  have harray : ∀ {items : List Json},
      Json.readValue Json.maxDepth s = .ok (.array items, rest) ↔
        ∃ t, Json.skipBlank s = '[' :: t ∧
          Json.Items (Json.readValue (Json.maxDepth - 1)) true t items rest ∧
          items.length < t.length + 1 :=
    Json.readValue_array_iff
  simp only [harray, ← foldlM_collectField_nil_eq_ok_iff]
  unfold readList
  split
  next t heq =>
    rw [hitems]
    constructor
    · rintro ⟨items, hread, hlength, hfold⟩
      exact ⟨items, ⟨t, heq, hread, hlength⟩, hfold⟩
    · rintro ⟨items, ⟨t', heq', hread, hlength⟩, hfold⟩
      obtain rfl := List.tail_eq_of_cons_eq (heq.symm.trans heq')
      exact ⟨items, hread, hlength, hfold⟩
  next hne =>
    exact ⟨fun h => (nomatch h), fun ⟨_, ⟨t, heq, _⟩, _⟩ => absurd heq (hne t)⟩

theorem parseFields_eq_ok_iff {text : String} {fields : List Field} :
    parseFields text = .ok fields ↔
      ∃ items, Json.parse text = .ok (.array items) ∧ AreOf items fields := by
  simp only [parseFields, Json.parse, Json.readText, bind_eq_ok_iff, Except.ok.injEq]
  constructor
  · rintro ⟨⟨_, rest⟩, hread, u, hend, rfl⟩
    obtain ⟨items, hitems, hfields⟩ := Field.readList_eq_ok_iff.mp hread
    exact ⟨items, ⟨_, hitems, u, hend, rfl⟩, hfields⟩
  · rintro ⟨items, ⟨⟨_, rest⟩, hread, u, hend, rfl⟩, hfields⟩
    exact ⟨_, Field.readList_eq_ok_iff.mpr ⟨items, hread, hfields⟩, u, hend, rfl⟩

/-- A written document is read as the fields that it keeps. -/
theorem parseFields_layout {write : Json → String} (hwrite : write ∈ layouts)
    (fields : List Field) :
    parseFields (write (fieldsToJson fields)) = .ok (fields.map Field.stored) := by
  have hparse := parse_layout hwrite (fits_fieldsToJson fields)
  rw [printed_fieldsToJson] at hparse
  refine parseFields_eq_ok_iff.mpr ⟨_, hparse, ?_⟩
  rw [AreOf, List.forall₂_map_left_iff, List.forall₂_map_right_iff]
  exact List.forall₂_same.mpr fun f _ => ⟨_, rfl, f.isOf_printed⟩

/-! ## Fields that are read -/

theorem IsDouble.isFinite {n : Nat} {v : Json} {x : Binary64} (h : IsDouble v x)
    (hv : Json.IsPlain n v) : x.isFinite = true := by
  rcases h with rfl | ⟨i, rfl, rfl⟩
  · cases x with
    | finite negative m => rfl
    | nan => exact nomatch hv.printed
    | infinite negative => exact nomatch hv.printed
  · have hrange : i.natAbs ≤ 2 ^ 64 := by
      cases hv.fits with
      | int _ h =>
        simp only [Json.isInteger, Bool.and_eq_true, decide_eq_true_eq] at h
        omega
    obtain ⟨m, hm⟩ := Option.isSome_iff_exists.mp (Decimal.magnitude?_isSome hrange)
    rw [Decimal.toBinary64, hm]
    rfl

theorem filter_isFinite_of_given {n : Nat} {vs : List Json} {o : Option Binary64}
    (h : Given (Nullable IsDouble) none vs o) (hvs : ∀ v ∈ vs, Json.IsPlain n v) :
    o.filter (·.isFinite) = o := by
  cases h with
  | missing => rfl
  | value h =>
    cases h with
    | null => rfl
    | value h => exact Option.filter_some_pos (h.isFinite (hvs _ List.mem_cons_self))

/-- The numbers of a field that is read are finite, so the whole field is kept. -/
theorem Field.IsOf.stored_eq {n : Nat} {members : List (String × Json)} {f : Field}
    (h : IsOf members f) (hmembers : ∀ m ∈ members, Json.IsPlain n m.2) : f.stored = f := by
  have hplain : ∀ name, ∀ v ∈ valuesOf name members, Json.IsPlain n v := by
    intro name v hv
    obtain ⟨m, hm, rfl⟩ := List.mem_map.mp hv
    exact hmembers m (List.mem_filter.mp hm).1
  have hattributes := h.attributes
  obtain ⟨id, name, label, required, attributes⟩ := f
  -- fields of the other kinds have no numbers that could be lost
  cases attributes with
  | number x =>
    obtain ⟨hmin, hmax, hstep, hinitial⟩ := hattributes
    simp only [stored, Attributes.stored, filter_isFinite_of_given hmin (hplain _),
      filter_isFinite_of_given hmax (hplain _), filter_isFinite_of_given hstep (hplain _),
      filter_isFinite_of_given hinitial (hplain _)]
  | _ => rfl

end FormBuilder
