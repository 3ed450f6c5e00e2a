import FormBuilder.Field.Reader
import FormBuilder.Proofs.Field.Attributes
import FormBuilder.Proofs.Json.Reading

/-!
The reader of fields takes exactly the objects of the schema.
-/

namespace FormBuilder

/-! ## Kinds -/

namespace Kind

theorem ofName?_eq_some_iff {name : String} {k : Kind} : ofName? name = some k ↔ name = k.name := by
  constructor
  · intro h
    have hk := List.find?_some (show all.find? (·.name = name) = some k from h)
    exact (of_decide_eq_true hk).symm
  · rintro rfl
    exact ofName?_name k

theorem getElem?_all_eq_some_iff {n : Nat} {k : Kind} : all[n]? = some k ↔ n = k.index := by
  constructor
  · intro h
    have hlt : n < 8 := (List.getElem?_eq_some_iff.mp h).1
    have hall : ∀ n < 8, ∀ k ∈ all, all[n]? = some k → n = k.index := by decide
    exact hall n hlt k (mem_all k) h
  · rintro rfl
    exact getElem?_index k

theorem ofJson_eq_ok_iff {v : Json} {k : Kind} : ofJson v = .ok k ↔ IsKind v k := by
  cases v with
  | string name =>
    rw [ofJson, IsKind]
    simp only [Json.string.injEq, reduceCtorEq, or_false, ← ofName?_eq_some_iff]
    cases ofName? name <;> simp
  | int n =>
    cases n with
    | ofNat n =>
      rw [ofJson, IsKind]
      simp only [Json.int.injEq, reduceCtorEq, false_or, Int.ofNat_eq_natCast, Int.natCast_inj,
        ← getElem?_all_eq_some_iff]
      cases all[n]? <;> simp
    | negSucc n => simp [ofJson, Json.wrongType, IsKind]
  | _ => simp [ofJson, Json.wrongType, IsKind]

theorem kind_blank (k : Kind) : k.blank.kind = k := by cases k <;> rfl

end Kind

theorem splitKind_eq_ok_iff {found : Option Kind} {others members rest : List (String × Json)}
    {k : Kind} :
    splitKind found others members = .ok (k, rest) ↔
      Fill IsKind found (valuesOf "kind" members) (some k) ∧
        rest = others ++ members.filter (·.1 ≠ "kind") := by
  induction members generalizing found others with
  | nil =>
    cases found <;> simp [splitKind, fill_nil_iff, eq_comm]
  | cons m members ih =>
    obtain ⟨name, v⟩ := m
    by_cases hname : name = "kind"
    · subst hname
      cases found with
      | some k' => simp [splitKind, valuesOf_cons_self, fill_cons_iff]
      | none =>
        have hsplit : splitKind none others (("kind", v) :: members) =
            Kind.ofJson v >>= fun k => splitKind (some k) others members := rfl
        rw [hsplit, bind_eq_ok_iff, valuesOf_cons_self, fill_cons_iff]
        simp only [ih, Kind.ofJson_eq_ok_iff, true_and, ← exists_and_right, and_assoc]
        simp
    · rw [splitKind, if_neg hname, ih, valuesOf_cons_of_ne hname]
      simp [hname]

/-! ## Fields -/

namespace Field

/-- The names of the members that are not set aside. -/
def directNames : List String := ["id", "name", "label", "required"]

namespace Draft

/-- Reads one more member. -/
def step (d : Draft) (m : String × Json) : Except Json.Mismatch Draft := do
  d.checkNew m.1
  d.add m.1 m.2

/-- What members make of a draft. -/
structure Fills (members : List (String × Json)) (d d' : Draft) : Prop where
  id : Fill IsText d.id (valuesOf "id" members) d'.id
  name : Fill IsText d.name (valuesOf "name" members) d'.name
  label : Fill (Nullable IsText) d.label (valuesOf "label" members) d'.label
  required : Fill IsFlag d.required (valuesOf "required" members) d'.required
  others : d'.others = d.others ++ members.filter (·.1 ∉ directNames)

section Fills

variable {members : List (String × Json)} {d d' : Draft} {name : String} {v : Json}

theorem checkNew_eq_ok_iff {α : Type} {place : Option α} (h : d.has name = place.isSome) :
    d.checkNew name = .ok () ↔ place = none := by
  rw [checkNew, h]
  cases place <;> simp

theorem fills_cons_id :
    (∃ mid, d.step ("id", v) = .ok mid ∧ Fills members mid d') ↔
      Fills (("id", v) :: members) d d' := by
  have hfree : d.checkNew "id" = .ok () ↔ d.id = none := checkNew_eq_ok_iff rfl
  refine exists_read_iff.trans ⟨?_, fun h => ?_⟩
  · rintro ⟨hnew, s, hs, h⟩
    have hid := fill_cons_iff.mpr ⟨hfree.mp hnew, s, asString_eq_ok_iff.mp hs, h.id⟩
    exact ⟨hid, h.name, h.label, h.required, h.others⟩
  · obtain ⟨hnone, s, hs, hid⟩ := fill_cons_iff.mp h.id
    exact ⟨hfree.mpr hnone, s, asString_eq_ok_iff.mpr hs, hid, h.name, h.label, h.required,
      h.others⟩

theorem fills_cons_name :
    (∃ mid, d.step ("name", v) = .ok mid ∧ Fills members mid d') ↔
      Fills (("name", v) :: members) d d' := by
  have hfree : d.checkNew "name" = .ok () ↔ d.name = none := checkNew_eq_ok_iff rfl
  refine exists_read_iff.trans ⟨?_, fun h => ?_⟩
  · rintro ⟨hnew, s, hs, h⟩
    have hname := fill_cons_iff.mpr ⟨hfree.mp hnew, s, asString_eq_ok_iff.mp hs, h.name⟩
    exact ⟨h.id, hname, h.label, h.required, h.others⟩
  · obtain ⟨hnone, s, hs, hname⟩ := fill_cons_iff.mp h.name
    exact ⟨hfree.mpr hnone, s, asString_eq_ok_iff.mpr hs, h.id, hname, h.label, h.required,
      h.others⟩

theorem fills_cons_label :
    (∃ mid, d.step ("label", v) = .ok mid ∧ Fills members mid d') ↔
      Fills (("label", v) :: members) d d' := by
  have hfree : d.checkNew "label" = .ok () ↔ d.label = none := checkNew_eq_ok_iff rfl
  refine exists_read_iff.trans ⟨?_, fun h => ?_⟩
  · rintro ⟨hnew, o, ho, h⟩
    have hlabel := fill_cons_iff.mpr ⟨hfree.mp hnew, o, optionalText_eq_ok_iff.mp ho, h.label⟩
    exact ⟨h.id, h.name, hlabel, h.required, h.others⟩
  · obtain ⟨hnone, o, ho, hlabel⟩ := fill_cons_iff.mp h.label
    exact ⟨hfree.mpr hnone, o, optionalText_eq_ok_iff.mpr ho, h.id, h.name, hlabel, h.required,
      h.others⟩

theorem fills_cons_required :
    (∃ mid, d.step ("required", v) = .ok mid ∧ Fills members mid d') ↔
      Fills (("required", v) :: members) d d' := by
  have hfree : d.checkNew "required" = .ok () ↔ d.required = none := checkNew_eq_ok_iff rfl
  refine exists_read_iff.trans ⟨?_, fun h => ?_⟩
  · rintro ⟨hnew, b, hb, h⟩
    have hrequired := fill_cons_iff.mpr ⟨hfree.mp hnew, b, asBool_eq_ok_iff.mp hb, h.required⟩
    exact ⟨h.id, h.name, h.label, hrequired, h.others⟩
  · obtain ⟨hnone, b, hb, hrequired⟩ := fill_cons_iff.mp h.required
    exact ⟨hfree.mpr hnone, b, asBool_eq_ok_iff.mpr hb, h.id, h.name, h.label, hrequired, h.others⟩

/-- A member that is set aside. -/
theorem fills_cons_of_not_mem (hname : name ∉ directNames) :
    (∃ mid, d.step (name, v) = .ok mid ∧ Fills members mid d') ↔
      Fills ((name, v) :: members) d d' := by
  obtain ⟨hid, hn, hlabel, hrequired⟩ :
      name ≠ "id" ∧ name ≠ "name" ∧ name ≠ "label" ∧ name ≠ "required" := by
    simpa [directNames] using hname
  have hstep : d.step (name, v) = .ok { d with others := d.others ++ [(name, v)] } := by
    simp [step, checkNew, has, add, bind, Except.bind]
  have hfilter : ((name, v) :: members).filter (·.1 ∉ directNames) =
      (name, v) :: members.filter (·.1 ∉ directNames) :=
    List.filter_cons_of_pos (decide_eq_true hname)
  rw [hstep]
  constructor
  · rintro ⟨mid, hmid, h⟩
    obtain rfl := Except.ok.inj hmid
    refine ⟨?_, ?_, ?_, ?_, ?_⟩
    · exact valuesOf_cons_of_ne hid v members ▸ h.id
    · exact valuesOf_cons_of_ne hn v members ▸ h.name
    · exact valuesOf_cons_of_ne hlabel v members ▸ h.label
    · exact valuesOf_cons_of_ne hrequired v members ▸ h.required
    · rw [hfilter, h.others, List.append_assoc, List.singleton_append]
  · intro h
    refine ⟨_, rfl, ?_, ?_, ?_, ?_, ?_⟩
    · exact valuesOf_cons_of_ne hid v members ▸ h.id
    · exact valuesOf_cons_of_ne hn v members ▸ h.name
    · exact valuesOf_cons_of_ne hlabel v members ▸ h.label
    · exact valuesOf_cons_of_ne hrequired v members ▸ h.required
    · rw [h.others, hfilter, List.append_assoc, List.singleton_append]

theorem fills_cons :
    (∃ mid, d.step (name, v) = .ok mid ∧ Fills members mid d') ↔
      Fills ((name, v) :: members) d d' := by
  by_cases hname : name ∈ directNames
  · simp only [directNames, List.mem_cons, List.not_mem_nil, or_false] at hname
    rcases hname with rfl | rfl | rfl | rfl
    · exact fills_cons_id
    · exact fills_cons_name
    · exact fills_cons_label
    · exact fills_cons_required
  · exact fills_cons_of_not_mem hname

theorem fills_nil : Fills [] d d' ↔ d = d' := by
  constructor
  · intro h
    obtain ⟨id, name, label, required, others⟩ := d
    obtain ⟨id', name', label', required', others'⟩ := d'
    obtain rfl := fill_nil_iff.mp h.id
    obtain rfl := fill_nil_iff.mp h.name
    obtain rfl := fill_nil_iff.mp h.label
    obtain rfl := fill_nil_iff.mp h.required
    have hothers : others' = others ++ [] := h.others
    rw [hothers, List.append_nil]
  · rintro rfl
    exact ⟨.keep _, .keep _, .keep _, .keep _, (List.append_nil _).symm⟩

theorem foldlM_eq_ok_iff : members.foldlM step d = .ok d' ↔ Fills members d d' := by
  induction members generalizing d with
  | nil => exact Iff.trans (by simp [pure, Except.pure]) fills_nil.symm
  | cons m members ih =>
    rw [List.foldlM_cons, bind_eq_ok_iff]
    simp only [ih]
    exact fills_cons

end Fills

end Draft

theorem ofMembers_eq (members : List (String × Json)) :
    ofMembers members = members.foldlM Draft.step {} >>= Draft.finish := rfl

theorem Draft.finish_eq_ok_iff {d : Draft} {f : Field} :
    d.finish = .ok f ↔
      d.id = some f.id ∧ d.name = some f.name ∧ d.label.join = f.label ∧
      d.required.getD false = f.required ∧
      ∃ rest, splitKind none [] d.others = .ok (f.kind, rest) ∧
        f.kind.blank.addMembers [] rest = .ok f.attributes := by
  obtain ⟨id, name, label, required, attributes⟩ := f
  -- the kind is not kept beside the attributes, so it has to be read off them
  have hkind : ∀ (k : Kind) rest, k.blank.addMembers [] rest = .ok attributes →
      k = attributes.kind := by
    intro k rest h
    have hgiven := (Attributes.addMembers_eq_ok_iff.mp h).2
    rw [Attributes.kind_eq_of_givenBy hgiven, Kind.kind_blank]
  rcases hid : d.id with _ | id' <;> rcases hname : d.name with _ | name'
  · simp [finish, hid]
  · simp [finish, hid]
  · simp [finish, hid, hname]
  · simp only [finish, hid, hname, bind_eq_ok_iff]
    constructor
    · rintro ⟨⟨k, rest⟩, hsplit, a, ha, h⟩
      obtain ⟨rfl, rfl, hlabel, hrequired, rfl⟩ := Field.mk.inj (Except.ok.inj h)
      obtain rfl := hkind k rest ha
      exact ⟨rfl, rfl, hlabel, hrequired, rest, hsplit, ha⟩
    · rintro ⟨hid', hname', hlabel, hrequired, rest, hsplit, ha⟩
      obtain rfl := Option.some.inj hid'
      obtain rfl := Option.some.inj hname'
      exact ⟨_, hsplit, _, ha, by rw [hlabel, hrequired]⟩

/-- The members that are neither direct nor the kind. -/
def attributeMembers (members : List (String × Json)) : List (String × Json) :=
  (members.filter (·.1 ∉ directNames)).filter (·.1 ≠ "kind")

theorem valuesOf_attributeMembers {name : String} (h : name ∉ commonNames)
    (members : List (String × Json)) :
    valuesOf name (attributeMembers members) = valuesOf name members := by
  have hnot : name ∉ directNames ∧ name ≠ "kind" := by
    simpa [commonNames, directNames, and_assoc] using h
  rw [attributeMembers, valuesOf_filter, valuesOf_filter]
  · rintro m rfl
    exact decide_eq_true hnot.1
  · rintro m rfl
    exact decide_eq_true hnot.2

theorem not_mem_commonNames (k : Kind) : ∀ n ∈ k.attributeNames, n ∉ commonNames := by
  cases k <;> decide

theorem forall_mem_attributeMembers_iff {members : List (String × Json)} {names : List String} :
    (∀ m ∈ attributeMembers members, m.1 ∈ names) ↔
      ∀ m ∈ members, m.1 ∈ commonNames ∨ m.1 ∈ names := by
  have hcommon : ∀ n, n ∈ commonNames ↔ n ∈ directNames ∨ n = "kind" := by
    simp [commonNames, directNames, or_assoc]
  simp only [attributeMembers, List.mem_filter, hcommon, decide_eq_true_eq]
  grind

theorem ofMembers_eq_ok_iff {members : List (String × Json)} {f : Field} :
    ofMembers members = .ok f ↔ IsOf members f := by
  have hkind : valuesOf "kind" (members.filter (·.1 ∉ directNames)) = valuesOf "kind" members :=
    valuesOf_filter fun m hm => by simp [hm, directNames]
  have hgiven : f.kind.blank.GivenBy (attributeMembers members) f.attributes ↔
      f.kind.blank.GivenBy members f.attributes := by
    refine Attributes.givenBy_congr fun n hn => valuesOf_attributeMembers ?_ members
    exact not_mem_commonNames _ n (Kind.kind_blank f.kind ▸ hn)
  -- one specification for each of the passes: direct members, kind, attributes
  rw [ofMembers_eq, bind_eq_ok_iff]
  simp only [Draft.foldlM_eq_ok_iff, Draft.finish_eq_ok_iff, splitKind_eq_ok_iff,
    Attributes.addMembers_eq_ok_iff, List.nil_append, Kind.kind_blank]
  constructor
  · rintro ⟨⟨id, name, label, required, others⟩, hd, rfl, rfl, hlabel, hrequired, rest,
      ⟨hk, rfl⟩, hnames, ha⟩
    obtain rfl : others = members.filter (·.1 ∉ directNames) := hd.others
    rw [hkind] at hk
    refine ⟨fillText_some_iff.mp hd.id, fillText_some_iff.mp hd.name, ?_, ?_,
      fill_some_iff.mp hk, hgiven.mp ha, ?_⟩
    · exact given_iff_fill.mpr ⟨label, hd.label, by rw [← hlabel]; cases label <;> rfl⟩
    · exact given_iff_fill.mpr ⟨required, hd.required, hrequired⟩
    · exact forall_mem_attributeMembers_iff.mp fun m hm => (hnames m hm).2
  · intro h
    obtain ⟨label, hlabel, hlabel'⟩ := given_iff_fill.mp h.label
    obtain ⟨required, hrequired, hrequired'⟩ := given_iff_fill.mp h.required
    refine ⟨⟨some f.id, some f.name, label, required, members.filter (·.1 ∉ directNames)⟩,
      ⟨fillText_some_iff.mpr h.id, fillText_some_iff.mpr h.name, hlabel, hrequired, rfl⟩,
      rfl, rfl, ?_, hrequired', attributeMembers members, ⟨?_, rfl⟩, ?_, hgiven.mpr h.attributes⟩
    · rw [← hlabel']
      cases label <;> rfl
    · rw [hkind]
      exact fill_some_iff.mpr h.kind
    · exact fun m hm =>
        ⟨List.not_mem_nil, forall_mem_attributeMembers_iff.mpr h.known m hm⟩

/-! ## Texts -/

section Texts

open Json (readValue readColon readFlat orMismatch)

theorem orMismatch_eq_ok_iff {α : Type} {r : Except Json.Mismatch α} {a : α} :
    orMismatch r = .ok a ↔ r = .ok a := by
  cases r <;> simp [orMismatch]

variable {depth : Nat} {d d' : Draft} {name : String} {s rest : List Char}

/-- What is not set aside is neither an array nor an object. -/
theorem Draft.isFlat_of_add {wanted : String} {v : Json} (hwanted : wanted? name = some wanted)
    (h : d.add name v = .ok d') : v.isFlat = true := by
  unfold wanted? at hwanted
  split at hwanted
  case h_5 => exact nomatch hwanted
  all_goals cases v <;> first | rfl | exact nomatch h

/-- A check, a colon, a value, and what is made of it. -/
theorem exists_member_iff {value : Json.Reader Json} :
    (do
      orMismatch (d.checkNew name)
      let s ← readColon s
      let (v, rest) ← value s
      .ok (← orMismatch (d.add name v), rest)) = .ok (d', rest) ↔
      ∃ s' v, readColon s = .ok s' ∧ value s' = .ok (v, rest) ∧ d.step (name, v) = .ok d' := by
  simp only [Draft.step, bind_eq_ok_iff, orMismatch_eq_ok_iff]
  constructor
  · rintro ⟨_, hnew, s', hcolon, ⟨v, _⟩, hread, d'', hadd, h⟩
    obtain ⟨rfl, rfl⟩ := Prod.mk.inj (Except.ok.inj h)
    exact ⟨s', v, hcolon, hread, _, hnew, hadd⟩
  · rintro ⟨s', v, hcolon, hread, _, hnew, hadd⟩
    exact ⟨_, hnew, s', hcolon, (v, rest), hread, d', hadd, rfl⟩

theorem readMember_eq_ok_iff :
    readMember depth d name s = .ok (d', rest) ↔
      ∃ s' v, readColon s = .ok s' ∧ readValue depth s' = .ok (v, rest) ∧
        d.step (name, v) = .ok d' := by
  unfold readMember
  cases hwanted : Draft.wanted? name with
  | none => exact exists_member_iff
  | some wanted =>
    refine exists_member_iff.trans ?_
    simp only [Json.readFlat_eq_ok_iff depth]
    constructor
    · rintro ⟨s', v, hcolon, ⟨hread, -⟩, hstep⟩
      exact ⟨s', v, hcolon, hread, hstep⟩
    · rintro ⟨s', v, hcolon, hread, hstep⟩
      obtain ⟨_, -, hadd⟩ := bind_eq_ok_iff.mp hstep
      exact ⟨s', v, hcolon, ⟨hread, Draft.isFlat_of_add hwanted hadd⟩, hstep⟩

end Texts

/-- From a text a field is read as from the object that the text spells. -/
theorem read_eq_ok_iff {depth : Nat} {s rest : List Char} {f : Field} :
    read depth s = .ok (f, rest) ↔
      ∃ members, Json.readValue (depth + 1) s = .ok (.object members, rest) ∧
        ofMembers members = .ok f := by
  have hmembers : ∀ {t : List Char} {d : Draft},
      Json.readMembers (readMember depth) {} t = .ok (d, rest) ↔
        ∃ members, Json.Members (Json.readValue depth) true t members rest ∧
          members.length < t.length + 1 ∧ members.foldlM Draft.step {} = .ok d :=
    Json.foldMembers_eq_ok_iff fun _ _ _ _ _ => readMember_eq_ok_iff
  simp only [Json.readValue_object_iff, ofMembers_eq, bind_eq_ok_iff]
  unfold read
  split
  next t ht =>
    simp only [ht, bind_eq_ok_iff, orMismatch_eq_ok_iff]
    constructor
    · rintro ⟨⟨d, rest'⟩, hread, f', hfinish, h⟩
      obtain ⟨rfl, rfl⟩ := Prod.mk.inj (Except.ok.inj h)
      obtain ⟨members, hin, hlength, hfold⟩ := hmembers.mp hread
      exact ⟨members, ⟨t, rfl, hin, hlength⟩, d, hfold, hfinish⟩
    · rintro ⟨members, ⟨t', ht', hin, hlength⟩, d, hfold, hfinish⟩
      obtain rfl := (List.cons.inj ht').2
      exact ⟨(d, rest), hmembers.mpr ⟨members, hin, hlength, hfold⟩, f, hfinish, rfl⟩
  next hbrace =>
    refine ⟨fun h => (nomatch h), ?_⟩
    rintro ⟨members, ⟨t, ht, -⟩, -⟩
    exact absurd ht (hbrace t)

/-- The reader takes an object exactly if its members are those of a field, and returns
that field.  It makes no difference whether the object is read from a text, with other
brackets around it or not, and in which order the members come. -/
theorem accepts_iff_isOf :
    (∀ members f, ofJson (.object members) = .ok f ↔ IsOf members f) ∧
    (∀ depth s f rest, read depth s = .ok (f, rest) ↔
      ∃ members, Json.readValue (depth + 1) s = .ok (.object members, rest) ∧ IsOf members f) ∧
    ∀ members members' f, members.Perm members' → (IsOf members f ↔ IsOf members' f) := by
  refine ⟨fun members f => ofMembers_eq_ok_iff, fun depth s f rest => ?_,
    fun members members' f h => ⟨fun hf => hf.perm h, fun hf => hf.perm h.symm⟩⟩
  simp only [read_eq_ok_iff, ofMembers_eq_ok_iff]

/-- A checkbox whose kind is given by its index, from its first member to its last and
the other way round. -/
theorem accepts_iff_isOf_reverse :
    let members : List (String × Json) :=
      [("kind", .int 5), ("label", .null), ("id", .string "a"), ("defaultChecked", .bool true),
        ("name", .string "n")]
    let f : Field := { id := "a", name := "n", attributes := .checkbox { checked := some true } }
    IsOf members f ∧ members.Perm members.reverse ∧ ofJson (.object members.reverse) = .ok f := by
  intro members f
  obtain ⟨hvalue, -, horder⟩ := accepts_iff_isOf
  have hperm : members.Perm members.reverse := (List.reverse_perm members).symm
  have hof : IsOf members f := (hvalue members f).mp rfl
  exact ⟨hof, hperm, (hvalue members.reverse f).mpr ((horder _ _ f hperm).mp hof)⟩

end Field
end FormBuilder
