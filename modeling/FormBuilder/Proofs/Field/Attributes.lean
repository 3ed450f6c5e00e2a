import FormBuilder.Proofs.Field.Schema

/-!
The readers of options and attributes take what the schema allows, and nothing else:
`Choice.ofJson_eq_ok_iff` and `Attributes.addMembers_eq_ok_iff`.
-/

namespace FormBuilder

/-! ## Members that may come once -/

/-- What the values of one name make of a place, which has to be free for them. -/
inductive Fill {α : Type} (is : Json → α → Prop) : Option α → List Json → Option α → Prop where
  | keep (o) : Fill is o [] o
  | set {v a} (h : is v a) : Fill is none [v] (some a)

section Fill

variable {α : Type} {is : Json → α → Prop} {o o' : Option α} {v : Json} {vs : List Json}

theorem fill_nil_iff : Fill is o [] o' ↔ o = o' :=
  ⟨fun h => by cases h; rfl, fun h => h ▸ .keep o⟩

theorem fill_cons_iff : Fill is o (v :: vs) o' ↔ o = none ∧ ∃ a, is v a ∧ Fill is (some a) vs o' := by
  constructor
  · intro h
    cases h with
    | set h => exact ⟨rfl, _, h, .keep _⟩
  · rintro ⟨rfl, a, ha, h⟩
    cases h with
    | keep => exact .set ha

theorem fill_some_iff {a : α} : Fill is none vs (some a) ↔ ∃ v, vs = [v] ∧ is v a := by
  constructor
  · intro h
    cases h with
    | set h => exact ⟨_, rfl, h⟩
  · rintro ⟨v, rfl, h⟩
    exact .set h

theorem given_iff_fill {old a : α} :
    Given is old vs a ↔ ∃ o : Option α, Fill is none vs o ∧ o.getD old = a := by
  constructor
  · intro h
    cases h with
    | missing => exact ⟨none, .keep _, rfl⟩
    | value h => exact ⟨some a, .set h, rfl⟩
  · rintro ⟨o, h, rfl⟩
    cases h with
    | keep => exact .missing
    | set h => exact .value h

theorem fillText_some_iff {s : String} : Fill IsText none vs (some s) ↔ vs = [.string s] := by
  simp [fill_some_iff, IsText]

end Fill

/-! ## Options -/

namespace Choice

/-- Reads one more member. -/
def Draft.step (d : Draft) (m : String × Json) : Except Json.Mismatch Draft := do
  d.checkNew m.1
  d.add m.1 m.2

theorem ofMembers_eq (members : List (String × Json)) :
    ofMembers members = members.foldlM Draft.step {} >>= Draft.finish := rfl

theorem Draft.foldlM_eq_ok_iff {members : List (String × Json)} {d d' : Draft} :
    members.foldlM step d = .ok d' ↔
      Fill IsText d.label (valuesOf "label" members) d'.label ∧
        Fill IsText d.value (valuesOf "value" members) d'.value := by
  induction members generalizing d with
  | nil =>
    obtain ⟨label, value⟩ := d
    obtain ⟨label', value'⟩ := d'
    simp [fill_nil_iff, pure, Except.pure]
  | cons m members ih =>
    obtain ⟨name, v⟩ := m
    rw [List.foldlM_cons, bind_eq_ok_iff]
    simp only [ih]
    by_cases hlabel : name = "label"
    · subst hlabel
      have hfree : d.checkNew "label" = .ok () ↔ d.label = none := by
        cases hd : d.label <;> simp [checkNew, hd]
      rw [valuesOf_cons_self, valuesOf_cons_of_ne (by decide), fill_cons_iff]
      refine exists_read_iff.trans ?_
      simp only [hfree, asString_eq_ok_iff]
      exact ⟨fun ⟨h, s, hs, hl, hv⟩ => ⟨⟨h, s, hs, hl⟩, hv⟩,
        fun ⟨⟨h, s, hs, hl⟩, hv⟩ => ⟨h, s, hs, hl, hv⟩⟩
    by_cases hvalue : name = "value"
    · subst hvalue
      have hfree : d.checkNew "value" = .ok () ↔ d.value = none := by
        cases hd : d.value <;> simp [checkNew, hd]
      rw [valuesOf_cons_self, valuesOf_cons_of_ne (by decide), fill_cons_iff]
      refine exists_read_iff.trans ?_
      simp only [hfree, asString_eq_ok_iff]
      exact ⟨fun ⟨h, s, hs, hl, hv⟩ => ⟨hl, h, s, hs, hv⟩,
        fun ⟨hl, h, s, hs, hv⟩ => ⟨h, s, hs, hl, hv⟩⟩
    have hstep : d.step (name, v) = .ok d := by
      simp [step, checkNew, add, hlabel, hvalue, bind, Except.bind]
    rw [valuesOf_cons_of_ne hlabel, valuesOf_cons_of_ne hvalue]
    simp [hstep]

theorem ofMembers_eq_ok_iff {members : List (String × Json)} {c : Choice} :
    ofMembers members = .ok c ↔ valuesOf "label" members = [.string c.label] ∧
      valuesOf "value" members = [.string c.value] := by
  have hfinish : ∀ d : Draft, d.finish = .ok c ↔ d.label = some c.label ∧ d.value = some c.value := by
    rintro ⟨label, value⟩
    cases c
    cases label <;> cases value <;> simp [Draft.finish]
  rw [ofMembers_eq, bind_eq_ok_iff]
  simp only [Draft.foldlM_eq_ok_iff, hfinish]
  constructor
  · rintro ⟨⟨label, value⟩, ⟨hlabel, hvalue⟩, rfl, rfl⟩
    exact ⟨fillText_some_iff.mp hlabel, fillText_some_iff.mp hvalue⟩
  · rintro ⟨hlabel, hvalue⟩
    exact ⟨⟨some c.label, some c.value⟩,
      ⟨fillText_some_iff.mpr hlabel, fillText_some_iff.mpr hvalue⟩, rfl, rfl⟩

theorem ofItems_eq_ok_iff {items : List Json} {c : Choice} :
    ofItems items = .ok c ↔ items = [.string c.label, .string c.value] := by
  match items with
  | [] => simp [ofItems]
  | [label] => cases label <;> simp [ofItems, Json.asString, Json.wrongType, bind, Except.bind]
  | label :: value :: rest =>
    rw [ofItems]
    simp only [bind_eq_ok_iff, asString_eq_ok_iff, IsText]
    constructor
    · rintro ⟨l, rfl, v, rfl, h⟩
      split_ifs at h with hrest
      rw [hrest, ← Except.ok.inj h]
    · intro h
      obtain ⟨rfl, rfl, rfl⟩ : label = .string c.label ∧ value = .string c.value ∧ rest = [] := by
        simpa using h
      exact ⟨_, rfl, _, rfl, rfl⟩

theorem ofJson_eq_ok_iff {v : Json} {c : Choice} : ofJson v = .ok c ↔ IsChoice v c := by
  cases v with
  | object members =>
    refine ofMembers_eq_ok_iff.trans ⟨fun h => .object h.1 h.2, fun h => ?_⟩
    cases h with
    | object hlabel hvalue => exact ⟨hlabel, hvalue⟩
  | array items =>
    refine ofItems_eq_ok_iff.trans ⟨fun h => h ▸ .array, fun h => ?_⟩
    cases h with
    | array => rfl
  | _ =>
    exact ⟨fun h => (nomatch h), fun h => (nomatch h)⟩

end Choice

/-- Reading each item is reading all of them. -/
theorem mapM_eq_ok_iff {ε α β : Type} {f : α → Except ε β} {R : α → β → Prop}
    (h : ∀ a b, f a = .ok b ↔ R a b) {as : List α} {bs : List β} :
    as.mapM f = .ok bs ↔ List.Forall₂ R as bs := by
  induction as generalizing bs with
  | nil => simp [pure, Except.pure, eq_comm]
  | cons a as ih =>
    rw [List.mapM_cons, bind_eq_ok_iff]
    simp only [h, List.forall₂_cons_left_iff, bind_eq_ok_iff, ih]
    constructor
    · rintro ⟨b, hb, bs', hbs, heq⟩
      exact ⟨b, bs', hb, hbs, (Except.ok.inj heq).symm⟩
    · rintro ⟨b, bs', hb, hbs, rfl⟩
      exact ⟨b, hb, bs', hbs, rfl⟩

theorem optionsOfJson_eq_ok_iff {v : Json} {cs : List Choice} :
    Attributes.optionsOfJson v = .ok cs ↔ IsChoices v cs := by
  rw [Attributes.optionsOfJson, bind_eq_ok_iff]
  simp only [mapM_eq_ok_iff fun _ _ => Choice.ofJson_eq_ok_iff]
  cases v <;> simp [Json.asArray, Json.wrongType, IsChoices]

namespace Attributes

theorem set_of_not_mem {a : Attributes} {name : String} (h : name ∉ a.kind.attributeNames)
    (v : Json) : a.set name v = unknown a.kind name := by
  cases a <;> simp only [kind, Kind.attributeNames, List.mem_cons, List.not_mem_nil, or_false,
    not_or] at h <;>
    simp [set, setText, setNumber, setTextArea, setChoice, setToggle, setDate, kind, h]

theorem set_eq_ok_iff_of_mem {a a' : Attributes} {name : String} (h : name ∈ a.kind.attributeNames)
    {v : Json} : a.set name v = .ok a' ↔ a.GivenBy [(name, v)] a' := by
  cases a <;> simp only [kind, Kind.attributeNames, List.mem_cons, List.not_mem_nil, or_false] at h
  case text t =>
    rcases a' with ⟨⟨placeholder, initial⟩⟩ | _ <;> rcases h with rfl | rfl <;>
      simp [set, setText, GivenBy, bind_ok_eq_ok_iff, and_comm]
  case number n =>
    rcases a' with _ | ⟨⟨min, max, step, initial⟩⟩ | _ <;> rcases h with rfl | rfl | rfl | rfl <;>
      simp [set, setNumber, GivenBy, bind_ok_eq_ok_iff, and_comm, and_left_comm, and_assoc]
  case textarea t =>
    rcases a' with _ | _ | ⟨⟨rows, placeholder, initial⟩⟩ | _ <;> rcases h with rfl | rfl | rfl <;>
      simp [set, setTextArea, GivenBy, bind_ok_eq_ok_iff, and_comm, and_left_comm, and_assoc]
  case select c =>
    rcases a' with _ | _ | _ | ⟨⟨options, initial⟩⟩ | _ <;> rcases h with rfl | rfl <;>
      simp [set, setChoice, GivenBy, bind_ok_eq_ok_iff, optionsOfJson_eq_ok_iff, and_comm]
  case radio c =>
    rcases a' with _ | _ | _ | _ | ⟨⟨options, initial⟩⟩ | _ <;> rcases h with rfl | rfl <;>
      simp [set, setChoice, GivenBy, bind_ok_eq_ok_iff, optionsOfJson_eq_ok_iff, and_comm]
  case checkbox t =>
    rcases a' with _ | _ | _ | _ | _ | ⟨⟨checked⟩⟩ | _ <;> subst h <;>
      simp [set, setToggle, GivenBy, bind_ok_eq_ok_iff]
  case switch t =>
    rcases a' with _ | _ | _ | _ | _ | _ | ⟨⟨checked⟩⟩ | _ <;> subst h <;>
      simp [set, setToggle, GivenBy, bind_ok_eq_ok_iff]
  case date d =>
    rcases a' with _ | _ | _ | _ | _ | _ | _ | ⟨⟨min, max, initial⟩⟩ <;>
      rcases h with rfl | rfl | rfl <;>
      simp [set, setDate, GivenBy, bind_ok_eq_ok_iff, and_comm, and_left_comm, and_assoc]

theorem givenBy_nil_iff {a a' : Attributes} : a.GivenBy [] a' ↔ a = a' := by
  cases a <;> cases a' <;> simp only [GivenBy, valuesOf_nil, given_nil_iff, reduceCtorEq] <;>
    rename_i t t' <;> cases t <;> cases t' <;> simp

section Cons

variable {a a' : Attributes} {name : String} {v : Json} {members : List (String × Json)}

theorem given_valuesOf_cons_iff {α : Type} {is : Json → α → Prop} {other : String} {old new : α}
    (h : ∀ m ∈ members, m.1 ≠ name) :
    Given is old (valuesOf other ((name, v) :: members)) new ↔
      ∃ mid, Given is old (valuesOf other [(name, v)]) mid ∧
        Given is mid (valuesOf other members) new := by
  by_cases hname : name = other
  · subst hname
    simp [valuesOf_cons_self, valuesOf_eq_nil_iff.mpr h]
  · simp [valuesOf_cons_of_ne hname]

/-- A member in front of others of other names. -/
theorem givenBy_cons_iff (h : ∀ m ∈ members, m.1 ≠ name) :
    a.GivenBy ((name, v) :: members) a' ↔
      ∃ mid : Attributes, a.GivenBy [(name, v)] mid ∧ mid.GivenBy members a' := by
  constructor
  · cases a <;> cases a' <;> simp only [GivenBy, given_valuesOf_cons_iff h, false_imp_iff]
    case text.text | select.select | radio.radio =>
      rintro ⟨⟨p, hp, hp'⟩, i, hi, hi'⟩
      first
        | exact ⟨.text ⟨p, i⟩, ⟨hp, hi⟩, hp', hi'⟩
        | exact ⟨.select ⟨p, i⟩, ⟨hp, hi⟩, hp', hi'⟩
        | exact ⟨.radio ⟨p, i⟩, ⟨hp, hi⟩, hp', hi'⟩
    case number.number =>
      rintro ⟨⟨l, hl, hl'⟩, ⟨u, hu, hu'⟩, ⟨s, hs, hs'⟩, i, hi, hi'⟩
      exact ⟨.number ⟨l, u, s, i⟩, ⟨hl, hu, hs, hi⟩, hl', hu', hs', hi'⟩
    case textarea.textarea =>
      rintro ⟨⟨r, hr, hr'⟩, ⟨p, hp, hp'⟩, i, hi, hi'⟩
      exact ⟨.textarea ⟨r, p, i⟩, ⟨hr, hp, hi⟩, hr', hp', hi'⟩
    case checkbox.checkbox =>
      rintro ⟨c, hc, hc'⟩
      exact ⟨.checkbox ⟨c⟩, hc, hc'⟩
    case switch.switch =>
      rintro ⟨c, hc, hc'⟩
      exact ⟨.switch ⟨c⟩, hc, hc'⟩
    case date.date =>
      rintro ⟨⟨l, hl, hl'⟩, ⟨u, hu, hu'⟩, i, hi, hi'⟩
      exact ⟨.date ⟨l, u, i⟩, ⟨hl, hu, hi⟩, hl', hu', hi'⟩
  · rintro ⟨mid, hmid, hnew⟩
    cases a <;> cases mid <;> simp only [GivenBy] at hmid <;> cases a' <;>
      simp only [GivenBy] at hnew <;> simp only [GivenBy, given_valuesOf_cons_iff h]
    case text.text.text | select.select.select | radio.radio.radio =>
      exact ⟨⟨_, hmid.1, hnew.1⟩, _, hmid.2, hnew.2⟩
    case number.number.number =>
      exact ⟨⟨_, hmid.1, hnew.1⟩, ⟨_, hmid.2.1, hnew.2.1⟩, ⟨_, hmid.2.2.1, hnew.2.2.1⟩,
        _, hmid.2.2.2, hnew.2.2.2⟩
    case textarea.textarea.textarea | date.date.date =>
      exact ⟨⟨_, hmid.1, hnew.1⟩, ⟨_, hmid.2.1, hnew.2.1⟩, _, hmid.2.2, hnew.2.2⟩
    case checkbox.checkbox.checkbox | switch.switch.switch =>
      exact ⟨_, hmid, hnew⟩

/-- An attribute is given once. -/
theorem ne_of_givenBy_cons (hname : name ∈ a.kind.attributeNames)
    (h : a.GivenBy ((name, v) :: members) a') : ∀ m ∈ members, m.1 ≠ name := by
  have hslot : ∀ {α : Type} {is : Json → α → Prop} {old new : α},
      Given is old (valuesOf name ((name, v) :: members)) new → ∀ m ∈ members, m.1 ≠ name := by
    intro α is old new hgiven
    rw [valuesOf_cons_self] at hgiven
    refine valuesOf_eq_nil_iff.mp ?_
    generalize valuesOf name members = vs at hgiven
    cases hgiven
    rfl
  cases a <;> cases a' <;> simp only [GivenBy] at h <;>
    simp only [kind, Kind.attributeNames, List.mem_cons, List.not_mem_nil, or_false] at hname
  case text.text | select.select | radio.radio =>
    rcases hname with rfl | rfl
    · exact hslot h.1
    · exact hslot h.2
  case number.number =>
    rcases hname with rfl | rfl | rfl | rfl
    · exact hslot h.1
    · exact hslot h.2.1
    · exact hslot h.2.2.1
    · exact hslot h.2.2.2
  case textarea.textarea | date.date =>
    rcases hname with rfl | rfl | rfl
    · exact hslot h.1
    · exact hslot h.2.1
    · exact hslot h.2.2
  case checkbox.checkbox | switch.switch =>
    subst hname
    exact hslot h

theorem kind_eq_of_givenBy (h : a.GivenBy members a') : a'.kind = a.kind := by
  revert h
  cases a <;> cases a' <;> first | exact fun _ => rfl | exact False.elim

/-- Only the members that are attributes of the kind matter. -/
theorem givenBy_congr {members' : List (String × Json)}
    (h : ∀ n ∈ a.kind.attributeNames, valuesOf n members = valuesOf n members') :
    a.GivenBy members a' ↔ a.GivenBy members' a' := by
  cases a <;> cases a' <;> simp only [GivenBy] <;>
    simp only [kind, Kind.attributeNames, List.forall_mem_cons] at h <;> simp only [h]

theorem addMembers_eq_ok_iff {seen : List String} :
    a.addMembers seen members = .ok a' ↔
      (∀ m ∈ members, m.1 ∉ seen ∧ m.1 ∈ a.kind.attributeNames) ∧ a.GivenBy members a' := by
  induction members generalizing seen a with
  | nil => simp [addMembers, givenBy_nil_iff]
  | cons m members ih =>
    obtain ⟨name, v⟩ := m
    by_cases hseen : name ∈ seen
    · simp [addMembers, hseen]
    by_cases hname : name ∈ a.kind.attributeNames
    · rw [addMembers, if_neg hseen, bind_eq_ok_iff, List.forall_mem_cons]
      simp only [set_eq_ok_iff_of_mem hname, ih]
      constructor
      · rintro ⟨mid, hmid, hrest, hgiven⟩
        -- the name has been seen when the others are read, so none of them repeats it
        have hne : ∀ m ∈ members, m.1 ≠ name :=
          fun m hm he => (hrest m hm).1 (he ▸ List.mem_cons_self)
        refine ⟨⟨⟨hseen, hname⟩, fun m hm => ⟨fun h => ?_, ?_⟩⟩, ?_⟩
        · exact (hrest m hm).1 (List.mem_cons_of_mem name h)
        · exact kind_eq_of_givenBy hmid ▸ (hrest m hm).2
        · exact (givenBy_cons_iff hne).mpr ⟨mid, hmid, hgiven⟩
      · rintro ⟨⟨-, hrest⟩, hgiven⟩
        have hne := ne_of_givenBy_cons hname hgiven
        obtain ⟨mid, hmid, hgiven⟩ := (givenBy_cons_iff hne).mp hgiven
        refine ⟨mid, hmid, fun m hm => ⟨fun h => ?_, ?_⟩, hgiven⟩
        · rcases List.mem_cons.mp h with h | h
          · exact hne m hm h
          · exact (hrest m hm).1 h
        · exact (kind_eq_of_givenBy hmid).symm ▸ (hrest m hm).2
    · rw [addMembers, if_neg hseen, set_of_not_mem hname]
      exact ⟨fun h => (nomatch h),
        fun h => absurd (List.forall_mem_cons.mp h.1).1.2 hname⟩

end Cons

end Attributes

end FormBuilder
