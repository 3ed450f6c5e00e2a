import FormBuilder.Proofs.Source.Layout

/-!
What the source of a control says.  The content of a field is all that its source
depends on, and the lines of a control determine their part of it:
`controlLines_eq_iff`.  An attribute is read up to the brace that closes it, and the
kind from the start of the first line.
-/

namespace FormBuilder

/-- What shows of the attributes of a field in its source. -/
inductive ControlContent where
  | text (placeholder : String)
  | number (min max : Option (List Char)) (step : List Char)
  | textarea (rows : UInt32) (placeholder : String)
  | select (options : List Choice)
  | radio (options : List Choice)
  | checkbox
  | switch
  | date (min max : Option String)

def Attributes.content : Attributes → ControlContent
  | text t => .text (t.placeholder.getD "")
  | number n =>
    .number (n.min.map Value.formatNumber) (n.max.map Value.formatNumber)
      (Value.formatNumber n.stepOrDefault)
  | textarea t => .textarea t.rowsOrDefault (t.placeholder.getD "")
  | select c => .select c.options
  | radio c => .radio c.options
  | checkbox _ => .checkbox
  | switch _ => .switch
  | date d => .date (d.min.filter (· ≠ "")) (d.max.filter (· ≠ ""))

structure Content where
  name : String
  caption : String
  required : Bool
  initial : List Char
  control : ControlContent

/-- What shows of a field in its source. -/
def Field.content (f : Field) : Content where
  name := f.name
  caption := f.caption
  required := f.required
  initial := Source.value f.initialValue
  control := f.attributes.content

theorem Attributes.kind_eq_of_content_eq {a b : Attributes} (h : a.content = b.content) :
    a.kind = b.kind := by
  cases a <;> cases b <;> first | rfl | exact absurd h (by simp [content])

namespace Source

open Text

/-! ## Reading texts -/

/-- Two lists are taken apart at an element that occurs in neither front. -/
theorem append_cons_inj {α : Type} {c : α} {s t r r' : List α} (hs : c ∉ s) (ht : c ∉ t)
    (h : s ++ c :: r = t ++ c :: r') : s = t ∧ r = r' := by
  rcases List.append_eq_append_iff.mp h with ⟨u, hu, hr⟩ | ⟨u, hu, hr⟩
  · cases u with
    | nil => exact ⟨by rw [hu, List.append_nil], (List.cons.inj hr).2⟩
    | cons d u =>
      rw [List.cons_append, List.cons.injEq] at hr
      exact absurd (hu ▸ hr.1 ▸ List.mem_append_right s List.mem_cons_self) ht
  · cases u with
    | nil => exact ⟨by rw [hu, List.append_nil], (List.cons.inj hr).2.symm⟩
    | cons d u =>
      rw [List.cons_append, List.cons.injEq] at hr
      exact absurd (hu ▸ hr.1 ▸ List.mem_append_right t List.mem_cons_self) hs

theorem string_append_inj {s t : String} {r r' : List Char}
    (h : string s ++ r = string t ++ r') : s = t ∧ r = r' := by
  obtain ⟨hs, hr⟩ := Quoted.encode_append_inj h
  exact ⟨String.toList_inj.mp hs, hr⟩

theorem string_injective : Function.Injective string :=
  fun _ _ h => String.toList_inj.mp (Quoted.encode_injective h)

/-- Two codes that are told apart by what stands up to the brace that closes them. -/
def Delimited (s t : List Char) : Prop :=
  ∀ r r', s ++ '\x7d' :: r = t ++ '\x7d' :: r' → s = t ∧ r = r'

theorem delimited_of_not_mem {s t : List Char} (hs : '\x7d' ∉ s) (ht : '\x7d' ∉ t) :
    Delimited s t := fun _ _ h => append_cons_inj hs ht h

theorem delimited_formatNumber (x y : Binary64) :
    Delimited (Value.formatNumber x) (Value.formatNumber y) :=
  delimited_of_not_mem (Value.not_mem_formatNumber (by decide) (by decide) x)
    (Value.not_mem_formatNumber (by decide) (by decide) y)

theorem delimited_toDigits (n m : Nat) : Delimited (Nat.toDigits 10 n) (Nat.toDigits 10 m) := by
  have hbrace : ∀ n, '\x7d' ∉ Nat.toDigits 10 n := by
    intro n h
    exact absurd (Nat.isDigit_of_mem_toDigits (by decide) (by decide) h) (by decide)
  exact delimited_of_not_mem (hbrace n) (hbrace m)

theorem toDigits_inj {n m : Nat} (h : Nat.toDigits 10 n = Nat.toDigits 10 m) : n = m := by
  have hvalue := congrArg (Nat.ofDigitChars 10 · 0) h
  simpa using hvalue

theorem delimited_string (s t : String) : Delimited (string s) (string t) := by
  intro r r' h
  obtain ⟨rfl, hr⟩ := string_append_inj h
  exact ⟨rfl, (List.cons.inj hr).2⟩

theorem delimited_of_mem_map {α : Type} {code : α → List Char}
    (h : ∀ a b, Delimited (code a) (code b)) (x y : Option α) :
    ∀ u ∈ x.map code, ∀ v ∈ y.map code, Delimited u v := by
  simp only [Option.mem_def, Option.map_eq_some_iff]
  rintro u ⟨a, -, rfl⟩ v ⟨b, -, rfl⟩
  exact h a b

theorem Delimited.append {s t : List Char} (h : Delimited s t) (front : List Char) :
    Delimited (front ++ s) (front ++ t) := by
  intro r r' hr
  rw [List.append_assoc, List.append_assoc] at hr
  obtain ⟨hst, hrest⟩ := h r r' (List.append_cancel_left hr)
  exact ⟨by rw [hst], hrest⟩

theorem braces_append_inj {s t r r' : List Char} (hst : Delimited s t)
    (h : braces s ++ r = braces t ++ r') : s = t ∧ r = r' := by
  simp only [braces, List.cons_append, List.append_assoc, List.nil_append, List.cons.injEq,
    true_and] at h
  exact hst r r' h

theorem expression_append_inj {s t : String} {r r' : List Char}
    (h : expression s ++ r = expression t ++ r') : s = t ∧ r = r' := by
  obtain ⟨hst, hr⟩ := braces_append_inj (delimited_string s t) h
  exact ⟨string_injective hst, hr⟩

theorem expression_injective : Function.Injective expression :=
  fun _ _ h => (expression_append_inj (congrArg (· ++ []) h)).1

theorem codeAttribute_append_inj {name : String} {s t r r' : List Char} (hst : Delimited s t)
    (h : codeAttribute name s ++ r = codeAttribute name t ++ r') : s = t ∧ r = r' := by
  unfold codeAttribute at h
  rw [List.append_assoc, List.append_assoc] at h
  exact braces_append_inj hst (List.cons.inj (List.append_cancel_left h)).2

theorem stringAttribute_append_inj {name s t : String} {r r' : List Char}
    (h : codeAttribute name (string s) ++ r = codeAttribute name (string t) ++ r') :
    s = t ∧ r = r' := by
  obtain ⟨hst, hr⟩ := codeAttribute_append_inj (delimited_string s t) h
  exact ⟨string_injective hst, hr⟩

/-! ## Reading attributes -/

/-- Attributes, each after a blank. -/
def spaced (attributes : List (List Char)) : List Char := attributes.flatMap (' ' :: ·)

theorem spaced_append (as bs : List (List Char)) : spaced (as ++ bs) = spaced as ++ spaced bs :=
  List.flatMap_append

theorem spaced_cons (a : List Char) (as : List (List Char)) :
    spaced (a :: as) = ' ' :: (a ++ spaced as) := List.flatMap_cons

theorem emptyTag_eq (name : String) (as : List (List Char)) :
    emptyTag name as = '<' :: (name.toList ++ (spaced as ++ " />".toList)) := by
  rw [← List.append_assoc]
  rfl

/-- Tags that start with the same attributes. -/
theorem emptyTag_append_inj {name : String} (fixed : List (List Char)) {as bs : List (List Char)}
    {r r' : List Char} (h : emptyTag name (fixed ++ as) ++ r = emptyTag name (fixed ++ bs) ++ r') :
    spaced as ++ (" />".toList ++ r) = spaced bs ++ (" />".toList ++ r') := by
  simp only [emptyTag_eq, spaced_append, List.cons_append, List.append_assoc] at h
  exact List.append_cancel_left (List.append_cancel_left (List.cons.inj h).2)

theorem emptyTag_inj {name : String} (fixed : List (List Char)) {as bs : List (List Char)}
    (h : emptyTag name (fixed ++ as) = emptyTag name (fixed ++ bs)) : spaced as = spaced bs :=
  List.append_cancel_right (emptyTag_append_inj fixed (congrArg (· ++ []) h))

theorem spaced_optional_none (name : String) : spaced (optional name none) = [] := rfl

theorem spaced_optional_some (name : String) (code : List Char) :
    spaced (optional name (some code)) = (' ' :: name.toList) ++ '=' :: braces code := by
  simp [optional, spaced, codeAttribute]

/-- An attribute is left out on both sides or on none, if no other attribute starts
as it does. -/
theorem optional_append_inj {name : String} {s t : Option (List Char)} {r r' : List Char}
    (hst : ∀ u ∈ s, ∀ v ∈ t, Delimited u v) (hr : ¬ (' ' :: name.toList) <+: r)
    (hr' : ¬ (' ' :: name.toList) <+: r')
    (h : spaced (optional name s) ++ r = spaced (optional name t) ++ r') : s = t ∧ r = r' := by
  have hprefix : ∀ code r, (' ' :: name.toList) <+: spaced (optional name (some code)) ++ r := by
    intro code r
    rw [spaced_optional_some, List.append_assoc]
    exact List.prefix_append _ _
  cases s with
  | none =>
    cases t with
    | none => exact ⟨rfl, h⟩
    | some v =>
      rw [spaced_optional_none, List.nil_append] at h
      exact absurd (h ▸ hprefix v r') hr
  | some u =>
    cases t with
    | none =>
      rw [spaced_optional_none, List.nil_append] at h
      exact absurd (h ▸ hprefix u r) hr'
    | some v =>
      rw [spaced_optional_some, spaced_optional_some, List.append_assoc, List.append_assoc] at h
      obtain ⟨rfl, hrest⟩ := braces_append_inj (hst u rfl v rfl)
        (List.cons.inj (List.append_cancel_left h)).2
      exact ⟨rfl, hrest⟩

/-- A lower and an upper bound, and one more attribute. -/
theorem bounds_append_inj {lower lower' upper upper' : Option (List Char)} {r r' : List Char}
    (hlower : ∀ u ∈ lower, ∀ v ∈ lower', Delimited u v)
    (hupper : ∀ u ∈ upper, ∀ v ∈ upper', Delimited u v)
    (hr : ¬ " m".toList <+: r) (hr' : ¬ " m".toList <+: r')
    (h : spaced (optional "min" lower) ++ (spaced (optional "max" upper) ++ r) =
      spaced (optional "min" lower') ++ (spaced (optional "max" upper') ++ r')) :
    lower = lower' ∧ upper = upper' ∧ r = r' := by
  have hmin : " m".toList <+: ' ' :: "min".toList := by decide
  have hmax : " m".toList <+: ' ' :: "max".toList := by decide
  have hdiffer : ∀ (upper : Option (List Char)) {r : List Char}, ¬ " m".toList <+: r →
      ¬ (' ' :: "min".toList) <+: spaced (optional "max" upper) ++ r := by
    intro upper r hr hp
    cases upper with
    | none => exact hr (hmin.trans hp)
    | some code =>
      rw [spaced_optional_some, List.append_assoc] at hp
      exact absurd (List.prefix_of_prefix_length_le hp (List.prefix_append _ _) (by decide))
        (by decide)
  obtain ⟨hlow, hrest⟩ := optional_append_inj hlower (hdiffer upper hr) (hdiffer upper' hr') h
  obtain ⟨hup, hend⟩ := optional_append_inj hupper (fun hp => hr (hmax.trans hp))
    (fun hp => hr' (hmax.trans hp)) hrest
  exact ⟨hlow, hup, hend⟩

/-! ## Reading controls -/

/-- How the control of a kind starts. -/
def opening : Kind → List Char
  | .text => "<input type=\"t".toList
  | .number => "<input type=\"n".toList
  | .textarea => "<t".toList
  | .select => "<s".toList
  | .radio => "<d".toList
  | .checkbox => "<input type=\"checkbox\" c".toList
  | .switch => "<input type=\"checkbox\" r".toList
  | .date => "<input type=\"d".toList

theorem kind_eq_of_prefix_opening : ∀ k k' : Kind, opening k <+: opening k' → k = k' := by
  intro k k'
  cases k <;> cases k' <;> decide

theorem exists_opening_append (f : Field) : ∃ l ls, controlLines f = l :: ls ∧ opening f.kind <+: l := by
  unfold controlLines Field.kind
  cases f.attributes with
  | text t => exact ⟨_, _, rfl, _, rfl⟩
  | number n => exact ⟨_, _, rfl, _, rfl⟩
  | textarea t => exact ⟨_, _, rfl, _, rfl⟩
  | select c => exact ⟨_, _, rfl, _, rfl⟩
  | radio c => exact ⟨_, _, rfl, _, rfl⟩
  | checkbox t => exact ⟨_, _, rfl, _, rfl⟩
  | switch t => exact ⟨_, _, rfl, _, rfl⟩
  | date d => exact ⟨_, _, rfl, _, rfl⟩

theorem kind_eq_of_controlLines_eq {f g : Field} (h : controlLines f = controlLines g) :
    f.kind = g.kind := by
  obtain ⟨l, ls, hf, hl⟩ := exists_opening_append f
  obtain ⟨m, ms, hg, hm⟩ := exists_opening_append g
  have hlm : l = m := by
    rw [hf, hg] at h
    exact (List.cons.inj h).1
  subst hlm
  rcases List.prefix_or_prefix_of_prefix hl hm with hp | hp
  · exact kind_eq_of_prefix_opening _ _ hp
  · exact (kind_eq_of_prefix_opening _ _ hp).symm

theorem placeholder_inj {p q : Option String}
    (h : spaced [placeholder p] = spaced [placeholder q]) : p.getD "" = q.getD "" := by
  rw [spaced_cons, spaced_cons] at h
  exact (stringAttribute_append_inj (List.cons.inj h).2).1

theorem not_prefix_step (code : List Char) :
    ¬ " m".toList <+: spaced [codeAttribute "step" code] := by
  rintro ⟨rest, hrest⟩
  exact absurd (List.cons.inj (List.cons.inj hrest).2).1 (by decide)

theorem optionLine_injective : Function.Injective optionLine := by
  intro c d h
  unfold optionLine at h
  rw [List.append_assoc, List.append_assoc] at h
  obtain ⟨hvalue, hrest⟩ := stringAttribute_append_inj (List.append_cancel_left h)
  obtain ⟨hlabel, -⟩ := expression_append_inj (List.cons.inj hrest).2
  exact congrArg₂ Choice.mk hlabel hvalue

theorem radioLine_eq (name : String) (c : Choice) :
    radioLine name c = "  <label>".toList ++ (emptyTag "input"
      (["type=\"radio\"".toList, codeAttribute "name" (string name)] ++
        (codeAttribute "checked" ("field.state.value === ".toList ++ string c.value) ::
          [codeAttribute "onChange"
            ("() => field.handleChange(".toList ++ string c.value ++ [')'])])) ++
      ' ' :: (expression c.label ++ "</label>".toList)) := List.append_assoc _ _ _

theorem radioLine_injective (name : String) : Function.Injective (radioLine name) := by
  intro c d h
  rw [radioLine_eq, radioLine_eq] at h
  have htag := List.append_cancel_left h
  have hvalue : c.value = d.value := by
    have hattributes := emptyTag_append_inj _ htag
    simp only [spaced_cons, List.cons_append, List.append_assoc] at hattributes
    have hcode : Delimited ("field.state.value === ".toList ++ string c.value)
      ("field.state.value === ".toList ++ string d.value) := (delimited_string _ _).append _
    obtain ⟨hchecked, -⟩ := codeAttribute_append_inj hcode (List.cons.inj hattributes).2
    exact string_injective (List.append_cancel_left hchecked)
  rw [hvalue] at htag
  obtain ⟨hlabel, -⟩ := expression_append_inj (List.cons.inj (List.append_cancel_left htag)).2
  exact congrArg₂ Choice.mk hlabel hvalue

/-- Options between two fixed lines. -/
theorem frame_map_injective {line : Choice → List Char} (hline : Function.Injective line)
    {first last : List Char} {cs ds : List Choice}
    (h : first :: (cs.map line ++ [last]) = first :: (ds.map line ++ [last])) : cs = ds :=
  List.map_injective_iff.mpr hline (List.append_cancel_right (List.cons.inj h).2)

variable {f g : Field}

theorem content_eq_of_controlLines_eq (hname : f.name = g.name)
    (h : controlLines f = controlLines g) : f.attributes.content = g.attributes.content := by
  have hkind : f.attributes.kind = g.attributes.kind := kind_eq_of_controlLines_eq h
  cases hf : f.attributes <;> cases hg : g.attributes <;> rw [hf, hg] at hkind
  all_goals try contradiction
  case text.text t u =>
    rw [controlLines_text hf, controlLines_text hg] at h
    have hplaceholder := emptyTag_inj _ (List.cons.inj h).1
    exact congrArg ControlContent.text (placeholder_inj hplaceholder)
  case number.number n m =>
    rw [controlLines_number hf, controlLines_number hg] at h
    have hattributes := emptyTag_inj _ (List.cons.inj h).1
    simp only [spaced_append] at hattributes
    have hnumber := delimited_of_mem_map delimited_formatNumber
    obtain ⟨hmin, hmax, hrest⟩ := bounds_append_inj (hnumber _ _) (hnumber _ _)
      (not_prefix_step _) (not_prefix_step _) hattributes
    rw [spaced_cons, spaced_cons] at hrest
    have hstep := (codeAttribute_append_inj (delimited_formatNumber _ _) (List.cons.inj hrest).2).1
    simp only [Attributes.content, hmin, hmax, hstep]
  case textarea.textarea t u =>
    rw [controlLines_textarea hf, controlLines_textarea hg] at h
    have hattributes := emptyTag_inj _ (List.cons.inj h).1
    rw [spaced_cons, spaced_cons, spaced_append, spaced_append] at hattributes
    obtain ⟨hrows, hrest⟩ := codeAttribute_append_inj (delimited_toDigits _ _)
      (List.cons.inj hattributes).2
    have hrows := UInt32.toNat_inj.mp (toDigits_inj hrows)
    have hplaceholder := placeholder_inj (List.append_cancel_left hrest)
    rw [Attributes.content, Attributes.content, hrows, hplaceholder]
  case select.select c d =>
    simp only [controlLines, hf, hg] at h
    exact congrArg ControlContent.select (frame_map_injective optionLine_injective h)
  case radio.radio c d =>
    simp only [controlLines, hf, hg, hname] at h
    exact congrArg ControlContent.radio (frame_map_injective (radioLine_injective g.name) h)
  case checkbox.checkbox => rfl
  case switch.switch => rfl
  case date.date d e =>
    rw [controlLines_date hf, controlLines_date hg] at h
    have hattributes := emptyTag_inj _ (List.cons.inj h).1
    simp only [spaced_append] at hattributes
    have hdate := delimited_of_mem_map delimited_string
    obtain ⟨hmin, hmax, -⟩ := bounds_append_inj (hdate _ _) (hdate _ _)
      (by decide) (by decide) hattributes
    exact congrArg₂ ControlContent.date (Option.map_injective string_injective hmin)
      (Option.map_injective string_injective hmax)

theorem controlLines_eq_of_content_eq (hname : f.name = g.name)
    (h : f.attributes.content = g.attributes.content) : controlLines f = controlLines g := by
  have hkind := Attributes.kind_eq_of_content_eq h
  cases hf : f.attributes <;> cases hg : g.attributes <;> rw [hf, hg] at h hkind
  all_goals try contradiction
  case text.text t u =>
    have hplaceholder := ControlContent.text.inj h
    rw [controlLines_text hf, controlLines_text hg, placeholder, placeholder, hplaceholder]
  case number.number n m =>
    obtain ⟨hmin, hmax, hstep⟩ := ControlContent.number.inj h
    rw [controlLines_number hf, controlLines_number hg, hmin, hmax, hstep]
  case textarea.textarea t u =>
    obtain ⟨hrows, hplaceholder⟩ := ControlContent.textarea.inj h
    rw [controlLines_textarea hf, controlLines_textarea hg, placeholder, placeholder, hrows,
      hplaceholder]
  case select.select c d =>
    have hoptions := ControlContent.select.inj h
    simp only [controlLines, hf, hg, selectLines, hoptions]
  case radio.radio c d =>
    have hoptions := ControlContent.radio.inj h
    simp only [controlLines, hf, hg, radioLines, hname, hoptions]
  case checkbox.checkbox => rw [controlLines, controlLines, hf, hg]
  case switch.switch => rw [controlLines, controlLines, hf, hg]
  case date.date d e =>
    obtain ⟨hmin, hmax⟩ := ControlContent.date.inj h
    rw [controlLines_date hf, controlLines_date hg, hmin, hmax]

/-- Between fields of one name, the lines of a control and its content determine each
other. -/
theorem controlLines_eq_iff (hname : f.name = g.name) :
    controlLines f = controlLines g ↔ f.attributes.content = g.attributes.content :=
  ⟨content_eq_of_controlLines_eq hname, controlLines_eq_of_content_eq hname⟩

end Source
end FormBuilder
