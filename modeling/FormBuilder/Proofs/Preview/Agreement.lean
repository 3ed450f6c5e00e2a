import FormBuilder.Preview.View
import FormBuilder.Proofs.Source.Decoding
import Mathlib.Data.List.Forall2

/-!
The preview of a form shows what its source says.  Two lists of fields have the same
source if and only if their first previews look the same and they agree on required
fields and initial values: `generate_eq_iff_render`.  The literal of a value is the
link between both: it determines all that a control shows of the value.
-/

namespace FormBuilder

open Source

/-! ## Values -/

namespace Value

theorem value_ne_formatNumber {v : Value} (h : ∀ x, v ≠ number x) (x : Binary64) :
    value v ≠ formatNumber x := by
  have hdiffer : ∀ c ∈ value v, isNumberChar c = false → c ∉ "-NaInfity".toList →
      value v ≠ formatNumber x :=
    fun c hc hchar hword heq => not_mem_formatNumber hchar hword x (heq ▸ hc)
  cases v with
  | bool b =>
    cases b with
    | true => exact hdiffer 'r' (by decide) (by decide) (by decide)
    | false => exact hdiffer 'l' (by decide) (by decide) (by decide)
  | number y => exact absurd rfl (h y)
  | text s => exact hdiffer '"' List.mem_cons_self (by decide) (by decide)
  | absent => exact hdiffer 'u' (by decide) (by decide) (by decide)

theorem eq_of_value_eq {v w : Value} (hv : ∀ x, v ≠ number x) (hw : ∀ x, w ≠ number x)
    (h : value v = value w) : v = w := by
  have hhead := congrArg List.head? h
  rcases v with (_ | _) | x | s | _ <;> rcases w with (_ | _) | y | t | _
  case text.text => exact congrArg text (string_injective h)
  all_goals first
    | rfl
    | exact absurd rfl (hv _)
    | exact absurd rfl (hw _)
    | exact absurd (Option.some.inj hhead) (by decide)

/-- Values of one literal are the same but for numbers that are written alike. -/
theorem eq_or_number_of_value_eq {v w : Value} (h : value v = value w) :
    v = w ∨ ∃ x y, v = number x ∧ w = number y ∧ formatNumber x = formatNumber y := by
  by_cases hv : ∃ x, v = number x <;> by_cases hw : ∃ y, w = number y
  · obtain ⟨x, rfl⟩ := hv
    obtain ⟨y, rfl⟩ := hw
    exact .inr ⟨x, y, rfl, rfl, h⟩
  · obtain ⟨x, rfl⟩ := hv
    exact absurd h.symm (value_ne_formatNumber (fun y hy => hw ⟨y, hy⟩) x)
  · obtain ⟨y, rfl⟩ := hw
    exact absurd h (value_ne_formatNumber (fun x hx => hv ⟨x, hx⟩) y)
  · exact .inl (eq_of_value_eq (fun x hx => hv ⟨x, hx⟩) (fun y hy => hw ⟨y, hy⟩) h)

theorem display_eq_of_value_eq {v w : Value} (h : value v = value w) : v.display = w.display := by
  rcases eq_or_number_of_value_eq h with rfl | ⟨x, y, rfl, rfl, hxy⟩
  · rfl
  · exact congrArg String.ofList hxy

theorem isFalsy_eq_of_value_eq {v w : Value} (h : value v = value w) : v.isFalsy = w.isFalsy := by
  rcases eq_or_number_of_value_eq h with rfl | ⟨x, y, rfl, rfl, hxy⟩
  · rfl
  · have hzero : x.isZero = y.isZero := by
      rw [Bool.eq_iff_iff, ← formatNumber_eq_zero_iff, ← formatNumber_eq_zero_iff, hxy]
    have hnan : x.isNaN = y.isNaN := by
      rw [Bool.eq_iff_iff, ← formatNumber_eq_nan_iff, ← formatNumber_eq_nan_iff, hxy]
    rw [isFalsy, isFalsy, hzero, hnan]

theorem eq_text_iff_of_value_eq {v w : Value} (h : value v = value w) (s : String) :
    v = .text s ↔ w = .text s := by
  rcases eq_or_number_of_value_eq h with rfl | ⟨x, y, rfl, rfl, -⟩
  · rfl
  · exact iff_of_false Value.noConfusion Value.noConfusion

end Value

/-! ## Controls -/

/-- Controls that look the same.  Numbers are compared by how they are written. -/
def Control.ShowsSame : Control → Control → Prop
  | numberInput v min max step, numberInput w min' max' step' =>
    v = w ∧ min.map Value.formatNumber = min'.map Value.formatNumber ∧
      max.map Value.formatNumber = max'.map Value.formatNumber ∧
      Value.formatNumber step = Value.formatNumber step'
  | c, d => c = d

/-- Controls of fields that look the same, whatever the ids of the fields. -/
structure ControlView.ShowsSame (v w : ControlView) : Prop where
  kind : v.kind = w.kind
  name : v.name = w.name
  caption : v.caption = w.caption
  control : v.control.ShowsSame w.control
  errors : v.errors = w.errors

namespace Control

theorem choices_eq_of_value_eq {v w : Value} (h : value v = value w) (options : List Choice) :
    choices v options = choices w options := by
  have htext := Value.eq_text_iff_of_value_eq h
  simp only [choices, htext]

theorem eq_of_choices_eq {v w : Value} {cs ds : List Choice} (h : choices v cs = choices w ds) :
    cs = ds := by
  have hback : ∀ (v : Value) (cs : List Choice),
      (choices v cs).map (fun o => Choice.mk o.label o.value) = cs := by
    intro v cs
    rw [choices, List.map_map]
    exact List.map_id' cs
  rw [← hback v cs, ← hback w ds, h]

variable {f g : Field} {v w : Value}

/-- The literal of a value and the content of a field are all that its control
shows. -/
theorem showsSame_ofField (hvalue : value v = value w)
    (h : f.attributes.content = g.attributes.content) :
    (ofField f v).ShowsSame (ofField g w) := by
  have hdisplay := Value.display_eq_of_value_eq hvalue
  have hfalsy := Value.isFalsy_eq_of_value_eq hvalue
  have hkind := Attributes.kind_eq_of_content_eq h
  unfold ofField
  cases hf : f.attributes <;> cases hg : g.attributes <;> rw [hf, hg] at h hkind
  all_goals try contradiction
  case text.text =>
    have hplaceholder := ControlContent.text.inj h
    exact congrArg₂ textInput hdisplay hplaceholder
  case number.number =>
    exact ⟨hdisplay, ControlContent.number.inj h⟩
  case textarea.textarea t u =>
    obtain ⟨hrows, hplaceholder⟩ := ControlContent.textarea.inj h
    show textArea _ _ _ = textArea _ _ _
    rw [hdisplay, hrows, hplaceholder]
  case select.select c d =>
    have hoptions := ControlContent.select.inj h
    show select _ _ = select _ _
    rw [hdisplay, hoptions, choices_eq_of_value_eq hvalue]
  case radio.radio c d =>
    have hoptions := ControlContent.radio.inj h
    show radioGroup _ = radioGroup _
    rw [hoptions, choices_eq_of_value_eq hvalue]
  case checkbox.checkbox => exact congrArg (checkbox !·) hfalsy
  case switch.switch => exact congrArg (switch !·) hfalsy
  case date.date d e =>
    obtain ⟨hmin, hmax⟩ := ControlContent.date.inj h
    show dateInput _ _ _ = dateInput _ _ _
    rw [hdisplay, bound, bound, bound, bound, hmin, hmax]

theorem content_eq_of_showsSame (hkind : f.kind = g.kind)
    (h : (ofField f v).ShowsSame (ofField g w)) :
    f.attributes.content = g.attributes.content := by
  unfold Field.kind at hkind
  unfold ofField at h
  cases hf : f.attributes <;> cases hg : g.attributes <;> rw [hf, hg] at h hkind
  all_goals try contradiction
  case text.text =>
    have hplaceholder := (textInput.inj h).2
    exact congrArg ControlContent.text hplaceholder
  case number.number n m =>
    obtain ⟨-, hmin, hmax, hstep⟩ := h
    simp only [Attributes.content, hmin, hmax, hstep]
  case textarea.textarea =>
    obtain ⟨-, hrows, hplaceholder⟩ := textArea.inj h
    exact congrArg₂ ControlContent.textarea hrows hplaceholder
  case select.select =>
    have hoptions := eq_of_choices_eq (select.inj h).2
    exact congrArg ControlContent.select hoptions
  case radio.radio =>
    have hoptions := eq_of_choices_eq (radioGroup.inj h)
    exact congrArg ControlContent.radio hoptions
  case checkbox.checkbox => rfl
  case switch.switch => rfl
  case date.date =>
    obtain ⟨-, hmin, hmax⟩ := dateInput.inj h
    exact congrArg₂ ControlContent.date hmin hmax

end Control

/-! ## Forms -/

namespace PreviewForm

variable {fs gs : List Field}

theorem map_content_lastNamed? (name : String) (fields : List Field) :
    (lastNamed? name fields).map Field.content =
      (fields.map Field.content).reverse.find? (·.name = name) := by
  rw [← List.map_reverse, List.find?_map]
  rfl

/-- Fields of one name show values of one literal. -/
theorem value_current_eq (h : fs.map Field.content = gs.map Field.content) {f g : Field}
    (hname : f.name = g.name) :
    Source.value ((start fs).current f) = Source.value ((start gs).current g) := by
  have hlast : (lastNamed? f.name fs).map Field.content =
      (lastNamed? g.name gs).map Field.content := by
    rw [map_content_lastNamed?, map_content_lastNamed?, h, hname]
  show Source.value (((lastNamed? f.name fs).map Field.initialValue).getD .absent) =
    Source.value (((lastNamed? g.name gs).map Field.initialValue).getD .absent)
  cases hf : lastNamed? f.name fs with
  | none =>
    rw [hf, Option.map_none, eq_comm, Option.map_eq_none_iff] at hlast
    rw [hlast]
  | some f' =>
    rw [hf, Option.map_some, eq_comm, Option.map_eq_some_iff] at hlast
    obtain ⟨g', hg', hcontent⟩ := hlast
    rw [hg']
    exact congrArg Content.initial hcontent.symm

theorem showsSame_controlView (h : fs.map Field.content = gs.map Field.content) {f g : Field}
    (hfg : f.content = g.content) :
    ((start fs).controlView f).ShowsSame ((start gs).controlView g) := by
  obtain ⟨hname, hcaption, -, -, hcontrol⟩ := Content.mk.inj hfg
  exact {
    kind := Attributes.kind_eq_of_content_eq hcontrol
    name := hname
    caption := hcaption
    control := Control.showsSame_ofField (value_current_eq h hname) hcontrol
    errors := rfl }

theorem forall₂_showsSame (h : fs.map Field.content = gs.map Field.content) :
    List.Forall₂ ControlView.ShowsSame ((start fs).render fs).controls
      ((start gs).render gs).controls := by
  have hfields : List.Forall₂ (fun f g => f.content = g.content) fs gs := by
    rwa [← List.forall₂_eq_eq_eq, List.forall₂_map_left_iff, List.forall₂_map_right_iff] at h
  unfold render
  rw [List.forall₂_map_left_iff, List.forall₂_map_right_iff]
  exact hfields.imp fun f g hfg => showsSame_controlView h hfg

theorem content_eq_of_showsSame {form form' : PreviewForm} {f g : Field}
    (hrequired : f.required = g.required)
    (hinitial : Source.value f.initialValue = Source.value g.initialValue)
    (h : (form.controlView f).ShowsSame (form'.controlView g)) : f.content = g.content := by
  have hname : f.name = g.name := h.name
  have hcaption : f.caption = g.caption := h.caption
  have hcontrol := Control.content_eq_of_showsSame h.kind h.control
  unfold Field.content
  rw [hname, hcaption, hrequired, hinitial, hcontrol]

theorem map_content_eq_of_forall₂ {form form' : PreviewForm}
    (hrequired : fs.map Field.required = gs.map Field.required)
    (hinitial : fs.map (fun f => Source.value f.initialValue) =
      gs.map (fun g => Source.value g.initialValue))
    (h : List.Forall₂ ControlView.ShowsSame (fs.map form.controlView) (gs.map form'.controlView)) :
    fs.map Field.content = gs.map Field.content := by
  induction fs generalizing gs with
  | nil =>
    cases gs with
    | nil => rfl
    | cons g gs => exact absurd hrequired (by simp)
  | cons f fs ih =>
    cases gs with
    | nil => exact absurd hrequired (by simp)
    | cons g gs =>
      obtain ⟨hrequired, hrequireds⟩ := List.cons.inj hrequired
      obtain ⟨hinitial, hinitials⟩ := List.cons.inj hinitial
      obtain ⟨hview, hviews⟩ := List.forall₂_cons.mp h
      rw [List.map_cons, List.map_cons, content_eq_of_showsSame hrequired hinitial hview,
        ih hrequireds hinitials hviews]

end PreviewForm

/-- Two lists of fields have the same source if and only if they agree on required
fields and initial values and their first previews look the same. -/
theorem generate_eq_iff_render (fs gs : List Field) :
    generate fs = generate gs ↔
      fs.map Field.required = gs.map Field.required ∧
        fs.map (fun f => value f.initialValue) = gs.map (fun g => value g.initialValue) ∧
        List.Forall₂ ControlView.ShowsSame ((PreviewForm.start fs).render fs).controls
          ((PreviewForm.start gs).render gs).controls := by
  rw [generate_eq_iff]
  constructor
  · intro h
    have hrequired := congrArg (List.map Content.required) h
    have hinitial := congrArg (List.map Content.initial) h
    rw [List.map_map, List.map_map] at hrequired hinitial
    exact ⟨hrequired, hinitial, PreviewForm.forall₂_showsSame h⟩
  · rintro ⟨hrequired, hinitial, hviews⟩
    exact PreviewForm.map_content_eq_of_forall₂ hrequired hinitial hviews

end FormBuilder
