import FormBuilder.Proofs.Source.Content

/-!
The source of a form read back.  Entries end where the line `    },` stands and
fragments at empty lines, and neither occurs inside of them.  So two lists of fields
have the same source if and only if they have the same contents: `generate_eq_iff`.
-/

namespace FormBuilder
namespace Source

open Text

/-! ## Fields -/

variable {f g : Field}

theorem validators_ne_nil_iff : validators f ≠ [] ↔ f.required = true := by
  unfold validators Field.rule?
  cases f.required with
  | false => exact iff_of_false (fun hne => hne rfl) Bool.noConfusion
  | true =>
    refine iff_of_true (List.append_ne_nil_of_left_ne_nil ?_ _) rfl
    apply List.append_ne_nil_of_left_ne_nil
    rw [String.toList_ofList]
    exact List.cons_ne_nil _ _

theorem validators_eq_iff : validators f = validators g ↔ f.required = g.required := by
  constructor
  · intro h
    rw [Bool.eq_iff_iff, ← validators_ne_nil_iff, ← validators_ne_nil_iff, h]
  · intro h
    rw [validators, validators, Field.rule?, Field.rule?, h]

theorem openField_eq_iff :
    openField f = openField g ↔ f.name = g.name ∧ f.required = g.required := by
  constructor
  · intro h
    unfold openField at h
    have hfront := List.append_cancel_right h
    rw [List.append_assoc, List.append_assoc] at hfront
    obtain ⟨hname, hvalidators⟩ := stringAttribute_append_inj (List.append_cancel_left hfront)
    exact ⟨hname, validators_eq_iff.mp hvalidators⟩
  · rintro ⟨hname, hrequired⟩
    unfold openField
    rw [hname, validators_eq_iff.mpr hrequired]

theorem labelLine_eq_iff : labelLine f = labelLine g ↔ f.caption = g.caption := by
  constructor
  · intro h
    unfold labelLine at h
    have hcaption := List.append_cancel_left (List.append_cancel_right h)
    exact expression_injective hcaption
  · intro h
    unfold labelLine
    rw [h]

theorem entry_eq_iff :
    entry f = entry g ↔ f.name = g.name ∧ value f.initialValue = value g.initialValue := by
  constructor
  · intro h
    unfold entry at h
    obtain ⟨hname, hrest⟩ := string_append_inj h
    exact ⟨hname, List.append_cancel_right (List.cons.inj (List.cons.inj hrest).2).2⟩
  · rintro ⟨hname, hvalue⟩
    rw [entry, entry, hname, hvalue]

theorem fragmentLines_eq_iff :
    fragmentLines f = fragmentLines g ↔
      openField f = openField g ∧ labelLine f = labelLine g ∧ controlLines f = controlLines g := by
  constructor
  · intro h
    have hlength : (fragmentTop f).length = (fragmentTop g).length := by
      simp only [fragmentTop, List.length_cons]
    obtain ⟨htop, hrest⟩ := List.append_inj h hlength
    have hcontrol := List.append_cancel_right hrest
    refine ⟨(List.cons.inj htop).1, ?_, ?_⟩
    · exact (List.cons.inj (List.cons.inj (List.cons.inj (List.cons.inj htop).2).2).2).1
    · exact List.map_injective_iff.mpr (fun _ _ => pad_injective) hcontrol
  · rintro ⟨hopen, hlabel, hcontrol⟩
    rw [fragmentLines, fragmentLines, fragmentTop, fragmentTop, hopen, hlabel, hcontrol]

theorem content_eq_iff :
    f.content = g.content ↔ entry f = entry g ∧ fragmentLines f = fragmentLines g := by
  rw [entry_eq_iff, fragmentLines_eq_iff, openField_eq_iff, labelLine_eq_iff]
  constructor
  · intro h
    obtain ⟨hname, hcaption, hrequired, hinitial, hcontrol⟩ := Content.mk.inj h
    have hlines := (controlLines_eq_iff hname).mpr hcontrol
    exact ⟨⟨hname, hinitial⟩, ⟨hname, hrequired⟩, hcaption, hlines⟩
  · rintro ⟨⟨hname, hinitial⟩, ⟨-, hrequired⟩, hcaption, hlines⟩
    have hcontrol := (controlLines_eq_iff hname).mp hlines
    unfold Field.content
    rw [hname, hcaption, hrequired, hinitial, hcontrol]

/-! ## Forms -/

variable {fs gs : List Field}

theorem map_content_eq_iff :
    fs.map Field.content = gs.map Field.content ↔
      fs.map entry = gs.map entry ∧ fs.map fragmentLines = gs.map fragmentLines := by
  induction fs generalizing gs with
  | nil => cases gs <;> simp
  | cons f fs ih =>
    cases gs with
    | nil => simp
    | cons g gs =>
      simp only [List.map_cons, List.cons.injEq, ih, content_eq_iff]
      exact and_and_and_comm

theorem block_injective {ls ms : List (List Char)} (hl : ls.getLast? ≠ some [])
    (hm : ms.getLast? ≠ some []) (h : block ls = block ms) : ls = ms := by
  unfold block at h
  split_ifs at h with hls hms hms
  · rw [hls, hms]
  · exact absurd (h ▸ rfl) hm
  · exact absurd (h ▸ rfl) hl
  · exact h

/-- Padded lines of a part determine the part. -/
theorem block_pad_injective {width : Nat} {ls ms : List (List Char)} (hl : ls.getLast? ≠ some [])
    (hm : ms.getLast? ≠ some []) (h : block (ls.map (pad width)) = block (ms.map (pad width))) :
    ls = ms :=
  List.map_injective_iff.mpr (fun _ _ => pad_injective)
    (block_injective (getLast?_map_pad hl) (getLast?_map_pad hm) h)

theorem entryBlock_eq_iff : entryBlock fs = entryBlock gs ↔ fs.map entry = gs.map entry := by
  constructor
  · exact block_pad_injective (getLast?_entries fs) (getLast?_entries gs)
  · intro h
    rw [entryBlock, entryBlock, h]

/-- Lines of fragments are told apart by the empty lines between them. -/
theorem fieldLines_eq_iff :
    fieldLines fs = fieldLines gs ↔ fs.map fragmentLines = gs.map fragmentLines := by
  have hsplit : ∀ f rest, (fieldLines (f :: rest)).splitOn [] = (f :: rest).map fragmentLines := by
    intro f rest
    refine List.splitOn_intercalate [] ?_ (List.cons_ne_nil _ _)
    exact List.forall_mem_map.mpr fun f _ h => (isMarkup_of_mem_fragmentLines h).ne_nil rfl
  constructor
  · intro h
    cases fs with
    | nil =>
      cases gs with
      | nil => rfl
      | cons g gs => exact absurd h.symm (fieldLines_ne_nil g gs)
    | cons f fs =>
      cases gs with
      | nil => exact absurd h (fieldLines_ne_nil f fs)
      | cons g gs => rw [← hsplit, ← hsplit, h]
  · intro h
    rw [fieldLines, fieldLines, h]

theorem fieldBlock_eq_iff :
    fieldBlock fs = fieldBlock gs ↔ fs.map fragmentLines = gs.map fragmentLines := by
  rw [← fieldLines_eq_iff]
  constructor
  · exact block_pad_injective (getLast?_fieldLines fs) (getLast?_fieldLines gs)
  · intro h
    rw [fieldBlock, fieldBlock, h]

/-- No entry looks like the line after all of them. -/
theorem not_mem_entryBlock (fields : List Field) : "    \x7d,".toList ∉ entryBlock fields := by
  unfold entryBlock block
  split_ifs
  · decide
  · intro h
    obtain ⟨l, -, hl⟩ := List.mem_map.mp h
    unfold pad at hl
    split_ifs at hl
    · exact absurd hl (by decide)
    have hfifth : some ' ' = some '\x7d' := congrArg (fun l => l[4]?) hl
    exact absurd hfifth (by decide)

theorem formLines_eq_iff :
    formLines fs = formLines gs ↔
      entryBlock fs = entryBlock gs ∧ fieldBlock fs = fieldBlock gs := by
  constructor
  · intro h
    obtain ⟨hentries, hrest⟩ := append_cons_inj (not_mem_entryBlock fs) (not_mem_entryBlock gs)
      (List.append_cancel_left h)
    exact ⟨hentries, List.append_cancel_right (List.append_cancel_left hrest)⟩
  · rintro ⟨hentries, hfields⟩
    rw [formLines, formLines, hentries, hfields]

theorem form_eq_iff : form fs = form gs ↔ formLines fs = formLines gs := by
  rw [form_eq, form_eq]
  have hne : ∀ fields, formLines fields ≠ [] := fun _ =>
    List.append_ne_nil_of_left_ne_nil (by decide) _
  constructor
  · exact joinLines_injective (hne fs) (hne gs) (fun _ => isLine_of_mem_formLines)
      (fun _ => isLine_of_mem_formLines)
  · exact congrArg joinLines

/-- The source of a form is all of the contents of its fields, and nothing else. -/
theorem generate_eq_iff :
    generate fs = generate gs ↔ fs.map Field.content = gs.map Field.content := by
  rw [generate, generate, String.ofList_inj, form_eq_iff, formLines_eq_iff,
    entryBlock_eq_iff, fieldBlock_eq_iff, map_content_eq_iff]

end Source
end FormBuilder
