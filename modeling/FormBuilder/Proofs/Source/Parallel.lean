import FormBuilder.Proofs.Source.Scan
import Mathlib.Data.List.Forall2

/-!
Texts that differ within literals in double quotes only.  `Parallel` is kept by
everything that source is put together with, so it holds of two sources as soon as it
holds of the pieces in which they differ.
-/

namespace FormBuilder
namespace Source

open Text

/-! ## Two scans -/

/-- The scans of two texts move in the same way from open brackets `b` to `b'`, and the
texts are equal up to the contents of literals. -/
structure Parallel (b b' t u : List Char) : Prop where
  left : Scan.run ⟨.code, b⟩ t = some ⟨.code, b'⟩
  right : Scan.run ⟨.code, b⟩ u = some ⟨.code, b'⟩
  erase : eraseFrom .code t = eraseFrom .code u

/-- Parallel texts whose brackets are all closed. -/
abbrev Alike (t u : List Char) : Prop := Parallel [] [] t u

namespace Parallel

variable {b b' b'' t t' u u' : List Char}

theorem of_run (h : Scan.run ⟨.code, b⟩ t = some ⟨.code, b'⟩) : Parallel b b' t t := ⟨h, h, rfl⟩

theorem ofList {l : List Char} (h : Scan.run ⟨.code, b⟩ l = some ⟨.code, b'⟩) :
    Parallel b b' (String.ofList l).toList (String.ofList l).toList := by
  rw [String.toList_ofList]
  exact of_run h

theorem frame (h : Parallel b b' t u) (k : List Char) : Parallel (b ++ k) (b' ++ k) t u :=
  ⟨Scan.run_frame h.left k, Scan.run_frame h.right k, h.erase⟩

/-- Alike texts are parallel whatever brackets are open. -/
theorem of_alike (h : Alike t u) (b : List Char) : Parallel b b t u := h.frame b

theorem append (h : Parallel b b' t u) (h' : Parallel b' b'' t' u') :
    Parallel b b'' (t ++ t') (u ++ u') where
  left := by
    rw [Scan.run_append, h.left]
    exact h'.left
  right := by
    rw [Scan.run_append, h.right]
    exact h'.right
  erase := by
    rw [eraseFrom_append h.left, eraseFrom_append h.right, h.erase, h'.erase]

theorem nil_iff (h : Parallel b b' t u) : t = [] ↔ u = [] := by
  rw [← eraseFrom_code_eq_nil_iff, h.erase, eraseFrom_code_eq_nil_iff]

theorem spaces (b : List Char) (width : Nat) :
    Parallel b b (List.replicate width ' ') (List.replicate width ' ') := by
  apply of_run
  induction width with
  | zero => rfl
  | succ width ih =>
    rw [List.replicate_succ]
    exact ih

theorem pad (h : Parallel b b' t u) (width : Nat) : Parallel b b' (pad width t) (pad width u) := by
  by_cases ht : t = []
  · have hu : u = [] := h.nil_iff.mp ht
    subst ht hu
    exact h
  · have hu : u ≠ [] := fun hu => ht (h.nil_iff.mpr hu)
    rw [Text.pad, Text.pad, if_neg ht, if_neg hu]
    exact (spaces b width).append h

end Parallel

/-! ## Pieces of source -/

theorem alike_string (s s' : String) : Alike (string s) (string s') :=
  ⟨run_string s [], run_string s' [], by rw [eraseFrom_string, eraseFrom_string]⟩

/-- What a scan takes notice of in code. -/
def signals : List Char := ['"', '\x27', '\x60', '(', ')', '{', '}', '[', ']']

theorem step_of_not_mem_signals {c : Char} (h : c ∉ signals) (b : List Char) :
    Scan.step ⟨.code, b⟩ c = some ⟨.code, b⟩ := by
  simp only [signals, List.mem_cons, List.not_mem_nil, or_false, not_or] at h
  obtain ⟨hdouble, hsimple, htick, hround, hround', hcurly, hcurly', hsquare, hsquare'⟩ := h
  have hquote : isQuote c = false := by simp [isQuote, hdouble, hsimple, htick]
  have hopen : isOpening c = false := by simp [isOpening, hround, hcurly, hsquare]
  have hclose : opening? c = none := by
    unfold opening?
    split
    · exact absurd rfl hround'
    · exact absurd rfl hcurly'
    · exact absurd rfl hsquare'
    · rfl
  simp [Scan.step, brackets?, Mode.next, hquote, hopen, hclose]

theorem alike_plain {t : List Char} (h : ∀ c ∈ signals, c ∉ t) : Alike t t := by
  apply Parallel.of_run
  induction t with
  | nil => rfl
  | cons c t ih =>
    have hc : c ∉ signals := fun hc => h c hc List.mem_cons_self
    rw [Scan.run, step_of_not_mem_signals hc]
    exact ih fun d hd hmem => h d hd (List.mem_cons_of_mem c hmem)

theorem alike_formatNumber (x : Binary64) :
    Alike (Value.formatNumber x) (Value.formatNumber x) := by
  have hnumber : signals.all (!isNumberChar ·) = true := by decide
  have hword : signals.all (!"-NaInfity".toList.contains ·) = true := by decide
  refine alike_plain fun c hc => Value.not_mem_formatNumber ?_ ?_ x
  · simpa using List.all_eq_true.mp hnumber c hc
  · simpa using List.all_eq_true.mp hword c hc

theorem alike_toDigits (n : Nat) : Alike (Nat.toDigits 10 n) (Nat.toDigits 10 n) := by
  have hsignal : signals.all (!Char.isDigit ·) = true := by decide
  refine alike_plain fun c hc hmem => ?_
  have hdigit := Nat.isDigit_of_mem_toDigits (by decide) (by decide) hmem
  have hnot := List.all_eq_true.mp hsignal c hc
  rw [hdigit] at hnot
  exact Bool.noConfusion hnot

theorem Alike.braces {t u : List Char} (h : Alike t u) : Alike (braces t) (braces u) := by
  have hopen : Parallel [] ['{'] ['{'] ['{'] := .of_run rfl
  have hclose : Parallel ['{'] [] ['}'] ['}'] := .of_run rfl
  exact hopen.append ((h.frame ['{']).append hclose)

theorem alike_expression (s s' : String) : Alike (expression s) (expression s') :=
  (alike_string s s').braces

theorem Alike.codeAttribute {name : String} {t u : List Char}
    (hname : Alike name.toList name.toList) (h : Alike t u) :
    Alike (codeAttribute name t) (codeAttribute name u) := by
  have hequals : Alike ['='] ['='] := .of_run rfl
  exact hname.append (hequals.append h.braces)

theorem alike_openTag {name : String} {as bs : List (List Char)}
    (hname : Alike name.toList name.toList) (h : List.Forall₂ Alike as bs) :
    Alike (openTag name as) (openTag name bs) := by
  have hopen : Alike ['<'] ['<'] := .of_run rfl
  have hspace : Alike [' '] [' '] := .of_run rfl
  have hattributes : Alike (as.flatMap (' ' :: ·)) (bs.flatMap (' ' :: ·)) := by
    induction h with
    | nil => exact .of_run rfl
    | cons hab _ ih =>
      rw [List.flatMap_cons, List.flatMap_cons]
      exact (hspace.append hab).append ih
  exact hopen.append (hname.append hattributes)

theorem alike_emptyTag {name : String} {as bs : List (List Char)}
    (hname : Alike name.toList name.toList) (h : List.Forall₂ Alike as bs) :
    Alike (emptyTag name as) (emptyTag name bs) :=
  (alike_openTag hname h).append (.of_run (by decide))

/-! ## Lines -/

/-- Parallel lines one after another. -/
inductive ParallelLines : List Char → List Char → List (List Char) → List (List Char) → Prop where
  | nil {b} : ParallelLines b b [] []
  | cons {b b' b'' l m ls ms} : Parallel b b' l m → ParallelLines b' b'' ls ms →
      ParallelLines b b'' (l :: ls) (m :: ms)

namespace ParallelLines

variable {b b' b'' : List Char} {ls ls' ms ms' : List (List Char)}

theorem of_forall₂ (h : List.Forall₂ Alike ls ms) (b : List Char) : ParallelLines b b ls ms := by
  induction h with
  | nil => exact .nil
  | cons hlm _ ih => exact .cons (.of_alike hlm b) ih

theorem append (h : ParallelLines b b' ls ms) (h' : ParallelLines b' b'' ls' ms') :
    ParallelLines b b'' (ls ++ ls') (ms ++ ms') := by
  induction h with
  | nil => exact h'
  | cons hlm _ ih => exact .cons hlm (ih h')

theorem pad (h : ParallelLines b b' ls ms) (width : Nat) :
    ParallelLines b b' (ls.map (pad width)) (ms.map (pad width)) := by
  induction h with
  | nil => exact .nil
  | cons hlm _ ih => exact .cons (hlm.pad width) ih

theorem block (h : ParallelLines b b' ls ms) : ParallelLines b b' (block ls) (block ms) := by
  cases h with
  | nil => exact .cons (.of_run rfl) .nil
  | cons hlm hrest =>
    rw [Source.block, Source.block, if_neg (List.cons_ne_nil _ _), if_neg (List.cons_ne_nil _ _)]
    exact .cons hlm hrest

theorem join (h : ParallelLines b b' ls ms) : Parallel b b' (joinLines ls) (joinLines ms) := by
  have hbreak : ∀ b, Parallel b b ['\n'] ['\n'] := fun b => .of_run rfl
  induction h with
  | nil => exact .of_run rfl
  | cons hlm hrest ih =>
    cases hrest with
    | nil => simpa using hlm
    | cons hlm' hrest' =>
      rw [joinLines_cons_cons, joinLines_cons_cons]
      exact hlm.append ((hbreak _).append ih)

end ParallelLines

theorem Parallel.joinLines_append {b b' b'' : List Char} {ls ls' ms ms' : List (List Char)}
    (h : Parallel b b' (joinLines ls) (joinLines ls'))
    (h' : Parallel b' b'' (joinLines ms) (joinLines ms')) (hls : ls ≠ []) (hls' : ls' ≠ [])
    (hms : ms ≠ []) (hms' : ms' ≠ []) :
    Parallel b b'' (joinLines (ls ++ ms)) (joinLines (ls' ++ ms')) := by
  have hbreak : Parallel b' b' ['\n'] ['\n'] := .of_run rfl
  rw [Text.joinLines_append hls hms, Text.joinLines_append hls' hms']
  exact h.append (hbreak.append h')

end Source
end FormBuilder
