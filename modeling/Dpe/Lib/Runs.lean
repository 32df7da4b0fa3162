import Mathlib.Logic.Basic

/-! # Runs of a labelled transition system

    A run is a sequence of labelled steps.  What every allowed step
    preserves holds at the end of every run of allowed steps; a quantity
    that every step updates is, at the end, the fold of the updates. -/

namespace Runs

universe u v w

variable {S : Type u} {L : Type v} {step : S → L → S → Prop} {s t r : S}
  {ls ls' : List L} {l : L}

/-- `ls` are the labels of a sequence of steps from the first state to
    the second. -/
inductive Run (step : S → L → S → Prop) : S → List L → S → Prop where
  | nil (s : S) : Run step s [] s
  | cons {s t r : S} {l : L} {ls : List L} (h : step s l t)
      (hr : Run step t ls r) : Run step s (l :: ls) r

theorem Run.append (h : Run step s ls t) (h' : Run step t ls' r) :
    Run step s (ls ++ ls') r := by
  induction h with
  | nil => exact h'
  | cons hs _ ih => exact .cons hs (ih h')

theorem Run.single (h : step s l t) : Run step s [l] t := .cons h (.nil t)

/-- A run of a concatenation passes through a state in between. -/
theorem Run.split (h : Run step s (ls ++ ls') r) :
    ∃ t, Run step s ls t ∧ Run step t ls' r := by
  induction ls generalizing s with
  | nil => exact ⟨s, .nil s, h⟩
  | cons l ls ih =>
      cases h with
      | cons hs hr =>
          obtain ⟨t, ht, hr'⟩ := ih hr
          exact ⟨t, .cons hs ht, hr'⟩

/-- **INVARIANTS OF RUNS**: what every allowed step preserves, a run of
    allowed steps preserves. -/
theorem Run.invariant {I : S → Prop} {allowed : L → Prop}
    (hstep : ∀ s l t, I s → allowed l → step s l t → I t)
    (h : Run step s ls t) (hls : ∀ l ∈ ls, allowed l) (hs : I s) : I t := by
  induction h with
  | nil => exact hs
  | cons hl _ ih =>
      refine ih (fun l hmem => hls l (List.mem_cons_of_mem _ hmem)) ?_
      exact hstep _ _ _ hs (hls _ (List.mem_cons_self ..)) hl

/-- An invariant of all steps. -/
theorem Run.invariant_all {I : S → Prop}
    (hstep : ∀ s l t, I s → step s l t → I t)
    (h : Run step s ls t) (hs : I s) : I t := by
  have hstep' : ∀ s l t, I s → True → step s l t → I t :=
    fun s l t hs _ => hstep s l t hs
  exact h.invariant hstep' (fun _ _ => trivial) hs

/-- **GHOST STATE**: a relation between a state and a quantity folded
    over the labels is preserved if every allowed step preserves it. -/
theorem Run.ghost {G : Type w} {upd : G → L → G} {I : G → S → Prop}
    {allowed : L → Prop}
    (hstep : ∀ g s l t, I g s → allowed l → step s l t → I (upd g l) t)
    (h : Run step s ls t) (hls : ∀ l ∈ ls, allowed l) {g : G} (hs : I g s) :
    I (ls.foldl upd g) t := by
  induction h generalizing g with
  | nil => exact hs
  | cons hl _ ih =>
      refine ih (fun l hmem => hls l (List.mem_cons_of_mem _ hmem)) ?_
      exact hstep _ _ _ _ hs (hls _ (List.mem_cons_self ..)) hl

end Runs
