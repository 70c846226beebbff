/-
Progress towards a goal.

Some labels of a transition system *count*: they are what somebody has to do sooner or later.
Other steps may come between them in any number.  When no step leads further from the goal and
every counting step leads nearer to it, a run with enough counting steps has been at the goal
(`Progress.visits`), and when a counting step can always be taken, the goal can be reached
(`Progress.reachable`).
-/
import BleMouse.Lib.Transition

namespace Transition

universe u v

variable {σ : Type u} {ℓ : Type v}

/-- Until the goal is reached, every step keeps an invariant and leads no further from the goal,
and the steps that count lead nearer to it. -/
structure Progress (step : σ → ℓ → σ → Prop) (Counts : ℓ → Prop) (I Goal : σ → Prop)
    (distance : σ → ℕ) : Prop where
  keeps : ∀ {s l s'}, I s → ¬Goal s → step s l s' → ¬Goal s' → I s'
  le : ∀ {s l s'}, I s → ¬Goal s → step s l s' → ¬Goal s' → distance s' ≤ distance s
  lt : ∀ {s l s'}, I s → ¬Goal s → step s l s' → ¬Goal s' → Counts l → distance s' < distance s

namespace Progress

variable {step : σ → ℓ → σ → Prop} {Counts : ℓ → Prop} {I Goal : σ → Prop} {distance : σ → ℕ}
  {s s' : σ} {ls : List ℓ}

/-- Away from the goal, the counting steps of a run are paid for by its distance. -/
lemma count_le [DecidablePred Counts] (h : Progress step Counts I Goal distance) (hs : I s)
    (hrun : Run step s ls s') (hnot : ∀ t, Visits step s ls t → ¬Goal t) :
    I s' ∧ distance s' + ls.countP (fun l => Counts l) ≤ distance s := by
  induction hrun with
  | nil => exact ⟨hs, le_rfl⟩
  | @snoc t t' ls l hrun hstep ih =>
    have hprefix : ls <+: ls ++ [l] := List.prefix_append ls [l]
    obtain ⟨ht, hle⟩ := ih fun u ⟨before, hbefore, hu⟩ =>
      hnot u ⟨before, hbefore.trans hprefix, hu⟩
    have hgoal := hnot t ⟨ls, hprefix, hrun⟩
    have hgoal' := hnot t' ⟨ls ++ [l], List.prefix_refl _, hrun.snoc hstep⟩
    refine ⟨h.keeps ht hgoal hstep hgoal', ?_⟩
    rw [List.countP_append, List.countP_singleton]
    by_cases hl : Counts l
    · have := h.lt ht hgoal hstep hgoal' hl
      simp only [hl, decide_true, if_true]
      omega
    · have := h.le ht hgoal hstep hgoal'
      simp only [hl, decide_false, Bool.false_eq_true, if_false]
      omega

/-- A run with more counting steps than its distance has been at the goal. -/
theorem visits [DecidablePred Counts] (h : Progress step Counts I Goal distance) (hs : I s)
    (hrun : Run step s ls s') (hmany : distance s < ls.countP fun l => Counts l) :
    ∃ t, Visits step s ls t ∧ Goal t := by
  by_contra hnone
  push Not at hnone
  obtain ⟨-, hle⟩ := h.count_le hs hrun hnone
  omega

/-- When a counting step can be taken wherever the goal is not reached, it can be reached. -/
theorem reachable (h : Progress step Counts I Goal distance)
    (henabled : ∀ s, I s → ¬Goal s → ∃ l s', Counts l ∧ step s l s') (hs : I s) :
    ∃ ls t, Run step s ls t ∧ Goal t ∧ ∀ l ∈ ls, Counts l := by
  induction hn : distance s using Nat.strong_induction_on generalizing s with
  | _ n ih =>
    by_cases hgoal : Goal s
    · exact ⟨[], s, .nil s, hgoal, fun l hl => absurd hl List.not_mem_nil⟩
    obtain ⟨l, s', hl, hstep⟩ := henabled s hs hgoal
    by_cases hgoal' : Goal s'
    · refine ⟨[l], s', .single hstep, hgoal', fun l' hl' => ?_⟩
      rwa [List.mem_singleton.1 hl']
    have hlt := h.lt hs hgoal hstep hgoal' hl
    obtain ⟨ls, t, hrun, ht, hls⟩ :=
      ih (distance s') (hn ▸ hlt) (h.keeps hs hgoal hstep hgoal') rfl
    refine ⟨l :: ls, t, .cons hstep hrun, ht, fun l' hl' => ?_⟩
    rcases List.mem_cons.1 hl' with rfl | hmem
    · exact hl
    · exact hls l' hmem

end Progress

end Transition
