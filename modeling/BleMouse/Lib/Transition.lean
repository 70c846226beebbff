/-
Labelled transition systems and their runs.

A step relation `step : σ → ℓ → σ → Prop` relates a state, the label of a step and the state
after it.  `Run step s ls s'` says that the labels `ls`, in order, lead from `s` to `s'`; it
grows at its end, so an induction over a run is an induction over its last step.

A property of all reachable states is proved with `Run.invariant` from what one step
preserves.  When the property speaks about the labels as well, `Run.invariant_labels` carries
it along the labels read so far; when some steps break it, `Run.invariant_unless` says what a
run without them keeps.

Two systems side by side take their steps in any order, `Beside`; each of them runs on its own.
-/
import Mathlib.Tactic

namespace Transition

universe u v

variable {σ : Type u} {ℓ : Type v}

/-- The labels `ls` lead from one state to another. -/
inductive Run (step : σ → ℓ → σ → Prop) : σ → List ℓ → σ → Prop
  | nil (s : σ) : Run step s [] s
  | snoc {s s' s'' : σ} {ls : List ℓ} {l : ℓ} (hrun : Run step s ls s') (hstep : step s' l s'') :
      Run step s (ls ++ [l]) s''

/-- The steps that lead to a state with a property. -/
def Within (step : σ → ℓ → σ → Prop) (I : σ → Prop) (s : σ) (l : ℓ) (s' : σ) : Prop :=
  step s l s' ∧ I s'

/-- A run with the labels `ls` passes through a state. -/
def Visits (step : σ → ℓ → σ → Prop) (s : σ) (ls : List ℓ) (t : σ) : Prop :=
  ∃ before, before <+: ls ∧ Run step s before t

/-- A run with the labels `ls` takes a step. -/
def Takes (step : σ → ℓ → σ → Prop) (s : σ) (ls : List ℓ) (t : σ) (l : ℓ) (t' : σ) : Prop :=
  ∃ before, before ++ [l] <+: ls ∧ Run step s before t ∧ step t l t'

lemma Takes.mem {step : σ → ℓ → σ → Prop} {s t t' : σ} {ls : List ℓ} {l : ℓ}
    (h : Takes step s ls t l t') : l ∈ ls := by
  obtain ⟨before, hprefix, -⟩ := h
  exact hprefix.subset (List.mem_append_right _ List.mem_cons_self)

/-- A longer run takes the steps of its beginning. -/
lemma Takes.snoc {step : σ → ℓ → σ → Prop} {s t t' : σ} {ls : List ℓ} {l : ℓ}
    (h : Takes step s ls t l t') (l' : ℓ) : Takes step s (ls ++ [l']) t l t' := by
  obtain ⟨before, hprefix, hrest⟩ := h
  exact ⟨before, hprefix.trans (List.prefix_append _ _), hrest⟩

/-- The step relation of a step function. -/
def Steps (f : σ → ℓ → Option σ) (s : σ) (l : ℓ) (s' : σ) : Prop := f s l = some s'

instance [DecidableEq σ] (f : σ → ℓ → Option σ) (s : σ) (l : ℓ) (s' : σ) :
    Decidable (Steps f s l s') := inferInstanceAs (Decidable (f s l = some s'))

namespace Run

variable {step : σ → ℓ → σ → Prop} {s s' s'' : σ} {ls ls' : List ℓ} {l : ℓ}

lemma single (h : step s l s') : Run step s [l] s' := .snoc (.nil s) h

lemma append (h : Run step s ls s') (h' : Run step s' ls' s'') : Run step s (ls ++ ls') s'' := by
  induction h' with
  | nil => rwa [List.append_nil]
  | snoc _ hstep ih =>
    rw [← List.append_assoc]
    exact .snoc ih hstep

lemma cons (h : step s l s') (h' : Run step s' ls s'') : Run step s (l :: ls) s'' :=
  (single h).append h'

/-- A property of the labels and the state that every step preserves holds after a run. -/
lemma invariant_labels (h : Run step s ls s') (I : List ℓ → σ → Prop) (hs : I [] s)
    (hstep : ∀ ls t l t', I ls t → step t l t' → I (ls ++ [l]) t') : I ls s' := by
  induction h with
  | nil => exact hs
  | snoc _ hlast ih => exact hstep _ _ _ _ ih hlast

/-- A property of states that every step preserves holds after a run. -/
lemma invariant (h : Run step s ls s') (I : σ → Prop) (hs : I s)
    (hstep : ∀ t l t', I t → step t l t' → I t') : I s' := by
  induction h with
  | nil => exact hs
  | snoc _ hlast ih => exact hstep _ _ _ ih hlast

/-- A run stays within a property that its steps preserve. -/
lemma within (h : Run step s ls s') (I : σ → Prop) (hs : I s)
    (hstep : ∀ t, ∀ l ∈ ls, ∀ t', I t → step t l t' → I t') :
    Run (Within step I) s ls s' ∧ I s' := by
  induction h with
  | nil => exact ⟨.nil _, hs⟩
  | snoc _ hlast ih =>
    obtain ⟨hrun, ht⟩ := ih fun t l hl => hstep t l (List.mem_append_left _ hl)
    have ht' := hstep _ _ (List.mem_append_right _ (List.mem_singleton_self _)) _ ht hlast
    exact ⟨hrun.snoc ⟨hlast, ht'⟩, ht'⟩

/-- A property that only bad steps break holds in every state of a run without them. -/
lemma invariant_unless {t : σ} (h : Visits step s ls t) (I : σ → Prop) (Bad : σ → ℓ → Prop)
    (hs : I s) (hstep : ∀ t l t', I t → step t l t' → ¬Bad t l → I t')
    (hgood : ∀ t l t', Takes step s ls t l t' → ¬Bad t l) : I t := by
  obtain ⟨before, hprefix, hrun⟩ := h
  induction hrun with
  | nil => exact hs
  | snoc hrun hlast ih =>
    have ht := ih ((List.prefix_append _ _).trans hprefix)
    exact hstep _ _ _ ht hlast (hgood _ _ _ ⟨_, hprefix, hrun, hlast⟩)

/-- Something that does not hold at the start of a run and does at its end began to hold at
some step, and held ever since. -/
lemma exists_start {Q : σ → Prop} (h : Run step s ls s') (hs : ¬Q s) (hs' : Q s') :
    ∃ before l after t t', ls = before ++ l :: after ∧ Run step s before t ∧ step t l t' ∧ ¬Q t ∧
      Run (fun v l v' => step v l v' ∧ Q v ∧ Q v') t' after s' := by
  induction h with
  | nil => exact absurd hs' hs
  | @snoc _ _ ls l hrun hlast ih =>
    rename_i u u'
    by_cases hu : Q u
    · obtain ⟨before, l', after, t, t', rfl, hbefore, hstep, ht, hafter⟩ := ih hu
      refine ⟨before, l', after ++ [l], t, t', by simp, hbefore, hstep, ht, ?_⟩
      exact hafter.snoc ⟨hlast, hu, hs'⟩
    · exact ⟨ls, l, [], u, u', rfl, hrun, hlast, hu, .nil _⟩

/-- More steps allow more runs. -/
lemma mono {step' : σ → ℓ → σ → Prop} (h : Run step s ls s')
    (himp : ∀ t l t', step t l t' → step' t l t') : Run step' s ls s' := by
  induction h with
  | nil => exact .nil _
  | snoc _ hlast ih => exact .snoc ih (himp _ _ _ hlast)

/-- The steps of a run under other labels. -/
lemma map {ℓ' : Type*} {step' : σ → ℓ' → σ → Prop} (h : Run step s ls s') (f : ℓ → ℓ')
    (himp : ∀ t l t', step t l t' → step' t (f l) t') : Run step' s (ls.map f) s' := by
  induction h with
  | nil => exact .nil _
  | snoc _ hlast ih =>
    rw [List.map_append]
    exact .snoc ih (himp _ _ _ hlast)

/-- Running a step function along a list of labels. -/
lemma of_foldlM {f : σ → ℓ → Option σ} (h : ls.foldlM f s = some s') : Run (Steps f) s ls s' := by
  induction ls generalizing s with
  | nil =>
    cases h
    exact .nil _
  | cons l ls ih =>
    rw [List.foldlM_cons] at h
    obtain ⟨t, ht, hrest⟩ := Option.bind_eq_some_iff.1 h
    exact cons ht (ih hrest)

/-- Running a step function to a state with a property. -/
lemma exists_of_foldlM {f : σ → ℓ → Option σ} {p : σ → Bool}
    (h : (ls.foldlM f s).any p = true) : ∃ s', Run (Steps f) s ls s' ∧ p s' = true := by
  obtain ⟨s', hs', hp⟩ := (Option.any_eq_true _ _).1 h
  exact ⟨s', of_foldlM hs', hp⟩

/-- A run whose labels repeat one list leads through what every repetition does. -/
lemma iterate {step : σ → ℓ → σ → Prop} {ls : List ℓ} {I : ℕ → σ}
    (hround : ∀ n, Run step (I n) ls (I (n + 1))) (n : ℕ) :
    Run step (I 0) (List.replicate n ls).flatten (I n) := by
  induction n with
  | zero => exact .nil _
  | succ n ih =>
    rw [List.replicate_succ', List.flatten_append, List.flatten_singleton]
    exact ih.append (hround n)

end Run

/-! ### Systems side by side -/

/-- The steps of two systems in any order. -/
inductive Beside {σ' ℓ' : Type*} (step : σ → ℓ → σ → Prop) (step' : σ' → ℓ' → σ' → Prop) :
    σ × σ' → ℓ ⊕ ℓ' → σ × σ' → Prop
  | left {s t : σ} {l : ℓ} (h : step s l t) (s' : σ') :
      Beside step step' (s, s') (.inl l) (t, s')
  | right {s' t' : σ'} {l' : ℓ'} (s : σ) (h : step' s' l' t') :
      Beside step step' (s, s') (.inr l') (s, t')

namespace Beside

variable {σ' ℓ' : Type*} {step : σ → ℓ → σ → Prop} {step' : σ' → ℓ' → σ' → Prop}

/-- What one of them does, the other standing still. -/
lemma run_left {s t : σ} {ls : List ℓ} (h : Run step s ls t) (s' : σ') :
    Run (Beside step step') (s, s') (ls.map .inl) (t, s') := by
  induction h with
  | nil => exact .nil _
  | snoc _ hlast ih =>
    rw [List.map_append]
    exact ih.snoc (.left hlast s')

lemma run_right {s' t' : σ'} {ls : List ℓ'} (s : σ) (h : Run step' s' ls t') :
    Run (Beside step step') (s, s') (ls.map .inr) (s, t') := by
  induction h with
  | nil => exact .nil _
  | snoc _ hlast ih =>
    rw [List.map_append]
    exact ih.snoc (.right s hlast)

/-- The steps of one of them are a run of it. -/
lemma left_of_run {p q : σ × σ'} {ls : List (ℓ ⊕ ℓ')} (h : Run (Beside step step') p ls q) :
    Run step p.1 (ls.filterMap Sum.getLeft?) q.1 := by
  induction h with
  | nil => exact .nil _
  | snoc _ hlast ih =>
    rw [List.filterMap_append]
    cases hlast with
    | left hstep => exact ih.snoc hstep
    | right =>
      rw [List.filterMap_cons_none rfl, List.filterMap_nil, List.append_nil]
      exact ih

lemma right_of_run {p q : σ × σ'} {ls : List (ℓ ⊕ ℓ')} (h : Run (Beside step step') p ls q) :
    Run step' p.2 (ls.filterMap Sum.getRight?) q.2 := by
  induction h with
  | nil => exact .nil _
  | snoc _ hlast ih =>
    rw [List.filterMap_append]
    cases hlast with
    | left =>
      rw [List.filterMap_cons_none rfl, List.filterMap_nil, List.append_nil]
      exact ih
    | right _ hstep => exact ih.snoc hstep

end Beside

end Transition
