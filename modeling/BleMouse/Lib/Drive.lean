/-
A system that drives another.

A step of the driver makes calls, which the other system takes as its labels, one after another.
Between them the other system takes steps of its own, in any number.  Each of the two runs on its
own (`Drive.run_driver`, `Drive.run_driven`): the driver does not notice the other, and what the
other takes is `Drive.heard`, the calls and the steps of its own in their order.
-/
import BleMouse.Lib.Transition

namespace Transition

universe u v w x y z

/-- A driver with the calls of each of its steps, a system that takes them, and that system's own
steps. -/
structure Drive (σ : Type u) (ℓ : Type v) (τ : Type w) (κ : Type x) (ω : Type y) where
  driver : σ → ℓ → Option σ
  /-- The calls of a step, with the states before and after it. -/
  calls : σ → σ → List κ
  driven : τ → κ → Option τ
  own : ω → κ

namespace Drive

variable {σ : Type u} {ℓ : Type v} {τ : Type w} {κ : Type x} {ω : Type y}
  {α : Type z} (d : Drive σ ℓ τ κ ω)

/-- A step of the driver with its calls, or a step of the other system. -/
def next (p : σ × τ) : ℓ ⊕ ω → Option (σ × τ)
  | .inl l => (d.driver p.1 l).bind fun s =>
    ((d.calls p.1 s).foldlM d.driven p.2).map fun t => (s, t)
  | .inr w => (d.driven p.2 (d.own w)).map fun t => (p.1, t)

/-- The runs of the two together. -/
abbrev Runs : σ × τ → List (ℓ ⊕ ω) → σ × τ → Prop := Run (Steps d.next)

/-- The driver after an event. -/
def after (s : σ) : ℓ ⊕ ω → σ
  | .inl l => (d.driver s l).getD s
  | .inr _ => s

/-- What the other system takes in an event. -/
def taken (s : σ) : ℓ ⊕ ω → List κ
  | .inl l => ((d.driver s l).map (d.calls s)).getD []
  | .inr w => [d.own w]

/-- The driver after some events, and what there is to say of them, one after another. -/
def trace (say : σ → ℓ ⊕ ω → List α) (s : σ) (es : List (ℓ ⊕ ω)) : σ × List α :=
  es.foldl (fun p e => (d.after p.1 e, p.2 ++ say p.1 e)) (s, [])

/-- What there is to say of some events. -/
def gather (say : σ → ℓ ⊕ ω → List α) (s : σ) (es : List (ℓ ⊕ ω)) : List α := (d.trace say s es).2

/-- What the other system takes in some events. -/
def heard (s : σ) (es : List (ℓ ⊕ ω)) : List κ := d.gather d.taken s es

variable {d} {s s' : σ} {p q : σ × τ} {e : ℓ ⊕ ω} {es : List (ℓ ⊕ ω)}

lemma trace_snoc (say : σ → ℓ ⊕ ω → List α) :
    d.trace say s (es ++ [e]) = (d.after (d.trace say s es).1 e,
      (d.trace say s es).2 ++ say (d.trace say s es).1 e) := by
  unfold trace
  rw [List.foldl_append]
  rfl

/-- What an event does to both. -/
lemma next_cases (h : d.next p e = some q) :
    q.1 = d.after p.1 e ∧ (d.taken p.1 e).foldlM d.driven p.2 = some q.2 ∧
      ∀ l, e = .inl l → d.driver p.1 l = some q.1 := by
  cases e with
  | inl l =>
    obtain ⟨s, hs, hrest⟩ := Option.bind_eq_some_iff.1 h
    obtain ⟨t, ht, rfl⟩ := Option.map_eq_some_iff.1 hrest
    refine ⟨?_, ?_, fun l' hl' => ?_⟩
    · simp only [after, hs, Option.getD_some]
    · simp only [taken, hs, Option.map_some, Option.getD_some, ht]
    · cases hl'
      exact hs
  | inr w =>
    obtain ⟨t, ht, rfl⟩ := Option.map_eq_some_iff.1 h
    refine ⟨rfl, ?_, fun l hl => nomatch hl⟩
    simp only [taken, List.foldlM_cons, List.foldlM_nil, ht]
    rfl

lemma trace_driver (say : σ → ℓ ⊕ ω → List α) (h : d.Runs p es q) :
    (d.trace say p.1 es).1 = q.1 := by
  induction h with
  | nil => rfl
  | @snoc _ _ es e _ hstep ih =>
    rw [trace_snoc]
    show d.after (d.trace say p.1 es).1 e = _
    rw [ih]
    exact (next_cases hstep).1.symm

/-- What there is to say of one more event. -/
lemma gather_snoc (say : σ → ℓ ⊕ ω → List α) (h : d.Runs p es q) (e : ℓ ⊕ ω) :
    d.gather say p.1 (es ++ [e]) = d.gather say p.1 es ++ say q.1 e := by
  unfold gather
  rw [trace_snoc, trace_driver say h]

lemma heard_snoc (h : d.Runs p es q) (e : ℓ ⊕ ω) :
    d.heard p.1 (es ++ [e]) = d.heard p.1 es ++ d.taken q.1 e := gather_snoc d.taken h e

/-- The driver runs on its own. -/
theorem run_driver (h : d.Runs p es q) :
    Run (Steps d.driver) p.1 (es.filterMap Sum.getLeft?) q.1 := by
  induction h with
  | nil => exact .nil _
  | @snoc _ _ _ e _ hstep ih =>
    rw [List.filterMap_append]
    obtain ⟨hafter, -, hdriver⟩ := next_cases hstep
    cases e with
    | inl l => exact ih.snoc (hdriver l rfl)
    | inr w =>
      rw [List.filterMap_cons_none rfl, List.filterMap_nil, List.append_nil, hafter]
      exact ih

/-- The other system runs on its own. -/
theorem run_driven (h : d.Runs p es q) : Run (Steps d.driven) p.2 (d.heard p.1 es) q.2 := by
  induction h with
  | nil => exact .nil _
  | snoc hrun hstep ih =>
    rw [heard_snoc hrun]
    exact ih.append (Run.of_foldlM (next_cases hstep).2.1)

/-- The other system does not hold the driver up when it takes every call. -/
lemma next_of_driver (htakes : ∀ k ∈ d.calls s s', ∀ t, ∃ t', d.driven t k = some t') {l : ℓ}
    (h : d.driver s l = some s') (t : τ) : ∃ t', d.next (s, t) (.inl l) = some (s', t') := by
  have hfold (ks : List κ) (hks : ∀ k ∈ ks, ∀ t, ∃ t', d.driven t k = some t') (t : τ) :
      ∃ t', ks.foldlM d.driven t = some t' := by
    induction ks generalizing t with
    | nil => exact ⟨t, rfl⟩
    | cons k ks ih =>
      obtain ⟨u, hu⟩ := hks k List.mem_cons_self t
      obtain ⟨t', ht'⟩ := ih (fun k' hk' => hks k' (List.mem_cons_of_mem _ hk')) u
      exact ⟨t', by rw [List.foldlM_cons, hu]; exact ht'⟩
  obtain ⟨t', ht'⟩ := hfold _ htakes t
  refine ⟨t', ?_⟩
  simp only [next, h, Option.bind_some, ht', Option.map_some]

end Drive

end Transition
