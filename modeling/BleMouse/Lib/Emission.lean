/-
Computations that change a state and emit a list of values.

They compose in sequence (`Emission.andThen`), with `Emission.skip` as the unit, and what is
emitted by a sequence is what its parts emit, in order.  A worker whose course is such a
computation conserves what it has emitted together with what it still will.
-/
import Mathlib.Tactic

universe u v

/-- A computation on states `σ` that emits values of `π`. -/
abbrev Emission (σ : Type u) (π : Type v) : Type (max u v) := σ → σ × List π

namespace Emission

variable {σ : Type u} {π : Type v}

/-- Nothing happens. -/
def skip : Emission σ π := fun s => (s, [])

/-- Emit some values. -/
def emit (values : List π) : Emission σ π := fun s => (s, values)

/-- One computation and then another. -/
def andThen (f g : Emission σ π) : Emission σ π := fun s =>
  ((g (f s).1).1, (f s).2 ++ (g (f s).1).2)

@[simp] lemma skip_andThen (f : Emission σ π) : skip.andThen f = f := rfl

@[simp] lemma andThen_skip (f : Emission σ π) : f.andThen skip = f := by
  funext s
  exact Prod.ext rfl (List.append_nil _)

lemma andThen_assoc (f g h : Emission σ π) : (f.andThen g).andThen h = f.andThen (g.andThen h) := by
  funext s
  exact Prod.ext rfl (List.append_assoc ..)

/-- The computations of a list, in its order. -/
def sequence (fs : List (Emission σ π)) : Emission σ π := fs.foldr andThen skip

@[simp] lemma sequence_nil : sequence ([] : List (Emission σ π)) = skip := rfl

@[simp] lemma sequence_cons (f : Emission σ π) (fs : List (Emission σ π)) :
    sequence (f :: fs) = f.andThen (sequence fs) := rfl

lemma sequence_append (fs gs : List (Emission σ π)) :
    sequence (fs ++ gs) = (sequence fs).andThen (sequence gs) := by
  induction fs with
  | nil => rfl
  | cons f fs ih => rw [List.cons_append, sequence_cons, ih, sequence_cons, andThen_assoc]

lemma sequence_snoc (fs : List (Emission σ π)) (f : Emission σ π) :
    sequence (fs ++ [f]) = (sequence fs).andThen f := by
  rw [sequence_append, sequence_cons, sequence_nil, andThen_skip]

/-- What is emitted at the end, after the values emitted so far. -/
def conclude (f : Emission σ π) (s : σ) (emitted : List π) : σ × List π :=
  ((f s).1, emitted ++ (f s).2)

/-- A part of the computation is done. -/
lemma conclude_andThen (f g : Emission σ π) (s : σ) (emitted : List π) :
    (f.andThen g).conclude s emitted = g.conclude (f s).1 (emitted ++ (f s).2) :=
  Prod.ext rfl (List.append_assoc ..).symm

lemma conclude_emit_andThen (values : List π) (f : Emission σ π) (s : σ) (emitted : List π) :
    ((emit values).andThen f).conclude s emitted = f.conclude s (emitted ++ values) :=
  conclude_andThen ..

end Emission
