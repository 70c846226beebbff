/-
Journals.

A journal is the list of what was observed of a system, in order.  A state is folded along it
(`replay`), and a property of an observation may depend on what was observed before it
(`Every`), or on the state reached before it (`Always`).  A step makes the journal longer, by
observations with a property (`Grows`).
-/
import Mathlib.Tactic

namespace Journal

universe u v w

variable {σ : Type u} {ο : Type v} (f : σ → ο → σ) (start : σ)

/-- The state after a journal. -/
def replay (journal : List ο) : σ := journal.foldl f start

/-- Every observation has the property, after the journal before it. -/
def Every (P : List ο → ο → Prop) (journal : List ο) : Prop :=
  ∀ before o after, journal = before ++ o :: after → P before o

/-- Every observation has the property, in the state reached before it. -/
def Always (P : σ → ο → Prop) (journal : List ο) : Prop :=
  ∀ before o after, journal = before ++ o :: after → P (replay f start before) o

variable {f start} {P : σ → ο → Prop} {journal : List ο} {o : ο}

@[simp] lemma replay_nil : replay f start [] = start := rfl

@[simp] lemma replay_snoc : replay f start (journal ++ [o]) = f (replay f start journal) o := by
  simp [replay]

lemma every_nil {P : List ο → ο → Prop} : Every P [] := by
  intro before o after h
  simp at h

/-- One more observation. -/
lemma Every.snoc {P : List ο → ο → Prop} (h : Every P journal) (ho : P journal o) :
    Every P (journal ++ [o]) := by
  rintro before o' after heq
  rcases List.eq_nil_or_concat after with rfl | ⟨after, last, rfl⟩
  · obtain ⟨rfl, hlast⟩ := List.append_inj' heq rfl
    obtain rfl := (List.cons.inj hlast).1
    exact ho
  · rw [List.concat_eq_append, ← List.cons_append, ← List.append_assoc] at heq
    obtain ⟨rfl, -⟩ := List.append_inj' heq rfl
    exact h before o' after rfl

/-- More observations that have the property anyway. -/
lemma Every.append {P : List ο → ο → Prop} (h : Every P journal) {new : List ο}
    (hnew : ∀ o ∈ new, ∀ before, P before o) : Every P (journal ++ new) := by
  induction new using List.reverseRecOn with
  | nil =>
    rw [List.append_nil]
    exact h
  | append_singleton new o ih =>
    rw [← List.append_assoc]
    exact (ih fun o' ho' => hnew o' (List.mem_append_left _ ho')).snoc (hnew o (by simp) _)

lemma always_nil : Always f start P [] := every_nil

lemma Always.snoc (h : Always f start P journal) (ho : P (replay f start journal) o) :
    Always f start P (journal ++ [o]) := Every.snoc h ho

/-! ### Growth -/

/-- The journal becomes longer, by observations with a property. -/
def Grows (P : ο → Prop) (journal journal' : List ο) : Prop :=
  ∃ new, journal' = journal ++ new ∧ ∀ o ∈ new, P o

namespace Grows

variable {P : ο → Prop} {journal journal' journal'' : List ο} {o : ο}

lemma refl (P : ο → Prop) (journal : List ο) : Grows P journal journal :=
  ⟨[], (List.append_nil _).symm, fun _ ho => absurd ho List.not_mem_nil⟩

lemma trans (h : Grows P journal journal') (h' : Grows P journal' journal'') :
    Grows P journal journal'' := by
  obtain ⟨new, rfl, hnew⟩ := h
  obtain ⟨new', rfl, hnew'⟩ := h'
  refine ⟨new ++ new', List.append_assoc .., fun o ho => ?_⟩
  rcases List.mem_append.1 ho with ho | ho
  · exact hnew o ho
  · exact hnew' o ho

lemma snoc (h : Grows P journal journal') (ho : P o) : Grows P journal (journal' ++ [o]) := by
  refine h.trans ⟨[o], rfl, fun o' ho' => ?_⟩
  rwa [List.mem_singleton.1 ho']

lemma mono {P' : ο → Prop} (h : Grows P journal journal') (himp : ∀ o, P o → P' o) :
    Grows P' journal journal' := by
  obtain ⟨new, heq, hnew⟩ := h
  exact ⟨new, heq, fun o ho => himp o (hnew o ho)⟩

/-- What every such observation keeps of the state, all of them keep. -/
lemma replay_keeps {f : σ → ο → σ} {start : σ} (h : Grows P journal journal') (I : σ → Prop)
    (hstart : I (replay f start journal)) (hstep : ∀ state o, P o → I state → I (f state o)) :
    I (replay f start journal') := by
  obtain ⟨new, rfl, hnew⟩ := h
  induction new using List.reverseRecOn with
  | nil => rwa [List.append_nil]
  | append_singleton new o ih =>
    rw [← List.append_assoc, replay_snoc]
    exact hstep _ o (hnew o (by simp)) (ih fun o' ho' => hnew o' (List.mem_append_left _ ho'))

/-- Observations that leave the state as it is. -/
lemma replay_eq {f : σ → ο → σ} {start : σ} (h : Grows P journal journal')
    (hidle : ∀ state o, P o → f state o = state) :
    replay f start journal' = replay f start journal :=
  h.replay_keeps (· = replay f start journal) rfl fun state o ho heq => (hidle state o ho).trans heq

/-- What has been added to the journal has the property. -/
lemma of_mem_drop (h : Grows P journal journal') (ho : o ∈ journal'.drop journal.length) :
    P o := by
  obtain ⟨new, rfl, hnew⟩ := h
  rw [List.drop_left] at ho
  exact hnew o ho

end Grows

end Journal
