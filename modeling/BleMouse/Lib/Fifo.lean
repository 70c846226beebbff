/-
What happens around an item that waits in a work queue.

Other items are submitted, taken out and run; an item that is left alone keeps its place or moves
forward (`WorkQueue.Retains`), so the worker comes to it.  `WorkQueue.Follows` says the same of all
the items without a property.
-/
import BleMouse.Lib.WorkQueue

namespace WorkQueue

universe u

variable {ω : Type u}

/-- Items with a property are submitted and taken out; the others stay in their order, in front
of those that have been submitted. -/
def Follows (P : ω → Prop) (q q' : WorkQueue ω) : Prop :=
  ∃ kept more, q'.queue = kept ++ more ∧ kept.Sublist q.queue ∧ (∀ w ∈ more, P w) ∧
    ∀ w ∈ q.queue, ¬P w → w ∈ kept

namespace Follows

variable {P : ω → Prop} {q q' q'' : WorkQueue ω} {v w : ω}

lemma of_queue (h : q'.queue = q.queue) : Follows P q q' :=
  ⟨q.queue, [], h.trans (List.append_nil _).symm, List.Sublist.refl _,
    fun _ hw => absurd hw List.not_mem_nil, fun _ hw _ => hw⟩

lemma refl (q : WorkQueue ω) : Follows P q q := of_queue rfl

lemma trans (h : Follows P q q') (h' : Follows P q' q'') : Follows P q q'' := by
  obtain ⟨kept, more, hq, hsub, hmore, hkept⟩ := h
  obtain ⟨kept', more', hq', hsub', hmore', hkept'⟩ := h'
  rw [hq] at hsub' hkept'
  obtain ⟨front, back, rfl, hfront, hback⟩ := List.sublist_append_iff.1 hsub'
  refine ⟨front, back ++ more', ?_, hfront.trans hsub, ?_, ?_⟩
  · rw [hq', List.append_assoc]
  · rintro w hw
    rcases List.mem_append.1 hw with hw | hw
    · exact hmore w (hback.subset hw)
    · exact hmore' w hw
  · rintro w hw hnot
    rcases List.mem_append.1 (hkept' w (List.mem_append_left _ (hkept w hw hnot)) hnot) with
      hfront | hback'
    · exact hfront
    · exact absurd (hmore w (hback.subset hback')) hnot

/-- An item without the property waits as before. -/
lemma mem_iff (h : Follows P q q') (hw : ¬P w) : w ∈ q'.queue ↔ w ∈ q.queue := by
  obtain ⟨kept, more, hq, hsub, hmore, hkept⟩ := h
  rw [hq, List.mem_append]
  constructor
  · rintro (hmem | hmem)
    · exact hsub.subset hmem
    · exact absurd (hmore w hmem) hw
  · exact fun hmem => .inl (hkept w hmem hw)

variable [DecidableEq ω]

lemma submit (h : Follows P q q') (hw : P w) : Follows P q (q'.submit w) := by
  refine h.trans ?_
  by_cases hmem : w ∈ q'.queue
  · exact of_queue (if_pos hmem)
  · refine ⟨q'.queue, [w], if_neg hmem, List.Sublist.refl _, fun v hv => ?_, fun _ hv _ => hv⟩
    rwa [List.mem_singleton.1 hv]

lemma cancel (h : Follows P q q') (hw : P w) : Follows P q (q'.cancel w) := by
  refine h.trans ⟨q'.queue.filter (· ≠ w), [], (List.append_nil _).symm, List.filter_sublist,
    fun _ hv => absurd hv List.not_mem_nil, fun v hv hnot => ?_⟩
  rw [List.mem_filter, decide_eq_true_eq]
  refine ⟨hv, ?_⟩
  rintro rfl
  exact hnot hw

lemma reschedule (h : Follows P q q') (hw : P w) (delay : ℕ) :
    Follows P q (q'.reschedule w delay) := by
  unfold WorkQueue.reschedule
  split
  · exact (h.trans (of_queue rfl)).submit hw
  · exact h.trans (of_queue rfl)

end Follows

variable [DecidableEq ω]

/-- The number of items in front of an item. -/
def ahead (q : WorkQueue ω) (w : ω) : ℕ := q.queue.idxOf w

/-- In a part of a list without repetitions an element has no more in front of it. -/
lemma idxOf_le_of_sublist {l l' : List ω} {w : ω} (h : l.Sublist l') (hnodup : l'.Nodup)
    (hw : w ∈ l) : l.idxOf w ≤ l'.idxOf w := by
  induction h with
  | slnil => exact le_rfl
  | @cons l l' a hsub ih =>
    have hne : a ≠ w := by
      rintro rfl
      exact (List.nodup_cons.1 hnodup).1 (hsub.subset hw)
    rw [List.idxOf_cons_ne _ hne]
    exact (ih (List.nodup_cons.1 hnodup).2 hw).trans (Nat.le_succ _)
  | @cons_cons l l' a hsub ih =>
    by_cases heq : a = w
    · rw [heq, List.idxOf_cons_self]
      exact Nat.zero_le _
    · rw [List.idxOf_cons_ne _ heq, List.idxOf_cons_ne _ heq]
      have hw' : w ∈ l := (List.mem_cons.1 hw).resolve_left fun h => heq h.symm
      exact Nat.succ_le_succ (ih (List.nodup_cons.1 hnodup).2 hw')

variable {P : ω → Prop} {q q' : WorkQueue ω} {v w : ω}

/-- An item without the property keeps its place or moves forward. -/
lemma Follows.ahead_le (h : Follows P q q') (hnodup : q.queue.Nodup) (hw : ¬P w)
    (hmem : w ∈ q.queue) : q'.ahead w ≤ q.ahead w := by
  obtain ⟨kept, more, hq, hsub, -, hkept⟩ := h
  have hkept' := hkept w hmem hw
  unfold ahead
  rw [hq, List.idxOf_append_of_mem hkept']
  exact idxOf_le_of_sublist hsub hnodup hkept'

/-- When the worker takes another item, there is one less in front. -/
lemma ahead_take {rest : List ω} (hq : q.queue = v :: rest) (hne : v ≠ w)
    (hq' : q'.queue = rest) : q'.ahead w + 1 = q.ahead w := by
  unfold ahead
  rw [hq, hq', List.idxOf_cons_ne _ hne]

/-- An item stands in the queue. -/
lemma ahead_lt (hmem : w ∈ q.queue) : q.ahead w < q.queue.length := List.idxOf_lt_length_of_mem hmem

/-! ### An item that keeps its place -/

/-- An item that waits goes on waiting, with no more items in front of it. -/
def Retains (w : ω) (q q' : WorkQueue ω) : Prop :=
  w ∈ q.queue → w ∈ q'.queue ∧ q'.ahead w ≤ q.ahead w

namespace Retains

variable {q'' : WorkQueue ω}

lemma of_queue (h : q'.queue = q.queue) : Retains w q q' := by
  intro hw
  unfold ahead
  rw [h]
  exact ⟨hw, le_rfl⟩

lemma refl (w : ω) (q : WorkQueue ω) : Retains w q q := of_queue rfl

lemma trans (h : Retains w q q') (h' : Retains w q' q'') : Retains w q q'' := by
  intro hw
  obtain ⟨hw', hle⟩ := h hw
  obtain ⟨hw'', hle'⟩ := h' hw'
  exact ⟨hw'', hle'.trans hle⟩

lemma submit (h : Retains w q q') (v : ω) : Retains w q (q'.submit v) := by
  refine h.trans fun hw => ?_
  unfold WorkQueue.submit ahead
  dsimp only
  split
  · exact ⟨hw, le_rfl⟩
  · exact ⟨List.mem_append_left _ hw, (List.idxOf_append_of_mem hw).le⟩

lemma reschedule (h : Retains w q q') (v : ω) (delay : ℕ) :
    Retains w q (q'.reschedule v delay) := by
  unfold WorkQueue.reschedule
  split
  · exact (h.trans (of_queue rfl)).submit v
  · exact h.trans (of_queue rfl)

/-- What is taken out of a list leaves no more in front of an element. -/
lemma idxOf_filter_le {p : ω → Bool} (hw : p w = true) (l : List ω) :
    (l.filter p).idxOf w ≤ l.idxOf w := by
  induction l with
  | nil => exact le_rfl
  | cons a l ih =>
    by_cases heq : a = w
    · subst heq
      rw [List.filter_cons_of_pos hw, List.idxOf_cons_self, List.idxOf_cons_self]
    · rw [List.idxOf_cons_ne _ heq]
      by_cases ha : p a = true
      · rw [List.filter_cons_of_pos ha, List.idxOf_cons_ne _ heq]
        exact Nat.succ_le_succ ih
      · rw [List.filter_cons_of_neg ha]
        exact ih.trans (Nat.le_succ _)

/-- Another item is cancelled. -/
lemma cancel (h : Retains w q q') (hne : w ≠ v) : Retains w q (q'.cancel v) := by
  refine h.trans fun hw => ⟨mem_cancel.2 ⟨hw, hne⟩, ?_⟩
  exact idxOf_filter_le (p := fun u => decide (u ≠ v)) (decide_eq_true hne) q'.queue

end Retains

end WorkQueue
