/-
Work queues with one worker.

Items wait in one queue, in the order in which they were submitted, and an item that already
waits is not queued again.  Some items have a timer besides: an armed item is submitted when
its timer expires, and nothing is assumed about when that is.  Cancelling an item removes it
from the queue and disarms it.

Two kinds of facts are used of a queue: which items are *pending*, and in which order they
wait.  The order is described by a relation that holds between every item and those behind it
(`List.Pairwise`).
-/
import Mathlib.Tactic

/-- The items that wait for the worker, the next one first, and those with a running timer. -/
structure WorkQueue (ω : Type*) where
  queue : List ω := []
  armed : List ω := []
deriving DecidableEq, Repr

namespace WorkQueue

universe u

variable {ω : Type u} [DecidableEq ω] (q : WorkQueue ω) (w : ω)

/-- Put an item at the end of the queue, unless it waits already. -/
def submit : WorkQueue ω := { q with queue := if w ∈ q.queue then q.queue else q.queue ++ [w] }

/-- Start the timer of an item, in place of the one that runs. -/
def arm : WorkQueue ω := { q with armed := if w ∈ q.armed then q.armed else q.armed ++ [w] }

/-- Stop the timer of an item. -/
def disarm : WorkQueue ω := { q with armed := q.armed.filter (· ≠ w) }

/-- Have an item run after a delay; without one it is submitted at once. -/
def reschedule (delay : ℕ) : WorkQueue ω :=
  if delay = 0 then (q.disarm w).submit w else q.arm w

/-- Take an item out of the queue and stop its timer. -/
def cancel : WorkQueue ω :=
  { queue := q.queue.filter (· ≠ w), armed := q.armed.filter (· ≠ w) }

/-- The timer of an item expires. -/
def expire : WorkQueue ω := (q.disarm w).submit w

/-- An item waits or has a running timer. -/
def Pending : Prop := w ∈ q.armed ∨ w ∈ q.queue

instance : Decidable (q.Pending w) := inferInstanceAs (Decidable (_ ∨ _))

variable {q w} {v : ω}

/-! ### Which items wait -/

@[simp] lemma mem_submit : v ∈ (q.submit w).queue ↔ v ∈ q.queue ∨ v = w := by
  by_cases hw : w ∈ q.queue
  · simp only [submit, hw, if_true]
    constructor
    · exact .inl
    · rintro (hv | rfl)
      · exact hv
      · exact hw
  · simp [submit, hw]

@[simp] lemma armed_submit : (q.submit w).armed = q.armed := rfl

@[simp] lemma queue_arm : (q.arm w).queue = q.queue := rfl

@[simp] lemma queue_disarm : (q.disarm w).queue = q.queue := rfl

@[simp] lemma mem_armed_arm : v ∈ (q.arm w).armed ↔ v ∈ q.armed ∨ v = w := by
  by_cases hw : w ∈ q.armed
  · simp only [arm, hw, if_true]
    constructor
    · exact .inl
    · rintro (hv | rfl)
      · exact hv
      · exact hw
  · simp [arm, hw]

@[simp] lemma mem_armed_disarm : v ∈ (q.disarm w).armed ↔ v ∈ q.armed ∧ v ≠ w := by
  simp [disarm]

@[simp] lemma mem_cancel : v ∈ (q.cancel w).queue ↔ v ∈ q.queue ∧ v ≠ w := by simp [cancel]

@[simp] lemma mem_armed_cancel : v ∈ (q.cancel w).armed ↔ v ∈ q.armed ∧ v ≠ w := by
  simp [cancel]

/-- Rescheduling an item queues no other one. -/
lemma mem_reschedule_of_ne {delay : ℕ} (h : v ≠ w) :
    v ∈ (q.reschedule w delay).queue ↔ v ∈ q.queue := by
  unfold reschedule
  split
  · simp [h]
  · rw [queue_arm]

/-! ### Which items are pending -/

@[simp] lemma pending_submit : (q.submit w).Pending v ↔ q.Pending v ∨ v = w := by
  simp only [Pending, armed_submit, mem_submit]
  tauto

@[simp] lemma pending_reschedule {delay : ℕ} :
    (q.reschedule w delay).Pending v ↔ q.Pending v ∨ v = w := by
  unfold reschedule
  split
  · rw [pending_submit]
    simp only [Pending, mem_armed_disarm, queue_disarm]
    tauto
  · simp only [Pending, mem_armed_arm, queue_arm]
    tauto

@[simp] lemma pending_cancel : (q.cancel w).Pending v ↔ q.Pending v ∧ v ≠ w := by
  simp only [Pending, mem_cancel, mem_armed_cancel]
  tauto

lemma pending_expire (h : w ∈ q.armed) : (q.expire w).Pending v ↔ q.Pending v := by
  rw [expire, pending_submit]
  simp only [Pending, mem_armed_disarm, queue_disarm]
  constructor
  · rintro ((⟨hv, -⟩ | hv) | rfl)
    · exact .inl hv
    · exact .inr hv
    · exact .inl h
  · rintro (hv | hv)
    · by_cases hvw : v = w
      · exact .inr hvw
      · exact .inl (.inl ⟨hv, hvw⟩)
    · exact .inl (.inr hv)

omit [DecidableEq ω] in
/-- Taking the first item off the queue leaves the others pending. -/
lemma pending_tail {rest : List ω} (hq : q.queue = w :: rest) (hv : v ≠ w) :
    ({ q with queue := rest } : WorkQueue ω).Pending v ↔ q.Pending v := by
  simp [Pending, hq, hv]

/-! ### The order of the items -/

variable {R : ω → ω → Prop}

/-- A submitted item stands behind every item that waits. -/
lemma pairwise_submit (h : q.queue.Pairwise R) (hw : ∀ v ∈ q.queue, w ∉ q.queue → R v w) :
    (q.submit w).queue.Pairwise R := by
  by_cases hmem : w ∈ q.queue
  · simpa only [submit, hmem, if_true] using h
  · simp only [submit, hmem, if_false]
    refine List.pairwise_append.2 ⟨h, List.pairwise_singleton R w, ?_⟩
    rintro v hv w' hw'
    obtain rfl := List.mem_singleton.1 hw'
    exact hw v hv hmem

lemma pairwise_reschedule {delay : ℕ} (h : q.queue.Pairwise R)
    (hw : ∀ v ∈ q.queue, w ∉ q.queue → R v w) : (q.reschedule w delay).queue.Pairwise R := by
  unfold reschedule
  split
  · exact pairwise_submit h hw
  · exact h

/-- No item waits twice. -/
lemma nodup_submit (h : q.queue.Nodup) : (q.submit w).queue.Nodup := by
  refine pairwise_submit h ?_
  rintro v hv hw rfl
  exact hw hv

lemma mem_armed_of_reschedule {delay : ℕ} (h : v ∈ (q.reschedule w delay).armed) (hne : v ≠ w) :
    v ∈ q.armed := by
  unfold reschedule at h
  split at h
  · exact (mem_armed_disarm.1 h).1
  · exact (mem_armed_arm.1 h).resolve_right hne

lemma nodup_reschedule {delay : ℕ} (h : q.queue.Nodup) : (q.reschedule w delay).queue.Nodup := by
  refine pairwise_reschedule h ?_
  rintro v hv hw rfl
  exact hw hv

end WorkQueue
