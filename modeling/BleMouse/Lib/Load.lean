/-
The load of a work queue.

Every item has a weight, and the load of a queue is the weight of what waits in it
(`WorkQueue.load`).  When an item submits only items that weigh less than itself together, the load
falls with every item that the worker runs, and the queue runs empty.
-/
import BleMouse.Lib.WorkQueue

namespace WorkQueue

universe u

variable {ω : Type u} {q : WorkQueue ω} {w : ω}

/-- The weight of the items that wait. -/
def load (weight : ω → ℕ) (q : WorkQueue ω) : ℕ := (q.queue.map weight).sum

variable {weight : ω → ℕ}

/-- The worker takes an item. -/
lemma load_take {rest : List ω} (hq : q.queue = w :: rest) :
    ({ q with queue := rest } : WorkQueue ω).load weight + weight w = q.load weight := by
  simp only [load, hq, List.map_cons, List.sum_cons]
  omega

variable [DecidableEq ω]

lemma load_submit_le (w : ω) : (q.submit w).load weight ≤ q.load weight + weight w := by
  by_cases hmem : w ∈ q.queue
  · simp only [load, submit, hmem, if_true]
    omega
  · simp [load, submit, hmem]

lemma load_cancel_le (w : ω) : (q.cancel w).load weight ≤ q.load weight :=
  (List.filter_sublist.map weight).sum_le_sum fun _ _ => Nat.zero_le _

/-- An item that is submitted later adds nothing yet. -/
lemma load_reschedule {delay : ℕ} (hdelay : delay ≠ 0) (w : ω) :
    (q.reschedule w delay).load weight = q.load weight := by
  unfold reschedule
  rw [if_neg hdelay]
  rfl

lemma load_reschedule_le (w : ω) (delay : ℕ) :
    (q.reschedule w delay).load weight ≤ q.load weight + weight w := by
  unfold reschedule
  split
  · exact load_submit_le w
  · exact Nat.le_add_right _ _

end WorkQueue
