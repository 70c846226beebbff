/-
The worker comes to rest.

While the producers pause, only the calls that have left their locked section and the worker
itself go on (`Label.Internal`).  Each of their steps uses up some of the worker's remaining
work, `State.remaining`, and a frame in the queue or a pending reset always has somebody left
who will notice it, `Noticed`: no wake-up is lost.

* `remaining_lt`: an internal step uses up remaining work;
* `noticed_step`: every step keeps the invariant;
* `worker_comes_to_rest`: the main result.
-/
import BleMouse.Lib.Progress
import BleMouse.Output.Stream

namespace BleMouse.Output

open BleMouse.Hid Transition

/-! ### The remaining work -/

/-- The steps that are taken while the producers pause. -/
def Label.Internal : Label → Prop
  | .submit | .work => True
  | _ => False

/-- The steps of the worker after `apply_pending_reset`, for an empty queue. -/
def Next.cost : Next → ℕ
  | .dequeue => 3
  | .check _ => 69
  | .done => 0

/-- A bound on the steps of the worker until it is idle, for an empty queue. -/
def Position.cost : Position → ℕ
  | .idle => 0
  | .readReset next => next.cost + 2
  | .applyReset _ _ next => next.cost + 1
  | .dequeue => 3
  | .checkEpoch _ => 69
  | .firstPacket _ => 68
  | .recheckEpoch _ i => 2 * (32 - i) + 5
  | .morePacket _ i => 2 * (32 - i) + 4

/-- A bound on the steps until nothing is left to do. -/
def State.remaining (s : State) : ℕ :=
  s.worker.cost + 72 * s.mouseInputs.length + (if s.submitted then 6 else 0) + 7 * s.midCall

section Cost

variable (input : QueuedInput) (physical : Buttons) (upTo i : ℕ) (next : Next)

@[simp] lemma cost_idle : Position.idle.cost = 0 := rfl

@[simp] lemma cost_readReset : (Position.readReset next).cost = next.cost + 2 := rfl

@[simp] lemma cost_applyReset :
    (Position.applyReset physical upTo next).cost = next.cost + 1 := rfl

@[simp] lemma cost_dequeue : Position.dequeue.cost = 3 := rfl

@[simp] lemma cost_checkEpoch : (Position.checkEpoch input).cost = 69 := rfl

@[simp] lemma cost_firstPacket : (Position.firstPacket input).cost = 68 := rfl

@[simp] lemma cost_recheckEpoch :
    (Position.recheckEpoch input i).cost = 2 * (32 - i) + 5 := rfl

@[simp] lemma cost_morePacket : (Position.morePacket input i).cost = 2 * (32 - i) + 4 := rfl

@[simp] lemma cost_position : next.position.cost = next.cost := by
  cases next <;> rfl

lemma nextCost_le : next.cost ≤ 69 := by
  cases next <;> simp [Next.cost]

/-- No position is further from rest than the one before a frame is checked. -/
lemma cost_le (w : Position) : w.cost ≤ 71 := by
  cases w with
  | readReset next =>
    have := nextCost_le next
    rw [cost_readReset]
    omega
  | applyReset physical upTo next =>
    have := nextCost_le next
    rw [cost_applyReset]
    omega
  | recheckEpoch input i =>
    rw [cost_recheckEpoch]
    omega
  | morePacket input i =>
    rw [cost_morePacket]
    omega
  | _ => simp

end Cost

/-- After packet `i` of a frame the worker has fewer packets left. -/
lemma sendChunk_remaining {s : State} {i : ℕ} (hcost : 2 * (32 - i) + 4 ≤ s.worker.cost)
    (input : QueuedInput) (edges : MouseButtonEdges) :
    (s.sendChunk input i edges).remaining < s.remaining := by
  have hless {w : Position} (hw : w.cost < 2 * (32 - i) + 4) (sent : List Packet) :
      State.remaining { s with sent, worker := w } < s.remaining := by
    unfold State.remaining
    dsimp only
    omega
  unfold State.sendChunk
  dsimp only
  split
  · exact hless (by rw [cost_dequeue]; omega) _
  · split
    case isTrue hi => exact hless (by rw [cost_recheckEpoch]; omega) _
    case isFalse => exact hless (by rw [cost_dequeue]; omega) _

/-- A step of the worker uses up some of what remains. -/
lemma work_remaining {s s' : State} (h : s.work = some s') : s'.remaining < s.remaining := by
  unfold State.work at h
  split at h
  case h_1 hw =>
    split at h
    case isTrue hsubmitted =>
      cases h
      simp only [State.remaining, hw, hsubmitted, cost_idle, cost_readReset, Next.cost, if_true,
        Bool.false_eq_true, if_false]
      omega
    case isFalse => cases h
  case h_2 next hw =>
    dsimp only at h
    split at h
    · cases h
      simp only [State.remaining, hw, cost_readReset, cost_applyReset]
      omega
    · cases h
      simp only [State.remaining, hw, cost_readReset, cost_position]
      omega
  case h_3 hw =>
    cases h
    simp only [State.remaining, hw, cost_applyReset, cost_position, State.send]
    omega
  case h_4 hw =>
    split at h
    case h_1 hq =>
      cases h
      simp only [State.remaining, hw, hq, cost_dequeue, cost_readReset, Next.cost,
        List.length_cons]
      omega
    case h_2 hq =>
      cases h
      simp only [State.remaining, hw, cost_dequeue, cost_readReset, Next.cost]
      omega
  case h_5 hw =>
    split at h
    · cases h
      simp only [State.remaining, hw, cost_checkEpoch, cost_firstPacket]
      omega
    · cases h
      simp only [State.remaining, hw, cost_checkEpoch, cost_dequeue]
      omega
  case h_6 input hw =>
    cases h
    exact sendChunk_remaining
      (s := { s with buttons := (mouseButtonsUpdate s.buttons input.buttons).1 })
      (by dsimp only; rw [hw, cost_firstPacket]) input
      (mouseButtonsUpdate s.buttons input.buttons).2
  case h_7 hw =>
    split at h
    · cases h
      simp only [State.remaining, hw, cost_recheckEpoch, cost_morePacket]
      omega
    · cases h
      simp only [State.remaining, hw, cost_recheckEpoch, cost_dequeue]
      omega
  case h_8 input i hw =>
    cases h
    exact sendChunk_remaining (by rw [hw, cost_morePacket]) input {}

/-- While the producers pause, every step uses up some of what remains. -/
lemma remaining_lt {cap : ℕ} {s s' : State} {l : Label} (hl : l.Internal)
    (h : step cap s l = some s') : s'.remaining < s.remaining := by
  cases l with
  | submit =>
    simp only [step] at h
    split at h
    case isTrue => cases h
    case isFalse hcall =>
      cases h
      simp only [State.remaining, State.submit, if_true]
      split <;> omega
  | work => exact work_remaining h
  | _ => exact hl.elim

/-- What remains is bounded by the queue and the calls on their way. -/
lemma remaining_le (s : State) :
    s.remaining ≤ 77 + 72 * s.mouseInputs.length + 7 * s.midCall := by
  have hcost := cost_le s.worker
  unfold State.remaining
  split <;> omega

/-! ### No wake-up is lost -/

/-- The worker looks into the queue again before it is idle. -/
def Position.Dequeues : Position → Prop
  | .idle | .readReset .done | .applyReset _ _ .done => False
  | _ => True

/-- The worker looks for a pending reset again before it is idle. -/
def Position.ReadsReset : Position → Prop
  | .idle | .applyReset _ _ .done => False
  | _ => True

/-- Frames in the queue and a pending reset are noticed: by a call that will submit the work, by
the work that is submitted, or by the worker as it goes on. -/
structure Noticed (s : State) : Prop where
  inputs : s.mouseInputs ≠ [] → s.midCall ≠ 0 ∨ s.submitted = true ∨ s.worker.Dequeues
  reset : s.resetPending = true → s.midCall ≠ 0 ∨ s.submitted = true ∨ s.worker.ReadsReset

lemma Position.Dequeues.readsReset {w : Position} (h : w.Dequeues) : w.ReadsReset := by
  cases w with
  | idle => exact h
  | applyReset _ _ next =>
    cases next with
    | done => exact h
    | _ => trivial
  | _ => trivial

/-- A call leaves its locked section and will submit the work. -/
lemma noticed_of_call {s : State} (h : s.midCall ≠ 0) : Noticed s :=
  ⟨fun _ => .inl h, fun _ => .inl h⟩

/-- A worker that looks into the queue again notices everything. -/
lemma noticed_of_dequeues {s : State} (h : s.worker.Dequeues) : Noticed s :=
  ⟨fun _ => .inr (.inr h), fun _ => .inr (.inr h.readsReset)⟩

lemma AfterChunk.dequeues {input : QueuedInput} {i : ℕ} {w : Position} (h : AfterChunk input i w) :
    w.Dequeues := by
  rcases h with rfl | ⟨frame, rfl⟩
  · trivial
  · trivial

/-- Every step leaves somebody to notice what there is to do. -/
lemma noticed_step {cap : ℕ} {s s' : State} {l : Label} (h : Noticed s)
    (hstep : step cap s l = some s') : Noticed s' := by
  cases step_effect hstep with
  | queued => exact noticed_of_call (Nat.succ_ne_zero _)
  | reset => exact noticed_of_call (Nat.succ_ne_zero _)
  | submit => exact ⟨fun _ => .inr (.inl rfl), fun _ => .inr (.inl rfl)⟩
  | start => exact noticed_of_dequeues trivial
  | @readPending next hw _ =>
    cases next with
    | done =>
      -- the queue has been found empty; frames that came since have their own calls
      refine ⟨fun hq => ?_, fun hp => absurd hp Bool.false_ne_true⟩
      rcases h.inputs hq with hcall | hsubmitted | hdequeues
      · exact .inl hcall
      · exact .inr (.inl hsubmitted)
      · rw [hw] at hdequeues
        exact hdequeues.elim
    | _ => exact noticed_of_dequeues trivial
  | @readNothing next hw hp =>
    cases next with
    | done =>
      refine ⟨fun hq => ?_, fun hp' => absurd (hp.symm.trans hp') Bool.false_ne_true⟩
      rcases h.inputs hq with hcall | hsubmitted | hdequeues
      · exact .inl hcall
      · exact .inr (.inl hsubmitted)
      · rw [hw] at hdequeues
        exact hdequeues.elim
    | _ => exact noticed_of_dequeues trivial
  | @apply physical upTo next hw =>
    cases next with
    | done =>
      refine ⟨fun hq => ?_, fun hp => ?_⟩
      · rcases h.inputs hq with hcall | hsubmitted | hdequeues
        · exact .inl hcall
        · exact .inr (.inl hsubmitted)
        · rw [hw] at hdequeues
          exact hdequeues.elim
      · rcases h.reset hp with hcall | hsubmitted | hreads
        · exact .inl hcall
        · exact .inr (.inl hsubmitted)
        · rw [hw] at hreads
          exact hreads.elim
    | _ => exact noticed_of_dequeues trivial
  | dequeue => exact noticed_of_dequeues trivial
  | drained hw hq => exact ⟨fun hne => absurd hq hne, fun _ => .inr (.inr trivial)⟩
  | current => exact noticed_of_dequeues trivial
  | stale => exact noticed_of_dequeues trivial
  | first hw hafter => exact noticed_of_dequeues hafter.dequeues
  | recheck hw he =>
    rcases he with ⟨rfl, -⟩ | rfl
    · exact noticed_of_dequeues trivial
    · exact noticed_of_dequeues trivial
  | more hw hafter => exact noticed_of_dequeues hafter.dequeues

lemma run_noticed {cap : ℕ} {ls : List Label} {s : State} (hrun : Run cap {} ls s) : Noticed s :=
  hrun.invariant Noticed ⟨fun h => absurd rfl h, fun h => absurd h Bool.false_ne_true⟩
    fun _ _ _ h hstep => noticed_step h hstep

lemma work_isSome {s : State} (h : s.worker ≠ .idle) : ∃ s', s.work = some s' := by
  unfold State.work
  split
  case h_1 hw => exact absurd hw h
  case h_2 =>
    dsimp only
    split
    · exact ⟨_, rfl⟩
    · exact ⟨_, rfl⟩
  case h_3 => exact ⟨_, rfl⟩
  case h_4 =>
    split
    · exact ⟨_, rfl⟩
    · exact ⟨_, rfl⟩
  case h_5 =>
    split
    · exact ⟨_, rfl⟩
    · exact ⟨_, rfl⟩
  case h_6 => exact ⟨_, rfl⟩
  case h_7 =>
    split
    · exact ⟨_, rfl⟩
    · exact ⟨_, rfl⟩
  case h_8 => exact ⟨_, rfl⟩

/-- As long as something is left to do, somebody can do it. -/
lemma internal_step {cap : ℕ} {s : State} (h : Noticed s) (hrest : ¬Quiescent s) :
    ∃ l s', l.Internal ∧ step cap s l = some s' := by
  by_cases hcall : s.midCall = 0
  case neg => exact ⟨.submit, s.submit, trivial, if_neg hcall⟩
  by_cases hw : s.worker = .idle
  case neg =>
    obtain ⟨s', hs'⟩ := work_isSome hw
    exact ⟨.work, s', trivial, hs'⟩
  by_cases hsubmitted : s.submitted = true
  case pos =>
    refine ⟨.work, { s with submitted := false, worker := .readReset .dequeue }, trivial, ?_⟩
    simp only [step, State.work, hw, hsubmitted, if_true]
  -- nobody is left to notice anything, so there is nothing
  refine absurd ⟨hcall, hw, Bool.eq_false_of_not_eq_true hsubmitted, ?_, ?_⟩ hrest
  · by_contra hq
    rcases h.inputs hq with h | h | h
    · exact h hcall
    · exact hsubmitted h
    · rw [hw] at h
      exact h
  · by_contra hp
    rcases h.reset (Bool.eq_true_of_not_eq_false hp) with h | h | h
    · exact h hcall
    · exact hsubmitted h
    · rw [hw] at h
      exact h

/-! ### Rest -/

lemma run_inputs_le {cap : ℕ} {ls : List Label} {s : State} (hrun : Run cap {} ls s) :
    s.mouseInputs.length ≤ cap := by
  refine hrun.invariant (fun s => s.mouseInputs.length ≤ cap) (Nat.zero_le _)
    fun t l t' ht hstep => ?_
  cases step_effect hstep with
  | queued frame physical hroom =>
    rw [List.length_append]
    exact hroom
  | reset => exact Nat.zero_le _
  | dequeue hw hq =>
    rw [hq] at ht
    exact (Nat.le_succ _).trans ht
  | _ => exact ht

/-- The steps while the producers pause make progress towards rest. -/
lemma internal_progress (cap : ℕ) :
    Progress (fun s l s' => l.Internal ∧ step cap s l = some s') (fun _ => True) Noticed Quiescent
      State.remaining where
  keeps := fun h _ hstep _ => noticed_step h hstep.2
  le := fun _ _ hstep _ => (remaining_lt hstep.1 hstep.2).le
  lt := fun _ _ hstep _ _ => remaining_lt hstep.1 hstep.2

/-- **The worker comes to rest.**  From every state of every run, while the producers pause,
there are at most `77 + 72 * cap + 7 * midCall` steps; before the queue is empty, every reset is
applied and the worker is idle, another one of them can be taken; and such steps lead there. -/
theorem worker_comes_to_rest {cap : ℕ} {ls : List Label} {s : State} (hrun : Run cap {} ls s) :
    (∀ ls' s', Transition.Run (fun s l s' => l.Internal ∧ step cap s l = some s') s ls' s' →
      ls'.length ≤ 77 + 72 * cap + 7 * s.midCall ∧
      (Quiescent s' ∨ ∃ l s'', l.Internal ∧ step cap s' l = some s'')) ∧
    ∃ ls' s', Transition.Run (fun s l s' => l.Internal ∧ step cap s l = some s') s ls' s' ∧
      Quiescent s' := by
  have hnoticed := run_noticed hrun
  refine ⟨fun ls' s' hrun' => ⟨?_, ?_⟩, ?_⟩
  · have hremaining : s'.remaining + ls'.length ≤ s.remaining := by
      induction hrun' with
      | nil => exact le_rfl
      | snoc _ hstep ih =>
        have hlt := remaining_lt hstep.1 hstep.2
        rw [List.length_append, List.length_singleton]
        omega
    have hbound := remaining_le s
    have hcap := run_inputs_le hrun
    omega
  · have hnoticed' := hrun'.invariant Noticed hnoticed fun _ _ _ h hstep => noticed_step h hstep.2
    by_cases hrest : Quiescent s'
    · exact .inl hrest
    · exact .inr (internal_step hnoticed' hrest)
  · obtain ⟨ls', s', hrun', hrest, -⟩ := (internal_progress cap).reachable
      (fun t ht hgoal => by
        obtain ⟨l, t', hl, hstep⟩ := internal_step ht hgoal
        exact ⟨l, t', trivial, hl, hstep⟩) hnoticed
    exact ⟨ls', s', hrun', hrest⟩

/-- A frame, an endpoint change before the worker has seen it, and another frame. -/
def unseenFrame : List Label :=
  [.receive { x := 1 } 1, .endpointChanged, .receive { y := 1 } 3, .submit]

theorem worker_comes_to_rest_unseen :
    ∃ s, Run 8 {} unseenFrame s ∧ ¬Quiescent s ∧ ∃ ls' s',
      Transition.Run (fun s l s' => l.Internal ∧ step 8 s l = some s') s ls' s' ∧
        Quiescent s' := by
  have hcomputes : (unseenFrame.foldlM (step 8) {}).any
      (fun s => decide (s.mouseInputs ≠ [])) = true := by decide
  obtain ⟨s, hrun, hp⟩ := Transition.Run.exists_of_foldlM hcomputes
  refine ⟨s, hrun, fun hquiet => of_decide_eq_true hp hquiet.2.2.2.1, ?_⟩
  exact (worker_comes_to_rest hrun).2

end BleMouse.Output
