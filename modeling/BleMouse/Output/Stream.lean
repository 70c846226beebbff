/-
The integrity of the button stream.

What the worker knows about resets is one number, `State.seen`: the number of resets before
its last locked read.  A reset is pending exactly when it has not seen all of them, and a
frame whose packet it is about to send was received after exactly the resets that it has
applied.  From this the buttons it will have accounted for once the queue is empty,
`State.outcome`, are the physical buttons in every reachable state.

The epoch of the source has 32 bits, so a frame passes its epoch check also after 2 ^ 32
resets.  `NoWrap` excludes such a check.  `button_stream_integrity` holds for runs without
one, and `epoch_wrap_loses_buttons` is a run with one.
-/
import BleMouse.Output.Worker

namespace BleMouse.Output

open BleMouse.Hid Transition

/-! ### Resets the worker has seen -/

/-- The frame the worker has dequeued and whose buttons it has not applied. -/
def Position.inHand : Position → Option QueuedInput
  | .readReset (.check input) => some input
  | .applyReset _ _ (.check input) => some input
  | .checkEpoch input => some input
  | .firstPacket input => some input
  | _ => none

/-- The frame the worker is sending; it has passed its epoch check. -/
def Position.passed : Position → Option QueuedInput
  | .firstPacket input => some input
  | .recheckEpoch input _ => some input
  | .morePacket input _ => some input
  | _ => none

/-- The frame the worker has taken from the queue. -/
def Position.taken (w : Position) : Option QueuedInput := w.inHand.or w.passed

/-- The number of resets before the last locked read. -/
def State.seen (s : State) : ℕ :=
  match s.worker with
  | .applyReset _ upTo _ => upTo
  | _ => s.applied

/-- Fewer than 2 ^ 32 resets have happened since the frame that a step checks was received,
and so since it was dequeued. -/
def NoWrap (s : State) (l : Label) : Prop :=
  l = .work → ∀ input, s.worker = .checkEpoch input → s.resets < input.received + 2 ^ 32

/-- The steps of runs without a wrapped epoch check. -/
def BoundedStep (cap : ℕ) (s : State) (l : Label) (s' : State) : Prop :=
  NoWrap s l ∧ step cap s l = some s'

/-- The epoch of a stream after some resets. -/
def epochAfter (resets : ℕ) : BitVec 32 := BitVec.ofNat 32 resets

/-- What the worker and the queue know about resets. -/
structure Tracks (s : State) : Prop where
  epoch_eq : s.streamEpoch = epochAfter s.resets
  queue : ∀ input ∈ s.mouseInputs, input.received = s.resets ∧
    input.epoch = epochAfter input.received
  taken : ∀ input, s.worker.taken = some input → input.received ≤ s.resets ∧
    input.epoch = epochAfter input.received
  seen_le : s.seen ≤ s.resets
  applied_le : s.applied ≤ s.seen
  pending_iff : s.resetPending = true ↔ s.seen < s.resets
  /-- A frame in hand was received before the read that followed its dequeue. -/
  read : ∀ input, s.worker.inHand = some input → s.worker ≠ .readReset (.check input) →
    input.received ≤ s.seen
  /-- A frame that has passed its check was received after all resets applied. -/
  passed : ∀ input, s.worker.passed = some input → input.received = s.applied

lemma tracks_initial : Tracks {} := by
  constructor <;> simp [epochAfter, Position.taken, Position.inHand, Position.passed, State.seen]

lemma epochAfter_succ (n : ℕ) : epochAfter n + 1 = epochAfter (n + 1) := by
  apply BitVec.eq_of_toNat_eq
  simp [epochAfter, BitVec.toNat_add]

/-- Epochs tell apart numbers of resets that are less than 2 ^ 32 apart. -/
lemma epochAfter_inj {m n : ℕ} (hle : m ≤ n) (hlt : n < m + 2 ^ 32)
    (h : epochAfter m = epochAfter n) : m = n := by
  have hmod := congrArg BitVec.toNat h
  simp only [epochAfter, BitVec.toNat_ofNat] at hmod
  omega

lemma AfterChunk.inHand {input : QueuedInput} {i : ℕ} {w : Position} (h : AfterChunk input i w) :
    w.inHand = none := by
  rcases h with rfl | ⟨frame, rfl⟩ <;> rfl

lemma AfterChunk.passed {input input' : QueuedInput} {i : ℕ} {w : Position}
    (h : AfterChunk input i w) (hw : w.passed = some input') :
    { input' with frame := input.frame } = input := by
  rcases h with rfl | ⟨frame, rfl⟩
  · cases hw
  · cases hw
    rfl

lemma seen_afterChunk {s : State} {input : QueuedInput} {i : ℕ}
    (h : AfterChunk input i s.worker) : s.seen = s.applied := by
  rcases h with h | ⟨frame, h⟩ <;> simp [State.seen, h]

/-- A move of the worker that keeps the frame it has, or drops it, changes nothing it
knows. -/
lemma Tracks.moved {s s' : State} (h : Tracks s) (hepoch : s'.streamEpoch = s.streamEpoch)
    (hresets : s'.resets = s.resets) (hqueue : s'.mouseInputs = s.mouseInputs)
    (hpending : s'.resetPending = s.resetPending) (happlied : s'.applied = s.applied)
    (hseen : s'.seen = s.seen) (hhand : s'.worker.inHand = none)
    (hpassed : ∀ input, s'.worker.passed = some input → ∃ frame,
      s.worker.passed = some { input with frame }) : Tracks s' := by
  have htaken : ∀ input, s'.worker.taken = some input → input.received ≤ s.resets ∧
      input.epoch = epochAfter input.received := by
    intro input hinput
    rw [Position.taken, hhand, Option.none_or] at hinput
    obtain ⟨frame, hframe⟩ := hpassed input hinput
    refine h.taken { input with frame } ?_
    rw [Position.taken, hframe]
    cases hw : s.worker <;> simp_all [Position.inHand, Position.passed]
  constructor
  · rw [hepoch, hresets]
    exact h.epoch_eq
  · rw [hqueue, hresets]
    exact h.queue
  · rw [hresets]
    exact htaken
  · rw [hseen, hresets]
    exact h.seen_le
  · rw [hseen, happlied]
    exact h.applied_le
  · rw [hpending, hseen, hresets]
    exact h.pending_iff
  · intro input hinput
    rw [hhand] at hinput
    cases hinput
  · intro input hinput
    obtain ⟨frame, hframe⟩ := hpassed input hinput
    rw [happlied]
    exact h.passed { input with frame } hframe

/-- A step without a wrapped epoch check. -/
lemma tracks_step {cap : ℕ} {s s' : State} {l : Label} (h : Tracks s)
    (hstep : BoundedStep cap s l s') : Tracks s' := by
  obtain ⟨hwrap, hstep⟩ := hstep
  cases step_effect hstep with
  -- a frame is queued with the epoch of all the resets so far
  | queued frame physical hroom =>
    refine ⟨h.epoch_eq, ?_, h.taken, h.seen_le, h.applied_le, h.pending_iff, h.read, h.passed⟩
    intro input hinput
    rcases List.mem_append.1 hinput with hinput | hinput
    · exact h.queue input hinput
    · rw [List.mem_singleton.1 hinput]
      exact ⟨rfl, h.epoch_eq⟩
  | @reset l physical hl =>
    have hseen := h.seen_le
    refine ⟨?_, by simp [State.reset], ?_, ?_, h.applied_le, ?_, h.read, h.passed⟩
    · simp only [State.reset, h.epoch_eq, epochAfter_succ]
    · intro input hinput
      obtain ⟨hle, hepoch⟩ := h.taken input hinput
      exact ⟨Nat.le_succ_of_le hle, hepoch⟩
    · exact Nat.le_succ_of_le hseen
    · exact iff_of_true rfl (Nat.lt_succ_of_le hseen)
  | submit =>
    exact ⟨h.epoch_eq, h.queue, h.taken, h.seen_le, h.applied_le, h.pending_iff, h.read, h.passed⟩
  | start hw =>
    exact h.moved rfl rfl rfl rfl rfl (by simp [State.seen, hw]) rfl (by simp [Position.passed])
  -- the worker has seen every reset now
  | @readPending next hw hp =>
    have hseen := h.seen_le
    have happlied := h.applied_le
    have htaken : ∀ input, (Position.applyReset s.resetButtons s.resets next).taken = some input →
        input.received ≤ s.resets ∧ input.epoch = epochAfter input.received := by
      intro input hinput
      refine h.taken input ?_
      rw [hw]
      cases next <;> exact hinput
    refine ⟨h.epoch_eq, h.queue, htaken, le_rfl, happlied.trans hseen, by simp [State.seen], ?_,
      by simp [Position.passed]⟩
    intro input hinput _
    refine (htaken input ?_).1
    rw [Position.taken, hinput]
    rfl
  | @readNothing next hw hp =>
    -- nothing is pending, so the worker has seen all resets
    have hseen : s.seen = s.applied := by simp [State.seen, hw]
    have hall : s.applied = s.resets := by
      have hle := h.seen_le
      have hpending := mt h.pending_iff.2 (by simp [hp])
      omega
    cases next with
    | dequeue =>
      exact h.moved rfl rfl rfl rfl rfl hseen.symm rfl
        (by simp [Position.passed, Next.position])
    | done =>
      exact h.moved rfl rfl rfl rfl rfl hseen.symm rfl
        (by simp [Position.passed, Next.position])
    | check input =>
      have hinput := h.taken input (by rw [hw]; rfl)
      refine ⟨h.epoch_eq, h.queue, ?_, ?_, le_rfl, ?_, ?_, by simp [Next.position, Position.passed]⟩
      · rintro _ ⟨⟩
        exact hinput
      · exact hall.le
      · rw [h.pending_iff, hseen]
        rfl
      · rintro _ ⟨⟩ _
        simp only [State.seen, Next.position]
        omega
  -- what it has seen is applied; a frame in hand has still to pass its check
  | @apply physical upTo next hw =>
    have hseen : s.seen = upTo := by simp [State.seen, hw]
    have hle := h.seen_le
    have hpending := h.pending_iff
    rw [hseen] at hle hpending
    cases next with
    | dequeue =>
      refine ⟨h.epoch_eq, h.queue, ?_, hle, le_rfl, hpending, ?_, ?_⟩ <;>
        simp [Next.position, Position.taken, Position.inHand, Position.passed]
    | done =>
      refine ⟨h.epoch_eq, h.queue, ?_, hle, le_rfl, hpending, ?_, ?_⟩ <;>
        simp [Next.position, Position.taken, Position.inHand, Position.passed]
    | check input =>
      have hinput := h.taken input (by rw [hw]; rfl)
      have hread := h.read input (by rw [hw]; rfl) (by rw [hw]; simp)
      rw [hseen] at hread
      refine ⟨h.epoch_eq, h.queue, ?_, hle, le_rfl, hpending, ?_,
        by simp [Next.position, Position.passed]⟩
      · rintro _ ⟨⟩
        exact hinput
      · rintro _ ⟨⟩ _
        exact hread
  | @dequeue input rest hw hq =>
    have hseen : s.seen = s.applied := by simp [State.seen, hw]
    have hqueue := h.queue
    rw [hq] at hqueue
    have hinput := hqueue input (by simp)
    refine ⟨h.epoch_eq, fun i hi => hqueue i (by simp [hi]), ?_, ?_, le_rfl, ?_, ?_,
      by simp [Position.passed]⟩
    · rintro _ ⟨⟩
      exact ⟨hinput.1.le, hinput.2⟩
    · exact hseen ▸ h.seen_le
    · rw [h.pending_iff, hseen]
      rfl
    · rintro _ ⟨⟩ hne
      exact absurd rfl hne
  | drained hw hq =>
    exact h.moved rfl rfl rfl rfl rfl (by simp [State.seen, hw]) rfl (by simp [Position.passed])
  -- without a wrapped check, equal epochs are equal numbers of resets
  | @current input hw he =>
    have hseen : s.seen = s.applied := by simp [State.seen, hw]
    have hinput := h.taken input (by rw [hw]; rfl)
    have hread := h.read input (by rw [hw]; rfl) (by rw [hw]; simp)
    rw [hinput.2, h.epoch_eq] at he
    have hcurrent := epochAfter_inj hinput.1 (hwrap rfl input hw) he
    have happlied := h.applied_le
    have hle := h.seen_le
    refine ⟨h.epoch_eq, h.queue, ?_, hseen ▸ hle, le_rfl, ?_, ?_, ?_⟩
    · rintro _ ⟨⟩
      exact hinput
    · rw [h.pending_iff, hseen]
      rfl
    · rintro _ ⟨⟩ _
      exact hseen ▸ hread
    · rintro _ ⟨⟩
      simp only
      omega
  | stale hw he =>
    exact h.moved rfl rfl rfl rfl rfl (by simp [State.seen, hw]) rfl (by simp [Position.passed])
  | @first input w hw hafter =>
    have hseen : s.seen = s.applied := by simp [State.seen, hw]
    refine h.moved rfl rfl rfl rfl rfl ((seen_afterChunk hafter).trans hseen.symm) hafter.inHand ?_
    intro input' hinput'
    rw [hw]
    exact ⟨input.frame, by rw [hafter.passed hinput']; rfl⟩
  -- the frame is sent on, or dropped
  | @recheck input i w hw he =>
    have hseen : s.seen = s.applied := by simp [State.seen, hw]
    rcases he with ⟨rfl, -⟩ | rfl
    · refine h.moved rfl rfl rfl rfl rfl hseen.symm rfl ?_
      rintro _ ⟨⟩
      exact ⟨input.frame, by rw [hw]; rfl⟩
    · exact h.moved rfl rfl rfl rfl rfl hseen.symm rfl (by simp [Position.passed])
  | @more input i w hw hafter =>
    have hseen : s.seen = s.applied := by simp [State.seen, hw]
    refine h.moved rfl rfl rfl rfl rfl ((seen_afterChunk hafter).trans hseen.symm) hafter.inHand ?_
    intro input' hinput'
    rw [hw]
    exact ⟨input.frame, by rw [hafter.passed hinput']; rfl⟩

/-! ### The buttons accounted for -/

/-- The buttons accounted for after the resets so far. -/
def State.afterReset (s : State) : Buttons :=
  if s.resetPending then s.resetButtons
  else match s.worker with
    | .applyReset physical _ _ => physical
    | _ => s.buttons.forwarded ||| s.buttons.suppressed

/-- The buttons that will be accounted for when the queue has been drained: those of the
newest frame that is not stale, or those after the last reset. -/
def State.outcome (s : State) : Buttons :=
  match s.mouseInputs.getLast? with
  | some input => input.buttons &&& allButtons
  | none =>
    match s.worker.inHand with
    | some input => if input.received = s.resets then input.buttons &&& allButtons else s.afterReset
    | none => s.afterReset

/-- The buttons accounted for are the physical ones. -/
structure Accounts (s : State) : Prop where
  outcome_eq : s.outcome = s.physicalButtons
  disjoint : ∀ b, ¬(Has s.buttons.forwarded b ∧ Has s.buttons.suppressed b)
  physical_le : s.physicalButtons &&& allButtons = s.physicalButtons
  reset_le : s.resetButtons &&& allButtons = s.resetButtons
  read_le : ∀ physical upTo next, s.worker = .applyReset physical upTo next →
    physical &&& allButtons = physical

lemma and_allButtons (s : Buttons) : (s &&& allButtons) &&& allButtons = s &&& allButtons := by
  rw [BitVec.and_assoc, BitVec.and_self]

lemma accounts_initial : Accounts {} := by
  constructor <;> simp [State.outcome, State.afterReset, Position.inHand]

lemma update_disjoint (state : MouseButtonState) (physical : Buttons) (b : ℕ) :
    ¬(Has (mouseButtonsUpdate state physical).1.forwarded b ∧
      Has (mouseButtonsUpdate state physical).1.suppressed b) := by
  rw [has_update_forwarded, has_update_suppressed]
  tauto

/-- After an update with a mask, exactly its buttons are forwarded or suppressed. -/
lemma update_union (state : MouseButtonState) (physical : Buttons) :
    (mouseButtonsUpdate state physical).1.forwarded |||
      (mouseButtonsUpdate state physical).1.suppressed = physical &&& allButtons := by
  apply ext_has
  intro b _
  rw [has_or, has_update_forwarded, has_update_suppressed, has_mask]
  tauto

/-- A change that keeps the queue, the frame in hand and what holds after the resets keeps
the outcome. -/
lemma outcome_congr {s s' : State} (hq : s'.mouseInputs = s.mouseInputs)
    (hresets : s'.resets = s.resets) (hhand : s'.worker.inHand = s.worker.inHand)
    (hafter : s'.afterReset = s.afterReset) : s'.outcome = s.outcome := by
  simp only [State.outcome, hq, hresets, hhand, hafter]

lemma afterReset_of_ne {s : State}
    (h : ∀ physical upTo next, s.worker ≠ .applyReset physical upTo next) :
    s.afterReset = if s.resetPending then s.resetButtons
      else s.buttons.forwarded ||| s.buttons.suppressed := by
  unfold State.afterReset
  split
  · rfl
  · split
    · rename_i hw
      exact absurd hw (h _ _ _)
    · rfl

lemma AfterChunk.ne_applyReset {input : QueuedInput} {i : ℕ} {w : Position}
    (h : AfterChunk input i w) (physical : Buttons) (upTo : ℕ) (next : Next) :
    w ≠ .applyReset physical upTo next := by
  rcases h with rfl | ⟨frame, rfl⟩ <;> simp

lemma accounts_step {cap : ℕ} {s s' : State} {l : Label} (ht : Tracks s) (h : Accounts s)
    (hstep : BoundedStep cap s l s') : Accounts s' := by
  obtain ⟨hwrap, hstep⟩ := hstep
  obtain ⟨houtcome, hdisjoint, hphysical, hreset, hread⟩ := h
  cases step_effect hstep with
  | queued frame physical hroom =>
    refine ⟨?_, hdisjoint, and_allButtons _, hreset, hread⟩
    simp [State.outcome]
  | @reset l physical hl =>
    have hmask : physical &&& allButtons = physical := by
      cases hl with
      | overflow frame physical hfull => exact and_allButtons _
      | endpoint => exact hphysical
      | disconnect => exact BitVec.zero_and
    refine ⟨?_, hdisjoint, hmask, hmask, hread⟩
    -- the frame in hand is stale now, and the recorded mask is what is left
    have hstale : ∀ input, s.worker.inHand = some input → input.received ≠ s.resets + 1 := by
      intro input hinput
      have := (ht.taken input (by rw [Position.taken, hinput]; rfl)).1
      omega
    cases hhand : s.worker.inHand with
    | none => simp [State.outcome, State.afterReset, State.reset, hhand]
    | some input =>
      simp [State.outcome, State.afterReset, State.reset, hhand, hstale input hhand]
  | submit => exact ⟨houtcome, hdisjoint, hphysical, hreset, hread⟩
  | start hw =>
    refine ⟨?_, hdisjoint, hphysical, hreset, by simp⟩
    rw [← houtcome]
    refine outcome_congr rfl rfl (by simp [hw, Position.inHand]) ?_
    simp [State.afterReset, hw]
  -- the recorded mask was what counted, and is what the worker reads
  | @readPending next hw hp =>
    refine ⟨?_, hdisjoint, hphysical, hreset, ?_⟩
    · rw [← houtcome]
      refine outcome_congr rfl rfl ?_ ?_
      · rw [hw]
        cases next <;> rfl
      · simp [State.afterReset, hp]
    · rintro _ _ _ ⟨⟩
      exact hreset
  | @readNothing next hw hp =>
    refine ⟨?_, hdisjoint, hphysical, hreset, ?_⟩
    · rw [← houtcome]
      refine outcome_congr rfl rfl ?_ ?_
      · rw [hw]
        cases next <;> rfl
      · cases next <;> simp [State.afterReset, hw, hp, Next.position]
    · cases next <;> simp [Next.position]
  | @apply physical upTo next hw =>
    have hmask := hread physical upTo next hw
    refine ⟨?_, by simp [mouseButtonsReset], hphysical, hreset,
      by cases next <;> simp [Next.position]⟩
    rw [← houtcome]
    refine outcome_congr rfl rfl ?_ ?_
    · rw [hw]
      cases next <;> rfl
    · cases next <;> simp [State.afterReset, hw, Next.position, mouseButtonsReset, hmask]
  -- the newest frame is still in the queue, or is the one in hand
  | @dequeue input rest hw hq =>
    refine ⟨?_, hdisjoint, hphysical, hreset, by simp⟩
    rw [← houtcome]
    have hinput := (ht.queue input (by simp [hq])).1
    rcases List.eq_nil_or_concat' rest with rfl | ⟨inputs, last, rfl⟩
    · simp [State.outcome, hq, Position.inHand, hinput]
    · have hlast : (input :: (inputs ++ [last])).getLast? = some last := by
        rw [← List.cons_append, List.getLast?_concat]
      simp only [State.outcome, hq, hlast, List.getLast?_concat]
  | drained hw hq =>
    refine ⟨?_, hdisjoint, hphysical, hreset, by simp⟩
    rw [← houtcome]
    refine outcome_congr rfl rfl (by simp [hw, Position.inHand]) ?_
    simp [State.afterReset, hw]
  | @current input hw he =>
    refine ⟨?_, hdisjoint, hphysical, hreset, by simp⟩
    rw [← houtcome]
    refine outcome_congr rfl rfl (by simp [hw, Position.inHand]) ?_
    simp [State.afterReset, hw]
  -- a frame with another epoch was received before the last reset, so it did not count
  | @stale input hw he =>
    refine ⟨?_, hdisjoint, hphysical, hreset, by simp⟩
    rw [← houtcome]
    have hstale : input.received ≠ s.resets := by
      intro hcurrent
      apply he
      rw [(ht.taken input (by rw [hw]; rfl)).2, hcurrent, ht.epoch_eq]
    rcases List.eq_nil_or_concat' s.mouseInputs with hq | ⟨inputs, last, hq⟩
    · simp [State.outcome, State.afterReset, hq, hw, Position.inHand, hstale]
    · simp [State.outcome, hq]
  | @first input w hw hafter =>
    refine ⟨?_, update_disjoint _ _, hphysical, hreset,
      fun _ _ _ hw' => absurd hw' (hafter.ne_applyReset _ _ _)⟩
    rw [← houtcome]
    rcases List.eq_nil_or_concat' s.mouseInputs with hq | ⟨inputs, last, hq⟩
    · have hseen : s.seen = s.applied := by simp [State.seen, hw]
      have hpassed := ht.passed input (by rw [hw]; rfl)
      have hpending := ht.pending_iff
      have hle := ht.seen_le
      have hhand : s.worker.inHand = some input := by rw [hw]; rfl
      simp only [State.outcome, hq, List.getLast?_nil, hhand, hafter.inHand]
      rw [afterReset_of_ne hafter.ne_applyReset, afterReset_of_ne (by simp [hw])]
      dsimp only
      -- a reset since the check is pending, and decides; without one the frame is current
      by_cases hp : s.resetPending = true
      · have hstale : input.received ≠ s.resets := by
          have := hpending.1 hp
          omega
        rw [if_neg hstale, if_pos hp, if_pos hp]
      · have hcurrent : input.received = s.resets := by
          have := mt hpending.2 hp
          omega
        rw [if_pos hcurrent, if_neg hp]
        exact update_union _ _
    · simp [State.outcome, hq]
  -- the buttons of a frame are applied with its first packet, so nothing changes here
  | @recheck input i w hw he =>
    have hne : ∀ physical upTo next, w ≠ .applyReset physical upTo next := by
      rcases he with ⟨rfl, -⟩ | rfl <;> simp
    refine ⟨?_, hdisjoint, hphysical, hreset, fun _ _ _ hw' => absurd hw' (hne _ _ _)⟩
    rw [← houtcome]
    refine outcome_congr rfl rfl ?_ ?_
    · rw [hw]
      rcases he with ⟨rfl, -⟩ | rfl <;> rfl
    · have hold : s.afterReset = _ := afterReset_of_ne (by simp [hw])
      exact (afterReset_of_ne hne).trans hold.symm
  | @more input i w hw hafter =>
    refine ⟨?_, hdisjoint, hphysical, hreset,
      fun _ _ _ hw' => absurd hw' (hafter.ne_applyReset _ _ _)⟩
    rw [← houtcome]
    refine outcome_congr rfl rfl ?_ ?_
    · rw [hw, hafter.inHand]
      rfl
    · have hold : s.afterReset = _ := afterReset_of_ne (by simp [hw])
      exact (afterReset_of_ne hafter.ne_applyReset).trans hold.symm

/-! ### Key events -/

/-- The values of the key events of button `b`, in order: 1 is a press, 0 a release. -/
def keyEvents (b : ℕ) (sent : List Packet) : List ℤ :=
  (sent.flatMap sendPacket).filterMap fun event =>
    if event.code = .btn b then some event.value else none

/-- Press, release, press, …, starting with a press. -/
def Alternates (l : List ℤ) : Prop := ∀ i v, l[i]? = some v → v = if i % 2 = 0 then 1 else 0

/-- Button `b` has been pressed and not released since. -/
def Held (sent : List Packet) (b : ℕ) : Prop := (keyEvents b sent).getLast? = some 1

instance (sent : List Packet) (b : ℕ) : Decidable (Held sent b) :=
  inferInstanceAs (Decidable (_ = some 1))

lemma keyEvents_concat (b : ℕ) (sent : List Packet) (p : Packet) :
    keyEvents b (sent ++ [p]) = keyEvents b sent ++ keyEvents b [p] := by
  simp [keyEvents]

lemma Alternates.concat {l : List ℤ} (h : Alternates l) {v : ℤ}
    (hv : v = if l.length % 2 = 0 then 1 else 0) : Alternates (l ++ [v]) := by
  intro i w hw
  rw [List.getElem?_append] at hw
  split at hw
  · exact h i w hw
  · rw [List.getElem?_singleton] at hw
    split at hw
    · have hi : i = l.length := by omega
      cases hw
      rw [hi]
      exact hv
    · cases hw

lemma Alternates.getLast?_eq_one {l : List ℤ} (h : Alternates l) :
    l.getLast? = some 1 ↔ l.length % 2 = 1 := by
  rcases List.eq_nil_or_concat' l with rfl | ⟨front, v, rfl⟩
  · simp
  · have hv := h front.length v (by simp)
    rw [List.getLast?_concat, List.length_append, List.length_singleton, Option.some_inj, hv]
    split <;> omega

lemma filterMap_range (n b : ℕ) (f : ℕ → Option ℤ) :
    (List.range n).filterMap (fun i => if i = b then f i else none)
      = if b < n then (f b).toList else [] := by
  induction n with
  | zero => rfl
  | succ n ih =>
    rw [List.range_succ, List.filterMap_append, ih]
    rcases lt_trichotomy b n with h | h | h
    · simp [h, h.ne', Nat.lt_succ_of_lt h]
    · subst h
      cases hf : f b <;> simp [hf]
    · simp [h.ne, not_lt.2 h.le, not_lt.2 (Nat.succ_le_of_lt h)]

/-- The key events of a list of events, whichever of them is the last of its packet. -/
lemma filterMap_zipIdx (b : ℕ) (l : List (EventCode × ℤ)) (n k : ℕ) :
    ((l.zipIdx n).map fun event : (EventCode × ℤ) × ℕ =>
      ({ code := event.1.1, value := event.1.2, sync := event.2 + 1 = k } : Event)).filterMap
        (fun event => if event.code = .btn b then some event.value else none)
      = l.filterMap fun event => if event.1 = .btn b then some event.2 else none := by
  induction l generalizing n with
  | nil => rfl
  | cons event l ih =>
    rw [List.zipIdx_cons, List.map_cons, List.filterMap_cons, List.filterMap_cons, ih]

/-- The motions of a packet are no key events. -/
lemma filterMap_motions (b : ℕ) (p : Packet) :
    (p.motions.filterMap fun event =>
      if event.1 = EventCode.btn b then some event.2 else none) = [] := by
  rw [List.filterMap_eq_nil_iff]
  intro event hevent
  rw [if_neg]
  rintro hbtn
  have hmem := (List.mem_filter.1 hevent).1
  simp only [List.mem_cons, List.not_mem_nil, or_false] at hmem
  rcases hmem with rfl | rfl | rfl | rfl <;> cases hbtn

lemma keyEvents_singleton (b : ℕ) (p : Packet) :
    keyEvents b [p] = p.keys.filterMap fun event =>
      if event.1 = .btn b then some event.2 else none := by
  have hpacket : keyEvents b [p] = (p.keys ++ p.motions).filterMap fun event =>
      if event.1 = .btn b then some event.2 else none := by
    rw [keyEvents, List.flatMap_singleton, sendPacket]
    exact filterMap_zipIdx b _ 0 _
  rw [hpacket, List.filterMap_append, filterMap_motions, List.append_nil]

/-- A packet has at most one key event of a button. -/
lemma keyEvents_packet (b : ℕ) (p : Packet) :
    keyEvents b [p] = if b < 5 ∧ Has p.edges.press b then [1]
      else if b < 5 ∧ Has p.edges.release b then [0] else [] := by
  -- of the five buttons only `b` itself has an event of `b`
  have hkeys : (fun i => (if Has (p.edges.press ||| p.edges.release) i then
        some (EventCode.btn i, if Has p.edges.press i then (1 : ℤ) else 0) else none).bind
          fun event => if event.1 = EventCode.btn b then some event.2 else none)
      = fun i => if i = b then
          (if Has p.edges.press i then some 1 else if Has p.edges.release i then some 0 else none)
        else none := by
    funext i
    by_cases hi : i = b
    · subst hi
      by_cases hp : Has p.edges.press i <;> by_cases hr : Has p.edges.release i <;> simp [hp, hr]
    · by_cases hp : Has (p.edges.press ||| p.edges.release) i <;> simp [hi, hp]
  rw [keyEvents_singleton, Packet.keys, List.filterMap_filterMap, hkeys, filterMap_range]
  by_cases hb : b < 5 <;> by_cases hp : Has p.edges.press b <;>
    by_cases hr : Has p.edges.release b <;> simp [hb, hp, hr]

/-- There are five buttons. -/
lemma keyEvents_of_ge {b : ℕ} (hb : ¬b < 5) (sent : List Packet) : keyEvents b sent = [] := by
  induction sent using List.reverseRecOn with
  | nil => rfl
  | append_singleton sent p ih =>
    rw [keyEvents_concat, keyEvents_packet, ih, if_neg (fun h => hb h.1), if_neg (fun h => hb h.1)]
    rfl

/-- The key events of every button alternate, and the last one says whether the button is
forwarded. -/
def KeysFollow (s : State) : Prop :=
  ∀ b, Alternates (keyEvents b s.sent) ∧
    (Has s.buttons.forwarded b ↔ (keyEvents b s.sent).length % 2 = 1)

/-- A packet whose edges lead from the old forwarded buttons to the new ones. -/
lemma KeysFollow.send {s s' : State} {p : Packet} (h : KeysFollow s)
    (hsent : s'.sent = s.sent ++ [p])
    (hpress : ∀ b, Has p.edges.press b ↔ Has s'.buttons.forwarded b ∧ ¬Has s.buttons.forwarded b)
    (hrelease : ∀ b,
      Has p.edges.release b ↔ Has s.buttons.forwarded b ∧ ¬Has s'.buttons.forwarded b)
    (hlt : ∀ b, Has s'.buttons.forwarded b → b < 5) : KeysFollow s' := by
  intro b
  obtain ⟨halt, hparity⟩ := h b
  rw [hsent, keyEvents_concat, keyEvents_packet]
  simp only [hpress b, hrelease b]
  by_cases hold : Has s.buttons.forwarded b
  · have hodd := hparity.1 hold
    by_cases hnew : Has s'.buttons.forwarded b
    · simpa [hold, hnew, hodd] using halt
    · by_cases hb : b < 5
      · rw [if_neg (by tauto), if_pos ⟨hb, hold, hnew⟩]
        refine ⟨halt.concat (by rw [if_neg (by omega)]), iff_of_false hnew ?_⟩
        rw [List.length_append, List.length_singleton]
        omega
      · rw [keyEvents_of_ge hb] at hodd
        cases hodd
  · have heven := mt hparity.2 hold
    by_cases hnew : Has s'.buttons.forwarded b
    · rw [if_pos ⟨hlt b hnew, hnew, hold⟩]
      refine ⟨halt.concat (by rw [if_pos (by omega)]), iff_of_true hnew ?_⟩
      rw [List.length_append, List.length_singleton]
      omega
    · simpa [hold, hnew, heven] using halt

lemma keysFollow_initial : KeysFollow {} := by
  intro b
  simp [Alternates, keyEvents]

/-- Only the five buttons are forwarded. -/
lemma KeysFollow.forwarded_lt {s : State} (h : KeysFollow s) {b : ℕ}
    (hb : Has s.buttons.forwarded b) : b < 5 := by
  by_contra hge
  have hodd := (h b).2.1 hb
  rw [keyEvents_of_ge hge] at hodd
  cases hodd

lemma keysFollow_step {cap : ℕ} {s s' : State} {l : Label} (h : KeysFollow s)
    (hstep : step cap s l = some s') : KeysFollow s' := by
  cases step_effect hstep with
  | apply hw =>
    refine h.send rfl ?_ ?_ ?_
    · simp [mouseButtonsReset]
    · simp [mouseButtonsReset]
    · simp [mouseButtonsReset]
  | @first input w hw hafter =>
    refine h.send rfl ?_ ?_ ?_
    · exact has_update_press _ _
    · exact has_update_release _ _
    · intro b hb
      exact ((has_update_forwarded _ _ _).1 hb).1.2
  | @more input i w hw hafter =>
    refine h.send rfl ?_ ?_ fun _ => h.forwarded_lt
    · simp [QueuedInput.chunk]
    · simp [QueuedInput.chunk]
  | _ => exact h

/-! ### Runs -/

lemma resets_le {cap : ℕ} {s s' : State} {l : Label} (h : step cap s l = some s') :
    s.resets ≤ s'.resets := by
  cases step_effect h with
  | reset _ => exact Nat.le_succ _
  | _ => exact le_rfl

lemma run_resets_le {cap : ℕ} {ls : List Label} {s s' : State} (h : Run cap s ls s') :
    s.resets ≤ s'.resets :=
  h.invariant (fun t => s.resets ≤ t.resets) le_rfl fun _ _ _ hle hstep =>
    hle.trans (resets_le hstep)

/-- With fewer than 2 ^ 32 resets in all, no epoch check wraps. -/
lemma bounded_of_resets_lt {cap : ℕ} {ls : List Label} {s s' : State} (h : Run cap s ls s')
    (hresets : s'.resets < 2 ^ 32) : Transition.Run (BoundedStep cap) s ls s' := by
  induction h with
  | nil => exact .nil _
  | snoc hrun hstep ih =>
    have hle := resets_le hstep
    refine .snoc (ih (by omega)) ⟨?_, hstep⟩
    intro _ input _
    omega

lemma bounded_tracks {cap : ℕ} {ls : List Label} {s : State}
    (h : Transition.Run (BoundedStep cap) {} ls s) : Tracks s ∧ Accounts s :=
  h.invariant (fun t => Tracks t ∧ Accounts t) ⟨tracks_initial, accounts_initial⟩
    fun _ _ _ hinv hstep => ⟨tracks_step hinv.1 hstep, accounts_step hinv.1 hinv.2 hstep⟩

/-- The low five bits of the last received mask, or 0 after a disconnect. -/
def reported (ls : List Label) : Buttons :=
  ls.foldl (fun mask l => match l with
    | .receive _ physical => physical &&& allButtons
    | .disconnect => 0
    | _ => mask) 0

lemma run_physicalButtons {cap : ℕ} {ls : List Label} {s : State} (h : Run cap {} ls s) :
    s.physicalButtons = reported ls := by
  refine h.invariant_labels (fun ls t => t.physicalButtons = reported ls) rfl ?_
  intro ls t l t' ht hstep
  rw [reported, List.foldl_concat, ← reported, ← ht]
  cases step_effect hstep with
  | queued frame physical _ => rfl
  | reset hl => cases hl <;> rfl
  | _ => rfl

/-- No producer is between its locked section and its submit, the worker is idle with no work
submitted, the queue is empty and no reset is pending. -/
def Quiescent (s : State) : Prop :=
  s.midCall = 0 ∧ s.worker = .idle ∧ s.submitted = false ∧ s.mouseInputs = [] ∧
    s.resetPending = false

/-- After the labels `ls`, the buttons pressed and not released and the suppressed ones are
disjoint, and together they are the physical ones. -/
def Settled (ls : List Label) (s : State) : Prop :=
  (∀ b, ¬(Held s.sent b ∧ Has s.buttons.suppressed b)) ∧
  (∀ b, Held s.sent b ∨ Has s.buttons.suppressed b ↔ Has s.physicalButtons b) ∧
  s.physicalButtons = reported ls

/-- In every run the key events of every button alternate, starting with a press.  In every
run without a wrapped epoch check the buttons are settled whenever the module is
quiescent. -/
theorem button_stream_integrity (cap : ℕ) (ls : List Label) (s : State) :
    (Run cap {} ls s → ∀ b, Alternates (keyEvents b s.sent)) ∧
    (Transition.Run (BoundedStep cap) {} ls s → Quiescent s → Settled ls s) := by
  have hkeys : Run cap {} ls s → KeysFollow s := fun hrun =>
    hrun.invariant KeysFollow keysFollow_initial fun _ _ _ hinv hstep => keysFollow_step hinv hstep
  refine ⟨fun hrun b => (hkeys hrun b).1, ?_⟩
  rintro hbounded ⟨-, hidle, -, hqueue, hpending⟩
  have hrun : Run cap {} ls s := hbounded.mono fun _ _ _ hstep => hstep.2
  obtain ⟨-, haccounts⟩ := bounded_tracks hbounded
  have hheld : ∀ b, Held s.sent b ↔ Has s.buttons.forwarded b := by
    intro b
    obtain ⟨halt, hparity⟩ := hkeys hrun b
    rw [Held, halt.getLast?_eq_one, hparity]
  have hunion : s.buttons.forwarded ||| s.buttons.suppressed = s.physicalButtons := by
    have houtcome := haccounts.outcome_eq
    simpa [State.outcome, State.afterReset, hqueue, hidle, hpending, Position.inHand] using houtcome
  refine ⟨?_, ?_, run_physicalButtons hrun⟩
  · intro b
    rw [hheld]
    exact haccounts.disjoint b
  · intro b
    rw [hheld, ← hunion, has_or]

/-- Two buttons pressed, an endpoint change while they are held, and one of them released. -/
def releaseAfterEndpointChange : List Label :=
  [Label.receive { x := 1 } 9, .submit] ++ List.replicate 8 Label.work ++
    [Label.endpointChanged, .submit, .receive {} 8, .submit] ++ List.replicate 9 Label.work

/-- The state after it. -/
def releasedState : State where
  streamEpoch := 1
  physicalButtons := 8
  resetButtons := 9
  buttons := { suppressed := 8 }
  sent :=
    [{ origin := .frame 0, edges := { press := 9 }, x := 1 },
      { origin := .reset, edges := { release := 9 } },
      { origin := .frame 1, edges := {} }]
  resets := 1
  applied := 1

theorem button_stream_integrity_endpoint_change :
    (∀ b, Alternates (keyEvents b releasedState.sent)) ∧
      Settled releaseAfterEndpointChange releasedState := by
  have hrun : Run 8 {} releaseAfterEndpointChange releasedState :=
    Transition.Run.of_foldlM (by decide)
  have hquiescent : Quiescent releasedState := ⟨rfl, rfl, rfl, rfl, rfl⟩
  exact ⟨(button_stream_integrity 8 _ _).1 hrun,
    (button_stream_integrity 8 _ _).2 (bounded_of_resets_lt hrun (by decide)) hquiescent⟩

/-! ### A wrapped epoch -/

/-- A frame with a button down has been dequeued, and `n + 1` disconnects have happened before
the worker reads the pending reset. -/
def afterDisconnects (n : ℕ) : State where
  streamEpoch := epochAfter (n + 1)
  resetPending := true
  submitted := true
  resets := n + 1
  worker := .readReset (.check { frame := { x := 1 }, epoch := 0, buttons := 1, received := 0 })

lemma run_disconnect (n : ℕ) :
    Run 8 (afterDisconnects n) [.disconnect, .submit] (afterDisconnects (n + 1)) := by
  have hstate : (((afterDisconnects n).resetStream true)).submit = afterDisconnects (n + 1) := by
    have hepoch := epochAfter_succ (n + 1)
    simp only [afterDisconnects, State.resetStream, State.reset, State.submit, if_true, hepoch]
  refine .cons rfl (.single ?_)
  rw [← hstate]
  rfl

/-- The frame that was dequeued before 2 ^ 32 disconnects passes its epoch check and presses
its button, which stays pressed with no button physically down. -/
theorem epoch_wrap_loses_buttons :
    ¬∀ cap ls s, Run cap {} ls s →
      (∀ b, Alternates (keyEvents b s.sent)) ∧ (Quiescent s → Settled ls s) := by
  intro h
  have hdequeue : Run 8 {} ([.receive { x := 1 } 1, .submit] ++ List.replicate 3 .work ++
      [.disconnect, .submit]) (afterDisconnects 0) := Transition.Run.of_foldlM (by decide)
  have hdisconnects := Transition.Run.iterate run_disconnect (2 ^ 32 - 1)
  have hdrain : Run 8 (afterDisconnects (2 ^ 32 - 1)) (List.replicate 10 .work)
      { buttons := { forwarded := 1 }
        sent :=
          [{ origin := .reset, edges := {} },
            { origin := .frame 0, edges := { press := 1 }, x := 1 }]
        resets := 2 ^ 32
        applied := 2 ^ 32 } := Transition.Run.of_foldlM (by decide +kernel)
  have hsettled := (h 8 _ _ ((hdequeue.append hdisconnects).append hdrain)).2
    ⟨rfl, rfl, rfl, rfl, rfl⟩
  have hheld := (hsettled.2.1 0).1 (.inl (by decide))
  exact absurd hheld (by decide)

end BleMouse.Output
