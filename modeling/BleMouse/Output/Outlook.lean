/-
What the output worker still will send.

Between resets the worker is a sequential computation on the button state that emits packets:
it finishes what it has at hand, applies a reset that is pending, and goes on with the queue.
That course (`State.course`) does not depend on when its steps are taken.

* `work_conclude`: a step of the worker sends the first part of the course;
* `receive_course`: a frame is appended to the course;
* `sendFrame_constant`: the packets of a frame are those of `send_frame`.
-/
import BleMouse.Lib.Emission
import BleMouse.Output.SendFrame

namespace BleMouse.Output

open BleMouse.Hid Checked Clip

/-! ### The course of the worker -/

/-- A part of what the worker does. -/
abbrev Part := Emission MouseButtonState Packet

/-- What a packet of the frame leaves of it. -/
def QueuedInput.rest (input : QueuedInput) : QueuedInput :=
  { input with frame := { input.frame with
      x := input.frame.x - clamp input.frame.x (-32767) 32767
      y := input.frame.y - clamp input.frame.y (-32767) 32767
      wheel := input.frame.wheel - clamp input.frame.wheel (-127) 127
      pan := input.frame.pan - clamp input.frame.pan (-127) 127 } }

/-- The packets of a frame while the stream has this epoch: one, and some of those left. -/
def framePackets (epoch : BitVec 32) : ℕ → QueuedInput → MouseButtonEdges → List Packet
  | 0, input, edges => [input.chunk edges]
  | left + 1, input, edges =>
    input.chunk edges ::
      if Still input.rest.frame ∨ input.epoch ≠ epoch then []
      else framePackets epoch left input.rest {}

/-- Apply a reset. -/
def resetPart (physical : Buttons) : Part := fun buttons =>
  ((mouseButtonsReset buttons physical).1,
    [{ origin := .reset, edges := { release := (mouseButtonsReset buttons physical).2 } }])

/-- Send a frame. -/
def framePart (epoch : BitVec 32) (input : QueuedInput) : Part := fun buttons =>
  ((mouseButtonsUpdate buttons input.buttons).1,
    framePackets epoch 31 input (mouseButtonsUpdate buttons input.buttons).2)

/-- Send a frame unless it is stale. -/
def inputPart (epoch : BitVec 32) (input : QueuedInput) : Part :=
  if input.epoch = epoch then framePart epoch input else .skip

/-- Send the frames of the queue. -/
def queuePart (epoch : BitVec 32) (inputs : List QueuedInput) : Part :=
  .sequence (inputs.map (inputPart epoch))

/-- What follows `apply_pending_reset` before the next one. -/
def Next.part (epoch : BitVec 32) : Next → Part
  | .check input => inputPart epoch input
  | _ => .skip

namespace State

variable (s : State)

/-- What the worker does before it reads the pending reset. -/
def atHand : Part :=
  match s.worker with
  | .applyReset physical _ next => (resetPart physical).andThen (next.part s.streamEpoch)
  | .checkEpoch input => inputPart s.streamEpoch input
  | .firstPacket input => framePart s.streamEpoch input
  | .recheckEpoch input i =>
    if input.epoch = s.streamEpoch then .emit (framePackets s.streamEpoch (31 - i) input {})
    else .skip
  | .morePacket input i => .emit (framePackets s.streamEpoch (31 - i) input {})
  | _ => .skip

/-- A reset that is pending. -/
def pendingPart : Part := if s.resetPending then resetPart s.resetButtons else .skip

/-- The frame that waits for the worker to read the pending reset. -/
def awaited : Part :=
  match s.worker with
  | .readReset next => next.part s.streamEpoch
  | _ => .skip

/-- All that the worker still does unless something else happens. -/
def course : Part :=
  s.atHand.andThen (s.pendingPart.andThen (s.awaited.andThen
    (queuePart s.streamEpoch s.mouseInputs)))

/-- The button state and all packets once the worker is done. -/
def conclusion : MouseButtonState × List Packet := s.course.conclude s.buttons s.sent

end State

/-- Nothing is left to do for a module at rest. -/
lemma course_of_quiescent {s : State} (h : Quiescent s) : s.course = .skip := by
  obtain ⟨-, hidle, -, hqueue, hpending⟩ := h
  unfold State.course State.atHand State.pendingPart State.awaited
  rw [hidle, hqueue, hpending]
  rfl

/-! ### Steps -/

/-- The worker after `apply_pending_reset`. -/
lemma course_of_position {s : State} {next : Next} (hw : s.worker = next.position) :
    s.course = (next.part s.streamEpoch).andThen (s.pendingPart.andThen
      (queuePart s.streamEpoch s.mouseInputs)) := by
  unfold State.course State.atHand State.awaited
  rw [hw]
  cases next with
  | dequeue | check input | done => rfl

/-- One packet of a frame is sent. -/
lemma sendChunk_conclusion (s : State) (input : QueuedInput) (i : ℕ) (edges : MouseButtonEdges) :
    (s.sendChunk input i edges).conclusion =
      (((Emission.emit (framePackets s.streamEpoch (31 - i) input edges)).andThen
        (s.pendingPart.andThen (queuePart s.streamEpoch s.mouseInputs))).conclude
          s.buttons s.sent) := by
  -- what is left of the frame waits for the next comparison of the epochs
  have hgoes : State.conclusion { s with
      sent := s.sent ++ [input.chunk edges], worker := .recheckEpoch input.rest (i + 1) } =
        (((if input.epoch = s.streamEpoch then
          .emit (framePackets s.streamEpoch (31 - (i + 1)) input.rest {}) else .skip : Part).andThen
            (s.pendingPart.andThen (queuePart s.streamEpoch s.mouseInputs))).conclude s.buttons
              (s.sent ++ [input.chunk edges])) := rfl
  have hlast (hpackets : framePackets s.streamEpoch (31 - i) input edges = [input.chunk edges]) :
      State.conclusion { s with sent := s.sent ++ [input.chunk edges], worker := .dequeue } =
        (((Emission.emit (framePackets s.streamEpoch (31 - i) input edges)).andThen
          (s.pendingPart.andThen (queuePart s.streamEpoch s.mouseInputs))).conclude
            s.buttons s.sent) := by
    rw [hpackets, Emission.conclude_andThen]
    rfl
  unfold State.sendChunk State.send
  dsimp only
  split
  case isTrue hstill =>
    refine hlast ?_
    cases 31 - i with
    | zero => rfl
    | succ left =>
      unfold framePackets
      rw [if_pos (.inl hstill)]
  case isFalse hnot =>
    have hmoving : ¬Still input.rest.frame := hnot
    split
    case isTrue hlt =>
      obtain ⟨left, hleft⟩ : ∃ left, 31 - i = left + 1 := ⟨30 - i, by omega⟩
      refine hgoes.trans ?_
      rw [hleft, show 31 - (i + 1) = left by omega, framePackets]
      by_cases hepoch : input.epoch = s.streamEpoch
      · rw [if_pos hepoch, if_neg (not_or.2 ⟨hmoving, not_not.2 hepoch⟩),
          Emission.conclude_emit_andThen, Emission.conclude_emit_andThen, List.append_assoc]
        rfl
      · rw [if_neg hepoch, if_pos (.inr hepoch), Emission.skip_andThen,
          Emission.conclude_emit_andThen]
    case isFalse hge =>
      refine hlast ?_
      rw [show 31 - i = 0 by omega]
      rfl

/-- A step of the worker leaves the conclusion as it is. -/
theorem work_conclusion {s s' : State} (h : s.work = some s') : s'.conclusion = s.conclusion := by
  unfold State.work at h
  split at h
  -- idle: the submitted work starts with the pending reset
  case h_1 hw =>
    split at h
    · cases h
      unfold State.conclusion State.course State.atHand State.awaited
      rw [hw]
      rfl
    · cases h
  case h_2 next hw =>
    dsimp only at h
    split at h
    -- the reset that was pending is at hand now
    case isTrue hpending =>
      cases h
      unfold State.conclusion State.course State.atHand State.awaited State.pendingPart
      rw [hw, hpending]
      simp only [Emission.skip_andThen, Emission.andThen_assoc]
      rfl
    case isFalse hpending =>
      cases h
      unfold State.conclusion
      rw [course_of_position rfl]
      unfold State.course State.atHand State.awaited State.pendingPart
      rw [hw, if_neg hpending]
      rfl
  -- the packet of the reset is emitted, the first part of the course
  case h_3 physical upTo next hw =>
    cases h
    unfold State.conclusion
    rw [course_of_position rfl]
    unfold State.course State.atHand State.awaited
    rw [hw, Emission.andThen_assoc, Emission.conclude_andThen (resetPart physical)]
    rfl
  -- the first part of the queue is what the worker awaits
  case h_4 hw =>
    split at h
    case h_1 input rest hq =>
      cases h
      unfold State.conclusion State.course State.atHand State.awaited
      rw [hw, hq]
      rfl
    case h_2 hq =>
      cases h
      unfold State.conclusion State.course State.atHand State.awaited
      rw [hw]
      rfl
  -- the epoch of the stream does not change, so the check comes out as foreseen
  case h_5 input hw =>
    split at h
    case isTrue hepoch =>
      cases h
      unfold State.conclusion State.course State.atHand State.awaited inputPart
      rw [hw]
      dsimp only
      rw [if_pos hepoch]
      rfl
    case isFalse hepoch =>
      cases h
      unfold State.conclusion State.course State.atHand State.awaited inputPart
      rw [hw]
      dsimp only
      rw [if_neg hepoch]
      rfl
  case h_6 input hw =>
    cases h
    rw [sendChunk_conclusion]
    unfold State.conclusion State.course State.atHand State.awaited
    rw [hw]
    rfl
  -- the same check between two packets of a frame
  case h_7 input i hw =>
    split at h
    case isTrue hepoch =>
      cases h
      unfold State.conclusion State.course State.atHand State.awaited
      rw [hw]
      dsimp only
      rw [if_pos hepoch]
      rfl
    case isFalse hepoch =>
      cases h
      unfold State.conclusion State.course State.atHand State.awaited
      rw [hw]
      dsimp only
      rw [if_neg hepoch]
      rfl
  case h_8 input i hw =>
    cases h
    rw [sendChunk_conclusion]
    unfold State.conclusion State.course State.atHand State.awaited
    rw [hw]
    rfl

lemma work_streamEpoch {s s' : State} (h : s.work = some s') : s'.streamEpoch = s.streamEpoch := by
  have heffect : Effect 0 s .work s' := work_effect h
  cases heffect with
  | reset hl => cases hl
  | _ => rfl

/-- A frame that finds room in the queue is appended to the course. -/
theorem receive_course {cap : ℕ} {s : State} (frame : MouseHidFrame) (physical : Buttons)
    (hroom : s.mouseInputs.length < cap) :
    (s.receive cap frame physical).course =
      s.course.andThen (inputPart s.streamEpoch ⟨frame, s.streamEpoch, physical, s.resets⟩) ∧
    (s.receive cap frame physical).buttons = s.buttons ∧
    (s.receive cap frame physical).sent = s.sent ∧
    (s.receive cap frame physical).streamEpoch = s.streamEpoch ∧
    (s.receive cap frame physical).resets = s.resets := by
  have heq : s.receive cap frame physical = { s with
      physicalButtons := physical &&& allButtons
      midCall := s.midCall + 1
      mouseInputs := s.mouseInputs ++ [⟨frame, s.streamEpoch, physical, s.resets⟩] } := by
    unfold State.receive
    exact if_pos hroom
  rw [heq]
  refine ⟨?_, rfl, rfl, rfl, rfl⟩
  have hqueue (input : QueuedInput) : queuePart s.streamEpoch (s.mouseInputs ++ [input]) =
      (queuePart s.streamEpoch s.mouseInputs).andThen (inputPart s.streamEpoch input) := by
    unfold queuePart
    rw [List.map_append]
    exact Emission.sequence_snoc _ _
  show s.atHand.andThen (s.pendingPart.andThen (s.awaited.andThen (queuePart _ _))) = _
  rw [hqueue]
  unfold State.course
  simp only [Emission.andThen_assoc]

lemma receive_conclusion {cap : ℕ} {s : State} (frame : MouseHidFrame) (physical : Buttons)
    (hroom : s.mouseInputs.length < cap) :
    (s.receive cap frame physical).conclusion =
      (inputPart s.streamEpoch ⟨frame, s.streamEpoch, physical, s.resets⟩).conclude
        s.conclusion.1 s.conclusion.2 := by
  obtain ⟨hcourse, hbuttons, hsent, -, -⟩ := receive_course frame physical hroom
  unfold State.conclusion
  rw [hcourse, hbuttons, hsent, Emission.conclude_andThen]
  rfl

/-! ### `send_frame` -/

lemma clamp_eq_clip (n v : ℤ) : clamp v (-n) n = clip n v := rfl

lemma QueuedInput.rest_eq (input : QueuedInput) : input.rest = input.after 1 := by
  simp only [QueuedInput.rest, QueuedInput.after, clamp_eq_clip, Nat.cast_one, one_mul]

lemma QueuedInput.packet_zero (input : QueuedInput) (edges : MouseButtonEdges) :
    input.packet edges 0 = input.chunk edges := by
  simp only [QueuedInput.packet, QueuedInput.chunk, piece, clamp_eq_clip, Nat.cast_zero, zero_mul,
    clip_zero, zero_add, Nat.cast_one, one_mul, sub_zero, if_true]

/-- What is left of a frame is in range. -/
lemma rest_inRange {input : QueuedInput} (h : input.frame.AxesInRange) :
    input.rest.frame.AxesInRange := by
  have hrest {v m : ℤ} (hm : 0 ≤ m) (hv : InRange v) : InRange (v - clip m v) := by
    have hmem := sub_clip_mem hm v
    unfold InRange int32Min int32Max at hv ⊢
    omega
  exact ⟨hrest (by decide) h.x, hrest (by decide) h.y, hrest (by decide) h.wheel,
    hrest (by decide) h.pan⟩

/-- The loop of `send_frame`, by induction on the number of iterations left. -/
lemma sendLoop_constant {epoch : BitVec 32} (left i : ℕ) {input : QueuedInput}
    (h : input.frame.AxesInRange) (hepoch : input.epoch = epoch) (edges : MouseButtonEdges) :
    sendLoop (fun _ => epoch) (left + 1) i input edges =
      .ok (framePackets epoch left input edges) := by
  induction left generalizing i input edges with
  | zero =>
    have hiteration := sendIteration_eq h edges 0
    rw [input.after_zero, if_pos rfl, input.packet_zero, ← input.rest_eq] at hiteration
    unfold sendLoop
    rw [if_neg (not_and_not_right.2 fun _ => hepoch), hiteration, ok_bind]
    dsimp only
    split
    · rfl
    · rfl
  | succ left ih =>
    have hiteration := sendIteration_eq h edges 0
    rw [input.after_zero, if_pos rfl, input.packet_zero, ← input.rest_eq] at hiteration
    unfold sendLoop framePackets
    rw [if_neg (not_and_not_right.2 fun _ => hepoch), hiteration, ok_bind]
    dsimp only
    by_cases hstill : Still input.rest.frame
    · rw [if_pos hstill, if_pos (.inl hstill)]
      rfl
    · rw [if_neg hstill, if_neg (not_or.2 ⟨hstill, not_not.2 hepoch⟩),
        ih (i + 1) (rest_inRange h) hepoch {}]
      rfl

/-- While the epoch stays as it is, the worker's part for a frame is `send_frame`. -/
theorem sendFrame_constant {input : QueuedInput} (h : input.frame.AxesInRange)
    (buttons : MouseButtonState) :
    sendFrame (fun _ => input.epoch) buttons input = .ok (inputPart input.epoch input buttons) := by
  unfold sendFrame
  dsimp only
  rw [sendLoop_constant 31 0 h rfl, ok_bind]
  unfold inputPart
  rw [if_pos rfl]
  rfl

end BleMouse.Output
