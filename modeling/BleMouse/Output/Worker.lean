/-
The output worker and its producers, `src/mouse_output.c`.

The threads of the source share a message queue and four atomics, and every group of accesses
that must not be torn apart is under one spinlock.  The model interleaves these groups: a
locked section of a producer, the `submit` that follows it, and the steps of the worker are
single steps of one state machine.  The worker's position in `output_work_cb` is part of the
state.

Three counters and the origin of a packet are kept for stating properties and are never
read by a step: the number of resets so far, the number of resets applied, and the number of
resets before a frame was received.
-/
import BleMouse.Hid.Decoder
import BleMouse.Lib.Transition
import BleMouse.Output.Buttons

namespace BleMouse.Output

open BleMouse.Hid

/-! ### Packets -/

/-- The codes of the events given to the input layer. -/
inductive EventCode
  | btn (i : ℕ)
  | relX
  | relY
  | relWheel
  | relHWheel
deriving DecidableEq, Repr

/-- An event; `sync` is set on the last one of a packet. -/
structure Event where
  code : EventCode
  value : ℤ
  sync : Bool
deriving DecidableEq, Repr

/-- Where a packet comes from: a reset, or a frame received after `received` resets. -/
inductive Origin
  | reset
  | frame (received : ℕ)
deriving DecidableEq, Repr

/-- The arguments of a call of `send_packet`. -/
structure Packet where
  origin : Origin
  edges : MouseButtonEdges
  x : ℤ := 0
  y : ℤ := 0
  wheel : ℤ := 0
  pan : ℤ := 0
deriving DecidableEq, Repr

/-- The key events of a packet, without the sync flag. -/
def Packet.keys (p : Packet) : List (EventCode × ℤ) :=
  (List.range 5).filterMap fun i =>
    if Has (p.edges.press ||| p.edges.release) i then
      some (.btn i, if Has p.edges.press i then 1 else 0)
    else none

/-- The motion events of a packet, without the sync flag. -/
def Packet.motions (p : Packet) : List (EventCode × ℤ) :=
  [(.relX, p.x), (.relY, p.y), (.relWheel, p.wheel), (.relHWheel, p.pan)].filter
    fun event => event.2 ≠ 0

/-- `send_packet`: the events given to the input layer, in order -/
def sendPacket (p : Packet) : List Event :=
  let events := p.keys ++ p.motions
  events.zipIdx.map fun ((code, value), i) => { code, value, sync := i + 1 = events.length }

/-! ### The state -/

/-- `struct queued_input` -/
structure QueuedInput where
  frame : MouseHidFrame
  epoch : BitVec 32
  buttons : Buttons
  /-- The number of resets before the frame was received. -/
  received : ℕ
deriving DecidableEq, Repr

/-- `CLAMP` -/
def clamp (v lo hi : ℤ) : ℤ := max lo (min v hi)

/-- The packet sent for a frame in one iteration of the loop in `send_frame`. -/
def QueuedInput.chunk (input : QueuedInput) (edges : MouseButtonEdges) : Packet where
  origin := .frame input.received
  edges := edges
  x := clamp input.frame.x (-32767) 32767
  y := clamp input.frame.y (-32767) 32767
  wheel := clamp input.frame.wheel (-127) 127
  pan := clamp input.frame.pan (-127) 127

/-- What follows a call of `apply_pending_reset` in `output_work_cb`. -/
inductive Next
  | dequeue
  | check (input : QueuedInput)
  | done
deriving DecidableEq, Repr

/-- The position of the worker: the step it takes next. -/
inductive Position
  | idle
  /-- Enter the locked section of `apply_pending_reset`. -/
  | readReset (next : Next)
  /-- Reset the buttons with the mask read after `upTo` resets, and send the releases. -/
  | applyReset (physical : Buttons) (upTo : ℕ) (next : Next)
  /-- `k_msgq_get` -/
  | dequeue
  /-- Compare the epoch of the dequeued frame with the stream's. -/
  | checkEpoch (input : QueuedInput)
  /-- Send the first packet of a frame. -/
  | firstPacket (input : QueuedInput)
  /-- Compare the epochs before packet `i` of a frame. -/
  | recheckEpoch (input : QueuedInput) (i : ℕ)
  /-- Send packet `i` of a frame. -/
  | morePacket (input : QueuedInput) (i : ℕ)
deriving DecidableEq, Repr

/-- The static variables of `mouse_output.c`, with the state of its threads. -/
structure State where
  streamEpoch : BitVec 32 := 0
  physicalButtons : Buttons := 0
  resetPending : Bool := false
  resetButtons : Buttons := 0
  mouseInputs : List QueuedInput := []
  /-- `buttons`, which only the worker accesses -/
  buttons : MouseButtonState := {}
  worker : Position := .idle
  /-- `output_work` is queued. -/
  submitted : Bool := false
  /-- The calls that have left their locked section and have not yet submitted the work. -/
  midCall : ℕ := 0
  /-- The packets sent so far. -/
  sent : List Packet := []
  /-- The number of resets so far. -/
  resets : ℕ := 0
  /-- The number of resets before the last locked read whose mask has been applied. -/
  applied : ℕ := 0
deriving DecidableEq, Repr

/-- The worker after `apply_pending_reset`. -/
def Next.position : Next → Position
  | .dequeue => .dequeue
  | .check input => .checkEpoch input
  | .done => .idle

namespace State

variable (s : State)

/-- The part of a locked section that starts a new epoch. -/
def reset (physical : Buttons) : State :=
  { s with
    streamEpoch := s.streamEpoch + 1
    resetButtons := physical
    resetPending := true
    mouseInputs := []
    resets := s.resets + 1 }

/-- The locked section of `zmk_mouse_output_receive`, for a queue of `cap` elements. -/
def receive (cap : ℕ) (frame : MouseHidFrame) (physical : Buttons) : State :=
  let s := { s with physicalButtons := physical &&& allButtons, midCall := s.midCall + 1 }
  if s.mouseInputs.length < cap then
    let input := { frame, buttons := physical, epoch := s.streamEpoch, received := s.resets }
    { s with mouseInputs := s.mouseInputs ++ [input] }
  else
    s.reset (physical &&& allButtons)

/-- The locked section of `reset_stream`. -/
def resetStream (disconnected : Bool) : State :=
  let s := { s with midCall := s.midCall + 1 }
  let s := if disconnected then { s with physicalButtons := 0 } else s
  s.reset s.physicalButtons

/-- `zmk_ble_mouse_submit(&output_work)` at the end of a call. -/
def submit : State := { s with submitted := true, midCall := s.midCall - 1 }

/-- Send a packet. -/
def send (p : Packet) : State := { s with sent := s.sent ++ [p] }

/-- The body of the loop in `send_frame` after the comparison of the epochs. -/
def sendChunk (input : QueuedInput) (i : ℕ) (edges : MouseButtonEdges) : State :=
  let p := input.chunk edges
  let s := s.send p
  let frame : MouseHidFrame := { input.frame with
    x := input.frame.x - p.x
    y := input.frame.y - p.y
    wheel := input.frame.wheel - p.wheel
    pan := input.frame.pan - p.pan }
  if frame.x = 0 ∧ frame.y = 0 ∧ frame.wheel = 0 ∧ frame.pan = 0 then
    { s with worker := .dequeue }
  else if i + 1 < 32 then
    { s with worker := .recheckEpoch { input with frame } (i + 1) }
  else
    { s with worker := .dequeue }

/-- A step of the worker; there is none while it is idle without work. -/
def work : Option State :=
  match s.worker with
  -- the work item runs, and begins with `apply_pending_reset`
  | .idle =>
    if s.submitted then some { s with submitted := false, worker := .readReset .dequeue } else none
  | .readReset next =>
    let pending := s.resetPending
    let s := { s with resetPending := false }
    -- the mask is copied under the lock and applied outside of it
    if pending then some { s with worker := .applyReset s.resetButtons s.resets next }
    else some { s with worker := next.position }
  | .applyReset physical upTo next =>
    -- resets that come in between are left for the next read
    let (buttons, release) := mouseButtonsReset s.buttons physical
    let s := s.send { origin := .reset, edges := { release } }
    some { s with buttons, applied := upTo, worker := next.position }
  | .dequeue =>
    match s.mouseInputs with
    | input :: rest => some { s with mouseInputs := rest, worker := .readReset (.check input) }
    -- the queue is drained; a reset may have come since the last read
    | [] => some { s with worker := .readReset .done }
  | .checkEpoch input =>
    if input.epoch = s.streamEpoch then some { s with worker := .firstPacket input }
    else some { s with worker := .dequeue }
  | .firstPacket input =>
    let (buttons, edges) := mouseButtonsUpdate s.buttons input.buttons
    some ({ s with buttons }.sendChunk input 0 edges)
  | .recheckEpoch input i =>
    if input.epoch = s.streamEpoch then some { s with worker := .morePacket input i }
    else some { s with worker := .dequeue }
  | .morePacket input i => some (s.sendChunk input i {})

end State

/-- The steps. -/
inductive Label
  | receive (frame : MouseHidFrame) (physical : Buttons)
  | endpointChanged
  | disconnect
  | submit
  | work
deriving DecidableEq, Repr

/-- A step of the module with a queue of `cap` elements. -/
def step (cap : ℕ) (s : State) : Label → Option State
  | .receive frame physical => some (s.receive cap frame physical)
  | .endpointChanged => some (s.resetStream false)
  | .disconnect => some (s.resetStream true)
  | .submit => if s.midCall = 0 then none else some s.submit
  | .work => s.work

/-- The runs of the module. -/
abbrev Run (cap : ℕ) : State → List Label → State → Prop :=
  Transition.Run (Transition.Steps (step cap))

/-! ### What a step does -/

/-- The label is a reset that leaves the physical buttons `physical`. -/
inductive Resets (cap : ℕ) (s : State) : Label → Buttons → Prop
  | overflow (frame : MouseHidFrame) (physical : Buttons) (hfull : cap ≤ s.mouseInputs.length) :
      Resets cap s (.receive frame physical) (physical &&& allButtons)
  | endpoint : Resets cap s .endpointChanged s.physicalButtons
  | disconnect : Resets cap s .disconnect 0

/-- The worker after a packet of a frame: it goes on with the frame, or takes the next. -/
def AfterChunk (input : QueuedInput) (i : ℕ) (w : Position) : Prop :=
  w = .dequeue ∨ ∃ frame, w = .recheckEpoch { input with frame } (i + 1)

/-- The steps, with the state after each. -/
inductive Effect (cap : ℕ) (s : State) : Label → State → Prop
  | queued (frame : MouseHidFrame) (physical : Buttons) (hroom : s.mouseInputs.length < cap) :
      Effect cap s (.receive frame physical)
        { s with
          physicalButtons := physical &&& allButtons
          midCall := s.midCall + 1
          mouseInputs := s.mouseInputs ++ [⟨frame, s.streamEpoch, physical, s.resets⟩] }
  | reset {l : Label} {physical : Buttons} (hl : Resets cap s l physical) :
      Effect cap s l
        ({ s with physicalButtons := physical, midCall := s.midCall + 1 }.reset physical)
  | submit : Effect cap s .submit s.submit
  | start (hw : s.worker = .idle) :
      Effect cap s .work { s with submitted := false, worker := .readReset .dequeue }
  | readPending {next : Next} (hw : s.worker = .readReset next) (hp : s.resetPending = true) :
      Effect cap s .work
        { s with resetPending := false, worker := .applyReset s.resetButtons s.resets next }
  | readNothing {next : Next} (hw : s.worker = .readReset next) (hp : s.resetPending = false) :
      Effect cap s .work { s with worker := next.position }
  | apply {physical : Buttons} {upTo : ℕ} {next : Next}
      (hw : s.worker = .applyReset physical upTo next) :
      Effect cap s .work
        { s with
          buttons := (mouseButtonsReset s.buttons physical).1
          applied := upTo
          sent := s.sent ++ [{ origin := .reset, edges := { release := s.buttons.forwarded } }]
          worker := next.position }
  | dequeue {input : QueuedInput} {rest : List QueuedInput} (hw : s.worker = .dequeue)
      (hq : s.mouseInputs = input :: rest) :
      Effect cap s .work { s with mouseInputs := rest, worker := .readReset (.check input) }
  | drained (hw : s.worker = .dequeue) (hq : s.mouseInputs = []) :
      Effect cap s .work { s with worker := .readReset .done }
  | current {input : QueuedInput} (hw : s.worker = .checkEpoch input)
      (he : input.epoch = s.streamEpoch) :
      Effect cap s .work { s with worker := .firstPacket input }
  | stale {input : QueuedInput} (hw : s.worker = .checkEpoch input)
      (he : input.epoch ≠ s.streamEpoch) :
      Effect cap s .work { s with worker := .dequeue }
  | first {input : QueuedInput} {w : Position} (hw : s.worker = .firstPacket input)
      (hafter : AfterChunk input 0 w) :
      Effect cap s .work
        { s with
          buttons := (mouseButtonsUpdate s.buttons input.buttons).1
          sent := s.sent ++ [input.chunk (mouseButtonsUpdate s.buttons input.buttons).2]
          worker := w }
  | recheck {input : QueuedInput} {i : ℕ} {w : Position} (hw : s.worker = .recheckEpoch input i)
      (he : (w = .morePacket input i ∧ input.epoch = s.streamEpoch) ∨ w = .dequeue) :
      Effect cap s .work { s with worker := w }
  | more {input : QueuedInput} {i : ℕ} {w : Position} (hw : s.worker = .morePacket input i)
      (hafter : AfterChunk input i w) :
      Effect cap s .work { s with sent := s.sent ++ [input.chunk {}], worker := w }

lemma sendChunk_eq (s : State) (input : QueuedInput) (i : ℕ) (edges : MouseButtonEdges) :
    ∃ w, AfterChunk input i w ∧
      s.sendChunk input i edges =
        { s with sent := s.sent ++ [input.chunk edges], worker := w } := by
  unfold State.sendChunk
  dsimp only
  split
  · exact ⟨_, .inl rfl, rfl⟩
  · split
    · exact ⟨_, .inr ⟨_, rfl⟩, rfl⟩
    · exact ⟨_, .inl rfl, rfl⟩

lemma receive_effect (cap : ℕ) (s : State) (frame : MouseHidFrame) (physical : Buttons) :
    Effect cap s (.receive frame physical) (s.receive cap frame physical) := by
  unfold State.receive
  dsimp only
  split
  · exact .queued frame physical ‹_›
  · exact .reset (.overflow frame physical (by omega))

lemma work_effect {cap : ℕ} {s s' : State} (h : s.work = some s') : Effect cap s .work s' := by
  unfold State.work at h
  split at h
  case h_1 hw =>
    split at h
    · cases h
      exact .start hw
    · cases h
  -- the flag is cleared in both branches, which changes nothing in the second
  case h_2 next hw =>
    dsimp only at h
    split at h
    · cases h
      exact .readPending hw ‹_›
    · rename_i hp
      rw [Bool.not_eq_true] at hp
      cases h
      have hread : Effect cap s .work { s with worker := next.position } := .readNothing hw hp
      rwa [← hp]
  case h_3 hw =>
    cases h
    exact .apply hw
  case h_4 hw =>
    split at h
    · cases h
      exact .dequeue hw ‹_›
    · cases h
      exact .drained hw ‹_›
  case h_5 hw =>
    split at h
    · cases h
      exact .current hw ‹_›
    · cases h
      exact .stale hw ‹_›
  case h_6 input hw =>
    cases h
    obtain ⟨w, hafter, heq⟩ := sendChunk_eq
      { s with buttons := (mouseButtonsUpdate s.buttons input.buttons).1 } input 0
      (mouseButtonsUpdate s.buttons input.buttons).2
    dsimp only [mouseButtonsUpdate] at heq ⊢
    rw [heq]
    exact .first hw hafter
  case h_7 hw =>
    split at h
    · cases h
      exact .recheck hw (.inl ⟨rfl, ‹_›⟩)
    · cases h
      exact .recheck hw (.inr rfl)
  case h_8 input i hw =>
    cases h
    obtain ⟨w, hafter, heq⟩ := sendChunk_eq s input i {}
    rw [heq]
    exact .more hw hafter

/-- Every step is one of the effects. -/
lemma step_effect {cap : ℕ} {s s' : State} {l : Label} (h : step cap s l = some s') :
    Effect cap s l s' := by
  cases l with
  | receive frame physical =>
    cases h
    exact receive_effect cap s frame physical
  | endpointChanged =>
    cases h
    exact .reset .endpoint
  | disconnect =>
    cases h
    exact .reset .disconnect
  | submit =>
    simp only [step] at h
    split at h
    · cases h
    · cases h
      exact .submit
  | work => exact work_effect h

end BleMouse.Output
