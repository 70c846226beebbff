/-
`send_frame` of `src/mouse_output.c`, as one computation.

A frame is sent in pieces of at most 32767 on the axes X and Y and 127 on the wheels, in at
most 32 packets.  The narrowing conversions and the subtractions of the source are operations
of the model here, which fault where the source would overflow; `stream_epoch` may be anything
at each of its reads.

* `sendFrame_spec`: the packets are pieces of the frame, and why there are no more of them;
* `send_frame_conserves_motion`: what `send_frame` sends.
-/
import BleMouse.Hid.Frames
import BleMouse.Lib.Clip
import BleMouse.Output.Stream

namespace BleMouse.Output

open BleMouse.Hid Checked Clip

/-! ### The function -/

/-- A computation of `send_frame`; it has no errors of its own. -/
abbrev Send (α : Type) := Comp Empty α

/-- The conversion to `int16_t`. -/
def toInt16 (v : ℤ) : ℤ := v.bmod (2 ^ 16)

/-- The conversion to `int8_t`. -/
def toInt8 (v : ℤ) : ℤ := v.bmod (2 ^ 8)

/-- `!frame->x && !frame->y && !frame->wheel && !frame->pan` -/
def Still (frame : MouseHidFrame) : Prop :=
  frame.x = 0 ∧ frame.y = 0 ∧ frame.wheel = 0 ∧ frame.pan = 0

instance (frame : MouseHidFrame) : Decidable (Still frame) := by
  unfold Still
  infer_instance

/-- An iteration of the loop in `send_frame` after the comparison of the epochs: the packet it
sends and the frame it leaves. -/
def sendIteration (input : QueuedInput) (edges : MouseButtonEdges) :
    Send (Packet × QueuedInput) := do
  let frame := input.frame
  let x := toInt16 (clamp frame.x (-32767) 32767)
  let y := toInt16 (clamp frame.y (-32767) 32767)
  let wheel := toInt8 (clamp frame.wheel (-127) 127)
  let pan := toInt8 (clamp frame.pan (-127) 127)
  let packet := { origin := .frame input.received, edges, x, y, wheel, pan }
  let restX ← signed 32 (frame.x - x)
  let restY ← signed 32 (frame.y - y)
  let restWheel ← signed 32 (frame.wheel - wheel)
  let restPan ← signed 32 (frame.pan - pan)
  let rest := { frame with x := restX, y := restY, wheel := restWheel, pan := restPan }
  return (packet, { input with frame := rest })

/-- The loop of `send_frame` from iteration `i` on, with some iterations left: the packets it
sends.  Iteration `i` reads `epochs i` from `stream_epoch`. -/
def sendLoop (epochs : ℕ → BitVec 32) :
    ℕ → ℕ → QueuedInput → MouseButtonEdges → Send (List Packet)
  | 0, _, _, _ => return []
  | left + 1, i, input, edges =>
    if i ≠ 0 ∧ input.epoch ≠ epochs i then
      return []
    else do
      let (packet, input) ← sendIteration input edges
      if Still input.frame then
        return [packet]
      else do
        let packets ← sendLoop epochs left (i + 1) input {}
        return packet :: packets

/-- `send_frame`: the button state after it, and the packets it sends -/
def sendFrame (epochs : ℕ → BitVec 32) (buttons : MouseButtonState) (input : QueuedInput) :
    Send (MouseButtonState × List Packet) := do
  let (buttons, edges) := mouseButtonsUpdate buttons input.buttons
  let packets ← sendLoop epochs 32 0 input edges
  return (buttons, packets)

/-! ### The pieces of a frame -/

/-- What is left of a frame after some packets. -/
def QueuedInput.after (input : QueuedInput) (n : ℕ) : QueuedInput :=
  { input with frame := { input.frame with
      x := input.frame.x - clip (n * 32767) input.frame.x
      y := input.frame.y - clip (n * 32767) input.frame.y
      wheel := input.frame.wheel - clip (n * 127) input.frame.wheel
      pan := input.frame.pan - clip (n * 127) input.frame.pan } }

/-- Packet `i` of a frame. -/
def QueuedInput.packet (input : QueuedInput) (edges : MouseButtonEdges) (i : ℕ) : Packet where
  origin := .frame input.received
  edges := if i = 0 then edges else {}
  x := piece 32767 input.frame.x i
  y := piece 32767 input.frame.y i
  wheel := piece 127 input.frame.wheel i
  pan := piece 127 input.frame.pan i

lemma QueuedInput.after_zero (input : QueuedInput) : input.after 0 = input := by
  simp [QueuedInput.after, clip_zero]

lemma toInt16_clip (v : ℤ) : toInt16 (clamp v (-32767) 32767) = clip 32767 v := by
  have hmem := clip_mem (n := 32767) (by decide) v
  show (clip 32767 v).bmod (2 ^ 16) = clip 32767 v
  apply Int.bmod_eq_of_le <;> omega

lemma toInt8_clip (v : ℤ) : toInt8 (clamp v (-127) 127) = clip 127 v := by
  have hmem := clip_mem (n := 127) (by decide) v
  show (clip 127 v).bmod (2 ^ 8) = clip 127 v
  apply Int.bmod_eq_of_le <;> omega

/-- What is left of an axis is a 32-bit value. -/
lemma signed_rest {v : ℤ} (hv : InRange v) {m : ℤ} (hm : 0 ≤ m) (n : ℕ) :
    (signed 32 (v - clip (n * m) v) : Send ℤ) = .ok (v - clip (n * m) v) := by
  have hmem := sub_clip_mem (mul_nonneg (Int.natCast_nonneg n) hm) v
  apply signed_of_mem
  unfold InRange int32Min int32Max at hv
  omega

/-- An iteration takes the next piece off every axis. -/
lemma sendIteration_eq {input : QueuedInput} (h : input.frame.AxesInRange)
    (edges : MouseButtonEdges) (i : ℕ) :
    sendIteration (input.after i) (if i = 0 then edges else {}) =
      .ok (input.packet edges i, input.after (i + 1)) := by
  have hrest (v m : ℤ) :
      v - clip (i * m) v - piece m v i = v - clip ((i + 1 : ℕ) * m) v := by
    rw [piece]
    ring
  have hlong : (0 : ℤ) ≤ 32767 := by decide
  have hshort : (0 : ℤ) ≤ 127 := by decide
  unfold sendIteration
  simp only [QueuedInput.after, toInt16_clip, toInt8_clip, clip_sub_clip_mul hlong,
    clip_sub_clip_mul hshort, hrest]
  rw [signed_rest h.x hlong, ok_bind, signed_rest h.y hlong, ok_bind, signed_rest h.wheel hshort,
    ok_bind, signed_rest h.pan hshort]
  rfl

/-! ### The number of packets -/

/-- The first `n` packets of a frame carry all its motion. -/
def QueuedInput.Spent (input : QueuedInput) (n : ℕ) : Prop := Still (input.after n).frame

/-- The loop goes on until `n` packets are sent: it reads the epoch of the frame before each of
them but the first, and stops then because it has sent 32 packets, or there is no motion left,
or it reads another epoch. -/
structure Stops (epochs : ℕ → BitVec 32) (input : QueuedInput) (n : ℕ) : Prop where
  pos : 0 < n
  le : n ≤ 32
  current : ∀ i, 0 < i → i < n → epochs i = input.epoch
  moving : ∀ i, 0 < i → i < n → ¬input.Spent i
  stops : n = 32 ∨ input.Spent n ∨ epochs n ≠ input.epoch

section Loop

variable {input : QueuedInput} (epochs : ℕ → BitVec 32) (edges : MouseButtonEdges)

/-- The loop from iteration `i` on, by induction on the number of iterations left. -/
lemma sendLoop_spec (h : input.frame.AxesInRange) (left i : ℕ) :
    ∃ n ≤ left, sendLoop epochs left i (input.after i) (if i = 0 then edges else {}) =
        .ok ((List.range' i n).map (input.packet edges)) ∧
      (∀ j, i ≤ j → j < i + n → (j ≠ 0 → epochs j = input.epoch) ∧ (i < j → ¬input.Spent j)) ∧
      (n = left ∨ 0 < n ∧ input.Spent (i + n) ∨ i + n ≠ 0 ∧ epochs (i + n) ≠ input.epoch) := by
  induction left generalizing i with
  | zero => exact ⟨0, le_rfl, rfl, fun j hle hlt => by omega, .inl rfl⟩
  | succ left ih =>
    unfold sendLoop
    -- the epoch is not compared before the first packet
    by_cases hepoch : i ≠ 0 ∧ (input.after i).epoch ≠ epochs i
    · rw [if_pos hepoch]
      exact ⟨0, Nat.zero_le _, rfl, fun j hle hlt => by omega,
        .inr (.inr ⟨hepoch.1, hepoch.2.symm⟩)⟩
    have hcurrent : i ≠ 0 → epochs i = input.epoch := by
      intro hi
      by_contra hne
      exact hepoch ⟨hi, fun heq => hne heq.symm⟩
    rw [if_neg hepoch, sendIteration_eq h, ok_bind]
    dsimp only
    by_cases hspent : Still (input.after (i + 1)).frame
    · rw [if_pos hspent]
      refine ⟨1, Nat.succ_le_succ (Nat.zero_le _), rfl, ?_, .inr (.inl ⟨Nat.one_pos, hspent⟩)⟩
      intro j hle hlt
      obtain rfl : j = i := by omega
      exact ⟨hcurrent, fun hlt => absurd hlt (lt_irrefl _)⟩
    · rw [if_neg hspent]
      -- the packet is sent, and the loop goes on with the motion that is left
      obtain ⟨n, hn, heq, hgoing, hstops⟩ := ih (i + 1)
      rw [if_neg (Nat.succ_ne_zero i)] at heq
      rw [heq, ok_bind]
      refine ⟨n + 1, Nat.succ_le_succ hn, by rw [List.range'_succ]; rfl, ?_, ?_⟩
      · intro j hle hlt
        rcases Nat.eq_or_lt_of_le hle with rfl | hlt'
        · exact ⟨hcurrent, fun hlt => absurd hlt (lt_irrefl _)⟩
        · obtain ⟨hcurrent', hmoving⟩ := hgoing j hlt' (by omega)
          refine ⟨hcurrent', fun _ => ?_⟩
          rcases Nat.eq_or_lt_of_le (Nat.succ_le_of_lt hlt') with rfl | hlt''
          · exact hspent
          · exact hmoving hlt''
      · rw [show i + (n + 1) = i + 1 + n by omega]
        rcases hstops with rfl | ⟨-, hspent'⟩ | ⟨-, hother⟩
        · exact .inl rfl
        · exact .inr (.inl ⟨Nat.succ_pos n, hspent'⟩)
        · exact .inr (.inr ⟨by omega, hother⟩)

/-- `send_frame` does not overflow, and sends the pieces of the frame in their order. -/
theorem sendFrame_spec (h : input.frame.AxesInRange) (buttons : MouseButtonState) :
    ∃ n, Stops epochs input n ∧ sendFrame epochs buttons input =
      .ok ((mouseButtonsUpdate buttons input.buttons).1, (List.range n).map
        (input.packet (mouseButtonsUpdate buttons input.buttons).2)) := by
  obtain ⟨n, hle, heq, hgoing, hstops⟩ :=
    sendLoop_spec epochs (mouseButtonsUpdate buttons input.buttons).2 h 32 0
  rw [input.after_zero, if_pos rfl, ← List.range_eq_range'] at heq
  rw [Nat.zero_add] at hgoing hstops
  refine ⟨n, ⟨?_, hle, ?_, ?_, ?_⟩, ?_⟩
  · rcases hstops with rfl | ⟨hpos, -⟩ | ⟨hne, -⟩
    · decide
    · exact hpos
    · exact Nat.pos_of_ne_zero hne
  · exact fun i hpos hlt => (hgoing i (Nat.zero_le i) hlt).1 hpos.ne'
  · exact fun i hpos hlt => (hgoing i (Nat.zero_le i) hlt).2 hpos
  · rcases hstops with rfl | ⟨-, hspent⟩ | ⟨-, hother⟩
    · exact .inl rfl
    · exact .inr (.inl hspent)
    · exact .inr (.inr hother)
  · show (do
      let packets ← sendLoop epochs 32 0 input (mouseButtonsUpdate buttons input.buttons).2
      return ((mouseButtonsUpdate buttons input.buttons).1, packets) : Send _) = _
    rw [heq]
    rfl

end Loop

/-! ### Events -/

/-- The bound on the values of the events of an axis. -/
def EventCode.limit : EventCode → Option ℤ
  | .btn _ => none
  | .relX | .relY => some 32767
  | .relWheel | .relHWheel => some 127

/-- The codes and the values of events. -/
def values (events : List Event) : List (EventCode × ℤ) := events.map fun e => (e.code, e.value)

/-- The events of axes. -/
def axisEvents (events : List Event) : List (EventCode × ℤ) :=
  (values events).filter fun e => e.1.limit.isSome

/-- The events that report a motion: one for each axis that moves, in this order. -/
def motionEvents (x y wheel pan : ℤ) : List (EventCode × ℤ) :=
  [(.relX, x), (.relY, y), (.relWheel, wheel), (.relHWheel, pan)].filter fun e => e.2 ≠ 0

/-- The sum of the values of an axis. -/
def axisTotal (code : EventCode) (events : List Event) : ℤ :=
  (((values events).filter fun e => e.1 = code).map Prod.snd).sum

/-- A packet with values that fit the parameters of `send_packet`. -/
structure Packet.Narrow (p : Packet) : Prop where
  x : |p.x| ≤ 32767
  y : |p.y| ≤ 32767
  wheel : |p.wheel| ≤ 127
  pan : |p.pan| ≤ 127

/-- What `send_packet` gives to the input layer for a packet. -/
structure Reports (p : Packet) (events : List Event) : Prop where
  length_le : events.length ≤ 9
  /-- The last event, and no other, has the sync flag. -/
  sync : ∀ i event, events[i]? = some event → (event.sync = true ↔ i + 1 = events.length)
  /-- The events of keys are before those of axes. -/
  keysFirst : events.Pairwise fun a b => b.code.limit = none → a.code.limit = none
  /-- A button has an event of its edge, if there is one. -/
  keys : ∀ b, keyEvents b [p] = if b < 5 ∧ Has p.edges.press b then [1]
    else if b < 5 ∧ Has p.edges.release b then [0] else []
  /-- An axis has an event of its motion, if there is one. -/
  motions : axisEvents events = motionEvents p.x p.y p.wheel p.pan
  /-- No event of an axis has the value zero, or one outside its bound. -/
  axes : ∀ event ∈ events, ∀ limit, event.code.limit = some limit →
    event.value ≠ 0 ∧ |event.value| ≤ limit

lemma sendPacket_getElem? (p : Packet) {i : ℕ} {event : Event}
    (h : (sendPacket p)[i]? = some event) :
    (p.keys ++ p.motions)[i]? = some (event.code, event.value) ∧
      event.sync = decide (i + 1 = (p.keys ++ p.motions).length) := by
  unfold sendPacket at h
  rw [List.getElem?_map, List.getElem?_zipIdx, Option.map_map] at h
  obtain ⟨⟨code, value⟩, hevent, rfl⟩ := Option.map_eq_some_iff.1 h
  rw [Nat.zero_add]
  exact ⟨hevent, rfl⟩

lemma sendPacket_length (p : Packet) : (sendPacket p).length = (p.keys ++ p.motions).length := by
  unfold sendPacket
  rw [List.length_map, List.length_zipIdx]

lemma values_sendPacket (p : Packet) : values (sendPacket p) = p.keys ++ p.motions := by
  unfold values sendPacket
  rw [List.map_map]
  exact List.zipIdx_map_fst 0 _

lemma values_append (events events' : List Event) :
    values (events ++ events') = values events ++ values events' := List.map_append

lemma mem_sendPacket {p : Packet} {event : Event} (h : event ∈ sendPacket p) :
    (event.code, event.value) ∈ p.keys ++ p.motions := by
  obtain ⟨i, hi⟩ := List.getElem?_of_mem h
  exact List.mem_of_getElem? (sendPacket_getElem? p hi).1

lemma keys_length_le (p : Packet) : p.keys.length ≤ 5 :=
  (List.length_filterMap_le _ _).trans (List.length_range (n := 5)).le

lemma motions_length_le (p : Packet) : p.motions.length ≤ 4 := List.length_filter_le _ _

lemma limit_of_mem_keys {p : Packet} {event : EventCode × ℤ} (h : event ∈ p.keys) :
    event.1.limit = none := by
  obtain ⟨b, -, heq⟩ := List.mem_filterMap.1 h
  split at heq
  · cases heq
    rfl
  · cases heq

lemma limit_of_mem_motions {p : Packet} (hp : p.Narrow) {event : EventCode × ℤ}
    (h : event ∈ p.motions) :
    event.2 ≠ 0 ∧ ∃ limit, event.1.limit = some limit ∧ |event.2| ≤ limit := by
  obtain ⟨hmem, hne⟩ := List.mem_filter.1 h
  refine ⟨of_decide_eq_true hne, ?_⟩
  simp only [List.mem_cons, List.not_mem_nil, or_false] at hmem
  rcases hmem with rfl | rfl | rfl | rfl
  · exact ⟨_, rfl, hp.x⟩
  · exact ⟨_, rfl, hp.y⟩
  · exact ⟨_, rfl, hp.wheel⟩
  · exact ⟨_, rfl, hp.pan⟩

/-- Of the events of a packet, those of axes report its motion. -/
lemma axisEvents_sendPacket (p : Packet) :
    axisEvents (sendPacket p) = motionEvents p.x p.y p.wheel p.pan := by
  have hkeys : p.keys.filter (fun e => e.1.limit.isSome) = [] := by
    refine List.filter_eq_nil_iff.2 fun e he => ?_
    rw [limit_of_mem_keys he]
    exact Bool.false_ne_true
  have hmotions : p.motions.filter (fun e => e.1.limit.isSome) = p.motions := by
    refine List.filter_eq_self.2 fun e he => ?_
    have hmem := List.mem_of_mem_filter he
    simp only [List.mem_cons, List.not_mem_nil, or_false] at hmem
    rcases hmem with rfl | rfl | rfl | rfl <;> rfl
  unfold axisEvents
  rw [values_sendPacket, List.filter_append, hkeys, hmotions]
  rfl

lemma axisTotal_append (code : EventCode) (events events' : List Event) :
    axisTotal code (events ++ events') = axisTotal code events + axisTotal code events' := by
  unfold axisTotal
  rw [values_append, List.filter_append, List.map_append, List.sum_append]

lemma axisTotal_flatMap (code : EventCode) (packets : List Packet) :
    axisTotal code (packets.flatMap sendPacket) =
      (packets.map fun p => axisTotal code (sendPacket p)).sum := by
  induction packets with
  | nil => rfl
  | cons p packets ih =>
    rw [List.flatMap_cons, axisTotal_append, ih, List.map_cons, List.sum_cons]

/-- The only event of an axis, if there is one, has its value. -/
lemma axisTotal_sendPacket (p : Packet) {code : EventCode} {v : ℤ}
    (hlimit : code.limit ≠ none)
    (h : [(EventCode.relX, p.x), (.relY, p.y), (.relWheel, p.wheel), (.relHWheel, p.pan)].filter
      (fun e => e.1 = code) = [(code, v)]) : axisTotal code (sendPacket p) = v := by
  have hkeys : p.keys.filter (fun e => e.1 = code) = [] := by
    refine List.filter_eq_nil_iff.2 fun e he => ?_
    rw [decide_eq_true_eq]
    rintro rfl
    exact hlimit (limit_of_mem_keys he)
  unfold axisTotal
  rw [values_sendPacket, List.filter_append, hkeys, List.nil_append, Packet.motions,
    List.filter_comm, h]
  by_cases hv : v = 0
  · subst hv
    rfl
  · simp [hv]

lemma sendPacket_reports {p : Packet} (hp : p.Narrow) : Reports p (sendPacket p) where
  length_le := by
    have hkeys := keys_length_le p
    have hmotions := motions_length_le p
    rw [sendPacket_length, List.length_append]
    omega
  sync := fun i event h => by
    rw [(sendPacket_getElem? p h).2, sendPacket_length, decide_eq_true_eq]
  keysFirst := by
    rw [List.pairwise_iff_getElem]
    intro i j hi hj hlt hnone
    have hfirst := (sendPacket_getElem? p (List.getElem?_eq_getElem hi)).1
    have hsecond := (sendPacket_getElem? p (List.getElem?_eq_getElem hj)).1
    -- the second event is one of a key, so both are among the first ones
    have hkey : j < p.keys.length := by
      by_contra hge
      rw [List.getElem?_append_right (not_lt.1 hge)] at hsecond
      obtain ⟨-, limit, hlimit, -⟩ := limit_of_mem_motions hp (List.mem_of_getElem? hsecond)
      exact Option.some_ne_none limit (hlimit.symm.trans hnone)
    rw [List.getElem?_append_left (hlt.trans hkey)] at hfirst
    exact limit_of_mem_keys (List.mem_of_getElem? hfirst)
  keys := fun b => keyEvents_packet b p
  motions := axisEvents_sendPacket p
  axes := fun event hmem limit hlimit => by
    rcases List.mem_append.1 (mem_sendPacket hmem) with hkey | hmotion
    · exact absurd (hlimit.symm.trans (limit_of_mem_keys hkey)) (Option.some_ne_none limit)
    · obtain ⟨hne, limit', hlimit', hle⟩ := limit_of_mem_motions hp hmotion
      rw [hlimit, Option.some_inj] at hlimit'
      exact ⟨hne, hlimit' ▸ hle⟩

/-! ### The whole sequence -/

/-- The events of the packets sum up to a motion, on every axis. -/
def Carry (packets : List Packet) (x y wheel pan : ℤ) : Prop :=
  axisTotal .relX (packets.flatMap sendPacket) = x ∧
    axisTotal .relY (packets.flatMap sendPacket) = y ∧
    axisTotal .relWheel (packets.flatMap sendPacket) = wheel ∧
    axisTotal .relHWheel (packets.flatMap sendPacket) = pan

/-- The packets of a frame when the epoch stays as it is. -/
structure Conserves (frame : MouseHidFrame) (edges : MouseButtonEdges) (full : List Packet) :
    Prop where
  length_le : full.length ≤ 32
  /-- The motion is conserved as far as 32 packets carry it. -/
  motion : Carry full (clamp frame.x (-(32 * 32767)) (32 * 32767))
    (clamp frame.y (-(32 * 32767)) (32 * 32767)) (clamp frame.wheel (-(32 * 127)) (32 * 127))
    (clamp frame.pan (-(32 * 127)) (32 * 127))
  /-- There are no more packets once all the motion has been sent. -/
  soon : ∀ n, 0 < n → Carry (full.take n) frame.x frame.y frame.wheel frame.pan → full.length ≤ n
  /-- The first packet has the edges of the buttons. -/
  edges : ∀ i p, full[i]? = some p → p.edges = if i = 0 then edges else {}

/-- The packets that are sent when the epoch may change: all, or those before a comparison with
another epoch. -/
structure Cut (epochs : ℕ → BitVec 32) (epoch : BitVec 32) (full sent : List Packet) : Prop where
  isPrefix : sent <+: full
  first : sent ≠ []
  current : ∀ i, 0 < i → i < sent.length → epochs i = epoch
  changed : sent = full ∨ epochs sent.length ≠ epoch

lemma carry_packets (input : QueuedInput) (edges : MouseButtonEdges) (n : ℕ) :
    Carry ((List.range n).map (input.packet edges)) (clip (n * 32767) input.frame.x)
      (clip (n * 32767) input.frame.y) (clip (n * 127) input.frame.wheel)
      (clip (n * 127) input.frame.pan) := by
  have hx (p : Packet) : axisTotal .relX (sendPacket p) = p.x :=
    axisTotal_sendPacket p (Option.some_ne_none _) rfl
  have hy (p : Packet) : axisTotal .relY (sendPacket p) = p.y :=
    axisTotal_sendPacket p (Option.some_ne_none _) rfl
  have hwheel (p : Packet) : axisTotal .relWheel (sendPacket p) = p.wheel :=
    axisTotal_sendPacket p (Option.some_ne_none _) rfl
  have hpan (p : Packet) : axisTotal .relHWheel (sendPacket p) = p.pan :=
    axisTotal_sendPacket p (Option.some_ne_none _) rfl
  unfold Carry
  simp only [axisTotal_flatMap, hx, hy, hwheel, hpan]
  refine ⟨?_, ?_, ?_, ?_⟩ <;> rw [List.map_map, ← sum_piece] <;> rfl

lemma spent_iff {input : QueuedInput} {n : ℕ} : input.Spent n ↔
    clip (n * 32767) input.frame.x = input.frame.x ∧
      clip (n * 32767) input.frame.y = input.frame.y ∧
      clip (n * 127) input.frame.wheel = input.frame.wheel ∧
      clip (n * 127) input.frame.pan = input.frame.pan := by
  have hcongr {v c : ℤ} : v - c = 0 ↔ c = v := sub_eq_zero.trans eq_comm
  exact and_congr hcongr (and_congr hcongr (and_congr hcongr hcongr))

lemma narrow_packet (input : QueuedInput) (edges : MouseButtonEdges) (i : ℕ) :
    (input.packet edges i).Narrow := by
  constructor <;> rw [abs_le] <;> exact piece_mem (by decide) _ i

/-- What 32 packets carry is all that the packets carry that do not stop before. -/
lemma clip_of_done {m v : ℤ} (hm : 0 ≤ m) {n : ℕ} (hle : n ≤ 32)
    (h : n = 32 ∨ clip (n * m) v = v) : clip (n * m) v = clip (32 * m) v := by
  rcases h with rfl | hall
  · rfl
  · have hbound : n * m ≤ 32 * m := mul_le_mul_of_nonneg_right (by exact_mod_cast hle) hm
    rw [hall, clip_eq_self_mono (mul_nonneg (Int.natCast_nonneg n) hm) hall hbound]

lemma conserves_packets {input : QueuedInput} {n : ℕ}
    (h : Stops (fun _ => input.epoch) input n) (edges : MouseButtonEdges) :
    Conserves input.frame edges ((List.range n).map (input.packet edges)) where
  length_le := by
    rw [List.length_map, List.length_range]
    exact h.le
  motion := by
    have hdone : n = 32 ∨ input.Spent n := by
      rcases h.stops with heq | hspent | hother
      · exact .inl heq
      · exact .inr hspent
      · exact absurd rfl hother
    obtain ⟨hx, hy, hwheel, hpan⟩ := carry_packets input edges n
    rw [spent_iff] at hdone
    refine ⟨hx.trans ?_, hy.trans ?_, hwheel.trans ?_, hpan.trans ?_⟩
    · exact clip_of_done (by decide) h.le (hdone.imp_right fun hall => hall.1)
    · exact clip_of_done (by decide) h.le (hdone.imp_right fun hall => hall.2.1)
    · exact clip_of_done (by decide) h.le (hdone.imp_right fun hall => hall.2.2.1)
    · exact clip_of_done (by decide) h.le (hdone.imp_right fun hall => hall.2.2.2)
  soon := by
    intro k hk hcarry
    rw [List.length_map, List.length_range]
    by_contra hlt
    rw [not_le] at hlt
    -- if `k` packets carried all the motion, the loop would have stopped there
    rw [← List.map_take, List.take_range, Nat.min_eq_left hlt.le] at hcarry
    obtain ⟨hx, hy, hwheel, hpan⟩ := carry_packets input edges k
    refine h.moving k hk hlt (spent_iff.2 ⟨?_, ?_, ?_, ?_⟩)
    · exact hx.symm.trans hcarry.1
    · exact hy.symm.trans hcarry.2.1
    · exact hwheel.symm.trans hcarry.2.2.1
    · exact hpan.symm.trans hcarry.2.2.2
  edges := by
    intro i p hp
    rw [List.getElem?_map] at hp
    obtain ⟨j, hj, rfl⟩ := Option.map_eq_some_iff.1 hp
    obtain ⟨hlt, rfl⟩ := List.getElem?_eq_some_iff.1 hj
    rw [List.getElem_range]
    rfl

/-- The loop does not go on for longer when the epoch changes. -/
lemma Stops.le_of_constant {epochs : ℕ → BitVec 32} {input : QueuedInput} {n m : ℕ}
    (h : Stops epochs input n) (hall : Stops (fun _ => input.epoch) input m) : n ≤ m := by
  by_contra hlt
  rw [not_le] at hlt
  rcases hall.stops with heq | hspent | hother
  · have hle := h.le
    omega
  · exact h.moving m hall.pos hlt hspent
  · exact hother rfl

lemma Stops.cut {epochs : ℕ → BitVec 32} {input : QueuedInput} {n m : ℕ}
    (h : Stops epochs input n) (hall : Stops (fun _ => input.epoch) input m)
    (edges : MouseButtonEdges) : Cut epochs input.epoch ((List.range m).map (input.packet edges))
      ((List.range n).map (input.packet edges)) where
  isPrefix := by
    have htake : (List.range m).take n = List.range n := by
      rw [List.take_range, Nat.min_eq_left (h.le_of_constant hall)]
    rw [← htake, List.map_take]
    exact List.take_prefix _ _
  first := by
    rw [Ne, List.map_eq_nil_iff, List.range_eq_nil]
    exact h.pos.ne'
  current := by
    rw [List.length_map, List.length_range]
    exact h.current
  changed := by
    rw [List.length_map, List.length_range]
    rcases Nat.eq_or_lt_of_le (h.le_of_constant hall) with rfl | hlt
    · exact .inl rfl
    · refine .inr ?_
      rcases h.stops with heq | hspent | hother
      · have hle := hall.le
        omega
      · exact absurd hspent (hall.moving n h.pos hlt)
      · exact hother

/-- **`send_frame` conserves motion up to its bound.**  For every frame of 32-bit values, every
button state and mask, and whatever `stream_epoch` is at each comparison, no subtraction
overflows, and the packets sent are the first ones of the sequence for the frame, cut before a
comparison with another epoch.  That sequence conserves the motion as far as 32 packets carry
it. -/
theorem send_frame_conserves_motion {input : QueuedInput} (h : input.frame.AxesInRange)
    (buttons : MouseButtonState) (epochs : ℕ → BitVec 32) : ∃ full sent,
      sendFrame (fun _ => input.epoch) buttons input =
        .ok ((mouseButtonsUpdate buttons input.buttons).1, full) ∧
      sendFrame epochs buttons input =
        .ok ((mouseButtonsUpdate buttons input.buttons).1, sent) ∧
      Cut epochs input.epoch full sent ∧
      Conserves input.frame (mouseButtonsUpdate buttons input.buttons).2 full ∧
      ∀ p ∈ full, Reports p (sendPacket p) := by
  obtain ⟨m, hall, hfull⟩ := sendFrame_spec (fun _ => input.epoch) h buttons
  obtain ⟨n, hstops, hsent⟩ := sendFrame_spec epochs h buttons
  refine ⟨_, _, hfull, hsent, hstops.cut hall _, conserves_packets hall _, fun p hp => ?_⟩
  obtain ⟨i, -, rfl⟩ := List.mem_map.1 hp
  exact sendPacket_reports (narrow_packet input _ i)

/-- A frame with the smallest and the greatest value of its axes. -/
def extremeInput : QueuedInput where
  frame := { x := int32Min, y := int32Max, wheel := 300 }
  epoch := 0
  buttons := 5
  received := 0

theorem send_frame_conserves_motion_extreme : ∃ full sent,
    sendFrame (fun _ => 0) {} extremeInput =
      .ok ((mouseButtonsUpdate {} extremeInput.buttons).1, full) ∧
    sendFrame (fun i => if i < 2 then 0 else 1) {} extremeInput =
      .ok ((mouseButtonsUpdate {} extremeInput.buttons).1, sent) ∧
    Cut (fun i => if i < 2 then 0 else 1) 0 full sent ∧
    Conserves extremeInput.frame (mouseButtonsUpdate {} extremeInput.buttons).2 full ∧
    ∀ p ∈ full, Reports p (sendPacket p) :=
  have hrange : extremeInput.frame.AxesInRange :=
    ⟨⟨by decide, by decide⟩, ⟨by decide, by decide⟩, ⟨by decide, by decide⟩, inRange_zero⟩
  send_frame_conserves_motion hrange {} _

end BleMouse.Output
