/-
Frames are sent in the order of their arrival, each at most once.

Frames may be lost: to an overflow of the queue, an endpoint change or a disconnect, at any
moment.  What is sent of the others comes in their order, and of each of them it is a
beginning of its packets.  The frames of which something has been sent, the one in the
worker's hand and those in the queue make up a sublist of the arrivals, `InOrder`.

* `inOrder_step`: every step keeps the invariant;
* `frames_sent_in_order`: the main result.
-/
import BleMouse.Output.Outlook

namespace BleMouse.Output

open BleMouse.Hid Clip

/-! ### Motion -/

/-- The frames that have been received. -/
def arrivals (ls : List Label) : List MouseHidFrame :=
  ls.filterMap fun
    | .receive frame _ => some frame
    | _ => none

/-- The events of axes for packet `i` of a frame. -/
def pieceEvents (frame : MouseHidFrame) (i : ℕ) : List (EventCode × ℤ) :=
  motionEvents (piece 32767 frame.x i) (piece 32767 frame.y i) (piece 127 frame.wheel i)
    (piece 127 frame.pan i)

/-- The events of axes that have been given to the input layer. -/
def sentMotions (sent : List Packet) : List (EventCode × ℤ) := axisEvents (sent.flatMap sendPacket)

/-- The events of axes for the first packets of some frames. -/
def keptMotions (kept : List (MouseHidFrame × ℕ)) : List (EventCode × ℤ) :=
  kept.flatMap fun k => (List.range k.2).flatMap (pieceEvents k.1)

lemma sentMotions_concat (sent : List Packet) (p : Packet) :
    sentMotions (sent ++ [p]) = sentMotions sent ++ motionEvents p.x p.y p.wheel p.pan := by
  unfold sentMotions
  rw [List.flatMap_append, List.flatMap_singleton, ← axisEvents_sendPacket]
  unfold axisEvents
  rw [values_append, List.filter_append]

/-- A packet that only has edges of buttons moves nothing. -/
lemma sentMotions_still (sent : List Packet) (origin : Origin) (edges : MouseButtonEdges) :
    sentMotions (sent ++ [({ origin, edges } : Packet)]) = sentMotions sent :=
  (sentMotions_concat sent _).trans (List.append_nil _)

/-- One more packet of the last frame. -/
lemma keptMotions_more (before : List (MouseHidFrame × ℕ)) (frame : MouseHidFrame) (n : ℕ) :
    keptMotions (before ++ [(frame, n + 1)]) =
      keptMotions (before ++ [(frame, n)]) ++ pieceEvents frame n := by
  unfold keptMotions
  rw [List.flatMap_append, List.flatMap_append, List.append_assoc]
  simp [List.range_succ]

/-- What is left of a frame after some packets is sent in the packets that follow. -/
lemma rest_after (input : QueuedInput) (i : ℕ) : (input.after i).rest = input.after (i + 1) := by
  have hrest (m v : ℤ) (hm : 0 ≤ m) : v - clip (i * m) v - clamp (v - clip (i * m) v) (-m) m =
      v - clip ((i + 1 : ℕ) * m) v := by
    rw [clamp_eq_clip, clip_sub_clip_mul hm, piece]
    ring
  unfold QueuedInput.rest QueuedInput.after
  simp only [hrest 32767 _ (by decide), hrest 127 _ (by decide)]

lemma chunk_after_motion (input : QueuedInput) (edges : MouseButtonEdges) (i : ℕ) :
    motionEvents ((input.after i).chunk edges).x ((input.after i).chunk edges).y
      ((input.after i).chunk edges).wheel ((input.after i).chunk edges).pan =
      pieceEvents input.frame i := by
  have hpiece (m v : ℤ) (hm : 0 ≤ m) : clamp (v - clip (i * m) v) (-m) m = piece m v i := by
    rw [clamp_eq_clip, clip_sub_clip_mul hm]
  unfold QueuedInput.chunk QueuedInput.after pieceEvents
  simp only [hpiece 32767 _ (by decide), hpiece 127 _ (by decide)]

/-! ### The worker between two packets -/

/-- The worker after packet `i` of a frame: it goes on with what is left, or takes the next. -/
def GoesOn (input : QueuedInput) (i : ℕ) (w : Position) : Prop :=
  w = .dequeue ∨ i + 1 < 32 ∧ w = .recheckEpoch input.rest (i + 1)

lemma sendChunk_goesOn (s : State) (input : QueuedInput) (i : ℕ) (edges : MouseButtonEdges) :
    GoesOn input i (s.sendChunk input i edges).worker := by
  unfold State.sendChunk
  dsimp only
  split
  · exact .inl rfl
  · split
    case isTrue hi => exact .inr ⟨hi, rfl⟩
    case isFalse => exact .inl rfl

lemma goesOn_first {cap : ℕ} {s s' : State} {input : QueuedInput}
    (h : step cap s .work = some s') (hw : s.worker = .firstPacket input) :
    GoesOn input 0 s'.worker := by
  simp only [step, State.work, hw] at h
  cases h
  exact sendChunk_goesOn _ _ _ _

lemma goesOn_more {cap : ℕ} {s s' : State} {input : QueuedInput} {i : ℕ}
    (h : step cap s .work = some s') (hw : s.worker = .morePacket input i) :
    GoesOn input i s'.worker := by
  simp only [step, State.work, hw] at h
  cases h
  exact sendChunk_goesOn _ _ _ _

/-! ### The invariant -/

/-- Between its packets, a frame is the last one of which something has been sent. -/
def Underway (kept : List (MouseHidFrame × ℕ)) (input : QueuedInput) (i : ℕ) : Prop :=
  i < 32 ∧ ∃ before original, kept = before ++ [(QueuedInput.frame original, i)] ∧
    input = original.after i

/-- Of the frames received, some have been sent in part, then comes the one in the worker's hand,
and then those in the queue. -/
structure InOrder (frames : List MouseHidFrame) (kept : List (MouseHidFrame × ℕ)) (s : State) :
    Prop where
  sublist : (kept.map Prod.fst ++ (s.worker.inHand.toList ++ s.mouseInputs).map (·.frame)).Sublist
    frames
  sent : sentMotions s.sent = keptMotions kept
  pos : ∀ k ∈ kept, 0 < k.2 ∧ k.2 ≤ 32
  recheck : ∀ input i, s.worker = .recheckEpoch input i → Underway kept input i
  more : ∀ input i, s.worker = .morePacket input i → Underway kept input i

namespace InOrder

variable {frames : List MouseHidFrame} {kept : List (MouseHidFrame × ℕ)} {s s' : State}

/-- The worker keeps what it has in hand, and sends nothing of a frame. -/
lemma moved (h : InOrder frames kept s) (hinputs : s'.mouseInputs = s.mouseInputs)
    (hsent : sentMotions s'.sent = sentMotions s.sent)
    (hhand : s'.worker.inHand = s.worker.inHand)
    (hrecheck : ∀ input i, s'.worker ≠ .recheckEpoch input i)
    (hmore : ∀ input i, s'.worker ≠ .morePacket input i) : InOrder frames kept s' where
  sublist := by
    rw [hhand, hinputs]
    exact h.sublist
  sent := hsent.trans h.sent
  pos := h.pos
  recheck := fun input i hw => absurd hw (hrecheck input i)
  more := fun input i hw => absurd hw (hmore input i)

/-- The worker goes on to another frame. -/
lemma dropped (h : InOrder frames kept s) (hinputs : s'.mouseInputs = s.mouseInputs)
    (hsent : sentMotions s'.sent = sentMotions s.sent) (hw : s'.worker = .dequeue) :
    InOrder frames kept s' where
  sublist := by
    refine List.Sublist.trans ?_ h.sublist
    rw [hinputs, hw]
    exact (List.Sublist.refl _).append ((List.sublist_append_right _ _).map _)
  sent := hsent.trans h.sent
  pos := h.pos
  recheck := fun input i hw' => by
    rw [hw] at hw'
    cases hw'
  more := fun input i hw' => by
    rw [hw] at hw'
    cases hw'

/-- Packet `i` of a frame has been sent. -/
lemma packet {before : List (MouseHidFrame × ℕ)} {original : QueuedInput} {i : ℕ}
    {edges : MouseButtonEdges} (hi : i < 32)
    (hsublist : ((before ++ [(original.frame, i + 1)]).map Prod.fst ++
      s'.mouseInputs.map (·.frame)).Sublist frames)
    (hsent : s'.sent = s.sent ++ [(original.after i).chunk edges])
    (hbefore : sentMotions s.sent = keptMotions (before ++ [(original.frame, i)]))
    (hpos : ∀ k ∈ before, 0 < k.2 ∧ k.2 ≤ 32) (hw : GoesOn (original.after i) i s'.worker) :
    InOrder frames (before ++ [(original.frame, i + 1)]) s' := by
  have hhand : s'.worker.inHand = none := by
    rcases hw with hw | ⟨-, hw⟩
    · rw [hw]
      rfl
    · rw [hw]
      rfl
  refine ⟨?_, ?_, ?_, ?_, ?_⟩
  · rw [hhand]
    exact hsublist
  · rw [hsent, sentMotions_concat, chunk_after_motion, keptMotions_more, hbefore]
  · intro k hk
    rcases List.mem_append.1 hk with hk | hk
    · exact hpos k hk
    · rw [List.mem_singleton.1 hk]
      exact ⟨Nat.succ_pos i, hi⟩
  · intro input j hw'
    rcases hw with hw | ⟨hlt, hw⟩
    · rw [hw] at hw'
      cases hw'
    · rw [hw] at hw'
      cases hw'
      exact ⟨hlt, before, original, rfl, rest_after original i⟩
  · intro input j hw'
    rcases hw with hw | ⟨-, hw⟩
    · rw [hw] at hw'
      cases hw'
    · rw [hw] at hw'
      cases hw'

/-- More frames have been received. -/
lemma mono (h : InOrder frames kept s) (more : List MouseHidFrame) :
    InOrder (frames ++ more) kept s :=
  { h with sublist := h.sublist.trans (List.sublist_append_left _ _) }

/-- The queue is emptied. -/
lemma purged (h : InOrder frames kept s) (hinputs : s'.mouseInputs = [])
    (hworker : s'.worker = s.worker) (hsent : s'.sent = s.sent) : InOrder frames kept s' where
  sublist := by
    refine List.Sublist.trans ?_ h.sublist
    rw [hinputs, hworker, List.append_nil]
    exact (List.Sublist.refl _).append ((List.sublist_append_left _ _).map _)
  sent := by
    rw [hsent]
    exact h.sent
  pos := h.pos
  recheck := fun input i hw => h.recheck input i (hworker ▸ hw)
  more := fun input i hw => h.more input i (hworker ▸ hw)

end InOrder

lemma arrivals_snoc (ls : List Label) (l : Label) :
    arrivals (ls ++ [l]) = arrivals ls ++ arrivals [l] := List.filterMap_append ..

lemma inHand_position (next : Next) :
    next.position.inHand = (Position.readReset next).inHand := by
  cases next <;> rfl

lemma position_ne (next : Next) (input : QueuedInput) (i : ℕ) :
    next.position ≠ .recheckEpoch input i ∧ next.position ≠ .morePacket input i := by
  cases next <;> exact ⟨Position.noConfusion, Position.noConfusion⟩

/-- Every step keeps the order. -/
lemma inOrder_step {cap : ℕ} {ls : List Label} {l : Label} {s s' : State}
    {kept : List (MouseHidFrame × ℕ)} (h : InOrder (arrivals ls) kept s)
    (hstep : step cap s l = some s') : ∃ kept', InOrder (arrivals (ls ++ [l])) kept' s' := by
  rw [arrivals_snoc]
  cases step_effect hstep with
  | queued frame physical hroom =>
    refine ⟨kept, ?_, h.sent, h.pos, h.recheck, h.more⟩
    show (kept.map Prod.fst ++ (s.worker.inHand.toList ++ (s.mouseInputs ++ _)).map _).Sublist _
    rw [← List.append_assoc, List.map_append, ← List.append_assoc]
    exact h.sublist.append (List.Sublist.refl _)
  | reset hl => exact ⟨kept, (h.mono _).purged rfl rfl rfl⟩
  | submit => exact ⟨kept, { h.mono _ with }⟩
  | start hw =>
    exact ⟨kept, (h.mono _).moved rfl rfl (by rw [hw]; rfl) (fun _ _ => Position.noConfusion)
      fun _ _ => Position.noConfusion⟩
  | @readPending next hw hp =>
    refine ⟨kept, (h.mono _).moved rfl rfl ?_ (fun _ _ => Position.noConfusion)
      fun _ _ => Position.noConfusion⟩
    rw [hw]
    cases next <;> rfl
  | @readNothing next hw hp =>
    exact ⟨kept, (h.mono _).moved rfl rfl (by rw [hw]; exact inHand_position next)
      (fun input i => (position_ne next input i).1) fun input i => (position_ne next input i).2⟩
  | @apply physical upTo next hw =>
    refine ⟨kept, (h.mono _).moved rfl (sentMotions_still _ _ _) ?_
      (fun input i => (position_ne next input i).1) fun input i => (position_ne next input i).2⟩
    rw [hw]
    cases next <;> rfl
  | dequeue hw hq =>
    refine ⟨kept, ?_, h.sent, h.pos, fun _ _ => Position.noConfusion, fun _ _ =>
      Position.noConfusion⟩
    have hsublist := (h.mono (arrivals [.work])).sublist
    rw [hw, hq] at hsublist
    exact hsublist
  | drained hw hq =>
    exact ⟨kept, (h.mono _).moved rfl rfl (by rw [hw]; rfl) (fun _ _ => Position.noConfusion)
      fun _ _ => Position.noConfusion⟩
  | current hw he =>
    exact ⟨kept, (h.mono _).moved rfl rfl (by rw [hw]; rfl) (fun _ _ => Position.noConfusion)
      fun _ _ => Position.noConfusion⟩
  | stale hw he => exact ⟨kept, (h.mono _).dropped rfl rfl rfl⟩
  | @first input w hw hafter =>
    have hsublist := (h.mono (arrivals [.work])).sublist
    rw [hw] at hsublist
    have hsent : s.sent ++ [input.chunk (mouseButtonsUpdate s.buttons input.buttons).2] =
        s.sent ++ [(input.after 0).chunk (mouseButtonsUpdate s.buttons input.buttons).2] := by
      rw [input.after_zero]
    refine ⟨kept ++ [(input.frame, 0 + 1)], InOrder.packet (s := s) (by decide) ?_ hsent ?_ h.pos
      ?_⟩
    · rw [List.map_append, List.append_assoc]
      exact hsublist
    · rw [h.sent]
      unfold keptMotions
      rw [List.flatMap_append]
      exact (List.append_nil _).symm
    · rw [input.after_zero]
      exact goesOn_first hstep hw
  | @recheck input i w hw he =>
    rcases he with ⟨rfl, -⟩ | rfl
    · refine ⟨kept, ?_, h.sent, h.pos, fun _ _ => Position.noConfusion, fun _ _ hw' => ?_⟩
      · have hsublist := (h.mono (arrivals [.work])).sublist
        rw [hw] at hsublist
        exact hsublist
      · cases hw'
        exact h.recheck input i hw
    · exact ⟨kept, (h.mono _).dropped rfl rfl rfl⟩
  | @more input i w hw hafter =>
    obtain ⟨hi, before, original, rfl, rfl⟩ := h.more input i hw
    have hsublist := (h.mono (arrivals [.work])).sublist
    rw [hw] at hsublist
    refine ⟨before ++ [(original.frame, i + 1)], InOrder.packet (s := s) hi ?_ rfl h.sent
      (fun k hk => h.pos k (List.mem_append_left _ hk)) (goesOn_more hstep hw)⟩
    rw [List.map_append] at hsublist ⊢
    exact hsublist

/-! ### Runs -/

/-- **Frames are sent in order, each at most once.**  In every state of every run, the events of
axes that the input layer has received are those of the first packets of some of the frames
received, one frame after another in the order of their arrival. -/
theorem frames_sent_in_order {cap : ℕ} {ls : List Label} {s : State} (hrun : Run cap {} ls s) :
    ∃ kept : List (MouseHidFrame × ℕ), (kept.map Prod.fst).Sublist (arrivals ls) ∧
      (∀ k ∈ kept, 0 < k.2 ∧ k.2 ≤ 32) ∧
      axisEvents (s.sent.flatMap sendPacket) =
        kept.flatMap fun k => (List.range k.2).flatMap (pieceEvents k.1) := by
  obtain ⟨kept, h⟩ := hrun.invariant_labels (fun ls s => ∃ kept, InOrder (arrivals ls) kept s)
    ⟨[], List.Sublist.refl _, rfl, fun _ hk => absurd hk List.not_mem_nil,
      fun _ _ => Position.noConfusion, fun _ _ => Position.noConfusion⟩
    fun ls t l t' ⟨kept, ht⟩ hstep => inOrder_step ht hstep
  exact ⟨kept, (List.sublist_append_left _ _).trans h.sublist, h.pos, h.sent⟩

end BleMouse.Output
