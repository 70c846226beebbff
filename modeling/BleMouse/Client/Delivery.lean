/-
From notifications to packets.

While a mouse is ready, `notify_cb` decodes each payload with the report ID of its
characteristic, merges the buttons of all characteristics and hands the frame to the output
module, whose worker drains its queue at any time.

* `Session.deliveries`: the frames and button masks for a sequence of notifications;
* `Undisturbed`: the steps of the client and the output module while nothing resets the stream;
* `notifications_reach_input`: what has been sent once the queue is drained.
-/
import BleMouse.Client.Turns
import BleMouse.Output.Outlook

namespace BleMouse.Client

open BleMouse.Hid BleMouse.Output Checked

/-! ### Deliveries -/

/-- A notification of a report characteristic, with its payload. -/
abbrev Notification := ℕ × List UInt8

namespace Session

variable (session : Session)

/-- The frame of a payload that `mouse_hid_decode` accepts. -/
def accept (n : Notification) : Option MouseHidFrame :=
  match session.reports[n.1]? with
  | none => none
  | some report =>
    match mouseHidDecode session.map report.id n.2 {} with
    | .ok ⟨none, frame⟩ => some frame
    | _ => none

/-- The buttons of the latest accepted payload of a report characteristic. -/
def latest (seen : List Notification) (i : ℕ) : Buttons :=
  (((seen.filter fun n => n.1 = i).filterMap session.accept).getLast?.map (·.buttons)).getD 0

/-- The buttons of all report characteristics. -/
def union (seen : List Notification) : Buttons :=
  (List.range session.reports.length).foldl (fun buttons i => buttons ||| session.latest seen i) 0

/-- The frames of the notifications that are accepted, with the button mask for each, after the
notifications seen before. -/
def deliveries : List Notification → List Notification → List (MouseHidFrame × Buttons)
  | _, [] => []
  | seen, n :: rest =>
    match session.accept n with
    | some frame => (frame, session.union (seen ++ [n])) :: deliveries (seen ++ [n]) rest
    | none => deliveries (seen ++ [n]) rest

/-- The session after some notifications. -/
def after (seen : List Notification) : Session :=
  { session with reports := session.reports.mapIdx fun i report =>
      { report with buttons := session.latest seen i } }

lemma deliveries_snoc (seen rest : List Notification) (n : Notification) :
    session.deliveries seen (rest ++ [n]) = session.deliveries seen rest ++
      match session.accept n with
      | some frame => [(frame, session.union (seen ++ rest ++ [n]))]
      | none => [] := by
  induction rest generalizing seen with
  | nil =>
    rw [List.append_nil]
    show session.deliveries seen [n] = _
    unfold deliveries
    cases session.accept n with
    | none => rfl
    | some frame => rfl
  | cons n' rest ih =>
    rw [List.cons_append]
    unfold deliveries
    rw [ih, List.append_assoc seen [n'] rest, List.singleton_append]
    cases session.accept n' with
    | none => rfl
    | some frame => rfl

lemma latest_snoc (seen : List Notification) (n : Notification) (i : ℕ) :
    session.latest (seen ++ [n]) i = match session.accept n with
      | some frame => if n.1 = i then frame.buttons else session.latest seen i
      | none => session.latest seen i := by
  unfold latest
  rw [List.filter_append, List.filterMap_append, List.getLast?_append]
  by_cases hi : n.1 = i
  · rw [show [n].filter (fun n => decide (n.1 = i)) = [n] from
      List.filter_cons_of_pos (decide_eq_true hi)]
    cases haccept : session.accept n with
    | none => simp [haccept]
    | some frame => simp [haccept, hi]
  · rw [show [n].filter (fun n => decide (n.1 = i)) = [] from
      List.filter_cons_of_neg (by rwa [decide_eq_true_eq])]
    cases session.accept n with
    | none => rfl
    | some frame => simp [hi]

/-- A session that is ready and has not been notified. -/
lemma after_nil (h : session.Released) : session.after [] = session := by
  have hreports : (session.reports.mapIdx fun i report =>
      { report with buttons := session.latest [] i }) = session.reports := by
    refine List.ext_getElem (List.length_mapIdx ..) fun i hi hi' => ?_
    rw [List.getElem_mapIdx]
    have hnone := h _ (List.getElem_mem hi')
    show ({ session.reports[i] with buttons := (0 : Buttons) } : ReportCharacteristic) = _
    rw [← hnone]
  unfold after
  rw [hreports]

lemma accept_after (seen : List Notification) (n : Notification) :
    (session.after seen).accept n = session.accept n := by
  unfold accept after
  dsimp only
  rw [List.getElem?_mapIdx]
  cases session.reports[n.1]? with
  | none => rfl
  | some report => rfl

/-- The mask that `notify_cb` computes. -/
lemma physical_after (seen : List Notification) :
    (session.after seen).physical = session.union seen := by
  have hbuttons : (session.after seen).reports.map (·.buttons) =
      (List.range session.reports.length).map (session.latest seen) := by
    refine List.ext_getElem ?_ fun i hi hi' => ?_
    · simp [after]
    · simp [after]
  unfold physical union
  rw [← List.foldl_map (f := fun report : ReportCharacteristic => report.buttons), hbuttons,
    List.foldl_map]

/-- An accepted payload gives its characteristic its buttons. -/
lemma after_snoc_accepted (seen : List Notification) {n : Notification} {frame : MouseHidFrame}
    {report : ReportCharacteristic} (haccept : session.accept n = some frame)
    (hreport : (session.after seen).reports[n.1]? = some report) :
    session.after (seen ++ [n]) = { session.after seen with
      reports := (session.after seen).reports.set n.1
        { report with buttons := frame.buttons } } := by
  have hreports : (session.after (seen ++ [n])).reports =
      (session.after seen).reports.set n.1 { report with buttons := frame.buttons } := by
    refine List.ext_getElem? fun i => ?_
    rw [List.getElem?_set]
    unfold after at hreport ⊢
    dsimp only at hreport ⊢
    rw [List.getElem?_mapIdx] at hreport ⊢
    rw [latest_snoc, haccept]
    dsimp only
    split
    case isTrue heq =>
      subst heq
      obtain ⟨report', hreport', rfl⟩ := Option.map_eq_some_iff.1 hreport
      rw [hreport', if_pos (by simpa using (List.getElem?_eq_some_iff.1 hreport').1)]
      rfl
    case isFalse hne => rw [List.getElem?_mapIdx]
  unfold after at hreports ⊢
  dsimp only at hreports ⊢
  rw [hreports]

lemma after_snoc_rejected (seen : List Notification) {n : Notification}
    (hreject : session.accept n = none) : session.after (seen ++ [n]) = session.after seen := by
  unfold after
  simp only [latest_snoc, hreject]

end Session

/-- `notify_cb` while the mouse is ready. -/
lemma notifyCb_ready {s : State} {c : Conn} (hvalid : s.validCallback c = true)
    (hready : s.stage = .ready) (i : ℕ) (data : List UInt8) :
    s.session.accept (i, data) = none ∧ s.notifyCb c i (some data) = s ∨
    ∃ frame report, s.session.accept (i, data) = some frame ∧
      s.session.reports[i]? = some report ∧
      s.notifyCb c i (some data) =
        (State.observe { s with session := { s.session with
          reports := s.session.reports.set i { report with buttons := frame.buttons } } }
            (.outputReceive frame (Session.physical { s.session with
              reports := s.session.reports.set i
                { report with buttons := frame.buttons } }))).submit .output := by
  have hcond : ¬(!s.validCallback c || decide (s.stage ≠ .ready)) = true := by
    rw [hvalid, hready]
    decide
  unfold State.notifyCb Session.accept
  rw [if_neg hcond]
  dsimp only
  cases hreport : s.session.reports[i]? with
  | none => exact .inl ⟨rfl, rfl⟩
  | some report =>
    dsimp only
    cases mouseHidDecode s.session.map report.id data {} with
    | error e => exact .inl ⟨rfl, rfl⟩
    | ok result =>
      obtain ⟨error, frame⟩ := result
      cases error with
      | some e => exact .inl ⟨rfl, rfl⟩
      | none => exact .inr ⟨frame, report, rfl, rfl, rfl⟩

lemma frameOf_inRange (map : MouseHidMap) (r : ℕ) (present : BitVec 8) (data : List UInt8) :
    (map.frameOf r present data).AxesInRange := by
  unfold MouseHidMap.frameOf
  refine List.foldlRecOn _ _ ⟨inRange_zero, inRange_zero, inRange_zero, inRange_zero⟩ ?_
  intro frame h field _
  exact accumulate_inRange h field _

/-- Every accepted frame is in range. -/
lemma accept_inRange {session : Session} (h : session.map.Separated) {n : Notification}
    {frame : MouseHidFrame} (haccept : session.accept n = some frame) : frame.AxesInRange := by
  unfold Session.accept at haccept
  split at haccept
  case h_1 => cases haccept
  case h_2 report _ =>
    split at haccept
    case h_2 => cases haccept
    case h_1 frame' hdecode =>
      obtain rfl := Option.some.inj haccept
      rw [mouseHidDecode_eq h] at hdecode
      split at hdecode
      case h_1 => cases hdecode
      case h_2 =>
      split at hdecode
      case h_1 => cases hdecode
      case h_2 =>
      split_ifs at hdecode
      all_goals
        simp only [Except.ok.injEq, DecodeResult.mk.injEq, reduceCtorEq, false_and] at hdecode
      rw [← hdecode.2]
      exact frameOf_inRange _ _ _ _

/-! ### The client and the output module -/

/-- The steps of the client, the submission of the work at the end of a call of
`zmk_mouse_output_receive`, and the steps of the output worker. -/
inductive Joint.Event
  | client (l : Label)
  | submit
  | work
deriving DecidableEq, Repr

/-- The client and the output module together, for a queue of `cap` elements.  A step of the
client calls `zmk_mouse_output_receive` or does not. -/
inductive Joint (maxPaired cap : ℕ) :
    State × Output.State → Joint.Event → State × Output.State → Prop
  | receive {s s' : State} {o : Output.State} {l : Label} {frame : MouseHidFrame}
      {physical : Buttons} (hstep : Step maxPaired s l s') (hl : l.Notifies)
      (hcall : s'.journal = s.journal ++ [.outputReceive frame physical]) :
      Joint maxPaired cap (s, o) (.client l) (s', o.receive cap frame physical)
  | client {s s' : State} {o : Output.State} {l : Label} (hstep : Step maxPaired s l s')
      (hnone : l.Notifies → s'.journal = s.journal) :
      Joint maxPaired cap (s, o) (.client l) (s', o)
  | submit {s : State} {o o' : Output.State} (hstep : Output.step cap o .submit = some o') :
      Joint maxPaired cap (s, o) .submit (s, o')
  | work {s : State} {o o' : Output.State} (hstep : Output.step cap o .work = some o') :
      Joint maxPaired cap (s, o) .work (s, o')

/-- The mouse stays ready over a connection. -/
structure State.Attends (s : State) (c : Conn) : Prop where
  ready : s.stage = .ready
  failure : s.failure = 0
  conn : s.mouseConn = some c

/-- A step after which the mouse is ready still, and which does not reset the stream. -/
def Undisturbed (maxPaired cap : ℕ) (c : Conn) (t : State × Output.State) (e : Joint.Event)
    (t' : State × Output.State) : Prop :=
  Joint maxPaired cap t e t' ∧ t'.1.Attends c ∧ t'.2.resets = t.2.resets

instance (s : State) (c : Conn) : Decidable (s.Attends c) :=
  decidable_of_iff (s.stage = .ready ∧ s.failure = 0 ∧ s.mouseConn = some c)
    ⟨fun h => ⟨h.1, h.2.1, h.2.2⟩, fun h => ⟨h.1, h.2, h.3⟩⟩

instance (l : Label) : Decidable l.Notifies := by
  induction l using Label.casesOn <;> unfold Label.Notifies <;> infer_instance

/-- The client and the output module after an event. -/
def Joint.next (maxPaired cap : ℕ) (t : State × Output.State) :
    Joint.Event → Option (State × Output.State)
  | .client l =>
    (t.1.next maxPaired l).bind fun s' =>
      match s'.journal.drop t.1.journal.length with
      | [.outputReceive frame physical] =>
        if l.Notifies ∧ s'.journal = t.1.journal ++ [.outputReceive frame physical] then
          some (s', t.2.receive cap frame physical)
        else none
      | _ => if l.Notifies → s'.journal = t.1.journal then some (s', t.2) else none
  | .submit => (Output.step cap t.2 .submit).map fun o => (t.1, o)
  | .work => (Output.step cap t.2 .work).map fun o => (t.1, o)

lemma joint_of_next {maxPaired cap : ℕ} {t t' : State × Output.State} {e : Joint.Event}
    (h : Joint.next maxPaired cap t e = some t') : Joint maxPaired cap t e t' := by
  obtain ⟨s, o⟩ := t
  cases e with
  | client l =>
    obtain ⟨s', hs', h⟩ := Option.bind_eq_some_iff.1 h
    have hstep := step_of_next hs'
    split at h
    case h_1 =>
      split at h
      case isTrue hcond =>
        cases h
        exact .receive hstep hcond.1 hcond.2
      case isFalse => cases h
    case h_2 =>
      split at h
      case isTrue hcond =>
        cases h
        exact .client hstep hcond
      case isFalse => cases h
  | submit =>
    obtain ⟨o', ho', rfl⟩ := Option.map_eq_some_iff.1 h
    exact .submit ho'
  | work =>
    obtain ⟨o', ho', rfl⟩ := Option.map_eq_some_iff.1 h
    exact .work ho'

/-- The client and the output module after an event that leaves the session undisturbed. -/
def Undisturbed.next (maxPaired cap : ℕ) (c : Conn) (t : State × Output.State)
    (e : Joint.Event) : Option (State × Output.State) :=
  (Joint.next maxPaired cap t e).filter fun t' => t'.1.Attends c ∧ t'.2.resets = t.2.resets

lemma undisturbed_of_next {maxPaired cap : ℕ} {c : Conn} {t t' : State × Output.State}
    {e : Joint.Event} (h : Undisturbed.next maxPaired cap c t e = some t') :
    Undisturbed maxPaired cap c t e t' := by
  obtain ⟨hnext, hcond⟩ := Option.filter_eq_some_iff.1 h
  exact ⟨joint_of_next hnext, of_decide_eq_true hcond⟩

/-- The notifications of a connection. -/
def notifications (c : Conn) (events : List Joint.Event) : List Notification :=
  events.filterMap fun
    | .client (.notified c' i (some data)) => if c' = c then some (i, data) else none
    | _ => none

/-- `send_frame` for frames and button masks, one after another, while the epoch stays as it is:
the button state after them, and the packets they send. -/
def sendFrames (epoch : BitVec 32) (received : ℕ) :
    MouseButtonState → List (MouseHidFrame × Buttons) → Send (MouseButtonState × List Packet)
  | buttons, [] => return (buttons, [])
  | buttons, (frame, physical) :: rest => do
    let (buttons, packets) ← sendFrame (fun _ => epoch) buttons
      { frame, epoch, buttons := physical, received }
    let (buttons, more) ← sendFrames epoch received buttons rest
    return (buttons, packets ++ more)

/-- What the worker does for frames and button masks. -/
def deliveriesPart (epoch : BitVec 32) (received : ℕ)
    (deliveries : List (MouseHidFrame × Buttons)) : Part :=
  .sequence (deliveries.map fun d => inputPart epoch ⟨d.1, epoch, d.2, received⟩)

lemma sendFrames_eq (epoch : BitVec 32) (received : ℕ) (buttons : MouseButtonState)
    {deliveries : List (MouseHidFrame × Buttons)} (h : ∀ d ∈ deliveries, d.1.AxesInRange) :
    sendFrames epoch received buttons deliveries =
      .ok (deliveriesPart epoch received deliveries buttons) := by
  induction deliveries generalizing buttons with
  | nil => rfl
  | cons d rest ih =>
    obtain ⟨frame, physical⟩ := d
    unfold sendFrames
    have hsend : sendFrame (fun _ => epoch) buttons ⟨frame, epoch, physical, received⟩ =
        .ok (inputPart epoch ⟨frame, epoch, physical, received⟩ buttons) :=
      sendFrame_constant (h _ List.mem_cons_self) buttons
    rw [hsend, ok_bind]
    show (do
      let (buttons', more) ← sendFrames epoch received
        (inputPart epoch ⟨frame, epoch, physical, received⟩ buttons).1 rest
      return (buttons', (inputPart epoch ⟨frame, epoch, physical, received⟩ buttons).2 ++ more) :
        Send _) = _
    rw [ih _ fun d hd => h d (List.mem_cons_of_mem _ hd), ok_bind]
    rfl

/-! ### A session -/

/-- What holds of the client and the output module after some notifications. -/
structure Delivered (session : Session) (o₀ : Output.State) (c : Conn) (seen : List Notification)
    (t : State × Output.State) : Prop where
  coherent : Coherent t.1
  attends : t.1.Attends c
  session_eq : t.1.session = session.after seen
  epoch : t.2.streamEpoch = o₀.streamEpoch
  resets : t.2.resets = o₀.resets
  conclusion : t.2.conclusion =
    (deliveriesPart o₀.streamEpoch o₀.resets (session.deliveries [] seen)).conclude
      o₀.conclusion.1 o₀.conclusion.2

section Session

variable {maxPaired cap : ℕ} {session : Session} {o₀ : Output.State} {c : Conn}
  {seen : List Notification} {events : List Joint.Event}

lemma notifications_snoc (c : Conn) (events : List Joint.Event) (e : Joint.Event) :
    notifications c (events ++ [e]) = notifications c events ++ notifications c [e] :=
  List.filterMap_append ..

/-- A frame finds room in the queue when the stream is not reset. -/
lemma room_of_receive {o : Output.State} {frame : MouseHidFrame} {physical : Buttons}
    (h : (o.receive cap frame physical).resets = o.resets) : o.mouseInputs.length < cap := by
  by_contra hfull
  unfold Output.State.receive at h
  dsimp only at h
  rw [if_neg hfull] at h
  exact absurd h (Nat.succ_ne_self _)

/-- The frames of one more notification. -/
lemma conclude_delivery {epoch : BitVec 32} {received : ℕ}
    (deliveries : List (MouseHidFrame × Buttons)) (d : MouseHidFrame × Buttons)
    (buttons : MouseButtonState) (sent : List Packet) :
    (deliveriesPart epoch received (deliveries ++ [d])).conclude buttons sent =
      ((deliveriesPart epoch received deliveries).andThen
        (inputPart epoch ⟨d.1, epoch, d.2, received⟩)).conclude buttons sent := by
  unfold deliveriesPart
  rw [List.map_append]
  exact congrArg (Emission.conclude · buttons sent) (Emission.sequence_snoc _ _)

/-- What a notification does while the mouse stays ready. -/
lemma notified_cases {s : State} {c' : Conn} {i : ℕ} {data : Option (List UInt8)}
    (hs : s.Attends c) (hs' : (s.notifyCb c' i data).Attends c) :
    notifications c [.client (.notified c' i data)] = [] ∧ s.notifyCb c' i data = s ∨
    ∃ payload, notifications c [.client (.notified c' i data)] = [(i, payload)] ∧
      (s.session.accept (i, payload) = none ∧ s.notifyCb c' i data = s ∨
      ∃ frame report, s.session.accept (i, payload) = some frame ∧
        s.session.reports[i]? = some report ∧
        s.notifyCb c' i data =
          (State.observe { s with session := { s.session with
            reports := s.session.reports.set i { report with buttons := frame.buttons } } }
              (.outputReceive frame (Session.physical { s.session with
                reports := s.session.reports.set i
                  { report with buttons := frame.buttons } }))).submit .output) := by
  by_cases hc : c' = c
  · subst hc
    have hvalid : s.validCallback c' = true := by
      refine State.validCallback_iff.2 ⟨hs.conn, hs.failure, ?_⟩
      rw [hs.ready]
      exact Stage.noConfusion
    cases data with
    | none =>
      -- the end of the subscription is a failure
      have hfail : s.notifyCb c' i none = s.fail (-eIo) := by
        unfold State.notifyCb
        rw [hvalid, hs.ready]
        rfl
      have hfailure := hs'.failure
      rw [hfail] at hfailure
      change (if s.failure ≠ 0 then s.failure else if -eIo ≠ 0 then -eIo else -eIo) = 0 at hfailure
      rw [hs.failure] at hfailure
      exact absurd hfailure (by decide)
    | some payload =>
      refine .inr ⟨payload, ?_, notifyCb_ready hvalid hs.ready i payload⟩
      simp [notifications]
  · refine .inl ⟨?_, ?_⟩
    · cases data with
      | none => rfl
      | some payload => simp [notifications, hc]
    · have hinvalid : s.validCallback c' = false := by
        refine Bool.eq_false_of_not_eq_true fun hvalid => hc ?_
        exact Option.some.inj ((State.validCallback_iff.1 hvalid).1.symm.trans hs.conn)
      unfold State.notifyCb
      rw [hinvalid]
      rfl

lemma Delivered.step {t t' : State × Output.State} {e : Joint.Event}
    (h : Delivered session o₀ c seen t) (hstep : Undisturbed maxPaired cap c t e t') :
    Delivered session o₀ c (seen ++ notifications c [e]) t' := by
  obtain ⟨hjoint, hattends, hresets⟩ := hstep
  cases hjoint with
  | @receive s s' o l frame physical hstep hl hcall =>
    have hcoherent := h.coherent.step hstep
    cases l with
    | notified c' i data =>
      obtain rfl : s.notifyCb c' i data = s' := Option.some.inj hstep.2
      have hnot (hsame : s.notifyCb c' i data = s) : False := by
        rw [hsame] at hcall
        exact List.cons_ne_nil _ _ (List.self_eq_append_right.1 hcall)
      rcases notified_cases h.attends hattends with ⟨-, hsame⟩ | ⟨payload, hnote, hcases⟩
      · exact (hnot hsame).elim
      rcases hcases with ⟨-, hsame⟩ | ⟨frame', report, haccept, hreport, heq⟩
      · exact (hnot hsame).elim
      rw [hnote]
      rw [h.session_eq] at haccept hreport heq
      have hafter := session.after_snoc_accepted seen (session.accept_after .. ▸ haccept) hreport
      rw [← hafter, session.physical_after] at heq
      rw [session.accept_after] at haccept
      -- the call is that of the notification
      obtain ⟨rfl, rfl⟩ : frame' = frame ∧ session.union (seen ++ [(i, payload)]) = physical := by
        rw [heq] at hcall
        have hobs := List.append_cancel_left hcall
        simpa using hobs
      have hroom := room_of_receive hresets
      obtain ⟨-, -, -, hepoch, -⟩ := receive_course frame'
        (session.union (seen ++ [(i, payload)])) hroom
      refine ⟨hcoherent, hattends, ?_, hepoch.trans h.epoch, hresets.trans h.resets, ?_⟩
      · rw [heq]
        rfl
      · rw [receive_conclusion _ _ hroom, h.conclusion, h.epoch, h.resets, session.deliveries_snoc,
          haccept]
        dsimp only
        rw [conclude_delivery, Emission.conclude_andThen, List.nil_append]
        rfl
    | _ => exact hl.elim
  | @client s s' o l hstep hnone =>
    have hcoherent := h.coherent.step hstep
    have hkeep {new : List Notification} (hsession : s'.session = s.session)
        (hafter : session.after (seen ++ new) = session.after seen)
        (hdeliveries : session.deliveries [] (seen ++ new) = session.deliveries [] seen) :
        Delivered session o₀ c (seen ++ new) (s', o) :=
      { h with
        coherent := hcoherent
        attends := hattends
        session_eq := hsession.trans (h.session_eq.trans hafter.symm)
        conclusion := by
          rw [hdeliveries]
          exact h.conclusion }
    by_cases hl : l.Notifies
    · cases l with
      | notified c' i data =>
        obtain rfl : s.notifyCb c' i data = s' := Option.some.inj hstep.2
        rcases notified_cases h.attends hattends with ⟨hnote, hsame⟩ | ⟨payload, hnote, hcases⟩
        · rw [hnote]
          exact hkeep (congrArg State.session hsame) (by rw [List.append_nil])
            (by rw [List.append_nil])
        rcases hcases with ⟨hreject, hsame⟩ | ⟨frame, report, -, -, heq⟩
        · rw [hnote]
          rw [h.session_eq, session.accept_after] at hreject
          refine hkeep (congrArg State.session hsame) (session.after_snoc_rejected seen hreject) ?_
          rw [session.deliveries_snoc, hreject]
          exact List.append_nil _
        · have hjournal := hnone trivial
          rw [heq] at hjournal
          exact absurd (List.append_right_eq_self.1 hjournal) (List.cons_ne_nil _ _)
      | _ => exact hl.elim
    · have hnote : notifications c [Joint.Event.client l] = [] := by
        cases l with
        | notified => exact absurd trivial hl
        | _ => rfl
      have hsession := session_of_ready h.coherent hstep hl h.attends.ready
        (h.attends.conn ▸ Option.some_ne_none c) hattends.ready
        (hattends.conn ▸ Option.some_ne_none c)
      rw [hnote]
      exact hkeep hsession (by rw [List.append_nil]) (by rw [List.append_nil])
  | @submit s o o' hstep =>
    have heq : notifications c [Joint.Event.submit] = [] := rfl
    rw [heq, List.append_nil]
    simp only [Output.step] at hstep
    split at hstep
    · cases hstep
    · cases hstep
      exact { h with }
  | @work s o o' hstep =>
    have heq : notifications c [Joint.Event.work] = [] := rfl
    rw [heq, List.append_nil]
    exact { h with
      epoch := (work_streamEpoch hstep).trans h.epoch
      resets := hresets.trans h.resets
      conclusion := (work_conclusion hstep).trans h.conclusion }

lemma run_delivered {t t' : State × Output.State} (h : Delivered session o₀ c [] t)
    (hrun : Transition.Run (Undisturbed maxPaired cap c) t events t') :
    Delivered session o₀ c (notifications c events) t' := by
  refine hrun.invariant_labels (fun events t => Delivered session o₀ c (notifications c events) t)
    h fun events t e t' ht hstep => ?_
  rw [notifications_snoc]
  exact ht.step hstep

lemma deliveries_inRange (h : session.map.Separated) (seen rest : List Notification) :
    ∀ d ∈ session.deliveries seen rest, d.1.AxesInRange := by
  induction rest generalizing seen with
  | nil => exact fun d hd => absurd hd List.not_mem_nil
  | cons n rest ih =>
    intro d hd
    unfold Session.deliveries at hd
    split at hd
    case h_1 frame haccept =>
      rcases List.mem_cons.1 hd with rfl | hd
      · exact accept_inRange h haccept
      · exact ih _ d hd
    case h_2 => exact ih _ d hd

end Session

/-- From the moment the mouse becomes ready, and as long as nothing resets the stream, what has
been sent when the queue is drained is what the worker had to send before and then, in the order
of arrival, what `send_frame` sends for every accepted payload, with the buttons of the latest
accepted payloads of all report characteristics. -/
theorem notifications_reach_input {maxPaired cap : ℕ} {bonds : List Addr} {labels : List Label}
    {s s₀ s' : State} {o₀ o : Output.State} {l : Label} {c : Conn} {events : List Joint.Event}
    (hrun : Run maxPaired (State.init bonds) labels s) (hstep : Step maxPaired s l s₀)
    (hbefore : s.stage ≠ .ready) (hready : s₀.Attends c)
    (hevents : Transition.Run (Undisturbed maxPaired cap c) (s₀, o₀) events (s', o))
    (hdrained : Quiescent o) :
    (∃ packets, sendFrames o₀.streamEpoch o₀.resets o₀.conclusion.1
        (s₀.session.deliveries [] (notifications c events)) = .ok (o.buttons, packets) ∧
      o.sent = o₀.conclusion.2 ++ packets) ∧
    (Quiescent o₀ → o₀.conclusion = (o₀.buttons, o₀.sent)) := by
  have hrest {o : Output.State} (h : Quiescent o) : o.conclusion = (o.buttons, o.sent) := by
    unfold Output.State.conclusion
    rw [course_of_quiescent h]
    exact Prod.ext rfl (List.append_nil _)
  obtain ⟨hcoherent, hreceptive⟩ := run_receptive hrun
  have hreleased : s₀.session.Released := hreceptive.released_of_begins hcoherent hstep hbefore
    hready.ready (.inl (hready.conn ▸ Option.some_ne_none c))
  have hstart : Delivered s₀.session o₀ c [] (s₀, o₀) :=
    { coherent := hcoherent.step hstep
      attends := hready
      session_eq := (s₀.session.after_nil hreleased).symm
      epoch := rfl
      resets := rfl
      conclusion := Prod.ext rfl (List.append_nil _).symm }
  have hend := (run_delivered hstart hevents).conclusion
  rw [hrest hdrained] at hend
  have hseparated := (hreceptive.step hcoherent hstep).map
  refine ⟨⟨_, ?_, congrArg Prod.snd hend⟩, hrest⟩
  rw [sendFrames_eq _ _ _ (deliveries_inRange hseparated _ _)]
  exact congrArg Except.ok (Prod.ext (congrArg Prod.fst hend).symm rfl)

/-- Two reports of a mouse that hold different buttons, the second one while the worker sends the
packets of the first. -/
def overlappingReports (conn : Conn) : List Joint.Event :=
  [Joint.Event.client (.notified conn 0 (some [0x11, 0x00, 0xf8, 0x7f, 0xff, 0x02])), .submit] ++
    List.replicate 5 Joint.Event.work ++
    [Joint.Event.client (.notified conn 1 (some [0x01])), .submit] ++
    List.replicate 11 Joint.Event.work

instance (o : Output.State) : Decidable (Quiescent o) := by
  unfold Quiescent
  infer_instance

theorem notifications_reach_input_overlapping :
    ∃ (s₀ : State) (o : Output.State), Quiescent o ∧ ∃ packets,
    sendFrames 0 0 {} (s₀.session.deliveries [] (notifications ⟨1, ⟨1, 7⟩⟩
      (overlappingReports ⟨1, ⟨1, 7⟩⟩))) = .ok (o.buttons, packets) ∧ o.sent = packets := by
  obtain ⟨s, hrun, hp⟩ := exists_run 8 (State.init [])
    (surveyRun ⟨1, ⟨1, 7⟩⟩ ++ subscribedMouse ⟨1, ⟨1, 7⟩⟩)
    (fun s : State => decide (s.stage ≠ .ready) &&
      (s.next 8 (.work {})).any fun s₀ : State => decide (s₀.Attends ⟨1, ⟨1, 7⟩⟩) &&
        ((overlappingReports ⟨1, ⟨1, 7⟩⟩).foldlM (Undisturbed.next 8 8 ⟨1, ⟨1, 7⟩⟩) (s₀, {})).any
          fun t : State × Output.State => decide (Quiescent t.2)) (by decide +kernel)
  rw [Bool.and_eq_true, Option.any_eq_true] at hp
  obtain ⟨hbefore, s₀, hstep, hp⟩ := hp
  rw [Bool.and_eq_true] at hp
  obtain ⟨⟨s', o⟩, hevents, hdrained⟩ := Transition.Run.exists_of_foldlM hp.2
  obtain ⟨⟨packets, hsend, hsent⟩, -⟩ := notifications_reach_input hrun (step_of_next hstep)
    (of_decide_eq_true hbefore) (of_decide_eq_true hp.1)
    (hevents.mono fun _ _ _ => undisturbed_of_next) (of_decide_eq_true hdrained)
  exact ⟨s₀, o, of_decide_eq_true hdrained, packets, hsend, hsent⟩

end BleMouse.Client
