/-
What the functions of the client leave alone.

* `Background`: scanning, retries and keys; nothing of an attempt changes.
* `Explores`: the attempt goes on or fails; only the session, the stage among those of
  discovery, the failure and the procedures in progress change.
* `alters_of_step`: the steps that neither relation describes.

The functions in neither relation are those that begin an attempt, end it, complete its
connection or declare it ready.
-/
import BleMouse.Client.CoherentRun

namespace BleMouse.Client

open BleMouse.Hid BleMouse.Output

/-! ### Observations -/

/-- The observations that the host does not keep. -/
def Obs.Quiet : Obs → Prop
  | .accepted _ | .connect _ | .ref _ | .unref _ | .setSecurity .. | .command ..
  | .outputReceive .. | .outputDisconnect | .scanStart _ | .scanStop _ => True
  | .ran w => w ≠ .clear
  | _ => False

/-- The quiet observations, those of the procedures, and a failed save. -/
def Obs.Procedural (o : Obs) : Prop :=
  o.Quiet ∨ (∃ c r err, o = .gatt c r err) ∨ (∃ c r err, o = .done c r err) ∨
    ∃ addr err, err ≠ 0 ∧ o = .save addr err

lemma record_quiet (h : History) {o : Obs} (ho : o.Quiet) : h.record o = h := by
  cases o with
  | ran w =>
    have hw : w ≠ .clear := ho
    simp [History.record, hw]
  | accepted | connect | ref | unref | setSecurity | command | outputReceive
  | outputDisconnect | scanStart | scanStop => rfl
  | _ => exact ho.elim

/-- The host but for the procedures of the latest attempt. -/
def History.setProcedures (h : History) (requests : List (Conn × Request))
    (subscribed : List ℕ) : History :=
  { h with attempt := { h.attempt with requests, subscribed } }

lemma record_procedural (h : History) {o : Obs} (ho : o.Procedural) :
    ∃ requests subscribed, h.record o = h.setProcedures requests subscribed := by
  rcases ho with ho | ⟨c, r, err, rfl⟩ | ⟨c, r, err, rfl⟩ | ⟨addr, err, herr, rfl⟩
  · rw [record_quiet _ ho]
    exact ⟨_, _, rfl⟩
  · exact ⟨_, _, rfl⟩
  · exact ⟨_, _, rfl⟩
  · refine ⟨h.attempt.requests, h.attempt.subscribed, ?_⟩
    simp [History.record, Attempt.record, herr, History.setProcedures]

/-! ### The relations -/

/-- The variables that only the life of an attempt, the registration and the keys change. -/
structure Frame (s s' : State) : Prop where
  mouseConn : s'.mouseConn = s.mouseConn
  inConnect : s'.inConnect = s.inConnect
  connectingAddress : s'.connectingAddress = s.connectingAddress
  peer : s'.peer = s.peer
  havePeer : s'.havePeer = s.havePeer
  clearHeld : s'.clearHeld = s.clearHeld
  initialized : s'.initialized = s.initialized
  forgetRequested : s'.forgetRequested = s.forgetRequested
  candidateBonded : s'.candidateBonded = s.candidateBonded
  newCandidate : s'.newCandidate = s.newCandidate
  connectedError : s'.connectedError = s.connectedError

namespace Frame

variable {s s' s'' : State}

lemma refl (s : State) : Frame s s := ⟨rfl, rfl, rfl, rfl, rfl, rfl, rfl, rfl, rfl, rfl, rfl⟩

lemma trans (h : Frame s s') (h' : Frame s' s'') : Frame s s'' where
  mouseConn := h'.mouseConn.trans h.mouseConn
  inConnect := h'.inConnect.trans h.inConnect
  connectingAddress := h'.connectingAddress.trans h.connectingAddress
  peer := h'.peer.trans h.peer
  havePeer := h'.havePeer.trans h.havePeer
  clearHeld := h'.clearHeld.trans h.clearHeld
  initialized := h'.initialized.trans h.initialized
  forgetRequested := h'.forgetRequested.trans h.forgetRequested
  candidateBonded := h'.candidateBonded.trans h.candidateBonded
  newCandidate := h'.newCandidate.trans h.newCandidate
  connectedError := h'.connectedError.trans h.connectedError

end Frame

/-- Nothing of an attempt changes. -/
structure Background (s s' : State) : Prop extends Frame s s' where
  session : s'.session = s.session
  stage : s'.stage = s.stage
  failure : s'.failure = s.failure
  queued : ∀ w : Work, w.OfAttempt → (w ∈ s'.work.queue ↔ w ∈ s.work.queue)
  timeout : s'.work.Pending .timeout ↔ s.work.Pending .timeout
  journal : ∃ new, s'.journal = s.journal ++ new ∧ ∀ o ∈ new, o.Quiet

/-- The items that are not submitted on behalf of an attempt, and do not watch over it. -/
def Work.Background (w : Work) : Prop := ¬w.OfAttempt ∧ w ≠ .timeout

namespace Background

variable {s s' s'' : State}

lemma refl (s : State) : Background s s where
  toFrame := Frame.refl s
  session := rfl
  stage := rfl
  failure := rfl
  queued := fun _ _ => Iff.rfl
  timeout := Iff.rfl
  journal := ⟨[], by simp, by simp⟩

lemma trans (h : Background s s') (h' : Background s' s'') : Background s s'' where
  toFrame := h.toFrame.trans h'.toFrame
  session := h'.session.trans h.session
  stage := h'.stage.trans h.stage
  failure := h'.failure.trans h.failure
  queued := fun w hw => (h'.queued w hw).trans (h.queued w hw)
  timeout := h'.timeout.trans h.timeout
  journal := Journal.Grows.trans h.journal h'.journal

lemma host (h : Background s s') : s'.host = s.host :=
  Journal.Grows.replay_eq h.journal fun history _ ho => record_quiet history ho

lemma observe (h : Background s s') (o : Obs) (ho : o.Quiet) : Background s (s'.observe o) :=
  h.trans { Background.refl s' with journal := (Journal.Grows.refl _ _).snoc ho }

lemma submit (h : Background s s') (w : Work) (hw : w.Background) :
    Background s (s'.submit w) := by
  refine h.trans { Background.refl s' with queued := ?_, timeout := ?_ }
  · rintro v hv
    refine State.mem_submit_of_ne ?_
    rintro rfl
    exact hw.1 hv
  · unfold State.submit
    by_cases hinit : s'.initialized = true
    · rw [if_pos hinit, WorkQueue.pending_submit, or_iff_left hw.2.symm]
    · rw [if_neg hinit]

lemma schedule (h : Background s s') (w : Work) (delay : ℕ) (hw : w.Background) :
    Background s (s'.schedule w delay) := by
  refine h.trans { Background.refl s' with queued := ?_, timeout := ?_ }
  · rintro v hv
    refine State.mem_schedule_of_ne ?_
    rintro rfl
    exact hw.1 hv
  · unfold State.schedule
    by_cases hinit : s'.initialized = true
    · rw [if_pos hinit, WorkQueue.pending_reschedule, or_iff_left hw.2.symm]
    · rw [if_neg hinit]

lemma cancel (h : Background s s') (w : Work) (hw : w.Background) :
    Background s (s'.cancel w) := by
  refine h.trans { Background.refl s' with queued := ?_, timeout := ?_ }
  · rintro v hv
    refine WorkQueue.mem_cancel.trans (and_iff_left ?_)
    rintro rfl
    exact hw.1 hv
  · exact WorkQueue.pending_cancel.trans (and_iff_left hw.2.symm)

lemma background_retry : Work.Background .retry := ⟨id, Work.noConfusion⟩

lemma background_scan : Work.Background .scan := ⟨id, Work.noConfusion⟩

/-! ### Scanning and retries -/

lemma scanRefresh (h : Background s s') : Background s s'.scanRefresh :=
  h.schedule .scan 0 background_scan

lemma stopOwnScan (h : Background s s') (answer : ℤ) :
    Background s (s'.stopOwnScan answer).1 := by
  have hreleased : Background s { s' with scanOwned := false } := { h with }
  have hstopped := hreleased.observe (.scanStop answer) trivial
  unfold State.stopOwnScan
  split
  · exact h
  · dsimp only
    split
    · exact { hstopped with }
    · exact hstopped

lemma scanWorkCb (h : Background s s') (a : Answers) : Background s (s'.scanWorkCb a) := by
  have hstarted := h.observe (.scanStart a.scanStart) trivial
  unfold State.scanWorkCb
  dsimp only
  split
  · exact h
  · split
    · split
      · exact (h.stopOwnScan _).schedule .scan 1000 background_scan
      · exact h.stopOwnScan _
    · split
      · exact h
      · split
        · exact hstarted.schedule .scan 1000 background_scan
        · have howned : Background s { s'.observe (.scanStart a.scanStart) with
              scanOwned := true } := { hstarted with }
          split
          · exact (howned.stopOwnScan _).schedule .scan 1000 background_scan
          · exact howned

lemma centralConnect (h : Background s s') (addr : Addr) :
    Background s (s'.centralConnect addr) := by
  have hpending : Background s { s' with connecting := true, pendingAddress := addr } :=
    { h with }
  unfold State.centralConnect
  split
  · exact h
  · exact (hpending.observe (.accepted addr) trivial).submit .connect ⟨id, Work.noConfusion⟩

lemma settleWorkCb (h : Background s s') : Background s s'.settleWorkCb := by
  have hsettled : Background s { s' with splitSettling := false } := { h with }
  exact hsettled.scanRefresh

lemma connectionChanged (h : Background s s') (answer : ℤ) :
    Background s (s'.connectionChanged answer) := by
  have hsettling : Background s { s' with splitSettling := true } := { h with }
  exact (hsettling.stopOwnScan answer).schedule .settle 1000 ⟨id, Work.noConfusion⟩

lemma retryWorkCb (h : Background s s') : Background s s'.retryWorkCb := by
  have hs (scanWanted : Bool) : Background s { s' with scanWanted } := { h with }
  unfold State.retryWorkCb
  dsimp only
  split
  · exact ((hs _).centralConnect _).scanRefresh
  · exact (hs _).scanRefresh

lemma requestRetry (h : Background s s') : Background s s'.requestRetry := by
  have hstopped : Background s { s' with scanWanted := false } := { h with }
  have hretry := hstopped.scanRefresh.schedule .retry s'.retryMs background_retry
  exact { hretry with }

lemma outputDisconnect (h : Background s s') : Background s s'.outputDisconnect :=
  (h.observe .outputDisconnect trivial).submit .output ⟨id, Work.noConfusion⟩

lemma connectReturned (h : Background s s') (err : ℤ) : Background s (s'.connectReturned err) := by
  have hs : Background s { s' with connecting := false } := { h with }
  unfold State.connectReturned
  dsimp only
  split
  · exact hs.schedule .scan 1000 background_scan
  · exact hs

lemma releaseEvent (h : Background s s') : Background s s'.releaseEvent := by
  unfold State.releaseEvent
  split
  case h_1 c _ =>
    have hs : Background s { s' with connectedEventConn := none } := { h with }
    exact hs.observe (.unref c) trivial
  case h_2 => exact h

/-! ### Keys, advertisements and timers -/

lemma pairWorkCb (maxPaired : ℕ) (h : Background s s') :
    Background s (s'.pairWorkCb maxPaired) := by
  have hretry : Background s { s' with retryMs := 1000 } := { h with }
  have hpairing : Background s { s' with pairing := true, retryMs := 1000 } := { h with }
  unfold State.pairWorkCb
  split
  · exact h
  · split
    · exact hretry.retryWorkCb
    · split
      · exact h
      · exact (hpairing.schedule .pairTimeout 60000 ⟨id, Work.noConfusion⟩).retryWorkCb

lemma zmkBleMousePair (h : Background s s') : Background s s'.zmkBleMousePair := by
  unfold State.zmkBleMousePair
  split
  · exact h
  · exact h.submit .pair ⟨id, Work.noConfusion⟩

/-- The Clear key arms or cancels its timer. -/
lemma zmkBleMouseClearHold (s : State) (pressed : Bool) :
    Background { s with clearHeld := pressed } (s.zmkBleMouseClearHold pressed) := by
  have hclear : Work.Background .clear := ⟨id, Work.noConfusion⟩
  unfold State.zmkBleMouseClearHold
  dsimp only
  split
  · exact (refl _).schedule .clear 2000 hclear
  · exact (refl _).cancel .clear hclear

lemma zmkBleMouseAdvertisement (h : Background s s') (addr : Addr) (type : AdvType)
    (data : List BtData) (now : BitVec 32) :
    Background s (s'.zmkBleMouseAdvertisement addr type data now).1 := by
  have hseen (advertisers : List Advertiser) : Background s { s' with advertisers } := { h with }
  unfold State.zmkBleMouseAdvertisement
  split
  · exact h
  · split
    · split
      · exact h
      · split
        · exact h.centralConnect _
        · exact h
    · split
      · exact h
      · dsimp only
        split
        · exact (hseen _).centralConnect _
        · exact hseen _

/-- A timer expires. -/
lemma expire (hs : Coherent s) {w : Work} (hw : w ∈ s.work.armed) :
    Background s { s with work := s.work.expire w } := by
  refine { Background.refl s with queued := ?_, timeout := WorkQueue.pending_expire hw }
  rintro v hv
  refine WorkQueue.mem_submit.trans (or_iff_left ?_)
  rintro rfl
  have hdelay := hs.timers v hw
  cases v with
  | discovery | failure | connected | disconnected => exact hdelay
  | _ => exact hv

/-- The worker takes an item of the background off the queue. -/
lemma take {w : Work} {rest : List Work} (hq : s.work.queue = w :: rest) (hw : w.Background)
    (hclear : w ≠ .clear) : Background s (s.take w rest) := by
  have hrest : Background s { s with work := { s.work with queue := rest } } := by
    refine { Background.refl s with queued := ?_, timeout := ?_ }
    · rintro v hv
      show v ∈ rest ↔ v ∈ s.work.queue
      rw [hq, List.mem_cons, or_iff_right]
      rintro rfl
      exact hw.1 hv
    · exact WorkQueue.pending_tail hq hw.2.symm
  exact hrest.observe (.ran w) hclear

end Background

/-! ### Discovery -/

/-- The stages between the completion of the connection and the end of the subscriptions. -/
def Stage.Linked (stage : Stage) : Prop := stage = .security ∨ stage.Exploring

/-- The attempt goes on or fails. -/
structure Explores (s s' : State) : Prop extends Frame s s' where
  queued : ∀ w : Work, w = .connected ∨ w = .disconnected →
    (w ∈ s'.work.queue ↔ w ∈ s.work.queue)
  timeout : s'.work.Pending .timeout ↔ s.work.Pending .timeout
  failure : s'.failure = s.failure ∧ (.failure ∈ s.work.queue → .failure ∈ s'.work.queue) ∨
    s'.failure ≠ 0 ∧ .failure ∈ s'.work.queue
  stage : s'.stage = s.stage ∨ s.stage.Linked ∧ s'.stage.Exploring
  journal : ∃ new, s'.journal = s.journal ++ new ∧ ∀ o ∈ new, o.Procedural

lemma Background.explores {s s' : State} (h : Background s s') : Explores s s' where
  toFrame := h.toFrame
  queued := by
    rintro w (rfl | rfl)
    · exact h.queued .connected trivial
    · exact h.queued .disconnected trivial
  timeout := h.timeout
  failure := .inl ⟨h.failure, (h.queued .failure trivial).2⟩
  stage := .inl h.stage
  journal := Journal.Grows.mono h.journal fun _ => .inl

namespace Explores

variable {s s' s'' : State}

lemma refl (s : State) : Explores s s := (Background.refl s).explores

lemma trans (h : Explores s s') (h' : Explores s' s'') : Explores s s'' where
  toFrame := h.toFrame.trans h'.toFrame
  queued := fun w hw => (h'.queued w hw).trans (h.queued w hw)
  timeout := h'.timeout.trans h.timeout
  failure := by
    rcases h'.failure with ⟨heq', hq'⟩ | hfailed'
    · rcases h.failure with ⟨heq, hq⟩ | ⟨hne, hq⟩
      · exact .inl ⟨heq'.trans heq, fun hmem => hq' (hq hmem)⟩
      · exact .inr ⟨fun hzero => hne (heq'.symm.trans hzero), hq' hq⟩
    · exact .inr hfailed'
  stage := by
    rcases h.stage with heq | ⟨hlinked, hexploring⟩
    · rw [← heq]
      exact h'.stage
    · rcases h'.stage with heq' | ⟨-, hexploring'⟩
      · exact .inr ⟨hlinked, heq' ▸ hexploring⟩
      · exact .inr ⟨hlinked, hexploring'⟩
  journal := Journal.Grows.trans h.journal h'.journal

lemma host (h : Explores s s') :
    ∃ requests subscribed, s'.host = s.host.setProcedures requests subscribed := by
  refine Journal.Grows.replay_keeps h.journal
    (fun host => ∃ requests subscribed, host = s.host.setProcedures requests subscribed)
    ⟨_, _, rfl⟩ ?_
  rintro host o ho ⟨_, _, rfl⟩
  obtain ⟨requests, subscribed, heq⟩ := record_procedural _ ho
  exact ⟨requests, subscribed, heq⟩

lemma observe (h : Explores s s') (o : Obs) (ho : o.Procedural) : Explores s (s'.observe o) :=
  h.trans { refl s' with journal := (Journal.Grows.refl _ _).snoc ho }

lemma session (h : Explores s s') (session : Session) : Explores s { s' with session } :=
  { h with }

lemma resume (h : Explores s s') : Explores s (s'.submit .discovery) := by
  refine h.trans { refl s' with queued := ?_, timeout := ?_, failure := .inl ⟨rfl, ?_⟩ }
  · rintro v (rfl | rfl) <;> exact State.mem_submit_of_ne Work.noConfusion
  · unfold State.submit
    by_cases hinit : s'.initialized = true
    · rw [if_pos hinit, WorkQueue.pending_submit, or_iff_left Work.noConfusion]
    · rw [if_neg hinit]
  · exact (State.mem_submit_of_ne Work.noConfusion).2

lemma nextStage (h : Explores s s') (hstage : s'.stage.Linked) {next : Stage}
    (hnext : next.Exploring) : Explores s (s'.nextStage next) := by
  have hs : Explores s { s' with stage := next } :=
    h.trans { refl s' with stage := .inr ⟨hstage, hnext⟩ }
  exact hs.resume

lemma fail_ne_zero (s : State) (err : ℤ) : (s.fail err).failure ≠ 0 := by
  show (if s.failure ≠ 0 then s.failure else if err ≠ 0 then err else -eIo) ≠ 0
  split_ifs with hfailed herr
  · exact hfailed
  · exact herr
  · decide

lemma failure_mem_fail (hinit : s.initialized = true) (err : ℤ) :
    .failure ∈ (s.fail err).work.queue := by
  show .failure ∈ (if s.initialized then s.work.submit .failure else s.work).queue
  rw [if_pos hinit]
  exact WorkQueue.mem_submit.2 (.inr rfl)

lemma fail (h : Explores s s') (hinit : s.initialized = true) (err : ℤ) :
    Explores s (s'.fail err) := by
  have hinit' : s'.initialized = true := h.initialized.trans hinit
  refine h.trans { refl s' with
    queued := ?_
    timeout := ?_
    failure := .inr ⟨fail_ne_zero s' err, failure_mem_fail hinit' err⟩ }
  · rintro v (rfl | rfl) <;> exact State.mem_submit_of_ne Work.noConfusion
  · show (if s'.initialized then s'.work.submit .failure else s'.work).Pending .timeout ↔ _
    rw [if_pos hinit', WorkQueue.pending_submit, or_iff_left Work.noConfusion]

lemma finished (h : Explores s s') (continues : Bool) (c : Conn) (r : Request) (err : ℕ) :
    Explores s (s'.finished continues c r err) := by
  unfold State.finished
  split
  · exact h
  · exact h.observe _ (.inr (.inr (.inl ⟨c, r, err, rfl⟩)))

/-! ### Callbacks -/

lemma timeoutWorkCb (h : Explores s s') (hinit : s.initialized = true) :
    Explores s s'.timeoutWorkCb := by
  unfold State.timeoutWorkCb
  split
  · exact h.fail hinit _
  · exact h

lemma pairTimeoutCb (h : Explores s s') (hinit : s.initialized = true) :
    Explores s s'.pairTimeoutCb := by
  have hclosed : Explores s { s' with pairing := false } := { h with }
  unfold State.pairTimeoutCb
  dsimp only
  split
  · have hfailed := hclosed.fail hinit (-eTimedOut)
    exact hfailed.trans (Background.refl _).retryWorkCb.explores
  · exact hclosed.trans (Background.refl _).retryWorkCb.explores

lemma pairingFailedCb (hs : Coherent s) (c : Conn) : Explores s (s.pairingFailedCb c) := by
  unfold State.pairingFailedCb
  split
  case isFalse => exact refl s
  case isTrue howns =>
    have hc : s.mouseConn = some c := of_decide_eq_true howns
    exact (refl s).fail (hs.initialized_of_engaged (.inl (hc ▸ Option.some_ne_none c))) _

lemma securityCb (hs : Coherent s) (c : Conn) (level err : ℕ) :
    Explores s (s.securityCb c level err) := by
  unfold State.securityCb
  split
  case isTrue => exact refl s
  case isFalse hvalid =>
    have hinit := hs.initialized_of_valid hvalid
    split
    · exact (refl s).fail hinit _
    · split
      case isTrue hsecure =>
        exact (refl s).nextStage (.inl hsecure.2) Coherent.exploring_service
      case isFalse => exact refl s

lemma discoverCb (hs : Coherent s) (c : Conn) (attr : Option Attr) :
    Explores s (s.discoverCb c attr).1 := by
  have hlinked {stage : Stage} (hstage : s.stage = stage) (hexploring : stage.Exploring) :
      s.stage.Linked := .inr (hstage ▸ hexploring)
  unfold State.discoverCb
  split
  case isTrue => exact refl s
  case isFalse hvalid =>
    have hinit := hs.initialized_of_valid hvalid
    split
    · show Explores s s.discoverEnd
      unfold State.discoverEnd
      split
      case h_2 hstage =>
        split
        · exact (refl s).fail hinit _
        · exact (refl s).nextStage (hlinked hstage (Coherent.exploring_of_stage (by simp)))
            (Coherent.exploring_of_stage (by simp))
      case h_3 hstage =>
        exact (refl s).nextStage (hlinked hstage (Coherent.exploring_of_stage (by simp)))
          (Coherent.exploring_of_stage (by simp))
      all_goals exact (refl s).fail hinit _
    · split
      case h_1 hstage =>
        have hs (session : Session) : Explores s ({ s with session }.nextStage .characteristics) :=
          ((refl s).session session).nextStage (hlinked hstage Coherent.exploring_service)
            (Coherent.exploring_of_stage (.inl rfl))
        exact hs _
      case h_2 =>
        unfold State.discoverCharacteristic
        dsimp only
        split
        case h_4 =>
          split
          · exact ((refl s).session _).fail hinit _
          · exact (refl s).session _
        all_goals exact (refl s).session _
      case h_3 => exact (refl s).session _
      case h_4 => exact refl s

lemma readCb (hs : Coherent s) (c : Conn) (err : ℕ) (data : Option (List UInt8)) :
    Explores s (s.readCb c err data).1 := by
  have hlinked {stage : Stage} (hstage : s.stage = stage) (hexploring : stage.Exploring) :
      s.stage.Linked := .inr (hstage ▸ hexploring)
  unfold State.readCb
  split
  case isTrue => exact refl s
  case isFalse hvalid =>
    have hinit := hs.initialized_of_valid hvalid
    split
    · exact (refl s).fail hinit _
    · dsimp only
      split
      case h_1 hstage =>
        show Explores s (s.readReportMap data)
        unfold State.readReportMap
        split
        · split
          · exact (refl s).fail hinit _
          · exact (refl s).session _
        · exact (refl s).nextStage (hlinked hstage (Coherent.exploring_of_stage (by simp)))
            (Coherent.exploring_of_stage (by simp))
      case h_2 =>
        show Explores s (s.readReference data)
        unfold State.readReference
        split
        · split
          · exact (refl s).fail hinit _
          · exact (refl s).session _
        · split
          · exact ((refl s).session _).resume
          · exact (refl s).fail hinit _
      case h_3 => exact refl s

/-- The protocol is written in the protocol stage. -/
lemma writtenCb (hs : Coherent s) (c : Conn) (err : ℕ) (hstage : s.Live → s.stage = .protocol) :
    Explores s (s.writtenCb c err) := by
  unfold State.writtenCb
  split
  case isTrue => exact refl s
  case isFalse hvalid =>
    have hinit := hs.initialized_of_valid hvalid
    rw [Bool.not_eq_true', Bool.not_eq_false] at hvalid
    have hprotocol := hstage (State.live_of_valid hvalid)
    split
    · exact (refl s).fail hinit _
    · exact (refl s).nextStage (.inr (hprotocol ▸ Coherent.exploring_of_stage (by simp)))
        (Coherent.exploring_of_stage (by simp))

lemma subscribedCb (hs : Coherent s) (c : Conn) (err i : ℕ) :
    Explores s (s.subscribedCb c err i) := by
  unfold State.subscribedCb
  split
  case isTrue => exact refl s
  case isFalse hvalid =>
    split
    · exact (refl s).fail (hs.initialized_of_valid hvalid) _
    · exact ((refl s).session _).resume

lemma notifyCb (hs : Coherent s) (c : Conn) (i : ℕ) (data : Option (List UInt8)) :
    Explores s (s.notifyCb c i data) := by
  have hreceived (session : Session) (frame : MouseHidFrame) (physical : Buttons) :
      Explores s (({ s with session }.observe (.outputReceive frame physical)).submit .output) := by
    have ho := ((refl s).session session).observe (.outputReceive frame physical) (.inl trivial)
    exact ho.trans ((Background.refl _).submit .output ⟨id, Work.noConfusion⟩).explores
  unfold State.notifyCb
  split
  case isTrue => exact refl s
  case isFalse hcond =>
    rw [Bool.or_eq_true, not_or] at hcond
    split
    · exact (refl s).fail (hs.initialized_of_valid hcond.1) _
    · split
      · exact refl s
      · split
        · exact hreceived _ _ _
        · exact refl s

/-! ### Discovery work -/

lemma startRequest (h : Explores s s') (hinit : s.initialized = true) (c : Conn) (r : Request)
    (answer : ℤ) : Explores s (s'.startRequest c r answer) := by
  have hs := h.observe (.gatt c r answer) (.inr (.inl ⟨c, r, answer, rfl⟩))
  unfold State.startRequest
  dsimp only
  split
  · exact hs.fail hinit _
  · exact hs

lemma readReferences (hinit : s.initialized = true) (hstage : s.stage.Linked) (c : Conn)
    (a : Answers) : Explores s (s.readReferences c a) := by
  have hnext {t : State} (ht : Explores s t) (hlinked : t.stage.Linked) :
      Explores s (t.readNextReference c a) := by
    have hprotocol (session : Session) : Explores s ({ t with session }.nextStage .protocol) :=
      (ht.session session).nextStage hlinked (Coherent.exploring_of_stage (by simp))
    unfold State.readNextReference
    dsimp only
    split
    · exact hprotocol _
    · exact (ht.session _).startRequest hinit _ _ _
  unfold State.readReferences
  split
  · split
    · exact (refl s).fail hinit _
    · dsimp only
      split
      · exact ((refl s).session _).fail hinit _
      · exact hnext ((refl s).session _) hstage
  · exact hnext (refl s) hstage

lemma selectProtocol (hinit : s.initialized = true) (hstage : s.stage.Linked) (c : Conn)
    (a : Answers) : Explores s (s.selectProtocol c a) := by
  have hcommand {t : State} (ht : Explores s t) (handle : Handle) (value : ℕ) (err : ℤ) :
      Explores s (t.observe (.command c handle value err)) := ht.observe _ (.inl trivial)
  have hset {t : State} (ht : Explores s t) (hlinked : t.stage.Linked) :
      Explores s (t.setProtocol c a) := by
    unfold State.setProtocol
    split
    · exact ht.nextStage hlinked (Coherent.exploring_of_stage (by simp))
    · split
      · dsimp only
        split
        · exact (hcommand ht _ _ _).fail hinit _
        · exact (hcommand ht _ _ _).nextStage hlinked (Coherent.exploring_of_stage (by simp))
      · exact ht.startRequest hinit _ _ _
  unfold State.selectProtocol
  dsimp only
  split
  · split
    · exact (hcommand ((refl s).session _) _ _ _).fail hinit _
    · exact hset (hcommand ((refl s).session _) _ _ _) hstage
  · exact hset ((refl s).session _) hstage

end Explores

/-! ### Readiness -/

/-- The subscriptions cover every control. -/
structure Session.Complete (session : Session) : Prop where
  buttons : session.coveredButtons = 0x1f
  axes : session.coveredAxes = 0x0f

/-- The candidate becomes the saved peer. -/
def State.register (s : State) (conn : Conn) : State :=
  { (s.observe (.save conn.dst 0)).observe (.registered conn.dst) with
    peer := conn.dst, havePeer := true, newCandidate := false }

/-- `finish_ready` when it does not fail, for the saved peer or for a candidate. -/
inductive Finishes (conn : Conn) (s : State) : State → Prop
  | known (hcomplete : s.session.Complete) (hnew : s.newCandidate = false) :
      Finishes conn s s.becomeReady
  | candidate (hcomplete : s.session.Complete) (hnew : s.newCandidate = true)
      (hpaired : s.candidateBonded = true) (hbonded : conn.dst ∈ s.host.bonds) :
      Finishes conn s (s.register conn).becomeReady

lemma Finishes.mouseConn {c : Conn} {s s' : State} (h : Finishes c s s') :
    s'.mouseConn = s.mouseConn := by
  cases h <;> rfl

lemma finishReady_cases (s : State) (hinit : s.initialized = true) (c : Conn) (a : Answers) :
    Explores s (s.finishReady c a) ∨ Finishes c s (s.finishReady c a) := by
  unfold State.finishReady
  split
  case isTrue => exact .inl ((Explores.refl s).fail hinit _)
  case isFalse hcond =>
  simp only [not_or, not_not, not_and] at hcond
  obtain ⟨-, hbuttons, haxes, hpaired⟩ := hcond
  split
  case isTrue hnew =>
    split
    case isTrue => exact .inl ((Explores.refl s).fail hinit _)
    case isFalse hbonded =>
    have hmem : c.dst ∈ s.host.bonds := by
      simpa only [State.isBonded, Bool.not_eq_true', decide_eq_false_iff_not, not_not] using hbonded
    dsimp only
    split
    case isTrue herr =>
      have hs := (Explores.refl s).observe (.save c.dst a.save)
        (.inr (.inr (.inr ⟨c.dst, a.save, herr, rfl⟩)))
      exact .inl (hs.fail hinit _)
    case isFalse hok =>
      rw [not_not.1 hok]
      exact .inr (.candidate ⟨hbuttons, haxes⟩ hnew (hpaired hnew) hmem)
  case isFalse hnew =>
    exact .inr (.known ⟨hbuttons, haxes⟩ (Bool.eq_false_of_not_eq_true hnew))

/-- What `discovery_work_cb` does in an exploring stage: it explores, or finishes. -/
lemma discoveryWorkCb_cases {s : State} (hinit : s.initialized = true)
    (hstage : s.Live → s.stage.Exploring) (a : Answers) :
    Explores s (s.discoveryWorkCb a) ∨
      ∃ c index, s.mouseConn = some c ∧ s.Live ∧ s.stage = .subscriptions ∧
        Finishes c { s with session := { s.session with index } } (s.discoveryWorkCb a) := by
  have hs := Explores.refl s
  unfold State.discoveryWorkCb
  split
  case h_1 => exact .inl hs
  case h_2 c hc =>
  split
  case isTrue => exact .inl hs
  case isFalse hfailed =>
  rw [not_or, not_not] at hfailed
  have hlive : s.Live := ⟨hc ▸ Option.some_ne_none c, hfailed⟩
  have hlinked : s.stage.Linked := .inr (hstage hlive)
  split
  case h_5 => exact .inl (Explores.readReferences hinit hlinked c a)
  case h_6 => exact .inl (Explores.selectProtocol hinit hlinked c a)
  case h_7 hsub =>
    unfold State.subscribeNext
    dsimp only
    split
    · split
      · exact .inl ((hs.session _).fail hinit _)
      · exact .inl ((hs.session _).startRequest hinit _ _ _)
    · split
      · let index := Session.firstUseful s.session.map (s.session.reports.drop s.session.index)
          s.session.index
        rcases finishReady_cases { s with session := { s.session with index } } hinit c a with
          hexplores | hfinishes
        · exact .inl ((hs.session _).trans hexplores)
        · exact .inr ⟨c, index, hc, hlive, hsub, hfinishes⟩
      · exact .inl (hs.session _)
  case h_8 => exact .inl hs
  all_goals exact .inl (hs.startRequest hinit _ _ _)

/-! ### The beginning and the ends of an attempt -/

lemma State.forgetPeer_mouseConn (s : State) (a : Answers) :
    (s.forgetPeer a).mouseConn = s.mouseConn := by
  unfold State.forgetPeer
  dsimp only
  split_ifs <;> rfl

lemma State.forgetIfRequested_mouseConn (s : State) (a : Answers) :
    (s.forgetIfRequested a).mouseConn = s.mouseConn := by
  unfold State.forgetIfRequested
  split
  · exact s.forgetPeer_mouseConn a
  · rfl

lemma State.requestRetry_mouseConn (s : State) : s.requestRetry.mouseConn = s.mouseConn :=
  (Background.refl s).requestRetry.mouseConn

lemma State.disconnectedWorkCb_mouseConn (s : State) (a : Answers) :
    (s.disconnectedWorkCb a).mouseConn = none := by
  rcases s.disconnectedWorkCb_cases a with ⟨hc, heq⟩ | ⟨c, t, -, -, heq⟩
  · rw [heq]
    exact hc
  · rw [heq, State.hungUp, State.requestRetry_mouseConn, State.forgetIfRequested_mouseConn]
    rfl

lemma State.connectWorkBegin_mouseConn (maxPaired : ℕ) {s : State} (hconn : s.mouseConn = none)
    (a : Answers) :
    (s.connectWorkBegin maxPaired a).mouseConn = none := by
  have hstopped : (s.stopOwnScan a.scanStop).1.mouseConn = none :=
    ((Background.refl s).stopOwnScan a.scanStop).mouseConn.trans hconn
  have hreturned (t : State) (err : ℤ) (ht : t.mouseConn = none) :
      (t.connectReturned err).mouseConn = none :=
    ((Background.refl t).connectReturned err).mouseConn.trans ht
  have hconnect (t : State) (addr : Addr) (ht : t.mouseConn = none) :
      (t.connectMouse maxPaired addr a).1.mouseConn = none := by
    unfold State.connectMouse
    dsimp only
    split_ifs
    · exact ht
    · exact ht
    · exact ht
    · exact ht
    · rw [State.requestRetry_mouseConn]
      exact ht
    · exact ht
  unfold State.connectWorkBegin
  dsimp only
  split
  · exact hreturned _ _ hstopped
  · split
    · exact hconnect _ _ hstopped
    · exact hreturned _ _ (hconnect _ _ hstopped)

/-! ### The kinds of steps -/

/-- What a step changes: it is part of the exploration or leaves the attempt alone, or it is one of
the few that do more. -/
inductive Alters (maxPaired : ℕ) (s : State) : Label → State → Prop
  | explores {l : Label} {s' : State} (h : Explores s s') : Alters maxPaired s l s'
  | work {a : Answers} {w : Work} {rest : List Work} (hgap : s.inConnect = false)
      (hq : s.work.queue = w :: rest) :
      Alters maxPaired s (.work a) ((s.take w rest).run maxPaired w a)
  | connectBegin {a : Answers} {rest : List Work} (hgap : s.inConnect = false)
      (hq : s.work.queue = .connect :: rest) :
      Alters maxPaired s (.connectBegin a) ((s.take .connect rest).connectWorkBegin maxPaired a)
  | connectEnd {a : Answers} (hin : s.inConnect = true) :
      Alters maxPaired s (.connectEnd a) (s.connectWorkEnd a)
  | connected (c : Conn) (err : ℕ) :
      Alters maxPaired s (.connected c err) ((s.observe (.connected c err)).connectedCb c err)
  | disconnected (c : Conn) :
      Alters maxPaired s (.disconnected c) ((s.observe (.disconnected c)).disconnectedCb c)
  | pairingComplete (c : Conn) (bonded : Bool) :
      Alters maxPaired s (.pairingComplete c bonded)
        ((s.observe (.pairingComplete c bonded)).pairingCompleteCb c bonded)
  | clearHold (pressed : Bool) :
      Alters maxPaired s (.clearHold pressed)
        ((s.observe (.clearKey pressed)).zmkBleMouseClearHold pressed)
  | settings (name : String) (length : ℕ) (contents : Addr) (result : ℤ) :
      Alters maxPaired s (.settings name length contents result)
        ((s.observe (.load name length contents result)).settingsSet name length contents result).1
  | start : Alters maxPaired s .start s.zmkBleMouseStart

/-- Every step is of one of these kinds. -/
theorem alters_of_step {maxPaired : ℕ} {s s' : State} {l : Label} (hs : Coherent s)
    (hstep : Step maxPaired s l s') : Alters maxPaired s l s' := by
  have hrefl := Background.refl s
  have hallows := hstep.1
  cases hstep.moves with
  | work hgap hq => exact .work hgap hq
  | connectBegin hgap hq => exact .connectBegin hgap hq
  | connectEnd hin => exact .connectEnd hin
  | expire hw => exact .explores (Background.expire hs hw).explores
  | connected c err => exact .connected c err
  | disconnected c => exact .disconnected c
  | connectionChanged answer => exact .explores (hrefl.connectionChanged answer).explores
  | securityChanged c level err => exact .explores (Explores.securityCb hs c level err)
  | pairingComplete c bonded => exact .pairingComplete c bonded
  | pairingFailed c => exact .explores (Explores.pairingFailedCb hs c)
  | discovered c type start stop attr =>
    exact .explores ((Explores.discoverCb hs c attr).finished _ _ _ _)
  | readDone c handle err data => exact .explores ((Explores.readCb hs c err data).finished _ _ _ _)
  | written c handle value err =>
    -- the host only reports a write that the stage of the session allows
    have hstage (hlive : s.Live) : s.stage = .protocol := (hs.token hlive).fits _ hallows
    exact .explores ((Explores.writtenCb hs c err hstage).finished _ _ _ _)
  | subscribed c i value ccc err =>
    exact .explores ((Explores.subscribedCb hs c err i).finished _ _ _ _)
  | notified c i data => exact .explores (Explores.notifyCb hs c i data)
  | advertisement addr type data now =>
    exact .explores (hrefl.zmkBleMouseAdvertisement addr type data now).explores
  | pair => exact .explores hrefl.zmkBleMousePair.explores
  | clearHold pressed => exact .clearHold pressed
  | settings name length contents result => exact .settings name length contents result
  | start => exact .start

end BleMouse.Client
