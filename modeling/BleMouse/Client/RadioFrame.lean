/-
What leaves the radio aside.

`Aside` relates two states of the client between which the variables of `src/central_scan.c`
do not change, no scan is started or stopped, and no connection request is accepted or carried
out.  This holds of discovery, of the ends of an attempt and of the callbacks of a connection;
the functions of `Client/Radio.lean` and those that call `zmk_ble_central_connect` are the
exceptions.
-/
import BleMouse.Client.Attempts

namespace BleMouse.Client

open BleMouse.Hid BleMouse.Output

/-! ### The relation -/

/-- The observations of the radio: scans, and requests to connect. -/
def Obs.OfRadio : Obs → Prop
  | .scanStart _ | .scanStop _ | .accepted _ | .connect _ => True
  | .ran w => w = .connect
  | _ => False

/-- The items that make the client look for the mouse again. -/
def Work.Wakes : Work → Prop
  | .retry | .scan | .settle => True
  | _ => False

/-- The stage says whether there is an attempt. -/
def State.Staged (s : State) : Prop :=
  match s.mouseConn with
  | some _ => s.stage ≠ .idle ∧ s.inConnect = false
  | none => s.stage = if s.inConnect then .connecting else .idle

lemma State.conn_of_valid {s : State} {c : Conn} (hvalid : ¬(!s.validCallback c) = true) :
    s.mouseConn = some c := by
  rw [Bool.not_eq_true', Bool.not_eq_false] at hvalid
  exact (State.validCallback_iff.1 hvalid).1

/-- The radio is left aside, and no attempt begins. -/
structure Aside (s s' : State) : Prop where
  mouseConn : s'.mouseConn ≠ none → s.mouseConn ≠ none
  inConnect : s'.inConnect = s.inConnect
  initialized : s'.initialized = s.initialized
  scanOwned : s'.scanOwned = s.scanOwned
  connecting : s'.connecting = s.connecting
  pendingAddress : s'.pendingAddress = s.pendingAddress
  queued : .connect ∈ s'.work.queue ↔ .connect ∈ s.work.queue
  armed : .connect ∈ s'.work.armed → .connect ∈ s.work.armed
  nodup : s.work.queue.Nodup → s'.work.queue.Nodup
  wakes : ∀ w : Work, w.Wakes → s.work.Pending w → s'.work.Pending w
  scanWanted : s'.scanWanted = true → s.scanWanted = true
  pairing : s'.pairing = true → s.pairing = true
  saved : s'.pairing = true → s'.havePeer = true → s.havePeer = true
  window : s'.pairing = true → s.work.Pending .pairTimeout → s'.work.Pending .pairTimeout
  staged : s.Staged → s'.Staged
  journal : ∃ new, s'.journal = s.journal ++ new ∧ ∀ o ∈ new, ¬o.OfRadio

namespace Aside

variable {s s' s'' : State}

lemma refl (s : State) : Aside s s where
  mouseConn := id
  inConnect := rfl
  initialized := rfl
  scanOwned := rfl
  connecting := rfl
  pendingAddress := rfl
  queued := Iff.rfl
  armed := id
  nodup := id
  wakes := fun _ _ => id
  scanWanted := id
  pairing := id
  saved := fun _ => id
  window := fun _ => id
  staged := id
  journal := ⟨[], by simp, by simp⟩

lemma trans (h : Aside s s') (h' : Aside s' s'') : Aside s s'' where
  mouseConn := fun hconn => h.mouseConn (h'.mouseConn hconn)
  inConnect := h'.inConnect.trans h.inConnect
  initialized := h'.initialized.trans h.initialized
  scanOwned := h'.scanOwned.trans h.scanOwned
  connecting := h'.connecting.trans h.connecting
  pendingAddress := h'.pendingAddress.trans h.pendingAddress
  queued := h'.queued.trans h.queued
  armed := fun harmed => h.armed (h'.armed harmed)
  nodup := fun hnodup => h'.nodup (h.nodup hnodup)
  wakes := fun w hw hp => h'.wakes w hw (h.wakes w hw hp)
  scanWanted := fun hwanted => h.scanWanted (h'.scanWanted hwanted)
  pairing := fun hpairing => h.pairing (h'.pairing hpairing)
  saved := fun hpairing hpeer => h.saved (h'.pairing hpairing) (h'.saved hpairing hpeer)
  window := fun hpairing hp => h'.window hpairing (h.window (h'.pairing hpairing) hp)
  staged := fun hstaged => h'.staged (h.staged hstaged)
  journal := Journal.Grows.trans h.journal h'.journal

lemma observe (h : Aside s s') (o : Obs) (ho : ¬o.OfRadio) : Aside s (s'.observe o) :=
  h.trans { refl s' with journal := (Journal.Grows.refl _ _).snoc ho }

lemma submit (h : Aside s s') (w : Work) (hw : w ≠ .connect) : Aside s (s'.submit w) := by
  refine h.trans ?_
  unfold State.submit
  by_cases hinit : s'.initialized = true
  · rw [if_pos hinit]
    exact { refl s' with
      queued := WorkQueue.mem_submit.trans (or_iff_left (Ne.symm hw))
      nodup := WorkQueue.nodup_submit
      wakes := fun v _ hp => WorkQueue.pending_submit.2 (.inl hp)
      window := fun _ hp => WorkQueue.pending_submit.2 (.inl hp) }
  · rw [if_neg hinit]
    exact refl s'

lemma schedule (h : Aside s s') (w : Work) (delay : ℕ) (hw : w ≠ .connect) :
    Aside s (s'.schedule w delay) := by
  refine h.trans ?_
  have hqueued : .connect ∈ (s'.schedule w delay).work.queue ↔ .connect ∈ s'.work.queue :=
    State.mem_schedule_of_ne (Ne.symm hw)
  unfold State.schedule at hqueued ⊢
  by_cases hinit : s'.initialized = true
  · rw [if_pos hinit] at hqueued ⊢
    exact { refl s' with
      queued := hqueued
      armed := fun harmed => WorkQueue.mem_armed_of_reschedule harmed (Ne.symm hw)
      nodup := WorkQueue.nodup_reschedule
      wakes := fun v _ hp => WorkQueue.pending_reschedule.2 (.inl hp)
      window := fun _ hp => WorkQueue.pending_reschedule.2 (.inl hp) }
  · rw [if_neg hinit]
    exact refl s'

lemma cancel (h : Aside s s') (w : Work) (hw : w ≠ .connect) (hwakes : ¬w.Wakes)
    (hwindow : w = .pairTimeout → s'.pairing = false) : Aside s (s'.cancel w) := by
  refine h.trans { refl s' with
    queued := WorkQueue.mem_cancel.trans (and_iff_left (Ne.symm hw))
    armed := fun harmed => (WorkQueue.mem_armed_cancel.1 harmed).1
    nodup := fun hnodup => hnodup.filter _
    wakes := fun v hv hp => WorkQueue.pending_cancel.2 ⟨hp, ?_⟩
    window := fun hpairing hp => WorkQueue.pending_cancel.2 ⟨hp, ?_⟩ }
  · rintro rfl
    exact hwakes hv
  · rintro rfl
    exact Bool.noConfusion ((hwindow rfl).symm.trans hpairing)

lemma fail (h : Aside s s') (err : ℤ) : Aside s (s'.fail err) := by
  have hs (failure : ℤ) : Aside s { s' with failure } := { h with }
  exact (hs _).submit .failure Work.noConfusion

/-- Another stage of the same attempt. -/
lemma stage (h : Aside s s') {c : Conn} (hc : s'.mouseConn = some c) {stage : Stage}
    (hstage : stage ≠ .idle) : Aside s { s' with stage } := by
  refine { h with staged := fun hstaged => ?_ }
  have hs := h.staged hstaged
  unfold State.Staged at hs ⊢
  rw [hc] at hs
  dsimp only
  rw [hc]
  exact ⟨hstage, hs.2⟩

lemma nextStage (h : Aside s s') {c : Conn} (hc : s'.mouseConn = some c) {stage : Stage}
    (hstage : stage ≠ .idle) : Aside s (s'.nextStage stage) :=
  (h.stage hc hstage).submit .discovery Work.noConfusion

lemma session (h : Aside s s') (session : Session) : Aside s { s' with session } := { h with }

lemma session_nextStage (h : Aside s s') (session : Session) {c : Conn}
    (hc : s'.mouseConn = some c) {stage : Stage} (hstage : stage ≠ .idle) :
    Aside s (State.nextStage { s' with session } stage) :=
  (h.session session).nextStage hc hstage

lemma resume (h : Aside s s') : Aside s (s'.submit .discovery) :=
  h.submit .discovery Work.noConfusion

lemma outputDisconnect (h : Aside s s') : Aside s s'.outputDisconnect :=
  (h.observe .outputDisconnect id).submit .output Work.noConfusion

lemma unpair (h : Aside s s') (addr : Addr) (err : ℤ) : Aside s (s'.unpair addr err) :=
  h.observe _ id

/-! ### The ends of an attempt -/

lemma requestRetry (h : Aside s s') : Aside s s'.requestRetry := by
  have hs : Aside s { s' with scanWanted := false } :=
    { h with scanWanted := fun hwanted => Bool.noConfusion hwanted }
  have hretry := (hs.schedule .scan 0 Work.noConfusion).schedule .retry s'.retryMs Work.noConfusion
  exact { hretry with }

lemma forgotten (h : Aside s s') : Aside s s'.forgotten := by
  have hs : Aside s { s' with forgetRequested := false } := { h with }
  exact hs.outputDisconnect.schedule .scan 0 Work.noConfusion

lemma forgetPeer (h : Aside s s') (a : Answers) : Aside s (s'.forgetPeer a) := by
  have hstopped : Aside s { s' with pairing := false, scanWanted := false } :=
    { h with
      scanWanted := fun hwanted => Bool.noConfusion hwanted
      pairing := fun hpairing => Bool.noConfusion hpairing
      saved := fun hpairing => Bool.noConfusion hpairing
      window := fun hpairing => Bool.noConfusion hpairing }
  have hs := hstopped.cancel .pairTimeout Work.noConfusion id fun _ => rfl
  unfold State.forgetPeer
  dsimp only
  split_ifs
  · exact { hs.unpair s'.peer a.unpairPeer with }
  · have hdeleted := (hs.unpair s'.peer a.unpairPeer).observe (.delete a.delete) id
    have hforgot : Aside s { ((({ s' with pairing := false, scanWanted := false } :
        State).cancel .pairTimeout).unpair s'.peer a.unpairPeer).observe (.delete a.delete) with
        havePeer := false } := { hdeleted with saved := fun _ hpeer => Bool.noConfusion hpeer }
    exact hforgot.forgotten
  · exact hs.forgotten

lemma forgetIfRequested (h : Aside s s') (a : Answers) : Aside s (s'.forgetIfRequested a) := by
  unfold State.forgetIfRequested
  split
  · exact h.forgetPeer a
  · exact h

lemma closeAttempt (h : Aside s s') {c : Conn} (hc : s'.mouseConn = some c) :
    Aside s (s'.observe (.unref c)).closeAttempt := by
  have hunref := h.observe (.unref c) id
  have hs : Aside s
      { s'.observe (.unref c) with mouseConn := none, failure := 0, stage := .idle } := by
    refine { hunref with mouseConn := fun hconn => absurd rfl hconn, staged := fun hstaged => ?_ }
    have hout := h.staged hstaged
    unfold State.Staged at hout ⊢
    rw [hc] at hout
    show .idle = if s'.inConnect = true then Stage.connecting else .idle
    rw [hout.2]
    rfl
  exact (hs.observe .ended id).cancel .timeout Work.noConfusion id Work.noConfusion

lemma closed (h : Aside s s') {c : Conn} (hc : s'.mouseConn = some c) :
    Aside s ({ (s'.observe (.unref c)).closeAttempt with
      candidateBonded := false } : State).outputDisconnect := by
  have hs : Aside s { (s'.observe (.unref c)).closeAttempt with candidateBonded := false } :=
    { h.closeAttempt hc with }
  exact hs.outputDisconnect

lemma hungUp (h : Aside s s') {c : Conn} (hc : s'.mouseConn = some c) (a : Answers) :
    Aside s (s'.hungUp c a) := ((h.closed hc).forgetIfRequested a).requestRetry

lemma disconnectedWorkCb (h : Aside s s') (a : Answers) : Aside s (s'.disconnectedWorkCb a) := by
  rcases s'.disconnectedWorkCb_cases a with ⟨-, heq⟩ | ⟨c, t, hc, ht, heq⟩
  · rw [heq]
    exact h
  · have hoff := h.observe (.autoConnOff c.dst) id
    rw [heq]
    cases ht with
    | kept => exact hoff.hungUp hc a
    | unpaired => exact (hoff.unpair _ _).hungUp hc a

lemma failureWorkCb (hgap : s.inConnect = false) (a : Answers) : Aside s (s.failureWorkCb a) := by
  unfold State.failureWorkCb
  split
  case h_1 c hc =>
    have hclosing : Aside s { s with stage := .closing, scanWanted := false } :=
      { (refl s).stage hc Stage.noConfusion with
        scanWanted := fun hwanted => Bool.noConfusion hwanted }
    have hs := hclosing.observe (.disconnect c a.disconnect) id
    dsimp only
    split
    · exact hs.disconnectedWorkCb a
    · exact hs
  case h_2 hc =>
    have hs : Aside s { s with stage := .idle, scanWanted := false, failure := 0 } := by
      refine { refl s with
        scanWanted := fun hwanted => Bool.noConfusion hwanted, staged := fun _ => ?_ }
      unfold State.Staged
      dsimp only
      rw [hc, hgap]
      rfl
    exact hs.requestRetry

lemma releaseEvent (h : Aside s s') : Aside s s'.releaseEvent := by
  unfold State.releaseEvent
  split
  case h_1 c _ =>
    have hs : Aside s { s' with connectedEventConn := none } := { h with }
    exact hs.observe (.unref c) id
  case h_2 => exact h

lemma completeConnection (h : Aside s s') (a : Answers) : Aside s (s'.completeConnection a) := by
  unfold State.completeConnection
  split
  case h_1 => exact h
  case h_2 c hc =>
    have hs : Aside s (s'.observe (.autoConnOff c.dst)).scanRefresh :=
      (h.observe (.autoConnOff c.dst) id).schedule .scan 0 Work.noConfusion
    have hc' : (s'.observe (.autoConnOff c.dst)).scanRefresh.mouseConn = some c := hc
    dsimp only
    generalize (s'.observe (.autoConnOff c.dst)).scanRefresh = t at hs hc' ⊢
    have hsecurity : Aside s { t with stage := .security } := hs.stage hc' Stage.noConfusion
    have hsecured := hsecurity.observe (.setSecurity c a.setSecurity) id
    split_ifs
    · exact ((hs.closeAttempt hc').forgetIfRequested a).requestRetry
    · exact hs.fail _
    · exact hsecured.fail _
    · exact hsecured.nextStage hc' Stage.noConfusion
    · exact hsecured

lemma connectedWorkCb (a : Answers) : Aside s (s.connectedWorkCb a) :=
  (refl s).releaseEvent.completeConnection a

lemma timeoutWorkCb (h : Aside s s') : Aside s s'.timeoutWorkCb := by
  unfold State.timeoutWorkCb
  split
  · exact h.fail _
  · exact h

lemma clearWorkCb (a : Answers) : Aside s (s.clearWorkCb a) := by
  have hs : Aside s { s with pairing := false, scanWanted := false, forgetRequested := true } :=
    { refl s with
      scanWanted := fun hwanted => Bool.noConfusion hwanted
      pairing := fun hpairing => Bool.noConfusion hpairing
      saved := fun hpairing => Bool.noConfusion hpairing
      window := fun hpairing => Bool.noConfusion hpairing }
  unfold State.clearWorkCb
  dsimp only
  split_ifs
  · exact refl s
  · exact hs.fail _
  · exact hs.forgetPeer a

/-! ### Attempts -/

/-- Up to the moment inside `connect_mouse`, if it gets there. -/
lemma connectMouse (maxPaired : ℕ) (h : Aside s s') (addr : Addr) (a : Answers) :
    ∃ t stage inConnect, Aside s t ∧
      (s'.connectMouse maxPaired addr a).1 = { t with stage, inConnect } := by
  have hsame (t : State) (ht : Aside s t) :
      ∃ t' stage inConnect, Aside s t' ∧ t = { t' with stage, inConnect } :=
    ⟨t, t.stage, t.inConnect, ht, rfl⟩
  have hbegun : Aside s { s' with
      session := {}, newCandidate := !s'.havePeer, candidateBonded := false, failure := 0,
      scanWanted := false, connectingAddress := addr } :=
    { h with scanWanted := fun hwanted => Bool.noConfusion hwanted }
  unfold State.connectMouse
  dsimp only
  split_ifs
  · exact hsame _ h
  · exact hsame _ h
  · exact hsame _ h
  · exact hsame _ { h with
      scanWanted := fun hwanted => Bool.noConfusion hwanted
      pairing := fun hpairing => Bool.noConfusion hpairing
      saved := fun hpairing => Bool.noConfusion hpairing
      window := fun hpairing => Bool.noConfusion hpairing }
  · exact ⟨_, .idle, s'.inConnect, hbegun.requestRetry, rfl⟩
  · exact ⟨_, .connecting, true, hbegun.observe (.attempt addr !s'.havePeer) id, rfl⟩

/-- From that moment on, `mouse_conn` apart. -/
lemma connectMouseLookup (h : Aside s s') (addr : Addr) (a : Answers) :
    ∃ t stage mouseConn, Aside s t ∧
      (s'.connectMouseLookup addr a).1 = { t with mouseConn, stage, inConnect := false } := by
  have hs := h.observe (.lookup addr a.lookup) id
  unfold State.connectMouseLookup
  dsimp only
  split
  · exact ⟨_, .idle, a.lookup, (hs.observe (.autoConnOff addr) id).requestRetry, rfl⟩
  · exact ⟨_, s'.stage, a.lookup, hs.schedule .timeout 20000 Work.noConfusion, rfl⟩

/-! ### Callbacks and keys -/

lemma connectedCb (c : Conn) (err : ℕ) :
    Aside s ((s.observe (.connected c err)).connectedCb c err) := by
  have hs := (refl s).observe (.connected c err) id
  unfold State.connectedCb
  split
  · have hevent : Aside s { s.observe (.connected c err) with
        connectedEventConn := some c, connectedError := err } := { hs with }
    exact (hevent.observe (.ref c) id).submit .connected Work.noConfusion
  · exact hs

lemma disconnectedCb (c : Conn) : Aside s ((s.observe (.disconnected c)).disconnectedCb c) := by
  have hs := (refl s).observe (.disconnected c) id
  unfold State.disconnectedCb
  split
  case isTrue howns =>
    have hclosing : Aside s { s.observe (.disconnected c) with
        stage := .closing, scanWanted := false } :=
      { hs.stage (of_decide_eq_true howns) Stage.noConfusion with
        scanWanted := fun hwanted => Bool.noConfusion hwanted }
    exact hclosing.submit .disconnected Work.noConfusion
  case isFalse => exact hs

lemma pairingCompleteCb (c : Conn) (bonded : Bool) :
    Aside s ((s.observe (.pairingComplete c bonded)).pairingCompleteCb c bonded) := by
  have hs := (refl s).observe (.pairingComplete c bonded) id
  have hpaired : Aside s { s.observe (.pairingComplete c bonded) with
      candidateBonded := bonded } := { hs with }
  unfold State.pairingCompleteCb
  dsimp only
  split_ifs
  · exact hpaired.fail _
  · exact hpaired
  · exact hs

lemma pairingFailedCb (c : Conn) : Aside s (s.pairingFailedCb c) := by
  unfold State.pairingFailedCb
  split
  · exact (refl s).fail _
  · exact refl s

lemma securityCb (c : Conn) (level err : ℕ) : Aside s (s.securityCb c level err) := by
  unfold State.securityCb
  split_ifs with hvalid
  · exact refl s
  · exact (refl s).fail _
  · exact (refl s).nextStage (State.conn_of_valid hvalid) Stage.noConfusion
  · exact refl s

lemma zmkBleMousePair : Aside s s.zmkBleMousePair := by
  unfold State.zmkBleMousePair
  split
  · exact refl s
  · exact (refl s).submit .pair Work.noConfusion

lemma zmkBleMouseClearHold (pressed : Bool) :
    Aside s ((s.observe (.clearKey pressed)).zmkBleMouseClearHold pressed) := by
  have hs := (refl s).observe (.clearKey pressed) id
  have hheld : Aside s { s.observe (.clearKey pressed) with clearHeld := pressed } := { hs with }
  unfold State.zmkBleMouseClearHold
  dsimp only
  split
  · exact hheld.schedule .clear 2000 Work.noConfusion
  · exact hheld.cancel .clear Work.noConfusion id Work.noConfusion

/-- A timer expires; `connect_work` has none. -/
lemma expire (hconnect : .connect ∉ s.work.armed) {w : Work} (hw : w ∈ s.work.armed) :
    Aside s { s with work := s.work.expire w } := by
  refine { refl s with
    queued := ?_
    armed := fun harmed => (WorkQueue.mem_armed_disarm.1 harmed).1
    nodup := fun hnodup => WorkQueue.nodup_submit hnodup
    wakes := fun _ _ => (WorkQueue.pending_expire hw).2
    window := fun _ => (WorkQueue.pending_expire hw).2 }
  show .connect ∈ ((s.work.disarm w).submit w).queue ↔ _
  rw [WorkQueue.mem_submit, WorkQueue.queue_disarm, or_iff_left]
  rintro rfl
  exact hconnect hw

/-! ### Procedures -/

lemma finished (h : Aside s s') (continues : Bool) (c : Conn) (request : Request) (err : ℕ) :
    Aside s (s'.finished continues c request err) := by
  unfold State.finished
  split
  · exact h
  · exact h.observe _ id

lemma discoverCb (c : Conn) (attr : Option Attr) : Aside s (s.discoverCb c attr).1 := by
  have hs := refl s
  unfold State.discoverCb
  split
  case isTrue => exact hs
  case isFalse hvalid =>
    have hc := State.conn_of_valid hvalid
    split
    · show Aside s s.discoverEnd
      unfold State.discoverEnd
      split
      case h_2 =>
        split
        · exact hs.fail _
        · exact hs.nextStage hc Stage.noConfusion
      case h_3 => exact hs.nextStage hc Stage.noConfusion
      all_goals exact hs.fail _
    · split
      case h_1 => exact hs.session_nextStage _ hc Stage.noConfusion
      case h_2 =>
        unfold State.discoverCharacteristic
        dsimp only
        split
        case h_4 =>
          split
          · exact (hs.session _).fail _
          · exact hs.session _
        all_goals exact hs.session _
      case h_3 => exact hs.session _
      case h_4 => exact hs

lemma readCb (c : Conn) (err : ℕ) (data : Option (List UInt8)) :
    Aside s (s.readCb c err data).1 := by
  have hs := refl s
  unfold State.readCb
  split
  case isTrue => exact hs
  case isFalse hvalid =>
    have hc := State.conn_of_valid hvalid
    split
    · exact hs.fail _
    · dsimp only
      split
      case h_1 =>
        show Aside s (s.readReportMap data)
        unfold State.readReportMap
        split
        · split
          · exact hs.fail _
          · exact hs.session _
        · exact hs.nextStage hc Stage.noConfusion
      case h_2 =>
        show Aside s (s.readReference data)
        unfold State.readReference
        split
        · split
          · exact hs.fail _
          · exact hs.session _
        · split
          · exact (hs.session _).resume
          · exact hs.fail _
      case h_3 => exact hs

lemma writtenCb (c : Conn) (err : ℕ) : Aside s (s.writtenCb c err) := by
  unfold State.writtenCb
  split_ifs with hvalid
  · exact refl s
  · exact (refl s).fail _
  · exact (refl s).nextStage (State.conn_of_valid hvalid) Stage.noConfusion

lemma subscribedCb (c : Conn) (err i : ℕ) : Aside s (s.subscribedCb c err i) := by
  unfold State.subscribedCb
  split
  · exact refl s
  · split
    · exact (refl s).fail _
    · exact ((refl s).session _).resume

lemma notifyCb (c : Conn) (i : ℕ) (data : Option (List UInt8)) : Aside s (s.notifyCb c i data) := by
  have hreceived (session : Session) (frame : MouseHidFrame) (physical : Buttons) :
      Aside s (({ s with session }.observe (.outputReceive frame physical)).submit .output) :=
    (((refl s).session session).observe (.outputReceive frame physical) id).submit .output
      Work.noConfusion
  unfold State.notifyCb
  split
  · exact refl s
  · split
    · exact (refl s).fail _
    · split
      · exact refl s
      · split
        · exact hreceived _ _ _
        · exact refl s

/-! ### Discovery work -/

lemma startRequest (h : Aside s s') (c : Conn) (request : Request) (answer : ℤ) :
    Aside s (s'.startRequest c request answer) := by
  have hs := h.observe (.gatt c request answer) id
  unfold State.startRequest
  dsimp only
  split
  · exact hs.fail _
  · exact hs

/-- The mouse is ready, as the saved peer or as the one that is saved now. -/
lemma becomeReady (h : Aside s s') {c : Conn} (hc : s'.mouseConn = some c) (peer : Addr)
    (havePeer newCandidate : Bool) :
    Aside s (State.becomeReady { s' with peer, havePeer, newCandidate }) := by
  have hs : Aside s { s' with
      peer, havePeer, newCandidate, pairing := false, stage := .ready, retryMs := 1000 } :=
    { h.stage hc Stage.noConfusion with
      pairing := fun hpairing => Bool.noConfusion hpairing
      saved := fun hpairing => Bool.noConfusion hpairing
      window := fun hpairing => Bool.noConfusion hpairing }
  exact (hs.cancel .pairTimeout Work.noConfusion id fun _ => rfl).cancel .timeout
    Work.noConfusion id Work.noConfusion

lemma finishReady (h : Aside s s') {c : Conn} (hc : s'.mouseConn = some c) (a : Answers) :
    Aside s (s'.finishReady c a) := by
  have hsaved := h.observe (.save c.dst a.save) id
  unfold State.finishReady
  dsimp only
  split_ifs
  · exact h.fail _
  · exact h.fail _
  · exact hsaved.fail _
  · exact (hsaved.observe (.registered c.dst) id).becomeReady hc c.dst true false
  · exact h.becomeReady hc s'.peer s'.havePeer s'.newCandidate

lemma readReferences {c : Conn} (hc : s.mouseConn = some c) (a : Answers) :
    Aside s (s.readReferences c a) := by
  have hnext (t : State) (ht : Aside s t) (hc : t.mouseConn = some c) :
      Aside s (t.readNextReference c a) := by
    unfold State.readNextReference
    dsimp only
    split
    · exact ht.session_nextStage _ hc Stage.noConfusion
    · exact (ht.session _).startRequest _ _ _
  unfold State.readReferences
  split
  · split
    · exact (refl s).fail _
    · dsimp only
      split
      · exact ((refl s).session _).fail _
      · exact hnext _ ((refl s).session _) hc
  · exact hnext s (refl s) hc

lemma selectProtocol {c : Conn} (hc : s.mouseConn = some c) (a : Answers) :
    Aside s (s.selectProtocol c a) := by
  have hset (t : State) (ht : Aside s t) (hc : t.mouseConn = some c) :
      Aside s (t.setProtocol c a) := by
    have hcommand := ht.observe (.command c t.session.protocolHandle t.session.protocol a.protocol)
      id
    unfold State.setProtocol
    dsimp only
    split_ifs
    · exact ht.nextStage hc Stage.noConfusion
    · exact hcommand.fail _
    · exact hcommand.nextStage hc Stage.noConfusion
    · exact ht.startRequest _ _ _
  have hs := (refl s).session { s.session with protocol := 1 }
  have hcommand := hs.observe (.command c s.session.controlHandle 1 a.control) id
  unfold State.selectProtocol
  dsimp only
  split_ifs
  · exact hcommand.fail _
  · exact hset _ hcommand hc
  · exact hset _ hs hc

lemma discoveryWorkCb (a : Answers) : Aside s (s.discoveryWorkCb a) := by
  have hs := refl s
  unfold State.discoveryWorkCb
  split
  case h_1 => exact hs
  case h_2 c hc =>
    split
    · exact hs
    · split
      case h_5 => exact readReferences hc a
      case h_6 => exact selectProtocol hc a
      case h_7 =>
        unfold State.subscribeNext
        dsimp only
        split
        · split
          · exact (hs.session _).fail _
          · exact (hs.session _).startRequest _ _ _
        · split
          · refine finishReady ?_ ?_ a
            · exact hs.session _
            · exact hc
          · exact hs.session _
      case h_8 => exact hs
      all_goals exact hs.startRequest _ _ _

end Aside

end BleMouse.Client
