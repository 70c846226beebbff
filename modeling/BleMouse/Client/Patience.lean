/-
Retries wait.

The time before the next retry stays between 1 s and 16 s.  So a retry always waits for its timer,
and the worker runs other items meanwhile.

* `Patient.step`: every step keeps it that way.
-/
import BleMouse.Client.System

namespace BleMouse.Client

open BleMouse.Hid BleMouse.Output

/-- The next retry waits, but not too long. -/
def Patient (s : State) : Prop := 1000 ≤ s.retryMs ∧ s.retryMs ≤ 16000

namespace Patient

variable {s : State}

/-! ### Scanning and retries -/

lemma stopOwnScan (h : Patient s) (answer : ℤ) : Patient (s.stopOwnScan answer).1 := by
  unfold State.stopOwnScan
  dsimp only
  split_ifs <;> exact h

lemma scanWorkCb (h : Patient s) (a : Answers) : Patient (s.scanWorkCb a) := by
  have hstopped (t : State) (ht : Patient t) : Patient (t.stopOwnScan a.scanStop).1 :=
    ht.stopOwnScan a.scanStop
  unfold State.scanWorkCb
  dsimp only
  split_ifs
  · exact h
  · exact hstopped s h
  · exact hstopped s h
  · exact h
  · exact h
  · exact hstopped _ h
  · exact h

lemma centralConnect (h : Patient s) (addr : Addr) : Patient (s.centralConnect addr) := by
  unfold State.centralConnect
  split <;> exact h

lemma retryWorkCb (h : Patient s) : Patient s.retryWorkCb := by
  have hwanted (scanWanted : Bool) : Patient { s with scanWanted } := h
  unfold State.retryWorkCb
  dsimp only
  split
  · exact (hwanted _).centralConnect s.peer
  · exact h

/-- The next retry waits twice as long, but no longer than 16 s. -/
lemma requestRetry (h : Patient s) : Patient s.requestRetry := by
  have hdouble : 1000 ≤ s.retryMs * 2 := h.1.trans (Nat.le_mul_of_pos_right _ (by decide))
  exact ⟨le_min hdouble (by decide), min_le_right _ _⟩

/-- The first retry waits 1 s. -/
lemma of_renewed (h : s.retryMs = 1000) : Patient s := by
  constructor <;> omega

lemma connectionChanged (h : Patient s) (answer : ℤ) : Patient (s.connectionChanged answer) := by
  have hsettling : Patient { s with splitSettling := true } := h
  exact hsettling.stopOwnScan answer

/-! ### The ends of an attempt -/

lemma forgetPeer (h : Patient s) (a : Answers) : Patient (s.forgetPeer a) := by
  unfold State.forgetPeer
  dsimp only
  split_ifs <;> exact h

lemma forgetIfRequested (h : Patient s) (a : Answers) : Patient (s.forgetIfRequested a) := by
  unfold State.forgetIfRequested
  split
  · exact h.forgetPeer a
  · exact h

lemma disconnectedWorkCb (h : Patient s) (a : Answers) : Patient (s.disconnectedWorkCb a) := by
  have hungUp (t : State) (ht : Patient t) (c : Conn) : Patient (t.hungUp c a) :=
    (forgetIfRequested (s := State.outputDisconnect
      { (t.observe (.unref c)).closeAttempt with candidateBonded := false }) ht a).requestRetry
  rcases s.disconnectedWorkCb_cases a with ⟨-, heq⟩ | ⟨c, t, -, hunlinks, heq⟩
  · rwa [heq]
  · rw [heq]
    refine hungUp t ?_ c
    cases hunlinks <;> exact h

lemma failureWorkCb (h : Patient s) (a : Answers) : Patient (s.failureWorkCb a) := by
  have hclosing (c : Conn) : Patient
      (({ s with stage := .closing, scanWanted := false } : State).observe
        (.disconnect c a.disconnect)) := h
  have hidle : Patient { s with stage := .idle, scanWanted := false, failure := 0 } := h
  unfold State.failureWorkCb
  dsimp only
  split
  · split
    · exact (hclosing _).disconnectedWorkCb a
    · exact h
  · exact hidle.requestRetry

lemma completeConnection (h : Patient s) (a : Answers) : Patient (s.completeConnection a) := by
  have hclosed (c : Conn) :
      Patient (((s.observe (.autoConnOff c.dst)).scanRefresh.observe (.unref c)).closeAttempt) := h
  unfold State.completeConnection
  dsimp only
  split
  · exact h
  · split_ifs
    · exact ((hclosed _).forgetIfRequested a).requestRetry
    all_goals exact h

lemma connectedWorkCb (h : Patient s) (a : Answers) : Patient (s.connectedWorkCb a) := by
  have hreleased : Patient s.releaseEvent := by
    unfold State.releaseEvent
    split <;> exact h
  exact hreleased.completeConnection a

/-! ### Connections -/

lemma connectMouse (maxPaired : ℕ) (h : Patient s) (addr : Addr) (a : Answers) :
    Patient (s.connectMouse maxPaired addr a).1 := by
  unfold State.connectMouse
  dsimp only
  split_ifs
  case pos => exact h
  case pos => exact h
  case pos => exact h
  case pos => exact h
  case pos => exact requestRetry (s := { s with
    session := {}
    newCandidate := !s.havePeer
    candidateBonded := false
    failure := 0
    scanWanted := false
    connectingAddress := addr
    stage := .idle }) h
  case neg => exact h

lemma connectReturned (h : Patient s) (err : ℤ) : Patient (s.connectReturned err) := by
  unfold State.connectReturned
  dsimp only
  split <;> exact h

lemma connectWorkBegin (maxPaired : ℕ) (h : Patient s) (a : Answers) :
    Patient (s.connectWorkBegin maxPaired a) := by
  have hstopped := h.stopOwnScan a.scanStop
  have hasked : Patient ((s.stopOwnScan a.scanStop).1.observe
      (.connect (s.stopOwnScan a.scanStop).1.pendingAddress)) := hstopped
  have hconnected := hasked.connectMouse maxPaired (s.stopOwnScan a.scanStop).1.pendingAddress a
  unfold State.connectWorkBegin
  dsimp only
  split_ifs
  · exact hstopped.connectReturned _
  · exact hconnected
  · exact hconnected.connectReturned _

lemma connectWorkEnd (h : Patient s) (a : Answers) : Patient (s.connectWorkEnd a) := by
  have hlooked : Patient (s.connectMouseLookup s.pendingAddress a).1 := by
    unfold State.connectMouseLookup
    dsimp only
    split
    · exact requestRetry (s := { (({ s with mouseConn := a.lookup, inConnect := false } :
        State).observe (.lookup s.pendingAddress a.lookup)).observe
          (.autoConnOff s.pendingAddress) with stage := .idle }) h
    · exact h
  exact hlooked.connectReturned _

lemma connectWorkCb (maxPaired : ℕ) (h : Patient s) (a : Answers) :
    Patient (s.connectWorkCb maxPaired a) := by
  unfold State.connectWorkCb
  dsimp only
  split
  · exact (h.connectWorkBegin maxPaired a).connectWorkEnd a
  · exact h.connectWorkBegin maxPaired a

/-! ### Discovery -/

lemma startRequest (h : Patient s) (c : Conn) (request : Request) (answer : ℤ) :
    Patient (s.startRequest c request answer) := by
  unfold State.startRequest
  dsimp only
  split <;> exact h

lemma readReferences (h : Patient s) (c : Conn) (a : Answers) : Patient (s.readReferences c a) := by
  have hnext (t : State) (ht : Patient t) : Patient (t.readNextReference c a) := by
    have hindex (session : Session) : Patient { t with session } := ht
    unfold State.readNextReference
    dsimp only
    split
    · exact ht
    · exact (hindex _).startRequest c _ a.gatt
  have hparsed (session : Session) : Patient { s with session } := h
  unfold State.readReferences
  split
  · split
    · exact h
    · dsimp only
      split
      · exact h
      · exact hnext _ (hparsed _)
  · exact hnext s h

lemma selectProtocol (h : Patient s) (c : Conn) (a : Answers) : Patient (s.selectProtocol c a) := by
  have hset (t : State) (ht : Patient t) : Patient (t.setProtocol c a) := by
    unfold State.setProtocol
    dsimp only
    split_ifs
    · exact ht
    · exact ht
    · exact ht
    · exact ht.startRequest c _ a.gatt
  have hs : Patient { s with session := { s.session with protocol := 1 } } := h
  unfold State.selectProtocol
  dsimp only
  split_ifs
  · exact h
  · exact hset _ hs
  · exact hset _ hs

lemma finishReady (h : Patient s) (c : Conn) (a : Answers) : Patient (s.finishReady c a) := by
  have hready (t : State) : Patient t.becomeReady := of_renewed rfl
  unfold State.finishReady
  dsimp only
  split_ifs
  · exact h
  · exact h
  · exact h
  · exact hready _
  · exact hready _

lemma subscribeNext (h : Patient s) (c : Conn) (a : Answers) : Patient (s.subscribeNext c a) := by
  have hindex (index : ℕ) : Patient { s with session := { s.session with index } } := h
  unfold State.subscribeNext
  dsimp only
  split
  · split
    · exact h
    · exact (hindex _).startRequest c _ a.gatt
  · split
    · exact (hindex _).finishReady c a
    · exact h

lemma discoveryWorkCb (h : Patient s) (a : Answers) : Patient (s.discoveryWorkCb a) := by
  unfold State.discoveryWorkCb
  split
  · exact h
  case h_2 c _ =>
    split
    · exact h
    · split
      · exact h.startRequest c _ a.gatt
      · exact h.startRequest c _ a.gatt
      · exact h.startRequest c _ a.gatt
      · exact h.startRequest c _ a.gatt
      · exact h.readReferences c a
      · exact h.selectProtocol c a
      · exact h.subscribeNext c a
      · exact h

/-! ### Callbacks -/

lemma finished (h : Patient s) (continues : Bool) (c : Conn) (request : Request) (err : ℕ) :
    Patient (s.finished continues c request err) := by
  unfold State.finished
  split <;> exact h

lemma discoverCb (h : Patient s) (c : Conn) (attr : Option Attr) :
    Patient (s.discoverCb c attr).1 := by
  have hend : Patient s.discoverEnd := by
    unfold State.discoverEnd
    split
    · exact h
    · split <;> exact h
    · exact h
    · exact h
  unfold State.discoverCb
  split
  · exact h
  · split
    · exact hend
    · split
      · exact h
      · unfold State.discoverCharacteristic
        dsimp only
        split
        · exact h
        · exact h
        · exact h
        · split <;> exact h
        · exact h
      · exact h
      · exact h

lemma readCb (h : Patient s) (c : Conn) (err : ℕ) (data : Option (List UInt8)) :
    Patient (s.readCb c err data).1 := by
  have hmap : Patient (s.readReportMap data) := by
    unfold State.readReportMap
    split
    · split <;> exact h
    · exact h
  have hreference : Patient (s.readReference data) := by
    unfold State.readReference
    split
    · split <;> exact h
    · split <;> exact h
  unfold State.readCb
  dsimp only
  split
  · exact h
  · split
    · exact h
    · split
      · exact hmap
      · exact hreference
      · exact h

lemma notifyCb (h : Patient s) (c : Conn) (i : ℕ) (data : Option (List UInt8)) :
    Patient (s.notifyCb c i data) := by
  unfold State.notifyCb
  split
  · exact h
  · split
    · exact h
    · split
      · exact h
      · split <;> exact h

/-! ### Steps -/

lemma run (maxPaired : ℕ) (h : Patient s) (w : Work) (a : Answers) :
    Patient (s.run maxPaired w a) := by
  cases w with
  | discovery => exact h.discoveryWorkCb a
  | failure => exact h.failureWorkCb a
  | retry => exact h.retryWorkCb
  | timeout =>
    show Patient s.timeoutWorkCb
    unfold State.timeoutWorkCb
    split <;> exact h
  | pairTimeout =>
    have hclosed : Patient { s with pairing := false } := h
    show Patient s.pairTimeoutCb
    unfold State.pairTimeoutCb
    dsimp only
    split
    · exact retryWorkCb (s := State.fail { s with pairing := false } (-eTimedOut)) h
    · exact hclosed.retryWorkCb
  | connected => exact h.connectedWorkCb a
  | disconnected => exact h.disconnectedWorkCb a
  | pair =>
    show Patient (s.pairWorkCb maxPaired)
    unfold State.pairWorkCb
    split_ifs
    · exact h
    · exact retryWorkCb (s := { s with retryMs := 1000 }) (of_renewed rfl)
    · exact h
    · exact retryWorkCb
        (s := State.schedule { s with pairing := true, retryMs := 1000 } .pairTimeout 60000)
        (of_renewed rfl)
  | clear =>
    have hrequested : Patient
        { s with pairing := false, scanWanted := false, forgetRequested := true } := h
    show Patient (s.clearWorkCb a)
    unfold State.clearWorkCb
    dsimp only
    split_ifs
    · exact h
    · exact h
    · exact hrequested.forgetPeer a
  | scan => exact h.scanWorkCb a
  | connect => exact h.connectWorkCb maxPaired a
  | settle => exact h
  | output => exact h

theorem step {maxPaired : ℕ} {s' : State} {l : Label} (h : Patient s)
    (hstep : Step maxPaired s l s') : Patient s' := by
  have htake (w : Work) (rest : List Work) : Patient (s.take w rest) := h
  have hobserve (o : Obs) : Patient (s.observe o) := h
  cases hstep.moves with
  | work => exact (htake _ _).run maxPaired _ _
  | connectBegin => exact (htake _ _).connectWorkBegin maxPaired _
  | connectEnd => exact h.connectWorkEnd _
  | expire => exact h
  | connected =>
    unfold State.connectedCb
    split <;> exact h
  | disconnected =>
    unfold State.disconnectedCb
    split <;> exact h
  | connectionChanged answer => exact h.connectionChanged answer
  | securityChanged =>
    unfold State.securityCb
    split_ifs <;> exact h
  | pairingComplete =>
    unfold State.pairingCompleteCb
    dsimp only
    split_ifs <;> exact h
  | pairingFailed =>
    unfold State.pairingFailedCb
    split <;> exact h
  | discovered c type start stop attr => exact (h.discoverCb c attr).finished _ _ _ _
  | readDone c handle err data => exact (h.readCb c err data).finished _ _ _ _
  | written c handle value err =>
    refine finished ?_ _ _ _ _
    unfold State.writtenCb
    split_ifs <;> exact h
  | subscribed c i value ccc err =>
    refine finished ?_ _ _ _ _
    unfold State.subscribedCb
    dsimp only
    split_ifs <;> exact h
  | notified c i data => exact h.notifyCb c i data
  | advertisement addr type data now =>
    have hseen (advertisers : List Advertiser) : Patient { s with advertisers } := h
    unfold State.zmkBleMouseAdvertisement
    dsimp only
    split_ifs
    · exact h
    · exact h
    · exact h.centralConnect addr
    · exact h
    · exact h
    · exact (hseen _).centralConnect addr
    · exact h
  | pair =>
    unfold State.zmkBleMousePair
    split <;> exact h
  | clearHold =>
    unfold State.zmkBleMouseClearHold
    dsimp only
    split <;> exact h
  | settings =>
    unfold State.settingsSet
    dsimp only
    split_ifs <;> exact h
  | start =>
    unfold State.zmkBleMouseStart
    split <;> exact h

end Patient

lemma run_patient {maxPaired : ℕ} {bonds : List Addr} {labels : List Label} {s : State}
    (hrun : Run maxPaired (State.init bonds) labels s) : Patient s :=
  hrun.invariant Patient (Patient.of_renewed rfl) fun _ _ _ h hstep => h.step hstep

end BleMouse.Client
