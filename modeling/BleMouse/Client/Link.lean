/-
Attempts, links and registration: the part of `src/ble_mouse.c` that takes a connection from
the request to connect to its end.

`connect_mouse` is divided where it has enabled auto-connect and has not yet looked the
connection up: the host may already report events of the connection then.
-/
import BleMouse.Client.Radio

namespace BleMouse.Client

namespace State

variable (maxPaired : ℕ) (s : State)

/-- `retry_work_cb` -/
def retryWorkCb : State :=
  let wanted := s.mouseConn.isNone && (s.havePeer || s.pairing)
  let wanted := wanted && !(s.havePeer && !s.isBonded s.peer)
  let s := { s with scanWanted := wanted }
  let s := if wanted && s.havePeer then s.centralConnect s.peer else s
  s.scanRefresh

/-- `request_retry` -/
def requestRetry : State :=
  let s := { s with scanWanted := false }.scanRefresh.schedule .retry s.retryMs
  { s with retryMs := min (s.retryMs * 2) 16000 }

/-- `mouse_conn` is given up: what the ends of an attempt have in common. -/
def closeAttempt : State :=
  ({ s with mouseConn := none, failure := 0, stage := .idle }.observe .ended).cancel .timeout

/-- The end of `forget_peer` when the bond is gone, or there was none. -/
def forgotten : State := { s with forgetRequested := false }.outputDisconnect.scanRefresh

/-- `forget_peer` -/
def forgetPeer (a : Answers) : State :=
  let s := { s with pairing := false, scanWanted := false }.cancel .pairTimeout
  if s.havePeer then
    let s := s.unpair s.peer a.unpairPeer
    if a.unpairPeer ≠ 0 then { s with forgetRequested := false }
    else { s.observe (.delete a.delete) with havePeer := false }.forgotten
  else s.forgotten

/-- Carry out a Clear that waits for the end of the attempt. -/
def forgetIfRequested (a : Answers) : State := if s.forgetRequested then s.forgetPeer a else s

/-- `disconnected_work_cb` -/
def disconnectedWorkCb (a : Answers) : State :=
  match s.mouseConn with
  | none => s
  | some c =>
    let s := s.observe (.autoConnOff c.dst)
    let s := if s.newCandidate && s.candidateBonded then s.unpair c.dst a.unpairCandidate else s
    let s := { (s.observe (.unref c)).closeAttempt with candidateBonded := false }
    (s.outputDisconnect.forgetIfRequested a).requestRetry

/-- What `disconnected_work_cb` does first: the host does not connect on its own any more, and
the bond of a candidate that was paired is removed. -/
inductive Unlinks (c : Conn) (a : Answers) : State → Prop
  | kept (hkeeps : ¬(s.newCandidate && s.candidateBonded) = true) :
      Unlinks c a (s.observe (.autoConnOff c.dst))
  | unpaired (hunpairs : (s.newCandidate && s.candidateBonded) = true) :
      Unlinks c a ((s.observe (.autoConnOff c.dst)).unpair c.dst a.unpairCandidate)

/-- The rest of it. -/
def hungUp (c : Conn) (a : Answers) : State :=
  let s := { (s.observe (.unref c)).closeAttempt with candidateBonded := false }
  (s.outputDisconnect.forgetIfRequested a).requestRetry

lemma disconnectedWorkCb_cases (a : Answers) :
    s.mouseConn = none ∧ s.disconnectedWorkCb a = s ∨
    ∃ c t, s.mouseConn = some c ∧ s.Unlinks c a t ∧ s.disconnectedWorkCb a = t.hungUp c a := by
  unfold disconnectedWorkCb
  split
  case h_1 hc => exact .inl ⟨hc, rfl⟩
  case h_2 c hc =>
    refine .inr ⟨c, ?_⟩
    dsimp only
    split
    case isTrue hunpairs => exact ⟨_, hc, .unpaired hunpairs, rfl⟩
    case isFalse hkeeps => exact ⟨_, hc, .kept hkeeps, rfl⟩

/-- `failure_work_cb` -/
def failureWorkCb (a : Answers) : State :=
  match s.mouseConn with
  | some c =>
    let s := { s with stage := .closing, scanWanted := false }.observe
      (.disconnect c a.disconnect)
    if a.disconnect = -eNotConn then s.disconnectedWorkCb a else s
  | none => { s with stage := .idle, scanWanted := false, failure := 0 }.requestRetry

/-- `timeout_work_cb` -/
def timeoutWorkCb : State :=
  if s.mouseConn.isSome && decide (s.stage ≠ .ready) then s.fail (-eTimedOut) else s

/-- `pair_timeout_cb` -/
def pairTimeoutCb : State :=
  let s := { s with pairing := false }
  let s := if s.mouseConn.isSome && s.newCandidate && decide (s.stage ≠ .ready) then
    s.fail (-eTimedOut) else s
  s.retryWorkCb

/-- `connect_mouse` up to `bt_le_set_auto_conn`; it goes on when `inConnect` is set -/
def connectMouse (addr : Addr) (a : Answers) : State × ℤ :=
  if s.mouseConn.isSome || !s.scanWanted then (s, -eAlready)
  else
    let known := s.havePeer
    if (known && decide (addr ≠ s.peer)) || (!known && !s.pairing) then (s, -eCanceled)
    else if !known && s.isBonded addr then (s, -eAlready)
    else if !known && decide (maxPaired ≤ s.bondCount) then
      ({ s with pairing := false, scanWanted := false }, -eNoMem)
    else
      let s := { s with
        session := {}
        newCandidate := !known
        candidateBonded := false
        failure := 0
        scanWanted := false
        connectingAddress := addr
        stage := .connecting }
      if a.autoConn ≠ 0 then ({ s with stage := .idle }.requestRetry, a.autoConn)
      else ({ s.observe (.attempt addr !known) with inConnect := true }, 0)

/-- `connect_mouse` after `bt_le_set_auto_conn` has succeeded -/
def connectMouseLookup (addr : Addr) (a : Answers) : State × ℤ :=
  let s := { s with mouseConn := a.lookup, inConnect := false }.observe (.lookup addr a.lookup)
  if s.mouseConn.isNone then
    ({ s.observe (.autoConnOff addr) with stage := .idle }.requestRetry, -eNotConn)
  else (s.schedule .timeout 20000, 0)

/-- The end of `connect_work_cb`. -/
def connectReturned (err : ℤ) : State :=
  let s := { s with connecting := false }
  if err ≠ 0 then s.schedule .scan 1000 else s

/-- `connect_work_cb` up to the moment inside `connect_mouse`, if it gets there -/
def connectWorkBegin (a : Answers) : State :=
  let (s, err) := s.stopOwnScan a.scanStop
  if err ≠ 0 then s.connectReturned err
  else
    let (s, err) := (s.observe (.connect s.pendingAddress)).connectMouse maxPaired
      s.pendingAddress a
    if s.inConnect then s else s.connectReturned err

/-- The rest of `connect_work_cb`. -/
def connectWorkEnd (a : Answers) : State :=
  let (s, err) := s.connectMouseLookup s.pendingAddress a
  s.connectReturned err

/-- `connect_work_cb` -/
def connectWorkCb (a : Answers) : State :=
  let s := s.connectWorkBegin maxPaired a
  if s.inConnect then s.connectWorkEnd a else s

/-- The reference taken by `connected_cb` is given back. -/
def releaseEvent : State :=
  match s.connectedEventConn with
  | some c => { s with connectedEventConn := none }.observe (.unref c)
  | none => s

/-- `connected_work_cb` after `releaseEvent` -/
def completeConnection (a : Answers) : State :=
  match s.mouseConn with
  | none => s
  | some c =>
    let s := (s.observe (.autoConnOff c.dst)).scanRefresh
    if s.connectedError ≠ 0 then
      ((s.observe (.unref c)).closeAttempt.forgetIfRequested a).requestRetry
    else if s.failure ≠ 0 ∨ s.stage = .closing then s.fail (-eCanceled)
    else
      let s := { s with stage := .security }.observe (.setSecurity c a.setSecurity)
      if a.setSecurity ≠ 0 then s.fail a.setSecurity
      else if 2 ≤ a.security ∧ s.stage = .security then s.nextStage .service
      else s

/-- `connected_work_cb` -/
def connectedWorkCb (a : Answers) : State := s.releaseEvent.completeConnection a

/-- `connected_cb` -/
def connectedCb (conn : Conn) (err : ℕ) : State :=
  if s.owns conn || (decide (s.stage = .connecting) && decide (conn.dst = s.connectingAddress))
  then
    ({ s with connectedEventConn := some conn, connectedError := err }.observe
      (.ref conn)).submit .connected
  else s

/-- `disconnected_cb` -/
def disconnectedCb (conn : Conn) : State :=
  if s.owns conn then { s with stage := .closing, scanWanted := false }.submit .disconnected
  else s

/-- `security_cb` -/
def securityCb (conn : Conn) (level err : ℕ) : State :=
  if !s.validCallback conn then s
  else if err ≠ 0 then s.fail (-eAcces)
  else if 2 ≤ level ∧ s.stage = .security then s.nextStage .service
  else s

/-- `pairing_complete_cb` -/
def pairingCompleteCb (conn : Conn) (bonded : Bool) : State :=
  if s.owns conn then
    let s := { s with candidateBonded := bonded }
    if !bonded then s.fail (-eNoSpc) else s
  else s

/-- `pairing_failed_cb` -/
def pairingFailedCb (conn : Conn) : State := if s.owns conn then s.fail (-eAcces) else s

/-- `settings_set`, for a read that leaves `contents` in `peer` and returns `result` -/
def settingsSet (name : String) (length : ℕ) (contents : Addr) (result : ℤ) : State × ℤ :=
  if name ≠ "peer" then (s, -eNoEnt)
  else if length ≠ 7 then (s, -eInval)
  else
    let s := { s with peer := contents }
    if result = 7 ∧ s.peer.type ≤ 1 ∧ s.peer ≠ .any then ({ s with havePeer := true }, 0)
    else (s, -eInval)

/-- `pair_work_cb` -/
def pairWorkCb : State :=
  if s.mouseConn.isSome then s
  else if s.havePeer then { s with retryMs := 1000 }.retryWorkCb
  else if maxPaired ≤ s.bondCount then s
  else ({ s with pairing := true, retryMs := 1000 }.schedule .pairTimeout 60000).retryWorkCb

/-- `zmk_ble_mouse_pair` -/
def zmkBleMousePair : State := if !s.started then s else s.submit .pair

/-- `clear_work_cb` -/
def clearWorkCb (a : Answers) : State :=
  if !s.clearHeld then s
  else
    let s := { s with pairing := false, scanWanted := false, forgetRequested := true }
    if s.mouseConn.isSome then s.fail (-eCanceled) else s.forgetPeer a

/-- `zmk_ble_mouse_clear_hold` -/
def zmkBleMouseClearHold (pressed : Bool) : State :=
  let s := { s with clearHeld := pressed }
  if pressed then s.schedule .clear 2000 else s.cancel .clear

/-- `zmk_ble_mouse_start`, which is also `ble_mouse_settings_commit` -/
def zmkBleMouseStart : State :=
  if s.started then s else { s with started := true }.centralScanInit.schedule .retry 0

end State

end BleMouse.Client
