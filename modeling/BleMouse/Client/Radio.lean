/-
Scanning and the hand-over of connection requests, `src/central_scan.c`.

`connect_work_cb` is in `Client/Link.lean`, with the connect function that the client hands
over.
-/
import BleMouse.Client.State

namespace BleMouse.Client

/-- `struct zmk_split_transport_status`; `allConnected` says whether its connections are
`ZMK_SPLIT_TRANSPORT_CONNECTIONS_STATUS_ALL_CONNECTED` -/
structure TransportStatus where
  available : Bool
  enabled : Bool
  allConnected : Bool
deriving DecidableEq, Repr

/-- What the host and the split transport answer while the worker runs one item. -/
structure Answers where
  /-- The statuses read by the first and the second call of `split_ready`. -/
  splitBefore : List TransportStatus := []
  splitAfter : List TransportStatus := []
  scanStart : ℤ := 0
  scanStop : ℤ := 0
  autoConn : ℤ := 0
  lookup : Option Conn := none
  disconnect : ℤ := 0
  setSecurity : ℤ := 0
  /-- `bt_conn_get_security` -/
  security : ℕ := 0
  /-- The start of a GATT procedure. -/
  gatt : ℤ := 0
  /-- The writes without response to the control point and to the protocol mode. -/
  control : ℤ := 0
  protocol : ℤ := 0
  save : ℤ := 0
  delete : ℤ := 0
  /-- `bt_unpair` for the candidate and for the saved peer. -/
  unpairCandidate : ℤ := 0
  unpairPeer : ℤ := 0
deriving DecidableEq, Repr

namespace State

variable (s : State)

/-- `split_ready` -/
def splitReady (transports : List TransportStatus) : Bool :=
  let active := transports.filter fun status => status.available && status.enabled
  decide (active ≠ []) && active.all (·.allConnected) && !s.splitSettling

/-- `stop_own_scan`, with the answer of `bt_le_scan_stop` -/
def stopOwnScan (answer : ℤ) : State × ℤ :=
  if ¬s.scanOwned then (s, 0)
  else
    let s := { s with scanOwned := false }.observe (.scanStop answer)
    if answer ≠ 0 ∧ answer ≠ -eAlready then ({ s with scanOwned := true }, answer) else (s, 0)

/-- `scan_work_cb` -/
def scanWorkCb (a : Answers) : State :=
  if s.connecting then s
  else
    let needed := s.scanWanted
    if !needed || !s.splitReady a.splitBefore then
      let s := (s.stopOwnScan a.scanStop).1
      if needed then s.schedule .scan 1000 else s
    else if s.scanOwned then s
    else
      let s := s.observe (.scanStart a.scanStart)
      if a.scanStart ≠ 0 then s.schedule .scan 1000
      else
        let s := { s with scanOwned := true }
        if !s.splitReady a.splitAfter then (s.stopOwnScan a.scanStop).1.schedule .scan 1000 else s

/-- `zmk_ble_central_scan_refresh`, also `zmk_ble_central_connection_complete` -/
def scanRefresh : State := s.schedule .scan 0

/-- `zmk_ble_central_connect`, whose result the client does not use; the connect function it
is given is always `connect_mouse` -/
def centralConnect (addr : Addr) : State :=
  if !s.initialized || s.connecting then s
  else ({ s with connecting := true, pendingAddress := addr }.observe (.accepted addr)).submit
    .connect

/-- `settle_work_cb` -/
def settleWorkCb : State := { s with splitSettling := false }.scanRefresh

/-- `connection_changed` -/
def connectionChanged (scanStop : ℤ) : State :=
  ({ s with splitSettling := true }.stopOwnScan scanStop).1.schedule .settle 1000

/-- `zmk_ble_central_scan_init` -/
def centralScanInit : State := { s with initialized := true }

end State

end BleMouse.Client
