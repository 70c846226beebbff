/-
The state of the mouse client: the static variables of `src/ble_mouse.c` and
`src/central_scan.c`, the work queue the two files share, and the host.

What the client and the host tell each other is kept in a journal.  The host's own state (its
bonds, the addresses it connects to on its own, the requests it works on) and the history of
the latest connection attempt are folded along the journal, `History`.  A step of the client
reads nothing of it but the table of bonds.
-/
import BleMouse.Hid.Decoder
import BleMouse.Lib.Journal
import BleMouse.Lib.WorkQueue
import BleMouse.Output.Buttons

namespace BleMouse.Client

open BleMouse.Hid BleMouse.Output

/-! ### Connections -/

/-- `bt_addr_le_t` -/
structure Addr where
  type : ℕ
  val : BitVec 48
deriving DecidableEq, Repr

/-- `BT_ADDR_LE_ANY` -/
def Addr.any : Addr := ⟨0, 0⟩

/-- A connection object of the host with `bt_conn_get_dst`, which never changes. -/
structure Conn where
  id : ℕ
  dst : Addr
deriving DecidableEq, Repr

/-! ### Error numbers -/

def eNoEnt : ℤ := 2
def eIo : ℤ := 5
def e2Big : ℤ := 7
def eNoMem : ℤ := 12
def eAcces : ℤ := 13
def eInval : ℤ := 22
def eNoSpc : ℤ := 28
def eNotSup : ℤ := 95
def eNotConn : ℤ := 107
def eTimedOut : ℤ := 110
def eAlready : ℤ := 114
def eCanceled : ℤ := 125

/-- The error `mouse_hid_parse` returns; it has no undefined behaviour to stop at. -/
def parseError : Checked.Stop Errno → ℤ
  | .error .eInval => -eInval
  | .error .e2Big => -e2Big
  | .error .eNotSup => -eNotSup
  | .error .eNoEnt => -eNoEnt
  | .error .eMsgSize => -eInval
  | .fault _ => -eInval

/-! ### The session -/

/-- `enum client_stage` -/
inductive Stage
  | idle
  | connecting
  | security
  | service
  | characteristics
  | descriptors
  | reportMap
  | reportReferences
  | protocol
  | subscriptions
  | ready
  | closing
deriving DecidableEq, Repr

/-- An attribute handle. -/
abbrev Handle := BitVec 16

/-- The identifiers of characteristics and descriptors that the client tells apart. -/
inductive Uuid
  | reportMap
  | protocolMode
  | ctrlPoint
  | report
  | reportRef
  | ccc
  | other (id : ℕ)
deriving DecidableEq, Repr

/-- `MAX_CHARACTERISTICS` -/
def maxCharacteristics : ℕ := 12

/-- `struct report_characteristic`; `stop` is its `end` -/
structure ReportCharacteristic where
  handle : Handle := 0
  stop : Handle := 0
  reference : Handle := 0
  ccc : Handle := 0
  id : ℕ := 0
  type : ℕ := 0
  buttons : Buttons := 0
deriving DecidableEq, Repr

/-- `session`; its `count` is the length of `reports`, its `map_size` and `reference_size`
are the lengths of the lists of bytes read -/
structure Session where
  serviceStart : Handle := 0
  serviceEnd : Handle := 0
  mapHandle : Handle := 0
  protocolHandle : Handle := 0
  controlHandle : Handle := 0
  protocolProperties : BitVec 8 := 0
  index : ℕ := 0
  subscribed : ℕ := 0
  coveredButtons : BitVec 8 := 0
  coveredAxes : BitVec 8 := 0
  reports : List ReportCharacteristic := []
  map : MouseHidMap := {}
  mapData : List UInt8 := []
  referenceData : List UInt8 := []
  protocol : ℕ := 0
deriving DecidableEq, Repr

/-- `struct advertiser` -/
structure Advertiser where
  addr : Addr := .any
  seen : BitVec 32 := 0
  connectable : Bool := false
  m720 : Bool := false
deriving DecidableEq, Repr

/-! ### Work -/

/-- The items of `mouse_queue`; `output` is the work of `src/mouse_output.c`. -/
inductive Work
  | discovery
  | failure
  | retry
  | timeout
  | pairTimeout
  | connected
  | disconnected
  | pair
  | clear
  | scan
  | connect
  | settle
  | output
deriving DecidableEq, Repr

/-! ### The journal -/

/-- What a discovery procedure looks for. -/
inductive DiscoverType
  | primary
  | characteristic
  | descriptor
deriving DecidableEq, Repr

/-- The parameters of the GATT procedures that answer with callbacks. -/
inductive Request
  | discover (type : DiscoverType) (start stop : Handle)
  | read (handle : Handle)
  | write (handle : Handle) (value : ℕ)
  /-- The subscription of report characteristic `i`. -/
  | subscribe (i : ℕ) (value ccc : Handle)
deriving DecidableEq, Repr

/-- The calls of the host with their results, the events it reports, and what the client
does besides that a property speaks about. -/
inductive Obs
  /-- The host starts with these bonds. -/
  | boot (bonds : List Addr)
  /-- The worker takes an item off the queue. -/
  | ran (w : Work)
  /-- The Clear key is pressed or released. -/
  | clearKey (pressed : Bool)
  /-- `zmk_ble_central_connect` returns zero. -/
  | accepted (addr : Addr)
  /-- `connect_work_cb` calls the connect function. -/
  | connect (addr : Addr)
  /-- `bt_le_set_auto_conn` succeeds for a new attempt, with `new_candidate`. -/
  | attempt (addr : Addr) (new : Bool)
  /-- `bt_le_set_auto_conn` without parameters -/
  | autoConnOff (addr : Addr)
  /-- `bt_conn_lookup_addr_le` -/
  | lookup (addr : Addr) (found : Option Conn)
  /-- `mouse_conn` is given up. -/
  | ended
  | ref (conn : Conn)
  | unref (conn : Conn)
  | connected (conn : Conn) (err : ℕ)
  | disconnected (conn : Conn)
  | disconnect (conn : Conn) (err : ℤ)
  | setSecurity (conn : Conn) (err : ℤ)
  | pairingComplete (conn : Conn) (bonded : Bool)
  /-- `bt_unpair`; `saved` says whether `addr` is what the client has as the saved peer -/
  | unpair (addr : Addr) (saved : Bool) (err : ℤ)
  /-- A GATT procedure is started, or refused with an error. -/
  | gatt (conn : Conn) (request : Request) (err : ℤ)
  /-- The last callback of a GATT procedure has returned. -/
  | done (conn : Conn) (request : Request) (err : ℕ)
  /-- `bt_gatt_write_without_response` -/
  | command (conn : Conn) (handle : Handle) (value : ℕ) (err : ℤ)
  /-- `settings_save_one("ble_mouse/peer", …)` -/
  | save (addr : Addr) (err : ℤ)
  /-- `have_peer` is set for a new peer. -/
  | registered (addr : Addr)
  /-- `settings_delete("ble_mouse/peer")` -/
  | delete (err : ℤ)
  /-- `settings_set` is called for a record of this length, and its read writes `contents` and
  returns `result`. -/
  | load (name : String) (length : ℕ) (contents : Addr) (result : ℤ)
  | outputReceive (frame : MouseHidFrame) (physical : Buttons)
  | outputDisconnect
  | scanStart (err : ℤ)
  | scanStop (err : ℤ)
deriving DecidableEq, Repr

/-- The latest connection attempt. -/
structure Attempt where
  addr : Addr := .any
  /-- It is for a device that is not the saved peer. -/
  new : Bool := false
  /-- Its address had a bond when it began. -/
  bondedBefore : Bool := false
  /-- It has not been given up. -/
  active : Bool := false
  conn : Option Conn := none
  /-- The errors of the connection-complete events for its address. -/
  completions : List ℕ := []
  /-- The link is established. -/
  linkUp : Bool := false
  /-- The number of pairing completions, and whether the last one made a bond. -/
  pairings : ℕ := 0
  bonded : Bool := false
  /-- The address last stored in the settings. -/
  saved : Option Addr := none
  registered : Bool := false
  /-- The GATT procedures in progress. -/
  requests : List (Conn × Request) := []
  /-- The report characteristics whose subscription succeeded. -/
  subscribed : List ℕ := []
  /-- The host has accepted to disconnect and has not yet reported the end of the link. -/
  disconnecting : Bool := false
deriving DecidableEq, Repr

/-- The host, with the history of the client as far as properties speak about it. -/
structure History where
  bonds : List Addr := []
  /-- The addresses to which the host connects on its own. -/
  autoConn : List Addr := []
  attempt : Attempt := {}
  /-- The Clear key is held. -/
  clearHeld : Bool := false
  /-- The work of a held Clear key has run, and the saved peer was not unpaired since. -/
  clearDue : Bool := false
deriving DecidableEq, Repr

/-- An observation during the latest attempt. -/
def Attempt.record (t : Attempt) : Obs → Attempt
  | .lookup _ found => { t with conn := found, active := t.active && found.isSome }
  | .ended => { t with active := false }
  | .connected c err =>
    { t with
      completions := if c.dst = t.addr then t.completions ++ [err] else t.completions
      linkUp := if c.dst = t.addr then decide (err = 0) else t.linkUp
      disconnecting := t.disconnecting && !(decide (t.conn = some c) && decide (err ≠ 0)) }
  | .disconnected c =>
    { t with
      linkUp := t.linkUp && decide (t.conn ≠ some c)
      disconnecting := t.disconnecting && decide (t.conn ≠ some c) }
  | .disconnect c err =>
    { t with disconnecting := t.disconnecting || (decide (t.conn = some c) && decide (err = 0)) }
  | .pairingComplete c bonded =>
    if t.active ∧ t.conn = some c then { t with pairings := t.pairings + 1, bonded } else t
  | .gatt c request err =>
    { t with requests := if err = 0 then t.requests ++ [(c, request)] else t.requests }
  | .done c request err =>
    { t with
      requests := t.requests.erase (c, request)
      subscribed := match request with
        | .subscribe i _ _ => if err = 0 then t.subscribed ++ [i] else t.subscribed
        | _ => t.subscribed }
  | .save addr err => { t with saved := if err = 0 then some addr else t.saved }
  | .registered _ => { t with registered := true }
  | _ => t

/-- The bonds that `bt_unpair` leaves; for `BT_ADDR_LE_ANY` it removes all of them. -/
def bondsWithout (bonds : List Addr) (addr : Addr) : List Addr :=
  if addr = .any then [] else bonds.filter (· ≠ addr)

lemma bondsWithout_sublist (bonds : List Addr) (addr : Addr) :
    (bondsWithout bonds addr).Sublist bonds := by
  unfold bondsWithout
  split
  · exact List.nil_sublist bonds
  · exact List.filter_sublist

lemma bondsWithout_of_ne {addr : Addr} (hany : addr ≠ .any) (bonds : List Addr) :
    bondsWithout bonds addr = bonds.filter (· ≠ addr) := if_neg hany

lemma notMem_bondsWithout (bonds : List Addr) (addr : Addr) :
    addr ∉ bondsWithout bonds addr := by
  unfold bondsWithout
  split
  · exact List.not_mem_nil
  · simp

/-- What the host and its observer keep of an observation. -/
def History.record (h : History) : Obs → History
  | .boot bonds => { h with bonds }
  | .ran w => { h with clearDue := h.clearDue || (decide (w = .clear) && h.clearHeld) }
  | .clearKey pressed => { h with clearHeld := pressed }
  | .attempt addr new =>
    { h with
      autoConn := if addr ∈ h.autoConn then h.autoConn else h.autoConn ++ [addr]
      attempt := { addr, new, bondedBefore := decide (addr ∈ h.bonds), active := true } }
  | .autoConnOff addr => { h with autoConn := h.autoConn.filter (· ≠ addr) }
  | .pairingComplete c bonded =>
    { h with
      bonds := if bonded ∧ c.dst ∉ h.bonds then h.bonds ++ [c.dst] else h.bonds
      attempt := h.attempt.record (.pairingComplete c bonded) }
  | .unpair addr saved err =>
    { h with
      bonds := if err = 0 then bondsWithout h.bonds addr else h.bonds
      clearDue := h.clearDue && !saved }
  | o => { h with attempt := h.attempt.record o }

/-- The host after a journal. -/
def history (journal : List Obs) : History := Journal.replay History.record {} journal

@[simp] lemma history_snoc (journal : List Obs) (o : Obs) :
    history (journal ++ [o]) = (history journal).record o := Journal.replay_snoc

/-! ### The state -/

/-- The static variables of the two files, with the state of their worker. -/
structure State where
  -- src/ble_mouse.c
  session : Session := {}
  mouseConn : Option Conn := none
  connectedEventConn : Option Conn := none
  connectingAddress : Addr := .any
  peer : Addr := .any
  havePeer : Bool := false
  pairing : Bool := false
  scanWanted : Bool := false
  stage : Stage := .idle
  failure : ℤ := 0
  clearHeld : Bool := false
  started : Bool := false
  forgetRequested : Bool := false
  candidateBonded : Bool := false
  newCandidate : Bool := false
  connectedError : ℕ := 0
  retryMs : ℕ := 1000
  advertisers : List Advertiser := List.replicate 8 {}
  -- src/central_scan.c
  initialized : Bool := false
  connecting : Bool := false
  scanOwned : Bool := false
  splitSettling : Bool := false
  pendingAddress : Addr := .any
  /-- `mouse_queue` and the timers of its delayable items -/
  work : WorkQueue Work := {}
  /-- The worker is inside `connect_mouse`: it has enabled auto-connect and has not yet looked
  the connection up. -/
  inConnect : Bool := false
  journal : List Obs := []
deriving DecidableEq, Repr

/-- The client before its start, on a host with these bonds. -/
def State.init (bonds : List Addr) : State := { journal := [.boot bonds] }

namespace State

variable (s : State)

/-- The host. -/
def host : History := history s.journal

/-- Write an observation into the journal. -/
def observe (o : Obs) : State := { s with journal := s.journal ++ [o] }

@[simp] lemma host_observe (o : Obs) : (s.observe o).host = s.host.record o :=
  history_snoc s.journal o

/-- `zmk_ble_mouse_submit` -/
def submit (w : Work) : State :=
  { s with work := if s.initialized then s.work.submit w else s.work }

/-- `zmk_ble_mouse_schedule` -/
def schedule (w : Work) (delayMs : ℕ) : State :=
  { s with work := if s.initialized then s.work.reschedule w delayMs else s.work }

/-- `k_work_cancel_delayable` -/
def cancel (w : Work) : State := { s with work := s.work.cancel w }

/-- `bond_count` -/
def bondCount : ℕ := s.host.bonds.length

/-- `is_bonded` -/
def isBonded (addr : Addr) : Bool := decide (addr ∈ s.host.bonds)

/-- `bt_unpair` -/
def unpair (addr : Addr) (err : ℤ) : State :=
  s.observe (.unpair addr (s.havePeer && decide (addr = s.peer)) err)

/-- `owns` -/
def owns (conn : Conn) : Bool := decide (s.mouseConn = some conn)

/-- `valid_callback` -/
def validCallback (conn : Conn) : Bool :=
  s.owns conn && decide (s.failure = 0) && decide (s.stage ≠ .closing)

/-- `next_stage` -/
def nextStage (next : Stage) : State := { s with stage := next }.submit .discovery

/-- `fail` -/
def fail (err : ℤ) : State :=
  { s with failure := if s.failure ≠ 0 then s.failure else if err ≠ 0 then err else -eIo }.submit
    .failure

/-- `zmk_mouse_output_disconnect`, of which the client sees the work it submits -/
def outputDisconnect : State := (s.observe .outputDisconnect).submit .output

end State

end BleMouse.Client
