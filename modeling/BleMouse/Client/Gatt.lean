/-
Discovery and subscription: the part of `src/ble_mouse.c` that reads the mouse's attributes,
subscribes to its reports and declares it ready.

The GATT callbacks that can stop a procedure return whether it goes on, beside the state.
-/
import BleMouse.Client.Link

namespace BleMouse.Client

open BleMouse.Hid BleMouse.Output

/-- `struct bt_gatt_attr`, with what `user_data` points to: the end of a service, or the
identifier, the handle of the value and the properties of a characteristic. -/
structure Attr where
  handle : Handle
  uuid : Uuid := .other 0
  endHandle : Handle := 0
  characteristic : Uuid := .other 0
  valueHandle : Handle := 0
  properties : BitVec 8 := 0
deriving DecidableEq, Repr

namespace Session

variable (session : Session)

/-- The end of the last report characteristic, once the next characteristic is known. -/
def closeLast (handle : Handle) : Session :=
  match session.reports.getLast? with
  | some report =>
    if report.stop = session.serviceEnd then
      { session with
        reports := session.reports.dropLast ++ [{ report with stop := handle - 1 }] }
    else session
  | none => session

/-- `discover_cb` in the descriptor stage, for one report characteristic -/
def describe (attr : Attr) (report : ReportCharacteristic) : ReportCharacteristic :=
  if attr.handle ≤ report.handle ∨ report.stop < attr.handle then report
  else match attr.uuid with
    | .reportRef => { report with reference := attr.handle }
    | .ccc => { report with ccc := attr.handle }
    | _ => report

/-- The first report from `index` on that has a reference. -/
def firstReference : List ReportCharacteristic → ℕ → ℕ
  | [], index => index
  | report :: rest, index => if report.reference = 0 then firstReference rest (index + 1) else index

/-- The report is an input report that carries controls of a mouse. -/
def Useful (map : MouseHidMap) (report : ReportCharacteristic) : Bool :=
  decide (report.type = 1) &&
    match mouseHidReportIndex map report.id with
    | some index => (map.reports[index]?.map (·.useful)).getD false
    | none => false

/-- The first report from `index` on to subscribe to. -/
def firstUseful (map : MouseHidMap) : List ReportCharacteristic → ℕ → ℕ
  | [], index => index
  | report :: rest, index => if Useful map report then index else firstUseful map rest (index + 1)

/-- The body of the loop in `subscribed_cb`: the controls of a field are covered. -/
def coverField (index : Option ℕ) (session : Session) (field : MouseHidField) : Session :=
  if some field.report ≠ index then session
  else match field.usage with
    | .button => { session with coveredButtons := session.coveredButtons ||| 1 <<< field.button }
    | .x => { session with coveredAxes := session.coveredAxes ||| 1 <<< 0 }
    | .y => { session with coveredAxes := session.coveredAxes ||| 1 <<< 1 }
    | .wheel => { session with coveredAxes := session.coveredAxes ||| 1 <<< 2 }
    | .pan => { session with coveredAxes := session.coveredAxes ||| 1 <<< 3 }

/-- The buttons that some report holds down. -/
def physical : Buttons :=
  session.reports.foldl (fun physical report => physical ||| report.buttons) 0

end Session

namespace State

variable (s : State)

/-- `discover_cb` when it is called without an attribute -/
def discoverEnd : State :=
  match s.stage with
  | .service => s.fail (-eNoEnt)
  | .characteristics =>
    if s.session.mapHandle = 0 ∨ s.session.reports = [] then s.fail (-eNotSup)
    else s.nextStage .descriptors
  | .descriptors => s.nextStage .reportMap
  | _ => s.fail (-eInval)

/-- `discover_cb` for a characteristic -/
def discoverCharacteristic (attr : Attr) : State × Bool :=
  let session := s.session.closeLast attr.handle
  match attr.characteristic with
  | .reportMap => ({ s with session := { session with mapHandle := attr.valueHandle } }, true)
  | .protocolMode =>
    ({ s with session := { session with
        protocolHandle := attr.valueHandle
        protocolProperties := attr.properties } }, true)
  | .ctrlPoint => ({ s with session := { session with controlHandle := attr.valueHandle } }, true)
  | .report =>
    if session.reports.length = maxCharacteristics then
      ({ s with session }.fail (-e2Big), false)
    else
      let report : ReportCharacteristic :=
        { handle := attr.valueHandle, stop := session.serviceEnd }
      ({ s with session := { session with reports := session.reports ++ [report] } }, true)
  | _ => ({ s with session }, true)

/-- `discover_cb` -/
def discoverCb (conn : Conn) (attr : Option Attr) : State × Bool :=
  if !s.validCallback conn then (s, false)
  else match attr with
    | none => (s.discoverEnd, false)
    | some attr =>
      match s.stage with
      | .service =>
        ({ s with session := { s.session with
            serviceStart := attr.handle + 1
            serviceEnd := attr.endHandle } }.nextStage .characteristics, false)
      | .characteristics => s.discoverCharacteristic attr
      | .descriptors =>
        ({ s with session := { s.session with
            reports := s.session.reports.map (Session.describe attr) } }, true)
      | _ => (s, true)

/-- `read_cb` while the report map is read -/
def readReportMap (data : Option (List UInt8)) : State :=
  match data with
  | some data =>
    if maxMapBytes - s.session.mapData.length < data.length then s.fail (-e2Big)
    else { s with session := { s.session with mapData := s.session.mapData ++ data } }
  | none => s.nextStage .reportReferences

/-- `read_cb` while a report reference is read -/
def readReference (data : Option (List UInt8)) : State :=
  match data with
  | some data =>
    if 2 - s.session.referenceData.length < data.length then s.fail (-eInval)
    else { s with session := { s.session with referenceData := s.session.referenceData ++ data } }
  | none =>
    match s.session.referenceData with
    | [id, type] =>
      { s with session := { s.session with
          reports := s.session.reports.modify s.session.index fun report =>
            { report with id := id.toNat, type := type.toNat }
          index := s.session.index + 1 } }.submit .discovery
    | _ => s.fail (-eInval)

/-- The room for the value that is read is too small for one more fragment. -/
def overflows (data : List UInt8) : Bool :=
  match s.stage with
  | .reportMap => decide (maxMapBytes - s.session.mapData.length < data.length)
  | .reportReferences => decide (2 - s.session.referenceData.length < data.length)
  | _ => false

/-- `read_cb` -/
def readCb (conn : Conn) (err : ℕ) (data : Option (List UInt8)) : State × Bool :=
  if !s.validCallback conn then (s, false)
  else if err ≠ 0 then (s.fail (-eIo), false)
  else
    let continues := match data with
      | some data => !s.overflows data
      | none => false
    match s.stage with
    | .reportMap => (s.readReportMap data, continues)
    | .reportReferences => (s.readReference data, continues)
    | _ => (s, continues)

/-- `notify_cb` of report characteristic `i`; `data` is missing when the subscription ends -/
def notifyCb (conn : Conn) (i : ℕ) (data : Option (List UInt8)) : State :=
  if !s.validCallback conn || s.stage ≠ .ready then s
  else match data with
    | none => s.fail (-eIo)
    | some data =>
      match s.session.reports[i]? with
      | none => s
      | some report =>
        match mouseHidDecode s.session.map report.id data {} with
        | .ok ⟨none, frame⟩ =>
          let session := { s.session with
            reports := s.session.reports.set i { report with buttons := frame.buttons } }
          ({ s with session }.observe (.outputReceive frame session.physical)).submit .output
        | _ => s

/-- `subscribed_cb` of report characteristic `i` -/
def subscribedCb (conn : Conn) (err i : ℕ) : State :=
  if !s.validCallback conn then s
  else if err ≠ 0 then s.fail (-eIo)
  else
    let index := (s.session.reports[i]?).bind fun report =>
      mouseHidReportIndex s.session.map report.id
    let session := s.session.map.fields.foldl (Session.coverField index) s.session
    { s with session := { session with
        subscribed := session.subscribed + 1
        index := session.index + 1 } }.submit .discovery

/-- `written_cb` -/
def writtenCb (conn : Conn) (err : ℕ) : State :=
  if !s.validCallback conn then s
  else if err ≠ 0 then s.fail (-eIo)
  else s.nextStage .subscriptions

/-- The end of `finish_ready`. -/
def becomeReady : State :=
  ({ s with pairing := false, stage := .ready, retryMs := 1000 }.cancel .pairTimeout).cancel
    .timeout

/-- `finish_ready`, with `conn` for `mouse_conn` -/
def finishReady (conn : Conn) (a : Answers) : State :=
  if s.session.subscribed = 0 ∨ s.session.coveredButtons ≠ 0x1f ∨ s.session.coveredAxes ≠ 0x0f ∨
      (s.newCandidate ∧ ¬s.candidateBonded) then s.fail (-eNotSup)
  else if s.newCandidate then
    if !s.isBonded conn.dst then s.fail (-eAcces)
    else
      let s := s.observe (.save conn.dst a.save)
      if a.save ≠ 0 then s.fail a.save
      else { s.observe (.registered conn.dst) with
        peer := conn.dst, havePeer := true, newCandidate := false }.becomeReady
  else s.becomeReady

/-- Start a GATT procedure; an error fails the attempt. -/
def startRequest (conn : Conn) (request : Request) (answer : ℤ) : State :=
  let s := s.observe (.gatt conn request answer)
  if answer ≠ 0 then s.fail answer else s

/-- `discovery_work_cb` in the report reference stage, with the map parsed -/
def readNextReference (conn : Conn) (a : Answers) : State :=
  let index := Session.firstReference (s.session.reports.drop s.session.index) s.session.index
  let s := { s with session := { s.session with index } }
  if index = s.session.reports.length then
    { s with session := { s.session with index := 0 } }.nextStage .protocol
  else
    let s := { s with session := { s.session with referenceData := [] } }
    let reference := (s.session.reports[index]?.map (·.reference)).getD 0
    s.startRequest conn (.read reference) a.gatt

/-- `discovery_work_cb` in the report reference stage -/
def readReferences (conn : Conn) (a : Answers) : State :=
  if s.session.map.reports = [] then
    match mouseHidParse s.session.mapData with
    -- what a failed parse leaves in the map is not used any more
    | .error e => s.fail (parseError e)
    | .ok map =>
      let s := { s with session := { s.session with map } }
      if map.buttons ≠ 0x1f ∨ ¬map.wheel ∨ ¬map.pan then s.fail (-eNotSup)
      else s.readNextReference conn a
  else s.readNextReference conn a

/-- `discovery_work_cb` in the protocol stage, after the write to the control point -/
def setProtocol (conn : Conn) (a : Answers) : State :=
  if s.session.protocolHandle = 0 then s.nextStage .subscriptions
  -- BT_GATT_CHRC_WRITE_WITHOUT_RESP
  else if s.session.protocolProperties.getLsbD 2 then
    let s := s.observe (.command conn s.session.protocolHandle s.session.protocol a.protocol)
    if a.protocol ≠ 0 then s.fail a.protocol else s.nextStage .subscriptions
  else s.startRequest conn (.write s.session.protocolHandle s.session.protocol) a.gatt

/-- `discovery_work_cb` in the protocol stage -/
def selectProtocol (conn : Conn) (a : Answers) : State :=
  let s := { s with session := { s.session with protocol := 1 } }
  if s.session.controlHandle ≠ 0 then
    let s := s.observe (.command conn s.session.controlHandle s.session.protocol a.control)
    if a.control ≠ 0 then s.fail a.control else s.setProtocol conn a
  else s.setProtocol conn a

/-- `discovery_work_cb` in the subscription stage -/
def subscribeNext (conn : Conn) (a : Answers) : State :=
  let index := Session.firstUseful s.session.map (s.session.reports.drop s.session.index)
    s.session.index
  let s := { s with session := { s.session with index } }
  match s.session.reports[index]? with
  | some report =>
    if report.ccc = 0 then s.fail (-eNotSup)
    else s.startRequest conn (.subscribe index report.handle report.ccc) a.gatt
  | none => if index = s.session.reports.length then s.finishReady conn a else s

/-- `discovery_work_cb` -/
def discoveryWorkCb (a : Answers) : State :=
  match s.mouseConn with
  | none => s
  | some c =>
    if s.failure ≠ 0 ∨ s.stage = .closing then s
    else match s.stage with
      | .service => s.startRequest c (.discover .primary 1 0xffff) a.gatt
      | .characteristics =>
        s.startRequest c
          (.discover .characteristic s.session.serviceStart s.session.serviceEnd) a.gatt
      | .descriptors =>
        s.startRequest c (.discover .descriptor s.session.serviceStart s.session.serviceEnd) a.gatt
      | .reportMap => s.startRequest c (.read s.session.mapHandle) a.gatt
      | .reportReferences => s.readReferences c a
      | .protocol => s.selectProtocol c a
      | .subscriptions => s.subscribeNext c a
      | _ => s

end State

end BleMouse.Client
