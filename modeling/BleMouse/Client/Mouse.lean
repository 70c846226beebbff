/-
A mouse as its GATT server presents it.

* `Mouse`: the attributes of its HID service, and the values that are read;
* `Mouse.callbacks`: what the host calls for a procedure of the client;
* `Mouse.reports`: the reports that the client should find;
* `Mouse.Conforms`: what a mouse has to present.
-/
import BleMouse.Client.Descriptors
import BleMouse.Client.Survey

namespace BleMouse.Client

open BleMouse.Hid BleMouse.Output

/-! ### The server -/

/-- The HID service of a mouse: its declaration, those of its characteristics, all the other
attributes that are reported with them, and the values, in the fragments they are read in. -/
structure Mouse where
  service : Attr
  chars : List Attr
  attrs : List Attr
  value : Handle → List (List UInt8)

/-- The handle of the value of the last characteristic of a kind, or zero. -/
def lastValue (kind : Uuid) (chars : List Attr) : Handle :=
  ((chars.filter fun ch => ch.characteristic = kind).getLast?.map (·.valueHandle)).getD 0

lemma lastValue_snoc (kind : Uuid) (chars : List Attr) (new : Attr) :
    lastValue kind (chars ++ [new]) =
      if new.characteristic = kind then new.valueHandle else lastValue kind chars := by
  unfold lastValue
  rw [List.filter_append, List.getLast?_append]
  split
  case isTrue hkind =>
    rw [show [new].filter (fun ch => decide (ch.characteristic = kind)) = [new] from
      List.filter_cons_of_pos (decide_eq_true hkind)]
    rfl
  case isFalse hkind =>
    rw [show [new].filter (fun ch => decide (ch.characteristic = kind)) = [] from
      List.filter_cons_of_neg (by rwa [decide_eq_true_eq])]
    rfl

namespace Mouse

variable (m : Mouse)

/-- What the host calls for a procedure of the client, one after another. -/
def callbacks (c : Conn) : Request → List Label
  | .discover .primary start stop => [.discovered c .primary start stop (some m.service)]
  | .discover .characteristic start stop =>
    (m.chars.map some ++ [none]).map fun attr => .discovered c .characteristic start stop attr
  | .discover .descriptor start stop =>
    (m.attrs.map some ++ [none]).map fun attr => .discovered c .descriptor start stop attr
  | .read handle =>
    ((m.value handle).map some ++ [none]).map fun data => .readDone c handle 0 data
  | .write handle value => [.written c handle value 0]
  | .subscribe i value ccc => [.subscribed c i value ccc 0]

/-- What the client knows when it has found the service. -/
def found : Session :=
  { serviceStart := m.service.handle + 1, serviceEnd := m.service.endHandle }

/-- The report map is the value of the last characteristic declared so. -/
def mapHandle : Handle := lastValue .reportMap m.chars

/-- The bytes of the report map. -/
def mapBytes : List UInt8 := (m.value m.mapHandle).flatten

/-- The report characteristics with the descriptors that belong to them. -/
def described : List ReportCharacteristic :=
  (declaredReports m.chars).map fun ch =>
    { handle := ch.valueHandle
      stop := rangeEnd m.service.endHandle m.chars ch
      reference := recorded .reportRef m.service.endHandle m.chars ch m.attrs
      ccc := recorded .ccc m.service.endHandle m.chars ch m.attrs }

/-- A report characteristic with what its report reference says. -/
def referred (report : ReportCharacteristic) : ReportCharacteristic :=
  match (m.value report.reference).flatten with
  | [id, type] =>
    if report.reference = 0 then report else { report with id := id.toNat, type := type.toNat }
  | _ => report

/-- The report characteristics with their report references. -/
def reports : List ReportCharacteristic := m.described.map m.referred

/-- The mouse presents what the client requires: at most twelve report characteristics in the
order of their handles, a report map that is parsed, references of two bytes, a configuration for
every report that is useful, and every control in some report that is subscribed to. -/
structure Conforms (map : MouseHidMap) : Prop where
  declared : Declared m.found m.chars
  mapped : m.mapHandle ≠ 0
  reporting : declaredReports m.chars ≠ []
  fits : m.mapBytes.length ≤ maxMapBytes
  parses : mouseHidParse m.mapBytes = .ok map
  referenced : ∀ report ∈ m.described, report.reference ≠ 0 →
    ∃ id type, (m.value report.reference).flatten = [id, type]
  configured : ∀ report ∈ m.reports, Session.Useful map report = true → report.ccc ≠ 0
  buttons : ∀ b < 5, ∃ i, ({ reports := m.reports, map } : Session).Carries i fun field =>
    field.usage = .button ∧ field.button = b
  axes : ∀ axis, axis ≠ .button → ∃ i, ({ reports := m.reports, map } : Session).Carries i
    fun field => field.usage = axis

/-! ### What the client keeps -/

/-- What the client keeps after some of the declarations. -/
structure Charts (session : Session) (chars : List Attr) : Prop where
  serviceStart : session.serviceStart = m.service.handle + 1
  serviceEnd : session.serviceEnd = m.service.endHandle
  reports : session.reports = surveyedReports m.service.endHandle chars
  mapHandle : session.mapHandle = lastValue .reportMap chars

variable {m} {s : State} {chars attrs : List Attr} {new : Attr}

/-- A declaration is noted. -/
lemma Charts.discover (h : m.Charts s.session chars) (hd : Declared m.found (chars ++ [new])) :
    ∃ session, s.discoverCharacteristic new = ({ s with session }, true) ∧
      m.Charts session (chars ++ [new]) := by
  have hreports : surveyedReports m.service.endHandle (chars ++ [new]) =
      surveyedReports (new.handle - 1) chars ++ if new.characteristic = .report then
        [{ handle := new.valueHandle, stop := m.service.endHandle }] else [] :=
    surveyedReports_snoc hd.before
  have hmap := lastValue_snoc .reportMap chars new
  unfold State.discoverCharacteristic
  rw [hd.closeLast h.serviceEnd h.reports]
  split
  case h_4 hreport =>
    rw [if_neg (hd.room hreport _)]
    rw [if_pos hreport] at hreports
    rw [hreport, if_neg Uuid.noConfusion] at hmap
    refine ⟨_, rfl, h.serviceStart, h.serviceEnd, ?_, h.mapHandle.trans hmap.symm⟩
    rw [hreports]
    show surveyedReports (new.handle - 1) chars ++ [_] = _
    rw [h.serviceEnd]
  case h_1 hkind =>
    rw [hkind, if_neg Uuid.noConfusion, List.append_nil] at hreports
    rw [if_pos hkind] at hmap
    exact ⟨_, rfl, h.serviceStart, h.serviceEnd, hreports.symm, hmap.symm⟩
  case h_2 hkind =>
    rw [hkind, if_neg Uuid.noConfusion, List.append_nil] at hreports
    rw [hkind, if_neg Uuid.noConfusion] at hmap
    exact ⟨_, rfl, h.serviceStart, h.serviceEnd, hreports.symm, h.mapHandle.trans hmap.symm⟩
  case h_3 hkind =>
    rw [hkind, if_neg Uuid.noConfusion, List.append_nil] at hreports
    rw [hkind, if_neg Uuid.noConfusion] at hmap
    exact ⟨_, rfl, h.serviceStart, h.serviceEnd, hreports.symm, h.mapHandle.trans hmap.symm⟩
  case h_5 hmapping _ _ hkind =>
    rw [if_neg hkind, List.append_nil] at hreports
    rw [if_neg hmapping] at hmap
    exact ⟨_, rfl, h.serviceStart, h.serviceEnd, hreports.symm, h.mapHandle.trans hmap.symm⟩

/-- The first declarations. -/
lemma declared_take (hd : Declared m.found m.chars) (n : ℕ) :
    Declared m.found (m.chars.take n) where
  within ch hch := hd.within ch (List.mem_of_mem_take hch)
  increasing := hd.increasing.sublist (List.take_sublist _ _)
  value ch hch := hd.value ch (List.mem_of_mem_take hch)
  next := hd.next.take n
  count := (List.Sublist.length_le ((List.take_sublist _ _).filter _)).trans hd.count

/-- The ranges that the client keeps give every report its own descriptors. -/
lemma described_eq (hd : Declared m.found m.chars) :
    (surveyedReports m.service.endHandle m.chars).map (fun report =>
      m.attrs.foldl (fun report attr => Session.describe attr report) report) = m.described := by
  unfold surveyedReports described
  rw [List.map_map]
  refine List.map_congr_left fun ch hch => ?_
  have hmem := mem_of_declaredReports hch
  have hstop : ∀ ch ∈ m.chars, ch.handle ≤ m.service.endHandle := fun ch hch =>
    (hd.within ch hch).2
  have hvalue := hd.value ch hmem
  dsimp only [Function.comp]
  rw [foldl_describe, filter_range hd.increasing hstop hmem hvalue,
    filter_range hd.increasing hstop hmem hvalue]

lemma referred_of_zero {report : ReportCharacteristic} (h : report.reference = 0) :
    m.referred report = report := by
  unfold referred
  split
  · rw [if_pos h]
  · rfl

end Mouse

end BleMouse.Client
