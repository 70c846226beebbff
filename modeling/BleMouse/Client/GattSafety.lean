/-
The safety of a GATT session against any peer.

The peer chooses its attributes, how it cuts the values of reads into fragments, and its errors.

* `State.writes`: the writes of a step into the arrays of the session; `frame_of_step` says that
  nothing else of them changes, `writes_inRange` that they stay inside the arrays;
* `collects_of_step`, `run_fragments`: until it is parsed, the report map is what has been
  delivered of it since the attempt began;
* `gatt_session_safety`: what holds of every run.
-/
import BleMouse.Client.Procedures

namespace BleMouse.Client

open BleMouse.Hid BleMouse.Output

/-! ### The writes of a step -/

/-- A write into the arrays of the session: an entry of `reports`, or bytes of `map_data` or of
`reference_data`. -/
inductive Write
  | report (i : ℕ)
  | mapData (offset length : ℕ)
  | referenceData (offset length : ℕ)
deriving DecidableEq, Repr

/-- The write stays inside the array. -/
def Write.InRange : Write → Prop
  | .report i => i < maxCharacteristics
  | .mapData offset length => offset + length ≤ maxMapBytes
  | .referenceData offset length => offset + length ≤ 2

instance (w : Write) : Decidable w.InRange := by
  unfold Write.InRange
  cases w <;> infer_instance

namespace Session

variable (session : Session)

/-- `discover_cb` closes the last report, and notes another one while there is room. -/
def characteristicWrites (attr : Attr) : List Write :=
  (match session.reports.getLast? with
    | some report =>
      if report.stop = session.serviceEnd then [.report (session.reports.length - 1)] else []
    | none => []) ++
  if attr.characteristic = .report ∧ session.reports.length ≠ maxCharacteristics then
    [.report session.reports.length]
  else []

/-- `discover_cb` notes a descriptor in the reports it belongs to. -/
def descriptorWrites (attr : Attr) : List Write :=
  if attr.uuid = .reportRef ∨ attr.uuid = .ccc then
    ((List.range session.reports.length).filter fun i => session.reports[i]?.any fun report =>
      !decide (attr.handle ≤ report.handle ∨ report.stop < attr.handle)).map .report
  else []

end Session

namespace State

variable (s : State)

/-- The writes of `discover_cb`. -/
def discoverWrites (conn : Conn) (attr : Option Attr) : List Write :=
  if !s.validCallback conn then []
  else match attr with
    | none => []
    | some attr =>
      match s.stage with
      | .characteristics => s.session.characteristicWrites attr
      | .descriptors => s.session.descriptorWrites attr
      | _ => []

/-- The writes of `read_cb`. -/
def readWrites (conn : Conn) (err : ℕ) (data : Option (List UInt8)) : List Write :=
  if !s.validCallback conn then []
  else if err ≠ 0 then []
  else match s.stage, data with
    | .reportMap, some data =>
      if maxMapBytes - s.session.mapData.length < data.length then []
      else [.mapData s.session.mapData.length data.length]
    | .reportReferences, some data =>
      if 2 - s.session.referenceData.length < data.length then []
      else [.referenceData s.session.referenceData.length data.length]
    | .reportReferences, none =>
      if s.session.referenceData.length = 2 then [.report s.session.index] else []
    | _, _ => []

/-- The report that `notify_cb` decodes for, and writes when that succeeds. -/
def notifyWrites (conn : Conn) (i : ℕ) (data : Option (List UInt8)) : List Write :=
  if !s.validCallback conn || s.stage ≠ .ready then []
  else match data with
    | some _ => [.report i]
    | none => []

/-- The writes of `discovery_work_cb`: the parameters of a subscription. -/
def subscribeWrites : List Write :=
  if s.mouseConn = none ∨ s.failure ≠ 0 ∨ s.stage ≠ .subscriptions then []
  else
    let index := Session.firstUseful s.session.map (s.session.reports.drop s.session.index)
      s.session.index
    match s.session.reports[index]? with
    | some report => if report.ccc = 0 then [] else [.report index]
    | none => []

/-- The writes of a step; `connect_mouse` clears the session as a whole. -/
def writes : Label → List Write
  | .work _ => match s.work.queue with
    | .discovery :: _ => s.subscribeWrites
    | _ => []
  | .discovered c _ _ _ attr => s.discoverWrites c attr
  | .readDone c _ err data => s.readWrites c err data
  | .notified c i data => s.notifyWrites c i data
  | _ => []

end State

/-! ### Nothing else changes -/

/-- What `discovery_work_cb` does to the session. -/
lemma State.discoveryWorkCb_session (s : State) (a : Answers) :
    ∃ map index referenceData protocol,
      (s.discoveryWorkCb a).session = { s.session with map, index, referenceData, protocol } ∧
      (map = s.session.map ∨ mouseHidParse s.session.mapData = .ok map) ∧
      (referenceData = s.session.referenceData ∨ referenceData = []) := by
  have hstart (t : State) (c : Conn) (request : Request) (answer : ℤ) :
      (t.startRequest c request answer).session = t.session := by
    unfold State.startRequest
    dsimp only
    split <;> rfl
  have hrefl : ∃ map index referenceData protocol,
      s.session = { s.session with map, index, referenceData, protocol } ∧
      (map = s.session.map ∨ mouseHidParse s.session.mapData = .ok map) ∧
      (referenceData = s.session.referenceData ∨ referenceData = []) :=
    ⟨_, _, _, _, rfl, .inl rfl, .inl rfl⟩
  unfold State.discoveryWorkCb
  split
  case h_1 => exact hrefl
  case h_2 c _ =>
  split
  case isTrue => exact hrefl
  case isFalse =>
  -- the reference of a report is read, with a map that may have just been parsed
  have hnext (map : MouseHidMap)
      (hmap : map = s.session.map ∨ mouseHidParse s.session.mapData = .ok map) :
      ∃ map' index referenceData protocol,
        (State.readNextReference { s with session := { s.session with map } } c a).session =
          { s.session with map := map', index, referenceData, protocol } ∧
        (map' = s.session.map ∨ mouseHidParse s.session.mapData = .ok map') ∧
        (referenceData = s.session.referenceData ∨ referenceData = []) := by
    unfold State.readNextReference
    dsimp only
    split
    · exact ⟨map, _, _, _, rfl, hmap, .inl rfl⟩
    · rw [hstart]
      exact ⟨map, _, _, _, rfl, hmap, .inr rfl⟩
  split
  case h_5 =>
    unfold State.readReferences
    split
    · split
      · exact hrefl
      case h_2 map hparse =>
        dsimp only
        split
        · exact ⟨map, _, _, _, rfl, .inr hparse, .inl rfl⟩
        · exact hnext map (.inr hparse)
    · exact hnext s.session.map (.inl rfl)
  case h_6 =>
    have hset (t : State) : (t.setProtocol c a).session = t.session := by
      unfold State.setProtocol
      dsimp only
      split_ifs
      · rfl
      · rfl
      · rfl
      · exact hstart _ _ _ _
    unfold State.selectProtocol
    dsimp only
    split_ifs
    · exact ⟨_, _, _, 1, rfl, .inl rfl, .inl rfl⟩
    · rw [hset]
      exact ⟨_, _, _, 1, rfl, .inl rfl, .inl rfl⟩
    · rw [hset]
      exact ⟨_, _, _, 1, rfl, .inl rfl, .inl rfl⟩
  case h_7 =>
    have hfinish (t : State) : (t.finishReady c a).session = t.session := by
      unfold State.finishReady
      dsimp only
      split_ifs <;> rfl
    unfold State.subscribeNext
    dsimp only
    split
    · split
      · exact ⟨_, _, _, _, rfl, .inl rfl, .inl rfl⟩
      · rw [hstart]
        exact ⟨_, _, _, _, rfl, .inl rfl, .inl rfl⟩
    · split
      · rw [hfinish]
        exact ⟨_, _, _, _, rfl, .inl rfl, .inl rfl⟩
      · exact ⟨_, _, _, _, rfl, .inl rfl, .inl rfl⟩
  case h_8 => exact hrefl
  all_goals
    rw [hstart]
    exact hrefl

/-- What is not written stays as it is; `reference_data` may be emptied. -/
structure Session.Framed (session session' : Session) (writes : List Write) : Prop where
  reports : ∀ i, .report i ∉ writes → session'.reports[i]? = session.reports[i]?
  mapData : (∀ offset length, .mapData offset length ∉ writes) → session'.mapData = session.mapData
  referenceData : (∀ offset length, .referenceData offset length ∉ writes) →
    session'.referenceData = session.referenceData ∨ session'.referenceData = []

namespace Session.Framed

variable {session session' : Session} {writes : List Write}

lemma of_same (hreports : session'.reports = session.reports)
    (hmap : session'.mapData = session.mapData)
    (hreference : session'.referenceData = session.referenceData) :
    session.Framed session' writes where
  reports := fun _ _ => by rw [hreports]
  mapData := fun _ => hmap
  referenceData := fun _ => .inl hreference

lemma refl (session : Session) : session.Framed session writes := of_same rfl rfl rfl

/-- Only the last report can be closed. -/
lemma closeLast_getElem? (session : Session) (handle : Handle) (attr : Attr) {i : ℕ}
    (hi : .report i ∉ session.characteristicWrites attr) :
    (session.closeLast handle).reports[i]? = session.reports[i]? := by
  unfold Session.characteristicWrites at hi
  rw [List.mem_append, not_or] at hi
  unfold Session.closeLast
  rcases hlast : session.reports.getLast? with _ | report
  · rfl
  · rw [hlast] at hi
    dsimp only at hi ⊢
    split
    case isFalse => rfl
    case isTrue hopen =>
      rw [if_pos hopen, List.mem_singleton] at hi
      have hne : i ≠ session.reports.length - 1 := fun heq => hi.1 (congrArg Write.report heq)
      have hpos : 0 < session.reports.length := by
        rw [List.length_pos_iff]
        rintro hnil
        rw [hnil] at hlast
        cases hlast
      rw [List.getElem?_append, List.length_dropLast]
      split
      case isTrue hlt => rw [List.getElem?_dropLast, if_pos hlt]
      case isFalse hge =>
        rw [List.getElem?_eq_none (by rw [List.length_singleton]; omega),
          List.getElem?_eq_none (by omega)]

lemma discoverCharacteristic (s : State) (attr : Attr) :
    s.session.Framed (s.discoverCharacteristic attr).1.session
      (s.session.characteristicWrites attr) := by
  obtain ⟨reports, heq, hlength⟩ := Surveyed.closeLast_spec s.session attr.handle
  have hclosed (i : ℕ) (hi : .report i ∉ s.session.characteristicWrites attr) :
      reports[i]? = s.session.reports[i]? := by
    have hspec := closeLast_getElem? s.session attr.handle attr hi
    rwa [heq] at hspec
  unfold State.discoverCharacteristic
  rw [heq]
  dsimp only
  split
  case h_4 hreport =>
    split
    case isTrue => exact ⟨hclosed, fun _ => rfl, fun _ => .inl rfl⟩
    case isFalse hroom =>
      refine ⟨fun i hi => ?_, fun _ => rfl, fun _ => .inl rfl⟩
      have hroom' : s.session.reports.length ≠ maxCharacteristics := hlength ▸ hroom
      have hne : i ≠ s.session.reports.length := by
        rintro rfl
        refine hi (List.mem_append_right _ ?_)
        rw [if_pos ⟨hreport, hroom'⟩]
        exact List.mem_cons_self
      show (reports ++ [_])[i]? = _
      rw [← hclosed i hi, List.getElem?_append]
      split
      case isTrue => rfl
      case isFalse hge =>
        rw [List.getElem?_eq_none (by rw [List.length_singleton]; omega),
          List.getElem?_eq_none (by omega)]
  all_goals exact ⟨hclosed, fun _ => rfl, fun _ => .inl rfl⟩

lemma describe (session : Session) (attr : Attr) :
    session.Framed { session with reports := session.reports.map (Session.describe attr) }
      (session.descriptorWrites attr) := by
  refine ⟨fun i hi => ?_, fun _ => rfl, fun _ => .inl rfl⟩
  show (session.reports.map (Session.describe attr))[i]? = _
  rw [List.getElem?_map]
  rcases hreport : session.reports[i]? with _ | report
  · rfl
  · refine congrArg some ?_
    unfold Session.describe
    split
    case isTrue => rfl
    case isFalse hinside =>
      have hlt : i < session.reports.length := (List.getElem?_eq_some_iff.1 hreport).1
      have hnot : ¬(attr.uuid = .reportRef ∨ attr.uuid = .ccc) := by
        rintro huuid
        refine hi ?_
        unfold Session.descriptorWrites
        rw [if_pos huuid]
        refine List.mem_map_of_mem (List.mem_filter.2 ⟨List.mem_range.2 hlt, ?_⟩)
        rw [hreport]
        simpa using hinside
      rw [not_or] at hnot
      split
      case h_1 huuid => exact absurd huuid hnot.1
      case h_2 huuid => exact absurd huuid hnot.2
      case h_3 => rfl

/-! ### Callbacks and discovery -/

lemma discoverCb (s : State) (c : Conn) (attr : Option Attr) :
    s.session.Framed (s.discoverCb c attr).1.session (s.discoverWrites c attr) := by
  unfold State.discoverCb State.discoverWrites
  split
  case isTrue => exact refl _
  case isFalse =>
  split
  case h_1 =>
    show s.session.Framed s.discoverEnd.session []
    unfold State.discoverEnd
    split
    case h_2 => split <;> exact refl _
    all_goals exact refl _
  case h_2 attr =>
  split
  case h_1 hstage =>
    rw [hstage]
    exact of_same rfl rfl rfl
  case h_2 hstage =>
    rw [hstage]
    exact discoverCharacteristic s attr
  case h_3 hstage =>
    rw [hstage]
    exact describe s.session attr
  case h_4 => exact refl _

lemma readCb (s : State) (c : Conn) (err : ℕ) (data : Option (List UInt8)) :
    s.session.Framed (s.readCb c err data).1.session (s.readWrites c err data) := by
  unfold State.readCb State.readWrites
  split
  case isTrue => exact refl _
  case isFalse =>
  split
  case isTrue => exact refl _
  case isFalse =>
  dsimp only
  split
  case h_1 hstage =>
    rw [hstage]
    cases data with
    | none => exact refl _
    | some data =>
      unfold State.readReportMap
      dsimp only
      split
      · exact refl _
      · refine ⟨fun _ _ => rfl, fun hnot => ?_, fun _ => .inl rfl⟩
        exact absurd List.mem_cons_self (hnot _ _)
  case h_2 hstage =>
    rw [hstage]
    cases data with
    | none =>
      unfold State.readReference
      dsimp only
      split
      case h_1 id type hdata =>
        have hlength : s.session.referenceData.length = 2 := by rw [hdata]; rfl
        rw [if_pos hlength]
        refine ⟨fun i hi => ?_, fun _ => rfl, fun _ => .inl rfl⟩
        have hne : s.session.index ≠ i := fun heq => hi (by rw [heq]; exact List.mem_cons_self)
        exact List.getElem?_modify_ne _ _ hne
      case h_2 => exact refl _
    | some data =>
      unfold State.readReference
      dsimp only
      split
      · exact refl _
      · refine ⟨fun _ _ => rfl, fun _ => rfl, fun hnot => ?_⟩
        exact absurd List.mem_cons_self (hnot _ _)
  case h_3 => exact refl _

lemma notifyCb (s : State) (c : Conn) (i : ℕ) (data : Option (List UInt8)) :
    s.session.Framed (s.notifyCb c i data).session (s.notifyWrites c i data) := by
  unfold State.notifyCb State.notifyWrites
  split
  case isTrue => exact refl _
  case isFalse =>
  split
  case h_1 => exact refl _
  case h_2 data =>
  split
  case h_1 => exact refl _
  case h_2 report _ =>
  split
  case h_1 frame _ =>
    refine ⟨fun j hj => ?_, fun _ => rfl, fun _ => .inl rfl⟩
    have hne : i ≠ j := fun heq => hj (by rw [heq]; exact List.mem_cons_self)
    exact List.getElem?_set_ne hne
  case h_2 => exact refl _

lemma subscribedCb (s : State) (c : Conn) (err i : ℕ) {writes : List Write} :
    s.session.Framed (s.subscribedCb c err i).session writes := by
  unfold State.subscribedCb
  dsimp only
  split
  · exact refl _
  split
  · exact refl _
  · obtain ⟨buttons, axes, heq, -, -⟩ := Session.foldl_coverField
      ((s.session.reports[i]?).bind fun report => mouseHidReportIndex s.session.map report.id)
      s.session.map.fields s.session
    rw [heq]
    exact of_same rfl rfl rfl

lemma writtenCb (s : State) (c : Conn) (err : ℕ) {writes : List Write} :
    s.session.Framed (s.writtenCb c err).session writes := by
  unfold State.writtenCb
  split_ifs <;> exact refl _

/-- Discovery work writes no data of a report: it only empties `reference_data`. -/
lemma discoveryWorkCb (s : State) (a : Answers) {writes : List Write} :
    s.session.Framed (s.discoveryWorkCb a).session writes := by
  obtain ⟨map, index, referenceData, protocol, heq, -, hreference⟩ := s.discoveryWorkCb_session a
  rw [heq]
  exact ⟨fun _ _ => rfl, fun _ => rfl, fun _ => hreference⟩

end Session.Framed

/-- The session rests, unless it is cleared. -/
lemma Rests.framed {s s' : State} (h : Rests s s') {writes : List Write} :
    s.session.Framed s'.session writes ∨ s'.session = {} := by
  rcases h.session with heq | ⟨-, hcleared⟩
  · exact .inl (heq ▸ .refl _)
  · exact .inr hcleared

lemma Opens.cleared {maxPaired : ℕ} {s s' : State} (h : Opens maxPaired s s') :
    s'.session = {} := by
  obtain ⟨t, addr, -, -, hr⟩ := h
  rcases hr.session with heq | ⟨-, hcleared⟩
  · exact heq
  · exact hcleared

lemma State.finished_session (s : State) (continues : Bool) (c : Conn) (request : Request)
    (err : ℕ) : (s.finished continues c request err).session = s.session := by
  unfold State.finished
  split <;> rfl

/-- A step changes nothing of the arrays but what it writes, or it clears the session. -/
theorem frame_of_step {maxPaired : ℕ} {s s' : State} {l : Label} (hs : Coherent s)
    (hstep : Step maxPaired s l s') :
    s.session.Framed s'.session (s.writes l) ∨ s'.session = {} := by
  cases course_of_step hs hstep.2 with
  | rests _ hr => exact hr.framed
  | opens _ ho => exact .inr ho.cleared
  | @discovery a rest _ hq =>
    exact .inl (Session.Framed.discoveryWorkCb (s.take .discovery rest) a)
  | discovered c type start stop attr =>
    rw [State.finished_session]
    exact .inl (Session.Framed.discoverCb s c attr)
  | readDone c handle err data =>
    rw [State.finished_session]
    exact .inl (Session.Framed.readCb s c err data)
  | written c handle value err =>
    rw [State.finished_session]
    exact .inl (Session.Framed.writtenCb s c err)
  | subscribed c i value ccc err =>
    rw [State.finished_session]
    exact .inl (Session.Framed.subscribedCb s c err i)
  | notified c i data => exact .inl (Session.Framed.notifyCb s c i data)

/-! ### The writes are in range -/

lemma characteristicWrites_inRange {session : Session} (h : session.Bounded) (attr : Attr) :
    ∀ w ∈ session.characteristicWrites attr, w.InRange := by
  have hle := h.reports_le
  intro w hw
  rcases List.mem_append.1 hw with hw | hw
  · split at hw
    case h_1 report hlast =>
      split at hw
      case isTrue =>
        obtain rfl := List.mem_singleton.1 hw
        have hpos : 0 < session.reports.length := by
          rw [List.length_pos_iff]
          rintro hnil
          rw [hnil] at hlast
          cases hlast
        show session.reports.length - 1 < maxCharacteristics
        omega
      case isFalse => exact absurd hw List.not_mem_nil
    case h_2 => exact absurd hw List.not_mem_nil
  · split at hw
    case isTrue hroom =>
      obtain rfl := List.mem_singleton.1 hw
      exact lt_of_le_of_ne hle hroom.2
    case isFalse => exact absurd hw List.not_mem_nil

lemma descriptorWrites_inRange {session : Session} (h : session.Bounded) (attr : Attr) :
    ∀ w ∈ session.descriptorWrites attr, w.InRange := by
  intro w hw
  unfold Session.descriptorWrites at hw
  split at hw
  · obtain ⟨i, hi, rfl⟩ := List.mem_map.1 hw
    exact (List.mem_range.1 (List.mem_filter.1 hi).1).trans_le h.reports_le
  · exact absurd hw List.not_mem_nil

lemma readWrites_inRange {s : State} (h : Surveyed s) (c : Conn) {handle : Handle}
    (hmem : (c, .read handle) ∈ s.host.attempt.requests) (err : ℕ) (data : Option (List UInt8)) :
    ∀ w ∈ s.readWrites c err data, w.InRange := by
  intro w hw
  unfold State.readWrites at hw
  split at hw
  case isTrue => exact absurd hw List.not_mem_nil
  case isFalse hvalid =>
  rw [Bool.not_eq_true', Bool.not_eq_false] at hvalid
  have hlive := State.live_of_valid hvalid
  split at hw
  case isTrue => exact absurd hw List.not_mem_nil
  case isFalse =>
  split at hw
  case h_1 data _ =>
    split at hw
    case isTrue => exact absurd hw List.not_mem_nil
    case isFalse =>
      obtain rfl := List.mem_singleton.1 hw
      have hle := h.bounded.mapData_le
      show s.session.mapData.length + data.length ≤ maxMapBytes
      omega
  case h_2 data _ =>
    split at hw
    case isTrue => exact absurd hw List.not_mem_nil
    case isFalse =>
      obtain rfl := List.mem_singleton.1 hw
      have hle := h.bounded.referenceData_le
      show s.session.referenceData.length + data.length ≤ 2
      omega
  case h_3 hstage =>
    split at hw
    case isTrue =>
      obtain rfl := List.mem_singleton.1 hw
      have hlt := (h.reading hlive hstage (List.ne_nil_of_mem hmem)).1
      exact hlt.trans_le h.bounded.reports_le
    case isFalse => exact absurd hw List.not_mem_nil
  case h_4 => exact absurd hw List.not_mem_nil

/-- A report that is notified has been subscribed to, since the client is ready. -/
lemma notifyWrites_inRange {s : State} (h : Surveyed s) (hs : Coherent s) (c : Conn) (i : ℕ)
    (hpromise : i ∈ s.host.attempt.subscribed ∨
      ∃ r ∈ s.host.attempt.requests, r.1 = c ∧ r.2.subscription = some i)
    (data : Option (List UInt8)) : ∀ w ∈ s.notifyWrites c i data, w.InRange := by
  intro w hw
  unfold State.notifyWrites at hw
  split at hw
  case isTrue => exact absurd hw List.not_mem_nil
  case isFalse hcond =>
  simp only [Bool.or_eq_true, Bool.not_eq_true', not_or, Bool.not_eq_false,
    decide_eq_true_eq, not_not] at hcond
  obtain ⟨hvalid, hstage⟩ := hcond
  have hlive := State.live_of_valid hvalid
  split at hw
  case h_2 => exact absurd hw List.not_mem_nil
  case h_1 =>
    obtain rfl := List.mem_singleton.1 hw
    rcases hpromise with hsubscribed | ⟨r, hr, -⟩
    · have hlt := (h.fits (.inl hlive.1)).subscribed_lt i hsubscribed
      exact hlt.trans_le h.bounded.reports_le
    · rw [(hs.requests_eq_nil hlive (by rw [hstage]; unfold Stage.Exploring; decide)).1] at hr
      exact absurd hr List.not_mem_nil

lemma subscribeWrites_inRange {s : State} (h : Surveyed s) :
    ∀ w ∈ s.subscribeWrites, w.InRange := by
  intro w hw
  unfold State.subscribeWrites at hw
  split at hw
  case isTrue => exact absurd hw List.not_mem_nil
  case isFalse =>
  dsimp only at hw
  split at hw
  case h_1 report hreport =>
    split at hw
    case isTrue => exact absurd hw List.not_mem_nil
    case isFalse =>
      obtain rfl := List.mem_singleton.1 hw
      exact (List.getElem?_eq_some_iff.1 hreport).1.trans_le h.bounded.reports_le
  case h_2 => exact absurd hw List.not_mem_nil

/-- Every write of a promised step is in range. -/
theorem writes_inRange {s : State} (h : Surveyed s) (hs : Coherent s) {l : Label}
    (hpromise : Host.Promises s l) : ∀ w ∈ s.writes l, w.InRange := by
  cases l with
  | work a =>
    intro w hw
    unfold State.writes at hw
    dsimp only at hw
    split at hw
    · exact subscribeWrites_inRange h w hw
    · exact absurd hw List.not_mem_nil
  | discovered c type start stop attr =>
    intro w hw
    change w ∈ s.discoverWrites c attr at hw
    unfold State.discoverWrites at hw
    split at hw
    case isTrue => exact absurd hw List.not_mem_nil
    case isFalse =>
    split at hw
    case h_1 => exact absurd hw List.not_mem_nil
    case h_2 attr =>
    split at hw
    case h_1 => exact characteristicWrites_inRange h.bounded attr w hw
    case h_2 => exact descriptorWrites_inRange h.bounded attr w hw
    case h_3 => exact absurd hw List.not_mem_nil
  | readDone c handle err data => exact readWrites_inRange h c hpromise err data
  | notified c i data => exact notifyWrites_inRange h hs c i hpromise data
  | _ => exact fun w hw => absurd hw List.not_mem_nil

/-! ### The fragments of the report map -/

/-- The bytes that a step hands to `read_cb`, without an error. -/
def Label.fragment : Label → List UInt8
  | .readDone _ _ 0 (some data) => data
  | _ => []

/-- The attempt may still come to parse the report map. -/
structure Unparsed (s : State) : Prop where
  engaged : s.Engaged
  failure : s.failure = 0
  stage : s.stage ≠ .closing
  map : s.session.map.reports = []

namespace Unparsed

variable {s s' : State}

lemma of_rests (h : Unparsed s') (hs' : Coherent s') (hr : Rests s s') :
    Unparsed s ∧ s'.session.mapData = s.session.mapData := by
  have hsession : s'.session = s.session := by
    rcases hr.session with heq | ⟨hidle, -⟩
    · exact heq
    · exact absurd h.engaged hidle
  refine ⟨⟨hr.engaged h.engaged, ?_, ?_, hsession ▸ h.map⟩, by rw [hsession]⟩
  · by_contra hfailed
    exact hr.failure h.engaged hfailed h.failure
  · intro hclosing
    have hidle : s'.stage ≠ .idle := by
      rcases h.engaged with hconn | hin
      · exact hs'.busy hconn
      · rw [(hs'.gap hin).2.1]
        exact Stage.noConfusion
    rcases hclosing ▸ hr.stage with heq | ⟨hlt, hapart⟩
    · exact h.stage heq
    · rcases hapart with heq | heq | heq | heq
      · rw [heq] at hlt
        exact absurd hlt (by decide)
      · rw [heq] at hlt
        exact absurd hlt (by decide)
      · exact h.stage heq
      · exact hidle heq

lemma of_explores (h : Unparsed s') (he : Explores s s')
    (hmap : s'.session.map.reports = [] → s.session.map.reports = []) : Unparsed s := by
  refine ⟨?_, ?_, ?_, hmap h.map⟩
  · have hengaged := h.engaged
    unfold State.Engaged at hengaged ⊢
    rwa [he.mouseConn, he.inConnect] at hengaged
  · rcases he.failure with ⟨heq, -⟩ | ⟨hfailed, -⟩
    · exact heq.symm.trans h.failure
    · exact absurd h.failure hfailed
  · rcases he.stage with heq | ⟨hlinked, -⟩
    · exact heq ▸ h.stage
    · rintro hclosing
      rw [hclosing] at hlinked
      rcases hlinked with hlinked | hlinked
      · exact Stage.noConfusion hlinked
      · exact hlinked.2.2.2.2 rfl

end Unparsed

/-- What a step does to the report map that is read: it begins an attempt with an empty one, or
adds its fragment. -/
inductive Collects (s : State) (l : Label) (s' : State) : Prop
  | begun (hattempts : s'.attempts = s.attempts + 1) (hdata : s'.session.mapData = [])
  | going (hattempts : s'.attempts = s.attempts) (hbefore : Unparsed s)
      (hdata : s'.session.mapData = s.session.mapData ++ l.fragment)

namespace Collects

variable {s s' : State} {l : Label}

lemma of_rests (h : Unparsed s') (hs' : Coherent s') (hr : Rests s s') (hl : l.fragment = []) :
    Collects s l s' := by
  obtain ⟨hbefore, hdata⟩ := h.of_rests hs' hr
  exact .going hr.attempts hbefore (by rw [hdata, hl, List.append_nil])

lemma of_opens {maxPaired : ℕ} (h : Opens maxPaired s s') : Collects s l s' :=
  .begun h.attempts (by rw [h.cleared])

lemma of_proceeds (h : Unparsed s') (he : Explores s s') (hp : Proceeds s s')
    (hl : l.fragment = []) : Collects s l s' :=
  .going he.uneventful.attempts (h.of_explores he hp.map) (by rw [hp.data, hl, List.append_nil])

/-- A read that is delivered before the map is parsed is one of the map. -/
lemma readDone (h : Surveyed s) (hs : Coherent s) {c : Conn} {handle : Handle}
    (hmem : (c, .read handle) ∈ s.host.attempt.requests) {err : ℕ} {data : Option (List UInt8)}
    (hs' : Unparsed ((s.readCb c err data).1.finished
      ((s.readCb c err data).2 && decide (err = 0) && data.isSome) c (.read handle) err)) :
    Collects s (.readDone c handle err data) ((s.readCb c err data).1.finished
      ((s.readCb c err data).2 && decide (err = 0) && data.isSome) c (.read handle) err) := by
  have he := (Explores.readCb hs c err data).finished
    ((s.readCb c err data).2 && decide (err = 0) && data.isSome) c (.read handle) err
  have hfinished := State.finished_session (s.readCb c err data).1
    ((s.readCb c err data).2 && decide (err = 0) && data.isSome) c (.read handle) err
  rcases Proceeds.readCb s c err data with ⟨hp, hfails⟩ | ⟨-, rfl, fragment, rfl, heq⟩
  case inr =>
    refine .going he.uneventful.attempts (hs'.of_explores he ?_) ?_
    · rw [hfinished, heq]
      exact id
    · rw [hfinished, heq]
      rfl
  case inl =>
  have hp := hp.finished ((s.readCb c err data).2 && decide (err = 0) && data.isSome) c
    (.read handle) err
  have hbefore := hs'.of_explores he hp.map
  -- there is a link, since a procedure is in progress
  have hconn : s.mouseConn ≠ none := by
    rcases hbefore.engaged with hconn | hin
    · exact hconn
    · rw [(hs.gapWork hin).2.2.2] at hmem
      exact absurd hmem List.not_mem_nil
  have hlive : s.Live := ⟨hconn, hbefore.failure, hbefore.stage⟩
  have hvalid : s.validCallback c = true :=
    State.validCallback_iff.2 ⟨h.owned hlive _ hmem, hlive.2⟩
  have hfailure : (s.readCb c err data).1.failure = 0 := by
    have hzero := hs'.failure
    unfold State.finished at hzero
    split at hzero <;> exact hzero
  refine .going he.uneventful.attempts hbefore ?_
  rw [hp.data]
  rcases (hs.token hlive).fits _ hmem with hstage | hstage
  · by_cases hdata : data = none
    · subst hdata
      cases err <;> exact (List.append_nil _).symm
    · exact absurd hfailure (hfails hvalid hstage hdata)
  · exact absurd hbefore.map (h.reading hlive hstage (List.ne_nil_of_mem hmem)).2

/-- `discovery_work` has been taken off the queue. -/
lemma discovery (hs : Coherent s) {rest : List Work} (hq : s.work.queue = .discovery :: rest)
    (a : Answers) (hs' : Unparsed ((s.take .discovery rest).discoveryWorkCb a)) :
    Collects s (.work a) ((s.take .discovery rest).discoveryWorkCb a) := by
  have hmem : .discovery ∈ s.work.queue := hq ▸ List.mem_cons_self
  have htake : Rests s (s.take .discovery rest) := .take .discovery rest
  have hp := Proceeds.discoveryWorkCb (s.take .discovery rest) a
  have hdata : ((s.take .discovery rest).discoveryWorkCb a).session.mapData =
      s.session.mapData ++ (Label.work a).fragment := hp.data.trans (List.append_nil _).symm
  have hback (h : Unparsed (s.take .discovery rest)) : Unparsed s :=
    ⟨h.engaged, h.failure, h.stage, h.map⟩
  rcases discoveryWorkCb_cases (s := s.take .discovery rest) (hs.initialized_of_mem hmem)
    (fun hlive => ((hs.token hlive).discovery hmem).2) a with
    hexplores | ⟨c, index, hc, hlive, -, hfinishes⟩
  · exact .going (hexplores.uneventful.attempts.trans htake.attempts)
      (hback (hs'.of_explores hexplores hp.map)) hdata
  · exact .going ((attempts_finish hfinishes).trans htake.attempts)
      ⟨.inl hlive.1, hlive.2.1, hlive.2.2, hp.map hs'.map⟩ hdata

end Collects

lemma Label.fragment_eq_nil {l : Label} (hl : ¬l.Procedural) : l.fragment = [] := by
  cases l with
  | readDone => exact absurd trivial hl
  | _ => rfl

/-- Every step collects the fragments of the report map. -/
theorem collects_of_step {maxPaired : ℕ} {s s' : State} {l : Label} (h : Surveyed s)
    (hs : Coherent s) (hstep : Step maxPaired s l s') (hs' : Unparsed s') : Collects s l s' := by
  have hallows := hstep.1
  cases course_of_step hs hstep.2 with
  | rests hl hr => exact .of_rests hs' (hs.step hstep) hr (Label.fragment_eq_nil hl)
  | opens _ ho => exact .of_opens ho
  | discovery _ hq => exact .discovery hs hq _ hs'
  | discovered c type start stop attr =>
    exact .of_proceeds hs' ((Explores.discoverCb hs c attr).finished _ _ _ _)
      ((Proceeds.discoverCb s c attr).finished _ _ _ _) rfl
  | readDone c handle err data => exact .readDone h hs hallows hs'
  | written c handle value err =>
    have hstage (hlive : s.Live) : s.stage = .protocol := (hs.token hlive).fits _ hallows
    exact .of_proceeds hs' ((Explores.writtenCb hs c err hstage).finished _ _ _ _)
      ((Proceeds.writtenCb s c err hstage).finished _ _ _ _) rfl
  | subscribed c i value ccc err =>
    exact .of_proceeds hs' ((Explores.subscribedCb hs c err i).finished _ _ _ _)
      ((Proceeds.subscribedCb s c err i).finished _ _ _ _) rfl
  | notified c i data =>
    exact .of_proceeds hs' (Explores.notifyCb hs c i data) (Proceeds.notifyCb s c i data) rfl

/-! ### Runs -/

/-- The labels of a run since the step that began its latest attempt. -/
def SinceAttempt (maxPaired : ℕ) (start : State) (labels : List Label) (s : State)
    (during : List Label) : Prop :=
  ∃ before l t u, labels = before ++ l :: during ∧
    Transition.Run (Promised maxPaired) start before t ∧ Promised maxPaired t l u ∧
    u.attempts = t.attempts + 1 ∧ Transition.Run (Promised maxPaired) u during s ∧
    s.attempts = u.attempts

lemma SinceAttempt.snoc {maxPaired : ℕ} {start s s' : State} {labels during : List Label}
    {l : Label} (h : SinceAttempt maxPaired start labels s during)
    (hstep : Promised maxPaired s l s') (hsame : s'.attempts = s.attempts) :
    SinceAttempt maxPaired start (labels ++ [l]) s' (during ++ [l]) := by
  obtain ⟨before, l', t, u, rfl, hbefore, hbegin, hattempts, hduring, heq⟩ := h
  exact ⟨before, l', t, u, by simp, hbefore, hbegin, hattempts, hduring.snoc hstep,
    hsame.trans heq⟩

/-- Until the map is parsed, what was read of it is what has been delivered. -/
theorem run_fragments {maxPaired : ℕ} {bonds : List Addr} {labels : List Label} {s : State}
    (hrun : Transition.Run (Promised maxPaired) (State.init bonds) labels s) (h : Unparsed s) :
    ∃ during, SinceAttempt maxPaired (State.init bonds) labels s during ∧
      s.session.mapData = during.flatMap Label.fragment := by
  induction hrun with
  | nil => exact absurd h.engaged (State.not_engaged rfl rfl)
  | @snoc t s' ls l hrun hstep ih =>
    obtain ⟨hrun', hsettled⟩ := run_promised hrun
    have hs := run_coherent hrun'
    cases collects_of_step (run_surveyed hrun') hs (hstep.step hs hsettled) h with
    | begun hattempts hdata =>
      exact ⟨[], ⟨ls, l, t, s', rfl, hrun, hstep, hattempts, .nil _, rfl⟩, hdata⟩
    | going hattempts hbefore hdata =>
      obtain ⟨during, hsince, hmap⟩ := ih hbefore
      refine ⟨during ++ [l], hsince.snoc hstep hattempts, ?_⟩
      rw [hdata, hmap, List.flatMap_append, List.flatMap_singleton]

/-- `discovery_work` is about to parse the report map. -/
structure Parses (s : State) : Prop where
  gap : s.inConnect = false
  next : ∃ rest, s.work.queue = .discovery :: rest
  live : s.Live
  stage : s.stage = .reportReferences
  map : s.session.map.reports = []

/-- A run keeps the procedures in their turn. -/
lemma run_sequential {maxPaired : ℕ} {bonds : List Addr} {labels : List Label} {s : State}
    (hrun : Run maxPaired (State.init bonds) labels s) : Sequential s := by
  induction hrun with
  | nil => exact Journal.always_nil.snoc trivial
  | snoc hrun hstep ih => exact ih.step (run_surveyed hrun) (run_coherent hrun) hstep

/-- **The session is safe against any peer.**  In every state of every run: the counts and
sizes of the session stay inside its arrays, every write of a step is in range, and nothing else
of the arrays changes unless the session is cleared; a GATT procedure is started only when none
is in progress; the stages of an attempt come in their order, and it becomes idle only when it
ends; and the report map that is parsed is what has been delivered of it since the attempt
began. -/
theorem gatt_session_safety {maxPaired : ℕ} {bonds : List Addr} {labels : List Label} {s : State}
    (hrun : Transition.Run (Promised maxPaired) (State.init bonds) labels s) :
    s.session.Bounded ∧
    (∀ l, Host.Promises s l → ∀ w ∈ s.writes l, w.InRange) ∧
    (∀ l s', Promised maxPaired s l s' →
      s.session.Framed s'.session (s.writes l) ∨ s'.session = {}) ∧
    Journal.Always History.record {} Obs.InTurn s.journal ∧
    (∀ l s', Promised maxPaired s l s' → s'.attempts = s.attempts →
      s.stage.rank ≤ s'.stage.rank ∧ (s'.stage = .idle → s.stage = .idle ∨ Ends s l)) ∧
    (Parses s → ∃ during, SinceAttempt maxPaired (State.init bonds) labels s during ∧
      s.session.mapData = during.flatMap Label.fragment) := by
  obtain ⟨hrun', hsettled⟩ := run_promised hrun
  have hs := run_coherent hrun'
  have h := run_surveyed hrun'
  refine ⟨h.bounded, fun l hpromise => writes_inRange h hs hpromise, ?_, run_sequential hrun', ?_,
    ?_⟩
  · exact fun l s' hstep => frame_of_step hs (hstep.step hs hsettled)
  · intro l s' hstep hsame
    have hstep' := hstep.step hs hsettled
    refine ⟨rank_le_of_step hs hstep' hsame, fun hidle => ?_⟩
    by_cases hengaged : s.Engaged
    · have hs' := hs.step hstep'
      refine .inr (ends_of_step hs hsettled hstep' hengaged ?_)
      rintro (hconn | hin)
      · exact hs'.busy hconn hidle
      · exact Stage.noConfusion (hidle.symm.trans (hs'.gap hin).2.1)
    · exact .inl (hs.idle hengaged)
  · exact fun hparses => run_fragments hrun
      ⟨.inl hparses.live.1, hparses.live.2.1, hparses.live.2.2, hparses.map⟩

/-! ### Pairing with a mouse -/

/-- The report map of the fixtures `tests/fixtures/hid_reports.h`. -/
def fixtureMap : List UInt8 :=
  [0x05, 0x01, 0x09, 0x02, 0xa1, 0x01, 0x85, 0x07, 0x09, 0x01, 0xa1, 0x00,
    0x05, 0x09, 0x19, 0x01, 0x29, 0x05, 0x15, 0x00, 0x25, 0x01, 0x75, 0x01, 0x95, 0x05, 0x81, 0x02,
    0x75, 0x03, 0x95, 0x01, 0x81, 0x03,
    0x05, 0x01, 0x09, 0x30, 0x09, 0x31, 0x16, 0x00, 0xf8, 0x26, 0xff, 0x07,
    0x75, 0x0c, 0x95, 0x02, 0x81, 0x06,
    0xa4, 0x09, 0x48, 0x15, 0x00, 0x25, 0x01, 0x75, 0x08, 0x95, 0x01, 0xb1, 0x02, 0xb4,
    0x09, 0x38, 0x15, 0x81, 0x25, 0x7f, 0x75, 0x08, 0x95, 0x01, 0x81, 0x06,
    0x05, 0x0c, 0x0a, 0x38, 0x02, 0x81, 0x06, 0xc0, 0xc0,
    0x06, 0x00, 0xff, 0x09, 0x01, 0xa1, 0x01, 0x85, 0x11, 0x75, 0x08, 0x95, 0x14, 0x81, 0x02, 0xc0,
    0x05, 0x0c, 0x09, 0x01, 0xa1, 0x01, 0x85, 0x2a, 0x15, 0x00, 0x25, 0x01,
    0x0a, 0x24, 0x02, 0x0a, 0x25, 0x02, 0x75, 0x01, 0x95, 0x02, 0x81, 0x02,
    0x75, 0x06, 0x95, 0x01, 0x81, 0x03, 0xc0]

/-- Pairing up to the request to connect to the mouse. -/
def pairingRequest (conn : Conn) : List Label :=
  [.start, .pair, .work {}, .work {}, .work {},
    .advertisement conn.dst .advInd [(9, [0x4d, 0x37, 0x32, 0x30])] 0,
    .work { lookup := some conn }]

/-- The link is completed and secured with a new bond. -/
def securedLink (conn : Conn) : List Label :=
  [.connected conn 0, .work {}, .work {}, .pairingComplete conn true, .securityChanged conn 2 0,
    .work {}]

/-- The attributes of the mouse in `tests/test_client.c`, and its report map in fragments of 20
bytes. -/
def surveyedMouse (conn : Conn) : List Label :=
  let characteristic (handle valueHandle : Handle) (characteristic : Uuid)
      (properties : BitVec 8) : Label :=
    .discovered conn .characteristic 2 50 (some
      { handle, characteristic, valueHandle, properties })
  let descriptor (handle : Handle) (uuid : Uuid) : Label :=
    .discovered conn .descriptor 2 50 (some { handle, uuid })
  [.discovered conn .primary 1 0xffff (some { handle := 1, endHandle := 50 }), .work {},
    characteristic 2 3 .reportMap 0, characteristic 4 5 .report 0, characteristic 8 9 .report 0,
    characteristic 12 13 .protocolMode 4, characteristic 14 15 .ctrlPoint 4,
    .discovered conn .characteristic 2 50 none, .work {},
    descriptor 6 .ccc, descriptor 7 .reportRef, descriptor 10 .ccc, descriptor 11 .reportRef,
    .discovered conn .descriptor 2 50 none, .work {}] ++
  (List.range 8).map (fun n => .readDone conn 3 0 (some ((fixtureMap.drop (20 * n)).take 20))) ++
  [.readDone conn 3 0 none]

/-- Pairing up to the parse of the report map. -/
def surveyRun (conn : Conn) : List Label :=
  pairingRequest conn ++ securedLink conn ++ surveyedMouse conn

/-- The references of its reports, the writes of the protocol mode, and the subscriptions, up to
the last work. -/
def subscribedMouse (conn : Conn) : List Label :=
  [.work {}, .readDone conn 7 0 (some [7, 1]), .readDone conn 7 0 none,
    .work {}, .readDone conn 11 0 (some [0x2a, 1]), .readDone conn 11 0 none,
    .work {}, .work {}, .work {}, .subscribed conn 0 5 6 0, .work {}, .subscribed conn 1 9 10 0]

/-- The mouse of the tests, up to the parse of its report map. -/
theorem gatt_session_safety_fixture : ∃ s during,
    Transition.Run (Promised 8) (State.init []) (surveyRun ⟨1, ⟨1, 7⟩⟩) s ∧
      SinceAttempt 8 (State.init []) (surveyRun ⟨1, ⟨1, 7⟩⟩) s during ∧
      during.flatMap Label.fragment = fixtureMap := by
  obtain ⟨s, hrun, hp⟩ := exists_promised_run 8 (State.init []) (surveyRun ⟨1, ⟨1, 7⟩⟩)
    (fun s => decide (s.inConnect = false ∧ s.work.queue = [.discovery] ∧ s.mouseConn ≠ none ∧
      s.failure = 0 ∧ s.stage = .reportReferences ∧ s.session.map.reports = [] ∧
      s.session.mapData = fixtureMap)) (by decide +kernel)
  obtain ⟨hgap, hq, hconn, hfailure, hstage, hmap, hdata⟩ := of_decide_eq_true hp
  have hparses : Parses s :=
    ⟨hgap, ⟨[], hq⟩, ⟨hconn, hfailure, by rw [hstage]; exact Stage.noConfusion⟩, hstage, hmap⟩
  obtain ⟨during, hsince, heq⟩ := (gatt_session_safety hrun).2.2.2.2.2 hparses
  exact ⟨s, during, hrun, hsince, heq.symm.trans hdata⟩

/-- The stages come in their order, and idle only after closing, which `failure_work_cb` may
pass through. -/
def ClosesFirst (s : State) (l : Label) (s' : State) : Prop :=
  s.stage.rank ≤ s'.stage.rank ∧ (s'.stage = .idle → s.stage = .idle ∨ s.stage = .closing ∨
    ∃ a rest, l = .work a ∧ s.work.queue = .failure :: rest)

/-- Pairing with a mouse that cannot be connected (0x3e, `BT_HCI_ERR_CONN_FAIL_TO_ESTAB`). -/
def failedConnection (conn : Conn) : List Label := pairingRequest conn ++ [.connected conn 0x3e]

/-- A connection that fails to be completed leads from connecting to idle. -/
theorem idle_without_closing : ¬∀ (maxPaired : ℕ) (bonds : List Addr) (labels : List Label)
    (s : State) (l : Label) (s' : State),
    Transition.Run (Promised maxPaired) (State.init bonds) labels s →
    Promised maxPaired s l s' → s'.attempts = s.attempts → ClosesFirst s l s' := by
  intro hall
  obtain ⟨s, hrun, hp⟩ := exists_promised_run 8 (State.init []) (failedConnection ⟨1, ⟨1, 7⟩⟩)
    (fun s => decide (s.stage = .connecting ∧ s.work.queue.head? = some .connected) &&
      (s.promised 8 (.work {})).any fun s' : State =>
        decide (s'.attempts = s.attempts ∧ s'.stage = .idle)) (by decide +kernel)
  rw [Bool.and_eq_true, Option.any_eq_true] at hp
  obtain ⟨hbefore, s', hstep, hafter⟩ := hp
  obtain ⟨hstage, hhead⟩ := of_decide_eq_true hbefore
  obtain ⟨hsame, hidle⟩ := of_decide_eq_true hafter
  rcases (hall 8 [] _ s (.work {}) s' hrun (promised_iff.1 hstep) hsame).2 hidle with
    heq | heq | ⟨a, rest, -, hq⟩
  · exact Stage.noConfusion (hstage.symm.trans heq)
  · exact Stage.noConfusion (hstage.symm.trans heq)
  · rw [hq] at hhead
    exact Work.noConfusion (Option.some.inj hhead)

end BleMouse.Client
