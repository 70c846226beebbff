/-
How far a conversation has come.

From the moment the link is encrypted, the client goes through its procedures in order: it finds
the service, the characteristics and their descriptors, reads the report map and the references,
selects the protocol, and subscribes to every useful report.

* `Onward`: what every step of the way leaves;
* `Mouse.Phase`: what the client knows on the way;
* `Mouse.left`: the callbacks and the items of work still to come at most.
-/
import BleMouse.Client.Converse

namespace BleMouse.Client

open BleMouse.Hid BleMouse.Output

/-! ### The next report -/

/-- The first report from an index on that has a reference. -/
lemma firstReference_spec (reports : List ReportCharacteristic) (index : ℕ) :
    ∃ k ≤ reports.length, Session.firstReference reports index = index + k ∧
      (∀ report ∈ reports.take k, report.reference = 0) ∧
      ∀ report, reports[k]? = some report → report.reference ≠ 0 := by
  induction reports generalizing index with
  | nil => exact ⟨0, le_rfl, rfl, fun _ h => absurd h List.not_mem_nil, fun _ h => nomatch h⟩
  | cons report rest ih =>
    unfold Session.firstReference
    split
    case isTrue hzero =>
      obtain ⟨k, hk, heq, hbefore, hat⟩ := ih (index + 1)
      refine ⟨k + 1, Nat.succ_le_succ hk, by omega, ?_, hat⟩
      intro report' hmem
      rw [List.take_succ_cons, List.mem_cons] at hmem
      rcases hmem with rfl | hmem
      · exact hzero
      · exact hbefore report' hmem
    case isFalse hne =>
      refine ⟨0, Nat.zero_le _, rfl, fun _ h => absurd h List.not_mem_nil, fun report' h => ?_⟩
      cases h
      exact hne

/-- The first report from an index on to subscribe to. -/
lemma firstUseful_spec (map : MouseHidMap) (reports : List ReportCharacteristic) (index : ℕ) :
    ∃ k ≤ reports.length, Session.firstUseful map reports index = index + k ∧
      (∀ report ∈ reports.take k, Session.Useful map report = false) ∧
      ∀ report, reports[k]? = some report → Session.Useful map report = true := by
  induction reports generalizing index with
  | nil => exact ⟨0, le_rfl, rfl, fun _ h => absurd h List.not_mem_nil, fun _ h => nomatch h⟩
  | cons report rest ih =>
    unfold Session.firstUseful
    split
    case isTrue huseful =>
      refine ⟨0, Nat.zero_le _, rfl, fun _ h => absurd h List.not_mem_nil, fun report' h => ?_⟩
      cases h
      exact huseful
    case isFalse hnot =>
      obtain ⟨k, hk, heq, hbefore, hat⟩ := ih (index + 1)
      refine ⟨k + 1, Nat.succ_le_succ hk, by omega, ?_, hat⟩
      intro report' hmem
      rw [List.take_succ_cons, List.mem_cons] at hmem
      rcases hmem with rfl | hmem
      · exact Bool.eq_false_of_not_eq_true hnot
      · exact hbefore report' hmem

/-! ### Coverage -/

/-- The control of a field is covered. -/
def Session.Covered (session : Session) (field : MouseHidField) : Prop :=
  match field.usage with
  | .button => session.coveredButtons.getLsbD field.button = true
  | axis => session.coveredAxes.getLsbD (axisBit axis) = true

/-- What covering a field keeps: nothing but the covered controls changes, what is covered stays
covered, and there are four axes. -/
structure Session.Widens (session session' : Session) : Prop where
  same : ∃ coveredButtons coveredAxes, session' = { session with coveredButtons, coveredAxes }
  covered : ∀ field, session.Covered field → session'.Covered field
  axes : (∀ b, session.coveredAxes.getLsbD b = true → b < 4) →
    ∀ b, session'.coveredAxes.getLsbD b = true → b < 4

namespace Session.Widens

variable {session session' session'' : Session}

lemma refl (session : Session) : session.Widens session := ⟨⟨_, _, rfl⟩, fun _ => id, id⟩

lemma trans (h : session.Widens session') (h' : session'.Widens session'') :
    session.Widens session'' := by
  obtain ⟨buttons, axes, rfl⟩ := h.same
  obtain ⟨buttons', axes', rfl⟩ := h'.same
  exact ⟨⟨buttons', axes', rfl⟩, fun field hc => h'.covered field (h.covered field hc),
    fun hlt => h'.axes (h.axes hlt)⟩

/-- A button is covered. -/
lemma button (session : Session) (b : ℕ) :
    session.Widens { session with coveredButtons := session.coveredButtons ||| 1 <<< b } := by
  refine ⟨⟨_, _, rfl⟩, fun field hc => ?_, id⟩
  unfold Session.Covered at hc ⊢
  split at hc
  · simp only [BitVec.getLsbD_or, hc, Bool.true_or]
  · exact hc

/-- An axis is covered. -/
lemma axis (session : Session) {n : ℕ} (hn : n < 4) :
    session.Widens { session with coveredAxes := session.coveredAxes ||| 1 <<< n } := by
  refine ⟨⟨_, _, rfl⟩, fun field hc => ?_, fun hlt b hb => ?_⟩
  · unfold Session.Covered at hc ⊢
    split at hc
    · exact hc
    · simp only [BitVec.getLsbD_or, hc, Bool.true_or]
  · rcases Session.getLsbD_or_shiftLeft hb with hb | rfl
    · exact hlt b hb
    · exact hn

lemma coverField (index : Option ℕ) (session : Session) (field : MouseHidField) :
    session.Widens (session.coverField index field) := by
  unfold Session.coverField
  split
  · exact refl session
  · split
    · exact button session _
    · exact axis session (by decide)
    · exact axis session (by decide)
    · exact axis session (by decide)
    · exact axis session (by decide)

end Session.Widens

lemma Session.covered_coverField {index : Option ℕ} {field : MouseHidField}
    (hindex : some field.report = index) (hbutton : field.button < 8) (session : Session) :
    (session.coverField index field).Covered field := by
  have hbit {n : ℕ} (hn : n < 8) (covered : BitVec 8) :
      (covered ||| 1#8 <<< n).getLsbD n = true := by
    simp [hn]
  unfold Session.coverField Session.Covered
  rw [if_neg (not_not.2 hindex)]
  cases field.usage with
  | button => exact hbit hbutton _
  | x | y | wheel | pan => exact hbit (by decide) _

/-- A subscription covers the controls of its report. -/
lemma Session.widens_foldl (index : Option ℕ) (fields : List MouseHidField) (session : Session)
    (hbutton : ∀ field ∈ fields, field.button < 8) :
    session.Widens (fields.foldl (Session.coverField index) session) ∧
      ∀ field ∈ fields, some field.report = index →
        (fields.foldl (Session.coverField index) session).Covered field := by
  induction fields generalizing session with
  | nil => exact ⟨Session.Widens.refl session, fun _ h => absurd h List.not_mem_nil⟩
  | cons field rest ih =>
    obtain ⟨hwidens, hcovered⟩ := ih (session.coverField index field)
      fun field' hmem => hbutton field' (List.mem_cons_of_mem _ hmem)
    refine ⟨(Session.Widens.coverField index session field).trans hwidens, ?_⟩
    intro field' hmem hindex
    rcases List.mem_cons.1 hmem with rfl | hmem
    · exact hwidens.covered _ (Session.covered_coverField hindex
        (hbutton _ List.mem_cons_self) session)
    · exact hcovered field' hmem hindex

/-! ### The conversation moves on -/

/-- `discovery_work` waits, in a stage. -/
structure Due (s : State) (stage : Stage) : Prop where
  stage : s.stage = stage
  requests : s.host.attempt.requests = []
  queued : .discovery ∈ s.work.queue

/-- A procedure is in progress, in a stage. -/
structure Asks (s : State) (c : Conn) (stage : Stage) (r : Request) : Prop where
  stage : s.stage = stage
  requests : s.host.attempt.requests = [(c, r)]

/-- Nothing of the attempt changes but its session, its stage and its procedures, and nothing but
discovery is submitted. -/
structure Onward (s s' : State) : Prop where
  mouseConn : s'.mouseConn = s.mouseConn
  failure : s'.failure = s.failure
  initialized : s'.initialized = s.initialized
  newCandidate : s'.newCandidate = s.newCandidate
  candidateBonded : s'.candidateBonded = s.candidateBonded
  bonds : s'.host.bonds = s.host.bonds
  queue : ∀ w ∈ s'.work.queue, w ∈ s.work.queue ∨ w = .discovery

namespace Onward

variable {s s' s'' : State} {c : Conn}

lemma refl (s : State) : Onward s s := ⟨rfl, rfl, rfl, rfl, rfl, rfl, fun _ => .inl⟩

lemma trans (h : Onward s s') (h' : Onward s' s'') : Onward s s'' where
  mouseConn := h'.mouseConn.trans h.mouseConn
  failure := h'.failure.trans h.failure
  initialized := h'.initialized.trans h.initialized
  newCandidate := h'.newCandidate.trans h.newCandidate
  candidateBonded := h'.candidateBonded.trans h.candidateBonded
  bonds := h'.bonds.trans h.bonds
  queue := fun w hw => (h'.queue w hw).elim (h.queue w) .inr

lemma observe (h : Onward s s') (o : Obs) (ho : (s'.host.record o).bonds = s'.host.bonds) :
    Onward s (s'.observe o) :=
  h.trans { refl s' with bonds := (congrArg History.bonds (s'.host_observe o)).trans ho }

lemma resume (h : Onward s s') : Onward s (s'.submit .discovery) := by
  refine h.trans { refl s' with queue := fun w hw => ?_ }
  by_cases hne : w = .discovery
  · exact .inr hne
  · exact .inl ((State.mem_submit_of_ne hne).1 hw)

lemma nextStage (h : Onward s s') (next : Stage) : Onward s (s'.nextStage next) := by
  have hs : Onward s { s' with stage := next } := { h with }
  exact hs.resume

lemma take {w : Work} {rest : List Work} (hq : s.work.queue = w :: rest) :
    Onward s (s.take w rest) := by
  have hs : Onward s { s with work := { s.work with queue := rest } } :=
    { refl s with queue := fun v hv => .inl (hq ▸ List.mem_cons_of_mem _ hv) }
  exact hs.observe _ rfl

lemma startRequest (h : Onward s s') (c : Conn) (r : Request) :
    Onward s (s'.startRequest c r 0) := h.observe (.gatt c r 0) rfl

lemma talking (h : Onward s s') (ht : Talking s c) : Talking s' c where
  conn := h.mouseConn.trans ht.conn
  failure := h.failure.trans ht.failure
  candidate := by
    rw [h.newCandidate, h.candidateBonded, h.bonds]
    exact ht.candidate
  calm := by
    intro w hw
    rcases h.queue w hw with hold | rfl
    · exact ht.calm w hold
    · exact id

end Onward

section Moves

variable {s : State} {c : Conn} {r : Request}

/-- A procedure starts. -/
lemma asks_of_start (hnone : s.host.attempt.requests = []) (c : Conn) (r : Request) :
    Asks (s.startRequest c r 0) c s.stage r := by
  refine ⟨rfl, ?_⟩
  show (s.observe (.gatt c r 0)).host.attempt.requests = _
  rw [State.host_observe]
  show s.host.attempt.requests ++ [(c, r)] = _
  rw [hnone, List.nil_append]

lemma State.mem_submit_discovery (hinit : s.initialized = true) :
    .discovery ∈ (s.submit .discovery).work.queue := by
  unfold State.submit
  dsimp only
  rw [if_pos hinit]
  exact WorkQueue.mem_submit.2 (.inr rfl)

/-- The client goes on to another stage without a procedure. -/
lemma due_of_nextStage (hinit : s.initialized = true) (hnone : s.host.attempt.requests = [])
    (next : Stage) : Due (s.nextStage next) next := by
  have hs : ({ s with stage := next } : State).initialized = true := hinit
  exact ⟨rfl, hnone, State.mem_submit_discovery hs⟩

lemma erase_requests (hasked : s.host.attempt.requests = [(c, r)]) (err : ℕ) :
    (s.observe (.done c r err)).host.attempt.requests = [] := by
  rw [State.host_observe]
  show s.host.attempt.requests.erase (c, r) = []
  rw [hasked, List.erase_cons_head]

/-- A procedure ends, and the client goes on to another stage. -/
lemma due_of_done (hinit : s.initialized = true) (hasked : s.host.attempt.requests = [(c, r)])
    (next : Stage) (err : ℕ) : Due ((s.nextStage next).observe (.done c r err)) next := by
  have hs : ({ s with stage := next } : State).initialized = true := hinit
  exact ⟨rfl, erase_requests hasked err, State.mem_submit_discovery hs⟩

/-- A procedure ends, and the client goes on in the same stage. -/
lemma due_of_resume (hinit : s.initialized = true)
    (hasked : s.host.attempt.requests = [(c, r)]) (err : ℕ) :
    Due ((s.submit .discovery).observe (.done c r err)) s.stage :=
  ⟨rfl, erase_requests hasked err, State.mem_submit_discovery hinit⟩

end Moves

/-- What `discovery_work` does in a stage. -/
def State.procedure (s : State) (c : Conn) (a : Answers) : Stage → State
  | .service => s.startRequest c (.discover .primary 1 0xffff) a.gatt
  | .characteristics =>
    s.startRequest c (.discover .characteristic s.session.serviceStart s.session.serviceEnd) a.gatt
  | .descriptors =>
    s.startRequest c (.discover .descriptor s.session.serviceStart s.session.serviceEnd) a.gatt
  | .reportMap => s.startRequest c (.read s.session.mapHandle) a.gatt
  | .reportReferences => s.readReferences c a
  | .protocol => s.selectProtocol c a
  | .subscriptions => s.subscribeNext c a
  | _ => s

/-! ### Phases -/

namespace Mouse

variable (m : Mouse) (map : MouseHidMap)

/-- The references before the index have been read. -/
structure Refers (session : Session) : Prop where
  index_le : session.index ≤ m.described.length
  reports : session.reports =
    (m.described.take session.index).map m.referred ++ m.described.drop session.index

/-- The useful reports before the index have been subscribed to. -/
structure Tally (session : Session) : Prop where
  reports : session.reports = m.reports
  parsed : session.map = map
  index_le : session.index ≤ m.reports.length
  covered : ∀ i < session.index, ∀ report, m.reports[i]? = some report →
    Session.Useful map report = true → ∀ field ∈ map.fields,
      mouseHidReportIndex map report.id = some field.report → session.Covered field
  subscribed : (∃ i < session.index, ∃ report, m.reports[i]? = some report ∧
    Session.Useful map report = true) → session.subscribed ≠ 0
  axes : ∀ b, session.coveredAxes.getLsbD b = true → b < 4

/-- What the client knows on its way, when the procedure in progress has been called back `n`
times. -/
inductive Phase (c : Conn) (s : State) (n : ℕ) : Prop
  | service (hs : Due s .service)
  | serviceAsked (hs : Asks s c .service (.discover .primary 1 0xffff)) (hn : n = 0)
  | characteristics (hs : Due s .characteristics) (h : m.Charts s.session [])
  | characteristicsAsked {start stop : Handle}
      (hs : Asks s c .characteristics (.discover .characteristic start stop))
      (hn : n ≤ m.chars.length) (h : m.Charts s.session (m.chars.take n))
  | descriptors (hs : Due s .descriptors) (h : m.Charts s.session m.chars)
  | descriptorsAsked {start stop : Handle}
      (hs : Asks s c .descriptors (.discover .descriptor start stop)) (hn : n ≤ m.attrs.length)
      (hmap : s.session.mapHandle = m.mapHandle)
      (h : s.session.reports = (surveyedReports m.service.endHandle m.chars).map fun report =>
        (m.attrs.take n).foldl (fun report attr => Session.describe attr report) report)
  | reportMap (hs : Due s .reportMap) (hmap : s.session.mapHandle = m.mapHandle)
      (h : s.session.reports = m.described) (hdata : s.session.mapData = [])
  | reportMapAsked (hs : Asks s c .reportMap (.read m.mapHandle))
      (hn : n ≤ (m.value m.mapHandle).length) (h : s.session.reports = m.described)
      (hdata : s.session.mapData = ((m.value m.mapHandle).take n).flatten)
  | references (hs : Due s .reportReferences) (h : m.Refers s.session)
      (hmap : s.session.map = map ∨ s.session.map = {} ∧ s.session.mapData = m.mapBytes)
  | referencesAsked {report : ReportCharacteristic}
      (hs : Asks s c .reportReferences (.read report.reference))
      (hn : n ≤ (m.value report.reference).length)
      (hreport : m.described[s.session.index]? = some report) (hne : report.reference ≠ 0)
      (h : m.Refers s.session) (hmap : s.session.map = map)
      (hdata : s.session.referenceData = ((m.value report.reference).take n).flatten)
  | protocol (hs : Due s .protocol) (h : m.Tally map s.session) (hindex : s.session.index = 0)
  | protocolAsked {handle : Handle} {value : ℕ} (hs : Asks s c .protocol (.write handle value))
      (hn : n = 0) (h : m.Tally map s.session) (hindex : s.session.index = 0)
  | subscriptions (hs : Due s .subscriptions) (h : m.Tally map s.session)
  | subscriptionsAsked {value ccc : Handle} {report : ReportCharacteristic}
      (hs : Asks s c .subscriptions (.subscribe s.session.index value ccc)) (hn : n = 0)
      (hreport : m.reports[s.session.index]? = some report)
      (huseful : Session.Useful map report = true) (h : m.Tally map s.session)

/-! ### What is still to come -/

/-- The callbacks and the items of work for the references of some reports. -/
def referenceEffort (reports : List ReportCharacteristic) : ℕ :=
  (reports.map fun report => (m.value report.reference).length + 2).sum

/-- The same for what comes after the references, and so on. -/
def subscriptionEffort : ℕ := 2 * m.reports.length + 1

def protocolEffort : ℕ := m.subscriptionEffort + 2

def readEffort : ℕ := m.protocolEffort + 1 + m.referenceEffort m.described

def mapEffort : ℕ := m.readEffort + (m.value m.mapHandle).length + 2

def descriptorEffort : ℕ := m.mapEffort + m.attrs.length + 2

def characteristicEffort : ℕ := m.descriptorEffort + m.chars.length + 2

/-- The callbacks and the items of work that a mouse takes. -/
def effort : ℕ := m.characteristicEffort + 2

/-- The work that starts a procedure, its callbacks, of which there have been `n`, and the last
one of them. -/
def procedureLeft (due : Bool) (callbacks n : ℕ) : ℕ :=
  if due then callbacks + 2 else callbacks + 1 - n

/-- The callbacks and the items of work still to come at most, in a stage and at an index of the
reports, when a procedure is due or is in progress. -/
def leftAt (due : Bool) (index n : ℕ) : Stage → ℕ
  | .service => m.characteristicEffort + procedureLeft due 0 n
  | .characteristics => m.descriptorEffort + procedureLeft due m.chars.length n
  | .descriptors => m.mapEffort + procedureLeft due m.attrs.length n
  | .reportMap => m.readEffort + procedureLeft due (m.value m.mapHandle).length n
  | .reportReferences =>
    m.protocolEffort + 1 + if due then m.referenceEffort (m.described.drop index) else
      (((m.described[index]?.map (·.reference)).map m.value).getD []).length + 1 - n +
        m.referenceEffort (m.described.drop (index + 1))
  | .protocol => m.subscriptionEffort + procedureLeft due 0 n
  | .subscriptions => 2 * (m.reports.length - index) + if due then 1 else 0
  | _ => 0

/-- The callbacks and the items of work still to come at most. -/
def left (s : State) (n : ℕ) : ℕ :=
  m.leftAt s.host.attempt.requests.isEmpty s.session.index n s.stage

variable {m map} {c : Conn} {s s' : State} {n n' : ℕ}

lemma left_due {stage : Stage} (h : Due s stage) (n : ℕ) :
    m.left s n = m.leftAt true s.session.index n stage := by
  unfold left
  rw [h.stage, h.requests]
  rfl

lemma left_asks {stage : Stage} {r : Request} (h : Asks s c stage r) (n : ℕ) :
    m.left s n = m.leftAt false s.session.index n stage := by
  unfold left
  rw [h.stage, h.requests]
  rfl

/-- A procedure that is started is no longer due. -/
lemma procedureLeft_starts (callbacks n : ℕ) :
    procedureLeft false callbacks 0 < procedureLeft true callbacks n := by
  simp [procedureLeft]

/-- The report map declares the controls that the client asks for. -/
lemma Conforms.controls (hm : m.Conforms map) :
    map.buttons = 0x1f ∧ map.wheel = true ∧ map.pan = true := by
  obtain ⟨items, -, -, hsummary, hseparated⟩ := parsed_map_layout hm.parses
  refine ⟨BitVec.eq_of_getLsbD_eq fun b hb => ?_, ?_, ?_⟩
  · have hlow : (0x1f : BitVec 8).getLsbD b = true ↔ b < 5 := by
      interval_cases b <;> decide
    rw [Bool.eq_iff_iff, hlow, hsummary.buttons_iff b hb]
    constructor
    · rintro ⟨field, hfield, -, rfl⟩
      exact Nat.lt_succ_of_le (hseparated.button_le field hfield)
    · intro hlt
      obtain ⟨i, report, -, -, -, k, -, field, hfield, -, hkind⟩ := hm.buttons b hlt
      exact ⟨field, hfield, hkind⟩
  · obtain ⟨i, report, -, -, -, k, -, field, hfield, -, hkind⟩ := hm.axes .wheel (by decide)
    exact hsummary.wheel_iff.2 ⟨field, hfield, hkind⟩
  · obtain ⟨i, report, -, -, -, k, -, field, hfield, -, hkind⟩ := hm.axes .pan (by decide)
    exact hsummary.pan_iff.2 ⟨field, hfield, hkind⟩

/-! ### The references -/

lemma referenceEffort_drop_le (reports : List ReportCharacteristic) {i j : ℕ} (h : i ≤ j) :
    m.referenceEffort (reports.drop j) ≤ m.referenceEffort (reports.drop i) := by
  unfold referenceEffort
  refine List.Sublist.sum_le_sum ?_ fun _ _ => Nat.zero_le _
  exact (List.drop_sublist_drop_left reports h).map _

/-- The effort for the first of some references. -/
lemma referenceEffort_drop {reports : List ReportCharacteristic} {i : ℕ}
    {report : ReportCharacteristic} (h : reports[i]? = some report) :
    m.referenceEffort (reports.drop i) =
      (m.value report.reference).length + 2 + m.referenceEffort (reports.drop (i + 1)) := by
  obtain ⟨hi, rfl⟩ := List.getElem?_eq_some_iff.1 h
  unfold referenceEffort
  rw [List.drop_eq_getElem_cons hi, List.map_cons, List.sum_cons]

/-- Reports without a reference are skipped. -/
lemma Refers.skip {session : Session} (h : m.Refers session) {k : ℕ}
    (hk : k ≤ (m.described.drop session.index).length)
    (hzero : ∀ report ∈ (m.described.drop session.index).take k, report.reference = 0) :
    m.Refers { session with index := session.index + k } := by
  have hle := h.index_le
  rw [List.length_drop] at hk
  refine ⟨by dsimp only; omega, ?_⟩
  have hsame : ((m.described.drop session.index).take k).map m.referred =
      (m.described.drop session.index).take k :=
    (List.map_congr_left fun report hmem => referred_of_zero (hzero report hmem)).trans
      (List.map_id _)
  dsimp only
  rw [h.reports, List.take_add, List.map_append, hsame, List.append_assoc, ← List.drop_drop,
    List.take_append_drop]

lemma modify_append_cons {α : Type*} {l : List α} {i : ℕ} (h : l.length = i) (x : α)
    (rest : List α) (f : α → α) : (l ++ x :: rest).modify i f = l ++ f x :: rest := by
  subst h
  induction l with
  | nil => rfl
  | cons y l ih =>
    rw [List.cons_append, List.length_cons, List.modify_succ_cons, ih, List.cons_append]

/-- A reference has been read. -/
lemma Refers.read {session : Session} (h : m.Refers session) {report : ReportCharacteristic}
    (hreport : m.described[session.index]? = some report) (hne : report.reference ≠ 0)
    {id type : UInt8} (hvalue : (m.value report.reference).flatten = [id, type]) :
    m.Refers { session with
      reports := session.reports.modify session.index fun report =>
        { report with id := id.toNat, type := type.toNat }
      index := session.index + 1 } := by
  obtain ⟨hi, rfl⟩ := List.getElem?_eq_some_iff.1 hreport
  have hreferred : m.referred m.described[session.index] =
      { m.described[session.index] with id := id.toNat, type := type.toNat } := by
    unfold referred
    rw [hvalue]
    exact if_neg hne
  have hlength : ((m.described.take session.index).map m.referred).length = session.index := by
    rw [List.length_map, List.length_take, Nat.min_eq_left hi.le]
  refine ⟨hi, ?_⟩
  dsimp only
  rw [h.reports, List.drop_eq_getElem_cons hi, List.take_succ_eq_append_getElem hi,
    List.map_append, List.map_singleton, hreferred, List.append_assoc, List.singleton_append]
  exact modify_append_cons hlength _ _ _

/-! ### The subscriptions -/

/-- Reports that are not useful are skipped. -/
lemma Tally.skip {session : Session} (h : m.Tally map session) {k : ℕ}
    (hk : k ≤ (m.reports.drop session.index).length)
    (hnot : ∀ report ∈ (m.reports.drop session.index).take k,
      Session.Useful map report = false) :
    m.Tally map { session with index := session.index + k } := by
  rw [List.length_drop] at hk
  have hle := h.index_le
  have hbefore {i : ℕ} (hi : i < session.index + k) {report : ReportCharacteristic}
      (hreport : m.reports[i]? = some report) (huseful : Session.Useful map report = true) :
      i < session.index := by
    by_contra hge
    have hmem : report ∈ (m.reports.drop session.index).take k := by
      refine List.mem_of_getElem? (i := i - session.index) ?_
      rw [List.getElem?_take_of_lt (by omega), List.getElem?_drop,
        Nat.add_sub_cancel' (Nat.le_of_not_lt hge)]
      exact hreport
    exact Bool.false_ne_true ((hnot report hmem).symm.trans huseful)
  exact
    { h with
      index_le := by dsimp only; omega
      covered := fun i hi report hreport huseful =>
        h.covered i (hbefore hi hreport huseful) report hreport huseful
      subscribed := fun ⟨i, hi, report, hreport, huseful⟩ =>
        h.subscribed ⟨i, hbefore hi hreport huseful, report, hreport, huseful⟩ }

/-- A control that is carried by some report has been covered in the end. -/
lemma Tally.carried {session : Session} (h : m.Tally map session) (hm : m.Conforms map)
    (hend : session.index = m.reports.length) {i : ℕ} {kind : MouseHidField → Prop}
    (hcarries : ({ reports := m.reports, map } : Session).Carries i kind) :
    session.subscribed ≠ 0 ∧ ∃ field ∈ map.fields, kind field ∧ session.Covered field := by
  obtain ⟨report, hreport, htype, -, k, hk, field, hfield, rfl, hkind⟩ := hcarries
  obtain ⟨-, -, -, hsummary, -⟩ := parsed_map_layout hm.parses
  have hi : i < session.index := hend ▸ (List.getElem?_eq_some_iff.1 hreport).1
  have huseful : Session.Useful map report = true := by
    obtain ⟨r, hr⟩ : ∃ r, map.reports[field.report]? = some r :=
      ⟨_, List.getElem?_eq_getElem (hsummary.report_lt field hfield)⟩
    unfold Session.Useful
    dsimp only at hk
    rw [htype, hk]
    simp only [decide_true, Bool.true_and, hr, Option.map_some, Option.getD_some]
    exact (hsummary.useful_iff _ r hr).2 ⟨field, hfield, rfl⟩
  exact ⟨h.subscribed ⟨i, hi, report, hreport, huseful⟩, field, hfield, hkind,
    h.covered i hi report hreport huseful field hfield hk⟩

/-- When every useful report has been subscribed to, every control is covered. -/
lemma Tally.complete {session : Session} (h : m.Tally map session) (hm : m.Conforms map)
    (hend : session.index = m.reports.length) {subscribed : List ℕ}
    (hcovers : session.Covers subscribed) : session.Complete ∧ session.subscribed ≠ 0 := by
  obtain ⟨-, -, -, -, hseparated⟩ := parsed_map_layout hm.parses
  have hbutton : ∀ b < 8, (session.coveredButtons.getLsbD b = true ↔ b < 5) := by
    intro b hb
    constructor
    · intro hcovered
      obtain ⟨i, -, report, -, -, -, k, -, field, hfield, -, -, rfl⟩ :=
        hcovers.buttons b hcovered
      rw [h.parsed] at hfield
      exact Nat.lt_succ_of_le (hseparated.button_le field hfield)
    · intro hlt
      obtain ⟨i, hcarries⟩ := hm.buttons b hlt
      obtain ⟨-, field, -, ⟨husage, rfl⟩, hcovered⟩ := h.carried hm hend hcarries
      unfold Session.Covered at hcovered
      rwa [husage] at hcovered
  have haxis : ∀ axis, axis ≠ .button → session.coveredAxes.getLsbD (axisBit axis) = true := by
    intro axis hne
    obtain ⟨i, hcarries⟩ := hm.axes axis hne
    obtain ⟨-, field, -, rfl, hcovered⟩ := h.carried hm hend hcarries
    unfold Session.Covered at hcovered
    split at hcovered
    case h_1 husage => exact absurd husage hne
    case h_2 => exact hcovered
  refine ⟨⟨BitVec.eq_of_getLsbD_eq fun b hb => ?_, BitVec.eq_of_getLsbD_eq fun b hb => ?_⟩, ?_⟩
  · rw [Bool.eq_iff_iff, hbutton b hb]
    interval_cases b <;> decide
  · rw [Bool.eq_iff_iff]
    have hlow : (0x0f : BitVec 8).getLsbD b = true ↔ b < 4 := by
      interval_cases b <;> decide
    rw [hlow]
    refine ⟨h.axes b, fun hlt => ?_⟩
    interval_cases b
    · exact haxis .x MouseHidUsage.noConfusion
    · exact haxis .y MouseHidUsage.noConfusion
    · exact haxis .wheel MouseHidUsage.noConfusion
    · exact haxis .pan MouseHidUsage.noConfusion
  · obtain ⟨i, hcarries⟩ := hm.buttons 0 (by decide)
    exact (h.carried hm hend hcarries).1

/-- The conversation has come nearer to its end. -/
def Nears (m : Mouse) (map : MouseHidMap) (c : Conn) (s : State) (n : ℕ) (s' : State) (n' : ℕ) :
    Prop :=
  Onward s s' ∧ m.Phase map c s' n' ∧ m.left s' n' < m.left s n

end Mouse

end BleMouse.Client
