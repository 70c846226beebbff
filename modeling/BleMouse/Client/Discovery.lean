/-
A mouse that conforms becomes ready.

Every item of discovery work and every callback leads the conversation from one phase to another,
nearer to its end (`Mouse.Nears`).

* `Mouse.Phase.turn`, `Mouse.Phase.callback`: what `discovery_work` and a callback do in a phase;
* `conforming_mouse_becomes_ready`: the main result.
-/
import BleMouse.Client.GattSafety
import BleMouse.Client.Phases
import BleMouse.Client.Retention

namespace BleMouse.Client

open BleMouse.Hid BleMouse.Output

namespace Mouse

variable {m : Mouse} {map : MouseHidMap} {c : Conn} {s s' : State} {n n' : ℕ}

/-! ### The work -/

/-- The worker takes `discovery_work`. -/
structure Turns (s : State) (c : Conn) (a : Answers) (rest : List Work) : Prop where
  talking : Talking s c
  initialized : s.initialized = true
  queue : s.work.queue = .discovery :: rest
  accept : a.Accept

lemma Turns.work {a : Answers} {rest : List Work} (h : Turns s c a rest) :
    Talking (s.take .discovery rest) c ∧ Onward s (s.take .discovery rest) ∧
      (s.take .discovery rest).host.attempt.requests = s.host.attempt.requests := by
  have hhost : (s.take .discovery rest).host = s.host.record (.ran .discovery) :=
    State.host_observe _ _
  refine ⟨(Onward.take h.queue).talking h.talking, Onward.take h.queue, ?_⟩
  rw [hhost]
  rfl

lemma Turns.cb {a : Answers} {rest : List Work} (h : Turns s c a rest) {stage : Stage}
    (hdue : Due s stage) (hopen : stage ≠ .closing) :
    (s.take .discovery rest).discoveryWorkCb a =
      ({ s.take .discovery rest with session := s.session } : State).procedure c a stage := by
  have hstage : (s.take .discovery rest).stage = stage := hdue.stage
  have hgo : ¬((s.take .discovery rest).failure ≠ 0 ∨
      (s.take .discovery rest).stage = .closing) :=
    not_or.2 ⟨not_not.2 h.work.1.failure, hstage ▸ hopen⟩
  have hcb : (s.take .discovery rest).discoveryWorkCb a =
      (s.take .discovery rest).procedure c a stage := by
    unfold State.discoveryWorkCb
    rw [h.work.1.conn]
    dsimp only
    rw [if_neg hgo, hstage]
    cases stage <;> rfl
  exact hcb

namespace Phase

variable {a : Answers} {rest : List Work}

/-- A procedure starts as soon as it is due. -/
lemma starts (h : Turns s c a rest) {stage : Stage} (hdue : Due s stage) (session : Session)
    (r : Request) :
    Onward s (({ s.take .discovery rest with session } : State).startRequest c r a.gatt) ∧
      Asks (({ s.take .discovery rest with session } : State).startRequest c r a.gatt) c stage r ∧
      (({ s.take .discovery rest with session } : State).startRequest c r a.gatt).session =
        session := by
  obtain ⟨-, honward, hrequests⟩ := h.work
  have hsession : Onward s { s.take .discovery rest with session } := { honward with }
  have hnone : ({ s.take .discovery rest with session } : State).host.attempt.requests = [] :=
    hrequests.trans hdue.requests
  have hasks := asks_of_start hnone c r
  rw [h.accept.1]
  exact ⟨hsession.startRequest c r, ⟨hasks.stage.trans hdue.stage, hasks.requests⟩, rfl⟩

/-- The client goes on without a procedure. -/
lemma goesOn (h : Turns s c a rest) {stage : Stage} (hdue : Due s stage) (session : Session)
    (next : Stage) :
    Onward s (({ s.take .discovery rest with session } : State).nextStage next) ∧
      Due (({ s.take .discovery rest with session } : State).nextStage next) next := by
  obtain ⟨-, honward, hrequests⟩ := h.work
  have hsession : Onward s { s.take .discovery rest with session } := { honward with }
  have hnone : ({ s.take .discovery rest with session } : State).host.attempt.requests = [] :=
    hrequests.trans hdue.requests
  have hinit : ({ s.take .discovery rest with session } : State).initialized = true :=
    h.initialized
  exact ⟨hsession.nextStage next, due_of_nextStage hinit hnone next⟩

lemma turn_service (h : Turns s c a rest) (hdue : Due s .service) :
    m.Nears map c s n ((s.take .discovery rest).discoveryWorkCb a) 0 := by
  obtain ⟨honward, hasks, -⟩ := starts h hdue s.session (.discover .primary 1 0xffff)
  rw [h.cb hdue Stage.noConfusion, State.procedure]
  refine ⟨honward, .serviceAsked hasks rfl, ?_⟩
  rw [left_asks hasks, left_due hdue]
  exact Nat.add_lt_add_left (procedureLeft_starts _ _) _

lemma turn_characteristics (h : Turns s c a rest) (hdue : Due s .characteristics)
    (hcharts : m.Charts s.session []) :
    m.Nears map c s n ((s.take .discovery rest).discoveryWorkCb a) 0 := by
  obtain ⟨honward, hasks, hsession⟩ := starts h hdue s.session
    (.discover .characteristic s.session.serviceStart s.session.serviceEnd)
  rw [h.cb hdue Stage.noConfusion, State.procedure]
  refine ⟨honward, .characteristicsAsked hasks (Nat.zero_le _) ?_, ?_⟩
  · rw [hsession]
    exact hcharts
  · rw [left_asks hasks, left_due hdue]
    exact Nat.add_lt_add_left (procedureLeft_starts _ _) _

lemma turn_descriptors (h : Turns s c a rest) (hdue : Due s .descriptors)
    (hcharts : m.Charts s.session m.chars) :
    m.Nears map c s n ((s.take .discovery rest).discoveryWorkCb a) 0 := by
  obtain ⟨honward, hasks, hsession⟩ := starts h hdue s.session
    (.discover .descriptor s.session.serviceStart s.session.serviceEnd)
  rw [h.cb hdue Stage.noConfusion, State.procedure]
  refine ⟨honward, .descriptorsAsked hasks (Nat.zero_le _) ?_ ?_, ?_⟩
  · rw [hsession]
    exact hcharts.mapHandle
  · rw [hsession, hcharts.reports]
    exact (List.map_id _).symm
  · rw [left_asks hasks, left_due hdue]
    exact Nat.add_lt_add_left (procedureLeft_starts _ _) _

lemma turn_reportMap (h : Turns s c a rest) (hdue : Due s .reportMap)
    (hmap : s.session.mapHandle = m.mapHandle) (hreports : s.session.reports = m.described)
    (hdata : s.session.mapData = []) :
    m.Nears map c s n ((s.take .discovery rest).discoveryWorkCb a) 0 := by
  obtain ⟨honward, hasks, hsession⟩ := starts h hdue s.session (.read m.mapHandle)
  rw [h.cb hdue Stage.noConfusion, State.procedure, hmap]
  refine ⟨honward, .reportMapAsked hasks (Nat.zero_le _) ?_ ?_, ?_⟩
  · rw [hsession]
    exact hreports
  · rw [hsession]
    exact hdata
  · rw [left_asks hasks, left_due hdue]
    exact Nat.add_lt_add_left (procedureLeft_starts _ _) _

/-- The report map is parsed when it has not been parsed yet. -/
lemma readReferences_eq (hm : m.Conforms map) {t : State}
    (hmap : t.session.map = map ∨ t.session.map = {} ∧ t.session.mapData = m.mapBytes) :
    t.readReferences c a =
      ({ t with session := { t.session with map } } : State).readNextReference c a := by
  have hne : map.reports ≠ [] := Surveyed.reports_ne_nil hm.parses
  obtain ⟨hbuttons, hwheel, hpan⟩ := hm.controls
  unfold State.readReferences
  rcases hmap with hmap | ⟨hempty, hdata⟩
  · rw [if_neg (by rwa [hmap])]
    congr
    rw [← hmap]
  · rw [if_pos (by rw [hempty]), hdata, hm.parses]
    dsimp only
    rw [if_neg]
    rintro (h | h | h)
    · exact h hbuttons
    · exact h hwheel
    · exact h hpan

lemma turn_references (hm : m.Conforms map) (h : Turns s c a rest) (hdue : Due s .reportReferences)
    (hrefers : m.Refers s.session)
    (hmap : s.session.map = map ∨ s.session.map = {} ∧ s.session.mapData = m.mapBytes)
    (haxes : s.session.coveredAxes = 0) :
    m.Nears map c s n ((s.take .discovery rest).discoveryWorkCb a) 0 := by
  obtain ⟨-, honward, hrequests⟩ := h.work
  obtain ⟨k, hk, hfirst, hzero, hat⟩ :=
    firstReference_spec (m.described.drop s.session.index) s.session.index
  have hskip := hrefers.skip hk hzero
  have hdrop : s.session.reports.drop s.session.index = m.described.drop s.session.index := by
    rw [hrefers.reports, List.drop_left']
    rw [List.length_map, List.length_take, Nat.min_eq_left hrefers.index_le]
  have hlength : s.session.reports.length = m.described.length := by
    have hle := hrefers.index_le
    rw [hrefers.reports, List.length_append, List.length_map, List.length_take, List.length_drop]
    omega
  rw [List.length_drop] at hk
  rw [h.cb hdue Stage.noConfusion, State.procedure,
    readReferences_eq (t := { s.take .discovery rest with session := s.session }) hm hmap]
  unfold State.readNextReference
  dsimp only
  rw [hdrop, hfirst, hlength]
  split
  case isTrue hend =>
    obtain ⟨honward, hdue'⟩ := goesOn h hdue { s.session with map, index := 0 } .protocol
    refine ⟨honward, .protocol hdue' ⟨?_, rfl, Nat.zero_le _, fun _ hi => ?_, ?_, ?_⟩ rfl, ?_⟩
    · have hreports := hskip.reports
      dsimp only at hreports
      rw [hend, List.take_length, List.drop_length, List.append_nil] at hreports
      exact hreports
    · exact absurd hi (Nat.not_lt_zero _)
    · rintro ⟨_, hi, -⟩
      exact absurd hi (Nat.not_lt_zero _)
    · intro b hb
      exact absurd (haxes ▸ hb) (by simp)
    · rw [left_due hdue', left_due hdue]
      exact Nat.lt_add_right _ (Nat.lt_succ_self m.protocolEffort)
  case isFalse hnot =>
    have hlt : s.session.index + k < m.described.length :=
      lt_of_le_of_ne hskip.index_le hnot
    obtain ⟨report, hreport⟩ : ∃ report, m.described[s.session.index + k]? = some report :=
      ⟨_, List.getElem?_eq_getElem hlt⟩
    have hsame : s.session.reports[s.session.index + k]? = some report := by
      rw [← hreport]
      have hreports := hskip.reports
      dsimp only at hreports
      rw [hreports, List.getElem?_append_right, List.length_map, List.length_take,
        Nat.min_eq_left hlt.le, Nat.sub_self, List.getElem?_drop, Nat.add_zero]
      rw [List.length_map, List.length_take, Nat.min_eq_left hlt.le]
    obtain ⟨honward, hasks, hsession⟩ := starts h hdue
      { s.session with map, index := s.session.index + k, referenceData := [] }
      (.read report.reference)
    rw [hsame]
    show m.Nears map c s n (({ s.take .discovery rest with session := { s.session with
      map, index := s.session.index + k, referenceData := [] } } : State).startRequest c
        (.read report.reference) a.gatt) 0
    refine ⟨honward, .referencesAsked hasks (Nat.zero_le _) ?_ ?_ ?_ ?_ ?_, ?_⟩
    · rw [hsession]
      exact hreport
    · refine hat report ?_
      rwa [List.getElem?_drop]
    · rw [hsession]
      exact { hskip with }
    · rw [hsession]
    · rw [hsession]
      rfl
    · rw [left_asks hasks, left_due hdue, hsession]
      have hdrop := referenceEffort_drop (m := m) hreport
      have hle := referenceEffort_drop_le (m := m) m.described
        (Nat.le_add_right s.session.index k)
      simp only [leftAt, hreport, Option.map_some, Option.getD_some, if_true, Bool.false_eq_true,
        if_false]
      omega

/-- The protocol is written, or was selected already. -/
lemma nears_setProtocol (ha : a.Accept) (hdue : Due s .protocol) {t : State}
    (honward : Onward s t) (hinit : t.initialized = true) (hstage : t.stage = .protocol)
    (hnone : t.host.attempt.requests = []) (htally : m.Tally map t.session)
    (hindex : t.session.index = 0) : m.Nears map c s n (t.setProtocol c a) 0 := by
  have hnext {t' : State} (honward : Onward s t') (hinit : t'.initialized = true)
      (hnone : t'.host.attempt.requests = []) (htally : m.Tally map t'.session)
      (hindex : t'.session.index = 0) : m.Nears map c s n (t'.nextStage .subscriptions) 0 := by
    have hdue' := due_of_nextStage hinit hnone .subscriptions
    refine ⟨honward.nextStage _, .subscriptions hdue' htally, ?_⟩
    rw [left_due hdue', left_due hdue, show (t'.nextStage .subscriptions).session.index = 0 from
      hindex]
    simp [leftAt, subscriptionEffort, procedureLeft]
  unfold State.setProtocol
  rw [ha.1, ha.2.2.1]
  split
  · exact hnext honward hinit hnone htally hindex
  split
  · rw [if_neg (not_not.2 rfl)]
    exact hnext (honward.observe _ rfl) hinit (by rw [State.host_observe]; exact hnone) htally
      hindex
  · have hasks := asks_of_start hnone c (.write t.session.protocolHandle t.session.protocol)
    rw [hstage] at hasks
    refine ⟨honward.startRequest c _, .protocolAsked hasks rfl htally hindex, ?_⟩
    rw [left_asks hasks, left_due hdue]
    exact Nat.add_lt_add_left (procedureLeft_starts _ _) _

lemma turn_protocol (h : Turns s c a rest) (hdue : Due s .protocol)
    (htally : m.Tally map s.session) (hindex : s.session.index = 0) :
    m.Nears map c s n ((s.take .discovery rest).discoveryWorkCb a) 0 := by
  obtain ⟨-, honward, hrequests⟩ := h.work
  have hset : Onward s { s.take .discovery rest with session := { s.session with
    protocol := 1 } } := { honward with }
  have htally' : m.Tally map { s.session with protocol := 1 } := { htally with }
  rw [h.cb hdue Stage.noConfusion, State.procedure]
  unfold State.selectProtocol
  dsimp only
  rw [h.accept.2.1]
  split
  · rw [if_neg (not_not.2 rfl)]
    exact nears_setProtocol h.accept hdue (hset.observe _ rfl) h.initialized hdue.stage
      (by rw [State.host_observe]; exact hrequests.trans hdue.requests) htally' hindex
  · exact nears_setProtocol h.accept hdue hset h.initialized hdue.stage
      (hrequests.trans hdue.requests) htally' hindex

/-- There is no report left to subscribe to, and the client is ready. -/
lemma ready_finishReady (hm : m.Conforms map) (ha : a.Accept) {t : State} (ht : Talking t c)
    (htally : m.Tally map t.session) (hend : t.session.index = m.reports.length)
    {subscribed : List ℕ} (hcovers : t.session.Covers subscribed) :
    (t.finishReady c a).stage = .ready ∧ (t.finishReady c a).mouseConn = some c := by
  obtain ⟨hcomplete, hsome⟩ := htally.complete hm hend hcovers
  unfold State.finishReady
  rw [if_neg]
  · split
    case isTrue hnew =>
      have hbonded : t.isBonded c.dst = true := decide_eq_true (ht.candidate hnew).2
      rw [hbonded, ha.2.2.2]
      exact ⟨rfl, ht.conn⟩
    case isFalse => exact ⟨rfl, ht.conn⟩
  · rintro (hzero | hbuttons | haxes | ⟨hnew, hbonded⟩)
    · exact hsome hzero
    · exact hbuttons hcomplete.buttons
    · exact haxes hcomplete.axes
    · exact hbonded (ht.candidate hnew).1

lemma turn_subscriptions (hm : m.Conforms map) (h : Turns s c a rest)
    (hdue : Due s .subscriptions) (htally : m.Tally map s.session) {subscribed : List ℕ}
    (hcovers : s.session.Covers subscribed) :
    ((s.take .discovery rest).discoveryWorkCb a).stage = .ready ∧
        ((s.take .discovery rest).discoveryWorkCb a).mouseConn = some c ∨
      m.Nears map c s n ((s.take .discovery rest).discoveryWorkCb a) 0 := by
  obtain ⟨k, hk, hfirst, hnot, hat⟩ :=
    firstUseful_spec map (m.reports.drop s.session.index) s.session.index
  have hskip := htally.skip hk hnot
  have hindex : Session.firstUseful s.session.map (s.session.reports.drop s.session.index)
      s.session.index = s.session.index + k := by
    rw [htally.parsed, htally.reports, hfirst]
  rw [h.cb hdue Stage.noConfusion, State.procedure]
  unfold State.subscribeNext
  dsimp only
  rw [hindex]
  split
  case h_1 report hreport =>
    rw [htally.reports] at hreport
    have huseful : Session.Useful map report = true := by
      refine hat report ?_
      rwa [List.getElem?_drop]
    have hccc := hm.configured report (List.mem_of_getElem? hreport) huseful
    have hlt : s.session.index + k < m.reports.length := (List.getElem?_eq_some_iff.1 hreport).1
    obtain ⟨honward, hasks, hsession⟩ := starts h hdue
      { s.session with index := s.session.index + k }
      (.subscribe (s.session.index + k) report.handle report.ccc)
    rw [if_neg hccc]
    refine .inr ⟨honward, @subscriptionsAsked m map c _ 0 report.handle report.ccc report ?_ rfl
      ?_ huseful ?_, ?_⟩
    · rw [hsession]
      exact hasks
    · rw [hsession]
      exact hreport
    · rw [hsession]
      exact hskip
    · rw [left_asks hasks, left_due hdue, hsession]
      simp only [leftAt, if_true, Bool.false_eq_true, if_false]
      omega
  case h_2 hnone =>
    have hend : s.session.index + k = m.reports.length := by
      rw [htally.reports] at hnone
      exact le_antisymm hskip.index_le (List.getElem?_eq_none_iff.1 hnone)
    have hcovers' : Session.Covers { s.session with index := s.session.index + k } subscribed :=
      ⟨hcovers.buttons, hcovers.axes⟩
    rw [if_pos (hend.trans (congrArg List.length htally.reports).symm)]
    exact .inl (ready_finishReady hm h.accept { h.work.1 with } hskip hend hcovers')

/-- The worker runs `discovery_work`: the client is ready, or the conversation comes nearer to its
end. -/
lemma turn (hm : m.Conforms map) (hsurveyed : Surveyed s) (h : Turns s c a rest)
    (hnone : s.host.attempt.requests = []) (hphase : m.Phase map c s n) :
    ((s.take .discovery rest).discoveryWorkCb a).stage = .ready ∧
        ((s.take .discovery rest).discoveryWorkCb a).mouseConn = some c ∨
      m.Nears map c s n ((s.take .discovery rest).discoveryWorkCb a) 0 := by
  have hengaged : s.Engaged := .inl (h.talking.conn ▸ Option.some_ne_none c)
  have hfits := hsurveyed.fits hengaged
  have hidle {stage : Stage} {r : Request} (hasks : Asks s c stage r) : False :=
    List.cons_ne_nil _ _ (hasks.requests.symm.trans hnone)
  cases hphase with
  | service hdue => exact .inr (turn_service h hdue)
  | characteristics hdue hcharts => exact .inr (turn_characteristics h hdue hcharts)
  | descriptors hdue hcharts => exact .inr (turn_descriptors h hdue hcharts)
  | reportMap hdue hmap hreports hdata => exact .inr (turn_reportMap h hdue hmap hreports hdata)
  | references hdue hrefers hmap =>
    have haxes : s.session.coveredAxes = 0 := by
      refine (hfits.uncovered ?_).2.2.1
      rw [hdue.stage]
      decide
    exact .inr (turn_references hm h hdue hrefers hmap haxes)
  | protocol hdue htally hindex => exact .inr (turn_protocol h hdue htally hindex)
  | subscriptions hdue htally => exact turn_subscriptions hm h hdue htally hfits.covers
  | serviceAsked hasks | characteristicsAsked hasks | descriptorsAsked hasks
  | reportMapAsked hasks | referencesAsked hasks | protocolAsked hasks
  | subscriptionsAsked hasks => exact (hidle hasks).elim

/-! ### The callbacks -/

variable {maxPaired : ℕ} {l : Label}

/-- The procedure in progress is called back `n` times before. -/
lemma fragment {α : Type*} {xs : List α} {f : Option α → Label} (hn : n ≤ xs.length)
    (hl : ((xs.map some ++ [none]).map f)[n]? = some l) :
    (∃ x, xs[n]? = some x ∧ l = f (some x)) ∨ n = xs.length ∧ l = f none := by
  rcases hn.lt_or_eq with hlt | rfl
  · left
    refine ⟨xs[n], List.getElem?_eq_getElem hlt, ?_⟩
    rw [List.getElem?_map, List.getElem?_append_left (by rwa [List.length_map]),
      List.getElem?_map, List.getElem?_eq_getElem hlt] at hl
    exact (Option.some.inj hl).symm
  · right
    refine ⟨rfl, ?_⟩
    rw [List.getElem?_map, List.getElem?_append_right (by rw [List.length_map]),
      List.length_map, Nat.sub_self] at hl
    exact (Option.some.inj hl).symm

/-- The callbacks of the connection are heard. -/
lemma valid (ht : Talking s c) {stage : Stage} {r : Request} (hasks : Asks s c stage r)
    (hopen : stage ≠ .closing) : s.validCallback c = true :=
  State.validCallback_iff.2 ⟨ht.conn, ht.failure, hasks.stage ▸ hopen⟩

/-- A procedure goes on, and the client has learned something. -/
lemma learns {stage : Stage} {r : Request} (hasks : Asks s c stage r) (session : Session) :
    Onward s { s with session } ∧ Asks { s with session } c stage r :=
  ⟨{ Onward.refl s with }, hasks.stage, hasks.requests⟩

/-- A procedure ends, and the client goes on to the next stage. -/
lemma ends (hinit : s.initialized = true) {stage : Stage} {r : Request}
    (hasks : Asks s c stage r) (session : Session) (next : Stage) :
    Onward s ((({ s with session } : State).nextStage next).observe (.done c r 0)) ∧
      Due ((({ s with session } : State).nextStage next).observe (.done c r 0)) next := by
  obtain ⟨honward, hasks'⟩ := learns hasks session
  have hinit' : ({ s with session } : State).initialized = true := hinit
  exact ⟨(honward.nextStage next).observe _ rfl, due_of_done hinit' hasks'.requests next 0⟩

/-- A procedure ends, and the client goes on in the same stage. -/
lemma resumes (hinit : s.initialized = true) {stage : Stage} {r : Request}
    (hasks : Asks s c stage r) (session : Session) :
    Onward s ((({ s with session } : State).submit .discovery).observe (.done c r 0)) ∧
      Due ((({ s with session } : State).submit .discovery).observe (.done c r 0)) stage := by
  obtain ⟨honward, hasks'⟩ := learns hasks session
  have hinit' : ({ s with session } : State).initialized = true := hinit
  have hdue := due_of_resume hinit' hasks'.requests 0
  exact ⟨honward.resume.observe _ rfl, ⟨hdue.stage.trans hasks.stage, hdue.requests, hdue.queued⟩⟩

lemma callback_service (ht : Talking s c) (hinit : s.initialized = true)
    (hasks : Asks s c .service (.discover .primary 1 0xffff)) (hblank : s.session = {})
    (hmoves : Moves maxPaired s (.discovered c .primary 1 0xffff (some m.service)) s') :
    m.Nears map c s 0 s' 1 := by
  have hcb : s.discoverCb c (some m.service) =
      (({ s with session := m.found } : State).nextStage .characteristics, false) := by
    have hstage := hasks.stage
    unfold State.discoverCb
    rw [valid ht hasks Stage.noConfusion, hstage, hblank]
    rfl
  obtain ⟨honward, hdue⟩ := ends hinit hasks m.found .characteristics
  cases hmoves
  rw [hcb]
  show m.Nears map c s 0 ((({ s with session := m.found } : State).nextStage
    .characteristics).observe (.done c (.discover .primary 1 0xffff) 0)) 1
  refine ⟨honward, .characteristics hdue ⟨rfl, rfl, rfl, rfl⟩, ?_⟩
  rw [left_asks hasks, left_due hdue]
  simp only [leftAt, characteristicEffort, procedureLeft, if_true, Bool.false_eq_true, if_false]
  omega

lemma discoverCb_none (hvalid : s.validCallback c = true) :
    s.discoverCb c none = (s.discoverEnd, false) := by
  unfold State.discoverCb
  rw [hvalid]
  rfl

lemma callback_characteristics (hm : m.Conforms map) (ht : Talking s c)
    (hinit : s.initialized = true) {start stop : Handle}
    (hasks : Asks s c .characteristics (.discover .characteristic start stop))
    (hn : n ≤ m.chars.length) (hcharts : m.Charts s.session (m.chars.take n))
    (hl : (m.callbacks c (.discover .characteristic start stop))[n]? = some l)
    (hmoves : Moves maxPaired s l s') : m.Nears map c s n s' (n + 1) := by
  have hvalid := valid ht hasks Stage.noConfusion
  have hstage := hasks.stage
  rcases fragment hn hl with ⟨attr, hattr, rfl⟩ | ⟨rfl, rfl⟩
  · obtain ⟨hlt, rfl⟩ := List.getElem?_eq_some_iff.1 hattr
    have htake : m.chars.take n ++ [m.chars[n]] = m.chars.take (n + 1) :=
      (List.take_succ_eq_append_getElem hlt).symm
    have hdeclared : Declared m.found (m.chars.take n ++ [m.chars[n]]) := by
      rw [htake]
      exact declared_take hm.declared (n + 1)
    obtain ⟨session, hdiscover, hcharts'⟩ := hcharts.discover hdeclared
    rw [htake] at hcharts'
    have hcb : s.discoverCb c (some m.chars[n]) = s.discoverCharacteristic m.chars[n] := by
      unfold State.discoverCb
      rw [hvalid, hstage]
      rfl
    obtain ⟨honward, hasks'⟩ := learns hasks session
    cases hmoves
    rw [hcb, hdiscover]
    show m.Nears map c s n ({ s with session } : State) (n + 1)
    refine ⟨honward, .characteristicsAsked hasks' hlt hcharts', ?_⟩
    rw [left_asks hasks, left_asks hasks']
    simp only [leftAt, procedureLeft, Bool.false_eq_true, if_false]
    omega
  · rw [List.take_length] at hcharts
    have hsome : ¬(s.session.mapHandle = 0 ∨ s.session.reports = []) := by
      rw [hcharts.mapHandle, hcharts.reports, surveyedReports, List.map_eq_nil_iff, not_or]
      exact ⟨hm.mapped, hm.reporting⟩
    have hend : s.discoverEnd = s.nextStage .descriptors := by
      unfold State.discoverEnd
      rw [hstage]
      exact if_neg hsome
    obtain ⟨honward, hdue⟩ := ends hinit hasks s.session .descriptors
    cases hmoves
    rw [discoverCb_none hvalid, hend]
    show m.Nears map c s _ ((({ s with session := s.session } : State).nextStage
      .descriptors).observe (.done c (.discover .characteristic start stop) 0)) _
    refine ⟨honward, .descriptors hdue hcharts, ?_⟩
    rw [left_asks hasks, left_due hdue]
    simp only [leftAt, descriptorEffort, procedureLeft, if_true, Bool.false_eq_true, if_false]
    omega

lemma callback_descriptors (hm : m.Conforms map) (ht : Talking s c)
    (hinit : s.initialized = true) {start stop : Handle}
    (hasks : Asks s c .descriptors (.discover .descriptor start stop))
    (hn : n ≤ m.attrs.length) (hmap : s.session.mapHandle = m.mapHandle)
    (hreports : s.session.reports = (surveyedReports m.service.endHandle m.chars).map fun report =>
      (m.attrs.take n).foldl (fun report attr => Session.describe attr report) report)
    (hdata : s.session.mapData = [])
    (hl : (m.callbacks c (.discover .descriptor start stop))[n]? = some l)
    (hmoves : Moves maxPaired s l s') : m.Nears map c s n s' (n + 1) := by
  have hvalid := valid ht hasks Stage.noConfusion
  have hstage := hasks.stage
  rcases fragment hn hl with ⟨attr, hattr, rfl⟩ | ⟨rfl, rfl⟩
  · obtain ⟨hlt, rfl⟩ := List.getElem?_eq_some_iff.1 hattr
    have hcb : s.discoverCb c (some m.attrs[n]) = ({ s with session := { s.session with
        reports := s.session.reports.map (Session.describe m.attrs[n]) } }, true) := by
      unfold State.discoverCb
      rw [hvalid, hstage]
      rfl
    obtain ⟨honward, hasks'⟩ := learns hasks { s.session with
      reports := s.session.reports.map (Session.describe m.attrs[n]) }
    cases hmoves
    rw [hcb]
    show m.Nears map c s n ({ s with session := { s.session with
      reports := s.session.reports.map (Session.describe m.attrs[n]) } } : State) (n + 1)
    refine ⟨honward, .descriptorsAsked hasks' hlt hmap ?_, ?_⟩
    · dsimp only
      rw [hreports, List.map_map, List.take_succ_eq_append_getElem hlt]
      simp only [List.foldl_append, List.foldl_cons, List.foldl_nil, Function.comp_def]
    · rw [left_asks hasks, left_asks hasks']
      simp only [leftAt, procedureLeft, Bool.false_eq_true, if_false]
      omega
  · rw [List.take_length, described_eq hm.declared] at hreports
    have hend : s.discoverEnd = s.nextStage .reportMap := by
      unfold State.discoverEnd
      rw [hstage]
    obtain ⟨honward, hdue⟩ := ends hinit hasks s.session .reportMap
    cases hmoves
    rw [discoverCb_none hvalid, hend]
    show m.Nears map c s _ ((({ s with session := s.session } : State).nextStage
      .reportMap).observe (.done c (.discover .descriptor start stop) 0)) _
    refine ⟨honward, .reportMap hdue hmap hreports hdata, ?_⟩
    rw [left_asks hasks, left_due hdue]
    simp only [leftAt, mapEffort, procedureLeft, if_true, Bool.false_eq_true, if_false]
    omega

/-- A fragment of a value fits into the room for the value. -/
lemma fragment_fits {xs : List (List UInt8)} {room : ℕ} (hroom : xs.flatten.length ≤ room)
    (hlt : n < xs.length) : ¬room - (xs.take n).flatten.length < xs[n].length := by
  have hle : (xs.take (n + 1)).flatten.length ≤ xs.flatten.length :=
    ((List.take_sublist _ _).flatten).length_le
  rw [List.take_succ_eq_append_getElem hlt, List.flatten_append, List.length_append,
    List.flatten_singleton] at hle
  omega

lemma callback_reportMap (hm : m.Conforms map) (ht : Talking s c) (hinit : s.initialized = true)
    (hasks : Asks s c .reportMap (.read m.mapHandle)) (hn : n ≤ (m.value m.mapHandle).length)
    (hreports : s.session.reports = m.described)
    (hdata : s.session.mapData = ((m.value m.mapHandle).take n).flatten)
    (hempty : s.session.map = {} ∧ s.session.index = 0)
    (hl : (m.callbacks c (.read m.mapHandle))[n]? = some l)
    (hmoves : Moves maxPaired s l s') : m.Nears map c s n s' (n + 1) := by
  have hvalid := valid ht hasks Stage.noConfusion
  have hstage := hasks.stage
  rcases fragment hn hl with ⟨data, hfragment, rfl⟩ | ⟨rfl, rfl⟩
  · obtain ⟨hlt, rfl⟩ := List.getElem?_eq_some_iff.1 hfragment
    have hfits := fragment_fits hm.fits hlt
    rw [← hdata] at hfits
    have hroom : s.overflows (m.value m.mapHandle)[n] = false := by
      unfold State.overflows
      rw [hstage]
      exact decide_eq_false hfits
    have hread : s.readReportMap (some (m.value m.mapHandle)[n]) =
        { s with session := { s.session with
          mapData := s.session.mapData ++ (m.value m.mapHandle)[n] } } :=
      if_neg hfits
    have hcb : s.readCb c 0 (some (m.value m.mapHandle)[n]) =
        (s.readReportMap (some (m.value m.mapHandle)[n]), true) := by
      unfold State.readCb
      rw [hvalid, hstage]
      exact congrArg (fun full => (_, !full)) hroom
    obtain ⟨honward, hasks'⟩ := learns hasks { s.session with
      mapData := s.session.mapData ++ (m.value m.mapHandle)[n] }
    cases hmoves
    rw [hcb, hread]
    show m.Nears map c s n ({ s with session := { s.session with
      mapData := s.session.mapData ++ (m.value m.mapHandle)[n] } } : State) (n + 1)
    refine ⟨honward, .reportMapAsked hasks' hlt hreports ?_, ?_⟩
    · dsimp only
      rw [hdata, List.take_succ_eq_append_getElem hlt, List.flatten_append, List.flatten_singleton]
    · rw [left_asks hasks, left_asks hasks']
      simp only [leftAt, procedureLeft, Bool.false_eq_true, if_false]
      omega
  · rw [List.take_length] at hdata
    have hcb : s.readCb c 0 none = (s.nextStage .reportReferences, false) := by
      unfold State.readCb
      rw [hvalid, hstage]
      rfl
    obtain ⟨honward, hdue⟩ := ends hinit hasks s.session .reportReferences
    have hrefers : m.Refers s.session := by
      refine ⟨?_, ?_⟩
      · rw [hempty.2]
        exact Nat.zero_le _
      · rw [hempty.2]
        exact hreports
    cases hmoves
    rw [hcb]
    show m.Nears map c s _ ((({ s with session := s.session } : State).nextStage
      .reportReferences).observe (.done c (.read m.mapHandle) 0)) _
    refine ⟨honward, .references hdue hrefers (.inr ⟨hempty.1, hdata⟩), ?_⟩
    rw [left_asks hasks, left_due hdue]
    show m.leftAt true s.session.index _ _ < _
    rw [hempty.2]
    simp only [leftAt, readEffort, procedureLeft, List.drop_zero, if_true, Bool.false_eq_true,
      if_false]
    omega

lemma callback_references (hm : m.Conforms map) (ht : Talking s c)
    (hinit : s.initialized = true) {report : ReportCharacteristic}
    (hasks : Asks s c .reportReferences (.read report.reference))
    (hn : n ≤ (m.value report.reference).length)
    (hreport : m.described[s.session.index]? = some report) (hne : report.reference ≠ 0)
    (hrefers : m.Refers s.session) (hmap : s.session.map = map)
    (hdata : s.session.referenceData = ((m.value report.reference).take n).flatten)
    (hl : (m.callbacks c (.read report.reference))[n]? = some l)
    (hmoves : Moves maxPaired s l s') : m.Nears map c s n s' (n + 1) := by
  have hvalid := valid ht hasks Stage.noConfusion
  have hstage := hasks.stage
  obtain ⟨id, type, hvalue⟩ := hm.referenced report (List.mem_of_getElem? hreport) hne
  rcases fragment hn hl with ⟨data, hfragment, rfl⟩ | ⟨rfl, rfl⟩
  · obtain ⟨hlt, rfl⟩ := List.getElem?_eq_some_iff.1 hfragment
    have hfits := fragment_fits (congrArg List.length hvalue).le hlt
    rw [← hdata] at hfits
    have hroom : s.overflows (m.value report.reference)[n] = false := by
      unfold State.overflows
      rw [hstage]
      exact decide_eq_false hfits
    have hread : s.readReference (some (m.value report.reference)[n]) =
        { s with session := { s.session with
          referenceData := s.session.referenceData ++ (m.value report.reference)[n] } } :=
      if_neg hfits
    have hcb : s.readCb c 0 (some (m.value report.reference)[n]) =
        (s.readReference (some (m.value report.reference)[n]), true) := by
      unfold State.readCb
      rw [hvalid, hstage]
      exact congrArg (fun full => (_, !full)) hroom
    obtain ⟨honward, hasks'⟩ := learns hasks { s.session with
      referenceData := s.session.referenceData ++ (m.value report.reference)[n] }
    cases hmoves
    rw [hcb, hread]
    show m.Nears map c s n ({ s with session := { s.session with
      referenceData := s.session.referenceData ++ (m.value report.reference)[n] } } : State) (n + 1)
    refine ⟨honward, .referencesAsked hasks' hlt hreport hne { hrefers with } hmap ?_, ?_⟩
    · dsimp only
      rw [hdata, List.take_succ_eq_append_getElem hlt, List.flatten_append, List.flatten_singleton]
    · rw [left_asks hasks, left_asks hasks']
      simp only [leftAt, hreport, Option.map_some, Option.getD_some, Bool.false_eq_true, if_false]
      omega
  · rw [List.take_length, hvalue] at hdata
    have hread := hrefers.read hreport hne hvalue
    have hend : s.readReference none = ({ s with session := { s.session with
        reports := s.session.reports.modify s.session.index fun report =>
          { report with id := id.toNat, type := type.toNat }
        index := s.session.index + 1 } } : State).submit .discovery := by
      unfold State.readReference
      rw [hdata]
    have hcb : s.readCb c 0 none = (s.readReference none, false) := by
      unfold State.readCb
      rw [hvalid, hstage]
      rfl
    obtain ⟨honward, hdue⟩ := resumes hinit hasks { s.session with
      reports := s.session.reports.modify s.session.index fun report =>
        { report with id := id.toNat, type := type.toNat }
      index := s.session.index + 1 }
    cases hmoves
    rw [hcb, hend]
    show m.Nears map c s _ ((({ s with session := { s.session with
      reports := s.session.reports.modify s.session.index fun report =>
        { report with id := id.toNat, type := type.toNat }
      index := s.session.index + 1 } } : State).submit .discovery).observe
        (.done c (.read report.reference) 0)) _
    refine ⟨honward, .references hdue hread (.inl hmap), ?_⟩
    rw [left_asks hasks, left_due hdue]
    show m.leftAt true (s.session.index + 1) _ _ < _
    simp only [leftAt, hreport, Option.map_some, Option.getD_some, if_true, Bool.false_eq_true,
      if_false]
    omega

lemma callback_protocol (ht : Talking s c) (hinit : s.initialized = true) {handle : Handle}
    {value : ℕ} (hasks : Asks s c .protocol (.write handle value))
    (htally : m.Tally map s.session) (hindex : s.session.index = 0)
    (hmoves : Moves maxPaired s (.written c handle value 0) s') : m.Nears map c s 0 s' 1 := by
  have hcb : s.writtenCb c 0 = s.nextStage .subscriptions := by
    unfold State.writtenCb
    rw [valid ht hasks Stage.noConfusion]
    rfl
  obtain ⟨honward, hdue⟩ := ends hinit hasks s.session .subscriptions
  cases hmoves
  rw [hcb]
  show m.Nears map c s 0 ((({ s with session := s.session } : State).nextStage
    .subscriptions).observe (.done c (.write handle value) 0)) 1
  refine ⟨honward, .subscriptions hdue htally, ?_⟩
  rw [left_asks hasks, left_due hdue]
  show m.leftAt true s.session.index _ _ < _
  rw [hindex]
  simp only [leftAt, subscriptionEffort, procedureLeft, if_true, Bool.false_eq_true, if_false]
  omega

lemma callback_subscriptions (hm : m.Conforms map) (ht : Talking s c)
    (hinit : s.initialized = true) {value ccc : Handle} {report : ReportCharacteristic}
    (hasks : Asks s c .subscriptions (.subscribe s.session.index value ccc))
    (hreport : m.reports[s.session.index]? = some report) (htally : m.Tally map s.session)
    (hmoves : Moves maxPaired s (.subscribed c s.session.index value ccc 0) s') :
    m.Nears map c s 0 s' 1 := by
  obtain ⟨-, -, -, -, hseparated⟩ := parsed_map_layout hm.parses
  have hlt : s.session.index < m.reports.length := (List.getElem?_eq_some_iff.1 hreport).1
  obtain ⟨session, hcb, htally', hindex⟩ : ∃ session : Session, s.subscribedCb c 0 s.session.index =
      ({ s with session } : State).submit .discovery ∧ m.Tally map session ∧
        session.index = s.session.index + 1 := by
    have hindex : ((s.session.reports[s.session.index]?).bind fun report =>
        mouseHidReportIndex s.session.map report.id) = mouseHidReportIndex map report.id := by
      rw [htally.reports, hreport, htally.parsed]
      rfl
    obtain ⟨hwidens, hcovered⟩ := Session.widens_foldl (mouseHidReportIndex map report.id)
      map.fields s.session fun field hmem => (hseparated.button_le field hmem).trans_lt (by decide)
    obtain ⟨buttons, axes, hsame⟩ := hwidens.same
    refine ⟨{ s.session with
      coveredButtons := buttons, coveredAxes := axes
      subscribed := s.session.subscribed + 1, index := s.session.index + 1 }, ?_, ?_, rfl⟩
    · unfold State.subscribedCb
      rw [valid ht hasks Stage.noConfusion, hindex, htally.parsed]
      dsimp only
      rw [hsame]
      rfl
    · rw [hsame] at hwidens hcovered
      exact
        { reports := htally.reports
          parsed := htally.parsed
          index_le := hlt
          covered := by
            intro i hi report' hreport' huseful field hfield hreportIndex
            rcases Nat.lt_succ_iff_lt_or_eq.1 hi with hbefore | rfl
            · exact hwidens.covered field
                (htally.covered i hbefore report' hreport' huseful field hfield hreportIndex)
            · obtain rfl := Option.some.inj (hreport.symm.trans hreport')
              exact hcovered field hfield hreportIndex.symm
          subscribed := fun _ => Nat.succ_ne_zero _
          axes := hwidens.axes htally.axes }
  obtain ⟨honward, hdue⟩ := resumes hinit hasks session
  cases hmoves
  rw [hcb]
  show m.Nears map c s 0 ((({ s with session } : State).submit .discovery).observe
    (.done c (.subscribe s.session.index value ccc) 0)) 1
  refine ⟨honward, .subscriptions hdue htally', ?_⟩
  rw [left_asks hasks, left_due hdue]
  show m.leftAt true session.index _ _ < _
  rw [hindex]
  simp only [leftAt, if_true, Bool.false_eq_true, if_false]
  omega

/-- A callback of the procedure in progress brings the conversation nearer to its end. -/
lemma callback (hm : m.Conforms map) (hsurveyed : Surveyed s) (ht : Talking s c)
    (hinit : s.initialized = true) (hphase : m.Phase map c s n) {r : Request}
    (hr : (c, r) ∈ s.host.attempt.requests) (hl : (m.callbacks c r)[n]? = some l)
    (hmoves : Moves maxPaired s l s') : m.Nears map c s n s' (n + 1) := by
  have hfits := hsurveyed.fits (.inl (ht.conn ▸ Option.some_ne_none c))
  have hbusy {stage : Stage} (hdue : Due s stage) : False :=
    List.not_mem_nil (hdue.requests ▸ hr)
  have hsame {stage : Stage} {r' : Request} (hasks : Asks s c stage r') : r = r' := by
    rw [hasks.requests, List.mem_singleton] at hr
    exact (Prod.mk.inj hr).2
  cases hphase with
  | service hdue | characteristics hdue | descriptors hdue | reportMap hdue | references hdue
  | protocol hdue | subscriptions hdue => exact (hbusy hdue).elim
  | serviceAsked hasks hn =>
    obtain rfl := hsame hasks
    subst hn
    obtain rfl := Option.some.inj hl
    refine callback_service ht hinit hasks (hfits.blank ?_) hmoves
    rw [hasks.stage]
  | characteristicsAsked hasks hn hcharts =>
    obtain rfl := hsame hasks
    exact callback_characteristics hm ht hinit hasks hn hcharts hl hmoves
  | descriptorsAsked hasks hn hmap hreports =>
    obtain rfl := hsame hasks
    refine callback_descriptors hm ht hinit hasks hn hmap hreports (hfits.unread ?_) hl hmoves
    rw [hasks.stage]
  | reportMapAsked hasks hn hreports hdata =>
    obtain rfl := hsame hasks
    refine callback_reportMap hm ht hinit hasks hn hreports hdata (hfits.unparsed ?_) hl hmoves
    rw [hasks.stage]
  | referencesAsked hasks hn hreport hne hrefers hmap hdata =>
    obtain rfl := hsame hasks
    exact callback_references hm ht hinit hasks hn hreport hne hrefers hmap hdata hl hmoves
  | protocolAsked hasks hn htally hindex =>
    obtain rfl := hsame hasks
    subst hn
    obtain rfl := Option.some.inj hl
    exact callback_protocol ht hinit hasks htally hindex hmoves
  | subscriptionsAsked hasks hn hreport huseful htally =>
    obtain rfl := hsame hasks
    subst hn
    obtain rfl := Option.some.inj hl
    exact callback_subscriptions hm ht hinit hasks hreport htally hmoves

/-! ### The whole conversation -/

/-- The client explores the attributes of the mouse. -/
lemma exploring (hphase : m.Phase map c s n) : s.stage.Exploring := by
  cases hphase with
  | service h | characteristics h | descriptors h | reportMap h | references h | protocol h
  | subscriptions h | serviceAsked h | characteristicsAsked h | descriptorsAsked h
  | reportMapAsked h | referencesAsked h | protocolAsked h | subscriptionsAsked h =>
    rw [h.stage]
    unfold Stage.Exploring
    decide

/-- `discovery_work` waits, or a procedure is in progress with a callback to come. -/
lemma due_or_asks (hphase : m.Phase map c s n) : Due s s.stage ∨
    ∃ r, Asks s c s.stage r ∧ n < (m.callbacks c r).length := by
  cases hphase with
  | service h | characteristics h | descriptors h | reportMap h | references h | protocol h
  | subscriptions h => exact .inl ⟨rfl, h.requests, h.queued⟩
  | serviceAsked h hn | protocolAsked h hn | subscriptionsAsked h hn =>
    exact .inr ⟨_, ⟨rfl, h.requests⟩, hn ▸ Nat.one_pos⟩
  | characteristicsAsked h hn | descriptorsAsked h hn | reportMapAsked h hn
  | referencesAsked h hn =>
    refine .inr ⟨_, ⟨rfl, h.requests⟩, ?_⟩
    simp only [callbacks, List.length_map, List.length_append, List.length_singleton]
    omega

/-- While no procedure is in progress, the number of callbacks says nothing. -/
lemma restart (hphase : m.Phase map c s n) (hnone : s.host.attempt.requests = []) :
    m.Phase map c s 0 := by
  have hidle {stage : Stage} {r : Request} (hasks : Asks s c stage r) : False :=
    List.cons_ne_nil _ _ (hasks.requests.symm.trans hnone)
  cases hphase with
  | service h => exact .service h
  | characteristics h hcharts => exact .characteristics h hcharts
  | descriptors h hcharts => exact .descriptors h hcharts
  | reportMap h hmap hreports hdata => exact .reportMap h hmap hreports hdata
  | references h hrefers hmap => exact .references h hrefers hmap
  | protocol h htally hindex => exact .protocol h htally hindex
  | subscriptions h htally => exact .subscriptions h htally
  | serviceAsked hasks | characteristicsAsked hasks | descriptorsAsked hasks
  | reportMapAsked hasks | referencesAsked hasks | protocolAsked hasks
  | subscriptionsAsked hasks => exact (hidle hasks).elim

/-- What leaves the conversation alone leaves its phase. -/
lemma steady (hphase : m.Phase map c s n) (h : Steady s s') : m.Phase map c s' n := by
  have hdue {stage : Stage} (hd : Due s stage) : Due s' stage :=
    ⟨h.stage.trans hd.stage, h.requests.trans hd.requests, (h.follows.mem_iff id).2 hd.queued⟩
  have hasks {stage : Stage} {r : Request} (ha : Asks s c stage r) : Asks s' c stage r :=
    ⟨h.stage.trans ha.stage, h.requests.trans ha.requests⟩
  have hsession := h.session
  cases hphase with
  | service hd => exact .service (hdue hd)
  | serviceAsked ha hn => exact .serviceAsked (hasks ha) hn
  | characteristics hd hcharts => exact .characteristics (hdue hd) (hsession ▸ hcharts)
  | characteristicsAsked ha hn hcharts =>
    exact .characteristicsAsked (hasks ha) hn (hsession ▸ hcharts)
  | descriptors hd hcharts => exact .descriptors (hdue hd) (hsession ▸ hcharts)
  | descriptorsAsked ha hn hmap hreports =>
    exact .descriptorsAsked (hasks ha) hn (hsession ▸ hmap) (hsession ▸ hreports)
  | reportMap hd hmap hreports hdata =>
    exact .reportMap (hdue hd) (hsession ▸ hmap) (hsession ▸ hreports) (hsession ▸ hdata)
  | reportMapAsked ha hn hreports hdata =>
    exact .reportMapAsked (hasks ha) hn (hsession ▸ hreports) (hsession ▸ hdata)
  | references hd hrefers hmap =>
    exact .references (hdue hd) (hsession ▸ hrefers) (hsession ▸ hmap)
  | referencesAsked ha hn hreport hne hrefers hmap hdata =>
    exact .referencesAsked (hasks ha) hn (hsession ▸ hreport) hne (hsession ▸ hrefers)
      (hsession ▸ hmap) (hsession ▸ hdata)
  | protocol hd htally hindex => exact .protocol (hdue hd) (hsession ▸ htally) (hsession ▸ hindex)
  | protocolAsked ha hn htally hindex =>
    exact .protocolAsked (hasks ha) hn (hsession ▸ htally) (hsession ▸ hindex)
  | subscriptions hd htally => exact .subscriptions (hdue hd) (hsession ▸ htally)
  | @subscriptionsAsked value ccc report ha hn hreport huseful htally =>
    have ha' : Asks s' c .subscriptions (.subscribe s'.session.index value ccc) := by
      rw [hsession]
      exact hasks ha
    exact .subscriptionsAsked ha' hn (hsession ▸ hreport) huseful (hsession ▸ htally)

end Phase

/-! ### The distance -/

/-- The items of work in front of `discovery_work`, when it is due. -/
def waiting (s : State) : ℕ :=
  if s.host.attempt.requests = [] then s.work.ahead .discovery else 0

/-- Before each callback and each item of discovery work the other items of the queue may run. -/
def distance (m : Mouse) (s : State) (n : ℕ) : ℕ := 14 * m.left s n + waiting s

lemma waiting_le (hs : Coherent s) : waiting s ≤ 13 := by
  unfold waiting
  split
  · exact List.idxOf_le_length.trans hs.length_queue_le
  · exact Nat.zero_le _

lemma Nears.distance_lt (h : m.Nears map c s n s' n') (hs' : Coherent s') :
    m.distance s' n' < m.distance s n := by
  have hwaiting := waiting_le hs'
  have hleft := h.2.2
  unfold distance
  omega

lemma left_steady (h : Steady s s') (n : ℕ) : m.left s' n = m.left s n := by
  unfold left
  rw [h.requests, h.session, h.stage]

lemma Phase.waiting_steady (hphase : m.Phase map c s n) (hnodup : s.work.queue.Nodup)
    (h : Steady s s') : waiting s' ≤ waiting s := by
  unfold waiting
  rw [h.requests]
  split
  case isFalse => exact le_rfl
  case isTrue hnone =>
    rcases hphase.due_or_asks with hdue | ⟨r, hasks, -⟩
    · exact h.follows.ahead_le hnodup id hdue.queued
    · exact absurd (hasks.requests.symm.trans hnone) (List.cons_ne_nil _ _)

/-! ### The conversation -/

/-- What holds in a conversation until the mouse is ready. -/
structure Conversing (m : Mouse) (map : MouseHidMap) (c : Conn) (s : State) (n : ℕ) : Prop where
  coherent : Coherent s
  surveyed : Surveyed s
  talking : Talking s c
  phase : m.Phase map c s n

namespace Conversing

variable {maxPaired : ℕ} {e : Exchange}

/-- The host can call a procedure in progress back. -/
lemma exists_step (maxPaired : ℕ) {r : Request} {l : Label}
    (hr : (c, r) ∈ s.host.attempt.requests) (hl : l ∈ m.callbacks c r) :
    ∃ s', Step maxPaired s l s' := by
  cases r with
  | discover type start stop =>
    have hlabel : ∃ attr, l = .discovered c type start stop attr := by
      cases type with
      | primary => exact ⟨_, List.mem_singleton.1 hl⟩
      | characteristic | descriptor =>
        obtain ⟨attr, -, rfl⟩ := List.mem_map.1 hl
        exact ⟨attr, rfl⟩
    obtain ⟨attr, rfl⟩ := hlabel
    exact ⟨_, hr, rfl⟩
  | read handle =>
    obtain ⟨data, -, rfl⟩ := List.mem_map.1 hl
    exact ⟨_, hr, rfl⟩
  | write | subscribe =>
    obtain rfl := List.mem_singleton.1 hl
    exact ⟨_, hr, rfl⟩

/-- While no procedure is in progress, the number of its callbacks does not matter. -/
lemma left_of_due {stage : Stage} (hdue : Due s stage) (n n' : ℕ) : m.left s n = m.left s n' := by
  rw [left_due hdue, left_due hdue]
  cases stage <;> rfl

/-- A step of the conversation: the mouse is ready, or it comes nearer to its end. -/
lemma step (hm : m.Conforms map) (h : Conversing m map c s n)
    (hstep : Converses maxPaired m c (s, n) e (s', n')) :
    s'.stage = .ready ∧ s'.mouseConn = some c ∨ Conversing m map c s' n' ∧
      m.distance s' n' ≤ m.distance s n ∧ (e.Counts → m.distance s' n' < m.distance s n) := by
  obtain ⟨hs, hsurveyed, ht, hphase⟩ := h
  have hconn : s.mouseConn ≠ none := ht.conn ▸ Option.some_ne_none c
  have hinit := hs.initialized_of_engaged (.inl hconn)
  have hnear (hs' : Coherent s') (hsurveyed' : Surveyed s') (hnears : m.Nears map c s n s' n') :
      Conversing m map c s' n' ∧ m.distance s' n' ≤ m.distance s n ∧
        (e.Counts → m.distance s' n' < m.distance s n) :=
    ⟨⟨hs', hsurveyed', hnears.1.talking ht, hnears.2.1⟩, (hnears.distance_lt hs').le,
      fun _ => hnears.distance_lt hs'⟩
  cases hstep with
  | callback hr hl hstep =>
    exact .inr (hnear (hs.step hstep) (hsurveyed.step hs hstep)
      (hphase.callback hm hsurveyed ht hinit hr hl hstep.moves))
  | @meanwhile _ _ _ l hl hbusy hstep =>
    have hsteady := steady_of_meanwhile ht hs hphase.exploring hl hbusy hstep
    refine .inr ⟨⟨hs.step hstep, hsurveyed.step hs hstep, hsteady.talking ht,
      hphase.steady hsteady⟩, ?_, fun hcounts => hcounts.elim⟩
    unfold distance
    rw [left_steady hsteady]
    exact Nat.add_le_add_left (hphase.waiting_steady hs.nodup hsteady) _
  | @turn _ _ _ a hnone ha hstep =>
    have hs' := hs.step hstep
    have hsurveyed' := hsurveyed.step hs hstep
    have hdue : Due s s.stage := by
      rcases hphase.due_or_asks with hdue | ⟨r, hasks, -⟩
      · exact hdue
      · exact absurd (hasks.requests.symm.trans hnone) (List.cons_ne_nil _ _)
    cases hstep.moves with
    | @work _ w rest hgap hq =>
    by_cases hw : w = .discovery
    · subst hw
      rcases hphase.turn hm hsurveyed ⟨ht, hinit, hq, ha⟩ hnone with hready | hnears
      · exact .inl hready
      · exact .inr (hnear hs' hsurveyed' hnears)
    · -- another item runs, and there is one less in front
      have hincidental := ht.incidental hs hphase.exploring (hq ▸ List.mem_cons_self) hw
      have htaken : Steady s (s.take w rest) := Steady.take hq hincidental
      have hrun : Steady (s.take w rest) ((s.take w rest).run maxPaired w a) :=
        (Steady.refl (s.take w rest)).run maxPaired hconn hincidental a
      have hphase' := hphase.steady htaken
      have hnodup : (s.take w rest).work.queue.Nodup := (List.nodup_cons.1 (hq ▸ hs.nodup)).2
      have hlt : waiting (s.take w rest) + 1 = waiting s := by
        unfold waiting
        rw [htaken.requests, if_pos hnone, if_pos hnone]
        exact WorkQueue.ahead_take hq hw rfl
      have hle := hphase'.waiting_steady hnodup hrun
      have hsteady := htaken.trans hrun
      have hphase'' : m.Phase map c ((s.take w rest).run maxPaired w a) 0 :=
        (hphase.restart hnone).steady hsteady
      have hdistance : m.distance ((s.take w rest).run maxPaired w a) 0 < m.distance s n := by
        unfold distance
        rw [left_steady hsteady, left_of_due hdue 0 n]
        omega
      exact .inr ⟨⟨hs', hsurveyed', hsteady.talking ht, hphase''⟩, hdistance.le,
        fun _ => hdistance⟩

/-- A mouse that is not ready has an event to wait for. -/
lemma exists_counts (maxPaired : ℕ) (h : Conversing m map c s n) :
    ∃ e s' n', e.Counts ∧ Converses maxPaired m c (s, n) e (s', n') := by
  obtain ⟨hs, -, ht, hphase⟩ := h
  rcases hphase.due_or_asks with hdue | ⟨r, hasks, hn⟩
  · have hgap : s.inConnect = false := Bool.eq_false_of_not_eq_true fun hin =>
      Option.some_ne_none c (ht.conn.symm.trans (hs.gap hin).1)
    obtain ⟨w, rest, hq⟩ := List.exists_cons_of_ne_nil (List.ne_nil_of_mem hdue.queued)
    refine ⟨.turn {}, (s.take w rest).run maxPaired w {}, 0, trivial, .turn hdue.requests
      ⟨rfl, rfl, rfl, rfl⟩ ⟨fun c' hc' => (Option.not_mem_none c' hc').elim, ?_⟩⟩
    unfold State.step
    rw [hgap, hq]
    rfl
  · have hr : (c, r) ∈ s.host.attempt.requests := hasks.requests ▸ List.mem_singleton_self _
    obtain ⟨s', hstep⟩ := exists_step maxPaired hr (List.getElem_mem hn)
    exact ⟨.callback _, s', n + 1, trivial, .callback hr (List.getElem?_eq_getElem hn) hstep⟩

end Conversing

/-- The steps of a conversation lead the mouse to be ready. -/
lemma progress (maxPaired : ℕ) (hm : m.Conforms map) :
    Transition.Progress (Converses maxPaired m c) Exchange.Counts
      (fun p => Conversing m map c p.1 p.2)
      (fun p => p.1.stage = .ready ∧ p.1.mouseConn = some c) (fun p => m.distance p.1 p.2) where
  keeps h _ hstep hnot := ((h.step hm hstep).resolve_left hnot).1
  le h _ hstep hnot := ((h.step hm hstep).resolve_left hnot).2.1
  lt h _ hstep hnot hcounts := ((h.step hm hstep).resolve_left hnot).2.2 hcounts

end Mouse

/-- The service is about to be looked for. -/
lemma Talking.due_service {s : State} {c : Conn} (ht : Talking s c) (hs : Coherent s)
    (hstage : s.stage = .service) (hqueued : .discovery ∈ s.work.queue) : Due s .service := by
  have hlive : s.Live := by
    refine ⟨ht.conn ▸ Option.some_ne_none c, ht.failure, ?_⟩
    rw [hstage]
    exact Stage.noConfusion
  exact ⟨hstage, ((hs.token hlive).discovery hqueued).1, hqueued⟩

/-- **A mouse that conforms becomes ready.**  Take any reachable state in which the link of an
attempt has been secured and the service is about to be looked for, and any mouse that presents
what the client requires.  However the callbacks, the items of work and everything that leaves the
attempt alone follow one another: after a number of callbacks and items that is bounded by the
attributes and the fragments of the mouse, the mouse has been ready; and as long as it has not,
callbacks and items of work alone still make it ready. -/
theorem conforming_mouse_becomes_ready {maxPaired : ℕ} {bonds : List Addr} {labels : List Label}
    {s : State} (hrun : Run maxPaired (State.init bonds) labels s) {m : Mouse} {map : MouseHidMap}
    (hm : m.Conforms map) {c : Conn} (ht : Talking s c) (hstage : s.stage = .service)
    (hqueued : .discovery ∈ s.work.queue) {events : List Exchange} {t : State × ℕ}
    (htalk : Transition.Run (Converses maxPaired m c) (s, 0) events t) :
    (14 * m.effort + 13 < events.countP (fun e => e.Counts) →
      ∃ t', Transition.Visits (Converses maxPaired m c) (s, 0) events t' ∧
        t'.1.stage = .ready ∧ t'.1.mouseConn = some c) ∧
    ((∀ t', Transition.Visits (Converses maxPaired m c) (s, 0) events t' →
        ¬(t'.1.stage = .ready ∧ t'.1.mouseConn = some c)) →
      ∃ more t', Transition.Run (Converses maxPaired m c) t more t' ∧
        (t'.1.stage = .ready ∧ t'.1.mouseConn = some c) ∧ ∀ e ∈ more, e.Counts) := by
  have hs := run_coherent hrun
  have hdue := ht.due_service hs hstage hqueued
  have hstart : Mouse.Conversing m map c s 0 := ⟨hs, run_surveyed hrun, ht, .service hdue⟩
  have hprogress := Mouse.progress (c := c) maxPaired hm
  have hfar : m.distance s 0 ≤ 14 * m.effort + 13 := by
    have hwaiting := Mouse.waiting_le hs
    unfold Mouse.distance
    rw [Mouse.left_due hdue]
    exact Nat.add_le_add_left hwaiting _
  refine ⟨fun hmany => hprogress.visits hstart htalk (hfar.trans_lt hmany), fun hnot => ?_⟩
  refine hprogress.reachable (fun p hp _ => ?_) (hprogress.count_le hstart htalk hnot).1
  obtain ⟨e, s', n', hcounts, hstep⟩ := hp.exists_counts maxPaired
  exact ⟨e, (s', n'), hcounts, hstep⟩

/-! ### The mouse of the tests -/

/-- The mouse in `tests/test_client.c`. -/
def fixtureMouse : Mouse where
  service := { handle := 1, endHandle := 50 }
  chars := [
    { handle := 2, characteristic := .reportMap, valueHandle := 3 },
    { handle := 4, characteristic := .report, valueHandle := 5 },
    { handle := 8, characteristic := .report, valueHandle := 9 },
    { handle := 12, characteristic := .protocolMode, valueHandle := 13, properties := 4 },
    { handle := 14, characteristic := .ctrlPoint, valueHandle := 15, properties := 4 }]
  attrs := [{ handle := 6, uuid := .ccc }, { handle := 7, uuid := .reportRef },
    { handle := 10, uuid := .ccc }, { handle := 11, uuid := .reportRef }]
  value := fun
    | 3 => (List.range 8).map fun n => (fixtureMap.drop (20 * n)).take 20
    | 7 => [[7, 1]]
    | 11 => [[0x2a, 1]]
    | _ => []

/-- The layout of its reports. -/
def fixtureLayout : MouseHidMap := ((mouseHidParse fixtureMap).toOption).getD {}

/-- The first report carries a field of the first report of the layout. -/
lemma carries_zero {session : Session} {kind : MouseHidField → Prop} [DecidablePred kind]
    (hreport : (session.reports[0]?).any (fun report => decide (report.type = 1 ∧
      report.ccc ≠ 0 ∧ mouseHidReportIndex session.map report.id = some 0)) = true)
    (h : (session.map.fields.any fun field => decide (field.report = 0 ∧ kind field)) = true) :
    session.Carries 0 kind := by
  rw [Option.any_eq_true] at hreport
  obtain ⟨report, hreport, hcheck⟩ := hreport
  obtain ⟨htype, hccc, hindex⟩ := of_decide_eq_true hcheck
  obtain ⟨field, hfield, hkind⟩ := List.any_eq_true.1 h
  obtain ⟨hsame, hkind⟩ := of_decide_eq_true hkind
  exact ⟨report, hreport, htype, hccc, 0, hindex, field, hfield, hsame, hkind⟩

lemma fixtureMouse_conforms : fixtureMouse.Conforms fixtureLayout where
  declared := ⟨by decide, by decide, by decide, by decide, by decide⟩
  mapped := by decide
  reporting := by decide
  fits := by decide +kernel
  parses := by decide +kernel
  referenced := by
    have hlength : ∀ report ∈ fixtureMouse.described,
        (fixtureMouse.value report.reference).flatten.length = 2 := by decide
    exact fun report hreport _ => List.length_eq_two.1 (hlength report hreport)
  configured := by decide +kernel
  buttons := by
    intro b hb
    refine ⟨0, carries_zero (by decide +kernel) ?_⟩
    interval_cases b <;> decide +kernel
  axes := by
    intro axis hne
    refine ⟨0, carries_zero (by decide +kernel) ?_⟩
    cases axis with
    | button => exact absurd rfl hne
    | _ => decide +kernel

instance (a : Answers) : Decidable a.Accept := inferInstanceAs (Decidable (_ ∧ _ ∧ _ ∧ _))

/-- A callback or an item of work that is allowed in a conversation. -/
def Mouse.converse (m : Mouse) (maxPaired : ℕ) (c : Conn) (p : State × ℕ) :
    Exchange → Option (State × ℕ)
  | .callback l =>
    if ∃ q ∈ p.1.host.attempt.requests, q.1 = c ∧ (m.callbacks c q.2)[p.2]? = some l then
      (p.1.next maxPaired l).map fun s => (s, p.2 + 1)
    else none
  | .turn a =>
    if p.1.host.attempt.requests = [] ∧ a.Accept then
      (p.1.next maxPaired (.work a)).map fun s => (s, 0)
    else none
  | .meanwhile _ => none

lemma converses_of_converse {m : Mouse} {maxPaired : ℕ} {c : Conn} {p p' : State × ℕ}
    {e : Exchange} (h : m.converse maxPaired c p e = some p') : Converses maxPaired m c p e p' := by
  cases e with
  | callback l =>
    simp only [Mouse.converse] at h
    split at h
    case isTrue hcond =>
      obtain ⟨⟨c', r⟩, hr, rfl, hl⟩ := hcond
      obtain ⟨s', hs', rfl⟩ := Option.map_eq_some_iff.1 h
      exact .callback hr hl (step_of_next hs')
    case isFalse => cases h
  | turn a =>
    simp only [Mouse.converse] at h
    split at h
    case isTrue hcond =>
      obtain ⟨s', hs', rfl⟩ := Option.map_eq_some_iff.1 h
      exact .turn hcond.1 hcond.2 (step_of_next hs')
    case isFalse => cases h
  | meanwhile l => cases h

/-- A client with a mouse, and nothing to do. -/
structure Unoccupied (s : State) (c : Conn) : Prop where
  conn : s.mouseConn = some c
  gap : s.inConnect = false
  initialized : s.initialized = true
  started : s.started = true
  queue : s.work.queue = []
  requests : s.host.attempt.requests = []

/-- A Pair press that is processed in vain. -/
lemma Unoccupied.round {s : State} {c : Conn} (h : Unoccupied s c) (maxPaired : ℕ) (m : Mouse) :
    ∃ s', Transition.Run (Converses maxPaired m c) (s, 0) [.meanwhile .pair, .turn {}] (s', 0) ∧
      Unoccupied s' c := by
  let t : State := { s with work := { s.work with queue := [.pair] } }
  have hpair : Step maxPaired s .pair t := by
    refine ⟨trivial, ?_⟩
    simp [State.step, State.zmkBleMousePair, h.started, State.submit, h.initialized,
      WorkQueue.submit, h.queue, t]
  have hwork : Step maxPaired t (.work {}) (t.take .pair []) := by
    refine ⟨fun c' hc' => (Option.not_mem_none c' hc').elim, ?_⟩
    have hgap : t.inConnect = false := h.gap
    have hq : t.work.queue = [.pair] := rfl
    have hconn : (t.take .pair []).mouseConn.isSome = true := Option.isSome_iff_exists.2 ⟨c, h.conn⟩
    have hvain : (t.take .pair []).run maxPaired .pair {} = t.take .pair [] := if_pos hconn
    unfold State.step
    rw [hgap, hq]
    exact congrArg some hvain
  refine ⟨t.take .pair [], ?_, h.conn, h.gap, h.initialized, h.started, rfl, ?_⟩
  · have hturn : Converses maxPaired m c (t, 0) (.turn {}) (t.take .pair [], 0) :=
      .turn h.requests ⟨rfl, rfl, rfl, rfl⟩ hwork
    refine .cons (.meanwhile trivial ?_ hpair) (.single hturn)
    rintro ⟨a, ha⟩
    cases ha
  · have hhost : (t.take .pair []).host = t.host.record (.ran .pair) := State.host_observe _ _
    rw [hhost]
    exact h.requests

lemma Unoccupied.rounds {s : State} {c : Conn} (h : Unoccupied s c) (maxPaired : ℕ) (m : Mouse)
    (k : ℕ) : ∃ s', Transition.Run (Converses maxPaired m c) (s, 0)
      (List.replicate k [.meanwhile .pair, .turn {}]).flatten (s', 0) ∧ Unoccupied s' c := by
  induction k with
  | zero => exact ⟨s, .nil _, h⟩
  | succ k ih =>
    obtain ⟨t, hrun, ht⟩ := ih
    obtain ⟨s', hround, hs'⟩ := ht.round maxPaired m
    refine ⟨s', ?_, hs'⟩
    rw [List.replicate_succ', List.flatten_append, List.flatten_singleton]
    exact hrun.append hround

/-- The part of a callback or an item of work in a conversation. -/
def Label.exchange : Label → Exchange
  | .work a => .turn a
  | l => .callback l

/-- The conversation with the mouse of the tests, and then Pair presses in vain. -/
def fixtureExchanges (presses : ℕ) : List Exchange :=
  (Label.work {} :: surveyedMouse ⟨1, ⟨1, 7⟩⟩ ++ subscribedMouse ⟨1, ⟨1, 7⟩⟩ ++ [Label.work {}]).map
    Label.exchange ++ (List.replicate presses [.meanwhile .pair, .turn {}]).flatten

/-- The mouse of the tests becomes ready: some run makes it so, and a long run has made it so. -/
theorem conforming_mouse_becomes_ready_fixture : ∃ s more t u t',
    Run 8 (State.init []) ((pairingRequest ⟨1, ⟨1, 7⟩⟩ ++ securedLink ⟨1, ⟨1, 7⟩⟩).dropLast) s ∧
      Transition.Run (Converses 8 fixtureMouse ⟨1, ⟨1, 7⟩⟩) (s, 0) more t ∧ t.1.stage = .ready ∧
    Transition.Run (Converses 8 fixtureMouse ⟨1, ⟨1, 7⟩⟩) (s, 0)
        (fixtureExchanges (14 * fixtureMouse.effort + 14)) u ∧
      Transition.Visits (Converses 8 fixtureMouse ⟨1, ⟨1, 7⟩⟩) (s, 0)
        (fixtureExchanges (14 * fixtureMouse.effort + 14)) t' ∧ t'.1.stage = .ready := by
  obtain ⟨s, hrun, hp⟩ := exists_run 8 (State.init [])
    ((pairingRequest ⟨1, ⟨1, 7⟩⟩ ++ securedLink ⟨1, ⟨1, 7⟩⟩).dropLast)
    (fun s => decide (s.mouseConn = some ⟨1, ⟨1, 7⟩⟩ ∧ s.failure = 0 ∧ s.candidateBonded = true ∧
      ⟨1, 7⟩ ∈ s.host.bonds ∧ s.stage = .service ∧ s.work.queue = [.discovery]) &&
      ((fixtureExchanges 0).foldlM (fixtureMouse.converse 8 ⟨1, ⟨1, 7⟩⟩) (s, 0)).any
        fun p : State × ℕ => decide (p.2 = 0 ∧ p.1.mouseConn = some ⟨1, ⟨1, 7⟩⟩ ∧
          p.1.inConnect = false ∧ p.1.initialized = true ∧ p.1.started = true ∧
          p.1.work.queue = [] ∧ p.1.host.attempt.requests = [])) (by decide +kernel)
  rw [Bool.and_eq_true, decide_eq_true_eq] at hp
  obtain ⟨⟨hconn, hfailure, hbonded, hmem, hstage, hq⟩, hconverse⟩ := hp
  have ht : Talking s ⟨1, ⟨1, 7⟩⟩ := by
    refine ⟨hconn, hfailure, fun _ => ⟨hbonded, hmem⟩, fun w hw => ?_⟩
    rw [hq, List.mem_singleton] at hw
    exact hw ▸ id
  have hnot : ∀ t', Transition.Visits (Converses 8 fixtureMouse ⟨1, ⟨1, 7⟩⟩) (s, 0) [] t' →
      ¬(t'.1.stage = .ready ∧ t'.1.mouseConn = some ⟨1, ⟨1, 7⟩⟩) := by
    rintro t' ⟨before, hprefix, hbefore⟩ ⟨hready, -⟩
    have hnil : before = [] := List.prefix_nil.1 hprefix
    cases hbefore with
    | nil => exact Stage.noConfusion (hstage.symm.trans hready)
    | snoc => exact List.append_ne_nil_of_right_ne_nil _ (List.cons_ne_nil _ _) hnil
  obtain ⟨more, t, htalk, ⟨hready, -⟩, -⟩ :=
    (conforming_mouse_becomes_ready hrun fixtureMouse_conforms ht hstage
      (hq ▸ List.mem_singleton_self _) (.nil _)).2 hnot
  -- the conversation of the fixtures, and enough rounds after it
  obtain ⟨⟨v, n⟩, hv, hrests⟩ := Transition.Run.exists_of_foldlM hconverse
  obtain ⟨rfl, hconn', hgap, hinit, hstarted, hqueue, hrequests⟩ := of_decide_eq_true hrests
  have hunoccupied : Unoccupied v ⟨1, ⟨1, 7⟩⟩ := ⟨hconn', hgap, hinit, hstarted, hqueue, hrequests⟩
  obtain ⟨u, hrounds, -⟩ :=
    hunoccupied.rounds 8 fixtureMouse (14 * fixtureMouse.effort + 14)
  have hlong : Transition.Run (Converses 8 fixtureMouse ⟨1, ⟨1, 7⟩⟩) (s, 0)
      (fixtureExchanges (14 * fixtureMouse.effort + 14)) (u, 0) := by
    have hconversation := hv.mono fun _ _ _ => converses_of_converse
    simp only [fixtureExchanges, List.replicate_zero, List.flatten_nil, List.append_nil]
      at hconversation
    exact hconversation.append hrounds
  have hmany : 14 * fixtureMouse.effort + 13 <
      (fixtureExchanges (14 * fixtureMouse.effort + 14)).countP fun e => e.Counts := by
    unfold fixtureExchanges
    rw [List.countP_append, List.countP_flatten, List.map_replicate, List.sum_replicate]
    have hround : [Exchange.meanwhile .pair, .turn {}].countP (fun e => e.Counts) = 1 := by decide
    rw [hround, smul_eq_mul, mul_one]
    omega
  obtain ⟨t', hvisits, hready', -⟩ :=
    (conforming_mouse_becomes_ready hrun fixtureMouse_conforms ht hstage
      (hq ▸ List.mem_singleton_self _) hlong).1 hmany
  exact ⟨s, more, t, _, t', hrun, htalk, hready, hlong, hvisits, hready'⟩

end BleMouse.Client
