/-
The procedures of an attempt, one after the other.

* `Sequential`: a GATT procedure is started only when none is in progress, and a report is
  subscribed to once;
* `Proceeds`: discovery and its callbacks move the stage of the attempt forward, and add to the
  report map only what is read;
* `rank_le_of_step`: within an attempt the stages come in their order.
-/
import BleMouse.Client.Completion
import BleMouse.Client.Survey

namespace BleMouse.Client

open BleMouse.Hid BleMouse.Output
open Coherent (Exploring)

/-! ### The order of the procedures -/

/-- A procedure starts when none is in progress, and subscribes to what has not been subscribed
to: its parameters are not those of another that the host still works on. -/
def Obs.InTurn (h : History) : Obs → Prop
  | .gatt _ request _ => h.attempt.requests = [] ∧
      ∀ i, request.subscription = some i → i ∉ h.attempt.subscribed
  | _ => True

/-- Every procedure has been started in its turn. -/
def Sequential (s : State) : Prop := Journal.Always History.record {} Obs.InTurn s.journal

lemma Obs.Apart.inTurn {o : Obs} (ho : o.Apart) (h : History) : o.InTurn h := by
  cases o with
  | gatt => exact ho.elim
  | _ => trivial

namespace Sequential

variable {s s' : State}

lemma observe (h : Sequential s) {o : Obs} (ho : o.InTurn s.host) : Sequential (s.observe o) :=
  Journal.Always.snoc h ho

lemma append (h : Sequential s) {new : List Obs} (heq : s'.journal = s.journal ++ new)
    (hnew : ∀ o ∈ new, ∀ h, o.InTurn h) : Sequential s' := by
  unfold Sequential
  rw [heq]
  exact Journal.Every.append h fun o ho before => hnew o ho _

lemma rests (h : Sequential s) (hr : Rests s s') : Sequential s' := by
  obtain ⟨new, heq, hnew⟩ := hr.journal
  exact h.append heq fun o ho => (hnew o ho).inTurn

/-- A callback writes nothing into the journal but the end of its procedure. -/
lemma finished (h : Sequential s) (heq : s'.journal = s.journal) (continues : Bool) (c : Conn)
    (request : Request) (err : ℕ) : Sequential (s'.finished continues c request err) := by
  have hs' : Sequential s' := h.append (heq.trans (List.append_nil _).symm) (by simp)
  unfold State.finished
  split
  · exact hs'
  · exact hs'.observe trivial

lemma startRequest (h : Sequential s) (hrequests : s.host.attempt.requests = []) (c : Conn)
    {request : Request} (hnew : ∀ i, request.subscription = some i →
      i ∉ s.host.attempt.subscribed) (answer : ℤ) :
    Sequential (s.startRequest c request answer) := by
  have hs := h.observe (o := .gatt c request answer) ⟨hrequests, hnew⟩
  unfold State.startRequest
  dsimp only
  split
  · exact hs
  · exact hs

lemma startOther (h : Sequential s) (hrequests : s.host.attempt.requests = []) (c : Conn)
    {request : Request} (hother : request.subscription = none) (answer : ℤ) :
    Sequential (s.startRequest c request answer) := by
  refine h.startRequest hrequests c (fun i hi => ?_) answer
  rw [hother] at hi
  cases hi

lemma finishReady (h : Sequential s) (c : Conn) (a : Answers) : Sequential (s.finishReady c a) := by
  have hsaved := h.observe (o := .save c.dst a.save) trivial
  unfold State.finishReady
  dsimp only
  split_ifs
  · exact h
  · exact h
  · exact hsaved
  · exact hsaved.observe (o := .registered c.dst) trivial
  · exact h

lemma readReferences (h : Sequential s) (he : Exploring s) (c : Conn) (a : Answers) :
    Sequential (s.readReferences c a) := by
  have hnext (t : State) (ht : Sequential t) (het : Exploring t) :
      Sequential (t.readNextReference c a) := by
    unfold State.readNextReference
    dsimp only
    split
    · exact ht
    · apply startOther
      · exact ht
      · exact het.requests
      · rfl
  unfold State.readReferences
  split
  · split
    · exact h
    · dsimp only
      split
      · exact h
      · exact hnext _ h (he.withSession _)
  · exact hnext s h he

lemma selectProtocol (h : Sequential s) (he : Exploring s) (c : Conn) (a : Answers) :
    Sequential (s.selectProtocol c a) := by
  have hset (t : State) (ht : Sequential t) (het : Exploring t) :
      Sequential (t.setProtocol c a) := by
    have hwritten := ht.observe
      (o := .command c t.session.protocolHandle t.session.protocol a.protocol) trivial
    unfold State.setProtocol
    dsimp only
    split_ifs
    · exact ht
    · exact hwritten
    · exact hwritten
    · exact ht.startOther het.requests c rfl _
  have hcommand : Sequential (({ s with session := { s.session with protocol := 1 } } :
      State).observe (.command c s.session.controlHandle 1 a.control)) :=
    observe h (o := .command c s.session.controlHandle 1 a.control) trivial
  have hexploring := (he.withSession { s.session with protocol := 1 }).observe
    (.command c s.session.controlHandle 1 a.control) trivial
  unfold State.selectProtocol
  dsimp only
  split_ifs
  · exact hcommand
  · exact hset _ hcommand hexploring
  · exact hset _ h (he.withSession _)

/-- The report that is subscribed to comes after those that have been. -/
lemma subscribeNext (h : Sequential s) (hs : Surveyed s) (he : Exploring s) (c : Conn)
    (a : Answers) : Sequential (s.subscribeNext c a) := by
  have hle := (Surveyed.firstUseful_le s.session.map (s.session.reports.drop s.session.index)
    s.session.index).1
  unfold State.subscribeNext
  dsimp only
  split
  · split
    · exact h
    · apply startRequest
      · exact h
      · exact he.requests
      · intro i hi hmem
        obtain rfl := Option.some.inj hi
        exact absurd (hs.passed he.live _ hmem) (not_lt.2 hle)
  · split
    · apply finishReady
      exact h
    · exact h

lemma discoveryWorkCb (h : Sequential s) (hs : Surveyed s) (hnotQueued : .discovery ∉ s.work.queue)
    (hready : s.Live → s.host.attempt.requests = [] ∧ s.stage.Exploring) (a : Answers) :
    Sequential (s.discoveryWorkCb a) := by
  unfold State.discoveryWorkCb
  split
  case h_1 => exact h
  case h_2 c hc =>
  split
  case isTrue => exact h
  case isFalse hfailed =>
  rw [not_or, not_not] at hfailed
  have hlive : s.Live := ⟨hc ▸ Option.some_ne_none c, hfailed⟩
  have he : Exploring s := ⟨hlive, (hready hlive).1, (hready hlive).2, hnotQueued⟩
  split
  case h_5 => exact h.readReferences he c a
  case h_6 => exact h.selectProtocol he c a
  case h_7 => exact h.subscribeNext hs he c a
  case h_8 => exact h
  all_goals exact h.startOther he.requests c rfl _

/-! ### Callbacks -/

lemma journal_discoverCb (s : State) (c : Conn) (attr : Option Attr) :
    (s.discoverCb c attr).1.journal = s.journal := by
  unfold State.discoverCb
  split
  · rfl
  split
  case h_1 =>
    show s.discoverEnd.journal = s.journal
    unfold State.discoverEnd
    split
    case h_2 => split <;> rfl
    all_goals rfl
  case h_2 attr =>
  split
  case h_2 =>
    obtain ⟨session, heq, -⟩ := Surveyed.discoverCharacteristic_spec s attr
    rcases heq with heq | ⟨err, heq⟩ <;> exact congrArg (fun t => t.1.journal) heq
  all_goals rfl

lemma journal_readCb (s : State) (c : Conn) (err : ℕ) (data : Option (List UInt8)) :
    (s.readCb c err data).1.journal = s.journal := by
  unfold State.readCb State.readReportMap State.readReference
  dsimp only
  split_ifs
  · rfl
  · rfl
  · split
    · split
      · split_ifs <;> rfl
      · rfl
    · split
      · split_ifs <;> rfl
      · split <;> rfl
    · rfl

lemma journal_writtenCb (s : State) (c : Conn) (err : ℕ) :
    (s.writtenCb c err).journal = s.journal := by
  unfold State.writtenCb
  split_ifs <;> rfl

lemma journal_subscribedCb (s : State) (c : Conn) (err i : ℕ) :
    (s.subscribedCb c err i).journal = s.journal := by
  unfold State.subscribedCb
  dsimp only
  split_ifs
  · rfl
  · rfl
  · obtain ⟨buttons, axes, heq, -, -⟩ := Session.foldl_coverField
      ((s.session.reports[i]?).bind fun report => mouseHidReportIndex s.session.map report.id)
      s.session.map.fields s.session
    rw [heq]
    rfl

lemma notifyCb (h : Sequential s) (c : Conn) (i : ℕ) (data : Option (List UInt8)) :
    Sequential (s.notifyCb c i data) := by
  unfold State.notifyCb
  split_ifs
  · exact h
  · split
    · exact h
    · split
      · exact h
      · split
        · apply observe (o := .outputReceive _ _) _ trivial
          exact h
        · exact h

/-! ### Steps -/

lemma opens {maxPaired : ℕ} (h : Sequential s) (ho : Opens maxPaired s s') : Sequential s' := by
  obtain ⟨t, addr, hb, -, hr⟩ := ho
  have ht := h.rests (.of_background hb)
  have hbegun : Sequential (t.begun addr) := ht.observe (o := .attempt addr !t.havePeer) trivial
  exact hbegun.rests hr

/-- `discovery_work` has been taken off the queue. -/
lemma discovery (h : Sequential s) (hsurveyed : Surveyed s) (hs : Coherent s) {rest : List Work}
    (hq : s.work.queue = .discovery :: rest) (a : Answers) :
    Sequential ((s.take .discovery rest).discoveryWorkCb a) := by
  have ht := h.rests (.take .discovery rest)
  have hst := hsurveyed.of_rests hs (hs.take hq) (.take .discovery rest)
  have hnodup : (Work.discovery :: rest).Nodup := hq ▸ hs.nodup
  refine ht.discoveryWorkCb hst (List.nodup_cons.1 hnodup).1 (fun hlive => ?_) a
  obtain ⟨hrequests, hstage⟩ := (hs.token hlive).discovery (hq ▸ List.mem_cons_self)
  refine ⟨?_, hstage⟩
  rw [State.take, State.host_observe]
  exact hrequests

/-- Every step starts its procedures in their turn. -/
theorem step {maxPaired : ℕ} (h : Sequential s) (hsurveyed : Surveyed s) (hs : Coherent s)
    {l : Label} (hstep : Step maxPaired s l s') : Sequential s' := by
  cases course_of_step hs hstep.2 with
  | rests _ hr => exact h.rests hr
  | opens _ ho => exact h.opens ho
  | discovery _ hq => exact h.discovery hsurveyed hs hq _
  | discovered c type start stop attr => exact h.finished (journal_discoverCb s c attr) _ _ _ _
  | readDone c handle err data => exact h.finished (journal_readCb s c err data) _ _ _ _
  | written c handle value err => exact h.finished (journal_writtenCb s c err) _ _ _ _
  | subscribed c i value ccc err => exact h.finished (journal_subscribedCb s c err i) _ _ _ _
  | notified c i data => exact h.notifyCb c i data

end Sequential

/-! ### The course of an attempt -/

/-- The attempt goes on: its stages come in their order, and the report map that has been read
and parsed stays as it is. -/
structure Proceeds (s s' : State) : Prop where
  stage : s.stage.rank ≤ s'.stage.rank
  map : s'.session.map.reports = [] → s.session.map.reports = []
  data : s'.session.mapData = s.session.mapData

namespace Proceeds

variable {s s' s'' : State}

lemma refl (s : State) : Proceeds s s := ⟨le_rfl, id, rfl⟩

lemma observe (h : Proceeds s s') (o : Obs) : Proceeds s (s'.observe o) := { h with }

lemma submit (h : Proceeds s s') (w : Work) : Proceeds s (s'.submit w) := { h with }

lemma fail (h : Proceeds s s') (err : ℤ) : Proceeds s (s'.fail err) := { h with }

lemma setStage (h : Proceeds s s') {next : Stage} (hrank : s'.stage.rank ≤ next.rank) :
    Proceeds s { s' with stage := next } := { h with stage := h.stage.trans hrank }

lemma nextStage (h : Proceeds s s') {next : Stage} (hrank : s'.stage.rank ≤ next.rank) :
    Proceeds s (s'.nextStage next) := (h.setStage hrank).submit .discovery

lemma finished (h : Proceeds s s') (continues : Bool) (c : Conn) (request : Request) (err : ℕ) :
    Proceeds s (s'.finished continues c request err) := by
  unfold State.finished
  split
  · exact h
  · exact h.observe _

lemma discoverCb (s : State) (c : Conn) (attr : Option Attr) :
    Proceeds s (s.discoverCb c attr).1 := by
  unfold State.discoverCb
  split
  · exact refl s
  split
  case h_1 =>
    show Proceeds s s.discoverEnd
    unfold State.discoverEnd
    split
    case h_2 hstage =>
      split
      · exact (refl s).fail _
      · exact (refl s).nextStage (by rw [hstage]; decide)
    case h_3 hstage => exact (refl s).nextStage (by rw [hstage]; decide)
    all_goals exact (refl s).fail _
  case h_2 attr =>
  split
  case h_1 hstage =>
    have hrank : s.stage.rank ≤ Stage.characteristics.rank := by rw [hstage]; decide
    exact { refl s with stage := hrank }
  case h_2 =>
    obtain ⟨session, heq, -, -, hmap, -, -, -, -, hdata, -⟩ :=
      Surveyed.discoverCharacteristic_spec s attr
    have hs : Proceeds s { s with session } := ⟨le_rfl, fun hnil => hmap ▸ hnil, hdata⟩
    rcases heq with heq | ⟨err, heq⟩
    · rw [heq]
      exact hs
    · rw [heq]
      exact hs.fail err
  case h_3 => exact { refl s with }
  case h_4 => exact refl s

lemma writtenCb (s : State) (c : Conn) (err : ℕ) (hstage : s.Live → s.stage = .protocol) :
    Proceeds s (s.writtenCb c err) := by
  unfold State.writtenCb
  split
  case isTrue => exact refl s
  case isFalse hvalid =>
  split
  · exact (refl s).fail _
  · rw [Bool.not_eq_true', Bool.not_eq_false] at hvalid
    refine (refl s).nextStage ?_
    rw [hstage (State.live_of_valid hvalid)]
    decide

lemma subscribedCb (s : State) (c : Conn) (err i : ℕ) : Proceeds s (s.subscribedCb c err i) := by
  unfold State.subscribedCb
  dsimp only
  split
  · exact refl s
  split
  · exact (refl s).fail _
  · obtain ⟨buttons, axes, heq, -, -⟩ := Session.foldl_coverField
      ((s.session.reports[i]?).bind fun report => mouseHidReportIndex s.session.map report.id)
      s.session.map.fields s.session
    rw [heq]
    exact { refl s with }

lemma notifyCb (s : State) (c : Conn) (i : ℕ) (data : Option (List UInt8)) :
    Proceeds s (s.notifyCb c i data) := by
  unfold State.notifyCb
  split
  · exact refl s
  split
  · exact (refl s).fail _
  split
  · exact refl s
  split
  · exact { refl s with }
  · exact refl s

/-- A fragment of the report map is added to it, or fails the attempt; other reads leave the
map alone. -/
lemma readCb (s : State) (c : Conn) (err : ℕ) (data : Option (List UInt8)) :
    (Proceeds s (s.readCb c err data).1 ∧ (s.validCallback c = true → s.stage = .reportMap →
      data ≠ none → (s.readCb c err data).1.failure ≠ 0)) ∨
    s.stage = .reportMap ∧ err = 0 ∧ ∃ fragment, data = some fragment ∧
      (s.readCb c err data).1 = { s with session := { s.session with
        mapData := s.session.mapData ++ fragment } } := by
  unfold State.readCb
  split
  case isTrue hinvalid =>
    refine .inl ⟨refl s, fun hvalid => ?_⟩
    rw [hvalid] at hinvalid
    exact absurd hinvalid Bool.false_ne_true
  case isFalse =>
  split
  case isTrue => exact .inl ⟨(refl s).fail _, fun _ _ _ => Explores.fail_ne_zero s _⟩
  case isFalse herr =>
  dsimp only
  split
  case h_1 hstage =>
    unfold State.readReportMap
    split
    · split
      · exact .inl ⟨(refl s).fail _, fun _ _ _ => Explores.fail_ne_zero s _⟩
      · exact .inr ⟨hstage, not_not.1 herr, _, rfl, rfl⟩
    · exact .inl ⟨(refl s).nextStage (by rw [hstage]; decide), fun _ _ hdata => absurd rfl hdata⟩
  case h_2 hstage =>
    refine .inl ⟨?_, fun _ hmap => Stage.noConfusion (hstage.symm.trans hmap)⟩
    unfold State.readReference
    split
    · split
      · exact (refl s).fail _
      · exact { refl s with }
    · split
      · exact { refl s with }
      · exact (refl s).fail _
  case h_3 hother _ => exact .inl ⟨refl s, fun _ hmap => absurd hmap hother⟩

/-! ### Discovery work -/

lemma startRequest (h : Proceeds s s') (c : Conn) (request : Request) (answer : ℤ) :
    Proceeds s (s'.startRequest c request answer) := by
  unfold State.startRequest
  dsimp only
  split
  · exact (h.observe _).fail _
  · exact h.observe _

lemma finishReady (h : Proceeds s s') (hstage : s'.stage = .subscriptions) (c : Conn)
    (a : Answers) :
    Proceeds s (s'.finishReady c a) := by
  have hready {t : State} (ht : Proceeds s t) (hrank : t.stage.rank ≤ Stage.ready.rank) :
      Proceeds s t.becomeReady := by
    have hs := ht.setStage hrank
    exact { hs with }
  have hrank : s'.stage.rank ≤ Stage.ready.rank := by rw [hstage]; decide
  unfold State.finishReady
  dsimp only
  split_ifs
  · exact h.fail _
  · exact h.fail _
  · exact (h.observe _).fail _
  · exact hready { (h.observe (.save c.dst a.save)).observe (.registered c.dst) with } hrank
  · exact hready h hrank

lemma readReferences (hstage : s.stage = .reportReferences) (c : Conn) (a : Answers) :
    Proceeds s (s.readReferences c a) := by
  have hnext (t : State) (ht : Proceeds s t) (hrank : t.stage.rank ≤ Stage.protocol.rank) :
      Proceeds s (t.readNextReference c a) := by
    unfold State.readNextReference
    dsimp only
    split
    · exact { ht with stage := ht.stage.trans hrank }
    · refine startRequest ?_ _ _ _
      exact { ht with }
  have hrank : s.stage.rank ≤ Stage.protocol.rank := by rw [hstage]; decide
  unfold State.readReferences
  split
  case isFalse => exact hnext s (refl s) hrank
  case isTrue hnil =>
  split
  · exact (refl s).fail _
  · have hparsed (map : MouseHidMap) : Proceeds s { s with session := { s.session with map } } :=
      ⟨le_rfl, fun _ => hnil, rfl⟩
    dsimp only
    split
    · exact (hparsed _).fail _
    · exact hnext _ (hparsed _) hrank

lemma selectProtocol (hstage : s.stage = .protocol) (c : Conn) (a : Answers) :
    Proceeds s (s.selectProtocol c a) := by
  have hset (t : State) (ht : Proceeds s t) (hrank : t.stage.rank ≤ Stage.subscriptions.rank) :
      Proceeds s (t.setProtocol c a) := by
    unfold State.setProtocol
    dsimp only
    split_ifs
    · exact ht.nextStage hrank
    · exact (ht.observe _).fail _
    · exact (ht.observe _).nextStage hrank
    · exact ht.startRequest _ _ _
  have hrank : s.stage.rank ≤ Stage.subscriptions.rank := by rw [hstage]; decide
  have hs : Proceeds s { s with session := { s.session with protocol := 1 } } := { refl s with }
  unfold State.selectProtocol
  dsimp only
  split_ifs
  · exact (hs.observe _).fail _
  · exact hset _ (hs.observe _) hrank
  · exact hset _ hs hrank

lemma discoveryWorkCb (s : State) (a : Answers) : Proceeds s (s.discoveryWorkCb a) := by
  unfold State.discoveryWorkCb
  split
  · exact refl s
  split
  · exact refl s
  split
  case h_5 hstage => exact readReferences hstage _ a
  case h_6 hstage => exact selectProtocol hstage _ a
  case h_7 hstage =>
    have hs (index : ℕ) : Proceeds s { s with session := { s.session with index } } :=
      { refl s with }
    unfold State.subscribeNext
    dsimp only
    split
    · split
      · exact (hs _).fail _
      · exact (hs _).startRequest _ _ _
    · split
      · refine finishReady ?_ ?_ _ a
        · exact hs _
        · exact hstage
      · exact hs _
  case h_8 => exact refl s
  all_goals exact (refl s).startRequest _ _ _

end Proceeds

/-! ### The order of the stages -/

lemma Rests.attempts {s s' : State} (h : Rests s s') : s'.attempts = s.attempts := by
  obtain ⟨new, heq, hnew⟩ := h.journal
  rw [State.attempts, heq, List.countP_append, ← State.attempts, Nat.add_eq_left,
    List.countP_eq_zero]
  rintro o ho
  have hapart := hnew o ho
  cases o with
  | attempt => exact hapart.elim
  | _ => simp

lemma Opens.attempts {maxPaired : ℕ} {s s' : State} (h : Opens maxPaired s s') :
    s'.attempts = s.attempts + 1 := by
  obtain ⟨t, addr, hb, -, hr⟩ := h
  have hbegun : (t.begun addr).attempts = t.attempts + 1 := by
    show (t.journal ++ [Obs.attempt addr !t.havePeer]).countP _ = _
    rw [List.countP_append]
    rfl
  rw [hr.attempts, hbegun, (Rests.of_background hb).attempts]

/-- The stages of an attempt come in their order. -/
theorem rank_le_of_step {maxPaired : ℕ} {s s' : State} {l : Label} (hs : Coherent s)
    (hstep : Step maxPaired s l s') (hsame : s'.attempts = s.attempts) :
    s.stage.rank ≤ s'.stage.rank := by
  have hallows := hstep.1
  cases course_of_step hs hstep.2 with
  | rests _ hr => exact hr.stage.rank_le
  | opens _ ho => exact absurd (ho.attempts.symm.trans hsame) (Nat.succ_ne_self _)
  | @discovery a rest _ hq => exact (Proceeds.discoveryWorkCb (s.take .discovery rest) a).stage
  | discovered c type start stop attr =>
    exact ((Proceeds.discoverCb s c attr).finished _ _ _ _).stage
  | readDone c handle err data =>
    rcases Proceeds.readCb s c err data with ⟨hp, -⟩ | ⟨hstage, -, fragment, -, heq⟩
    · exact (hp.finished _ _ _ _).stage
    · rw [heq]
      unfold State.finished
      split <;> exact le_rfl
  | written c handle value err =>
    have hstage (hlive : s.Live) : s.stage = .protocol := (hs.token hlive).fits _ hallows
    exact ((Proceeds.writtenCb s c err hstage).finished _ _ _ _).stage
  | subscribed c i value ccc err =>
    exact ((Proceeds.subscribedCb s c err i).finished _ _ _ _).stage
  | notified c i data => exact (Proceeds.notifyCb s c i data).stage

end BleMouse.Client
