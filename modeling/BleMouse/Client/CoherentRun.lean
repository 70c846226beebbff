/-
The coherence of runs: callbacks, keys, discovery and subscription preserve `Coherent`, hence
every step does, and every state of a run from the start is coherent.

* `Coherent.step`, `run_coherent`.

A GATT callback that moves the client on is the last one of its procedure, so that the
procedure is over when `discovery_work` runs.
-/
import BleMouse.Client.CoherentLink

namespace BleMouse.Client

open BleMouse.Hid BleMouse.Output

lemma State.validCallback_iff {s : State} {c : Conn} :
    s.validCallback c = true ↔ s.mouseConn = some c ∧ s.failure = 0 ∧ s.stage ≠ .closing := by
  simp [State.validCallback, State.owns, and_assoc]

lemma State.live_of_valid {s : State} {c : Conn} (hvalid : s.validCallback c = true) : s.Live := by
  obtain ⟨hc, hlive⟩ := State.validCallback_iff.1 hvalid
  exact ⟨hc ▸ Option.some_ne_none c, hlive⟩

namespace Coherent

variable {s : State}

/-! ### Connection callbacks and keys -/

lemma connectedCb (h : Coherent s) (c : Conn) (err : ℕ)
    (hauto : s.Engaged → c.dst = s.connectingAddress → s.stage.Open) :
    Coherent (s.connectedCb c err) := by
  unfold State.connectedCb
  split
  case isFalse => exact h
  case isTrue hcond =>
    simp only [Bool.or_eq_true, Bool.and_eq_true, State.owns, decide_eq_true_eq] at hcond
    have hengaged : s.Engaged := by
      rcases hcond with hc | ⟨hstage, -⟩
      · exact .inl (hc ▸ Option.some_ne_none c)
      · by_contra hidle
        exact Stage.noConfusion ((h.idle hidle).symm.trans hstage)
    have hdst : c.dst = s.connectingAddress := by
      rcases hcond with hc | ⟨-, hdst⟩
      · exact h.address c hc
      · exact hdst
    have hs : Coherent { s with connectedEventConn := some c, connectedError := err } :=
      { h with }
    exact (hs.observe (.ref c) trivial).submit ⟨hengaged, hauto hengaged hdst⟩

lemma disconnectedCb (h : Coherent s) (c : Conn) : Coherent (s.disconnectedCb c) := by
  unfold State.disconnectedCb
  split
  case isFalse => exact h
  case isTrue hcond =>
    have hc : s.mouseConn = some c := of_decide_eq_true hcond
    have hconn : s.mouseConn ≠ none := hc ▸ Option.some_ne_none c
    have hclosing : Coherent { s with stage := .closing, scanWanted := false } :=
      { h with
        idle := fun hidle => absurd (.inl hconn) hidle
        busy := fun _ => Stage.noConfusion
        gap := fun hin => absurd (h.gap hin).1 hconn
        scan := fun hwanted => absurd hwanted Bool.false_ne_true
        completed := fun _ _ => .inr rfl
        auto := fun b hb => ⟨(h.auto b hb).1, (h.auto b hb).2.1, .inr rfl⟩
        token := fun hlive => absurd rfl hlive.2.2 }
    exact hclosing.submit hconn

lemma securityCb (h : Coherent s) (c : Conn) (level err : ℕ) :
    Coherent (s.securityCb c level err) := by
  unfold State.securityCb
  split
  case isTrue => exact h
  case isFalse hvalid =>
  rw [Bool.not_eq_true', Bool.not_eq_false] at hvalid
  have hlive := State.live_of_valid hvalid
  split
  case isTrue => exact h.fail hlive.1 _
  case isFalse =>
  split
  case isFalse => exact h
  case isTrue hsecure =>
    have hstage : s.stage = .security := hsecure.2
    refine h.nextStage hlive.1 ?_ ?_ exploring_service
    · rintro (hopen | hopen) <;> rw [hstage] at hopen <;> exact Stage.noConfusion hopen
    · refine (h.requests_eq_nil hlive ?_).1
      rw [hstage]
      exact fun hexploring => hexploring.2.2.1 rfl

lemma pairingCompleteCb (h : Coherent s) (c : Conn) (bonded : Bool) :
    Coherent (s.pairingCompleteCb c bonded) := by
  have hs : Coherent { s with candidateBonded := bonded } := { h with }
  unfold State.pairingCompleteCb
  split
  case isFalse => exact h
  case isTrue hcond =>
    have hc : s.mouseConn = some c := of_decide_eq_true hcond
    dsimp only
    split
    · exact hs.fail (hc ▸ Option.some_ne_none c) _
    · exact hs

lemma pairingFailedCb (h : Coherent s) (c : Conn) : Coherent (s.pairingFailedCb c) := by
  unfold State.pairingFailedCb
  split
  case isFalse => exact h
  case isTrue hcond =>
    have hc : s.mouseConn = some c := of_decide_eq_true hcond
    exact h.fail (hc ▸ Option.some_ne_none c) _

/-- The settings are loaded while the client has no attempt. -/
lemma settingsSet (h : Coherent s) (hidle : ¬s.Engaged) (name : String) (length : ℕ)
    (contents : Addr) (result : ℤ) : Coherent (s.settingsSet name length contents result).1 := by
  have hread : Coherent { s with peer := contents } :=
    { h with saved := fun hin => absurd hin hidle }
  unfold State.settingsSet
  split
  · exact h
  · split
    · exact h
    · dsimp only
      split
      · exact { hread with
          candidate := fun hin => absurd hin hidle
          saved := fun hin => absurd hin hidle }
      · exact hread

lemma pairWorkCb (maxPaired : ℕ) (h : Coherent s) (hgap : s.inConnect = false) :
    Coherent (s.pairWorkCb maxPaired) := by
  have hretry : Coherent { s with retryMs := 1000 } := { h with }
  have hpairing : Coherent { s with pairing := true, retryMs := 1000 } := { h with }
  unfold State.pairWorkCb
  split
  · exact h
  · split
    · exact hretry.retryWorkCb hgap
    · split
      · exact h
      · have hscheduled : Coherent (({ s with pairing := true, retryMs := 1000 } :
            State).schedule .pairTimeout 60000) := hpairing.schedule trivial trivial
        exact hscheduled.retryWorkCb hgap

lemma zmkBleMousePair (h : Coherent s) : Coherent s.zmkBleMousePair := by
  unfold State.zmkBleMousePair
  split
  · exact h
  · exact h.submit trivial

lemma clearWorkCb (h : Coherent s) (hgap : s.inConnect = false) (a : Answers) :
    Coherent (s.clearWorkCb a) := by
  have hs : Coherent { s with pairing := false, scanWanted := false, forgetRequested := true } :=
    { h with scan := fun hwanted => absurd hwanted Bool.false_ne_true }
  unfold State.clearWorkCb
  split
  · exact h
  · dsimp only
    split
    case isTrue hconn => exact hs.fail (Option.isSome_iff_ne_none.1 hconn) _
    case isFalse hconn =>
      rw [Option.not_isSome_iff_eq_none] at hconn
      exact hs.forgetPeer (State.not_engaged hconn hgap) a

lemma zmkBleMouseClearHold (h : Coherent s) (pressed : Bool) :
    Coherent (s.zmkBleMouseClearHold pressed) := by
  have hs : Coherent { s with clearHeld := pressed } := { h with }
  unfold State.zmkBleMouseClearHold
  dsimp only
  split
  · exact hs.schedule trivial trivial
  · exact hs.cancel .clear

lemma zmkBleMouseStart (h : Coherent s) : Coherent s.zmkBleMouseStart := by
  have hs : Coherent { s with started := true, initialized := true } :=
    { h with start := rfl, off := fun hoff => Bool.noConfusion hoff }
  unfold State.zmkBleMouseStart
  split
  · exact h
  · exact hs.schedule trivial trivial

lemma zmkBleMouseAdvertisement (h : Coherent s) (addr : Addr) (type : AdvType)
    (data : List BtData) (now : BitVec 32) :
    Coherent (s.zmkBleMouseAdvertisement addr type data now).1 := by
  unfold State.zmkBleMouseAdvertisement
  split
  case isTrue => exact h
  case isFalse hwanted =>
  rw [Bool.not_eq_true', Bool.not_eq_false] at hwanted
  have hidle := h.scan hwanted
  split
  · split
    · exact h
    · split
      · exact h.centralConnect hidle
      · exact h
  · split
    · exact h
    · dsimp only
      have hseen (advertisers : List Advertiser) : Coherent { s with advertisers } := { h with }
      split
      · exact (hseen _).centralConnect hidle
      · exact hseen _

/-! ### Procedures -/

/-- The end of a procedure. -/
lemma done (h : Coherent s) (c : Conn) (request : Request) (err : ℕ) :
    Coherent (s.observe (.done c request err)) := by
  have hhost : (s.observe (.done c request err)).host = s.host.record (.done c request err) :=
    s.host_observe _
  refine { h with gapWork := ?_, active := ?_, conn := ?_, addr := ?_, auto := ?_, token := ?_ }
  · intro hin
    obtain ⟨hfailed, hdisc, hexp, hrequests⟩ := h.gapWork hin
    refine ⟨hfailed, hdisc, hexp, ?_⟩
    rw [hhost]
    show s.host.attempt.requests.erase (c, request) = []
    rw [hrequests]
    rfl
  · rw [hhost]
    exact h.active
  · rw [hhost]
    exact h.conn
  · rw [hhost]
    exact h.addr
  · rw [hhost]
    exact h.auto
  · rw [hhost]
    intro hlive
    have htoken := h.token hlive
    refine ⟨?_, ?_, ?_⟩
    · exact (List.length_erase_le).trans htoken.length_le
    · exact fun r hr => htoken.fits r (List.mem_of_mem_erase hr)
    · intro hq
      obtain ⟨hrequests, hstage⟩ := htoken.discovery hq
      refine ⟨?_, hstage⟩
      show s.host.attempt.requests.erase (c, request) = []
      rw [hrequests]
      rfl

lemma finished (h : Coherent s) (continues : Bool) (c : Conn) (request : Request) (err : ℕ) :
    Coherent (s.finished continues c request err) := by
  unfold State.finished
  split
  · exact h
  · exact h.done c request err

/-- The procedure that ends was the only one. -/
lemma done_requests (h : Coherent s) (hlive : s.Live) {c : Conn} {request : Request}
    (hmem : (c, request) ∈ s.host.attempt.requests) (err : ℕ) :
    (s.observe (.done c request err)).host.attempt.requests = [] := by
  rw [State.host_observe]
  show s.host.attempt.requests.erase (c, request) = []
  have hle := (h.token hlive).length_le
  rw [← List.length_eq_zero_iff, List.length_erase_of_mem hmem]
  omega

lemma exploring_of_fits {request : Request} {stage : Stage} (hfits : request.Fits stage) :
    stage.Exploring := by
  unfold Stage.Exploring
  cases request with
  | discover => rcases hfits with rfl | rfl | rfl <;> decide
  | read => rcases hfits with rfl | rfl <;> decide
  | write =>
    obtain rfl : stage = .protocol := hfits
    decide
  | subscribe =>
    obtain rfl : stage = .subscriptions := hfits
    decide

lemma not_open_of_exploring {stage : Stage} (h : stage.Exploring) : ¬stage.Open := by
  rintro (hopen | hopen)
  · exact h.2.1 hopen
  · exact h.2.2.2.2 hopen

/-- A callback that ends its procedure moves the client to another stage. -/
lemma finish_nextStage (h : Coherent s) (hlive : s.Live) {c : Conn} {request : Request}
    (hmem : (c, request) ∈ s.host.attempt.requests) (err : ℕ) {next : Stage}
    (hnext : next.Exploring) : Coherent ((s.nextStage next).observe (.done c request err)) := by
  have hstage := exploring_of_fits ((h.token hlive).fits _ hmem)
  exact (h.done c request err).nextStage hlive.1 (not_open_of_exploring hstage)
    (h.done_requests hlive hmem err) hnext

/-- A callback that ends its procedure has `discovery_work` go on in the same stage. -/
lemma finish_resume (h : Coherent s) (hlive : s.Live) {c : Conn} {request : Request}
    (hmem : (c, request) ∈ s.host.attempt.requests) (err : ℕ) :
    Coherent ((s.submit .discovery).observe (.done c request err)) := by
  have hstage := exploring_of_fits ((h.token hlive).fits _ hmem)
  exact (h.done c request err).submit
    ⟨hlive.1, fun _ => ⟨h.done_requests hlive hmem err, hstage⟩⟩

/-- A callback that ends its procedure fails the attempt. -/
lemma finish_fail (h : Coherent s) (hlive : s.Live) (c : Conn) (request : Request) (err : ℕ)
    (error : ℤ) : Coherent ((s.fail error).observe (.done c request err)) :=
  (h.fail hlive.1 error).done c request err

lemma withSession (h : Coherent s) (session : Session) : Coherent { s with session } := { h with }

/-! The same with a change of the session before. -/

lemma session_nextStage (h : Coherent s) (hlive : s.Live) {c : Conn} {request : Request}
    (hmem : (c, request) ∈ s.host.attempt.requests) (err : ℕ) (session : Session) {next : Stage}
    (hnext : next.Exploring) :
    Coherent (({ s with session }.nextStage next).observe (.done c request err)) :=
  (h.withSession session).finish_nextStage hlive hmem err hnext

lemma session_resume (h : Coherent s) (hlive : s.Live) {c : Conn} {request : Request}
    (hmem : (c, request) ∈ s.host.attempt.requests) (err : ℕ) (session : Session) :
    Coherent (({ s with session }.submit .discovery).observe (.done c request err)) :=
  (h.withSession session).finish_resume hlive hmem err

lemma session_fail (h : Coherent s) (hlive : s.Live) (c : Conn) (request : Request) (err : ℕ)
    (error : ℤ) (session : Session) :
    Coherent (({ s with session }.fail error).observe (.done c request err)) :=
  (h.withSession session).finish_fail hlive c request err error

lemma exploring_of_stage {stage : Stage} (hstage : stage = .characteristics ∨
    stage = .descriptors ∨ stage = .reportMap ∨ stage = .reportReferences ∨ stage = .protocol ∨
    stage = .subscriptions) : stage.Exploring := by
  unfold Stage.Exploring
  rcases hstage with rfl | rfl | rfl | rfl | rfl | rfl <;> decide

lemma discoverEnd (h : Coherent s) (hlive : s.Live) {c : Conn} {request : Request}
    (hmem : (c, request) ∈ s.host.attempt.requests) :
    Coherent (s.discoverEnd.observe (.done c request 0)) := by
  unfold State.discoverEnd
  split
  case h_2 =>
    split
    · exact h.finish_fail hlive c request 0 _
    · exact h.finish_nextStage hlive hmem 0 (exploring_of_stage (by simp))
  case h_3 => exact h.finish_nextStage hlive hmem 0 (exploring_of_stage (by simp))
  all_goals exact h.finish_fail hlive c request 0 _

lemma discoverCharacteristic (h : Coherent s) (hlive : s.Live) (attr : Attr) (c : Conn)
    (request : Request) :
    Coherent ((s.discoverCharacteristic attr).1.finished
      ((s.discoverCharacteristic attr).2 && true) c request 0) := by
  unfold State.discoverCharacteristic
  dsimp only
  split
  case h_4 =>
    split
    · exact h.session_fail hlive c request 0 _ _
    · exact h.withSession _
  all_goals exact h.withSession _

lemma discovered (h : Coherent s) {c : Conn} {request : Request}
    (hmem : (c, request) ∈ s.host.attempt.requests) (attr : Option Attr) :
    Coherent ((s.discoverCb c attr).1.finished ((s.discoverCb c attr).2 && attr.isSome) c
      request 0) := by
  unfold State.discoverCb
  split
  case isTrue => exact h.done c request 0
  case isFalse hvalid =>
  rw [Bool.not_eq_true', Bool.not_eq_false] at hvalid
  have hlive := State.live_of_valid hvalid
  split
  case h_1 => exact h.discoverEnd hlive hmem
  case h_2 attr =>
  split
  case h_1 =>
    exact h.session_nextStage hlive hmem 0 _ (exploring_of_stage (.inl rfl))
  case h_2 => exact h.discoverCharacteristic hlive attr c request
  case h_3 => exact h.withSession _
  case h_4 => exact h

lemma readReportMap (h : Coherent s) (hlive : s.Live) {c : Conn} {request : Request}
    (hmem : (c, request) ∈ s.host.attempt.requests) (data : Option (List UInt8))
    (continues : Bool) (hend : data = none → continues = false) :
    Coherent ((s.readReportMap data).finished continues c request 0) := by
  unfold State.readReportMap
  split
  case h_1 =>
    split
    · cases continues with
      | false => exact h.finish_fail hlive c request 0 _
      | true => exact h.fail hlive.1 _
    · cases continues with
      | false => exact (h.withSession _).done c request 0
      | true => exact h.withSession _
  case h_2 =>
    obtain rfl := hend rfl
    exact h.finish_nextStage hlive hmem 0 (exploring_of_stage (by simp))

lemma readReference (h : Coherent s) (hlive : s.Live) {c : Conn} {request : Request}
    (hmem : (c, request) ∈ s.host.attempt.requests) (data : Option (List UInt8))
    (continues : Bool) (hend : data = none → continues = false) :
    Coherent ((s.readReference data).finished continues c request 0) := by
  unfold State.readReference
  split
  case h_1 =>
    split
    · cases continues with
      | false => exact h.finish_fail hlive c request 0 _
      | true => exact h.fail hlive.1 _
    · cases continues with
      | false => exact (h.withSession _).done c request 0
      | true => exact h.withSession _
  case h_2 =>
    obtain rfl := hend rfl
    split
    · exact h.session_resume hlive hmem 0 _
    · exact h.finish_fail hlive c request 0 _

lemma readDone (h : Coherent s) {c : Conn} {request : Request}
    (hmem : (c, request) ∈ s.host.attempt.requests) (err : ℕ) (data : Option (List UInt8)) :
    Coherent ((s.readCb c err data).1.finished
      ((s.readCb c err data).2 && decide (err = 0) && data.isSome) c request err) := by
  unfold State.readCb
  split
  case isTrue => exact h.done c request err
  case isFalse hvalid =>
  rw [Bool.not_eq_true', Bool.not_eq_false] at hvalid
  have hlive := State.live_of_valid hvalid
  split
  case isTrue => exact h.finish_fail hlive c request err _
  case isFalse herr =>
  obtain rfl := not_not.1 herr
  have hend (continues : Bool) :
      data = none → (continues && decide (0 = 0) && data.isSome) = false := by
    rintro rfl
    simp
  dsimp only
  split
  case h_1 => exact h.readReportMap hlive hmem data _ (hend _)
  case h_2 => exact h.readReference hlive hmem data _ (hend _)
  case h_3 =>
    exact h.finished _ c request 0

lemma written (h : Coherent s) {c : Conn} {request : Request}
    (hmem : (c, request) ∈ s.host.attempt.requests) (err : ℕ) :
    Coherent ((s.writtenCb c err).observe (.done c request err)) := by
  unfold State.writtenCb
  split
  case isTrue => exact h.done c request err
  case isFalse hvalid =>
  rw [Bool.not_eq_true', Bool.not_eq_false] at hvalid
  have hlive := State.live_of_valid hvalid
  split
  · exact h.finish_fail hlive c request err _
  · exact h.finish_nextStage hlive hmem err (exploring_of_stage (by simp))

lemma subscribed (h : Coherent s) {c : Conn} {request : Request}
    (hmem : (c, request) ∈ s.host.attempt.requests) (err i : ℕ) :
    Coherent ((s.subscribedCb c err i).observe (.done c request err)) := by
  unfold State.subscribedCb
  split
  case isTrue => exact h.done c request err
  case isFalse hvalid =>
  rw [Bool.not_eq_true', Bool.not_eq_false] at hvalid
  have hlive := State.live_of_valid hvalid
  split
  · exact h.finish_fail hlive c request err _
  · exact h.session_resume hlive hmem err _

lemma notifyCb (h : Coherent s) (c : Conn) (i : ℕ) (data : Option (List UInt8)) :
    Coherent (s.notifyCb c i data) := by
  unfold State.notifyCb
  split
  case isTrue => exact h
  case isFalse hvalid =>
  simp only [Bool.or_eq_true, Bool.not_eq_true', not_or, Bool.not_eq_false] at hvalid
  have hlive := State.live_of_valid hvalid.1
  split
  case h_1 => exact h.fail hlive.1 _
  case h_2 =>
  split
  case h_1 => exact h
  case h_2 =>
  split
  · exact ((h.withSession _).observe (.outputReceive _ _) trivial).submit trivial
  · exact h

/-! ### Discovery -/

/-- `discovery_work` has been taken off the queue, and may start a procedure. -/
structure Exploring (s : State) : Prop where
  live : s.Live
  requests : s.host.attempt.requests = []
  stage : s.stage.Exploring
  notQueued : .discovery ∉ s.work.queue

lemma Exploring.withSession (he : Exploring s) (session : Session) :
    Exploring { s with session } :=
  ⟨he.live, he.requests, he.stage, he.notQueued⟩

lemma Exploring.observe (he : Exploring s) (o : Obs) (ho : o.Neutral) :
    Exploring (s.observe o) := by
  refine ⟨he.live, ?_, he.stage, he.notQueued⟩
  rw [State.host_observe, (record_neutral s.host ho).2.2.2.1]
  exact he.requests

lemma Exploring.nextStage (he : Exploring s) (h : Coherent s) {next : Stage}
    (hnext : next.Exploring) : Coherent (s.nextStage next) :=
  h.nextStage he.live.1 (not_open_of_exploring he.stage) he.requests hnext

/-- A procedure starts where it belongs, or is refused. -/
lemma Exploring.startRequest (he : Exploring s) (h : Coherent s) (c : Conn) (request : Request)
    (hfits : request.Fits s.stage) (answer : ℤ) : Coherent (s.startRequest c request answer) := by
  have hhost : (s.observe (.gatt c request answer)).host =
      s.host.record (.gatt c request answer) := s.host_observe _
  have hgap := h.inConnect_eq_false he.live.1
  have hs : Coherent (s.observe (.gatt c request answer)) := by
    refine { h with gapWork := ?_, active := ?_, conn := ?_, addr := ?_, auto := ?_, token := ?_ }
    · intro hin
      exact absurd ((show s.inConnect = true from hin).symm.trans hgap) Bool.noConfusion
    · rw [hhost]
      exact h.active
    · rw [hhost]
      exact h.conn
    · rw [hhost]
      exact h.addr
    · rw [hhost]
      exact h.auto
    · intro _
      rw [hhost]
      by_cases hok : answer = 0
      · have hrequests : (s.host.record (.gatt c request answer)).attempt.requests
            = [(c, request)] := by
          show (if answer = 0 then s.host.attempt.requests ++ [(c, request)] else _) = _
          rw [if_pos hok, he.requests, List.nil_append]
        rw [hrequests]
        refine ⟨le_refl 1, ?_, fun hq => absurd hq he.notQueued⟩
        rintro r hr
        obtain rfl := List.mem_singleton.1 hr
        exact hfits
      · refine .of_nil ?_ fun hq => absurd hq he.notQueued
        show (if answer = 0 then s.host.attempt.requests ++ [(c, request)] else _) = _
        rw [if_neg hok]
        exact he.requests
  unfold State.startRequest
  dsimp only
  split
  · exact hs.fail he.live.1 _
  · exact hs

lemma Exploring.session_startRequest (he : Exploring s) (h : Coherent s) (session : Session)
    (c : Conn) (request : Request) (hfits : request.Fits s.stage) (answer : ℤ) :
    Coherent ({ s with session }.startRequest c request answer) :=
  (he.withSession session).startRequest (h.withSession session) c request hfits answer

lemma Exploring.session_nextStage (he : Exploring s) (h : Coherent s) (session : Session)
    {next : Stage} (hnext : next.Exploring) : Coherent ({ s with session }.nextStage next) :=
  (he.withSession session).nextStage (h.withSession session) hnext

lemma Exploring.session_fail (he : Exploring s) (h : Coherent s) (session : Session) (err : ℤ) :
    Coherent ({ s with session }.fail err) :=
  (h.withSession session).fail he.live.1 err

lemma becomeReady (h : Coherent s) (he : Exploring s) : Coherent s.becomeReady := by
  have hstage := not_open_of_exploring he.stage
  have hs : Coherent { s with pairing := false, stage := .ready, retryMs := 1000 } :=
    { h with
      idle := fun hidle => absurd (.inl he.live.1) hidle
      busy := fun _ => Stage.noConfusion
      gap := fun hin => absurd (h.gap hin).1 he.live.1
      completed := fun hq hconn => absurd (h.completed hq hconn) hstage
      auto := fun b hb => absurd (h.auto b hb).2.2 hstage
      token := fun _ => .of_nil he.requests fun hq => absurd hq he.notQueued }
  exact (hs.cancel .pairTimeout).cancel .timeout

lemma finishReady (h : Coherent s) (he : Exploring s) {c : Conn} (hc : s.mouseConn = some c)
    (a : Answers) : Coherent (s.finishReady c a) := by
  have hconn := he.live.1
  have hsaved := h.observe (.save c.dst a.save) trivial
  unfold State.finishReady
  split
  · exact h.fail hconn _
  · split
    · split
      · exact h.fail hconn _
      · dsimp only
        split
        · exact hsaved.fail hconn _
        · have hregistered := hsaved.observe (.registered c.dst) trivial
          have hs : Coherent { (s.observe (.save c.dst a.save)).observe (.registered c.dst) with
              peer := c.dst, havePeer := true, newCandidate := false } :=
            { hregistered with
              candidate := fun _ hnew => Bool.noConfusion hnew
              saved := fun _ _ => ⟨rfl, h.address c hc⟩ }
          refine hs.becomeReady ?_
          have heObs := (he.observe (.save c.dst a.save) trivial).observe (.registered c.dst)
            trivial
          exact ⟨heObs.live, heObs.requests, heObs.stage, heObs.notQueued⟩
    · exact h.becomeReady he

lemma Exploring.session_finishReady (he : Exploring s) (h : Coherent s) (session : Session)
    {c : Conn} (hc : s.mouseConn = some c) (a : Answers) :
    Coherent ({ s with session }.finishReady c a) :=
  (h.withSession session).finishReady (he.withSession session) hc a

lemma readNextReference (h : Coherent s) (he : Exploring s) (hstage : s.stage = .reportReferences)
    (c : Conn) (a : Answers) : Coherent (s.readNextReference c a) := by
  unfold State.readNextReference
  dsimp only
  split
  · exact he.session_nextStage h _ (exploring_of_stage (by simp))
  · exact he.session_startRequest h _ c (.read _) (.inr hstage) _

lemma readReferences (h : Coherent s) (he : Exploring s) (hstage : s.stage = .reportReferences)
    (c : Conn) (a : Answers) : Coherent (s.readReferences c a) := by
  unfold State.readReferences
  split
  · split
    · exact h.fail he.live.1 _
    · rename_i map _
      have ht : Coherent { s with session := { s.session with map } } := h.withSession _
      dsimp only
      split
      · exact ht.fail he.live.1 _
      · exact ht.readNextReference (he.withSession _) hstage c a
  · exact h.readNextReference he hstage c a

lemma setProtocol (h : Coherent s) (he : Exploring s) (hstage : s.stage = .protocol) (c : Conn)
    (a : Answers) : Coherent (s.setProtocol c a) := by
  have hnext : Stage.Exploring .subscriptions := exploring_of_stage (by simp)
  unfold State.setProtocol
  split
  · exact he.nextStage h hnext
  · split
    · have hs := h.observe (.command c s.session.protocolHandle s.session.protocol a.protocol)
        trivial
      dsimp only
      split
      · exact hs.fail he.live.1 _
      · exact (he.observe (.command _ _ _ _) trivial).nextStage hs hnext
    · exact he.startRequest h c (.write _ _) hstage _

lemma selectProtocol (h : Coherent s) (he : Exploring s) (hstage : s.stage = .protocol) (c : Conn)
    (a : Answers) : Coherent (s.selectProtocol c a) := by
  let t : State := { s with session := { s.session with protocol := 1 } }
  have ht : Coherent t := h.withSession _
  have het : Exploring t := he.withSession _
  have hs := ht.observe (.command c t.session.controlHandle t.session.protocol a.control) trivial
  show Coherent (if t.session.controlHandle ≠ 0 then _ else t.setProtocol c a)
  split
  · dsimp only
    split
    · exact hs.fail he.live.1 _
    · exact hs.setProtocol (het.observe (.command _ _ _ _) trivial) hstage c a
  · exact ht.setProtocol het hstage c a

lemma subscribeNext (h : Coherent s) (he : Exploring s) (hstage : s.stage = .subscriptions)
    {c : Conn} (hc : s.mouseConn = some c) (a : Answers) : Coherent (s.subscribeNext c a) := by
  unfold State.subscribeNext
  dsimp only
  split
  · split
    · exact he.session_fail h _ _
    · exact he.session_startRequest h _ c (.subscribe _ _ _) hstage _
  · split
    · exact he.session_finishReady h _ hc a
    · exact h.withSession _

lemma discoveryWorkCb (h : Coherent s) (hnotQueued : .discovery ∉ s.work.queue)
    (hready : s.Live → s.host.attempt.requests = [] ∧ s.stage.Exploring) (a : Answers) :
    Coherent (s.discoveryWorkCb a) := by
  unfold State.discoveryWorkCb
  split
  case h_1 => exact h
  case h_2 c hc =>
  split
  case isTrue => exact h
  case isFalse hfailed =>
  rw [not_or, not_not] at hfailed
  have hlive : s.Live := ⟨hc ▸ Option.some_ne_none c, hfailed⟩
  have he : Exploring s := ⟨hlive, (hready hlive).1, (hready hlive).2, hnotQueued⟩
  split
  case h_1 hstage => exact he.startRequest h c (.discover _ _ _) (.inl hstage) _
  case h_2 hstage => exact he.startRequest h c (.discover _ _ _) (.inr (.inl hstage)) _
  case h_3 hstage => exact he.startRequest h c (.discover _ _ _) (.inr (.inr hstage)) _
  case h_4 hstage => exact he.startRequest h c (.read _) (.inl hstage) _
  case h_5 hstage => exact h.readReferences he hstage c a
  case h_6 hstage => exact h.selectProtocol he hstage c a
  case h_7 hstage => exact h.subscribeNext he hstage hc a
  case h_8 => exact h

/-! ### Steps and runs -/

lemma initialized_of_mem (h : Coherent s) {w : Work} (hw : w ∈ s.work.queue) :
    s.initialized = true := by
  by_contra hoff
  rw [(h.off (Bool.eq_false_of_not_eq_true hoff)).1] at hw
  exact List.not_mem_nil hw

lemma initialized_of_engaged (h : Coherent s) (hengaged : s.Engaged) : s.initialized = true := by
  by_contra hinit
  obtain ⟨-, -, hconn, hgap⟩ := h.off (Bool.eq_false_of_not_eq_true hinit)
  exact State.not_engaged hconn hgap hengaged

/-- A valid callback comes after the start. -/
lemma initialized_of_valid (h : Coherent s) {c : Conn} (hvalid : ¬(!s.validCallback c) = true) :
    s.initialized = true := by
  rw [Bool.not_eq_true', Bool.not_eq_false] at hvalid
  exact h.initialized_of_engaged (.inl (State.live_of_valid hvalid).1)

/-- What is known when `connect_work` has been taken off the queue. -/
lemma connecting_take (h : Coherent s) (hgap : s.inConnect = false) {rest : List Work}
    (hq : s.work.queue = .connect :: rest) : Connecting (s.take .connect rest) := by
  have hmem : .connect ∈ s.work.queue := hq ▸ List.mem_cons_self
  have hnodup : (Work.connect :: rest).Nodup := hq ▸ h.nodup
  have hfresh := h.fresh
  rw [hq, List.pairwise_cons] at hfresh
  exact ⟨h.initialized_of_mem hmem, hgap, (h.connect hmem).2, (List.nodup_cons.1 hnodup).1,
    fun v hv => hfresh.1 v hv rfl⟩

lemma run (maxPaired : ℕ) (h : Coherent s) (hgap : s.inConnect = false) {w : Work}
    {rest : List Work} (hq : s.work.queue = w :: rest) {a : Answers}
    (hlookup : ∀ c ∈ a.lookup, c.dst = s.pendingAddress) :
    Coherent ((s.take w rest).run maxPaired w a) := by
  have ht := h.take hq
  have hmem : w ∈ s.work.queue := hq ▸ List.mem_cons_self
  have hnodup : (w :: rest).Nodup := hq ▸ h.nodup
  have hnotQueued : w ∉ (s.take w rest).work.queue := (List.nodup_cons.1 hnodup).1
  cases w with
  | discovery =>
    refine ht.discoveryWorkCb hnotQueued ?_ a
    intro hlive
    obtain ⟨hrequests, hstage⟩ := (h.token hlive).discovery hmem
    refine ⟨?_, hstage⟩
    rw [State.take, State.host_observe]
    exact hrequests
  | failure => exact ht.failureWorkCb hgap a
  | retry => exact ht.retryWorkCb hgap
  | timeout => exact ht.timeoutWorkCb
  | pairTimeout => exact ht.pairTimeoutCb hgap
  | connected => exact ht.connectedWorkCb hgap hnotQueued (h.completed hmem) a
  | disconnected => exact ht.disconnectedWorkCb a
  | pair => exact ht.pairWorkCb maxPaired hgap
  | clear => exact ht.clearWorkCb hgap a
  | scan => exact ht.scanWorkCb a
  | connect => exact ht.connectWorkCb maxPaired (h.connecting_take hgap hq) hlookup
  | settle => exact ht.settleWorkCb
  | output => exact ht

/-- Every step preserves the coherence. -/
theorem step {maxPaired : ℕ} (h : Coherent s) {l : Label} {s' : State}
    (hstep : Step maxPaired s l s') : Coherent s' := by
  obtain ⟨hallows, hstep⟩ := hstep
  cases moves_of_step hstep with
  | work hgap hq => exact h.run maxPaired hgap hq hallows
  | @connectBegin a rest hgap hq =>
    exact (h.take hq).connectWorkBegin maxPaired (h.connecting_take hgap hq) a
  | connectEnd hin => exact h.connectWorkEnd hin hallows
  | expire hw => exact h.expire hw
  | connected c err =>
    refine (h.observe (.connected c err) trivial).connectedCb c err ?_
    intro hengaged hdst
    refine (h.auto c.dst (hallows (h.active.1 hengaged) ?_)).2.2
    exact hdst.trans (h.addr hengaged).symm
  | disconnected c => exact (h.observe (.disconnected c) trivial).disconnectedCb c
  | connectionChanged scanStop => exact h.connectionChanged scanStop
  | securityChanged c level err => exact h.securityCb c level err
  | pairingComplete c bonded =>
    exact (h.observe (.pairingComplete c bonded) trivial).pairingCompleteCb c bonded
  | pairingFailed c => exact h.pairingFailedCb c
  | discovered c type start stop attr => exact h.discovered hallows attr
  | readDone c handle err data => exact h.readDone hallows err data
  | written c handle value err => exact h.written hallows err
  | subscribed c i value ccc err => exact h.subscribed hallows err i
  | notified c i data => exact h.notifyCb c i data
  | advertisement addr type data now => exact h.zmkBleMouseAdvertisement addr type data now
  | pair => exact h.zmkBleMousePair
  | clearHold pressed => exact (h.observe (.clearKey pressed) trivial).zmkBleMouseClearHold pressed
  | settings name length contents result =>
    obtain ⟨-, -, hconn, hgap⟩ := h.off (h.start.trans hallows)
    exact (h.observe (.load name length contents result) trivial).settingsSet
      (State.not_engaged hconn hgap) name length contents result
  | start => exact h.zmkBleMouseStart

end Coherent

lemma coherent_init (bonds : List Addr) : Coherent (State.init bonds) := by
  have hidle : ¬(State.init bonds).Engaged := State.not_engaged rfl rfl
  have hhost : (State.init bonds).host = { bonds } := rfl
  exact {
    nodup := List.nodup_nil
    fresh := List.Pairwise.nil
    start := rfl
    off := fun _ => ⟨rfl, rfl, rfl, rfl⟩
    timers := fun w hw => absurd hw List.not_mem_nil
    idle := fun _ => rfl
    busy := fun hconn => absurd rfl hconn
    gap := fun hin => absurd (.inr hin) hidle
    gapRequest := fun hin => absurd (.inr hin) hidle
    gapWork := fun hin => absurd (.inr hin) hidle
    scan := fun _ => hidle
    connect := fun hq => absurd hq List.not_mem_nil
    timeout := fun hp => by rcases hp with hp | hp <;> exact absurd hp List.not_mem_nil
    failed := fun hq => absurd hq List.not_mem_nil
    completed := fun hq => absurd hq List.not_mem_nil
    active := by
      rw [hhost]
      exact iff_of_false hidle Bool.false_ne_true
    conn := fun hin => absurd hin hidle
    addr := fun hin => absurd hin hidle
    address := fun c hc => absurd hc (Option.some_ne_none c).symm
    auto := fun b hb => by
      rw [hhost] at hb
      exact absurd hb List.not_mem_nil
    candidate := fun hin => absurd hin hidle
    saved := fun hin => absurd hin hidle
    token := fun hlive => absurd rfl hlive.1 }

/-- Every state of a run is coherent. -/
theorem run_coherent {maxPaired : ℕ} {bonds : List Addr} {labels : List Label} {s : State}
    (hrun : Run maxPaired (State.init bonds) labels s) : Coherent s :=
  Transition.Run.invariant hrun Coherent (coherent_init bonds) fun _ _ _ h hstep => h.step hstep

end BleMouse.Client
