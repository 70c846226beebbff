/-
The coherence of attempts, links and registration: every function of `Client/Link.lean`
preserves `Coherent`.

The ends of an attempt go through `closeAttempt`, which needs auto-connect to be disabled for
its address.  An attempt begins in `connectMouse`, which needs that the queue holds no work of
an earlier one.
-/
import BleMouse.Client.Coherence

namespace BleMouse.Client

namespace State

variable {s : State} {v w : Work} {delay : ℕ}

lemma mem_submit_of_ne (hne : v ≠ w) : v ∈ (s.submit w).work.queue ↔ v ∈ s.work.queue := by
  unfold State.submit
  by_cases hinit : s.initialized = true
  · rw [if_pos hinit, WorkQueue.mem_submit, or_iff_left hne]
  · rw [if_neg hinit]

lemma mem_schedule_of_ne (hne : v ≠ w) :
    v ∈ (s.schedule w delay).work.queue ↔ v ∈ s.work.queue := by
  unfold State.schedule
  by_cases hinit : s.initialized = true
  · rw [if_pos hinit]
    exact WorkQueue.mem_reschedule_of_ne hne
  · rw [if_neg hinit]

lemma connect_mem_requestRetry :
    .connect ∈ s.requestRetry.work.queue ↔ .connect ∈ s.work.queue := by
  show .connect ∈
    (({ s with scanWanted := false }.scanRefresh).schedule .retry s.retryMs).work.queue ↔ _
  rw [mem_schedule_of_ne (by decide), State.scanRefresh, mem_schedule_of_ne (by decide)]

/-- Stopping the scan changes who owns it and nothing else. -/
lemma stopOwnScan_eq (s : State) (answer : ℤ) :
    ∃ scanOwned journal, (s.stopOwnScan answer).1 = { s with scanOwned, journal } := by
  unfold State.stopOwnScan
  split
  · exact ⟨s.scanOwned, s.journal, rfl⟩
  · split
    · exact ⟨true, _, rfl⟩
    · exact ⟨false, _, rfl⟩

lemma connectMouse_pendingAddress (maxPaired : ℕ) (s : State) (addr : Addr) (a : Answers) :
    (s.connectMouse maxPaired addr a).1.pendingAddress = s.pendingAddress := by
  unfold State.connectMouse
  split
  · rfl
  · dsimp only
    split_ifs <;> rfl

lemma connectWorkBegin_pendingAddress (maxPaired : ℕ) (s : State) (a : Answers) :
    (s.connectWorkBegin maxPaired a).pendingAddress = s.pendingAddress := by
  have hreturned (t : State) (err : ℤ) :
      (t.connectReturned err).pendingAddress = t.pendingAddress := by
    unfold State.connectReturned
    dsimp only
    split <;> rfl
  obtain ⟨scanOwned, journal, hstopped⟩ := s.stopOwnScan_eq a.scanStop
  unfold State.connectWorkBegin
  dsimp only
  rw [hstopped]
  split
  · exact hreturned _ _
  · split
    · exact connectMouse_pendingAddress _ _ _ _
    · rw [hreturned]
      exact connectMouse_pendingAddress _ _ _ _

end State

namespace Coherent

variable {s : State}

/-! ### Facts about attempts -/

lemma inConnect_eq_false (h : Coherent s) (hconn : s.mouseConn ≠ none) : s.inConnect = false := by
  by_contra hgap
  exact hconn (h.gap (Bool.eq_true_of_not_eq_false hgap)).1

lemma autoConn_eq_nil_of_idle (h : Coherent s) (hidle : ¬s.Engaged) : s.host.autoConn = [] := by
  refine List.eq_nil_iff_forall_not_mem.2 fun a ha => ?_
  exact hidle (h.auto a ha).2.1

lemma autoConnOff_eq_nil (h : Coherent s) :
    (s.observe (.autoConnOff s.connectingAddress)).host.autoConn = [] := by
  rw [State.host_observe]
  refine List.eq_nil_iff_forall_not_mem.2 fun a ha => ?_
  obtain ⟨hmem, hne⟩ := List.mem_filter.1 ha
  exact (of_decide_eq_true hne) (h.auto a hmem).1

/-- Outside the stages of discovery nothing is under way. -/
lemma requests_eq_nil (h : Coherent s) (hlive : s.Live) (hstage : ¬s.stage.Exploring) :
    s.host.attempt.requests = [] ∧ .discovery ∉ s.work.queue := by
  have htoken := h.token hlive
  constructor
  · refine List.eq_nil_iff_forall_not_mem.2 fun r hr => hstage ?_
    have hfits := htoken.fits r hr
    unfold Stage.Exploring
    obtain ⟨c, request⟩ := r
    cases request with
    | discover => rcases hfits with hfits | hfits | hfits <;> rw [hfits] <;> decide
    | read => rcases hfits with hfits | hfits <;> rw [hfits] <;> decide
    | write => rw [show s.stage = .protocol from hfits]; decide
    | subscribe => rw [show s.stage = .subscriptions from hfits]; decide
  · intro hq
    exact hstage (htoken.discovery hq).2

/-! ### Failures and retries -/

lemma autoConnOff (h : Coherent s) (addr : Addr) : Coherent (s.observe (.autoConnOff addr)) := by
  refine { h with gapWork := ?_, active := ?_, conn := ?_, addr := ?_, auto := ?_, token := ?_ }
  · rw [State.host_observe]
    exact h.gapWork
  · rw [State.host_observe]
    exact h.active
  · rw [State.host_observe]
    exact h.conn
  · rw [State.host_observe]
    exact h.addr
  · rw [State.host_observe]
    intro a ha
    exact h.auto a (List.mem_filter.1 ha).1
  · rw [State.host_observe]
    exact h.token

lemma fail (h : Coherent s) (hconn : s.mouseConn ≠ none) (err : ℤ) : Coherent (s.fail err) := by
  let failure := if s.failure ≠ 0 then s.failure else if err ≠ 0 then err else -eIo
  have hfailure : failure ≠ 0 := by
    by_cases hs : s.failure = 0
    · by_cases he : err = 0
      · simp [failure, hs, he, eIo]
      · simp [failure, hs, he]
    · simp [failure, hs]
  have hfailed : Coherent { s with failure } :=
    { h with
      gap := fun hgap => absurd (h.gap hgap).1 hconn
      failed := fun _ _ => hfailure
      token := fun hlive => absurd hlive.2.1 hfailure }
  exact hfailed.submit ⟨hconn, hfailure⟩

lemma unpair (h : Coherent s) (addr : Addr) (err : ℤ) : Coherent (s.unpair addr err) :=
  h.observe _ trivial

lemma outputDisconnect (h : Coherent s) : Coherent s.outputDisconnect :=
  (h.observe .outputDisconnect trivial).submit trivial

lemma requestRetry (h : Coherent s) : Coherent s.requestRetry := by
  have hstopped : Coherent { s with scanWanted := false } :=
    { h with scan := fun hwanted => absurd hwanted Bool.false_ne_true }
  have hretry : Coherent (({ s with scanWanted := false } : State).scanRefresh.schedule .retry
      s.retryMs) := hstopped.scanRefresh.schedule trivial trivial
  exact { hretry with }

lemma retryWorkCb (h : Coherent s) (hgap : s.inConnect = false) : Coherent s.retryWorkCb := by
  let wanted := s.mouseConn.isNone && (s.havePeer || s.pairing) &&
    !(s.havePeer && !s.isBonded s.peer)
  have hidle (hwanted : wanted = true) : ¬s.Engaged := by
    refine State.not_engaged ?_ hgap
    simp only [wanted, Bool.and_eq_true] at hwanted
    exact Option.isNone_iff_eq_none.1 hwanted.1.1
  have hs : Coherent { s with scanWanted := wanted } := { h with scan := hidle }
  show Coherent (if wanted && s.havePeer then
    ({ s with scanWanted := wanted } : State).centralConnect s.peer
    else { s with scanWanted := wanted }).scanRefresh
  split
  case isTrue hcond =>
    rw [Bool.and_eq_true] at hcond
    exact (hs.centralConnect (hidle hcond.1)).scanRefresh
  case isFalse => exact hs.scanRefresh

/-! ### The end of an attempt -/

lemma closeAttempt (h : Coherent s) (hgap : s.inConnect = false) (hauto : s.host.autoConn = []) :
    Coherent s.closeAttempt := by
  have hcancelled := h.cancel .timeout
  have htimeout : ¬(s.cancel .timeout).work.Pending .timeout :=
    fun hp => (WorkQueue.pending_cancel.1 hp).2 rfl
  have hnot : ¬s.closeAttempt.Engaged := State.not_engaged rfl hgap
  have hhost : s.closeAttempt.host = s.host.record .ended :=
    State.host_observe { s with mouseConn := none, failure := 0, stage := .idle } .ended
  have hactive : s.closeAttempt.host.attempt.active = false := by
    rw [hhost]
    rfl
  exact { hcancelled with
    off := fun hoff => by
      obtain ⟨hq, ha, -, hin⟩ := hcancelled.off hoff
      exact ⟨hq, ha, rfl, hin⟩
    idle := fun _ => rfl
    busy := fun hconn => absurd rfl hconn
    gap := fun hin => absurd (.inr hin) hnot
    gapRequest := fun hin => absurd (.inr hin) hnot
    gapWork := fun hin => absurd (.inr hin) hnot
    scan := fun _ => hnot
    connect := fun hq => ⟨hnot, (hcancelled.connect hq).2⟩
    timeout := fun hp => absurd hp htimeout
    failed := fun _ hconn => absurd rfl hconn
    completed := fun _ hconn => absurd rfl hconn
    active := by
      rw [hactive]
      exact iff_of_false hnot Bool.false_ne_true
    conn := fun hin => absurd hin hnot
    addr := fun hin => absurd hin hnot
    address := fun c hc => absurd hc (Option.some_ne_none c).symm
    auto := fun a ha => by
      rw [hhost, show (s.host.record .ended).autoConn = s.host.autoConn from rfl, hauto] at ha
      exact absurd ha List.not_mem_nil
    candidate := fun hin => absurd hin hnot
    saved := fun hin => absurd hin hnot
    token := fun hlive => absurd rfl hlive.1 }

lemma forgotten (h : Coherent s) : Coherent s.forgotten := by
  have hs : Coherent { s with forgetRequested := false } := { h with }
  exact hs.outputDisconnect.scanRefresh

lemma forgetPeer (h : Coherent s) (hidle : ¬s.Engaged) (a : Answers) :
    Coherent (s.forgetPeer a) := by
  have hstopped : Coherent { s with pairing := false, scanWanted := false } :=
    { h with scan := fun hwanted => absurd hwanted Bool.false_ne_true }
  have hs := hstopped.cancel .pairTimeout
  unfold State.forgetPeer
  dsimp only
  split
  · split
    · exact { hs.unpair _ _ with }
    · have hdeleted := (hs.unpair s.peer a.unpairPeer).observe (.delete a.delete) trivial
      have hforgot : Coherent { (({ s with pairing := false, scanWanted := false } :
          State).cancel .pairTimeout |>.unpair s.peer a.unpairPeer).observe (.delete a.delete) with
          havePeer := false } :=
        { hdeleted with
          candidate := fun hin => absurd hin hidle
          saved := fun hin => absurd hin hidle }
      exact hforgot.forgotten
  · exact hs.forgotten

lemma forgetIfRequested (h : Coherent s) (hidle : ¬s.Engaged) (a : Answers) :
    Coherent (s.forgetIfRequested a) := by
  unfold State.forgetIfRequested
  split
  · exact h.forgetPeer hidle a
  · exact h

lemma hungUp (h : Coherent s) (hgap : s.inConnect = false) (hoff : s.host.autoConn = [])
    {c : Conn} (a : Answers) : Coherent (s.hungUp c a) := by
  have hclosed : Coherent (s.observe (.unref c)).closeAttempt := by
    refine closeAttempt (h.observe _ trivial) hgap ?_
    rw [State.host_observe]
    exact hoff
  have hs : Coherent { (s.observe (.unref c)).closeAttempt with candidateBonded := false } :=
    { hclosed with }
  exact (hs.outputDisconnect.forgetIfRequested (State.not_engaged rfl hgap) a).requestRetry

lemma disconnectedWorkCb (h : Coherent s) (a : Answers) : Coherent (s.disconnectedWorkCb a) := by
  rcases s.disconnectedWorkCb_cases a with ⟨-, heq⟩ | ⟨c, t, hc, ht, heq⟩
  · rw [heq]
    exact h
  · have hgap := h.inConnect_eq_false (hc ▸ Option.some_ne_none c)
    have hoff := h.autoConnOff_eq_nil
    rw [← h.address c hc] at hoff
    rw [heq]
    cases ht with
    | kept => exact (h.autoConnOff c.dst).hungUp hgap hoff a
    | unpaired =>
      refine ((h.autoConnOff c.dst).unpair c.dst a.unpairCandidate).hungUp hgap ?_ a
      rw [State.unpair, State.host_observe]
      exact hoff

lemma failureWorkCb (h : Coherent s) (hgap : s.inConnect = false) (a : Answers) :
    Coherent (s.failureWorkCb a) := by
  unfold State.failureWorkCb
  split
  case h_1 c hc =>
    have hconn : s.mouseConn ≠ none := hc ▸ Option.some_ne_none c
    have hclosing : Coherent { s with stage := .closing, scanWanted := false } :=
      { h with
        idle := fun hidle => absurd (.inl hconn) hidle
        busy := fun _ => Stage.noConfusion
        gap := fun hin => absurd (h.gap hin).1 hconn
        scan := fun hwanted => absurd hwanted Bool.false_ne_true
        completed := fun _ _ => .inr rfl
        auto := fun b hb => ⟨(h.auto b hb).1, (h.auto b hb).2.1, .inr rfl⟩
        token := fun hlive => absurd rfl hlive.2.2 }
    have hs := hclosing.observe (.disconnect c a.disconnect) trivial
    dsimp only
    split
    · exact hs.disconnectedWorkCb a
    · exact hs
  case h_2 hc =>
    have hidle : ¬s.Engaged := State.not_engaged hc hgap
    have hs : Coherent { s with stage := .idle, scanWanted := false, failure := 0 } :=
      { h with
        idle := fun _ => rfl
        busy := fun hconn => absurd hc hconn
        gap := fun hin => absurd (.inr hin) hidle
        scan := fun hwanted => absurd hwanted Bool.false_ne_true
        failed := fun _ hconn => absurd hc hconn
        completed := fun _ hconn => absurd hc hconn
        auto := fun b hb => absurd (h.auto b hb).2.1 hidle
        token := fun hlive => absurd hc hlive.1 }
    exact hs.requestRetry

lemma timeoutWorkCb (h : Coherent s) : Coherent s.timeoutWorkCb := by
  unfold State.timeoutWorkCb
  split
  case isTrue hcond =>
    rw [Bool.and_eq_true, Option.isSome_iff_ne_none] at hcond
    exact h.fail hcond.1 _
  case isFalse => exact h

lemma pairTimeoutCb (h : Coherent s) (hgap : s.inConnect = false) : Coherent s.pairTimeoutCb := by
  have hclosed : Coherent { s with pairing := false } := { h with }
  unfold State.pairTimeoutCb
  dsimp only
  split
  case isTrue hcond =>
    simp only [Bool.and_eq_true, Option.isSome_iff_ne_none] at hcond
    exact (hclosed.fail hcond.1.1 _).retryWorkCb hgap
  case isFalse => exact hclosed.retryWorkCb hgap

/-! ### The beginning of an attempt -/

/-- `connect_work_cb` has been taken off the queue. -/
structure Connecting (s : State) : Prop where
  initialized : s.initialized = true
  inConnect : s.inConnect = false
  connecting : s.connecting = true
  notQueued : .connect ∉ s.work.queue
  noneLeft : ∀ w ∈ s.work.queue, ¬w.OfAttempt

lemma connectMouse (maxPaired : ℕ) (h : Coherent s) (hs : Connecting s) (a : Answers) :
    Coherent (s.connectMouse maxPaired s.pendingAddress a).1 ∧
      .connect ∉ (s.connectMouse maxPaired s.pendingAddress a).1.work.queue := by
  unfold State.connectMouse
  split
  case isTrue => exact ⟨h, hs.notQueued⟩
  case isFalse hnew =>
  simp only [Bool.or_eq_true, Option.isSome_iff_ne_none, not_or, not_not] at hnew
  have hnone : s.mouseConn = none := hnew.1
  have hidle : ¬s.Engaged := State.not_engaged hnone hs.inConnect
  dsimp only
  split
  case isTrue => exact ⟨h, hs.notQueued⟩
  case isFalse hwanted =>
  simp only [Bool.or_eq_true, Bool.and_eq_true, decide_eq_true_eq, not_or, not_and, not_not,
    Bool.not_eq_true', Bool.not_eq_false] at hwanted
  split
  case isTrue => exact ⟨h, hs.notQueued⟩
  case isFalse =>
  split
  case isTrue =>
    refine ⟨{ h with scan := fun hwanted => absurd hwanted Bool.false_ne_true }, hs.notQueued⟩
  case isFalse =>
  split
  case isTrue =>
    -- auto-connect was refused
    rw [State.connect_mem_requestRetry]
    refine ⟨requestRetry ?_, hs.notQueued⟩
    exact { h with
      idle := fun _ => rfl
      busy := fun hconn => absurd hnone hconn
      gap := fun hin => absurd (.inr hin) hidle
      gapRequest := fun hin => absurd (.inr hin) hidle
      scan := fun hwanted => absurd hwanted Bool.false_ne_true
      failed := fun _ hconn => absurd hnone hconn
      completed := fun _ hconn => absurd hnone hconn
      addr := fun hin => absurd hin hidle
      address := fun c hc => absurd (hnone.symm.trans hc) (Option.some_ne_none c).symm
      auto := fun b hb => absurd (h.auto b hb).2.1 hidle
      candidate := fun hin => absurd hin hidle
      saved := fun hin => absurd hin hidle
      token := fun hlive => absurd hnone hlive.1 }
  case isFalse =>
    refine ⟨?_, hs.notQueued⟩
    have hauto := h.autoConn_eq_nil_of_idle hidle
    exact { h with
      off := fun hoff => Bool.noConfusion (hs.initialized.symm.trans hoff)
      idle := fun hin => absurd (.inr rfl) hin
      busy := fun hconn => absurd hnone hconn
      gap := fun _ => ⟨hnone, rfl, rfl⟩
      gapRequest := fun _ => ⟨hs.connecting, rfl⟩
      gapWork := fun _ => by
        refine ⟨fun hq => hs.noneLeft _ hq trivial, fun hq => hs.noneLeft _ hq trivial,
          fun hq => hs.noneLeft _ hq trivial, ?_⟩
        show (State.host (State.observe _ _)).attempt.requests = []
        rw [State.host_observe]
        rfl
      scan := fun hwanted => absurd hwanted Bool.false_ne_true
      connect := fun hq => absurd hq hs.notQueued
      failed := fun _ hconn => absurd hnone hconn
      completed := fun _ hconn => absurd hnone hconn
      active := by
        show _ ↔ (State.host (State.observe _ _)).attempt.active = true
        rw [State.host_observe]
        exact iff_of_true (.inr rfl) rfl
      conn := fun _ => by
        show (State.host (State.observe _ _)).attempt.conn = _
        rw [State.host_observe]
        exact hnone.symm
      addr := fun _ => by
        show (State.host (State.observe _ _)).attempt.addr = _
        rw [State.host_observe]
        rfl
      address := fun c hc => absurd (hnone.symm.trans hc) (Option.some_ne_none c).symm
      auto := fun b hb => by
        change b ∈ (State.host (State.observe _ _)).autoConn at hb
        rw [State.host_observe] at hb
        change b ∈ if s.pendingAddress ∈ s.host.autoConn then s.host.autoConn
          else s.host.autoConn ++ [s.pendingAddress] at hb
        rw [hauto, if_neg List.not_mem_nil, List.nil_append, List.mem_singleton] at hb
        exact ⟨hb, .inr rfl, .inl rfl⟩
      candidate := fun _ hnew => (Bool.not_eq_true' s.havePeer).mp hnew
      saved := fun _ hnew => by
        have hknown : s.havePeer = true := (Bool.not_eq_false' s.havePeer).mp hnew
        exact ⟨hknown, (hwanted.1 hknown).symm⟩
      token := fun hlive => absurd hnone hlive.1 }

lemma connectMouseLookup (h : Coherent s) (hin : s.inConnect = true) {a : Answers}
    (hlookup : ∀ c ∈ a.lookup, c.dst = s.pendingAddress) :
    Coherent (s.connectMouseLookup s.pendingAddress a).1 ∧
      .connect ∉ (s.connectMouseLookup s.pendingAddress a).1.work.queue ∧
      (s.connectMouseLookup s.pendingAddress a).1.inConnect = false := by
  have hengaged : s.Engaged := .inr hin
  obtain ⟨hnone, hstage, hfailure⟩ := h.gap hin
  obtain ⟨-, haddr⟩ := h.gapRequest hin
  obtain ⟨hfailed, -, hexploring, hrequests⟩ := h.gapWork hin
  have hconnect : .connect ∉ s.work.queue := fun hq => (h.connect hq).1 hengaged
  unfold State.connectMouseLookup
  rcases hfound : a.lookup with _ | c
  · -- no connection: auto-connect is switched off again
    have hidle : ¬({ s with mouseConn := none, inConnect := false } : State).Engaged :=
      State.not_engaged rfl rfl
    show Coherent (State.requestRetry _) ∧ .connect ∉ (State.requestRetry _).work.queue ∧ _
    rw [State.connect_mem_requestRetry]
    refine ⟨requestRetry ?_, hconnect, rfl⟩
    exact { h with
      off := fun hoff => by
        obtain ⟨hq, ha, -, -⟩ := h.off hoff
        exact ⟨hq, ha, rfl, rfl⟩
      idle := fun _ => rfl
      busy := fun hconn => absurd rfl hconn
      gap := fun hgap => absurd hgap Bool.false_ne_true
      gapRequest := fun hgap => absurd hgap Bool.false_ne_true
      gapWork := fun hgap => absurd hgap Bool.false_ne_true
      scan := fun _ => hidle
      connect := fun hq => absurd hq hconnect
      timeout := fun hp => absurd hnone (h.timeout hp)
      failed := fun _ hconn => absurd rfl hconn
      completed := fun _ hconn => absurd rfl hconn
      active := by
        show _ ↔ (State.host (State.observe (State.observe _ _) _)).attempt.active = true
        rw [State.host_observe, State.host_observe]
        refine iff_of_false hidle ?_
        simp [History.record, Attempt.record]
      conn := fun hgap => absurd hgap hidle
      addr := fun hgap => absurd hgap hidle
      address := fun c hc => absurd hc (Option.some_ne_none c).symm
      auto := fun b hb => by
        change b ∈ (State.host (State.observe (State.observe _ _) _)).autoConn at hb
        rw [State.host_observe, State.host_observe] at hb
        obtain ⟨hmem, hne⟩ := List.mem_filter.1 hb
        exact absurd ((h.auto b hmem).1.trans haddr.symm) (of_decide_eq_true hne)
      candidate := fun hgap => absurd hgap hidle
      saved := fun hgap => absurd hgap hidle
      token := fun hlive => absurd rfl hlive.1 }
  · have hfoundAddr : c.dst = s.connectingAddress := (hlookup c hfound).trans haddr
    have hs : Coherent ({ s with mouseConn := some c, inConnect := false }.observe
        (.lookup s.pendingAddress (some c))) := by
      have hhost := State.host_observe { s with mouseConn := some c, inConnect := false }
        (.lookup s.pendingAddress (some c))
      exact { h with
        off := fun hoff => absurd hin (by rw [(h.off hoff).2.2.2]; exact Bool.false_ne_true)
        idle := fun hidle => absurd (.inl (Option.some_ne_none c)) hidle
        busy := fun _ => by
          rw [show _ = Stage.connecting from hstage]
          exact Stage.noConfusion
        gap := fun hgap => absurd hgap Bool.false_ne_true
        gapRequest := fun hgap => absurd hgap Bool.false_ne_true
        gapWork := fun hgap => absurd hgap Bool.false_ne_true
        scan := fun hwanted => absurd hengaged (h.scan hwanted)
        connect := fun hq => absurd hq hconnect
        timeout := fun _ => Option.some_ne_none c
        failed := fun hq => absurd hq hfailed
        completed := fun _ _ => .inl hstage
        active := by
          rw [hhost]
          refine iff_of_true (.inl (Option.some_ne_none c)) ?_
          simp [History.record, Attempt.record, h.active.1 hengaged,
            show ({ s with mouseConn := some c, inConnect := false } : State).host = s.host
              from rfl]
        conn := fun _ => by
          rw [hhost]
          rfl
        addr := fun _ => by
          rw [hhost]
          exact h.addr hengaged
        address := fun b hb => by
          obtain rfl := Option.some.inj hb
          exact hfoundAddr
        auto := fun b hb => by
          rw [hhost] at hb
          exact ⟨(h.auto b hb).1, .inl (Option.some_ne_none c), .inl hstage⟩
        candidate := fun _ => h.candidate hengaged
        saved := fun _ => h.saved hengaged
        token := fun _ => by
          rw [hhost]
          exact .of_nil hrequests fun hq => absurd hq hexploring }
    refine ⟨hs.schedule trivial (Option.some_ne_none c), ?_, rfl⟩
    show .connect ∉ (State.schedule _ .timeout 20000).work.queue
    rw [State.mem_schedule_of_ne (by decide)]
    exact hconnect

lemma connectReturned (h : Coherent s) (hgap : s.inConnect = false)
    (hconnect : .connect ∉ s.work.queue) (err : ℤ) : Coherent (s.connectReturned err) := by
  have hs : Coherent { s with connecting := false } :=
    { h with
      gapRequest := fun hin =>
        absurd hin (by rw [show _ = false from hgap]; exact Bool.false_ne_true)
      connect := fun hq => absurd hq hconnect }
  unfold State.connectReturned
  dsimp only
  split
  · exact hs.schedule trivial trivial
  · exact hs

lemma connectWorkBegin (maxPaired : ℕ) (h : Coherent s) (hs : Connecting s) (a : Answers) :
    Coherent (s.connectWorkBegin maxPaired a) := by
  have hstopped := h.stopOwnScan a.scanStop
  obtain ⟨scanOwned, journal, heq⟩ := s.stopOwnScan_eq a.scanStop
  unfold State.connectWorkBegin
  dsimp only
  rw [heq] at hstopped ⊢
  split
  case isTrue => exact hstopped.connectReturned hs.inConnect hs.notQueued _
  case isFalse =>
    have hcalled := hstopped.observe (.connect s.pendingAddress) trivial
    obtain ⟨hconnect, hnotQueued⟩ := hcalled.connectMouse maxPaired
      ⟨hs.initialized, hs.inConnect, hs.connecting, hs.notQueued, hs.noneLeft⟩ a
    split
    case isTrue => exact hconnect
    case isFalse hgap =>
      exact hconnect.connectReturned (Bool.eq_false_of_not_eq_true hgap) hnotQueued _

lemma connectWorkEnd (h : Coherent s) (hin : s.inConnect = true) {a : Answers}
    (hlookup : ∀ c ∈ a.lookup, c.dst = s.pendingAddress) : Coherent (s.connectWorkEnd a) := by
  obtain ⟨hs, hnotQueued, hgap⟩ := h.connectMouseLookup hin hlookup
  exact hs.connectReturned hgap hnotQueued _

lemma connectWorkCb (maxPaired : ℕ) (h : Coherent s) (hs : Connecting s) {a : Answers}
    (hlookup : ∀ c ∈ a.lookup, c.dst = s.pendingAddress) :
    Coherent (s.connectWorkCb maxPaired a) := by
  have hbegun := h.connectWorkBegin maxPaired hs a
  unfold State.connectWorkCb
  dsimp only
  split
  case isTrue hin =>
    refine hbegun.connectWorkEnd hin ?_
    rwa [State.connectWorkBegin_pendingAddress]
  case isFalse => exact hbegun

/-! ### The link -/

/-- The next stage of discovery. -/
lemma nextStage (h : Coherent s) (hconn : s.mouseConn ≠ none) (hstage : ¬s.stage.Open)
    (hrequests : s.host.attempt.requests = []) {next : Stage} (hnext : next.Exploring) :
    Coherent (s.nextStage next) := by
  have hengaged : s.Engaged := .inl hconn
  have hs : Coherent { s with stage := next } :=
    { h with
      idle := fun hidle => absurd hengaged hidle
      busy := fun _ => hnext.1
      gap := fun hin => absurd (h.gap hin).1 hconn
      completed := fun hq _ => absurd (h.completed hq hconn) hstage
      auto := fun b hb => absurd (h.auto b hb).2.2 hstage
      token := fun _ => .of_nil hrequests fun _ => hnext }
  exact hs.submit ⟨hconn, fun _ => ⟨hrequests, hnext⟩⟩

lemma exploring_service : Stage.Exploring .service := by
  refine ⟨?_, ?_, ?_, ?_, ?_⟩ <;> decide

lemma releaseEvent (h : Coherent s) : Coherent s.releaseEvent := by
  unfold State.releaseEvent
  split
  case h_1 c _ =>
    have hcleared : Coherent { s with connectedEventConn := none } := { h with }
    exact hcleared.observe (.unref c) trivial
  case h_2 => exact h

lemma completeConnection (h : Coherent s) (hgap : s.inConnect = false)
    (hnotQueued : .connected ∉ s.work.queue) (hopen : s.mouseConn ≠ none → s.stage.Open)
    (a : Answers) : Coherent (s.completeConnection a) := by
  unfold State.completeConnection
  split
  case h_1 => exact h
  case h_2 c hc =>
    have hne : s.mouseConn ≠ none := hc ▸ Option.some_ne_none c
    have hauto : ((s.observe (.autoConnOff c.dst)).scanRefresh).host.autoConn = [] := by
      rw [h.address c hc]
      exact h.autoConnOff_eq_nil
    have hoff := (h.autoConnOff c.dst).scanRefresh
    dsimp only
    split
    case isTrue =>
      -- the connection was not completed
      have hunref := hoff.observe (.unref c) trivial
      have hauto' : ((((s.observe (.autoConnOff c.dst)).scanRefresh).observe
          (.unref c)).host.autoConn) = [] := by
        rw [State.host_observe]
        exact hauto
      exact ((hunref.closeAttempt hgap hauto').forgetIfRequested
        (State.not_engaged rfl hgap) a).requestRetry
    case isFalse =>
    split
    case isTrue => exact hoff.fail hne _
    case isFalse hlive =>
      rw [not_or, not_not] at hlive
      have hidle : ¬s.stage.Exploring := by
        rcases hopen hne with hopen | hopen <;> rw [hopen] <;> unfold Stage.Exploring <;> decide
      obtain ⟨hrequests, hdiscovery⟩ := h.requests_eq_nil ⟨hne, hlive⟩ hidle
      have hrequests :
          ((s.observe (.autoConnOff c.dst)).scanRefresh).host.attempt.requests = [] := by
        show (s.observe (.autoConnOff c.dst)).host.attempt.requests = []
        rw [State.host_observe]
        exact hrequests
      have hs : Coherent { (s.observe (.autoConnOff c.dst)).scanRefresh with stage := .security } :=
        { hoff with
          idle := fun hidle => absurd (.inl hne) hidle
          busy := fun _ => Stage.noConfusion
          gap := fun hin => absurd (hoff.gap hin).1 hne
          completed := fun hq => by
            change _ ∈ (State.schedule _ _ _).work.queue at hq
            rw [State.mem_schedule_of_ne (by decide)] at hq
            exact absurd hq hnotQueued
          auto := fun b hb => by
            change b ∈ ((s.observe (.autoConnOff c.dst)).scanRefresh).host.autoConn at hb
            rw [hauto] at hb
            exact absurd hb List.not_mem_nil
          token := fun _ => by
            refine .of_nil hrequests fun hq => ?_
            change _ ∈ (State.schedule _ _ _).work.queue at hq
            rw [State.mem_schedule_of_ne (by decide)] at hq
            exact absurd hq hdiscovery }
      have hsecurity := hs.observe (.setSecurity c a.setSecurity) trivial
      split
      · exact hsecurity.fail hne _
      · split
        · refine hsecurity.nextStage hne ?_ ?_ exploring_service
          · rintro (hopen | hopen) <;> exact Stage.noConfusion hopen
          · rw [State.host_observe]
            exact hrequests
        · exact hsecurity

/-- `connected_work` has been taken off the queue. -/
lemma connectedWorkCb (h : Coherent s) (hgap : s.inConnect = false)
    (hnotQueued : .connected ∉ s.work.queue) (hopen : s.mouseConn ≠ none → s.stage.Open)
    (a : Answers) : Coherent (s.connectedWorkCb a) := by
  have hframe : s.releaseEvent.inConnect = s.inConnect ∧ s.releaseEvent.work = s.work ∧
      s.releaseEvent.mouseConn = s.mouseConn ∧ s.releaseEvent.stage = s.stage := by
    unfold State.releaseEvent
    split <;> exact ⟨rfl, rfl, rfl, rfl⟩
  obtain ⟨hin, hwork, hconn, hstage⟩ := hframe
  refine h.releaseEvent.completeConnection (hin.trans hgap) ?_ ?_ a
  · rwa [hwork]
  · rwa [hconn, hstage]

end Coherent

end BleMouse.Client
