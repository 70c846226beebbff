/-
Every attempt is resolved.

While there is a connection that is not ready, the client waits for something (`State.awaits`): for
an item of work, for the watchdog, or for the host to report the end of a link that it has agreed to
end.  As long as the host does not refuse to end it, each of these brings the attempt nearer to
its end, and nothing else that happens leads away from it.

* `State.awaits`, `State.distance`: what is awaited, and how far the end is at most;
* `Stays`, `Abides`, `Yields`: what the steps leave of what is awaited;
* `Progresses.distance`: no step leads further away, and an awaited one leads nearer;
* `every_attempt_resolves`: the main result.
-/
import BleMouse.Client.Handover
import BleMouse.Client.Retention
import BleMouse.Lib.Progress

namespace BleMouse.Client

open BleMouse.Hid BleMouse.Output

/-! ### What is awaited -/

/-- What a client with a connection that is not ready waits for. -/
inductive Await
  /-- The worker, until it runs an item. -/
  | work (w : Work)
  /-- The watchdog. -/
  | watchdog
  /-- The end of the link, which the host has agreed to. -/
  | hangUp
deriving DecidableEq, Repr

namespace State

variable (s : State)

/-- The connection may still be completed, and its completion is to be handled. -/
def Completes : Prop := s.host.autoConn ≠ [] ∧ .connected ∈ s.work.queue

instance : Decidable s.Completes := inferInstanceAs (Decidable (_ ∧ _))

/-- What is awaited: of all that is due, what comes nearest to the end of the attempt. -/
def awaits : Await :=
  if s.Completes then .work .connected
  else if .disconnected ∈ s.work.queue then .work .disconnected
  else if s.host.attempt.disconnecting = true then .hangUp
  else if .failure ∈ s.work.queue then .work .failure
  else if .timeout ∈ s.work.queue then .work .timeout
  else if .timeout ∈ s.work.armed then .watchdog
  else .work .connected

/-- A way to the end of the attempt, if it is open. -/
def route (isOpen : Prop) [Decidable isOpen] (cost : ℕ) : ℕ := if isOpen then cost else 60

/-- The shortest way to the end, when the connection has been completed. -/
def shortest : ℕ :=
  min (route (.disconnected ∈ s.work.queue) (s.work.ahead .disconnected))
    (min (route (s.host.attempt.disconnecting = true) 13)
      (min (route (.failure ∈ s.work.queue) (14 + s.work.ahead .failure))
        (min (route (.timeout ∈ s.work.queue) (27 + s.work.ahead .timeout))
          (min (route (.timeout ∈ s.work.armed) 40)
            (route (.connected ∈ s.work.queue) (41 + s.work.ahead .connected))))))

/-- How many awaited events are still to come at most. -/
def distance : ℕ :=
  if s.Completes then 61 + s.work.ahead .connected
  else if s.host.autoConn ≠ [] then 75 + s.shortest else s.shortest

end State

/-- The event is the awaited one. -/
def Await.Is (conn : Option Conn) : Await → Label → Prop
  | .work _, .work _ => True
  | .watchdog, .expire w => w = .timeout
  | .hangUp, .disconnected c => conn = some c
  | _, _ => False

/-- The host does not refuse to end the link. -/
def Label.Agrees : Label → Prop
  | .work a => a.disconnect = 0 ∨ a.disconnect = -eNotConn
  | _ => True

/-- An event of an attempt, and whether it has been awaited. -/
abbrev Occasion := Label × Bool

/-- The steps, in which the host does not refuse to end the link. -/
def Attends (maxPaired : ℕ) (s : State) (e : Occasion) (s' : State) : Prop :=
  Step maxPaired s e.1 s' ∧ e.1.Agrees ∧ (e.2 = true ↔ s.awaits.Is s.mouseConn e.1)

/-! ### The distance -/

namespace State

variable {s : State}

lemma route_le (isOpen : Prop) [Decidable isOpen] {cost : ℕ} (h : cost ≤ 60) :
    route isOpen cost ≤ 60 := by
  unfold route
  split
  · exact h
  · exact le_rfl

lemma le_route (isOpen : Prop) [Decidable isOpen] {n cost : ℕ} (h : isOpen → n ≤ cost)
    (hn : n ≤ 60) : n ≤ route isOpen cost := by
  unfold route
  split
  · exact h ‹_›
  · exact hn

lemma route_of (isOpen : Prop) [Decidable isOpen] (h : isOpen) (cost : ℕ) :
    route isOpen cost = cost := if_pos h

lemma shortest_le (s : State) : s.shortest ≤ 60 := by
  have hroute : route (.timeout ∈ s.work.armed) 40 ≤ 60 := route_le _ (by decide)
  unfold shortest
  omega

lemma shortest_le_disconnected (h : .disconnected ∈ s.work.queue) :
    s.shortest ≤ s.work.ahead .disconnected := by
  unfold shortest
  rw [route_of _ h]
  exact min_le_left _ _

lemma shortest_le_hangUp (h : s.host.attempt.disconnecting = true) : s.shortest ≤ 13 := by
  unfold shortest
  rw [route_of _ h]
  omega

lemma shortest_le_failure (h : .failure ∈ s.work.queue) :
    s.shortest ≤ 14 + s.work.ahead .failure := by
  unfold shortest
  rw [route_of _ h]
  omega

lemma shortest_le_timeout (h : .timeout ∈ s.work.queue) :
    s.shortest ≤ 27 + s.work.ahead .timeout := by
  unfold shortest
  rw [route_of _ h]
  omega

lemma shortest_le_watchdog (h : .timeout ∈ s.work.armed) : s.shortest ≤ 40 := by
  unfold shortest
  rw [route_of _ h]
  omega

lemma shortest_le_connected (h : .connected ∈ s.work.queue) :
    s.shortest ≤ 41 + s.work.ahead .connected := by
  unfold shortest
  rw [route_of _ h]
  omega

end State

/-! ### What every step leaves -/

/-- The deadlines of the attempt stay: the completion of its connection is not awaited again, the
host goes on ending the link, and the watchdog goes on. -/
structure Stays (s s' : State) : Prop where
  auto : s'.host.autoConn ≠ [] → s.host.autoConn ≠ []
  disconnecting : s.host.attempt.disconnecting = true → s'.host.attempt.disconnecting = true
  timeout : s.work.Pending .timeout → s'.work.Pending .timeout

/-- A step stays, or what it ends has a follower. -/
structure Abides (s s' : State) : Prop where
  auto : s'.host.autoConn ≠ [] → s.host.autoConn ≠ []
  disconnecting : s.host.attempt.disconnecting = true → s'.host.attempt.disconnecting = true ∨
    .disconnected ∈ s'.work.queue ∨ s'.Completes
  timeout : s.work.Pending .timeout → s'.work.Pending .timeout ∨ .failure ∈ s'.work.queue

namespace Stays

variable {s s' s'' : State}

lemma refl (s : State) : Stays s s := ⟨id, id, id⟩

lemma trans (h : Stays s s') (h' : Stays s' s'') : Stays s s'' :=
  ⟨fun hauto => h.auto (h'.auto hauto), fun hends => h'.disconnecting (h.disconnecting hends),
    fun hp => h'.timeout (h.timeout hp)⟩

lemma abides (h : Stays s s') : Abides s s' :=
  ⟨h.auto, fun hends => .inl (h.disconnecting hends), fun hp => .inl (h.timeout hp)⟩

lemma of_explores (h : Explores s s') : Stays s s' := by
  obtain ⟨requests, subscribed, hhost⟩ := h.host
  refine ⟨?_, ?_, h.timeout.2⟩
  · rw [hhost]
    exact id
  · rw [hhost]
    exact id

lemma background (h : Stays s s') (hb : Background s' s'') : Stays s s'' :=
  h.trans (of_explores hb.explores)

lemma observe (h : Stays s s') (o : Obs)
    (hauto : (s'.host.record o).autoConn ≠ [] → s'.host.autoConn ≠ [])
    (hends : s'.host.attempt.disconnecting = true →
      (s'.host.record o).attempt.disconnecting = true) : Stays s (s'.observe o) := by
  refine h.trans ⟨?_, ?_, id⟩
  · rw [State.host_observe]
    exact hauto
  · rw [State.host_observe]
    exact hends

lemma submit (h : Stays s s') (w : Work) : Stays s (s'.submit w) := by
  refine h.trans ⟨id, id, fun hp => ?_⟩
  unfold State.submit
  dsimp only
  split
  · exact WorkQueue.pending_submit.2 (.inl hp)
  · exact hp

lemma fail (h : Stays s s') (err : ℤ) : Stays s (s'.fail err) := by
  have hfailed : Stays s { s' with
    failure := if s'.failure ≠ 0 then s'.failure else if err ≠ 0 then err else -eIo } := { h with }
  exact hfailed.submit .failure

/-- The worker takes an item off the queue. -/
lemma take {w : Work} {rest : List Work} (hq : s.work.queue = w :: rest) (hw : w ≠ .timeout) :
    Stays s (s.take w rest) := by
  have hs : Stays s { s with work := { s.work with queue := rest } } :=
    ⟨id, id, (WorkQueue.pending_tail hq hw.symm).2⟩
  exact hs.observe _ id id

lemma nextStage (h : Stays s s') (next : Stage) : Stays s (s'.nextStage next) := by
  have hmoved : Stays s { s' with stage := next } := { h with }
  exact hmoved.submit .discovery

/-- The host is not to connect on its own any more. -/
lemma autoConnOff (s : State) (addr : Addr) : Stays s (s.observe (.autoConnOff addr)) := by
  refine (refl s).observe _ (fun hsome hnone => hsome ?_) id
  show s.host.autoConn.filter _ = []
  rw [hnone]
  rfl

/-- The connection is completed, and the attempt goes on; if it has failed, it is to be ended. -/
lemma completeConnection {c : Conn} (hc : s.mouseConn = some c) (hinit : s.initialized = true)
    (a : Answers) (hconn : (s.completeConnection a).mouseConn ≠ none) :
    Stays (s.observe (.autoConnOff c.dst)) (s.completeConnection a) ∧
      (s.failure ≠ 0 ∨ s.stage = .closing → .failure ∈ (s.completeConnection a).work.queue) := by
  have hrefreshed := (refl (s.observe (.autoConnOff c.dst))).background
    (Background.refl _).scanRefresh
  have hsecured : Stays (s.observe (.autoConnOff c.dst))
      (({ (s.observe (.autoConnOff c.dst)).scanRefresh with stage := .security } : State).observe
        (.setSecurity c a.setSecurity)) := by
    have hstage : Stays (s.observe (.autoConnOff c.dst))
        { (s.observe (.autoConnOff c.dst)).scanRefresh with stage := .security } :=
      { hrefreshed with }
    exact hstage.observe _ id id
  unfold State.completeConnection at hconn ⊢
  rw [hc] at hconn ⊢
  dsimp only at hconn ⊢
  split
  case isTrue herr =>
    rw [if_pos herr, State.requestRetry_mouseConn, State.forgetIfRequested_mouseConn] at hconn
    exact absurd rfl hconn
  case isFalse =>
    split
    case isTrue =>
      refine ⟨hrefreshed.fail _, fun _ => Explores.failure_mem_fail ?_ _⟩
      exact hinit
    case isFalse hgood =>
      refine ⟨?_, fun hbad => absurd hbad hgood⟩
      split
      · exact hsecured.fail _
      · split
        · exact hsecured.nextStage _
        · exact hsecured

/-- The host does not refuse to end the link, and does so. -/
lemma failureWorkCb {c : Conn} (hc : s.mouseConn = some c)
    (hconn' : s.host.attempt.conn = some c) {a : Answers} (ha : (Label.work a).Agrees)
    (hconn : (s.failureWorkCb a).mouseConn ≠ none) :
    Stays s (s.failureWorkCb a) ∧ (s.failureWorkCb a).host.attempt.disconnecting = true := by
  unfold State.failureWorkCb at hconn ⊢
  split
  case h_2 hnone => exact absurd (hnone.symm.trans hc) (Option.some_ne_none c).symm
  case h_1 c' hc' =>
    obtain rfl : c' = c := Option.some.inj (hc'.symm.trans hc)
    rw [hc'] at hconn
    dsimp only at hconn ⊢
    split
    case isTrue hgone =>
      rw [if_pos hgone] at hconn
      exact absurd (State.disconnectedWorkCb_mouseConn _ _) hconn
    case isFalse hnot =>
      have hzero : a.disconnect = 0 := ha.resolve_right hnot
      have hclosing : Stays s { s with stage := .closing, scanWanted := false } :=
        { refl s with }
      have hends : (s.host.record (.disconnect c' a.disconnect)).attempt.disconnecting = true := by
        simp [History.record, Attempt.record, hconn', hzero]
      refine ⟨hclosing.observe _ id fun _ => hends, ?_⟩
      rw [State.host_observe]
      exact hends

/-- While there is a connection, the Clear key fails the attempt. -/
lemma clearWorkCb (hconn : s.mouseConn ≠ none) (a : Answers) : Stays s (s.clearWorkCb a) := by
  have hwanted : Stays s
      { s with pairing := false, scanWanted := false, forgetRequested := true } := { refl s with }
  unfold State.clearWorkCb
  dsimp only
  split
  · exact refl s
  · split
    case isTrue => exact hwanted.fail _
    case isFalse hnone => exact absurd (Option.isSome_iff_ne_none.2 hconn) hnone

lemma connectedCb (h : Stays s s') (c : Conn) (err : ℕ) : Stays s (s'.connectedCb c err) := by
  have hnoted : Stays s { s' with connectedEventConn := some c, connectedError := err } :=
    { h with }
  unfold State.connectedCb
  split
  · exact (hnoted.observe _ id id).submit .connected
  · exact h

lemma disconnectedCb (h : Stays s s') (c : Conn) : Stays s (s'.disconnectedCb c) := by
  have hclosing : Stays s { s' with stage := .closing, scanWanted := false } := { h with }
  unfold State.disconnectedCb
  split
  · exact hclosing.submit .disconnected
  · exact h

end Stays

/-- What the worker leaves when it has run an item and the attempt goes on. -/
structure Yields (v : Work) (s' : State) : Prop where
  failure : v = .failure → s'.host.attempt.disconnecting = true
  timeout : v = .timeout → .failure ∈ s'.work.queue
  connected : v = .connected → s'.host.autoConn = [] ∧
    (.failure ∈ s'.work.queue ∨ s'.work.Pending .timeout)
  disconnected : v ≠ .disconnected

namespace Abides

variable {s s' : State}

/-- An item that is not of the attempt leaves no more than the step does. -/
lemma yields {v : Work} (h : Stays s s') (hv : v.Background) : Abides s s' ∧ Yields v s' := by
  refine ⟨h.abides, ?_, fun heq => absurd heq hv.2, ?_, ?_⟩
  · rintro rfl
    exact absurd trivial hv.1
  · rintro rfl
    exact absurd trivial hv.1
  · rintro rfl
    exact absurd trivial hv.1

/-- The watchdog has not found the mouse ready. -/
lemma timeoutWorkCb (hs : Coherent s) (hconn : s.mouseConn ≠ none) {rest : List Work}
    (hopen : (s.take .timeout rest).timeoutWorkCb.stage ≠ .ready) :
    Abides s (s.take .timeout rest).timeoutWorkCb ∧
      Yields .timeout (s.take .timeout rest).timeoutWorkCb := by
  have hinit : (s.take .timeout rest).initialized = true :=
    hs.initialized_of_engaged (.inl hconn)
  have hfails : (s.take .timeout rest).timeoutWorkCb =
      (s.take .timeout rest).fail (-eTimedOut) := by
    refine if_pos ?_
    have hstage : (s.take .timeout rest).stage ≠ .ready := by
      rintro hready
      refine hopen ?_
      unfold State.timeoutWorkCb
      split <;> exact hready
    rw [Bool.and_eq_true, decide_eq_true_eq]
    exact ⟨Option.isSome_iff_ne_none.2 hconn, hstage⟩
  rw [hfails]
  have hhost : ((s.take .timeout rest).fail (-eTimedOut)).host = s.host :=
    (State.host_observe _ _).trans (record_quiet _ Work.noConfusion)
  have hfailed := Explores.failure_mem_fail hinit (-eTimedOut)
  refine ⟨⟨?_, ?_, fun _ => .inr hfailed⟩, Work.noConfusion, fun _ => hfailed, Work.noConfusion,
    Work.noConfusion⟩
  · rw [hhost]
    exact id
  · rw [hhost]
    exact .inl

/-- The connection of the attempt is completed. -/
lemma connectedWorkCb (hs : Coherent s) (h : Watched s) (hready : s.stage ≠ .ready) {c : Conn}
    (hc : s.mouseConn = some c) {rest : List Work} (hq : s.work.queue = .connected :: rest)
    {a : Answers} (hconn : ((s.take .connected rest).connectedWorkCb a).mouseConn ≠ none) :
    Abides s ((s.take .connected rest).connectedWorkCb a) ∧
      Yields .connected ((s.take .connected rest).connectedWorkCb a) := by
  have hsome : s.mouseConn ≠ none := hc ▸ Option.some_ne_none c
  have hrest := (Background.refl (s.take .connected rest)).releaseEvent
  have hstays : Stays s (s.take .connected rest).releaseEvent :=
    (Stays.take hq Work.noConfusion).background hrest
  have hhost : (s.take .connected rest).releaseEvent.host = s.host :=
    hrest.host.trans ((State.host_observe _ _).trans (record_quiet _ Work.noConfusion))
  have hinit : (s.take .connected rest).releaseEvent.initialized = true :=
    hrest.initialized.trans (hs.initialized_of_engaged (.inl hsome))
  obtain ⟨hcompleted, hfails⟩ :=
    Stays.completeConnection (hrest.mouseConn.trans hc) hinit a hconn
  have hoff : ((s.take .connected rest).releaseEvent.observe (.autoConnOff c.dst)).host.autoConn
      = [] := by
    rw [State.host_observe, hhost, hs.address c hc, ← State.host_observe]
    exact hs.autoConnOff_eq_nil
  have hauto : ((s.take .connected rest).connectedWorkCb a).host.autoConn = [] := by
    by_contra hsome'
    exact hcompleted.auto hsome' hoff
  have hall := (hstays.trans (Stays.autoConnOff _ c.dst)).trans hcompleted
  refine ⟨hall.abides, Work.noConfusion, Work.noConfusion, fun _ => ⟨hauto, ?_⟩, Work.noConfusion⟩
  by_cases hbad : s.failure ≠ 0 ∨ s.stage = .closing
  · refine .inl (hfails ?_)
    rw [hrest.failure, hrest.stage]
    exact hbad
  · rw [not_or, not_not] at hbad
    exact .inr (hall.timeout (h.timed hsome hbad.1 hready hbad.2))

/-- The worker runs an item. -/
lemma run (maxPaired : ℕ) (hs : Coherent s) (h : Watched s) (hclosed : ¬s.Resolved) {v : Work}
    {rest : List Work} (hq : s.work.queue = v :: rest) {a : Answers} (ha : (Label.work a).Agrees)
    (hopen : ¬((s.take v rest).run maxPaired v a).Resolved) :
    Abides s ((s.take v rest).run maxPaired v a) ∧
      Yields v ((s.take v rest).run maxPaired v a) := by
  rw [State.Resolved, not_or] at hopen hclosed
  obtain ⟨hconn, hready⟩ := hclosed
  have hmem : v ∈ s.work.queue := hq ▸ List.mem_cons_self
  have hinit : (s.take v rest).initialized = true := hs.initialized_of_mem hmem
  have hrefl := Background.refl (s.take v rest)
  obtain ⟨c, hc⟩ := Option.ne_none_iff_exists'.1 hconn
  cases v with
  | discovery =>
    have hstage : (s.take .discovery rest).Live → (s.take .discovery rest).stage.Exploring :=
      fun hlive => ((hs.token hlive).discovery hmem).2
    rcases discoveryWorkCb_cases hinit hstage a with hexplores | ⟨c, index, -, -, -, hfinishes⟩
    · exact ⟨((Stays.take hq Work.noConfusion).trans (.of_explores hexplores)).abides,
        Work.noConfusion, Work.noConfusion, Work.noConfusion, Work.noConfusion⟩
    · exfalso
      refine hopen.2 ?_
      show ((s.take .discovery rest).discoveryWorkCb a).stage = .ready
      generalize (s.take .discovery rest).discoveryWorkCb a = t at hfinishes
      cases hfinishes <;> rfl
  | failure =>
    have hconn' : (s.take .failure rest).host.attempt.conn = some c := by
      rw [State.take, State.host_observe]
      exact (hs.conn (.inl hconn)).trans hc
    obtain ⟨hstays, hends⟩ :=
      Stays.failureWorkCb (s := s.take .failure rest) hc hconn' ha hopen.1
    exact ⟨((Stays.take hq Work.noConfusion).trans hstays).abides, fun _ => hends,
      Work.noConfusion, Work.noConfusion, Work.noConfusion⟩
  | retry =>
    exact yields ((Stays.take hq Work.noConfusion).background hrefl.retryWorkCb)
      ⟨id, Work.noConfusion⟩
  | timeout => exact timeoutWorkCb hs hconn hopen.2
  | pairTimeout =>
    exact yields ((Stays.take hq Work.noConfusion).trans
      (.of_explores ((Explores.refl _).pairTimeoutCb hinit))) ⟨id, Work.noConfusion⟩
  | connected => exact connectedWorkCb hs h hready hc hq hopen.1
  | disconnected => exact absurd (State.disconnectedWorkCb_mouseConn _ a) hopen.1
  | pair =>
    exact yields ((Stays.take hq Work.noConfusion).background (hrefl.pairWorkCb maxPaired))
      ⟨id, Work.noConfusion⟩
  | clear =>
    have hcleared : Stays (s.take .clear rest) ((s.take .clear rest).clearWorkCb a) :=
      Stays.clearWorkCb (s := s.take .clear rest) hconn a
    exact yields ((Stays.take hq Work.noConfusion).trans hcleared) ⟨id, Work.noConfusion⟩
  | scan =>
    exact yields ((Stays.take hq Work.noConfusion).background (hrefl.scanWorkCb a))
      ⟨id, Work.noConfusion⟩
  | connect => exact absurd (.inl hconn) (hs.connect hmem).1
  | settle =>
    exact yields ((Stays.take hq Work.noConfusion).background hrefl.settleWorkCb)
      ⟨id, Work.noConfusion⟩
  | output => exact yields (Stays.take hq Work.noConfusion) ⟨id, Work.noConfusion⟩

/-- The end of the link is to be handled. -/
lemma disconnected_mem (hs : Coherent s) {c : Conn} (hc : s.mouseConn = some c) :
    .disconnected ∈ ((s.observe (.disconnected c)).disconnectedCb c).work.queue := by
  have hinit := hs.initialized_of_engaged (.inl (hc ▸ Option.some_ne_none c))
  have howns : (s.observe (.disconnected c)).owns c = true := decide_eq_true hc
  unfold State.disconnectedCb
  rw [if_pos howns]
  exact State.mem_submit_self hinit

/-- The host's view of the connection is the client's. -/
lemma conn_eq (hs : Coherent s) (hconn : s.mouseConn ≠ none) {c : Conn}
    (hc : s.host.attempt.conn = some c) : s.mouseConn = some c :=
  (hs.conn (.inl hconn)).symm.trans hc

/-- The completion of the connection is reported while it is still awaited. -/
lemma connectedCb (hs : Coherent s) (hconn : s.mouseConn ≠ none) {c : Conn} {err : ℕ}
    (hallows : Host.Allows s (.connected c err)) :
    Abides s ((s.observe (.connected c err)).connectedCb c err) := by
  have hnoted := (Stays.refl (s.observe (.connected c err))).connectedCb c err
  have hobserved : (s.observe (.connected c err)).host = s.host.record (.connected c err) :=
    State.host_observe _ _
  refine ⟨fun hauto => ?_, fun hends => ?_, fun hp => .inl (hnoted.timeout hp)⟩
  · have hauto' := hnoted.auto hauto
    rw [hobserved] at hauto'
    exact hauto'
  · by_cases hc : s.host.attempt.conn = some c
    · have howned := conn_eq hs hconn hc
      have hactive : s.host.attempt.active = true := hs.active.1 (.inl hconn)
      have hdst : c.dst = s.host.attempt.addr :=
        (hs.address c howned).trans (hs.addr (.inl hconn)).symm
      have hmem : c.dst ∈ s.host.autoConn := hallows hactive hdst
      have hinit := hs.initialized_of_engaged (.inl hconn)
      have howns : (s.observe (.connected c err)).owns c = true := decide_eq_true howned
      unfold State.connectedCb
      rw [howns, Bool.true_or, if_pos rfl]
      refine .inr (.inr ⟨?_, ?_⟩)
      · show (({ s.observe (.connected c err) with
          connectedEventConn := some c, connectedError := err } : State).observe
            (.ref c)).host.autoConn ≠ []
        rw [State.host_observe]
        show (s.observe (.connected c err)).host.autoConn ≠ []
        rw [hobserved]
        exact List.ne_nil_of_mem hmem
      · exact State.mem_submit_self hinit
    · refine .inl (hnoted.disconnecting ?_)
      rw [hobserved]
      simp [History.record, Attempt.record, hends, hc]

lemma disconnectedCb (hs : Coherent s) (hconn : s.mouseConn ≠ none) (c : Conn) :
    Abides s ((s.observe (.disconnected c)).disconnectedCb c) := by
  have hnoted := (Stays.refl (s.observe (.disconnected c))).disconnectedCb c
  have hobserved : (s.observe (.disconnected c)).host = s.host.record (.disconnected c) :=
    State.host_observe _ _
  refine ⟨fun hauto => ?_, fun hends => ?_, fun hp => .inl (hnoted.timeout hp)⟩
  · have hauto' := hnoted.auto hauto
    rw [hobserved] at hauto'
    exact hauto'
  · by_cases hc : s.host.attempt.conn = some c
    · exact .inr (.inl (disconnected_mem hs (conn_eq hs hconn hc)))
    · refine .inl (hnoted.disconnecting ?_)
      rw [hobserved]
      simp [History.record, Attempt.record, hends, hc]

lemma pairingCompleteCb (c : Conn) (bonded : Bool) :
    Stays s ((s.observe (.pairingComplete c bonded)).pairingCompleteCb c bonded) := by
  have hobserved : Stays s (s.observe (.pairingComplete c bonded)) := by
    refine (Stays.refl s).observe _ id fun hends => ?_
    simp only [History.record, Attempt.record]
    split_ifs <;> exact hends
  have hnoted : Stays s { s.observe (.pairingComplete c bonded) with candidateBonded := bonded } :=
    { hobserved with }
  unfold State.pairingCompleteCb
  dsimp only
  split_ifs
  · exact hnoted.fail _
  · exact hnoted
  · exact hobserved

lemma settingsSet (name : String) (length : ℕ) (contents : Addr) (result : ℤ) :
    Stays s ((s.observe (.load name length contents result)).settingsSet name length contents
      result).1 := by
  have hobserved := (Stays.refl s).observe (.load name length contents result) id id
  have hread (peer : Addr) (havePeer : Bool) :
      Stays s { s.observe (.load name length contents result) with peer, havePeer } :=
    { hobserved with }
  unfold State.settingsSet
  dsimp only
  split_ifs
  · exact hobserved
  · exact hobserved
  · exact hread _ _
  · exact hread _ _

lemma zmkBleMouseClearHold (pressed : Bool) :
    Stays s ((s.observe (.clearKey pressed)).zmkBleMouseClearHold pressed) := by
  have hobserved : Stays s (s.observe (.clearKey pressed)) := (Stays.refl s).observe _ id id
  have hheld : Stays s { s.observe (.clearKey pressed) with clearHeld := pressed } :=
    { hobserved with }
  exact hheld.background (Background.zmkBleMouseClearHold _ pressed)

/-- Every step but the worker's. -/
lemma step {maxPaired : ℕ} {l : Label} (hs : Coherent s) (hconn : s.mouseConn ≠ none)
    (hstep : Step maxPaired s l s') (hl : ∀ a, l ≠ .work a) : Abides s s' := by
  have hallows := hstep.1
  cases alters_of_step hs hstep with
  | explores he => exact (Stays.of_explores he).abides
  | work hgap hq => exact absurd rfl (hl _)
  | connectBegin hgap hq =>
    exact absurd (.inl hconn) (hs.connect (hq ▸ List.mem_cons_self)).1
  | connectEnd hin => exact absurd (hs.gap hin).1 hconn
  | connected c err => exact connectedCb hs hconn hallows
  | disconnected c => exact disconnectedCb hs hconn c
  | pairingComplete c bonded => exact (pairingCompleteCb c bonded).abides
  | clearHold pressed => exact (zmkBleMouseClearHold pressed).abides
  | settings name length contents result => exact (settingsSet name length contents result).abides
  | start =>
    -- there is no connection before the start
    have hstarted : s.started = true := hs.start ▸ hs.initialized_of_engaged (.inl hconn)
    rw [State.zmkBleMouseStart, if_pos hstarted]
    exact (Stays.refl s).abides

end Abides

/-! ### Steps -/

/-- The worker runs an item. -/
def Label.Works : Label → Prop
  | .work _ => True
  | _ => False

/-- What a step leaves of an item that waits: it keeps its place, and comes nearer to its turn when
the worker runs another one; or it is run. -/
def Advanced (s : State) (l : Label) (s' : State) (w : Work) : Prop :=
  w ∈ s.work.queue → w ∈ s'.work.queue ∧ s'.work.ahead w ≤ s.work.ahead w ∧
    (l.Works → s'.work.ahead w < s.work.ahead w) ∨ Yields w s'

/-- What a step leaves, while there is a connection that is not ready. -/
structure Progresses (s : State) (l : Label) (s' : State) : Prop extends Abides s s' where
  advanced : ∀ w, w ≠ .clear → Advanced s l s' w
  hangUp : ∀ c, l = .disconnected c → s.mouseConn = some c → .disconnected ∈ s'.work.queue
  watchdog : l = .expire .timeout → .timeout ∈ s'.work.queue

lemma progresses_of_step {maxPaired : ℕ} {s s' : State} {l : Label} (hs : Coherent s)
    (h : Watched s) (hclosed : ¬s.Resolved) (hstep : Step maxPaired s l s') (ha : l.Agrees)
    (hopen : ¬s'.Resolved) : Progresses s l s' := by
  have hconn : s.mouseConn ≠ none := fun hnone => hclosed (.inl hnone)
  by_cases hl : ∀ a, l ≠ .work a
  · refine { Abides.step hs hconn hstep hl with advanced := ?_, hangUp := ?_, watchdog := ?_ }
    · intro w hw hmem
      obtain ⟨hmem', hle⟩ := Retains.step hs hconn hstep hl hw hmem
      refine .inl ⟨hmem', hle, fun hworks => ?_⟩
      cases l with
      | work a => exact absurd rfl (hl a)
      | _ => exact absurd hworks id
    · rintro c rfl hc
      cases hstep.moves
      exact Abides.disconnected_mem hs hc
    · rintro rfl
      cases hstep.moves
      exact WorkQueue.mem_submit.2 (.inr rfl)
  · push Not at hl
    obtain ⟨a, rfl⟩ := hl
    cases hstep.moves with
    | @work _ v rest hgap hq =>
      obtain ⟨habides, hyields⟩ := Abides.run maxPaired hs h hclosed hq ha hopen
      refine { habides with
        advanced := fun w hw hmem => ?_
        hangUp := fun _ => Label.noConfusion
        watchdog := Label.noConfusion }
      by_cases hne : w = v
      · exact .inr (hne ▸ hyields)
      · obtain ⟨hmem', hlt⟩ := ahead_lt_of_run hs hconn hq hopen hne hmem
        exact .inl ⟨hmem', hlt.le, fun _ => hlt⟩

namespace Await.Is

variable {conn : Option Conn} {l : Label}

lemma works {w : Work} (h : (Await.work w).Is conn l) : l.Works := by
  cases l with
  | work a => trivial
  | _ => exact absurd h id

lemma expires (h : Await.watchdog.Is conn l) : l = .expire .timeout := by
  cases l with
  | expire w => exact congrArg Label.expire h
  | _ => exact absurd h id

lemma hangsUp (h : Await.hangUp.Is conn l) : ∃ c, l = .disconnected c ∧ conn = some c := by
  cases l with
  | disconnected c => exact ⟨c, rfl, h⟩
  | _ => exact absurd h id

end Await.Is

/-! ### The distance decreases -/

/-- When nothing else is due, the completion of the connection is. -/
lemma State.Due.connected_mem {s : State} (h : s.Due) (hdisconnected : .disconnected ∉ s.work.queue)
    (hends : ¬s.host.attempt.disconnecting = true) (hfailure : .failure ∉ s.work.queue)
    (hqueued : .timeout ∉ s.work.queue) (harmed : .timeout ∉ s.work.armed) :
    .connected ∈ s.work.queue := by
  rcases h with (hp | hp) | hp | hp | hp | hp
  · exact absurd hp harmed
  · exact absurd hp hqueued
  · exact hp
  · exact absurd hp hfailure
  · exact absurd hp hdisconnected
  · exact absurd hp hends

lemma Coherent.ahead_le {s : State} (hs : Coherent s) {w : Work} (hmem : w ∈ s.work.queue) :
    s.work.ahead w ≤ 12 := by
  have hlt := WorkQueue.ahead_lt hmem
  have hlength := hs.length_queue_le
  omega

namespace State

/-- A bound for the shortest way, over all that may be open. -/
lemma le_shortest {s : State} {n : ℕ} (hn : n ≤ 60)
    (hdisconnected : .disconnected ∈ s.work.queue → n ≤ s.work.ahead .disconnected)
    (hhangUp : s.host.attempt.disconnecting = true → n ≤ 13)
    (hfailure : .failure ∈ s.work.queue → n ≤ 14 + s.work.ahead .failure)
    (htimeout : .timeout ∈ s.work.queue → n ≤ 27 + s.work.ahead .timeout)
    (hwatchdog : .timeout ∈ s.work.armed → n ≤ 40)
    (hconnected : .connected ∈ s.work.queue → n ≤ 41 + s.work.ahead .connected) :
    n ≤ s.shortest := by
  exact le_min (le_route _ hdisconnected hn) (le_min (le_route _ hhangUp hn)
    (le_min (le_route _ hfailure hn) (le_min (le_route _ htimeout hn)
      (le_min (le_route _ hwatchdog hn) (le_route _ hconnected hn)))))

end State

lemma shortest_le_of_pending {s : State} (hs : Coherent s) (hp : s.work.Pending .timeout) :
    s.shortest ≤ 40 := by
  rcases hp with harmed | hmem
  · exact State.shortest_le_watchdog harmed
  · have hle := State.shortest_le_timeout hmem
    have hahead := hs.ahead_le hmem
    omega

lemma shortest_le_of_failure {s : State} (hs : Coherent s) (hmem : .failure ∈ s.work.queue) :
    s.shortest ≤ 26 := by
  have hle := State.shortest_le_failure hmem
  have hahead := hs.ahead_le hmem
  omega

lemma shortest_le_of_disconnected {s : State} (hs : Coherent s)
    (hmem : .disconnected ∈ s.work.queue) : s.shortest ≤ 12 :=
  (State.shortest_le_disconnected hmem).trans (hs.ahead_le hmem)

/-- The way over an item that waits. -/
lemma Advanced.shortest {s s' : State} {l : Label} {w : Work}
    (h : Advanced s l s' w) (base : ℕ) (hmem : w ∈ s.work.queue)
    (hle : w ∈ s'.work.queue → s'.shortest ≤ base + s'.work.ahead w)
    (hyields : Yields w s' → s'.shortest < base) :
    s'.shortest ≤ base + s.work.ahead w ∧
      (l.Works → s'.shortest < base + s.work.ahead w) := by
  rcases h hmem with ⟨hmem', hahead, hlt⟩ | hran
  · have hle' := hle hmem'
    refine ⟨by omega, fun hworks => ?_⟩
    have := hlt hworks
    omega
  · have := hyields hran
    exact ⟨by omega, fun _ => by omega⟩

namespace Progresses

variable {s s' : State} {l : Label}

lemma shortest_disconnected (h : Progresses s l s') (hmem : .disconnected ∈ s.work.queue) :
    s'.shortest ≤ s.work.ahead .disconnected ∧
      (l.Works → s'.shortest < s.work.ahead .disconnected) := by
  have hway := (h.advanced _ Work.noConfusion).shortest 0 hmem
    (fun hmem' => (State.shortest_le_disconnected hmem').trans (Nat.zero_add _).ge)
    fun hran => absurd rfl hran.disconnected
  rwa [Nat.zero_add] at hway

lemma shortest_failure (h : Progresses s l s') (hmem : .failure ∈ s.work.queue) :
    s'.shortest ≤ 14 + s.work.ahead .failure ∧
      (l.Works → s'.shortest < 14 + s.work.ahead .failure) := by
  refine (h.advanced _ Work.noConfusion).shortest _ hmem State.shortest_le_failure fun hran => ?_
  have := State.shortest_le_hangUp (hran.failure rfl)
  omega

lemma shortest_timeout (h : Progresses s l s') (hs' : Coherent s')
    (hmem : .timeout ∈ s.work.queue) :
    s'.shortest ≤ 27 + s.work.ahead .timeout ∧
      (l.Works → s'.shortest < 27 + s.work.ahead .timeout) := by
  refine (h.advanced _ Work.noConfusion).shortest _ hmem State.shortest_le_timeout fun hran => ?_
  have := shortest_le_of_failure hs' (hran.timeout rfl)
  omega

lemma shortest_connected (h : Progresses s l s') (hs' : Coherent s')
    (hmem : .connected ∈ s.work.queue) :
    s'.shortest ≤ 41 + s.work.ahead .connected ∧
      (l.Works → s'.shortest < 41 + s.work.ahead .connected) := by
  refine (h.advanced _ Work.noConfusion).shortest _ hmem State.shortest_le_connected fun hran => ?_
  rcases (hran.connected rfl).2 with hfailed | hp
  · have := shortest_le_of_failure hs' hfailed
    omega
  · have := shortest_le_of_pending hs' hp
    omega

lemma shortest_watchdog (h : Progresses s l s') (hs' : Coherent s')
    (hmem : .timeout ∈ s.work.armed) :
    s'.shortest ≤ 40 ∧ (l = .expire .timeout → s'.shortest < 40) := by
  refine ⟨?_, fun hl => ?_⟩
  · rcases h.timeout (.inl hmem) with hp | hfailed
    · exact shortest_le_of_pending hs' hp
    · have := shortest_le_of_failure hs' hfailed
      omega
  · have hqueued := h.watchdog hl
    have hle := State.shortest_le_timeout hqueued
    have hahead := hs'.ahead_le hqueued
    omega

lemma shortest_hangUp (h : Progresses s l s') (hs' : Coherent s') (hopen : ¬s'.Completes)
    (hends : s.host.attempt.disconnecting = true) :
    s'.shortest ≤ 13 ∧
      (∀ c, l = .disconnected c → s.mouseConn = some c → s'.shortest < 13) := by
  refine ⟨?_, fun c hl hc => ?_⟩
  · rcases h.disconnecting hends with hends' | hqueued | hcompletes
    · exact State.shortest_le_hangUp hends'
    · have := shortest_le_of_disconnected hs' hqueued
      omega
    · exact absurd hcompletes hopen
  · have := shortest_le_of_disconnected hs' (h.hangUp c hl hc)
    omega

/-- No step makes the shortest way longer, unless the connection may now be completed. -/
lemma shortest_le (h : Progresses s l s') (hs' : Coherent s') (hopen : ¬s'.Completes) :
    s'.shortest ≤ s.shortest :=
  State.le_shortest s'.shortest_le (fun hmem => (h.shortest_disconnected hmem).1)
    (fun hends => (h.shortest_hangUp hs' hopen hends).1) (fun hmem => (h.shortest_failure hmem).1)
    (fun hmem => (h.shortest_timeout hs' hmem).1) (fun hmem => (h.shortest_watchdog hs' hmem).1)
    fun hmem => (h.shortest_connected hs' hmem).1

/-- An awaited step makes the shortest way shorter. -/
lemma shortest_lt (h : Progresses s l s') (hs : Coherent s) (hs' : Coherent s')
    (hopen : ¬s'.Completes) (hdue : s.Due) (hnot : ¬s.Completes)
    (his : s.awaits.Is s.mouseConn l) : s'.shortest < s.shortest := by
  have hcap := s'.shortest_le
  -- what is awaited is what the shortest way begins with, so the other ways are longer
  unfold State.awaits at his
  rw [if_neg hnot] at his
  split_ifs at his with hdisconnected hends hfailure hqueued harmed
  · have hlt := (h.shortest_disconnected hdisconnected).2 his.works
    have hahead := hs.ahead_le hdisconnected
    refine Nat.lt_of_succ_le (State.le_shortest ?_ ?_ ?_ ?_ ?_ ?_ ?_) <;> omega
  · obtain ⟨c, rfl, hc⟩ := his.hangsUp
    have hlt := (h.shortest_hangUp hs' hopen hends).2 c rfl hc
    refine Nat.lt_of_succ_le (State.le_shortest ?_ (absurd · hdisconnected) ?_ ?_ ?_ ?_ ?_) <;>
      omega
  · have hlt := (h.shortest_failure hfailure).2 his.works
    have hahead := hs.ahead_le hfailure
    refine Nat.lt_of_succ_le (State.le_shortest ?_ (absurd · hdisconnected) (absurd · hends)
      ?_ ?_ ?_ ?_) <;> omega
  · have hlt := (h.shortest_timeout hs' hqueued).2 his.works
    have hahead := hs.ahead_le hqueued
    refine Nat.lt_of_succ_le (State.le_shortest ?_ (absurd · hdisconnected) (absurd · hends)
      (absurd · hfailure) ?_ ?_ ?_) <;> omega
  · have hlt := (h.shortest_watchdog hs' harmed).2 his.expires
    refine Nat.lt_of_succ_le (State.le_shortest ?_ (absurd · hdisconnected) (absurd · hends)
      (absurd · hfailure) (absurd · hqueued) ?_ ?_) <;> omega
  · have hconnected := hdue.connected_mem hdisconnected hends hfailure hqueued harmed
    have hlt := (h.shortest_connected hs' hconnected).2 his.works
    have hahead := hs.ahead_le hconnected
    refine Nat.lt_of_succ_le (State.le_shortest ?_ (absurd · hdisconnected) (absurd · hends)
      (absurd · hfailure) (absurd · hqueued) (absurd · harmed) ?_) <;> omega

/-- The way over the completion of the connection. -/
lemma distance_completes (h : Progresses s l s') (hcompletes : s.Completes) :
    s'.distance ≤ s.distance ∧ (l.Works → s'.distance < s.distance) := by
  have hcap := s'.shortest_le
  have hdistance : s.distance = 61 + s.work.ahead .connected := if_pos hcompletes
  rw [hdistance]
  unfold State.distance
  rcases h.advanced .connected Work.noConfusion hcompletes.2 with ⟨hmem, hahead, hlt⟩ | hran
  · split_ifs with hcompletes' hauto
    · exact ⟨by omega, fun hworks => Nat.add_lt_add_left (hlt hworks) 61⟩
    · exact absurd ⟨hauto, hmem⟩ hcompletes'
    · exact ⟨by omega, fun _ => by omega⟩
  · have hauto' := (hran.connected rfl).1
    rw [if_neg fun hcompletes' => hcompletes'.1 hauto', if_neg (not_not.2 hauto')]
    exact ⟨by omega, fun _ => by omega⟩

/-- No step leads further from the end of the attempt, and an awaited one leads nearer to it. -/
lemma distance (h : Progresses s l s') (hs : Coherent s) (hs' : Coherent s') (hdue : s.Due) :
    s'.distance ≤ s.distance ∧ (s.awaits.Is s.mouseConn l → s'.distance < s.distance) := by
  by_cases hcompletes : s.Completes
  · obtain ⟨hle, hlt⟩ := h.distance_completes hcompletes
    refine ⟨hle, fun his => hlt ?_⟩
    have hawaits : s.awaits = .work .connected := if_pos hcompletes
    rw [hawaits] at his
    exact his.works
  by_cases hcompletes' : s'.Completes
  · have hauto := h.auto hcompletes'.1
    have hahead := hs'.ahead_le hcompletes'.2
    unfold State.distance
    rw [if_neg hcompletes, if_pos hcompletes', if_pos hauto]
    exact ⟨by omega, fun _ => by omega⟩
  have hle := h.shortest_le hs' hcompletes'
  have hlt := h.shortest_lt hs hs' hcompletes' hdue hcompletes
  unfold State.distance
  rw [if_neg hcompletes, if_neg hcompletes']
  by_cases hauto' : s'.host.autoConn ≠ []
  · rw [if_pos hauto', if_pos (h.auto hauto')]
    exact ⟨by omega, fun his => Nat.add_lt_add_left (hlt his) 75⟩
  · rw [if_neg hauto']
    split_ifs with hauto
    · exact ⟨by omega, fun his => Nat.lt_add_left 75 (hlt his)⟩
    · exact ⟨hle, hlt⟩

end Progresses

/-! ### Every attempt -/

section Attempts

variable {maxPaired : ℕ} {s : State}

lemma State.distance_le (hs : Coherent s) : s.distance ≤ 135 := by
  have hcap := s.shortest_le
  unfold State.distance
  split_ifs with hcompletes
  · have := hs.ahead_le hcompletes.2
    omega
  · omega
  · omega

/-- A host that does not refuse to end the link wedges no client. -/
lemma not_wedges_of_agrees {l : Label} (ha : l.Agrees) : ¬Wedges s l := by
  rintro ⟨a, -, rfl, -, -, -, hzero, hgone, -⟩
  rcases ha with h | h
  · exact hzero h
  · exact hgone h

lemma attempt_progress (maxPaired : ℕ) : Transition.Progress (Attends maxPaired)
    (fun e => e.2 = true) (fun s => Coherent s ∧ Watched s) State.Resolved State.distance := by
  have hdistance {s : State} {e : Occasion} {s' : State} (h : Coherent s ∧ Watched s)
      (hclosed : ¬s.Resolved) (hstep : Attends maxPaired s e s') (hopen : ¬s'.Resolved) :
      s'.distance ≤ s.distance ∧ (s.awaits.Is s.mouseConn e.1 → s'.distance < s.distance) := by
    obtain ⟨hs, hwatched⟩ := h
    have hdue := hwatched.due (fun hnone => hclosed (.inl hnone)) fun hready =>
      hclosed (.inr hready)
    exact (progresses_of_step hs hwatched hclosed hstep.1 hstep.2.1 hopen).distance hs
      (hs.step hstep.1) hdue
  constructor
  · rintro s e s' ⟨hs, hwatched⟩ - ⟨hstep, ha, -⟩ -
    exact ⟨hs.step hstep, hwatched.step hs hstep (not_wedges_of_agrees ha)⟩
  · rintro s e s' h hclosed hstep hopen
    exact (hdistance h hclosed hstep hopen).1
  · rintro s e s' h hclosed hstep hopen hcounts
    exact (hdistance h hclosed hstep hopen).2 (hstep.2.2.1 hcounts)

/-- The awaited item of work waits, or the watchdog runs. -/
lemma awaits_enabled (hdue : s.Due) : (∃ w, s.awaits = .work w ∧ s.work.queue ≠ []) ∨
    s.awaits = .watchdog ∧ .timeout ∈ s.work.armed ∨ s.awaits = .hangUp := by
  unfold State.awaits
  split_ifs with hcompletes hdisconnected hends hfailure hqueued harmed
  · exact .inl ⟨_, rfl, List.ne_nil_of_mem hcompletes.2⟩
  · exact .inl ⟨_, rfl, List.ne_nil_of_mem hdisconnected⟩
  · exact .inr (.inr rfl)
  · exact .inl ⟨_, rfl, List.ne_nil_of_mem hfailure⟩
  · exact .inl ⟨_, rfl, List.ne_nil_of_mem hqueued⟩
  · exact .inr (.inl ⟨rfl, harmed⟩)
  · exact .inl ⟨_, rfl, List.ne_nil_of_mem
      (hdue.connected_mem hdisconnected hends hfailure hqueued harmed)⟩

/-- What is awaited can happen. -/
lemma exists_awaited (maxPaired : ℕ) (hs : Coherent s) (hwatched : Watched s)
    (hclosed : ¬s.Resolved) : ∃ e s', e.2 = true ∧ Attends maxPaired s e s' := by
  rw [State.Resolved, not_or] at hclosed
  have hgap := hs.inConnect_eq_false hclosed.1
  rcases awaits_enabled (hwatched.due hclosed.1 hclosed.2) with
    ⟨w, hawaits, hqueue⟩ | ⟨hawaits, harmed⟩ | hawaits
  · obtain ⟨v, rest, hq⟩ := List.exists_cons_of_ne_nil hqueue
    refine ⟨(.work {}, true), (s.take v rest).run maxPaired v {}, rfl, ⟨?_, ?_⟩, .inl rfl, ?_⟩
    · exact fun _ hlookup => absurd hlookup (Option.not_mem_none _)
    · simp only [State.step, hgap, Bool.false_eq_true, if_false, hq]
    · rw [hawaits]
      exact iff_of_true rfl trivial
  · refine ⟨(.expire .timeout, true), _, rfl, ⟨trivial, if_pos harmed⟩, trivial, ?_⟩
    rw [hawaits]
    exact iff_of_true rfl rfl
  · obtain ⟨c, hc⟩ := Option.ne_none_iff_exists'.1 hclosed.1
    refine ⟨(.disconnected c, true), _, rfl, ⟨trivial, rfl⟩, trivial, ?_⟩
    rw [hawaits]
    exact iff_of_true rfl hc

/-- Every attempt is resolved.  After a run in which no teardown was refused with nothing under
way, as long as the host does not refuse to end the link: the attempt is over or the mouse is ready
before 136 awaited events have happened, whatever else happens, and they can always happen. -/
theorem every_attempt_resolves {bonds : List Addr} {labels : List Label}
    (hrun : Run maxPaired (State.init bonds) labels s)
    (hsafe : ∀ t l t', Transition.Takes (Step maxPaired) (State.init bonds) labels t l t' →
      ¬Wedges t l) :
    (∀ events s', Transition.Run (Attends maxPaired) s events s' →
      135 < events.countP (fun e => e.2 = true) →
      ∃ t, Transition.Visits (Attends maxPaired) s events t ∧ t.Resolved) ∧
    ∃ events t, Transition.Run (Attends maxPaired) s events t ∧ t.Resolved ∧
      ∀ e ∈ events, e.2 = true := by
  have hs : Coherent s ∧ Watched s := by
    refine Transition.Run.invariant_unless ⟨labels, List.prefix_refl _, hrun⟩
      (fun t => Coherent t ∧ Watched t) Wedges ⟨coherent_init bonds, watched_init bonds⟩ ?_ hsafe
    rintro t l t' ⟨ht, hwatched⟩ hstep hgood
    exact ⟨ht.step hstep, hwatched.step ht hstep hgood⟩
  have hprogress := attempt_progress maxPaired
  refine ⟨fun events s' hattends hmany => ?_, ?_⟩
  · exact hprogress.visits hs hattends ((State.distance_le hs.1).trans_lt hmany)
  · exact hprogress.reachable (fun t ht hclosed => exists_awaited maxPaired ht.1 ht.2 hclosed) hs

end Attempts

/-- An attempt at the saved mouse whose connection has been looked up is resolved. -/
theorem every_attempt_resolves_lookedUp : ∃ s events t,
    Run 8 (State.init [⟨1, 7⟩]) ((refusedTeardown ⟨1, 7⟩).take 4) s ∧ ¬s.Resolved ∧
      Transition.Run (Attends 8) s events t ∧ t.Resolved := by
  obtain ⟨s, hrun, hopen⟩ := exists_run 8 (State.init [⟨1, 7⟩]) ((refusedTeardown ⟨1, 7⟩).take 4)
    (fun s => decide (s.mouseConn ≠ none ∧ s.stage ≠ .ready)) (by decide +kernel)
  have hagrees : ∀ l ∈ (refusedTeardown ⟨1, 7⟩).take 4, l.Agrees := by
    simp [refusedTeardown, Label.Agrees]
  obtain ⟨-, events, t, hattends, ht, -⟩ := every_attempt_resolves hrun fun t l t' htakes =>
    not_wedges_of_agrees (hagrees l htakes.mem)
  exact ⟨s, events, t, hrun, not_or.2 (of_decide_eq_true hopen), hattends, ht⟩

end BleMouse.Client
