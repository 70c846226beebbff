/-
No wedged connection.

While the client holds a connection that is not ready, something is due that will move it on
(`State.Due`).  The exception is a teardown that the host refuses while nothing else is under
way: `failure_work_cb` logs the error and leaves the connection alone (`Wedges`).

* `no_wedged_connection`: the states of a run are all free of a wedge exactly when the run
  has no such step.
* `refused_teardown_wedges`: a run with such a step.
-/
import BleMouse.Client.Frame

namespace BleMouse.Client

/-! ### What is due -/

/-- Something will move the client on: the watchdog, work of the attempt, or the end of the
link that the host has accepted to bring about. -/
def State.Due (s : State) : Prop :=
  s.work.Pending .timeout ∨ .connected ∈ s.work.queue ∨ .failure ∈ s.work.queue ∨
    .disconnected ∈ s.work.queue ∨ s.host.attempt.disconnecting = true

instance (s : State) : Decidable s.Due := inferInstanceAs (Decidable (_ ∨ _ ∨ _ ∨ _ ∨ _))

/-- A connection that is not ready has something due. -/
def State.NotWedged (s : State) : Prop := s.mouseConn ≠ none → s.stage ≠ .ready → s.Due

instance (s : State) : Decidable s.NotWedged := inferInstanceAs (Decidable (_ → _ → _))

/-- The teardown that nothing follows: `failure_work_cb` runs, the host refuses to disconnect
with another error than `-ENOTCONN`, and nothing else is under way. -/
def Wedges (s : State) (l : Label) : Prop :=
  ∃ a rest, l = .work a ∧ s.work.queue = .failure :: rest ∧ s.inConnect = false ∧
    s.mouseConn ≠ none ∧ a.disconnect ≠ 0 ∧ a.disconnect ≠ -eNotConn ∧
    ¬s.work.Pending .timeout ∧ .connected ∉ rest ∧ .disconnected ∉ rest ∧
    s.host.attempt.disconnecting = false

/-- The invariant: what is due, and the watchdog runs while the attempt has not failed. -/
structure Watched (s : State) : Prop where
  due : s.NotWedged
  timed : s.mouseConn ≠ none → s.failure = 0 → s.stage ≠ .ready → s.stage ≠ .closing →
    s.work.Pending .timeout

namespace Watched

variable {s s' : State}

lemma of_none (hconn : s.mouseConn = none) : Watched s :=
  ⟨fun h => absurd hconn h, fun h => absurd hconn h⟩

lemma of_ready (hstage : s.stage = .ready) : Watched s :=
  ⟨fun _ h => absurd hstage h, fun _ _ h => absurd hstage h⟩

lemma fail (hinit : s.initialized = true) (err : ℤ) : Watched (s.fail err) where
  due := fun _ _ => .inr (.inr (.inl (Explores.failure_mem_fail hinit err)))
  timed := fun _ hzero => absurd hzero (Explores.fail_ne_zero s err)

/-- Discovery keeps the client watched. -/
lemma explores (h : Watched s) (he : Explores s s') : Watched s' := by
  have hstage : s'.stage ≠ .ready → s.stage ≠ .ready := by
    rcases he.stage with heq | ⟨hlinked, -⟩
    · exact fun hne => heq ▸ hne
    · rintro - hready
      rw [hready] at hlinked
      rcases hlinked with hlinked | hlinked
      · exact Stage.noConfusion hlinked
      · exact hlinked.2.2.2.1 rfl
  constructor
  · intro hconn hne
    rcases he.failure with ⟨-, hfailure⟩ | ⟨-, hfailure⟩
    · rw [he.mouseConn] at hconn
      rcases h.due hconn (hstage hne) with hdue | hdue | hdue | hdue | hdue
      · exact .inl (he.timeout.2 hdue)
      · exact .inr (.inl ((he.queued _ (.inl rfl)).2 hdue))
      · exact .inr (.inr (.inl (hfailure hdue)))
      · exact .inr (.inr (.inr (.inl ((he.queued _ (.inr rfl)).2 hdue))))
      · obtain ⟨requests, subscribed, hhost⟩ := he.host
        refine .inr (.inr (.inr (.inr ?_)))
        rw [hhost]
        exact hdue
    · exact .inr (.inr (.inl hfailure))
  · intro hconn hzero hne hopen
    rcases he.failure with ⟨hfailure, -⟩ | ⟨hfailed, -⟩
    · rw [he.mouseConn] at hconn
      rw [hfailure] at hzero
      refine he.timeout.2 (h.timed hconn hzero (hstage hne) ?_)
      rcases he.stage with heq | ⟨hlinked, -⟩
      · exact heq ▸ hopen
      · rintro hclosing
        rw [hclosing] at hlinked
        rcases hlinked with hlinked | hlinked
        · exact Stage.noConfusion hlinked
        · exact hlinked.2.2.2.2 rfl
    · exact absurd hzero hfailed

lemma background (h : Watched s) (hb : Background s s') : Watched s' := h.explores hb.explores

/-- An item that does not watch over the attempt is taken off the queue. -/
lemma take (h : Watched s) {w : Work} {rest : List Work} (hq : s.work.queue = w :: rest)
    (hw : w ≠ .timeout ∧ w ≠ .connected ∧ w ≠ .failure ∧ w ≠ .disconnected) :
    Watched (s.take w rest) := by
  have hmem {v : Work} (hv : v ∈ s.work.queue) (hne : w ≠ v) : v ∈ (s.take w rest).work.queue := by
    rw [hq] at hv
    exact (List.mem_cons.1 hv).resolve_left hne.symm
  have htimeout : (s.take w rest).work.Pending .timeout ↔ s.work.Pending .timeout :=
    WorkQueue.pending_tail hq hw.1.symm
  have hattempt : (s.take w rest).host.attempt = s.host.attempt := by
    rw [State.take, State.host_observe]
    rfl
  constructor
  · intro hconn hne
    rcases h.due hconn hne with hdue | hdue | hdue | hdue | hdue
    · exact .inl (htimeout.2 hdue)
    · exact .inr (.inl (hmem hdue hw.2.1))
    · exact .inr (.inr (.inl (hmem hdue hw.2.2.1)))
    · exact .inr (.inr (.inr (.inl (hmem hdue hw.2.2.2))))
    · refine .inr (.inr (.inr (.inr ?_)))
      rw [hattempt]
      exact hdue
  · intro hconn hzero hne hopen
    exact htimeout.2 (h.timed hconn hzero hne hopen)

end Watched

/-! ### The ends of an attempt -/

namespace Watched

variable {s : State}

/-- `failure_work` has been taken off the queue. -/
lemma failureWorkCb (a : Answers) (h : a.disconnect = 0 → ∀ c, s.mouseConn = some c →
      s.host.attempt.conn = some c)
    (hdue : s.mouseConn ≠ none → a.disconnect ≠ 0 → a.disconnect ≠ -eNotConn → s.Due) :
    Watched (s.failureWorkCb a) := by
  unfold State.failureWorkCb
  split
  case h_2 hc => exact of_none hc
  case h_1 c hc =>
  have hconn : s.mouseConn ≠ none := hc ▸ Option.some_ne_none c
  dsimp only
  split
  case isTrue => exact of_none (State.disconnectedWorkCb_mouseConn _ a)
  case isFalse hother =>
  refine ⟨fun _ _ => ?_, fun _ _ _ hopen => absurd rfl hopen⟩
  have hhost : (({ s with stage := .closing, scanWanted := false } : State).observe
      (.disconnect c a.disconnect)).host = s.host.record (.disconnect c a.disconnect) :=
    State.host_observe _ _
  by_cases hok : a.disconnect = 0
  · refine .inr (.inr (.inr (.inr ?_)))
    rw [hhost]
    simp [History.record, Attempt.record, hok, h hok c hc]
  · rcases hdue hconn hok hother with hdue | hdue | hdue | hdue | hdue
    · exact .inl hdue
    · exact .inr (.inl hdue)
    · exact .inr (.inr (.inl hdue))
    · exact .inr (.inr (.inr (.inl hdue)))
    · refine .inr (.inr (.inr (.inr ?_)))
      rw [hhost]
      simp [History.record, Attempt.record, hdue]

/-- `timeout_work` has been taken off the queue. -/
lemma timeoutWorkCb (hinit : s.initialized = true) : Watched s.timeoutWorkCb := by
  unfold State.timeoutWorkCb
  split
  case isTrue => exact fail hinit _
  case isFalse hcond =>
  rw [Bool.and_eq_true, Option.isSome_iff_ne_none, decide_eq_true_eq, not_and, not_not] at hcond
  by_cases hconn : s.mouseConn = none
  · exact of_none hconn
  · exact of_ready (hcond hconn)

/-- The connection of the attempt is completed. -/
lemma completeConnection (hinit : s.initialized = true) (a : Answers)
    (htimed : s.mouseConn ≠ none → s.failure = 0 → s.stage ≠ .closing →
      s.work.Pending .timeout) :
    Watched (s.completeConnection a) := by
  unfold State.completeConnection
  split
  case h_1 hc => exact of_none hc
  case h_2 c hc =>
  have hb := (Background.refl (s.observe (.autoConnOff c.dst))).scanRefresh
  dsimp only
  generalize (s.observe (.autoConnOff c.dst)).scanRefresh = t at hb ⊢
  have hinit' : t.initialized = true := hb.initialized.trans hinit
  split
  case isTrue =>
    refine of_none ?_
    rw [State.requestRetry_mouseConn, State.forgetIfRequested_mouseConn]
    rfl
  case isFalse =>
  split
  case isTrue => exact fail hinit' _
  case isFalse hlive =>
  rw [not_or, not_not] at hlive
  split
  case isTrue =>
    refine fail ?_ _
    exact hinit'
  case isFalse =>
  -- the watchdog has been running since the attempt began
  have htimeout : t.work.Pending .timeout :=
    hb.timeout.2 (htimed (hc ▸ Option.some_ne_none c) (hb.failure ▸ hlive.1)
      (hb.stage ▸ hlive.2))
  have hs (t' : State) (ht : t'.work.Pending .timeout) : Watched t' :=
    ⟨fun _ _ => .inl ht, fun _ _ _ _ => ht⟩
  split
  case isFalse => exact hs _ htimeout
  case isTrue =>
    have hsecure := (Explores.refl ({ t with stage := .security }.observe
      (.setSecurity c a.setSecurity))).nextStage (.inl rfl) Coherent.exploring_service
    exact hs _ (hsecure.timeout.2 htimeout)

/-- `connected_work` has been taken off the queue. -/
lemma connectedWorkCb (hinit : s.initialized = true) (a : Answers)
    (htimed : s.mouseConn ≠ none → s.failure = 0 → s.stage ≠ .closing →
      s.work.Pending .timeout) :
    Watched (s.connectedWorkCb a) := by
  have hb := (Background.refl s).releaseEvent
  refine completeConnection (hb.initialized.trans hinit) a ?_
  rw [hb.mouseConn, hb.failure, hb.stage, hb.timeout]
  exact htimed

/-- `clear_work` has been taken off the queue. -/
lemma clearWorkCb (h : Watched s) (hinit : s.initialized = true) (a : Answers) :
    Watched (s.clearWorkCb a) := by
  unfold State.clearWorkCb
  split
  case isTrue => exact h
  case isFalse =>
  dsimp only
  split
  case isTrue =>
    refine fail ?_ _
    exact hinit
  case isFalse hconn =>
    refine of_none ?_
    rw [State.forgetPeer_mouseConn]
    exact Option.not_isSome_iff_eq_none.1 hconn

/-- `discovery_work` has been taken off the queue. -/
lemma discoveryWorkCb (h : Watched s) (hinit : s.initialized = true)
    (hstage : s.Live → s.stage.Exploring) (a : Answers) : Watched (s.discoveryWorkCb a) := by
  rcases discoveryWorkCb_cases hinit hstage a with hexplores | ⟨c, index, -, -, -, hfinishes⟩
  · exact h.explores hexplores
  · generalize s.discoveryWorkCb a = s' at hfinishes
    cases hfinishes with
    | known => exact of_ready rfl
    | candidate => exact of_ready rfl

/-! ### The beginning of an attempt -/

lemma connectWorkEnd (hinit : s.initialized = true) (a : Answers) :
    Watched (s.connectWorkEnd a) := by
  have hreturned (t : State) (err : ℤ) (ht : Watched t) : Watched (t.connectReturned err) :=
    ht.background ((Background.refl t).connectReturned err)
  unfold State.connectWorkEnd State.connectMouseLookup
  dsimp only
  split
  case isTrue hlookup =>
    refine hreturned _ _ (of_none ?_)
    rw [State.requestRetry_mouseConn]
    exact Option.isNone_iff_eq_none.1 hlookup
  case isFalse =>
    refine hreturned _ _ ?_
    have htimeout (t : State) (ht : t.initialized = true) :
        (t.schedule .timeout 20000).work.Pending .timeout := by
      unfold State.schedule
      rw [if_pos ht]
      exact WorkQueue.pending_reschedule.2 (.inr rfl)
    have hs (t : State) (ht : t.work.Pending .timeout) : Watched t :=
      ⟨fun _ _ => .inl ht, fun _ _ _ _ => ht⟩
    exact hs _ (htimeout _ hinit)

/-! ### Callbacks of the connection -/

lemma observe (h : Watched s) (o : Obs) (ho : s.mouseConn ≠ none →
      s.host.attempt.disconnecting = true → (s.host.record o).attempt.disconnecting = true) :
    Watched (s.observe o) := by
  refine ⟨fun hconn hne => ?_, h.timed⟩
  rcases h.due hconn hne with hdue | hdue | hdue | hdue | hdue
  · exact .inl hdue
  · exact .inr (.inl hdue)
  · exact .inr (.inr (.inl hdue))
  · exact .inr (.inr (.inr (.inl hdue)))
  · refine .inr (.inr (.inr (.inr ?_)))
    rw [State.host_observe]
    exact ho hconn hdue

/-- The host's view of the connection, while the client has one. -/
lemma owns_of_conn (hs : Coherent s) (hconn : s.mouseConn ≠ none) {c : Conn}
    (hc : s.host.attempt.conn = some c) : s.owns c = true :=
  decide_eq_true ((hs.conn (.inl hconn)).symm.trans hc)

/-- An item of the attempt is submitted. -/
lemma submit {w : Work} (hw : w = .connected ∨ w = .disconnected)
    (hinit : s.mouseConn ≠ none → s.initialized = true)
    (htimed : s.mouseConn ≠ none → s.failure = 0 → s.stage ≠ .ready → s.stage ≠ .closing →
      s.work.Pending .timeout) : Watched (s.submit w) := by
  constructor
  · intro hconn _
    have hmem : w ∈ (s.submit w).work.queue := by
      show w ∈ (if s.initialized then s.work.submit w else s.work).queue
      rw [if_pos (hinit hconn)]
      exact WorkQueue.mem_submit.2 (.inr rfl)
    rcases hw with rfl | rfl
    · exact .inr (.inl hmem)
    · exact .inr (.inr (.inr (.inl hmem)))
  · intro hconn hzero hne hopen
    show (if s.initialized then s.work.submit w else s.work).Pending .timeout
    rw [if_pos (hinit hconn)]
    exact WorkQueue.pending_submit.2 (.inl (htimed hconn hzero hne hopen))

lemma connectedCb (h : Watched s) (hs : Coherent s) (c : Conn) (err : ℕ) :
    Watched ((s.observe (.connected c err)).connectedCb c err) := by
  unfold State.connectedCb
  split
  case isTrue =>
    have hinit (hconn : s.mouseConn ≠ none) := hs.initialized_of_engaged (.inl hconn)
    refine submit (.inl rfl) ?_ ?_
    · exact hinit
    · exact h.timed
  case isFalse hcond =>
    refine h.observe _ fun hconn hdue => ?_
    have hne : s.host.attempt.conn ≠ some c := fun hc => by
      have howns : (s.observe (.connected c err)).owns c = true := owns_of_conn hs hconn hc
      rw [howns, Bool.true_or] at hcond
      exact hcond rfl
    simp [History.record, Attempt.record, hdue, hne]

lemma disconnectedCb (h : Watched s) (hs : Coherent s) (c : Conn) :
    Watched ((s.observe (.disconnected c)).disconnectedCb c) := by
  unfold State.disconnectedCb
  split
  case isTrue =>
    have hinit (hconn : s.mouseConn ≠ none) := hs.initialized_of_engaged (.inl hconn)
    refine submit (.inr rfl) ?_ ?_
    · exact hinit
    · exact fun _ _ _ hopen => absurd rfl hopen
  case isFalse hcond =>
    refine h.observe _ fun hconn hdue => ?_
    have hne : s.host.attempt.conn ≠ some c := fun hc => hcond (owns_of_conn hs hconn hc)
    simp [History.record, Attempt.record, hdue, hne]

lemma pairingCompleteCb (h : Watched s) (hs : Coherent s) (c : Conn) (bonded : Bool) :
    Watched ((s.observe (.pairingComplete c bonded)).pairingCompleteCb c bonded) := by
  have hobserved : Watched (s.observe (.pairingComplete c bonded)) := by
    refine h.observe _ fun _ hdue => ?_
    simp only [History.record, Attempt.record]
    split_ifs <;> exact hdue
  have hpaired : Watched { s.observe (.pairingComplete c bonded) with candidateBonded := bonded } :=
    ⟨hobserved.due, hobserved.timed⟩
  unfold State.pairingCompleteCb
  split
  case isFalse => exact hobserved
  case isTrue hcond =>
    have hc : s.mouseConn = some c := of_decide_eq_true hcond
    have hinit := hs.initialized_of_engaged (.inl (hc ▸ Option.some_ne_none c))
    dsimp only
    split
    · refine fail ?_ _
      exact hinit
    · exact hpaired

lemma settingsSet (h : Watched s) (name : String) (length : ℕ) (contents : Addr) (result : ℤ) :
    Watched (s.settingsSet name length contents result).1 := by
  unfold State.settingsSet
  dsimp only
  split_ifs
  · exact h
  · exact h
  · exact ⟨h.due, h.timed⟩
  · exact ⟨h.due, h.timed⟩

lemma zmkBleMouseStart (h : Watched s) (hs : Coherent s) : Watched s.zmkBleMouseStart := by
  unfold State.zmkBleMouseStart
  split
  case isTrue => exact h
  case isFalse hstarted =>
    -- there is no connection before the start
    have hoff := hs.off (hs.start.trans (Bool.eq_false_of_not_eq_true hstarted))
    exact of_none hoff.2.2.1

lemma zmkBleMouseClearHold (h : Watched s) (pressed : Bool) :
    Watched ((s.observe (.clearKey pressed)).zmkBleMouseClearHold pressed) := by
  have hobserved : Watched (s.observe (.clearKey pressed)) := h.observe _ fun _ hdue => hdue
  have hheld : Watched { s.observe (.clearKey pressed) with clearHeld := pressed } :=
    ⟨hobserved.due, hobserved.timed⟩
  exact hheld.background (Background.zmkBleMouseClearHold _ pressed)

/-! ### Steps -/

/-- What a run of `failure_work` leaves due when it does not wedge the client. -/
lemma due_of_not_wedges (hgap : s.inConnect = false)
    {rest : List Work} (hq : s.work.queue = .failure :: rest) {a : Answers}
    (hsafe : ¬Wedges s (.work a)) (hconn : s.mouseConn ≠ none) (herr : a.disconnect ≠ 0)
    (hother : a.disconnect ≠ -eNotConn) : (s.take .failure rest).Due := by
  by_contra hdue
  simp only [State.Due, not_or, Bool.not_eq_true] at hdue
  obtain ⟨htimeout, hconnected, -, hdisconnected, hdisconnecting⟩ := hdue
  refine hsafe ⟨a, rest, rfl, hq, hgap, hconn, herr, hother, ?_, hconnected, hdisconnected, ?_⟩
  · exact fun hp => htimeout ((WorkQueue.pending_tail hq Work.noConfusion).2 hp)
  · rw [State.take, State.host_observe] at hdisconnecting
    exact hdisconnecting

lemma run (h : Watched s) (hs : Coherent s) {maxPaired : ℕ} (hgap : s.inConnect = false)
    {w : Work} {rest : List Work} (hq : s.work.queue = w :: rest) {a : Answers}
    (hsafe : ¬Wedges s (.work a)) : Watched ((s.take w rest).run maxPaired w a) := by
  have hmem : w ∈ s.work.queue := hq ▸ List.mem_cons_self
  have hinit : (s.take w rest).initialized = true := hs.initialized_of_mem hmem
  have hrefl := Background.refl (s.take w rest)
  cases w with
  | discovery =>
    refine (h.take hq (by simp)).discoveryWorkCb hinit ?_ a
    exact fun hlive => ((hs.token hlive).discovery hmem).2
  | failure =>
    refine failureWorkCb a ?_ (due_of_not_wedges hgap hq hsafe)
    rintro - c hc
    have hconn : s.host.attempt.conn = s.mouseConn := hs.conn (.inl (hc ▸ Option.some_ne_none c))
    rw [State.take, State.host_observe]
    exact hconn.trans hc
  | retry => exact (h.take hq (by simp)).background hrefl.retryWorkCb
  | timeout => exact timeoutWorkCb hinit
  | pairTimeout =>
    exact (h.take hq (by simp)).explores ((Explores.refl _).pairTimeoutCb hinit)
  | connected =>
    refine connectedWorkCb hinit a ?_
    rintro hconn hzero hopen
    refine (WorkQueue.pending_tail hq Work.noConfusion).2 (h.timed hconn hzero ?_ hopen)
    rintro hready
    rcases hs.completed hmem hconn with hstage | hstage <;>
      exact Stage.noConfusion (hready.symm.trans hstage)
  | disconnected => exact of_none (State.disconnectedWorkCb_mouseConn _ a)
  | pair => exact (h.take hq (by simp)).background (hrefl.pairWorkCb maxPaired)
  | clear => exact (h.take hq (by simp)).clearWorkCb hinit a
  | scan => exact (h.take hq (by simp)).background (hrefl.scanWorkCb a)
  | connect =>
    have hbegun := (hs.take hq).connectWorkBegin maxPaired (hs.connecting_take hgap hq) a
    have hnone : (s.take .connect rest).mouseConn = none := by
      by_contra hconn
      exact (hs.connect hmem).1 (.inl hconn)
    show Watched (State.connectWorkCb maxPaired (s.take .connect rest) a)
    unfold State.connectWorkCb
    dsimp only
    split
    case isTrue hin => exact connectWorkEnd (hbegun.initialized_of_engaged (.inr hin)) a
    case isFalse => exact of_none (State.connectWorkBegin_mouseConn maxPaired hnone a)
  | settle => exact (h.take hq (by simp)).background hrefl.settleWorkCb
  | output => exact h.take hq (by simp)

/-- Every step but those that wedge the client keeps it watched. -/
theorem step {maxPaired : ℕ} (h : Watched s) (hs : Coherent s) {l : Label} {s' : State}
    (hstep : Step maxPaired s l s') (hsafe : ¬Wedges s l) : Watched s' := by
  cases alters_of_step hs hstep with
  | explores he => exact h.explores he
  | work hgap hq => exact h.run hs hgap hq hsafe
  | @connectBegin a rest hgap hq =>
    have hmem : .connect ∈ s.work.queue := hq ▸ List.mem_cons_self
    refine of_none (State.connectWorkBegin_mouseConn maxPaired ?_ a)
    by_contra hconn
    exact (hs.connect hmem).1 (.inl hconn)
  | @connectEnd a hin => exact connectWorkEnd (hs.initialized_of_engaged (.inr hin)) a
  | connected c err => exact h.connectedCb hs c err
  | disconnected c => exact h.disconnectedCb hs c
  | pairingComplete c bonded => exact h.pairingCompleteCb hs c bonded
  | clearHold pressed => exact h.zmkBleMouseClearHold pressed
  | settings name length contents result =>
    exact (h.observe (.load name length contents result) fun _ hdue => hdue).settingsSet name length
      contents result
  | start => exact h.zmkBleMouseStart hs

end Watched

/-! ### Runs -/

lemma watched_init (bonds : List Addr) : Watched (State.init bonds) := Watched.of_none rfl

/-- A refused teardown with nothing under way leaves nothing due. -/
lemma not_notWedged_of_wedges {maxPaired : ℕ} {s s' : State} {l : Label} (hs : Coherent s)
    (hstep : Step maxPaired s l s') (hwedges : Wedges s l) : ¬s'.NotWedged := by
  obtain ⟨a, rest, rfl, hq, hgap, hconn, herr, hother, htimeout, hconnected, hdisconnected,
    hdisconnecting⟩ := hwedges
  obtain ⟨c, hc⟩ := Option.ne_none_iff_exists'.1 hconn
  obtain ⟨-, hstep⟩ := hstep
  have heq : s' = ({ s.take .failure rest with stage := .closing, scanWanted := false } :
      State).observe (.disconnect c a.disconnect) := by
    simp only [State.step, hgap, Bool.false_eq_true, if_false, hq, Option.some.injEq] at hstep
    rw [← hstep]
    show State.failureWorkCb (s.take .failure rest) a = _
    have hc' : (s.take .failure rest).mouseConn = some c := hc
    simp only [State.failureWorkCb, hc', hother, if_false]
  intro hdue
  have hnodup : (Work.failure :: rest).Nodup := hq ▸ hs.nodup
  rcases hdue (by rw [heq]; exact hconn) (by rw [heq]; exact Stage.noConfusion) with
    hdue | hdue | hdue | hdue | hdue
  · rw [heq] at hdue
    exact htimeout ((WorkQueue.pending_tail hq Work.noConfusion).1 hdue)
  · rw [heq] at hdue
    exact hconnected hdue
  · rw [heq] at hdue
    exact (List.nodup_cons.1 hnodup).1 hdue
  · rw [heq] at hdue
    exact hdisconnected hdue
  · have hhost : s'.host = (s.take .failure rest).host.record (.disconnect c a.disconnect) := by
      rw [heq]
      exact State.host_observe _ _
    have htake : (s.take .failure rest).host = s.host :=
      (State.host_observe _ _).trans (record_quiet _ Work.noConfusion)
    rw [hhost, htake] at hdue
    simp [History.record, Attempt.record, hdisconnecting, herr] at hdue

/-- No wedged connection: the states that a run passes through all have something due, while
there is a connection that is not ready, exactly when no teardown is refused with nothing
under way. -/
theorem no_wedged_connection (maxPaired : ℕ) (bonds : List Addr) (labels : List Label) :
    (∀ t, Transition.Visits (Step maxPaired) (State.init bonds) labels t → t.NotWedged) ↔
      ∀ t l t', Transition.Takes (Step maxPaired) (State.init bonds) labels t l t' →
        ¬Wedges t l := by
  constructor
  · rintro hfree t l t' ⟨before, hprefix, hrun, hstep⟩ hwedges
    refine not_notWedged_of_wedges (run_coherent hrun) hstep hwedges ?_
    exact hfree t' ⟨before ++ [l], hprefix, hrun.snoc hstep⟩
  · rintro hgood t hvisits
    have hinv : Coherent t ∧ Watched t := by
      refine Transition.Run.invariant_unless hvisits (fun t => Coherent t ∧ Watched t) Wedges
        ⟨coherent_init bonds, watched_init bonds⟩ ?_ hgood
      rintro t l t' ⟨hs, h⟩ hstep hsafe
      exact ⟨hs.step hstep, h.step hs hstep hsafe⟩
    exact hinv.2.due

/-- The saved mouse cannot be reached, the watchdog expires, and the host refuses the teardown
with `-EIO`. -/
def refusedTeardown (addr : Addr) : List Label :=
  [.settings "peer" 7 addr 7, .start, .work {}, .work { lookup := some ⟨1, addr⟩ }, .work {},
    .expire .timeout, .work {}, .work { disconnect := -eIo }]

/-- After it the connection is neither ready nor has anything due. -/
theorem refused_teardown_wedges :
    ∃ s, Run 8 (State.init [⟨1, 7⟩]) (refusedTeardown ⟨1, 7⟩) s ∧ ¬s.NotWedged := by
  obtain ⟨s, hrun, hwedged⟩ := exists_run 8 (State.init [⟨1, 7⟩]) (refusedTeardown ⟨1, 7⟩)
    (fun s => decide ¬s.NotWedged) (by decide +kernel)
  exact ⟨s, hrun, of_decide_eq_true hwedged⟩

end BleMouse.Client
