/-
The mouse can always become ready again.

From every state that the client can be in, it can come to rest (`exists_resting`), and from there
the keys, the host and a mouse that conforms lead it to be ready.

* `Requested`, `Linked`, `Secured`: what is reached on the way;
* `reconnect_stays_possible`: the saved mouse can be connected again;
* `pairing_stays_possible`: another mouse can be paired.
-/
import BleMouse.Client.Discovery
import BleMouse.Client.Rest

namespace BleMouse.Client

open BleMouse.Hid BleMouse.Output

/-! ### A connection -/

/-- A request to connect waits, perhaps with a scan behind it. -/
structure Requested (maxPaired : ℕ) (addr : Addr) (s : State) : Prop
    extends Admits maxPaired s addr where
  gap : s.inConnect = false
  initialized : s.initialized = true
  pending : s.pendingAddress = addr
  queue : ∃ rest, s.work.queue = .connect :: rest ∧ (rest = [] ∨ rest = [.scan])

/-- The connection of an attempt is in a stage, and nothing has failed. -/
structure Linked (c : Conn) (stage : Stage) (queue : List Work) (s : State) : Prop where
  conn : s.mouseConn = some c
  gap : s.inConnect = false
  failure : s.failure = 0
  initialized : s.initialized = true
  stage : s.stage = stage
  scanWanted : s.scanWanted = false
  scanOwned : s.scanOwned = false
  queue : s.work.queue = queue
  candidate : s.newCandidate = !s.havePeer
  session : s.session = {}

section Connection

variable {maxPaired : ℕ} {s : State} {c : Conn}

/-- What the worker runs is of no account to the host, but for the Clear key. -/
lemma host_take {w : Work} (hw : w ≠ .clear) (rest : List Work) :
    (s.take w rest).host = s.host :=
  (State.host_observe _ _).trans (record_quiet _ hw)

/-- The host ends a scan. -/
lemma State.stopOwnScan_zero (s : State) : ∃ journal, history journal = s.host ∧
    s.stopOwnScan 0 = ({ s with scanOwned := false, journal }, 0) := by
  unfold State.stopOwnScan
  split
  case isTrue howned =>
    have hdown : s.scanOwned = false := Bool.eq_false_of_not_eq_true howned
    exact ⟨s.journal, rfl, by rw [← hdown]⟩
  case isFalse => exact ⟨s.journal ++ [.scanStop 0], history_snoc _ _, if_neg (by simp)⟩

/-- The checks depend on the host only through its bonds. -/
lemma Admits.congr {t : State} {addr : Addr} (h : Admits maxPaired s addr)
    (hhost : t.host = s.host) (hconn : t.mouseConn = s.mouseConn)
    (hwanted : t.scanWanted = s.scanWanted) (hsaved : t.havePeer = s.havePeer)
    (hpeer : t.peer = s.peer) (hpairing : t.pairing = s.pairing) : Admits maxPaired t addr where
  free := hconn.trans h.free
  wanted := hwanted.trans h.wanted
  known hknown := (h.known (hsaved ▸ hknown)).trans hpeer.symm
  pairing hnone := by
    unfold State.bondCount
    rw [hhost, hpairing]
    exact h.pairing (hsaved ▸ hnone)

lemma Admits.connectMouse {addr : Addr} (h : Admits maxPaired s addr) (lookup : Option Conn) :
    s.connectMouse maxPaired addr { lookup } = (s.begun addr, 0) := by
  unfold State.connectMouse State.begun State.isBonded
  cases hsaved : s.havePeer with
  | true =>
    have hknown := h.known hsaved
    simp [h.free, h.wanted, hknown]
  | false =>
    obtain ⟨hpairing, hmem, hlength⟩ := h.pairing hsaved
    simp [h.free, h.wanted, hpairing, hmem, hlength]

/-- The worker connects, and looks the connection up. -/
lemma Admits.connectWorkCb (h : Admits maxPaired s s.pendingAddress) (lookup : Option Conn) :
    ∃ journal, history journal = s.host ∧ s.connectWorkCb maxPaired { lookup } =
      (State.begun { s with scanOwned := false, journal } s.pendingAddress).connectWorkEnd
        { lookup } := by
  obtain ⟨journal, hhost, hstop⟩ := s.stopOwnScan_zero
  have hhost' : history (journal ++ [.connect s.pendingAddress]) = s.host := by
    rw [history_snoc, hhost]
    rfl
  have hadmits : Admits maxPaired (State.observe { s with scanOwned := false, journal }
      (.connect s.pendingAddress)) s.pendingAddress := h.congr hhost' rfl rfl rfl rfl rfl
  have hbegin : s.connectWorkBegin maxPaired { lookup } = State.begun { s with
      scanOwned := false, journal := journal ++ [.connect s.pendingAddress] } s.pendingAddress := by
    have hmouse := hadmits.connectMouse lookup
    unfold State.connectWorkBegin
    simp only [hstop]
    rw [if_neg (by simp)]
    simp only [hmouse]
    exact if_pos rfl
  refine ⟨_, hhost', ?_⟩
  unfold State.connectWorkCb
  simp only [hbegin]
  exact if_pos rfl

/-- The host finds the connection. -/
lemma connectWorkEnd_eq (s : State) (c : Conn) : s.connectWorkEnd { lookup := some c } =
    { (({ s with mouseConn := some c, inConnect := false } : State).observe
        (.lookup s.pendingAddress (some c))).schedule .timeout 20000 with
      connecting := false } := rfl

/-- The worker connects, and the host finds the connection. -/
lemma Requested.exists_linked (h : Requested maxPaired c.dst s) : ∃ rest s',
    (rest = [] ∨ rest = [.scan]) ∧ Step maxPaired s (.work { lookup := some c }) s' ∧
      Linked c .connecting rest s' ∧ c.dst ∈ s'.host.autoConn := by
  obtain ⟨rest, hq, hrest⟩ := h.queue
  have hstep : Step maxPaired s (.work { lookup := some c })
      ((s.take .connect rest).connectWorkCb maxPaired { lookup := some c }) := by
    refine ⟨fun c' hc' => ?_, ?_⟩
    · rw [h.pending, ← Option.some.inj hc']
    · simp [State.step, h.gap, hq, State.run]
  refine ⟨rest, _, hrest, hstep, ?_⟩
  have hsame : (s.take .connect rest).host = s.host := host_take Work.noConfusion rest
  have hadmits : Admits maxPaired (s.take .connect rest) s.pendingAddress :=
    (h.pending ▸ h.toAdmits).congr hsame rfl rfl rfl rfl rfl
  obtain ⟨journal, hhost, heq⟩ := hadmits.connectWorkCb (some c)
  have hrecorded : ((s.take .connect rest).connectWorkCb maxPaired { lookup := some c }).host =
      (s.host.record (.attempt s.pendingAddress !s.havePeer)).record
        (.lookup s.pendingAddress (some c)) := by
    rw [heq, ← hsame, ← hhost, ← history_snoc, ← history_snoc]
    rfl
  constructor
  · rw [heq, connectWorkEnd_eq]
    refine ⟨rfl, rfl, rfl, h.initialized, rfl, rfl, rfl, ?_, rfl, rfl⟩
    unfold State.schedule
    dsimp only
    split <;> rfl
  · rw [hrecorded, h.pending]
    simp only [History.record]
    split
    case isTrue hmem => exact hmem
    case isFalse => exact List.mem_append_right _ (List.mem_singleton_self _)

/-- A scan that is not wanted is not started. -/
lemma Linked.exists_scanned (maxPaired : ℕ) {stage : Stage} {rest : List Work}
    (h : Linked c stage (.scan :: rest) s) :
    ∃ s', Step maxPaired s (.work {}) s' ∧ Linked c stage rest s' ∧
      s'.host.autoConn = s.host.autoConn := by
  have hstep : Step maxPaired s (.work {}) ((s.take .scan rest).scanWorkCb {}) :=
    step_of_queue maxPaired h.gap h.queue
  have heq : (s.take .scan rest).scanWorkCb {} = s.take .scan rest := by
    have hwanted : (s.take .scan rest).scanWanted = false := h.scanWanted
    have howned : (s.take .scan rest).scanOwned = false := h.scanOwned
    simp [State.scanWorkCb, State.stopOwnScan, hwanted, howned]
  have hhost : (s.take .scan rest).host = s.host := host_take Work.noConfusion rest
  rw [heq] at hstep
  exact ⟨_, hstep, { h with queue := rfl }, by rw [hhost]⟩

/-- The host completes the connection. -/
lemma Linked.exists_completed (maxPaired : ℕ) (h : Linked c .connecting [] s)
    (hauto : c.dst ∈ s.host.autoConn) :
    ∃ s', Step maxPaired s (.connected c 0) s' ∧ Linked c .connecting [.connected] s' ∧
      s'.connectedError = 0 := by
  have hcb : (s.observe (.connected c 0)).connectedCb c 0 =
      (({ s.observe (.connected c 0) with connectedEventConn := some c, connectedError := 0 } :
        State).observe (.ref c)).submit .connected :=
    if_pos (Bool.or_eq_true_iff.2 (.inl (decide_eq_true h.conn)))
  refine ⟨_, ⟨fun _ _ => hauto, rfl⟩, ?_⟩
  rw [hcb]
  refine ⟨{ h with queue := ?_ }, rfl⟩
  simp [State.submit, State.observe, h.initialized, h.queue, WorkQueue.submit]

/-- The client asks the host to encrypt the link. -/
lemma Linked.completeConnection (h : Linked c .connecting [] s) (herr : s.connectedError = 0) :
    Linked c .security [.scan] (s.completeConnection {}) := by
  have heq : s.completeConnection {} = ({ (s.observe (.autoConnOff c.dst)).scanRefresh with
      stage := .security } : State).observe (.setSecurity c 0) := by
    have hfailure : (s.observe (.autoConnOff c.dst)).scanRefresh.failure = 0 := h.failure
    have hstage : (s.observe (.autoConnOff c.dst)).scanRefresh.stage = .connecting := h.stage
    have herr' : (s.observe (.autoConnOff c.dst)).scanRefresh.connectedError = 0 := herr
    unfold State.completeConnection
    simp [h.conn, herr', hfailure, hstage]
  rw [heq]
  refine { h with stage := rfl, queue := ?_ }
  show (s.observe (.autoConnOff c.dst)).scanRefresh.work.queue = _
  simp [State.scanRefresh, State.schedule, State.observe, h.initialized, WorkQueue.reschedule,
    WorkQueue.submit, WorkQueue.disarm, h.queue]

/-- The worker completes the connection. -/
lemma Linked.exists_asked (maxPaired : ℕ) (h : Linked c .connecting [.connected] s)
    (herr : s.connectedError = 0) :
    ∃ s', Step maxPaired s (.work {}) s' ∧ Linked c .security [.scan] s' := by
  have hstep : Step maxPaired s (.work {}) ((s.take .connected []).connectedWorkCb {}) :=
    step_of_queue maxPaired h.gap h.queue
  have hreleased : Linked c .connecting [] (s.take .connected []).releaseEvent ∧
      (s.take .connected []).releaseEvent.connectedError = 0 := by
    unfold State.releaseEvent
    split <;> exact ⟨{ h with queue := rfl }, herr⟩
  exact ⟨_, hstep, hreleased.1.completeConnection hreleased.2⟩

/-- A request to connect is served, as far as the encryption of the link. -/
lemma Requested.exists_asked (h : Requested maxPaired c.dst s) :
    ∃ labels t, Run maxPaired s labels t ∧ Linked c .security [.scan] t ∧
      .clearHold true ∉ labels := by
  obtain ⟨rest, t, hrest, hlink, ht, hauto⟩ := h.exists_linked
  obtain ⟨labels, u, hrun, hu, hautou, hlabels⟩ : ∃ labels u, Run maxPaired t labels u ∧
      Linked c .connecting [] u ∧ u.host.autoConn = t.host.autoConn ∧
        .clearHold true ∉ labels := by
    rcases hrest with rfl | rfl
    · exact ⟨[], t, .nil t, ht, rfl, List.not_mem_nil⟩
    · obtain ⟨u, hscan, hu, hautou⟩ := ht.exists_scanned maxPaired
      exact ⟨_, u, .single hscan, hu, hautou, by simp⟩
  obtain ⟨v, hcomplete, hv, herr⟩ := hu.exists_completed maxPaired (hautou ▸ hauto)
  obtain ⟨w, hask, hw⟩ := hv.exists_asked maxPaired herr
  exact ⟨_, w, (((Transition.Run.single hlink).append hrun).snoc hcomplete).snoc hask, hw,
    by simp [hlabels]⟩

end Connection

/-! ### The conversation -/

section Conversation

variable {maxPaired : ℕ} {s : State} {c : Conn} {m : Mouse} {map : MouseHidMap}

/-- The mouse is ready, and it is the saved peer. -/
structure State.ReadyWith (s : State) (c : Conn) : Prop where
  stage : s.stage = .ready
  conn : s.mouseConn = some c
  saved : s.havePeer = true
  peer : s.peer = c.dst

/-- The link to a mouse is encrypted, and its service is about to be looked for.  Nothing is
known of the mouse yet. -/
structure Secured (s : State) (c : Conn) : Prop extends Talking s c where
  stage : s.stage = .service
  queued : .discovery ∈ s.work.queue
  requests : s.host.attempt.requests = []
  session : s.session = {}

/-- The link is encrypted, and discovery begins. -/
lemma Linked.exists_secured (maxPaired : ℕ) (h : Linked c .security [.scan] s) (hs : Coherent s)
    (hpaired : s.havePeer = false → s.candidateBonded = true ∧ c.dst ∈ s.host.bonds) :
    ∃ t, Step maxPaired s (.securityChanged c 2 0) t ∧ Secured t c := by
  have hvalid : s.validCallback c = true := by
    simp [State.validCallback, State.owns, h.conn, h.failure, h.stage]
  have heq : s.securityCb c 2 0 = s.nextStage .service := by
    simp [State.securityCb, hvalid, h.stage]
  have hstep : Step maxPaired s (.securityChanged c 2 0) (s.nextStage .service) :=
    ⟨trivial, congrArg some heq⟩
  have hqueue : (s.nextStage .service).work.queue = [.scan, .discovery] := by
    simp [State.nextStage, State.submit, h.initialized, WorkQueue.submit, h.queue]
  have hqueued : .discovery ∈ (s.nextStage .service).work.queue := by
    rw [hqueue]
    exact List.mem_pair.2 (.inr rfl)
  have htalking : Talking (s.nextStage .service) c := by
    refine ⟨h.conn, h.failure, fun hnew => hpaired ?_, fun w hw => ?_⟩
    · have hcandidate : s.newCandidate = true := hnew
      rw [h.candidate, Bool.not_eq_true'] at hcandidate
      exact hcandidate
    · rw [hqueue] at hw
      rcases List.mem_pair.1 hw with rfl | rfl <;> exact id
  have hdue : Due (s.nextStage .service) .service :=
    htalking.due_service (hs.step hstep) rfl hqueued
  exact ⟨_, hstep, htalking, rfl, hqueued, hdue.requests, h.session⟩

/-- A step of a conversation is a step of the client. -/
lemma Converses.step {p q : State × ℕ} {e : Exchange} (h : Converses maxPaired m c p e q) :
    ∃ l, Step maxPaired p.1 l q.1 ∧ (e.Counts → l ≠ .clearHold true) := by
  cases h with
  | @callback _ _ n r l hr hl hstep =>
    refine ⟨l, hstep, fun _ => ?_⟩
    rintro rfl
    have hmem := List.mem_of_getElem? hl
    cases r with
    | discover type => cases type <;> simp [Mouse.callbacks] at hmem
    | read | write | subscribe => simp [Mouse.callbacks] at hmem
  | turn _ _ hstep => exact ⟨_, hstep, fun _ => Label.noConfusion⟩
  | meanwhile _ _ hstep => exact ⟨_, hstep, fun hcounts => hcounts.elim⟩

/-- A conversation is a run of the client. -/
lemma run_of_converses {p q : State × ℕ} {events : List Exchange}
    (h : Transition.Run (Converses maxPaired m c) p events q) :
    ∃ labels, Run maxPaired p.1 labels q.1 := by
  induction h with
  | nil => exact ⟨[], .nil _⟩
  | snoc _ hstep ih =>
    obtain ⟨labels, hrun⟩ := ih
    obtain ⟨l, hstep, -⟩ := hstep.step
    exact ⟨_, hrun.snoc hstep⟩

/-- A mouse that conforms is led to be ready. -/
lemma Secured.exists_ready {bonds : List Addr} {labels : List Label} (h : Secured s c)
    (hrun : Run maxPaired (State.init bonds) labels s) (hm : m.Conforms map) :
    ∃ events u, Transition.Run (Converses maxPaired m c) (s, 0) events u ∧ u.1.ReadyWith c ∧
      ∀ e ∈ events, e.Counts := by
  have hdue := h.due_service (run_coherent hrun) h.stage h.queued
  have hstart : Mouse.Conversing m map c s 0 :=
    ⟨run_coherent hrun, run_surveyed hrun, h.toTalking, .service hdue⟩
  obtain ⟨events, u, htalk, ⟨hready, hconn⟩, hcounts⟩ :=
    (Mouse.progress (c := c) maxPaired hm).reachable (fun p hp _ => by
      obtain ⟨e, s', n', hcounts, hstep⟩ := hp.exists_counts maxPaired
      exact ⟨e, (s', n'), hcounts, hstep⟩) (s := (s, 0)) hstart
  obtain ⟨more, hmore⟩ := run_of_converses htalk
  have hu := run_coherent (hrun.append hmore)
  have hengaged : u.1.Engaged := .inl (hconn ▸ Option.some_ne_none c)
  obtain ⟨hsaved, hpeer⟩ :=
    hu.saved hengaged ((run_surveyed (hrun.append hmore)).ready hready).2
  exact ⟨events, u, htalk, ⟨hready, hconn, hsaved, hpeer.trans (hu.address c hconn).symm⟩, hcounts⟩

/-- A mouse that is not the saved peer is paired. -/
lemma Linked.exists_paired (maxPaired : ℕ) (h : Linked c .security [.scan] s) : ∃ labels t,
    Run maxPaired s labels t ∧ Linked c .security [.scan] t ∧ .clearHold true ∉ labels ∧
      (t.havePeer = false → t.candidateBonded = true ∧ c.dst ∈ t.host.bonds) := by
  cases hsaved : s.havePeer with
  | true =>
    exact ⟨[], s, .nil s, h, List.not_mem_nil,
      fun hnone => Bool.noConfusion (hsaved.symm.trans hnone)⟩
  | false =>
    have heq : (s.observe (.pairingComplete c true)).pairingCompleteCb c true =
        { s.observe (.pairingComplete c true) with candidateBonded := true } :=
      if_pos (decide_eq_true h.conn)
    have hstep : Step maxPaired s (.pairingComplete c true)
        { s.observe (.pairingComplete c true) with candidateBonded := true } :=
      ⟨trivial, congrArg some heq⟩
    refine ⟨_, _, .single hstep, { h with }, by simp, fun _ => ⟨rfl, ?_⟩⟩
    show c.dst ∈ (history (s.journal ++ [.pairingComplete c true])).bonds
    rw [history_snoc]
    simp only [History.record, true_and]
    split
    case isTrue => exact List.mem_append_right _ (List.mem_singleton_self _)
    case isFalse hmem => exact not_not.1 hmem

/-- A request to connect is served until the link is encrypted. -/
lemma Requested.exists_secured {bonds : List Addr} {labels : List Label}
    (h : Requested maxPaired c.dst s) (hrun : Run maxPaired (State.init bonds) labels s) :
    ∃ more t, Run maxPaired s more t ∧ Secured t c ∧ .clearHold true ∉ more := by
  obtain ⟨first, t, hfirst, ht, hlabels⟩ := h.exists_asked
  obtain ⟨second, u, hsecond, hu, hlabels', hpaired⟩ := ht.exists_paired maxPaired
  have hbefore := hfirst.append hsecond
  obtain ⟨v, hstep, hv⟩ :=
    hu.exists_secured maxPaired (run_coherent (hrun.append hbefore)) hpaired
  exact ⟨_, v, hbefore.snoc hstep, hv, by simp [hlabels, hlabels']⟩

end Conversation

/-! ### The keys -/

section Keys

variable {maxPaired : ℕ} {s : State} {addr : Addr}

/-- The client is at rest after its start, and its slot for a request is free. -/
structure Idle (s : State) : Prop extends Resting s where
  initialized : s.initialized = true
  started : s.started = true
  free : s.connecting = false

/-- A client that rests in a state that it can be in is idle. -/
lemma Resting.idle {bonds : List Addr} {labels : List Label} (h : Resting s)
    (hrun : Run maxPaired (State.init bonds) labels s) (hinit : s.initialized = true) : Idle s := by
  have horderly : Orderly s :=
    hrun.invariant Orderly (orderly_init bonds) fun _ _ _ ht hstep => ht.step hstep.2
  refine { h with
    initialized := hinit
    started := (run_coherent hrun).start.symm.trans hinit
    free := Bool.eq_false_of_not_eq_true fun hconnecting => ?_ }
  rcases horderly.connecting.1 hconnecting with hmem | hin
  · rw [h.queue] at hmem
    exact List.not_mem_nil hmem
  · exact Bool.false_ne_true (h.gap.symm.trans hin)

/-- The Pair key is pressed, and the worker takes its item. -/
lemma Idle.exists_pairs (h : Idle s) (maxPaired : ℕ) : ∃ t, Idle t ∧ t.host = s.host ∧
    t.havePeer = s.havePeer ∧ t.peer = s.peer ∧
      Run maxPaired s [.pair, .work {}] (t.pairWorkCb maxPaired) := by
  have hpair : Step maxPaired s .pair (s.submit .pair) := by
    refine ⟨trivial, ?_⟩
    simp [State.step, State.zmkBleMousePair, h.started]
  have hqueue : (s.submit .pair).work.queue = [.pair] := by
    simp [State.submit, h.initialized, WorkQueue.submit, h.queue]
  have hwork : Step maxPaired (s.submit .pair) (.work {})
      (((s.submit .pair).take .pair []).pairWorkCb maxPaired) :=
    step_of_queue (s := s.submit .pair) maxPaired h.gap hqueue
  have htaken : Idle ((s.submit .pair).take .pair []) := { h with queue := rfl }
  exact ⟨_, htaken, host_take (by decide) [], rfl, rfl, (Transition.Run.single hpair).snoc hwork⟩

lemma centralConnect_eq (hinit : s.initialized = true) (hfree : s.connecting = false) :
    s.centralConnect addr = (({ s with connecting := true, pendingAddress := addr } :
      State).observe (.accepted addr)).submit .connect := by
  unfold State.centralConnect
  simp [hinit, hfree]

/-- A saved peer that is bonded is connected to. -/
lemma retryWorkCb_saved (hconn : s.mouseConn = none) (hsaved : s.havePeer = true)
    (hbonded : s.peer ∈ s.host.bonds) : s.retryWorkCb =
      (State.centralConnect { s with scanWanted := true } s.peer).scanRefresh := by
  have hwanted : (s.mouseConn.isNone && (s.havePeer || s.pairing) &&
      !(s.havePeer && !s.isBonded s.peer)) = true := by
    simp [hconn, hsaved, State.isBonded, hbonded]
  unfold State.retryWorkCb
  dsimp only
  rw [hwanted, if_pos (by simp [hsaved])]

/-- A mouse that is to be paired is looked for. -/
lemma retryWorkCb_new (hconn : s.mouseConn = none) (hnone : s.havePeer = false)
    (hpairing : s.pairing = true) : s.retryWorkCb =
      State.scanRefresh { s with scanWanted := true } := by
  have hwanted : (s.mouseConn.isNone && (s.havePeer || s.pairing) &&
      !(s.havePeer && !s.isBonded s.peer)) = true := by
    simp [hconn, hnone, hpairing]
  unfold State.retryWorkCb
  dsimp only
  rw [hwanted, if_neg (by simp [hnone])]

lemma pairWorkCb_saved (hconn : s.mouseConn = none) (hsaved : s.havePeer = true) :
    s.pairWorkCb maxPaired = State.retryWorkCb { s with retryMs := 1000 } := by
  unfold State.pairWorkCb
  rw [if_neg (by simp [hconn]), if_pos hsaved]

/-- Without a saved peer the window is opened. -/
lemma pairWorkCb_new (hconn : s.mouseConn = none) (hnone : s.havePeer = false)
    (hlength : s.host.bonds.length < maxPaired) : s.pairWorkCb maxPaired =
      (({ s with pairing := true, retryMs := 1000 } : State).schedule .pairTimeout
        60000).retryWorkCb := by
  have hroom : ¬maxPaired ≤ s.bondCount := Nat.not_le.2 hlength
  unfold State.pairWorkCb
  rw [if_neg (by simp [hconn]), if_neg (by simp [hnone]), if_neg hroom]

/-- The Pair key makes the client connect to the saved peer. -/
lemma Idle.exists_requested (h : Idle s) (maxPaired : ℕ) (hkeeps : s.Keeps addr) :
    ∃ t, Run maxPaired s [.pair, .work {}] t ∧ Requested maxPaired addr t := by
  obtain ⟨hsaved, rfl, hbonded, -⟩ := hkeeps
  obtain ⟨u, hu, hhost, hsavedu, hpeer, hrun⟩ := h.exists_pairs maxPaired
  have hknown : u.havePeer = true := hsavedu.trans hsaved
  have hbondedu : u.peer ∈ u.host.bonds := by rwa [hhost, hpeer]
  have hretry := retryWorkCb_saved (s := { u with retryMs := 1000 }) hu.conn hknown hbondedu
  rw [pairWorkCb_saved hu.conn hknown, hretry,
    centralConnect_eq (s := { u with retryMs := 1000, scanWanted := true }) hu.initialized
      hu.free] at hrun
  refine ⟨_, hrun, ⟨hu.conn, rfl, fun _ => hpeer.symm, fun hnone =>
    absurd (hknown.symm.trans hnone) Bool.noConfusion⟩, hu.gap, hu.initialized, hpeer,
    ⟨[.scan], ?_, .inr rfl⟩⟩
  simp [State.scanRefresh, State.schedule, State.submit, State.observe, hu.initialized, hu.queue,
    WorkQueue.submit, WorkQueue.reschedule, WorkQueue.disarm]

/-- The client looks for a new mouse. -/
structure Searching (s : State) : Prop where
  conn : s.mouseConn = none
  gap : s.inConnect = false
  initialized : s.initialized = true
  free : s.connecting = false
  wanted : s.scanWanted = true
  unsaved : s.havePeer = false
  pairing : s.pairing = true
  queue : s.work.queue = [.scan]

/-- The Pair key makes the client look for a new mouse. -/
lemma Idle.exists_searching (h : Idle s) (maxPaired : ℕ) (hnone : s.havePeer = false)
    (hlength : s.host.bonds.length < maxPaired) :
    ∃ t, Run maxPaired s [.pair, .work {}] t ∧ Searching t ∧ t.host = s.host := by
  obtain ⟨u, hu, hhost, hsaved, -, hrun⟩ := h.exists_pairs maxPaired
  have hnone' : u.havePeer = false := hsaved.trans hnone
  have hretry := retryWorkCb_new (s := ({ u with pairing := true, retryMs := 1000 } :
    State).schedule .pairTimeout 60000) hu.conn hnone' rfl
  rw [pairWorkCb_new hu.conn hnone' (by rwa [hhost]), hretry] at hrun
  refine ⟨_, hrun, ⟨hu.conn, hu.gap, hu.initialized, hu.free, rfl, hnone', rfl, ?_⟩, hhost⟩
  simp [State.scanRefresh, State.schedule, hu.initialized, hu.queue, WorkQueue.submit,
    WorkQueue.reschedule, WorkQueue.disarm, WorkQueue.arm]

/-- The name that the client looks for, as an element of an advertisement. -/
def mouseName : BtData := (9, [0x4d, 0x37, 0x32, 0x30])

/-- A mouse that can be connected to and has the name is connected to. -/
lemma Searching.advertisement_eq (h : Searching s) (addr : Addr) (now : BitVec 32) :
    ∃ advertisers, (s.zmkBleMouseAdvertisement addr .advInd [mouseName] now).1 =
      State.centralConnect { s with advertisers } addr := by
  have hnoted : ((notedAdvertiser s.advertisers addr .advInd [mouseName] now).connectable &&
      (notedAdvertiser s.advertisers addr .advInd [mouseName] now).m720) = true := by
    simp [notedAdvertiser, mouseName, parseAd]
  refine ⟨s.advertisers.set (advertiserSlot s.advertisers addr now)
    (notedAdvertiser s.advertisers addr .advInd [mouseName] now), ?_⟩
  unfold State.zmkBleMouseAdvertisement
  rw [if_neg (by simp [h.wanted]), if_neg (by simp [h.unsaved]), if_neg (by simp [h.pairing])]
  dsimp only
  rw [if_pos hnoted]

/-- A mouse that advertises itself is connected to. -/
lemma Searching.exists_requested (h : Searching s) (hnew : addr ∉ s.host.bonds)
    (hlength : s.host.bonds.length < maxPaired) : ∃ t,
    Run maxPaired s [.advertisement addr .advInd [mouseName] 0, .work {}] t ∧
      Requested maxPaired addr t := by
  obtain ⟨advertisers, heq⟩ := h.advertisement_eq addr 0
  rw [centralConnect_eq (s := { s with advertisers }) h.initialized h.free] at heq
  generalize htaken : (({ s with connecting := true, pendingAddress := addr, advertisers } :
    State).observe (.accepted addr)).submit .connect = t at heq
  have hseen : Step maxPaired s (.advertisement addr .advInd [mouseName] 0) t :=
    ⟨trivial, congrArg some heq⟩
  have hgap : t.inConnect = false := htaken ▸ h.gap
  have hqueue : t.work.queue = [.scan, .connect] := by
    rw [← htaken]
    simp [State.submit, State.observe, h.initialized, h.queue, WorkQueue.submit]
  have hscan : (t.take .scan [.connect]).scanWorkCb {} = t.take .scan [.connect] :=
    if_pos (show t.connecting = true from htaken ▸ rfl)
  have hwork : Step maxPaired t (.work {}) (t.take .scan [.connect]) :=
    hscan ▸ step_of_queue maxPaired hgap hqueue
  have hhost : (t.take .scan [.connect]).host = s.host := by
    rw [host_take (by decide), ← htaken]
    exact (State.host_observe _ _).trans (record_quiet _ trivial)
  refine ⟨_, (Transition.Run.single hseen).snoc hwork, ?_⟩
  have hadmits : Admits maxPaired s addr :=
    ⟨h.conn, h.wanted, fun hsaved => absurd (hsaved.symm.trans h.unsaved) Bool.noConfusion,
      fun _ => ⟨h.pairing, hnew, hlength⟩⟩
  subst htaken
  exact ⟨hadmits.congr hhost rfl rfl rfl rfl rfl, h.gap, h.initialized, rfl, ⟨[], rfl, .inl rfl⟩⟩

lemma forgetPeer_havePeer (s : State) : (s.forgetPeer {}).havePeer = false := by
  unfold State.forgetPeer
  dsimp only
  split_ifs with hsaved hrefused
  · exact absurd rfl hrefused
  · exact (Calms.forgotten_frame _).havePeer
  · exact (Calms.forgotten_frame _).havePeer.trans (Bool.eq_false_of_not_eq_true hsaved)

/-- The work of the Clear key that is held: the client at rest forgets its peer. -/
lemma clearWorkCb_held (hheld : s.clearHeld = true) (hconn : s.mouseConn = none) :
    (s.clearWorkCb {}).havePeer = false ∧ (s.clearWorkCb {}).initialized = s.initialized ∧
      (s.clearWorkCb {}).host.bonds.Sublist s.host.bonds := by
  have heq : s.clearWorkCb {} = State.forgetPeer
      { s with pairing := false, scanWanted := false, forgetRequested := true } {} := by
    unfold State.clearWorkCb
    rw [if_neg (by simp [hheld])]
    dsimp only
    rw [if_neg (by simp [hconn])]
  rw [heq]
  exact ⟨forgetPeer_havePeer _, (Calms.forgetPeer_same _ _).1, Calms.forgetPeer_bonds _ _⟩

/-- The Clear key is held: the client forgets its peer. -/
lemma Idle.exists_forgotten (h : Idle s) (maxPaired : ℕ) : ∃ t,
    Run maxPaired s [.clearHold true, .expire .clear, .work {}] t ∧ t.havePeer = false ∧
      t.initialized = true ∧ t.host.bonds.Sublist s.host.bonds := by
  generalize hheld : (s.observe (.clearKey true)).zmkBleMouseClearHold true = t
  have hhold : Step maxPaired s (.clearHold true) t := ⟨trivial, congrArg some hheld⟩
  have hwork : t.work = s.work.arm .clear := by
    rw [← hheld]
    simp [State.zmkBleMouseClearHold, State.schedule, State.observe, h.initialized,
      WorkQueue.reschedule]
  have hexpire : Step maxPaired t (.expire .clear) { t with work := t.work.expire .clear } := by
    refine ⟨trivial, if_pos ?_⟩
    rw [hwork]
    exact WorkQueue.mem_armed_arm.2 (.inr rfl)
  have hqueue : (t.work.expire .clear).queue = [.clear] := by
    rw [hwork]
    simp [WorkQueue.expire, WorkQueue.submit, h.queue]
  have hgap : t.inConnect = false := hheld ▸ h.gap
  generalize hu : State.take { t with work := t.work.expire .clear } .clear [] = u
  have hrun : Step maxPaired { t with work := t.work.expire .clear } (.work {})
      (u.clearWorkCb {}) := by
    rw [← hu]
    exact step_of_queue (s := { t with work := t.work.expire .clear }) maxPaired hgap hqueue
  have hbonds : u.host.bonds = s.host.bonds := by
    rw [← hu, ← hheld]
    show (history ((s.journal ++ [_]) ++ [_])).bonds = _
    rw [history_snoc, history_snoc]
    rfl
  obtain ⟨hnone, hinit, hsub⟩ := clearWorkCb_held (s := u)
    (by rw [← hu, ← hheld]; rfl) (by rw [← hu, ← hheld]; exact h.conn)
  refine ⟨_, ((Transition.Run.single hhold).snoc hexpire).snoc hrun, hnone, hinit.trans ?_,
    hbonds ▸ hsub⟩
  rw [← hu, ← hheld]
  exact h.initialized

end Keys

/-! ### From every state -/

section Always

variable {maxPaired : ℕ} {bonds : List Addr} {labels : List Label} {s : State} {c : Conn}
  {m : Mouse} {map : MouseHidMap}

/-- **The saved mouse can always be connected again.**  Take any reachable state after the start in
which a peer is saved and bonded and is not to be forgotten, and any mouse with its address that
presents what the client requires.  Whatever has happened, a run leads from there to an encrypted
link of which nothing else is known, and a conversation with this mouse from there to its being
ready; in every state on the way the peer is saved and bonded. -/
theorem reconnect_stays_possible (hrun : Run maxPaired (State.init bonds) labels s)
    (hstarted : s.started = true) (hkeeps : s.Keeps c.dst) (hm : m.Conforms map) :
    ∃ first t more u,
      Transition.Run (Transition.Within (Step maxPaired) (·.Keeps c.dst)) s first t ∧
      Secured t c ∧
      Transition.Run (Transition.Within (Converses maxPaired m c) (·.1.Keeps c.dst)) (t, 0) more
        u ∧ u.1.ReadyWith c := by
  obtain ⟨first, t, hcalming, hrest⟩ :=
    exists_resting maxPaired (run_coherent hrun) (run_patient hrun)
  have hcalms := calms_of_run hcalming
  have hfirst : Run maxPaired s first t := hcalming.mono fun _ _ _ => And.left
  have hrunt := hrun.append hfirst
  have hinit : t.initialized = true :=
    hcalms.initialized.trans ((run_coherent hrun).start.trans hstarted)
  obtain ⟨u, hpair, hrequested⟩ :=
    (hrest.idle hrunt hinit).exists_requested maxPaired (hcalms.keeps _ hkeeps)
  obtain ⟨second, v, hsecond, hsecured, hlabels⟩ :=
    hrequested.exists_secured (hrunt.append hpair)
  obtain ⟨events, w, htalk, hready, hcounts⟩ :=
    hsecured.exists_ready (hrunt.append (hpair.append hsecond)) hm
  -- the way to rest keeps the peer, and nobody presses the Clear key after that
  have hkept := (hcalming.within (·.Keeps c.dst) hkeeps
    fun _ _ _ _ hk hstep => hstep.2.keeps _ hk).1
  have hholding : Holding c.dst t :=
    ⟨run_coherent hrunt, hinit, hrest.released, hcalms.keeps _ hkeeps⟩
  obtain ⟨hheld, hholdingv⟩ := (hpair.append hsecond).within (Holding c.dst) hholding
    fun _ l hl _ hk hstep => hk.step (by rintro rfl; simp [hlabels] at hl) hstep
  obtain ⟨hheld', -⟩ := htalk.within (fun p => Holding c.dst p.1) hholdingv
    fun _ e he _ hk hstep => by
      obtain ⟨l, hstep, hl⟩ := hstep.step
      exact hk.step (hl (hcounts e he)) hstep
  refine ⟨_, v, events, w, (hkept.mono ?_).append (hheld.mono ?_), hsecured, hheld'.mono ?_, hready⟩
  · exact fun _ _ _ hstep => ⟨hstep.1.1, hstep.2⟩
  · exact fun _ _ _ hstep => ⟨hstep.1, hstep.2.keeps⟩
  · exact fun _ _ _ hstep => ⟨hstep.1, hstep.2.keeps⟩

/-- The peer is loaded from the settings, and connected. -/
theorem reconnect_stays_possible_loaded : ∃ s first t more u,
    Run 8 (State.init [⟨1, 7⟩]) [.settings "peer" 7 ⟨1, 7⟩ 7, .start] s ∧
      Transition.Run (Transition.Within (Step 8) (·.Keeps ⟨1, 7⟩)) s first t ∧
      Transition.Run (Transition.Within (Converses 8 fixtureMouse ⟨1, ⟨1, 7⟩⟩) (·.1.Keeps ⟨1, 7⟩))
        (t, 0) more u ∧
      u.1.ReadyWith ⟨1, ⟨1, 7⟩⟩ := by
  obtain ⟨s, hrun, hp⟩ := exists_run 8 (State.init [⟨1, 7⟩])
    [.settings "peer" 7 ⟨1, 7⟩ 7, .start] (fun s => decide (s.started = true ∧
      s.havePeer = true ∧ s.peer = ⟨1, 7⟩ ∧ ⟨1, 7⟩ ∈ s.host.bonds ∧ s.forgetRequested = false))
    (by decide)
  obtain ⟨hstarted, hsaved, hpeer, hbonded, hwanted⟩ := of_decide_eq_true hp
  obtain ⟨first, t, more, u, hfirst, -, hmore, hready⟩ := reconnect_stays_possible hrun hstarted
    (c := ⟨1, ⟨1, 7⟩⟩) ⟨hsaved, hpeer, hbonded, hwanted⟩ fixtureMouse_conforms
  exact ⟨s, first, t, more, u, hrun, hfirst, hmore, hready⟩

/-- **Another mouse can always be paired.**  Take any reachable state after the start in which the
host has room for a bond, and any mouse that is not bonded and presents what the client requires.
Whatever has happened, a run leads from there to an encrypted link of which nothing else is known,
and a conversation with this mouse from there to its being ready and the saved peer. -/
theorem pairing_stays_possible (hrun : Run maxPaired (State.init bonds) labels s)
    (hstarted : s.started = true) (hroom : s.host.bonds.length < maxPaired)
    (hnew : c.dst ∉ s.host.bonds) (hm : m.Conforms map) :
    ∃ first t more u, Run maxPaired s first t ∧ Secured t c ∧
      Transition.Run (Converses maxPaired m c) (t, 0) more u ∧ u.1.ReadyWith c := by
  obtain ⟨first, t, hcalming, hrest⟩ :=
    exists_resting maxPaired (run_coherent hrun) (run_patient hrun)
  have hcalms := calms_of_run hcalming
  have hfirst : Run maxPaired s first t := hcalming.mono fun _ _ _ => And.left
  have hinit : t.initialized = true :=
    hcalms.initialized.trans ((run_coherent hrun).start.trans hstarted)
  obtain ⟨u, hclear, hnone, hinitu, hsub⟩ :=
    (hrest.idle (hrun.append hfirst) hinit).exists_forgotten maxPaired
  have hrunu := hrun.append (hfirst.append hclear)
  obtain ⟨next, v, hcalmingv, hrestv⟩ :=
    exists_resting maxPaired (run_coherent hrunu) (run_patient hrunu)
  have hcalmsv := calms_of_run hcalmingv
  have hnext : Run maxPaired u next v := hcalmingv.mono fun _ _ _ => And.left
  have hidle := hrestv.idle (hrunu.append hnext) (hcalmsv.initialized.trans hinitu)
  have hbonds : v.host.bonds.Sublist s.host.bonds := (hcalmsv.bonds.trans hsub).trans hcalms.bonds
  have hroomv : v.host.bonds.length < maxPaired := hbonds.length_le.trans_lt hroom
  obtain ⟨w, hpair, hsearching, hhost⟩ :=
    hidle.exists_searching maxPaired (hcalmsv.unsaved hnone) hroomv
  obtain ⟨x, hseen, hrequested⟩ := hsearching.exists_requested
    (fun hmem => hnew (hbonds.subset (hhost ▸ hmem))) (by rwa [hhost])
  have hbefore := (((hfirst.append hclear).append hnext).append hpair).append hseen
  obtain ⟨second, y, hsecond, hsecured, -⟩ := hrequested.exists_secured (hrun.append hbefore)
  obtain ⟨events, z, htalk, hready, -⟩ :=
    hsecured.exists_ready (hrun.append (hbefore.append hsecond)) hm
  exact ⟨_, y, events, z, hbefore.append hsecond, hsecured, htalk, hready⟩

/-- A mouse is paired while another one is saved. -/
theorem pairing_stays_possible_loaded : ∃ s first t more u,
    Run 8 (State.init [⟨1, 7⟩]) [.settings "peer" 7 ⟨1, 7⟩ 7, .start] s ∧
      Run 8 s first t ∧
      Transition.Run (Converses 8 fixtureMouse ⟨1, ⟨1, 8⟩⟩) (t, 0) more u ∧
      u.1.ReadyWith ⟨1, ⟨1, 8⟩⟩ := by
  obtain ⟨s, hrun, hp⟩ := exists_run 8 (State.init [⟨1, 7⟩])
    [.settings "peer" 7 ⟨1, 7⟩ 7, .start] (fun s => decide (s.started = true ∧
      s.host.bonds.length < 8 ∧ ⟨1, 8⟩ ∉ s.host.bonds)) (by decide)
  obtain ⟨hstarted, hroom, hnew⟩ := of_decide_eq_true hp
  obtain ⟨first, t, more, u, hfirst, -, hmore, hready⟩ := pairing_stays_possible hrun hstarted hroom
    (c := ⟨1, ⟨1, 8⟩⟩) hnew fixtureMouse_conforms
  exact ⟨s, first, t, more, u, hrun, hfirst, hmore, hready⟩

end Always

end BleMouse.Client
