/-
The hand-over of connection requests.

`zmk_ble_central_connect` accepts a request while no other one is under way, and the next run of
`connect_work_cb` carries it out: it stops the module's own scan and calls the connect function
with the address of the request.  Both are read off the journal here (`RadioHistory`).

* `Serves`: what a run of `connect_work_cb` owes to the request it carries out;
* `Orderly`: the runs serve the accepted requests one to one and in order, a request that is
  not yet served waits in the queue, and the module's own scan is the one it believes to own;
* `Orderly.step`: every step preserves it.
-/
import BleMouse.Client.RadioFrame

namespace BleMouse.Client

open BleMouse.Hid BleMouse.Output

/-! ### The history of the radio -/

/-- `bt_le_scan_stop` leaves the scan active. -/
def stopFails (err : ℤ) : Bool := decide (err ≠ 0 ∧ err ≠ -eAlready)

/-- A run of `connect_work_cb`. -/
structure ConnectRun where
  /-- The module's own scan could not be stopped. -/
  refused : Bool := false
  /-- The calls of the connect function, each with whether the module's own scan was active. -/
  calls : List (Addr × Bool) := []
deriving DecidableEq, Repr

/-- What the journal says of the radio, the latest first. -/
structure RadioHistory where
  /-- The module's own scan is active. -/
  scanning : Bool := false
  /-- The requests that `zmk_ble_central_connect` has accepted. -/
  accepted : List Addr := []
  runs : List ConnectRun := []
deriving DecidableEq, Repr

/-- The connect function is called. -/
def ConnectRun.call (addr : Addr) (scanning : Bool) (run : ConnectRun) : ConnectRun :=
  { run with calls := run.calls ++ [(addr, scanning)] }

/-- `bt_le_scan_stop` returns, in the run or after its call. -/
def ConnectRun.stop (err : ℤ) (run : ConnectRun) : ConnectRun :=
  { run with refused := run.refused || (run.calls.isEmpty && stopFails err) }

/-- Change the latest run. -/
def onLatest (f : ConnectRun → ConnectRun) : List ConnectRun → List ConnectRun
  | [] => []
  | run :: runs => f run :: runs

def RadioHistory.record (h : RadioHistory) : Obs → RadioHistory
  | .ran w => if w = .connect then { h with runs := {} :: h.runs } else h
  | .accepted addr => { h with accepted := addr :: h.accepted }
  | .connect addr => { h with runs := onLatest (ConnectRun.call addr h.scanning) h.runs }
  | .scanStart err => { h with scanning := h.scanning || decide (err = 0) }
  | .scanStop err =>
    { h with
      scanning := h.scanning && stopFails err
      runs := onLatest (ConnectRun.stop err) h.runs }
  | _ => h

namespace State

variable (s : State)

def radio : RadioHistory := Journal.replay RadioHistory.record {} s.journal

lemma radio_observe (o : Obs) : (s.observe o).radio = s.radio.record o := Journal.replay_snoc

end State

lemma State.mem_submit_self {s : State} {w : Work} (hinit : s.initialized = true) :
    w ∈ (s.submit w).work.queue := by
  unfold State.submit
  rw [if_pos hinit]
  exact WorkQueue.mem_submit.2 (.inr rfl)

lemma record_of_not_ofRadio (h : RadioHistory) {o : Obs} (ho : ¬o.OfRadio) : h.record o = h := by
  cases o with
  | ran w => exact if_neg ho
  | accepted | connect | scanStart | scanStop => exact absurd trivial ho
  | _ => rfl

lemma State.radio_observe_of_not_ofRadio (s : State) {o : Obs} (ho : ¬o.OfRadio) :
    (s.observe o).radio = s.radio :=
  (s.radio_observe o).trans (record_of_not_ofRadio _ ho)

lemma Aside.engaged {s s' : State} (h : Aside s s') (he : s'.Engaged) : s.Engaged :=
  he.imp h.mouseConn h.inConnect.symm.trans

lemma Aside.radio {s s' : State} (h : Aside s s') : s'.radio = s.radio := by
  obtain ⟨new, heq, hnew⟩ := h.journal
  have hreplay (h : RadioHistory) (new : List Obs) (hnew : ∀ o ∈ new, ¬o.OfRadio) :
      new.foldl RadioHistory.record h = h := by
    induction new with
    | nil => rfl
    | cons o new ih =>
      rw [List.foldl_cons, record_of_not_ofRadio h (hnew o List.mem_cons_self)]
      exact ih fun o' ho' => hnew o' (List.mem_cons_of_mem _ ho')
  unfold State.radio Journal.replay
  rw [heq, List.foldl_append]
  exact hreplay _ new hnew

/-! ### The invariant -/

/-- A run of `connect_work_cb` serves a request: unless the scan could not be stopped, it calls
the connect function once, with the address of the request and without an active scan. -/
def Serves (run : ConnectRun) (addr : Addr) : Prop :=
  run.calls = if run.refused then [] else [(addr, false)]

instance (run : ConnectRun) (addr : Addr) : Decidable (Serves run addr) :=
  inferInstanceAs (Decidable (_ = _))

lemma Serves.stop {run : ConnectRun} {addr : Addr} (h : Serves run addr) (err : ℤ) :
    Serves (run.stop err) addr := by
  unfold Serves at h ⊢
  unfold ConnectRun.stop
  cases hrefused : run.refused with
  | true =>
    rw [hrefused] at h
    simpa using h
  | false =>
    rw [hrefused] at h
    simp only [Bool.false_eq_true, if_false] at h
    simp [h]

/-- A change of the latest run that leaves it serving. -/
lemma forall₂_onLatest {runs : List ConnectRun} {served : List Addr}
    (h : List.Forall₂ Serves runs served) {f : ConnectRun → ConnectRun}
    (hf : ∀ run addr, Serves run addr → Serves (f run) addr) :
    List.Forall₂ Serves (onLatest f runs) served := by
  cases h with
  | nil => exact .nil
  | cons hrun hruns => exact .cons (hf _ _ hrun) hruns

/-- The runs serve the requests that were accepted, up to the one that waits. -/
structure Served (s : State) : Prop where
  scanning : s.radio.scanning = s.scanOwned
  stopped : s.Engaged → s.scanOwned = false
  served : ∃ served,
    s.radio.accepted = (if .connect ∈ s.work.queue then s.pendingAddress :: served else served) ∧
      List.Forall₂ Serves s.radio.runs served

/-- An attempt, scanning and a waiting request exclude each other. -/
structure Exclusive (s : State) : Prop where
  nodup : s.work.queue.Nodup
  /-- `connect_work` has no timer. -/
  armed : .connect ∉ s.work.armed
  scan : s.scanWanted = true → ¬s.Engaged
  connect : .connect ∈ s.work.queue → ¬s.Engaged
  staged : s.Staged

/-- The slot for a request is taken exactly while a request waits or is carried out. -/
structure Orderly (s : State) : Prop extends Served s, Exclusive s where
  connecting : s.connecting = true ↔ .connect ∈ s.work.queue ∨ s.inConnect = true

namespace Served

variable {s s' : State}

lemma of_aside (h : Served s) (ha : Aside s s') : Served s' where
  scanning := by rw [ha.radio, ha.scanOwned, h.scanning]
  stopped := fun he => ha.scanOwned.trans (h.stopped (ha.engaged he))
  served := by
    obtain ⟨served, haccepted, hruns⟩ := h.served
    refine ⟨served, ?_, ?_⟩
    · rw [ha.radio, ha.pendingAddress, haccepted]
      exact if_congr ha.queued.symm rfl rfl
    · rw [ha.radio]
      exact hruns

/-- The module's own scan is stopped, or not. -/
lemma stopOwnScan (h : Served s) (answer : ℤ) : Served (s.stopOwnScan answer).1 := by
  obtain ⟨served, haccepted, hruns⟩ := h.served
  by_cases howned : s.scanOwned = true
  case neg =>
    have heq : s.stopOwnScan answer = (s, 0) := if_pos howned
    rwa [heq]
  have hengaged (he : s.Engaged) : False := by
    rw [h.stopped he] at howned
    exact Bool.false_ne_true howned
  have hradio := s.radio_observe (.scanStop answer)
  have hscanning : (s.observe (.scanStop answer)).radio.scanning = stopFails answer := by
    rw [hradio]
    show (s.radio.scanning && stopFails answer) = _
    rw [h.scanning, howned, Bool.true_and]
  have hserved : ∃ served, (s.observe (.scanStop answer)).radio.accepted =
      (if .connect ∈ s.work.queue then s.pendingAddress :: served else served) ∧
        List.Forall₂ Serves (s.observe (.scanStop answer)).radio.runs served := by
    refine ⟨served, hradio ▸ haccepted, ?_⟩
    rw [hradio]
    exact forall₂_onLatest hruns fun _ _ hrun => hrun.stop answer
  unfold State.stopOwnScan
  rw [if_neg (not_not.2 howned)]
  dsimp only
  split
  case isTrue herr =>
    exact ⟨hscanning.trans (decide_eq_true herr), fun he => (hengaged he).elim, hserved⟩
  case isFalse hok =>
    exact ⟨hscanning.trans (decide_eq_false hok), fun _ => rfl, hserved⟩

end Served

lemma Exclusive.of_aside {s s' : State} (h : Exclusive s) (ha : Aside s s') : Exclusive s' where
  nodup := ha.nodup h.nodup
  armed := fun harmed => h.armed (ha.armed harmed)
  scan := fun hwanted he => h.scan (ha.scanWanted hwanted) (ha.engaged he)
  connect := fun hq he => h.connect (ha.queued.1 hq) (ha.engaged he)
  staged := ha.staged h.staged

namespace Orderly

variable {s s' : State}

lemma of_aside (h : Orderly s) (ha : Aside s s') : Orderly s' where
  toServed := h.toServed.of_aside ha
  toExclusive := h.toExclusive.of_aside ha
  connecting := by rw [ha.connecting, ha.queued, ha.inConnect, h.connecting]

/-- An item other than `connect_work` is put off. -/
lemma schedule (h : Orderly s) (w : Work) (delay : ℕ) (hw : w ≠ .connect) :
    Orderly (s.schedule w delay) :=
  h.of_aside ((Aside.refl s).schedule w delay hw)

lemma scanRefresh (h : Orderly s) : Orderly s.scanRefresh := h.schedule .scan 0 Work.noConfusion

lemma stopOwnScan (h : Orderly s) (answer : ℤ) : Orderly (s.stopOwnScan answer).1 := by
  have hserved := h.toServed.stopOwnScan answer
  obtain ⟨scanOwned, journal, heq⟩ := s.stopOwnScan_eq answer
  rw [heq] at hserved ⊢
  exact { h.toExclusive with toServed := hserved, connecting := h.connecting }

/-- The slot is free. -/
lemma slot_free (h : Orderly s) (hfree : ¬s.connecting = true) :
    .connect ∉ s.work.queue ∧ s.inConnect = false := by
  rw [h.connecting, not_or] at hfree
  exact ⟨hfree.1, Bool.eq_false_of_not_eq_true hfree.2⟩

/-! ### Requests and scans -/

/-- A request is accepted when the slot is free. -/
lemma centralConnect (h : Orderly s) (hidle : ¬s.Engaged) (addr : Addr) :
    Orderly (s.centralConnect addr) := by
  unfold State.centralConnect
  split
  case isTrue => exact h
  case isFalse hfree =>
    simp only [Bool.or_eq_true, Bool.not_eq_true', not_or, Bool.not_eq_false] at hfree
    obtain ⟨hinit, hconnecting⟩ := hfree
    obtain ⟨hqueue, hgap⟩ := h.slot_free hconnecting
    obtain ⟨served, haccepted, hruns⟩ := h.served
    have hradio : (State.observe { s with connecting := true, pendingAddress := addr }
        (.accepted addr)).radio = s.radio.record (.accepted addr) := State.radio_observe _ _
    have hwork : (State.submit (State.observe
        { s with connecting := true, pendingAddress := addr } (.accepted addr)) .connect).work =
        s.work.submit .connect := if_pos hinit
    have hmem : .connect ∈ (State.submit (State.observe
        { s with connecting := true, pendingAddress := addr }
        (.accepted addr)) .connect).work.queue :=
      State.mem_submit_self hinit
    refine { h.toExclusive with
      scanning := ?_, stopped := h.stopped, served := ⟨served, ?_, ?_⟩, nodup := ?_, armed := ?_
      connect := fun _ => hidle, connecting := ?_ }
    · show (State.radio (State.observe _ _)).scanning = s.scanOwned
      rw [hradio]
      exact h.scanning
    · rw [if_pos hmem]
      show (State.radio (State.observe _ _)).accepted = addr :: served
      rw [hradio]
      rw [if_neg hqueue] at haccepted
      exact congrArg (addr :: ·) haccepted
    · show List.Forall₂ Serves (State.radio (State.observe _ _)).runs served
      rw [hradio]
      exact hruns
    · rw [hwork]
      exact WorkQueue.nodup_submit h.nodup
    · rw [hwork]
      exact h.armed
    · exact iff_of_true rfl (.inl hmem)

/-- Whether the client looks for a mouse is decided anew. -/
lemma want (h : Orderly s) {wanted : Bool} (hidle : wanted = true → ¬s.Engaged) :
    Orderly { s with scanWanted := wanted } := { h with scan := hidle }

lemma retryWorkCb (h : Orderly s) (hgap : s.inConnect = false) : Orderly s.retryWorkCb := by
  unfold State.retryWorkCb
  dsimp only
  generalize hwanted : (s.mouseConn.isNone && (s.havePeer || s.pairing) &&
    !(s.havePeer && !s.isBonded s.peer)) = wanted
  have hidle (h : wanted = true) : ¬s.Engaged := by
    rw [h] at hwanted
    simp only [Bool.and_eq_true, Option.isNone_iff_eq_none] at hwanted
    exact State.not_engaged hwanted.1.1 hgap
  have hs := h.want hidle
  split
  case isTrue hpeer =>
    rw [Bool.and_eq_true] at hpeer
    exact (hs.centralConnect (hidle hpeer.1) _).scanRefresh
  case isFalse => exact hs.scanRefresh

lemma pairTimeoutCb (h : Orderly s) (hgap : s.inConnect = false) : Orderly s.pairTimeoutCb := by
  have hs : Orderly { s with pairing := false } := { h with }
  unfold State.pairTimeoutCb
  dsimp only
  split
  · exact (hs.of_aside ((Aside.refl _).fail _)).retryWorkCb hgap
  · exact hs.retryWorkCb hgap

lemma pairWorkCb (maxPaired : ℕ) (h : Orderly s) (hgap : s.inConnect = false) :
    Orderly (s.pairWorkCb maxPaired) := by
  have hretry : Orderly { s with retryMs := 1000 } := { h with }
  have hpairing : Orderly { s with pairing := true, retryMs := 1000 } := { h with }
  unfold State.pairWorkCb
  split_ifs
  · exact h
  · exact hretry.retryWorkCb hgap
  · exact h
  · exact (hpairing.schedule .pairTimeout 60000 Work.noConfusion).retryWorkCb hgap

/-- A scan is started while the client looks for a mouse. -/
lemma scanStart (h : Orderly s) (hwanted : s.scanWanted = true) (hdown : s.scanOwned = false)
    (answer : ℤ) :
    Orderly { s.observe (.scanStart answer) with scanOwned := decide (answer = 0) } := by
  have hradio : (State.radio { s.observe (.scanStart answer) with
      scanOwned := decide (answer = 0) }) = s.radio.record (.scanStart answer) := s.radio_observe _
  refine { h.toExclusive with
    scanning := ?_, stopped := fun he => absurd he (h.scan hwanted), served := ?_
    connecting := h.connecting }
  · rw [hradio]
    show (s.radio.scanning || decide (answer = 0)) = decide (answer = 0)
    rw [h.scanning, hdown, Bool.false_or]
  · rw [hradio]
    exact h.served

lemma scanWorkCb (h : Orderly s) (a : Answers) : Orderly (s.scanWorkCb a) := by
  have hput (t : State) (ht : Orderly t) : Orderly (t.schedule .scan 1000) :=
    ht.schedule .scan 1000 Work.noConfusion
  unfold State.scanWorkCb
  dsimp only
  split
  case isTrue => exact h
  case isFalse =>
  split
  case isTrue =>
    split
    · exact hput _ (h.stopOwnScan _)
    · exact h.stopOwnScan _
  case isFalse hneeded =>
  have hwanted : s.scanWanted = true := by
    simp only [Bool.or_eq_true, Bool.not_eq_true', not_or, Bool.not_eq_false] at hneeded
    exact hneeded.1
  split
  case isTrue => exact h
  case isFalse howned =>
  have hdown := Bool.eq_false_of_not_eq_true howned
  have hstarted := h.scanStart hwanted hdown a.scanStart
  split
  case isTrue herr =>
    rw [decide_eq_false herr, ← hdown] at hstarted
    exact hput _ hstarted
  case isFalse hok =>
  rw [decide_eq_true (not_not.1 hok)] at hstarted
  split
  · exact hput _ (hstarted.stopOwnScan _)
  · exact hstarted

lemma settleWorkCb (h : Orderly s) : Orderly s.settleWorkCb := by
  have hs : Orderly { s with splitSettling := false } := { h with }
  exact hs.scanRefresh

lemma connectionChanged (h : Orderly s) (answer : ℤ) : Orderly (s.connectionChanged answer) := by
  have hs : Orderly { s with splitSettling := true } := { h with }
  exact (hs.stopOwnScan answer).schedule .settle 1000 Work.noConfusion

lemma zmkBleMouseAdvertisement (h : Orderly s) (addr : Addr) (type : AdvType)
    (data : List BtData) (now : BitVec 32) :
    Orderly (s.zmkBleMouseAdvertisement addr type data now).1 := by
  have hseen (advertisers : List Advertiser) : Orderly { s with advertisers } := { h with }
  unfold State.zmkBleMouseAdvertisement
  dsimp only
  split_ifs with hunwanted
  · exact h
  all_goals have hidle := h.scan (by simpa using hunwanted)
  · exact h
  · exact h.centralConnect hidle _
  · exact h
  · exact h
  · refine centralConnect (hseen _) ?_ _
    exact hidle
  · exact hseen _

lemma settingsSet (h : Orderly s) (name : String) (length : ℕ) (contents : Addr) (result : ℤ) :
    Orderly (s.settingsSet name length contents result).1 := by
  unfold State.settingsSet
  dsimp only
  split_ifs
  · exact h
  · exact h
  · exact { h with }
  · exact { h with }

lemma zmkBleMouseStart (h : Orderly s) : Orderly s.zmkBleMouseStart := by
  have hs : Orderly { s with started := true, initialized := true } := { h with }
  unfold State.zmkBleMouseStart
  split
  · exact h
  · exact hs.schedule .retry 0 Work.noConfusion

end Orderly

/-! ### Carrying a request out -/

/-- `connect_work_cb` has begun to carry a request out. -/
structure Serving (s : State) : Prop where
  scanning : s.radio.scanning = s.scanOwned
  notQueued : .connect ∉ s.work.queue
  serving : ∃ runs served, s.radio.runs = {} :: runs ∧
    s.radio.accepted = s.pendingAddress :: served ∧ List.Forall₂ Serves runs served

namespace Serving

variable {s : State}

lemma of_take (h : Orderly s) {rest : List Work}
    (hq : s.work.queue = .connect :: rest) : Serving (s.take .connect rest) := by
  have hmem : .connect ∈ s.work.queue := hq ▸ List.mem_cons_self
  have hnodup : (Work.connect :: rest).Nodup := hq ▸ h.nodup
  have hradio : (s.take .connect rest).radio = { s.radio with runs := {} :: s.radio.runs } :=
    State.radio_observe _ _
  obtain ⟨served, haccepted, hruns⟩ := h.served
  rw [if_pos hmem] at haccepted
  refine ⟨?_, (List.nodup_cons.1 hnodup).1, s.radio.runs, served, ?_, ?_, hruns⟩
  · rw [hradio]
    exact h.scanning
  · rw [hradio]
  · rw [hradio]
    exact haccepted

/-- The scan could not be stopped. -/
lemma refused (h : Serving s) {answer : ℤ} (herr : (s.stopOwnScan answer).2 ≠ 0)
    (hidle : ¬s.Engaged) : Served (s.stopOwnScan answer).1 := by
  obtain ⟨runs, served, hruns, haccepted, hserved⟩ := h.serving
  by_cases howned : s.scanOwned = true
  case neg =>
    have heq : s.stopOwnScan answer = (s, 0) := if_pos howned
    rw [heq] at herr
    exact absurd rfl herr
  have hradio := s.radio_observe (.scanStop answer)
  unfold State.stopOwnScan at herr ⊢
  rw [if_neg (not_not.2 howned)] at herr ⊢
  dsimp only at herr ⊢
  by_cases hfails : answer ≠ 0 ∧ answer ≠ -eAlready
  case neg =>
    rw [if_neg hfails] at herr
    exact absurd rfl herr
  rw [if_pos hfails]
  have hstop : stopFails answer = true := decide_eq_true hfails
  refine ⟨?_, fun he => absurd he hidle, s.pendingAddress :: served, ?_, ?_⟩
  · show (s.observe (.scanStop answer)).radio.scanning = true
    rw [hradio]
    show (s.radio.scanning && stopFails answer) = true
    rw [h.scanning, howned, hstop, Bool.true_and]
  · refine Eq.trans ?_ (if_neg h.notQueued).symm
    show (s.observe (.scanStop answer)).radio.accepted = s.pendingAddress :: served
    rw [hradio]
    exact haccepted
  · show List.Forall₂ Serves (s.observe (.scanStop answer)).radio.runs _
    rw [hradio]
    show List.Forall₂ Serves (onLatest (ConnectRun.stop answer) s.radio.runs) _
    rw [hruns]
    refine .cons ?_ hserved
    simp [Serves, ConnectRun.stop, hstop]

/-- The scan is stopped. -/
lemma stopped (h : Serving s) {answer : ℤ} (hok : (s.stopOwnScan answer).2 = 0) :
    Serving (s.stopOwnScan answer).1 ∧ (s.stopOwnScan answer).1.scanOwned = false := by
  obtain ⟨runs, served, hruns, haccepted, hserved⟩ := h.serving
  by_cases howned : s.scanOwned = true
  case neg =>
    have heq : s.stopOwnScan answer = (s, 0) := if_pos howned
    rw [heq]
    exact ⟨h, Bool.eq_false_of_not_eq_true howned⟩
  have hradio := s.radio_observe (.scanStop answer)
  unfold State.stopOwnScan at hok ⊢
  rw [if_neg (not_not.2 howned)] at hok ⊢
  dsimp only at hok ⊢
  by_cases hfails : answer ≠ 0 ∧ answer ≠ -eAlready
  case pos =>
    rw [if_pos hfails] at hok
    exact absurd hok hfails.1
  rw [if_neg hfails]
  have hstop : stopFails answer = false := decide_eq_false hfails
  refine ⟨⟨?_, h.notQueued, runs, served, ?_, ?_, hserved⟩, rfl⟩
  · show (s.observe (.scanStop answer)).radio.scanning = false
    rw [hradio]
    show (s.radio.scanning && stopFails answer) = false
    rw [hstop, Bool.and_false]
  · show (s.observe (.scanStop answer)).radio.runs = _
    rw [hradio]
    show onLatest (ConnectRun.stop answer) s.radio.runs = _
    rw [hruns]
    simp [onLatest, ConnectRun.stop, hstop]
  · show (s.observe (.scanStop answer)).radio.accepted = _
    rw [hradio]
    exact haccepted

/-- The connect function is called. -/
lemma call (h : Serving s) (howned : s.scanOwned = false) :
    Served (s.observe (.connect s.pendingAddress)) := by
  obtain ⟨runs, served, hruns, haccepted, hserved⟩ := h.serving
  have hradio := s.radio_observe (.connect s.pendingAddress)
  have hscanning : s.radio.scanning = false := h.scanning.trans howned
  refine ⟨?_, fun _ => howned, s.pendingAddress :: served, ?_, ?_⟩
  · rw [hradio]
    exact h.scanning
  · rw [hradio]
    exact haccepted.trans (if_neg h.notQueued).symm
  · rw [hradio]
    show List.Forall₂ Serves (onLatest _ s.radio.runs) _
    rw [hruns]
    refine .cons ?_ hserved
    simp [Serves, ConnectRun.call, hscanning]

end Serving

/-- The stage when `connect_mouse` has returned, or has got to the moment inside it. -/
lemma State.staged_connectMouse (maxPaired : ℕ) {s : State} (hs : s.Staged) (hidle : ¬s.Engaged)
    (addr : Addr) (a : Answers) :
    (s.connectMouse maxPaired addr a).1.Staged ∧
      ((s.connectMouse maxPaired addr a).1.Engaged →
        (s.connectMouse maxPaired addr a).1.scanWanted = false) := by
  obtain ⟨hnone, hgap⟩ := not_or.1 hidle
  have hconn : s.mouseConn = none := not_not.1 hnone
  have hstaged (t : State) (ht : t.mouseConn = none)
      (hstage : t.stage = if t.inConnect then .connecting else .idle) : t.Staged := by
    unfold State.Staged
    rwa [ht]
  unfold State.connectMouse
  dsimp only
  split_ifs
  · exact ⟨hs, fun he => absurd he hidle⟩
  · exact ⟨hs, fun he => absurd he hidle⟩
  · exact ⟨hs, fun he => absurd he hidle⟩
  · exact ⟨hs, fun _ => rfl⟩
  · exact ⟨hstaged _ hconn (if_neg hgap).symm, fun _ => rfl⟩
  · exact ⟨hstaged _ hconn rfl, fun _ => rfl⟩

/-- The stage when `connect_mouse` returns from that moment. -/
lemma State.staged_connectMouseLookup {s : State} (hs : s.Staged) (hin : s.inConnect = true)
    (hunwanted : s.scanWanted = false) (addr : Addr) (a : Answers) :
    (s.connectMouseLookup addr a).1.Staged ∧
      (s.connectMouseLookup addr a).1.scanWanted = false := by
  have hstage : s.stage = .connecting := by
    unfold State.Staged at hs
    split at hs
    · exact absurd (hs.2.symm.trans hin) Bool.false_ne_true
    · rwa [if_pos hin] at hs
  unfold State.connectMouseLookup State.Staged
  dsimp only
  cases hlookup : a.lookup with
  | none => exact ⟨rfl, rfl⟩
  | some c =>
    refine ⟨⟨?_, rfl⟩, hunwanted⟩
    show s.stage ≠ .idle
    rw [hstage]
    exact Stage.noConfusion

namespace Exclusive

variable {s : State}

/-- An item is taken off the queue. -/
lemma take (h : Exclusive s) {w : Work} {rest : List Work} (hq : s.work.queue = w :: rest) :
    Exclusive (s.take w rest) where
  nodup := (List.nodup_cons.1 (hq ▸ h.nodup)).2
  armed := h.armed
  scan := h.scan
  connect := fun hmem => h.connect (hq ▸ List.mem_cons_of_mem w hmem)
  staged := h.staged

lemma stopOwnScan (h : Exclusive s) (answer : ℤ) : Exclusive (s.stopOwnScan answer).1 := by
  obtain ⟨scanOwned, journal, heq⟩ := s.stopOwnScan_eq answer
  rw [heq]
  exact { h with }

lemma connectMouse (maxPaired : ℕ) (h : Exclusive s) (hidle : ¬s.Engaged)
    (hnotQueued : .connect ∉ s.work.queue) (addr : Addr) (a : Answers) :
    Exclusive (s.connectMouse maxPaired addr a).1 := by
  obtain ⟨hstaged, hunwanted⟩ := State.staged_connectMouse maxPaired h.staged hidle addr a
  obtain ⟨t, stage, inConnect, ha, heq⟩ := (Aside.refl s).connectMouse maxPaired addr a
  rw [heq] at hstaged hunwanted ⊢
  exact {
    nodup := ha.nodup h.nodup
    armed := fun harmed => h.armed (ha.armed harmed)
    scan := fun hwanted he => Bool.false_ne_true ((hunwanted he).symm.trans hwanted)
    connect := fun hq => absurd (ha.queued.1 hq) hnotQueued
    staged := hstaged }

lemma connectMouseLookup (h : Exclusive s) (hin : s.inConnect = true) (addr : Addr) (a : Answers) :
    Exclusive (s.connectMouseLookup addr a).1 := by
  have hunwanted : s.scanWanted = false :=
    Bool.eq_false_of_not_eq_true fun hwanted => h.scan hwanted (.inr hin)
  obtain ⟨hstaged, hunwanted'⟩ := State.staged_connectMouseLookup h.staged hin hunwanted addr a
  obtain ⟨t, stage, mouseConn, ha, heq⟩ := (Aside.refl s).connectMouseLookup addr a
  rw [heq] at hstaged hunwanted' ⊢
  exact {
    nodup := ha.nodup h.nodup
    armed := fun harmed => h.armed (ha.armed harmed)
    scan := fun hwanted => absurd (hunwanted'.symm.trans hwanted) Bool.false_ne_true
    connect := fun hq => absurd (.inr hin) (h.connect (ha.queued.1 hq))
    staged := hstaged }

end Exclusive

namespace Orderly

variable {s : State}

/-- The slot is given back. -/
lemma giveBack (h : Served s) (he : Exclusive s) (hgap : s.inConnect = false)
    (hnotQueued : .connect ∉ s.work.queue) : Orderly { s with connecting := false } := by
  refine { he with toServed := { h with }, connecting := iff_of_false Bool.false_ne_true ?_ }
  rintro (hq | hin)
  · exact hnotQueued hq
  · exact Bool.false_ne_true (hgap.symm.trans hin)

lemma connectReturned (h : Served s) (he : Exclusive s) (hgap : s.inConnect = false)
    (hnotQueued : .connect ∉ s.work.queue) (err : ℤ) : Orderly (s.connectReturned err) := by
  have hs := giveBack h he hgap hnotQueued
  unfold State.connectReturned
  dsimp only
  split
  · exact hs.schedule .scan 1000 Work.noConfusion
  · exact hs

lemma connectWorkBegin (maxPaired : ℕ) (h : Serving s) (he : Exclusive s)
    (hconnecting : s.connecting = true) (hidle : ¬s.Engaged) (a : Answers) :
    Orderly (s.connectWorkBegin maxPaired a) := by
  have hgap : s.inConnect = false :=
    Bool.eq_false_of_not_eq_true fun hin => hidle (.inr hin)
  have hstopped := he.stopOwnScan a.scanStop
  obtain ⟨scanOwned, journal, heq⟩ := s.stopOwnScan_eq a.scanStop
  unfold State.connectWorkBegin
  dsimp only
  split
  case isTrue herr =>
    have hrefused := h.refused herr hidle
    rw [heq] at hrefused hstopped ⊢
    exact connectReturned hrefused hstopped hgap h.notQueued _
  case isFalse hok =>
    obtain ⟨hserving, howned⟩ := h.stopped (not_not.1 hok)
    rw [heq] at hserving howned hstopped ⊢
    have hcalled := hserving.call howned
    have hexclusive : Exclusive (State.observe { s with scanOwned, journal }
        (.connect s.pendingAddress)) := { hstopped with }
    have hconnected := hexclusive.connectMouse maxPaired hidle h.notQueued s.pendingAddress a
    obtain ⟨t, stage, inConnect, ha, heq'⟩ := (Aside.refl (State.observe
      { s with scanOwned, journal } (.connect s.pendingAddress))).connectMouse maxPaired
        s.pendingAddress a
    have hserved : Served { t with stage, inConnect } :=
      { hcalled.of_aside ha with stopped := fun _ => ha.scanOwned.trans howned }
    rw [heq'] at hconnected ⊢
    split
    case isTrue hin =>
      exact { hconnected with
        toServed := hserved
        connecting := iff_of_true (ha.connecting.trans hconnecting) (.inr hin) }
    case isFalse hin =>
      refine connectReturned hserved hconnected (Bool.eq_false_of_not_eq_true hin) ?_ _
      exact fun hq => h.notQueued (ha.queued.1 hq)

lemma connectWorkEnd (h : Orderly s) (hin : s.inConnect = true) (a : Answers) :
    Orderly (s.connectWorkEnd a) := by
  have hexclusive := h.connectMouseLookup hin s.pendingAddress a
  obtain ⟨t, stage, mouseConn, ha, heq⟩ := (Aside.refl s).connectMouseLookup s.pendingAddress a
  have howned : t.scanOwned = false := ha.scanOwned.trans (h.stopped (.inr hin))
  have hserved : Served { t with mouseConn, stage, inConnect := false } :=
    { h.toServed.of_aside ha with stopped := fun _ => howned }
  unfold State.connectWorkEnd
  dsimp only
  rw [heq] at hexclusive ⊢
  refine connectReturned hserved hexclusive rfl ?_ _
  exact fun hq => h.connect (ha.queued.1 hq) (.inr hin)

end Orderly

/-! ### Steps -/

namespace Orderly

variable {s s' : State}

/-- An item other than `connect_work` is taken off the queue. -/
lemma take (h : Orderly s) {w : Work} {rest : List Work} (hq : s.work.queue = w :: rest)
    (hw : w ≠ .connect) : Orderly (s.take w rest) := by
  have hradio : (s.take w rest).radio = s.radio := State.radio_observe_of_not_ofRadio _ hw
  have hmem : .connect ∈ s.work.queue ↔ .connect ∈ rest := by
    rw [hq, List.mem_cons, or_iff_right (Ne.symm hw)]
  obtain ⟨served, haccepted, hruns⟩ := h.served
  refine { h.toExclusive.take hq with
    scanning := ?_, stopped := h.stopped, served := ⟨served, ?_, ?_⟩, connecting := ?_ }
  · rw [hradio]
    exact h.scanning
  · rw [hradio, haccepted]
    exact if_congr hmem rfl rfl
  · rw [hradio]
    exact hruns
  · exact h.connecting.trans (or_congr hmem Iff.rfl)

/-- Every item of work. -/
lemma run {maxPaired : ℕ} (h : Orderly s) (hgap : s.inConnect = false)
    {w : Work} {rest : List Work} (hq : s.work.queue = w :: rest) {a : Answers} :
    Orderly ((s.take w rest).run maxPaired w a) := by
  have hrefl := Aside.refl (s.take w rest)
  cases w with
  | discovery => exact (h.take hq Work.noConfusion).of_aside (Aside.discoveryWorkCb a)
  | failure =>
    have hgap' : (s.take .failure rest).inConnect = false := hgap
    have ha := Aside.failureWorkCb hgap' a
    exact (h.take hq Work.noConfusion).of_aside ha
  | retry => exact (h.take hq Work.noConfusion).retryWorkCb hgap
  | timeout => exact (h.take hq Work.noConfusion).of_aside hrefl.timeoutWorkCb
  | pairTimeout => exact (h.take hq Work.noConfusion).pairTimeoutCb hgap
  | connected => exact (h.take hq Work.noConfusion).of_aside (Aside.connectedWorkCb a)
  | disconnected => exact (h.take hq Work.noConfusion).of_aside (hrefl.disconnectedWorkCb a)
  | pair => exact (h.take hq Work.noConfusion).pairWorkCb maxPaired hgap
  | clear => exact (h.take hq Work.noConfusion).of_aside (Aside.clearWorkCb a)
  | scan => exact (h.take hq Work.noConfusion).scanWorkCb a
  | connect =>
    have hmem : .connect ∈ s.work.queue := hq ▸ List.mem_cons_self
    have hbegun := connectWorkBegin maxPaired (.of_take h hq) (h.toExclusive.take hq)
      (h.connecting.2 (.inl hmem)) (h.connect hmem) a
    show Orderly (State.connectWorkCb maxPaired (s.take .connect rest) a)
    unfold State.connectWorkCb
    dsimp only
    split
    case isTrue hin => exact hbegun.connectWorkEnd hin a
    case isFalse => exact hbegun
  | settle => exact (h.take hq Work.noConfusion).settleWorkCb
  | output => exact h.take hq Work.noConfusion

/-- Every step keeps the hand-over orderly. -/
theorem step {maxPaired : ℕ} (h : Orderly s) {l : Label} (hstep : s.step maxPaired l = some s') :
    Orderly s' := by
  cases moves_of_step hstep with
  | work hgap hq => exact h.run hgap hq
  | @connectBegin a rest _ hq =>
    have hmem : .connect ∈ s.work.queue := hq ▸ List.mem_cons_self
    exact connectWorkBegin maxPaired (.of_take h hq) (h.toExclusive.take hq)
      (h.connecting.2 (.inl hmem)) (h.connect hmem) a
  | connectEnd hin => exact h.connectWorkEnd hin _
  | expire hw => exact h.of_aside (Aside.expire h.armed hw)
  | connected c err => exact h.of_aside (Aside.connectedCb c err)
  | disconnected c => exact h.of_aside (Aside.disconnectedCb c)
  | connectionChanged scanStop => exact h.connectionChanged scanStop
  | securityChanged c level err => exact h.of_aside (Aside.securityCb c level err)
  | pairingComplete c bonded => exact h.of_aside (Aside.pairingCompleteCb c bonded)
  | pairingFailed c => exact h.of_aside (Aside.pairingFailedCb c)
  | discovered c _ _ _ attr => exact h.of_aside ((Aside.discoverCb c attr).finished _ _ _ _)
  | readDone c _ err data => exact h.of_aside ((Aside.readCb c err data).finished _ _ _ _)
  | written c _ _ err => exact h.of_aside ((Aside.writtenCb c err).finished _ _ _ _)
  | subscribed c i _ _ err => exact h.of_aside ((Aside.subscribedCb c err i).finished _ _ _ _)
  | notified c i data => exact h.of_aside (Aside.notifyCb c i data)
  | advertisement addr type data now => exact h.zmkBleMouseAdvertisement addr type data now
  | pair => exact h.of_aside Aside.zmkBleMousePair
  | clearHold pressed => exact h.of_aside (Aside.zmkBleMouseClearHold pressed)
  | settings name length contents result =>
    exact (h.of_aside ((Aside.refl s).observe (.load name length contents result) id)).settingsSet
      name length contents result
  | start => exact h.zmkBleMouseStart

end Orderly

lemma orderly_init (bonds : List Addr) : Orderly (State.init bonds) where
  scanning := rfl
  stopped := fun _ => rfl
  served := ⟨[], rfl, .nil⟩
  nodup := List.nodup_nil
  armed := List.not_mem_nil
  scan := fun hwanted => Bool.noConfusion hwanted
  connect := fun hq => absurd hq List.not_mem_nil
  staged := rfl
  connecting := by
    refine iff_of_false Bool.false_ne_true ?_
    rintro (hq | hin)
    · exact absurd hq List.not_mem_nil
    · exact Bool.noConfusion hin

end BleMouse.Client
