/-
The client in conversation with a mouse.

The host carries the procedures of the client out one callback at a time, as the mouse presents
itself.  In between anything may happen that leaves the attempt alone, in any order and number.

* `Converses`: the steps of a conversation;
* `Steady`: what everything else leaves of it;
* `steady_of_meanwhile`: a step between two callbacks.
-/
import BleMouse.Client.Mouse
import BleMouse.Lib.Fifo
import BleMouse.Lib.Progress

namespace BleMouse.Client

open BleMouse.Hid BleMouse.Output

/-! ### The steps -/

/-- The host starts every procedure, and stores the address. -/
def Answers.Accept (a : Answers) : Prop :=
  a.gatt = 0 ∧ a.control = 0 ∧ a.protocol = 0 ∧ a.save = 0

/-- The items that may end the attempt though nothing fails. -/
def Work.Interferes : Work → Prop
  | .timeout | .pairTimeout | .clear | .disconnected => True
  | _ => False

/-- The items that the worker runs beside discovery. -/
def Work.Incidental : Work → Prop
  | .retry | .pair | .scan | .settle | .output => True
  | _ => False

/-- The label is no callback of a procedure, and leaves the attempt with a connection alone. -/
def Label.Spares (c : Conn) : Label → Prop
  | .work a => a.Accept
  | .expire w => ¬w.Interferes
  | .disconnected c' | .pairingComplete c' _ | .pairingFailed c' => c' ≠ c
  | .securityChanged c' _ err => c' = c → err = 0
  | .discovered .. | .readDone .. | .written .. | .subscribed .. => False
  | _ => True

/-- The events of a conversation. -/
inductive Exchange
  /-- A callback of the procedure in progress. -/
  | callback (l : Label)
  /-- The worker runs an item while no procedure is in progress. -/
  | turn (a : Answers)
  | meanwhile (l : Label)
deriving DecidableEq, Repr

/-- The events that the conversation waits for. -/
def Exchange.Counts : Exchange → Prop
  | .meanwhile _ => False
  | _ => True

instance : DecidablePred Exchange.Counts := fun e => by
  cases e <;> unfold Exchange.Counts <;> infer_instance

/-- A step of a conversation; the number counts the callbacks of the procedure in progress. -/
inductive Converses (maxPaired : ℕ) (m : Mouse) (c : Conn) : State × ℕ → Exchange → State × ℕ → Prop
  | callback {s s' : State} {n : ℕ} {r : Request} {l : Label}
      (hr : (c, r) ∈ s.host.attempt.requests) (hl : (m.callbacks c r)[n]? = some l)
      (hstep : Step maxPaired s l s') : Converses maxPaired m c (s, n) (.callback l) (s', n + 1)
  | turn {s s' : State} {n : ℕ} {a : Answers} (hnone : s.host.attempt.requests = [])
      (ha : a.Accept) (hstep : Step maxPaired s (.work a) s') :
      Converses maxPaired m c (s, n) (.turn a) (s', 0)
  | meanwhile {s s' : State} {n : ℕ} {l : Label} (hl : l.Spares c)
      (hbusy : (∃ a, l = .work a) → s.host.attempt.requests ≠ []) (hstep : Step maxPaired s l s') :
      Converses maxPaired m c (s, n) (.meanwhile l) (s', n)

/-- The client has an attempt with a connection that has not failed, and nothing in the queue
ends it; a new mouse is paired. -/
structure Talking (s : State) (c : Conn) : Prop where
  conn : s.mouseConn = some c
  failure : s.failure = 0
  candidate : s.newCandidate = true → s.candidateBonded = true ∧ c.dst ∈ s.host.bonds
  calm : ∀ w ∈ s.work.queue, ¬w.Interferes

/-! ### What leaves the conversation alone -/

/-- Nothing of the conversation changes, and items beside discovery are submitted and run. -/
structure Steady (s s' : State) : Prop where
  mouseConn : s'.mouseConn = s.mouseConn
  failure : s'.failure = s.failure
  stage : s'.stage = s.stage
  session : s'.session = s.session
  newCandidate : s'.newCandidate = s.newCandidate
  candidateBonded : s'.candidateBonded = s.candidateBonded
  bonds : ∀ addr ∈ s.host.bonds, addr ∈ s'.host.bonds
  requests : s'.host.attempt.requests = s.host.attempt.requests
  follows : s.work.Follows Work.Incidental s'.work

namespace Steady

variable {s s' s'' : State} {c : Conn}

lemma refl (s : State) : Steady s s where
  mouseConn := rfl
  failure := rfl
  stage := rfl
  session := rfl
  newCandidate := rfl
  candidateBonded := rfl
  bonds := fun _ => id
  requests := rfl
  follows := WorkQueue.Follows.refl _

lemma trans (h : Steady s s') (h' : Steady s' s'') : Steady s s'' where
  mouseConn := h'.mouseConn.trans h.mouseConn
  failure := h'.failure.trans h.failure
  stage := h'.stage.trans h.stage
  session := h'.session.trans h.session
  newCandidate := h'.newCandidate.trans h.newCandidate
  candidateBonded := h'.candidateBonded.trans h.candidateBonded
  bonds := fun addr haddr => h'.bonds addr (h.bonds addr haddr)
  requests := h'.requests.trans h.requests
  follows := h.follows.trans h'.follows

/-- An observation about something else. -/
lemma observe (h : Steady s s') (o : Obs)
    (hbonds : ∀ addr ∈ s'.host.bonds, addr ∈ (s'.host.record o).bonds)
    (hrequests : (s'.host.record o).attempt.requests = s'.host.attempt.requests) :
    Steady s (s'.observe o) := by
  refine h.trans { refl s' with bonds := fun addr haddr => ?_, requests := ?_ }
  · rw [State.host_observe]
    exact hbonds addr haddr
  · rw [State.host_observe]
    exact hrequests

lemma submit (h : Steady s s') {w : Work} (hw : w.Incidental) : Steady s (s'.submit w) := by
  refine h.trans { refl s' with follows := ?_ }
  unfold State.submit
  dsimp only
  split
  · exact (WorkQueue.Follows.refl _).submit hw
  · exact WorkQueue.Follows.refl _

lemma schedule (h : Steady s s') {w : Work} (hw : w.Incidental) (delay : ℕ) :
    Steady s (s'.schedule w delay) := by
  refine h.trans { refl s' with follows := ?_ }
  unfold State.schedule
  dsimp only
  split
  · exact (WorkQueue.Follows.refl _).reschedule hw delay
  · exact WorkQueue.Follows.refl _

lemma scanRefresh (h : Steady s s') : Steady s s'.scanRefresh := h.schedule (w := .scan) trivial 0

lemma stopOwnScan (h : Steady s s') (answer : ℤ) : Steady s (s'.stopOwnScan answer).1 := by
  have hdisowned : Steady s { s' with scanOwned := false } := { h with }
  have hstopped := hdisowned.observe (.scanStop answer) (fun _ => id) rfl
  unfold State.stopOwnScan
  split
  · exact h
  · dsimp only
    split
    · exact { hstopped with }
    · exact hstopped

lemma scanWorkCb (h : Steady s s') (a : Answers) : Steady s (s'.scanWorkCb a) := by
  have hstarted : Steady s (s'.observe (.scanStart a.scanStart)) := h.observe _ (fun _ => id) rfl
  have howned : Steady s { s'.observe (.scanStart a.scanStart) with scanOwned := true } :=
    { hstarted with }
  unfold State.scanWorkCb
  dsimp only
  split_ifs
  · exact h
  · exact (h.stopOwnScan _).schedule (w := .scan) trivial _
  · exact h.stopOwnScan _
  · exact h
  · exact hstarted.schedule (w := .scan) trivial _
  · exact (howned.stopOwnScan _).schedule (w := .scan) trivial _
  · exact howned

lemma settleWorkCb (h : Steady s s') : Steady s s'.settleWorkCb := by
  have hsettled : Steady s { s' with splitSettling := false } := { h with }
  exact hsettled.scanRefresh

lemma connectionChanged (h : Steady s s') (answer : ℤ) :
    Steady s (s'.connectionChanged answer) := by
  have hsettling : Steady s { s' with splitSettling := true } := { h with }
  exact (hsettling.stopOwnScan answer).schedule (w := .settle) trivial _

/-- While there is a connection, the client does not look for another one. -/
lemma retryWorkCb (h : Steady s s') (hconn : s'.mouseConn ≠ none) : Steady s s'.retryWorkCb := by
  have hstopped : Steady s { s' with scanWanted := false } := { h with }
  have hsome : s'.mouseConn.isNone = false :=
    Bool.eq_false_of_not_eq_true fun hnone => hconn (Option.isNone_iff_eq_none.1 hnone)
  unfold State.retryWorkCb
  simp only [hsome, Bool.false_and, Bool.false_eq_true, if_false]
  exact hstopped.scanRefresh

lemma pairWorkCb (maxPaired : ℕ) (h : Steady s s') (hconn : s'.mouseConn ≠ none) :
    Steady s (s'.pairWorkCb maxPaired) := by
  unfold State.pairWorkCb
  rw [if_pos (Option.isSome_iff_ne_none.2 hconn)]
  exact h

/-- The worker runs an item beside discovery. -/
lemma run (maxPaired : ℕ) (h : Steady s s') (hconn : s'.mouseConn ≠ none) {w : Work}
    (hw : w.Incidental) (a : Answers) : Steady s (s'.run maxPaired w a) := by
  cases w with
  | retry => exact h.retryWorkCb hconn
  | pair => exact h.pairWorkCb maxPaired hconn
  | scan => exact h.scanWorkCb a
  | settle => exact h.settleWorkCb
  | output => exact h
  | _ => exact hw.elim

lemma take {w : Work} {rest : List Work} (hq : s.work.queue = w :: rest) (hw : w.Incidental) :
    Steady s (s.take w rest) := by
  have hfollows : s.work.Follows Work.Incidental { s.work with queue := rest } := by
    refine ⟨rest, [], (List.append_nil _).symm, ?_, fun _ hv => absurd hv List.not_mem_nil,
      fun v hv hnot => ?_⟩
    · rw [hq]
      exact List.sublist_cons_self w rest
    · rw [hq] at hv
      refine (List.mem_cons.1 hv).resolve_left ?_
      rintro rfl
      exact hnot hw
  have hs : Steady s { s with work := { s.work with queue := rest } } :=
    { refl s with follows := hfollows }
  exact hs.observe (.ran w) (fun _ => id) rfl

/-- The conversation goes on. -/
lemma talking (h : Steady s s') (ht : Talking s c) : Talking s' c where
  conn := h.mouseConn.trans ht.conn
  failure := h.failure.trans ht.failure
  candidate := by
    rw [h.newCandidate, h.candidateBonded]
    exact fun hnew => ⟨(ht.candidate hnew).1, h.bonds _ (ht.candidate hnew).2⟩
  calm := by
    intro w hw hinterferes
    have hnot : ¬w.Incidental := by
      cases w with
      | timeout | pairTimeout | clear | disconnected => exact id
      | _ => exact hinterferes.elim
    exact ht.calm w ((h.follows.mem_iff hnot).1 hw) hinterferes

end Steady

section Meanwhile

variable {maxPaired : ℕ} {s s' : State} {c : Conn} {l : Label}

/-- In a conversation the queue holds discovery and what runs beside it. -/
lemma Talking.incidental (h : Talking s c) (hs : Coherent s) (hstage : s.stage.Exploring) {w : Work}
    (hmem : w ∈ s.work.queue) (hne : w ≠ .discovery) : w.Incidental := by
  have hconn : s.mouseConn ≠ none := h.conn ▸ Option.some_ne_none c
  cases w with
  | discovery => exact absurd rfl hne
  | failure => exact absurd h.failure (hs.failed hmem hconn)
  | connected => exact absurd (hs.completed hmem hconn) (Coherent.not_open_of_exploring hstage)
  | connect => exact absurd (.inl hconn) (hs.connect hmem).1
  | timeout | pairTimeout | clear | disconnected => exact (h.calm _ hmem trivial).elim
  | retry | pair | scan | settle | output => trivial

/-- A callback of another connection finds nothing of its own. -/
lemma Talking.owns_eq_false (h : Talking s c) {c' : Conn} (hne : c' ≠ c) : s.owns c' = false := by
  unfold State.owns
  rw [decide_eq_false_iff_not, h.conn, Option.some_inj]
  exact fun heq => hne heq.symm

/-- The connection has been completed, so the event is about another one. -/
lemma Talking.connectedCb (h : Talking s c) (hs : Coherent s) (hstage : s.stage.Exploring)
    {c' : Conn} {err : ℕ} (hallows : Host.Allows s (.connected c' err)) :
    (s.observe (.connected c' err)).connectedCb c' err = s.observe (.connected c' err) := by
  have hconn : s.mouseConn ≠ none := h.conn ▸ Option.some_ne_none c
  refine if_neg fun hours => ?_
  rw [Bool.or_eq_true, Bool.and_eq_true, decide_eq_true_eq, decide_eq_true_eq] at hours
  rcases hours with howns | ⟨hconnecting, -⟩
  · have hengaged : s.Engaged := .inl hconn
    have hdst : c'.dst = s.host.attempt.addr :=
      (hs.address c' (of_decide_eq_true howns)).trans (hs.addr hengaged).symm
    have hauto := hallows (hs.active.1 hengaged) hdst
    exact Coherent.not_open_of_exploring hstage (hs.auto _ hauto).2.2
  · exact hstage.2.1 hconnecting

/-- What happens between two callbacks leaves the conversation alone. -/
lemma steady_of_meanwhile (h : Talking s c) (hs : Coherent s) (hstage : s.stage.Exploring)
    (hl : l.Spares c) (hbusy : (∃ a, l = .work a) → s.host.attempt.requests ≠ [])
    (hstep : Step maxPaired s l s') : Steady s s' := by
  have hrefl := Steady.refl s
  have hconn : s.mouseConn ≠ none := h.conn ▸ Option.some_ne_none c
  have hlive : s.Live := ⟨hconn, h.failure, hstage.2.2.2.2⟩
  have hinit := hs.initialized_of_engaged (.inl hconn)
  have hscan : s.scanWanted = false :=
    Bool.eq_false_of_not_eq_true fun hwanted => hs.scan hwanted (.inl hconn)
  have hallows := hstep.1
  cases hstep.moves with
  | @work a w rest hgap hq =>
    have hmem : w ∈ s.work.queue := hq ▸ List.mem_cons_self
    have hw : w.Incidental := by
      refine h.incidental hs hstage hmem ?_
      rintro rfl
      exact hbusy ⟨a, rfl⟩ ((hs.token hlive).discovery hmem).1
    exact (Steady.take hq hw).run maxPaired hconn hw a
  | connectBegin hgap hq => exact absurd (.inl hconn) (hs.connect (hq ▸ List.mem_cons_self)).1
  | connectEnd hin => exact absurd (hs.gap hin).1 hconn
  | @expire w hw =>
    have hincidental : w.Incidental := by
      have hdelayable := hs.timers w hw
      cases w with
      | timeout | pairTimeout | clear => exact (hl trivial).elim
      | retry | scan | settle => trivial
      | _ => exact hdelayable.elim
    have hdisarmed : s.work.Follows Work.Incidental (s.work.disarm w) :=
      WorkQueue.Follows.of_queue rfl
    exact { hrefl with follows := hdisarmed.submit hincidental }
  | connected c' err =>
    rw [h.connectedCb hs hstage hallows]
    exact hrefl.observe _ (fun _ => id) rfl
  | disconnected c' =>
    have howns : (s.observe (.disconnected c')).owns c' = false := h.owns_eq_false hl
    unfold State.disconnectedCb
    rw [howns]
    exact hrefl.observe _ (fun _ => id) rfl
  | connectionChanged answer => exact hrefl.connectionChanged answer
  | securityChanged c' level err =>
    unfold State.securityCb
    split
    · exact hrefl
    · rename_i hvalid
      rw [Bool.not_eq_true', Bool.not_eq_false] at hvalid
      have hc : c' = c :=
        Option.some.inj ((State.validCallback_iff.1 hvalid).1.symm.trans h.conn)
      rw [if_neg (not_not.2 (hl hc)), if_neg fun hsecure => hstage.2.2.1 hsecure.2]
      exact hrefl
  | pairingComplete c' bonded =>
    have howns : (s.observe (.pairingComplete c' bonded)).owns c' = false := h.owns_eq_false hl
    unfold State.pairingCompleteCb
    rw [howns]
    refine hrefl.observe _ (fun addr haddr => ?_) ?_
    · show addr ∈ (if bonded = true ∧ c'.dst ∉ s.host.bonds then _ else _)
      split
      · exact List.mem_append_left _ haddr
      · exact haddr
    · simp only [History.record, Attempt.record]
      split <;> rfl
  | pairingFailed c' =>
    have howns : s.owns c' = false := h.owns_eq_false hl
    unfold State.pairingFailedCb
    rw [howns]
    exact hrefl
  | discovered | readDone | written | subscribed => exact hl.elim
  | notified c' i data =>
    have hnotify : s.notifyCb c' i data = s := by
      unfold State.notifyCb
      rw [if_pos]
      rw [Bool.or_eq_true, decide_eq_true_eq]
      exact .inr hstage.2.2.2.1
    rw [hnotify]
    exact hrefl
  | advertisement addr type data now =>
    unfold State.zmkBleMouseAdvertisement
    rw [hscan]
    exact hrefl
  | pair =>
    unfold State.zmkBleMousePair
    split
    · exact hrefl
    · exact hrefl.submit (w := .pair) trivial
  | clearHold pressed =>
    have hheld : Steady s { s.observe (.clearKey pressed) with clearHeld := pressed } :=
      { hrefl.observe (.clearKey pressed) (fun _ => id) rfl with }
    have hqueue : s.work.queue.filter (· ≠ .clear) = s.work.queue :=
      List.filter_eq_self.2 fun w hw => by
        rw [decide_eq_true_eq]
        rintro rfl
        exact h.calm _ hw trivial
    unfold State.zmkBleMouseClearHold
    dsimp only
    split
    · refine hheld.trans { Steady.refl _ with follows := WorkQueue.Follows.of_queue ?_ }
      unfold State.schedule
      dsimp only
      split <;> rfl
    · exact hheld.trans { Steady.refl _ with follows := WorkQueue.Follows.of_queue hqueue }
  | settings name length contents result =>
    rw [hs.start] at hinit
    exact Bool.noConfusion (hinit.symm.trans hallows)
  | start =>
    rw [hs.start] at hinit
    unfold State.zmkBleMouseStart
    rw [if_pos hinit]
    exact hrefl

end Meanwhile

end BleMouse.Client
