/-
The references to connection objects.

The client takes references with `bt_conn_ref` and `bt_conn_lookup_addr_le` and gives them
back with `bt_conn_unref`.  It should hold one for `mouse_conn` and one for
`connected_event_conn`, each while it is set.  A second connection-complete event before the
worker has handled the first one overwrites `connected_event_conn`, and the reference of the
first is never given back (`Overwrites`).

* `references_balance`: the states of a run are all balanced exactly when the run has no such
  step.
* `second_event_leaks`: a run with such a step.
-/
import BleMouse.Client.Frame

namespace BleMouse.Client

open BleMouse.Hid BleMouse.Output

/-! ### Counting -/

/-- The references that an observation takes, of the connections with a property. -/
def Obs.references (p : Conn → Bool) : Obs → ℤ
  | .lookup _ (some c) => if p c then 1 else 0
  | .ref c => if p c then 1 else 0
  | .unref c => if p c then -1 else 0
  | _ => 0

/-- A variable that holds a reference while it is set. -/
def heldBy (p : Conn → Bool) : Option Conn → ℤ
  | some c => if p c then 1 else 0
  | none => 0

namespace State

variable (p : Conn → Bool) (s : State)

/-- The references taken and not given back. -/
def references : ℤ := (s.journal.map (Obs.references p)).sum

/-- The references that the variables account for. -/
def held : ℤ := heldBy p s.mouseConn + heldBy p s.connectedEventConn

/-- The references that no variable accounts for. -/
def excess : ℤ := s.references p - s.held p

/-- The references are those of the variables. -/
def Balanced : Prop := s.references (fun _ => true) = s.held (fun _ => true)

instance : Decidable s.Balanced := inferInstanceAs (Decidable (_ = _))

variable {p s}

lemma references_observe (o : Obs) :
    (s.observe o).references p = s.references p + o.references p := by
  simp [references, observe]

lemma excess_observe (o : Obs) : (s.observe o).excess p = s.excess p + o.references p := by
  have hheld : (s.observe o).held p = s.held p := rfl
  rw [excess, references_observe, hheld, excess]
  ring

/-- An observation that takes no reference and gives none back. -/
lemma excess_observe_zero {o : Obs} (ho : o.references p = 0) :
    (s.observe o).excess p = s.excess p := by
  rw [excess_observe, ho, add_zero]

lemma balanced_iff : s.Balanced ↔ s.excess (fun _ => true) = 0 := by
  rw [Balanced, excess, sub_eq_zero]

/-! ### The functions that leave the references alone -/

lemma excess_submit (w : Work) : (s.submit w).excess p = s.excess p := rfl

lemma excess_fail (err : ℤ) : (s.fail err).excess p = s.excess p := rfl

lemma excess_outputDisconnect : s.outputDisconnect.excess p = s.excess p := excess_observe_zero rfl

lemma excess_unpair (addr : Addr) (err : ℤ) : (s.unpair addr err).excess p = s.excess p :=
  excess_observe_zero rfl

lemma excess_stopOwnScan (answer : ℤ) : (s.stopOwnScan answer).1.excess p = s.excess p := by
  unfold stopOwnScan
  split
  · rfl
  · dsimp only
    split
    · exact excess_observe_zero rfl
    · exact excess_observe_zero rfl

lemma excess_scanWorkCb (a : Answers) : (s.scanWorkCb a).excess p = s.excess p := by
  have hstop (t : State) (answer : ℤ) (delay : ℕ) :
      ((t.stopOwnScan answer).1.schedule .scan delay).excess p = t.excess p :=
    excess_stopOwnScan answer
  unfold scanWorkCb
  dsimp only
  split_ifs
  · rfl
  · exact hstop s _ _
  · exact excess_stopOwnScan _
  · rfl
  · exact excess_observe_zero rfl
  · rw [hstop]
    exact excess_observe_zero rfl
  · exact excess_observe_zero rfl

lemma excess_centralConnect (addr : Addr) : (s.centralConnect addr).excess p = s.excess p := by
  unfold centralConnect
  split
  · rfl
  · exact excess_observe_zero rfl

lemma excess_connectionChanged (scanStop : ℤ) :
    (s.connectionChanged scanStop).excess p = s.excess p :=
  excess_stopOwnScan (s := { s with splitSettling := true }) scanStop

lemma excess_retryWorkCb : s.retryWorkCb.excess p = s.excess p := by
  unfold retryWorkCb
  dsimp only
  split
  · exact excess_centralConnect _
  · rfl

lemma excess_requestRetry : s.requestRetry.excess p = s.excess p := rfl

lemma excess_forgetPeer (a : Answers) : (s.forgetPeer a).excess p = s.excess p := by
  have hforgotten (t : State) : t.forgotten.excess p = t.excess p := excess_outputDisconnect
  unfold forgetPeer
  dsimp only
  split_ifs
  · exact excess_unpair _ _
  · rw [hforgotten]
    exact (excess_observe_zero rfl).trans (excess_unpair _ _)
  · exact hforgotten _

lemma excess_forgetIfRequested (a : Answers) : (s.forgetIfRequested a).excess p = s.excess p := by
  unfold forgetIfRequested
  split
  · exact excess_forgetPeer a
  · rfl

lemma excess_timeoutWorkCb : s.timeoutWorkCb.excess p = s.excess p := by
  unfold timeoutWorkCb
  split
  · exact excess_fail _
  · rfl

lemma excess_pairTimeoutCb : s.pairTimeoutCb.excess p = s.excess p := by
  unfold pairTimeoutCb
  dsimp only
  rw [excess_retryWorkCb]
  split
  · exact excess_fail _
  · rfl

lemma excess_pairWorkCb (maxPaired : ℕ) : (s.pairWorkCb maxPaired).excess p = s.excess p := by
  unfold pairWorkCb
  split_ifs
  · rfl
  · exact excess_retryWorkCb
  · rfl
  · exact excess_retryWorkCb

lemma excess_clearWorkCb (a : Answers) : (s.clearWorkCb a).excess p = s.excess p := by
  unfold clearWorkCb
  dsimp only
  split_ifs
  · rfl
  · exact excess_fail _
  · exact excess_forgetPeer a

lemma excess_zmkBleMouseAdvertisement (addr : Addr) (type : AdvType) (data : List BtData)
    (now : BitVec 32) :
    (s.zmkBleMouseAdvertisement addr type data now).1.excess p = s.excess p := by
  unfold zmkBleMouseAdvertisement
  dsimp only
  split_ifs
  · rfl
  · rfl
  · exact excess_centralConnect _
  · rfl
  · rfl
  · exact excess_centralConnect _
  · rfl

/-! ### Discovery -/

lemma excess_startRequest (c : Conn) (request : Request) (answer : ℤ) :
    (s.startRequest c request answer).excess p = s.excess p := by
  unfold startRequest
  dsimp only
  split <;> exact excess_observe_zero rfl

lemma excess_discoverCb (c : Conn) (attr : Option Attr) :
    (s.discoverCb c attr).1.excess p = s.excess p := by
  unfold discoverCb
  split
  · rfl
  · split
    · show s.discoverEnd.excess p = s.excess p
      unfold discoverEnd
      split
      case h_2 => split <;> rfl
      all_goals rfl
    · split
      case h_2 =>
        unfold discoverCharacteristic
        dsimp only
        split
        case h_4 => split <;> rfl
        all_goals rfl
      all_goals rfl

lemma excess_readCb (c : Conn) (err : ℕ) (data : Option (List UInt8)) :
    (s.readCb c err data).1.excess p = s.excess p := by
  unfold readCb
  split
  · rfl
  · split
    · rfl
    · dsimp only
      split
      case h_1 =>
        show (s.readReportMap data).excess p = s.excess p
        unfold readReportMap
        split
        · split <;> rfl
        · rfl
      case h_2 =>
        show (s.readReference data).excess p = s.excess p
        unfold readReference
        split
        · split <;> rfl
        · split <;> rfl
      case h_3 => rfl

lemma excess_notifyCb (c : Conn) (i : ℕ) (data : Option (List UInt8)) :
    (s.notifyCb c i data).excess p = s.excess p := by
  unfold notifyCb
  split
  · rfl
  · split
    · rfl
    · split
      · rfl
      · split
        · exact excess_observe_zero rfl
        · rfl

lemma excess_subscribedCb (c : Conn) (err i : ℕ) :
    (s.subscribedCb c err i).excess p = s.excess p := by
  unfold subscribedCb
  split_ifs <;> rfl

lemma excess_writtenCb (c : Conn) (err : ℕ) : (s.writtenCb c err).excess p = s.excess p := by
  unfold writtenCb
  split_ifs <;> rfl

lemma excess_finished (continues : Bool) (c : Conn) (request : Request) (err : ℕ) :
    (s.finished continues c request err).excess p = s.excess p := by
  unfold finished
  split
  · rfl
  · exact excess_observe_zero rfl

lemma excess_finishReady (c : Conn) (a : Answers) : (s.finishReady c a).excess p = s.excess p := by
  have hsaved : (s.observe (.save c.dst a.save)).excess p = s.excess p := excess_observe_zero rfl
  unfold finishReady
  dsimp only
  split_ifs
  · rfl
  · rfl
  · exact hsaved
  · exact (excess_observe_zero rfl).trans hsaved
  · rfl

lemma excess_readReferences (c : Conn) (a : Answers) :
    (s.readReferences c a).excess p = s.excess p := by
  have hnext (t : State) : (t.readNextReference c a).excess p = t.excess p := by
    unfold readNextReference
    dsimp only
    split
    · rfl
    · exact excess_startRequest _ _ _
  unfold readReferences
  split
  · split
    · rfl
    · dsimp only
      split
      · rfl
      · exact hnext _
  · exact hnext _

lemma excess_selectProtocol (c : Conn) (a : Answers) :
    (s.selectProtocol c a).excess p = s.excess p := by
  have hset (t : State) : (t.setProtocol c a).excess p = t.excess p := by
    unfold setProtocol
    dsimp only
    split_ifs
    · rfl
    · exact excess_observe_zero rfl
    · exact excess_observe_zero rfl
    · exact excess_startRequest _ _ _
  unfold selectProtocol
  dsimp only
  split_ifs
  · exact excess_observe_zero rfl
  · exact (hset _).trans (excess_observe_zero rfl)
  · exact hset _

lemma excess_discoveryWorkCb (a : Answers) : (s.discoveryWorkCb a).excess p = s.excess p := by
  unfold discoveryWorkCb
  split
  case h_1 => rfl
  case h_2 c _ =>
    split
    · rfl
    · split
      case h_5 => exact excess_readReferences c a
      case h_6 => exact excess_selectProtocol c a
      case h_7 =>
        unfold subscribeNext
        dsimp only
        split
        · split
          · rfl
          · exact excess_startRequest _ _ _
        · split
          · exact excess_finishReady c a
          · rfl
      case h_8 => rfl
      all_goals exact excess_startRequest _ _ _

/-! ### The functions that take and give back references -/

lemma excess_releaseEvent : s.releaseEvent.excess p = s.excess p := by
  unfold releaseEvent
  split
  case h_1 c hc =>
    have hheld : s.held p = heldBy p s.mouseConn + heldBy p (some c) := by rw [held, hc]
    rw [excess_observe]
    show s.references p - (heldBy p s.mouseConn + 0) + (if p c then -1 else 0) = s.excess p
    rw [excess, hheld, heldBy]
    split <;> ring
  case h_2 => rfl

/-- The reference of `mouse_conn` is given back. -/
lemma excess_closeAttempt {c : Conn} (hc : s.mouseConn = some c) :
    (s.observe (.unref c)).closeAttempt.excess p = s.excess p := by
  have hheld : s.held p = heldBy p (some c) + heldBy p s.connectedEventConn := by rw [held, hc]
  have hended : (s.observe (.unref c)).closeAttempt.excess p =
      (s.observe (.unref c)).references p - (0 + heldBy p s.connectedEventConn) + 0 :=
    excess_observe _
  rw [hended, references_observe, excess, hheld]
  show s.references p + (if p c then -1 else 0) - (0 + heldBy p s.connectedEventConn) + 0 =
    s.references p - ((if p c then 1 else 0) + heldBy p s.connectedEventConn)
  split <;> ring

lemma excess_hungUp {c : Conn} (hc : s.mouseConn = some c) (a : Answers) :
    (s.hungUp c a).excess p = s.excess p := by
  unfold hungUp
  dsimp only
  rw [excess_requestRetry, excess_forgetIfRequested, excess_outputDisconnect]
  exact excess_closeAttempt hc

lemma excess_disconnectedWorkCb (a : Answers) :
    (s.disconnectedWorkCb a).excess p = s.excess p := by
  rcases s.disconnectedWorkCb_cases a with ⟨-, heq⟩ | ⟨c, t, hc, ht, heq⟩
  · rw [heq]
  · have hoff : (s.observe (.autoConnOff c.dst)).excess p = s.excess p := excess_observe_zero rfl
    rw [heq]
    cases ht with
    | kept =>
      have hc' : (s.observe (.autoConnOff c.dst)).mouseConn = some c := hc
      exact (excess_hungUp hc' a).trans hoff
    | unpaired =>
      have hc' : ((s.observe (.autoConnOff c.dst)).unpair c.dst a.unpairCandidate).mouseConn =
        some c := hc
      exact (excess_hungUp hc' a).trans ((excess_unpair _ _).trans hoff)

lemma excess_failureWorkCb (a : Answers) : (s.failureWorkCb a).excess p = s.excess p := by
  unfold failureWorkCb
  split
  case h_1 c _ =>
    dsimp only
    split
    · rw [excess_disconnectedWorkCb]
      exact excess_observe_zero rfl
    · exact excess_observe_zero rfl
  case h_2 => rfl

lemma excess_completeConnection (a : Answers) :
    (s.completeConnection a).excess p = s.excess p := by
  unfold completeConnection
  split
  case h_1 => rfl
  case h_2 c hc =>
    have hoff : (s.observe (.autoConnOff c.dst)).scanRefresh.excess p = s.excess p :=
      excess_observe_zero rfl
    have hc' : (s.observe (.autoConnOff c.dst)).scanRefresh.mouseConn = some c := hc
    dsimp only
    generalize (s.observe (.autoConnOff c.dst)).scanRefresh = t at hoff hc' ⊢
    rw [← hoff]
    split_ifs
    · rw [excess_requestRetry, excess_forgetIfRequested]
      exact excess_closeAttempt hc'
    · rfl
    · exact excess_observe_zero rfl
    · exact excess_observe_zero rfl
    · exact excess_observe_zero rfl

lemma excess_connectMouse (maxPaired : ℕ) (addr : Addr) (a : Answers) :
    (s.connectMouse maxPaired addr a).1.excess p = s.excess p := by
  unfold connectMouse
  dsimp only
  split_ifs
  · rfl
  · rfl
  · rfl
  · rfl
  · rfl
  · exact excess_observe_zero rfl

lemma excess_connectWorkBegin (maxPaired : ℕ) (a : Answers) :
    (s.connectWorkBegin maxPaired a).excess p = s.excess p := by
  have hreturned (t : State) (err : ℤ) : (t.connectReturned err).excess p = t.excess p := by
    unfold connectReturned
    dsimp only
    split <;> rfl
  have hstopped : (s.stopOwnScan a.scanStop).1.excess p = s.excess p := excess_stopOwnScan _
  have hobserved : ((s.stopOwnScan a.scanStop).1.observe
      (.connect (s.stopOwnScan a.scanStop).1.pendingAddress)).excess p = s.excess p :=
    (excess_observe_zero rfl).trans hstopped
  unfold connectWorkBegin
  dsimp only
  split_ifs
  · rw [hreturned, hstopped]
  · rw [excess_connectMouse, hobserved]
  · rw [hreturned, excess_connectMouse, hobserved]

/-- The reference taken by the lookup is that of `mouse_conn`. -/
lemma excess_connectWorkEnd (hconn : s.mouseConn = none) (a : Answers) :
    (s.connectWorkEnd a).excess p = s.excess p := by
  have hreturned (t : State) (err : ℤ) : (t.connectReturned err).excess p = t.excess p := by
    unfold connectReturned
    dsimp only
    split <;> rfl
  have hlookup : (State.observe { s with mouseConn := a.lookup, inConnect := false }
      (.lookup s.pendingAddress a.lookup)).excess p = s.excess p := by
    have hheld : s.held p = 0 + heldBy p s.connectedEventConn := by rw [held, hconn, heldBy]
    rw [excess_observe]
    show s.references p - (heldBy p a.lookup + heldBy p s.connectedEventConn) +
      Obs.references p (.lookup s.pendingAddress a.lookup) = s.excess p
    rw [excess, hheld]
    cases a.lookup with
    | none =>
      show s.references p - (0 + heldBy p s.connectedEventConn) + 0 = _
      ring
    | some c =>
      show s.references p - ((if p c then 1 else 0) + heldBy p s.connectedEventConn) +
        (if p c then 1 else 0) = _
      split <;> ring
  unfold connectWorkEnd connectMouseLookup
  dsimp only
  split
  · rw [hreturned, excess_requestRetry, ← hlookup]
    exact excess_observe_zero rfl
  · rw [hreturned]
    exact hlookup

/-- The client takes the event for one of its connection. -/
def Accepts (c : Conn) : Prop :=
  (s.owns c || (decide (s.stage = .connecting) && decide (c.dst = s.connectingAddress))) = true

instance (c : Conn) : Decidable (s.Accepts c) := inferInstanceAs (Decidable (_ = _))

/-- An accepted event overwrites `connected_event_conn`. -/
lemma excess_connectedCb (c : Conn) (err : ℕ) :
    (s.connectedCb c err).excess p =
      s.excess p + if s.Accepts c then heldBy p s.connectedEventConn else 0 := by
  unfold connectedCb
  by_cases haccepts : s.Accepts c
  · have hcond := haccepts
    unfold Accepts at hcond
    rw [if_pos haccepts, if_pos hcond, excess_submit, excess_observe]
    show s.references p - (heldBy p s.mouseConn + (if p c then 1 else 0)) +
      (if p c then 1 else 0) = s.references p - (heldBy p s.mouseConn + _) + _
    ring
  · have hcond := haccepts
    unfold Accepts at hcond
    rw [if_neg haccepts, if_neg hcond, add_zero]

/-! ### Steps and runs -/

lemma excess_run (maxPaired : ℕ) (w : Work) (a : Answers)
    (hconn : w = .connect → s.mouseConn = none) :
    (s.run maxPaired w a).excess p = s.excess p := by
  cases w with
  | discovery => exact excess_discoveryWorkCb a
  | failure => exact excess_failureWorkCb a
  | retry => exact excess_retryWorkCb
  | timeout => exact excess_timeoutWorkCb
  | pairTimeout => exact excess_pairTimeoutCb
  | connected => exact (excess_completeConnection a).trans excess_releaseEvent
  | disconnected => exact excess_disconnectedWorkCb a
  | pair => exact excess_pairWorkCb maxPaired
  | clear => exact excess_clearWorkCb a
  | scan => exact excess_scanWorkCb a
  | connect =>
    show (s.connectWorkCb maxPaired a).excess p = s.excess p
    unfold connectWorkCb
    dsimp only
    split
    · rw [excess_connectWorkEnd (connectWorkBegin_mouseConn maxPaired (hconn rfl) a)]
      exact excess_connectWorkBegin maxPaired a
    · exact excess_connectWorkBegin maxPaired a
  | settle => rfl
  | output => rfl

lemma excess_take (w : Work) (rest : List Work) : (s.take w rest).excess p = s.excess p :=
  excess_observe_zero rfl

/-- An accepted connection-complete event that finds `connected_event_conn` set. -/
def Overwrites (s : State) : Label → Prop
  | .connected c _ => s.Accepts c ∧ s.connectedEventConn ≠ none
  | _ => False

instance (l : Label) : Decidable (s.Overwrites l) := by
  induction l using Label.casesOn <;> unfold Overwrites <;> infer_instance

/-- Every other step leaves the references accounted for as they are. -/
lemma excess_step {maxPaired : ℕ} {s' : State} {l : Label} (hs : Coherent s)
    (hstep : Step maxPaired s l s') (hno : ¬s.Overwrites l) : s'.excess p = s.excess p := by
  obtain ⟨-, hstep⟩ := hstep
  have hconnect {rest : List Work} (hq : s.work.queue = .connect :: rest) :
      s.mouseConn = none := by
    by_contra hconn
    exact (hs.connect (hq ▸ List.mem_cons_self)).1 (.inl hconn)
  cases moves_of_step hstep with
  | @work a w rest _ hq =>
    refine (excess_run maxPaired w a ?_).trans (excess_take w rest)
    rintro rfl
    exact hconnect hq
  | @connectBegin a => exact (excess_connectWorkBegin maxPaired a).trans (excess_take _ _)
  | @connectEnd a hin => exact excess_connectWorkEnd (hs.gap hin).1 a
  | expire => rfl
  | connected c err =>
    have hobserved : (s.observe (.connected c err)).excess p = s.excess p := excess_observe_zero rfl
    rw [excess_connectedCb, hobserved]
    have hheld : s.Accepts c → s.connectedEventConn = none := fun haccepts => by
      by_contra hevent
      exact hno ⟨haccepts, hevent⟩
    split
    case isTrue haccepts =>
      have hnone : (s.observe (.connected c err)).connectedEventConn = none := hheld haccepts
      rw [hnone]
      exact add_zero _
    case isFalse => exact add_zero _
  | disconnected c =>
    unfold disconnectedCb
    split <;> exact excess_observe_zero rfl
  | connectionChanged scanStop => exact excess_connectionChanged scanStop
  | securityChanged c level err =>
    unfold securityCb
    split_ifs <;> rfl
  | pairingComplete c bonded =>
    unfold pairingCompleteCb
    dsimp only
    split_ifs <;> exact excess_observe_zero rfl
  | pairingFailed c =>
    unfold pairingFailedCb
    split <;> rfl
  | discovered c type start stop attr =>
    exact (excess_finished _ _ _ _).trans (excess_discoverCb c attr)
  | readDone c handle err data => exact (excess_finished _ _ _ _).trans (excess_readCb c err data)
  | written c handle value err => exact (excess_finished _ _ _ _).trans (excess_writtenCb c err)
  | subscribed c i value ccc err =>
    exact (excess_finished _ _ _ _).trans (excess_subscribedCb c err i)
  | notified c i data => exact excess_notifyCb c i data
  | advertisement addr type data now => exact excess_zmkBleMouseAdvertisement addr type data now
  | pair =>
    unfold zmkBleMousePair
    split <;> rfl
  | clearHold pressed =>
    unfold zmkBleMouseClearHold
    dsimp only
    split <;> exact excess_observe_zero rfl
  | settings name length contents result =>
    unfold settingsSet
    dsimp only
    split_ifs <;> exact excess_observe_zero rfl
  | start =>
    unfold zmkBleMouseStart
    split <;> rfl

/-- The reference of the overwritten event is lost. -/
lemma excess_step_overwrites {maxPaired : ℕ} {s' : State} {l : Label}
    (hstep : Step maxPaired s l s') (hoverwrites : s.Overwrites l) :
    ∃ c, s.connectedEventConn = some c ∧ s'.excess p = s.excess p + heldBy p (some c) := by
  obtain ⟨-, hstep⟩ := hstep
  cases l with
  | connected c err =>
    obtain ⟨haccepts, hevent⟩ := hoverwrites
    obtain ⟨c', hc'⟩ := Option.ne_none_iff_exists'.1 hevent
    cases hstep
    refine ⟨c', hc', ?_⟩
    have hobserved : (s.observe (.connected c err)).excess p = s.excess p := excess_observe_zero rfl
    have haccepts' : (s.observe (.connected c err)).Accepts c := haccepts
    have hc'' : (s.observe (.connected c err)).connectedEventConn = some c' := hc'
    rw [excess_connectedCb, hobserved, if_pos haccepts', hc'']
  | _ => exact absurd hoverwrites id

end State

lemma excess_init (bonds : List Addr) (p : Conn → Bool) : (State.init bonds).excess p = 0 := rfl

/-- The references of a run without such an event are those of the variables. -/
lemma run_excess {maxPaired : ℕ} {bonds : List Addr} {labels : List Label} {t : State}
    (ht : Transition.Visits (Step maxPaired) (State.init bonds) labels t)
    (hgood : ∀ t l t', Transition.Takes (Step maxPaired) (State.init bonds) labels t l t' →
      ¬t.Overwrites l) (p : Conn → Bool) : t.excess p = 0 := by
  have hinv : Coherent t ∧ t.excess p = 0 := by
    refine Transition.Run.invariant_unless ht (fun t => Coherent t ∧ t.excess p = 0)
      State.Overwrites ⟨coherent_init bonds, excess_init bonds p⟩ ?_ hgood
    rintro t l t' ⟨hs, h⟩ hstep hno
    exact ⟨hs.step hstep, (State.excess_step hs hstep hno).trans h⟩
  exact hinv.2

/-- **Connection references balance**, in all states that a run passes through, exactly when
no accepted connection-complete event finds `connected_event_conn` set.  Then they balance for
every connection by itself. -/
theorem references_balance (maxPaired : ℕ) (bonds : List Addr) (labels : List Label) :
    ((∀ t, Transition.Visits (Step maxPaired) (State.init bonds) labels t → t.Balanced) ↔
      ∀ t l t', Transition.Takes (Step maxPaired) (State.init bonds) labels t l t' →
        ¬t.Overwrites l) ∧
    ((∀ t l t', Transition.Takes (Step maxPaired) (State.init bonds) labels t l t' →
        ¬t.Overwrites l) →
      ∀ t, Transition.Visits (Step maxPaired) (State.init bonds) labels t →
        ∀ c, t.references (fun d => decide (d = c)) = t.held (fun d => decide (d = c))) := by
  refine ⟨⟨?_, ?_⟩, ?_⟩
  · rintro hbalanced t l t' ⟨before, hprefix, hrun, hstep⟩ hoverwrites
    have ht := State.balanced_iff.1
      (hbalanced t ⟨before, (List.prefix_append _ _).trans hprefix, hrun⟩)
    have ht' := State.balanced_iff.1 (hbalanced t' ⟨before ++ [l], hprefix, hrun.snoc hstep⟩)
    obtain ⟨c, -, hlost⟩ := State.excess_step_overwrites (p := fun _ => true) hstep hoverwrites
    rw [ht, ht'] at hlost
    simp [heldBy] at hlost
  · exact fun hgood t ht => State.balanced_iff.2 (run_excess ht hgood _)
  · exact fun hgood t ht c => sub_eq_zero.1 (run_excess ht hgood _)

/-- A failed and a successful connection-complete event of one attempt before the worker runs
(0x3e, `BT_HCI_ERR_CONN_FAIL_TO_ESTAB`). -/
def secondEvent (c : Conn) : List Label :=
  [.start, .pair, .work {}, .work {}, .work {},
    .advertisement c.dst .advInd [(9, [0x4d, 0x37, 0x32, 0x30])] 0,
    .work { lookup := some c }, .connected c 0x3e, .connected c 0]

/-- After them a reference is lost. -/
theorem second_event_leaks :
    ∃ s, Run 8 (State.init []) (secondEvent ⟨1, ⟨1, 0x112233445566⟩⟩) s ∧ ¬s.Balanced := by
  obtain ⟨s, hrun, hlost⟩ := exists_run 8 (State.init []) (secondEvent ⟨1, ⟨1, 0x112233445566⟩⟩)
    (fun s => decide ¬s.Balanced) (by decide +kernel)
  exact ⟨s, hrun, of_decide_eq_true hlost⟩

end BleMouse.Client
