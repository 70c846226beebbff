/-
Attempts and the work that acts on them.

Work items carry no identity of the attempt they are meant for.  Still, an item that fails,
completes or ends an attempt was submitted on behalf of the attempt that is under way when it
runs: such an item is never pending when an attempt begins, because `connect_work` begins it
and waits behind every item that was submitted before.

* `Uneventful`: no attempt begins, and nothing is registered;
* `attempts_step`: what a step that begins an attempt finds;
* `no_stale_work`: the main result.
-/
import BleMouse.Client.Frame

namespace BleMouse.Client

open BleMouse.Hid BleMouse.Output

/-! ### Beginnings and registrations -/

/-- The observations that neither begin an attempt nor register a peer. -/
def Obs.Passive : Obs → Prop
  | .attempt .. | .registered _ => False
  | .save _ err => err ≠ 0
  | _ => True

/-- No attempt begins, and nothing is registered. -/
def Uneventful (s s' : State) : Prop :=
  ∃ new, s'.journal = s.journal ++ new ∧ ∀ o ∈ new, o.Passive

lemma Obs.Quiet.passive {o : Obs} (h : o.Quiet) : o.Passive := by
  cases o with
  | attempt | registered | save => exact h.elim
  | _ => trivial

lemma Obs.Procedural.passive {o : Obs} (h : o.Procedural) : o.Passive := by
  rcases h with h | ⟨c, r, err, rfl⟩ | ⟨c, r, err, rfl⟩ | ⟨addr, err, herr, rfl⟩
  · exact h.passive
  · trivial
  · trivial
  · exact herr

lemma Explores.uneventful {s s' : State} (h : Explores s s') : Uneventful s s' :=
  Journal.Grows.mono h.journal fun _ => Obs.Procedural.passive

lemma Background.uneventful {s s' : State} (h : Background s s') : Uneventful s s' :=
  h.explores.uneventful

namespace Uneventful

variable {s s' s'' : State}

lemma refl (s : State) : Uneventful s s := (Background.refl s).uneventful

lemma trans (h : Uneventful s s') (h' : Uneventful s' s'') : Uneventful s s'' :=
  Journal.Grows.trans h h'

lemma observe (h : Uneventful s s') (o : Obs) (ho : o.Passive) : Uneventful s (s'.observe o) := by
  refine h.trans ⟨[o], rfl, ?_⟩
  rintro o' ho'
  obtain rfl := List.mem_singleton.1 ho'
  exact ho

/-! ### The ends of an attempt -/

lemma requestRetry (h : Uneventful s s') : Uneventful s s'.requestRetry :=
  h.trans (Background.refl s').requestRetry.uneventful

lemma forgotten (h : Uneventful s s') : Uneventful s s'.forgotten :=
  h.observe .outputDisconnect trivial

lemma forgetPeer (h : Uneventful s s') (a : Answers) : Uneventful s (s'.forgetPeer a) := by
  have hunpaired := h.observe (.unpair s'.peer (s'.havePeer && decide (s'.peer = s'.peer))
    a.unpairPeer) trivial
  unfold State.forgetPeer
  dsimp only
  split_ifs
  · exact hunpaired
  · have hdeleted := hunpaired.observe (.delete a.delete) trivial
    exact hdeleted.forgotten
  · exact h.forgotten

lemma forgetIfRequested (h : Uneventful s s') (a : Answers) :
    Uneventful s (s'.forgetIfRequested a) := by
  unfold State.forgetIfRequested
  split
  · exact h.forgetPeer a
  · exact h

lemma closeAttempt (h : Uneventful s s') (c : Conn) :
    Uneventful s (s'.observe (.unref c)).closeAttempt :=
  (h.observe (.unref c) trivial).observe .ended trivial

lemma hungUp (h : Uneventful s s') (c : Conn) (a : Answers) : Uneventful s (s'.hungUp c a) := by
  have houtput : Uneventful s ({ (s'.observe (.unref c)).closeAttempt with
      candidateBonded := false } : State).outputDisconnect :=
    (h.closeAttempt c).observe .outputDisconnect trivial
  exact (houtput.forgetIfRequested a).requestRetry

lemma disconnectedWorkCb (h : Uneventful s s') (a : Answers) :
    Uneventful s (s'.disconnectedWorkCb a) := by
  rcases s'.disconnectedWorkCb_cases a with ⟨-, heq⟩ | ⟨c, t, -, ht, heq⟩
  · rw [heq]
    exact h
  · have hoff := h.observe (.autoConnOff c.dst) trivial
    rw [heq]
    cases ht with
    | kept => exact hoff.hungUp c a
    | unpaired =>
      have hunpaired : Uneventful s
          ((s'.observe (.autoConnOff c.dst)).unpair c.dst a.unpairCandidate) :=
        hoff.observe _ trivial
      exact hunpaired.hungUp c a

lemma failureWorkCb (a : Answers) : Uneventful s (s.failureWorkCb a) := by
  unfold State.failureWorkCb
  split
  case h_1 c _ =>
    have hs : Uneventful s (({ s with stage := .closing, scanWanted := false } :
        State).observe (.disconnect c a.disconnect)) := (refl s).observe _ trivial
    dsimp only
    split
    · exact hs.disconnectedWorkCb a
    · exact hs
  case h_2 =>
    have hs : Uneventful s { s with stage := .idle, scanWanted := false, failure := 0 } := refl s
    exact hs.requestRetry

lemma connectedWorkCb (a : Answers) : Uneventful s (s.connectedWorkCb a) := by
  have hreleased := (Background.refl s).releaseEvent.uneventful
  unfold State.connectedWorkCb State.completeConnection
  split
  case h_1 => exact hreleased
  case h_2 c _ =>
    have hs : Uneventful s (s.releaseEvent.observe (.autoConnOff c.dst)).scanRefresh :=
      hreleased.observe (.autoConnOff c.dst) trivial
    dsimp only
    generalize (s.releaseEvent.observe (.autoConnOff c.dst)).scanRefresh = t at hs ⊢
    have hsecured : Uneventful s (State.observe { t with stage := .security }
        (.setSecurity c a.setSecurity)) := hs.observe _ trivial
    split_ifs
    · exact ((hs.closeAttempt c).forgetIfRequested a).requestRetry
    · exact hs
    · exact hsecured
    · exact hsecured
    · exact hsecured

lemma clearWorkCb (a : Answers) : Uneventful s (s.clearWorkCb a) := by
  have hs : Uneventful s
      { s with pairing := false, scanWanted := false, forgetRequested := true } := refl s
  unfold State.clearWorkCb
  dsimp only
  split_ifs
  · exact refl s
  · exact hs
  · exact hs.forgetPeer a

lemma connectWorkEnd (a : Answers) : Uneventful s (s.connectWorkEnd a) := by
  have hs : Uneventful s (State.observe { s with mouseConn := a.lookup, inConnect := false }
      (.lookup s.pendingAddress a.lookup)) := (refl s).observe _ trivial
  unfold State.connectWorkEnd State.connectMouseLookup
  dsimp only
  split
  · have hoff := hs.observe (.autoConnOff s.pendingAddress) trivial
    exact (requestRetry hoff).trans ((Background.refl _).connectReturned _).uneventful
  · exact hs.trans ((Background.refl _).connectReturned _).uneventful

/-! ### Callbacks and keys -/

lemma take (w : Work) (rest : List Work) : Uneventful s (s.take w rest) :=
  (refl s).observe (.ran w) trivial

lemma connectedCb (c : Conn) (err : ℕ) :
    Uneventful s ((s.observe (.connected c err)).connectedCb c err) := by
  have hs := (refl s).observe (.connected c err) trivial
  unfold State.connectedCb
  split
  · exact hs.observe (.ref c) trivial
  · exact hs

lemma disconnectedCb (c : Conn) :
    Uneventful s ((s.observe (.disconnected c)).disconnectedCb c) := by
  have hs := (refl s).observe (.disconnected c) trivial
  unfold State.disconnectedCb
  split <;> exact hs

lemma pairingCompleteCb (c : Conn) (bonded : Bool) :
    Uneventful s ((s.observe (.pairingComplete c bonded)).pairingCompleteCb c bonded) := by
  have hs := (refl s).observe (.pairingComplete c bonded) trivial
  unfold State.pairingCompleteCb
  dsimp only
  split_ifs <;> exact hs

lemma zmkBleMouseClearHold (pressed : Bool) :
    Uneventful s ((s.observe (.clearKey pressed)).zmkBleMouseClearHold pressed) := by
  have hs := (refl s).observe (.clearKey pressed) trivial
  unfold State.zmkBleMouseClearHold
  dsimp only
  split <;> exact hs

lemma settingsSet (name : String) (length : ℕ) (contents : Addr) (result : ℤ) :
    Uneventful s ((s.observe (.load name length contents result)).settingsSet name length contents
      result).1 := by
  have hs := (refl s).observe (.load name length contents result) trivial
  unfold State.settingsSet
  dsimp only
  split_ifs <;> exact hs

lemma zmkBleMouseStart : Uneventful s s.zmkBleMouseStart := by
  unfold State.zmkBleMouseStart
  split <;> exact refl s

end Uneventful

/-! ### The beginning of an attempt -/

/-- The number of attempts begun so far. -/
def State.attempts (s : State) : ℕ := s.journal.countP fun
  | .attempt .. => true
  | _ => false

lemma Uneventful.attempts {s s' : State} (h : Uneventful s s') : s'.attempts = s.attempts := by
  obtain ⟨new, heq, hnew⟩ := h
  rw [State.attempts, heq, List.countP_append, ← State.attempts, Nat.add_eq_left,
    List.countP_eq_zero]
  rintro o ho
  have hpassive := hnew o ho
  cases o with
  | attempt => exact hpassive.elim
  | _ => simp

/-- A connection attempt begins: scanning was wanted, and there is no failure. -/
structure Begins (s s' : State) : Prop where
  wanted : s.scanWanted = true
  attempts : s'.attempts = s.attempts + 1
  failure : s'.failure = 0

namespace Begins

variable {s s' s'' : State}

lemma after (h : Uneventful s s') (hwanted : s'.scanWanted = s.scanWanted)
    (h' : Begins s' s'') : Begins s s'' :=
  ⟨hwanted.symm.trans h'.wanted, by rw [h'.attempts, h.attempts], h'.failure⟩

lemma connectMouse (maxPaired : ℕ) (hgap : s.inConnect = false) (addr : Addr) (a : Answers) :
    Uneventful s (s.connectMouse maxPaired addr a).1 ∧
        (s.connectMouse maxPaired addr a).1.inConnect = false ∨
      Begins s (s.connectMouse maxPaired addr a).1 := by
  have hquiet (t : State) (ht : t.journal = s.journal) : Uneventful s t :=
    ⟨[], by rw [ht, List.append_nil], fun o ho => absurd ho List.not_mem_nil⟩
  unfold State.connectMouse
  dsimp only
  split_ifs with hbusy
  · exact .inl ⟨hquiet _ rfl, hgap⟩
  · exact .inl ⟨hquiet _ rfl, hgap⟩
  · exact .inl ⟨hquiet _ rfl, hgap⟩
  · exact .inl ⟨hquiet _ rfl, hgap⟩
  · exact .inl ⟨hquiet _ rfl, hgap⟩
  · simp only [Bool.or_eq_true, Bool.not_eq_true', not_or, Bool.not_eq_false] at hbusy
    refine .inr ⟨hbusy.2, ?_, rfl⟩
    show (s.journal ++ [Obs.attempt addr !s.havePeer]).countP _ = _
    rw [List.countP_append]
    rfl

lemma connectWorkBegin (maxPaired : ℕ) (hgap : s.inConnect = false) (a : Answers) :
    Uneventful s (s.connectWorkBegin maxPaired a) ∧
        (s.connectWorkBegin maxPaired a).inConnect = false ∨
      Begins s (s.connectWorkBegin maxPaired a) := by
  have hreturned (t : State) (err : ℤ) : Background t (t.connectReturned err) :=
    (Background.refl t).connectReturned err
  have hstopped := (Background.refl s).stopOwnScan a.scanStop
  have hobserved := hstopped.observe (.connect (s.stopOwnScan a.scanStop).1.pendingAddress) trivial
  have hwanted : ((s.stopOwnScan a.scanStop).1.observe
      (.connect (s.stopOwnScan a.scanStop).1.pendingAddress)).scanWanted = s.scanWanted := by
    obtain ⟨scanOwned, journal, heq⟩ := s.stopOwnScan_eq a.scanStop
    rw [heq]
    rfl
  unfold State.connectWorkBegin
  dsimp only
  split
  case isTrue =>
    have hs := hstopped.trans (hreturned _ (s.stopOwnScan a.scanStop).2)
    exact .inl ⟨hs.uneventful, hs.inConnect.trans hgap⟩
  case isFalse =>
  generalize ((s.stopOwnScan a.scanStop).1.observe
    (.connect (s.stopOwnScan a.scanStop).1.pendingAddress)) = t at hobserved hwanted ⊢
  rcases connectMouse maxPaired (hobserved.inConnect.trans hgap)
    (s.stopOwnScan a.scanStop).1.pendingAddress a with ⟨hquiet, hidle⟩ | hbegins
  · rw [if_neg (by rw [hidle]; exact Bool.false_ne_true)]
    have hs := hreturned (t.connectMouse maxPaired (s.stopOwnScan a.scanStop).1.pendingAddress a).1
      (t.connectMouse maxPaired (s.stopOwnScan a.scanStop).1.pendingAddress a).2
    exact .inl ⟨(hobserved.uneventful.trans hquiet).trans hs.uneventful, hs.inConnect.trans hidle⟩
  · refine .inr (after hobserved.uneventful hwanted ?_)
    split
    · exact hbegins
    · have hs := hreturned (t.connectMouse maxPaired (s.stopOwnScan a.scanStop).1.pendingAddress
        a).1 (t.connectMouse maxPaired (s.stopOwnScan a.scanStop).1.pendingAddress a).2
      exact ⟨hbegins.wanted, hs.uneventful.attempts.trans hbegins.attempts,
        hs.failure.trans hbegins.failure⟩

lemma connectWorkEnd_failure (a : Answers) : (s.connectWorkEnd a).failure = s.failure := by
  have hreturned (t : State) (err : ℤ) : (t.connectReturned err).failure = t.failure :=
    ((Background.refl t).connectReturned err).failure
  unfold State.connectWorkEnd State.connectMouseLookup
  dsimp only
  split
  · rw [hreturned]
    rfl
  · rw [hreturned]
    rfl

lemma connectWorkCb (maxPaired : ℕ) (hgap : s.inConnect = false) (a : Answers) :
    Uneventful s (s.connectWorkCb maxPaired a) ∨ Begins s (s.connectWorkCb maxPaired a) := by
  unfold State.connectWorkCb
  dsimp only
  rcases connectWorkBegin maxPaired hgap a with ⟨hquiet, hidle⟩ | hbegins
  · rw [if_neg (by rw [hidle]; exact Bool.false_ne_true)]
    exact .inl hquiet
  · refine .inr ?_
    split
    · exact ⟨hbegins.wanted, (Uneventful.connectWorkEnd a).attempts.trans hbegins.attempts,
        (connectWorkEnd_failure a).trans hbegins.failure⟩
    · exact hbegins

end Begins

/-- The three kinds of steps: `connect_work` begins an attempt, `discovery_work` declares the
mouse ready, or neither happens. -/
inductive Happens (s : State) : Label → State → Prop
  | nothing {l : Label} {s' : State} (hquiet : Uneventful s s') : Happens s l s'
  | finish {a : Answers} {s' : State} {c : Conn} {rest : List Work} {index : ℕ}
      (hgap : s.inConnect = false) (hq : s.work.queue = .discovery :: rest)
      (hconn : s.mouseConn = some c) (hlive : s.Live) (hstage : s.stage = .subscriptions)
      (hfinishes : Finishes c
        { s.take .discovery rest with session := { s.session with index } } s') :
      Happens s (.work a) s'
  | begin {l : Label} {s' : State} {rest : List Work} (hgap : s.inConnect = false)
      (hq : s.work.queue = .connect :: rest) (hbegins : Begins s s') : Happens s l s'

lemma happens_run {maxPaired : ℕ} {s : State} (hs : Coherent s) (hgap : s.inConnect = false)
    {w : Work} {rest : List Work} (hq : s.work.queue = w :: rest) (a : Answers) :
    Happens s (.work a) ((s.take w rest).run maxPaired w a) := by
  have hmem : w ∈ s.work.queue := hq ▸ List.mem_cons_self
  have hinit : (s.take w rest).initialized = true := hs.initialized_of_mem hmem
  have htake := Uneventful.take (s := s) w rest
  have hrefl := Background.refl (s.take w rest)
  cases w with
  | discovery =>
    have hstage : (s.take .discovery rest).Live → (s.take .discovery rest).stage.Exploring :=
      fun hlive => ((hs.token hlive).discovery hmem).2
    rcases discoveryWorkCb_cases hinit hstage a with hexplores |
      ⟨c, index, hc, hlive, hsub, hfinishes⟩
    · exact .nothing (htake.trans hexplores.uneventful)
    · exact .finish hgap hq hc hlive hsub hfinishes
  | failure => exact .nothing (htake.trans (Uneventful.failureWorkCb a))
  | retry => exact .nothing (htake.trans hrefl.retryWorkCb.uneventful)
  | timeout => exact .nothing (htake.trans ((Explores.refl _).timeoutWorkCb hinit).uneventful)
  | pairTimeout =>
    exact .nothing (htake.trans ((Explores.refl _).pairTimeoutCb hinit).uneventful)
  | connected => exact .nothing (htake.trans (Uneventful.connectedWorkCb a))
  | disconnected =>
    exact .nothing (htake.trans ((Uneventful.refl _).disconnectedWorkCb a))
  | pair => exact .nothing (htake.trans (hrefl.pairWorkCb maxPaired).uneventful)
  | clear => exact .nothing (htake.trans (Uneventful.clearWorkCb a))
  | scan => exact .nothing (htake.trans (hrefl.scanWorkCb a).uneventful)
  | connect =>
    rcases Begins.connectWorkCb maxPaired (s := s.take .connect rest) hgap a with hquiet | hbegins
    · exact .nothing (htake.trans hquiet)
    · exact .begin hgap hq (Begins.after htake rfl hbegins)
  | settle => exact .nothing (htake.trans hrefl.settleWorkCb.uneventful)
  | output => exact .nothing htake

/-- Every step is of one of these kinds. -/
theorem happens_of_step {maxPaired : ℕ} {s s' : State} {l : Label} (hs : Coherent s)
    (hstep : Step maxPaired s l s') : Happens s l s' := by
  cases alters_of_step hs hstep with
  | explores he => exact .nothing he.uneventful
  | @work a w rest hgap hq => exact happens_run hs hgap hq a
  | @connectBegin a rest hgap hq =>
    have htake := Uneventful.take (s := s) .connect rest
    rcases Begins.connectWorkBegin maxPaired (s := s.take .connect rest) hgap a with
      ⟨hquiet, -⟩ | hbegins
    · exact .nothing (htake.trans hquiet)
    · exact .begin hgap hq (Begins.after htake rfl hbegins)
  | @connectEnd a => exact .nothing (Uneventful.connectWorkEnd a)
  | connected c err => exact .nothing (Uneventful.connectedCb c err)
  | disconnected c => exact .nothing (Uneventful.disconnectedCb c)
  | pairingComplete c bonded => exact .nothing (Uneventful.pairingCompleteCb c bonded)
  | clearHold pressed => exact .nothing (Uneventful.zmkBleMouseClearHold pressed)
  | settings name length contents result =>
    exact .nothing (Uneventful.settingsSet name length contents result)
  | start => exact .nothing Uneventful.zmkBleMouseStart

/-! ### No stale work -/

/-- The items that fail, complete or end the attempt under way. -/
def Work.Acts : Work → Prop
  | .failure | .connected | .disconnected | .timeout => True
  | _ => False

/-- None of them is pending when an attempt may begin. -/
lemma not_pending_of_connect {s : State} (hs : Coherent s) (hgap : s.inConnect = false)
    {rest : List Work} (hq : s.work.queue = .connect :: rest) {w : Work} (hw : w.Acts) :
    ¬s.work.Pending w := by
  have hidle := (hs.connect (hq ▸ List.mem_cons_self)).1
  have hnot := (hs.connecting_take hgap hq).noneLeft
  rintro (harmed | hqueue)
  · have hdelay := hs.timers w harmed
    cases w with
    | timeout => exact hidle (.inl (hs.timeout (.inl harmed)))
    | failure | connected | disconnected => exact hdelay
    | _ => exact hw
  · have hrest : w ∈ rest := by
      rw [hq] at hqueue
      rcases List.mem_cons.1 hqueue with rfl | hrest
      · exact hw.elim
      · exact hrest
    cases w with
    | timeout => exact hidle (.inl (hs.timeout (.inr hqueue)))
    | failure | connected | disconnected => exact hnot _ hrest trivial
    | _ => exact hw

lemma attempts_finish {c : Conn} {s s' : State} (h : Finishes c s s') :
    s'.attempts = s.attempts := by
  cases h with
  | known => rfl
  | candidate =>
    show ((s.journal ++ [Obs.save c.dst 0]) ++ [Obs.registered c.dst]).countP _ = _
    rw [List.countP_append, List.countP_append]
    rfl

/-- What a step that begins an attempt finds: none of the items that act on an attempt is
pending, and the attempt has not failed yet. -/
lemma attempts_step {maxPaired : ℕ} {s s' : State} {l : Label} (hs : Coherent s)
    (hstep : Step maxPaired s l s') (hne : s'.attempts ≠ s.attempts) :
    s'.attempts = s.attempts + 1 ∧ s'.failure = 0 ∧ ∀ w : Work, w.Acts → ¬s.work.Pending w := by
  cases happens_of_step hs hstep with
  | nothing hquiet => exact absurd hquiet.attempts hne
  | @finish _ _ c rest index _ _ _ _ _ hfinishes =>
    have htake : (s.take .discovery rest).attempts = s.attempts :=
      (Uneventful.take .discovery rest).attempts
    exact absurd ((attempts_finish hfinishes).trans htake) hne
  | begin hgap hq hbegins =>
    exact ⟨hbegins.attempts, hbegins.failure, fun w hw => not_pending_of_connect hs hgap hq hw⟩

/-- An item pending after a run was submitted, or its timer was started, in a step of the run,
and has been pending since; and no attempt has begun since. -/
def SubmittedInAttempt (maxPaired : ℕ) (start : State) (labels : List Label) (t : State)
    (w : Work) : Prop :=
  ∃ before l after u u', labels = before ++ l :: after ∧ Run maxPaired start before u ∧
    Step maxPaired u l u' ∧ ¬u.work.Pending w ∧
    Transition.Run (fun v l v' => Step maxPaired v l v' ∧ v.work.Pending w ∧ v'.work.Pending w)
      u' after t ∧ u'.attempts = t.attempts

lemma submitted_in_attempt {maxPaired : ℕ} {bonds : List Addr} {labels : List Label} {t : State}
    (hrun : Run maxPaired (State.init bonds) labels t) {w : Work} (hw : w.Acts)
    (hpending : t.work.Pending w) :
    SubmittedInAttempt maxPaired (State.init bonds) labels t w := by
  have hinit : ¬(State.init bonds).work.Pending w := by
    rintro (h | h) <;> exact List.not_mem_nil h
  obtain ⟨before, l, after, u, u', rfl, hbefore, hstep, hu, hafter⟩ :=
    hrun.exists_start (Q := fun s => s.work.Pending w) hinit hpending
  refine ⟨before, l, after, u, u', rfl, hbefore, hstep, hu, hafter, ?_⟩
  -- while the item is pending no attempt begins
  have hinv : Coherent t ∧ u'.attempts = t.attempts := by
    refine hafter.invariant (fun v => Coherent v ∧ u'.attempts = v.attempts)
      ⟨(run_coherent hbefore).step hstep, rfl⟩ ?_
    rintro v l v' ⟨hv, hattempts⟩ ⟨hvstep, hvpending, -⟩
    refine ⟨hv.step hvstep, hattempts.trans ?_⟩
    by_contra hne
    exact (attempts_step hv hvstep (Ne.symm hne)).2.2 w hw hvpending
  exact hinv.2

/-- **No stale work hits a newer attempt.**  In every state of every run: an item that fails,
completes or ends an attempt and is pending while `mouse_conn` is set, in particular when it
runs, was submitted in the attempt that `mouse_conn` belongs to; no attempt begins while such
an item is pending; and `failure_work` meets only a connection whose attempt has failed, where
every attempt begins without a failure. -/
theorem no_stale_work {maxPaired : ℕ} {bonds : List Addr} {labels : List Label} {t : State}
    (hrun : Run maxPaired (State.init bonds) labels t) :
    (∀ w : Work, w.Acts → t.work.Pending w → t.mouseConn ≠ none →
      t.host.attempt.active = true ∧ t.host.attempt.conn = t.mouseConn ∧
        SubmittedInAttempt maxPaired (State.init bonds) labels t w) ∧
    (∀ l t', Step maxPaired t l t' → t'.attempts ≠ t.attempts →
      t'.attempts = t.attempts + 1 ∧ t'.failure = 0 ∧ ∀ w : Work, w.Acts → ¬t.work.Pending w) ∧
    (.failure ∈ t.work.queue → t.mouseConn ≠ none → t.failure ≠ 0) := by
  have hs := run_coherent hrun
  refine ⟨?_, fun l t' hstep hne => attempts_step hs hstep hne, hs.failed⟩
  rintro w hw hpending hconn
  exact ⟨hs.active.1 (.inl hconn), hs.conn (.inl hconn), submitted_in_attempt hrun hw hpending⟩

/-- A pairing attempt that fails while its connection is being completed. -/
theorem no_stale_work_failure :
    ∃ s, Run 8 (State.init []) [.start, .pair, .work {}, .work {}, .work {},
        .advertisement ⟨1, 7⟩ .advInd [(9, [0x4d, 0x37, 0x32, 0x30])] 0,
        .work { lookup := some ⟨1, ⟨1, 7⟩⟩ }, .pairingFailed ⟨1, ⟨1, 7⟩⟩] s ∧
      SubmittedInAttempt 8 (State.init []) [.start, .pair, .work {}, .work {}, .work {},
        .advertisement ⟨1, 7⟩ .advInd [(9, [0x4d, 0x37, 0x32, 0x30])] 0,
        .work { lookup := some ⟨1, ⟨1, 7⟩⟩ }, .pairingFailed ⟨1, ⟨1, 7⟩⟩] s .failure := by
  obtain ⟨s, hrun, hp⟩ := exists_run 8 (State.init [])
    ([.start, .pair, .work {}, .work {}, .work {},
      .advertisement ⟨1, 7⟩ .advInd [(9, [0x4d, 0x37, 0x32, 0x30])] 0,
      .work { lookup := some ⟨1, ⟨1, 7⟩⟩ }, .pairingFailed ⟨1, ⟨1, 7⟩⟩])
    (fun s => decide (s.work.Pending .failure ∧ s.mouseConn ≠ none)) (by decide +kernel)
  obtain ⟨hpending, hconn⟩ := of_decide_eq_true hp
  exact ⟨s, hrun, ((no_stale_work hrun).1 .failure trivial hpending hconn).2.2⟩

end BleMouse.Client
