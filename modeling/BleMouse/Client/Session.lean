/-
What happens to the session of an attempt.

The session is written by discovery and its callbacks, and cleared when an attempt begins.
Everything else the client does lets it rest (`Rests`): the attempt may be secured, fail or end
meanwhile, but no GATT procedure starts or ends, and no attempt begins.

* `Stage.rank`: the order in which an attempt goes through the stages;
* `Rests`: the session rests, with one lemma for each function of the client that is not part
  of discovery;
* `State.begun`: what the beginning of an attempt leaves.
-/
import BleMouse.Client.Attempts

namespace BleMouse.Client

open BleMouse.Hid BleMouse.Output

/-! ### The order of the stages -/

/-- The place of a stage in the course of an attempt. -/
def Stage.rank : Stage → ℕ
  | .connecting => 0
  | .security => 1
  | .service => 2
  | .characteristics => 3
  | .descriptors => 4
  | .reportMap => 5
  | .reportReferences => 6
  | .protocol => 7
  | .subscriptions => 8
  | .ready => 9
  | .closing => 10
  | .idle => 11

lemma Stage.rank_lt_idle {stage : Stage} (h : stage ≠ .idle) : stage.rank < Stage.idle.rank := by
  cases stage <;> first | exact absurd rfl h | decide

/-- The stages that an attempt comes to without discovery. -/
def Stage.Apart (stage : Stage) : Prop :=
  stage = .security ∨ stage = .service ∨ stage = .closing ∨ stage = .idle

/-- The stage of an attempt stays, or goes on without discovery. -/
def Stage.Passes (stage next : Stage) : Prop :=
  next = stage ∨ stage.rank < next.rank ∧ next.Apart

namespace Stage.Passes

variable {a b c : Stage}

lemma refl (a : Stage) : a.Passes a := .inl rfl

lemma trans (h : a.Passes b) (h' : b.Passes c) : a.Passes c := by
  rcases h' with rfl | ⟨hlt', hapart⟩
  · exact h
  · rcases h with rfl | ⟨hlt, -⟩
    · exact .inr ⟨hlt', hapart⟩
    · exact .inr ⟨hlt.trans hlt', hapart⟩

lemma rank_le (h : a.Passes b) : a.rank ≤ b.rank := by
  rcases h with rfl | ⟨hlt, -⟩
  · exact le_rfl
  · exact hlt.le

lemma idle (a : Stage) : a.Passes .idle := by
  by_cases ha : a = .idle
  · exact .inl ha.symm
  · exact .inr ⟨rank_lt_idle ha, .inr (.inr (.inr rfl))⟩

lemma closing (ha : a ≠ .idle) : a.Passes .closing := by
  by_cases heq : a = .closing
  · exact .inl heq.symm
  · refine .inr ⟨?_, .inr (.inr (.inl rfl))⟩
    cases a <;> first | exact absurd rfl ha | exact absurd rfl heq | decide

end Stage.Passes

/-! ### Rest -/

/-- The observations of neither an attempt's beginning, nor a GATT procedure, nor a registration. -/
def Obs.Apart : Obs → Prop
  | .boot _ | .attempt .. | .gatt .. | .done .. | .registered _ => False
  | _ => True

lemma Obs.Quiet.apart {o : Obs} (h : o.Quiet) : o.Apart := by
  cases o with
  | boot | attempt | gatt | done | registered => exact h.elim
  | _ => trivial

lemma record_apart (h : History) {o : Obs} (ho : o.Apart) :
    (h.record o).attempt.requests = h.attempt.requests ∧
      (h.record o).attempt.subscribed = h.attempt.subscribed := by
  cases o with
  | boot | attempt | gatt | done | registered => exact ho.elim
  | pairingComplete c bonded =>
    simp only [History.record, Attempt.record]
    split <;> exact ⟨rfl, rfl⟩
  | _ => exact ⟨rfl, rfl⟩

/-- The session rests. -/
structure Rests (s s' : State) : Prop where
  session : s'.session = s.session ∨ ¬s'.Engaged ∧ s'.session = {}
  engaged : s'.Engaged → s.Engaged
  conn : s'.Engaged → s'.mouseConn = s.mouseConn ∨ s.inConnect = true
  gap : s'.inConnect = true → s.inConnect = true
  failure : s'.Engaged → s.failure ≠ 0 → s'.failure ≠ 0
  stage : s.stage.Passes s'.stage
  candidate : s'.Engaged → s'.newCandidate = s.newCandidate
  journal : ∃ new, s'.journal = s.journal ++ new ∧ ∀ o ∈ new, o.Apart

namespace Rests

variable {s s' s'' : State}

lemma refl (s : State) : Rests s s where
  session := .inl rfl
  engaged := id
  conn := fun _ => .inl rfl
  gap := id
  failure := fun _ => id
  stage := .refl _
  candidate := fun _ => rfl
  journal := ⟨[], by simp, by simp⟩

lemma trans (h : Rests s s') (h' : Rests s' s'') : Rests s s'' where
  session := by
    rcases h'.session with heq' | hcleared
    · rcases h.session with heq | ⟨hidle, hempty⟩
      · exact .inl (heq'.trans heq)
      · exact .inr ⟨fun hengaged => hidle (h'.engaged hengaged), heq'.trans hempty⟩
    · exact .inr hcleared
  engaged := fun hengaged => h.engaged (h'.engaged hengaged)
  conn := by
    intro hengaged
    rcases h'.conn hengaged with heq' | hin
    · rcases h.conn (h'.engaged hengaged) with heq | hin
      · exact .inl (heq'.trans heq)
      · exact .inr hin
    · exact .inr (h.gap hin)
  gap := fun hin => h.gap (h'.gap hin)
  failure := fun hengaged hfailed =>
    h'.failure hengaged (h.failure (h'.engaged hengaged) hfailed)
  stage := h.stage.trans h'.stage
  candidate := fun hengaged => (h'.candidate hengaged).trans (h.candidate (h'.engaged hengaged))
  journal := Journal.Grows.trans h.journal h'.journal

lemma procedures (h : Rests s s') : s'.host.attempt.requests = s.host.attempt.requests ∧
    s'.host.attempt.subscribed = s.host.attempt.subscribed := by
  refine Journal.Grows.replay_keeps h.journal
    (fun host : History => host.attempt.requests = s.host.attempt.requests ∧
      host.attempt.subscribed = s.host.attempt.subscribed) ⟨rfl, rfl⟩ ?_
  rintro host o ho ⟨hrequests, hsubscribed⟩
  obtain ⟨hrequests', hsubscribed'⟩ := record_apart host ho
  exact ⟨hrequests'.trans hrequests, hsubscribed'.trans hsubscribed⟩

/-- The attempt is alive only if it was before, or its connection has just been found. -/
lemma live (h : Rests s s') (hs' : Coherent s') (hlive : s'.Live) :
    s'.mouseConn = s.mouseConn ∧ s.Live ∨ s.inConnect = true := by
  obtain ⟨hconn, hfailure, hclosing⟩ := hlive
  have hengaged : s'.Engaged := .inl hconn
  rcases h.conn hengaged with heq | hin
  · refine .inl ⟨heq, heq ▸ hconn, ?_, ?_⟩
    · by_contra hfailed
      exact h.failure hengaged hfailed hfailure
    · intro hstage
      rcases hstage ▸ h.stage with heq' | ⟨hlt, hapart⟩
      · exact hclosing heq'
      · rcases hapart with heq' | heq' | heq' | heq'
        · rw [heq'] at hlt
          exact absurd hlt (by decide)
        · rw [heq'] at hlt
          exact absurd hlt (by decide)
        · exact hclosing heq'
        · exact hs'.busy hconn heq'
  · exact .inr hin

/-! ### Parts -/

lemma observe (h : Rests s s') (o : Obs) (ho : o.Apart) : Rests s (s'.observe o) :=
  h.trans { refl s' with journal := (Journal.Grows.refl _ _).snoc ho }

lemma of_background (h : Background s s') : Rests s s' where
  session := .inl h.session
  engaged := by
    unfold State.Engaged
    rw [h.mouseConn, h.inConnect]
    exact id
  conn := fun _ => .inl h.mouseConn
  gap := fun hin => h.inConnect ▸ hin
  failure := fun _ => h.failure ▸ id
  stage := .inl h.stage
  candidate := fun _ => h.newCandidate
  journal := Journal.Grows.mono h.journal fun _ => Obs.Quiet.apart

lemma background (h : Rests s s') (hb : Background s' s'') : Rests s s'' :=
  h.trans (of_background hb)

lemma submit (h : Rests s s') (w : Work) : Rests s (s'.submit w) := { h with }

lemma cancel (h : Rests s s') (w : Work) : Rests s (s'.cancel w) := { h with }

lemma requestRetry (h : Rests s s') : Rests s s'.requestRetry :=
  h.background (Background.refl s').requestRetry

lemma fail (h : Rests s s') (err : ℤ) : Rests s (s'.fail err) :=
  h.trans { refl s' with failure := fun _ _ => Explores.fail_ne_zero s' err }

lemma setStage (h : Rests s s') {stage : Stage} (hstage : s'.stage.Passes stage) :
    Rests s { s' with stage } :=
  h.trans { refl s' with stage := hstage }

lemma nextStage (h : Rests s s') {stage : Stage} (hstage : s'.stage.Passes stage) :
    Rests s (s'.nextStage stage) := (h.setStage hstage).submit .discovery

/-! ### The ends of an attempt -/

lemma forgetPeer (h : Rests s s') (a : Answers) : Rests s (s'.forgetPeer a) := by
  have hs : Rests s ({ s' with pairing := false, scanWanted := false } : State) := { h with }
  have hunpaired := (hs.cancel .pairTimeout).observe
    (.unpair s'.peer (s'.havePeer && decide (s'.peer = s'.peer)) a.unpairPeer) trivial
  have hend (t : State) (ht : Rests s t) : Rests s t.forgotten := by
    have hcleared : Rests s { t with forgetRequested := false } := { ht with }
    exact (hcleared.background (Background.refl _).outputDisconnect).background
      (Background.refl _).scanRefresh
  unfold State.forgetPeer
  dsimp only
  split_ifs
  · exact { hunpaired with }
  · have hdeleted := hunpaired.observe (.delete a.delete) trivial
    exact hend _ { hdeleted with }
  · exact hend _ (hs.cancel .pairTimeout)

lemma forgetIfRequested (h : Rests s s') (a : Answers) : Rests s (s'.forgetIfRequested a) := by
  unfold State.forgetIfRequested
  split
  · exact h.forgetPeer a
  · exact h

lemma closeAttempt (h : Rests s s') (hgap : s'.inConnect = false) : Rests s s'.closeAttempt := by
  have hidle : ¬({ s' with mouseConn := none, failure := 0, stage := .idle } : State).Engaged :=
    State.not_engaged rfl hgap
  have hs : Rests s { s' with mouseConn := none, failure := 0, stage := .idle } :=
    h.trans { refl s' with
      session := .inl rfl
      engaged := fun hengaged => absurd hengaged hidle
      conn := fun hengaged => absurd hengaged hidle
      failure := fun hengaged => absurd hengaged hidle
      stage := .idle _
      candidate := fun hengaged => absurd hengaged hidle }
  exact (hs.observe .ended trivial).cancel .timeout

lemma hungUp (h : Rests s s') (hgap : s'.inConnect = false) (c : Conn) (a : Answers) :
    Rests s (s'.hungUp c a) := by
  have hclosed := (h.observe (.unref c) trivial).closeAttempt hgap
  have hs : Rests s { (s'.observe (.unref c)).closeAttempt with candidateBonded := false } :=
    { hclosed with }
  exact ((hs.background (Background.refl _).outputDisconnect).forgetIfRequested a).requestRetry

lemma disconnectedWorkCb (h : Rests s s') (hgap : s'.inConnect = false) (a : Answers) :
    Rests s (s'.disconnectedWorkCb a) := by
  rcases s'.disconnectedWorkCb_cases a with ⟨-, heq⟩ | ⟨c, t, -, ht, heq⟩
  · rw [heq]
    exact h
  · have hoff := h.observe (.autoConnOff c.dst) trivial
    rw [heq]
    cases ht with
    | kept => exact hoff.hungUp hgap c a
    | unpaired =>
      have hunpaired : Rests s
          ((s'.observe (.autoConnOff c.dst)).unpair c.dst a.unpairCandidate) :=
        hoff.observe _ trivial
      exact hunpaired.hungUp hgap c a

lemma failureWorkCb (hs : Coherent s) (hgap : s.inConnect = false) (a : Answers) :
    Rests s (s.failureWorkCb a) := by
  unfold State.failureWorkCb
  split
  case h_1 c hc =>
    have hbusy : s.stage ≠ .idle := hs.busy (hc ▸ Option.some_ne_none c)
    have hclosing := (refl s).setStage (.closing hbusy)
    have hstopped : Rests s { s with stage := .closing, scanWanted := false } := { hclosing with }
    have hs := hstopped.observe (.disconnect c a.disconnect) trivial
    dsimp only
    split
    · exact hs.disconnectedWorkCb hgap a
    · exact hs
  case h_2 hc =>
    have hidle : ¬({ s with stage := .idle, scanWanted := false, failure := 0 } : State).Engaged :=
      State.not_engaged hc hgap
    have hs : Rests s { s with stage := .idle, scanWanted := false, failure := 0 } :=
      { refl s with
        session := .inl rfl
        engaged := fun hengaged => absurd hengaged hidle
        conn := fun hengaged => absurd hengaged hidle
        failure := fun hengaged => absurd hengaged hidle
        stage := .idle _
        candidate := fun hengaged => absurd hengaged hidle }
    exact hs.requestRetry

/-- `connected_work` has been taken off the queue. -/
lemma connectedWorkCb (hgap : s.inConnect = false) (hopen : s.mouseConn ≠ none → s.stage.Open)
    (a : Answers) : Rests s (s.connectedWorkCb a) := by
  have hreleased := (Background.refl s).releaseEvent
  have hrefl := of_background hreleased
  unfold State.connectedWorkCb State.completeConnection
  split
  case h_1 => exact hrefl
  case h_2 c hc =>
    have hoff : Rests s (s.releaseEvent.observe (.autoConnOff c.dst)).scanRefresh :=
      (hrefl.observe (.autoConnOff c.dst) trivial).background (Background.refl _).scanRefresh
    have hstage : (s.releaseEvent.observe (.autoConnOff c.dst)).scanRefresh.stage.Open := by
      have hconn : s.mouseConn ≠ none := by
        rw [← hreleased.mouseConn, hc]
        exact Option.some_ne_none c
      exact hreleased.stage ▸ hopen hconn
    have hgap' : (s.releaseEvent.observe (.autoConnOff c.dst)).scanRefresh.inConnect = false :=
      hreleased.inConnect.trans hgap
    dsimp only
    generalize (s.releaseEvent.observe (.autoConnOff c.dst)).scanRefresh = t at hoff hstage hgap' ⊢
    split
    · have hclosed := (hoff.observe (.unref c) trivial).closeAttempt hgap'
      exact (hclosed.forgetIfRequested a).requestRetry
    split
    · exact hoff.fail _
    · rename_i hlive
      have hconnecting : t.stage = .connecting := by
        rcases hstage with hstage | hstage
        · exact hstage
        · exact absurd (.inr hstage) hlive
      have hpasses : t.stage.Passes .security := .inr ⟨by rw [hconnecting]; decide, .inl rfl⟩
      have hsecured := (hoff.setStage hpasses).observe (.setSecurity c a.setSecurity) trivial
      split
      · exact hsecured.fail _
      · split
        · have hlt : Stage.security.rank < Stage.service.rank := by decide
          exact hsecured.nextStage (.inr ⟨hlt, .inr (.inl rfl)⟩)
        · exact hsecured

/-! ### Timers, keys and callbacks -/

lemma timeoutWorkCb : Rests s s.timeoutWorkCb := by
  unfold State.timeoutWorkCb
  split
  · exact (refl s).fail _
  · exact refl s

lemma pairTimeoutCb : Rests s s.pairTimeoutCb := by
  have hs : Rests s { s with pairing := false } := { refl s with }
  unfold State.pairTimeoutCb
  dsimp only
  split
  · exact (hs.fail _).background (Background.refl _).retryWorkCb
  · exact hs.background (Background.refl _).retryWorkCb

lemma clearWorkCb (a : Answers) : Rests s (s.clearWorkCb a) := by
  have hs : Rests s { s with pairing := false, scanWanted := false, forgetRequested := true } :=
    { refl s with }
  unfold State.clearWorkCb
  dsimp only
  split_ifs
  · exact refl s
  · exact hs.fail _
  · exact hs.forgetPeer a

lemma take (w : Work) (rest : List Work) : Rests s (s.take w rest) := by
  have hs : Rests s { s with work := { s.work with queue := rest } } := { refl s with }
  exact hs.observe (.ran w) trivial

lemma expire (w : Work) : Rests s { s with work := s.work.expire w } := { refl s with }

lemma connectedCb (c : Conn) (err : ℕ) :
    Rests s ((s.observe (.connected c err)).connectedCb c err) := by
  have hs := (refl s).observe (.connected c err) trivial
  have hnoted : Rests s { s.observe (.connected c err) with
      connectedEventConn := some c, connectedError := err } := { hs with }
  unfold State.connectedCb
  split
  · exact (hnoted.observe (.ref c) trivial).submit .connected
  · exact hs

lemma disconnectedCb (hs : Coherent s) (c : Conn) :
    Rests s ((s.observe (.disconnected c)).disconnectedCb c) := by
  have hobserved := (refl s).observe (.disconnected c) trivial
  unfold State.disconnectedCb
  split
  case isTrue howns =>
    have hc : s.mouseConn = some c := of_decide_eq_true howns
    have hclosing := hobserved.setStage (.closing (hs.busy (hc ▸ Option.some_ne_none c)))
    have hstopped : Rests s { s.observe (.disconnected c) with
        stage := .closing, scanWanted := false } := { hclosing with }
    exact hstopped.submit .disconnected
  case isFalse => exact hobserved

lemma securityCb (c : Conn) (level err : ℕ) : Rests s (s.securityCb c level err) := by
  unfold State.securityCb
  split
  · exact refl s
  split
  · exact (refl s).fail _
  split
  case isTrue hsecure =>
    have hlt : s.stage.rank < Stage.service.rank := by
      rw [hsecure.2]
      decide
    exact (refl s).nextStage (.inr ⟨hlt, .inr (.inl rfl)⟩)
  case isFalse => exact refl s

lemma pairingCompleteCb (c : Conn) (bonded : Bool) :
    Rests s ((s.observe (.pairingComplete c bonded)).pairingCompleteCb c bonded) := by
  have hs := (refl s).observe (.pairingComplete c bonded) trivial
  have hnoted : Rests s { s.observe (.pairingComplete c bonded) with candidateBonded := bonded } :=
    { hs with }
  unfold State.pairingCompleteCb
  dsimp only
  split_ifs
  · exact hnoted.fail _
  · exact hnoted
  · exact hs

lemma pairingFailedCb (c : Conn) : Rests s (s.pairingFailedCb c) := by
  unfold State.pairingFailedCb
  split
  · exact (refl s).fail _
  · exact refl s

lemma zmkBleMouseClearHold (pressed : Bool) :
    Rests s ((s.observe (.clearKey pressed)).zmkBleMouseClearHold pressed) := by
  have hs := (refl s).observe (.clearKey pressed) trivial
  unfold State.zmkBleMouseClearHold
  dsimp only
  split <;> exact { hs with }

lemma settingsSet (name : String) (length : ℕ) (contents : Addr) (result : ℤ) :
    Rests s ((s.observe (.load name length contents result)).settingsSet name length contents
      result).1 := by
  have hs := (refl s).observe (.load name length contents result) trivial
  unfold State.settingsSet
  dsimp only
  split_ifs <;> exact { hs with }

lemma zmkBleMouseStart : Rests s s.zmkBleMouseStart := by
  unfold State.zmkBleMouseStart
  split <;> exact { refl s with }

/-! ### The look-up of a connection -/

lemma connectMouseLookup (hin : s.inConnect = true) (addr : Addr) (a : Answers) :
    Rests s (s.connectMouseLookup addr a).1 := by
  have hfound : Rests s { s with mouseConn := a.lookup, inConnect := false } :=
    { refl s with
      session := .inl rfl
      engaged := fun _ => .inr hin
      conn := fun _ => .inr hin
      gap := fun h => absurd h Bool.false_ne_true
      failure := fun _ => id
      candidate := fun _ => rfl }
  have hs := hfound.observe (.lookup addr a.lookup) trivial
  unfold State.connectMouseLookup
  dsimp only
  split
  · have hoff := hs.observe (.autoConnOff addr) trivial
    have hidle := hoff.setStage (.idle _)
    exact hidle.requestRetry
  · exact { hs with }

lemma connectWorkEnd (hin : s.inConnect = true) (a : Answers) : Rests s (s.connectWorkEnd a) :=
  (connectMouseLookup hin _ a).background ((Background.refl _).connectReturned _)

end Rests

/-! ### The beginning of an attempt -/

/-- What `connect_mouse` leaves when `bt_le_set_auto_conn` has succeeded. -/
def State.begun (s : State) (addr : Addr) : State :=
  { ({ s with
      session := {}
      newCandidate := !s.havePeer
      candidateBonded := false
      failure := 0
      scanWanted := false
      connectingAddress := addr
      stage := .connecting } : State).observe (.attempt addr !s.havePeer) with inConnect := true }

/-- What `connect_mouse` has checked then. -/
structure Admits (maxPaired : ℕ) (s : State) (addr : Addr) : Prop where
  free : s.mouseConn = none
  wanted : s.scanWanted = true
  known : s.havePeer = true → addr = s.peer
  pairing : s.havePeer = false → s.pairing = true ∧ addr ∉ s.host.bonds ∧ s.bondCount < maxPaired

/-- `connect_mouse` begins an attempt, or the session rests. -/
lemma connectMouse_cases (maxPaired : ℕ) {s : State} (hidle : ¬s.Engaged) (addr : Addr)
    (a : Answers) :
    Rests s (s.connectMouse maxPaired addr a).1 ∧
        (s.connectMouse maxPaired addr a).1.inConnect = false ∨
      Admits maxPaired s addr ∧ (s.connectMouse maxPaired addr a).1 = s.begun addr := by
  have hgap : s.inConnect = false := Bool.eq_false_of_not_eq_true fun hin => hidle (.inr hin)
  have hconn : s.mouseConn = none := by
    by_contra hne
    exact hidle (.inl hne)
  unfold State.connectMouse
  dsimp only
  split
  case isTrue => exact .inl ⟨.refl s, hgap⟩
  case isFalse hbusy =>
  split
  case isTrue => exact .inl ⟨.refl s, hgap⟩
  case isFalse hpeer =>
  split
  case isTrue => exact .inl ⟨.refl s, hgap⟩
  case isFalse hbonded =>
  split
  case isTrue => exact .inl ⟨{ Rests.refl s with }, hgap⟩
  case isFalse hroom =>
  split
  case isTrue =>
    have hcleared : Rests s { s with
        session := {}, newCandidate := !s.havePeer, candidateBonded := false, failure := 0,
        scanWanted := false, connectingAddress := addr, stage := .idle } :=
      { Rests.refl s with
        session := .inr ⟨hidle, rfl⟩
        failure := fun hengaged => absurd hengaged hidle
        stage := .idle _
        candidate := fun hengaged => absurd hengaged hidle }
    exact .inl ⟨hcleared.requestRetry, (Background.refl _).requestRetry.inConnect.trans hgap⟩
  case isFalse =>
    refine .inr ⟨?_, rfl⟩
    simp only [Bool.or_eq_true, Bool.and_eq_true, Bool.not_eq_true', decide_eq_true_eq, not_or,
      not_and, Bool.not_eq_false, State.isBonded, not_le, not_not] at hbusy hpeer hbonded hroom
    exact ⟨hconn, hbusy.2, hpeer.1, fun hnone => ⟨hpeer.2 hnone, hbonded hnone, hroom hnone⟩⟩

/-- An attempt begins after something in the background, or the session rests. -/
lemma connectWorkBegin_cases (maxPaired : ℕ) {s : State} (hidle : ¬s.Engaged) (a : Answers) :
    Rests s (s.connectWorkBegin maxPaired a) ∧
        (s.connectWorkBegin maxPaired a).inConnect = false ∨
      ∃ t addr, Background s t ∧ Admits maxPaired t addr ∧
        s.connectWorkBegin maxPaired a = t.begun addr := by
  have hgap : s.inConnect = false := Bool.eq_false_of_not_eq_true fun hin => hidle (.inr hin)
  have hstopped := (Background.refl s).stopOwnScan a.scanStop
  have hobserved := hstopped.observe (.connect (s.stopOwnScan a.scanStop).1.pendingAddress) trivial
  unfold State.connectWorkBegin
  dsimp only
  split
  case isTrue =>
    have hs := hstopped.trans ((Background.refl _).connectReturned (s.stopOwnScan a.scanStop).2)
    exact .inl ⟨.of_background hs, hs.inConnect.trans hgap⟩
  case isFalse =>
  generalize ((s.stopOwnScan a.scanStop).1.observe
    (.connect (s.stopOwnScan a.scanStop).1.pendingAddress)) = t at hobserved ⊢
  have hidle' : ¬t.Engaged := fun hengaged =>
    hidle ((Rests.of_background hobserved).engaged hengaged)
  rcases connectMouse_cases maxPaired hidle' (s.stopOwnScan a.scanStop).1.pendingAddress a with
    ⟨hrests, hin⟩ | ⟨hadmits, hbegun⟩
  · rw [if_neg (by rw [hin]; exact Bool.false_ne_true)]
    have hreturned := (Background.refl
      (t.connectMouse maxPaired (s.stopOwnScan a.scanStop).1.pendingAddress a).1).connectReturned
        (t.connectMouse maxPaired (s.stopOwnScan a.scanStop).1.pendingAddress a).2
    exact .inl ⟨((Rests.of_background hobserved).trans hrests).background hreturned,
      hreturned.inConnect.trans hin⟩
  · rw [hbegun, if_pos (show (t.begun _).inConnect = true from rfl)]
    exact .inr ⟨t, _, hobserved, hadmits, rfl⟩

/-- An attempt has begun, and its connection may have been looked up. -/
structure Opens (maxPaired : ℕ) (s s' : State) : Prop where
  begun : ∃ t addr, Background s t ∧ Admits maxPaired t addr ∧ Rests (t.begun addr) s'

lemma connectWorkCb_cases (maxPaired : ℕ) {s : State} (hidle : ¬s.Engaged) (a : Answers) :
    Rests s (s.connectWorkCb maxPaired a) ∨ Opens maxPaired s (s.connectWorkCb maxPaired a) := by
  unfold State.connectWorkCb
  dsimp only
  rcases connectWorkBegin_cases maxPaired hidle a with ⟨hrests, hin⟩ | ⟨t, addr, ht, hadmits, heq⟩
  · rw [if_neg (by rw [hin]; exact Bool.false_ne_true)]
    exact .inl hrests
  · rw [heq]
    exact .inr ⟨t, addr, ht, hadmits, Rests.connectWorkEnd rfl a⟩

/-! ### The kinds of steps -/

/-- The callbacks of GATT procedures. -/
def Label.Procedural : Label → Prop
  | .discovered .. | .readDone .. | .written .. | .subscribed .. | .notified .. => True
  | _ => False

/-- What a step does to the session: it lets it rest, begins an attempt, or is part of discovery. -/
inductive Course (maxPaired : ℕ) (s : State) : Label → State → Prop
  | rests {l : Label} {s' : State} (hl : ¬l.Procedural) (hr : Rests s s') : Course maxPaired s l s'
  | opens {l : Label} {s' : State} (hl : ¬l.Procedural) (ho : Opens maxPaired s s') :
      Course maxPaired s l s'
  | discovery {a : Answers} {rest : List Work} (hgap : s.inConnect = false)
      (hq : s.work.queue = .discovery :: rest) :
      Course maxPaired s (.work a) ((s.take .discovery rest).discoveryWorkCb a)
  | discovered (c : Conn) (type : DiscoverType) (start stop : Handle) (attr : Option Attr) :
      Course maxPaired s (.discovered c type start stop attr)
        ((s.discoverCb c attr).1.finished ((s.discoverCb c attr).2 && attr.isSome) c
          (.discover type start stop) 0)
  | readDone (c : Conn) (handle : Handle) (err : ℕ) (data : Option (List UInt8)) :
      Course maxPaired s (.readDone c handle err data)
        ((s.readCb c err data).1.finished
          ((s.readCb c err data).2 && decide (err = 0) && data.isSome) c (.read handle) err)
  | written (c : Conn) (handle : Handle) (value err : ℕ) :
      Course maxPaired s (.written c handle value err)
        ((s.writtenCb c err).finished false c (.write handle value) err)
  | subscribed (c : Conn) (i : ℕ) (value ccc : Handle) (err : ℕ) :
      Course maxPaired s (.subscribed c i value ccc err)
        ((s.subscribedCb c err i).finished false c (.subscribe i value ccc) err)
  | notified (c : Conn) (i : ℕ) (data : Option (List UInt8)) :
      Course maxPaired s (.notified c i data) (s.notifyCb c i data)

namespace Course

variable {s s' : State}

lemma run (maxPaired : ℕ) (hs : Coherent s) (hgap : s.inConnect = false) {w : Work}
    {rest : List Work} (hq : s.work.queue = w :: rest) (a : Answers) :
    Course maxPaired s (.work a) ((s.take w rest).run maxPaired w a) := by
  have hmem : w ∈ s.work.queue := hq ▸ List.mem_cons_self
  have hgap' : (s.take w rest).inConnect = false := hgap
  have htake : Rests s (s.take w rest) := .take w rest
  have hrests (hr : Rests (s.take w rest) ((s.take w rest).run maxPaired w a)) :
      Course maxPaired s (.work a) ((s.take w rest).run maxPaired w a) := .rests id (htake.trans hr)
  have hbackground (hb : Background (s.take w rest) ((s.take w rest).run maxPaired w a)) :
      Course maxPaired s (.work a) ((s.take w rest).run maxPaired w a) := hrests (.of_background hb)
  cases w with
  | discovery => exact .discovery hgap hq
  | failure => exact hrests (Rests.failureWorkCb (hs.take hq) hgap' a)
  | retry => exact hbackground (Background.refl _).retryWorkCb
  | timeout => exact hrests Rests.timeoutWorkCb
  | pairTimeout => exact hrests Rests.pairTimeoutCb
  | connected => exact hrests (Rests.connectedWorkCb hgap' (hs.completed hmem) a)
  | disconnected => exact hrests ((Rests.refl _).disconnectedWorkCb hgap' a)
  | pair => exact hbackground ((Background.refl _).pairWorkCb maxPaired)
  | clear => exact hrests (Rests.clearWorkCb a)
  | scan => exact hbackground ((Background.refl _).scanWorkCb a)
  | connect =>
    have hidle : ¬(s.take .connect rest).Engaged := (hs.connect hmem).1
    rcases connectWorkCb_cases maxPaired hidle a with hr | ⟨t, addr, hb, hadmits, hr⟩
    · exact hrests hr
    · have htaken := Background.take hq ⟨id, Work.noConfusion⟩ Work.noConfusion
      exact .opens id ⟨t, addr, htaken.trans hb, hadmits, hr⟩
  | settle => exact hbackground (Background.refl _).settleWorkCb
  | output => exact hrests (.refl _)

end Course

/-- Every step is of one of these kinds. -/
theorem course_of_step {maxPaired : ℕ} {s s' : State} {l : Label} (hs : Coherent s)
    (hstep : s.step maxPaired l = some s') : Course maxPaired s l s' := by
  cases moves_of_step hstep with
  | work hgap hq => exact Course.run maxPaired hs hgap hq _
  | @connectBegin a rest hgap hq =>
    have hidle : ¬(s.take .connect rest).Engaged := (hs.connect (hq ▸ List.mem_cons_self)).1
    rcases connectWorkBegin_cases maxPaired hidle a with ⟨hr, -⟩ | ⟨t, addr, hb, hadmits, heq⟩
    · exact .rests id ((Rests.take .connect rest).trans hr)
    · have htaken := Background.take hq ⟨id, Work.noConfusion⟩ Work.noConfusion
      exact .opens id ⟨t, addr, htaken.trans hb, hadmits, heq ▸ .refl _⟩
  | connectEnd hin => exact .rests id (Rests.connectWorkEnd hin _)
  | expire hw => exact .rests id (Rests.expire _)
  | connected c err => exact .rests id (Rests.connectedCb c err)
  | disconnected c => exact .rests id (Rests.disconnectedCb hs c)
  | connectionChanged scanStop =>
    exact .rests id (.of_background ((Background.refl s).connectionChanged scanStop))
  | securityChanged c level err => exact .rests id (Rests.securityCb c level err)
  | pairingComplete c bonded => exact .rests id (Rests.pairingCompleteCb c bonded)
  | pairingFailed c => exact .rests id (Rests.pairingFailedCb c)
  | discovered c type start stop attr => exact .discovered c type start stop attr
  | readDone c handle err data => exact .readDone c handle err data
  | written c handle value err => exact .written c handle value err
  | subscribed c i value ccc err => exact .subscribed c i value ccc err
  | notified c i data => exact .notified c i data
  | advertisement addr type data now =>
    exact .rests id
      (.of_background ((Background.refl s).zmkBleMouseAdvertisement addr type data now))
  | pair => exact .rests id (.of_background (Background.refl s).zmkBleMousePair)
  | clearHold pressed => exact .rests id (Rests.zmkBleMouseClearHold pressed)
  | settings name length contents result =>
    exact .rests id (Rests.settingsSet name length contents result)
  | start => exact .rests id Rests.zmkBleMouseStart

end BleMouse.Client
