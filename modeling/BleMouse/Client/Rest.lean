/-
The client comes to rest.

When the link of an attempt is lost and nobody presses a key, the worker runs out of work: every
item submits only items that weigh less than itself (`Work.weight`).

* `Loads`: how much a function submits;
* `Calms`: what is left of the saved peer and of the bonds;
* `Holding.step`: only the Clear key makes the client give up a saved peer;
* `exists_resting`: from every state the client can come to rest.
-/
import BleMouse.Client.Encryption
import BleMouse.Client.Patience
import BleMouse.Client.Resolution
import BleMouse.Lib.Load

namespace BleMouse.Client

open BleMouse.Hid BleMouse.Output

/-! ### The load -/

/-- An item weighs more than everything that it submits. -/
def Work.weight : Work → ℕ
  | .output | .discovery | .scan | .clear => 1
  | .settle | .failure => 2
  | .connect | .timeout => 3
  | .retry | .pair | .connected | .disconnected => 5
  | .pairTimeout => 7

/-- The weight of what waits for the worker. -/
def State.load (s : State) : ℕ := s.work.load Work.weight

/-- At most this weight is submitted. -/
def Loads (n : ℕ) (s s' : State) : Prop := s'.load ≤ s.load + n

namespace Loads

variable {n : ℕ} {s s' : State}

lemma refl (s : State) : Loads 0 s s := le_rfl

lemma mono {m : ℕ} (h : Loads n s s') (hle : n ≤ m) : Loads m s s' :=
  h.trans (Nat.add_le_add_left hle _)

lemma submit (h : Loads n s s') (w : Work) : Loads (n + w.weight) s (s'.submit w) := by
  have hload : (s'.submit w).load ≤ s'.load + w.weight := by
    unfold State.load State.submit
    dsimp only
    split
    · exact WorkQueue.load_submit_le w
    · exact Nat.le_add_right _ _
  exact hload.trans ((Nat.add_le_add_right h _).trans (Nat.add_assoc _ _ _).le)

/-- An item that is due later adds nothing yet. -/
lemma schedule (h : Loads n s s') {delay : ℕ} (hdelay : delay ≠ 0) (w : Work) :
    Loads n s (s'.schedule w delay) := by
  have hload : (s'.schedule w delay).load = s'.load := by
    unfold State.load State.schedule
    dsimp only
    split
    · exact WorkQueue.load_reschedule hdelay w
    · rfl
  exact hload.trans_le h

lemma cancel (h : Loads n s s') (w : Work) : Loads n s (s'.cancel w) := by
  have hload : (s'.cancel w).load ≤ s'.load := WorkQueue.load_cancel_le w
  exact hload.trans h

lemma fail (h : Loads n s s') (err : ℤ) : Loads (n + 2) s (s'.fail err) := by
  have hfailed : Loads n s { s' with
    failure := if s'.failure ≠ 0 then s'.failure else if err ≠ 0 then err else -eIo } := h
  exact hfailed.submit .failure

/-! ### Scanning and retries -/

lemma scanRefresh (h : Loads n s s') : Loads (n + 1) s s'.scanRefresh := by
  have hload : s'.scanRefresh.load ≤ s'.load + 1 := by
    unfold State.load State.scanRefresh State.schedule
    dsimp only
    split
    · exact WorkQueue.load_reschedule_le Work.scan 0
    · exact Nat.le_add_right _ _
  exact hload.trans ((Nat.add_le_add_right h _).trans (Nat.add_assoc _ _ _).le)

lemma stopOwnScan (h : Loads n s s') (answer : ℤ) : Loads n s (s'.stopOwnScan answer).1 := by
  unfold State.stopOwnScan
  dsimp only
  split_ifs <;> exact h

lemma scanWorkCb (h : Loads n s s') (a : Answers) : Loads n s (s'.scanWorkCb a) := by
  have hlater {t : State} (ht : Loads n s t) : Loads n s (t.schedule .scan 1000) :=
    ht.schedule (by decide) .scan
  have hstarted : Loads n s
      ({ s'.observe (.scanStart a.scanStart) with scanOwned := true } : State) := h
  have hobserved : Loads n s (s'.observe (.scanStart a.scanStart)) := h
  unfold State.scanWorkCb
  dsimp only
  split_ifs
  · exact h
  · exact hlater (h.stopOwnScan _)
  · exact h.stopOwnScan _
  · exact h
  · exact hlater hobserved
  · exact hlater (hstarted.stopOwnScan _)
  · exact hstarted

lemma centralConnect (h : Loads n s s') (addr : Addr) :
    Loads (n + 3) s (s'.centralConnect addr) := by
  have hpending : Loads n s (({ s' with connecting := true, pendingAddress := addr } :
    State).observe (.accepted addr)) := h
  unfold State.centralConnect
  split
  · exact h.mono (Nat.le_add_right _ _)
  · exact hpending.submit .connect

lemma retryWorkCb (h : Loads n s s') : Loads (n + 4) s s'.retryWorkCb := by
  have hwanted (scanWanted : Bool) : Loads n s { s' with scanWanted } := h
  unfold State.retryWorkCb
  dsimp only
  split
  · exact ((hwanted _).centralConnect _).scanRefresh
  · exact (hwanted _).scanRefresh.mono (by omega)

/-- The next retry waits for its timer. -/
lemma requestRetry (h : Loads n s s') (hp : Patient s') : Loads (n + 1) s s'.requestRetry := by
  have hstopped : Loads n s { s' with scanWanted := false } := h
  have hdelay : s'.retryMs ≠ 0 := (Nat.zero_lt_of_lt hp.1).ne'
  exact hstopped.scanRefresh.schedule hdelay .retry

lemma outputDisconnect (h : Loads n s s') : Loads (n + 1) s s'.outputDisconnect := by
  have hobserved : Loads n s (s'.observe .outputDisconnect) := h
  exact hobserved.submit .output

/-! ### The ends of an attempt -/

lemma closeAttempt (h : Loads n s s') : Loads n s s'.closeAttempt := by
  have hclosed : Loads n s (({ s' with mouseConn := none, failure := 0, stage := .idle } :
    State).observe .ended) := h
  exact hclosed.cancel .timeout

lemma forgetPeer (h : Loads n s s') (a : Answers) : Loads (n + 2) s (s'.forgetPeer a) := by
  have hforgotten {t : State} (ht : Loads n s t) : Loads (n + 2) s t.forgotten := by
    have hdone : Loads n s { t with forgetRequested := false } := ht
    exact hdone.outputDisconnect.scanRefresh
  have hstopped : Loads n s (({ s' with pairing := false, scanWanted := false } : State).cancel
      .pairTimeout) := by
    have hclosed : Loads n s { s' with pairing := false, scanWanted := false } := h
    exact hclosed.cancel .pairTimeout
  unfold State.forgetPeer
  dsimp only
  split_ifs
  · exact hstopped.mono (Nat.le_add_right _ _)
  · exact hforgotten hstopped
  · exact hforgotten hstopped

lemma forgetIfRequested (h : Loads n s s') (a : Answers) :
    Loads (n + 2) s (s'.forgetIfRequested a) := by
  unfold State.forgetIfRequested
  split
  · exact h.forgetPeer a
  · exact h.mono (Nat.le_add_right _ _)

lemma hungUp (h : Loads n s s') (hp : Patient s') (c : Conn) (a : Answers) :
    Loads (n + 4) s (s'.hungUp c a) := by
  have hunref : Loads n s (s'.observe (.unref c)) := h
  have hclosed : Loads n s
      { (s'.observe (.unref c)).closeAttempt with candidateBonded := false } :=
    hunref.closeAttempt
  refine (hclosed.outputDisconnect.forgetIfRequested a).requestRetry ?_
  exact Patient.forgetIfRequested (s := State.outputDisconnect
    { (s'.observe (.unref c)).closeAttempt with candidateBonded := false }) hp a

lemma disconnectedWorkCb (h : Loads n s s') (hp : Patient s') (a : Answers) :
    Loads (n + 4) s (s'.disconnectedWorkCb a) := by
  rcases s'.disconnectedWorkCb_cases a with ⟨-, heq⟩ | ⟨c, t, -, hunlinks, heq⟩
  · rw [heq]
    exact h.mono (Nat.le_add_right _ _)
  · rw [heq]
    cases hunlinks with
    | kept =>
      have hoff : Loads n s (s'.observe (.autoConnOff c.dst)) := h
      exact hoff.hungUp hp c a
    | unpaired =>
      have hunpaired : Loads n s
          ((s'.observe (.autoConnOff c.dst)).unpair c.dst a.unpairCandidate) := h
      exact hunpaired.hungUp hp c a

lemma failureWorkCb (h : Loads n s s') (hp : Patient s') {a : Answers}
    (ha : a.disconnect ≠ -eNotConn) : Loads (n + 1) s (s'.failureWorkCb a) := by
  have hidle : Loads n s { s' with stage := .idle, scanWanted := false, failure := 0 } := h
  unfold State.failureWorkCb
  dsimp only
  split
  · rw [if_neg ha]
    exact h.mono (Nat.le_add_right _ _)
  · exact hidle.requestRetry hp

lemma completeConnection (h : Loads n s s') (hp : Patient s') (a : Answers) :
    Loads (n + 4) s (s'.completeConnection a) := by
  have hoff (c : Conn) : Loads (n + 1) s (s'.observe (.autoConnOff c.dst)).scanRefresh := by
    have hobserved : Loads n s (s'.observe (.autoConnOff c.dst)) := h
    exact hobserved.scanRefresh
  have hsecured (c : Conn) : Loads (n + 1) s
      (({ (s'.observe (.autoConnOff c.dst)).scanRefresh with stage := .security } :
        State).observe (.setSecurity c a.setSecurity)) := hoff c
  have hservice (c : Conn) : Loads (n + 1) s
      { ({ (s'.observe (.autoConnOff c.dst)).scanRefresh with stage := .security } :
        State).observe (.setSecurity c a.setSecurity) with stage := .service } := hoff c
  have hunref (c : Conn) : Loads (n + 1) s
      ((s'.observe (.autoConnOff c.dst)).scanRefresh.observe (.unref c)) := hoff c
  unfold State.completeConnection
  dsimp only
  split
  · exact h.mono (Nat.le_add_right _ _)
  case h_2 c _ =>
    split_ifs
    · refine ((hunref c).closeAttempt.forgetIfRequested a).requestRetry ?_
      exact Patient.forgetIfRequested (s := State.closeAttempt
        ((s'.observe (.autoConnOff c.dst)).scanRefresh.observe (.unref c))) hp a
    · exact ((hoff c).fail _).mono (by omega)
    · exact ((hsecured c).fail _).mono (by omega)
    · exact ((hservice c).submit .discovery).mono (by simp [Work.weight])
    · exact (hsecured c).mono (by omega)

lemma connectedWorkCb (h : Loads n s s') (hp : Patient s') (a : Answers) :
    Loads (n + 4) s (s'.connectedWorkCb a) := by
  have hreleased : Loads n s s'.releaseEvent ∧ Patient s'.releaseEvent := by
    unfold State.releaseEvent
    split
    · exact ⟨h, hp⟩
    · exact ⟨h, hp⟩
  exact hreleased.1.completeConnection hreleased.2 a

/-! ### Timers and keys -/

lemma timeoutWorkCb (h : Loads n s s') : Loads (n + 2) s s'.timeoutWorkCb := by
  unfold State.timeoutWorkCb
  split
  · exact h.fail _
  · exact h.mono (Nat.le_add_right _ _)

lemma pairTimeoutCb (h : Loads n s s') : Loads (n + 6) s s'.pairTimeoutCb := by
  have hclosed : Loads n s { s' with pairing := false } := h
  unfold State.pairTimeoutCb
  dsimp only
  split
  · exact (hclosed.fail (-eTimedOut)).retryWorkCb
  · exact hclosed.retryWorkCb.mono (by omega)

lemma pairWorkCb (maxPaired : ℕ) (h : Loads n s s') :
    Loads (n + 4) s (s'.pairWorkCb maxPaired) := by
  have hsooner : Loads n s { s' with retryMs := 1000 } := h
  have hpairing : Loads n s { s' with pairing := true, retryMs := 1000 } := h
  unfold State.pairWorkCb
  split_ifs
  · exact h.mono (Nat.le_add_right _ _)
  · exact hsooner.retryWorkCb
  · exact h.mono (Nat.le_add_right _ _)
  · exact (hpairing.schedule (by decide) .pairTimeout).retryWorkCb

lemma settleWorkCb (h : Loads n s s') : Loads (n + 1) s s'.settleWorkCb := by
  have hsettled : Loads n s { s' with splitSettling := false } := h
  exact hsettled.scanRefresh

/-! ### Connections -/

lemma connectReturned (h : Loads n s s') (err : ℤ) : Loads n s (s'.connectReturned err) := by
  have hdone : Loads n s { s' with connecting := false } := h
  unfold State.connectReturned
  dsimp only
  split
  · exact hdone.schedule (by decide) .scan
  · exact hdone

lemma connectMouse (maxPaired : ℕ) (h : Loads n s s') (hp : Patient s') (addr : Addr)
    (a : Answers) : Loads (n + 1) s (s'.connectMouse maxPaired addr a).1 := by
  have hle : n ≤ n + 1 := Nat.le_add_right _ _
  have hrefused : Loads n s { s' with
      session := {}
      newCandidate := !s'.havePeer
      candidateBonded := false
      failure := 0
      scanWanted := false
      connectingAddress := addr
      stage := .idle } := h
  unfold State.connectMouse
  dsimp only
  split_ifs
  · exact h.mono hle
  · exact h.mono hle
  · exact h.mono hle
  · exact h.mono hle
  · exact hrefused.requestRetry hp
  · exact h.mono hle

lemma connectWorkBegin (maxPaired : ℕ) (h : Loads n s s') (hp : Patient s') (a : Answers) :
    Loads (n + 1) s (s'.connectWorkBegin maxPaired a) := by
  have hstopped := h.stopOwnScan a.scanStop
  have hasked : Loads n s ((s'.stopOwnScan a.scanStop).1.observe
      (.connect (s'.stopOwnScan a.scanStop).1.pendingAddress)) := hstopped
  have hconnected := hasked.connectMouse maxPaired (hp.stopOwnScan a.scanStop)
    (s'.stopOwnScan a.scanStop).1.pendingAddress a
  unfold State.connectWorkBegin
  dsimp only
  split_ifs
  · exact (hstopped.connectReturned _).mono (Nat.le_add_right _ _)
  · exact hconnected
  · exact hconnected.connectReturned _

lemma connectWorkEnd (h : Loads n s s') (hp : Patient s') (a : Answers) :
    Loads (n + 1) s (s'.connectWorkEnd a) := by
  have hfound : Loads n s (({ s' with mouseConn := a.lookup, inConnect := false } :
      State).observe (.lookup s'.pendingAddress a.lookup)) := h
  have hmissed : Loads n s { (({ s' with mouseConn := a.lookup, inConnect := false } :
      State).observe (.lookup s'.pendingAddress a.lookup)).observe
        (.autoConnOff s'.pendingAddress) with stage := .idle } := h
  have hlooked : Loads (n + 1) s (s'.connectMouseLookup s'.pendingAddress a).1 := by
    unfold State.connectMouseLookup
    dsimp only
    split
    · exact hmissed.requestRetry hp
    · exact (hfound.schedule (by decide) .timeout).mono (Nat.le_add_right _ _)
  exact hlooked.connectReturned _

lemma connectWorkCb (maxPaired : ℕ) (h : Loads n s s') (hp : Patient s') (a : Answers) :
    Loads (n + 2) s (s'.connectWorkCb maxPaired a) := by
  unfold State.connectWorkCb
  dsimp only
  split
  · exact (h.connectWorkBegin maxPaired hp a).connectWorkEnd (hp.connectWorkBegin maxPaired a) a
  · exact (h.connectWorkBegin maxPaired hp a).mono (by omega)

end Loads

/-! ### What is kept -/

/-- A peer is saved and bonded, and it is not to be forgotten. -/
structure State.Keeps (s : State) (addr : Addr) : Prop where
  saved : s.havePeer = true
  peer : s.peer = addr
  bonded : addr ∈ s.host.bonds
  wanted : s.forgetRequested = false

/-- What the client keeps from one attempt to the next, with the bonds. -/
def State.kept (s : State) : Bool × Bool × Bool × Addr × Bool × List Addr :=
  (s.initialized, s.clearHeld, s.havePeer, s.peer, s.forgetRequested, s.host.bonds)

/-- The bonds become no more, a saved peer is kept, and no other is saved. -/
structure Calms (s s' : State) : Prop where
  initialized : s'.initialized = s.initialized
  released : s.clearHeld = false → s'.clearHeld = false
  bonds : s'.host.bonds.Sublist s.host.bonds
  unsaved : s.havePeer = false → s'.havePeer = false
  keeps : ∀ addr, s.Keeps addr → s'.Keeps addr

namespace Calms

variable {s s' s'' : State}

lemma refl (s : State) : Calms s s := ⟨rfl, id, List.Sublist.refl _, id, fun _ => id⟩

lemma trans (h : Calms s s') (h' : Calms s' s'') : Calms s s'' where
  initialized := h'.initialized.trans h.initialized
  released := fun hreleased => h'.released (h.released hreleased)
  bonds := h'.bonds.trans h.bonds
  unsaved := fun hunsaved => h'.unsaved (h.unsaved hunsaved)
  keeps addr hkeeps := h'.keeps addr (h.keeps addr hkeeps)

/-- Nothing of it changes. -/
lemma same (h : Calms s s') (heq : s''.kept = s'.kept) : Calms s s'' := by
  simp only [State.kept, Prod.mk.injEq] at heq
  obtain ⟨hinit, hclear, hsaved, hpeer, hforget, hbonds⟩ := heq
  exact h.trans {
    initialized := hinit
    released := hclear.trans
    bonds := hbonds ▸ List.Sublist.refl _
    unsaved := hsaved.trans
    keeps := fun addr hk => ⟨hsaved.trans hk.saved, hpeer.trans hk.peer, hbonds ▸ hk.bonded,
      hforget.trans hk.wanted⟩ }

lemma of_explores (h : Explores s s') : Calms s s' := by
  obtain ⟨requests, subscribed, hhost⟩ := h.host
  refine (refl s).same ?_
  rw [State.kept, hhost, h.initialized, h.clearHeld, h.havePeer, h.peer, h.forgetRequested]
  rfl

lemma background (h : Calms s s') (hb : Background s' s'') : Calms s s'' :=
  h.trans (of_explores hb.explores)

lemma observe (h : Calms s s') (o : Obs) (ho : (s'.host.record o).bonds = s'.host.bonds) :
    Calms s (s'.observe o) := by
  refine h.same ?_
  rw [State.kept, State.host_observe, ho]
  rfl

/-- No peer is kept, and the bonds become no more. -/
lemma of_not_keeps (h : Calms s s') (hnone : ∀ addr, ¬s'.Keeps addr)
    (hinit : s''.initialized = s'.initialized) (hclear : s''.clearHeld = s'.clearHeld)
    (hsaved : s'.havePeer = false → s''.havePeer = false)
    (hbonds : s''.host.bonds.Sublist s'.host.bonds) : Calms s s'' :=
  h.trans ⟨hinit, hclear.trans, hbonds, hsaved, fun addr hk => absurd hk (hnone addr)⟩

lemma unpair_bonds (s : State) (addr : Addr) (err : ℤ) :
    (s.unpair addr err).host.bonds.Sublist s.host.bonds := by
  unfold State.unpair
  rw [State.host_observe]
  simp only [History.record]
  split
  · exact bondsWithout_sublist _ addr
  · exact List.Sublist.refl _

/-! ### The ends of an attempt -/

lemma closeAttempt (h : Calms s s') : Calms s s'.closeAttempt := by
  have hclosed : Calms s { s' with mouseConn := none, failure := 0, stage := .idle } :=
    h.same rfl
  have hended := hclosed.observe .ended rfl
  exact hended.same rfl

/-- What is left to do when the bond of the peer is gone. -/
lemma forgotten_frame (s : State) : Background { s with forgetRequested := false } s.forgotten :=
  (Background.refl _).outputDisconnect.scanRefresh

lemma forgetPeer_bonds (s : State) (a : Answers) :
    (s.forgetPeer a).host.bonds.Sublist s.host.bonds := by
  have hunpaired := unpair_bonds
    (({ s with pairing := false, scanWanted := false } : State).cancel .pairTimeout)
    s.peer a.unpairPeer
  unfold State.forgetPeer
  dsimp only
  split_ifs
  · exact hunpaired
  · rw [(forgotten_frame _).host]
    show ((State.observe _ (.delete a.delete)).host.bonds).Sublist _
    rw [State.host_observe]
    exact hunpaired
  · rw [(forgotten_frame _).host]
    exact List.Sublist.refl _

lemma forgetPeer_same (s : State) (a : Answers) :
    (s.forgetPeer a).initialized = s.initialized ∧ (s.forgetPeer a).clearHeld = s.clearHeld ∧
      (s.havePeer = false → (s.forgetPeer a).havePeer = false) := by
  unfold State.forgetPeer
  dsimp only
  split_ifs
  · exact ⟨rfl, rfl, id⟩
  · have hframe := forgotten_frame { (({ s with pairing := false, scanWanted := false } :
      State).cancel .pairTimeout).unpair s.peer a.unpairPeer |>.observe (.delete a.delete) with
        havePeer := false }
    exact ⟨hframe.initialized, hframe.clearHeld, fun _ => hframe.havePeer⟩
  · have hframe := forgotten_frame (({ s with pairing := false, scanWanted := false } :
      State).cancel .pairTimeout)
    exact ⟨hframe.initialized, hframe.clearHeld, hframe.havePeer.trans⟩

/-- Only a peer that is to be forgotten is forgotten. -/
lemma forgetIfRequested (h : Calms s s') (a : Answers) : Calms s (s'.forgetIfRequested a) := by
  unfold State.forgetIfRequested
  split
  case isFalse => exact h
  case isTrue hforget =>
    obtain ⟨hinit, hclear, hsaved⟩ := forgetPeer_same s' a
    refine h.of_not_keeps (fun addr hk => ?_) hinit hclear hsaved (forgetPeer_bonds s' a)
    exact Bool.false_ne_true (hk.wanted.symm.trans hforget)

/-- The bond that is removed is that of a new mouse. -/
lemma disconnectedWorkCb (hcandidate : s.mouseConn ≠ none → s.newCandidate = true →
      s.havePeer = false) (a : Answers) : Calms s (s.disconnectedWorkCb a) := by
  have hungUp {t : State} (ht : Calms s t) (c : Conn) : Calms s (t.hungUp c a) := by
    have hclosed := (ht.observe (.unref c) rfl).closeAttempt
    have hreset : Calms s
        { (t.observe (.unref c)).closeAttempt with candidateBonded := false } :=
      hclosed.same rfl
    exact ((hreset.background (Background.refl _).outputDisconnect).forgetIfRequested a).background
      (Background.refl _).requestRetry
  rcases s.disconnectedWorkCb_cases a with ⟨-, heq⟩ | ⟨c, t, hc, hunlinks, heq⟩
  · rw [heq]
    exact refl s
  · rw [heq]
    refine hungUp ?_ c
    have hoff := (refl s).observe (.autoConnOff c.dst) rfl
    cases hunlinks with
    | kept => exact hoff
    | unpaired hunpairs =>
      rw [Bool.and_eq_true] at hunpairs
      refine hoff.of_not_keeps (fun addr hk => ?_) rfl rfl id (unpair_bonds _ _ _)
      have hnone := hcandidate (hc ▸ Option.some_ne_none c) hunpairs.1
      exact Bool.false_ne_true (hnone.symm.trans hk.saved)

lemma failureWorkCb (hcandidate : s.mouseConn ≠ none → s.newCandidate = true →
      s.havePeer = false) (a : Answers) : Calms s (s.failureWorkCb a) := by
  have hclosing : Calms s { s with stage := .closing, scanWanted := false } :=
    (refl s).same rfl
  have hidle : Calms s { s with stage := .idle, scanWanted := false, failure := 0 } :=
    (refl s).same rfl
  unfold State.failureWorkCb
  dsimp only
  split
  case h_1 c _ =>
    have hended := hclosing.observe (.disconnect c a.disconnect) rfl
    split
    · exact hended.trans (disconnectedWorkCb (s := State.observe
        { s with stage := .closing, scanWanted := false } (.disconnect c a.disconnect))
        hcandidate a)
    · exact hended
  case h_2 => exact hidle.background (Background.refl _).requestRetry

lemma fail (h : Calms s s') (err : ℤ) : Calms s (s'.fail err) :=
  h.same rfl

lemma completeConnection (a : Answers) : Calms s (s.completeConnection a) := by
  have hoff (c : Conn) : Calms s (s.observe (.autoConnOff c.dst)).scanRefresh :=
    ((refl s).observe _ rfl).background (Background.refl _).scanRefresh
  have hstage {t : State} (ht : Calms s t) (stage : Stage) : Calms s { t with stage } :=
    ht.same rfl
  have hsubmit {t : State} (ht : Calms s t) (w : Work) : Calms s (t.submit w) :=
    ht.same rfl
  unfold State.completeConnection
  dsimp only
  split
  · exact refl s
  case h_2 c _ =>
    have hsecured := (hstage (hoff c) .security).observe (.setSecurity c a.setSecurity) rfl
    split_ifs
    · exact ((((hoff c).observe (.unref c) rfl).closeAttempt).forgetIfRequested a).background
        (Background.refl _).requestRetry
    · exact (hoff c).fail _
    · exact hsecured.fail _
    · exact hsubmit (hstage hsecured .service) .discovery
    · exact hsecured

/-! ### Connections -/

lemma connectMouse (maxPaired : ℕ) (h : Calms s s') (addr : Addr) (a : Answers) :
    Calms s (s'.connectMouse maxPaired addr a).1 := by
  have hbegun (stage : Stage) : Calms s { s' with
      session := {}
      newCandidate := !s'.havePeer
      candidateBonded := false
      failure := 0
      scanWanted := false
      connectingAddress := addr
      stage } := h.same rfl
  have hclosed : Calms s { s' with pairing := false, scanWanted := false } :=
    h.same rfl
  have hentered {t : State} (ht : Calms s t) : Calms s { t with inConnect := true } :=
    ht.same rfl
  unfold State.connectMouse
  dsimp only
  split_ifs
  · exact h
  · exact h
  · exact h
  · exact hclosed
  · exact (hbegun .idle).background (Background.refl _).requestRetry
  · exact hentered ((hbegun .connecting).observe (.attempt addr !s'.havePeer) rfl)

lemma connectWorkBegin (maxPaired : ℕ) (h : Calms s s') (a : Answers) :
    Calms s (s'.connectWorkBegin maxPaired a) := by
  have hstopped := h.background ((Background.refl _).stopOwnScan a.scanStop)
  have hconnected := (hstopped.observe (.connect (s'.stopOwnScan a.scanStop).1.pendingAddress)
    rfl).connectMouse maxPaired (s'.stopOwnScan a.scanStop).1.pendingAddress a
  unfold State.connectWorkBegin
  dsimp only
  split_ifs
  · exact hstopped.background ((Background.refl _).connectReturned _)
  · exact hconnected
  · exact hconnected.background ((Background.refl _).connectReturned _)

lemma connectWorkEnd (h : Calms s s') (a : Answers) : Calms s (s'.connectWorkEnd a) := by
  have hlooked : Calms s (s'.connectMouseLookup s'.pendingAddress a).1 := by
    have hfound : Calms s { s' with mouseConn := a.lookup, inConnect := false } :=
      h.same rfl
    have hobserved := hfound.observe (.lookup s'.pendingAddress a.lookup) rfl
    have hoff := hobserved.observe (.autoConnOff s'.pendingAddress) rfl
    have hidle : Calms s { (({ s' with mouseConn := a.lookup, inConnect := false } :
        State).observe (.lookup s'.pendingAddress a.lookup)).observe
          (.autoConnOff s'.pendingAddress) with stage := .idle } :=
      hoff.same rfl
    unfold State.connectMouseLookup
    dsimp only
    split
    · exact hidle.background (Background.refl _).requestRetry
    · exact hobserved.same rfl
  exact hlooked.background ((Background.refl _).connectReturned _)

lemma connectWorkCb (maxPaired : ℕ) (h : Calms s s') (a : Answers) :
    Calms s (s'.connectWorkCb maxPaired a) := by
  unfold State.connectWorkCb
  dsimp only
  split
  · exact (h.connectWorkBegin maxPaired a).connectWorkEnd a
  · exact h.connectWorkBegin maxPaired a

/-- The Clear key has been released before its work runs. -/
lemma clearWorkCb_released (hreleased : s.clearHeld = false) (a : Answers) :
    s.clearWorkCb a = s := by
  unfold State.clearWorkCb
  exact if_pos (by rw [hreleased]; rfl)

/-! ### Callbacks and keys -/

lemma connectedCb (c : Conn) (err : ℕ) :
    Calms s ((s.observe (.connected c err)).connectedCb c err) := by
  have hobserved := (refl s).observe (.connected c err) rfl
  unfold State.connectedCb
  split
  · have hnoted : Calms s { s.observe (.connected c err) with
        connectedEventConn := some c, connectedError := err } := hobserved.same rfl
    exact (hnoted.observe (.ref c) rfl).same rfl
  · exact hobserved

lemma disconnectedCb (c : Conn) : Calms s ((s.observe (.disconnected c)).disconnectedCb c) := by
  have hobserved := (refl s).observe (.disconnected c) rfl
  unfold State.disconnectedCb
  split
  · exact hobserved.same rfl
  · exact hobserved

lemma pairingCompleteCb (c : Conn) (bonded : Bool) : Calms s (s.pairingCompleteCb c bonded) := by
  have hnoted : Calms s { s with candidateBonded := bonded } := (refl s).same rfl
  unfold State.pairingCompleteCb
  dsimp only
  split_ifs
  · exact hnoted.fail _
  · exact hnoted
  · exact refl s

/-- The Clear key is released. -/
lemma zmkBleMouseClearHold :
    Calms s ((s.observe (.clearKey false)).zmkBleMouseClearHold false) :=
  ((refl s).observe (.clearKey false) rfl).trans
    ⟨rfl, fun _ => rfl, List.Sublist.refl _, id, fun _ hk => { hk with }⟩

/-! ### Work -/

/-- The worker runs an item, which neither forgets the peer nor registers another one. -/
lemma run (maxPaired : ℕ) (hs : Coherent s) (hreleased : s.clearHeld = false)
    (hknown : s.Live → s.newCandidate = false) {w : Work} {rest : List Work}
    (hq : s.work.queue = w :: rest) (a : Answers) :
    Calms s ((s.take w rest).run maxPaired w a) := by
  have hmem : w ∈ s.work.queue := hq ▸ List.mem_cons_self
  have hinit : (s.take w rest).initialized = true := hs.initialized_of_mem hmem
  have hcandidate : s.mouseConn ≠ none → s.newCandidate = true → s.havePeer = false :=
    fun hconn => hs.candidate (.inl hconn)
  have hqueue : Calms s { s with work := { s.work with queue := rest } } := (refl s).same rfl
  have htake : Calms s (s.take w rest) := hqueue.observe (.ran w) rfl
  have hrefl := Background.refl (s.take w rest)
  cases w with
  | discovery =>
    have hstage (hlive : s.Live) : s.stage.Exploring := ((hs.token hlive).discovery hmem).2
    rcases discoveryWorkCb_cases hinit hstage a with hexplores | ⟨c, index, -, hlive, -, hfinishes⟩
    · exact htake.trans (of_explores hexplores)
    · show Calms s ((s.take .discovery rest).discoveryWorkCb a)
      generalize (s.take .discovery rest).discoveryWorkCb a = t at hfinishes ⊢
      cases hfinishes with
      | known => exact htake.same rfl
      | candidate _ hnew => exact absurd ((hknown hlive).symm.trans hnew) Bool.false_ne_true
  | failure =>
    exact htake.trans (failureWorkCb (s := s.take .failure rest) hcandidate a)
  | retry => exact htake.background hrefl.retryWorkCb
  | timeout => exact htake.trans (of_explores ((Explores.refl _).timeoutWorkCb hinit))
  | pairTimeout => exact htake.trans (of_explores ((Explores.refl _).pairTimeoutCb hinit))
  | connected => exact (htake.background hrefl.releaseEvent).trans (completeConnection a)
  | disconnected =>
    exact htake.trans (disconnectedWorkCb (s := s.take .disconnected rest) hcandidate a)
  | pair => exact htake.background (hrefl.pairWorkCb maxPaired)
  | clear =>
    show Calms s ((s.take .clear rest).clearWorkCb a)
    rw [clearWorkCb_released (s := s.take .clear rest) hreleased a]
    exact htake
  | scan => exact htake.background (hrefl.scanWorkCb a)
  | connect => exact htake.connectWorkCb maxPaired a
  | settle => exact htake.background hrefl.settleWorkCb
  | output => exact htake

end Calms

/-! ### A peer that is not forgotten -/

/-- A peer is saved and bonded, and nothing is on the way to forget it. -/
structure Holding (addr : Addr) (s : State) : Prop where
  coherent : Coherent s
  initialized : s.initialized = true
  released : s.clearHeld = false
  keeps : s.Keeps addr

namespace Holding

variable {maxPaired : ℕ} {addr : Addr} {s s' : State} {l : Label}

/-- An attempt is one for the saved peer. -/
lemma newCandidate (h : Holding addr s) (hlive : s.Live) : s.newCandidate = false :=
  Bool.eq_false_of_not_eq_true fun hnew =>
    Bool.false_ne_true ((h.coherent.candidate (.inl hlive.1) hnew).symm.trans h.keeps.saved)

/-- Every step keeps the peer, unless the Clear key is pressed. -/
theorem step (h : Holding addr s) (hl : l ≠ .clearHold true) (hstep : Step maxPaired s l s') :
    Holding addr s' := by
  have hs' := h.coherent.step hstep
  have hstarted : s.started = true := h.coherent.start.symm.trans h.initialized
  have hrefl := Calms.refl s
  have hallows := hstep.1
  -- what calms the client keeps the peer
  have hcalm (hcalms : Calms s s') : Holding addr s' :=
    ⟨hs', hcalms.initialized.trans h.initialized, hcalms.released h.released,
      hcalms.keeps _ h.keeps⟩
  cases alters_of_step h.coherent hstep with
  | explores he => exact hcalm (.of_explores he)
  | @work a w rest _ hq =>
    exact hcalm (Calms.run maxPaired h.coherent h.released h.newCandidate hq a)
  | @connectBegin a rest _ hq =>
    have hqueue : Calms s { s with work := { s.work with queue := rest } } := hrefl.same rfl
    exact hcalm ((hqueue.observe (.ran .connect) rfl).connectWorkBegin maxPaired a)
  | connectEnd => exact hcalm (hrefl.connectWorkEnd _)
  | connected c err => exact hcalm (Calms.connectedCb c err)
  | disconnected c => exact hcalm (Calms.disconnectedCb c)
  | pairingComplete c bonded =>
    have hbonded : addr ∈ (s.observe (.pairingComplete c bonded)).host.bonds := by
      rw [State.host_observe]
      show addr ∈ (if bonded = true ∧ c.dst ∉ s.host.bonds then s.host.bonds ++ [c.dst]
        else s.host.bonds)
      split
      · exact List.mem_append_left _ h.keeps.bonded
      · exact h.keeps.bonded
    have hkeeps : (s.observe (.pairingComplete c bonded)).Keeps addr :=
      { h.keeps with bonded := hbonded }
    have hcalms := Calms.pairingCompleteCb (s := s.observe (.pairingComplete c bonded)) c bonded
    exact ⟨hs', hcalms.initialized.trans h.initialized, hcalms.released h.released,
      hcalms.keeps _ hkeeps⟩
  | clearHold pressed =>
    obtain rfl : pressed = false := Bool.eq_false_of_not_eq_true fun heq => hl (heq ▸ rfl)
    exact hcalm Calms.zmkBleMouseClearHold
  | settings => exact absurd (hstarted.symm.trans hallows) Bool.noConfusion
  | start =>
    unfold State.zmkBleMouseStart
    rw [if_pos hstarted]
    exact h

end Holding

/-! ### Unwinding -/

/-- The worker takes the next item, and the host answers plainly. -/
lemma step_of_queue {s : State} (maxPaired : ℕ) (hgap : s.inConnect = false) {w : Work}
    {rest : List Work} (hq : s.work.queue = w :: rest) :
    Step maxPaired s (.work {}) ((s.take w rest).run maxPaired w {}) := by
  refine ⟨fun c hc => absurd hc (Option.not_mem_none c), ?_⟩
  simp [State.step, hgap, hq]

/-- The client has no attempt, or the end of its link is to be handled; and the Clear key is not
held. -/
structure Unwinds (s : State) : Prop where
  coherent : Coherent s
  patient : Patient s
  gap : s.inConnect = false
  released : s.clearHeld = false
  gone : s.mouseConn = none ∨ s.stage = .closing ∧ .disconnected ∈ s.work.queue

namespace Unwinds

variable {maxPaired : ℕ} {s s' : State}

lemma not_live (h : Unwinds s) : ¬s.Live := by
  rintro ⟨hconn, -, hopen⟩
  rcases h.gone with hnone | ⟨hclosing, -⟩
  · exact hconn hnone
  · exact hopen hclosing

/-- A host that finds no connection lets no attempt begin. -/
lemma connectWorkCb_mouseConn (maxPaired : ℕ) (hnone : s.mouseConn = none) :
    (s.connectWorkCb maxPaired {}).mouseConn = none := by
  have hbegun := State.connectWorkBegin_mouseConn maxPaired hnone {}
  unfold State.connectWorkCb
  dsimp only
  split
  · unfold State.connectWorkEnd
    exact (((Background.refl _).connectReturned _).mouseConn).trans rfl
  · exact hbegun

lemma connectWorkEnd_inConnect (s : State) (a : Answers) :
    (s.connectWorkEnd a).inConnect = false := by
  unfold State.connectWorkEnd State.connectMouseLookup
  dsimp only
  split
  · exact (((Background.refl _).connectReturned _).inConnect).trans
      (((Background.refl _).requestRetry).inConnect.trans rfl)
  · exact (((Background.refl _).connectReturned _).inConnect).trans rfl

lemma connectWorkCb_inConnect (maxPaired : ℕ) (a : Answers) :
    (s.connectWorkCb maxPaired a).inConnect = false := by
  unfold State.connectWorkCb
  dsimp only
  split
  case isTrue => exact connectWorkEnd_inConnect _ a
  case isFalse hgap => exact Bool.eq_false_of_not_eq_true hgap

/-- What an item leaves when the host answers plainly. -/
structure Ran (s s' : State) : Prop where
  conn : s.mouseConn = none → s'.mouseConn = none
  gap : s'.inConnect = false
  calms : Calms s s'
  loads : s'.load < s.load

lemma ran_of {w : Work} {rest : List Work} {n : ℕ} (hgap : s.inConnect = false)
    (hq : s.work.queue = w :: rest) (hconn : s'.mouseConn ≠ none → s.mouseConn ≠ none)
    (hgap' : s'.inConnect = s.inConnect) (hcalms : Calms s s')
    (hload : Loads n (s.take w rest) s') (hn : n < w.weight) : Ran s s' := by
  have hweight : (s.take w rest).load + w.weight = s.load := WorkQueue.load_take hq
  have hle : s'.load ≤ (s.take w rest).load + n := hload
  refine ⟨fun hnone => ?_, hgap'.trans hgap, hcalms, by omega⟩
  by_contra hsome
  exact hconn hsome hnone

lemma ran_of_aside {w : Work} {rest : List Work} {n : ℕ} (hgap : s.inConnect = false)
    (hq : s.work.queue = w :: rest) (ha : Aside (s.take w rest) s') (hcalms : Calms s s')
    (hload : Loads n (s.take w rest) s') (hn : n < w.weight) : Ran s s' :=
  ran_of hgap hq ha.mouseConn ha.inConnect hcalms hload hn

lemma ran_of_explores {w : Work} {rest : List Work} {n : ℕ} (hgap : s.inConnect = false)
    (hq : s.work.queue = w :: rest) (he : Explores (s.take w rest) s') (hcalms : Calms s s')
    (hload : Loads n (s.take w rest) s') (hn : n < w.weight) : Ran s s' :=
  ran_of hgap hq (fun hconn => he.mouseConn.symm.trans_ne hconn) he.inConnect hcalms hload hn

lemma ran_of_background {w : Work} {rest : List Work} {n : ℕ} (hgap : s.inConnect = false)
    (hq : s.work.queue = w :: rest) (hb : Background (s.take w rest) s') (hcalms : Calms s s')
    (hload : Loads n (s.take w rest) s') (hn : n < w.weight) : Ran s s' :=
  ran_of_explores hgap hq hb.explores hcalms hload hn

/-- Every item that the worker runs makes the load smaller. -/
lemma ran (maxPaired : ℕ) (h : Unwinds s) {w : Work} {rest : List Work}
    (hq : s.work.queue = w :: rest) : Ran s ((s.take w rest).run maxPaired w {}) := by
  have hmem : w ∈ s.work.queue := hq ▸ List.mem_cons_self
  have hinit : (s.take w rest).initialized = true := h.coherent.initialized_of_mem hmem
  have hcalms : Calms s ((s.take w rest).run maxPaired w {}) :=
    Calms.run maxPaired h.coherent h.released (fun hlive => (h.not_live hlive).elim) hq {}
  have hp : Patient (s.take w rest) := h.patient
  have hrefl := Background.refl (s.take w rest)
  have hload := Loads.refl (s.take w rest)
  have haside := Aside.refl (s.take w rest)
  have hexplores := Explores.refl (s.take w rest)
  cases w with
  | discovery =>
    have hsame : (s.take .discovery rest).run maxPaired .discovery {} = s.take .discovery rest :=
      discoveryWorkCb_of_not_live (s := s.take .discovery rest) h.not_live {}
    rw [hsame] at hcalms ⊢
    exact ran_of_background h.gap hq hrefl hcalms hload (by decide)
  | failure =>
    exact ran_of_aside h.gap hq (Aside.failureWorkCb (s := s.take .failure rest) h.gap {}) hcalms
      (hload.failureWorkCb hp (by decide)) (by decide)
  | retry =>
    exact ran_of_background h.gap hq hrefl.retryWorkCb hcalms hload.retryWorkCb (by decide)
  | timeout =>
    exact ran_of_explores h.gap hq (hexplores.timeoutWorkCb hinit) hcalms hload.timeoutWorkCb
      (by decide)
  | pairTimeout =>
    exact ran_of_explores h.gap hq (hexplores.pairTimeoutCb hinit) hcalms hload.pairTimeoutCb
      (by decide)
  | connected =>
    exact ran_of_aside h.gap hq (Aside.connectedWorkCb {}) hcalms (hload.connectedWorkCb hp {})
      (by decide)
  | disconnected =>
    exact ran_of_aside h.gap hq (haside.disconnectedWorkCb {}) hcalms
      (hload.disconnectedWorkCb hp {}) (by decide)
  | pair =>
    exact ran_of_background h.gap hq (hrefl.pairWorkCb maxPaired) hcalms
      (hload.pairWorkCb maxPaired) (by decide)
  | clear =>
    have hsame : (s.take .clear rest).run maxPaired .clear {} = s.take .clear rest :=
      Calms.clearWorkCb_released (s := s.take .clear rest) h.released {}
    rw [hsame] at hcalms ⊢
    exact ran_of_background h.gap hq hrefl hcalms hload (by decide)
  | scan =>
    exact ran_of_background h.gap hq (hrefl.scanWorkCb {}) hcalms (hload.scanWorkCb {})
      (by decide)
  | connect =>
    have hnone : s.mouseConn = none :=
      by_contra fun hconn => (h.coherent.connect hmem).1 (.inl hconn)
    refine ran_of h.gap hq (fun hconn => ?_) ?_ hcalms (hload.connectWorkCb maxPaired hp {})
      (by decide)
    · exact absurd (connectWorkCb_mouseConn (s := s.take .connect rest) maxPaired hnone) hconn
    · exact (connectWorkCb_inConnect maxPaired {}).trans h.gap.symm
  | settle =>
    exact ran_of_background h.gap hq hrefl.settleWorkCb hcalms hload.settleWorkCb (by decide)
  | output => exact ran_of_background h.gap hq hrefl hcalms hload (by decide)

/-- An attempt that is given up goes on being given up. -/
lemma gone_of_run (h : Unwinds s) {w : Work} {rest : List Work} (hq : s.work.queue = w :: rest)
    (hstep : Step maxPaired s (.work {}) ((s.take w rest).run maxPaired w {})) :
    ((s.take w rest).run maxPaired w {}).mouseConn = none ∨
      ((s.take w rest).run maxPaired w {}).stage = .closing ∧
        .disconnected ∈ ((s.take w rest).run maxPaired w {}).work.queue := by
  by_cases hconn' : ((s.take w rest).run maxPaired w {}).mouseConn = none
  · exact .inl hconn'
  refine .inr ?_
  have hconn : s.mouseConn ≠ none := fun hnone => hconn' ((h.ran maxPaired hq).conn hnone)
  obtain ⟨hclosing, hmem⟩ := h.gone.resolve_left hconn
  have hattempts := attempts_eq_of_conn h.coherent hconn hstep
  have hrank := rank_le_of_step h.coherent hstep hattempts
  have hstage : ((s.take w rest).run maxPaired w {}).stage = .closing := by
    have hbusy := (h.coherent.step hstep).busy hconn'
    rw [hclosing] at hrank
    revert hrank hbusy
    generalize ((s.take w rest).run maxPaired w {}).stage = stage
    cases stage <;> simp [Stage.rank]
  have hopen : ¬((s.take w rest).run maxPaired w {}).Resolved := by
    rintro (hnone | hready)
    · exact hconn' hnone
    · exact Stage.noConfusion (hstage.symm.trans hready)
  have hne : Work.disconnected ≠ w := by
    rintro rfl
    refine hconn' ?_
    show ((s.take .disconnected rest).disconnectedWorkCb {}).mouseConn = none
    exact State.disconnectedWorkCb_mouseConn _ _
  exact ⟨hstage, (ahead_lt_of_run h.coherent hconn hq hopen hne hmem).1⟩

/-- The worker runs the next item. -/
lemma work (h : Unwinds s) (hbusy : s.work.queue ≠ []) :
    ∃ s', Step maxPaired s (.work {}) s' ∧ Unwinds s' ∧ Calms s s' ∧ s'.load < s.load := by
  obtain ⟨w, rest, hq⟩ := List.exists_cons_of_ne_nil hbusy
  have hstep := step_of_queue maxPaired h.gap hq
  have hran := h.ran maxPaired hq
  exact ⟨_, hstep, ⟨h.coherent.step hstep, h.patient.step hstep, hran.gap,
    hran.calms.released h.released, h.gone_of_run hq hstep⟩, hran.calms, hran.loads⟩

end Unwinds

/-- The client has no attempt, and nothing waits for the worker. -/
structure Resting (s : State) : Prop where
  conn : s.mouseConn = none
  gap : s.inConnect = false
  queue : s.work.queue = []
  released : s.clearHeld = false

/-- The steps on the way to rest. -/
def Calming (maxPaired : ℕ) (s : State) (l : Label) (s' : State) : Prop :=
  Step maxPaired s l s' ∧ Calms s s'

section Rest

variable {maxPaired : ℕ} {s : State}

lemma calms_of_run {labels : List Label} {t : State}
    (hrun : Transition.Run (Calming maxPaired) s labels t) : Calms s t :=
  hrun.invariant (Calms s) (Calms.refl s) fun _ _ _ h hstep => h.trans hstep.2

/-- The worker runs everything that waits. -/
lemma Unwinds.exists_resting (maxPaired : ℕ) (h : Unwinds s) :
    ∃ labels t, Transition.Run (Calming maxPaired) s labels t ∧ Resting t := by
  have hprogress : Transition.Progress (fun t l t' => Calming maxPaired t l t' ∧ Unwinds t' ∧
      t'.load < t.load) (fun _ => True) Unwinds (fun t => t.work.queue = [] ∧ Unwinds t)
      State.load :=
    { keeps := fun _ _ hstep _ => hstep.2.1
      le := fun _ _ hstep _ => hstep.2.2.le
      lt := fun _ _ hstep _ _ => hstep.2.2 }
  obtain ⟨labels, t, hrun, ⟨hq, ht⟩, -⟩ := hprogress.reachable (fun t ht hnot => by
    have hbusy : t.work.queue ≠ [] := fun hq => hnot ⟨hq, ht⟩
    obtain ⟨t', hstep, ht', hcalms, hload⟩ := ht.work hbusy
    exact ⟨_, t', trivial, ⟨hstep, hcalms⟩, ht', hload⟩) h
  have hconn : t.mouseConn = none := ht.gone.resolve_right fun hclosing => by
    rw [hq] at hclosing
    exact List.not_mem_nil hclosing.2
  exact ⟨labels, t, hrun.mono fun _ _ _ hstep => hstep.1, ⟨hconn, ht.gap, hq, ht.released⟩⟩

/-- The lookup of a connection that the worker is at finds none. -/
lemma exists_gap_closed (maxPaired : ℕ) (hs : Coherent s) (hp : Patient s) :
    ∃ labels t, Transition.Run (Calming maxPaired) s labels t ∧ Coherent t ∧ Patient t ∧
      t.inConnect = false := by
  by_cases hin : s.inConnect = true
  case neg =>
    exact ⟨[], s, .nil s, hs, hp, Bool.eq_false_of_not_eq_true hin⟩
  have hstep : Step maxPaired s (.connectEnd {}) (s.connectWorkEnd {}) :=
    ⟨fun c hc => absurd hc (Option.not_mem_none c), if_pos hin⟩
  exact ⟨_, _, .single ⟨hstep, (Calms.refl s).connectWorkEnd {}⟩, hs.step hstep, hp.step hstep,
    Unwinds.connectWorkEnd_inConnect s {}⟩

/-- The Clear key is released. -/
lemma exists_released (maxPaired : ℕ) (hs : Coherent s) (hp : Patient s)
    (hgap : s.inConnect = false) :
    ∃ t, Calming maxPaired s (.clearHold false) t ∧ Coherent t ∧ Patient t ∧
      t.inConnect = false ∧ t.clearHeld = false := by
  have hstep : Step maxPaired s (.clearHold false)
      ((s.observe (.clearKey false)).zmkBleMouseClearHold false) := ⟨trivial, rfl⟩
  exact ⟨_, ⟨hstep, Calms.zmkBleMouseClearHold⟩, hs.step hstep, hp.step hstep, hgap, rfl⟩

/-- The link of an attempt is lost. -/
lemma exists_unwinds (maxPaired : ℕ) (hs : Coherent s) (hp : Patient s)
    (hgap : s.inConnect = false) (hreleased : s.clearHeld = false) :
    ∃ labels t, Transition.Run (Calming maxPaired) s labels t ∧ Unwinds t := by
  by_cases hconn : s.mouseConn = none
  · exact ⟨[], s, .nil s, ⟨hs, hp, hgap, hreleased, .inl hconn⟩⟩
  obtain ⟨c, hc⟩ := Option.ne_none_iff_exists'.1 hconn
  have hstep : Step maxPaired s (.disconnected c)
      ((s.observe (.disconnected c)).disconnectedCb c) := ⟨trivial, rfl⟩
  have hcb : (s.observe (.disconnected c)).disconnectedCb c =
      ({ s.observe (.disconnected c) with stage := .closing, scanWanted := false } :
        State).submit .disconnected := if_pos (decide_eq_true hc)
  have hcalms : Calms s ((s.observe (.disconnected c)).disconnectedCb c) := Calms.disconnectedCb c
  have hgone : ((s.observe (.disconnected c)).disconnectedCb c).stage = .closing := by
    rw [hcb]
    rfl
  refine ⟨_, _, .single ⟨hstep, hcalms⟩, ⟨hs.step hstep, hp.step hstep, ?_,
    hcalms.released hreleased, .inr ⟨hgone, Abides.disconnected_mem hs hc⟩⟩⟩
  rw [hcb]
  exact hgap

/-- The client can come to rest: the Clear key is released, and the link of an attempt is lost. -/
theorem exists_resting (maxPaired : ℕ) (hs : Coherent s) (hp : Patient s) :
    ∃ labels t, Transition.Run (Calming maxPaired) s labels t ∧ Resting t := by
  obtain ⟨first, t, hfirst, ht, hpt, hgap⟩ := exists_gap_closed maxPaired hs hp
  obtain ⟨u, hstep, hu, hpu, hgapu, hreleased⟩ := exists_released maxPaired ht hpt hgap
  obtain ⟨next, v, hnext, hv⟩ := exists_unwinds maxPaired hu hpu hgapu hreleased
  obtain ⟨last, w, hlast, hw⟩ := hv.exists_resting maxPaired
  exact ⟨_, w, ((hfirst.snoc hstep).append hnext).append hlast, hw⟩

end Rest

end BleMouse.Client
