/-
Scanning and connecting exclude each other, whenever advertisements arrive.

A step of `Client/System.lean` runs an item of work at once.  Here the items are interrupted by
advertisements (`Client/Interrupts.lean`), and the invariants of the steps still hold whenever
no item runs:

* `Sound`: the invariants between two items;
* `Item.triple_body`: every item keeps them, whatever is heard while it runs;
* `scan_and_connection_exclude`: what they say of a run.
-/
import BleMouse.Client.Interrupts

namespace BleMouse.Client

open Prog

/-! ### Advertisements -/

namespace State

variable (s : State) (adv : Advertisement)

lemma background_hear : Background s (s.hear adv) :=
  (Background.refl s).zmkBleMouseAdvertisement adv.addr adv.type adv.data adv.now

lemma hear_scanWanted : (s.hear adv).scanWanted = s.scanWanted := by
  unfold hear zmkBleMouseAdvertisement centralConnect
  dsimp only
  split_ifs <;> rfl

/-- Nothing but the flag depends on who owns the scan. -/
lemma hear_scanOwned (scanOwned : Bool) :
    State.hear { s with scanOwned } adv = { s.hear adv with scanOwned } := by
  unfold hear zmkBleMouseAdvertisement centralConnect
  dsimp only
  split_ifs <;> rfl

lemma hear_stage (stage : Stage) :
    State.hear { s with stage } adv = { s.hear adv with stage } := by
  unfold hear zmkBleMouseAdvertisement centralConnect
  dsimp only
  split_ifs <;> rfl

/-- While a request is under way, an advertisement is at most noted. -/
lemma hear_of_connecting (hconnecting : s.connecting = true) :
    ∃ advertisers, s.hear adv = { s with advertisers } := by
  have hbusy (advertisers : List Advertiser) (addr : Addr) :
      State.centralConnect { s with advertisers } addr = { s with advertisers } := by
    refine if_pos ?_
    show (!s.initialized || s.connecting) = true
    rw [hconnecting, Bool.or_true]
  unfold hear zmkBleMouseAdvertisement
  dsimp only
  split_ifs
  · exact ⟨s.advertisers, rfl⟩
  · exact ⟨s.advertisers, rfl⟩
  · exact ⟨s.advertisers, hbusy s.advertisers _⟩
  · exact ⟨s.advertisers, rfl⟩
  · exact ⟨s.advertisers, rfl⟩
  · exact ⟨_, hbusy _ _⟩
  · exact ⟨_, rfl⟩

end State

/-! ### Between two items -/

/-- The invariants of the client, while no item runs. -/
structure Sound (s : State) : Prop extends Orderly s where
  outside : s.inConnect = false

namespace Sound

variable {s : State}

lemma advertisers (h : Sound s) (advertisers : List Advertiser) : Sound { s with advertisers } where
  toOrderly := { h.toOrderly with }
  outside := h.outside

lemma stable : Stable State.hear Sound := fun s adv h => {
  toOrderly := h.toOrderly.zmkBleMouseAdvertisement adv.addr adv.type adv.data adv.now
  outside := (s.background_hear adv).inConnect.trans h.outside }

lemma of_aside (h : Sound s) {t : State} (ha : Aside s t) : Sound t where
  toOrderly := h.toOrderly.of_aside ha
  outside := ha.inConnect.trans h.outside

lemma stopOwnScan (h : Sound s) (answer : ℤ) : Sound (s.stopOwnScan answer).1 where
  toOrderly := h.toOrderly.stopOwnScan answer
  outside := ((Background.refl s).stopOwnScan answer).inConnect.trans h.outside

lemma scheduleScan (h : Sound s) (delay : ℕ) : Sound (s.schedule .scan delay) :=
  h.of_aside ((Aside.refl s).schedule .scan delay Work.noConfusion)

end Sound

/-! ### The own scan -/

/-- The own scan is active, and its flag is down. -/
structure Held (s : State) : Prop where
  down : s.scanOwned = false
  sound : Sound { s with scanOwned := true }

namespace Held

lemma stable : Stable State.hear Held := fun s adv h => {
  down := (congrArg State.scanOwned (s.hear_scanOwned adv s.scanOwned)).trans h.down
  sound := by
    have hheard := Sound.stable { s with scanOwned := true } adv h.sound
    rwa [s.hear_scanOwned adv true] at hheard }

variable {s : State} {answer : ℤ}

/-- The scan could not be stopped. -/
lemma stay (h : Held s) (hfails : answer ≠ 0 ∧ answer ≠ -eAlready) :
    Held (s.observe (.scanStop answer)) := by
  have hstopped := h.sound.stopOwnScan answer
  unfold State.stopOwnScan at hstopped
  dsimp only at hstopped
  rw [if_neg (not_not.2 rfl), if_pos hfails] at hstopped
  exact ⟨h.down, hstopped⟩

/-- The scan is stopped. -/
lemma stop (h : Held s) (hok : ¬(answer ≠ 0 ∧ answer ≠ -eAlready)) :
    Sound (s.observe (.scanStop answer)) := by
  have hstopped := h.sound.stopOwnScan answer
  have hdown : s = { s with scanOwned := false } := by rw [← h.down]
  unfold State.stopOwnScan at hstopped
  dsimp only at hstopped
  rw [if_neg (not_not.2 rfl), if_neg hok] at hstopped
  rw [hdown]
  exact hstopped

end Held

/-- A scan is started while the client looks for a mouse. -/
lemma Sound.started {s : State} (h : Sound s) (hwanted : s.scanWanted = true)
    (hdown : s.scanOwned = false) (answer : ℤ) :
    if answer = 0 then Held (s.observe (.scanStart answer))
    else Sound (s.observe (.scanStart answer)) := by
  have hstarted := h.scanStart hwanted hdown answer
  split
  case isTrue hok =>
    rw [decide_eq_true hok] at hstarted
    exact ⟨hdown, hstarted, h.outside⟩
  case isFalse herr =>
    rw [decide_eq_false herr, ← hdown] at hstarted
    exact ⟨hstarted, h.outside⟩

namespace Item

/-- An access that keeps the invariants. -/
lemma triple_modify {f : State → State} (h : ∀ s, Sound s → Sound (f s)) :
    Triple State.hear Sound (modify f) fun _ => Sound := .modify Sound.stable h

lemma triple_stopOwnScan (answer : ℤ) :
    Triple State.hear Sound (stopOwnScan answer) fun _ s => Sound s := by
  unfold stopOwnScan
  refine .bind (Q := fun before s => before.scanOwned = false ∧ Sound s ∨
    before.scanOwned = true ∧ Held s) (.exchange Sound.stable fun s h => ?_) fun before => ?_
  · cases howned : s.scanOwned
    · refine .inl ⟨rfl, ?_⟩
      rwa [← howned]
    · refine .inr ⟨rfl, rfl, ?_⟩
      show Sound { s with scanOwned := true }
      rwa [← howned]
  split
  case isTrue hnone =>
    refine .pure fun s h => ?_
    rcases h with ⟨-, h⟩ | ⟨hown, -⟩
    · exact h
    · exact absurd hown hnone
  case isFalse hown =>
    refine Triple.conseq (P := Held) (Q := fun _ s => Sound s) ?_ ?_ fun _ _ => id
    · by_cases hfails : answer ≠ 0 ∧ answer ≠ -eAlready
      · rw [if_pos hfails]
        refine .bind (Q := fun _ => Held) (.modify Held.stable fun s h => h.stay hfails) fun _ => ?_
        exact .bind (.modify Held.stable fun s h => h.sound) fun _ => .pure fun _ => id
      · rw [if_neg hfails]
        exact .bind (.modify Held.stable fun s h => h.stop hfails) fun _ => .pure fun _ => id
    · rintro s (⟨hnone, -⟩ | ⟨-, h⟩)
      · exact absurd (not_not.1 hown) (by rw [hnone]; exact Bool.false_ne_true)
      · exact h

/-- Looking at the transports changes nothing. -/
lemma triple_splitReady {P : State → Prop} (hP : Stable State.hear P)
    (transports : List TransportStatus) :
    Triple State.hear P (splitReady transports) fun _ => P :=
  .bind (.look hP fun _ => id) fun _ => .pure fun _ => id

lemma triple_scheduleScan (delay : ℕ) :
    Triple State.hear Sound (modify (·.schedule .scan delay)) fun _ => Sound :=
  triple_modify fun _ h => h.scheduleScan delay

lemma triple_scanWorkCb (a : Answers) :
    Triple State.hear Sound (scanWorkCb a) fun _ => Sound := by
  have hwanted (needed : Bool) : Stable State.hear fun s => s.scanWanted = needed :=
    fun s adv h => (s.hear_scanWanted adv).trans h
  have hdown : Stable State.hear fun s => s.scanOwned = false :=
    fun s adv h => (congrArg State.scanOwned (s.hear_scanOwned adv s.scanOwned)).trans h
  unfold scanWorkCb
  refine .bind (Q := fun _ => Sound) (.look Sound.stable fun _ => id) fun s => ?_
  split
  case isTrue => exact .pure fun _ => id
  case isFalse =>
  refine .bind (Q := fun before s => Sound s ∧ s.scanWanted = before.scanWanted)
    (.look Sound.stable fun s h => ⟨h, rfl⟩) fun before => ?_
  dsimp only
  refine .bind (Q := fun ready s => Sound s ∧ s.scanWanted = before.scanWanted ∧
    (ready = true → before.scanWanted = true)) ?_ fun ready => ?_
  · unfold neededAndReady
    split
    case isTrue hneeded =>
      exact (triple_splitReady (Sound.stable.and (hwanted _)) _).conseq (fun _ => id)
        fun _ _ h => ⟨h.1, h.2, fun _ => hneeded⟩
    case isFalse => exact .pure fun s h => ⟨h.1, h.2, fun hready => Bool.noConfusion hready⟩
  cases ready
  case false =>
    refine .bind (Q := fun _ => Sound) ((triple_stopOwnScan a.scanStop).conseq (fun _ h => h.1)
      fun _ _ => id) fun _ => ?_
    exact .onlyIf (fun _ => triple_scheduleScan 1000) fun _ => id
  refine .bind (Q := fun before s => Sound s ∧ s.scanWanted = true ∧
    (s.scanOwned = before.scanOwned)) ?_ fun before => ?_
  · exact (Triple.look (Sound.stable.and (hwanted true)) (fun s h => ⟨h.1, h.2, rfl⟩)).conseq
      (fun s h => ⟨h.1, h.2.1.trans (h.2.2 rfl)⟩) fun _ _ => id
  split
  case isTrue => exact .pure fun s h => h.1
  case isFalse hown =>
  have hstart : Triple State.hear
      (fun s => Sound s ∧ s.scanWanted = true ∧ s.scanOwned = before.scanOwned)
      (modify (·.observe (.scanStart a.scanStart)))
      fun _ s => if a.scanStart = 0 then Held s else Sound s := by
    refine Triple.conseq (.modify (Sound.stable.and ((hwanted true).and hdown))
      fun s h => h.1.started h.2.1 h.2.2 _) (fun s h => ⟨h.1, h.2.1, ?_⟩) fun _ _ => id
    exact h.2.2.trans (Bool.eq_false_of_not_eq_true hown)
  refine .bind hstart fun _ => ?_
  by_cases hok : a.scanStart = 0
  · rw [if_neg (not_not.2 hok)]
    simp only [if_pos hok]
    refine .bind (Q := fun _ => Sound) (.modify Held.stable fun s h => h.sound) fun _ => ?_
    refine .bind (triple_splitReady Sound.stable _) fun ready => ?_
    split
    · exact .bind (triple_stopOwnScan _) fun _ => triple_scheduleScan 1000
    · exact .pure fun _ => id
  · rw [if_pos hok]
    simp only [if_neg hok]
    exact triple_scheduleScan 1000

end Item

/-! ### Requests -/

/-- No attempt is under way. -/
def Free (s : State) : Prop := Sound s ∧ s.mouseConn = none

lemma Free.stable : Stable State.hear Free := fun s adv h =>
  ⟨Sound.stable s adv h.1, (s.background_hear adv).mouseConn.trans h.2⟩

/-- The slot for a request is taken, and the request is not yet accepted. -/
structure Taken (s : State) : Prop where
  initialized : s.initialized = true
  connecting : s.connecting = true
  free : Free { s with connecting := false }

lemma Taken.stable : Stable State.hear Taken := fun s adv h => by
  obtain ⟨advertisers, heq⟩ := s.hear_of_connecting adv h.connecting
  rw [heq]
  exact ⟨h.initialized, h.connecting, h.free.1.advertisers advertisers, h.free.2⟩

/-- The address of the request is stored. -/
lemma Taken.store {s : State} (h : Taken s) (addr : Addr) :
    Taken { s with pendingAddress := addr } := by
  have hs := h.free.1
  obtain ⟨hqueue, -⟩ := hs.slot_free Bool.false_ne_true
  obtain ⟨served, haccepted, hruns⟩ := hs.served
  have hstored : Orderly { s with connecting := false, pendingAddress := addr } := by
    refine { hs.toOrderly with served := ⟨served, ?_, hruns⟩ }
    rw [if_neg hqueue] at haccepted ⊢
    exact haccepted
  exact ⟨h.initialized, h.connecting, ⟨hstored, hs.outside⟩, h.free.2⟩

/-- The request is accepted. -/
lemma Taken.accept {s : State} (h : Taken s) :
    Sound ((s.observe (.accepted s.pendingAddress)).submit .connect) := by
  have hidle : ¬State.Engaged { s with connecting := false } :=
    State.not_engaged h.free.2 h.free.1.outside
  have heq : (s.observe (.accepted s.pendingAddress)).submit .connect =
      State.centralConnect { s with connecting := false } s.pendingAddress := by
    have hslot : (!s.initialized || false) = false := by rw [h.initialized]; rfl
    have hs : s = { s with connecting := true } := by rw [← h.connecting]
    unfold State.centralConnect
    rw [if_neg (by rw [hslot]; exact Bool.false_ne_true)]
    rw [hs]
  rw [heq]
  exact ⟨h.free.1.toOrderly.centralConnect hidle _,
    ((Background.refl _).centralConnect _).inConnect.trans h.free.1.outside⟩

namespace Item

lemma triple_centralConnect (addr : Addr) :
    Triple State.hear Free (centralConnect addr) fun _ => Sound := by
  have haddr : Stable State.hear fun s => Taken s ∧ s.pendingAddress = addr := fun s adv h => by
    obtain ⟨advertisers, heq⟩ := s.hear_of_connecting adv h.1.connecting
    exact ⟨Taken.stable s adv h.1, heq ▸ h.2⟩
  unfold centralConnect
  refine .bind (Q := fun before s =>
    if before.initialized = true ∧ before.connecting = false then Taken s else Sound s)
    (.exchange Free.stable fun s h => ?_) fun before => ?_
  · by_cases hslot : s.initialized = true ∧ s.connecting = false
    · have hs : s = { s with connecting := false } := by rw [← hslot.2]
      rw [if_pos hslot, if_pos hslot.1]
      exact ⟨hslot.1, rfl, hs ▸ h⟩
    · rw [if_neg hslot]
      split
      case isTrue hinit =>
        have hs : s = { s with connecting := true } := by
          rw [← Bool.eq_true_of_not_eq_false fun hconnecting => hslot ⟨hinit, hconnecting⟩]
        exact hs ▸ h.1
      case isFalse => exact h.1
  · by_cases hslot : before.initialized = true ∧ before.connecting = false
    · simp only [hslot.1, hslot.2, Bool.not_true, Bool.or_false, Bool.false_eq_true, if_false]
      refine .bind (Q := fun _ s => Taken s ∧ s.pendingAddress = addr)
        (.modify Taken.stable fun s h => ⟨h.store addr, rfl⟩) fun _ => ?_
      refine .modify haddr fun s h => ?_
      have haccepted := h.1.accept
      rwa [h.2] at haccepted
    · have hbusy : (!before.initialized || before.connecting) = true := by
        cases hinit : before.initialized <;> cases hconnecting : before.connecting <;>
          simp_all
      rw [if_pos hbusy]
      simp only [if_neg hslot]
      exact .pure fun _ => id

lemma triple_retryWorkCb : Triple State.hear Sound retryWorkCb fun _ => Sound := by
  unfold retryWorkCb
  refine .bind (Q := fun before s => Sound s ∧ s.mouseConn = before.mouseConn)
    (.look Sound.stable fun s h => ⟨h, rfl⟩) fun before => ?_
  have hconn : Stable State.hear fun s => s.mouseConn = before.mouseConn :=
    fun s adv h => (s.background_hear adv).mouseConn.trans h
  have hnone (wanted : Bool) : Stable State.hear fun s => wanted = true → s.mouseConn = none :=
    fun s adv h hwanted => (s.background_hear adv).mouseConn.trans (h hwanted)
  dsimp only
  generalize hwanted : (before.mouseConn.isNone && (before.havePeer || before.pairing) &&
    !(before.havePeer && !before.isBonded before.peer)) = wanted
  have hfree (h : wanted = true) : before.mouseConn = none := by
    rw [h] at hwanted
    simp only [Bool.and_eq_true, Option.isNone_iff_eq_none] at hwanted
    exact hwanted.1.1
  refine .bind (Q := fun _ s => Sound s ∧ (wanted = true → s.mouseConn = none))
    (.modify (Sound.stable.and hconn) fun s h => ?_) fun _ => ?_
  · have hidle (hw : wanted = true) : ¬s.Engaged :=
      State.not_engaged (h.2.trans (hfree hw)) h.1.outside
    exact ⟨⟨h.1.want hidle, h.1.outside⟩, fun hw => h.2.trans (hfree hw)⟩
  refine .bind (Q := fun _ s => Sound s ∧ (wanted = true → s.mouseConn = none))
    (.look (Sound.stable.and (hnone _)) fun s h => h) fun latest => ?_
  refine .bind (Q := fun _ => Sound) (.onlyIf (fun hpeer => ?_) fun s h => h.1) fun _ => ?_
  · rw [Bool.and_eq_true] at hpeer
    exact (triple_centralConnect _).conseq (fun s h => ⟨h.1, h.2 hpeer.1⟩) fun _ _ => id
  · exact triple_modify fun s h => h.scheduleScan 0

/-! ### The other items -/

lemma triple_pairTimeoutCb : Triple State.hear Sound pairTimeoutCb fun _ => Sound := by
  have hclosed (s : State) (h : Sound s) : Sound { s with pairing := false } :=
    ⟨{ h.toOrderly with }, h.outside⟩
  unfold pairTimeoutCb
  refine .bind (triple_modify hclosed) fun _ => ?_
  refine .bind (triple_modify fun s h => ?_) fun _ => triple_retryWorkCb
  split
  case isTrue =>
    exact h.of_aside ((Aside.refl s).fail _)
  case isFalse => exact h

lemma triple_pairWorkCb (maxPaired : ℕ) :
    Triple State.hear Sound (pairWorkCb maxPaired) fun _ => Sound := by
  have hretry (s : State) (h : Sound s) : Sound { s with retryMs := 1000 } :=
    ⟨{ h.toOrderly with }, h.outside⟩
  have hpairing (s : State) (h : Sound s) : Sound { s with pairing := true } :=
    ⟨{ h.toOrderly with }, h.outside⟩
  unfold pairWorkCb
  refine .bind (Q := fun _ => Sound) (.look Sound.stable fun _ => id) fun before => ?_
  split
  case isTrue => exact .pure fun _ => id
  case isFalse =>
  split
  case isTrue => exact .bind (triple_modify hretry) fun _ => triple_retryWorkCb
  case isFalse =>
  split
  case isTrue => exact .pure fun _ => id
  case isFalse =>
  refine .bind (triple_modify hpairing) fun _ => ?_
  refine .bind (triple_modify hretry) fun _ => ?_
  refine .bind (triple_modify fun s h => ?_) fun _ => triple_retryWorkCb
  exact h.of_aside ((Aside.refl s).schedule .pairTimeout 60000 Work.noConfusion)

lemma triple_clearWorkCb (a : Answers) :
    Triple State.hear Sound (clearWorkCb a) fun _ => Sound := by
  have hpairing (s : State) (h : Sound s) : Sound { s with pairing := false } :=
    ⟨{ h.toOrderly with }, h.outside⟩
  have hwanted (s : State) (h : Sound s) : Sound { s with scanWanted := false } :=
    ⟨h.want fun hw => Bool.noConfusion hw, h.outside⟩
  have hforget (s : State) (h : Sound s) : Sound { s with forgetRequested := true } :=
    ⟨{ h.toOrderly with }, h.outside⟩
  unfold clearWorkCb
  refine .bind (Q := fun _ => Sound) (.look Sound.stable fun _ => id) fun before => ?_
  split
  case isTrue => exact .pure fun _ => id
  case isFalse =>
  refine .bind (triple_modify hpairing) fun _ => ?_
  refine .bind (triple_modify hwanted) fun _ => ?_
  refine .bind (triple_modify hforget) fun _ => ?_
  refine triple_modify fun s h => ?_
  split
  case isTrue => exact h.of_aside ((Aside.refl s).fail _)
  case isFalse => exact h.of_aside ((Aside.refl s).forgetPeer a)

lemma triple_settleWorkCb : Triple State.hear Sound settleWorkCb fun _ => Sound := by
  have hsettled (s : State) (h : Sound s) : Sound { s with splitSettling := false } :=
    ⟨{ h.toOrderly with }, h.outside⟩
  exact .bind (triple_modify hsettled) fun _ =>
    triple_modify fun s h => h.scheduleScan 0

/-- The stage says that the attempt ends, before the rest of the client knows. -/
lemma triple_failureWorkCb (a : Answers) :
    Triple State.hear Sound (failureWorkCb a) fun _ => Sound := by
  have hclosing : Stable State.hear
      fun s => s.stage = .closing ∧ ∃ stage, Sound { s with stage } := by
    rintro s adv ⟨hstage, stage, h⟩
    refine ⟨(s.background_hear adv).stage.trans hstage, stage, ?_⟩
    have hheard := Sound.stable { s with stage } adv h
    rwa [s.hear_stage adv stage] at hheard
  have hwanted : Stable State.hear fun s => s.scanWanted = false :=
    fun s adv h => (s.hear_scanWanted adv).trans h
  unfold failureWorkCb
  refine .bind (Q := fun _ s => s.stage = .closing ∧ ∃ stage, Sound { s with stage })
    (.modify Sound.stable fun s h => ⟨rfl, s.stage, h⟩) fun _ => ?_
  refine .bind (Q := fun _ s => (s.stage = .closing ∧ ∃ stage, Sound { s with stage }) ∧
    s.scanWanted = false) (.modify hclosing fun s h => ⟨⟨h.1, ?_⟩, rfl⟩) fun _ => ?_
  · obtain ⟨-, stage, h⟩ := h
    exact ⟨stage, h.want fun hw => Bool.noConfusion hw, h.outside⟩
  refine .modify (hclosing.and hwanted) fun s h => ?_
  obtain ⟨⟨hstage, stage, h⟩, hunwanted⟩ := h
  have hs : s = { s with stage := .closing, scanWanted := false } := by rw [← hstage, ← hunwanted]
  have hfailed := h.of_aside (Aside.failureWorkCb h.outside a)
  rw [hs]
  cases hc : s.mouseConn with
  | some c => simpa only [State.failureWorkCb, hc] using hfailed
  | none => simpa only [State.failureWorkCb, hc] using hfailed

end Item

/-! ### Carrying a request out -/

/-- `connect_work` has been taken off the queue. -/
structure Begun (s : State) : Prop extends Serving s, Exclusive s where
  idle : ¬s.Engaged

lemma Begun.of_take {s : State} (h : Orderly s) {rest : List Work}
    (hq : s.work.queue = .connect :: rest) : Begun (s.take .connect rest) where
  toServing := .of_take h hq
  toExclusive := h.toExclusive.take hq
  idle := h.connect (hq ▸ List.mem_cons_self)

/-- The connect function has been called. -/
lemma Sound.callConnect (maxPaired : ℕ) {s : State} (h : Served s) (he : Exclusive s)
    (hidle : ¬s.Engaged) (hdown : s.scanOwned = false) (hnotQueued : .connect ∉ s.work.queue)
    (a : Answers) : Sound { (s.callConnect maxPaired a).1 with connecting := false } := by
  have hconnected := he.connectMouse maxPaired hidle hnotQueued s.pendingAddress a
  obtain ⟨t, stage, inConnect, ha, heq⟩ :=
    (Aside.refl s).connectMouse maxPaired s.pendingAddress a
  have hserved : Served { t with stage, inConnect } :=
    { h.of_aside ha with stopped := fun _ => ha.scanOwned.trans hdown }
  have hnotQueued' : .connect ∉ t.work.queue := fun hq => hnotQueued (ha.queued.1 hq)
  unfold State.callConnect
  dsimp only
  rw [heq] at hconnected ⊢
  split
  case isFalse hgap =>
    have hgap := Bool.eq_false_of_not_eq_true hgap
    exact ⟨.giveBack hserved hconnected hgap hnotQueued', hgap⟩
  case isTrue hin =>
    have hfound := hconnected.connectMouseLookup hin t.pendingAddress a
    obtain ⟨u, stage', mouseConn, hb, heq'⟩ :=
      (Aside.refl { t with stage, inConnect }).connectMouseLookup t.pendingAddress a
    have hserved' : Served { u with mouseConn, stage := stage', inConnect := false } :=
      { hserved.of_aside hb with
        stopped := fun _ => hb.scanOwned.trans (ha.scanOwned.trans hdown) }
    rw [heq'] at hfound ⊢
    exact ⟨.giveBack hserved' hfound rfl fun hq => hnotQueued' (hb.queued.1 hq), rfl⟩

lemma Begun.serveRequest (maxPaired : ℕ) {s : State} (h : Begun s) (a : Answers) :
    Sound { (s.serveRequest maxPaired a).1 with connecting := false } := by
  have hgap : s.inConnect = false :=
    Bool.eq_false_of_not_eq_true fun hin => h.idle (.inr hin)
  have hstopped := h.toExclusive.stopOwnScan a.scanStop
  obtain ⟨scanOwned, journal, heq⟩ := s.stopOwnScan_eq a.scanStop
  unfold State.serveRequest
  dsimp only
  by_cases herr : (s.stopOwnScan a.scanStop).2 ≠ 0
  · have hrefused := h.refused herr h.idle
    rw [if_pos herr]
    rw [heq] at hstopped hrefused ⊢
    exact ⟨.giveBack hrefused hstopped hgap h.notQueued, hgap⟩
  · obtain ⟨hserving, hdown⟩ := h.stopped (not_not.1 herr)
    rw [if_neg herr]
    rw [heq] at hstopped hserving hdown ⊢
    exact Sound.callConnect maxPaired (hserving.call hdown) { hstopped with } h.idle hdown
      h.notQueued a

namespace Item

/-- Advertisements have been noted while a request is under way. -/
def Noted (s t : State) : Prop := s.connecting = true ∧ ∃ advertisers, s = { t with advertisers }

lemma noted_hear (s t : State) (adv : Advertisement) (h : Noted s t) : Noted (s.hear adv) t := by
  obtain ⟨hconnecting, _, rfl⟩ := h
  obtain ⟨advertisers, heq⟩ := State.hear_of_connecting _ adv hconnecting
  exact ⟨heq ▸ hconnecting, advertisers, heq⟩

/-- An access that does not depend on what was noted. -/
lemma blind_modify {f : State → State}
    (hf : ∀ t advertisers, f { t with advertisers } = { f t with advertisers })
    (hconnecting : ∀ t, (f t).connecting = t.connecting) : (modify f).Blind Noted := by
  refine .modify ?_
  rintro _ t ⟨h, advertisers, rfl⟩
  exact ⟨(hconnecting _).trans h, advertisers, hf t advertisers⟩

lemma blind_look {α : Type} {g : State → Item α}
    (h : ∀ t advertisers, g { t with advertisers } = g t) (hg : ∀ t, (g t).Blind Noted) :
    (look >>= g).Blind Noted := by
  refine .look_bind ?_ hg
  rintro _ t ⟨-, advertisers, rfl⟩
  exact h t advertisers

lemma blind_stopOwnScan (answer : ℤ) : (stopOwnScan answer).Blind Noted := by
  unfold stopOwnScan
  refine .exchange_bind ?_ fun before => ?_
  · rintro _ t ⟨hconnecting, advertisers, rfl⟩
    exact ⟨⟨hconnecting, advertisers, rfl⟩, rfl⟩
  split
  · exact .pure _
  refine .bind (blind_modify (fun _ _ => rfl) fun _ => rfl) fun _ => ?_
  split
  · exact .bind (blind_modify (fun _ _ => rfl) fun _ => rfl) fun _ => .pure _
  · exact .pure _

lemma blind_connectMouse (maxPaired : ℕ) (a : Answers) :
    (connectMouse maxPaired a).Blind Noted := by
  unfold connectMouse
  refine blind_look (fun _ _ => rfl) fun t => ?_
  split
  · exact .pure _
  refine blind_look (fun _ _ => rfl) fun t => ?_
  dsimp only
  split
  · exact .pure _
  refine blind_look (fun _ _ => rfl) fun t' => ?_
  split
  · exact .pure _
  split
  · refine .bind (blind_modify (fun _ _ => rfl) fun _ => rfl) fun _ => ?_
    exact .bind (blind_modify (fun _ _ => rfl) fun _ => rfl) fun _ => .pure _
  refine .bind (blind_modify (fun _ _ => rfl) fun _ => rfl) fun _ => ?_
  refine .bind (blind_modify (fun _ _ => rfl) fun _ => rfl) fun _ => ?_
  refine .bind (blind_modify (fun _ _ => rfl) fun _ => rfl) fun _ => ?_
  refine .bind (blind_modify (fun _ _ => rfl) fun _ => rfl) fun _ => ?_
  split
  · exact .bind (blind_modify (fun _ _ => rfl) fun _ => rfl) fun _ => .pure _
  refine .bind (blind_modify (fun _ _ => rfl) fun _ => rfl) fun _ => ?_
  refine .bind (blind_modify (fun _ _ => rfl) fun _ => rfl) fun _ => ?_
  split
  · refine .bind (blind_modify (fun _ _ => rfl) fun _ => rfl) fun _ => ?_
    exact .bind (blind_modify (fun _ _ => rfl) fun _ => rfl) fun _ => .pure _
  · exact .bind (blind_modify (fun _ _ => rfl) fun _ => rfl) fun _ => .pure _

lemma blind_serveRequest (maxPaired : ℕ) (a : Answers) :
    (serveRequest maxPaired a).Blind Noted := by
  unfold serveRequest
  refine .bind (blind_stopOwnScan _) fun err => ?_
  split
  · exact .pure _
  · exact .bind (blind_modify (fun _ _ => rfl) fun _ => rfl) fun _ => blind_connectMouse maxPaired a

lemma triple_connectWorkCb (maxPaired : ℕ) {t : State} (h : Begun t) (a : Answers) :
    Triple State.hear (Noted · t) (connectWorkCb maxPaired a) fun _ => Sound := by
  have hgap : t.inConnect = false :=
    Bool.eq_false_of_not_eq_true fun hin => h.idle (.inr hin)
  have hserve := h.serveRequest maxPaired a
  have hnoted (u : State) : Stable State.hear (Noted · u) := fun s adv hs => noted_hear s u adv hs
  unfold connectWorkCb
  refine .bind (Q := fun _ s => Noted s (t.serveRequest maxPaired a).1) ?_ fun err => ?_
  · intro s events hs
    have hrun := (blind_serveRequest maxPaired a).run (fun s u adv => noted_hear s u adv) hs events
    rw [alone_serveRequest maxPaired a hgap] at hrun
    exact hrun.2
  refine .bind (Q := fun _ => Sound) (.modify (hnoted _) fun s hs => ?_) fun _ => ?_
  · obtain ⟨-, advertisers, rfl⟩ := hs
    exact hserve.advertisers advertisers
  · exact .onlyIf (fun _ => triple_scheduleScan 1000) fun _ => id

/-- Every item keeps the invariants, whatever is heard while it runs. -/
theorem sound_body (maxPaired : ℕ) {s : State} (h : Orderly s) (hgap : s.inConnect = false)
    {w : Work} {rest : List Work} (hq : s.work.queue = w :: rest) (a : Answers)
    (heard : List (List Advertisement)) :
    Sound ((body maxPaired w a).run State.hear (s.take w rest) heard).2 := by
  have htake (hw : w ≠ .connect) : Sound (s.take w rest) := ⟨h.take hq hw, hgap⟩
  cases w with
  | retry => exact triple_retryWorkCb _ heard (htake Work.noConfusion)
  | pairTimeout => exact triple_pairTimeoutCb _ heard (htake Work.noConfusion)
  | pair => exact triple_pairWorkCb maxPaired _ heard (htake Work.noConfusion)
  | clear => exact triple_clearWorkCb a _ heard (htake Work.noConfusion)
  | failure => exact triple_failureWorkCb a _ heard (htake Work.noConfusion)
  | scan => exact triple_scanWorkCb a _ heard (htake Work.noConfusion)
  | settle => exact triple_settleWorkCb _ heard (htake Work.noConfusion)
  | discovery =>
    exact triple_modify (fun s h => h.of_aside (Aside.discoveryWorkCb a)) _ heard
      (htake Work.noConfusion)
  | timeout =>
    exact triple_modify (fun s h => h.of_aside (Aside.refl s).timeoutWorkCb) _ heard
      (htake Work.noConfusion)
  | connected =>
    exact triple_modify (fun s h => h.of_aside (Aside.connectedWorkCb a)) _ heard
      (htake Work.noConfusion)
  | disconnected =>
    exact triple_modify (fun s h => h.of_aside ((Aside.refl s).disconnectedWorkCb a)) _ heard
      (htake Work.noConfusion)
  | output => exact htake Work.noConfusion
  | connect =>
    have hmem : .connect ∈ s.work.queue := hq ▸ List.mem_cons_self
    exact triple_connectWorkCb maxPaired (Begun.of_take h hq) a _ heard
      ⟨h.connecting.2 (.inl hmem), s.advertisers, rfl⟩

end Item

/-! ### Runs -/

/-- What happens: a step, or an item of work with the advertisements that are heard before each
of its accesses. -/
inductive Happening
  | step (l : Label)
  | interrupted (answers : Answers) (heard : List (List Advertisement))

/-- The state after it, whatever the host answers and reports. -/
def State.proceed (maxPaired : ℕ) (s : State) : Happening → Option State
  | .step l => s.step maxPaired l
  | .interrupted a heard =>
    if s.inConnect then none
    else match s.work.queue with
      | w :: rest => some ((Item.body maxPaired w a).run State.hear (s.take w rest) heard).2
      | [] => none

/-- A step that runs an item is an interrupted item during which nothing is heard. -/
lemma State.proceed_work (maxPaired : ℕ) (s : State) (a : Answers) :
    s.proceed maxPaired (.step (.work a)) = s.proceed maxPaired (.interrupted a []) := by
  unfold State.proceed State.step
  dsimp only
  split
  case isTrue => rfl
  case isFalse hgap =>
    cases s.work.queue with
    | nil => rfl
    | cons w rest =>
      dsimp only
      rw [Prog.run_nil, Item.alone_body maxPaired (s := s.take w rest) a
        (Bool.eq_false_of_not_eq_true hgap)]

lemma Orderly.proceed {maxPaired : ℕ} {s s' : State} (h : Orderly s) {e : Happening}
    (hproceed : s.proceed maxPaired e = some s') : Orderly s' := by
  cases e with
  | step l => exact h.step hproceed
  | interrupted a heard =>
    unfold State.proceed at hproceed
    dsimp only at hproceed
    split at hproceed
    · cases hproceed
    · rename_i hgap
      split at hproceed
      · rename_i w rest hq
        cases hproceed
        exact (Item.sound_body maxPaired h (Bool.eq_false_of_not_eq_true hgap) hq a heard).toOrderly
      · cases hproceed

/-- While no item of work runs: a connection excludes scanning and requests, the stage is idle
exactly without a connection, a taken slot belongs to a request that waits, and the runs of
`connect_work_cb` serve the accepted requests one to one and in order. -/
theorem scan_and_connection_exclude {maxPaired : ℕ} {bonds : List Addr} {s : State}
    {happenings : List Happening}
    (hrun : Transition.Run (Transition.Steps (State.proceed maxPaired)) (State.init bonds)
      happenings s)
    (hidle : s.inConnect = false) :
    (s.mouseConn ≠ none →
      s.scanWanted = false ∧ s.scanOwned = false ∧ s.connecting = false) ∧
    (s.stage = .idle ↔ s.mouseConn = none) ∧
    (s.connecting = true → .connect ∈ s.work.queue) ∧
    ∃ served, s.radio.accepted = (if s.connecting then s.pendingAddress :: served else served) ∧
      List.Forall₂ Serves s.radio.runs served := by
  have h : Orderly s := hrun.invariant Orderly (orderly_init bonds) fun _ _ _ h => h.proceed
  have hwaits : s.connecting = true ↔ .connect ∈ s.work.queue := by
    rw [h.connecting, or_iff_left]
    exact fun hin => Bool.false_ne_true (hidle.symm.trans hin)
  refine ⟨fun hconn => ⟨?_, h.stopped (.inl hconn), ?_⟩, ?_, hwaits.1, ?_⟩
  · exact Bool.eq_false_of_not_eq_true fun hwanted => h.scan hwanted (.inl hconn)
  · exact Bool.eq_false_of_not_eq_true fun hslot => h.connect (hwaits.1 hslot) (.inl hconn)
  · have hstaged := h.staged
    unfold State.Staged at hstaged
    split at hstaged
    case h_1 c hc => exact iff_of_false hstaged.1 (hc ▸ Option.some_ne_none c)
    case h_2 hc =>
      rw [hidle] at hstaged
      exact iff_of_true hstaged hc
  · obtain ⟨served, haccepted, hruns⟩ := h.served
    exact ⟨served, haccepted.trans (if_congr hwaits.symm rfl rfl), hruns⟩

/-- A saved peer, whose advertisements are heard while the client decides to look for it and
while it connects. -/
def heardPeer (addr : Addr) : List Happening :=
  [.step (.settings "peer" 7 addr 7), .step .start,
    .interrupted {} [[], [], [⟨addr, .advInd, [], 0⟩]],
    .interrupted { lookup := some ⟨1, addr⟩ }
      [[], [⟨addr, .advInd, [], 5⟩], [⟨addr, .advInd, [], 9⟩]]]

theorem scan_and_connection_exclude_heard_peer :
    ∃ s, Transition.Run (Transition.Steps (State.proceed 8)) (State.init [⟨1, 7⟩])
      (heardPeer ⟨1, 7⟩) s ∧ s.mouseConn = some ⟨1, ⟨1, 7⟩⟩ ∧
      s.radio.accepted = [⟨1, 7⟩] ∧ s.scanWanted = false ∧ s.connecting = false := by
  obtain ⟨s, hrun, hs⟩ : ∃ s, Transition.Run (Transition.Steps (State.proceed 8))
      (State.init [⟨1, 7⟩]) (heardPeer ⟨1, 7⟩) s ∧
      (!s.inConnect && decide (s.mouseConn = some ⟨1, ⟨1, 7⟩⟩ ∧
        s.radio.accepted = [⟨1, 7⟩])) = true :=
    Transition.Run.exists_of_foldlM
      (p := fun s : State => !s.inConnect && decide (s.mouseConn = some ⟨1, ⟨1, 7⟩⟩ ∧
        s.radio.accepted = [⟨1, 7⟩])) (by decide +kernel)
  simp only [Bool.and_eq_true, Bool.not_eq_true', decide_eq_true_eq] at hs
  obtain ⟨hidle, hconn, haccepted⟩ := hs
  obtain ⟨hunwanted, -, hfree⟩ := (scan_and_connection_exclude hrun hidle).1
    (hconn ▸ Option.some_ne_none _)
  exact ⟨s, hrun, hconn, haccepted, hunwanted, hfree⟩

end BleMouse.Client
