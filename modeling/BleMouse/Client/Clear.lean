/-
Clear is final.

A held Clear key makes `clear_work_cb` forget the saved peer: at once when there is no
connection, and otherwise at the end of the attempt, which it fails (`ClearPending`).  Once the
peer is forgotten the client is `Cleared`, and stays so until a Pair press is processed,
whatever work was already queued or armed.

* `clear_is_final`: the main result.
-/
import BleMouse.Client.Attempts

namespace BleMouse.Client

open BleMouse.Hid BleMouse.Output

/-! ### The states of a Clear -/

/-- Nothing is saved, wanted or under way. -/
structure Cleared (s : State) : Prop where
  started : s.started = true
  mouseConn : s.mouseConn = none
  inConnect : s.inConnect = false
  havePeer : s.havePeer = false
  pairing : s.pairing = false
  scanWanted : s.scanWanted = false

/-- The Clear waits for the end of the attempt, which has failed. -/
structure ClearPending (s : State) : Prop where
  conn : s.mouseConn ≠ none
  requested : s.forgetRequested = true
  failed : s.failure ≠ 0

/-- What an observation makes of the record of the peer in the settings. -/
def Obs.store (record : Option Addr) : Obs → Option Addr
  | .save addr err => if err = 0 then some addr else record
  | .delete err => if err = 0 then none else record
  | _ => record

/-- The record of the peer in the settings, from what it was at first. -/
def State.stored (record : Option Addr) (s : State) : Option Addr :=
  Journal.replay Obs.store record s.journal

/-- What a run of `forget_peer` with these answers leaves. -/
structure Forgotten (s : State) (a : Answers) (s' : State) : Prop where
  requested : s'.forgetRequested = false
  cleared : s.havePeer = false ∨ a.unpairPeer = 0 → Cleared s'
  refused : s.havePeer = true → a.unpairPeer ≠ 0 →
    s'.havePeer = true ∧ s'.peer = s.peer ∧ ∀ record, s'.stored record = s.stored record

lemma State.stored_observe (record : Option Addr) (s : State) (o : Obs) :
    (s.observe o).stored record = o.store (s.stored record) := Journal.replay_snoc

namespace Forgotten

variable {s s' : State} {a : Answers}

/-- `forget_peer`, without an attempt. -/
lemma forgetPeer (a : Answers) (hstarted : s.started = true) (hconn : s.mouseConn = none)
    (hgap : s.inConnect = false) : Forgotten s a (s.forgetPeer a) := by
  have hcleared (t : State) (hstarted : t.started = true) (hconn : t.mouseConn = none)
      (hgap : t.inConnect = false) (hpeer : t.havePeer = false) (hpairing : t.pairing = false)
      (hwanted : t.scanWanted = false) : Cleared t.forgotten :=
    ⟨hstarted, hconn, hgap, hpeer, hpairing, hwanted⟩
  unfold State.forgetPeer
  dsimp only
  split
  case isTrue hpeer =>
    have hpeer' : s.havePeer = true := hpeer
    split
    case isTrue herr =>
      refine ⟨rfl, ?_, fun _ _ => ⟨hpeer, rfl, fun record => ?_⟩⟩
      · rintro (hno | hok)
        · rw [hpeer'] at hno
          exact Bool.noConfusion hno
        · exact absurd hok herr
      · exact State.stored_observe record _ _
    case isFalse hok =>
      exact ⟨rfl, fun _ => hcleared _ hstarted hconn hgap rfl rfl rfl,
        fun _ herr => absurd herr hok⟩
  case isFalse hpeer =>
    have hpeer' : s.havePeer = false := Bool.eq_false_of_not_eq_true hpeer
    refine ⟨rfl, fun _ => hcleared _ hstarted hconn hgap hpeer' rfl rfl, fun hyes => ?_⟩
    rw [hpeer'] at hyes
    exact Bool.noConfusion hyes

/-- The retry after it changes nothing of this. -/
lemma requestRetry (h : Forgotten s a s') : Forgotten s a s'.requestRetry := by
  refine ⟨h.requested, fun hcond => ?_, h.refused⟩
  have hs := h.cleared hcond
  exact ⟨hs.started, hs.mouseConn, hs.inConnect, hs.havePeer, hs.pairing, rfl⟩

/-- What precedes it leaves the peer and its record alone. -/
lemma before {t : State} (h : Forgotten t a s') (hpeer : t.havePeer = s.havePeer)
    (haddr : t.peer = s.peer) (hstored : ∀ record, t.stored record = s.stored record) :
    Forgotten s a s' := by
  refine ⟨h.requested, fun hcond => h.cleared (hpeer ▸ hcond), fun hyes herr => ?_⟩
  obtain ⟨hsaved, hsame, hrecord⟩ := h.refused (hpeer ▸ hyes) herr
  exact ⟨hsaved, hsame.trans haddr, fun record => (hrecord record).trans (hstored record)⟩

/-- The end of an attempt, with a Clear that waits for it. -/
lemma close {t : State} (ht : ∀ record, t.stored record = s.stored record)
    (hpeer : t.havePeer = s.havePeer) (haddr : t.peer = s.peer)
    (hrequested : t.forgetRequested = true) (hstarted : t.started = true)
    (hconn : t.mouseConn = none) (hgap : t.inConnect = false) :
    Forgotten s a (t.forgetIfRequested a).requestRetry := by
  unfold State.forgetIfRequested
  rw [if_pos hrequested]
  exact ((forgetPeer a hstarted hconn hgap).requestRetry).before hpeer haddr ht

end Forgotten

/-! ### While the Clear waits -/

namespace ClearPending

variable {s s' : State}

lemma explores (h : ClearPending s) (he : Explores s s') : ClearPending s' := by
  refine ⟨he.mouseConn ▸ h.conn, he.forgetRequested.trans h.requested, ?_⟩
  rcases he.failure with ⟨hfailure, -⟩ | ⟨hfailure, -⟩
  · rw [hfailure]
    exact h.failed
  · exact hfailure

lemma background (h : ClearPending s) (hb : Background s s') : ClearPending s' :=
  h.explores hb.explores

lemma take (h : ClearPending s) (w : Work) (rest : List Work) : ClearPending (s.take w rest) :=
  ⟨h.conn, h.requested, h.failed⟩

/-- Nothing is discovered any more. -/
lemma discoveryWorkCb (h : ClearPending s) (a : Answers) : s.discoveryWorkCb a = s := by
  unfold State.discoveryWorkCb
  split
  case h_1 => rfl
  case h_2 => exact if_pos (.inl h.failed)

lemma disconnectedWorkCb (h : ClearPending s) (hstarted : s.started = true)
    (hgap : s.inConnect = false) (a : Answers) : Forgotten s a (s.disconnectedWorkCb a) := by
  rcases s.disconnectedWorkCb_cases a with ⟨hc, -⟩ | ⟨c, t, hc, ht, heq⟩
  · exact absurd hc h.conn
  -- unpairing the candidate, or not, leaves the record of the peer alone
  have hend (t : State) (ht : ∀ record, t.stored record = s.stored record)
      (hpeer : t.havePeer = s.havePeer) (haddr : t.peer = s.peer)
      (hrequested : t.forgetRequested = true) (hstarted : t.started = true)
      (hgap : t.inConnect = false) : Forgotten s a (t.hungUp c a) := by
    refine Forgotten.close ?_ hpeer haddr hrequested hstarted rfl hgap
    intro record
    have hended : (((t.observe (.unref c)).observe .ended).observe .outputDisconnect).stored record
        = t.stored record := by
      simp only [State.stored_observe, Obs.store]
    exact hended.trans (ht record)
  have hoff (record : Option Addr) :
      (s.observe (.autoConnOff c.dst)).stored record = s.stored record :=
    State.stored_observe record _ _
  rw [heq]
  cases ht with
  | kept => exact hend _ hoff rfl rfl h.requested hstarted hgap
  | unpaired =>
    exact hend _ (fun record => (State.stored_observe record _ _).trans (hoff record)) rfl rfl
      h.requested hstarted hgap

lemma failureWorkCb (h : ClearPending s) (hstarted : s.started = true)
    (hgap : s.inConnect = false) (a : Answers) :
    ClearPending (s.failureWorkCb a) ∨ Forgotten s a (s.failureWorkCb a) := by
  unfold State.failureWorkCb
  split
  case h_2 hc => exact absurd hc h.conn
  case h_1 c _ =>
  let t : State := ({ s with stage := .closing, scanWanted := false } : State).observe
    (.disconnect c a.disconnect)
  have ht : ClearPending t := ⟨h.conn, h.requested, h.failed⟩
  dsimp only
  split
  case isTrue =>
    have hforgotten := ht.disconnectedWorkCb hstarted hgap a
    exact .inr (hforgotten.before rfl rfl fun record => State.stored_observe record _ _)
  case isFalse => exact .inl ht

lemma completeConnection (h : ClearPending s) (hstarted : s.started = true)
    (hgap : s.inConnect = false) (a : Answers) :
    ClearPending (s.completeConnection a) ∨ Forgotten s a (s.completeConnection a) := by
  unfold State.completeConnection
  split
  case h_1 hc => exact absurd hc h.conn
  case h_2 c _ =>
  have hstored (record : Option Addr) :
      ((s.observe (.autoConnOff c.dst)).scanRefresh).stored record = s.stored record :=
    State.stored_observe record _ _
  have hpeer : (s.observe (.autoConnOff c.dst)).scanRefresh.havePeer = s.havePeer := rfl
  have haddr : (s.observe (.autoConnOff c.dst)).scanRefresh.peer = s.peer := rfl
  have ht : ClearPending (s.observe (.autoConnOff c.dst)).scanRefresh :=
    ⟨h.conn, h.requested, h.failed⟩
  have hstarted' : (s.observe (.autoConnOff c.dst)).scanRefresh.started = true := hstarted
  have hgap' : (s.observe (.autoConnOff c.dst)).scanRefresh.inConnect = false := hgap
  dsimp only
  generalize (s.observe (.autoConnOff c.dst)).scanRefresh = t at *
  by_cases herr : t.connectedError ≠ 0
  · rw [if_pos herr]
    refine .inr (Forgotten.close ?_ hpeer haddr ht.requested hstarted' rfl hgap')
    intro record
    have hended : ((t.observe (.unref c)).observe .ended).stored record = t.stored record := by
      simp only [State.stored_observe, Obs.store]
    exact hended.trans (hstored record)
  · rw [if_neg herr, if_pos (.inl ht.failed)]
    exact .inl ⟨ht.conn, ht.requested, Explores.fail_ne_zero t _⟩

lemma connectedWorkCb (h : ClearPending s) (hstarted : s.started = true)
    (hgap : s.inConnect = false) (a : Answers) :
    ClearPending (s.connectedWorkCb a) ∨ Forgotten s a (s.connectedWorkCb a) := by
  have hb := (Background.refl s).releaseEvent
  have hreleased (record : Option Addr) : s.releaseEvent.stored record = s.stored record := by
    unfold State.releaseEvent
    split
    · exact State.stored_observe record _ _
    · rfl
  have hstarted' : s.releaseEvent.started = true := by
    unfold State.releaseEvent
    split <;> exact hstarted
  rcases (h.background hb).completeConnection hstarted' (hb.inConnect.trans hgap) a with
    hpending | hforgotten
  · exact .inl hpending
  · exact .inr (hforgotten.before hb.havePeer hb.peer hreleased)

/-- `clear_work_cb` once more -/
lemma clearWorkCb (h : ClearPending s) (a : Answers) : ClearPending (s.clearWorkCb a) := by
  unfold State.clearWorkCb
  split
  case isTrue => exact h
  case isFalse =>
    dsimp only
    rw [if_pos (Option.isSome_iff_ne_none.2 h.conn)]
    exact ⟨h.conn, rfl, Explores.fail_ne_zero _ _⟩

lemma run (h : ClearPending s) (hs : Coherent s) {maxPaired : ℕ} (hgap : s.inConnect = false)
    {w : Work} {rest : List Work} (hq : s.work.queue = w :: rest) (a : Answers) :
    ClearPending ((s.take w rest).run maxPaired w a) ∨
      Forgotten s a ((s.take w rest).run maxPaired w a) := by
  have hmem : w ∈ s.work.queue := hq ▸ List.mem_cons_self
  have hinit : (s.take w rest).initialized = true := hs.initialized_of_mem hmem
  have hstarted : (s.take w rest).started = true := hs.start.symm.trans hinit
  have ht := h.take w rest
  have hrefl := Background.refl (s.take w rest)
  have hbefore {s' : State} (hforgotten : Forgotten (s.take w rest) a s') : Forgotten s a s' :=
    hforgotten.before rfl rfl fun record => State.stored_observe record _ _
  cases w with
  | discovery =>
    show ClearPending ((s.take .discovery rest).discoveryWorkCb a) ∨ _
    rw [ht.discoveryWorkCb a]
    exact .inl ht
  | failure => exact (ht.failureWorkCb hstarted hgap a).imp_right hbefore
  | retry => exact .inl (ht.background hrefl.retryWorkCb)
  | timeout => exact .inl (ht.explores ((Explores.refl _).timeoutWorkCb hinit))
  | pairTimeout => exact .inl (ht.explores ((Explores.refl _).pairTimeoutCb hinit))
  | connected => exact (ht.connectedWorkCb hstarted hgap a).imp_right hbefore
  | disconnected => exact .inr (hbefore (ht.disconnectedWorkCb hstarted hgap a))
  | pair => exact .inl (ht.background (hrefl.pairWorkCb maxPaired))
  | clear => exact .inl (ht.clearWorkCb a)
  | scan => exact .inl (ht.background (hrefl.scanWorkCb a))
  | connect => exact absurd (.inl h.conn) (hs.connect hmem).1
  | settle => exact .inl (ht.background hrefl.settleWorkCb)
  | output => exact .inl ht

/-- An attempt whose Clear waits is not registered, and stays so until its end, where the peer
is forgotten. -/
lemma step (h : ClearPending s) (hs : Coherent s) {maxPaired : ℕ} {l : Label}
    (hstep : Step maxPaired s l s') :
    Uneventful s s' ∧ (ClearPending s' ∨ ∃ a, l = .work a ∧ Forgotten s a s') := by
  refine ⟨?_, ?_⟩
  · cases happens_of_step hs hstep with
    | nothing hquiet => exact hquiet
    | finish _ _ _ hlive => exact absurd hlive.2.1 h.failed
    | begin _ hq => exact absurd (.inl h.conn) (hs.connect (hq ▸ List.mem_cons_self)).1
  · have hallows := hstep.1
    have hinit := hs.initialized_of_engaged (.inl h.conn)
    cases alters_of_step hs hstep with
    | explores he => exact .inl (h.explores he)
    | @work a w rest hgap hq =>
      rcases h.run hs hgap hq a with hpending | hforgotten
      · exact .inl hpending
      · exact .inr ⟨a, rfl, hforgotten⟩
    | connectBegin _ hq => exact absurd (.inl h.conn) (hs.connect (hq ▸ List.mem_cons_self)).1
    | connectEnd hin => exact absurd (hs.gap hin).1 h.conn
    | connected c err =>
      unfold State.connectedCb
      split <;> exact .inl ⟨h.conn, h.requested, h.failed⟩
    | disconnected c =>
      unfold State.disconnectedCb
      split <;> exact .inl ⟨h.conn, h.requested, h.failed⟩
    | pairingComplete c bonded =>
      unfold State.pairingCompleteCb
      dsimp only
      split_ifs
      · exact .inl ⟨h.conn, h.requested, Explores.fail_ne_zero _ _⟩
      · exact .inl ⟨h.conn, h.requested, h.failed⟩
      · exact .inl ⟨h.conn, h.requested, h.failed⟩
    | clearHold pressed =>
      unfold State.zmkBleMouseClearHold
      dsimp only
      split <;> exact .inl ⟨h.conn, h.requested, h.failed⟩
    | settings name length contents result =>
      have hstarted : s.started = false := hallows
      rw [← hs.start, hinit] at hstarted
      exact Bool.noConfusion hstarted
    | start =>
      unfold State.zmkBleMouseStart
      split <;> exact .inl ⟨h.conn, h.requested, h.failed⟩

end ClearPending

/-! ### After the Clear -/

/-- A Pair press is processed while there is no connection. -/
def ProcessesPair (s : State) : Label → Prop
  | .work _ => s.inConnect = false ∧ s.work.queue.head? = some .pair ∧ s.mouseConn = none
  | _ => False

namespace Cleared

variable {s s' : State}

/-- Other variables do not matter. -/
lemma congr (h : Cleared s) (hstarted : s'.started = s.started)
    (hconn : s'.mouseConn = s.mouseConn) (hgap : s'.inConnect = s.inConnect)
    (hpeer : s'.havePeer = s.havePeer) (hpairing : s'.pairing = s.pairing)
    (hwanted : s'.scanWanted = s.scanWanted) : Cleared s' :=
  ⟨hstarted.trans h.started, hconn.trans h.mouseConn, hgap.trans h.inConnect,
    hpeer.trans h.havePeer, hpairing.trans h.pairing, hwanted.trans h.scanWanted⟩

lemma stopOwnScan (h : Cleared s) (answer : ℤ) : Cleared (s.stopOwnScan answer).1 := by
  obtain ⟨scanOwned, journal, heq⟩ := s.stopOwnScan_eq answer
  rw [heq]
  exact h.congr rfl rfl rfl rfl rfl rfl

lemma requestRetry (h : Cleared s) : Cleared s.requestRetry :=
  ⟨h.started, h.mouseConn, h.inConnect, h.havePeer, h.pairing, rfl⟩

/-- There is nothing to retry. -/
lemma retryWorkCb (h : Cleared s) : Cleared s.retryWorkCb := by
  have hwanted : (s.mouseConn.isNone && (s.havePeer || s.pairing) &&
      !(s.havePeer && !s.isBonded s.peer)) = false := by
    rw [h.havePeer, h.pairing]
    simp
  unfold State.retryWorkCb
  dsimp only
  rw [hwanted, if_neg (by simp)]
  exact ⟨h.started, h.mouseConn, h.inConnect, h.havePeer, h.pairing, rfl⟩

lemma pairTimeoutCb (h : Cleared s) : Cleared s.pairTimeoutCb := by
  have hs : Cleared { s with pairing := false } :=
    ⟨h.started, h.mouseConn, h.inConnect, h.havePeer, rfl, h.scanWanted⟩
  unfold State.pairTimeoutCb
  dsimp only
  split
  case isTrue hcond =>
    rw [h.mouseConn] at hcond
    exact absurd hcond (by simp)
  case isFalse => exact hs.retryWorkCb

lemma scanWorkCb (h : Cleared s) (a : Answers) : Cleared (s.scanWorkCb a) := by
  unfold State.scanWorkCb
  dsimp only
  rw [h.scanWanted]
  split
  · exact h
  · exact h.stopOwnScan _

/-- The connect function has nothing to do. -/
lemma connectWorkBegin (maxPaired : ℕ) (h : Cleared s) (a : Answers) :
    Cleared (s.connectWorkBegin maxPaired a) := by
  have hreturned (t : State) (err : ℤ) (ht : Cleared t) : Cleared (t.connectReturned err) := by
    unfold State.connectReturned
    dsimp only
    split <;> exact ht.congr rfl rfl rfl rfl rfl rfl
  have hconnect (t : State) (addr : Addr) (ht : Cleared t) :
      t.connectMouse maxPaired addr a = (t, -eAlready) := by
    unfold State.connectMouse
    rw [if_pos]
    rw [ht.scanWanted]
    simp
  have hstopped := h.stopOwnScan a.scanStop
  have hobserved : Cleared ((s.stopOwnScan a.scanStop).1.observe
      (.connect (s.stopOwnScan a.scanStop).1.pendingAddress)) :=
    hstopped.congr rfl rfl rfl rfl rfl rfl
  unfold State.connectWorkBegin
  dsimp only
  split
  · exact hreturned _ _ hstopped
  · rw [hconnect _ _ hobserved]
    split
    · exact hobserved
    · exact hreturned _ _ hobserved

lemma run (h : Cleared s) {maxPaired : ℕ} {w : Work} (hw : w ≠ .pair) (a : Answers) :
    Cleared (s.run maxPaired w a) := by
  cases w with
  | discovery =>
    show Cleared (s.discoveryWorkCb a)
    rw [State.discoveryWorkCb, h.mouseConn]
    exact h
  | failure =>
    have hs : Cleared { s with stage := .idle, scanWanted := false, failure := 0 } :=
      ⟨h.started, h.mouseConn, h.inConnect, h.havePeer, h.pairing, rfl⟩
    show Cleared (s.failureWorkCb a)
    unfold State.failureWorkCb
    split
    case h_1 hc => exact absurd (h.mouseConn.symm.trans hc).symm (Option.some_ne_none _)
    case h_2 => exact hs.requestRetry
  | retry => exact h.retryWorkCb
  | timeout =>
    show Cleared s.timeoutWorkCb
    rw [State.timeoutWorkCb, h.mouseConn]
    exact h
  | pairTimeout => exact h.pairTimeoutCb
  | connected =>
    have hreleased : Cleared s.releaseEvent := by
      unfold State.releaseEvent
      split
      · exact h.congr rfl rfl rfl rfl rfl rfl
      · exact h
    show Cleared (s.releaseEvent.completeConnection a)
    rw [State.completeConnection, hreleased.mouseConn]
    exact hreleased
  | disconnected =>
    show Cleared (s.disconnectedWorkCb a)
    rw [State.disconnectedWorkCb, h.mouseConn]
    exact h
  | pair => exact absurd rfl hw
  | clear =>
    show Cleared (s.clearWorkCb a)
    unfold State.clearWorkCb
    dsimp only
    split_ifs with _ hconn
    · exact h
    · exact absurd h.mouseConn (Option.isSome_iff_ne_none.1 hconn)
    · exact (Forgotten.forgetPeer (s := { s with
        pairing := false, scanWanted := false, forgetRequested := true }) a h.started h.mouseConn
        h.inConnect).cleared (.inl h.havePeer)
  | scan => exact h.scanWorkCb a
  | connect =>
    have hbegun := h.connectWorkBegin maxPaired a
    show Cleared (s.connectWorkCb maxPaired a)
    unfold State.connectWorkCb
    dsimp only
    rw [hbegun.inConnect]
    exact hbegun
  | settle => exact h.congr rfl rfl rfl rfl rfl rfl
  | output => exact h

lemma finished (h : Cleared s) (continues : Bool) (c : Conn) (request : Request) (err : ℕ) :
    Cleared (s.finished continues c request err) := by
  unfold State.finished
  split
  · exact h
  · exact h.congr rfl rfl rfl rfl rfl rfl

/-- Until a Pair press is processed the client stays cleared, and nothing happens. -/
lemma step (h : Cleared s) (hs : Coherent s) {maxPaired : ℕ} {l : Label}
    (hstep : Step maxPaired s l s') (hpair : ¬ProcessesPair s l) :
    Cleared s' ∧ Uneventful s s' := by
  constructor
  swap
  · cases happens_of_step hs hstep with
    | nothing hquiet => exact hquiet
    | finish _ _ _ hlive => exact absurd h.mouseConn hlive.1
    | begin _ _ hbegins =>
      have hwanted := hbegins.wanted
      rw [h.scanWanted] at hwanted
      exact Bool.noConfusion hwanted
  obtain ⟨hallows, hstep⟩ := hstep
  have hinvalid (c : Conn) : s.validCallback c = false := by
    simp [State.validCallback, State.owns, h.mouseConn]
  have howns (c : Conn) : s.owns c = false := by
    simp [State.owns, h.mouseConn]
  cases moves_of_step hstep with
  | @work a w rest _ hq =>
    have htake : Cleared (s.take w rest) := h.congr rfl rfl rfl rfl rfl rfl
    refine htake.run ?_ a
    rintro rfl
    exact hpair ⟨h.inConnect, by rw [hq]; rfl, h.mouseConn⟩
  | @connectBegin a rest =>
    have htake : Cleared (s.take .connect rest) := h.congr rfl rfl rfl rfl rfl rfl
    exact htake.connectWorkBegin maxPaired a
  | connectEnd hin => exact absurd (h.inConnect.symm.trans hin) Bool.false_ne_true
  | expire => exact h.congr rfl rfl rfl rfl rfl rfl
  | connected c err =>
    unfold State.connectedCb
    split <;> exact h.congr rfl rfl rfl rfl rfl rfl
  | disconnected c =>
    unfold State.disconnectedCb
    split
    · exact ⟨h.started, h.mouseConn, h.inConnect, h.havePeer, h.pairing, rfl⟩
    · exact h.congr rfl rfl rfl rfl rfl rfl
  | connectionChanged scanStop =>
    have hsettling : Cleared { s with splitSettling := true } := h.congr rfl rfl rfl rfl rfl rfl
    exact (hsettling.stopOwnScan scanStop).congr rfl rfl rfl rfl rfl rfl
  | securityChanged c level err =>
    simp only [State.securityCb, hinvalid]
    exact h
  | pairingComplete c bonded =>
    have hnot : (s.observe (.pairingComplete c bonded)).owns c = false := howns c
    simp only [State.pairingCompleteCb, hnot]
    exact h.congr rfl rfl rfl rfl rfl rfl
  | pairingFailed c =>
    simp only [State.pairingFailedCb, howns]
    exact h
  | discovered c type start stop attr =>
    have heq : s.discoverCb c attr = (s, false) := by simp [State.discoverCb, hinvalid]
    refine Cleared.finished ?_ _ c (.discover type start stop) 0
    show Cleared (s.discoverCb c attr).1
    rw [heq]
    exact h
  | readDone c handle err data =>
    have heq : s.readCb c err data = (s, false) := by simp [State.readCb, hinvalid]
    refine Cleared.finished ?_ _ c (.read handle) err
    show Cleared (s.readCb c err data).1
    rw [heq]
    exact h
  | written c handle value err =>
    simp only [State.writtenCb, hinvalid]
    exact h.congr rfl rfl rfl rfl rfl rfl
  | subscribed c i value ccc err =>
    simp only [State.subscribedCb, hinvalid]
    exact h.congr rfl rfl rfl rfl rfl rfl
  | notified c i data =>
    simp only [State.notifyCb, hinvalid]
    exact h
  | advertisement addr type data now =>
    rw [State.zmkBleMouseAdvertisement, h.scanWanted]
    exact h
  | pair =>
    unfold State.zmkBleMousePair
    split
    · exact h
    · exact h.congr rfl rfl rfl rfl rfl rfl
  | clearHold pressed =>
    unfold State.zmkBleMouseClearHold
    dsimp only
    split <;> exact h.congr rfl rfl rfl rfl rfl rfl
  | settings name length contents result =>
    have hstarted : s.started = false := hallows
    rw [h.started] at hstarted
    exact Bool.noConfusion hstarted
  | start =>
    rw [State.zmkBleMouseStart, h.started]
    exact h

end Cleared

/-! ### Runs -/

/-- The check of `clear_work_cb` passes. -/
def PassesClear (s : State) : Prop :=
  s.inConnect = false ∧ s.work.queue.head? = some .clear ∧ s.clearHeld = true

/-- `clear_work_cb` with the key held forgets the peer, or waits for the end of the attempt. -/
lemma clear_takes_effect {maxPaired : ℕ} {s s' : State} (hs : Coherent s) {a : Answers}
    (hstep : Step maxPaired s (.work a) s') (hpasses : PassesClear s) :
    ClearPending s' ∨ Forgotten s a s' := by
  obtain ⟨hgap, hhead, hheld⟩ := hpasses
  obtain ⟨rest, hq⟩ : ∃ rest, s.work.queue = .clear :: rest := by
    rcases hqueue : s.work.queue with _ | ⟨w, rest⟩
    · rw [hqueue] at hhead
      exact absurd hhead.symm (Option.some_ne_none _)
    · rw [hqueue] at hhead
      exact ⟨rest, by rw [Option.some.inj hhead]⟩
  have hinit := hs.initialized_of_mem (hq ▸ List.mem_cons_self : Work.clear ∈ s.work.queue)
  obtain ⟨-, hstep⟩ := hstep
  simp only [State.step, hgap, Bool.false_eq_true, if_false, hq, Option.some.injEq] at hstep
  rw [← hstep]
  show ClearPending ((s.take .clear rest).clearWorkCb a) ∨
    Forgotten s a ((s.take .clear rest).clearWorkCb a)
  have hheld' : (s.take .clear rest).clearHeld = true := hheld
  unfold State.clearWorkCb
  rw [if_neg (by rw [hheld']; exact Bool.false_ne_true)]
  dsimp only
  split
  case isTrue hconn =>
    exact .inl ⟨Option.isSome_iff_ne_none.1 hconn, rfl, Explores.fail_ne_zero _ _⟩
  case isFalse hconn =>
    let t : State := { s.take .clear rest with
      pairing := false, scanWanted := false, forgetRequested := true }
    have hforgotten : Forgotten t a (t.forgetPeer a) :=
      Forgotten.forgetPeer a (hs.start.symm.trans hinit) (Option.not_isSome_iff_eq_none.1 hconn)
        hgap
    have hpeer : t.havePeer = s.havePeer := rfl
    have haddr : t.peer = s.peer := rfl
    have hstored (record : Option Addr) : t.stored record = s.stored record :=
      State.stored_observe record s (.ran .clear)
    exact .inr (hforgotten.before hpeer haddr hstored)

/-- **Clear is final.**  In every state of every run: when the check of `clear_work_cb` passes,
the peer is forgotten, or the Clear waits for the end of the attempt.  An attempt whose Clear
waits is not registered, and at its end the peer is forgotten.  When the peer has been
forgotten, which a refused `bt_unpair` prevents without a change of the peer and its record,
then until a Pair press is processed nothing is saved, wanted or under way, no attempt begins
and nothing is registered. -/
theorem clear_is_final {maxPaired : ℕ} {bonds : List Addr} {labels : List Label} {s : State}
    (hrun : Run maxPaired (State.init bonds) labels s) :
    (∀ a s', Step maxPaired s (.work a) s' → PassesClear s →
      ClearPending s' ∨ Forgotten s a s') ∧
    (∀ l s', Step maxPaired s l s' → ClearPending s →
      Uneventful s s' ∧ (ClearPending s' ∨ ∃ a, l = .work a ∧ Forgotten s a s')) ∧
    (Cleared s → ∀ later,
      (∀ t l t', Transition.Takes (Step maxPaired) s later t l t' → ¬ProcessesPair t l) →
      ∀ t, Transition.Visits (Step maxPaired) s later t → Cleared t ∧ Uneventful s t) := by
  have hs := run_coherent hrun
  refine ⟨fun a s' => clear_takes_effect hs, fun l s' hstep h => h.step hs hstep, ?_⟩
  rintro hcleared later hpair t ht
  have hinv : Coherent t ∧ Cleared t ∧ Uneventful s t := by
    refine Transition.Run.invariant_unless ht (fun t => Coherent t ∧ Cleared t ∧ Uneventful s t)
      ProcessesPair ⟨hs, hcleared, Uneventful.refl s⟩ ?_ hpair
    rintro t l t' ⟨hcoherent, hcleared, hquiet⟩ hstep hno
    obtain ⟨hcleared', hquiet'⟩ := hcleared.step hcoherent hstep hno
    exact ⟨hcoherent.step hstep, hcleared', hquiet.trans hquiet'⟩
  exact hinv.2

instance (s : State) : Decidable (PassesClear s) := inferInstanceAs (Decidable (_ ∧ _ ∧ _))

/-- A held Clear key during a connection attempt, -/
def clearAttempt (conn : Conn) : List Label :=
  [.start, .pair, .work {}, .work {}, .work {},
    .advertisement conn.dst .advInd [(9, [0x4d, 0x37, 0x32, 0x30])] 0,
    .work { lookup := some conn }, .clearHold true, .expire .clear]

/-- and the attempt up to its end. -/
def clearedAttempt (conn : Conn) : List Label :=
  clearAttempt conn ++ [.work {}, .work {}, .disconnected conn]

/-- What comes too late for the attempt, and a Pair press that is not processed yet. -/
def lateEvents (conn : Conn) : List Label :=
  [.expire .retry, .connected conn 0, .pairingComplete conn true,
    .advertisement conn.dst .advInd [(9, [0x4d, 0x37, 0x32, 0x30])] 0, .pair]

/-- The Clear waits for the end of the attempt, where it leaves nothing saved or wanted. -/
theorem clear_is_final_attempt : ∃ s s' t t' u,
    Run 8 (State.init []) (clearAttempt ⟨1, ⟨1, 7⟩⟩) s ∧ Step 8 s (.work {}) s' ∧
      (ClearPending s' ∨ Forgotten s {} s') ∧
    Run 8 (State.init []) (clearedAttempt ⟨1, ⟨1, 7⟩⟩) t ∧ Step 8 t (.work {}) t' ∧
      Uneventful t t' ∧ Cleared t' ∧
    Run 8 t' (lateEvents ⟨1, ⟨1, 7⟩⟩) u ∧ Cleared u ∧ Uneventful t' u := by
  obtain ⟨s, hrun, hp⟩ := exists_run 8 (State.init []) (clearAttempt ⟨1, ⟨1, 7⟩⟩)
    (fun s => decide (PassesClear s) && (s.next 8 (.work {})).isSome) (by decide +kernel)
  rw [Bool.and_eq_true, decide_eq_true_eq] at hp
  obtain ⟨s', hs'⟩ := Option.isSome_iff_exists.1 hp.2
  have hstep := step_of_next hs'
  refine ⟨s, s', ?_⟩
  obtain ⟨t, hrun', hp'⟩ := exists_run 8 (State.init []) (clearedAttempt ⟨1, ⟨1, 7⟩⟩)
    (fun t => decide (t.mouseConn ≠ none ∧ t.forgetRequested = true ∧ t.failure ≠ 0 ∧
      t.havePeer = false) && (t.next 8 (.work {})).any fun t' : State =>
        decide (t'.mouseConn = none) &&
          ((lateEvents ⟨1, ⟨1, 7⟩⟩).foldlM (State.next 8) t').any fun _ => true)
    (by decide +kernel)
  rw [Bool.and_eq_true, decide_eq_true_eq, Option.any_eq_true] at hp'
  obtain ⟨⟨hconn, hrequested, hfailed, hpeer⟩, t', ht', hended⟩ := hp'
  rw [Bool.and_eq_true, decide_eq_true_eq] at hended
  obtain ⟨u, hlate, -⟩ := exists_run 8 t' _ _ hended.2
  have hstep' := step_of_next ht'
  obtain ⟨hquiet, hend⟩ :=
    (clear_is_final hrun').2.1 (.work {}) t' hstep' ⟨hconn, hrequested, hfailed⟩
  have hcleared : Cleared t' := by
    rcases hend with hpending | ⟨a, -, hforgotten⟩
    · exact absurd hended.1 hpending.conn
    · exact hforgotten.cleared (.inl hpeer)
  -- none of the late events is work
  have hpair : ∀ l ∈ lateEvents ⟨1, ⟨1, 7⟩⟩, ∀ v, ¬ProcessesPair v l := by
    simp [lateEvents, ProcessesPair]
  obtain ⟨hu, hquiet'⟩ := (clear_is_final (hrun'.snoc hstep')).2.2 hcleared
    (lateEvents ⟨1, ⟨1, 7⟩⟩) (fun v l _ htakes => hpair l htakes.mem v) u
    ⟨_, List.prefix_refl _, hlate⟩
  exact ⟨t, t', u, hrun, hstep, (clear_is_final hrun).1 {} s' hstep hp.1, hrun', hstep', hquiet,
    hcleared, hlate, hu, hquiet'⟩

end BleMouse.Client
