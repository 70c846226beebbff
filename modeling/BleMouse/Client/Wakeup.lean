/-
The reconnect loop never loses its wake-up.

While the client has no connection and a mouse to look for (`State.Wanted`), something will wake
it up (`State.Wakeful`): a retry, a failure or a connection request that waits, or scanning that
goes on or is due.  The steps are those of the client and the changes other code makes to the
table of bonds; other code must not add the bond of the saved peer behind the client's back, and
unpairing the saved peer must succeed (`Meddles`).

* `Awake`: the invariant, with the stronger `State.Looks` in the place of `State.Wakeful`;
* `reconnect_loop_wakes`: the main result.
-/
import BleMouse.Client.Handover

namespace BleMouse.Client

open BleMouse.Hid BleMouse.Output

/-! ### Looking for a mouse -/

namespace State

variable (s : State)

/-- The client has no connection, and a mouse to look for. -/
def Wanted : Prop :=
  s.mouseConn = none ∧ (s.pairing = true ∨ s.havePeer = true ∧ s.peer ∈ s.host.bonds)

/-- Something will wake the client up. -/
def Wakeful : Prop :=
  s.work.Pending .retry ∨ .failure ∈ s.work.queue ∨ .connect ∈ s.work.queue ∨
    s.scanWanted = true ∧
      (s.radio.scanning = true ∨ s.work.Pending .scan ∨ s.work.Pending .settle)

/-- A retry is due, or scanning is wanted and a request waits or scanning goes on or is due. -/
def Looks : Prop :=
  s.work.Pending .retry ∨ s.scanWanted = true ∧
    (.connect ∈ s.work.queue ∨ s.scanOwned = true ∨ s.work.Pending .scan ∨ s.work.Pending .settle)

instance : Decidable s.Wanted := inferInstanceAs (Decidable (_ ∧ _))

end State

/-- The steps of the client, and those of other code. -/
inductive Event
  | client (l : Label)
  /-- Other code changes the bonds of the host, which goes on with these. -/
  | rebond (bonds : List Addr)

/-- What happens. -/
inductive Occurs (maxPaired : ℕ) (s : State) : Event → State → Prop
  | client {l : Label} {s' : State} (hstep : Step maxPaired s l s') :
      Occurs maxPaired s (.client l) s'
  | rebond (bonds : List Addr) : Occurs maxPaired s (.rebond bonds) (s.observe (.boot bonds))

/-- The bond of the saved peer comes back while the client has no attempt. -/
def State.Restores (s : State) (bonds : List Addr) : Prop :=
  s.mouseConn = none ∧ s.inConnect = false ∧ s.havePeer = true ∧ s.peer ∉ s.host.bonds ∧
    s.peer ∈ bonds

/-- The steps that are assumed not to happen: unpairing the saved peer fails, or its bond is
added by other code. -/
def Meddles (s : State) : Event → Prop
  | .client (.work a) => a.unpairPeer ≠ 0
  | .client (.pairingComplete c bonded) => bonded = true ∧ s.Restores [c.dst]
  | .rebond bonds => s.Restores bonds
  | _ => False

/-! ### The invariant -/

/-- A client that looks for its mouse. -/
structure Awake (s : State) : Prop where
  pairing : s.pairing = true → s.havePeer = false
  off : s.initialized = false → s.pairing = false
  looks : s.initialized = true → s.inConnect = false → s.Wanted → s.Looks

variable {s s' : State}

lemma State.not_wanted (hconn : s.mouseConn ≠ none) : ¬s.Wanted := fun h => hconn h.1

/-- A client that wants no more than before. -/
lemma State.Wanted.of_frame (h : s'.Wanted) (hconn : s'.mouseConn = s.mouseConn)
    (hpairing : s'.pairing = true → s.pairing = true) (hsaved : s'.havePeer = s.havePeer)
    (hpeer : s'.peer = s.peer) (hhost : s'.host.bonds = s.host.bonds) : s.Wanted := by
  refine ⟨hconn.symm.trans h.1, h.2.imp hpairing fun hbonded => ?_⟩
  rwa [hsaved, hpeer, hhost] at hbonded

lemma State.Looks.mono (h : s.Looks) (hwanted : s'.scanWanted = s.scanWanted)
    (hqueued : .connect ∈ s.work.queue → .connect ∈ s'.work.queue)
    (howned : s'.scanOwned = s.scanOwned)
    (hwakes : ∀ w : Work, w.Wakes → s.work.Pending w → s'.work.Pending w) : s'.Looks := by
  rcases h with hretry | ⟨hscan, hdue⟩
  · exact .inl (hwakes .retry trivial hretry)
  · refine .inr ⟨hwanted.trans hscan, ?_⟩
    rcases hdue with hdue | hdue | hdue | hdue
    · exact .inl (hqueued hdue)
    · exact .inr (.inl (howned.trans hdue))
    · exact .inr (.inr (.inl (hwakes .scan trivial hdue)))
    · exact .inr (.inr (.inr (hwakes .settle trivial hdue)))

lemma State.pending_schedule (hinit : s.initialized = true) (w : Work) (delay : ℕ) :
    (s.schedule w delay).work.Pending w := by
  unfold State.schedule
  rw [if_pos hinit]
  exact WorkQueue.pending_reschedule.2 (.inr rfl)

/-- A retry is due. -/
lemma State.looks_requestRetry (hinit : s.initialized = true) : s.requestRetry.Looks := by
  have hretry : (({ s with scanWanted := false } : State).scanRefresh.schedule .retry
      s.retryMs).work.Pending .retry :=
    State.pending_schedule (s := ({ s with scanWanted := false } : State).scanRefresh) hinit .retry
      s.retryMs
  exact .inl hretry

lemma State.looks_disconnectedWorkCb (hinit : s.initialized = true) (hconn : s.mouseConn ≠ none)
    (a : Answers) : (s.disconnectedWorkCb a).Looks := by
  have hend (t : State) (ht : Aside s t) : (t.forgetIfRequested a).requestRetry.Looks :=
    State.looks_requestRetry ((ht.forgetIfRequested a).initialized.trans hinit)
  rcases s.disconnectedWorkCb_cases a with ⟨hc, -⟩ | ⟨c, t, hc, ht, heq⟩
  · exact absurd hc hconn
  · have hoff := (Aside.refl s).observe (.autoConnOff c.dst) id
    rw [heq]
    cases ht with
    | kept => exact hend _ (hoff.closed hc)
    | unpaired => exact hend _ ((hoff.unpair c.dst a.unpairCandidate).closed hc)

namespace Awake

lemma of_aside (h : Awake s) (ha : Aside s s')
    (hlooks : s.initialized = true → s'.inConnect = false → s'.Wanted → s'.Looks) :
    Awake s' where
  pairing := by
    intro hpairing
    by_contra hsaved
    have hpeer := ha.saved hpairing (Bool.eq_true_of_not_eq_false hsaved)
    rw [h.pairing (ha.pairing hpairing)] at hpeer
    exact Bool.noConfusion hpeer
  off := by
    intro hoff
    by_contra hpairing
    have hpaired := ha.pairing (Bool.eq_true_of_not_eq_false hpairing)
    rw [h.off (ha.initialized.symm.trans hoff)] at hpaired
    exact Bool.noConfusion hpaired
  looks := fun hinit => hlooks (ha.initialized.symm.trans hinit)

/-- The client wants no more than before, and looks for it as before. -/
lemma of_wanted (h : Awake s) (ha : Aside s s')
    (hwant : s'.inConnect = false → s'.Wanted → s.Wanted)
    (hwanted : s'.scanWanted = s.scanWanted) : Awake s' := by
  refine h.of_aside ha fun hinit hgap hwant' => ?_
  have hlooks := h.looks hinit (ha.inConnect.symm.trans hgap) (hwant hgap hwant')
  exact hlooks.mono hwanted ha.queued.2 ha.scanOwned ha.wakes

lemma of_frame (h : Awake s) (ha : Aside s s') (hconn : s'.mouseConn = s.mouseConn)
    (hsaved : s'.havePeer = s.havePeer) (hpeer : s'.peer = s.peer)
    (hhost : s'.host.bonds = s.host.bonds) (hwanted : s'.scanWanted = s.scanWanted) : Awake s' :=
  h.of_wanted ha (fun _ hwant => hwant.of_frame hconn ha.pairing hsaved hpeer hhost) hwanted

/-- While there is a connection nothing is wanted. -/
lemma of_conn (h : Awake s) (ha : Aside s s') (hconn : s'.mouseConn ≠ none) : Awake s' :=
  h.of_aside ha fun _ _ hwant => absurd hwant (State.not_wanted hconn)

/-! ### Work -/

/-- An item that does not wake the client up is taken off the queue. -/
lemma take (h : Awake s) {w : Work} {rest : List Work} (hq : s.work.queue = w :: rest)
    (hw : w ≠ .connect) (hwakes : ¬w.Wakes) : Awake (s.take w rest) := by
  refine ⟨h.pairing, h.off, fun hinit hgap hwant => ?_⟩
  have hpending (v : Work) (hv : v.Wakes) (hp : s.work.Pending v) :
      (s.take w rest).work.Pending v := by
    refine (WorkQueue.pending_tail hq ?_).2 hp
    rintro rfl
    exact hwakes hv
  have hbonds : (s.take w rest).host.bonds = s.host.bonds := by
    rw [State.take, State.host_observe]
    rfl
  have hlooks := h.looks hinit hgap (hwant.of_frame rfl id rfl rfl hbonds)
  rcases hlooks with hretry | ⟨hscan, hdue⟩
  · exact .inl (hpending .retry trivial hretry)
  · refine .inr ⟨hscan, ?_⟩
    rcases hdue with hdue | hdue | hdue | hdue
    · rw [hq] at hdue
      exact .inl ((List.mem_cons.1 hdue).resolve_left (Ne.symm hw))
    · exact .inr (.inl hdue)
    · exact .inr (.inr (.inl (hpending .scan trivial hdue)))
    · exact .inr (.inr (.inr (hpending .settle trivial hdue)))

lemma disconnectedWorkCb (h : Awake s) (a : Answers) : Awake (s.disconnectedWorkCb a) := by
  by_cases hconn : s.mouseConn = none
  · have heq : s.disconnectedWorkCb a = s := by simp only [State.disconnectedWorkCb, hconn]
    rwa [heq]
  · exact h.of_aside ((Aside.refl s).disconnectedWorkCb a) fun hinit _ _ =>
      State.looks_disconnectedWorkCb hinit hconn a

lemma failureWorkCb (h : Awake s) (hgap : s.inConnect = false) (a : Answers) :
    Awake (s.failureWorkCb a) := by
  refine h.of_aside (Aside.failureWorkCb hgap a) fun hinit _ => ?_
  unfold State.failureWorkCb
  split
  case h_1 c hc =>
    have hclosing : State.mouseConn (State.observe { s with stage := .closing, scanWanted := false }
        (.disconnect c a.disconnect)) ≠ none := by
      show s.mouseConn ≠ none
      rw [hc]
      exact Option.some_ne_none c
    dsimp only
    split
    · refine fun _ => State.looks_disconnectedWorkCb ?_ hclosing a
      exact hinit
    · exact fun hwant => absurd hwant (State.not_wanted hclosing)
  case h_2 =>
    have hinit' : State.initialized { s with stage := .idle, scanWanted := false, failure := 0 } =
      true := hinit
    exact fun _ => State.looks_requestRetry hinit'

lemma timeoutWorkCb (h : Awake s) : Awake s.timeoutWorkCb := by
  unfold State.timeoutWorkCb
  split
  · exact h.of_frame ((Aside.refl s).fail _) rfl rfl rfl rfl rfl
  · exact h

lemma connectedWorkCb (h : Awake s) (a : Answers) : Awake (s.connectedWorkCb a) := by
  have hrelease : Awake s.releaseEvent := by
    have hb := (Background.refl s).releaseEvent
    refine h.of_frame (Aside.refl s).releaseEvent hb.mouseConn hb.havePeer hb.peer
      (congrArg History.bonds hb.host) ?_
    unfold State.releaseEvent
    split <;> rfl
  unfold State.connectedWorkCb
  generalize s.releaseEvent = t at hrelease ⊢
  by_cases hconn : t.mouseConn = none
  · have heq : t.completeConnection a = t := by simp only [State.completeConnection, hconn]
    rwa [heq]
  refine hrelease.of_aside ((Aside.refl t).completeConnection a) fun hinit _ => ?_
  unfold State.completeConnection
  split
  case h_1 hc => exact absurd hc hconn
  case h_2 c hc =>
  have hc' : (t.observe (.autoConnOff c.dst)).scanRefresh.mouseConn = some c := hc
  have hlinked : (t.observe (.autoConnOff c.dst)).scanRefresh.mouseConn ≠ none := hconn
  have hinit' : (t.observe (.autoConnOff c.dst)).scanRefresh.initialized = true := hinit
  dsimp only
  generalize (t.observe (.autoConnOff c.dst)).scanRefresh = u at hc' hlinked hinit' ⊢
  -- the link is refused and a retry follows, or the connection stays
  split_ifs
  · have ha := ((Aside.refl u).closeAttempt hc').forgetIfRequested a
    exact fun _ => State.looks_requestRetry (ha.initialized.trans hinit')
  all_goals exact fun hwant => absurd hwant (State.not_wanted hlinked)

/-- The saved peer is forgotten, and nothing is wanted any more. -/
lemma clearWorkCb (h : Awake s) {a : Answers} (hunpair : a.unpairPeer = 0) :
    Awake (s.clearWorkCb a) := by
  have hforgotten (t : State) (hpairing : t.pairing = false) (hpeer : t.havePeer = false) :
      ¬t.forgotten.Wanted := by
    rintro ⟨-, hpaired | ⟨hsaved, -⟩⟩
    · rw [show t.forgotten.pairing = false from hpairing] at hpaired
      exact Bool.noConfusion hpaired
    · rw [show t.forgotten.havePeer = false from hpeer] at hsaved
      exact Bool.noConfusion hsaved
  have ha := Aside.clearWorkCb (s := s) a
  unfold State.clearWorkCb at ha ⊢
  dsimp only at ha ⊢
  split_ifs at ha ⊢ with hheld hconn
  · exact h
  · refine h.of_conn ha ?_
    show s.mouseConn ≠ none
    exact Option.isSome_iff_ne_none.1 hconn
  · refine h.of_aside ha fun _ _ => ?_
    unfold State.forgetPeer
    dsimp only
    split_ifs with hsaved herr
    · exact absurd hunpair herr
    · exact fun hwant => absurd hwant (hforgotten _ rfl rfl)
    · exact fun hwant => absurd hwant (hforgotten _ rfl (Bool.eq_false_of_not_eq_true hsaved))

lemma discoveryWorkCb (h : Awake s) (hstage : s.Live → s.stage.Exploring) (a : Answers) :
    Awake (s.discoveryWorkCb a) := by
  by_cases hconn : s.mouseConn = none
  · have heq : s.discoveryWorkCb a = s := by simp only [State.discoveryWorkCb, hconn]
    rwa [heq]
  refine h.of_aside (Aside.discoveryWorkCb a) fun hinit _ hwant => ?_
  rcases discoveryWorkCb_cases hinit hstage a with hexplores | ⟨c, index, -, -, -, hfinishes⟩
  · exact absurd (hexplores.mouseConn.symm.trans hwant.1) hconn
  · exact absurd (hfinishes.mouseConn.symm.trans hwant.1) hconn

/-! ### Retries and scans -/

/-- The client looks for the mouse whenever it wants one. -/
lemma retryWorkCb (hpairing : s.pairing = true → s.havePeer = false)
    (hoff : s.initialized = false → s.pairing = false) : Awake s.retryWorkCb := by
  have hb := (Background.refl s).retryWorkCb
  have hpaired : s.retryWorkCb.pairing = s.pairing := by
    unfold State.retryWorkCb State.centralConnect
    dsimp only
    split_ifs <;> rfl
  have hscan : s.retryWorkCb.scanWanted =
      ((s.mouseConn.isNone && (s.havePeer || s.pairing)) &&
        !(s.havePeer && !s.isBonded s.peer)) := by
    unfold State.retryWorkCb State.centralConnect
    dsimp only
    split_ifs <;> rfl
  have hpending (hinit : s.initialized = true) : s.retryWorkCb.work.Pending .scan := by
    have hrefresh (t : State) (ht : t.initialized = true) : t.scanRefresh.work.Pending .scan :=
      State.pending_schedule ht .scan 0
    unfold State.retryWorkCb
    dsimp only
    split
    · refine hrefresh _ (Eq.trans ?_ hinit)
      exact ((Background.refl _).centralConnect _).initialized
    · exact hrefresh _ hinit
  refine ⟨?_, ?_, fun hinit _ hwant => .inr ⟨?_, .inr (.inr (.inl (hpending ?_)))⟩⟩
  · rw [hpaired, hb.havePeer]
    exact hpairing
  · rw [hpaired, hb.initialized]
    exact hoff
  · obtain ⟨hconn, hmouse⟩ := hwant
    rw [hb.mouseConn] at hconn
    rw [hpaired, hb.havePeer, hb.peer, hb.host] at hmouse
    rw [hscan, hconn]
    rcases hmouse with hpair | ⟨hsaved, hbonded⟩
    · simp [hpair, hpairing hpair]
    · simp [hsaved, State.isBonded, hbonded]
  · exact hb.initialized.symm.trans hinit

lemma pairTimeoutCb (s : State) : Awake s.pairTimeoutCb := by
  unfold State.pairTimeoutCb
  dsimp only
  split
  · exact retryWorkCb (fun hpairing => Bool.noConfusion hpairing) fun _ => rfl
  · exact retryWorkCb (fun hpairing => Bool.noConfusion hpairing) fun _ => rfl

lemma pairWorkCb (maxPaired : ℕ) (h : Awake s) (hinit : s.initialized = true) :
    Awake (s.pairWorkCb maxPaired) := by
  unfold State.pairWorkCb
  split_ifs with hconn hsaved
  · exact h
  · exact retryWorkCb h.pairing h.off
  · exact h
  · refine retryWorkCb (fun _ => Bool.eq_false_of_not_eq_true hsaved) ?_
    intro hoff
    exact absurd (hinit.symm.trans hoff) Bool.false_ne_true.symm

end Awake

/-- A client that looks for its mouse once the scan is refreshed. -/
structure Drowsy (s : State) : Prop where
  pairing : s.pairing = true → s.havePeer = false
  off : s.initialized = false → s.pairing = false
  wants : s.initialized = true → s.inConnect = false → s.Wanted →
    s.work.Pending .retry ∨ s.scanWanted = true

namespace Drowsy

lemma of_take (h : Awake s) {w : Work} {rest : List Work} (hq : s.work.queue = w :: rest)
    (hw : w ≠ .retry) : Drowsy (s.take w rest) := by
  refine ⟨h.pairing, h.off, fun hinit hgap hwant => ?_⟩
  have hbonds : (s.take w rest).host.bonds = s.host.bonds := by
    rw [State.take, State.host_observe]
    rfl
  rcases h.looks hinit hgap (hwant.of_frame rfl id rfl rfl hbonds) with hretry | ⟨hscan, -⟩
  · exact .inl ((WorkQueue.pending_tail hq (Ne.symm hw)).2 hretry)
  · exact .inr hscan

/-- The scan is refreshed, or the radio settles first. -/
lemma put_off (h : Drowsy s) {w : Work} (hw : w = .scan ∨ w = .settle) (delay : ℕ) :
    Awake (s.schedule w delay) := by
  refine ⟨h.pairing, h.off, fun hinit hgap hwant => ?_⟩
  have hpending := State.pending_schedule (s := s) hinit w delay
  rcases h.wants hinit hgap hwant with hretry | hscan
  · have ha := (Aside.refl s).schedule w delay
      (by rcases hw with rfl | rfl <;> exact Work.noConfusion)
    exact .inl (ha.wakes .retry trivial hretry)
  · refine .inr ⟨hscan, .inr (.inr ?_)⟩
    rcases hw with rfl | rfl
    · exact .inl hpending
    · exact .inr hpending

lemma schedule (h : Drowsy s) (delay : ℕ) : Awake (s.schedule .scan delay) :=
  h.put_off (.inl rfl) delay

lemma stopOwnScan (h : Drowsy s) (answer : ℤ) : Drowsy (s.stopOwnScan answer).1 := by
  have hb := (Background.refl s).stopOwnScan answer
  obtain ⟨scanOwned, journal, heq⟩ := s.stopOwnScan_eq answer
  rw [heq] at hb ⊢
  exact ⟨h.pairing, h.off, fun hinit hgap hwant => h.wants hinit hgap
    (hwant.of_frame rfl id rfl rfl (congrArg History.bonds hb.host))⟩

lemma settleWorkCb (h : Drowsy s) : Awake s.settleWorkCb := by
  have hs : Drowsy { s with splitSettling := false } := { h with }
  exact hs.schedule 0

/-- Each exit of `scan_work_cb` leaves a request that waits, an active scan, or itself armed. -/
lemma scanWorkCb (h : Drowsy s) (ho : Orderly s) (a : Answers) : Awake (s.scanWorkCb a) := by
  have hsame (t : State) (ht : Drowsy t)
      (hdue : t.scanWanted = true → t.inConnect = false →
        .connect ∈ t.work.queue ∨ t.scanOwned = true) : Awake t := by
    refine ⟨ht.pairing, ht.off, fun hinit hgap hwant => ?_⟩
    refine (ht.wants hinit hgap hwant).imp id fun hscan => ⟨hscan, ?_⟩
    rcases hdue hscan hgap with hq | howned
    · exact .inl hq
    · exact .inr (.inl howned)
  have hstarted (scanOwned : Bool) :
      Drowsy { s.observe (.scanStart a.scanStart) with scanOwned } := by
    have hhost : (s.observe (.scanStart a.scanStart)).host = s.host :=
      (s.host_observe _).trans (record_quiet _ trivial)
    exact ⟨h.pairing, h.off, fun hinit hgap hwant => h.wants hinit hgap
      (hwant.of_frame rfl id rfl rfl (congrArg History.bonds hhost))⟩
  unfold State.scanWorkCb
  dsimp only
  split
  case isTrue hconnecting =>
    refine hsame s h fun _ hgap => .inl ((ho.connecting.1 hconnecting).resolve_right ?_)
    rw [hgap]
    exact Bool.false_ne_true
  case isFalse =>
  split
  case isTrue hneeded =>
    split
    case isTrue => exact (h.stopOwnScan _).schedule 1000
    case isFalse hwanted =>
      refine hsame _ (h.stopOwnScan _) fun hscan _ => absurd ?_ hwanted
      obtain ⟨scanOwned, journal, heq⟩ := s.stopOwnScan_eq a.scanStop
      rw [heq] at hscan
      exact hscan
  case isFalse =>
  split
  case isTrue howned => exact hsame s h fun _ _ => .inr howned
  case isFalse =>
  split
  case isTrue => exact (hstarted s.scanOwned).schedule 1000
  case isFalse =>
    split
    · exact ((hstarted true).stopOwnScan _).schedule 1000
    · exact hsame _ (hstarted true) fun _ _ => .inr rfl

lemma connectReturned (h : Drowsy s) {err : ℤ} (herr : err ≠ 0) :
    Awake (s.connectReturned err) := by
  have hs : Drowsy { s with connecting := false } := { h with }
  unfold State.connectReturned
  dsimp only
  rw [if_pos herr]
  exact hs.schedule 1000

lemma requestRetry (hpairing : s.pairing = true → s.havePeer = false)
    (hoff : s.initialized = false → s.pairing = false) : Drowsy s.requestRetry := by
  refine ⟨hpairing, hoff, fun hinit _ _ => .inl ?_⟩
  rcases State.looks_requestRetry (s := s) hinit with hretry | ⟨hno, -⟩
  · exact hretry
  · exact Bool.noConfusion hno

/-- Each exit of `connect_mouse` returns an error, and a retry follows or scanning stays wanted. -/
lemma connectMouse (maxPaired : ℕ) (h : Drowsy s) (addr : Addr) (a : Answers) :
    Drowsy (s.connectMouse maxPaired addr a).1 ∧
      ((s.connectMouse maxPaired addr a).1.inConnect = false →
        (s.connectMouse maxPaired addr a).2 ≠ 0) := by
  unfold State.connectMouse
  dsimp only
  split_ifs with hbusy hother hbonded hfull hauto
  · exact ⟨h, fun _ => show -eAlready ≠ 0 by decide⟩
  · exact ⟨h, fun _ => show -eCanceled ≠ 0 by decide⟩
  · exact ⟨h, fun _ => show -eAlready ≠ 0 by decide⟩
  · refine ⟨⟨fun hpairing => Bool.noConfusion hpairing, fun _ => rfl, fun _ _ hwant => ?_⟩,
      fun _ => show -eNoMem ≠ 0 by decide⟩
    simp only [Bool.and_eq_true, Bool.not_eq_true'] at hfull
    obtain ⟨-, hpairing | ⟨hsaved, -⟩⟩ := hwant
    · exact Bool.noConfusion hpairing
    · exact absurd (hfull.1.symm.trans hsaved) Bool.false_ne_true
  · exact ⟨requestRetry h.pairing h.off, fun _ => hauto⟩
  · exact ⟨⟨h.pairing, h.off, fun _ hin => absurd hin Bool.false_ne_true.symm⟩,
      False.elim⟩

lemma connectWorkBegin (maxPaired : ℕ) (h : Drowsy s) (a : Answers) :
    Awake (s.connectWorkBegin maxPaired a) := by
  have hstopped := h.stopOwnScan a.scanStop
  unfold State.connectWorkBegin
  dsimp only
  split
  case isTrue herr => exact hstopped.connectReturned herr
  case isFalse =>
    generalize (s.stopOwnScan a.scanStop).1 = t at hstopped ⊢
    have hhost : (t.observe (.connect t.pendingAddress)).host = t.host :=
      (t.host_observe _).trans (record_quiet _ trivial)
    have hcalled : Drowsy (t.observe (.connect t.pendingAddress)) :=
      ⟨hstopped.pairing, hstopped.off, fun hinit hgap hwant => hstopped.wants hinit hgap
        (hwant.of_frame rfl id rfl rfl (congrArg History.bonds hhost))⟩
    obtain ⟨hs, herr⟩ := hcalled.connectMouse maxPaired t.pendingAddress a
    split
    case isTrue hin =>
      exact ⟨hs.pairing, hs.off, fun _ hno => absurd (hin.symm.trans hno) Bool.false_ne_true.symm⟩
    case isFalse hin => exact hs.connectReturned (herr (Bool.eq_false_of_not_eq_true hin))

lemma connectWorkEnd (h : Awake s) (a : Answers) : Awake (s.connectWorkEnd a) := by
  unfold State.connectWorkEnd State.connectMouseLookup
  dsimp only
  split
  case isTrue hnone =>
    refine connectReturned (requestRetry ?_ ?_) (show -eNotConn ≠ 0 by decide)
    · exact h.pairing
    · exact h.off
  case isFalse hsome =>
    have hconn : a.lookup ≠ none := by
      rintro hlookup
      exact hsome (Option.isNone_iff_eq_none.2 hlookup)
    exact ⟨h.pairing, h.off, fun _ _ hwant => absurd hwant.1 hconn⟩

end Drowsy

/-! ### Callbacks and keys -/

namespace Awake

lemma drowsy (h : Awake s) : Drowsy s :=
  ⟨h.pairing, h.off, fun hinit hgap hwant => (h.looks hinit hgap hwant).imp id And.left⟩

lemma connectedCb (h : Awake s) (c : Conn) (err : ℕ) :
    Awake ((s.observe (.connected c err)).connectedCb c err) := by
  have ha := Aside.connectedCb (s := s) c err
  have hbonds : (s.observe (.connected c err)).host.bonds = s.host.bonds := by
    rw [State.host_observe]
    rfl
  unfold State.connectedCb at ha ⊢
  split_ifs at ha ⊢
  · refine h.of_frame ha rfl rfl rfl ?_ rfl
    show (State.host (State.observe _ (.ref c))).bonds = _
    rw [State.host_observe]
    exact hbonds
  · exact h.of_frame ha rfl rfl rfl hbonds rfl

lemma disconnectedCb (h : Awake s) (c : Conn) :
    Awake ((s.observe (.disconnected c)).disconnectedCb c) := by
  have ha := Aside.disconnectedCb (s := s) c
  unfold State.disconnectedCb at ha ⊢
  split_ifs at ha ⊢ with howns
  · refine h.of_conn ha ?_
    have hc : s.mouseConn = some c := of_decide_eq_true howns
    show s.mouseConn ≠ none
    rw [hc]
    exact Option.some_ne_none c
  · refine h.of_frame ha rfl rfl rfl ?_ rfl
    rw [State.host_observe]
    rfl

/-- Discovery and the callbacks of a connection do nothing without one. -/
lemma of_explores (h : Awake s) (ha : Aside s s') (he : Explores s s')
    (hnone : s.mouseConn = none → s' = s) : Awake s' := by
  by_cases hconn : s.mouseConn = none
  · rw [hnone hconn]
    exact h
  · refine h.of_conn ha ?_
    rwa [he.mouseConn]

lemma invalid_of_none (hconn : s.mouseConn = none) (c : Conn) : (!s.validCallback c) = true := by
  simp [State.validCallback, State.owns, hconn]

lemma finished (h : Awake s) (continues : Bool) (c : Conn) (request : Request) (err : ℕ) :
    Awake (s.finished continues c request err) := by
  have ha := (Aside.refl s).finished continues c request err
  unfold State.finished at ha ⊢
  split_ifs at ha ⊢
  · exact h
  · refine h.of_frame ha rfl rfl rfl ?_ rfl
    rw [State.host_observe]
    rfl

/-- The bond of the saved peer is not restored. -/
lemma of_bonds (h : Awake s) (ha : Aside s s') (hconn : s'.mouseConn = s.mouseConn)
    (hsaved : s'.havePeer = s.havePeer) (hpeer : s'.peer = s.peer)
    (hwanted : s'.scanWanted = s.scanWanted) {bonds : List Addr}
    (hmem : ∀ addr ∈ s'.host.bonds, addr ∈ s.host.bonds ∨ addr ∈ bonds)
    (hkeeps : ¬s.Restores bonds) : Awake s' := by
  refine h.of_wanted ha (fun hgap hwant => ?_) hwanted
  have hnone : s.mouseConn = none := hconn.symm.trans hwant.1
  refine ⟨hnone, hwant.2.imp ha.pairing fun hbonded => ?_⟩
  rw [hsaved, hpeer] at hbonded
  refine ⟨hbonded.1, ?_⟩
  by_contra hno
  exact hkeeps ⟨hnone, ha.inConnect.symm.trans hgap, hbonded.1, hno,
    (hmem _ hbonded.2).resolve_left hno⟩

lemma pairingCompleteCb (h : Awake s) (c : Conn) (bonded : Bool)
    (hkeeps : ¬(bonded = true ∧ s.Restores [c.dst])) :
    Awake ((s.observe (.pairingComplete c bonded)).pairingCompleteCb c bonded) := by
  have ha := Aside.pairingCompleteCb (s := s) c bonded
  by_cases howns : s.owns c = true
  · refine h.of_conn ha ?_
    have hc : s.mouseConn = some c := of_decide_eq_true howns
    have hconn : s.mouseConn ≠ none := by
      rw [hc]
      exact Option.some_ne_none c
    unfold State.pairingCompleteCb
    dsimp only
    split_ifs <;> exact hconn
  · have heq : (s.observe (.pairingComplete c bonded)).pairingCompleteCb c bonded =
        s.observe (.pairingComplete c bonded) := if_neg howns
    rw [heq] at ha ⊢
    have hbonds : (s.observe (.pairingComplete c bonded)).host.bonds =
        if bonded ∧ c.dst ∉ s.host.bonds then s.host.bonds ++ [c.dst] else s.host.bonds := by
      rw [State.host_observe]
      rfl
    cases bonded with
    | false =>
      refine h.of_frame ha rfl rfl rfl ?_ rfl
      simpa using hbonds
    | true =>
      refine h.of_bonds ha rfl rfl rfl rfl ?_ fun hrestores => hkeeps ⟨rfl, hrestores⟩
      intro addr hmem
      rw [hbonds] at hmem
      split_ifs at hmem
      · exact List.mem_append.1 hmem
      · exact .inl hmem

lemma connectionChanged (h : Awake s) (answer : ℤ) : Awake (s.connectionChanged answer) := by
  have hs : Drowsy { s with splitSettling := true } := { h.drowsy with }
  exact (hs.stopOwnScan answer).put_off (.inr rfl) 1000

lemma centralConnect (h : Awake s) (addr : Addr) : Awake (s.centralConnect addr) := by
  unfold State.centralConnect
  split
  case isTrue => exact h
  case isFalse hfree =>
    simp only [Bool.or_eq_true, Bool.not_eq_true', not_or, Bool.not_eq_false] at hfree
    have hhost : (State.observe { s with connecting := true, pendingAddress := addr }
        (.accepted addr)).host = s.host := (State.host_observe _ _).trans (record_quiet _ trivial)
    refine ⟨h.pairing, h.off, fun hinit hgap hwant => ?_⟩
    have hlooks := h.looks hinit hgap
      (hwant.of_frame rfl id rfl rfl (congrArg History.bonds hhost))
    refine hlooks.mono rfl (fun _ => State.mem_submit_self hfree.1) rfl fun w _ hp => ?_
    have hwork : (State.submit (State.observe { s with connecting := true, pendingAddress := addr }
        (.accepted addr)) .connect).work = s.work.submit .connect := if_pos hfree.1
    rw [hwork]
    exact WorkQueue.pending_submit.2 (.inl hp)

lemma zmkBleMouseAdvertisement (h : Awake s) (addr : Addr) (type : AdvType) (data : List BtData)
    (now : BitVec 32) : Awake (s.zmkBleMouseAdvertisement addr type data now).1 := by
  have hseen (advertisers : List Advertiser) : Awake { s with advertisers } := { h with }
  unfold State.zmkBleMouseAdvertisement
  dsimp only
  split_ifs
  · exact h
  · exact h
  · exact h.centralConnect _
  · exact h
  · exact h
  · exact (hseen _).centralConnect _
  · exact hseen _

lemma zmkBleMousePair (h : Awake s) : Awake s.zmkBleMousePair := by
  have ha := Aside.zmkBleMousePair (s := s)
  unfold State.zmkBleMousePair at ha ⊢
  split_ifs at ha ⊢
  · exact h
  · exact h.of_frame ha rfl rfl rfl rfl rfl

lemma zmkBleMouseClearHold (h : Awake s) (pressed : Bool) :
    Awake ((s.observe (.clearKey pressed)).zmkBleMouseClearHold pressed) := by
  have ha := Aside.zmkBleMouseClearHold (s := s) pressed
  have hbonds : (s.observe (.clearKey pressed)).host.bonds = s.host.bonds := by
    rw [State.host_observe]
    rfl
  unfold State.zmkBleMouseClearHold at ha ⊢
  dsimp only at ha ⊢
  split_ifs at ha ⊢
  · exact h.of_frame ha rfl rfl rfl hbonds rfl
  · exact h.of_frame ha rfl rfl rfl hbonds rfl

/-- The settings are loaded before anything is wanted. -/
lemma settingsSet (h : Awake s) (hoff : s.initialized = false) (name : String) (length : ℕ)
    (contents : Addr) (result : ℤ) : Awake ((s.observe
      (.load name length contents result)).settingsSet name length contents result).1 := by
  have hloaded (peer : Addr) (havePeer : Bool) :
      Awake { s.observe (.load name length contents result) with peer, havePeer } := by
    refine ⟨fun hpairing => ?_, h.off, fun hinit => ?_⟩
    · exact absurd ((h.off hoff).symm.trans hpairing) Bool.false_ne_true
    · exact absurd (hoff.symm.trans hinit) Bool.false_ne_true
  unfold State.settingsSet
  dsimp only
  split_ifs
  · exact hloaded s.peer s.havePeer
  · exact hloaded s.peer s.havePeer
  · exact hloaded contents true
  · exact hloaded contents s.havePeer

lemma zmkBleMouseStart (h : Awake s) (hs : Coherent s) : Awake s.zmkBleMouseStart := by
  unfold State.zmkBleMouseStart
  split_ifs with hstarted
  · exact h
  · have hoff := h.off (hs.start.trans (Bool.eq_false_of_not_eq_true hstarted))
    refine ⟨h.pairing, fun _ => hoff, fun hinit _ _ => .inl ?_⟩
    exact State.pending_schedule (s := { s with started := true }.centralScanInit) hinit .retry 0

/-! ### Steps and runs -/

lemma run {maxPaired : ℕ} (h : Awake s) (hs : Coherent s) (ho : Orderly s)
    (hgap : s.inConnect = false) {w : Work} {rest : List Work} (hq : s.work.queue = w :: rest)
    {a : Answers} (hunpair : a.unpairPeer = 0) : Awake ((s.take w rest).run maxPaired w a) := by
  have hmem : w ∈ s.work.queue := hq ▸ List.mem_cons_self
  cases w with
  | discovery =>
    exact (h.take hq Work.noConfusion id).discoveryWorkCb
      (fun hlive => ((hs.token hlive).discovery hmem).2) a
  | failure => exact (h.take hq Work.noConfusion id).failureWorkCb hgap a
  | retry => exact retryWorkCb h.pairing h.off
  | timeout => exact (h.take hq Work.noConfusion id).timeoutWorkCb
  | pairTimeout => exact pairTimeoutCb _
  | connected => exact (h.take hq Work.noConfusion id).connectedWorkCb a
  | disconnected => exact (h.take hq Work.noConfusion id).disconnectedWorkCb a
  | pair => exact (h.take hq Work.noConfusion id).pairWorkCb maxPaired (hs.initialized_of_mem hmem)
  | clear => exact (h.take hq Work.noConfusion id).clearWorkCb hunpair
  | scan =>
    exact (Drowsy.of_take h hq Work.noConfusion).scanWorkCb (ho.take hq Work.noConfusion) a
  | connect =>
    have hbegun := (Drowsy.of_take h hq Work.noConfusion).connectWorkBegin maxPaired a
    show Awake (State.connectWorkCb maxPaired (s.take .connect rest) a)
    unfold State.connectWorkCb
    dsimp only
    split
    · exact Drowsy.connectWorkEnd hbegun a
    · exact hbegun
  | settle => exact (Drowsy.of_take h hq Work.noConfusion).settleWorkCb
  | output => exact h.take hq Work.noConfusion id

lemma step {maxPaired : ℕ} (h : Awake s) (hs : Coherent s) (ho : Orderly s) {l : Label}
    (hstep : Step maxPaired s l s') (hkeeps : ¬Meddles s (.client l)) : Awake s' := by
  obtain ⟨hallows, -⟩ := id hstep
  cases hstep.moves with
  | work hgap hq => exact h.run hs ho hgap hq (not_not.1 hkeeps)
  | connectBegin _ hq => exact (Drowsy.of_take h hq Work.noConfusion).connectWorkBegin maxPaired _
  | connectEnd => exact Drowsy.connectWorkEnd h _
  | expire hw => exact h.of_frame (Aside.expire ho.armed hw) rfl rfl rfl rfl rfl
  | connected c err => exact h.connectedCb c err
  | disconnected c => exact h.disconnectedCb c
  | connectionChanged scanStop => exact h.connectionChanged scanStop
  | securityChanged c level err =>
    exact h.of_explores (Aside.securityCb c level err) (Explores.securityCb hs c level err)
      fun hnone => if_pos (invalid_of_none hnone c)
  | pairingComplete c bonded => exact h.pairingCompleteCb c bonded hkeeps
  | pairingFailed c =>
    refine h.of_explores (Aside.pairingFailedCb c) (Explores.pairingFailedCb hs c) fun hnone => ?_
    exact if_neg (by simp [State.owns, hnone])
  | discovered c _ _ _ attr =>
    refine finished (h.of_explores (Aside.discoverCb c attr) (Explores.discoverCb hs c attr) ?_)
      _ _ _ _
    exact fun hnone => congrArg Prod.fst (if_pos (invalid_of_none hnone c))
  | readDone c _ err data =>
    refine finished (h.of_explores (Aside.readCb c err data) (Explores.readCb hs c err data) ?_)
      _ _ _ _
    exact fun hnone => congrArg Prod.fst (if_pos (invalid_of_none hnone c))
  | written c _ _ err =>
    have hstage (hlive : s.Live) : s.stage = .protocol := (hs.token hlive).fits _ hallows
    refine finished (h.of_explores (Aside.writtenCb c err) (Explores.writtenCb hs c err hstage) ?_)
      _ _ _ _
    exact fun hnone => if_pos (invalid_of_none hnone c)
  | subscribed c i _ _ err =>
    refine finished
      (h.of_explores (Aside.subscribedCb c err i) (Explores.subscribedCb hs c err i) ?_) _ _ _ _
    exact fun hnone => if_pos (invalid_of_none hnone c)
  | notified c i data =>
    refine h.of_explores (Aside.notifyCb c i data) (Explores.notifyCb hs c i data) fun hnone => ?_
    exact if_pos (Bool.or_eq_true_iff.2 (.inl (invalid_of_none hnone c)))
  | advertisement addr type data now => exact h.zmkBleMouseAdvertisement addr type data now
  | pair => exact h.zmkBleMousePair
  | clearHold pressed => exact h.zmkBleMouseClearHold pressed
  | settings name length contents result =>
    exact h.settingsSet (hs.start.trans hallows) name length contents result
  | start => exact h.zmkBleMouseStart hs

end Awake

/-- Other code changes the bonds. -/
lemma Coherent.rebond (h : Coherent s) (bonds : List Addr) :
    Coherent (s.observe (.boot bonds)) := by
  have hhost : (s.observe (.boot bonds)).host = { s.host with bonds } := s.host_observe _
  refine { h with gapWork := ?_, active := ?_, conn := ?_, addr := ?_, auto := ?_, token := ?_ }
  all_goals rw [hhost]
  exacts [h.gapWork, h.active, h.conn, h.addr, h.auto, h.token]

lemma Awake.rebond (h : Awake s) {bonds : List Addr} (hkeeps : ¬s.Restores bonds) :
    Awake (s.observe (.boot bonds)) := by
  have hhost : (s.observe (.boot bonds)).host = { s.host with bonds } := s.host_observe _
  refine h.of_bonds ((Aside.refl s).observe (.boot bonds) id) rfl rfl rfl rfl ?_ hkeeps
  intro addr hmem
  rw [hhost] at hmem
  exact .inr hmem

lemma awake_init (bonds : List Addr) : Awake (State.init bonds) :=
  ⟨fun hpairing => Bool.noConfusion hpairing, fun _ => rfl, fun hinit => Bool.noConfusion hinit⟩

/-- What the client looks for, it will be woken up for. -/
lemma State.Looks.wakeful (h : s.Looks) (ho : Orderly s) : s.Wakeful := by
  rcases h with hretry | ⟨hscan, hdue⟩
  · exact .inl hretry
  · rcases hdue with hdue | hdue | hdue
    · exact .inr (.inr (.inl hdue))
    · exact .inr (.inr (.inr ⟨hscan, .inl (ho.scanning.trans hdue)⟩))
    · exact .inr (.inr (.inr ⟨hscan, .inr hdue⟩))

/-- The reconnect loop never loses its wake-up: after the start, and between two items of work,
a client without a connection that has a mouse to look for will be woken up. -/
theorem reconnect_loop_wakes {maxPaired : ℕ} {bonds : List Addr} {events : List Event}
    (hrun : Transition.Run (Occurs maxPaired) (State.init bonds) events s)
    (hkeeps : ∀ t e t', Transition.Takes (Occurs maxPaired) (State.init bonds) events t e t' →
      ¬Meddles t e)
    (hstarted : s.started = true) (hgap : s.inConnect = false) (hwanted : s.Wanted) :
    s.Wakeful := by
  have hinv : Coherent s ∧ Orderly s ∧ Awake s := by
    refine Transition.Run.invariant_unless ⟨events, List.prefix_rfl, hrun⟩
      (fun t => Coherent t ∧ Orderly t ∧ Awake t) Meddles
      ⟨coherent_init bonds, orderly_init bonds, awake_init bonds⟩ ?_ hkeeps
    rintro t e t' ⟨hs, ho, h⟩ hoccurs hfine
    cases hoccurs with
    | client hstep => exact ⟨hs.step hstep, ho.step hstep.2, h.step hs ho hstep hfine⟩
    | rebond bonds =>
      exact ⟨hs.rebond bonds, ho.of_aside ((Aside.refl t).observe _ id), h.rebond hfine⟩
  obtain ⟨hs, ho, h⟩ := hinv
  exact (h.looks (hs.start.trans hstarted) hgap hwanted).wakeful ho

/-- A saved and bonded peer, an attempt to connect to it that the host refuses, and a scan that
cannot be started. -/
def refusedAttempt (addr : Addr) : List Label :=
  [.settings "peer" 7 addr 7, .start, .work {}, .work { autoConn := -eNoMem },
    .work { scanStart := -eAlready }]

theorem reconnect_loop_wakes_attempt :
    ∃ s, Transition.Run (Occurs 8) (State.init [⟨1, 7⟩]) ((refusedAttempt ⟨1, 7⟩).map .client) s ∧
      s.Wanted ∧ s.Wakeful := by
  obtain ⟨s, hrun, hs⟩ := exists_run 8 (State.init [⟨1, 7⟩]) (refusedAttempt ⟨1, 7⟩)
    (fun s => s.started && !s.inConnect && decide s.Wanted) (by decide +kernel)
  simp only [Bool.and_eq_true, Bool.not_eq_true', decide_eq_true_eq] at hs
  have hoccurs : Transition.Run (Occurs 8) (State.init [⟨1, 7⟩])
      ((refusedAttempt ⟨1, 7⟩).map .client) s := hrun.map _ fun _ _ _ => .client
  refine ⟨s, hoccurs, hs.2, reconnect_loop_wakes hoccurs ?_ hs.1.1 hs.1.2 hs.2⟩
  rintro t e t' htakes hmeddles
  have hmem := htakes.mem
  simp only [refusedAttempt, List.map_cons, List.map_nil, List.mem_cons, List.not_mem_nil,
    or_false] at hmem
  rcases hmem with rfl | rfl | rfl | rfl | rfl
  all_goals simp [Meddles] at hmeddles

end BleMouse.Client
