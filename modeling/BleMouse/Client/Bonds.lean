/-
The bond table.

The client removes a bond only with `bt_unpair`, which it calls at the end of an attempt whose
candidate was bonded and not registered, and when it forgets the saved peer for a Clear.  What
it has as the saved peer is the address loaded or registered last, unless a load that fails has
written another one over it.

* `Host.Pairs`, `Bonding`: what the host promises about pairing, and the steps of the client;
* `State.LoadsClean`: a load does not write over the saved peer;
* `Obs.Accounted`: what precedes a removal of a bond, and the end of an attempt;
* `Accounted`: the invariant, with what happens to it at the end of an attempt.

That every step preserves it is in `Client/BondTable.lean`.
-/
import BleMouse.Client.Completion
import BleMouse.Client.Readiness
import BleMouse.Client.SavedPeer

namespace BleMouse.Client

open BleMouse.Hid BleMouse.Output

/-! ### The promises of the host -/

/-- What the host promises about the links: it reports at most one connection-complete event
and at most one pairing completion for each attempt, the latter on an established link; and a
connection has the address of a device.  A work item is run as a whole. -/
def Host.Pairs (s : State) : Label → Prop
  | .work a => Host.Allows s (.work a) ∧ ∀ c ∈ a.lookup, c.dst ≠ .any
  | .connectBegin _ => False
  | .connected c _ =>
    s.host.attempt.active → c.dst = s.host.attempt.addr → s.host.attempt.completions = []
  | .pairingComplete c _ =>
    s.mouseConn = some c → s.host.attempt.linkUp = true ∧ s.host.attempt.pairings = 0
  | l => Host.Allows s l

instance (s : State) (l : Label) : Decidable (Host.Pairs s l) := by
  induction l using Label.casesOn <;> unfold Host.Pairs <;> infer_instance

/-- The steps under these promises, and the late callbacks. -/
def Bonding (maxPaired : ℕ) (s : State) (l : Label) (s' : State) : Prop :=
  Host.Pairs s l ∧ s.step maxPaired l = some s' ∨ Late s l ∧ s' = s.callback l

lemma Host.Pairs.once {s : State} {l : Label} (h : Host.Pairs s l) : Host.Once s l := by
  cases l with
  | connected => exact h
  | _ => trivial

lemma Host.Pairs.allows {s : State} {l : Label} (h : Host.Pairs s l) (hs : Coherent s)
    (hsettled : Settled s) : Host.Allows s l := by
  cases l with
  | work => exact h.1
  | connected => exact hsettled.enabled hs h
  | connectBegin => exact h.elim
  | pairingComplete => trivial
  | _ => exact h

/-- The state after a step under these promises. -/
def State.bonding (maxPaired : ℕ) (s : State) (l : Label) : Option State :=
  if Host.Pairs s l then s.step maxPaired l else none

lemma bonding_of_eq {maxPaired : ℕ} {s s' : State} {l : Label}
    (h : s.bonding maxPaired l = some s') : Bonding maxPaired s l s' := by
  unfold State.bonding at h
  split at h
  case isTrue hpairs => exact .inl ⟨hpairs, h⟩
  case isFalse => cases h

/-- Such steps that can be computed lead to a state with a property. -/
lemma exists_bonding_run (maxPaired : ℕ) (s : State) (labels : List Label) (p : State → Bool)
    (h : (labels.foldlM (State.bonding maxPaired) s).any p = true) :
    ∃ s', Transition.Run (Bonding maxPaired) s labels s' ∧ p s' = true := by
  obtain ⟨s', hrun, hp⟩ := Transition.Run.exists_of_foldlM h
  exact ⟨s', hrun.mono fun _ _ _ => bonding_of_eq, hp⟩

/-! ### The saved peer -/

/-- What an observation makes of the saved peer. -/
def Obs.peer (saved : Option Addr) : Obs → Option Addr
  | .load name length contents result =>
    if name = "peer" ∧ length = 7 ∧ result = 7 ∧ contents.Usable then some contents else saved
  | .registered addr => some addr
  | .delete _ => none
  | _ => saved

/-- The saved peer: the address last loaded from a valid record or registered, until the record
is deleted. -/
def savedPeer (journal : List Obs) : Option Addr := Journal.replay Obs.peer none journal

@[simp] lemma savedPeer_snoc (journal : List Obs) (o : Obs) :
    savedPeer (journal ++ [o]) = o.peer (savedPeer journal) := Journal.replay_snoc

/-- What the client has as its peer is the saved peer, the address of a device. -/
structure State.Remembers (s : State) : Prop where
  saved : s.havePeer = true → savedPeer s.journal = some s.peer
  device : s.havePeer = true → s.peer ≠ .any

/-- A load that finds a saved peer reads a valid record, or what is in `peer` already. -/
def State.LoadsClean (s : State) : Label → Prop
  | .settings name length contents result =>
    s.havePeer = true → s.Reads name length contents result
  | _ => True

instance (s : State) (l : Label) : Decidable (s.LoadsClean l) := by
  induction l using Label.casesOn <;> unfold State.LoadsClean <;> infer_instance

/-- The steps, all of whose loads are such. -/
def CleanBonding (maxPaired : ℕ) (s : State) (l : Label) (s' : State) : Prop :=
  s.LoadsClean l ∧ Bonding maxPaired s l s'

/-- The state after such a step. -/
def State.cleanBonding (maxPaired : ℕ) (s : State) (l : Label) : Option State :=
  if s.LoadsClean l then s.bonding maxPaired l else none

lemma clean_of_eq {maxPaired : ℕ} {s s' : State} {l : Label}
    (h : s.cleanBonding maxPaired l = some s') : CleanBonding maxPaired s l s' := by
  unfold State.cleanBonding at h
  split at h
  case isTrue hclean => exact ⟨hclean, bonding_of_eq h⟩
  case isFalse => cases h

/-- Clean steps that can be computed lead to a state with a property. -/
lemma exists_clean_run (maxPaired : ℕ) (s : State) (labels : List Label) (p : State → Bool)
    (h : (labels.foldlM (State.cleanBonding maxPaired) s).any p = true) :
    ∃ s', Transition.Run (CleanBonding maxPaired) s labels s' ∧ p s' = true := by
  obtain ⟨s', hrun, hp⟩ := Transition.Run.exists_of_foldlM h
  exact ⟨s', hrun.mono fun _ _ _ => clean_of_eq, hp⟩

/-! ### Removals -/

/-- The Clear of a held key has run, and no attempt has begun since. -/
def ClearRan (journal : List Obs) : Prop :=
  ∃ before after, journal = before ++ .ran .clear :: after ∧ (history before).clearHeld = true ∧
    ∀ addr new, .attempt addr new ∉ after

/-- A bond was made in the attempt, for a candidate that has not been registered. -/
structure Attempt.Stray (t : Attempt) : Prop where
  new : t.new = true
  bonded : t.bonded = true
  registered : t.registered = false

/-- The bond of `mouse_conn` is one of this attempt, which began without it. -/
structure CandidateBond (h : History) (addr : Addr) : Prop where
  active : h.attempt.active = true
  conn : ∃ c, h.attempt.conn = some c ∧ c.dst = addr
  bondedBefore : h.attempt.bondedBefore = false
  stray : h.attempt.Stray

/-- `bt_unpair` has been called for the address of the attempt, and its connection is given up;
there is no bond of it unless `bt_unpair` has failed. -/
def BondRemoved (journal : List Obs) : Prop :=
  ∃ before saved err c,
    journal = before ++ [.unpair (history journal).attempt.addr saved err, .unref c] ∧
    (err = 0 → (history journal).attempt.addr ∉ (history journal).bonds)

/-- The observations that end an attempt. -/
def Obs.EndsAttempt : Obs → Prop
  | .ended | .lookup _ none => True
  | _ => False

/-- What precedes a removal of a bond, and the end of an attempt. -/
def Obs.Accounted (before : List Obs) : Obs → Prop
  | .boot _ => before = []
  | .unpair addr _ _ => addr ≠ .any ∧
    (CandidateBond (history before) addr ∨ savedPeer before = some addr ∧ ClearRan before)
  | .ended | .lookup _ none => (history before).attempt.Stray → BondRemoved before
  | _ => True

lemma ClearRan.append {journal new : List Obs} (h : ClearRan journal)
    (hnew : ∀ addr candidate, .attempt addr candidate ∉ new) : ClearRan (journal ++ new) := by
  obtain ⟨before, after, rfl, hheld, hnone⟩ := h
  refine ⟨before, after ++ new, by simp, hheld, fun addr candidate hmem => ?_⟩
  rcases List.mem_append.1 hmem with hmem | hmem
  · exact hnone addr candidate hmem
  · exact hnew addr candidate hmem

lemma ClearRan.snoc {journal : List Obs} (h : ClearRan journal) {o : Obs}
    (ho : ∀ addr candidate, o ≠ .attempt addr candidate) : ClearRan (journal ++ [o]) :=
  h.append fun addr candidate hmem => ho addr candidate (List.mem_singleton.1 hmem).symm

/-! ### Incidental steps -/

/-- The observations that tell nothing of links and bonds, nor of the saved peer. -/
def Obs.Incidental : Obs → Prop
  | .boot _ | .attempt .. | .lookup .. | .ended | .connected .. | .disconnected _
  | .pairingComplete .. | .unpair .. | .clearKey _ | .registered _ | .delete _ | .load .. => False
  | _ => True

lemma Obs.Procedural.incidental {o : Obs} (h : o.Procedural) : o.Incidental := by
  rcases h with h | ⟨c, r, err, rfl⟩ | ⟨c, r, err, rfl⟩ | ⟨addr, err, -, rfl⟩
  · cases o with
    | boot | attempt | lookup | ended | connected | disconnected | pairingComplete | unpair
    | clearKey | registered | delete | load => exact h.elim
    | _ => trivial
  · trivial
  · trivial
  · trivial

lemma Obs.Incidental.accounted {o : Obs} (h : o.Incidental) (before : List Obs) :
    o.Accounted before := by
  cases o with
  | boot | lookup | ended | unpair => exact h.elim
  | _ => trivial

lemma Obs.Incidental.peer_eq {o : Obs} (h : o.Incidental) (saved : Option Addr) :
    o.peer saved = saved := by
  cases o with
  | registered | delete | load => exact h.elim
  | _ => rfl

/-- What two histories have in common when nothing has happened to the link or the bonds. -/
structure History.Alike (h h' : History) : Prop where
  clearHeld : h'.clearHeld = h.clearHeld
  addr : h'.attempt.addr = h.attempt.addr
  new : h'.attempt.new = h.attempt.new
  bondedBefore : h'.attempt.bondedBefore = h.attempt.bondedBefore
  active : h'.attempt.active = h.attempt.active
  conn : h'.attempt.conn = h.attempt.conn
  completions : h'.attempt.completions = h.attempt.completions
  linkUp : h'.attempt.linkUp = h.attempt.linkUp
  bonded : h'.attempt.bonded = h.attempt.bonded
  registered : h'.attempt.registered = h.attempt.registered

lemma History.Alike.refl (h : History) : h.Alike h :=
  ⟨rfl, rfl, rfl, rfl, rfl, rfl, rfl, rfl, rfl, rfl⟩

lemma History.Alike.trans {h h' h'' : History} (hh : h.Alike h') (hh' : h'.Alike h'') :
    h.Alike h'' where
  clearHeld := hh'.clearHeld.trans hh.clearHeld
  addr := hh'.addr.trans hh.addr
  new := hh'.new.trans hh.new
  bondedBefore := hh'.bondedBefore.trans hh.bondedBefore
  active := hh'.active.trans hh.active
  conn := hh'.conn.trans hh.conn
  completions := hh'.completions.trans hh.completions
  linkUp := hh'.linkUp.trans hh.linkUp
  bonded := hh'.bonded.trans hh.bonded
  registered := hh'.registered.trans hh.registered

lemma record_alike (h : History) {o : Obs} (ho : o.Incidental) : h.Alike (h.record o) := by
  cases o with
  | boot | attempt | lookup | ended | connected | disconnected | pairingComplete | unpair
  | clearKey | registered | delete | load => exact ho.elim
  | _ => exact ⟨rfl, rfl, rfl, rfl, rfl, rfl, rfl, rfl, rfl, rfl⟩

/-- Nothing happens to the link, the bonds and the saved peer. -/
structure Incidental (s s' : State) : Prop where
  gap : s'.inConnect = s.inConnect
  mouseConn : s'.mouseConn = s.mouseConn
  peer : s'.peer = s.peer
  havePeer : s'.havePeer = s.havePeer
  candidateBonded : s'.candidateBonded = s.candidateBonded
  newCandidate : s'.newCandidate = s.newCandidate
  forgetRequested : s'.forgetRequested = s.forgetRequested
  clearHeld : s'.clearHeld = s.clearHeld
  journal : ∃ new, s'.journal = s.journal ++ new ∧ ∀ o ∈ new, o.Incidental

namespace Incidental

variable {s s' s'' : State}

lemma refl (s : State) : Incidental s s :=
  ⟨rfl, rfl, rfl, rfl, rfl, rfl, rfl, rfl, [], by simp, by simp⟩

lemma trans (h : Incidental s s') (h' : Incidental s' s'') : Incidental s s'' where
  gap := h'.gap.trans h.gap
  mouseConn := h'.mouseConn.trans h.mouseConn
  peer := h'.peer.trans h.peer
  havePeer := h'.havePeer.trans h.havePeer
  candidateBonded := h'.candidateBonded.trans h.candidateBonded
  newCandidate := h'.newCandidate.trans h.newCandidate
  forgetRequested := h'.forgetRequested.trans h.forgetRequested
  clearHeld := h'.clearHeld.trans h.clearHeld
  journal := Journal.Grows.trans h.journal h'.journal

lemma of_explores (h : Explores s s') : Incidental s s' where
  gap := h.inConnect
  mouseConn := h.mouseConn
  peer := h.peer
  havePeer := h.havePeer
  candidateBonded := h.candidateBonded
  newCandidate := h.newCandidate
  forgetRequested := h.forgetRequested
  clearHeld := h.clearHeld
  journal := Journal.Grows.mono h.journal fun _ => Obs.Procedural.incidental

lemma background (h : Incidental s s') (hb : Background s' s'') : Incidental s s'' :=
  h.trans (of_explores hb.explores)

lemma observe (h : Incidental s s') {o : Obs} (ho : o.Incidental) :
    Incidental s (s'.observe o) :=
  h.trans { refl s' with journal := (Journal.Grows.refl _ _).snoc ho }

lemma submit (h : Incidental s s') (w : Work) : Incidental s (s'.submit w) := { h with }

lemma fail (h : Incidental s s') (err : ℤ) : Incidental s (s'.fail err) := { h with }

lemma take (w : Work) (rest : List Work) : Incidental s (s.take w rest) := by
  have hs : Incidental s { s with work := { s.work with queue := rest } } := { refl s with }
  exact hs.observe (o := .ran w) trivial

lemma alike (h : Incidental s s') : s.host.Alike s'.host :=
  Journal.Grows.replay_keeps h.journal s.host.Alike (.refl _)
    fun host _ ho halike => halike.trans (record_alike host ho)

lemma savedPeer_eq (h : Incidental s s') : savedPeer s'.journal = savedPeer s.journal :=
  Journal.Grows.replay_eq h.journal fun saved _ ho => ho.peer_eq saved

end Incidental

/-! ### The invariant -/

/-- What precedes the removals so far, what a Clear that waits has seen, and what is known of
the saved peer. -/
structure Audited (s : State) : Prop extends State.Remembers s where
  gap : s.inConnect = false
  held : s.clearHeld = s.host.clearHeld
  waiting : s.forgetRequested = true → ClearRan s.journal
  journal : Journal.Every Obs.Accounted s.journal

/-- The bond of the attempt under way, as the client knows of it. -/
structure Accounted (s : State) : Prop extends Audited s where
  connected : ∀ c, s.mouseConn = some c → c.dst ≠ .any
  paired : s.mouseConn ≠ none → s.candidateBonded = s.host.attempt.bonded
  linked : s.mouseConn ≠ none → s.host.attempt.linkUp = true ∨ s.host.attempt.bonded = true →
    s.host.attempt.completions = [0]
  attempt : s.forgetRequested = true → s.mouseConn ≠ none

/-- The attempt of a connection, as the host knows of it. -/
structure Tracks (s : State) (c : Conn) : Prop where
  active : s.host.attempt.active = true
  conn : s.host.attempt.conn = some c
  addr : s.host.attempt.addr = c.dst
  candidate : s.newCandidate = (s.host.attempt.new && !s.host.attempt.registered)
  fresh : s.host.attempt.new = true → s.host.attempt.bondedBefore = false

lemma tracks {s : State} (hs : Coherent s) (he : Enrolled s) {c : Conn}
    (hc : s.mouseConn = some c) : Tracks s c where
  active := hs.active.1 (.inl (hc ▸ Option.some_ne_none c))
  conn := (hs.conn (.inl (hc ▸ Option.some_ne_none c))).trans hc
  addr := (hs.addr (.inl (hc ▸ Option.some_ne_none c))).trans (hs.address c hc).symm
  candidate := he.candidate (.inl (hc ▸ Option.some_ne_none c))
  fresh := he.fresh

lemma Tracks.incidental {s s' : State} {c : Conn} (h : Tracks s c) (hi : Incidental s s') :
    Tracks s' c where
  active := hi.alike.active.trans h.active
  conn := hi.alike.conn.trans h.conn
  addr := hi.alike.addr.trans h.addr
  candidate := by rw [hi.newCandidate, hi.alike.new, hi.alike.registered, h.candidate]
  fresh := by
    rw [hi.alike.new, hi.alike.bondedBefore]
    exact h.fresh

namespace Audited

variable {s s' : State}

lemma observe (h : Audited s) {o : Obs} (ho : o.Accounted s.journal)
    (hattempt : ∀ addr candidate, o ≠ .attempt addr candidate)
    (hheld : (s.host.record o).clearHeld = s.host.clearHeld)
    (hsaved : ∀ saved, o.peer saved = saved) : Audited (s.observe o) where
  saved := fun hpeer => by
    show savedPeer (s.journal ++ [o]) = some s.peer
    rw [savedPeer_snoc, hsaved]
    exact h.saved hpeer
  device := h.device
  gap := h.gap
  held := by
    rw [State.host_observe, hheld]
    exact h.held
  waiting := fun hforget => (h.waiting hforget).snoc hattempt
  journal := h.journal.snoc ho

lemma incidental (h : Audited s) (hi : Incidental s s') : Audited s' := by
  have hremembers : s'.Remembers := by
    refine ⟨?_, ?_⟩
    · rw [hi.savedPeer_eq, hi.peer, hi.havePeer]
      exact h.saved
    · rw [hi.peer, hi.havePeer]
      exact h.device
  obtain ⟨new, heq, hnew⟩ := hi.journal
  refine ⟨hremembers, hi.gap.trans h.gap, ?_, fun hforget => ?_, ?_⟩
  · rw [hi.clearHeld, hi.alike.clearHeld]
    exact h.held
  · rw [heq]
    exact (h.waiting (hi.forgetRequested ▸ hforget)).append fun addr candidate hmem => hnew _ hmem
  · rw [heq]
    exact h.journal.append fun o ho before => (hnew o ho).accounted before

/-- `mouse_conn` is given up. -/
lemma close (h : Audited s) (hended : Obs.Accounted s.journal .ended) : Audited s.closeAttempt :=
  { h.observe hended (fun _ _ => Obs.noConfusion) rfl fun _ => rfl with }

/-- The record of the saved peer is deleted. -/
lemma delete (h : Audited s) (err : ℤ) :
    Audited { s.observe (.delete err) with havePeer := false } where
  saved := fun hpeer => absurd hpeer Bool.false_ne_true
  device := fun hpeer => absurd hpeer Bool.false_ne_true
  gap := h.gap
  held := by
    show s.clearHeld = (s.observe (.delete err)).host.clearHeld
    rw [State.host_observe]
    exact h.held
  waiting := fun hforget => (h.waiting hforget).snoc fun _ _ => Obs.noConfusion
  journal := by
    have hdelete : Obs.Accounted s.journal (.delete err) := trivial
    exact h.journal.snoc hdelete

/-- The client has no attempt, and no Clear waits. -/
lemma accounted (h : Audited s) (hconn : s.mouseConn = none) (hforget : s.forgetRequested = false) :
    Accounted s where
  toAudited := h
  connected := fun c hc => absurd (hc.symm.trans hconn) (Option.some_ne_none c)
  paired := fun hne => absurd hconn hne
  linked := fun hne => absurd hconn hne
  attempt := fun hwaits => absurd (hforget.symm.trans hwaits) Bool.false_ne_true

end Audited

namespace Accounted

variable {s s' : State}

lemma incidental (h : Accounted s) (hi : Incidental s s') : Accounted s' := by
  have halike := hi.alike
  refine ⟨h.toAudited.incidental hi, ?_, ?_, ?_, ?_⟩
  · rw [hi.mouseConn]
    exact h.connected
  · rw [hi.mouseConn, hi.candidateBonded, halike.bonded]
    exact h.paired
  · rw [hi.mouseConn, halike.linkUp, halike.bonded, halike.completions]
    exact h.linked
  · rw [hi.mouseConn, hi.forgetRequested]
    exact h.attempt

lemma explores (h : Accounted s) (he : Explores s s') : Accounted s' :=
  h.incidental (.of_explores he)

lemma background (h : Accounted s) (hb : Background s s') : Accounted s' :=
  h.explores hb.explores

/-! ### Forgetting the saved peer -/

lemma forgotten (h : Audited s) (hconn : s.mouseConn = none) : Accounted s.forgotten := by
  have hs : Audited { s with forgetRequested := false } :=
    { h with waiting := fun hwaits => absurd hwaits Bool.false_ne_true }
  have hidle : Accounted { s with forgetRequested := false } := hs.accounted hconn rfl
  exact (hidle.background (Background.refl _).outputDisconnect).background
    (Background.refl _).scanRefresh

lemma forgetPeer (h : Audited s) (hconn : s.mouseConn = none) (hran : ClearRan s.journal)
    (a : Answers) : Accounted (s.forgetPeer a) := by
  have hs : Audited ({ s with pairing := false, scanWanted := false }.cancel .pairTimeout) :=
    { h with }
  unfold State.forgetPeer
  dsimp only
  split
  case isFalse => exact forgotten hs hconn
  case isTrue hpeer =>
    have hunpaired : Audited ((({ s with pairing := false, scanWanted := false } :
        State).cancel .pairTimeout).unpair s.peer a.unpairPeer) :=
      hs.observe ⟨h.device hpeer, .inr ⟨h.saved hpeer, hran⟩⟩ (fun _ _ => Obs.noConfusion) rfl
        fun _ => rfl
    split
    case isTrue =>
      have hkept : Audited { (({ s with pairing := false, scanWanted := false } :
          State).cancel .pairTimeout).unpair s.peer a.unpairPeer with forgetRequested := false } :=
        { hunpaired with waiting := fun hwaits => absurd hwaits Bool.false_ne_true }
      exact hkept.accounted hconn rfl
    case isFalse =>
      exact forgotten (hunpaired.delete a.delete) hconn

/-- The end of an attempt, at which a Clear that waits is carried out. -/
lemma forgetIfRequested (h : Audited s) (hconn : s.mouseConn = none) (a : Answers) :
    Accounted (s.forgetIfRequested a) := by
  unfold State.forgetIfRequested
  split
  case isTrue hforget => exact forgetPeer h hconn (h.waiting hforget) a
  case isFalse hforget => exact h.accounted hconn (Bool.eq_false_of_not_eq_true hforget)

lemma requestRetry (h : Accounted s) : Accounted s.requestRetry :=
  h.background (Background.refl s).requestRetry

/-! ### The ends of an attempt -/

/-- A stray bond is one of a candidate that the client knows to be bonded. -/
lemma stray_iff (h : Accounted s) {c : Conn} (hc : s.mouseConn = some c) (ht : Tracks s c) :
    s.host.attempt.Stray ↔ (s.newCandidate && s.candidateBonded) = true := by
  rw [ht.candidate, h.paired (hc ▸ Option.some_ne_none c)]
  simp only [Bool.and_eq_true, Bool.not_eq_true']
  exact ⟨fun hstray => ⟨⟨hstray.new, hstray.registered⟩, hstray.bonded⟩,
    fun hall => ⟨hall.1.1, hall.2, hall.1.2⟩⟩

/-- The bond of the attempt is removed, and its connection given up. -/
lemma bondRemoved (t : State) {c : Conn} (haddr : t.host.attempt.addr = c.dst) (err : ℤ) :
    BondRemoved ((t.unpair c.dst err).observe (.unref c)).journal := by
  have hhost : history ((t.unpair c.dst err).observe (.unref c)).journal =
      (t.host.record (.unpair c.dst (t.havePeer && decide (c.dst = t.peer)) err)).record
        (.unref c) := by
    show ((t.unpair c.dst err).observe (.unref c)).host = _
    rw [State.host_observe, State.unpair, State.host_observe]
  have haddr' : (history ((t.unpair c.dst err).observe (.unref c)).journal).attempt.addr =
      c.dst := by
    rw [hhost]
    exact haddr
  refine ⟨t.journal, t.havePeer && decide (c.dst = t.peer), err, c, ?_, fun herr => ?_⟩
  · rw [haddr']
    exact List.append_assoc t.journal _ _
  · rw [haddr', hhost]
    show c.dst ∉ (if err = 0 then bondsWithout t.host.bonds c.dst else t.host.bonds)
    rw [if_pos herr]
    exact notMem_bondsWithout _ _

/-- The attempt is given up, as it may be. -/
lemma hungUp (h : Audited s) {c : Conn}
    (hended : Obs.Accounted (s.observe (.unref c)).journal .ended) (a : Answers) :
    Accounted (s.hungUp c a) := by
  have hreleased : Audited (s.observe (.unref c)) :=
    h.observe trivial (fun _ _ => Obs.noConfusion) rfl fun _ => rfl
  have hclosed : Audited { (s.observe (.unref c)).closeAttempt with candidateBonded := false } :=
    { hreleased.close hended with }
  refine (forgetIfRequested ?_ rfl a).requestRetry
  exact hclosed.incidental (.of_explores (Background.refl _).outputDisconnect.explores)

/-- The link of an attempt has gone: a stray bond is removed. -/
lemma disconnectedWorkCb (h : Accounted s) (ht : ∀ c, s.mouseConn = some c → Tracks s c)
    (a : Answers) : Accounted (s.disconnectedWorkCb a) := by
  rcases s.disconnectedWorkCb_cases a with ⟨-, heq⟩ | ⟨c, t, hc, hunlinks, heq⟩
  · rw [heq]
    exact h
  have hoff : Incidental s (s.observe (.autoConnOff c.dst)) := (Incidental.refl s).observe trivial
  have hs := h.incidental hoff
  have hts := (ht c hc).incidental hoff
  have hstray := hs.stray_iff (c := c) hc hts
  rw [heq]
  cases hunlinks with
  | unpaired hbonded =>
    have hremoved : CandidateBond (s.observe (.autoConnOff c.dst)).host c.dst :=
      { active := hts.active
        conn := ⟨c, hts.conn, rfl⟩
        bondedBefore := hts.fresh (hstray.2 hbonded).new
        stray := hstray.2 hbonded }
    have hunpaired :
        Audited ((s.observe (.autoConnOff c.dst)).unpair c.dst a.unpairCandidate) :=
      hs.toAudited.observe ⟨h.connected c hc, .inl hremoved⟩ (fun _ _ => Obs.noConfusion) rfl
        fun _ => rfl
    exact hungUp hunpaired (fun _ => bondRemoved _ hts.addr a.unpairCandidate) a
  | kept hkeeps =>
    have halike := ((Incidental.refl (s.observe (.autoConnOff c.dst))).observe
      (o := .unref c) trivial).alike
    refine hungUp hs.toAudited (fun hs => absurd (hstray.1 ?_) hkeeps) a
    exact ⟨halike.new ▸ hs.new, halike.bonded ▸ hs.bonded, halike.registered ▸ hs.registered⟩

lemma failureWorkCb (h : Accounted s) (ht : ∀ c, s.mouseConn = some c → Tracks s c)
    (a : Answers) : Accounted (s.failureWorkCb a) := by
  unfold State.failureWorkCb
  split
  case h_1 c hc =>
    have hclosing : Incidental s { s with stage := .closing, scanWanted := false } :=
      { Incidental.refl s with }
    have hi := hclosing.observe (o := .disconnect c a.disconnect) trivial
    dsimp only
    split
    · exact (h.incidental hi).disconnectedWorkCb (fun c' hc' => (ht c' hc').incidental hi) a
    · exact h.incidental hi
  case h_2 =>
    have hidle : Incidental s { s with stage := .idle, scanWanted := false, failure := 0 } :=
      { Incidental.refl s with }
    exact (h.incidental hidle).requestRetry

/-- `connected_work` has been taken off the queue.  A connection that has not been completed was
not paired. -/
lemma connectedWorkCb (h : Accounted s) (herror : s.mouseConn ≠ none →
    s.host.attempt.completions = [s.connectedError]) (a : Answers) :
    Accounted (s.connectedWorkCb a) := by
  have hreleased := (Background.refl s).releaseEvent
  have hs := h.background hreleased
  rw [← hreleased.mouseConn, ← hreleased.host, ← hreleased.connectedError] at herror
  unfold State.connectedWorkCb
  generalize s.releaseEvent = t at hs herror
  unfold State.completeConnection
  split
  case h_1 => exact hs
  case h_2 c hc =>
  have hoff : Incidental t (t.observe (.autoConnOff c.dst)).scanRefresh :=
    ((Incidental.refl t).observe (o := .autoConnOff c.dst) trivial).background
      (Background.refl _).scanRefresh
  have hne : t.mouseConn ≠ none := hc ▸ Option.some_ne_none c
  have herror' : (t.observe (.autoConnOff c.dst)).scanRefresh.host.attempt.completions =
      [(t.observe (.autoConnOff c.dst)).scanRefresh.connectedError] := by
    rw [hoff.alike.completions]
    exact herror hne
  have hne' : (t.observe (.autoConnOff c.dst)).scanRefresh.mouseConn ≠ none := hne
  replace hs := hs.incidental hoff
  dsimp only
  generalize (t.observe (.autoConnOff c.dst)).scanRefresh = u at hs herror' hne' ⊢
  split
  case isTrue herr =>
    have hgiven : Incidental u (u.observe (.unref c)) := (Incidental.refl u).observe trivial
    refine (forgetIfRequested ((hs.toAudited.incidental hgiven).close fun hstray => ?_)
      rfl a).requestRetry
    have hzero := hs.linked hne' (.inr (hgiven.alike.bonded ▸ hstray.bonded))
    rw [herror'] at hzero
    exact absurd (List.cons.inj hzero).1 herr
  case isFalse =>
  split
  case isTrue => exact hs.incidental ((Incidental.refl u).fail _)
  case isFalse =>
    have hstage : Incidental u { u with stage := .security } := { Incidental.refl u with }
    have hi := hstage.observe (o := .setSecurity c a.setSecurity) trivial
    split
    · exact hs.incidental (hi.fail _)
    · split
      · exact hs.incidental { hi with }
      · exact hs.incidental hi

end Accounted

end BleMouse.Client
