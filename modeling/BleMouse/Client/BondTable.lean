/-
Every step of the client accounts for the bonds it removes.

* `Accounted.step`: every step preserves the invariant of `Client/Bonds.lean`;
* `run_accounted`: it holds in every state of a run;
* `bond_table_frame`: the main result.
-/
import BleMouse.Client.Bonds

namespace BleMouse.Client

open BleMouse.Hid BleMouse.Output

namespace Accounted

variable {s s' : State}

/-! ### Clear, and registration -/

/-- `clear_work` has been taken off the queue. -/
lemma clearWorkCb (h : Accounted s) (hran : s.clearHeld = true → ClearRan s.journal)
    (a : Answers) : Accounted (s.clearWorkCb a) := by
  unfold State.clearWorkCb
  split
  case isTrue => exact h
  case isFalse hheld =>
  rw [Bool.not_eq_true', Bool.not_eq_false] at hheld
  have hs : Audited { s with pairing := false, scanWanted := false, forgetRequested := true } :=
    { h.toAudited with waiting := fun _ => hran hheld }
  dsimp only
  split
  case isTrue hconn =>
    have hwaits : Accounted { s with
        pairing := false, scanWanted := false, forgetRequested := true } :=
      { h with
        toAudited := hs
        attempt := fun _ => Option.isSome_iff_ne_none.1 hconn }
    exact hwaits.incidental ((Incidental.refl _).fail _)
  case isFalse hconn =>
    exact forgetPeer hs (Option.not_isSome_iff_eq_none.1 hconn) (hran hheld) a

lemma becomeReady (h : Accounted s) : Accounted s.becomeReady := { h with }

/-- The connection of the attempt becomes the saved peer. -/
lemma register (h : Accounted s) {c : Conn} (hc : s.mouseConn = some c) :
    Accounted (s.register c) := by
  have hsave : Obs.Accounted s.journal (.save c.dst 0) := trivial
  have hregistered : Obs.Accounted (s.journal ++ [.save c.dst 0]) (.registered c.dst) := trivial
  have hhost : (s.register c).host = _ := s.register_host c
  refine
    { saved := fun _ => ?_
      device := fun _ => h.connected c hc
      gap := h.gap
      held := ?_
      waiting := fun hwaits => ?_
      journal := (h.journal.snoc hsave).snoc hregistered
      connected := h.connected
      paired := ?_
      linked := ?_
      attempt := h.attempt }
  · show savedPeer ((s.journal ++ [.save c.dst 0]) ++ [.registered c.dst]) = some c.dst
    rw [savedPeer_snoc]
    rfl
  · rw [hhost]
    exact h.held
  · exact ((h.waiting hwaits).snoc fun _ _ => Obs.noConfusion).snoc fun _ _ => Obs.noConfusion
  · rw [hhost]
    exact h.paired
  · rw [hhost]
    exact h.linked

lemma finishes (h : Accounted s) {c : Conn} (hc : s.mouseConn = some c) (hf : Finishes c s s') :
    Accounted s' := by
  cases hf with
  | known => exact h.becomeReady
  | candidate => exact (h.register hc).becomeReady

lemma discoveryWorkCb (h : Accounted s) (hinit : s.initialized = true)
    (hstage : s.Live → s.stage.Exploring) (a : Answers) : Accounted (s.discoveryWorkCb a) := by
  rcases discoveryWorkCb_cases hinit hstage a with hexplores | ⟨c, index, hc, -, -, hfinishes⟩
  · exact h.explores hexplores
  · have hs : Accounted { s with session := { s.session with index } } := { h with }
    exact hs.finishes hc hfinishes

/-! ### The beginning of an attempt -/

/-- `connect_mouse` gives up before it has begun an attempt. -/
lemma connectMouse (maxPaired : ℕ) (h : Accounted s) (hconn : s.mouseConn = none) (addr : Addr)
    (a : Answers) (hin : (s.connectMouse maxPaired addr a).1.inConnect = false) :
    Accounted (s.connectMouse maxPaired addr a).1 := by
  have hforget : s.forgetRequested = false :=
    Bool.eq_false_of_not_eq_true fun hwaits => h.attempt hwaits hconn
  unfold State.connectMouse at hin ⊢
  dsimp only at hin ⊢
  split_ifs at hin ⊢
  · exact h
  · exact h
  · exact h
  · exact { h with }
  · have hs : Audited { s with
        session := {}, newCandidate := !s.havePeer, candidateBonded := false, failure := 0,
        scanWanted := false, connectingAddress := addr, stage := .idle } := { h.toAudited with }
    exact (hs.accounted hconn hforget).requestRetry

lemma connectWorkBegin (maxPaired : ℕ) (h : Accounted s) (hconn : s.mouseConn = none)
    (a : Answers) (hin : (s.connectWorkBegin maxPaired a).inConnect = false) :
    Accounted (s.connectWorkBegin maxPaired a) := by
  have hstopped := (Background.refl s).stopOwnScan a.scanStop
  have hobserved := hstopped.observe (.connect (s.stopOwnScan a.scanStop).1.pendingAddress) trivial
  unfold State.connectWorkBegin at hin ⊢
  dsimp only at hin ⊢
  split
  case isTrue =>
    exact (h.background hstopped).background ((Background.refl _).connectReturned _)
  case isFalse herr =>
    rw [if_neg herr] at hin
    split
    case isTrue hgap =>
      rw [if_pos hgap, hgap] at hin
      exact absurd hin Bool.noConfusion
    case isFalse hgap =>
      have hs := (h.background hobserved).connectMouse maxPaired (hobserved.mouseConn.trans hconn)
        (s.stopOwnScan a.scanStop).1.pendingAddress a (Bool.eq_false_of_not_eq_true hgap)
      exact hs.background ((Background.refl _).connectReturned _)

/-- The connection of the attempt that has just begun is looked up. -/
lemma connectWorkEnd {maxPaired : ℕ} (h : Accounted s) {addr : Addr}
    (hadmits : Admits maxPaired s addr) {a : Answers} (hdevice : ∀ c ∈ a.lookup, c.dst ≠ .any) :
    Accounted ((s.begun addr).connectWorkEnd a) := by
  have hforget : s.forgetRequested = false :=
    Bool.eq_false_of_not_eq_true fun hwaits => h.attempt hwaits hadmits.free
  let t : State := ({ s.begun addr with mouseConn := a.lookup, inConnect := false } : State).observe
    (.lookup (s.begun addr).pendingAddress a.lookup)
  have hjournal : t.journal = (s.journal ++ [.attempt addr !s.havePeer]) ++
    [.lookup (s.begun addr).pendingAddress a.lookup] := rfl
  have hbegun : history (s.journal ++ [.attempt addr !s.havePeer]) =
    s.host.record (.attempt addr !s.havePeer) := history_snoc _ _
  have hhost : t.host = (s.host.record (.attempt addr !s.havePeer)).record
      (.lookup (s.begun addr).pendingAddress a.lookup) := by
    unfold State.host
    rw [hjournal, history_snoc, history_snoc]
  have ht : Audited t := by
    refine ⟨⟨fun hpeer => ?_, h.device⟩, rfl, ?_, fun hwaits => ?_, ?_⟩
    · rw [hjournal, savedPeer_snoc, savedPeer_snoc]
      exact h.saved hpeer
    · rw [hhost]
      exact h.held
    · exact absurd (hforget.symm.trans hwaits) Bool.noConfusion
    · rw [hjournal]
      have hattempt : Obs.Accounted s.journal (.attempt addr !s.havePeer) := trivial
      refine (h.journal.snoc hattempt).snoc ?_
      cases a.lookup with
      | some => trivial
      | none =>
        -- the attempt has just begun, so nothing was paired
        intro hstray
        have hbonded := hstray.bonded
        rw [hbegun] at hbonded
        exact absurd hbonded Bool.noConfusion
  have hreturned (u : State) (err : ℤ) (hu : Accounted u) : Accounted (u.connectReturned err) :=
    hu.background ((Background.refl u).connectReturned err)
  unfold State.connectWorkEnd State.connectMouseLookup
  dsimp only
  split
  case isTrue hnone =>
    have hlost : Audited { t.observe (.autoConnOff (s.begun addr).pendingAddress) with
        stage := .idle } :=
      { ht.observe (o := .autoConnOff (s.begun addr).pendingAddress) trivial
          (fun _ _ => Obs.noConfusion) rfl fun _ => rfl with }
    exact hreturned _ _ (hlost.accounted (Option.isNone_iff_eq_none.1 hnone) hforget).requestRetry
  case isFalse =>
    have hfound : Accounted t := by
      refine ⟨ht, hdevice, fun _ => ?_, fun _ hlinked => ?_, fun hwaits => ?_⟩
      · rw [hhost]
        rfl
      · rw [hhost] at hlinked
        rcases hlinked with hlinked | hbonded
        · exact absurd hlinked Bool.noConfusion
        · exact absurd hbonded Bool.noConfusion
      · exact absurd (hforget.symm.trans hwaits) Bool.noConfusion
    refine hreturned _ _ (hfound.incidental ?_)
    exact { Incidental.refl t with }

lemma connectWorkCb (maxPaired : ℕ) (h : Accounted s) (hidle : ¬s.Engaged) {a : Answers}
    (hdevice : ∀ c ∈ a.lookup, c.dst ≠ .any) : Accounted (s.connectWorkCb maxPaired a) := by
  have hconn : s.mouseConn = none := by
    by_contra hne
    exact hidle (.inl hne)
  unfold State.connectWorkCb
  dsimp only
  rcases connectWorkBegin_cases maxPaired hidle a with ⟨-, hin⟩ | ⟨t, addr, hb, hadmits, heq⟩
  · rw [if_neg (by rw [hin]; exact Bool.false_ne_true)]
    exact h.connectWorkBegin maxPaired hconn a hin
  · rw [heq]
    exact (h.background hb).connectWorkEnd hadmits hdevice

/-! ### Callbacks and keys -/

/-- The one event that completes the connection. -/
lemma connectedCb (h : Accounted s) (hs : Coherent s) (c : Conn) (err : ℕ)
    (honce : Host.Once s (.connected c err)) :
    Accounted ((s.observe (.connected c err)).connectedCb c err) := by
  have hhost : (s.observe (.connected c err)).host = s.host.record (.connected c err) :=
    s.host_observe _
  have hobserved : Accounted (s.observe (.connected c err)) := by
    refine ⟨h.toAudited.observe trivial (fun _ _ => Obs.noConfusion) rfl fun _ => rfl, h.connected,
      ?_, ?_, h.attempt⟩
    · rw [hhost]
      exact h.paired
    · rw [hhost]
      intro hconn hlinked
      show (if c.dst = s.host.attempt.addr then s.host.attempt.completions ++ [err]
        else s.host.attempt.completions) = [0]
      by_cases hdst : c.dst = s.host.attempt.addr
      case neg =>
        rw [if_neg hdst]
        refine h.linked hconn (hlinked.imp_left fun hup => ?_)
        change (if c.dst = s.host.attempt.addr then _ else _) = true at hup
        rwa [if_neg hdst] at hup
      case pos =>
        have hnil := honce (hs.active.1 (.inl hconn)) hdst
        rw [if_pos hdst, hnil]
        rcases hlinked with hup | hbonded
        · change (if c.dst = s.host.attempt.addr then decide (err = 0) else _) = true at hup
          rw [if_pos hdst] at hup
          rw [of_decide_eq_true hup]
          rfl
        · have hcons : [] = [0] := hnil.symm.trans (h.linked hconn (.inr hbonded))
          exact absurd hcons (List.cons_ne_nil 0 []).symm
  unfold State.connectedCb
  split
  · have hnoted : Incidental (s.observe (.connected c err))
        { s.observe (.connected c err) with connectedEventConn := some c, connectedError := err } :=
      { Incidental.refl _ with }
    exact hobserved.incidental ((hnoted.observe (o := .ref c) trivial).submit .connected)
  · exact hobserved

lemma disconnectedCb (h : Accounted s) (c : Conn) :
    Accounted ((s.observe (.disconnected c)).disconnectedCb c) := by
  have hhost : (s.observe (.disconnected c)).host = s.host.record (.disconnected c) :=
    s.host_observe _
  have hobserved : Accounted (s.observe (.disconnected c)) := by
    refine ⟨h.toAudited.observe trivial (fun _ _ => Obs.noConfusion) rfl fun _ => rfl, h.connected,
      ?_, ?_, h.attempt⟩
    · rw [hhost]
      exact h.paired
    · rw [hhost]
      exact fun hconn hlinked => h.linked hconn
        (hlinked.imp_left fun hup => (Bool.and_eq_true_iff.1 hup).1)
  unfold State.disconnectedCb
  split
  · have hi : Incidental (s.observe (.disconnected c))
        { s.observe (.disconnected c) with stage := .closing, scanWanted := false } :=
      { Incidental.refl _ with }
    exact hobserved.incidental (hi.submit .disconnected)
  · exact hobserved

/-- A pairing completion, on an established link. -/
lemma pairingCompleteCb (h : Accounted s) (hs : Coherent s) (c : Conn) (bonded : Bool)
    (hup : s.mouseConn = some c → s.host.attempt.linkUp = true) :
    Accounted ((s.observe (.pairingComplete c bonded)).pairingCompleteCb c bonded) := by
  have hhost : (s.observe (.pairingComplete c bonded)).host =
    s.host.record (.pairingComplete c bonded) := s.host_observe _
  have haudited : Audited (s.observe (.pairingComplete c bonded)) :=
    h.toAudited.observe trivial (fun _ _ => Obs.noConfusion) rfl fun _ => rfl
  have hattempt : (s.host.record (.pairingComplete c bonded)).attempt =
    if s.host.attempt.active ∧ s.host.attempt.conn = some c then
      { s.host.attempt with pairings := s.host.attempt.pairings + 1, bonded }
    else s.host.attempt := rfl
  unfold State.pairingCompleteCb
  dsimp only
  split
  case isTrue howns =>
    have hc : s.mouseConn = some c := of_decide_eq_true howns
    have hengaged : s.Engaged := .inl (hc ▸ Option.some_ne_none c)
    rw [if_pos ⟨hs.active.1 hengaged, (hs.conn hengaged).trans hc⟩] at hattempt
    have hnoted : Accounted { s.observe (.pairingComplete c bonded) with
        candidateBonded := bonded } := by
      refine ⟨{ haudited with }, h.connected, ?_, ?_, h.attempt⟩
      · show _ → bonded = (s.observe (.pairingComplete c bonded)).host.attempt.bonded
        rw [hhost, hattempt]
        exact fun _ => rfl
      · show _ → _ → (s.observe (.pairingComplete c bonded)).host.attempt.completions = [0]
        rw [hhost, hattempt]
        exact fun hconn _ => h.linked hconn (.inl (hup hc))
    split
    · exact hnoted.incidental ((Incidental.refl _).fail _)
    · exact hnoted
  case isFalse hother =>
    have hsame (hconn : s.mouseConn ≠ none) :
        (s.observe (.pairingComplete c bonded)).host.attempt = s.host.attempt := by
      rw [hhost, hattempt, if_neg]
      rintro ⟨-, heq⟩
      exact hother (decide_eq_true ((hs.conn (.inl hconn)).symm.trans heq))
    refine ⟨haudited, h.connected, fun hconn => ?_, fun hconn => ?_, h.attempt⟩
    · rw [hsame hconn]
      exact h.paired hconn
    · rw [hsame hconn]
      exact h.linked hconn

lemma zmkBleMouseClearHold (h : Accounted s) (pressed : Bool) :
    Accounted ((s.observe (.clearKey pressed)).zmkBleMouseClearHold pressed) := by
  have hhost : (s.observe (.clearKey pressed)).host = s.host.record (.clearKey pressed) :=
    s.host_observe _
  have hattempt : ({ s.observe (.clearKey pressed) with clearHeld := pressed } :
      State).host.attempt = s.host.attempt := by
    show (s.observe (.clearKey pressed)).host.attempt = _
    rw [hhost]
    rfl
  have hkey : Obs.Accounted s.journal (.clearKey pressed) := trivial
  have hheld : Accounted { s.observe (.clearKey pressed) with clearHeld := pressed } := by
    refine ⟨⟨⟨fun hpeer => ?_, h.device⟩, h.gap, ?_, ?_, h.journal.snoc hkey⟩, h.connected, ?_, ?_,
      h.attempt⟩
    · show savedPeer (s.journal ++ [.clearKey pressed]) = some s.peer
      rw [savedPeer_snoc]
      exact h.saved hpeer
    · show pressed = (s.observe (.clearKey pressed)).host.clearHeld
      rw [hhost]
      rfl
    · exact fun hwaits => (h.waiting hwaits).snoc fun _ _ => Obs.noConfusion
    · rw [hattempt]
      exact h.paired
    · rw [hattempt]
      exact h.linked
  exact hheld.background (Background.zmkBleMouseClearHold _ pressed)

/-- A load that leaves a saved peer alone, or reads a valid record. -/
lemma settingsSet (h : Accounted s) {name : String} {length : ℕ} {contents : Addr} {result : ℤ}
    (hclean : s.havePeer = true → s.Reads name length contents result) :
    Accounted ((s.observe (.load name length contents result)).settingsSet name length contents
      result).1 := by
  let t : State := s.observe (.load name length contents result)
  have hload : Obs.Accounted s.journal (.load name length contents result) := trivial
  have hhost : t.host = s.host := s.host_observe _
  -- whatever the load leaves in `peer`, the rest is as it was
  have hloaded {peer : Addr} {havePeer : Bool}
      (hremembers : State.Remembers { t with peer, havePeer }) :
      Accounted { t with peer, havePeer } :=
    { hremembers with
      gap := h.gap
      held := h.held.trans (congrArg History.clearHeld hhost).symm
      waiting := fun hwaits => (h.waiting hwaits).snoc fun _ _ => Obs.noConfusion
      journal := h.journal.snoc hload
      connected := h.connected
      paired := by
        show _ → _ = t.host.attempt.bonded
        rw [hhost]
        exact h.paired
      linked := by
        show _ → t.host.attempt.linkUp = true ∨ t.host.attempt.bonded = true →
          t.host.attempt.completions = [0]
        rw [hhost]
        exact h.linked
      attempt := h.attempt }
  have hsaved : savedPeer t.journal = Obs.peer (savedPeer s.journal)
    (.load name length contents result) := savedPeer_snoc _ _
  have hpeer : Obs.peer (savedPeer s.journal) (.load name length contents result) =
    if name = "peer" ∧ length = 7 ∧ result = 7 ∧ contents.Usable then some contents
    else savedPeer s.journal := rfl
  rcases settingsSet_cases t name length contents result with
    ⟨-, hname, hlength, hresult, husable, heq⟩ | ⟨-, ⟨heq, hother⟩ | ⟨hname, hlength, hbad, heq⟩⟩
  · rw [heq]
    refine hloaded ⟨fun _ => ?_, fun _ => husable.ne_any⟩
    exact hsaved.trans (hpeer.trans (if_pos ⟨hname, hlength, hresult, husable⟩))
  · rw [heq]
    refine hloaded ⟨fun hhave => ?_, h.device⟩
    rw [if_neg fun hread => hother ⟨hread.1, hread.2.1⟩] at hpeer
    exact hsaved.trans (hpeer.trans (h.saved hhave))
  · rw [heq]
    rw [if_neg fun hread => hbad hread.2.2] at hpeer
    have hsame (hhave : s.havePeer = true) : contents = s.peer :=
      (hclean hhave hname hlength).resolve_left hbad
    refine hloaded ⟨fun hhave => ?_, fun hhave => ?_⟩
    · rw [hsame hhave]
      exact hsaved.trans (hpeer.trans (h.saved hhave))
    · rw [hsame hhave]
      exact h.device hhave

lemma zmkBleMouseStart (h : Accounted s) : Accounted s.zmkBleMouseStart := by
  unfold State.zmkBleMouseStart
  split
  · exact h
  · exact { h with }

/-! ### Steps and runs -/

lemma run (maxPaired : ℕ) (h : Accounted s) (hs : Coherent s) (hsettled : Settled s)
    (he : Enrolled s) {w : Work} {rest : List Work} (hq : s.work.queue = w :: rest) {a : Answers}
    (hdevice : ∀ c ∈ a.lookup, c.dst ≠ .any) : Accounted ((s.take w rest).run maxPaired w a) := by
  have htake : Incidental s (s.take w rest) := .take w rest
  have ht := h.incidental htake
  have hmem : w ∈ s.work.queue := hq ▸ List.mem_cons_self
  have hinit : (s.take w rest).initialized = true := hs.initialized_of_mem hmem
  have htracks (c : Conn) (hc : (s.take w rest).mouseConn = some c) : Tracks (s.take w rest) c :=
    (tracks hs he (htake.mouseConn.symm.trans hc)).incidental htake
  have hrefl := Background.refl (s.take w rest)
  cases w with
  | discovery => exact ht.discoveryWorkCb hinit (fun hlive => ((hs.token hlive).discovery hmem).2) a
  | failure => exact ht.failureWorkCb htracks a
  | retry => exact ht.background hrefl.retryWorkCb
  | timeout => exact ht.explores ((Explores.refl _).timeoutWorkCb hinit)
  | pairTimeout => exact ht.explores ((Explores.refl _).pairTimeoutCb hinit)
  | connected =>
    refine ht.connectedWorkCb (fun hconn => ?_) a
    rw [htake.alike.completions]
    exact hsettled.error (.inl hconn) hmem
  | disconnected => exact ht.disconnectedWorkCb htracks a
  | pair => exact ht.background (hrefl.pairWorkCb maxPaired)
  | clear =>
    refine ht.clearWorkCb (fun hheld => ?_) a
    exact ⟨s.journal, [], rfl, h.held.symm.trans hheld, fun _ _ => List.not_mem_nil⟩
  | scan => exact ht.background (hrefl.scanWorkCb a)
  | connect => exact ht.connectWorkCb maxPaired (hs.connect hmem).1 hdevice
  | settle => exact ht.background hrefl.settleWorkCb
  | output => exact ht

/-- Every step accounts for the bonds it removes. -/
theorem step {maxPaired : ℕ} (h : Accounted s) (hs : Coherent s) (hsettled : Settled s)
    (he : Enrolled s) {l : Label} (hclean : s.LoadsClean l) (hpairs : Host.Pairs s l)
    (hstep : s.step maxPaired l = some s') : Accounted s' := by
  cases alters_of_step hs ⟨hpairs.allows hs hsettled, hstep⟩ with
  | explores he => exact h.explores he
  | work _ hq => exact h.run maxPaired hs hsettled he hq hpairs.2
  | connectBegin => exact hpairs.elim
  | connectEnd hin => exact absurd (h.gap.symm.trans hin) Bool.noConfusion
  | connected c err => exact h.connectedCb hs c err hpairs
  | disconnected c => exact h.disconnectedCb c
  | pairingComplete c bonded => exact h.pairingCompleteCb hs c bonded fun hc => (hpairs hc).1
  | clearHold pressed => exact h.zmkBleMouseClearHold pressed
  | settings name length contents result =>
    exact h.settingsSet hclean
  | start => exact h.zmkBleMouseStart

end Accounted

lemma accounted_init (bonds : List Addr) : Accounted (State.init bonds) := by
  have hboot : Obs.Accounted [] (.boot bonds) := rfl
  have haudited : Audited (State.init bonds) :=
    { saved := fun hpeer => absurd hpeer Bool.false_ne_true
      device := fun hpeer => absurd hpeer Bool.false_ne_true
      gap := rfl
      held := rfl
      waiting := fun hwaits => absurd hwaits Bool.false_ne_true
      journal := Journal.every_nil.snoc hboot }
  exact haudited.accounted rfl rfl

/-- Every run whose loads are clean accounts for the bonds it removes. -/
theorem run_accounted {maxPaired : ℕ} {bonds : List Addr} {labels : List Label} {s : State}
    (hrun : Transition.Run (CleanBonding maxPaired) (State.init bonds) labels s) :
    Accounted s := by
  have hinv := hrun.invariant (fun s => (Coherent s ∧ Settled s) ∧ Enrolled s ∧ Accounted s)
    ⟨⟨coherent_init bonds, Settled.of_idle (State.not_engaged rfl rfl)⟩, enrolled_init bonds,
      accounted_init bonds⟩ ?_
  · exact hinv.2.2
  rintro t l t' ⟨⟨hs, hsettled⟩, he, h⟩ ⟨hclean, ⟨hpairs, hstep⟩ | ⟨hlate, rfl⟩⟩
  · have hstep' : Step maxPaired t l t' := ⟨hpairs.allows hs hsettled, hstep⟩
    exact ⟨⟨hs.step hstep', hsettled.step hs hstep' hpairs.once⟩, he.step hs hstep',
      h.step hs hsettled he hclean hpairs hstep⟩
  · rw [hlate.callback_eq]
    exact ⟨⟨hs, hsettled⟩, he, h⟩

/-! ### The bond table -/

/-- What a journal does to the bond table. -/
structure BondTableFrame (journal : List Obs) : Prop where
  /-- A call of `bt_unpair` is for the address of `mouse_conn`, in an attempt for a candidate that
  had no bond when the attempt began, was bonded in it and has not been registered, or for the
  saved peer, after `clear_work_cb` has run for a Clear whose key was held. -/
  calls : ∀ before addr saved err after, journal = before ++ .unpair addr saved err :: after →
    CandidateBond (history before) addr ∨ savedPeer before = some addr ∧ ClearRan before
  /-- No bond is removed but the one such a call is for. -/
  removed : ∀ before o after addr, journal = before ++ o :: after →
    addr ∈ (history before).bonds → addr ∉ (history (before ++ [o])).bonds →
      ∃ saved, o = .unpair addr saved 0
  /-- At the end of an attempt whose candidate was bonded and not registered, `bt_unpair` has
  been called for its address. -/
  ended : ∀ before o after, journal = before ++ o :: after → o.EndsAttempt →
    (history before).attempt.Stray → BondRemoved before

/-- Only `bt_unpair` removes a bond, and unless it is called for `BT_ADDR_LE_ANY` no other one. -/
lemma unpair_of_removed {h : History} {o : Obs} {addr : Addr}
    (hany : ∀ saved err, o ≠ .unpair .any saved err) (hbefore : addr ∈ h.bonds)
    (hafter : addr ∉ (h.record o).bonds) :
    (∃ saved, o = .unpair addr saved 0) ∨ ∃ bonds, o = .boot bonds := by
  cases o with
  | boot bonds => exact .inr ⟨bonds, rfl⟩
  | unpair addr' saved err =>
    change addr ∉ (if err = 0 then bondsWithout h.bonds addr' else h.bonds) at hafter
    have hne : addr' ≠ .any := fun heq => hany saved err (heq ▸ rfl)
    by_cases herr : err = 0
    · subst herr
      rw [if_pos rfl, bondsWithout_of_ne hne, List.mem_filter, not_and, decide_eq_true_eq,
        not_not] at hafter
      exact .inl ⟨saved, by rw [hafter hbefore]⟩
    · rw [if_neg herr] at hafter
      exact absurd hbefore hafter
  | pairingComplete c bonded =>
    change addr ∉ (if _ then h.bonds ++ [c.dst] else h.bonds) at hafter
    split at hafter
    · exact absurd (List.mem_append_left _ hbefore) hafter
    · exact absurd hbefore hafter
  | _ => exact absurd hbefore hafter

/-- **The bond table is left alone.**  In every run whose loads read a valid record, or nothing
new, whenever there is a saved peer: a call of `bt_unpair` is for the unregistered candidate of an
attempt that bonded it, or for the saved peer after a Clear; no other bond is ever removed; and
the bond of every candidate that is not registered is removed before its attempt ends. -/
theorem bond_table_frame {maxPaired : ℕ} {bonds : List Addr} {labels : List Label} {s : State}
    (hrun : Transition.Run (CleanBonding maxPaired) (State.init bonds) labels s) :
    BondTableFrame s.journal := by
  have hjournal := (run_accounted hrun).journal
  refine ⟨fun before addr saved err after heq => (hjournal _ _ _ heq).2, ?_, ?_⟩
  · intro before o after addr heq hbefore hafter
    have hany (saved : Bool) (err : ℤ) : o ≠ .unpair .any saved err := by
      rintro rfl
      exact (hjournal _ _ _ heq).1 rfl
    rw [history_snoc] at hafter
    rcases unpair_of_removed hany hbefore hafter with hunpair | ⟨initial, rfl⟩
    · exact hunpair
    · obtain rfl : before = [] := hjournal _ _ _ heq
      exact absurd hbefore List.not_mem_nil
  · intro before o after heq hends
    have hended := hjournal before o after heq
    cases o with
    | ended => exact hended
    | lookup addr found =>
      cases found with
      | none => exact hended
      | some => exact hends.elim
    | _ => exact hends.elim

/-- A saved mouse is loaded, and loaded again by a read that fails; it is looked for in vain and
cleared; another one is paired, and lost before it is ready. -/
def replacedMouse (old : Addr) (conn : Conn) : List Label :=
  [.settings "peer" 7 old 7, .settings "peer" 7 old (-5), .start, .work {}, .work {},
    .clearHold true, .expire .clear, .work {}, .work {}, .work {}, .work {}, .clearHold false,
    .pair, .work {}, .work {},
    .advertisement conn.dst .advInd [(9, [0x4d, 0x37, 0x32, 0x30])] 0,
    .work { lookup := some conn }] ++ securedLink conn ++ [.disconnected conn, .work {}]

/-- The bonds of both are removed, the keyboard keeps its own. -/
theorem bond_table_frame_replaced : ∃ s,
    Transition.Run (CleanBonding 8) (State.init [⟨1, 9⟩, ⟨0, 5⟩])
      (replacedMouse ⟨1, 9⟩ ⟨1, ⟨1, 7⟩⟩) s ∧
    .unpair ⟨1, 9⟩ true 0 ∈ s.journal ∧ .unpair ⟨1, 7⟩ false 0 ∈ s.journal ∧
    s.host.bonds = [⟨0, 5⟩] ∧ BondTableFrame s.journal := by
  obtain ⟨s, hrun, hp⟩ := exists_clean_run 8 (State.init [⟨1, 9⟩, ⟨0, 5⟩])
    (replacedMouse ⟨1, 9⟩ ⟨1, ⟨1, 7⟩⟩)
    (fun s => decide (.unpair ⟨1, 9⟩ true 0 ∈ s.journal ∧ .unpair ⟨1, 7⟩ false 0 ∈ s.journal ∧
      s.host.bonds = [⟨0, 5⟩])) (by decide +kernel)
  obtain ⟨hsaved, hcandidate, hbonds⟩ := of_decide_eq_true hp
  exact ⟨s, hrun, hsaved, hcandidate, hbonds, bond_table_frame hrun⟩

/-- The peer is loaded, another load reads seven zero bytes and fails, and Clear is held. -/
def overwrittenPeer (peer : Addr) : List Label :=
  [.settings "peer" 7 peer 7, .settings "peer" 7 .any 7, .start, .work {}, .work {},
    .clearHold true, .expire .clear, .work {}]

/-- Clear removes the bond of the keyboard as well. -/
theorem overwritten_peer_clears_bonds :
    ¬∀ (maxPaired : ℕ) (bonds : List Addr) (labels : List Label) (s : State),
      Transition.Run (Bonding maxPaired) (State.init bonds) labels s →
        BondTableFrame s.journal := by
  intro hall
  obtain ⟨s, hrun, hp⟩ := exists_bonding_run 8 (State.init [⟨1, 9⟩, ⟨0, 5⟩])
    (overwrittenPeer ⟨1, 9⟩)
    (fun s => decide (s.journal = s.journal.take 7 ++ .unpair .any true 0 :: s.journal.drop 8 ∧
      ⟨0, 5⟩ ∈ (history (s.journal.take 7)).bonds ∧
      ⟨0, 5⟩ ∉ (history (s.journal.take 7 ++ [.unpair .any true 0])).bonds)) (by decide +kernel)
  obtain ⟨heq, hbefore, hafter⟩ := of_decide_eq_true hp
  obtain ⟨saved, hunpair⟩ := (hall _ _ _ _ hrun).removed _ _ _ ⟨0, 5⟩ heq hbefore hafter
  exact absurd (Obs.unpair.inj hunpair).1 (by decide)

end BleMouse.Client
