/-
Nothing is exchanged before the link is encrypted.

The client starts a GATT procedure, writes to the mouse, stores its address and hands its reports
on in the stages that follow the security stage.  It comes to them only when the host has reported,
in the same attempt and for its own connection, that the link is encrypted (`Secures`).

* `secures_of_step`: what begins the use of a connection;
* `encrypted_before_exchange`: the main result.
-/
import BleMouse.Client.GattSafety
import BleMouse.Client.Sources

namespace BleMouse.Client

open BleMouse.Hid BleMouse.Output

/-! ### The use of a connection -/

/-- The stages that follow the security stage, until the connection is given up. -/
def Stage.Secured (stage : Stage) : Prop := stage.Exploring ∨ stage = .ready

/-- The connection is used. -/
def State.Uses (s : State) (c : Conn) : Prop := s.mouseConn = some c ∧ s.stage.Secured

/-- The host reports that the link of a connection is encrypted: in a callback, or when it is asked
as the connection is completed. -/
def Secures (s : State) (c : Conn) : Label → Prop
  | .securityChanged c' level err => c' = c ∧ 2 ≤ level ∧ err = 0
  | .work a => (∃ rest, s.work.queue = .connected :: rest) ∧ a.setSecurity = 0 ∧ 2 ≤ a.security
  | _ => False

/-- Something is exchanged with a mouse, or follows from it. -/
def Obs.IsExchange : Obs → Prop
  | .gatt .. | .command .. | .save .. | .registered _ | .outputReceive .. => True
  | _ => False

/-- What a step exchanges belongs to a connection: it is a procedure or a command on it, or its
address is stored, or it is what the connection has notified the client of that is handed on. -/
def Obs.Exchanges (conn : Conn) (l : Label) : Obs → Prop
  | .gatt c .. | .command c .. => c = conn
  | .save addr _ | .registered addr => addr = conn.dst
  | .outputReceive .. => ∃ i payload, l = .notified conn i (some payload)
  | _ => False

/-- Without an attempt that goes on, discovery work does nothing. -/
lemma discoveryWorkCb_of_not_live {s : State} (hlive : ¬s.Live) (a : Answers) :
    s.discoveryWorkCb a = s := by
  unfold State.discoveryWorkCb
  split
  case h_1 => rfl
  case h_2 c hc =>
    refine if_pos (by_contra fun hgood => hlive ?_)
    rw [not_or, not_not] at hgood
    exact ⟨hc ▸ Option.some_ne_none c, hgood⟩

/-- The use of a connection does not begin. -/
def Idles (s s' : State) : Prop := ∀ c, s'.Uses c → s.Uses c

namespace Idles

variable {s s' : State}

lemma of_same (hconn : s'.mouseConn = s.mouseConn) (hstage : s'.stage = s.stage) : Idles s s' := by
  intro c huses
  rw [State.Uses, hconn, hstage] at huses
  exact huses

lemma of_none (hconn : s'.mouseConn = none) : Idles s s' := by
  intro c huses
  exact absurd (hconn.symm.trans huses.1) (Option.some_ne_none c).symm

lemma of_stage (hstage : s'.mouseConn ≠ none → ¬s'.stage.Secured) : Idles s s' := by
  intro c huses
  exact absurd huses.2 (hstage (huses.1 ▸ Option.some_ne_none c))

/-- The connection is to be given up. -/
lemma closing (hstage : s'.stage = .closing) : Idles s s' := by
  refine of_stage fun _ hsecured => ?_
  rw [hstage] at hsecured
  rcases hsecured with hexploring | hready
  · exact hexploring.2.2.2.2 rfl
  · exact Stage.noConfusion hready

lemma of_background (h : Background s s') : Idles s s' := of_same h.mouseConn h.stage

/-- Discovery goes on in the stages of discovery. -/
lemma of_explores (h : Explores s s') (hstage : s'.stage = s.stage ∨ s.stage.Exploring) :
    Idles s s' := by
  rcases hstage with hsame | hexploring
  · exact of_same h.mouseConn hsame
  · exact fun c huses => ⟨h.mouseConn.symm.trans huses.1, .inl hexploring⟩

lemma trans {s'' : State} (h : Idles s s') (h' : Idles s' s'') : Idles s s'' :=
  fun c huses => h c (h' c huses)

lemma take (w : Work) (rest : List Work) : Idles s (s.take w rest) := of_same rfl rfl

lemma fail (err : ℤ) : Idles s (s.fail err) := of_same rfl rfl

/-! ### Callbacks -/

/-- A callback belongs to a procedure that is in progress in the stages of discovery only. -/
lemma callback (hs : Coherent s) {t : State} (he : Explores s t) {c : Conn} {request : Request}
    (hsame : s.validCallback c = false → t = s) (hmem : (c, request) ∈ s.host.attempt.requests)
    (continues : Bool) (err : ℕ) : Idles s (t.finished continues c request err) := by
  refine of_explores (he.finished _ _ _ _) ?_
  by_cases hvalid : s.validCallback c = true
  · refine .inr (by_contra fun hstage => ?_)
    have hnil := (hs.requests_eq_nil (State.live_of_valid hvalid) hstage).1
    rw [hnil] at hmem
    exact List.not_mem_nil hmem
  · refine .inl ?_
    rw [hsame (Bool.eq_false_of_not_eq_true hvalid)]
    unfold State.finished
    split <;> rfl

lemma discoverCb_invalid {c : Conn} (h : s.validCallback c = false) (attr : Option Attr) :
    (s.discoverCb c attr).1 = s := by
  unfold State.discoverCb
  rw [h]
  rfl

lemma readCb_invalid {c : Conn} (h : s.validCallback c = false) (err : ℕ)
    (data : Option (List UInt8)) : (s.readCb c err data).1 = s := by
  unfold State.readCb
  rw [h]
  rfl

lemma writtenCb_invalid {c : Conn} (h : s.validCallback c = false) (err : ℕ) :
    s.writtenCb c err = s := by
  unfold State.writtenCb
  rw [h]
  rfl

lemma subscribedCb_invalid {c : Conn} (h : s.validCallback c = false) (err i : ℕ) :
    s.subscribedCb c err i = s := by
  unfold State.subscribedCb
  rw [h]
  rfl

lemma notifyCb (c : Conn) (i : ℕ) (data : Option (List UInt8)) : Idles s (s.notifyCb c i data) := by
  unfold State.notifyCb
  split
  · exact of_same rfl rfl
  · split
    · exact fail _
    · split
      · exact of_same rfl rfl
      · split
        · exact of_same rfl rfl
        · exact of_same rfl rfl

lemma connectedCb (c : Conn) (err : ℕ) :
    Idles s ((s.observe (.connected c err)).connectedCb c err) := by
  unfold State.connectedCb
  split <;> exact of_same rfl rfl

lemma disconnectedCb (c : Conn) : Idles s ((s.observe (.disconnected c)).disconnectedCb c) := by
  unfold State.disconnectedCb
  split
  · exact closing rfl
  · exact of_same rfl rfl

lemma pairingCompleteCb (c : Conn) (bonded : Bool) :
    Idles s ((s.observe (.pairingComplete c bonded)).pairingCompleteCb c bonded) := by
  unfold State.pairingCompleteCb
  dsimp only
  split_ifs <;> exact of_same rfl rfl

lemma pairingFailedCb (c : Conn) : Idles s (s.pairingFailedCb c) := by
  unfold State.pairingFailedCb
  split <;> exact of_same rfl rfl

lemma zmkBleMouseClearHold (pressed : Bool) :
    Idles s ((s.observe (.clearKey pressed)).zmkBleMouseClearHold pressed) := by
  unfold State.zmkBleMouseClearHold
  dsimp only
  split <;> exact of_same rfl rfl

lemma settingsSet (name : String) (length : ℕ) (contents : Addr) (result : ℤ) :
    Idles s ((s.observe (.load name length contents result)).settingsSet name length contents
      result).1 := by
  unfold State.settingsSet
  dsimp only
  split_ifs <;> exact of_same rfl rfl

lemma zmkBleMouseStart : Idles s s.zmkBleMouseStart := by
  unfold State.zmkBleMouseStart
  split <;> exact of_same rfl rfl

/-! ### Work -/

lemma failureWorkCb (a : Answers) : Idles s (s.failureWorkCb a) := by
  unfold State.failureWorkCb
  split
  · dsimp only
    split
    · exact of_none (State.disconnectedWorkCb_mouseConn _ a)
    · exact closing rfl
  case h_2 hnone => exact of_none ((State.requestRetry_mouseConn _).trans hnone)

lemma timeoutWorkCb : Idles s s.timeoutWorkCb := by
  unfold State.timeoutWorkCb
  split <;> exact of_same rfl rfl

lemma pairTimeoutCb : Idles s s.pairTimeoutCb := by
  have hpaired : Idles s { s with pairing := false } := of_same rfl rfl
  unfold State.pairTimeoutCb
  dsimp only
  split
  · exact (hpaired.trans (fail _)).trans (of_background (Background.refl _).retryWorkCb)
  · exact hpaired.trans (of_background (Background.refl _).retryWorkCb)

lemma clearWorkCb (a : Answers) : Idles s (s.clearWorkCb a) := by
  unfold State.clearWorkCb
  dsimp only
  split
  · exact of_same rfl rfl
  · split
    case isTrue => exact of_same rfl rfl
    case isFalse hnone =>
      refine of_none ((State.forgetPeer_mouseConn _ a).trans ?_)
      exact Option.not_isSome_iff_eq_none.1 hnone

/-- Discovery work does something only in the stages of discovery. -/
lemma discoveryWorkCb (hinit : s.initialized = true) (hstage : s.Live → s.stage.Exploring)
    (a : Answers) : Idles s (s.discoveryWorkCb a) := by
  have hconn : (s.discoveryWorkCb a).mouseConn = s.mouseConn := by
    rcases discoveryWorkCb_cases hinit hstage a with hexplores | ⟨c, index, -, -, -, hfinishes⟩
    · exact hexplores.mouseConn
    · exact hfinishes.mouseConn
  by_cases hlive : s.Live
  · exact fun c huses => ⟨hconn.symm.trans huses.1, .inl (hstage hlive)⟩
  · exact of_same hconn (congrArg State.stage (discoveryWorkCb_of_not_live hlive a))

/-- The completion of the connection begins its use only when the link is encrypted. -/
lemma completeConnection (a : Answers) : Idles s (s.completeConnection a) ∨
    (s.completeConnection a).mouseConn = s.mouseConn ∧ a.setSecurity = 0 ∧ 2 ≤ a.security := by
  unfold State.completeConnection
  split
  case h_1 => exact .inl (of_same rfl rfl)
  case h_2 c hc =>
    have hsecurity : ¬Stage.Secured .security := by
      rintro (hexploring | hready)
      · exact hexploring.2.2.1 rfl
      · exact Stage.noConfusion hready
    dsimp only
    split
    · refine .inl (of_none ?_)
      rw [State.requestRetry_mouseConn, State.forgetIfRequested_mouseConn]
      rfl
    · split
      · exact .inl (of_same rfl rfl)
      · split
        case isTrue => exact .inl (of_stage fun _ => hsecurity)
        case isFalse hzero =>
          split
          case isTrue hlevel => exact .inr ⟨rfl, not_not.1 hzero, hlevel.1⟩
          case isFalse => exact .inl (of_stage fun _ => hsecurity)

/-- The connection that is looked up has yet to be completed. -/
lemma connectWorkEnd (hstage : s.stage = .connecting) (a : Answers) :
    Idles s (s.connectWorkEnd a) := by
  have hconnecting : ¬Stage.Secured .connecting := by
    rintro (hexploring | hready)
    · exact hexploring.2.1 rfl
    · exact Stage.noConfusion hready
  have hlooked : Idles s (s.connectMouseLookup s.pendingAddress a).1 := by
    unfold State.connectMouseLookup
    dsimp only
    split
    case isTrue hnone =>
      refine of_none ((State.requestRetry_mouseConn _).trans ?_)
      exact Option.isNone_iff_eq_none.1 hnone
    case isFalse =>
      refine of_stage fun _ hsecured => hconnecting ?_
      rw [← hstage]
      exact hsecured
  exact hlooked.trans (of_background ((Background.refl _).connectReturned _))

/-- The worker runs an item. -/
lemma run (maxPaired : ℕ) (hs : Coherent s) (hgap : s.inConnect = false) {w : Work}
    {rest : List Work} (hq : s.work.queue = w :: rest) (a : Answers) :
    Idles s ((s.take w rest).run maxPaired w a) ∨
      w = .connected ∧ ((s.take w rest).run maxPaired w a).mouseConn = s.mouseConn ∧
        a.setSecurity = 0 ∧ 2 ≤ a.security := by
  have hmem : w ∈ s.work.queue := hq ▸ List.mem_cons_self
  have hinit : (s.take w rest).initialized = true := hs.initialized_of_mem hmem
  have htake : Idles s (s.take w rest) := take w rest
  have hrefl := Background.refl (s.take w rest)
  cases w with
  | discovery =>
    have hstage : (s.take .discovery rest).Live → (s.take .discovery rest).stage.Exploring :=
      fun hlive => ((hs.token hlive).discovery hmem).2
    exact .inl (htake.trans (discoveryWorkCb hinit hstage a))
  | failure => exact .inl (htake.trans (failureWorkCb a))
  | retry => exact .inl (htake.trans (of_background hrefl.retryWorkCb))
  | timeout => exact .inl (htake.trans timeoutWorkCb)
  | pairTimeout => exact .inl (htake.trans pairTimeoutCb)
  | connected =>
    have hreleased : Idles s (s.take .connected rest).releaseEvent :=
      htake.trans (of_background hrefl.releaseEvent)
    rcases completeConnection (s := (s.take .connected rest).releaseEvent) a with
      hidles | ⟨hconn, hsecured⟩
    · exact .inl (hreleased.trans hidles)
    · exact .inr ⟨rfl, hconn.trans hrefl.releaseEvent.mouseConn, hsecured⟩
  | disconnected => exact .inl (of_none (State.disconnectedWorkCb_mouseConn _ a))
  | pair => exact .inl (htake.trans (of_background (hrefl.pairWorkCb maxPaired)))
  | clear => exact .inl (htake.trans (clearWorkCb a))
  | scan => exact .inl (htake.trans (of_background (hrefl.scanWorkCb a)))
  | connect =>
    have hbegun := (hs.take hq).connectWorkBegin maxPaired (hs.connecting_take hgap hq) a
    have hnone : (s.take .connect rest).mouseConn = none :=
      by_contra fun hconn => (hs.connect hmem).1 (.inl hconn)
    have hbegins : Idles s ((s.take .connect rest).connectWorkBegin maxPaired a) :=
      of_none (State.connectWorkBegin_mouseConn maxPaired hnone a)
    refine .inl ?_
    show Idles s (State.connectWorkCb maxPaired (s.take .connect rest) a)
    unfold State.connectWorkCb
    dsimp only
    split
    case isTrue hin => exact hbegins.trans (connectWorkEnd (hbegun.gap hin).2.1 a)
    case isFalse => exact hbegins
  | settle => exact .inl (htake.trans (of_background hrefl.settleWorkCb))
  | output => exact .inl htake

/-- A change of the security of the link. -/
lemma securityCb (c : Conn) (level err : ℕ) : Idles s (s.securityCb c level err) ∨
    s.mouseConn = some c ∧ (s.securityCb c level err).mouseConn = s.mouseConn ∧ 2 ≤ level ∧
      err = 0 := by
  unfold State.securityCb
  split
  case isTrue => exact .inl (of_same rfl rfl)
  case isFalse hvalid =>
    rw [Bool.not_eq_true', Bool.not_eq_false] at hvalid
    split
    case isTrue => exact .inl (fail _)
    case isFalse hzero =>
      split
      case isTrue hlevel =>
        exact .inr ⟨(State.validCallback_iff.1 hvalid).1, rfl, hlevel.1, not_not.1 hzero⟩
      case isFalse => exact .inl (of_same rfl rfl)

end Idles

/-- The use of a connection begins only when its link is encrypted. -/
lemma secures_of_step {maxPaired : ℕ} {s s' : State} {l : Label} (hs : Coherent s)
    (hstep : Step maxPaired s l s') : Idles s s' ∨
      s'.mouseConn = s.mouseConn ∧ ∀ c, s.mouseConn = some c → Secures s c l := by
  have hrefl := Background.refl s
  have hallows := hstep.1
  cases hstep.moves with
  | @work a w rest hgap hq =>
    rcases Idles.run maxPaired hs hgap hq a with hidles | ⟨rfl, hconn, hsecured⟩
    · exact .inl hidles
    · exact .inr ⟨hconn, fun _ _ => ⟨⟨rest, hq⟩, hsecured⟩⟩
  | connectBegin hgap hq =>
    have hmem : .connect ∈ s.work.queue := hq ▸ List.mem_cons_self
    refine .inl (Idles.of_none (State.connectWorkBegin_mouseConn maxPaired ?_ _))
    exact by_contra fun hconn => (hs.connect hmem).1 (.inl hconn)
  | connectEnd hin => exact .inl (Idles.connectWorkEnd (hs.gap hin).2.1 _)
  | expire => exact .inl (Idles.of_same rfl rfl)
  | connected c err => exact .inl (Idles.connectedCb c err)
  | disconnected c => exact .inl (Idles.disconnectedCb c)
  | connectionChanged answer => exact .inl (Idles.of_background (hrefl.connectionChanged answer))
  | securityChanged c level err =>
    rcases Idles.securityCb (s := s) c level err with
      hidles | ⟨hc, hconn, hsecured⟩
    · exact .inl hidles
    · exact .inr ⟨hconn, fun c' hc' => ⟨Option.some.inj (hc.symm.trans hc'), hsecured⟩⟩
  | pairingComplete c bonded => exact .inl (Idles.pairingCompleteCb c bonded)
  | pairingFailed c => exact .inl (Idles.pairingFailedCb c)
  | discovered c type start stop attr =>
    exact .inl (Idles.callback hs (Explores.discoverCb hs c attr)
      (Idles.discoverCb_invalid · attr) hallows _ _)
  | readDone c handle err data =>
    exact .inl (Idles.callback hs (Explores.readCb hs c err data)
      (Idles.readCb_invalid · err data) hallows _ _)
  | written c handle value err =>
    have hstage (hlive : s.Live) : s.stage = .protocol := (hs.token hlive).fits _ hallows
    exact .inl (Idles.callback hs (Explores.writtenCb hs c err hstage)
      (Idles.writtenCb_invalid · err) hallows _ _)
  | subscribed c i value ccc err =>
    exact .inl (Idles.callback hs (Explores.subscribedCb hs c err i)
      (Idles.subscribedCb_invalid · err i) hallows _ _)
  | notified c i data => exact .inl (Idles.notifyCb c i data)
  | advertisement addr type data now =>
    exact .inl (Idles.of_background (hrefl.zmkBleMouseAdvertisement addr type data now))
  | pair => exact .inl (Idles.of_background hrefl.zmkBleMousePair)
  | clearHold pressed => exact .inl (Idles.zmkBleMouseClearHold pressed)
  | settings name length contents result =>
    exact .inl (Idles.settingsSet name length contents result)
  | start => exact .inl Idles.zmkBleMouseStart

/-! ### Exchanges -/

/-- What is exchanged is exchanged with the connection in use. -/
lemma uses_of_exchanges {maxPaired : ℕ} {s s' : State} {l : Label} (hstep : Step maxPaired s l s')
    {o : Obs} (hmem : o ∈ s'.journal.drop s.journal.length) (ho : o.IsExchange) :
    ∃ c, s.Uses c ∧ o.Exchanges c l := by
  have hfrom := (sources_of_step hstep.2).of_mem_drop hmem
  cases o with
  | gatt | command => exact ⟨_, ⟨hfrom.conn, .inl hfrom.stage⟩, rfl⟩
  | save | registered =>
    obtain ⟨c', haddr, hinquires⟩ := hfrom
    exact ⟨c', ⟨hinquires.conn, .inl hinquires.stage⟩, haddr⟩
  | outputReceive =>
    obtain ⟨c, hhears⟩ := hfrom
    exact ⟨c, ⟨hhears.conn, .inr hhears.stage⟩, hhears.notified⟩
  | _ => exact ho.elim

/-- No attempt begins while there is a connection. -/
lemma attempts_eq_of_conn {maxPaired : ℕ} {s s' : State} {l : Label} (hs : Coherent s)
    (hconn : s.mouseConn ≠ none) (hstep : Step maxPaired s l s') : s'.attempts = s.attempts := by
  cases happens_of_step hs hstep with
  | nothing hquiet => exact hquiet.attempts
  | @finish _ _ _ rest _ _ _ _ _ _ hfinishes =>
    have htake : (s.take .discovery rest).attempts = s.attempts :=
      (Uneventful.take .discovery rest).attempts
    exact (attempts_finish hfinishes).trans htake
  | begin hgap hq => exact absurd (.inl hconn) (hs.connect (hq ▸ List.mem_cons_self)).1

/-- **Nothing is exchanged before the link is encrypted.**  Whatever a step of a run exchanges with
a mouse, or stores of it, or hands on from it, belongs to the connection of the client (a report
that is handed on comes with a notification of this connection), and the host has reported before,
in the same attempt, that the link of this connection is encrypted. -/
theorem encrypted_before_exchange {maxPaired : ℕ} {bonds : List Addr} {labels : List Label}
    {s s' : State} {l : Label} (hrun : Run maxPaired (State.init bonds) labels s)
    (hstep : Step maxPaired s l s') {o : Obs} (hmem : o ∈ s'.journal.drop s.journal.length)
    (ho : o.IsExchange) :
    ∃ c, s.mouseConn = some c ∧ o.Exchanges c l ∧
      ∃ before e after t t', labels = before ++ e :: after ∧
        Run maxPaired (State.init bonds) before t ∧ Step maxPaired t e t' ∧
        t.mouseConn = some c ∧ Secures t c e ∧ t.attempts = s.attempts := by
  obtain ⟨c, huses, hc⟩ := uses_of_exchanges hstep hmem ho
  have hstart : ¬(State.init bonds).Uses c := fun h => absurd h.1 (Option.some_ne_none c).symm
  obtain ⟨before, e, after, t, t', rfl, hbefore, hstarts, hnot, hafter⟩ :=
    hrun.exists_start (Q := fun s => s.Uses c) hstart huses
  have huses' : t'.Uses c :=
    hafter.invariant (fun u => u.Uses c → t'.Uses c) id (fun _ _ _ hu hs _ => hu hs.2.1) huses
  have ht := run_coherent hbefore
  rcases secures_of_step ht hstarts with hidles | ⟨hconn, hsecures⟩
  · exact absurd (hidles c huses') hnot
  have hsame : s.attempts = t'.attempts := by
    refine (hafter.invariant (fun u => Coherent u ∧ u.attempts = t'.attempts)
      ⟨ht.step hstarts, rfl⟩ ?_).2
    rintro u _ u' ⟨hu, hsame⟩ ⟨hstep, husesu, -⟩
    exact ⟨hu.step hstep,
      (attempts_eq_of_conn hu (husesu.1 ▸ Option.some_ne_none c) hstep).trans hsame⟩
  have hc' : t.mouseConn = some c := hconn.symm.trans huses'.1
  have hstarted := attempts_eq_of_conn ht (hc' ▸ Option.some_ne_none c) hstarts
  exact ⟨c, huses.1, hc, before, e, after, t, t', rfl, hbefore, hstarts, hc', hsecures c hc',
    (hsame.trans hstarted).symm⟩

/-- A candidate that is paired: the discovery of its service is started after its link is
encrypted. -/
theorem encrypted_before_exchange_service : ∃ s s' before e after t,
    Run 8 (State.init []) (pairingRequest ⟨1, ⟨1, 7⟩⟩ ++ (securedLink ⟨1, ⟨1, 7⟩⟩).dropLast) s ∧
      Step 8 s (.work {}) s' ∧
      .gatt ⟨1, ⟨1, 7⟩⟩ (.discover .primary 1 0xffff) 0 ∈ s'.journal.drop s.journal.length ∧
      pairingRequest ⟨1, ⟨1, 7⟩⟩ ++ (securedLink ⟨1, ⟨1, 7⟩⟩).dropLast = before ++ e :: after ∧
      Run 8 (State.init []) before t ∧ Secures t ⟨1, ⟨1, 7⟩⟩ e := by
  obtain ⟨s, hrun, hp⟩ := exists_run 8 (State.init [])
    (pairingRequest ⟨1, ⟨1, 7⟩⟩ ++ (securedLink ⟨1, ⟨1, 7⟩⟩).dropLast)
    (fun s => (s.next 8 (.work {})).any fun s' : State => decide
      (Obs.gatt ⟨1, ⟨1, 7⟩⟩ (.discover .primary 1 0xffff) 0 ∈ s'.journal.drop s.journal.length))
    (by decide +kernel)
  obtain ⟨s', hnext, hp⟩ := (Option.any_eq_true _ _).1 hp
  have hmem := of_decide_eq_true hp
  have hstep := step_of_next hnext
  obtain ⟨c, -, rfl, before, e, after, t, -, hlabels, hbefore, -, -, hsecures, -⟩ :=
    encrypted_before_exchange hrun hstep hmem trivial
  exact ⟨s, s', before, e, after, t, hrun, hstep, hmem, hlabels, hbefore, hsecures⟩

end BleMouse.Client
