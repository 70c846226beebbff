/-
Where the observations come from.

Notifications reach the output module only from `notify_cb`; GATT procedures, commands and the
saved address only from `discovery_work_cb`; and a procedure ends only with a callback of it.
All other functions write plain observations into the journal, `Plain`.

* `sources_of_step`: what a step may write.
-/
import BleMouse.Client.Turns

namespace BleMouse.Client

open BleMouse.Hid BleMouse.Output

/-! ### Plain observations -/

/-- The observations of discovery on a connection: procedures that are started, commands, and
registration. -/
def Obs.OfDiscovery (conn : Conn) : Obs → Prop
  | .gatt c .. | .command c .. => c = conn
  | .save addr _ | .registered addr => addr = conn.dst
  | _ => False

/-- The observations that neither belong to discovery nor hand a frame on. -/
def Obs.Plain : Obs → Prop
  | .gatt .. | .command .. | .save .. | .registered _ | .done .. | .outputReceive .. => False
  | _ => True

/-- Only plain observations are made. -/
abbrev Plain (s s' : State) : Prop := Journal.Grows Obs.Plain s.journal s'.journal

namespace Plain

variable {s s' : State}

lemma refl (s : State) : Plain s s := Journal.Grows.refl _ _

lemma observe (h : Plain s s') (o : Obs) (ho : o.Plain) : Plain s (s'.observe o) := h.snoc ho

lemma take (w : Work) (rest : List Work) : Plain s (s.take w rest) :=
  (refl s).observe (.ran w) trivial

/-! ### Scanning and retries -/

lemma stopOwnScan (h : Plain s s') (answer : ℤ) : Plain s (s'.stopOwnScan answer).1 := by
  have hstopped : Plain s (State.observe { s' with scanOwned := false } (.scanStop answer)) :=
    h.observe (.scanStop answer) trivial
  unfold State.stopOwnScan
  split
  · exact h
  · dsimp only
    split
    · exact hstopped
    · exact hstopped

lemma scanWorkCb (h : Plain s s') (a : Answers) : Plain s (s'.scanWorkCb a) := by
  have hstarted := h.observe (.scanStart a.scanStart) trivial
  have howned : Plain s { s'.observe (.scanStart a.scanStart) with scanOwned := true } := hstarted
  unfold State.scanWorkCb
  dsimp only
  split_ifs
  · exact h
  · exact h.stopOwnScan _
  · exact h.stopOwnScan _
  · exact h
  · exact hstarted
  · exact howned.stopOwnScan _
  · exact hstarted

lemma centralConnect (h : Plain s s') (addr : Addr) : Plain s (s'.centralConnect addr) := by
  unfold State.centralConnect
  split
  · exact h
  · exact h.observe (.accepted addr) trivial

lemma connectionChanged (h : Plain s s') (answer : ℤ) : Plain s (s'.connectionChanged answer) := by
  have hsettling : Plain s { s' with splitSettling := true } := h
  exact hsettling.stopOwnScan answer

lemma retryWorkCb (h : Plain s s') : Plain s s'.retryWorkCb := by
  have hs (scanWanted : Bool) : Plain s { s' with scanWanted } := h
  unfold State.retryWorkCb
  dsimp only
  split
  · exact (hs _).centralConnect _
  · exact h

lemma connectReturned (h : Plain s s') (err : ℤ) : Plain s (s'.connectReturned err) := by
  unfold State.connectReturned
  dsimp only
  split
  · exact h
  · exact h

/-! ### The ends of an attempt -/

lemma forgetPeer (h : Plain s s') (a : Answers) : Plain s (s'.forgetPeer a) := by
  have hunpaired := h.observe (.unpair s'.peer (s'.havePeer && decide (s'.peer = s'.peer))
    a.unpairPeer) trivial
  have hdeleted := hunpaired.observe (.delete a.delete) trivial
  unfold State.forgetPeer
  dsimp only
  split_ifs
  · exact hunpaired
  · exact hdeleted.observe .outputDisconnect trivial
  · exact h.observe .outputDisconnect trivial

lemma forgetIfRequested (h : Plain s s') (a : Answers) : Plain s (s'.forgetIfRequested a) := by
  unfold State.forgetIfRequested
  split
  · exact h.forgetPeer a
  · exact h

lemma closeAttempt (h : Plain s s') (c : Conn) : Plain s (s'.observe (.unref c)).closeAttempt :=
  (h.observe (.unref c) trivial).observe .ended trivial

lemma hungUp (h : Plain s s') (c : Conn) (a : Answers) : Plain s (s'.hungUp c a) := by
  have houtput : Plain s ({ (s'.observe (.unref c)).closeAttempt with
      candidateBonded := false } : State).outputDisconnect :=
    (h.closeAttempt c).observe .outputDisconnect trivial
  exact houtput.forgetIfRequested a

lemma disconnectedWorkCb (h : Plain s s') (a : Answers) : Plain s (s'.disconnectedWorkCb a) := by
  rcases s'.disconnectedWorkCb_cases a with ⟨-, heq⟩ | ⟨c, t, -, ht, heq⟩
  · rw [heq]
    exact h
  · have hoff := h.observe (.autoConnOff c.dst) trivial
    rw [heq]
    cases ht with
    | kept => exact hoff.hungUp c a
    | unpaired => exact (hoff.observe (.unpair _ _ a.unpairCandidate) trivial).hungUp c a

lemma failureWorkCb (h : Plain s s') (a : Answers) : Plain s (s'.failureWorkCb a) := by
  unfold State.failureWorkCb
  split
  case h_1 c _ =>
    have hs : Plain s (({ s' with stage := .closing, scanWanted := false } :
        State).observe (.disconnect c a.disconnect)) := h.observe _ trivial
    dsimp only
    split
    · exact hs.disconnectedWorkCb a
    · exact hs
  case h_2 => exact h

/-! ### Connections -/

lemma connectMouse (maxPaired : ℕ) (h : Plain s s') (addr : Addr) (a : Answers) :
    Plain s (s'.connectMouse maxPaired addr a).1 := by
  unfold State.connectMouse
  dsimp only
  split_ifs
  · exact h
  · exact h
  · exact h
  · exact h
  · exact h
  · exact h.observe (.attempt addr !s'.havePeer) trivial

lemma connectWorkBegin (maxPaired : ℕ) (h : Plain s s') (a : Answers) :
    Plain s (s'.connectWorkBegin maxPaired a) := by
  have hcalled := (h.stopOwnScan a.scanStop).observe
    (.connect (s'.stopOwnScan a.scanStop).1.pendingAddress) trivial
  unfold State.connectWorkBegin
  dsimp only
  split_ifs
  · exact (h.stopOwnScan _).connectReturned _
  · exact hcalled.connectMouse maxPaired _ a
  · exact (hcalled.connectMouse maxPaired _ a).connectReturned _

lemma connectWorkEnd (h : Plain s s') (a : Answers) : Plain s (s'.connectWorkEnd a) := by
  have hs : Plain s (State.observe { s' with mouseConn := a.lookup, inConnect := false }
      (.lookup s'.pendingAddress a.lookup)) := h.observe (.lookup _ _) trivial
  have hoff := hs.observe (.autoConnOff s'.pendingAddress) trivial
  have hretry : Plain s ({ (State.observe { s' with mouseConn := a.lookup, inConnect := false }
      (.lookup s'.pendingAddress a.lookup)).observe (.autoConnOff s'.pendingAddress) with
        stage := .idle } : State).requestRetry := hoff
  unfold State.connectWorkEnd State.connectMouseLookup
  dsimp only
  split
  · exact hretry.connectReturned _
  · exact hs.connectReturned 0

lemma connectWorkCb (maxPaired : ℕ) (h : Plain s s') (a : Answers) :
    Plain s (s'.connectWorkCb maxPaired a) := by
  unfold State.connectWorkCb
  dsimp only
  split
  · exact (h.connectWorkBegin maxPaired a).connectWorkEnd a
  · exact h.connectWorkBegin maxPaired a

lemma connectedWorkCb (h : Plain s s') (a : Answers) : Plain s (s'.connectedWorkCb a) := by
  have hreleased : Plain s s'.releaseEvent := by
    unfold State.releaseEvent
    split
    case h_1 c _ => exact h.observe (.unref c) trivial
    case h_2 => exact h
  unfold State.connectedWorkCb State.completeConnection
  split
  case h_1 => exact hreleased
  case h_2 c _ =>
    have hs : Plain s (s'.releaseEvent.observe (.autoConnOff c.dst)).scanRefresh :=
      hreleased.observe (.autoConnOff c.dst) trivial
    dsimp only
    generalize (s'.releaseEvent.observe (.autoConnOff c.dst)).scanRefresh = t at hs ⊢
    have hsecured : Plain s (State.observe { t with stage := .security }
        (.setSecurity c a.setSecurity)) := hs.observe _ trivial
    split_ifs
    · exact (hs.closeAttempt c).forgetIfRequested a
    · exact hs
    · exact hsecured
    · exact hsecured
    · exact hsecured

lemma connectedCb (h : Plain s s') (c : Conn) (err : ℕ) :
    Plain s ((s'.observe (.connected c err)).connectedCb c err) := by
  have hs := h.observe (.connected c err) trivial
  unfold State.connectedCb
  split
  · exact hs.observe (.ref c) trivial
  · exact hs

lemma disconnectedCb (h : Plain s s') (c : Conn) :
    Plain s ((s'.observe (.disconnected c)).disconnectedCb c) := by
  have hs := h.observe (.disconnected c) trivial
  unfold State.disconnectedCb
  split <;> exact hs

lemma securityCb (h : Plain s s') (c : Conn) (level err : ℕ) :
    Plain s (s'.securityCb c level err) := by
  unfold State.securityCb
  split_ifs <;> exact h

lemma pairingCompleteCb (h : Plain s s') (c : Conn) (bonded : Bool) :
    Plain s ((s'.observe (.pairingComplete c bonded)).pairingCompleteCb c bonded) := by
  have hs := h.observe (.pairingComplete c bonded) trivial
  unfold State.pairingCompleteCb
  dsimp only
  split_ifs <;> exact hs

lemma pairingFailedCb (h : Plain s s') (c : Conn) : Plain s (s'.pairingFailedCb c) := by
  unfold State.pairingFailedCb
  split <;> exact h

/-! ### Timers, keys and advertisements -/

lemma timeoutWorkCb (h : Plain s s') : Plain s s'.timeoutWorkCb := by
  unfold State.timeoutWorkCb
  split <;> exact h

lemma pairTimeoutCb (h : Plain s s') : Plain s s'.pairTimeoutCb := by
  have hfailed (err : ℤ) : Plain s (State.fail { s' with pairing := false } err) := h
  have hclosed : Plain s { s' with pairing := false } := h
  unfold State.pairTimeoutCb
  dsimp only
  split
  · exact (hfailed _).retryWorkCb
  · exact hclosed.retryWorkCb

lemma pairWorkCb (maxPaired : ℕ) (h : Plain s s') : Plain s (s'.pairWorkCb maxPaired) := by
  have hknown : Plain s { s' with retryMs := 1000 } := h
  have hopened : Plain s (State.schedule { s' with pairing := true, retryMs := 1000 }
      .pairTimeout 60000) := h
  unfold State.pairWorkCb
  split_ifs
  · exact h
  · exact hknown.retryWorkCb
  · exact h
  · exact hopened.retryWorkCb

lemma clearWorkCb (h : Plain s s') (a : Answers) : Plain s (s'.clearWorkCb a) := by
  have hs : Plain s { s' with pairing := false, scanWanted := false, forgetRequested := true } := h
  unfold State.clearWorkCb
  dsimp only
  split_ifs
  · exact h
  · exact h
  · exact hs.forgetPeer a

lemma zmkBleMouseClearHold (h : Plain s s') (pressed : Bool) :
    Plain s ((s'.observe (.clearKey pressed)).zmkBleMouseClearHold pressed) := by
  have hs := h.observe (.clearKey pressed) trivial
  unfold State.zmkBleMouseClearHold
  dsimp only
  split <;> exact hs

lemma settingsSet (h : Plain s s') (name : String) (length : ℕ) (contents : Addr) (result : ℤ) :
    Plain s (s'.settingsSet name length contents result).1 := by
  unfold State.settingsSet
  dsimp only
  split_ifs <;> exact h

lemma zmkBleMouseAdvertisement (h : Plain s s') (addr : Addr) (type : AdvType)
    (data : List BtData) (now : BitVec 32) :
    Plain s (s'.zmkBleMouseAdvertisement addr type data now).1 := by
  have hseen (advertisers : List Advertiser) : Plain s { s' with advertisers } := h
  unfold State.zmkBleMouseAdvertisement
  dsimp only
  split_ifs
  · exact h
  · exact h
  · exact h.centralConnect _
  · exact h
  · exact h
  · exact (hseen _).centralConnect _
  · exact h

lemma zmkBleMousePair (h : Plain s s') : Plain s s'.zmkBleMousePair := by
  unfold State.zmkBleMousePair
  split <;> exact h

lemma zmkBleMouseStart (h : Plain s s') : Plain s s'.zmkBleMouseStart := by
  unfold State.zmkBleMouseStart
  split <;> exact h

end Plain

/-! ### Discovery -/

/-- Only observations of discovery on a connection are made. -/
abbrev Surveys (c : Conn) (s s' : State) : Prop :=
  Journal.Grows (Obs.OfDiscovery c) s.journal s'.journal

namespace Surveys

variable {c : Conn} {s s' : State}

lemma refl (c : Conn) (s : State) : Surveys c s s := Journal.Grows.refl _ _

lemma observe (h : Surveys c s s') (o : Obs) (ho : o.OfDiscovery c) : Surveys c s (s'.observe o) :=
  h.snoc ho

lemma startRequest (h : Surveys c s s') (request : Request) (answer : ℤ) :
    Surveys c s (s'.startRequest c request answer) := by
  have hs := h.observe (.gatt c request answer) rfl
  unfold State.startRequest
  dsimp only
  split <;> exact hs

lemma finishReady (h : Surveys c s s') (a : Answers) :
    Surveys c s (s'.finishReady c a) := by
  have hsaved := h.observe (.save c.dst a.save) rfl
  unfold State.finishReady
  dsimp only
  split_ifs
  · exact h
  · exact h
  · exact hsaved
  · exact hsaved.observe (.registered c.dst) rfl
  · exact h

lemma readNextReference (h : Surveys c s s') (a : Answers) :
    Surveys c s (s'.readNextReference c a) := by
  have hs (session : Session) : Surveys c s { s' with session } := h
  unfold State.readNextReference
  dsimp only
  split
  · exact h
  · exact (hs _).startRequest _ a.gatt

lemma readReferences (h : Surveys c s s') (a : Answers) :
    Surveys c s (s'.readReferences c a) := by
  have hs (session : Session) : Surveys c s { s' with session } := h
  unfold State.readReferences
  split
  · split
    case h_1 => exact h
    case h_2 =>
      dsimp only
      split
      · exact h
      · exact (hs _).readNextReference a
  · exact h.readNextReference a

lemma setProtocol (h : Surveys c s s') (a : Answers) :
    Surveys c s (s'.setProtocol c a) := by
  have hs := h.observe (.command c s'.session.protocolHandle s'.session.protocol a.protocol)
    rfl
  unfold State.setProtocol
  dsimp only
  split_ifs
  · exact h
  · exact hs
  · exact hs
  · exact h.startRequest _ a.gatt

lemma selectProtocol (h : Surveys c s s') (a : Answers) :
    Surveys c s (s'.selectProtocol c a) := by
  have hs : Surveys c s { s' with session := { s'.session with protocol := 1 } } := h
  have hcontrol := hs.observe (.command c s'.session.controlHandle 1 a.control) rfl
  unfold State.selectProtocol
  dsimp only
  split_ifs
  · exact hcontrol
  · exact hcontrol.setProtocol a
  · exact hs.setProtocol a

lemma subscribeNext (h : Surveys c s s') (a : Answers) :
    Surveys c s (s'.subscribeNext c a) := by
  have hs (session : Session) : Surveys c s { s' with session } := h
  unfold State.subscribeNext
  dsimp only
  split
  case h_1 =>
    split
    · exact h
    · exact (hs _).startRequest _ a.gatt
  case h_2 =>
    split
    · exact (hs _).finishReady a
    · exact h

/-- Discovery work does nothing, or goes on with the connection. -/
lemma discoveryWorkCb (s : State) (a : Answers) : (s.discoveryWorkCb a).journal = s.journal ∨
    ∃ c, s.mouseConn = some c ∧ s.Live ∧ s.stage.Exploring ∧ Surveys c s (s.discoveryWorkCb a) := by
  unfold State.discoveryWorkCb
  split
  case h_1 => exact .inl rfl
  case h_2 c hc =>
    have hrefl := refl c s
    split
    case isTrue => exact .inl rfl
    case isFalse hgood =>
      rw [not_or, not_not] at hgood
      have hlive : s.Live := ⟨hc ▸ Option.some_ne_none c, hgood⟩
      split
      case h_8 => exact .inl rfl
      all_goals
        rename_i hstage
        refine .inr ⟨c, hc, hlive, by simp [Stage.Exploring, hstage], ?_⟩
      · exact hrefl.startRequest _ a.gatt
      · exact hrefl.startRequest _ a.gatt
      · exact hrefl.startRequest _ a.gatt
      · exact hrefl.startRequest _ a.gatt
      · exact hrefl.readReferences a
      · exact hrefl.selectProtocol a
      · exact hrefl.subscribeNext a

end Surveys

/-! ### Steps -/

/-- The worker goes on with discovery on a connection. -/
structure State.Inquires (s : State) (l : Label) (c : Conn) : Prop where
  conn : s.mouseConn = some c
  live : s.Live
  stage : s.stage.Exploring
  next : ∃ a rest, l = .work a ∧ s.work.queue = .discovery :: rest

/-- The connection that is ready has notified the client of a report. -/
structure State.Hears (s : State) (l : Label) (c : Conn) : Prop where
  conn : s.mouseConn = some c
  stage : s.stage = .ready
  notified : ∃ i payload, l = .notified c i (some payload)

/-- What a step may write into the journal. -/
def Obs.From (s : State) (l : Label) : Obs → Prop
  | .outputReceive .. => ∃ c, s.Hears l c
  | .gatt c .. | .command c .. => s.Inquires l c
  | .save addr _ | .registered addr => ∃ c, addr = c.dst ∧ s.Inquires l c
  | .done .. => l.Procedural
  | _ => True

lemma Obs.Plain.from {o : Obs} (h : o.Plain) (s : State) (l : Label) : o.From s l := by
  cases o with
  | gatt | command | save | registered | done | outputReceive => exact h.elim
  | _ => trivial

/-- The worker takes an item that is not discovery. -/
lemma plain_run (maxPaired : ℕ) {s : State} {w : Work} (rest : List Work) (hw : w ≠ .discovery)
    (a : Answers) : Plain s ((s.take w rest).run maxPaired w a) := by
  have htake : Plain s (s.take w rest) := Plain.take w rest
  have hsettled : Plain s { s.take .settle rest with splitSettling := false } :=
    Plain.take .settle rest
  cases w with
  | discovery => exact absurd rfl hw
  | failure => exact htake.failureWorkCb a
  | retry => exact htake.retryWorkCb
  | timeout => exact htake.timeoutWorkCb
  | pairTimeout => exact htake.pairTimeoutCb
  | connected => exact htake.connectedWorkCb a
  | disconnected => exact htake.disconnectedWorkCb a
  | pair => exact htake.pairWorkCb maxPaired
  | clear => exact htake.clearWorkCb a
  | scan => exact htake.scanWorkCb a
  | connect => exact htake.connectWorkCb maxPaired a
  | settle => exact hsettled
  | output => exact htake

/-- A callback writes nothing but the end of its procedure. -/
lemma finished_grows {s t : State} (l : Label) (hl : l.Procedural) (h : t.journal = s.journal)
    (continues : Bool) (c : Conn) (request : Request) (err : ℕ) :
    Journal.Grows (Obs.From s l) s.journal (t.finished continues c request err).journal := by
  unfold State.finished
  split
  · rw [h]
    exact Journal.Grows.refl _ _
  · show Journal.Grows _ _ (t.journal ++ [.done c request err])
    rw [h]
    exact (Journal.Grows.refl _ _).snoc hl

lemma notifyCb_grows (s : State) (c : Conn) (i : ℕ) (data : Option (List UInt8)) :
    Journal.Grows (Obs.From s (.notified c i data)) s.journal (s.notifyCb c i data).journal := by
  have hrefl := Journal.Grows.refl (Obs.From s (.notified c i data)) s.journal
  unfold State.notifyCb
  split
  case isTrue => exact hrefl
  case isFalse hcond =>
    simp only [Bool.or_eq_true, Bool.not_eq_true', decide_eq_true_eq, not_or, Bool.not_eq_false,
      ne_eq, not_not] at hcond
    have hconn := (State.validCallback_iff.1 hcond.1).1
    split
    case h_1 => exact hrefl
    case h_2 payload =>
      split
      case h_1 => exact hrefl
      case h_2 =>
        split
        case h_1 => exact hrefl.snoc ⟨c, hconn, hcond.2, i, payload, rfl⟩
        case h_2 => exact hrefl

/-- Every observation comes from where it may. -/
theorem sources_of_step {maxPaired : ℕ} {s s' : State} {l : Label}
    (hstep : s.step maxPaired l = some s') :
    Journal.Grows (Obs.From s l) s.journal s'.journal := by
  have hrefl : Plain s s := Plain.refl s
  have hplain {t : State} (h : Plain s t) : Journal.Grows (Obs.From s l) s.journal t.journal :=
    h.mono fun o ho => ho.from s l
  cases moves_of_step hstep with
  | @work a w rest hgap hq =>
    by_cases hw : w = .discovery
    · subst hw
      have htake : Journal.Grows (Obs.From s (.work a)) s.journal
          (s.take .discovery rest).journal := (Journal.Grows.refl _ _).snoc trivial
      refine htake.trans ?_
      rcases Surveys.discoveryWorkCb (s.take .discovery rest) a with
        hsame | ⟨c, hc, hlive, hstage, hsurveys⟩
      · show Journal.Grows _ _ ((s.take .discovery rest).discoveryWorkCb a).journal
        rw [hsame]
        exact Journal.Grows.refl _ _
      · have hinquires : s.Inquires (.work a) c := ⟨hc, hlive, hstage, a, rest, rfl, hq⟩
        refine hsurveys.mono fun o ho => ?_
        cases o with
        | gatt | command =>
          obtain rfl := ho
          exact hinquires
        | save | registered => exact ⟨c, ho, hinquires⟩
        | _ => exact ho.elim
    · exact hplain (plain_run maxPaired rest hw a)
  | connectBegin =>
    exact hplain ((Plain.take .connect _).connectWorkBegin maxPaired _)
  | connectEnd => exact hplain (hrefl.connectWorkEnd _)
  | expire => exact hplain hrefl
  | connected c err => exact hplain (hrefl.connectedCb c err)
  | disconnected c => exact hplain (hrefl.disconnectedCb c)
  | connectionChanged answer => exact hplain (hrefl.connectionChanged answer)
  | securityChanged c level err => exact hplain (hrefl.securityCb c level err)
  | pairingComplete c bonded => exact hplain (hrefl.pairingCompleteCb c bonded)
  | pairingFailed c => exact hplain (hrefl.pairingFailedCb c)
  | discovered c type start stop attr =>
    exact finished_grows (.discovered c type start stop attr) trivial
      (Sequential.journal_discoverCb s c attr) _ _ _ _
  | readDone c handle err data =>
    exact finished_grows (.readDone c handle err data) trivial
      (Sequential.journal_readCb s c err data) _ _ _ _
  | written c handle value err =>
    exact finished_grows (.written c handle value err) trivial
      (Sequential.journal_writtenCb s c err) _ _ _ _
  | subscribed c i value ccc err =>
    exact finished_grows (.subscribed c i value ccc err) trivial
      (Sequential.journal_subscribedCb s c err i) _ _ _ _
  | notified c i data => exact notifyCb_grows s c i data
  | advertisement addr type data now =>
    exact hplain (hrefl.zmkBleMouseAdvertisement addr type data now)
  | pair => exact hplain hrefl.zmkBleMousePair
  | clearHold pressed => exact hplain (hrefl.zmkBleMouseClearHold pressed)
  | settings name length contents result =>
    exact hplain ((hrefl.observe (.load name length contents result) trivial).settingsSet name
      length contents result)
  | start => exact hplain hrefl.zmkBleMouseStart

end BleMouse.Client
