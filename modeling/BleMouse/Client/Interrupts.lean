/-
Items of work that advertisements interrupt.

The items are written here as programs of atomic actions, between which any number of
advertisements may arrive on the receive thread.  An advertisement changes something only while
scanning is wanted; an item that runs while it is not, or that makes one access only, is one
action.  Without advertisements each item does what `State.run` says (`alone_body`).
-/
import BleMouse.Client.Handover
import BleMouse.Lib.Interrupt

namespace BleMouse.Client

open Prog

/-- An advertisement, with the time of its arrival. -/
structure Advertisement where
  addr : Addr
  type : AdvType
  data : List BtData
  now : BitVec 32
deriving DecidableEq, Repr

/-- An advertisement arrives. -/
def State.hear (s : State) (adv : Advertisement) : State :=
  (s.zmkBleMouseAdvertisement adv.addr adv.type adv.data adv.now).1

/-- An item of work, or a part of one. -/
abbrev Item := Prog State

namespace Item

/-- `stop_own_scan` -/
def stopOwnScan (answer : ℤ) : Item ℤ := do
  let before ← exchange fun s => { s with scanOwned := false }
  if ¬before.scanOwned then pure 0
  else
    modify (·.observe (.scanStop answer))
    if answer ≠ 0 ∧ answer ≠ -eAlready then
      modify fun s => { s with scanOwned := true }
      pure answer
    else pure 0

/-- `split_ready` -/
def splitReady (transports : List TransportStatus) : Item Bool := do
  let s ← look
  pure (s.splitReady transports)

/-- `needed && split_ready()` -/
def neededAndReady (needed : Bool) (transports : List TransportStatus) : Item Bool :=
  if needed then splitReady transports else pure false

/-- `scan_work_cb` -/
def scanWorkCb (a : Answers) : Item Unit := do
  let s ← look
  if s.connecting then pure ()
  else
    let s ← look
    let needed := s.scanWanted
    let ready ← neededAndReady needed a.splitBefore
    if !ready then
      let _ ← stopOwnScan a.scanStop
      onlyIf needed (modify (·.schedule .scan 1000))
    else
      let s ← look
      if s.scanOwned then pure ()
      else
        modify (·.observe (.scanStart a.scanStart))
        if a.scanStart ≠ 0 then modify (·.schedule .scan 1000)
        else
          modify fun s => { s with scanOwned := true }
          let ready ← splitReady a.splitAfter
          if !ready then
            let _ ← stopOwnScan a.scanStop
            modify (·.schedule .scan 1000)
          else pure ()

/-- `zmk_ble_central_connect` on the worker -/
def centralConnect (addr : Addr) : Item Unit := do
  let before ← exchange fun s => if s.initialized then { s with connecting := true } else s
  if !before.initialized || before.connecting then pure ()
  else
    modify fun s => { s with pendingAddress := addr }
    modify fun s => (s.observe (.accepted addr)).submit .connect

/-- `retry_work_cb` -/
def retryWorkCb : Item Unit := do
  let s ← look
  let wanted := s.mouseConn.isNone && (s.havePeer || s.pairing)
  let wanted := wanted && !(s.havePeer && !s.isBonded s.peer)
  modify fun s => { s with scanWanted := wanted }
  let s ← look
  onlyIf (wanted && s.havePeer) (centralConnect s.peer)
  modify State.scanRefresh

/-- `pair_timeout_cb` -/
def pairTimeoutCb : Item Unit := do
  modify fun s => { s with pairing := false }
  modify fun s => if s.mouseConn.isSome && s.newCandidate && decide (s.stage ≠ .ready) then
    s.fail (-eTimedOut) else s
  retryWorkCb

/-- `pair_work_cb` -/
def pairWorkCb (maxPaired : ℕ) : Item Unit := do
  let s ← look
  if s.mouseConn.isSome then pure ()
  else if s.havePeer then
    modify fun s => { s with retryMs := 1000 }
    retryWorkCb
  else if maxPaired ≤ s.bondCount then pure ()
  else
    modify fun s => { s with pairing := true }
    modify fun s => { s with retryMs := 1000 }
    modify (·.schedule .pairTimeout 60000)
    retryWorkCb

/-- `clear_work_cb`; nothing is heard any more when `forget_peer` begins -/
def clearWorkCb (a : Answers) : Item Unit := do
  let s ← look
  if !s.clearHeld then pure ()
  else
    modify fun s => { s with pairing := false }
    modify fun s => { s with scanWanted := false }
    modify fun s => { s with forgetRequested := true }
    modify fun s => if s.mouseConn.isSome then s.fail (-eCanceled) else s.forgetPeer a

/-- `failure_work_cb` -/
def failureWorkCb (a : Answers) : Item Unit := do
  modify fun s => { s with stage := .closing }
  modify fun s => { s with scanWanted := false }
  modify fun s => match s.mouseConn with
    | some c =>
      let s := s.observe (.disconnect c a.disconnect)
      if a.disconnect = -eNotConn then s.disconnectedWorkCb a else s
    | none => { s with stage := .idle, failure := 0 }.requestRetry

/-- `settle_work_cb` -/
def settleWorkCb : Item Unit := do
  modify fun s => { s with splitSettling := false }
  modify State.scanRefresh

/-- `connect_mouse`, whose argument points to `pending_address` -/
def connectMouse (maxPaired : ℕ) (a : Answers) : Item ℤ := do
  let s ← look
  if s.mouseConn.isSome || !s.scanWanted then pure (-eAlready)
  else
    let s ← look
    let known := s.havePeer
    if (known && decide (s.pendingAddress ≠ s.peer)) || (!known && !s.pairing) then
      pure (-eCanceled)
    else
      let s ← look
      if !known && s.isBonded s.pendingAddress then pure (-eAlready)
      else if !known && decide (maxPaired ≤ s.bondCount) then
        modify fun s => { s with pairing := false }
        modify fun s => { s with scanWanted := false }
        pure (-eNoMem)
      else
        modify fun s => { s with
          session := {}, newCandidate := !known, candidateBonded := false, failure := 0 }
        modify fun s => { s with scanWanted := false }
        modify fun s => { s with connectingAddress := s.pendingAddress }
        modify fun s => { s with stage := .connecting }
        if a.autoConn ≠ 0 then
          modify fun s => { s with stage := .idle }.requestRetry
          pure a.autoConn
        else
          modify fun s => s.observe (.attempt s.pendingAddress !known)
          modify fun s =>
            { s with mouseConn := a.lookup }.observe (.lookup s.pendingAddress a.lookup)
          if a.lookup.isNone then
            modify fun s => s.observe (.autoConnOff s.pendingAddress)
            modify fun s => { s with stage := .idle }.requestRetry
            pure (-eNotConn)
          else
            modify (·.schedule .timeout 20000)
            pure 0

/-- `connect_work_cb` until it gives the slot back -/
def serveRequest (maxPaired : ℕ) (a : Answers) : Item ℤ := do
  let err ← stopOwnScan a.scanStop
  if err ≠ 0 then pure err
  else
    modify fun s => s.observe (.connect s.pendingAddress)
    connectMouse maxPaired a

/-- `connect_work_cb` -/
def connectWorkCb (maxPaired : ℕ) (a : Answers) : Item Unit := do
  let err ← serveRequest maxPaired a
  modify fun s => { s with connecting := false }
  onlyIf (decide (err ≠ 0)) (modify (·.schedule .scan 1000))

/-- The body of an item of work. -/
def body (maxPaired : ℕ) (w : Work) (a : Answers) : Item Unit :=
  match w with
  | .retry => retryWorkCb
  | .pairTimeout => pairTimeoutCb
  | .pair => pairWorkCb maxPaired
  | .clear => clearWorkCb a
  | .failure => failureWorkCb a
  | .scan => scanWorkCb a
  | .connect => connectWorkCb maxPaired a
  | .settle => settleWorkCb
  -- these begin with `mouse_conn`, and without it they end
  | .discovery => modify (·.discoveryWorkCb a)
  | .timeout => modify State.timeoutWorkCb
  | .connected => modify (·.connectedWorkCb a)
  | .disconnected => modify (·.disconnectedWorkCb a)
  | .output => pure ()

/-! ### Without advertisements -/

variable (maxPaired : ℕ) (s : State) (a : Answers)

lemma alone_stopOwnScan (answer : ℤ) :
    (stopOwnScan answer).alone s = ((s.stopOwnScan answer).2, (s.stopOwnScan answer).1) := by
  unfold stopOwnScan State.stopOwnScan
  cases howned : s.scanOwned
  · have heq : { s with scanOwned := false } = s := by rw [← howned]
    simp [howned, heq]
  · by_cases hfails : answer ≠ 0 ∧ answer ≠ -eAlready
    · simp [howned, hfails]
    · simp [howned, hfails]

lemma alone_stopOwnScan_bind (answer : ℤ) {α : Type} (g : ℤ → Item α) :
    (stopOwnScan answer >>= g).alone s =
      (g (s.stopOwnScan answer).2).alone (s.stopOwnScan answer).1 :=
  alone_bind_of (alone_stopOwnScan s answer) g

lemma alone_splitReady_bind (transports : List TransportStatus) {α : Type} (g : Bool → Item α) :
    (splitReady transports >>= g).alone s = (g (s.splitReady transports)).alone s := rfl

lemma alone_neededAndReady_bind (needed : Bool) (transports : List TransportStatus) {α : Type}
    (g : Bool → Item α) : (neededAndReady needed transports >>= g).alone s =
      (g (needed && s.splitReady transports)).alone s := by
  cases needed <;> rfl

lemma alone_scanWorkCb : (scanWorkCb a).alone s = ((), s.scanWorkCb a) := by
  unfold scanWorkCb State.scanWorkCb
  by_cases hconnecting : s.connecting = true
  · simp [hconnecting]
  cases hwanted : s.scanWanted
  · simp [hconnecting, hwanted, alone_stopOwnScan_bind, alone_neededAndReady_bind]
  by_cases hready : s.splitReady a.splitBefore = true
  case neg => simp [hconnecting, hwanted, hready, alone_stopOwnScan_bind, alone_neededAndReady_bind]
  by_cases howned : s.scanOwned = true
  · simp [hconnecting, hwanted, hready, howned, alone_neededAndReady_bind]
  by_cases hstart : a.scanStart = 0
  case neg => simp [hconnecting, hwanted, hready, howned, hstart, alone_neededAndReady_bind]
  simp only [alone_look_bind, alone_ite, alone_modify_bind, alone_stopOwnScan_bind,
    alone_splitReady_bind, alone_neededAndReady_bind, hconnecting, hwanted, hready, howned, hstart,
    if_true, Bool.false_eq_true, if_false, Bool.not_true, Bool.or_false, Bool.and_true, ne_eq,
    not_true_eq_false]
  generalize { s.observe (.scanStart 0) with scanOwned := true } = t
  split_ifs <;> rfl

lemma alone_centralConnect (addr : Addr) :
    (centralConnect addr).alone s = ((), s.centralConnect addr) := by
  unfold centralConnect State.centralConnect
  cases hinit : s.initialized
  · simp [hinit]
  · cases hconnecting : s.connecting
    · simp [hinit, hconnecting]
    · simp only [alone_exchange_bind, alone_pure, hinit, hconnecting, if_true, Bool.not_true,
        Bool.false_or]
      cases s
      cases hinit
      cases hconnecting
      rfl

lemma alone_retryWorkCb : retryWorkCb.alone s = ((), s.retryWorkCb) := by
  unfold retryWorkCb State.retryWorkCb
  simp only [alone_look_bind, alone_modify_bind, alone_modify, alone_onlyIf_bind,
    alone_centralConnect]

lemma alone_pairTimeoutCb : pairTimeoutCb.alone s = ((), s.pairTimeoutCb) := by
  unfold pairTimeoutCb State.pairTimeoutCb
  simp only [alone_modify_bind, alone_retryWorkCb]

lemma alone_pairWorkCb : (pairWorkCb maxPaired).alone s = ((), s.pairWorkCb maxPaired) := by
  unfold pairWorkCb State.pairWorkCb
  simp only [alone_look_bind, alone_ite, alone_pure, alone_modify_bind, alone_retryWorkCb]
  split_ifs <;> rfl

lemma alone_clearWorkCb : (clearWorkCb a).alone s = ((), s.clearWorkCb a) := by
  unfold clearWorkCb State.clearWorkCb
  simp only [alone_look_bind, alone_ite, alone_pure, alone_modify_bind, alone_modify]
  split_ifs <;> rfl

lemma alone_failureWorkCb : (failureWorkCb a).alone s = ((), s.failureWorkCb a) := by
  unfold failureWorkCb State.failureWorkCb
  cases hconn : s.mouseConn with
  | none => simp only [alone_modify_bind, alone_modify, hconn]
  | some c => simp only [alone_modify_bind, alone_modify, hconn]

end Item

/-- `connect_mouse`, whose argument points to `pending_address`, as a whole -/
def State.callConnect (maxPaired : ℕ) (s : State) (a : Answers) : State × ℤ :=
  let (s, err) := s.connectMouse maxPaired s.pendingAddress a
  if s.inConnect then s.connectMouseLookup s.pendingAddress a else (s, err)

/-- `connect_work_cb` until it gives the slot back, as a whole -/
def State.serveRequest (maxPaired : ℕ) (s : State) (a : Answers) : State × ℤ :=
  let (s, err) := s.stopOwnScan a.scanStop
  if err ≠ 0 then (s, err) else (s.observe (.connect s.pendingAddress)).callConnect maxPaired a

lemma State.connectWorkCb_eq (maxPaired : ℕ) {s : State} (hgap : s.inConnect = false)
    (a : Answers) :
    s.connectWorkCb maxPaired a =
      (s.serveRequest maxPaired a).1.connectReturned (s.serveRequest maxPaired a).2 := by
  obtain ⟨scanOwned, journal, heq⟩ := s.stopOwnScan_eq a.scanStop
  have hreturned (t : State) (err : ℤ) : (t.connectReturned err).inConnect = t.inConnect :=
    ((Background.refl t).connectReturned err).inConnect
  -- the two forms give up the slot once, at the end or before it
  have hcall (t : State) (addr : Addr) (haddr : t.pendingAddress = addr) :
      (if (if (t.connectMouse maxPaired addr a).1.inConnect then (t.connectMouse maxPaired addr a).1
          else (t.connectMouse maxPaired addr a).1.connectReturned
            (t.connectMouse maxPaired addr a).2).inConnect
        then State.connectWorkEnd (if (t.connectMouse maxPaired addr a).1.inConnect then
            (t.connectMouse maxPaired addr a).1
          else (t.connectMouse maxPaired addr a).1.connectReturned
            (t.connectMouse maxPaired addr a).2) a
        else if (t.connectMouse maxPaired addr a).1.inConnect then
          (t.connectMouse maxPaired addr a).1
        else (t.connectMouse maxPaired addr a).1.connectReturned
          (t.connectMouse maxPaired addr a).2) =
        (t.callConnect maxPaired a).1.connectReturned (t.callConnect maxPaired a).2 := by
    subst haddr
    unfold State.callConnect
    by_cases hin : (t.connectMouse maxPaired t.pendingAddress a).1.inConnect = true
    · simp only [if_pos hin]
      rfl
    · simp only [if_neg hin, hreturned]
  unfold State.connectWorkCb State.connectWorkBegin State.serveRequest
  dsimp only
  by_cases herr : (s.stopOwnScan a.scanStop).2 ≠ 0
  · rw [if_pos herr, if_pos herr, if_neg]
    rw [hreturned, heq]
    exact fun hin => Bool.false_ne_true (hgap.symm.trans hin)
  · rw [if_neg herr, if_neg herr]
    exact hcall _ _ rfl

namespace Item

variable (maxPaired : ℕ) {s : State} (a : Answers)

lemma alone_connectMouse (hgap : s.inConnect = false) :
    (connectMouse maxPaired a).alone s =
      ((s.callConnect maxPaired a).2, (s.callConnect maxPaired a).1) := by
  have hstay (t : State) (err : ℤ) (ht : t.inConnect = false) :
      (if t.inConnect then t.connectMouseLookup t.pendingAddress a else (t, err)) = (t, err) :=
    if_neg (by rw [ht]; exact Bool.false_ne_true)
  unfold connectMouse State.callConnect State.connectMouse
  simp only [alone_look_bind, alone_ite, alone_pure, alone_modify_bind]
  by_cases hbusy : (s.mouseConn.isSome || !s.scanWanted) = true
  · simp only [if_pos hbusy, hstay _ _ hgap]
  simp only [if_neg hbusy]
  by_cases hother : (s.havePeer && decide (s.pendingAddress ≠ s.peer) ||
      !s.havePeer && !s.pairing) = true
  · simp only [if_pos hother, hstay _ _ hgap]
  simp only [if_neg hother]
  by_cases hbonded : (!s.havePeer && s.isBonded s.pendingAddress) = true
  · simp only [if_pos hbonded, hstay _ _ hgap]
  simp only [if_neg hbonded]
  by_cases hfull : (!s.havePeer && decide (maxPaired ≤ s.bondCount)) = true
  · simp only [if_pos hfull]
    exact congrArg Prod.swap (hstay { s with pairing := false, scanWanted := false } _ hgap).symm
  simp only [if_neg hfull]
  by_cases hauto : a.autoConn ≠ 0
  · have hretry (t : State) (ht : t.inConnect = false) : t.requestRetry.inConnect = false :=
      (Aside.refl t).requestRetry.inConnect.trans ht
    simp only [if_pos hauto]
    exact congrArg Prod.swap (hstay (State.requestRetry { s with
      session := {}, newCandidate := !s.havePeer, candidateBonded := false, failure := 0,
      scanWanted := false, connectingAddress := s.pendingAddress, stage := .idle }) _
      (hretry _ hgap)).symm
  · simp only [if_neg hauto]
    cases s
    cases hgap
    unfold State.connectMouseLookup
    cases a.lookup <;> rfl

lemma alone_serveRequest (hgap : s.inConnect = false) :
    (serveRequest maxPaired a).alone s =
      ((s.serveRequest maxPaired a).2, (s.serveRequest maxPaired a).1) := by
  obtain ⟨scanOwned, journal, heq⟩ := s.stopOwnScan_eq a.scanStop
  unfold serveRequest State.serveRequest
  rw [alone_stopOwnScan_bind]
  by_cases herr : (s.stopOwnScan a.scanStop).2 ≠ 0
  · simp only [if_pos herr, alone_pure]
  · have hstopped : (s.stopOwnScan a.scanStop).1.inConnect = false := by rwa [heq]
    simp only [if_neg herr, alone_modify_bind]
    exact alone_connectMouse maxPaired a hstopped

lemma alone_connectWorkCb (hgap : s.inConnect = false) :
    (connectWorkCb maxPaired a).alone s = ((), s.connectWorkCb maxPaired a) := by
  unfold connectWorkCb
  rw [alone_bind_of (alone_serveRequest maxPaired a hgap), State.connectWorkCb_eq maxPaired hgap]
  simp only [alone_modify_bind, alone_onlyIf, alone_modify, decide_eq_true_eq]
  rfl

/-- Without advertisements an item does what `State.run` says. -/
theorem alone_body (hgap : s.inConnect = false) (w : Work) :
    (body maxPaired w a).alone s = ((), s.run maxPaired w a) := by
  cases w with
  | retry => exact alone_retryWorkCb s
  | pairTimeout => exact alone_pairTimeoutCb s
  | pair => exact alone_pairWorkCb maxPaired s
  | clear => exact alone_clearWorkCb s a
  | failure => exact alone_failureWorkCb s a
  | scan => exact alone_scanWorkCb s a
  | connect => exact alone_connectWorkCb maxPaired a hgap
  | _ => rfl

end Item

end BleMouse.Client
