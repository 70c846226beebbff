/-
What waits in the queue goes on waiting.

Nothing that the client does in the course of an attempt takes an item of the attempt out of the
queue or puts another item in front of it, so the worker comes to it.

* `Retains`: an item that waits keeps its place, with one lemma for each function of the client;
* `ahead_lt_of_run`: the worker comes nearer to what waits behind the item that it runs.
-/
import BleMouse.Client.Watchdog
import BleMouse.Lib.Fifo

namespace BleMouse.Client

open BleMouse.Hid BleMouse.Output

/-- An item that waits goes on waiting, with no more items in front of it. -/
def Retains (w : Work) (s s' : State) : Prop := s.work.Retains w s'.work

/-- The attempt is over, or the mouse is ready. -/
def State.Resolved (s : State) : Prop := s.mouseConn = none ∨ s.stage = .ready

namespace Retains

variable {w : Work} {s s' s'' : State}

/-! ### Parts -/

lemma refl (w : Work) (s : State) : Retains w s s := WorkQueue.Retains.refl w s.work

lemma trans (h : Retains w s s') (h' : Retains w s' s'') : Retains w s s'' :=
  WorkQueue.Retains.trans h h'

lemma observe (h : Retains w s s') (o : Obs) : Retains w s (s'.observe o) := h

lemma submit (h : Retains w s s') (v : Work) : Retains w s (s'.submit v) := by
  unfold Retains State.submit
  dsimp only
  split
  · exact WorkQueue.Retains.submit h v
  · exact h

lemma schedule (h : Retains w s s') (v : Work) (delay : ℕ) : Retains w s (s'.schedule v delay) := by
  unfold Retains State.schedule
  dsimp only
  split
  · exact WorkQueue.Retains.reschedule h v delay
  · exact h

lemma cancel (h : Retains w s s') {v : Work} (hne : w ≠ v) : Retains w s (s'.cancel v) :=
  WorkQueue.Retains.cancel h hne

lemma fail (h : Retains w s s') (err : ℤ) : Retains w s (s'.fail err) := by
  have hfailed : Retains w s { s' with
    failure := if s'.failure ≠ 0 then s'.failure else if err ≠ 0 then err else -eIo } := h
  exact hfailed.submit .failure

lemma nextStage (h : Retains w s s') (next : Stage) : Retains w s (s'.nextStage next) := by
  have hmoved : Retains w s { s' with stage := next } := h
  exact hmoved.submit .discovery

lemma finished (h : Retains w s s') (continues : Bool) (c : Conn) (r : Request) (err : ℕ) :
    Retains w s (s'.finished continues c r err) := by
  unfold State.finished
  split
  · exact h
  · exact h.observe _

/-! ### Scanning -/

lemma scanRefresh (h : Retains w s s') : Retains w s s'.scanRefresh := h.schedule .scan 0

lemma stopOwnScan (h : Retains w s s') (answer : ℤ) : Retains w s (s'.stopOwnScan answer).1 := by
  unfold State.stopOwnScan
  split
  · exact h
  · dsimp only
    split <;> exact h

lemma scanWorkCb (h : Retains w s s') (a : Answers) : Retains w s (s'.scanWorkCb a) := by
  have hstarted : Retains w s { s'.observe (.scanStart a.scanStart) with scanOwned := true } := h
  unfold State.scanWorkCb
  dsimp only
  split_ifs
  · exact h
  · exact (h.stopOwnScan _).schedule .scan _
  · exact h.stopOwnScan _
  · exact h
  · exact (h.observe _).schedule .scan _
  · exact (hstarted.stopOwnScan _).schedule .scan _
  · exact hstarted

lemma centralConnect (h : Retains w s s') (addr : Addr) :
    Retains w s (s'.centralConnect addr) := by
  have haccepted : Retains w s (({ s' with connecting := true, pendingAddress := addr } :
    State).observe (.accepted addr)) := h
  unfold State.centralConnect
  split
  · exact h
  · exact haccepted.submit .connect

lemma settleWorkCb (h : Retains w s s') : Retains w s s'.settleWorkCb := by
  have hsettled : Retains w s { s' with splitSettling := false } := h
  exact hsettled.scanRefresh

lemma connectionChanged (h : Retains w s s') (answer : ℤ) :
    Retains w s (s'.connectionChanged answer) := by
  have hsettling : Retains w s { s' with splitSettling := true } := h
  exact (hsettling.stopOwnScan answer).schedule .settle _

lemma retryWorkCb (h : Retains w s s') : Retains w s s'.retryWorkCb := by
  unfold State.retryWorkCb
  dsimp only
  split
  · refine (Retains.centralConnect ?_ _).scanRefresh
    exact h
  · refine Retains.scanRefresh ?_
    exact h

/-! ### Timers and keys -/

lemma timeoutWorkCb (h : Retains w s s') : Retains w s s'.timeoutWorkCb := by
  unfold State.timeoutWorkCb
  split
  · exact h.fail _
  · exact h

lemma pairTimeoutCb (h : Retains w s s') : Retains w s s'.pairTimeoutCb := by
  have hclosed : Retains w s { s' with pairing := false } := h
  unfold State.pairTimeoutCb
  dsimp only
  split
  · exact (hclosed.fail _).retryWorkCb
  · exact hclosed.retryWorkCb

lemma pairWorkCb (maxPaired : ℕ) (h : Retains w s s') :
    Retains w s (s'.pairWorkCb maxPaired) := by
  have hrenewed : Retains w s { s' with retryMs := 1000 } := h
  have hopen : Retains w s { s' with pairing := true, retryMs := 1000 } := h
  unfold State.pairWorkCb
  split_ifs
  · exact h
  · exact hrenewed.retryWorkCb
  · exact h
  · exact (hopen.schedule .pairTimeout _).retryWorkCb

/-- While there is a connection, the Clear key fails the attempt. -/
lemma clearWorkCb (h : Retains w s s') (hconn : s'.mouseConn ≠ none) (a : Answers) :
    Retains w s (s'.clearWorkCb a) := by
  have hrequested : Retains w s { s' with
    pairing := false, scanWanted := false, forgetRequested := true } := h
  unfold State.clearWorkCb
  split
  · exact h
  · dsimp only
    rw [if_pos (Option.isSome_iff_ne_none.2 hconn)]
    exact hrequested.fail _

lemma zmkBleMousePair (h : Retains w s s') : Retains w s s'.zmkBleMousePair := by
  unfold State.zmkBleMousePair
  split
  · exact h
  · exact h.submit .pair

lemma zmkBleMouseClearHold (h : Retains w s s') (hw : w ≠ .clear) (pressed : Bool) :
    Retains w s (s'.zmkBleMouseClearHold pressed) := by
  have hheld : Retains w s { s' with clearHeld := pressed } := h
  unfold State.zmkBleMouseClearHold
  dsimp only
  split
  · exact hheld.schedule .clear _
  · exact hheld.cancel hw

lemma zmkBleMouseAdvertisement (h : Retains w s s') (addr : Addr) (type : AdvType)
    (data : List BtData) (now : BitVec 32) :
    Retains w s (s'.zmkBleMouseAdvertisement addr type data now).1 := by
  have hnoted (advertisers : List Advertiser) : Retains w s { s' with advertisers } := h
  unfold State.zmkBleMouseAdvertisement
  dsimp only
  split_ifs
  · exact h
  · exact h
  · exact h.centralConnect addr
  · exact h
  · exact h
  · exact (hnoted _).centralConnect addr
  · exact h

/-! ### Discovery -/

lemma startRequest (h : Retains w s s') (c : Conn) (r : Request) (answer : ℤ) :
    Retains w s (s'.startRequest c r answer) := by
  unfold State.startRequest
  dsimp only
  split
  · exact (h.observe _).fail _
  · exact h.observe _

lemma readNextReference (h : Retains w s s') (c : Conn) (a : Answers) :
    Retains w s (s'.readNextReference c a) := by
  have hset (session : Session) : Retains w s { s' with session } := h
  unfold State.readNextReference
  dsimp only
  split
  · exact (hset _).nextStage _
  · exact (hset _).startRequest c _ _

lemma readReferences (h : Retains w s s') (c : Conn) (a : Answers) :
    Retains w s (s'.readReferences c a) := by
  have hset (session : Session) : Retains w s { s' with session } := h
  unfold State.readReferences
  split
  · split
    · exact h.fail _
    · dsimp only
      split
      · exact (hset _).fail _
      · exact (hset _).readNextReference c a
  · exact h.readNextReference c a

lemma setProtocol (h : Retains w s s') (c : Conn) (a : Answers) :
    Retains w s (s'.setProtocol c a) := by
  unfold State.setProtocol
  split
  · exact h.nextStage _
  · split
    · dsimp only
      split
      · exact (h.observe _).fail _
      · exact (h.observe _).nextStage _
    · exact h.startRequest c _ _

lemma selectProtocol (h : Retains w s s') (c : Conn) (a : Answers) :
    Retains w s (s'.selectProtocol c a) := by
  have hset : Retains w s { s' with session := { s'.session with protocol := 1 } } := h
  unfold State.selectProtocol
  dsimp only
  split
  · split
    · exact (hset.observe _).fail _
    · exact (hset.observe _).setProtocol c a
  · exact hset.setProtocol c a

/-- The client is ready, or the attempt fails. -/
lemma finishReady (h : Retains w s s') (c : Conn) (a : Answers)
    (hopen : (s'.finishReady c a).stage ≠ .ready) : Retains w s (s'.finishReady c a) := by
  unfold State.finishReady at hopen ⊢
  dsimp only at hopen ⊢
  split_ifs at hopen ⊢
  · exact h.fail _
  · exact h.fail _
  · exact (h.observe _).fail _
  · exact absurd rfl hopen
  · exact absurd rfl hopen

lemma subscribeNext (h : Retains w s s') (c : Conn) (a : Answers)
    (hopen : (s'.subscribeNext c a).stage ≠ .ready) : Retains w s (s'.subscribeNext c a) := by
  have hset (session : Session) : Retains w s { s' with session } := h
  unfold State.subscribeNext at hopen ⊢
  dsimp only at hopen ⊢
  split at hopen
  · split
    · exact (hset _).fail _
    · exact (hset _).startRequest c _ _
  · split at hopen
    · rename_i hend
      rw [if_pos hend]
      exact (hset _).finishReady c a hopen
    · rename_i hend
      rw [if_neg hend]
      exact hset _

lemma discoveryWorkCb (h : Retains w s s') (a : Answers)
    (hopen : (s'.discoveryWorkCb a).stage ≠ .ready) : Retains w s (s'.discoveryWorkCb a) := by
  unfold State.discoveryWorkCb at hopen ⊢
  split
  case h_1 => exact h
  case h_2 c hc =>
    rw [hc] at hopen
    dsimp only at hopen
    split
    case isTrue => exact h
    case isFalse hlive =>
      rw [if_neg hlive] at hopen
      split
      case h_5 => exact h.readReferences c a
      case h_6 => exact h.selectProtocol c a
      case h_7 hstage =>
        rw [hstage] at hopen
        exact h.subscribeNext c a hopen
      case h_8 => exact h
      all_goals exact h.startRequest c _ _

/-! ### Callbacks -/

lemma discoverEnd (h : Retains w s s') : Retains w s s'.discoverEnd := by
  unfold State.discoverEnd
  split
  · exact h.fail _
  · split
    · exact h.fail _
    · exact h.nextStage _
  · exact h.nextStage _
  · exact h.fail _

lemma discoverCharacteristic (h : Retains w s s') (attr : Attr) :
    Retains w s (s'.discoverCharacteristic attr).1 := by
  have hset (session : Session) : Retains w s { s' with session } := h
  unfold State.discoverCharacteristic
  dsimp only
  split
  · exact hset _
  · exact hset _
  · exact hset _
  · split
    · exact (hset _).fail _
    · exact hset _
  · exact hset _

lemma discoverCb (h : Retains w s s') (c : Conn) (attr : Option Attr) :
    Retains w s (s'.discoverCb c attr).1 := by
  have hset (session : Session) : Retains w s { s' with session } := h
  unfold State.discoverCb
  split
  · exact h
  · split
    · exact h.discoverEnd
    · split
      · exact (hset _).nextStage _
      · exact h.discoverCharacteristic _
      · exact hset _
      · exact h

lemma readReportMap (h : Retains w s s') (data : Option (List UInt8)) :
    Retains w s (s'.readReportMap data) := by
  have hset (session : Session) : Retains w s { s' with session } := h
  unfold State.readReportMap
  split
  · split
    · exact h.fail _
    · exact hset _
  · exact h.nextStage _

lemma readReference (h : Retains w s s') (data : Option (List UInt8)) :
    Retains w s (s'.readReference data) := by
  have hset (session : Session) : Retains w s { s' with session } := h
  unfold State.readReference
  split
  · split
    · exact h.fail _
    · exact hset _
  · split
    · exact (hset _).submit .discovery
    · exact h.fail _

lemma readCb (h : Retains w s s') (c : Conn) (err : ℕ) (data : Option (List UInt8)) :
    Retains w s (s'.readCb c err data).1 := by
  unfold State.readCb
  split
  · exact h
  · split
    · exact h.fail _
    · dsimp only
      split
      · exact h.readReportMap data
      · exact h.readReference data
      · exact h

lemma writtenCb (h : Retains w s s') (c : Conn) (err : ℕ) : Retains w s (s'.writtenCb c err) := by
  unfold State.writtenCb
  split_ifs
  · exact h
  · exact h.fail _
  · exact h.nextStage _

lemma subscribedCb (h : Retains w s s') (c : Conn) (err i : ℕ) :
    Retains w s (s'.subscribedCb c err i) := by
  have hset (session : Session) : Retains w s { s' with session } := h
  unfold State.subscribedCb
  dsimp only
  split_ifs
  · exact h
  · exact h.fail _
  · exact (hset _).submit .discovery

lemma notifyCb (h : Retains w s s') (c : Conn) (i : ℕ) (data : Option (List UInt8)) :
    Retains w s (s'.notifyCb c i data) := by
  have hset (session : Session) : Retains w s { s' with session } := h
  unfold State.notifyCb
  split
  · exact h
  · split
    · exact h.fail _
    · split
      · exact h
      · split
        · exact ((hset _).observe _).submit .output
        · exact h

lemma connectedCb (h : Retains w s s') (c : Conn) (err : ℕ) :
    Retains w s (s'.connectedCb c err) := by
  have hnoted : Retains w s (({ s' with connectedEventConn := some c, connectedError := err } :
    State).observe (.ref c)) := h
  unfold State.connectedCb
  split
  · exact hnoted.submit .connected
  · exact h

lemma disconnectedCb (h : Retains w s s') (c : Conn) : Retains w s (s'.disconnectedCb c) := by
  have hclosing : Retains w s { s' with stage := .closing, scanWanted := false } := h
  unfold State.disconnectedCb
  split
  · exact hclosing.submit .disconnected
  · exact h

lemma securityCb (h : Retains w s s') (c : Conn) (level err : ℕ) :
    Retains w s (s'.securityCb c level err) := by
  unfold State.securityCb
  split_ifs
  · exact h
  · exact h.fail _
  · exact h.nextStage _
  · exact h

lemma pairingCompleteCb (h : Retains w s s') (c : Conn) (bonded : Bool) :
    Retains w s (s'.pairingCompleteCb c bonded) := by
  have hnoted : Retains w s { s' with candidateBonded := bonded } := h
  unfold State.pairingCompleteCb
  dsimp only
  split_ifs
  · exact hnoted.fail _
  · exact hnoted
  · exact h

lemma pairingFailedCb (h : Retains w s s') (c : Conn) : Retains w s (s'.pairingFailedCb c) := by
  unfold State.pairingFailedCb
  split
  · exact h.fail _
  · exact h

lemma zmkBleMouseStart (h : Retains w s s') : Retains w s s'.zmkBleMouseStart := by
  have hstarted : Retains w s ({ s' with started := true } : State).centralScanInit := h
  unfold State.zmkBleMouseStart
  split
  · exact h
  · exact hstarted.schedule .retry 0

lemma settingsSet (h : Retains w s s') (name : String) (length : ℕ) (contents : Addr)
    (result : ℤ) : Retains w s (s'.settingsSet name length contents result).1 := by
  unfold State.settingsSet
  dsimp only
  split_ifs <;> exact h

/-! ### The ends of an attempt -/

/-- The completion of the connection, unless it ends the attempt. -/
lemma completeConnection (h : Retains w s s') (a : Answers)
    (hconn : (s'.completeConnection a).mouseConn ≠ none) :
    Retains w s (s'.completeConnection a) := by
  unfold State.completeConnection at hconn ⊢
  split
  case h_1 => exact h
  case h_2 c hc =>
    rw [hc] at hconn
    have hrefreshed : Retains w s (s'.observe (.autoConnOff c.dst)).scanRefresh :=
      (h.observe _).scanRefresh
    have hsecured (t : State) (ht : Retains w s t) : Retains w s (({ t with stage := .security } :
      State).observe (.setSecurity c a.setSecurity)) := ht
    dsimp only at hconn ⊢
    split
    case isTrue herr =>
      rw [if_pos herr, State.requestRetry_mouseConn, State.forgetIfRequested_mouseConn] at hconn
      exact absurd rfl hconn
    case isFalse =>
      split
      · exact hrefreshed.fail _
      · split
        · exact (hsecured _ hrefreshed).fail _
        · split
          · exact (hsecured _ hrefreshed).nextStage _
          · exact hsecured _ hrefreshed

lemma connectedWorkCb (h : Retains w s s') (a : Answers)
    (hconn : (s'.connectedWorkCb a).mouseConn ≠ none) : Retains w s (s'.connectedWorkCb a) := by
  have hreleased : Retains w s s'.releaseEvent := by
    unfold State.releaseEvent
    split <;> exact h
  exact hreleased.completeConnection a hconn

lemma failureWorkCb (h : Retains w s s') (hsome : s'.mouseConn ≠ none) (a : Answers)
    (hconn : (s'.failureWorkCb a).mouseConn ≠ none) : Retains w s (s'.failureWorkCb a) := by
  unfold State.failureWorkCb at hconn ⊢
  split
  case h_2 hnone => exact absurd hnone hsome
  case h_1 c hc =>
    rw [hc] at hconn
    dsimp only at hconn ⊢
    split
    case isTrue hgone =>
      rw [if_pos hgone] at hconn
      exact absurd (State.disconnectedWorkCb_mouseConn _ _) hconn
    case isFalse => exact h

/-! ### Steps -/

/-- The worker runs an item while there is a connection, and it is neither given up nor ready
afterwards. -/
lemma run (maxPaired : ℕ) (h : Retains w s s') (hconn : s'.mouseConn ≠ none) {v : Work}
    (hv : v ≠ .connect) (a : Answers) (hopen : ¬(s'.run maxPaired v a).Resolved) :
    Retains w s (s'.run maxPaired v a) := by
  rw [State.Resolved, not_or] at hopen
  cases v with
  | discovery => exact h.discoveryWorkCb a hopen.2
  | failure => exact h.failureWorkCb hconn a hopen.1
  | retry => exact h.retryWorkCb
  | timeout => exact h.timeoutWorkCb
  | pairTimeout => exact h.pairTimeoutCb
  | connected => exact h.connectedWorkCb a hopen.1
  | disconnected => exact absurd (State.disconnectedWorkCb_mouseConn _ _) hopen.1
  | pair => exact h.pairWorkCb maxPaired
  | clear => exact h.clearWorkCb hconn a
  | scan => exact h.scanWorkCb a
  | connect => exact absurd rfl hv
  | settle => exact h.settleWorkCb
  | output => exact h

/-- A step of another than the worker, while there is a connection. -/
lemma step {maxPaired : ℕ} {l : Label} (hs : Coherent s) (hconn : s.mouseConn ≠ none)
    (hstep : Step maxPaired s l s') (hl : ∀ a, l ≠ .work a) (hw : w ≠ .clear) :
    Retains w s s' := by
  have hrefl := refl w s
  cases hstep.moves with
  | work hgap hq => exact absurd rfl (hl _)
  | connectBegin hgap hq =>
    exact absurd (.inl hconn) (hs.connect (hq ▸ List.mem_cons_self)).1
  | connectEnd hin => exact absurd (hs.gap hin).1 hconn
  | expire => exact WorkQueue.Retains.submit (WorkQueue.Retains.of_queue rfl) _
  | connected c err => exact (hrefl.observe _).connectedCb c err
  | disconnected c => exact (hrefl.observe _).disconnectedCb c
  | connectionChanged answer => exact hrefl.connectionChanged answer
  | securityChanged c level err => exact hrefl.securityCb c level err
  | pairingComplete c bonded => exact (hrefl.observe _).pairingCompleteCb c bonded
  | pairingFailed c => exact hrefl.pairingFailedCb c
  | discovered c type start stop attr => exact (hrefl.discoverCb c attr).finished _ c _ _
  | readDone c handle err data => exact (hrefl.readCb c err data).finished _ c _ _
  | written c handle value err => exact (hrefl.writtenCb c err).finished _ c _ _
  | subscribed c i value ccc err => exact (hrefl.subscribedCb c err i).finished _ c _ _
  | notified c i data => exact hrefl.notifyCb c i data
  | advertisement addr type data now => exact hrefl.zmkBleMouseAdvertisement addr type data now
  | pair => exact hrefl.zmkBleMousePair
  | clearHold pressed => exact (hrefl.observe _).zmkBleMouseClearHold hw pressed
  | settings name length contents result =>
    exact (hrefl.observe _).settingsSet name length contents result
  | start => exact hrefl.zmkBleMouseStart

end Retains

/-- The worker comes nearer to what waits behind the item that it runs, unless this gives the
connection up or makes the mouse ready. -/
theorem ahead_lt_of_run {maxPaired : ℕ} {s : State} {v w : Work} {rest : List Work}
    (hs : Coherent s) (hconn : s.mouseConn ≠ none) (hq : s.work.queue = v :: rest) {a : Answers}
    (hopen : ¬((s.take v rest).run maxPaired v a).Resolved) (hne : w ≠ v)
    (hmem : w ∈ s.work.queue) :
    w ∈ ((s.take v rest).run maxPaired v a).work.queue ∧
      ((s.take v rest).run maxPaired v a).work.ahead w < s.work.ahead w := by
  have hv : v ≠ .connect := by
    rintro rfl
    exact (hs.connect (hq ▸ List.mem_cons_self)).1 (.inl hconn)
  have hrest : w ∈ (s.take v rest).work.queue := by
    rw [hq] at hmem
    exact (List.mem_cons.1 hmem).resolve_left hne
  obtain ⟨hmem', hle⟩ := (Retains.refl w (s.take v rest)).run maxPaired hconn hv a hopen hrest
  have htaken : (s.take v rest).work.ahead w + 1 = s.work.ahead w :=
    WorkQueue.ahead_take hq hne.symm rfl
  exact ⟨hmem', by omega⟩

/-- There are thirteen kinds of work, and each waits at most once. -/
lemma Coherent.length_queue_le {s : State} (hs : Coherent s) : s.work.queue.length ≤ 13 := by
  have hall : s.work.queue ⊆ [.discovery, .failure, .retry, .timeout, .pairTimeout, .connected,
      .disconnected, .pair, .clear, .scan, .connect, .settle, .output] := by
    intro w _
    cases w <;> decide
  exact (List.subperm_of_subset hs.nodup hall).length_le

end BleMouse.Client
