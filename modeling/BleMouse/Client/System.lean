/-
The client as a transition system.

A step is one item of work, one timer that expires, one callback of the host, or one call from
the rest of the firmware; `connect_work_cb` can also be run in two steps, with others between.
The steps come in any order.  What the host promises about them is `Host.Allows`.
-/
import BleMouse.Client.Gatt
import BleMouse.Lib.Transition

namespace BleMouse.Client

open BleMouse.Hid BleMouse.Output

/-! ### Advertisements -/

/-- The types of advertisements. -/
inductive AdvType
  | advInd
  | advDirectInd
  | advScanInd
  | advNonconnInd
  | scanRsp
deriving DecidableEq, Repr

/-- A data element of an advertisement, as `bt_data_parse` hands it over: its type and bytes. -/
abbrev BtData := ℕ × List UInt8

/-- `parse_ad`; the types are those of complete and shortened names -/
def parseAd (advertiser : Advertiser) (data : BtData) : Advertiser :=
  if (data.1 = 9 ∨ data.1 = 8) ∧ data.2.take 4 = [0x4d, 0x37, 0x32, 0x30] then
    { advertiser with m720 := true }
  else advertiser

/-- The entry of an address that is not too old. -/
def freshAdvertiser (advertisers : List Advertiser) (addr : Addr) (now : BitVec 32) : Option ℕ :=
  advertisers.findIdx? fun entry => decide (addr = entry.addr ∧ now - entry.seen < 2000)

/-- The entry that was not seen for the longest time. -/
def oldestAdvertiser (advertisers : List Advertiser) (now : BitVec 32) : ℕ :=
  let seen (i : ℕ) : BitVec 32 := (advertisers[i]?.map (·.seen)).getD 0
  (List.range advertisers.length).foldl
    (fun oldest i => if now - seen oldest < now - seen i then i else oldest) 0

/-- The entry an advertisement is noted in. -/
def advertiserSlot (advertisers : List Advertiser) (addr : Addr) (now : BitVec 32) : ℕ :=
  (freshAdvertiser advertisers addr now).getD (oldestAdvertiser advertisers now)

/-- What that entry holds afterwards. -/
def notedAdvertiser (advertisers : List Advertiser) (addr : Addr) (type : AdvType)
    (data : List BtData) (now : BitVec 32) : Advertiser :=
  let entry := match freshAdvertiser advertisers addr now with
    | some i => advertisers[i]?.getD {}
    | none => { addr }
  data.foldl parseAd { entry with
    seen := now, connectable := entry.connectable || decide (type = .advInd) }

namespace State

variable (maxPaired : ℕ) (s : State)

/-- `zmk_ble_mouse_advertisement`; `data` are the elements of the advertisement -/
def zmkBleMouseAdvertisement (addr : Addr) (type : AdvType) (data : List BtData)
    (now : BitVec 32) : State × Bool :=
  if !s.scanWanted then (s, false)
  else if s.havePeer then
    if addr ≠ s.peer then (s, false)
    else if type = .advInd ∨ type = .advDirectInd then (s.centralConnect addr, true)
    else (s, true)
  else if !s.pairing then (s, false)
  else
    let entry := notedAdvertiser s.advertisers addr type data now
    let advertisers := s.advertisers.set (advertiserSlot s.advertisers addr now) entry
    if entry.connectable && entry.m720 then ({ s with advertisers }.centralConnect addr, true)
    else ({ s with advertisers }, false)

/-! ### Steps -/

/-- The body of an item of work. -/
def run (w : Work) (a : Answers) : State :=
  match w with
  | .discovery => s.discoveryWorkCb a
  | .failure => s.failureWorkCb a
  | .retry => s.retryWorkCb
  | .timeout => s.timeoutWorkCb
  | .pairTimeout => s.pairTimeoutCb
  | .connected => s.connectedWorkCb a
  | .disconnected => s.disconnectedWorkCb a
  | .pair => s.pairWorkCb maxPaired
  | .clear => s.clearWorkCb a
  | .scan => s.scanWorkCb a
  | .connect => s.connectWorkCb maxPaired a
  | .settle => s.settleWorkCb
  -- the worker of `src/mouse_output.c` touches nothing of the client
  | .output => s

/-- The worker takes the first item off the queue. -/
def take (w : Work) (rest : List Work) : State :=
  { s with work := { s.work with queue := rest } }.observe (.ran w)

end State

/-- The steps. -/
inductive Label
  /-- Run the next item of the queue. -/
  | work (answers : Answers)
  /-- Run the next item, which is `connect_work`, up to the moment inside `connect_mouse`, -/
  | connectBegin (answers : Answers)
  /-- and the rest of it. -/
  | connectEnd (answers : Answers)
  | expire (w : Work)
  | connected (conn : Conn) (err : ℕ)
  | disconnected (conn : Conn)
  | connectionChanged (scanStop : ℤ)
  | securityChanged (conn : Conn) (level err : ℕ)
  | pairingComplete (conn : Conn) (bonded : Bool)
  | pairingFailed (conn : Conn)
  | discovered (conn : Conn) (type : DiscoverType) (start stop : Handle) (attr : Option Attr)
  | readDone (conn : Conn) (handle : Handle) (err : ℕ) (data : Option (List UInt8))
  | written (conn : Conn) (handle : Handle) (value err : ℕ)
  | subscribed (conn : Conn) (i : ℕ) (value ccc : Handle) (err : ℕ)
  | notified (conn : Conn) (i : ℕ) (data : Option (List UInt8))
  | advertisement (addr : Addr) (type : AdvType) (data : List BtData) (now : BitVec 32)
  | pair
  | clearHold (pressed : Bool)
  | settings (name : String) (length : ℕ) (contents : Addr) (result : ℤ)
  | start
deriving DecidableEq, Repr

namespace State

variable (maxPaired : ℕ) (s : State)

/-- A callback of a GATT procedure has returned; the procedure is over unless it continues. -/
def finished (continues : Bool) (conn : Conn) (request : Request) (err : ℕ) : State :=
  if continues then s else s.observe (.done conn request err)

/-- A step of the client; there is none when the worker cannot take it. -/
def step : Label → Option State
  | .work a =>
    if s.inConnect then none
    else match s.work.queue with
      | w :: rest => some ((s.take w rest).run maxPaired w a)
      | [] => none
  | .connectBegin a =>
    if s.inConnect then none
    else match s.work.queue with
      | .connect :: rest => some ((s.take .connect rest).connectWorkBegin maxPaired a)
      | _ => none
  | .connectEnd a => if s.inConnect then some (s.connectWorkEnd a) else none
  | .expire w => if w ∈ s.work.armed then some { s with work := s.work.expire w } else none
  | .connected c err => some ((s.observe (.connected c err)).connectedCb c err)
  | .disconnected c => some ((s.observe (.disconnected c)).disconnectedCb c)
  | .connectionChanged scanStop => some (s.connectionChanged scanStop)
  | .securityChanged c level err => some (s.securityCb c level err)
  | .pairingComplete c bonded =>
    some ((s.observe (.pairingComplete c bonded)).pairingCompleteCb c bonded)
  | .pairingFailed c => some (s.pairingFailedCb c)
  | .discovered c type start stop attr =>
    let (s, continues) := s.discoverCb c attr
    some (s.finished (continues && attr.isSome) c (.discover type start stop) 0)
  | .readDone c handle err data =>
    let (s, continues) := s.readCb c err data
    some (s.finished (continues && decide (err = 0) && data.isSome) c (.read handle) err)
  | .written c handle value err =>
    some ((s.writtenCb c err).finished false c (.write handle value) err)
  | .subscribed c i value ccc err =>
    some ((s.subscribedCb c err i).finished false c (.subscribe i value ccc) err)
  | .notified c i data => some (s.notifyCb c i data)
  | .advertisement addr type data now =>
    some (s.zmkBleMouseAdvertisement addr type data now).1
  | .pair => some s.zmkBleMousePair
  | .clearHold pressed => some ((s.observe (.clearKey pressed)).zmkBleMouseClearHold pressed)
  | .settings name length contents result =>
    some ((s.observe (.load name length contents result)).settingsSet name length contents result).1
  | .start => some s.zmkBleMouseStart

end State

/-! ### The host -/

namespace Host

/-- What the host promises about a step: a connection is looked up by its address; an attempt's
connection is completed only while auto-connect is enabled for it; a GATT callback belongs to
a procedure in progress; the settings are loaded before the start. -/
def Allows (s : State) : Label → Prop
  | .work a | .connectBegin a | .connectEnd a => ∀ c ∈ a.lookup, c.dst = s.pendingAddress
  | .connected c _ =>
    s.host.attempt.active → c.dst = s.host.attempt.addr → c.dst ∈ s.host.autoConn
  | .discovered c type start stop _ => (c, .discover type start stop) ∈ s.host.attempt.requests
  | .readDone c handle _ _ => (c, .read handle) ∈ s.host.attempt.requests
  | .written c handle value _ => (c, .write handle value) ∈ s.host.attempt.requests
  | .subscribed c i value ccc _ => (c, .subscribe i value ccc) ∈ s.host.attempt.requests
  | .settings .. => s.started = false
  | _ => True

instance (s : State) (l : Label) : Decidable (Allows s l) := by
  unfold Allows
  cases l <;> dsimp only <;> infer_instance

end Host

/-- The steps that the host allows. -/
def Step (maxPaired : ℕ) (s : State) (l : Label) (s' : State) : Prop :=
  Host.Allows s l ∧ s.step maxPaired l = some s'

/-- What a step does. -/
inductive Moves (maxPaired : ℕ) (s : State) : Label → State → Prop
  | work {a : Answers} {w : Work} {rest : List Work} (hgap : s.inConnect = false)
      (hq : s.work.queue = w :: rest) :
      Moves maxPaired s (.work a) ((s.take w rest).run maxPaired w a)
  | connectBegin {a : Answers} {rest : List Work} (hgap : s.inConnect = false)
      (hq : s.work.queue = .connect :: rest) :
      Moves maxPaired s (.connectBegin a) ((s.take .connect rest).connectWorkBegin maxPaired a)
  | connectEnd {a : Answers} (hin : s.inConnect = true) :
      Moves maxPaired s (.connectEnd a) (s.connectWorkEnd a)
  | expire {w : Work} (hw : w ∈ s.work.armed) :
      Moves maxPaired s (.expire w) { s with work := s.work.expire w }
  | connected (c : Conn) (err : ℕ) :
      Moves maxPaired s (.connected c err) ((s.observe (.connected c err)).connectedCb c err)
  | disconnected (c : Conn) :
      Moves maxPaired s (.disconnected c) ((s.observe (.disconnected c)).disconnectedCb c)
  | connectionChanged (scanStop : ℤ) :
      Moves maxPaired s (.connectionChanged scanStop) (s.connectionChanged scanStop)
  | securityChanged (c : Conn) (level err : ℕ) :
      Moves maxPaired s (.securityChanged c level err) (s.securityCb c level err)
  | pairingComplete (c : Conn) (bonded : Bool) :
      Moves maxPaired s (.pairingComplete c bonded)
        ((s.observe (.pairingComplete c bonded)).pairingCompleteCb c bonded)
  | pairingFailed (c : Conn) : Moves maxPaired s (.pairingFailed c) (s.pairingFailedCb c)
  | discovered (c : Conn) (type : DiscoverType) (start stop : Handle) (attr : Option Attr) :
      Moves maxPaired s (.discovered c type start stop attr)
        ((s.discoverCb c attr).1.finished ((s.discoverCb c attr).2 && attr.isSome) c
          (.discover type start stop) 0)
  | readDone (c : Conn) (handle : Handle) (err : ℕ) (data : Option (List UInt8)) :
      Moves maxPaired s (.readDone c handle err data)
        ((s.readCb c err data).1.finished
          ((s.readCb c err data).2 && decide (err = 0) && data.isSome) c (.read handle) err)
  | written (c : Conn) (handle : Handle) (value err : ℕ) :
      Moves maxPaired s (.written c handle value err)
        ((s.writtenCb c err).finished false c (.write handle value) err)
  | subscribed (c : Conn) (i : ℕ) (value ccc : Handle) (err : ℕ) :
      Moves maxPaired s (.subscribed c i value ccc err)
        ((s.subscribedCb c err i).finished false c (.subscribe i value ccc) err)
  | notified (c : Conn) (i : ℕ) (data : Option (List UInt8)) :
      Moves maxPaired s (.notified c i data) (s.notifyCb c i data)
  | advertisement (addr : Addr) (type : AdvType) (data : List BtData) (now : BitVec 32) :
      Moves maxPaired s (.advertisement addr type data now)
        (s.zmkBleMouseAdvertisement addr type data now).1
  | pair : Moves maxPaired s .pair s.zmkBleMousePair
  | clearHold (pressed : Bool) :
      Moves maxPaired s (.clearHold pressed)
        ((s.observe (.clearKey pressed)).zmkBleMouseClearHold pressed)
  | settings (name : String) (length : ℕ) (contents : Addr) (result : ℤ) :
      Moves maxPaired s (.settings name length contents result)
        ((s.observe (.load name length contents result)).settingsSet name length contents result).1
  | start : Moves maxPaired s .start s.zmkBleMouseStart

/-- The cases of a step. -/
lemma moves_of_step {maxPaired : ℕ} {s s' : State} {l : Label}
    (hstep : s.step maxPaired l = some s') : Moves maxPaired s l s' := by
  cases l with
  | work a =>
    simp only [State.step] at hstep
    split at hstep
    · cases hstep
    · rename_i hgap
      split at hstep
      · rename_i w rest hq
        cases hstep
        exact .work (Bool.eq_false_of_not_eq_true hgap) hq
      · cases hstep
  | connectBegin a =>
    simp only [State.step] at hstep
    split at hstep
    · cases hstep
    · rename_i hgap
      split at hstep
      · rename_i rest hq
        cases hstep
        exact .connectBegin (Bool.eq_false_of_not_eq_true hgap) hq
      · cases hstep
  | connectEnd a =>
    simp only [State.step] at hstep
    split at hstep
    · rename_i hin
      cases hstep
      exact .connectEnd hin
    · cases hstep
  | expire w =>
    simp only [State.step] at hstep
    split at hstep
    · rename_i hw
      cases hstep
      exact .expire hw
    · cases hstep
  | connected c err => cases hstep; exact .connected c err
  | disconnected c => cases hstep; exact .disconnected c
  | connectionChanged scanStop => cases hstep; exact .connectionChanged scanStop
  | securityChanged c level err => cases hstep; exact .securityChanged c level err
  | pairingComplete c bonded => cases hstep; exact .pairingComplete c bonded
  | pairingFailed c => cases hstep; exact .pairingFailed c
  | discovered c type start stop attr => cases hstep; exact .discovered c type start stop attr
  | readDone c handle err data => cases hstep; exact .readDone c handle err data
  | written c handle value err => cases hstep; exact .written c handle value err
  | subscribed c i value ccc err => cases hstep; exact .subscribed c i value ccc err
  | notified c i data => cases hstep; exact .notified c i data
  | advertisement addr type data now => cases hstep; exact .advertisement addr type data now
  | pair => cases hstep; exact .pair
  | clearHold pressed => cases hstep; exact .clearHold pressed
  | settings name length contents result =>
    cases hstep
    exact .settings name length contents result
  | start => cases hstep; exact .start

lemma Step.moves {maxPaired : ℕ} {s s' : State} {l : Label} (hstep : Step maxPaired s l s') :
    Moves maxPaired s l s' := moves_of_step hstep.2

/-- The runs of the client. -/
abbrev Run (maxPaired : ℕ) : State → List Label → State → Prop :=
  Transition.Run (Step maxPaired)

/-- The state after an allowed step. -/
def State.next (maxPaired : ℕ) (s : State) (l : Label) : Option State :=
  if Host.Allows s l then s.step maxPaired l else none

lemma step_of_next {maxPaired : ℕ} {s s' : State} {l : Label} (h : s.next maxPaired l = some s') :
    Step maxPaired s l s' := by
  unfold State.next at h
  split at h
  · exact ⟨‹_›, h⟩
  · cases h

/-- Allowed steps that can be computed lead to a state with a property. -/
lemma exists_run (maxPaired : ℕ) (s : State) (labels : List Label) (p : State → Bool)
    (h : (labels.foldlM (State.next maxPaired) s).any p = true) :
    ∃ s', Run maxPaired s labels s' ∧ p s' = true := by
  obtain ⟨s', hrun, hp⟩ := Transition.Run.exists_of_foldlM h
  exact ⟨s', hrun.mono fun _ _ _ => step_of_next, hp⟩

end BleMouse.Client
