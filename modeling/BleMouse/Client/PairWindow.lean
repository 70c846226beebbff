/-
The pairing window.

Pairing is allowed only while `pair_timeout` will end it: from the moment `pair_work_cb` allows
it, `pair_timeout` is armed or queued until pairing is no longer allowed.

* `Windowed`: the invariant;
* `Windowed.step`: every step preserves it.
-/
import BleMouse.Client.Handover

namespace BleMouse.Client

open BleMouse.Hid BleMouse.Output

/-- While pairing is allowed, `pair_timeout` is armed or queued. -/
def Windowed (s : State) : Prop := s.pairing = true → s.work.Pending .pairTimeout

/-- A window that is open afterwards was open before, and stays watched. -/
def Lasts (s s' : State) : Prop :=
  s'.pairing = true →
    s.pairing = true ∧ (s.work.Pending .pairTimeout → s'.work.Pending .pairTimeout)

namespace Lasts

variable {s s' s'' : State}

lemma refl (s : State) : Lasts s s := fun hpairing => ⟨hpairing, id⟩

lemma trans (h : Lasts s s') (h' : Lasts s' s'') : Lasts s s'' := by
  intro hpairing
  obtain ⟨hpairing, hlater⟩ := h' hpairing
  exact ⟨(h hpairing).1, fun hp => hlater ((h hpairing).2 hp)⟩

lemma of_aside (h : Aside s s') : Lasts s s' :=
  fun hpairing => ⟨h.pairing hpairing, h.window hpairing⟩

lemma aside (h : Lasts s s') (ha : Aside s' s'') : Lasts s s'' := h.trans (of_aside ha)

/-- Neither the window nor the work changes. -/
lemma of_eq (hpairing : s'.pairing = s.pairing) (hwork : s'.work = s.work) : Lasts s s' :=
  fun hopen => ⟨hpairing.symm.trans hopen, fun hp => hwork ▸ hp⟩

lemma submit (h : Lasts s s') (w : Work) : Lasts s (s'.submit w) := by
  refine h.trans fun hopen => ⟨hopen, fun hp => ?_⟩
  unfold State.submit
  by_cases hinit : s'.initialized = true
  · rw [if_pos hinit]
    exact WorkQueue.pending_submit.2 (.inl hp)
  · rwa [if_neg hinit]

lemma schedule (h : Lasts s s') (w : Work) (delay : ℕ) : Lasts s (s'.schedule w delay) := by
  refine h.trans fun hopen => ⟨hopen, fun hp => ?_⟩
  unfold State.schedule
  by_cases hinit : s'.initialized = true
  · rw [if_pos hinit]
    exact WorkQueue.pending_reschedule.2 (.inl hp)
  · rwa [if_neg hinit]

lemma take {w : Work} {rest : List Work} (hq : s.work.queue = w :: rest) (hw : w ≠ .pairTimeout) :
    Lasts s (s.take w rest) :=
  fun hopen => ⟨hopen, fun hp => (WorkQueue.pending_tail hq (Ne.symm hw)).2 hp⟩

/-! ### Scanning and connecting -/

lemma stopOwnScan (h : Lasts s s') (answer : ℤ) : Lasts s (s'.stopOwnScan answer).1 := by
  obtain ⟨scanOwned, journal, heq⟩ := s'.stopOwnScan_eq answer
  rw [heq]
  exact h.trans (of_eq rfl rfl)

lemma scanWorkCb (a : Answers) : Lasts s (s.scanWorkCb a) := by
  unfold State.scanWorkCb
  dsimp only
  split_ifs
  · exact refl s
  · exact ((refl s).stopOwnScan a.scanStop).schedule .scan 1000
  · exact (refl s).stopOwnScan a.scanStop
  · exact refl s
  · exact (of_eq rfl rfl : Lasts s (s.observe _)).schedule .scan 1000
  · exact ((of_eq rfl rfl : Lasts s { s.observe _ with scanOwned := true }).stopOwnScan
      a.scanStop).schedule .scan 1000
  · exact of_eq rfl rfl

lemma centralConnect (h : Lasts s s') (addr : Addr) : Lasts s (s'.centralConnect addr) := by
  unfold State.centralConnect
  split
  · exact h
  · exact (h.trans (of_eq rfl rfl)).submit .connect

lemma retryWorkCb (h : Lasts s s') : Lasts s s'.retryWorkCb := by
  unfold State.retryWorkCb
  dsimp only
  have hs (scanWanted : Bool) : Lasts s { s' with scanWanted } := h.trans (of_eq rfl rfl)
  split
  · exact ((hs _).centralConnect _).schedule .scan 0
  · exact (hs _).schedule .scan 0

lemma connectReturned (h : Lasts s s') (err : ℤ) : Lasts s (s'.connectReturned err) := by
  have hs : Lasts s { s' with connecting := false } := h.trans (of_eq rfl rfl)
  unfold State.connectReturned
  dsimp only
  split
  · exact hs.schedule .scan 1000
  · exact hs

lemma connectWorkBegin (maxPaired : ℕ) (a : Answers) :
    Lasts s (s.connectWorkBegin maxPaired a) := by
  have hstopped : Lasts s (s.stopOwnScan a.scanStop).1 := (refl s).stopOwnScan a.scanStop
  have hcalled : Lasts s ((s.stopOwnScan a.scanStop).1.observe
      (.connect (s.stopOwnScan a.scanStop).1.pendingAddress)) := hstopped.trans (of_eq rfl rfl)
  unfold State.connectWorkBegin
  dsimp only
  split
  · exact hstopped.connectReturned _
  · obtain ⟨t, stage, inConnect, ha, heq⟩ := (Aside.refl ((s.stopOwnScan a.scanStop).1.observe
      (.connect (s.stopOwnScan a.scanStop).1.pendingAddress))).connectMouse maxPaired
        (s.stopOwnScan a.scanStop).1.pendingAddress a
    have hconnected : Lasts s { t with stage, inConnect } :=
      (hcalled.aside ha).trans (of_eq rfl rfl)
    rw [heq]
    split
    · exact hconnected
    · exact hconnected.connectReturned _

lemma connectWorkEnd (h : Lasts s s') (a : Answers) : Lasts s (s'.connectWorkEnd a) := by
  obtain ⟨t, stage, mouseConn, ha, heq⟩ := (Aside.refl s').connectMouseLookup s'.pendingAddress a
  have hlooked : Lasts s { t with mouseConn, stage, inConnect := false } :=
    (h.aside ha).trans (of_eq rfl rfl)
  unfold State.connectWorkEnd
  dsimp only
  rw [heq]
  exact hlooked.connectReturned _

lemma connectWorkCb (maxPaired : ℕ) (a : Answers) : Lasts s (s.connectWorkCb maxPaired a) := by
  unfold State.connectWorkCb
  dsimp only
  split
  · exact (connectWorkBegin maxPaired a).connectWorkEnd a
  · exact connectWorkBegin maxPaired a

lemma zmkBleMouseAdvertisement (addr : Addr) (type : AdvType) (data : List BtData)
    (now : BitVec 32) : Lasts s (s.zmkBleMouseAdvertisement addr type data now).1 := by
  have hnoted (advertisers : List Advertiser) : Lasts s { s with advertisers } := of_eq rfl rfl
  unfold State.zmkBleMouseAdvertisement
  dsimp only
  split_ifs
  · exact refl s
  · exact refl s
  · exact (refl s).centralConnect addr
  · exact refl s
  · exact refl s
  · exact (hnoted _).centralConnect addr
  · exact hnoted _

end Lasts

namespace Windowed

variable {s s' : State}

lemma lasts (h : Windowed s) (hl : Lasts s s') : Windowed s' :=
  fun hopen => (hl hopen).2 (h (hl hopen).1)

lemma aside (h : Windowed s) (ha : Aside s s') : Windowed s' := h.lasts (.of_aside ha)

/-- The window is opened, or was open already. -/
lemma pairWorkCb (maxPaired : ℕ) (h : Windowed s) (hinit : s.initialized = true) :
    Windowed (s.pairWorkCb maxPaired) := by
  unfold State.pairWorkCb
  split_ifs
  · exact h
  · have hretry : Lasts s { s with retryMs := 1000 } := .of_eq rfl rfl
    exact h.lasts hretry.retryWorkCb
  · exact h
  · have hopened : Windowed (({ s with pairing := true, retryMs := 1000 } : State).schedule
        .pairTimeout 60000) := by
      intro _
      unfold State.schedule
      rw [if_pos (show ({ s with pairing := true, retryMs := 1000 } : State).initialized = true
        from hinit)]
      exact WorkQueue.pending_reschedule.2 (.inr rfl)
    exact hopened.lasts (Lasts.refl _).retryWorkCb

/-- The window is closed. -/
lemma pairTimeoutCb (s : State) : Windowed s.pairTimeoutCb := by
  have hclosed (t : State) (ht : t.pairing = false) : Windowed t.retryWorkCb := by
    intro hopen
    have hbefore := ((Lasts.refl t).retryWorkCb hopen).1
    exact absurd (ht.symm.trans hbefore) Bool.false_ne_true
  unfold State.pairTimeoutCb
  dsimp only
  split
  · exact hclosed _ rfl
  · exact hclosed _ rfl

lemma run (maxPaired : ℕ) (h : Windowed s) (hs : Coherent s) (hgap : s.inConnect = false)
    {w : Work} {rest : List Work} (hq : s.work.queue = w :: rest) (a : Answers) :
    Windowed ((s.take w rest).run maxPaired w a) := by
  have hinit : s.initialized = true := hs.initialized_of_mem (hq ▸ List.mem_cons_self)
  have ht (hw : w ≠ .pairTimeout) : Windowed (s.take w rest) := h.lasts (.take hq hw)
  have hrefl := Lasts.refl (s.take w rest)
  cases w with
  | discovery => exact (ht Work.noConfusion).aside (Aside.discoveryWorkCb a)
  | failure =>
    have hgap' : (s.take .failure rest).inConnect = false := hgap
    have ha := Aside.failureWorkCb hgap' a
    exact (ht Work.noConfusion).aside ha
  | retry => exact (ht Work.noConfusion).lasts hrefl.retryWorkCb
  | timeout => exact (ht Work.noConfusion).aside (Aside.refl _).timeoutWorkCb
  | pairTimeout => exact pairTimeoutCb _
  | connected => exact (ht Work.noConfusion).aside (Aside.connectedWorkCb a)
  | disconnected => exact (ht Work.noConfusion).aside ((Aside.refl _).disconnectedWorkCb a)
  | pair => exact (ht Work.noConfusion).pairWorkCb maxPaired hinit
  | clear => exact (ht Work.noConfusion).aside (Aside.clearWorkCb a)
  | scan => exact (ht Work.noConfusion).lasts (Lasts.scanWorkCb a)
  | connect => exact (ht Work.noConfusion).lasts (Lasts.connectWorkCb maxPaired a)
  | settle =>
    have hsettled : Lasts (s.take .settle rest)
        { s.take .settle rest with splitSettling := false } := .of_eq rfl rfl
    exact (ht Work.noConfusion).lasts (hsettled.schedule .scan 0)
  | output => exact ht Work.noConfusion

/-- Every step keeps the window watched. -/
theorem step {maxPaired : ℕ} (h : Windowed s) (hs : Coherent s) {l : Label}
    (hstep : Step maxPaired s l s') : Windowed s' := by
  cases hstep.moves with
  | work hgap hq => exact h.run maxPaired hs hgap hq _
  | connectBegin _ hq =>
    exact (h.lasts (.take hq Work.noConfusion)).lasts (Lasts.connectWorkBegin maxPaired _)
  | connectEnd => exact h.lasts ((Lasts.refl s).connectWorkEnd _)
  | expire hw => exact h.aside (Aside.expire (fun harmed => hs.timers _ harmed) hw)
  | connected c err => exact h.aside (Aside.connectedCb c err)
  | disconnected c => exact h.aside (Aside.disconnectedCb c)
  | connectionChanged scanStop =>
    have hsettling : Lasts s { s with splitSettling := true } := .of_eq rfl rfl
    exact h.lasts ((hsettling.stopOwnScan scanStop).schedule .settle 1000)
  | securityChanged c level err => exact h.aside (Aside.securityCb c level err)
  | pairingComplete c bonded => exact h.aside (Aside.pairingCompleteCb c bonded)
  | pairingFailed c => exact h.aside (Aside.pairingFailedCb c)
  | discovered c _ _ _ attr => exact h.aside ((Aside.discoverCb c attr).finished _ _ _ _)
  | readDone c _ err data => exact h.aside ((Aside.readCb c err data).finished _ _ _ _)
  | written c _ _ err => exact h.aside ((Aside.writtenCb c err).finished _ _ _ _)
  | subscribed c i _ _ err => exact h.aside ((Aside.subscribedCb c err i).finished _ _ _ _)
  | notified c i data => exact h.aside (Aside.notifyCb c i data)
  | advertisement addr type data now =>
    exact h.lasts (Lasts.zmkBleMouseAdvertisement addr type data now)
  | pair => exact h.aside Aside.zmkBleMousePair
  | clearHold pressed => exact h.aside (Aside.zmkBleMouseClearHold pressed)
  | settings name length contents result =>
    unfold State.settingsSet
    dsimp only
    split_ifs <;> exact h
  | start =>
    unfold State.zmkBleMouseStart
    split
    · exact h
    · have hstarted : Lasts s ({ s with started := true } : State).centralScanInit := .of_eq rfl rfl
      exact h.lasts (hstarted.schedule .retry 0)

end Windowed

end BleMouse.Client
