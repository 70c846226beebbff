/-
Who stops which scan, operation by operation.

`scan_work_cb` and `connect_work_cb` run on the worker while `connection_changed` runs on the
receive thread and other code starts and stops scans of its own.  Here each of the two threads
stands at one operation of its function (`WorkerPc`, `ReceivePc`), and a step is one atomic
access, one call of the host or one reading of the transports.  What the functions schedule is
left out: an item may begin whenever the worker is idle.

The module's scan is a token.  `scan_owned` has it, or the thread that is about to set the
variable or to call `bt_le_scan_stop`; nobody has it while another scan or none is active.

* `Accounted`: the invariant;
* `stops_only_its_own_scan`: the main result;
* `scan_work_alone`, `connect_work_alone`, `connection_changed_alone`: without interference the
  functions do what `Client/Radio.lean` and `Client/Link.lean` say.
-/
import BleMouse.Client.Handover

namespace BleMouse.Client.ScanThreads

open BleMouse.Client

/-! ### The threads -/

/-- Who has started the active scan. -/
inductive Owner
  | own
  | other
deriving DecidableEq, Repr

/-- The atomic variables, and the active scan of the host. -/
structure Shared where
  connecting : Bool := false
  scanOwned : Bool := false
  splitSettling : Bool := false
  scanWanted : Bool := false
  active : Option Owner := none
deriving DecidableEq, Repr

/-- `bt_le_scan_start`, called by the module -/
def Shared.scanStart (m : Shared) (err : ℤ) : Shared :=
  if err = 0 then { m with active := some .own } else m

/-- `bt_le_scan_stop` -/
def Shared.scanStop (m : Shared) (err : ℤ) : Shared :=
  if err = 0 then { m with active := none } else m

/-- The operations of `stop_own_scan`. -/
inductive StopPc
  | compareAndSet
  | scanStop
  /-- `atomic_set(&scan_owned, 1)`, for the error that is returned -/
  | restore (err : ℤ)
deriving DecidableEq, Repr

/-- One operation of `stop_own_scan`, after which it goes on or returns. -/
def StopPc.step (m : Shared) (scanStop : ℤ) : StopPc → Shared × (StopPc ⊕ ℤ)
  | .compareAndSet =>
    if m.scanOwned then ({ m with scanOwned := false }, .inl .scanStop) else (m, .inr 0)
  | .scanStop =>
    (m.scanStop scanStop, if stopFails scanStop then .inl (.restore scanStop) else .inr 0)
  | .restore err => ({ m with scanOwned := true }, .inr err)

/-- The operations of the worker. -/
inductive WorkerPc
  | idle
  -- scan_work_cb
  | getConnecting
  | wantsScan
  | statusBefore
  | settlingBefore
  | stopBefore (pc : StopPc)
  | getOwned
  | scanStart
  | setOwned
  | statusAfter
  | settlingAfter
  | stopAfter (pc : StopPc)
  -- connect_work_cb
  | stopConnect (pc : StopPc)
  | pendingConnect
  | clearConnecting
  -- settle_work_cb
  | clearSettling
deriving DecidableEq, Repr

/-- The operations of `connection_changed`. -/
inductive ReceivePc
  | idle
  | setSettling
  | stop (pc : StopPc)
deriving DecidableEq, Repr

structure World where
  shared : Shared := {}
  worker : WorkerPc := .idle
  receive : ReceivePc := .idle
deriving DecidableEq, Repr

/-- The transports that `split_ready` goes through are connected, and one is enabled. -/
def allConnected (transports : List TransportStatus) : Bool :=
  let active := transports.filter fun status => status.available && status.enabled
  decide (active ≠ []) && active.all (·.allConnected)

/-- `stop_own_scan` goes on as `go` says, or has returned. -/
def resume (go : StopPc → WorkerPc) (returned : ℤ → WorkerPc) : Shared × (StopPc ⊕ ℤ) →
    Shared × WorkerPc
  | (m, .inl pc) => (m, go pc)
  | (m, .inr err) => (m, returned err)

/-- One operation of the worker. -/
def WorkerPc.step (m : Shared) (a : Answers) : WorkerPc → Shared × WorkerPc
  | .idle => (m, .idle)
  | .getConnecting => (m, if m.connecting then .idle else .wantsScan)
  | .wantsScan => (m, if m.scanWanted then .statusBefore else .stopBefore .compareAndSet)
  | .statusBefore =>
    (m, if allConnected a.splitBefore then .settlingBefore else .stopBefore .compareAndSet)
  | .settlingBefore => (m, if m.splitSettling then .stopBefore .compareAndSet else .getOwned)
  | .stopBefore pc => resume .stopBefore (fun _ => .idle) (pc.step m a.scanStop)
  | .getOwned => (m, if m.scanOwned then .idle else .scanStart)
  | .scanStart => (m.scanStart a.scanStart, if a.scanStart = 0 then .setOwned else .idle)
  | .setOwned => ({ m with scanOwned := true }, .statusAfter)
  | .statusAfter =>
    (m, if allConnected a.splitAfter then .settlingAfter else .stopAfter .compareAndSet)
  | .settlingAfter => (m, if m.splitSettling then .stopAfter .compareAndSet else .idle)
  | .stopAfter pc => resume .stopAfter (fun _ => .idle) (pc.step m a.scanStop)
  | .stopConnect pc =>
    resume .stopConnect (fun err => if err = 0 then .pendingConnect else .clearConnecting)
      (pc.step m a.scanStop)
  -- the connect function neither starts nor stops a scan
  | .pendingConnect => (m, .clearConnecting)
  | .clearConnecting => ({ m with connecting := false }, .idle)
  | .clearSettling => ({ m with splitSettling := false }, .idle)

/-- One operation of `connection_changed`. -/
def ReceivePc.step (m : Shared) (scanStop : ℤ) : ReceivePc → Shared × ReceivePc
  | .idle => (m, .idle)
  | .setSettling => ({ m with splitSettling := true }, .stop .compareAndSet)
  | .stop pc => match pc.step m scanStop with
    | (m, .inl pc) => (m, .stop pc)
    | (m, .inr _) => (m, .idle)

/-! ### Steps -/

/-- The steps of the threads, and those of the rest of the firmware. -/
inductive Label
  /-- The worker begins an item, at this operation. -/
  | beginWork (pc : WorkerPc)
  | worker (a : Answers)
  | beginChanged
  | receive (scanStop : ℤ)
  /-- `zmk_ble_central_connect` takes the slot. -/
  | request
  /-- The client sets or clears `scan_wanted`. -/
  | want (wanted : Bool)
  /-- Other code starts a scan, or stops one that is not the module's. -/
  | otherStart (err : ℤ)
  | otherStop (err : ℤ)

/-- The first operations of `scan_work_cb`, `connect_work_cb` and `settle_work_cb`. -/
def WorkerPc.IsEntry (pc : WorkerPc) : Prop :=
  pc = .getConnecting ∨ pc = .stopConnect .compareAndSet ∨ pc = .clearSettling

/-- The next operation of a thread is `bt_le_scan_stop`. -/
def WorkerPc.AtStop (pc : WorkerPc) : Prop :=
  pc = .stopBefore .scanStop ∨ pc = .stopAfter .scanStop ∨ pc = .stopConnect .scanStop

def ReceivePc.AtStop (pc : ReceivePc) : Prop := pc = .stop .scanStop

/-- What happens. -/
inductive Step (w : World) : Label → World → Prop
  | beginWork {pc : WorkerPc} (hidle : w.worker = .idle) (hentry : pc.IsEntry) :
      Step w (.beginWork pc) { w with worker := pc }
  /-- A scan starts only when none is active, and `-EALREADY` says that none was. -/
  | worker {a : Answers}
      (hstart : w.worker = .scanStart → a.scanStart = 0 → w.shared.active = none)
      (hstop : w.worker.AtStop → a.scanStop = -eAlready → w.shared.active = none) :
      Step w (.worker a) { w with
        shared := (w.worker.step w.shared a).1, worker := (w.worker.step w.shared a).2 }
  | beginChanged (hidle : w.receive = .idle) :
      Step w .beginChanged { w with receive := .setSettling }
  | receive {scanStop : ℤ}
      (hstop : w.receive.AtStop → scanStop = -eAlready → w.shared.active = none) :
      Step w (.receive scanStop) { w with
        shared := (w.receive.step w.shared scanStop).1
        receive := (w.receive.step w.shared scanStop).2 }
  | request : Step w .request { w with shared := { w.shared with connecting := true } }
  | want (wanted : Bool) :
      Step w (.want wanted) { w with shared := { w.shared with scanWanted := wanted } }
  | otherStart {err : ℤ} (hstart : err = 0 → w.shared.active = none) :
      Step w (.otherStart err)
        { w with shared := if err = 0 then { w.shared with active := some .other } else w.shared }
  | otherStop {err : ℤ} (hother : w.shared.active ≠ some .own) :
      Step w (.otherStop err) { w with shared := w.shared.scanStop err }

/-! ### The token -/

/-- The operations at which a thread has the token. -/
def StopPc.tokens : StopPc → ℕ
  | .compareAndSet => 0
  | .scanStop | .restore _ => 1

def WorkerPc.tokens : WorkerPc → ℕ
  | .stopBefore pc | .stopAfter pc | .stopConnect pc => pc.tokens
  | .setOwned => 1
  | _ => 0

def ReceivePc.tokens : ReceivePc → ℕ
  | .stop pc => pc.tokens
  | _ => 0

/-- The tokens that there ought to be. -/
def Shared.due (m : Shared) : ℕ := if m.active = some .own then 1 else 0

/-- Every token is accounted for. -/
def Accounted (w : World) : Prop :=
  w.shared.scanOwned.toNat + w.worker.tokens + w.receive.tokens = w.shared.due

variable {w w' : World}

/-- What is known of the shared state when a thread may have the token. -/
structure Shared.Backs (m : Shared) (tokens : ℕ) : Prop where
  active : tokens = 1 → m.active = some .own
  scanOwned : tokens = 1 → m.scanOwned = false

/-- An operation of `stop_own_scan` changes the tokens as those that ought to be. -/
lemma StopPc.step_tokens {m : Shared} {pc : StopPc} (hbacks : m.Backs pc.tokens) (err : ℤ)
    (hstop : pc = .scanStop → err = -eAlready → m.active = none) :
    (pc.step m err).1.scanOwned.toNat + ((pc.step m err).2.elim StopPc.tokens fun _ => 0) + m.due =
      m.scanOwned.toNat + pc.tokens + (pc.step m err).1.due := by
  cases pc with
  | compareAndSet =>
    cases howned : m.scanOwned <;> simp [StopPc.step, StopPc.tokens, Shared.due, howned]
  | scanStop =>
    have hactive := hbacks.active rfl
    have howned := hbacks.scanOwned rfl
    -- the scan is active, so that `-EALREADY` is not an answer
    have hother : err ≠ -eAlready := fun herr => by
      rw [hstop rfl herr] at hactive
      exact absurd hactive.symm (Option.some_ne_none _)
    by_cases hok : err = 0
    · simp [StopPc.step, StopPc.tokens, Shared.due, Shared.scanStop, stopFails, hok, howned,
        hactive]
    · simp [StopPc.step, StopPc.tokens, Shared.due, Shared.scanStop, stopFails, hok, hother, howned,
        hactive]
  | restore err =>
    have hactive := hbacks.active rfl
    have howned := hbacks.scanOwned rfl
    simp [StopPc.step, StopPc.tokens, Shared.due, howned, hactive]

/-- `stop_own_scan` as a part of the worker. -/
lemma resume_tokens {m : Shared} {pc : StopPc} (hbacks : m.Backs pc.tokens) (err : ℤ)
    (hstop : pc = .scanStop → err = -eAlready → m.active = none) {go : StopPc → WorkerPc}
    {returned : ℤ → WorkerPc} (hgo : ∀ pc, (go pc).tokens = pc.tokens)
    (hreturned : ∀ err, (returned err).tokens = 0) :
    (resume go returned (pc.step m err)).1.scanOwned.toNat +
        (resume go returned (pc.step m err)).2.tokens + m.due =
      m.scanOwned.toNat + pc.tokens + (resume go returned (pc.step m err)).1.due := by
  have htokens := StopPc.step_tokens hbacks err hstop
  rcases heq : pc.step m err with ⟨m', pc' | err'⟩
  · rw [heq] at htokens
    simpa [resume, hgo] using htokens
  · rw [heq] at htokens
    simpa [resume, hreturned] using htokens

/-- So does one of the worker. -/
lemma WorkerPc.step_tokens {m : Shared} {pc : WorkerPc} (hbacks : m.Backs pc.tokens) (a : Answers)
    (hstart : pc = .scanStart → a.scanStart = 0 → m.active = none)
    (hstop : pc.AtStop → a.scanStop = -eAlready → m.active = none) :
    (pc.step m a).1.scanOwned.toNat + (pc.step m a).2.tokens + m.due =
      m.scanOwned.toNat + pc.tokens + (pc.step m a).1.due := by
  cases pc with
  | stopBefore pc =>
    exact resume_tokens hbacks a.scanStop (fun hpc => hstop (.inl (hpc ▸ rfl))) (fun _ => rfl)
      fun _ => rfl
  | stopAfter pc =>
    exact resume_tokens hbacks a.scanStop (fun hpc => hstop (.inr (.inl (hpc ▸ rfl))))
      (fun _ => rfl) fun _ => rfl
  | stopConnect pc =>
    refine resume_tokens hbacks a.scanStop (fun hpc => hstop (.inr (.inr (hpc ▸ rfl))))
      (fun _ => rfl) fun err => ?_
    split <;> rfl
  | scanStart =>
    by_cases hok : a.scanStart = 0
    · have hactive := hstart rfl hok
      simp [WorkerPc.step, WorkerPc.tokens, Shared.scanStart, Shared.due, hok, hactive]
    · simp [WorkerPc.step, WorkerPc.tokens, Shared.scanStart, hok]
  | setOwned =>
    have howned := hbacks.scanOwned rfl
    show 1 + 0 + m.due = m.scanOwned.toNat + 1 + m.due
    rw [howned, Bool.toNat_false]
  | idle | pendingConnect | clearConnecting | clearSettling => rfl
  | _ =>
    simp only [WorkerPc.step]
    split <;> rfl

lemma ReceivePc.step_tokens {m : Shared} {pc : ReceivePc} (hbacks : m.Backs pc.tokens) (err : ℤ)
    (hstop : pc.AtStop → err = -eAlready → m.active = none) :
    (pc.step m err).1.scanOwned.toNat + (pc.step m err).2.tokens + m.due =
      m.scanOwned.toNat + pc.tokens + (pc.step m err).1.due := by
  cases pc with
  | idle | setSettling => rfl
  | stop pc =>
    have htokens := StopPc.step_tokens hbacks err fun hpc => hstop (hpc ▸ rfl)
    rcases heq : pc.step m err with ⟨m', pc' | err'⟩
    · rw [heq] at htokens
      simpa [ReceivePc.step, heq, ReceivePc.tokens] using htokens
    · rw [heq] at htokens
      simpa [ReceivePc.step, heq, ReceivePc.tokens] using htokens

namespace Accounted

variable {w w' : World}

lemma due_le_one (m : Shared) : m.due ≤ 1 := by
  unfold Shared.due
  split <;> omega

/-- A thread with the token is alone with it. -/
lemma backs_of_le {tokens : ℕ} (hle : w.shared.scanOwned.toNat + tokens ≤ w.shared.due) :
    w.shared.Backs tokens := by
  have hone := due_le_one w.shared
  constructor
  · rintro rfl
    by_contra hactive
    rw [Shared.due, if_neg hactive] at hle
    omega
  · rintro rfl
    cases howned : w.shared.scanOwned with
    | false => rfl
    | true =>
      rw [howned, Bool.toNat_true] at hle
      omega

lemma backs_worker (h : Accounted w) : w.shared.Backs w.worker.tokens :=
  backs_of_le (by unfold Accounted at h; omega)

lemma backs_receive (h : Accounted w) : w.shared.Backs w.receive.tokens :=
  backs_of_le (by unfold Accounted at h; omega)

/-- Every step accounts for the tokens. -/
lemma step (h : Accounted w) {l : Label} (hstep : Step w l w') : Accounted w' := by
  have hsum := h
  unfold Accounted at hsum ⊢
  cases hstep with
  | @beginWork pc hidle hentry =>
    rw [hidle] at hsum
    have hpc : pc.tokens = 0 := by rcases hentry with rfl | rfl | rfl <;> rfl
    dsimp only
    rwa [hpc]
  | @worker a hstart hstop =>
    have htokens := WorkerPc.step_tokens h.backs_worker a hstart hstop
    dsimp only
    omega
  | beginChanged hidle =>
    rw [hidle] at hsum
    simpa [ReceivePc.tokens] using hsum
  | @receive scanStop hstop =>
    have htokens := ReceivePc.step_tokens h.backs_receive scanStop hstop
    dsimp only
    omega
  | request => exact hsum
  | want => exact hsum
  | @otherStart err hstart =>
    by_cases hok : err = 0
    · have hactive := hstart hok
      simpa [Shared.due, hok, hactive] using hsum
    · simpa [hok] using hsum
  | @otherStop err hother =>
    by_cases hok : err = 0
    · simpa [Shared.scanStop, Shared.due, hok, hother] using hsum
    · simpa [Shared.scanStop, hok] using hsum

end Accounted

/-! ### The main result -/

/-- The step is a call of `bt_le_scan_stop` by the module. -/
def StopsScan (w : World) : Label → Prop
  | .worker _ => w.worker.AtStop
  | .receive _ => w.receive.AtStop
  | _ => False

/-- The worker is inside `scan_work_cb` or `stop_own_scan`. -/
def WorkerPc.Scanning : WorkerPc → Prop
  | .idle | .pendingConnect | .clearConnecting | .clearSettling => False
  | _ => True

/-- The receive thread is inside `stop_own_scan`. -/
def ReceivePc.Scanning : ReceivePc → Prop
  | .stop _ => True
  | _ => False

lemma WorkerPc.tokens_eq_zero {pc : WorkerPc} (h : ¬pc.Scanning) : pc.tokens = 0 := by
  cases pc with
  | idle | pendingConnect | clearConnecting | clearSettling => rfl
  | _ => exact absurd trivial h

lemma ReceivePc.tokens_eq_zero {pc : ReceivePc} (h : ¬pc.Scanning) : pc.tokens = 0 := by
  cases pc with
  | idle | setSettling => rfl
  | stop => exact absurd trivial h

/-- Whatever the order of the operations, the module stops a scan only while the active scan is
its own, and when neither thread is inside `scan_work_cb` or `stop_own_scan`, `scan_owned` says
whether the active scan is the module's. -/
theorem stops_only_its_own_scan (labels : List Label) :
    (∀ t l t', Transition.Takes Step {} labels t l t' → StopsScan t l →
      t.shared.active = some .own) ∧
    ∀ t, Transition.Visits Step {} labels t → ¬t.worker.Scanning → ¬t.receive.Scanning →
      (t.shared.scanOwned = true ↔ t.shared.active = some .own) := by
  have hinv (before : List Label) (t : World) (hrun : Transition.Run Step {} before t) :
      Accounted t := hrun.invariant Accounted rfl fun _ _ _ h hstep => h.step hstep
  constructor
  · rintro t l t' ⟨before, -, hrun, -⟩ hstops
    have h := hinv before t hrun
    cases l with
    | worker a =>
      refine h.backs_worker.active ?_
      rcases hstops with hpc | hpc | hpc <;> rw [hpc] <;> rfl
    | receive err =>
      refine h.backs_receive.active ?_
      rw [show t.receive = .stop .scanStop from hstops]
      rfl
    | _ => exact hstops.elim
  · rintro t ⟨before, -, hrun⟩ hworker hreceive
    have h := hinv before t hrun
    rw [Accounted, WorkerPc.tokens_eq_zero hworker, ReceivePc.tokens_eq_zero hreceive] at h
    cases howned : t.shared.scanOwned <;> simp [Shared.due, howned] at h ⊢ <;> exact h

/-- Both halves of the keyboard are connected. -/
def splitConnected : Answers :=
  { splitBefore := [⟨true, true, true⟩], splitAfter := [⟨true, true, true⟩] }

/-- `connection_changed` comes between the start of a scan and the setting of `scan_owned`. -/
def interruptedScan : List Label :=
  [.want true, .beginWork .getConnecting] ++ List.replicate 6 (.worker splitConnected) ++
    [.beginChanged, .receive 0, .receive 0] ++ List.replicate 5 (.worker splitConnected)

/-- `scan_work_cb` stops the scan that it has started, and the variable says that it is gone. -/
theorem stops_only_its_own_scan_interrupted : ∃ t t',
    Transition.Takes Step {} interruptedScan t (.worker splitConnected) t' ∧
      StopsScan t (.worker splitConnected) ∧ t.shared.active = some .own ∧
    Transition.Visits Step {} interruptedScan t' ∧ t'.shared.active = none ∧
      (t'.shared.scanOwned = true ↔ t'.shared.active = some .own) := by
  have hwork (w : World) (h : w.worker = .scanStart → w.shared.active = none) :
      Step w (.worker splitConnected) { w with
        shared := (w.worker.step w.shared splitConnected).1
        worker := (w.worker.step w.shared splitConnected).2 } :=
    .worker (fun hpc _ => h hpc) fun _ herr => absurd herr (by decide)
  have hreceive (w : World) : Step w (.receive 0) { w with
      shared := (w.receive.step w.shared 0).1, receive := (w.receive.step w.shared 0).2 } :=
    .receive fun _ herr => absurd herr (by decide)
  let started : World :=
    { shared := { scanWanted := true, active := some .own }, worker := .setOwned }
  let t : World :=
    { shared := { scanWanted := true, splitSettling := true, active := some .own }
      worker := .stopAfter .scanStop }
  have hstarted : Transition.Run Step {}
      ([.want true, .beginWork .getConnecting] ++ List.replicate 6 (.worker splitConnected))
      started :=
    .cons (.want true) <| .cons (.beginWork rfl (.inl rfl)) <| .cons (hwork _ (by decide)) <|
      .cons (hwork _ (by decide)) <| .cons (hwork _ (by decide)) <| .cons (hwork _ (by decide)) <|
      .cons (hwork _ (by decide)) <| .single (hwork _ (by decide))
  have hinterrupted : Transition.Run Step started
      ([.beginChanged, .receive 0, .receive 0] ++ List.replicate 4 (.worker splitConnected)) t :=
    .cons (.beginChanged rfl) <| .cons (hreceive _) <| .cons (hreceive _) <|
      .cons (hwork _ (by decide)) <| .cons (hwork _ (by decide)) <| .cons (hwork _ (by decide)) <|
      .single (hwork _ (by decide))
  have hrun := hstarted.append hinterrupted
  have htakes : Transition.Takes Step {} interruptedScan t (.worker splitConnected) _ :=
    ⟨_, List.prefix_refl _, hrun, hwork t (by decide)⟩
  have hvisits : Transition.Visits Step {} interruptedScan _ :=
    ⟨_, List.prefix_refl _, hrun.snoc (hwork t (by decide))⟩
  have hstops : StopsScan t (.worker splitConnected) := .inr (.inl rfl)
  exact ⟨t, _, htakes, hstops, (stops_only_its_own_scan interruptedScan).1 t _ _ htakes hstops,
    hvisits, rfl, (stops_only_its_own_scan interruptedScan).2 _ hvisits id id⟩

/-! ### Without interference -/

/-- The variables of the client that the two threads share. -/
def Shared.of (s : State) (active : Option Owner) : Shared :=
  { connecting := s.connecting, scanOwned := s.scanOwned, splitSettling := s.splitSettling
    scanWanted := s.scanWanted, active }

/-- Some operations of the worker, with nothing between them. -/
def workAlone (a : Answers) : ℕ → Shared × WorkerPc → Shared × WorkerPc
  | 0, p => p
  | n + 1, p => workAlone a n (p.2.step p.1 a)

/-- The worker gets from one state of the client to another, if nothing interferes. -/
def Ends (a : Answers) (s : State) (active : Option Owner) (pc : WorkerPc) (s' : State) : Prop :=
  ∃ n active', workAlone a n (.of s active, pc) = (.of s' active', .idle)

namespace Ends

variable {a : Answers} {s s' t : State} {active o : Option Owner} {pc q : WorkerPc}

lemma done (h : Shared.of s active = Shared.of s' active) : Ends a s active .idle s' :=
  ⟨0, active, by rw [workAlone, h]⟩

lemma step (hstep : pc.step (.of s active) a = (.of t o, q)) (h : Ends a t o q s') :
    Ends a s active pc s' := by
  obtain ⟨n, active'', hn⟩ := h
  refine ⟨n + 1, active'', ?_⟩
  rw [workAlone]
  show workAlone a n (pc.step (.of s active) a) = _
  rw [hstep, hn]

/-- `stop_own_scan` as a part of the worker, before what follows it -/
lemma stop {go : StopPc → WorkerPc} {returned : ℤ → WorkerPc}
    (hgo : ∀ pc m, (go pc).step m a = resume go returned (pc.step m a.scanStop))
    (h : ∀ active, Ends a (s.stopOwnScan a.scanStop).1 active
      (returned (s.stopOwnScan a.scanStop).2) s') :
    Ends a s active (go .compareAndSet) s' := by
  by_cases howned : s.scanOwned = true
  case neg =>
    have heq : s.stopOwnScan a.scanStop = (s, 0) := if_pos howned
    rw [heq] at h
    exact step (by simp [hgo, StopPc.step, Shared.of, howned, resume]) (h active)
  have heq : s.stopOwnScan a.scanStop =
      if a.scanStop ≠ 0 ∧ a.scanStop ≠ -eAlready then
        ({ ({ s with scanOwned := false } : State).observe (.scanStop a.scanStop) with
          scanOwned := true }, a.scanStop)
      else (({ s with scanOwned := false } : State).observe (.scanStop a.scanStop), 0) :=
    if_neg (not_not.2 howned)
  rw [heq] at h
  refine step (t := { s with scanOwned := false }) (q := go .scanStop) (o := active)
    (by simp [hgo, StopPc.step, Shared.of, howned, resume]) ?_
  by_cases hfails : a.scanStop ≠ 0 ∧ a.scanStop ≠ -eAlready
  case pos =>
    rw [if_pos hfails] at h
    refine step (t := { s with scanOwned := false }) (q := go (.restore a.scanStop)) (o := active)
      (by simp [hgo, StopPc.step, Shared.scanStop, stopFails, hfails, resume]) ?_
    exact step (by simp [hgo, StopPc.step, Shared.of, State.observe, resume]) (h active)
  case neg =>
    rw [if_neg hfails] at h
    have hreturns : stopFails a.scanStop = false := decide_eq_false hfails
    refine step (o := if a.scanStop = 0 then none else active) ?_ (h _)
    by_cases hok : a.scanStop = 0
    · simp [hgo, StopPc.step, Shared.scanStop, Shared.of, State.observe, stopFails, hok, resume]
    · simp [hgo, StopPc.step, Shared.scanStop, Shared.of, State.observe, hreturns, hok, resume]

/-- `split_ready` as a part of the worker -/
lemma splitReady {status settling ready busy : WorkerPc} {transports : List TransportStatus}
    (hstatus : ∀ m, status.step m a = (m, if allConnected transports then settling else busy))
    (hsettling : ∀ m, settling.step m a = (m, if m.splitSettling then busy else ready))
    (h : Ends a s active (if s.splitReady transports then ready else busy) s') :
    Ends a s active status s' := by
  have heq : s.splitReady transports = (allConnected transports && !s.splitSettling) := rfl
  rw [heq] at h
  cases hconnected : allConnected transports with
  | false =>
    rw [hconnected, Bool.false_and, if_neg Bool.false_ne_true] at h
    exact step (by rw [hstatus, hconnected, if_neg Bool.false_ne_true]) h
  | true =>
    rw [hconnected, Bool.true_and] at h
    refine step (t := s) (by rw [hstatus, hconnected, if_pos rfl]) (step (hsettling _) ?_)
    cases hsettles : s.splitSettling <;> simpa [Shared.of, hsettles] using h

end Ends

/-- `scan_work_cb` without interference -/
theorem scan_work_alone (s : State) (a : Answers) (active : Option Owner) :
    Ends a s active .getConnecting (s.scanWorkCb a) := by
  have hbefore (s' : State)
      (hs : ∀ active, Shared.of (s.stopOwnScan a.scanStop).1 active = Shared.of s' active) :
      Ends a s active (.stopBefore .compareAndSet) s' :=
    .stop (fun _ _ => rfl) fun active => .done (hs active)
  have hafter (t s' : State) (active : Option Owner)
      (hs : ∀ active, Shared.of (t.stopOwnScan a.scanStop).1 active = Shared.of s' active) :
      Ends a t active (.stopAfter .compareAndSet) s' :=
    .stop (fun _ _ => rfl) fun active => .done (hs active)
  unfold State.scanWorkCb
  dsimp only
  split
  case isTrue hconnecting =>
    exact .step (t := s) (o := active) (by simp [WorkerPc.step, Shared.of, hconnecting])
      (.done rfl)
  case isFalse hconnecting =>
  refine .step (t := s) (o := active) (q := .wantsScan)
    (by simp [WorkerPc.step, Shared.of, hconnecting]) ?_
  by_cases hwanted : s.scanWanted = true
  case neg =>
    rw [Bool.not_eq_true] at hwanted
    refine .step (t := s) (o := active) (q := .stopBefore .compareAndSet)
      (by simp [WorkerPc.step, Shared.of, hwanted]) ?_
    simp only [hwanted, Bool.not_false, Bool.true_or, if_true, Bool.false_eq_true, if_false]
    exact hbefore _ fun _ => rfl
  simp only [hwanted, Bool.not_true, Bool.false_or, if_true]
  refine .step (t := s) (o := active) (q := .statusBefore)
    (by simp [WorkerPc.step, Shared.of, hwanted]) (.splitReady (fun _ => rfl) (fun _ => rfl) ?_)
  cases hready : s.splitReady a.splitBefore with
  | false => exact hbefore _ fun _ => rfl
  | true =>
  simp only [Bool.not_true, Bool.false_eq_true, if_false, if_true]
  split
  case isTrue howned =>
    exact .step (t := s) (o := active) (by simp [WorkerPc.step, Shared.of, howned]) (.done rfl)
  case isFalse howned =>
  refine .step (t := s) (o := active) (q := .scanStart)
    (by simp [WorkerPc.step, Shared.of, howned]) ?_
  split
  case isTrue herr =>
    exact .step (t := s) (o := active)
      (by simp [WorkerPc.step, Shared.scanStart, herr]) (.done rfl)
  case isFalse hok =>
  rw [not_not] at hok
  refine .step (t := s) (o := some .own) (q := .setOwned)
    (by simp [WorkerPc.step, Shared.scanStart, Shared.of, hok]) ?_
  refine .step (t := { s.observe (.scanStart a.scanStart) with scanOwned := true })
    (o := some .own) (q := .statusAfter) rfl (.splitReady (fun _ => rfl) (fun _ => rfl) ?_)
  generalize State.splitReady _ a.splitAfter = ready
  cases ready with
  | false =>
    simp only [Bool.false_eq_true, if_false, Bool.not_false, if_true]
    exact hafter _ _ _ fun _ => rfl
  | true =>
    simp only [Bool.not_true, Bool.false_eq_true, if_false, if_true]
    exact .done rfl

/-- The scan of the module and the wait for the halves are as they were. -/
def SameScan (s s' : State) : Prop :=
  s'.scanOwned = s.scanOwned ∧ s'.splitSettling = s.splitSettling

lemma SameScan.connectReturned {s t : State} (h : SameScan s t) (err : ℤ) :
    SameScan s (t.connectReturned err) ∧ (t.connectReturned err).connecting = false := by
  unfold State.connectReturned
  dsimp only
  split <;> exact ⟨h, rfl⟩

lemma SameScan.connectMouse {s t : State} (h : SameScan s t) (maxPaired : ℕ) (addr : Addr)
    (a : Answers) : SameScan s (t.connectMouse maxPaired addr a).1 := by
  unfold State.connectMouse
  dsimp only
  split_ifs <;> exact h

lemma SameScan.connectWorkEnd {s t : State} (h : SameScan s t) (a : Answers) :
    SameScan s (t.connectWorkEnd a) ∧ (t.connectWorkEnd a).connecting = false := by
  unfold State.connectWorkEnd State.connectMouseLookup
  dsimp only
  split
  · refine SameScan.connectReturned ?_ _
    exact h
  · refine SameScan.connectReturned ?_ _
    exact h

/-- `connect_work_cb` clears `connecting`; only its `stop_own_scan` concerns the scan. -/
lemma connectWorkCb_sameScan (s : State) (maxPaired : ℕ) (a : Answers) :
    SameScan (s.stopOwnScan a.scanStop).1 (s.connectWorkCb maxPaired a) ∧
      (s.connectWorkCb maxPaired a).connecting = false := by
  have hstopped : SameScan (s.stopOwnScan a.scanStop).1 (s.stopOwnScan a.scanStop).1 := ⟨rfl, rfl⟩
  have hobserved : SameScan (s.stopOwnScan a.scanStop).1 ((s.stopOwnScan a.scanStop).1.observe
      (.connect (s.stopOwnScan a.scanStop).1.pendingAddress)) := ⟨rfl, rfl⟩
  have hbegun : SameScan (s.stopOwnScan a.scanStop).1 (s.connectWorkBegin maxPaired a) ∧
      ((s.connectWorkBegin maxPaired a).inConnect = true ∨
        (s.connectWorkBegin maxPaired a).connecting = false) := by
    unfold State.connectWorkBegin
    dsimp only
    split_ifs with herr hin
    · exact (hstopped.connectReturned _).imp_right .inr
    · exact ⟨hobserved.connectMouse maxPaired _ a, .inl hin⟩
    · exact ((hobserved.connectMouse maxPaired _ a).connectReturned _).imp_right .inr
  unfold State.connectWorkCb
  dsimp only
  split
  case isTrue => exact hbegun.1.connectWorkEnd a
  case isFalse hout => exact hbegun.imp_right fun h => h.resolve_left hout

/-- `connect_work_cb` without interference; the connect function clears `scan_wanted` by itself
(`Label.want`). -/
theorem connect_work_alone (maxPaired : ℕ) (s : State) (a : Answers) (active : Option Owner) :
    Ends a s active (.stopConnect .compareAndSet)
      { s.connectWorkCb maxPaired a with scanWanted := s.scanWanted } := by
  obtain ⟨⟨howned, hsettling⟩, hconnecting⟩ := connectWorkCb_sameScan s maxPaired a
  have hwanted : (s.stopOwnScan a.scanStop).1.scanWanted = s.scanWanted := by
    obtain ⟨scanOwned, journal, heq⟩ := s.stopOwnScan_eq a.scanStop
    rw [heq]
  have hclear (active : Option Owner) : Ends a (s.stopOwnScan a.scanStop).1 active .clearConnecting
      { s.connectWorkCb maxPaired a with scanWanted := s.scanWanted } := by
    refine .step (t := { (s.stopOwnScan a.scanStop).1 with connecting := false }) (o := active)
      rfl (.done ?_)
    simp only [Shared.of, howned, hsettling, hconnecting, hwanted]
  refine .stop (fun _ _ => rfl) fun active => ?_
  split
  case isTrue => exact .step (t := (s.stopOwnScan a.scanStop).1) rfl (hclear active)
  case isFalse => exact hclear active

/-- Some operations of the receive thread, with nothing between them. -/
def receiveAlone (scanStop : ℤ) : ℕ → Shared × ReceivePc → Shared × ReceivePc
  | 0, p => p
  | n + 1, p => receiveAlone scanStop n (p.2.step p.1 scanStop)

/-- `connection_changed` without interference -/
theorem connection_changed_alone (s : State) (scanStop : ℤ) (active : Option Owner) :
    ∃ n active', receiveAlone scanStop n (.of s active, .setSettling) =
      (.of (s.connectionChanged scanStop) active', .idle) := by
  unfold State.connectionChanged State.stopOwnScan
  by_cases howned : s.scanOwned = true
  case neg =>
    refine ⟨2, active, ?_⟩
    simp [receiveAlone, ReceivePc.step, StopPc.step, Shared.of, State.schedule, howned]
  by_cases hfails : scanStop ≠ 0 ∧ scanStop ≠ -eAlready
  · refine ⟨4, active, ?_⟩
    simp [receiveAlone, ReceivePc.step, StopPc.step, Shared.scanStop, Shared.of, State.schedule,
      State.observe, stopFails, howned, hfails]
  · refine ⟨3, if scanStop = 0 then none else active, ?_⟩
    by_cases hok : scanStop = 0
    · simp [receiveAlone, ReceivePc.step, StopPc.step, Shared.scanStop, Shared.of, State.schedule,
        State.observe, stopFails, howned, hok]
    · have halready : scanStop = -eAlready := by
        by_contra hother
        exact hfails ⟨hok, hother⟩
      have herr : -eAlready ≠ 0 := by decide
      simp [receiveAlone, ReceivePc.step, StopPc.step, Shared.scanStop, Shared.of, State.schedule,
        State.observe, stopFails, howned, halready, herr]

end BleMouse.Client.ScanThreads
