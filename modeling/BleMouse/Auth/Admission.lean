/-
The admission of pairing requests without Secure Connections.

The guard asks the client, `zmk_ble_mouse_legacy_pairing_allowed`, and runs beside it.  Such a
request is accepted only while the pairing window is open, and only for the connection of an
attempt that the client made in it for a new device.

* `Admitted`: what holds of the client and the connection when a request is accepted;
* `legacy_pairing_admission`: the main result.
-/
import BleMouse.Auth.Guard
import BleMouse.Client.PairWindow
import BleMouse.Client.Readiness

namespace BleMouse.Client

/-! ### The permission -/

/-- The types of connections. -/
inductive ConnType
  | le
  | other (type : ℕ)
deriving DecidableEq, Repr

/-- The roles of a connection. -/
inductive Role
  | central
  | peripheral
deriving DecidableEq, Repr

/-- `struct bt_conn_info` -/
structure ConnInfo where
  type : ConnType
  role : Role
  id : ℕ
deriving DecidableEq, Repr

/-- `BT_ID_DEFAULT` -/
def btIdDefault : ℕ := 0

/-- `zmk_ble_mouse_legacy_pairing_allowed`; `info` is `bt_conn_get_info`, which may fail -/
def State.zmkBleMouseLegacyPairingAllowed (s : State) (info : Conn → Option ConnInfo) :
    Option Conn → Bool
  | none => false
  | some conn =>
    if !s.pairing || s.havePeer || decide (s.failure ≠ 0) || !s.newCandidate ||
        (decide (s.stage ≠ .connecting) && decide (s.stage ≠ .security)) then false
    else
      match info conn with
      | none => false
      | some i =>
        if i.type ≠ .le ∨ i.role ≠ .central ∨ i.id ≠ btIdDefault then false
        else
          s.owns conn || (s.mouseConn.isNone && decide (s.stage = .connecting) &&
            decide (conn.dst = s.connectingAddress))

/-- Legacy pairing is admitted on a connection: the window is open and will be closed, no peer
is saved, and the connection is the one of an attempt for a new device, not yet encrypted. -/
structure Admitted (s : State) (info : Conn → Option ConnInfo) (c : Conn) : Prop where
  pairing : s.pairing = true
  window : s.work.Pending .pairTimeout
  unsaved : s.havePeer = false
  unfailed : s.failure = 0
  stage : s.stage = .connecting ∨ s.stage = .security
  link : info c = some ⟨.le, .central, btIdDefault⟩
  /-- It is `mouse_conn`, or auto-connect completed before `mouse_conn` is set. -/
  conn : s.mouseConn = some c ∨ s.mouseConn = none ∧ s.inConnect = true
  address : c.dst = s.connectingAddress
  candidate : s.newCandidate = true
  /-- The latest attempt is for its address, which was not bonded before and has not been
  registered. -/
  attempt : s.host.attempt.active = true ∧
    s.host.attempt.candidacy = (c.dst, true, false, false)

/-- What the permission says. -/
lemma State.zmkBleMouseLegacyPairingAllowed_iff {s : State} {info : Conn → Option ConnInfo}
    {c : Conn} : s.zmkBleMouseLegacyPairingAllowed info (some c) = true ↔
      (s.pairing = true ∧ s.havePeer = false ∧ s.failure = 0 ∧ s.newCandidate = true ∧
        (s.stage = .connecting ∨ s.stage = .security)) ∧
      info c = some ⟨.le, .central, btIdDefault⟩ ∧
      (s.mouseConn = some c ∨
        s.mouseConn = none ∧ s.stage = .connecting ∧ c.dst = s.connectingAddress) := by
  unfold zmkBleMouseLegacyPairingAllowed
  dsimp only
  split_ifs with hrefused
  · refine ⟨False.elim, ?_⟩
    rintro ⟨⟨hpairing, hpeer, hfailure, hnew, hstage⟩, -, -⟩
    rcases hstage with hstage | hstage <;>
      simp [hpairing, hpeer, hfailure, hnew, hstage] at hrefused
  · have hopen : s.pairing = true ∧ s.havePeer = false ∧ s.failure = 0 ∧ s.newCandidate = true ∧
        (s.stage = .connecting ∨ s.stage = .security) := by
      simp only [Bool.or_eq_true, Bool.and_eq_true, Bool.not_eq_true', decide_eq_true_eq,
        not_or, not_and, Bool.not_eq_false, Bool.not_eq_true, Decidable.not_not] at hrefused
      obtain ⟨⟨⟨⟨hpairing, hpeer⟩, hfailure⟩, hnew⟩, hstage⟩ := hrefused
      exact ⟨hpairing, hpeer, hfailure, hnew, or_iff_not_imp_left.2 hstage⟩
    rw [and_iff_right hopen]
    cases hinfo : info c with
    | none => simp
    | some i =>
      obtain ⟨type, role, id⟩ := i
      dsimp only
      split_ifs with hother
      · refine ⟨False.elim, ?_⟩
        rintro ⟨hlink, -⟩
        obtain ⟨rfl, rfl, rfl⟩ := ConnInfo.mk.inj (Option.some.inj hlink)
        simp at hother
      · have hlink : some (ConnInfo.mk type role id) = some ⟨.le, .central, btIdDefault⟩ := by
          simp only [ne_eq, not_or, Decidable.not_not] at hother
          obtain ⟨rfl, rfl, rfl⟩ := hother
          rfl
        rw [and_iff_right hlink]
        simp only [State.owns, Bool.or_eq_true, Bool.and_eq_true, decide_eq_true_eq,
          Option.isNone_iff_eq_none, and_assoc]

/-- An allowed connection is admitted in every state that a run reaches. -/
lemma admitted_of_allowed {s : State} (h : Reached s) (hwindow : Windowed s)
    {info : Conn → Option ConnInfo} {c : Conn}
    (hallowed : s.zmkBleMouseLegacyPairingAllowed info (some c) = true) : Admitted s info c := by
  obtain ⟨⟨hpairing, hpeer, hfailure, hnew, hstage⟩, hlink, hconn⟩ :=
    State.zmkBleMouseLegacyPairingAllowed_iff.1 hallowed
  -- a client with a stage other than idle has an attempt
  have hin : s.Engaged := by
    by_contra hidle
    rcases hstage with hstage | hstage <;>
      exact Stage.noConfusion ((h.coherent.idle hidle).symm.trans hstage)
  have haddress : c.dst = s.connectingAddress := by
    rcases hconn with hc | ⟨-, -, haddress⟩
    · exact h.coherent.address c hc
    · exact haddress
  have hboth : (s.host.attempt.new && !s.host.attempt.registered) = true :=
    (h.enrolled.candidate hin).symm.trans hnew
  obtain ⟨hcandidate, hunregistered⟩ := Bool.and_eq_true_iff.1 hboth
  refine ⟨hpairing, hwindow hpairing, hpeer, hfailure, hstage, hlink, ?_, haddress, hnew,
    h.coherent.active.1 hin, ?_⟩
  · rcases hconn with hc | ⟨hnone, -, -⟩
    · exact .inl hc
    · exact .inr ⟨hnone, hin.resolve_left fun hsome => hsome hnone⟩
  · unfold Attempt.candidacy
    rw [h.coherent.addr hin, ← haddress, hcandidate, h.enrolled.fresh hcandidate,
      Bool.eq_false_of_not_eq_true' hunregistered]

end BleMouse.Client

namespace BleMouse.Auth

open BleMouse.Client

/-! ### The guard beside the client -/

/-- The client and the guard. -/
abbrev System := State × Guard

namespace System

/-- The system after `auth_guard_init`, whatever the host answers. -/
def start (bonds : List Addr) (err : ℤ) : System :=
  (State.init bonds, ({} : Guard).authGuardInit err)

/-- The steps of the client, its late callbacks, and those of the guard, in any order. -/
abbrev Step (maxPaired : ℕ) : System → Label ⊕ Action → System → Prop :=
  Transition.Beside (LateStep maxPaired) (Transition.Steps Guard.next)

/-- The host asks the table of a connection about a pairing request. -/
def pairingAccept (p : System) (info : Conn → Option ConnInfo)
    (application : AppFunction → Option Conn → Option PairingFeat → SecurityErr)
    (auth : Option Table) (conn : Option Conn) (feat : Option PairingFeat) : SecurityErr :=
  p.2.pairingAccept ⟨p.1.zmkBleMouseLegacyPairingAllowed info, application⟩ auth conn feat

end System

variable {maxPaired : ℕ} {bonds : List Addr} {err : ℤ} {before after : List (Label ⊕ Action)}
  {t p : System}

/-- The guard is itself in every state of a run. -/
lemma run_guarded
    (hrun : Transition.Run (System.Step maxPaired) (System.start bonds err) before p) :
    Guarded p.2 :=
  (Transition.Beside.right_of_run hrun).invariant Guarded (.init err)
    fun _ _ _ h hstep => h.step hstep

/-- A table that a connection kept stays what it was. -/
lemma run_latched {auth : Option Table} (ht : Guarded t.2) (hlatched : t.2.Latched auth)
    (hrun : Transition.Run (System.Step maxPaired) t after p) : p.2.Latched auth := by
  have hboth := (Transition.Beside.right_of_run hrun).invariant
    (fun g => Guarded g ∧ g.Latched auth) ⟨ht, hlatched⟩
    fun _ _ _ ⟨h, hl⟩ hstep => ⟨h.step hstep, hl.step h hstep⟩
  exact hboth.2

/-- The pairing window is watched in every state of a run. -/
lemma run_windowed {labels : List Label} {s : State}
    (hrun : Transition.Run (LateStep maxPaired) (State.init bonds) labels s) : Windowed s := by
  have hboth := run_late hrun (fun s => Coherent s ∧ Windowed s)
    ⟨coherent_init bonds, fun hopen => absurd hopen Bool.false_ne_true⟩
    fun _ _ _ ⟨hs, h⟩ hstep => ⟨hs.step hstep, h.step hs hstep⟩
  exact hboth.2

/-- **Legacy pairing admission.**  `auth_guard_init` comes first, and the client and the guard
take any steps.  A connection may keep the table it finds at any moment at which no wrapper is
executing, and a request without Secure Connections comes at any later moment, also inside
`connect_mouse` and while a wrapper is executing.  If its table accepts the request, the
connection is admitted (`Admitted`), and the application, if it has a say, accepts as well. -/
theorem legacy_pairing_admission
    (hbefore : Transition.Run (System.Step maxPaired) (System.start bonds err) before t)
    (hquiet : t.2.call = none) (hafter : Transition.Run (System.Step maxPaired) t after p)
    (info : Conn → Option ConnInfo)
    (application : AppFunction → Option Conn → Option PairingFeat → SecurityErr)
    (conn : Option Conn) (feat : Option PairingFeat) (hlegacy : ∀ f ∈ feat, f.secure = false)
    (haccept : p.pairingAccept info application t.2.auth conn feat = .success) :
    ∃ c f, conn = some c ∧ feat = some f ∧ Admitted p.1 info c ∧
      ∀ app ∈ p.2.applicationAccept, application app conn feat = .success := by
  have hrun := hbefore.append hafter
  have hguarded := run_guarded hbefore
  have hlatched := run_latched hguarded (hguarded.latched hquiet) hafter
  obtain ⟨c, f, rfl, rfl, hallowed, happ⟩ :=
    accept_legacy (run_guarded hrun) hlatched hlegacy haccept
  have hclient := Transition.Beside.left_of_run hrun
  exact ⟨c, f, rfl, rfl, admitted_of_allowed (run_reached hclient) (run_windowed hclient) hallowed,
    happ⟩

/-- The guard after an application has registered a table with `pairing_accept`. -/
def registeredGuard : Guard where
  guardedAuth := { pairingAccept := some .guardedAccept }
  applicationAccept := some 0
  applicationRegistered := true
  auth := some .guardedAuth

/-- The mouse of the tests asks to pair inside `connect_mouse`, before its connection is
stored. -/
theorem legacy_pairing_admission_early : ∃ s : State,
    Transition.Run (System.Step 8) (System.start [] 0)
      ([.register (some { pairingAccept := some 0 }), .proceed 0, .proceed 0].map .inr ++
        ((pairingRequest ⟨1, ⟨1, 7⟩⟩).dropLast ++ [Label.connectBegin {}]).map .inl)
      (s, registeredGuard) ∧
    Admitted s (fun _ => some ⟨.le, .central, 0⟩) ⟨1, ⟨1, 7⟩⟩ ∧ s.mouseConn = none := by
  obtain ⟨s, hrun, hp⟩ := exists_run 8 (State.init [])
    ((pairingRequest ⟨1, ⟨1, 7⟩⟩).dropLast ++ [.connectBegin {}])
    (fun s => s.zmkBleMouseLegacyPairingAllowed (fun _ => some ⟨.le, .central, 0⟩)
      (some ⟨1, ⟨1, 7⟩⟩) && s.mouseConn.isNone) (by decide +kernel)
  obtain ⟨hallowed, hnone⟩ := Bool.and_eq_true_iff.1 hp
  have hregistered : Transition.Run (System.Step 8) (System.start [] 0)
      ([.register (some { pairingAccept := some 0 }), .proceed 0, .proceed 0].map .inr)
      (State.init [], registeredGuard) :=
    Transition.Beside.run_right _ (Transition.Run.of_foldlM rfl)
  have hclient : Transition.Run (System.Step 8) (State.init [], registeredGuard)
      (((pairingRequest ⟨1, ⟨1, 7⟩⟩).dropLast ++ [Label.connectBegin {}]).map .inl)
      (s, registeredGuard) :=
    Transition.Beside.run_left (hrun.mono fun _ _ _ hstep => .inl hstep) registeredGuard
  have haccept : System.pairingAccept (s, registeredGuard) (fun _ => some ⟨.le, .central, 0⟩)
      (fun _ _ _ => .success) (some .guardedAuth) (some ⟨1, ⟨1, 7⟩⟩) (some ⟨1⟩) = .success := by
    unfold System.pairingAccept
    rw [(run_guarded (hregistered.append hclient)).pairingAccept_eq rfl]
    exact Guard.guardedAccept_iff.2 ⟨_, _, rfl, rfl, .inr hallowed, fun _ _ => rfl⟩
  obtain ⟨c, f, hc, -, hadmitted, -⟩ := legacy_pairing_admission hregistered rfl hclient
    (fun _ => some ⟨.le, .central, 0⟩) (fun _ _ _ => .success) (some ⟨1, ⟨1, 7⟩⟩) (some ⟨1⟩)
    (by decide) haccept
  obtain rfl := Option.some.inj hc
  exact ⟨s, hregistered.append hclient, hadmitted, Option.isNone_iff_eq_none.1 hnone⟩

end BleMouse.Auth
