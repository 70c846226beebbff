/-
The guard of the authentication callbacks, `src/auth_guard.c`.

The host calls the table of callbacks that is registered with it, and a connection keeps the
table it finds first.  The guard owns two tables, `initial_auth` and `guarded_auth`, and lets
the application register a table once: it removes `initial_auth`, registers `guarded_auth`,
and registers `initial_auth` again if that fails.  Between its calls of the host other threads
run.

* `Guard.next`: the calls of the wrappers, and what the host does in them;
* `Guarded`: which table is registered, and what it holds;
* `accept_legacy`: who may pair without Secure Connections.
-/
import BleMouse.Client.State
import BleMouse.Lib.Transition

namespace BleMouse.Auth

open BleMouse.Client

/-! ### Pairing requests -/

/-- `enum bt_security_err` -/
inductive SecurityErr
  | success
  | authFail
  | authRequirement
  | pairNotAllowed
  | other (code : ℕ)
deriving DecidableEq, Repr

/-- `struct bt_conn_pairing_feat`, of which `auth_req` is read -/
structure PairingFeat where
  authReq : BitVec 8
deriving DecidableEq, Repr

/-- `AUTH_SECURE_CONNECTIONS` -/
def authSecureConnections : BitVec 8 := 1 <<< 3

/-- The request is for Secure Connections. -/
def PairingFeat.secure (feat : PairingFeat) : Bool :=
  decide (feat.authReq &&& authSecureConnections ≠ 0)

/-! ### Tables of callbacks -/

/-- A function of the application. -/
abbrev AppFunction := ℕ

/-- The functions a table may hold as `pairing_accept`. -/
inductive Accept
  | scOnlyAccept
  | guardedAccept
  | application (f : AppFunction)
deriving DecidableEq, Repr

/-- `struct bt_conn_auth_cb`, with functions of type `α` as `pairing_accept` -/
structure AuthCb (α : Type) where
  pairingAccept : Option α := none
  passkeyDisplay : Option AppFunction := none
  passkeyEntry : Option AppFunction := none
  passkeyConfirm : Option AppFunction := none
  pairingConfirm : Option AppFunction := none
  cancel : Option AppFunction := none
deriving DecidableEq, Repr

/-- The table of an application. -/
abbrev AppAuthCb := AuthCb AppFunction

/-- A copy of the table. -/
def AppAuthCb.copy (cb : AppAuthCb) : AuthCb Accept :=
  { cb with pairingAccept := cb.pairingAccept.map .application }

/-- The table has a callback that asks the user and none to cancel it. -/
def AppAuthCb.uncancellable (cb : AppAuthCb) : Bool :=
  cb.cancel.isNone && (cb.passkeyDisplay.isSome || cb.passkeyEntry.isSome ||
    cb.passkeyConfirm.isSome || cb.pairingConfirm.isSome)

/-- The tables of the guard. -/
inductive Table
  | initialAuth
  | guardedAuth
deriving DecidableEq, Repr

/-- `initial_auth` -/
def initialAuth : AuthCb Accept := { pairingAccept := some .scOnlyAccept }

/-! ### The guard -/

/-- Where the wrapper of `bt_conn_auth_cb_register` is: before a call of the host. -/
inductive Call
  /-- `__real_bt_conn_auth_cb_register(NULL)` -/
  | remove
  /-- `__real_bt_conn_auth_cb_register(&guarded_auth)` -/
  | install
  /-- `__real_bt_conn_auth_cb_register(&initial_auth)`, after the error of `install` -/
  | restore (err : ℤ)
deriving DecidableEq, Repr

/-- The static variables of the file, with the table the host has. -/
structure Guard where
  guardedAuth : AuthCb Accept := {}
  applicationAccept : Option AppFunction := none
  applicationRegistered : Bool := false
  /-- The table that is registered with the host. -/
  auth : Option Table := none
  call : Option Call := none
  /-- What the latest wrapper to return returned. -/
  returned : ℤ := 0
deriving DecidableEq, Repr

/-- `__real_bt_conn_auth_cb_register`, with the error the host makes, if any -/
def realRegister (auth cb : Option Table) (err : ℤ) : ℤ × Option Table :=
  match cb, auth with
  | none, _ => if err ≠ 0 then (err, auth) else (0, none)
  -- an empty table takes `initial_auth`, whatever else fails
  | some .initialAuth, none => (0, some .initialAuth)
  | some cb, none => if err ≠ 0 then (err, none) else (0, some cb)
  | some _, some _ => (if err ≠ 0 then err else -eAlready, auth)

/-- `sc_only_accept` -/
def scOnlyAccept (feat : Option PairingFeat) : SecurityErr :=
  if feat.any PairingFeat.secure then .success else .authRequirement

/-- What the guard calls: `zmk_ble_mouse_legacy_pairing_allowed` of the client, and the
functions of the application. -/
structure Callees where
  allowed : Option Conn → Bool
  application : AppFunction → Option Conn → Option PairingFeat → SecurityErr

namespace Guard

variable (g : Guard)

/-- `auth_guard_init` -/
def authGuardInit (err : ℤ) : Guard :=
  if g.applicationRegistered then { g with returned := 0 }
  else
    let real := realRegister g.auth (some .initialAuth) err
    { g with auth := real.2, returned := real.1 }

/-- The head of `__wrap_bt_conn_auth_cb_register`, up to its first call of the host -/
def wrapRegister : Option AppAuthCb → Guard
  | none => { g with returned := -eNotSup }
  | some cb =>
    if g.applicationRegistered then { g with returned := -eAlready }
    else if AppAuthCb.uncancellable cb then { g with returned := -eInval }
    else
      { g with
        guardedAuth := { AppAuthCb.copy cb with pairingAccept := some .guardedAccept }
        applicationAccept := cb.pairingAccept
        call := some .remove }

/-- A call of the host in `__wrap_bt_conn_auth_cb_register`, and what follows it up to the
next one -/
def proceed (err : ℤ) : Call → Guard
  | .remove =>
    let real := realRegister g.auth none err
    if real.1 ≠ 0 then { g with auth := real.2, call := none, returned := real.1 }
    else { g with auth := real.2, call := some .install }
  | .install =>
    let real := realRegister g.auth (some .guardedAuth) err
    if real.1 ≠ 0 then { g with auth := real.2, call := some (.restore real.1) }
    else
      { g with auth := real.2, applicationRegistered := true, call := none, returned := 0 }
  | .restore failed =>
    let real := realRegister g.auth (some .initialAuth) err
    { g with auth := real.2, call := none, returned := failed }

/-- `__wrap_bt_conn_auth_cb_overlay` -/
def wrapOverlay (conn : Option Conn) (_cb : Option AppAuthCb) : Guard :=
  { g with returned := if conn.isSome then -eNotSup else -eInval }

/-- `guarded_accept` -/
def guardedAccept (callees : Callees) (conn : Option Conn) (feat : Option PairingFeat) :
    SecurityErr :=
  if conn.isNone || feat.isNone then .pairNotAllowed
  else if !feat.any PairingFeat.secure && !callees.allowed conn then .authRequirement
  else
    match g.applicationAccept with
    | some f => callees.application f conn feat
    | none => .success

/-- A table. -/
def table : Table → AuthCb Accept
  | .initialAuth => initialAuth
  | .guardedAuth => g.guardedAuth

/-- The host asks the table of a connection; without a table or without `pairing_accept` it
accepts every request. -/
def pairingAccept (callees : Callees) (auth : Option Table) (conn : Option Conn)
    (feat : Option PairingFeat) : SecurityErr :=
  match auth.bind fun t => (g.table t).pairingAccept with
  | none => .success
  | some .scOnlyAccept => scOnlyAccept feat
  | some .guardedAccept => g.guardedAccept callees conn feat
  | some (.application f) => callees.application f conn feat

end Guard

/-! ### Steps -/

/-- What happens to the guard. -/
inductive Action
  /-- `bt_conn_auth_cb_register` is called by the application. -/
  | register (cb : Option AppAuthCb)
  /-- The host executes the call the wrapper is at. -/
  | proceed (err : ℤ)
  /-- `bt_conn_auth_cb_overlay` is called by the application. -/
  | overlay (conn : Option Conn) (cb : Option AppAuthCb)
deriving DecidableEq, Repr

/-- A step.  The application calls `bt_conn_auth_cb_register` when its last call has returned. -/
def Guard.next (g : Guard) : Action → Option Guard
  | .register cb => if g.call.isNone then some (g.wrapRegister cb) else none
  | .proceed err => g.call.map (g.proceed err)
  | .overlay conn cb => some (g.wrapOverlay conn cb)

/-! ### The invariant -/

/-- The table that is registered at each point of the wrapper. -/
def Guard.due (g : Guard) : Option Table :=
  match g.call with
  | none => some (if g.applicationRegistered then .guardedAuth else .initialAuth)
  | some .remove => some .initialAuth
  | some .install => none
  | some (.restore _) => none

/-- The invariant of the guard. -/
structure Guarded (g : Guard) : Prop where
  auth : g.auth = g.due
  once : g.call ≠ none → g.applicationRegistered = false
  guarded : g.call ≠ none ∨ g.applicationRegistered = true →
    g.guardedAuth.pairingAccept = some .guardedAccept

namespace Guarded

variable {g g' : Guard}

/-- After `auth_guard_init` the boot table is registered, whatever the host answers. -/
lemma init (err : ℤ) : Guarded (({} : Guard).authGuardInit err) where
  auth := rfl
  once := fun hcall => absurd rfl hcall
  guarded := by
    rintro (hcall | hregistered)
    · exact absurd rfl hcall
    · exact absurd hregistered Bool.false_ne_true

lemma returned (h : Guarded g) (returned : ℤ) : Guarded { g with returned } :=
  { h with }

lemma wrapRegister (h : Guarded g) (hcall : g.call = none) (cb : Option AppAuthCb) :
    Guarded (g.wrapRegister cb) := by
  unfold Guard.wrapRegister
  split
  · exact h.returned _
  · split_ifs with hregistered
    · exact h.returned _
    · exact h.returned _
    · have hinitial : g.auth = some .initialAuth := by
        rw [h.auth, Guard.due, hcall]
        exact congrArg some (if_neg hregistered)
      exact ⟨hinitial, fun _ => Bool.eq_false_of_not_eq_true hregistered, fun _ => rfl⟩

lemma proceed (h : Guarded g) {call : Call} (hcall : g.call = some call) (err : ℤ) :
    Guarded (g.proceed err call) := by
  have hbusy : g.call ≠ none := hcall ▸ Option.some_ne_none call
  have hunregistered := h.once hbusy
  have hguarded := h.guarded (.inl hbusy)
  have hauth : g.auth = g.due := h.auth
  unfold Guard.due at hauth
  rw [hcall] at hauth
  cases call with
  | remove =>
    show Guarded (if _ then _ else _)
    rw [show g.auth = some .initialAuth from hauth]
    by_cases herr : err = 0
    · subst herr
      exact ⟨rfl, fun _ => hunregistered, fun _ => hguarded⟩
    · have hkept : realRegister (some .initialAuth) none err = (err, some .initialAuth) :=
        if_pos herr
      rw [hkept, if_pos herr]
      refine ⟨?_, fun hnone => absurd rfl hnone, fun _ => hguarded⟩
      show some Table.initialAuth = some (if g.applicationRegistered then _ else _)
      rw [hunregistered]
      rfl
  | install =>
    show Guarded (if _ then _ else _)
    rw [show g.auth = none from hauth]
    by_cases herr : err = 0
    · subst herr
      exact ⟨rfl, fun hnone => absurd rfl hnone, fun _ => hguarded⟩
    · rw [show realRegister none (some .guardedAuth) err = (err, none) from if_pos herr,
        if_pos herr]
      exact ⟨rfl, fun _ => hunregistered, fun _ => hguarded⟩
  | restore failed =>
    -- an empty table takes `initial_auth`, so the boot table is back
    have hback : realRegister g.auth (some .initialAuth) err = (0, some .initialAuth) := by
      rw [show g.auth = none from hauth]
      rfl
    show Guarded { g with
      auth := (realRegister g.auth (some .initialAuth) err).2, call := none, returned := failed }
    rw [hback]
    refine ⟨?_, fun hnone => absurd rfl hnone, fun _ => hguarded⟩
    show some Table.initialAuth = some (if g.applicationRegistered then _ else _)
    rw [hunregistered]
    rfl

/-- Every step keeps the guard. -/
theorem step (h : Guarded g) {a : Action} (hstep : g.next a = some g') : Guarded g' := by
  cases a with
  | register cb =>
    obtain ⟨hcall, heq⟩ := Option.ite_none_right_eq_some.1 hstep
    obtain rfl := Option.some.inj heq
    exact h.wrapRegister (Option.isNone_iff_eq_none.1 hcall) cb
  | proceed err =>
    obtain ⟨call, hcall, rfl⟩ := Option.map_eq_some_iff.1 hstep
    exact h.proceed hcall err
  | overlay conn cb =>
    obtain rfl := Option.some.inj hstep
    exact h.returned _

end Guarded

/-- A registration lasts. -/
lemma Guard.registered_step {g g' : Guard} (hg : g.applicationRegistered = true) (h : Guarded g)
    {a : Action} (hstep : g.next a = some g') : g'.applicationRegistered = true := by
  cases a with
  | register cb =>
    obtain ⟨-, heq⟩ := Option.ite_none_right_eq_some.1 hstep
    obtain rfl := Option.some.inj heq
    unfold Guard.wrapRegister
    split
    · exact hg
    · rw [if_pos hg]
      exact hg
  | proceed err =>
    obtain ⟨call, hcall, -⟩ := Option.map_eq_some_iff.1 hstep
    have hnot := h.once (hcall ▸ Option.some_ne_none call)
    exact absurd (hnot.symm.trans hg) Bool.false_ne_true
  | overlay conn cb =>
    obtain rfl := Option.some.inj hstep
    exact hg

/-! ### Latched tables -/

/-- A table that a connection may keep: the boot table, or that of a registered application. -/
def Guard.Latched (g : Guard) (auth : Option Table) : Prop :=
  auth = some .initialAuth ∨ auth = some .guardedAuth ∧ g.applicationRegistered = true

/-- While no wrapper is executing, the host has such a table. -/
lemma Guarded.latched {g : Guard} (h : Guarded g) (hcall : g.call = none) : g.Latched g.auth := by
  have hauth := h.auth
  unfold Guard.due at hauth
  rw [hcall] at hauth
  cases hregistered : g.applicationRegistered with
  | true =>
    rw [hregistered] at hauth
    exact .inr ⟨hauth, hregistered⟩
  | false =>
    rw [hregistered] at hauth
    exact .inl hauth

/-- A kept table stays what it was. -/
lemma Guard.Latched.step {g g' : Guard} {auth : Option Table} (hlatched : g.Latched auth)
    (h : Guarded g) {a : Action} (hstep : g.next a = some g') : g'.Latched auth :=
  hlatched.imp_right fun ⟨hauth, hregistered⟩ => ⟨hauth, registered_step hregistered h hstep⟩

/-- `sc_only_accept` accepts Secure Connections alone. -/
lemma scOnlyAccept_success {feat : Option PairingFeat} (h : scOnlyAccept feat = .success) :
    ∃ f, feat = some f ∧ f.secure = true := by
  unfold scOnlyAccept at h
  split at h
  case isTrue hsecure => exact (Option.any_eq_true _ _).1 hsecure
  case isFalse => exact SecurityErr.noConfusion h

/-- What `guarded_accept` accepts. -/
lemma Guard.guardedAccept_iff {g : Guard} {callees : Callees} {conn : Option Conn}
    {feat : Option PairingFeat} : g.guardedAccept callees conn feat = .success ↔
      ∃ c f, conn = some c ∧ feat = some f ∧ (f.secure = true ∨ callees.allowed conn = true) ∧
        ∀ app ∈ g.applicationAccept, callees.application app conn feat = .success := by
  unfold Guard.guardedAccept
  obtain _ | c := conn
  · simp
  obtain _ | f := feat
  · simp
  rw [if_neg (by simp)]
  split_ifs with hrefused
  · refine ⟨False.elim, ?_⟩
    rintro ⟨_, _, _, hf, hallowed, -⟩
    obtain rfl := Option.some.inj hf
    rcases hallowed with hsecure | hallowed
    · simp [hsecure] at hrefused
    · simp [hallowed] at hrefused
  · have hallowed : f.secure = true ∨ callees.allowed (some c) = true := by
      simp only [Option.any_some, Bool.and_eq_true, Bool.not_eq_true', not_and,
        Bool.not_eq_false] at hrefused
      exact or_iff_not_imp_left.2 fun hsecure => hrefused (Bool.eq_false_of_not_eq_true hsecure)
    cases happ : g.applicationAccept with
    | none => exact ⟨fun _ => ⟨c, f, rfl, rfl, hallowed, by simp⟩, fun _ => rfl⟩
    | some app =>
      refine ⟨fun h => ⟨c, f, rfl, rfl, hallowed, ?_⟩, ?_⟩
      · rintro _ happ'
        obtain rfl := Option.some.inj happ'
        exact h
      · rintro ⟨_, _, _, _, -, h⟩
        exact h app rfl

/-- The table of a registered application is asked by way of `guarded_accept`. -/
lemma Guarded.pairingAccept_eq {g : Guard} (h : Guarded g) (hg : g.applicationRegistered = true)
    (callees : Callees) (conn : Option Conn) (feat : Option PairingFeat) :
    g.pairingAccept callees (some .guardedAuth) conn feat = g.guardedAccept callees conn feat := by
  unfold Guard.pairingAccept
  rw [Option.bind_some, show g.table .guardedAuth = g.guardedAuth from rfl, h.guarded (.inr hg)]

/-- Whoever keeps such a table pairs without Secure Connections only where the client allows
it and the application does not refuse. -/
theorem accept_legacy {g : Guard} (h : Guarded g) {auth : Option Table} (hlatched : g.Latched auth)
    {callees : Callees} {conn : Option Conn} {feat : Option PairingFeat}
    (hlegacy : ∀ f ∈ feat, f.secure = false)
    (haccept : g.pairingAccept callees auth conn feat = .success) :
    ∃ c f, conn = some c ∧ feat = some f ∧ callees.allowed conn = true ∧
      ∀ app ∈ g.applicationAccept, callees.application app conn feat = .success := by
  rcases hlatched with rfl | ⟨rfl, hregistered⟩
  · obtain ⟨f, hf, hsecure⟩ := scOnlyAccept_success haccept
    exact absurd ((hlegacy f hf).symm.trans hsecure) Bool.false_ne_true
  · rw [h.pairingAccept_eq hregistered] at haccept
    obtain ⟨c, f, hc, hf, hallowed, happ⟩ := Guard.guardedAccept_iff.1 haccept
    refine ⟨c, f, hc, hf, hallowed.resolve_left fun hsecure => ?_, happ⟩
    exact Bool.false_ne_true ((hlegacy f hf).symm.trans hsecure)

end BleMouse.Auth
