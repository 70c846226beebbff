/-
The saved peer.

`peer` and `have_peer` are written by `settings_set`, by `finish_ready` when it registers a
mouse, and by `forget_peer`.  `settings_set` lets the read write into `peer` before it checks
what has been read, so a call that fails may leave another address there.

* `Reads`: when it does not;
* `saved_peer_kept`: in a run of these calls in which every load is such, the address that the
  client has is the one loaded or registered last.
-/
import BleMouse.Client.Gatt
import BleMouse.Lib.Transition

namespace BleMouse.Client

/-- A public or random address other than `BT_ADDR_LE_ANY`: the random address of all zeros is
one, as `settings_set` compares with `BT_ADDR_LE_ANY` only. -/
structure Addr.Usable (addr : Addr) : Prop where
  type_le : addr.type ≤ 1
  ne_any : addr ≠ .any

instance (addr : Addr) : Decidable addr.Usable :=
  decidable_of_iff (addr.type ≤ 1 ∧ addr ≠ .any) ⟨fun h => ⟨h.1, h.2⟩, fun h => ⟨h.1, h.2⟩⟩

/-! ### Calls -/

/-- The calls that write the saved peer: a load by `settings_set`, a registration by
`finish_ready`, a Clear by `forget_peer`. -/
inductive Call
  | load (name : String) (length : ℕ) (contents : Addr) (result : ℤ)
  | register (conn : Conn) (answers : Answers)
  | clear (answers : Answers)
deriving DecidableEq, Repr

namespace State

variable (s : State)

/-- The state after a call. -/
def call : Call → State
  | .load name length contents result => (s.settingsSet name length contents result).1
  | .register conn a => s.finishReady conn a
  | .clear a => s.forgetPeer a

/-- The address that a call loads, or registers when `settings_save_one` has succeeded. -/
def recorded : Call → Option Addr
  | .load name length contents result =>
    if (s.settingsSet name length contents result).2 = 0 then some contents else none
  | .register conn a =>
    if .save conn.dst 0 ∈ (s.finishReady conn a).journal.drop s.journal.length then some conn.dst
    else none
  | .clear _ => none

/-- A load reads a record that is valid, or leaves `peer` as it was. -/
def Reads (name : String) (length : ℕ) (contents : Addr) (result : ℤ) : Prop :=
  name = "peer" → length = 7 → result = 7 ∧ contents.Usable ∨ contents = s.peer

instance (name : String) (length : ℕ) (contents : Addr) (result : ℤ) :
    Decidable (s.Reads name length contents result) := by
  unfold Reads
  infer_instance

end State

/-! ### Runs of calls -/

/-- The client with the address that was loaded or registered last. -/
abbrev Saved := State × Option Addr

/-- A call, after anything else has happened that leaves the saved peer alone.  The address of
a connection is that of a device. -/
inductive Calls (p : Saved) : Call → Saved → Prop
  | call {s : State} (c : Call) (hpeer : s.peer = p.1.peer) (hhave : s.havePeer = p.1.havePeer)
      (hconn : ∀ conn a, c = .register conn a → conn.dst.Usable) :
      Calls p c (s.call c, (s.recorded c).or p.2)

/-- A call whose load, if it is one, reads a valid record or nothing. -/
def CleanCalls (p : Saved) (c : Call) (p' : Saved) : Prop :=
  (∀ name length contents result, c = .load name length contents result →
    p.1.Reads name length contents result) ∧ Calls p c p'

/-! ### What a call does -/

section Calls

variable {s : State}

/-- The cases of a load. -/
lemma settingsSet_cases (s : State) (name : String) (length : ℕ) (contents : Addr) (result : ℤ) :
    (s.settingsSet name length contents result).2 = 0 ∧ name = "peer" ∧ length = 7 ∧
        result = 7 ∧ contents.Usable ∧
        (s.settingsSet name length contents result).1 =
          { s with peer := contents, havePeer := true } ∨
      (s.settingsSet name length contents result).2 ≠ 0 ∧
        ((s.settingsSet name length contents result).1 = s ∧ ¬(name = "peer" ∧ length = 7) ∨
          name = "peer" ∧ length = 7 ∧ ¬(result = 7 ∧ contents.Usable) ∧
          (s.settingsSet name length contents result).1 = { s with peer := contents }) := by
  have hnoEnt : -eNoEnt ≠ 0 := by decide
  have hinval : -eInval ≠ 0 := by decide
  unfold State.settingsSet
  split
  case isTrue hname =>
    exact .inr ⟨hnoEnt, .inl ⟨rfl, fun h => hname h.1⟩⟩
  case isFalse hname =>
    split
    case isTrue hlength => exact .inr ⟨hinval, .inl ⟨rfl, fun h => hlength h.2⟩⟩
    case isFalse hlength =>
      rw [not_not] at hname hlength
      dsimp only
      split
      case isTrue hvalid =>
        exact .inl ⟨rfl, hname, hlength, hvalid.1, ⟨hvalid.2.1, hvalid.2.2⟩, rfl⟩
      case isFalse hvalid =>
        exact .inr ⟨hinval, .inr ⟨hname, hlength, fun h => hvalid ⟨h.1, h.2.1, h.2.2⟩, rfl⟩⟩

/-- When a load that fails leaves the saved peer as it was. -/
lemma reads_iff (s : State) (name : String) (length : ℕ) (contents : Addr) (result : ℤ) :
    ((s.settingsSet name length contents result).2 ≠ 0 →
      (s.settingsSet name length contents result).1.peer = s.peer ∧
        (s.settingsSet name length contents result).1.havePeer = s.havePeer) ↔
      s.Reads name length contents result := by
  rcases settingsSet_cases s name length contents result with
    ⟨hzero, -, -, hresult, husable, -⟩ | ⟨herr, ⟨hsame, hother⟩ | ⟨hname, hlength, hvalid, heq⟩⟩
  · exact iff_of_true (fun herr => absurd hzero herr) fun _ _ => .inl ⟨hresult, husable⟩
  · rw [hsame]
    exact iff_of_true (fun _ => ⟨rfl, rfl⟩) fun hname hlength => absurd ⟨hname, hlength⟩ hother
  · rw [heq]
    constructor
    · exact fun hkept _ _ => .inr (hkept herr).1
    · intro hreads _
      rcases hreads hname hlength with hok | hsame
      · exact absurd hok hvalid
      · exact ⟨hsame, rfl⟩

/-- A registration saves the address and has it, or leaves the saved peer alone. -/
lemma finishReady_effect (s : State) (conn : Conn) (a : Answers) :
    (s.finishReady conn a).peer = conn.dst ∧ (s.finishReady conn a).havePeer = true ∧
        (s.finishReady conn a).journal = s.journal ++ [.save conn.dst 0, .registered conn.dst] ∨
      (s.finishReady conn a).peer = s.peer ∧ (s.finishReady conn a).havePeer = s.havePeer ∧
        ((s.finishReady conn a).journal = s.journal ∨
          ∃ err ≠ 0, (s.finishReady conn a).journal = s.journal ++ [.save conn.dst err]) := by
  unfold State.finishReady
  split
  case isTrue => exact .inr ⟨rfl, rfl, .inl rfl⟩
  case isFalse =>
  split
  case isFalse => exact .inr ⟨rfl, rfl, .inl rfl⟩
  case isTrue =>
  split
  case isTrue => exact .inr ⟨rfl, rfl, .inl rfl⟩
  case isFalse =>
  dsimp only
  split
  case isTrue hsave => exact .inr ⟨rfl, rfl, .inr ⟨a.save, hsave, rfl⟩⟩
  case isFalse hsave =>
    rw [not_not] at hsave
    refine .inl ⟨rfl, rfl, ?_⟩
    show (s.journal ++ [.save conn.dst a.save]) ++ [.registered conn.dst] = _
    rw [hsave, List.append_assoc]
    rfl

lemma registers_cases (s : State) (conn : Conn) (a : Answers) :
    (s.finishReady conn a).peer = conn.dst ∧ s.recorded (.register conn a) = some conn.dst ∨
      (s.finishReady conn a).peer = s.peer ∧ (s.finishReady conn a).havePeer = s.havePeer ∧
        s.recorded (.register conn a) = none := by
  unfold State.recorded
  dsimp only
  rcases finishReady_effect s conn a with ⟨hpeer, -, heq⟩ | ⟨hpeer, hhave, heq | ⟨err, herr, heq⟩⟩
  · rw [heq, List.drop_left]
    exact .inl ⟨hpeer, if_pos List.mem_cons_self⟩
  · rw [heq, List.drop_length]
    exact .inr ⟨hpeer, hhave, if_neg List.not_mem_nil⟩
  · rw [heq, List.drop_left]
    refine .inr ⟨hpeer, hhave, if_neg fun hmem => herr ?_⟩
    exact (Obs.save.inj (List.mem_singleton.1 hmem)).2.symm

/-- After a Clear the client has no saved peer, or the one it had. -/
lemma forgetPeer_cases (s : State) (a : Answers) :
    (s.forgetPeer a).havePeer = false ∨
      (s.forgetPeer a).peer = s.peer ∧ (s.forgetPeer a).havePeer = s.havePeer := by
  unfold State.forgetPeer
  dsimp only
  split
  case isTrue =>
    split
    · exact .inr ⟨rfl, rfl⟩
    · exact .inl rfl
  case isFalse hhave => exact .inl (Bool.eq_false_of_not_eq_true hhave)

end Calls

/-- The client has the address that was loaded or registered last, and it is usable. -/
def Kept (p : Saved) : Prop :=
  p.1.havePeer = true → p.1.peer.Usable ∧ p.2 = some p.1.peer

/-- A clean call preserves it. -/
lemma Kept.call {p p' : Saved} {c : Call} (h : Kept p) (hcall : CleanCalls p c p') : Kept p' := by
  obtain ⟨hreads, hcall⟩ := hcall
  cases hcall with
  | @call s c hpeer hhave hconn =>
    have hkept : Kept (s, p.2) := by
      intro hs
      show s.peer.Usable ∧ p.2 = some s.peer
      rw [hpeer]
      exact h (hhave ▸ hs)
    -- what leaves the saved peer alone and records nothing preserves it
    have hsame {t : State} {last : Option Addr} (ht : t.peer = s.peer)
        (ht' : t.havePeer = s.havePeer) (hlast : last = none) : Kept (t, last.or p.2) := by
      intro hthave
      rw [hlast]
      show t.peer.Usable ∧ p.2 = some t.peer
      rw [ht]
      exact hkept (ht' ▸ hthave)
    cases c with
    | load name length contents result =>
      have hrecorded : s.recorded (.load name length contents result) =
          if (s.settingsSet name length contents result).2 = 0 then some contents else none := rfl
      rcases settingsSet_cases s name length contents result with
        ⟨hzero, -, -, -, husable, heq⟩ |
          ⟨herr, ⟨heq, -⟩ | ⟨hname, hlength, hvalid, heq⟩⟩
      · intro _
        show (s.settingsSet name length contents result).1.peer.Usable ∧ _ =
          some (s.settingsSet name length contents result).1.peer
        rw [hrecorded, if_pos hzero, heq]
        exact ⟨husable, rfl⟩
      · refine hsame ?_ ?_ (hrecorded.trans (if_neg herr))
        · exact congrArg State.peer heq
        · exact congrArg State.havePeer heq
      · rcases hreads name length contents result rfl hname hlength with hok | hcontents
        · exact absurd hok hvalid
        · refine hsame ?_ ?_ (hrecorded.trans (if_neg herr))
          · show (s.settingsSet name length contents result).1.peer = s.peer
            rw [heq]
            exact hcontents.trans hpeer.symm
          · show (s.settingsSet name length contents result).1.havePeer = s.havePeer
            rw [heq]
    | register conn a =>
      rcases registers_cases s conn a with ⟨heq, hrecorded⟩ | ⟨heq, heq', hrecorded⟩
      · intro _
        show (s.finishReady conn a).peer.Usable ∧ _ = some (s.finishReady conn a).peer
        rw [heq, hrecorded]
        exact ⟨hconn conn a rfl, rfl⟩
      · exact hsame heq heq' hrecorded
    | clear a =>
      rcases forgetPeer_cases s a with hnone | ⟨heq, heq'⟩
      · exact fun hhave' => absurd (hnone.symm.trans hhave') Bool.false_ne_true
      · exact hsame heq heq' rfl

/-- **The saved peer is never half-changed by clean loads.**  A call of `settings_set` that fails
leaves `peer` and `have_peer` as they were exactly when it reads nothing but what was there or a
valid record.  In every run of loads, registrations and Clears whose loads are such, the client
has only a usable address, the one that was loaded or registered last. -/
theorem saved_peer_kept {s s' : State} {calls : List Call} {last : Option Addr}
    (hs : s.havePeer = false)
    (hrun : Transition.Run CleanCalls ((s, none) : Saved) calls (s', last)) :
    (∀ (t : State) (name : String) (length : ℕ) (contents : Addr) (result : ℤ),
      ((t.settingsSet name length contents result).2 ≠ 0 →
        (t.settingsSet name length contents result).1.peer = t.peer ∧
          (t.settingsSet name length contents result).1.havePeer = t.havePeer) ↔
        t.Reads name length contents result) ∧
    (s'.havePeer = true → s'.peer.Usable ∧ last = some s'.peer) := by
  refine ⟨reads_iff, hrun.invariant Kept ?_ fun _ _ _ h hcall => h.call hcall⟩
  exact fun hhave => absurd (hs.symm.trans hhave) Bool.false_ne_true

/-- The client after a load. -/
def loadedState : State := { peer := ⟨1, 9⟩, havePeer := true }

/-- A load, and another one whose read fails before it writes anything. -/
theorem saved_peer_kept_loaded :
    (∀ (t : State) (name : String) (length : ℕ) (contents : Addr) (result : ℤ),
      ((t.settingsSet name length contents result).2 ≠ 0 →
        (t.settingsSet name length contents result).1.peer = t.peer ∧
          (t.settingsSet name length contents result).1.havePeer = t.havePeer) ↔
        t.Reads name length contents result) ∧
    (loadedState.havePeer = true → loadedState.peer.Usable ∧
      some ⟨1, 9⟩ = some loadedState.peer) := by
  have hload : CleanCalls ({}, none) (.load "peer" 7 ⟨1, 9⟩ 7) (loadedState, some ⟨1, 9⟩) := by
    refine ⟨?_, .call _ rfl rfl fun _ _ => Call.noConfusion⟩
    rintro name length contents result ⟨⟩
    decide
  have hfailed : CleanCalls (loadedState, some ⟨1, 9⟩) (.load "peer" 7 ⟨1, 9⟩ (-5))
      (loadedState, some ⟨1, 9⟩) := by
    refine ⟨?_, .call _ rfl rfl fun _ _ => Call.noConfusion⟩
    rintro name length contents result ⟨⟩
    decide
  exact saved_peer_kept (s := {}) rfl (.cons hload (.single hfailed))

/-- A record of seven bytes with the type 2 is read into the peer that was loaded before. -/
theorem failed_load_changes_peer :
    (¬∀ (t : State) (name : String) (length : ℕ) (contents : Addr) (result : ℤ),
      (t.settingsSet name length contents result).2 ≠ 0 →
        (t.settingsSet name length contents result).1.peer = t.peer ∧
          (t.settingsSet name length contents result).1.havePeer = t.havePeer) ∧
    ¬∀ (s s' : State) (calls : List Call) (last : Option Addr), s.havePeer = false →
      Transition.Run Calls ((s, none) : Saved) calls (s', last) →
        s'.havePeer = true → s'.peer.Usable ∧ last = some s'.peer := by
  constructor
  · intro hall
    have hkept := (hall loadedState "peer" 7 ⟨2, 5⟩ 7 (by decide)).1
    exact absurd hkept (by decide)
  · intro hall
    have hload : Calls ({}, none) (.load "peer" 7 ⟨1, 9⟩ 7) (loadedState, some ⟨1, 9⟩) :=
      .call _ rfl rfl fun _ _ => Call.noConfusion
    have hfailed : Calls (loadedState, some ⟨1, 9⟩) (.load "peer" 7 ⟨2, 5⟩ 7)
        ({ loadedState with peer := ⟨2, 5⟩ }, some ⟨1, 9⟩) :=
      .call _ rfl rfl fun _ _ => Call.noConfusion
    have hkept := hall {} _ _ _ rfl (.cons hload (.single hfailed)) rfl
    exact absurd hkept.1 (by decide)

end BleMouse.Client
