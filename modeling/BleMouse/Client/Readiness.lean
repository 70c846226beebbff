/-
READY is sound.

Callbacks may also come late, for a connection that the client has given up (`LateStep`); they
change nothing.  In every state of such a run in which the mouse is ready, it is the saved
peer, was registered as it must be, and every control is carried by a report that has been
subscribed to.

* `ready_is_sound`: the main result.
-/
import BleMouse.Client.GattSafety
import BleMouse.Client.Registration

namespace BleMouse.Client

open BleMouse.Hid BleMouse.Output

/-! ### Late callbacks -/

/-- The connection of a callback of a GATT procedure or a subscription. -/
def Label.gattConn : Label → Option Conn
  | .discovered c .. | .readDone c .. | .written c .. | .subscribed c .. | .notified c .. => some c
  | _ => none

/-- What the client does in such a callback. -/
def State.callback (s : State) : Label → State
  | .discovered c _ _ _ attr => (s.discoverCb c attr).1
  | .readDone c _ err data => (s.readCb c err data).1
  | .written c _ _ err => s.writtenCb c err
  | .subscribed c i _ _ err => s.subscribedCb c err i
  | .notified c i data => s.notifyCb c i data
  | _ => s

/-- A callback of a connection that is not `mouse_conn`. -/
def Late (s : State) (l : Label) : Prop := ∃ c, l.gattConn = some c ∧ s.mouseConn ≠ some c

/-- The steps, and the late callbacks. -/
def LateStep (maxPaired : ℕ) (s : State) (l : Label) (s' : State) : Prop :=
  Step maxPaired s l s' ∨ Late s l ∧ s' = s.callback l

/-- A late callback changes nothing. -/
lemma Late.callback_eq {s : State} {l : Label} (h : Late s l) : s.callback l = s := by
  obtain ⟨c, hl, hc⟩ := h
  have hinvalid : (!s.validCallback c) = true := by
    rw [Bool.not_eq_true']
    by_contra hvalid
    exact hc (State.validCallback_iff.1 (Bool.eq_true_of_not_eq_false hvalid)).1
  cases l with
  | discovered _ type start stop attr =>
    obtain rfl := Option.some.inj hl
    exact congrArg Prod.fst (if_pos hinvalid)
  | readDone _ handle err data =>
    obtain rfl := Option.some.inj hl
    exact congrArg Prod.fst (if_pos hinvalid)
  | written =>
    obtain rfl := Option.some.inj hl
    exact if_pos hinvalid
  | subscribed =>
    obtain rfl := Option.some.inj hl
    exact if_pos hinvalid
  | notified =>
    obtain rfl := Option.some.inj hl
    exact if_pos (Bool.or_eq_true_iff.2 (.inl hinvalid))
  | _ => rfl

/-- What every step preserves holds after a run with late callbacks. -/
lemma run_late {maxPaired : ℕ} {start s : State} {labels : List Label}
    (hrun : Transition.Run (LateStep maxPaired) start labels s) (I : State → Prop)
    (hstart : I start)
    (hstep : ∀ t l t', I t → Step maxPaired t l t' → I t') : I s := by
  refine hrun.invariant I hstart fun t l t' ht hlate => ?_
  rcases hlate with hs | ⟨hlate, rfl⟩
  · exact hstep t l t' ht hs
  · rwa [hlate.callback_eq]

/-- What holds in every state of such a run. -/
structure Reached (s : State) : Prop where
  coherent : Coherent s
  surveyed : Surveyed s
  enrolled : Enrolled s

lemma run_reached {maxPaired : ℕ} {bonds : List Addr} {labels : List Label} {s : State}
    (hrun : Transition.Run (LateStep maxPaired) (State.init bonds) labels s) : Reached s :=
  run_late hrun Reached ⟨coherent_init bonds, surveyed_init bonds, enrolled_init bonds⟩
    fun _ _ _ h hstep => ⟨h.coherent.step hstep, h.surveyed.step h.coherent hstep,
      h.enrolled.step h.coherent hstep⟩

/-! ### Registration in the attempt -/

/-- The saved peer was registered in the attempt under way. -/
def RegisteredInAttempt (maxPaired : ℕ) (start : State) (labels : List Label) (s : State) : Prop :=
  ∃ t l t', Transition.Takes (LateStep maxPaired) start labels t l t' ∧ Registers t s.peer t' ∧
    t'.attempts = s.attempts

/-- A registration is made in a step of its attempt. -/
lemma run_registers {maxPaired : ℕ} {bonds : List Addr} {labels : List Label} {s : State}
    (hrun : Transition.Run (LateStep maxPaired) (State.init bonds) labels s)
    (hreg : s.host.attempt.registered = true) :
    ∃ t l t', Transition.Takes (LateStep maxPaired) (State.init bonds) labels t l t' ∧
      Registers t s.host.attempt.addr t' ∧ t'.attempts = s.attempts := by
  induction hrun with
  | nil => exact absurd hreg Bool.false_ne_true
  | @snoc u s labels l hrun hstep ih =>
    rcases hstep with hs | ⟨hlate, rfl⟩
    case inr =>
      rw [hlate.callback_eq] at hreg ⊢
      obtain ⟨t, l', t', htakes, hrest⟩ := ih hreg
      exact ⟨t, l', t', Transition.Takes.snoc htakes l, hrest⟩
    case inl =>
      obtain ⟨hattempts, hsame | hregisters⟩ :=
        registers_of_step (run_reached hrun).coherent hs hreg
      case inr => exact ⟨u, l, s, ⟨labels, List.prefix_refl _, hrun, .inl hs⟩, hregisters, rfl⟩
      case inl =>
        have haddr : s.host.attempt.addr = u.host.attempt.addr := congrArg (·.1) hsame
        have hregistered : s.host.attempt.registered = u.host.attempt.registered :=
          congrArg (·.2.2.2) hsame
        rw [hregistered] at hreg
        obtain ⟨t, l', t', htakes, hregisters, heq⟩ := ih hreg
        exact ⟨t, l', t', Transition.Takes.snoc htakes l, haddr ▸ hregisters,
          heq.trans hattempts.symm⟩

/-! ### Readiness -/

/-- A mouse that is ready has a connection. -/
lemma mouseConn_of_ready {s : State} (hs : Coherent s) (hready : s.stage = .ready) :
    ∃ c, s.mouseConn = some c := by
  by_contra hnone
  have hidle : ¬s.Engaged := by
    rintro (hconn | hgap)
    · exact hnone (Option.ne_none_iff_exists'.1 hconn)
    · exact Stage.noConfusion (hready.symm.trans (hs.gap hgap).2.1)
  exact Stage.noConfusion (hready.symm.trans (hs.idle hidle))

/-- The five buttons are covered. -/
lemma Session.Complete.button {session : Session} (h : session.Complete) {b : ℕ} (hb : b < 5) :
    session.coveredButtons.getLsbD b = true := by
  rw [h.buttons]
  interval_cases b <;> decide

/-- The four axes are covered. -/
lemma Session.Complete.axis {session : Session} (h : session.Complete) {axis : MouseHidUsage}
    (haxis : axis ≠ .button) : session.coveredAxes.getLsbD (axisBit axis) = true := by
  rw [h.axes]
  cases axis with
  | button => exact absurd rfl haxis
  | _ => decide

/-- **READY is sound.**  In every state of every run in which the mouse is ready: `mouse_conn`
is set, and its address is that of the saved peer; a candidate has been registered, and in its
attempt it was bonded and its address stored before `have_peer` was set; and for each button
and each axis there is a report characteristic of Report Reference type Input with a CCC
descriptor, subscribed to without an error in this session, whose report ID names a report of
the map with a field for it. -/
theorem ready_is_sound {maxPaired : ℕ} {bonds : List Addr} {labels : List Label} {s : State}
    (hrun : Transition.Run (LateStep maxPaired) (State.init bonds) labels s)
    (hready : s.stage = .ready) :
    (∃ c, s.mouseConn = some c ∧ c.dst = s.peer) ∧ s.havePeer = true ∧
    s.host.attempt.registered = s.host.attempt.new ∧
    (s.host.attempt.registered = true →
      RegisteredInAttempt maxPaired (State.init bonds) labels s) ∧
    (∀ b < 5, ∃ i ∈ s.host.attempt.subscribed, s.session.Carries i fun field =>
      field.usage = .button ∧ field.button = b) ∧
    ∀ axis, axis ≠ .button → ∃ i ∈ s.host.attempt.subscribed, s.session.Carries i fun field =>
      field.usage = axis := by
  obtain ⟨hs, hsurveyed, henrolled⟩ := run_reached hrun
  obtain ⟨c, hc⟩ := mouseConn_of_ready hs hready
  have hengaged : s.Engaged := .inl (hc ▸ Option.some_ne_none c)
  obtain ⟨hcomplete, hknown⟩ := hsurveyed.ready hready
  obtain ⟨hpeer, hsaved⟩ := hs.saved hengaged hknown
  have hcovers := (hsurveyed.fits hengaged).covers
  refine ⟨⟨c, hc, (hs.address c hc).trans hsaved.symm⟩, hpeer, ?_, fun hreg => ?_, fun b hb => ?_,
    fun axis haxis => ?_⟩
  · have hcandidate := henrolled.candidate hengaged
    rw [hknown] at hcandidate
    have hnew := henrolled.registered
    cases hregistered : s.host.attempt.registered with
    | true => exact (hnew hregistered).symm
    | false =>
      rw [hregistered, Bool.not_false, Bool.and_true] at hcandidate
      exact hcandidate
  · obtain ⟨t, l, t', htakes, hregisters, heq⟩ := run_registers hrun hreg
    rw [hs.addr hengaged, ← hsaved] at hregisters
    exact ⟨t, l, t', htakes, hregisters, heq⟩
  · exact hcovers.buttons b (hcomplete.button hb)
  · exact hcovers.axes axis haxis (hcomplete.axis haxis)

/-- The mouse of the tests, which is paired and registered. -/
theorem ready_is_sound_fixture : ∃ s,
    Transition.Run (LateStep 8) (State.init [])
      (surveyRun ⟨1, ⟨1, 7⟩⟩ ++ subscribedMouse ⟨1, ⟨1, 7⟩⟩ ++ [.work {}]) s ∧
    RegisteredInAttempt 8 (State.init [])
      (surveyRun ⟨1, ⟨1, 7⟩⟩ ++ subscribedMouse ⟨1, ⟨1, 7⟩⟩ ++ [.work {}]) s ∧
    ∃ i ∈ s.host.attempt.subscribed, s.session.Carries i fun field => field.usage = .pan := by
  obtain ⟨s, hrun, hp⟩ := exists_run 8 (State.init [])
    (surveyRun ⟨1, ⟨1, 7⟩⟩ ++ subscribedMouse ⟨1, ⟨1, 7⟩⟩ ++ [.work {}])
    (fun s => decide (s.stage = .ready ∧ s.host.attempt.registered = true)) (by decide +kernel)
  obtain ⟨hready, hreg⟩ := of_decide_eq_true hp
  have hlate := hrun.mono fun _ _ _ hstep => (Or.inl hstep : LateStep 8 _ _ _)
  obtain ⟨-, -, -, hregistered, -, haxes⟩ := ready_is_sound hlate hready
  exact ⟨s, hlate, hregistered hreg, haxes .pan (by decide)⟩

end BleMouse.Client
