/-
From the mouse to the input layer, over whole runs of the firmware.

* `no_button_without_mouse`: no button outlives the mouse that held it;
* `motion_of_reports`: motion comes from what a ready mouse has reported, in order.
-/
import BleMouse.Client.Delivery
import BleMouse.Firmware.Composition
import BleMouse.Output.Arrivals

namespace BleMouse

open BleMouse.Hid Transition
open BleMouse.Output (Buttons)

/-- What a notification of a ready mouse reports. -/
def Client.State.reportOf (s : Client.State) : Client.Label → Option MouseHidFrame
  | .notified c i (some payload) => if s.Attends c then s.session.accept (i, payload) else none
  | _ => none

namespace Client

variable {maxPaired : ℕ} {s s' : State} {l : Label}

lemma attends_iff {c : Conn} : s.Attends c ↔ s.validCallback c = true ∧ s.stage = .ready := by
  rw [State.validCallback_iff]
  constructor
  · intro h
    exact ⟨⟨h.conn, h.failure, by rw [h.ready]; exact Stage.noConfusion⟩, h.ready⟩
  · rintro ⟨⟨hconn, hfailure, -⟩, hready⟩
    exact ⟨hready, hfailure, hconn⟩

/-- The calls of a notification: one for a frame that a ready mouse has reported. -/
lemma notified_calls (s : State) (c : Conn) (i : ℕ) (data : Option (List UInt8)) :
    ((s.notifyCb c i data).journal.drop s.journal.length).filterMap Obs.call = [] ∧
        s.reportOf (.notified c i data) = none ∨
      s.Attends c ∧ ∃ frame physical, s.reportOf (.notified c i data) = some frame ∧
        ((s.notifyCb c i data).journal.drop s.journal.length).filterMap Obs.call =
          [.receive frame physical] := by
  have hsame {t : State} (ht : t.journal = s.journal) :
      (t.journal.drop s.journal.length).filterMap Obs.call = [] := by
    rw [ht, List.drop_length, List.filterMap_nil]
  by_cases hattends : s.Attends c
  case neg =>
    refine .inl ⟨hsame ?_, ?_⟩
    · unfold State.notifyCb
      rw [if_pos ?_]
      by_contra hnot
      simp only [Bool.or_eq_true, Bool.not_eq_true', decide_eq_true_eq, not_or,
        Bool.not_eq_false, not_not] at hnot
      exact hattends (attends_iff.2 hnot)
    · cases data with
      | none => rfl
      | some payload => exact if_neg hattends
  case pos =>
    obtain ⟨hvalid, hready⟩ := attends_iff.1 hattends
    cases data with
    | none =>
      refine .inl ⟨hsame ?_, rfl⟩
      unfold State.notifyCb
      split <;> rfl
    | some payload =>
      have hreport : s.reportOf (.notified c i (some payload)) = s.session.accept (i, payload) :=
        if_pos hattends
      rw [hreport]
      rcases notifyCb_ready hvalid hready i payload with ⟨hreject, heq⟩ |
        ⟨frame, report, haccept, -, heq⟩
      · exact .inl ⟨hsame (congrArg State.journal heq), hreject⟩
      · have hone {t : State} {physical : Buttons}
            (ht : t.journal = s.journal ++ [.outputReceive frame physical]) :
            (t.journal.drop s.journal.length).filterMap Obs.call = [.receive frame physical] := by
          rw [ht, List.drop_left]
          rfl
        exact .inr ⟨hattends, frame, _, haccept, hone (congrArg State.journal heq)⟩

/-- Only a notification hands a frame on. -/
lemma calls_eq_disconnect (hstep : Step maxPaired s l s') (hl : ¬l.Notifies) :
    ∀ k ∈ (s'.journal.drop s.journal.length).filterMap Obs.call, k = .disconnect := by
  intro k hk
  obtain ⟨o, ho, hcall⟩ := List.mem_filterMap.1 hk
  have hfrom := (sources_of_step hstep.2).of_mem_drop ho
  cases o with
  | outputReceive =>
    obtain ⟨c, hhears⟩ := hfrom
    obtain ⟨i, payload, rfl⟩ := hhears.notified
    exact absurd trivial hl
  | outputDisconnect =>
    cases hcall
    rfl
  | _ => cases hcall

end Client

namespace Firmware

variable {maxPaired cap : ℕ} {bonds : List Client.Addr} {events : List Event} {f f' : State}
  {e : Event}

/-- A step of the client in the firmware, with its calls. -/
lemma client_step {l : Client.Label} (h : Steps (firmware maxPaired cap).next f (.inl l) f') :
    Client.Step maxPaired f.1 l f'.1 ∧ (firmware maxPaired cap).taken f.1 (.inl l) =
      (f'.1.journal.drop f.1.journal.length).filterMap Client.Obs.call := by
  have hdriver : f.1.next maxPaired l = some f'.1 := (Drive.next_cases h).2.2 l rfl
  refine ⟨Client.step_of_next hdriver, ?_⟩
  show ((f.1.next maxPaired l).map _).getD [] = _
  rw [hdriver]
  rfl

/-- A step of the output module's own in the firmware. -/
lemma own_step {w : Output.Own} (h : Steps (firmware maxPaired cap).next f (.inr w) f') :
    f'.1 = f.1 ∧ Output.step cap f.2 w.label = some f'.2 := by
  obtain ⟨o, ho, rfl⟩ := Option.map_eq_some_iff.1 h
  exact ⟨rfl, ho⟩

/-! ### Buttons -/

/-- No step of the output module's own puts a button down. -/
lemma own_physical {w : Output.Own} {o o' : Output.State}
    (h : Output.step cap o w.label = some o') (hzero : o.physicalButtons = 0) :
    o'.physicalButtons = 0 := by
  cases w with
  | endpointChanged =>
    cases h
    exact hzero
  | submit =>
    cases Output.step_effect h with
    | reset hl => cases hl
    | submit => exact hzero
  | work =>
    cases Output.step_effect h with
    | reset hl => cases hl
    | _ => exact hzero

/-- A disconnect forgets the physical buttons. -/
lemma physical_of_disconnects {ks : List Output.Label} (hks : ∀ k ∈ ks, k = .disconnect)
    {o o' : Output.State} (h : ks.foldlM (Output.step cap) o = some o') :
    ks = [] ∧ o' = o ∨ o'.physicalButtons = 0 := by
  induction ks generalizing o with
  | nil =>
    cases h
    exact .inl ⟨rfl, rfl⟩
  | cons k ks ih =>
    obtain rfl := hks k List.mem_cons_self
    rw [List.foldlM_cons] at h
    obtain ⟨u, hu, hrest⟩ := Option.bind_eq_some_iff.1 h
    cases hu
    rcases ih (fun k' hk' => hks k' (List.mem_cons_of_mem _ hk')) hrest with ⟨-, rfl⟩ | hzero
    · exact .inr rfl
    · exact .inr hzero

/-- The buttons that are physically down belong to a mouse that is attached. -/
structure Owned (f : State) : Prop where
  coherent : Client.Coherent f.1
  attached : f.2.physicalButtons ≠ 0 → Client.Attached f.1

lemma Owned.step (h : Owned f) (hstep : Steps (firmware maxPaired cap).next f e f') :
    Owned f' := by
  obtain ⟨-, htaken, -⟩ := Drive.next_cases hstep
  cases e with
  | inr w =>
    obtain ⟨heq, ho⟩ := own_step hstep
    refine ⟨heq ▸ h.coherent, fun hphysical => heq ▸ h.attached fun hzero => hphysical ?_⟩
    exact own_physical ho hzero
  | inl l =>
    obtain ⟨hclient, hcalls⟩ := client_step hstep
    refine ⟨h.coherent.step hclient, fun hphysical => ?_⟩
    rw [hcalls] at htaken
    by_cases hl : l.Notifies
    case pos =>
      cases l with
      | notified c i data =>
        have heq : f'.1 = f.1.notifyCb c i data := (Option.some.inj hclient.2).symm
        have hexplores := Client.Explores.notifyCb h.coherent c i data
        rw [heq] at htaken ⊢
        rcases Client.notified_calls f.1 c i data with ⟨hnone, -⟩ | ⟨hattends, -⟩
        · rw [hnone] at htaken
          have hsame : f.2 = f'.2 := Option.some.inj htaken
          exact (h.attached (hsame ▸ hphysical)).explores hexplores
        · have hattached := Client.Attached.of_ready h.coherent
            (hattends.conn ▸ Option.some_ne_none c) hattends.ready
          exact hattached.explores hexplores
      | _ => exact hl.elim
    case neg =>
      rcases physical_of_disconnects (Client.calls_eq_disconnect hclient hl) htaken with
        ⟨hnone, heq⟩ | hzero
      · rw [heq] at hphysical
        rcases (h.attached hphysical).step h.coherent hclient with hattached | htold
        · exact hattached
        · -- the output module would have been told
          have hcall : Output.Label.disconnect ∈
              (f'.1.journal.drop f.1.journal.length).filterMap Client.Obs.call :=
            List.mem_filterMap.2 ⟨_, htold, rfl⟩
          rw [hnone] at hcall
          exact absurd hcall List.not_mem_nil
      · exact absurd hzero hphysical

lemma run_owned (hrun : Run maxPaired cap (init bonds) events f) : Owned f :=
  hrun.invariant Owned ⟨Client.coherent_init bonds, fun h => absurd rfl h⟩
    fun _ _ _ h hstep => h.step hstep

/-- At rest with no button physically down, none is pressed and none is suppressed. -/
lemma released_of_quiescent {ls : List Output.Label} {o : Output.State}
    (hrun : Output.Run cap {} ls o) (hresets : o.resets < 2 ^ 32) (hquiet : Output.Quiescent o)
    (hzero : o.physicalButtons = 0) (b : ℕ) :
    ¬Output.Held o.sent b ∧ ¬Output.Has o.buttons.suppressed b := by
  obtain ⟨-, hidle, -, hqueue, hpending⟩ := hquiet
  obtain ⟨-, haccounts⟩ := Output.bounded_tracks (Output.bounded_of_resets_lt hrun hresets)
  have hkeys : Output.KeysFollow o := hrun.invariant Output.KeysFollow Output.keysFollow_initial
    fun _ _ _ hinv hstep => Output.keysFollow_step hinv hstep
  have hnone : o.buttons.forwarded ||| o.buttons.suppressed = 0 := by
    have houtcome := haccounts.outcome_eq
    simpa [Output.State.outcome, Output.State.afterReset, hqueue, hidle, hpending,
      Output.Position.inHand, hzero] using houtcome
  have hnot : ¬(Output.Has o.buttons.forwarded b ∨ Output.Has o.buttons.suppressed b) := by
    rw [← Output.has_or, hnone]
    exact Output.has_zero
  rw [not_or] at hnot
  obtain ⟨halternates, hparity⟩ := hkeys b
  refine ⟨fun hheld => hnot.1 (hparity.2 ?_), hnot.2⟩
  exact halternates.getLast?_eq_one.1 hheld

/-- **No button outlives its mouse.**  In every state of every run of the firmware without a
connection, no button is physically down; and once the output module is at rest after fewer than
`2 ^ 32` resets, no button is pressed for the host and none is suppressed. -/
theorem no_button_without_mouse (hrun : Run maxPaired cap (init bonds) events f)
    (hgone : f.1.mouseConn = none) :
    f.2.physicalButtons = 0 ∧ (f.2.resets < 2 ^ 32 → Output.Quiescent f.2 →
      ∀ b, ¬Output.Held f.2.sent b ∧ ¬Output.Has f.2.buttons.suppressed b) := by
  have hzero : f.2.physicalButtons = 0 := by
    by_contra hphysical
    exact ((run_owned hrun).attached hphysical).conn hgone
  exact ⟨hzero, fun hresets hquiet => released_of_quiescent (run_output hrun) hresets hquiet hzero⟩

/-- A mouse that is disconnected while it holds two buttons. -/
def lostMouse (conn : Client.Conn) : List Event :=
  (Client.surveyRun conn ++ Client.subscribedMouse conn ++ [Client.Label.work {},
      Client.Label.notified conn 0 (some [0x11, 0x00, 0xf8, 0x7f, 0xff, 0x02])]).map Sum.inl ++
    [.inr .submit] ++ List.replicate 6 (.inr .work) ++
    [.inl (.disconnected conn), .inl (.work {}), .inl (.work {}), .inr .submit] ++
    List.replicate 7 (.inr .work)

theorem no_button_without_mouse_lost :
    ∃ f, Run 8 8 (init []) (lostMouse ⟨1, ⟨1, 7⟩⟩) f ∧ Output.keyEvents 0 f.2.sent = [1, 0] ∧
      f.2.physicalButtons = 0 ∧
      ∀ b, ¬Output.Held f.2.sent b ∧ ¬Output.Has f.2.buttons.suppressed b := by
  obtain ⟨f, hrun, hp⟩ := exists_run 8 8 [] (lostMouse ⟨1, ⟨1, 7⟩⟩)
    (fun f => decide (f.1.mouseConn = none ∧ f.2.resets < 2 ^ 32 ∧ Output.Quiescent f.2 ∧
      Output.keyEvents 0 f.2.sent = [1, 0])) (by decide +kernel)
  obtain ⟨hgone, hresets, hquiet, hevents⟩ := of_decide_eq_true hp
  obtain ⟨hzero, hreleased⟩ := no_button_without_mouse hrun hgone
  exact ⟨f, hrun, hevents, hzero, hreleased hresets hquiet⟩

/-! ### Motion -/

/-- What a ready mouse reports in an event. -/
def report (s : Client.State) : Event → List MouseHidFrame
  | .inl l => (s.reportOf l).toList
  | .inr _ => []

/-- What ready mice have reported, one frame after another. -/
def reports (maxPaired cap : ℕ) (bonds : List Client.Addr) (events : List Event) :
    List MouseHidFrame := (firmware maxPaired cap).gather report (Client.State.init bonds) events

lemma reports_snoc (hrun : Run maxPaired cap (init bonds) events f) (e : Event) :
    reports maxPaired cap bonds (events ++ [e]) =
      reports maxPaired cap bonds events ++ report f.1 e := Drive.gather_snoc report hrun e

lemma arrivals_append (ls ls' : List Output.Label) :
    Output.arrivals (ls ++ ls') = Output.arrivals ls ++ Output.arrivals ls' :=
  List.filterMap_append

lemma arrivals_disconnects {ks : List Output.Label} (hks : ∀ k ∈ ks, k = .disconnect) :
    Output.arrivals ks = [] := by
  refine List.filterMap_eq_nil_iff.2 fun k hk => ?_
  rw [hks k hk]

/-- The output module receives what is reported. -/
lemma arrivals_taken (hstep : Steps (firmware maxPaired cap).next f e f') :
    Output.arrivals ((firmware maxPaired cap).taken f.1 e) = report f.1 e := by
  cases e with
  | inr w => cases w <;> rfl
  | inl l =>
    obtain ⟨hclient, hcalls⟩ := client_step hstep
    rw [hcalls]
    by_cases hl : l.Notifies
    case pos =>
      cases l with
      | notified c i data =>
        have heq : f'.1 = f.1.notifyCb c i data := (Option.some.inj hclient.2).symm
        rw [heq, report]
        rcases Client.notified_calls f.1 c i data with ⟨hnone, hreport⟩ |
          ⟨-, frame, physical, hreport, hcall⟩
        · rw [hnone, hreport]
          rfl
        · rw [hcall, hreport]
          rfl
      | _ => exact hl.elim
    case neg =>
      rw [arrivals_disconnects (Client.calls_eq_disconnect hclient hl)]
      cases l with
      | notified => exact absurd trivial hl
      | _ => rfl

lemma arrivals_heard (hrun : Run maxPaired cap (init bonds) events f) :
    Output.arrivals (heard maxPaired cap bonds events) = reports maxPaired cap bonds events := by
  induction hrun with
  | nil => rfl
  | snoc hbefore hstep ih =>
    rw [heard_snoc hbefore, reports_snoc hbefore, arrivals_append, ih, arrivals_taken hstep]

/-- **Motion comes from the reports of ready mice.**  In every state of every run of the firmware,
the events of axes that the input layer has received, whatever packets they came in, are those of
the first packets of some of the frames that ready mice have reported, one frame after another in
the order of the reports. -/
theorem motion_of_reports (hrun : Run maxPaired cap (init bonds) events f) :
    ∃ kept : List (MouseHidFrame × ℕ),
      (kept.map Prod.fst).Sublist (reports maxPaired cap bonds events) ∧
      (∀ k ∈ kept, 0 < k.2 ∧ k.2 ≤ 32) ∧
      Output.axisEvents (f.2.sent.flatMap Output.sendPacket) =
        kept.flatMap fun k => (List.range k.2).flatMap (Output.pieceEvents k.1) := by
  rw [← arrivals_heard hrun]
  exact Output.frames_sent_in_order (run_output hrun)

theorem motion_of_reports_lost :
    ∃ (f : State) (kept : List (MouseHidFrame × ℕ)), Run 8 8 (init []) (lostMouse ⟨1, ⟨1, 7⟩⟩) f ∧
      (kept.map Prod.fst).Sublist (reports 8 8 [] (lostMouse ⟨1, ⟨1, 7⟩⟩)) ∧
      Output.axisEvents (f.2.sent.flatMap Output.sendPacket) =
        [(.relX, -2048), (.relY, 2047), (.relWheel, -1), (.relHWheel, 2)] ∧
      Output.axisEvents (f.2.sent.flatMap Output.sendPacket) = kept.flatMap fun k =>
        (List.range k.2).flatMap (Output.pieceEvents k.1) := by
  obtain ⟨f, hrun, hp⟩ := exists_run 8 8 [] (lostMouse ⟨1, ⟨1, 7⟩⟩)
    (fun f => decide (Output.axisEvents (f.2.sent.flatMap Output.sendPacket) =
      [(.relX, -2048), (.relY, 2047), (.relWheel, -1), (.relHWheel, 2)])) (by decide +kernel)
  obtain ⟨kept, hsublist, -, hsent⟩ := motion_of_reports hrun
  exact ⟨f, kept, hrun, hsublist, of_decide_eq_true hp, hsent⟩

end Firmware

end BleMouse
