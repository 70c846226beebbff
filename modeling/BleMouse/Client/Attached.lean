/-
The mouse whose buttons the output module may hold.

From the moment when a mouse is ready until its attempt ends, its connection is completed for
good: the host does not connect on its own, and no completion waits in the queue (`Attached`).
So only `disconnected_work_cb` can end the attempt, and it tells the output module.

* `Attached.step`: after a step the mouse is still attached, or the output module has been told.
-/
import BleMouse.Client.Completion
import BleMouse.Client.Sources

namespace BleMouse.Client

open BleMouse.Hid BleMouse.Output

/-- The mouse has been ready, and its attempt is not over. -/
structure Attached (s : State) : Prop where
  conn : s.mouseConn ≠ none
  stage : Stage.ready.rank ≤ s.stage.rank
  completed : .connected ∉ s.work.queue
  auto : s.host.autoConn = []

/-- The output module is told that the mouse has gone. -/
def Detaches (s s' : State) : Prop := .outputDisconnect ∈ s'.journal.drop s.journal.length

lemma Stage.not_linked_of_ready {stage : Stage} (h : Stage.ready.rank ≤ stage.rank) :
    ¬stage.Linked := by
  rintro (rfl | hexploring)
  · exact absurd h (by decide)
  · obtain ⟨hidle, hconnecting, hsecurity, hready, hclosing⟩ := hexploring
    cases stage with
    | idle => exact hidle rfl
    | closing => exact hclosing rfl
    | ready => exact hready rfl
    | _ => exact absurd h (by decide)

lemma Stage.not_connecting_of_ready {stage : Stage} (h : Stage.ready.rank ≤ stage.rank) :
    stage ≠ .connecting := by
  rintro rfl
  exact absurd h (by decide)

namespace Attached

variable {s s' : State}

/-- A mouse that is ready is attached. -/
lemma of_ready (hs : Coherent s) (hconn : s.mouseConn ≠ none) (hready : s.stage = .ready) :
    Attached s where
  conn := hconn
  stage := hready ▸ le_rfl
  completed := by
    intro hq
    rcases hs.completed hq hconn with hstage | hstage <;>
      exact Stage.noConfusion (hready.symm.trans hstage)
  auto := by
    refine List.eq_nil_iff_forall_not_mem.2 fun addr haddr => ?_
    rcases (hs.auto addr haddr).2.2 with hstage | hstage <;>
      exact Stage.noConfusion (hready.symm.trans hstage)

/-- What it takes to stay attached. -/
lemma of_same (h : Attached s) (hconn : s'.mouseConn = s.mouseConn)
    (hstage : s.stage.rank ≤ s'.stage.rank)
    (hqueue : .connected ∈ s'.work.queue → .connected ∈ s.work.queue)
    (hauto : s'.host.autoConn = s.host.autoConn) : Attached s' where
  conn := hconn ▸ h.conn
  stage := h.stage.trans hstage
  completed := fun hq => h.completed (hqueue hq)
  auto := hauto.trans h.auto

lemma explores (h : Attached s) (he : Explores s s') : Attached s' := by
  refine h.of_same he.mouseConn ?_ (he.queued .connected (.inl rfl)).1 ?_
  · rcases he.stage with heq | ⟨hlinked, -⟩
    · rw [heq]
    · exact absurd hlinked (Stage.not_linked_of_ready h.stage)
  · obtain ⟨requests, subscribed, hhost⟩ := he.host
    rw [hhost]
    rfl

lemma background (h : Attached s) (hb : Background s s') : Attached s' := h.explores hb.explores

lemma observe (h : Attached s) (o : Obs) (ho : (s.host.record o).autoConn = s.host.autoConn) :
    Attached (s.observe o) :=
  h.of_same rfl le_rfl id ((congrArg History.autoConn (s.host_observe o)).trans ho)

lemma take (h : Attached s) {w : Work} {rest : List Work} (hq : s.work.queue = w :: rest) :
    Attached (s.take w rest) := by
  refine h.of_same rfl le_rfl (fun hmem => ?_) ?_
  · rw [hq]
    exact List.mem_cons_of_mem _ hmem
  · rw [State.take, State.host_observe]
    rfl

lemma fail (h : Attached s) (err : ℤ) : Attached (s.fail err) :=
  h.of_same rfl le_rfl (State.mem_submit_of_ne Work.noConfusion).1 rfl

lemma closing (h : Attached s) (scanWanted : Bool) :
    Attached { s with stage := .closing, scanWanted } where
  conn := h.conn
  stage := Nat.le_succ 9
  completed := h.completed
  auto := h.auto

/-! ### The end of the attempt -/

/-- The output module has been told, whatever plain observations come before and after it. -/
lemma detaches_of_plain {t : State} (h : Plain s t) (h' : Plain t.outputDisconnect s') :
    Detaches s s' := by
  obtain ⟨before, hbefore, -⟩ := h
  obtain ⟨after, hafter, -⟩ := h'
  have hjournal : s'.journal = s.journal ++ (before ++ [.outputDisconnect] ++ after) := by
    rw [hafter]
    show t.journal ++ [.outputDisconnect] ++ after = _
    rw [hbefore]
    simp only [List.append_assoc]
  unfold Detaches
  rw [hjournal, List.drop_left]
  simp

lemma detaches_hungUp (h : Plain s s') (c : Conn) (a : Answers) :
    Detaches s (s'.hungUp c a) := by
  have hclosed : Plain s ({ (s'.observe (.unref c)).closeAttempt with
      candidateBonded := false } : State) := h.closeAttempt c
  exact detaches_of_plain hclosed ((Plain.refl _).forgetIfRequested a)

lemma detaches_disconnectedWorkCb (h : Plain s s') (hconn : s'.mouseConn ≠ none) (a : Answers) :
    Detaches s (s'.disconnectedWorkCb a) := by
  rcases s'.disconnectedWorkCb_cases a with ⟨hnone, -⟩ | ⟨c, t, -, ht, heq⟩
  · exact absurd hnone hconn
  · have hoff := h.observe (.autoConnOff c.dst) trivial
    rw [heq]
    cases ht with
    | kept => exact detaches_hungUp hoff c a
    | unpaired => exact detaches_hungUp (hoff.observe (.unpair _ _ a.unpairCandidate) trivial) c a

/-! ### Work -/

lemma failureWorkCb (h : Attached s') (hplain : Plain s s') (a : Answers) :
    Attached (s'.failureWorkCb a) ∨ Detaches s (s'.failureWorkCb a) := by
  unfold State.failureWorkCb
  split
  case h_1 c hc =>
    have hclosing := (h.closing false).observe (.disconnect c a.disconnect) rfl
    have hstarted : Plain s (({ s' with stage := .closing, scanWanted := false } :
        State).observe (.disconnect c a.disconnect)) := hplain.observe _ trivial
    dsimp only
    split
    · exact .inr (detaches_disconnectedWorkCb hstarted hclosing.conn a)
    · exact .inl hclosing
  case h_2 hc => exact absurd hc h.conn

lemma clearWorkCb (h : Attached s) (a : Answers) : Attached (s.clearWorkCb a) := by
  unfold State.clearWorkCb
  dsimp only
  split_ifs with hheld hconn
  · exact h
  · have hasked : Attached { s with
        pairing := false, scanWanted := false, forgetRequested := true } := { h with }
    exact hasked.fail _
  · exact absurd (Option.not_isSome_iff_eq_none.1 hconn) h.conn

lemma discoveryWorkCb (h : Attached s) (hinit : s.initialized = true)
    (hstage : s.Live → s.stage.Exploring) (a : Answers) : Attached (s.discoveryWorkCb a) := by
  rcases discoveryWorkCb_cases hinit hstage a with hexplores | ⟨c, index, -, -, hsub, -⟩
  · exact h.explores hexplores
  · exact absurd h.stage (by rw [hsub]; decide)

lemma run (maxPaired : ℕ) (h : Attached s) (hs : Coherent s) {w : Work} {rest : List Work}
    (hq : s.work.queue = w :: rest) (a : Answers) :
    Attached ((s.take w rest).run maxPaired w a) ∨
      Detaches s ((s.take w rest).run maxPaired w a) := by
  have ht := h.take hq
  have hmem : w ∈ s.work.queue := hq ▸ List.mem_cons_self
  have hinit : (s.take w rest).initialized = true := hs.initialized_of_mem hmem
  have hrefl := Background.refl (s.take w rest)
  have hplain : Plain s (s.take w rest) := Plain.take w rest
  cases w with
  | discovery =>
    exact .inl (ht.discoveryWorkCb hinit (fun hlive => ((hs.token hlive).discovery hmem).2) a)
  | failure => exact ht.failureWorkCb hplain a
  | retry => exact .inl (ht.background hrefl.retryWorkCb)
  | timeout => exact .inl (ht.explores ((Explores.refl _).timeoutWorkCb hinit))
  | pairTimeout => exact .inl (ht.explores ((Explores.refl _).pairTimeoutCb hinit))
  | connected => exact absurd hmem h.completed
  | disconnected => exact .inr (detaches_disconnectedWorkCb hplain ht.conn a)
  | pair => exact .inl (ht.background (hrefl.pairWorkCb maxPaired))
  | clear => exact .inl (ht.clearWorkCb a)
  | scan => exact .inl (ht.background (hrefl.scanWorkCb a))
  | connect => exact absurd (.inl h.conn) (hs.connect hmem).1
  | settle => exact .inl (ht.background hrefl.settleWorkCb)
  | output => exact .inl ht

/-! ### Callbacks and keys -/

/-- The host does not connect on its own, so the event is about another connection. -/
lemma connectedCb (h : Attached s) (hs : Coherent s) (c : Conn) (err : ℕ)
    (hallows : Host.Allows s (.connected c err)) :
    Attached ((s.observe (.connected c err)).connectedCb c err) := by
  have hobserved : Attached (s.observe (.connected c err)) := h.observe _ rfl
  unfold State.connectedCb
  split
  case isFalse => exact hobserved
  case isTrue hours =>
    rw [Bool.or_eq_true, Bool.and_eq_true, decide_eq_true_eq, decide_eq_true_eq] at hours
    rcases hours with howns | ⟨hstage, -⟩
    · have hengaged : s.Engaged := .inl h.conn
      have hdst : c.dst = s.host.attempt.addr :=
        (hs.address c (of_decide_eq_true howns)).trans (hs.addr hengaged).symm
      have hauto := hallows (hs.active.1 hengaged) hdst
      rw [h.auto] at hauto
      exact absurd hauto List.not_mem_nil
    · exact absurd hstage (Stage.not_connecting_of_ready h.stage)

lemma disconnectedCb (h : Attached s) (c : Conn) :
    Attached ((s.observe (.disconnected c)).disconnectedCb c) := by
  have hobserved : Attached (s.observe (.disconnected c)) := h.observe _ rfl
  unfold State.disconnectedCb
  split
  · exact (hobserved.closing false).of_same rfl le_rfl
      (State.mem_submit_of_ne Work.noConfusion).1 rfl
  · exact hobserved

lemma pairingCompleteCb (h : Attached s) (c : Conn) (bonded : Bool) :
    Attached ((s.observe (.pairingComplete c bonded)).pairingCompleteCb c bonded) := by
  have hobserved : Attached (s.observe (.pairingComplete c bonded)) := h.observe _ rfl
  have hnoted : Attached { s.observe (.pairingComplete c bonded) with candidateBonded := bonded } :=
    { hobserved with }
  unfold State.pairingCompleteCb
  dsimp only
  split_ifs
  · exact hnoted.fail _
  · exact hnoted
  · exact hobserved

lemma zmkBleMouseClearHold (h : Attached s) (pressed : Bool) :
    Attached ((s.observe (.clearKey pressed)).zmkBleMouseClearHold pressed) := by
  have hobserved : Attached (s.observe (.clearKey pressed)) := h.observe _ rfl
  have hheld : Attached { s.observe (.clearKey pressed) with clearHeld := pressed } :=
    { hobserved with }
  exact hheld.background (Background.zmkBleMouseClearHold _ pressed)

lemma settingsSet (h : Attached s) (name : String) (length : ℕ) (contents : Addr) (result : ℤ) :
    Attached (s.settingsSet name length contents result).1 := by
  unfold State.settingsSet
  dsimp only
  split_ifs <;> exact { h with }

lemma zmkBleMouseStart (h : Attached s) (hs : Coherent s) : Attached s.zmkBleMouseStart := by
  unfold State.zmkBleMouseStart
  split
  case isTrue => exact h
  case isFalse hstarted =>
    have hoff := hs.off (hs.start.trans (Bool.eq_false_of_not_eq_true hstarted))
    exact absurd hoff.2.2.1 h.conn

/-- After a step the mouse is still attached, or the output module has been told. -/
theorem step {maxPaired : ℕ} {l : Label} (h : Attached s) (hs : Coherent s)
    (hstep : Step maxPaired s l s') : Attached s' ∨ Detaches s s' := by
  have hallows := hstep.1
  cases alters_of_step hs hstep with
  | explores he => exact .inl (h.explores he)
  | work hgap hq => exact h.run maxPaired hs hq _
  | connectBegin hgap hq => exact absurd (.inl h.conn) (hs.connect (hq ▸ List.mem_cons_self)).1
  | connectEnd hin => exact absurd (hs.gap hin).1 h.conn
  | connected c err => exact .inl (h.connectedCb hs c err hallows)
  | disconnected c => exact .inl (h.disconnectedCb c)
  | pairingComplete c bonded => exact .inl (h.pairingCompleteCb c bonded)
  | clearHold pressed => exact .inl (h.zmkBleMouseClearHold pressed)
  | settings name length contents result =>
    have hobserved : Attached (s.observe (.load name length contents result)) := h.observe _ rfl
    exact .inl (hobserved.settingsSet name length contents result)
  | start => exact .inl (h.zmkBleMouseStart hs)

end Attached

end BleMouse.Client
