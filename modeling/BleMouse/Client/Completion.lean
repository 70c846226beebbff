/-
The connection of an attempt is completed at most once.

Where the host promises at most one connection-complete event for each attempt, the client
waits for it with auto-connect enabled, and `connected_work` and `disconnected_work` are in the
queue only for what has happened to the attempt (`Settled`).

* `Host.Promises`, `Promised`: the promises of the host, and the steps they allow;
* `run_promised`: such a run is a run, and keeps the client coherent and settled;
* `ends_of_step`: how a step ends an attempt.
-/
import BleMouse.Client.Session

namespace BleMouse.Client

open BleMouse.Hid BleMouse.Output

/-! ### The promises of the host -/

/-- The report characteristic that a procedure subscribes to. -/
def Request.subscription : Request → Option ℕ
  | .subscribe i _ _ => some i
  | _ => none

/-- What the host promises: the connection of an attempt is completed at most once, and a
report is notified only when it has been subscribed to, or is being subscribed to; the rest is
promised by `Host.Allows`. -/
def Host.Promises (s : State) : Label → Prop
  | .connected c _ =>
    s.host.attempt.active → c.dst = s.host.attempt.addr → s.host.attempt.completions = []
  | .notified c i _ => i ∈ s.host.attempt.subscribed ∨
      ∃ r ∈ s.host.attempt.requests, r.1 = c ∧ r.2.subscription = some i
  | l => Host.Allows s l

instance (s : State) (l : Label) : Decidable (Host.Promises s l) := by
  induction l using Label.casesOn <;> unfold Host.Promises <;> infer_instance

/-- Of these promises, the one about connections. -/
def Host.Once (s : State) : Label → Prop
  | .connected c _ =>
    s.host.attempt.active → c.dst = s.host.attempt.addr → s.host.attempt.completions = []
  | _ => True

lemma Host.Promises.once {s : State} {l : Label} (h : Host.Promises s l) : Host.Once s l := by
  cases l with
  | connected => exact h
  | _ => trivial

/-- The steps under these promises. -/
def Promised (maxPaired : ℕ) (s : State) (l : Label) (s' : State) : Prop :=
  Host.Promises s l ∧ s.step maxPaired l = some s'

/-- The state after a promised step. -/
def State.promised (maxPaired : ℕ) (s : State) (l : Label) : Option State :=
  if Host.Promises s l then s.step maxPaired l else none

lemma promised_iff {maxPaired : ℕ} {s s' : State} {l : Label} :
    s.promised maxPaired l = some s' ↔ Promised maxPaired s l s' := by
  unfold State.promised Promised
  split
  case isTrue hpromise => exact (and_iff_right hpromise).symm
  case isFalse hpromise =>
    exact iff_of_false (Option.some_ne_none s').symm fun h => hpromise h.1

/-- Promised steps that can be computed lead to a state with a property. -/
lemma exists_promised_run (maxPaired : ℕ) (s : State) (labels : List Label) (p : State → Bool)
    (h : (labels.foldlM (State.promised maxPaired) s).any p = true) :
    ∃ s', Transition.Run (Promised maxPaired) s labels s' ∧ p s' = true := by
  obtain ⟨s', hrun, hp⟩ := Transition.Run.exists_of_foldlM h
  exact ⟨s', hrun.mono fun _ _ _ => promised_iff.1, hp⟩

/-! ### The invariant -/

/-- What is known of the completion of the attempt's connection. -/
structure Settled (s : State) : Prop where
  once : s.Engaged → s.host.attempt.completions.length ≤ 1
  awaited : s.Engaged → s.host.attempt.completions = [] →
    s.host.attempt.addr ∈ s.host.autoConn ∧ .connected ∉ s.work.queue
  error : s.Engaged → .connected ∈ s.work.queue → s.host.attempt.completions = [s.connectedError]
  closing : s.mouseConn ≠ none → .disconnected ∈ s.work.queue → s.stage = .closing

namespace Settled

variable {s s' : State}

lemma of_idle (hidle : ¬s.Engaged) : Settled s where
  once := fun hengaged => absurd hengaged hidle
  awaited := fun hengaged => absurd hengaged hidle
  error := fun hengaged => absurd hengaged hidle
  closing := fun hconn => absurd (.inl hconn) hidle

/-- Nothing of the completion changes, and `connected_work` is not submitted. -/
lemma of_same (h : Settled s) (hengaged : s'.Engaged → s.Engaged)
    (hcompletions : s'.host.attempt.completions = s.host.attempt.completions)
    (haddr : s'.host.attempt.addr = s.host.attempt.addr)
    (hauto : s'.host.autoConn = s.host.autoConn)
    (herror : s'.connectedError = s.connectedError)
    (hqueue : .connected ∈ s'.work.queue → .connected ∈ s.work.queue)
    (hclosing : s'.mouseConn ≠ none → .disconnected ∈ s'.work.queue → s'.stage = .closing) :
    Settled s' where
  once := fun hin => hcompletions ▸ h.once (hengaged hin)
  awaited := by
    intro hin hnil
    rw [hcompletions] at hnil
    rw [haddr, hauto]
    obtain ⟨hmem, hnot⟩ := h.awaited (hengaged hin) hnil
    exact ⟨hmem, fun hq => hnot (hqueue hq)⟩
  error := by
    intro hin hq
    rw [hcompletions, herror]
    exact h.error (hengaged hin) (hqueue hq)
  closing := hclosing

/-- Discovery leaves the completion alone. -/
lemma explores (h : Settled s) (he : Explores s s') : Settled s' := by
  obtain ⟨requests, subscribed, hhost⟩ := he.host
  have hengaged : s'.Engaged → s.Engaged := by
    unfold State.Engaged
    rw [he.mouseConn, he.inConnect]
    exact id
  refine h.of_same hengaged (by rw [hhost]; rfl) (by rw [hhost]; rfl) (by rw [hhost]; rfl)
    he.connectedError (he.queued .connected (.inl rfl)).1 fun hconn hq => ?_
  rw [he.mouseConn] at hconn
  have hclosing := h.closing hconn ((he.queued .disconnected (.inr rfl)).1 hq)
  rcases he.stage with heq | ⟨hlinked, -⟩
  · exact heq.trans hclosing
  · rw [hclosing] at hlinked
    rcases hlinked with hlinked | hlinked
    · exact Stage.noConfusion hlinked
    · exact absurd rfl hlinked.2.2.2.2

lemma background (h : Settled s) (hb : Background s s') : Settled s' := h.explores hb.explores

lemma take (h : Settled s) {w : Work} {rest : List Work} (hq : s.work.queue = w :: rest) :
    Settled (s.take w rest) := by
  have hhost : (s.take w rest).host = s.host.record (.ran w) := State.host_observe _ _
  have hmem {v : Work} (hv : v ∈ (s.take w rest).work.queue) : v ∈ s.work.queue :=
    hq ▸ List.mem_cons_of_mem w hv
  refine h.of_same id ?_ ?_ ?_ rfl hmem fun hconn hv => h.closing hconn (hmem hv)
  all_goals
    rw [hhost]
    rfl

lemma observe (h : Settled s) (o : Obs)
    (hcompletions : (s.host.record o).attempt.completions = s.host.attempt.completions)
    (haddr : (s.host.record o).attempt.addr = s.host.attempt.addr)
    (hauto : (s.host.record o).autoConn = s.host.autoConn) : Settled (s.observe o) := by
  have hhost : (s.observe o).host = s.host.record o := s.host_observe o
  refine h.of_same id ?_ ?_ ?_ rfl id h.closing
  · rw [hhost, hcompletions]
  · rw [hhost, haddr]
  · rw [hhost, hauto]

/-- Auto-connect is disabled once the connection has been completed. -/
lemma autoConnOff (h : Settled s) (hcompleted : s.host.attempt.completions ≠ []) (addr : Addr) :
    Settled (s.observe (.autoConnOff addr)) := by
  have hhost : (s.observe (.autoConnOff addr)).host = s.host.record (.autoConnOff addr) :=
    s.host_observe _
  refine { h with once := ?_, awaited := ?_, error := ?_ }
  · rw [hhost]
    exact h.once
  · rw [hhost]
    exact fun _ hnil => absurd hnil hcompleted
  · rw [hhost]
    exact h.error

lemma fail (h : Settled s) (err : ℤ) : Settled (s.fail err) := by
  refine h.of_same id rfl rfl rfl rfl (State.mem_submit_of_ne Work.noConfusion).1 ?_
  exact fun hconn hq => h.closing hconn ((State.mem_submit_of_ne Work.noConfusion).1 hq)

/-! ### Work -/

lemma disconnectedWorkCb (hgap : s.inConnect = false) (a : Answers) :
    Settled (s.disconnectedWorkCb a) := by
  refine of_idle (State.not_engaged (State.disconnectedWorkCb_mouseConn s a) ?_)
  by_contra hin
  have hrests := (Rests.refl s).disconnectedWorkCb hgap a
  rw [hrests.gap (Bool.eq_true_of_not_eq_false hin)] at hgap
  exact Bool.noConfusion hgap

lemma failureWorkCb (h : Settled s) (hgap : s.inConnect = false) (a : Answers) :
    Settled (s.failureWorkCb a) := by
  unfold State.failureWorkCb
  split
  case h_1 c _ =>
    have hclosing : Settled { s with stage := .closing, scanWanted := false } :=
      { h with closing := fun _ _ => rfl }
    dsimp only
    split
    · refine disconnectedWorkCb ?_ a
      exact hgap
    · exact hclosing.observe (.disconnect c a.disconnect) rfl rfl rfl
  case h_2 hc =>
    have hidle : Settled { s with stage := .idle, scanWanted := false, failure := 0 } :=
      of_idle (State.not_engaged hc hgap)
    exact hidle.background (Background.refl _).requestRetry

/-- `connected_work` has been taken off the queue. -/
lemma connectedWorkCb (h : Settled s) (hgap : s.inConnect = false)
    (hcompleted : s.mouseConn ≠ none → s.host.attempt.completions ≠ [])
    (hopen : s.mouseConn ≠ none → s.stage.Open) (a : Answers) : Settled (s.connectedWorkCb a) := by
  have hreleased := (Background.refl s).releaseEvent
  have hs := h.background hreleased
  rw [← hreleased.mouseConn, ← hreleased.host] at hcompleted
  rw [← hreleased.mouseConn, ← hreleased.stage] at hopen
  rw [← hreleased.inConnect] at hgap
  unfold State.connectedWorkCb
  generalize s.releaseEvent = t at hs hcompleted hopen hgap
  unfold State.completeConnection
  split
  case h_1 => exact hs
  case h_2 c hc =>
    have hne : t.mouseConn ≠ none := hc ▸ Option.some_ne_none c
    have hrefreshed := (Background.refl (t.observe (.autoConnOff c.dst))).scanRefresh
    have hoff := (hs.autoConnOff (hcompleted hne) c.dst).background hrefreshed
    have hstage : (t.observe (.autoConnOff c.dst)).scanRefresh.stage.Open := hopen hne
    have hgap' : (t.observe (.autoConnOff c.dst)).scanRefresh.inConnect = false := hgap
    dsimp only
    generalize (t.observe (.autoConnOff c.dst)).scanRefresh = u at hoff hstage hgap' ⊢
    split
    case isTrue =>
      have hidle : ¬(u.observe (.unref c)).closeAttempt.Engaged := State.not_engaged rfl hgap'
      refine of_idle fun hengaged => hidle ?_
      exact (((Rests.refl _).forgetIfRequested a).requestRetry).engaged hengaged
    case isFalse =>
    split
    case isTrue => exact hoff.fail _
    case isFalse hlive =>
      have hconnecting : u.stage = .connecting := by
        rcases hstage with hstage | hstage
        · exact hstage
        · exact absurd (.inr hstage) hlive
      have hsecured : Settled { u with stage := .security } :=
        { hoff with
          closing := fun hconn hq =>
            Stage.noConfusion (hconnecting.symm.trans (hoff.closing hconn hq)) }
      have hasked := hsecured.observe (.setSecurity c a.setSecurity) rfl rfl rfl
      split
      · exact hasked.fail _
      · split
        · exact hasked.explores
            ((Explores.refl _).nextStage (.inl rfl) Coherent.exploring_service)
        · exact hasked

lemma clearWorkCb (h : Settled s) (hgap : s.inConnect = false) (a : Answers) :
    Settled (s.clearWorkCb a) := by
  unfold State.clearWorkCb
  split
  case isTrue => exact h
  case isFalse =>
    dsimp only
    split
    case isTrue =>
      have hstopped : Settled { s with
          pairing := false, scanWanted := false, forgetRequested := true } := { h with }
      exact hstopped.fail _
    case isFalse hconn =>
      have hidle : ¬s.Engaged :=
        State.not_engaged (Option.not_isSome_iff_eq_none.1 hconn) hgap
      have hrests : Rests s ({ s with
          pairing := false, scanWanted := false, forgetRequested := true } : State) :=
        { Rests.refl s with }
      exact of_idle fun hengaged => hidle ((hrests.forgetPeer a).engaged hengaged)

lemma discoveryWorkCb (h : Settled s) (hinit : s.initialized = true)
    (hstage : s.Live → s.stage.Exploring) (a : Answers) : Settled (s.discoveryWorkCb a) := by
  rcases discoveryWorkCb_cases hinit hstage a with hexplores | ⟨c, index, hc, -, hsub, hfinishes⟩
  · exact h.explores hexplores
  · have hnot : .disconnected ∉ s.work.queue := fun hq =>
      Stage.noConfusion (hsub.symm.trans (h.closing (hc ▸ Option.some_ne_none c) hq))
    generalize s.discoveryWorkCb a = s' at hfinishes
    have hready {t : State} (ht : Settled t) (hq : t.work.queue = s.work.queue) :
        Settled t.becomeReady := by
      have hmem {w : Work} (hw : w ∈ t.becomeReady.work.queue) : w ∈ t.work.queue :=
        (List.mem_filter.1 (List.mem_filter.1 hw).1).1
      exact ht.of_same id rfl rfl rfl rfl hmem fun _ hw => absurd (hq ▸ hmem hw) hnot
    cases hfinishes with
    | known => exact hready { h with } rfl
    | candidate =>
      have hsaved := h.observe (.save c.dst 0) rfl rfl rfl
      have hregistered := hsaved.observe (.registered c.dst) rfl rfl rfl
      exact hready { hregistered with } rfl

/-! ### The beginning of an attempt -/

/-- A state that a connection attempt has just begun in, without work of an earlier one. -/
lemma begun (t : State) (addr : Addr) (hconnected : .connected ∉ t.work.queue)
    (hfree : t.mouseConn = none) : Settled (t.begun addr) := by
  have hhost : (t.begun addr).host = t.host.record (.attempt addr !t.havePeer) := by
    unfold State.host State.begun
    simp only [State.observe, history_snoc]
  constructor
  · intro _
    rw [hhost]
    exact Nat.zero_le 1
  · intro _ _
    refine ⟨?_, hconnected⟩
    rw [hhost]
    show addr ∈ (if addr ∈ t.host.autoConn then _ else _)
    split
    · assumption
    · exact List.mem_append_right _ List.mem_cons_self
  · exact fun _ hq => absurd hq hconnected
  · exact fun hconn => absurd hfree hconn

lemma connectWorkEnd (h : Settled s) (hs : Coherent s) (hin : s.inConnect = true) (a : Answers) :
    Settled (s.connectWorkEnd a) := by
  have hreturned (t : State) (err : ℤ) (ht : Settled t) : Settled (t.connectReturned err) :=
    ht.background ((Background.refl t).connectReturned err)
  have hlooked : Settled (({ s with mouseConn := a.lookup, inConnect := false } : State).observe
      (.lookup s.pendingAddress a.lookup)) := by
    have hfound : Settled { s with mouseConn := a.lookup, inConnect := false } :=
      h.of_same (fun _ => .inr hin) rfl rfl rfl rfl id fun _ hq =>
        absurd hq (hs.gapWork hin).2.1
    exact hfound.observe _ rfl rfl rfl
  unfold State.connectWorkEnd State.connectMouseLookup
  dsimp only
  split
  case isTrue hlookup =>
    refine hreturned _ _ (of_idle fun hengaged => ?_)
    have hidle : ¬({ (({ s with mouseConn := a.lookup, inConnect := false } : State).observe
        (.lookup s.pendingAddress a.lookup)).observe (.autoConnOff s.pendingAddress) with
          stage := .idle } : State).Engaged :=
      State.not_engaged (Option.isNone_iff_eq_none.1 hlookup) rfl
    exact hidle ((Rests.refl _).requestRetry.engaged hengaged)
  case isFalse =>
    refine hreturned _ _ (hlooked.of_same id rfl rfl rfl rfl ?_ ?_)
    · exact (State.mem_schedule_of_ne Work.noConfusion).1
    · exact fun hconn hq => hlooked.closing hconn
        ((State.mem_schedule_of_ne Work.noConfusion).1 hq)

/-! ### Callbacks and keys -/

/-- The one event that completes the connection. -/
lemma connectedCb (h : Settled s) (hs : Coherent s) (c : Conn) (err : ℕ)
    (honce : s.host.attempt.active → c.dst = s.host.attempt.addr →
      s.host.attempt.completions = []) :
    Settled ((s.observe (.connected c err)).connectedCb c err) := by
  have hhost : (s.observe (.connected c err)).host = s.host.record (.connected c err) :=
    s.host_observe _
  have hcompletions : (s.observe (.connected c err)).host.attempt.completions =
      if c.dst = s.host.attempt.addr then s.host.attempt.completions ++ [err]
      else s.host.attempt.completions := by
    rw [hhost]
    rfl
  have hfirst (hengaged : s.Engaged) (hdst : c.dst = s.host.attempt.addr) :
      (s.observe (.connected c err)).host.attempt.completions = [err] := by
    rw [hcompletions, if_pos hdst, honce (hs.active.1 hengaged) hdst, List.nil_append]
  unfold State.connectedCb
  split
  case isTrue hours =>
    rw [Bool.or_eq_true, Bool.and_eq_true, decide_eq_true_eq, decide_eq_true_eq] at hours
    have hengaged : s.Engaged := by
      rcases hours with howns | ⟨hstage, -⟩
      · exact .inl ((of_decide_eq_true howns : s.mouseConn = some c) ▸ Option.some_ne_none c)
      · by_contra hidle
        exact Stage.noConfusion ((hs.idle hidle).symm.trans hstage)
    have hdst : c.dst = s.host.attempt.addr := by
      rw [hs.addr hengaged]
      rcases hours with howns | ⟨-, hdst⟩
      · exact hs.address c (of_decide_eq_true howns)
      · exact hdst
    have hone : (((s.observe (.connected c err)).observe (.ref c)).host.attempt.completions) =
        [err] := by
      rw [State.host_observe]
      exact hfirst hengaged hdst
    constructor
    · exact fun _ => hone ▸ le_refl 1
    · exact fun _ hnil => absurd (hone.symm.trans hnil) (List.cons_ne_nil err [])
    · exact fun _ _ => hone
    · exact fun hconn hq => h.closing hconn ((State.mem_submit_of_ne Work.noConfusion).1 hq)
  case isFalse =>
    by_cases hdst : c.dst = s.host.attempt.addr
    case pos =>
      constructor
      · exact fun hengaged => hfirst hengaged hdst ▸ le_refl 1
      · exact fun hengaged hnil =>
          absurd ((hfirst hengaged hdst).symm.trans hnil) (List.cons_ne_nil err [])
      · exact fun hengaged hq =>
          absurd hq (h.awaited hengaged (honce (hs.active.1 hengaged) hdst)).2
      · exact h.closing
    case neg =>
      refine h.observe _ ?_ rfl rfl
      show (if c.dst = s.host.attempt.addr then _ else _) = _
      rw [if_neg hdst]

lemma disconnectedCb (h : Settled s) (c : Conn) :
    Settled ((s.observe (.disconnected c)).disconnectedCb c) := by
  have hobserved : Settled (s.observe (.disconnected c)) := h.observe _ rfl rfl rfl
  unfold State.disconnectedCb
  split
  · exact hobserved.of_same id rfl rfl rfl rfl (State.mem_submit_of_ne Work.noConfusion).1
      fun _ _ => rfl
  · exact hobserved

lemma pairingCompleteCb (h : Settled s) (c : Conn) (bonded : Bool) :
    Settled ((s.observe (.pairingComplete c bonded)).pairingCompleteCb c bonded) := by
  have hobserved : Settled (s.observe (.pairingComplete c bonded)) := by
    refine h.observe _ ?_ ?_ rfl
    all_goals
      simp only [History.record, Attempt.record]
      split <;> rfl
  have hnoted : Settled { s.observe (.pairingComplete c bonded) with candidateBonded := bonded } :=
    { hobserved with }
  unfold State.pairingCompleteCb
  dsimp only
  split_ifs
  · exact hnoted.fail _
  · exact hnoted
  · exact hobserved

lemma zmkBleMouseClearHold (h : Settled s) (pressed : Bool) :
    Settled ((s.observe (.clearKey pressed)).zmkBleMouseClearHold pressed) := by
  have hobserved : Settled (s.observe (.clearKey pressed)) := h.observe _ rfl rfl rfl
  have hheld : Settled { s.observe (.clearKey pressed) with clearHeld := pressed } :=
    { hobserved with }
  exact hheld.background (Background.zmkBleMouseClearHold _ pressed)

lemma settingsSet (h : Settled s) (name : String) (length : ℕ) (contents : Addr) (result : ℤ) :
    Settled (s.settingsSet name length contents result).1 := by
  unfold State.settingsSet
  dsimp only
  split_ifs <;> exact { h with }

lemma zmkBleMouseStart (hs : Coherent s) (h : Settled s) : Settled s.zmkBleMouseStart := by
  unfold State.zmkBleMouseStart
  split
  case isTrue => exact h
  case isFalse hstarted =>
    -- there is no attempt before the start
    have hoff := hs.off (hs.start.trans (Bool.eq_false_of_not_eq_true hstarted))
    exact of_idle (State.not_engaged hoff.2.2.1 hoff.2.2.2)

/-! ### Steps and runs -/

lemma connectWorkBegin (maxPaired : ℕ) (hs : Coherent.Connecting s) (hidle : ¬s.Engaged)
    (a : Answers) : Settled (s.connectWorkBegin maxPaired a) := by
  rcases connectWorkBegin_cases maxPaired hidle a with ⟨hrests, -⟩ | ⟨t, addr, hb, hadmits, heq⟩
  · exact of_idle fun hengaged => hidle (hrests.engaged hengaged)
  · rw [heq]
    refine begun t addr (fun hq => ?_) hadmits.free
    exact hs.noneLeft .connected ((hb.queued .connected trivial).1 hq) trivial

lemma run (maxPaired : ℕ) (h : Settled s) (hs : Coherent s) (hgap : s.inConnect = false)
    {w : Work} {rest : List Work} (hq : s.work.queue = w :: rest) (a : Answers) :
    Settled ((s.take w rest).run maxPaired w a) := by
  have ht := h.take hq
  have hmem : w ∈ s.work.queue := hq ▸ List.mem_cons_self
  have hinit : (s.take w rest).initialized = true := hs.initialized_of_mem hmem
  have hgap' : (s.take w rest).inConnect = false := hgap
  have hrefl := Background.refl (s.take w rest)
  cases w with
  | discovery => exact ht.discoveryWorkCb hinit (fun hlive => ((hs.token hlive).discovery hmem).2) a
  | failure => exact ht.failureWorkCb hgap' a
  | retry => exact ht.background hrefl.retryWorkCb
  | timeout => exact ht.explores ((Explores.refl _).timeoutWorkCb hinit)
  | pairTimeout => exact ht.explores ((Explores.refl _).pairTimeoutCb hinit)
  | connected =>
    refine ht.connectedWorkCb hgap' (fun hconn => ?_) (hs.completed hmem) a
    rw [State.take, State.host_observe]
    show s.host.attempt.completions ≠ []
    rw [h.error (.inl hconn) hmem]
    exact List.cons_ne_nil _ _
  | disconnected => exact disconnectedWorkCb hgap' a
  | pair => exact ht.background (hrefl.pairWorkCb maxPaired)
  | clear => exact ht.clearWorkCb hgap' a
  | scan => exact ht.background (hrefl.scanWorkCb a)
  | connect =>
    have hbegun := connectWorkBegin maxPaired (hs.connecting_take hgap hq) (hs.connect hmem).1 a
    have hsbegun := (hs.take hq).connectWorkBegin maxPaired (hs.connecting_take hgap hq) a
    show Settled (State.connectWorkCb maxPaired (s.take .connect rest) a)
    unfold State.connectWorkCb
    dsimp only
    split
    case isTrue hin => exact hbegun.connectWorkEnd hsbegun hin a
    case isFalse => exact hbegun
  | settle => exact ht.background hrefl.settleWorkCb
  | output => exact ht

/-- A connection is completed while auto-connect is enabled. -/
lemma enabled (h : Settled s) (hs : Coherent s) {c : Conn} {err : ℕ}
    (honce : Host.Once s (.connected c err)) : Host.Allows s (.connected c err) := by
  intro hactive hdst
  rw [hdst]
  exact (h.awaited (hs.active.2 hactive) (honce hactive hdst)).1

/-- The host allows what it promises. -/
lemma allows (h : Settled s) (hs : Coherent s) {l : Label} (hpromise : Host.Promises s l) :
    Host.Allows s l := by
  cases l with
  | connected c err => exact h.enabled hs hpromise
  | notified => trivial
  | _ => exact hpromise

/-- Every step that completes a connection at most once keeps the client settled. -/
theorem step {maxPaired : ℕ} (h : Settled s) (hs : Coherent s) {l : Label}
    (hstep : Step maxPaired s l s') (honce : Host.Once s l) : Settled s' := by
  cases alters_of_step hs hstep with
  | explores he => exact h.explores he
  | work hgap hq => exact h.run maxPaired hs hgap hq _
  | @connectBegin a rest hgap hq =>
    have hidle := (hs.connect (hq ▸ List.mem_cons_self)).1
    exact connectWorkBegin maxPaired (hs.connecting_take hgap hq) hidle a
  | connectEnd hin => exact h.connectWorkEnd hs hin _
  | connected c err => exact h.connectedCb hs c err honce
  | disconnected c => exact h.disconnectedCb c
  | pairingComplete c bonded => exact h.pairingCompleteCb c bonded
  | clearHold pressed => exact h.zmkBleMouseClearHold pressed
  | settings name length contents result =>
    exact (h.observe (.load name length contents result) rfl rfl rfl).settingsSet name length
      contents result
  | start => exact zmkBleMouseStart hs h

end Settled

/-- A promised step is a step. -/
lemma Promised.step {maxPaired : ℕ} {s s' : State} {l : Label} (hs : Coherent s) (h : Settled s)
    (hstep : Promised maxPaired s l s') : Step maxPaired s l s' :=
  ⟨h.allows hs hstep.1, hstep.2⟩

/-- A run under the promises of the host is a run; the client is coherent and settled. -/
theorem run_promised {maxPaired : ℕ} {bonds : List Addr} {labels : List Label} {s : State}
    (hrun : Transition.Run (Promised maxPaired) (State.init bonds) labels s) :
    Run maxPaired (State.init bonds) labels s ∧ Settled s := by
  induction hrun with
  | nil => exact ⟨.nil _, Settled.of_idle (State.not_engaged rfl rfl)⟩
  | snoc _ hstep ih =>
    obtain ⟨hrun, h⟩ := ih
    have hs := run_coherent hrun
    exact ⟨hrun.snoc (hstep.step hs h), h.step hs (hstep.step hs h) hstep.1.once⟩

/-! ### The ends of an attempt -/

/-- How a step ends an attempt: its link has gone, `failure_work` finds that there is none and
closes the attempt itself, the connection was not completed, or is not found. -/
inductive Ends (s : State) : Label → Prop
  | gone {a : Answers} {rest : List Work} (hq : s.work.queue = .disconnected :: rest)
      (hstage : s.stage = .closing) : Ends s (.work a)
  | unlinked {a : Answers} {rest : List Work} (hq : s.work.queue = .failure :: rest)
      (hconn : s.mouseConn ≠ none) (herr : a.disconnect = -eNotConn) : Ends s (.work a)
  | failed {a : Answers} {rest : List Work} {err : ℕ} (hq : s.work.queue = .connected :: rest)
      (hstage : s.stage.Open) (herr : err ≠ 0)
      (hcompletions : s.host.attempt.completions = [err]) : Ends s (.work a)
  | lost {a : Answers} (hin : s.inConnect = true) (hlookup : a.lookup = none) :
      Ends s (.connectEnd a)

namespace Ends

variable {s s' : State}

lemma failureWorkCb_mouseConn (s : State) {a : Answers} (hother : a.disconnect ≠ -eNotConn) :
    (s.failureWorkCb a).mouseConn = s.mouseConn := by
  unfold State.failureWorkCb
  split
  · dsimp only
    rw [if_neg hother]
    rfl
  · exact State.requestRetry_mouseConn _

lemma connectedWorkCb_mouseConn (s : State) (a : Answers) (hok : s.connectedError = 0) :
    (s.connectedWorkCb a).mouseConn = s.mouseConn := by
  have hreleased := (Background.refl s).releaseEvent
  rw [← hreleased.connectedError] at hok
  rw [← hreleased.mouseConn]
  unfold State.connectedWorkCb
  generalize s.releaseEvent = t at hok
  unfold State.completeConnection
  split
  case h_1 => rfl
  case h_2 =>
    dsimp only
    split
    case isTrue herr => exact absurd hok herr
    case isFalse => split_ifs <;> rfl

lemma clearWorkCb_mouseConn (s : State) (a : Answers) :
    (s.clearWorkCb a).mouseConn = s.mouseConn := by
  unfold State.clearWorkCb
  dsimp only
  split_ifs
  · rfl
  · rfl
  · exact State.forgetPeer_mouseConn _ a

/-- An attempt goes on while nothing changes of it. -/
lemma not_of_frame (hengaged : s.Engaged) (hidle : ¬s'.Engaged) (hf : Frame s s') : False := by
  refine hidle ?_
  unfold State.Engaged
  rw [hf.mouseConn, hf.inConnect]
  exact hengaged

lemma run (maxPaired : ℕ) (h : Settled s) (hs : Coherent s) (hengaged : s.Engaged)
    (hgap : s.inConnect = false) {w : Work} {rest : List Work} (hq : s.work.queue = w :: rest)
    (a : Answers) (hidle : ¬((s.take w rest).run maxPaired w a).Engaged) : Ends s (.work a) := by
  have hmem : w ∈ s.work.queue := hq ▸ List.mem_cons_self
  have hinit : (s.take w rest).initialized = true := hs.initialized_of_mem hmem
  have hconn : s.mouseConn ≠ none :=
    hengaged.resolve_right fun hin => Bool.noConfusion (hgap.symm.trans hin)
  have hengaged' : (s.take w rest).Engaged := hengaged
  have hrefl := Background.refl (s.take w rest)
  have hframe (hf : Frame (s.take w rest) ((s.take w rest).run maxPaired w a)) : False :=
    not_of_frame hengaged' hidle hf
  cases w with
  | discovery =>
    refine absurd ?_ hidle
    rcases discoveryWorkCb_cases hinit (fun hlive => ((hs.token hlive).discovery hmem).2) a with
      hexplores | ⟨c, index, -, -, -, hfinishes⟩
    · exact (hframe hexplores.toFrame).elim
    · refine .inl ?_
      rw [State.run, hfinishes.mouseConn]
      exact hconn
  | failure =>
    refine .unlinked hq hconn ?_
    by_contra hother
    refine hidle (.inl ?_)
    rw [State.run, failureWorkCb_mouseConn _ hother]
    exact hconn
  | retry => exact (hframe hrefl.retryWorkCb.toFrame).elim
  | timeout => exact (hframe ((Explores.refl _).timeoutWorkCb hinit).toFrame).elim
  | pairTimeout => exact (hframe ((Explores.refl _).pairTimeoutCb hinit).toFrame).elim
  | connected =>
    refine .failed hq (hs.completed hmem hconn) ?_ (h.error hengaged hmem)
    rintro hok
    refine hidle (.inl ?_)
    rw [State.run, connectedWorkCb_mouseConn (s.take .connected rest) a hok]
    exact hconn
  | disconnected => exact .gone hq (h.closing hconn hmem)
  | pair => exact (hframe (hrefl.pairWorkCb maxPaired).toFrame).elim
  | clear =>
    refine absurd (.inl ?_) hidle
    rw [State.run, clearWorkCb_mouseConn]
    exact hconn
  | scan => exact (hframe (hrefl.scanWorkCb a).toFrame).elim
  | connect => exact absurd hengaged (hs.connect hmem).1
  | settle => exact (hframe hrefl.settleWorkCb.toFrame).elim
  | output => exact absurd hengaged' hidle

end Ends

/-- How a step ends an attempt. -/
theorem ends_of_step {maxPaired : ℕ} {s s' : State} {l : Label} (hs : Coherent s) (h : Settled s)
    (hstep : Step maxPaired s l s') (hengaged : s.Engaged) (hidle : ¬s'.Engaged) : Ends s l := by
  have hframe (hf : Frame s s') : Ends s l := (Ends.not_of_frame hengaged hidle hf).elim
  cases alters_of_step hs hstep with
  | explores he => exact hframe he.toFrame
  | work hgap hq => exact Ends.run maxPaired h hs hengaged hgap hq _ hidle
  | connectBegin _ hq => exact absurd hengaged (hs.connect (hq ▸ List.mem_cons_self)).1
  | @connectEnd a hin =>
    refine .lost hin ?_
    by_contra hfound
    refine hidle (.inl ?_)
    obtain ⟨c, hc⟩ := Option.ne_none_iff_exists'.1 hfound
    unfold State.connectWorkEnd State.connectMouseLookup
    rw [((Background.refl _).connectReturned _).mouseConn, hc]
    exact Option.some_ne_none c
  | connected c err =>
    refine absurd hengaged fun _ => hidle ?_
    unfold State.connectedCb
    split <;> exact hengaged
  | disconnected c =>
    refine absurd hengaged fun _ => hidle ?_
    unfold State.disconnectedCb
    split <;> exact hengaged
  | pairingComplete c bonded =>
    refine absurd hengaged fun _ => hidle ?_
    unfold State.pairingCompleteCb
    dsimp only
    split_ifs <;> exact hengaged
  | clearHold pressed =>
    refine absurd hengaged fun _ => hidle ?_
    unfold State.zmkBleMouseClearHold
    dsimp only
    split <;> exact hengaged
  | settings name length contents result =>
    refine absurd hengaged fun _ => hidle ?_
    unfold State.settingsSet
    dsimp only
    split_ifs <;> exact hengaged
  | start =>
    refine absurd hengaged fun _ => hidle ?_
    unfold State.zmkBleMouseStart
    split <;> exact hengaged

end BleMouse.Client
