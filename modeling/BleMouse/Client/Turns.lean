/-
What a step does to the session of an attempt.

The session is cleared, or goes on to what it holds when the mouse is ready, or only a
notification changes it (`Turn`).  So the map always fits its fields, and no buttons are held
when the mouse becomes ready.

* `turn_of_step`: every step is one of these;
* `run_receptive`: what the session holds in every state of a run.
-/
import BleMouse.Client.GattSafety

namespace BleMouse.Client

open BleMouse.Hid BleMouse.Output

/-! ### The session until it is ready -/

/-- No report holds buttons. -/
def Session.Released (session : Session) : Prop := ∀ report ∈ session.reports, report.buttons = 0

/-- The session goes on: its map is as it was or has been parsed, and no report gets buttons. -/
structure Session.Continues (session session' : Session) : Prop where
  map : session'.map = session.map ∨ session'.map.Separated
  released : session.Released → session'.Released

namespace Session.Continues

variable {session session' session'' : Session}

lemma of_same (hmap : session'.map = session.map) (hreports : session'.reports = session.reports) :
    session.Continues session' where
  map := .inl hmap
  released h := by
    unfold Session.Released
    rw [hreports]
    exact h

lemma refl (session : Session) : session.Continues session := of_same rfl rfl

/-- Every report has the buttons of an earlier one, or none. -/
lemma of_reports (hmap : session'.map = session.map) (hreports : ∀ report ∈ session'.reports,
    report.buttons = 0 ∨ ∃ report' ∈ session.reports, report.buttons = report'.buttons) :
    session.Continues session' where
  map := .inl hmap
  released h report hmem := by
    rcases hreports report hmem with hnone | ⟨report', hmem', heq⟩
    · exact hnone
    · exact heq.trans (h report' hmem')

lemma closeLast (session : Session) (handle : Handle) :
    session.Continues (session.closeLast handle) := by
  unfold Session.closeLast
  split
  case h_1 report hlast =>
    split
    case isFalse => exact refl _
    case isTrue =>
      refine of_reports rfl fun report' hmem => .inr ?_
      rcases List.mem_append.1 hmem with hmem | hmem
      · exact ⟨report', List.mem_of_mem_dropLast hmem, rfl⟩
      · rw [List.mem_singleton.1 hmem]
        exact ⟨report, List.mem_of_getLast? hlast, rfl⟩
  case h_2 => exact refl _

lemma trans (h : session.Continues session') (h' : session'.Continues session'') :
    session.Continues session'' where
  map := by
    rcases h'.map with heq | hseparated
    · rw [heq]
      exact h.map
    · exact .inr hseparated
  released hreleased := h'.released (h.released hreleased)

lemma discoverCharacteristic (s : State) (attr : Attr) :
    s.session.Continues (s.discoverCharacteristic attr).1.session := by
  have hclosed := closeLast s.session attr.handle
  unfold State.discoverCharacteristic
  dsimp only
  split
  case h_4 =>
    split
    case isTrue => exact hclosed
    case isFalse =>
      refine hclosed.trans (of_reports rfl fun report hmem => ?_)
      rcases List.mem_append.1 hmem with hmem | hmem
      · exact .inr ⟨report, hmem, rfl⟩
      · rw [List.mem_singleton.1 hmem]
        exact .inl rfl
  all_goals exact hclosed.trans (of_same rfl rfl)

lemma describe_buttons (attr : Attr) (report : ReportCharacteristic) :
    (Session.describe attr report).buttons = report.buttons := by
  unfold Session.describe
  split
  · rfl
  · split <;> rfl

lemma discoverCb (s : State) (c : Conn) (attr : Option Attr) :
    s.session.Continues (s.discoverCb c attr).1.session := by
  unfold State.discoverCb
  split
  case isTrue => exact refl _
  case isFalse =>
  split
  case h_1 =>
    show s.session.Continues s.discoverEnd.session
    unfold State.discoverEnd
    split
    case h_2 => split <;> exact refl _
    all_goals exact refl _
  case h_2 attr =>
  split
  case h_1 => exact of_same rfl rfl
  case h_2 => exact discoverCharacteristic s attr
  case h_3 =>
    refine of_reports rfl fun report hmem => .inr ?_
    obtain ⟨report', hmem', rfl⟩ := List.mem_map.1 hmem
    exact ⟨report', hmem', describe_buttons attr report'⟩
  case h_4 => exact refl _

lemma modify_buttons {reports : List ReportCharacteristic} (i : ℕ)
    {f : ReportCharacteristic → ReportCharacteristic}
    (hf : ∀ report, (f report).buttons = report.buttons) {report : ReportCharacteristic}
    (hmem : report ∈ reports.modify i f) :
    ∃ report' ∈ reports, report.buttons = report'.buttons := by
  obtain ⟨j, hj, rfl⟩ := List.getElem_of_mem hmem
  have hlt : j < reports.length := (List.length_modify ..) ▸ hj
  refine ⟨reports[j], List.getElem_mem hlt, ?_⟩
  rw [List.getElem_modify]
  split
  · exact hf _
  · rfl

lemma readCb (s : State) (c : Conn) (err : ℕ) (data : Option (List UInt8)) :
    s.session.Continues (s.readCb c err data).1.session := by
  unfold State.readCb
  split
  case isTrue => exact refl _
  case isFalse =>
  split
  case isTrue => exact refl _
  case isFalse =>
  dsimp only
  split
  case h_1 =>
    unfold State.readReportMap
    split
    · split
      · exact refl _
      · exact of_same rfl rfl
    · exact refl _
  case h_2 =>
    unfold State.readReference
    split
    · split
      · exact refl _
      · exact of_same rfl rfl
    · split
      case h_1 id type _ =>
        have hkeep (report : ReportCharacteristic) : ({ report with
            id := id.toNat, type := type.toNat } : ReportCharacteristic).buttons =
              report.buttons := rfl
        exact of_reports rfl fun report hmem => .inr (modify_buttons _ hkeep hmem)
      case h_2 => exact refl _
  case h_3 => exact refl _

lemma writtenCb (s : State) (c : Conn) (err : ℕ) :
    s.session.Continues (s.writtenCb c err).session := by
  unfold State.writtenCb
  split_ifs <;> exact refl _

lemma subscribedCb (s : State) (c : Conn) (err i : ℕ) :
    s.session.Continues (s.subscribedCb c err i).session := by
  unfold State.subscribedCb
  dsimp only
  split
  · exact refl _
  split
  · exact refl _
  · obtain ⟨buttons, axes, heq, -, -⟩ := Session.foldl_coverField
      ((s.session.reports[i]?).bind fun report => mouseHidReportIndex s.session.map report.id)
      s.session.map.fields s.session
    rw [heq]
    exact of_same rfl rfl

lemma discoveryWorkCb (s : State) (a : Answers) :
    s.session.Continues (s.discoveryWorkCb a).session := by
  obtain ⟨map, index, referenceData, protocol, heq, hmap, -⟩ := s.discoveryWorkCb_session a
  rw [heq]
  refine ⟨?_, id⟩
  rcases hmap with hmap | hparse
  · exact .inl hmap
  · obtain ⟨-, -, -, -, hseparated⟩ := parsed_map_layout hparse
    exact .inr hseparated

end Session.Continues

/-! ### Steps -/

/-- A notification. -/
def Label.Notifies : Label → Prop
  | .notified .. => True
  | _ => False

section Steps

variable {maxPaired : ℕ} {s s' : State} {l : Label}

/-- An attempt that is neither over nor ready is on its way. -/
lemma rank_lt_ready (hs : Coherent s) (hengaged : s.Engaged) (hready : s.stage ≠ .ready)
    (hclosing : s.stage ≠ .closing) : s.stage.rank < Stage.ready.rank := by
  have hidle : s.stage ≠ .idle := by
    rcases hengaged with hconn | hgap
    · exact hs.busy hconn
    · rw [(hs.gap hgap).2.1]
      exact Stage.noConfusion
  cases hstage : s.stage with
  | ready => exact absurd hstage hready
  | closing => exact absurd hstage hclosing
  | idle => exact absurd hstage hidle
  | _ => decide

/-- What a step does to the session of a run. -/
inductive Turn (s : State) (l : Label) (s' : State) : Prop
  /-- The session is cleared, before an attempt or after it. -/
  | cleared (hsession : s'.session = {}) (hidle : ¬s'.Engaged ∨ s.mouseConn = none)
  /-- The mouse was ready, and only a notification changes the session. -/
  | ready (hready : s.stage = .ready) (hmap : s'.session.map = s.session.map)
    (hsession : ¬l.Notifies → s'.session = s.session)
    (hstage : Stage.ready.rank ≤ s'.stage.rank)
  /-- The session goes on to what it holds when it is ready. -/
  | goes (hsession : s.session.Continues s'.session)
    (hstage : s'.Engaged → s'.stage.rank ≤ Stage.ready.rank →
      s.Engaged ∧ s.stage.rank < Stage.ready.rank)

namespace Turn

/-- The session stays as it is, and the stage passes without discovery. -/
lemma of_same (hs : Coherent s) (hsession : s'.session = s.session)
    (hstage : s.stage.rank ≤ s'.stage.rank) (hengaged : s'.Engaged → s.Engaged) : Turn s l s' := by
  by_cases hready : s.stage = .ready
  · exact .ready hready (congrArg Session.map hsession) (fun _ => hsession) (hready ▸ hstage)
  · refine .goes (hsession ▸ .refl _) fun hengaged' hle => ⟨hengaged hengaged', ?_⟩
    refine rank_lt_ready hs (hengaged hengaged') hready fun hclosing => ?_
    rw [hclosing] at hstage
    exact absurd (hstage.trans hle) (by decide)

/-- A callback of a procedure in progress, or of another connection. -/
lemma of_callback (hs : Coherent s) {c : Conn} {request : Request}
    (hmem : (c, request) ∈ s.host.attempt.requests) (hsession : s.session.Continues s'.session)
    (hother : s.validCallback c = false →
      s'.session = s.session ∧ s'.stage = s.stage ∧ (s'.Engaged → s.Engaged)) : Turn s l s' := by
  cases hvalid : s.validCallback c with
  | false =>
    obtain ⟨hsame, hstage, hengaged⟩ := hother hvalid
    exact of_same hs hsame (congrArg Stage.rank hstage).ge hengaged
  | true =>
    have hlive := State.live_of_valid hvalid
    have hready : s.stage ≠ .ready := by
      intro hready
      have hnot : ¬s.stage.Exploring := by
        rw [hready]
        exact fun h => h.2.2.2.1 rfl
      rw [(hs.requests_eq_nil hlive hnot).1] at hmem
      cases hmem
    exact .goes hsession fun _ _ => ⟨.inl hlive.1, rank_lt_ready hs (.inl hlive.1) hready hlive.2.2⟩

lemma discovery (hs : Coherent s) (rest : List Work) (a : Answers) :
    Turn s l ((s.take .discovery rest).discoveryWorkCb a) := by
  have hrests (hsame : (s.take .discovery rest).discoveryWorkCb a = s.take .discovery rest) :
      Turn s l ((s.take .discovery rest).discoveryWorkCb a) := by
    rw [hsame]
    exact of_same hs rfl le_rfl id
  cases hconn : s.mouseConn with
  | none =>
    refine hrests ?_
    unfold State.discoveryWorkCb
    rw [show (s.take .discovery rest).mouseConn = none from hconn]
  | some c =>
    by_cases hover : s.stage = .ready ∨ s.stage = .closing
    · refine hrests ?_
      unfold State.discoveryWorkCb
      rw [show (s.take .discovery rest).mouseConn = some c from hconn]
      dsimp only
      split
      · rfl
      · rcases hover with hready | hclosing
        · rw [show (s.take .discovery rest).stage = .ready from hready]
        · rw [show (s.take .discovery rest).stage = .closing from hclosing]
    · rw [not_or] at hover
      have hengaged : s.Engaged := .inl (hconn ▸ Option.some_ne_none c)
      exact .goes (Session.Continues.discoveryWorkCb (s.take .discovery rest) a) fun _ _ =>
        ⟨hengaged, rank_lt_ready hs hengaged hover.1 hover.2⟩

end Turn

/-- `notify_cb` changes the session only while the mouse is ready, and only reports. -/
lemma notifyCb_session (s : State) (c : Conn) (i : ℕ) (data : Option (List UInt8)) :
    (∃ reports, (s.notifyCb c i data).session = { s.session with reports }) ∧
    (s.stage ≠ .ready → (s.notifyCb c i data).session = s.session) ∧
    (s.notifyCb c i data).stage = s.stage ∧ (s.notifyCb c i data).mouseConn = s.mouseConn ∧
    (s.notifyCb c i data).inConnect = s.inConnect := by
  unfold State.notifyCb
  split
  case isTrue => exact ⟨⟨_, rfl⟩, fun _ => rfl, rfl, rfl, rfl⟩
  case isFalse hcond =>
  split
  case h_1 => exact ⟨⟨_, rfl⟩, fun _ => rfl, rfl, rfl, rfl⟩
  case h_2 =>
  split
  case h_1 => exact ⟨⟨_, rfl⟩, fun _ => rfl, rfl, rfl, rfl⟩
  case h_2 =>
  split
  case h_1 =>
    refine ⟨⟨_, rfl⟩, fun hready => absurd ?_ hcond, rfl, rfl, rfl⟩
    exact Bool.or_eq_true_iff.2 (.inr (decide_eq_true hready))
  case h_2 => exact ⟨⟨_, rfl⟩, fun _ => rfl, rfl, rfl, rfl⟩

lemma State.finished_eq (s : State) (continues : Bool) (c : Conn) (request : Request) (err : ℕ) :
    ∃ journal, s.finished continues c request err = { s with journal } := by
  unfold State.finished
  split
  · exact ⟨_, rfl⟩
  · exact ⟨_, rfl⟩

theorem turn_of_step (hs : Coherent s) (hstep : Step maxPaired s l s') : Turn s l s' := by
  have hallows := hstep.1
  -- a callback of another connection changes nothing
  have hother {t : State} (ht : t = s) (continues : Bool) (c : Conn) (request : Request) (err : ℕ) :
      (t.finished continues c request err).session = s.session ∧
      (t.finished continues c request err).stage = s.stage ∧
      ((t.finished continues c request err).Engaged → s.Engaged) := by
    obtain ⟨journal, heq⟩ := t.finished_eq continues c request err
    rw [heq, ht]
    exact ⟨rfl, rfl, id⟩
  cases course_of_step hs hstep.2 with
  | rests _ hr =>
    rcases hr.session with heq | ⟨hidle, hempty⟩
    · exact .of_same hs heq hr.stage.rank_le hr.engaged
    · exact .cleared hempty (.inl hidle)
  | opens _ ho =>
    obtain ⟨t, addr, hb, hadmits, -⟩ := ho.begun
    exact .cleared ho.cleared (.inr (hb.mouseConn.symm.trans hadmits.free))
  | discovery _ hq => exact Turn.discovery hs _ _
  | discovered c type start stop attr =>
    refine .of_callback hs hallows ?_ fun hinvalid => hother ?_ _ _ _ _
    · rw [State.finished_session]
      exact .discoverCb s c attr
    · unfold State.discoverCb
      rw [hinvalid]
      rfl
  | readDone c handle err data =>
    refine .of_callback hs hallows ?_ fun hinvalid => hother ?_ _ _ _ _
    · rw [State.finished_session]
      exact .readCb s c err data
    · unfold State.readCb
      rw [hinvalid]
      rfl
  | written c handle value err =>
    refine .of_callback hs hallows ?_ fun hinvalid => hother ?_ _ _ _ _
    · rw [State.finished_session]
      exact .writtenCb s c err
    · unfold State.writtenCb
      rw [hinvalid]
      rfl
  | subscribed c i value ccc err =>
    refine .of_callback hs hallows ?_ fun hinvalid => hother ?_ _ _ _ _
    · rw [State.finished_session]
      exact .subscribedCb s c err i
    · unfold State.subscribedCb
      rw [hinvalid]
      rfl
  | notified c i data =>
    obtain ⟨⟨reports, hsession⟩, hsame, hstage, hconn, hin⟩ := notifyCb_session s c i data
    by_cases hready : s.stage = .ready
    · exact .ready hready (by rw [hsession]) (fun hnot => absurd trivial hnot)
        (by rw [hstage, hready])
    · refine .of_same hs (hsame hready) (congrArg Stage.rank hstage).ge ?_
      unfold State.Engaged
      rw [hconn, hin]
      exact id

/-- The map fits its fields, and no buttons are held before the mouse is ready. -/
structure Receptive (s : State) : Prop where
  map : s.session.map.Separated
  released : s.Engaged → s.stage.rank < Stage.ready.rank → s.session.Released

lemma separated_empty : ({} : MouseHidMap).Separated where
  ids_nodup := List.nodup_nil
  bits_le := fun _ hmem => absurd hmem List.not_mem_nil
  inside := fun _ hmem => absurd hmem List.not_mem_nil
  size_mem := fun _ hmem => absurd hmem List.not_mem_nil
  button_le := fun _ hmem => absurd hmem List.not_mem_nil
  disjoint := List.Pairwise.nil

lemma released_empty : ({} : Session).Released := fun _ hmem => absurd hmem List.not_mem_nil

lemma receptive_init (bonds : List Addr) : Receptive (State.init bonds) :=
  ⟨separated_empty, fun _ _ => released_empty⟩

namespace Receptive

lemma step (h : Receptive s) (hs : Coherent s) (hstep : Step maxPaired s l s') : Receptive s' := by
  cases turn_of_step hs hstep with
  | cleared hsession =>
    refine ⟨?_, fun _ _ => ?_⟩
    · rw [hsession]
      exact separated_empty
    · rw [hsession]
      exact released_empty
  | ready _ hmap _ hstage =>
    refine ⟨hmap ▸ h.map, fun _ hlt => absurd hstage (not_le.2 hlt)⟩
  | goes hsession hstage =>
    refine ⟨?_, fun hengaged hlt => ?_⟩
    · rcases hsession.map with heq | hseparated
      · rw [heq]
        exact h.map
      · exact hseparated
    · obtain ⟨hengaged', hlt'⟩ := hstage hengaged hlt.le
      exact hsession.released (h.released hengaged' hlt')

/-- When the mouse becomes ready, no buttons are held. -/
lemma released_of_begins (h : Receptive s) (hs : Coherent s) (hstep : Step maxPaired s l s')
    (hbefore : s.stage ≠ .ready) (hready : s'.stage = .ready) (hengaged : s'.Engaged) :
    s'.session.Released := by
  cases turn_of_step hs hstep with
  | cleared hsession =>
    rw [hsession]
    exact released_empty
  | ready hready' => exact absurd hready' hbefore
  | goes hsession hstage =>
    obtain ⟨hengaged', hlt⟩ := hstage hengaged (by rw [hready])
    exact hsession.released (h.released hengaged' hlt)

end Receptive

lemma run_receptive {bonds : List Addr} {labels : List Label}
    (hrun : Run maxPaired (State.init bonds) labels s) : Coherent s ∧ Receptive s :=
  Transition.Run.invariant hrun (fun s => Coherent s ∧ Receptive s)
    ⟨coherent_init bonds, receptive_init bonds⟩
    fun _ _ _ h hstep => ⟨h.1.step hstep, h.2.step h.1 hstep⟩

/-- While the mouse is ready, the session stays as it is unless a notification comes. -/
lemma session_of_ready (hs : Coherent s) (hstep : Step maxPaired s l s') (hl : ¬l.Notifies)
    (hready : s.stage = .ready) (hconn : s.mouseConn ≠ none) (hready' : s'.stage = .ready)
    (hconn' : s'.mouseConn ≠ none) : s'.session = s.session := by
  cases turn_of_step hs hstep with
  | cleared _ hidle =>
    rcases hidle with hidle | hnone
    · exact absurd (.inl hconn') hidle
    · exact absurd hnone hconn
  | ready _ _ hsession _ => exact hsession hl
  | goes _ hstage =>
    obtain ⟨-, hlt⟩ := hstage (.inl hconn') (by rw [hready'])
    rw [hready] at hlt
    exact absurd hlt (lt_irrefl _)

end Steps

end BleMouse.Client
