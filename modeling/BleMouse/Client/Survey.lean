/-
What the session holds at each stage of an attempt.

A session is empty until the service is found, has no map before the report map is parsed, and
covers nothing before the subscriptions.  Its index names the report characteristic whose
reference is read, or whose subscription is under way, since only one procedure is in progress
at a time (`Coherent.token`).

* `Surveyed`: the invariant;
* `Surveyed.step`: every step preserves it;
* `run_surveyed`: it holds in every state of a run from the start.
-/
import BleMouse.Client.Session
import BleMouse.Hid.Layout

namespace BleMouse.Client

open BleMouse.Hid BleMouse.Output

/-! ### Coverage -/

/-- The bit of an axis in `covered_axes`. -/
def axisBit : MouseHidUsage → ℕ
  | .x => 0
  | .y => 1
  | .wheel => 2
  | .pan => 3
  | .button => 4

/-- Report characteristic `i` is an Input report with a CCC descriptor, whose report ID is that
of a report of the map with a field of a kind. -/
def Session.Carries (session : Session) (i : ℕ) (kind : MouseHidField → Prop) : Prop :=
  ∃ report, session.reports[i]? = some report ∧ report.type = 1 ∧ report.ccc ≠ 0 ∧
    ∃ k, mouseHidReportIndex session.map report.id = some k ∧
      ∃ field ∈ session.map.fields, field.report = k ∧ kind field

/-- What is covered is carried by a report characteristic that was subscribed to. -/
structure Session.Covers (session : Session) (subscribed : List ℕ) : Prop where
  buttons : ∀ b, session.coveredButtons.getLsbD b = true → ∃ i ∈ subscribed,
    session.Carries i fun field => field.usage = .button ∧ field.button = b
  axes : ∀ axis, axis ≠ .button → session.coveredAxes.getLsbD (axisBit axis) = true →
    ∃ i ∈ subscribed, session.Carries i fun field => field.usage = axis

namespace Session

variable {session : Session}

lemma Covers.mono {subscribed subscribed' : List ℕ} (h : session.Covers subscribed)
    (hsub : ∀ i ∈ subscribed, i ∈ subscribed') : session.Covers subscribed' where
  buttons := fun b hb => by
    obtain ⟨i, hi, hcarries⟩ := h.buttons b hb
    exact ⟨i, hsub i hi, hcarries⟩
  axes := fun axis hne haxis => by
    obtain ⟨i, hi, hcarries⟩ := h.axes axis hne haxis
    exact ⟨i, hsub i hi, hcarries⟩

lemma covers_of_none {subscribed : List ℕ} (hbuttons : session.coveredButtons = 0)
    (haxes : session.coveredAxes = 0) : session.Covers subscribed where
  buttons := fun b hb => by
    rw [hbuttons] at hb
    simp at hb
  axes := fun axis _ haxis => by
    rw [haxes] at haxis
    simp at haxis

lemma getLsbD_one_shiftLeft {n b : ℕ} (h : (1#8 <<< n).getLsbD b = true) : b = n := by
  rw [BitVec.getLsbD_shiftLeft, BitVec.getLsbD_one] at h
  simp only [Bool.and_eq_true, decide_eq_true_eq, Bool.not_eq_true', decide_eq_false_iff_not] at h
  omega

lemma getLsbD_or_shiftLeft {covered : BitVec 8} {n b : ℕ}
    (h : (covered ||| 1#8 <<< n).getLsbD b = true) : covered.getLsbD b = true ∨ b = n := by
  rw [BitVec.getLsbD_or, Bool.or_eq_true] at h
  exact h.imp_right getLsbD_one_shiftLeft

/-- What a field covers. -/
lemma coverField_spec (index : Option ℕ) (session : Session) (field : MouseHidField) :
    ∃ buttons axes, coverField index session field =
        { session with coveredButtons := buttons, coveredAxes := axes } ∧
      (∀ b, buttons.getLsbD b = true → session.coveredButtons.getLsbD b = true ∨
        some field.report = index ∧ field.usage = .button ∧ field.button = b) ∧
      ∀ axis, axis ≠ .button → axes.getLsbD (axisBit axis) = true →
        session.coveredAxes.getLsbD (axisBit axis) = true ∨
          some field.report = index ∧ field.usage = axis := by
  unfold coverField
  by_cases hreport : some field.report ≠ index
  · rw [if_pos hreport]
    exact ⟨_, _, rfl, fun b hb => .inl hb, fun axis _ haxis => .inl haxis⟩
  · rw [if_neg hreport]
    rw [not_not] at hreport
    cases husage : field.usage with
    | button =>
      refine ⟨_, _, rfl, fun b hb => ?_, fun axis _ haxis => .inl haxis⟩
      exact (getLsbD_or_shiftLeft hb).imp_right fun heq => ⟨hreport, rfl, heq.symm⟩
    | x | y | wheel | pan =>
      refine ⟨_, _, rfl, fun b hb => .inl hb, fun axis hne haxis => ?_⟩
      refine (getLsbD_or_shiftLeft haxis).imp_right fun heq => ⟨hreport, ?_⟩
      cases axis <;> first | rfl | exact absurd rfl hne | exact absurd heq (by decide)

/-- The controls that a subscription covers are fields of its report. -/
lemma foldl_coverField (index : Option ℕ) (fields : List MouseHidField) (session : Session) :
    ∃ buttons axes, fields.foldl (coverField index) session =
        { session with coveredButtons := buttons, coveredAxes := axes } ∧
      (∀ b, buttons.getLsbD b = true → session.coveredButtons.getLsbD b = true ∨
        ∃ field ∈ fields, some field.report = index ∧ field.usage = .button ∧ field.button = b) ∧
      ∀ axis, axis ≠ .button → axes.getLsbD (axisBit axis) = true →
        session.coveredAxes.getLsbD (axisBit axis) = true ∨
          ∃ field ∈ fields, some field.report = index ∧ field.usage = axis := by
  induction fields generalizing session with
  | nil => exact ⟨_, _, rfl, fun b hb => .inl hb, fun axis _ haxis => .inl haxis⟩
  | cons field fields ih =>
    obtain ⟨buttons, axes, heq, hbuttons, haxes⟩ := coverField_spec index session field
    obtain ⟨buttons', axes', heq', hbuttons', haxes'⟩ := ih (coverField index session field)
    refine ⟨buttons', axes', by rw [List.foldl_cons, heq', heq], fun b hb => ?_,
      fun axis hne haxis => ?_⟩
    · rcases hbuttons' b hb with hold | ⟨f, hf, hspec⟩
      · rw [heq] at hold
        rcases hbuttons b hold with hold | hspec
        · exact .inl hold
        · exact .inr ⟨field, List.mem_cons_self, hspec⟩
      · exact .inr ⟨f, List.mem_cons_of_mem _ hf, hspec⟩
    · rcases haxes' axis hne haxis with hold | ⟨f, hf, hspec⟩
      · rw [heq] at hold
        rcases haxes axis hne hold with hold | hspec
        · exact .inl hold
        · exact .inr ⟨field, List.mem_cons_self, hspec⟩
      · exact .inr ⟨f, List.mem_cons_of_mem _ hf, hspec⟩

end Session

/-! ### The invariant -/

/-- The bounds of the arrays of a session. -/
structure Session.Bounded (session : Session) : Prop where
  reports_le : session.reports.length ≤ maxCharacteristics
  index_le : session.index ≤ session.reports.length
  mapData_le : session.mapData.length ≤ maxMapBytes
  referenceData_le : session.referenceData.length ≤ 2

lemma Session.bounded_empty : ({} : Session).Bounded :=
  ⟨Nat.zero_le _, Nat.zero_le _, Nat.zero_le _, Nat.zero_le _⟩

/-- What the session holds at a stage, when some reports have been subscribed to. -/
structure Session.Fits (session : Session) (stage : Stage) (subscribed : List ℕ) : Prop where
  blank : stage.rank ≤ Stage.service.rank → session = {}
  unread : stage.rank ≤ Stage.descriptors.rank → session.mapData = []
  unparsed : stage.rank ≤ Stage.reportMap.rank → session.map = {} ∧ session.index = 0
  uncovered : stage.rank ≤ Stage.protocol.rank → session.subscribed = 0 ∧
    session.coveredButtons = 0 ∧ session.coveredAxes = 0 ∧ subscribed = []
  subscribed_lt : ∀ i ∈ subscribed, i < session.reports.length
  covers : session.Covers subscribed

lemma Session.fits_empty : ({} : Session).Fits .connecting [] where
  blank := fun _ => rfl
  unread := fun _ => rfl
  unparsed := fun _ => ⟨rfl, rfl⟩
  uncovered := fun _ => ⟨rfl, rfl, rfl, rfl⟩
  subscribed_lt := fun _ hi => absurd hi List.not_mem_nil
  covers := Session.covers_of_none rfl rfl

/-- A session fits the later stages too, as far as it is not required to hold more. -/
lemma Session.Fits.later {session : Session} {stage next : Stage} {subscribed : List ℕ}
    (h : session.Fits stage subscribed) (hrank : stage.rank ≤ next.rank) :
    session.Fits next subscribed where
  blank := fun hnext => h.blank (hrank.trans hnext)
  unread := fun hnext => h.unread (hrank.trans hnext)
  unparsed := fun hnext => h.unparsed (hrank.trans hnext)
  uncovered := fun hnext => h.uncovered (hrank.trans hnext)
  subscribed_lt := h.subscribed_lt
  covers := h.covers

/-- A report characteristic that may be subscribed to. -/
def ReportCharacteristic.Subscribable (report : ReportCharacteristic) : Prop :=
  report.type = 1 ∧ report.ccc ≠ 0

/-- The session fits the stage of the attempt and the procedure in progress. -/
structure Surveyed (s : State) : Prop where
  bounded : s.session.Bounded
  fits : s.Engaged → s.session.Fits s.stage s.host.attempt.subscribed
  owned : s.Live → ∀ r ∈ s.host.attempt.requests, s.mouseConn = some r.1
  reading : s.Live → s.stage = .reportReferences → s.host.attempt.requests ≠ [] →
    s.session.index < s.session.reports.length ∧ s.session.map.reports ≠ []
  subscribing : s.Engaged → ∀ c i value ccc, (c, .subscribe i value ccc) ∈
    s.host.attempt.requests → Stage.subscriptions.rank ≤ s.stage.rank ∧
      (∃ report, s.session.reports[i]? = some report ∧ report.Subscribable) ∧
      (s.Live → i = s.session.index)
  passed : s.Live → ∀ i ∈ s.host.attempt.subscribed, i < s.session.index
  ready : s.stage = .ready → s.session.Complete ∧ s.newCandidate = false

namespace Surveyed

variable {s s' : State}

/-- The session rests. -/
lemma rests (h : Surveyed s)
    (hin : s.inConnect = true → s.stage = .connecting ∧ s.host.attempt.requests = [])
    (hs' : Coherent s') (hr : Rests s s') : Surveyed s' := by
  obtain ⟨hrequests, hsubscribed⟩ := hr.procedures
  have hsession (hengaged : s'.Engaged) : s'.session = s.session := by
    rcases hr.session with heq | ⟨hidle, -⟩
    · exact heq
    · exact absurd hengaged hidle
  -- in the gap of `connect_mouse` there are no procedures
  have hlive (hlive : s'.Live) : s'.mouseConn = s.mouseConn ∧ s.Live ∨
      s.host.attempt.requests = [] ∧ s.host.attempt.subscribed = [] := by
    rcases hr.live hs' hlive with hbefore | hgap
    · exact .inl hbefore
    · refine .inr ⟨(hin hgap).2, ((h.fits (.inr hgap)).uncovered ?_).2.2.2⟩
      rw [(hin hgap).1]
      decide
  have hstage {stage : Stage} (heq : s'.stage = stage) (hapart : ¬stage.Apart) :
      s.stage = stage := by
    rcases heq ▸ hr.stage with hsame | ⟨-, hnot⟩
    · exact hsame.symm
    · exact absurd hnot hapart
  constructor
  · rcases hr.session with heq | ⟨-, heq⟩
    · exact heq ▸ h.bounded
    · rw [heq]
      exact Session.bounded_empty
  · intro hengaged
    rw [hsession hengaged, hsubscribed]
    exact (h.fits (hr.engaged hengaged)).later hr.stage.rank_le
  · intro hl r hmem
    rw [hrequests] at hmem
    rcases hlive hl with ⟨heq, hl⟩ | ⟨hnone, -⟩
    · exact heq.trans (h.owned hl r hmem)
    · rw [hnone] at hmem
      exact absurd hmem List.not_mem_nil
  · intro hl hreferences hne
    rw [hrequests] at hne
    rw [hsession (.inl hl.1)]
    rcases hlive hl with ⟨-, hl⟩ | ⟨hnone, -⟩
    · exact h.reading hl (hstage hreferences (by unfold Stage.Apart; decide)) hne
    · exact absurd hnone hne
  · intro hengaged c i value ccc hmem
    rw [hrequests] at hmem
    rw [hsession hengaged]
    obtain ⟨hrank, hreport, hindex⟩ := h.subscribing (hr.engaged hengaged) c i value ccc hmem
    refine ⟨hrank.trans hr.stage.rank_le, hreport, fun hl => ?_⟩
    rcases hlive hl with ⟨-, hl⟩ | ⟨hnone, -⟩
    · exact hindex hl
    · rw [hnone] at hmem
      exact absurd hmem List.not_mem_nil
  · intro hl i hmem
    rw [hsubscribed] at hmem
    rw [hsession (.inl hl.1)]
    rcases hlive hl with ⟨-, hl⟩ | ⟨-, hnone⟩
    · exact h.passed hl i hmem
    · rw [hnone] at hmem
      exact absurd hmem List.not_mem_nil
  · intro hready
    have hengaged : s'.Engaged := by
      by_contra hidle
      exact Stage.noConfusion ((hs'.idle hidle).symm.trans hready)
    rw [hsession hengaged, hr.candidate hengaged]
    exact h.ready (hstage hready (by unfold Stage.Apart; decide))

lemma begun_procedures (t : State) (addr : Addr) : (t.begun addr).host.attempt.requests = [] ∧
    (t.begun addr).host.attempt.subscribed = [] := by
  unfold State.host State.begun
  simp only [State.observe, history_snoc]
  exact ⟨rfl, rfl⟩

/-- The beginning of an attempt. -/
lemma begun (t : State) (addr : Addr) : Surveyed (t.begun addr) := by
  obtain ⟨hrequests, hsubscribed⟩ := begun_procedures t addr
  constructor
  · exact Session.bounded_empty
  · intro _
    rw [hsubscribed]
    exact Session.fits_empty
  · intro _ r hmem
    rw [hrequests] at hmem
    exact absurd hmem List.not_mem_nil
  · exact fun _ _ hne => absurd hrequests hne
  · intro _ c i value ccc hmem
    rw [hrequests] at hmem
    exact absurd hmem List.not_mem_nil
  · intro _ i hmem
    rw [hsubscribed] at hmem
    exact absurd hmem List.not_mem_nil
  · exact fun hready => Stage.noConfusion hready

/-! ### Procedures -/

/-- The end of a procedure that has no effect. -/
lemma done (h : Surveyed s) {c : Conn} {request : Request}
    (hmem : (c, request) ∈ s.host.attempt.requests) {err : ℕ}
    (hnone : s.Live → err = 0 → ∀ i value ccc, request ≠ .subscribe i value ccc) :
    Surveyed (s.observe (.done c request err)) := by
  have hhost : (s.observe (.done c request err)).host = s.host.record (.done c request err) :=
    s.host_observe _
  have hrequests : ∀ r ∈ (s.observe (.done c request err)).host.attempt.requests,
      r ∈ s.host.attempt.requests := by
    rw [hhost]
    exact fun r hr => List.mem_of_mem_erase hr
  have hsubscribed : ∀ i ∈ (s.observe (.done c request err)).host.attempt.subscribed,
      i ∈ s.host.attempt.subscribed ∨
        err = 0 ∧ ∃ value ccc, request = .subscribe i value ccc := by
    rw [hhost]
    intro i hi
    cases request with
    | subscribe j value ccc =>
      change i ∈ (if err = 0 then _ else _) at hi
      split at hi
      · rename_i herr
        rcases List.mem_append.1 hi with hi | hi
        · exact .inl hi
        · obtain rfl := List.mem_singleton.1 hi
          exact .inr ⟨herr, value, ccc, rfl⟩
      · exact .inl hi
    | _ => exact .inl hi
  have hkept : ∀ i ∈ s.host.attempt.subscribed,
      i ∈ (s.observe (.done c request err)).host.attempt.subscribed := by
    rw [hhost]
    intro i hi
    cases request with
    | subscribe j value ccc =>
      show i ∈ (if err = 0 then _ else _)
      split
      · exact List.mem_append_left _ hi
      · exact hi
    | _ => exact hi
  refine { h with fits := ?_, owned := ?_, reading := ?_, subscribing := ?_, passed := ?_ }
  · intro hengaged
    have hfits := h.fits hengaged
    refine { hfits with uncovered := ?_, subscribed_lt := ?_, covers := hfits.covers.mono hkept }
    · intro hrank
      obtain ⟨hcount, hbuttons, haxes, hnil⟩ := hfits.uncovered hrank
      refine ⟨hcount, hbuttons, haxes, List.eq_nil_iff_forall_not_mem.2 fun i hi => ?_⟩
      rcases hsubscribed i hi with hi | ⟨-, value, ccc, rfl⟩
      · rw [hnil] at hi
        exact List.not_mem_nil hi
      · exact absurd ((h.subscribing hengaged c i value ccc hmem).1.trans hrank) (by decide)
    · intro i hi
      rcases hsubscribed i hi with hi | ⟨-, value, ccc, rfl⟩
      · exact hfits.subscribed_lt i hi
      · obtain ⟨report, hreport, -⟩ := (h.subscribing hengaged c i value ccc hmem).2.1
        exact (List.getElem?_eq_some_iff.1 hreport).1
  · exact fun hl r hr => h.owned hl r (hrequests r hr)
  · exact fun hl hstage hne => h.reading hl hstage fun hnil => hne <|
      List.eq_nil_iff_forall_not_mem.2 fun r hr => List.not_mem_nil (hnil ▸ hrequests r hr)
  · exact fun hengaged c i value ccc hr => h.subscribing hengaged c i value ccc (hrequests _ hr)
  · intro hl i hi
    rcases hsubscribed i hi with hi | ⟨herr, value, ccc, heq⟩
    · exact h.passed hl i hi
    · exact absurd heq (hnone hl herr i value ccc)

/-- The session moves on to another stage when no procedure is in progress. -/
lemma advance (hrequests : s.host.attempt.requests = []) {session : Session} {next : Stage}
    (hbounded : session.Bounded) (hfits : session.Fits next s.host.attempt.subscribed)
    (hpassed : ∀ i ∈ s.host.attempt.subscribed, i < session.index) (hnext : next ≠ .ready) :
    Surveyed ({ s with session }.nextStage next) where
  bounded := hbounded
  fits := fun _ => hfits
  owned := fun _ r hr => by
    change r ∈ s.host.attempt.requests at hr
    rw [hrequests] at hr
    exact absurd hr List.not_mem_nil
  reading := fun _ _ hne => absurd hrequests hne
  subscribing := fun _ c i value ccc hr => by
    change _ ∈ s.host.attempt.requests at hr
    rw [hrequests] at hr
    exact absurd hr List.not_mem_nil
  passed := fun _ => hpassed
  ready := fun hready => absurd hready hnext

/-- The session changes before the subscriptions. -/
lemma update (h : Surveyed s) (hs : Coherent s) (hlive : s.Live)
    (hrank : s.stage.rank ≤ Stage.protocol.rank) {session : Session}
    (hbounded : session.Bounded) (hfits : session.Fits s.stage [])
    (hreading : s.stage = .reportReferences → s.host.attempt.requests ≠ [] →
      session.index < session.reports.length ∧ session.map.reports ≠ []) :
    Surveyed { s with session } := by
  have hnil : s.host.attempt.subscribed = [] := ((h.fits (.inl hlive.1)).uncovered hrank).2.2.2
  refine { h with bounded := hbounded, fits := ?_, reading := fun _ => hreading, subscribing := ?_,
                  passed := ?_, ready := ?_ }
  · intro _
    show session.Fits s.stage s.host.attempt.subscribed
    rw [hnil]
    exact hfits
  · intro _ c i value ccc hr
    have hstage : s.stage = .subscriptions := (hs.token hlive).fits _ hr
    rw [hstage] at hrank
    exact absurd hrank (by decide)
  · intro _ i hi
    change i ∈ s.host.attempt.subscribed at hi
    rw [hnil] at hi
    exact absurd hi List.not_mem_nil
  · intro hready
    rw [show s.stage = .ready from hready] at hrank
    exact absurd hrank (by decide)

lemma fail (h : Surveyed s) (err : ℤ) : Surveyed (s.fail err) := by
  have hfailed : ¬(s.fail err).Live := fun hl => Explores.fail_ne_zero s err hl.2.1
  refine { h with
    owned := fun hl => absurd hl hfailed
    reading := fun hl => absurd hl hfailed
    subscribing := ?_
    passed := fun hl => absurd hl hfailed }
  intro hengaged c i value ccc hr
  obtain ⟨hrank, hreport, -⟩ := h.subscribing hengaged c i value ccc hr
  exact ⟨hrank, hreport, fun hl => absurd hl hfailed⟩

lemma submit (h : Surveyed s) (w : Work) : Surveyed (s.submit w) := { h with }

/-- An observation that leaves the procedures as they are. -/
lemma observe (h : Surveyed s) (o : Obs)
    (ho : (s.host.record o).attempt.requests = s.host.attempt.requests ∧
      (s.host.record o).attempt.subscribed = s.host.attempt.subscribed) :
    Surveyed (s.observe o) := by
  obtain ⟨hrequests, hsubscribed⟩ := ho
  have hhost : (s.observe o).host = s.host.record o := s.host_observe o
  refine { h with fits := ?_, owned := ?_, reading := ?_, subscribing := ?_, passed := ?_ }
  · rw [hhost, hsubscribed]
    exact h.fits
  · rw [hhost, hrequests]
    exact h.owned
  · rw [hhost, hrequests]
    exact h.reading
  · rw [hhost, hrequests]
    exact h.subscribing
  · rw [hhost, hsubscribed]
    exact h.passed

/-! ### Discovery callbacks -/

/-- The fields of a session that has not found its map yet. -/
lemma early (h : Surveyed s) (hlive : s.Live) (hrank : s.stage.rank ≤ Stage.reportMap.rank) :
    s.session.map = {} ∧ s.session.index = 0 ∧ s.session.subscribed = 0 ∧
      s.session.coveredButtons = 0 ∧ s.session.coveredAxes = 0 := by
  have hfits := h.fits (.inl hlive.1)
  obtain ⟨hmap, hindex⟩ := hfits.unparsed hrank
  obtain ⟨hsubscribed, hbuttons, haxes, -⟩ := hfits.uncovered (hrank.trans (by decide))
  exact ⟨hmap, hindex, hsubscribed, hbuttons, haxes⟩

lemma fits_early {session : Session} {stage : Stage} (hlow : Stage.service.rank < stage.rank)
    (hunread : stage.rank ≤ Stage.descriptors.rank → session.mapData = [])
    (h : session.map = {} ∧ session.index = 0 ∧ session.subscribed = 0 ∧
      session.coveredButtons = 0 ∧ session.coveredAxes = 0) : session.Fits stage [] where
  blank := fun hrank => absurd hrank (not_le.2 hlow)
  unread := hunread
  unparsed := fun _ => ⟨h.1, h.2.1⟩
  uncovered := fun _ => ⟨h.2.2.1, h.2.2.2.1, h.2.2.2.2, rfl⟩
  subscribed_lt := fun _ hi => absurd hi List.not_mem_nil
  covers := Session.covers_of_none h.2.2.2.1 h.2.2.2.2

lemma closeLast_spec (session : Session) (handle : Handle) : ∃ reports,
    session.closeLast handle = { session with reports } ∧
      reports.length = session.reports.length := by
  unfold Session.closeLast
  split
  case h_1 report hlast =>
    split
    · refine ⟨_, rfl, ?_⟩
      have hne : session.reports ≠ [] := by
        rintro hnil
        rw [hnil] at hlast
        cases hlast
      have hpos := List.length_pos_iff.2 hne
      rw [List.length_append, List.length_dropLast, List.length_singleton]
      omega
    · exact ⟨_, rfl, rfl⟩
  case h_2 => exact ⟨_, rfl, rfl⟩

/-- A characteristic is noted, or there is no room for its report. -/
lemma discoverCharacteristic_spec (s : State) (attr : Attr) : ∃ session : Session,
    (s.discoverCharacteristic attr = ({ s with session }, true) ∨
      ∃ err, s.discoverCharacteristic attr = ({ s with session }.fail err, false)) ∧
    (s.session.reports.length ≤ maxCharacteristics →
      session.reports.length ≤ maxCharacteristics) ∧
    s.session.reports.length ≤ session.reports.length ∧
    session.map = s.session.map ∧ session.index = s.session.index ∧
    session.subscribed = s.session.subscribed ∧
    session.coveredButtons = s.session.coveredButtons ∧
    session.coveredAxes = s.session.coveredAxes ∧ session.mapData = s.session.mapData ∧
    session.referenceData = s.session.referenceData := by
  obtain ⟨reports, heq, hlength⟩ := closeLast_spec s.session attr.handle
  unfold State.discoverCharacteristic
  rw [heq]
  dsimp only
  split
  case h_4 =>
    split
    case isTrue hfull =>
      exact ⟨_, .inr ⟨_, rfl⟩, fun _ => hfull.le, hlength.ge, rfl, rfl, rfl, rfl, rfl, rfl, rfl⟩
    case isFalse hroom =>
      refine ⟨_, .inl rfl, ?_, ?_, rfl, rfl, rfl, rfl, rfl, rfl, rfl⟩
      · intro hle
        rw [List.length_append, List.length_singleton]
        exact lt_of_le_of_ne (hlength.trans_le hle) hroom
      · rw [List.length_append, hlength]
        exact Nat.le_add_right _ _
  all_goals
    exact ⟨_, .inl rfl, fun hle => hlength.trans_le hle, hlength.ge, rfl, rfl, rfl, rfl, rfl, rfl,
      rfl⟩

lemma discovered (h : Surveyed s) (hs : Coherent s) {c : Conn} {type : DiscoverType}
    {start stop : Handle} (hmem : (c, .discover type start stop) ∈ s.host.attempt.requests)
    (attr : Option Attr) :
    Surveyed ((s.discoverCb c attr).1.finished ((s.discoverCb c attr).2 && attr.isSome) c
      (.discover type start stop) 0) := by
  have ht : Surveyed (s.observe (.done c (.discover type start stop) 0)) :=
    h.done hmem fun _ _ _ _ _ => Request.noConfusion
  have hst := hs.done c (.discover type start stop) 0
  unfold State.discoverCb
  split
  case isTrue => exact ht
  case isFalse hvalid =>
  rw [Bool.not_eq_true', Bool.not_eq_false] at hvalid
  have hlive := State.live_of_valid hvalid
  have hrequests := hs.done_requests hlive hmem 0
  have hlive' : (s.observe (.done c (.discover type start stop) 0)).Live := hlive
  have hstage : (s.observe (.done c (.discover type start stop) 0)).stage = s.stage := rfl
  have hfits := ht.fits (.inl hlive.1)
  -- the client moves on with the session as it is
  have hmoves {next : Stage} (hrank : s.stage.rank ≤ next.rank) (hnext : next ≠ .ready) :
      Surveyed ((s.nextStage next).observe (.done c (.discover type start stop) 0)) :=
    advance hrequests ht.bounded (hfits.later hrank) (ht.passed hlive') hnext
  split
  case h_1 =>
    show Surveyed (s.discoverEnd.observe (.done c (.discover type start stop) 0))
    unfold State.discoverEnd
    split
    case h_2 hcharacteristics =>
      split
      · exact ht.fail _
      · exact hmoves (by rw [hcharacteristics]; decide) Stage.noConfusion
    case h_3 hdescriptors => exact hmoves (by rw [hdescriptors]; decide) Stage.noConfusion
    all_goals exact ht.fail _
  case h_2 attr =>
  split
  case h_1 hservice =>
    have hblank : s.session = {} := (h.fits (.inl hlive.1)).blank (by rw [hservice])
    refine advance hrequests ⟨ht.bounded.1, ht.bounded.2, ht.bounded.3, ht.bounded.4⟩ ?_
      (ht.passed hlive') Stage.noConfusion
    have hnil := (hfits.uncovered (by rw [hstage, hservice]; decide)).2.2.2
    have hlow : Stage.service.rank < Stage.characteristics.rank := by decide
    rw [hnil]
    exact fits_early hlow (fun _ => by rw [hblank])
      (by rw [hblank]; exact ⟨rfl, rfl, rfl, rfl, rfl⟩)
  case h_2 hcharacteristics =>
    obtain ⟨session, heq, hle, hge, hmap, hindex, hsubscribed, hbuttons, haxes, hdata,
      hreference⟩ := discoverCharacteristic_spec s attr
    obtain ⟨hmap', hindex', hsubscribed', hbuttons', haxes'⟩ :=
      h.early hlive (by rw [hcharacteristics]; decide)
    have hlow : Stage.service.rank < s.stage.rank := by rw [hcharacteristics]; decide
    have hunread : session.mapData = [] :=
      hdata.trans ((h.fits (.inl hlive.1)).unread (by rw [hcharacteristics]; decide))
    have hbounded : session.Bounded :=
      ⟨hle h.bounded.reports_le, by rw [hindex]; exact h.bounded.index_le.trans hge,
        by rw [hdata]; exact h.bounded.mapData_le,
        by rw [hreference]; exact h.bounded.referenceData_le⟩
    have hfits' : session.Fits s.stage [] := fits_early hlow (fun _ => hunread)
      ⟨hmap.trans hmap', hindex.trans hindex', hsubscribed.trans hsubscribed',
        hbuttons.trans hbuttons', haxes.trans haxes'⟩
    have hnot : s.stage ≠ .reportReferences := by rw [hcharacteristics]; exact Stage.noConfusion
    have hrank : s.stage.rank ≤ Stage.protocol.rank := by rw [hcharacteristics]; decide
    rcases heq with heq | ⟨err, heq⟩
    · rw [heq]
      exact h.update hs hlive hrank hbounded hfits' fun hreferences => absurd hreferences hnot
    · rw [heq]
      have hupdated := ht.update hst hlive' hrank hbounded hfits' fun hreferences =>
        absurd hreferences hnot
      exact hupdated.fail err
  case h_3 hdescriptors =>
    have hlow : Stage.service.rank < s.stage.rank := by rw [hdescriptors]; decide
    have hrank : s.stage.rank ≤ Stage.protocol.rank := by rw [hdescriptors]; decide
    have hlength : (s.session.reports.map (Session.describe attr)).length =
        s.session.reports.length := List.length_map _
    refine h.update hs hlive hrank ?_ (fits_early hlow ?_ ?_) fun hreferences => ?_
    · exact ⟨hlength.trans_le h.bounded.reports_le, h.bounded.index_le.trans hlength.ge,
        h.bounded.mapData_le, h.bounded.referenceData_le⟩
    · exact fun _ => (h.fits (.inl hlive.1)).unread (by rw [hdescriptors])
    · exact h.early hlive (by rw [hdescriptors]; decide)
    · rw [hdescriptors] at hreferences
      exact Stage.noConfusion hreferences
  case h_4 => exact h

/-! ### Reads -/

lemma readReportMap (h : Surveyed s) (hs : Coherent s) (hlive : s.Live)
    (hstage : s.stage = .reportMap) (data : List UInt8) :
    Surveyed (s.readReportMap (some data)) := by
  unfold State.readReportMap
  dsimp only
  split
  case isTrue => exact h.fail _
  case isFalse hroom =>
    have hlow : Stage.service.rank < s.stage.rank := by rw [hstage]; decide
    have hlength : (s.session.mapData ++ data).length ≤ maxMapBytes := by
      have hle := h.bounded.mapData_le
      rw [List.length_append]
      omega
    refine h.update hs hlive (by rw [hstage]; decide)
      ⟨h.bounded.reports_le, h.bounded.index_le, hlength, h.bounded.referenceData_le⟩
      (fits_early hlow ?_ (h.early hlive (by rw [hstage]))) fun hreferences => ?_
    · intro hrank
      rw [hstage] at hrank
      exact absurd hrank (by decide)
    · rw [hstage] at hreferences
      exact Stage.noConfusion hreferences

/-- The fields of a session that has subscribed to nothing yet. -/
lemma fits_uncovered (h : Surveyed s) (hlive : s.Live) {stage : Stage} {session : Session}
    (hlow : Stage.reportMap.rank < stage.rank) (hhigh : s.stage.rank ≤ Stage.protocol.rank)
    (heq : session.subscribed = s.session.subscribed ∧
      session.coveredButtons = s.session.coveredButtons ∧
      session.coveredAxes = s.session.coveredAxes) : session.Fits stage [] := by
  obtain ⟨hcount, hbuttons, haxes, -⟩ := (h.fits (.inl hlive.1)).uncovered hhigh
  obtain ⟨hcount', hbuttons', haxes'⟩ := heq
  exact
    { blank := fun hrank => absurd ((hlow.trans_le hrank).trans (by decide)) (lt_irrefl _)
      unread := fun hrank => absurd ((hlow.trans_le hrank).trans (by decide)) (lt_irrefl _)
      unparsed := fun hrank => absurd hlow (not_lt.2 hrank)
      uncovered := fun _ =>
        ⟨hcount'.trans hcount, hbuttons'.trans hbuttons, haxes'.trans haxes, rfl⟩
      subscribed_lt := fun _ hi => absurd hi List.not_mem_nil
      covers := Session.covers_of_none (hbuttons'.trans hbuttons) (haxes'.trans haxes) }

lemma readReference (h : Surveyed s) (hs : Coherent s) (hlive : s.Live)
    (hstage : s.stage = .reportReferences) (data : List UInt8) :
    Surveyed (s.readReference (some data)) := by
  unfold State.readReference
  dsimp only
  split
  case isTrue => exact h.fail _
  case isFalse hroom =>
    have hlow : Stage.reportMap.rank < s.stage.rank := by rw [hstage]; decide
    have hhigh : s.stage.rank ≤ Stage.protocol.rank := by rw [hstage]; decide
    have hlength : (s.session.referenceData ++ data).length ≤ 2 := by
      have hle := h.bounded.referenceData_le
      rw [List.length_append]
      omega
    exact h.update hs hlive hhigh
      ⟨h.bounded.reports_le, h.bounded.index_le, h.bounded.mapData_le, hlength⟩
      (h.fits_uncovered hlive hlow hhigh ⟨rfl, rfl, rfl⟩) (h.reading hlive)

/-- A report reference has been read. -/
lemma readReferenceEnd (h : Surveyed s) (hs : Coherent s) (hlive : s.Live)
    (hstage : s.stage = .reportReferences) (hrequests : s.host.attempt.requests = [])
    (hindex : s.session.index < s.session.reports.length) : Surveyed (s.readReference none) := by
  unfold State.readReference
  dsimp only
  split
  case h_1 id type _ =>
    have hlow : Stage.reportMap.rank < s.stage.rank := by rw [hstage]; decide
    have hhigh : s.stage.rank ≤ Stage.protocol.rank := by rw [hstage]; decide
    apply submit
    refine h.update hs hlive hhigh ⟨?_, ?_, h.bounded.mapData_le, h.bounded.referenceData_le⟩
      (h.fits_uncovered hlive hlow hhigh ⟨rfl, rfl, rfl⟩) ?_
    · rw [List.length_modify]
      exact h.bounded.reports_le
    · rw [List.length_modify]
      exact hindex
    · exact fun _ hne => absurd hrequests hne
  case h_2 => exact h.fail _

lemma readReportMap_observe (s : State) (data : Option (List UInt8)) (o : Obs) :
    (s.readReportMap data).observe o = (s.observe o).readReportMap data := by
  cases data with
  | none => rfl
  | some data =>
    show (if maxMapBytes - s.session.mapData.length < data.length then _ else _ : State).observe o =
      if maxMapBytes - s.session.mapData.length < data.length then _ else _
    split <;> rfl

lemma readReference_observe (s : State) (data : Option (List UInt8)) (o : Obs) :
    (s.readReference data).observe o = (s.observe o).readReference data := by
  cases data with
  | none =>
    unfold State.readReference State.observe
    dsimp only
    split <;> rfl
  | some data =>
    show (if 2 - s.session.referenceData.length < data.length then _ else _ : State).observe o =
      if 2 - s.session.referenceData.length < data.length then _ else _
    split <;> rfl

lemma readDone (h : Surveyed s) (hs : Coherent s) {c : Conn} {handle : Handle}
    (hmem : (c, .read handle) ∈ s.host.attempt.requests) (err : ℕ) (data : Option (List UInt8)) :
    Surveyed ((s.readCb c err data).1.finished
      ((s.readCb c err data).2 && decide (err = 0) && data.isSome) c (.read handle) err) := by
  have ht : Surveyed (s.observe (.done c (.read handle) err)) :=
    h.done hmem fun _ _ _ _ _ => Request.noConfusion
  have hst := hs.done c (.read handle) err
  unfold State.readCb
  split
  case isTrue => exact ht
  case isFalse hvalid =>
  rw [Bool.not_eq_true', Bool.not_eq_false] at hvalid
  have hlive := State.live_of_valid hvalid
  have hrequests := hs.done_requests hlive hmem err
  have hlive' : (s.observe (.done c (.read handle) err)).Live := hlive
  split
  case isTrue => exact ht.fail _
  case isFalse herr =>
  obtain rfl := not_not.1 herr
  dsimp only
  split
  case h_1 hstage =>
    cases data with
    | some data =>
      unfold State.finished
      dsimp only
      split
      · exact h.readReportMap hs hlive hstage data
      · rw [readReportMap_observe]
        exact ht.readReportMap hst hlive' hstage data
    | none =>
      have hrank : s.stage.rank ≤ Stage.reportReferences.rank := by rw [hstage]; decide
      show Surveyed ((s.readReportMap none).observe (.done c (.read handle) 0))
      rw [readReportMap_observe]
      exact advance hrequests ht.bounded ((ht.fits (.inl hlive.1)).later hrank) (ht.passed hlive')
        Stage.noConfusion
  case h_2 hstage =>
    cases data with
    | some data =>
      unfold State.finished
      dsimp only
      split
      · exact h.readReference hs hlive hstage data
      · rw [readReference_observe]
        exact ht.readReference hst hlive' hstage data
    | none =>
      show Surveyed ((s.readReference none).observe (.done c (.read handle) 0))
      rw [readReference_observe]
      exact ht.readReferenceEnd hst hlive' hstage hrequests
        (h.reading hlive hstage (List.ne_nil_of_mem hmem)).1
  case h_3 =>
    cases data with
    | some data =>
      unfold State.finished
      dsimp only
      split
      · exact h
      · exact ht
    | none => exact ht

/-! ### Writes and subscriptions -/

lemma written (h : Surveyed s) (hs : Coherent s) {c : Conn} {handle : Handle} {value : ℕ}
    (hmem : (c, .write handle value) ∈ s.host.attempt.requests) (err : ℕ) :
    Surveyed ((s.writtenCb c err).finished false c (.write handle value) err) := by
  have ht : Surveyed (s.observe (.done c (.write handle value) err)) :=
    h.done hmem fun _ _ _ _ _ => Request.noConfusion
  unfold State.writtenCb
  split
  case isTrue => exact ht
  case isFalse hvalid =>
  rw [Bool.not_eq_true', Bool.not_eq_false] at hvalid
  have hlive := State.live_of_valid hvalid
  have hlive' : (s.observe (.done c (.write handle value) err)).Live := hlive
  have hprotocol : s.stage = .protocol := (hs.token hlive).fits _ hmem
  split
  case isTrue => exact ht.fail _
  case isFalse =>
    have hrank : s.stage.rank ≤ Stage.subscriptions.rank := by rw [hprotocol]; decide
    exact advance (hs.done_requests hlive hmem err) ht.bounded
      ((ht.fits (.inl hlive.1)).later hrank) (ht.passed hlive') Stage.noConfusion

/-- A subscription covers the controls of its report. -/
lemma covers_subscribed {session : Session} {subscribed : List ℕ} (h : session.Covers subscribed)
    {i : ℕ} {report : ReportCharacteristic} (hreport : session.reports[i]? = some report)
    (hsubscribable : report.Subscribable) (n index : ℕ) :
    Session.Covers { session.map.fields.foldl
      (Session.coverField (mouseHidReportIndex session.map report.id)) session with
        subscribed := n, index } (subscribed ++ [i]) := by
  obtain ⟨buttons, axes, heq, hbuttons, haxes⟩ := Session.foldl_coverField
    (mouseHidReportIndex session.map report.id) session.map.fields session
  have hcarries {kind : MouseHidField → Prop} {field : MouseHidField}
      (hfield : field ∈ session.map.fields)
      (hindex : some field.report = mouseHidReportIndex session.map report.id)
      (hkind : kind field) : session.Carries i kind :=
    ⟨report, hreport, hsubscribable.1, hsubscribable.2, _, hindex.symm, field, hfield, rfl, hkind⟩
  rw [heq]
  constructor
  · intro b hb
    rcases hbuttons b hb with hold | ⟨field, hfield, hindex, hkind⟩
    · obtain ⟨j, hj, hold⟩ := h.buttons b hold
      exact ⟨j, List.mem_append_left _ hj, hold⟩
    · exact ⟨i, by simp, hcarries hfield hindex hkind⟩
  · intro axis hne haxis
    rcases haxes axis hne haxis with hold | ⟨field, hfield, hindex, hkind⟩
    · obtain ⟨j, hj, hold⟩ := h.axes axis hne hold
      exact ⟨j, List.mem_append_left _ hj, hold⟩
    · exact ⟨i, by simp, hcarries hfield hindex hkind⟩

lemma subscribed (h : Surveyed s) (hs : Coherent s) {c : Conn} {i : ℕ} {value ccc : Handle}
    (hmem : (c, .subscribe i value ccc) ∈ s.host.attempt.requests) (err : ℕ) :
    Surveyed ((s.subscribedCb c err i).finished false c (.subscribe i value ccc) err) := by
  have hst := hs.done c (.subscribe i value ccc) err
  unfold State.subscribedCb
  split
  case isTrue hvalid =>
    refine h.done hmem fun hlive => ?_
    have hc := h.owned hlive _ hmem
    have hvalid' : s.validCallback c = true := State.validCallback_iff.2 ⟨hc, hlive.2⟩
    rw [hvalid'] at hvalid
    exact absurd hvalid Bool.false_ne_true
  case isFalse hvalid =>
  rw [Bool.not_eq_true', Bool.not_eq_false] at hvalid
  have hlive := State.live_of_valid hvalid
  split
  case isTrue herr =>
    have ht := h.done hmem fun _ hzero => absurd hzero herr
    exact ht.fail _
  case isFalse hok =>
  obtain rfl := not_not.1 hok
  have hengaged : s.Engaged := .inl hlive.1
  have hrequests := hs.done_requests hlive hmem 0
  have hstage : s.stage = .subscriptions := (hs.token hlive).fits _ hmem
  obtain ⟨-, ⟨report, hreport, hsubscribable⟩, hindex⟩ :=
    h.subscribing hengaged c i value ccc hmem
  have hlt := (List.getElem?_eq_some_iff.1 hreport).1
  have hfits := h.fits hengaged
  have hcovers := covers_subscribed hfits.covers hreport hsubscribable
    (s.session.subscribed + 1) (s.session.index + 1)
  have hbind : (s.session.reports[i]?).bind (fun report =>
      mouseHidReportIndex s.session.map report.id) =
        mouseHidReportIndex s.session.map report.id := by
    rw [hreport]
    rfl
  rw [hbind]
  dsimp only at hcovers ⊢
  obtain ⟨buttons, axes, heq, -, -⟩ := Session.foldl_coverField
    (mouseHidReportIndex s.session.map report.id) s.session.map.fields s.session
  rw [heq] at hcovers ⊢
  have hsubscribed : (s.observe (.done c (.subscribe i value ccc) 0)).host.attempt.subscribed =
      s.host.attempt.subscribed ++ [i] := by
    rw [State.host_observe]
    rfl
  have hlow : Stage.protocol.rank < s.stage.rank := by rw [hstage]; decide
  constructor
  · exact ⟨h.bounded.reports_le, (hindex hlive) ▸ hlt, h.bounded.mapData_le,
      h.bounded.referenceData_le⟩
  · intro _
    show Session.Fits _ s.stage
      (s.observe (.done c (.subscribe i value ccc) 0)).host.attempt.subscribed
    rw [hsubscribed]
    refine ⟨?_, ?_, ?_, ?_, ?_, hcovers⟩
    · exact fun hrank => absurd ((hlow.trans_le hrank).trans (by decide)) (lt_irrefl _)
    · exact fun hrank => absurd ((hlow.trans_le hrank).trans (by decide)) (lt_irrefl _)
    · exact fun hrank => absurd ((hlow.trans_le hrank).trans (by decide)) (lt_irrefl _)
    · exact fun hrank => absurd hlow (not_lt.2 hrank)
    · intro j hj
      rcases List.mem_append.1 hj with hj | hj
      · exact hfits.subscribed_lt j hj
      · rw [List.mem_singleton.1 hj]
        exact hlt
  · intro _ r hr
    change r ∈ (s.observe (.done c (.subscribe i value ccc) 0)).host.attempt.requests at hr
    rw [hrequests] at hr
    exact absurd hr List.not_mem_nil
  · exact fun _ _ hne => absurd hrequests hne
  · intro _ c' j value' ccc' hr
    change _ ∈ (s.observe (.done c (.subscribe i value ccc) 0)).host.attempt.requests at hr
    rw [hrequests] at hr
    exact absurd hr List.not_mem_nil
  · intro _ j hj
    change j ∈ (s.observe (.done c (.subscribe i value ccc) 0)).host.attempt.subscribed at hj
    rw [hsubscribed] at hj
    show j < s.session.index + 1
    rcases List.mem_append.1 hj with hj | hj
    · exact (h.passed hlive j hj).trans (Nat.lt_succ_self _)
    · rw [List.mem_singleton.1 hj, hindex hlive]
      exact Nat.lt_succ_self _
  · intro hready
    exact Stage.noConfusion (hstage.symm.trans hready)

/-! ### Notifications -/

lemma carries_set {session : Session} {i j : ℕ} {report : ReportCharacteristic}
    (hreport : session.reports[j]? = some report) (buttons : Buttons)
    {kind : MouseHidField → Prop} (h : session.Carries i kind) :
    Session.Carries { session with reports := session.reports.set j { report with buttons } } i
      kind := by
  obtain ⟨report', hreport', htype, hccc, hmap⟩ := h
  by_cases hij : j = i
  · subst hij
    obtain rfl : report' = report := by
      rw [hreport] at hreport'
      exact (Option.some.inj hreport').symm
    have hlt := (List.getElem?_eq_some_iff.1 hreport).1
    exact ⟨{ report' with buttons }, List.getElem?_set_self hlt, htype, hccc, hmap⟩
  · exact ⟨report', (List.getElem?_set_ne hij).trans hreport', htype, hccc, hmap⟩

/-- A report changes the buttons that are held, and nothing else of the session. -/
lemma notified (h : Surveyed s) (hs : Coherent s) (c : Conn) (i : ℕ) (data : Option (List UInt8)) :
    Surveyed (s.notifyCb c i data) := by
  unfold State.notifyCb
  split
  case isTrue => exact h
  case isFalse hcond =>
  simp only [Bool.or_eq_true, Bool.not_eq_true', not_or, Bool.not_eq_false] at hcond
  obtain ⟨hvalid, hstage⟩ := hcond
  have hlive := State.live_of_valid hvalid
  split
  · exact h.fail _
  split
  · exact h
  case h_2 report hreport =>
  split
  case h_2 => exact h
  case h_1 frame _ =>
    have hfits := h.fits (.inl hlive.1)
    have hlength : (s.session.reports.set i { report with buttons := frame.buttons }).length =
        s.session.reports.length := List.length_set
    have hstage : s.stage = .ready := not_not.1 fun hne => hstage (decide_eq_true hne)
    have hrequests : s.host.attempt.requests = [] :=
      (hs.requests_eq_nil hlive (by rw [hstage]; unfold Stage.Exploring; decide)).1
    have hupdated : Surveyed { s with session := { s.session with
        reports := s.session.reports.set i { report with buttons := frame.buttons } } } :=
      { h with
        bounded := ⟨hlength.trans_le h.bounded.reports_le, h.bounded.index_le.trans hlength.ge,
          h.bounded.mapData_le, h.bounded.referenceData_le⟩
        fits := fun _ =>
          { hfits with
            blank := fun hrank => by
              rw [show s.stage = .ready from hstage] at hrank
              exact absurd hrank (by decide)
            subscribed_lt := fun j hj => (hfits.subscribed_lt j hj).trans_le hlength.ge
            covers :=
              { buttons := fun b hb => by
                  obtain ⟨j, hj, hcarries⟩ := hfits.covers.buttons b hb
                  exact ⟨j, hj, carries_set hreport _ hcarries⟩
                axes := fun axis hne haxis => by
                  obtain ⟨j, hj, hcarries⟩ := hfits.covers.axes axis hne haxis
                  exact ⟨j, hj, carries_set hreport _ hcarries⟩ } }
        reading := fun _ _ hne => absurd hrequests hne
        subscribing := fun _ c' j value ccc hr => by
          change _ ∈ s.host.attempt.requests at hr
          rw [hrequests] at hr
          exact absurd hr List.not_mem_nil
        ready := fun hready => ⟨⟨(h.ready hready).1.buttons, (h.ready hready).1.axes⟩,
          (h.ready hready).2⟩ }
    exact (hupdated.observe (.outputReceive frame _) ⟨rfl, rfl⟩).submit .output

/-! ### Discovery work -/

open Coherent (Exploring exploring_of_fits)

/-- A procedure starts, or is refused. -/
lemma startRequest (h : Surveyed s) (he : Exploring s) {c : Conn} (hc : s.mouseConn = some c)
    (request : Request) (answer : ℤ)
    (hreading : s.stage = .reportReferences →
      s.session.index < s.session.reports.length ∧ s.session.map.reports ≠ [])
    (hsubscribing : ∀ i value ccc, request = .subscribe i value ccc → s.stage = .subscriptions ∧
      i = s.session.index ∧ ∃ report, s.session.reports[i]? = some report ∧ report.Subscribable) :
    Surveyed (s.startRequest c request answer) := by
  have hhost : (s.observe (.gatt c request answer)).host =
      s.host.record (.gatt c request answer) := s.host_observe _
  have hmem : ∀ r ∈ (s.observe (.gatt c request answer)).host.attempt.requests,
      r = (c, request) := by
    rw [hhost]
    intro r hr
    change r ∈ (if answer = 0 then s.host.attempt.requests ++ [(c, request)]
      else s.host.attempt.requests) at hr
    rw [he.requests] at hr
    split at hr
    · exact List.mem_singleton.1 hr
    · exact absurd hr List.not_mem_nil
  have hs : Surveyed (s.observe (.gatt c request answer)) := by
    refine { h with fits := ?_, owned := ?_, reading := ?_, subscribing := ?_, passed := ?_ }
    · rw [hhost]
      exact h.fits
    · intro _ r hr
      rw [hmem r hr]
      exact hc
    · exact fun _ hstage _ => hreading hstage
    · intro _ c' i value ccc hr
      obtain ⟨hstage, hindex, hreport⟩ := hsubscribing i value ccc (Prod.mk.inj (hmem _ hr)).2.symm
      have hrank : Stage.subscriptions.rank ≤ s.stage.rank := by rw [hstage]
      exact ⟨hrank, hreport, fun _ => hindex⟩
    · rw [hhost]
      exact h.passed
  unfold State.startRequest
  dsimp only
  split
  · exact hs.fail _
  · exact hs

lemma firstReference_le (reports : List ReportCharacteristic) (index : ℕ) :
    index ≤ Session.firstReference reports index ∧
      Session.firstReference reports index ≤ index + reports.length := by
  induction reports generalizing index with
  | nil => exact ⟨le_rfl, le_rfl⟩
  | cons report reports ih =>
    rw [Session.firstReference, List.length_cons]
    split
    · have hle := ih (index + 1)
      omega
    · omega

lemma firstUseful_le (map : MouseHidMap) (reports : List ReportCharacteristic) (index : ℕ) :
    index ≤ Session.firstUseful map reports index ∧
      Session.firstUseful map reports index ≤ index + reports.length := by
  induction reports generalizing index with
  | nil => exact ⟨le_rfl, le_rfl⟩
  | cons report reports ih =>
    rw [Session.firstUseful, List.length_cons]
    split
    · omega
    · have hle := ih (index + 1)
      omega

/-- The report that is subscribed to next is useful. -/
lemma useful_firstUseful {map : MouseHidMap} {reports : List ReportCharacteristic} {index : ℕ}
    {report : ReportCharacteristic}
    (h : reports[Session.firstUseful map reports index - index]? = some report) :
    Session.Useful map report = true := by
  induction reports generalizing index with
  | nil => simp at h
  | cons first reports ih =>
    rw [Session.firstUseful] at h
    split at h
    · rename_i huseful
      rw [Nat.sub_self, List.getElem?_cons_zero] at h
      exact Option.some.inj h ▸ huseful
    · have hle := (firstUseful_le map reports (index + 1)).1
      have hsub : Session.firstUseful map reports (index + 1) - index =
          Session.firstUseful map reports (index + 1) - (index + 1) + 1 := by omega
      rw [hsub, List.getElem?_cons_succ] at h
      exact ih h

/-- A map that was parsed has reports. -/
lemma reports_ne_nil {data : List UInt8} {map : MouseHidMap}
    (h : mouseHidParse data = .ok map) : map.reports ≠ [] := by
  obtain ⟨-, -, -, hsum, -⟩ := parsed_map_layout h
  obtain ⟨-, items, s, -, -, -, -, hx, -, rfl⟩ := mouseHidParse_eq_ok_iff.1 h
  obtain ⟨f, hf, -⟩ := hsum.x_iff.1 hx
  have hlt := hsum.report_lt f hf
  rintro hnil
  rw [hnil] at hlt
  exact absurd hlt (Nat.not_lt_zero _)

/-- The subscriptions before the protocol is selected. -/
lemma unsubscribed (h : Surveyed s) (he : Exploring s)
    (hrank : s.stage.rank ≤ Stage.protocol.rank) : s.host.attempt.subscribed = [] :=
  ((h.fits (.inl he.live.1)).uncovered hrank).2.2.2

/-- The session changes before the subscriptions, while no procedure is in progress. -/
lemma revise (h : Surveyed s) (hs : Coherent s) (he : Exploring s)
    (hrank : s.stage.rank ≤ Stage.protocol.rank) {session : Session}
    (hbounded : session.Bounded) (hfits : session.Fits s.stage []) :
    Surveyed { s with session } :=
  h.update hs he.live hrank hbounded hfits fun _ hne => absurd he.requests hne

lemma readNextReference (h : Surveyed s) (hs : Coherent s) (he : Exploring s) {c : Conn}
    (hc : s.mouseConn = some c) (hstage : s.stage = .reportReferences)
    (hmap : s.session.map.reports ≠ []) (a : Answers) : Surveyed (s.readNextReference c a) := by
  have hlow : Stage.reportMap.rank < s.stage.rank := by rw [hstage]; decide
  have hhigh : s.stage.rank ≤ Stage.protocol.rank := by rw [hstage]; decide
  have hnil := h.unsubscribed he hhigh
  have hle : Session.firstReference (s.session.reports.drop s.session.index) s.session.index ≤
      s.session.reports.length := by
    have hspec := (firstReference_le (s.session.reports.drop s.session.index) s.session.index).2
    have hindex := h.bounded.index_le
    rw [List.length_drop] at hspec
    omega
  unfold State.readNextReference
  dsimp only
  split
  case isTrue hend =>
    have hlt : Stage.reportMap.rank < Stage.protocol.rank := by decide
    refine advance he.requests
      ⟨h.bounded.reports_le, Nat.zero_le _, h.bounded.mapData_le, h.bounded.referenceData_le⟩ ?_ ?_
      Stage.noConfusion
    · show Session.Fits _ .protocol s.host.attempt.subscribed
      rw [hnil]
      exact h.fits_uncovered he.live hlt hhigh ⟨rfl, rfl, rfl⟩
    · intro i hi
      change i ∈ s.host.attempt.subscribed at hi
      rw [hnil] at hi
      exact absurd hi List.not_mem_nil
  case isFalse hmore =>
    have hcleared : Surveyed { s with session := { s.session with
        index := Session.firstReference (s.session.reports.drop s.session.index) s.session.index
        referenceData := [] } } :=
      h.revise hs he hhigh ⟨h.bounded.reports_le, hle, h.bounded.mapData_le, Nat.zero_le _⟩
        (h.fits_uncovered he.live hlow hhigh ⟨rfl, rfl, rfl⟩)
    refine hcleared.startRequest (he.withSession _) hc _ a.gatt (fun _ => ⟨?_, hmap⟩)
      fun _ _ _ => Request.noConfusion
    exact lt_of_le_of_ne hle hmore

lemma readReferences (h : Surveyed s) (hs : Coherent s) (he : Exploring s) {c : Conn}
    (hc : s.mouseConn = some c) (hstage : s.stage = .reportReferences) (a : Answers) :
    Surveyed (s.readReferences c a) := by
  have hlow : Stage.reportMap.rank < s.stage.rank := by rw [hstage]; decide
  have hhigh : s.stage.rank ≤ Stage.protocol.rank := by rw [hstage]; decide
  unfold State.readReferences
  split
  case isFalse hmap => exact h.readNextReference hs he hc hstage hmap a
  case isTrue =>
  split
  case h_1 => exact h.fail _
  case h_2 map hparse =>
    have hparsed : Surveyed { s with session := { s.session with map } } :=
      h.revise hs he hhigh ⟨h.bounded.reports_le, h.bounded.index_le, h.bounded.mapData_le,
        h.bounded.referenceData_le⟩ (h.fits_uncovered he.live hlow hhigh ⟨rfl, rfl, rfl⟩)
    dsimp only
    split
    · exact hparsed.fail _
    · exact hparsed.readNextReference (hs.withSession _) (he.withSession _) hc hstage
        (reports_ne_nil hparse) a

/-- The protocol is selected, as far as the subscriptions may begin. -/
lemma selected (h : Surveyed s) (he : Exploring s) (hstage : s.stage = .protocol) :
    Surveyed (s.nextStage .subscriptions) := by
  have hrank : s.stage.rank ≤ Stage.subscriptions.rank := by rw [hstage]; decide
  exact advance he.requests h.bounded ((h.fits (.inl he.live.1)).later hrank) (h.passed he.live)
    Stage.noConfusion

lemma setProtocol (h : Surveyed s) (he : Exploring s) {c : Conn} (hc : s.mouseConn = some c)
    (hstage : s.stage = .protocol) (a : Answers) : Surveyed (s.setProtocol c a) := by
  unfold State.setProtocol
  split
  · exact h.selected he hstage
  split
  · have hwritten := h.observe
      (.command c s.session.protocolHandle s.session.protocol a.protocol) ⟨rfl, rfl⟩
    dsimp only
    split
    · exact hwritten.fail _
    · exact hwritten.selected (he.observe (.command _ _ _ _) trivial) hstage
  · refine h.startRequest he hc _ a.gatt (fun hreferences => ?_) fun _ _ _ => Request.noConfusion
    exact Stage.noConfusion (hstage.symm.trans hreferences)

lemma selectProtocol (h : Surveyed s) (hs : Coherent s) (he : Exploring s) {c : Conn}
    (hc : s.mouseConn = some c) (hstage : s.stage = .protocol) (a : Answers) :
    Surveyed (s.selectProtocol c a) := by
  have hlow : Stage.reportMap.rank < s.stage.rank := by rw [hstage]; decide
  have hhigh : s.stage.rank ≤ Stage.protocol.rank := by rw [hstage]
  have hset : Surveyed { s with session := { s.session with protocol := 1 } } :=
    h.revise hs he hhigh ⟨h.bounded.reports_le, h.bounded.index_le, h.bounded.mapData_le,
      h.bounded.referenceData_le⟩ (h.fits_uncovered he.live hlow hhigh ⟨rfl, rfl, rfl⟩)
  have hset' := he.withSession { s.session with protocol := 1 }
  have hwritten := hset.observe (.command c s.session.controlHandle 1 a.control) ⟨rfl, rfl⟩
  unfold State.selectProtocol
  dsimp only
  split
  · split
    · exact hwritten.fail _
    · exact hwritten.setProtocol (hset'.observe (.command _ _ _ _) trivial) hc hstage a
  · exact hset.setProtocol hset' hc hstage a

/-- The client is ready. -/
lemma becomeReady (h : Surveyed s) (he : Exploring s) (hcomplete : s.session.Complete)
    (hcandidate : s.newCandidate = false) (hrank : s.stage.rank ≤ Stage.ready.rank) :
    Surveyed s.becomeReady where
  bounded := h.bounded
  fits := fun _ => (h.fits (.inl he.live.1)).later hrank
  owned := fun _ => h.owned he.live
  reading := fun _ => Stage.noConfusion
  subscribing := fun _ c i value ccc hr => by
    change _ ∈ s.host.attempt.requests at hr
    rw [he.requests] at hr
    exact absurd hr List.not_mem_nil
  passed := fun _ => h.passed he.live
  ready := fun _ => ⟨hcomplete, hcandidate⟩

lemma finishReady (h : Surveyed s) (he : Exploring s) (hstage : s.stage = .subscriptions)
    (c : Conn) (a : Answers) : Surveyed (s.finishReady c a) := by
  have hrank : s.stage.rank ≤ Stage.ready.rank := by rw [hstage]; decide
  have hsaved := h.observe (.save c.dst a.save) ⟨rfl, rfl⟩
  have hregistered := hsaved.observe (.registered c.dst) ⟨rfl, rfl⟩
  have hreg := (he.observe (.save c.dst a.save) trivial).observe (.registered c.dst) trivial
  unfold State.finishReady
  split
  case isTrue => exact h.fail _
  case isFalse hcovered =>
  simp only [not_or, not_not] at hcovered
  have hcomplete : s.session.Complete := ⟨hcovered.2.1, hcovered.2.2.1⟩
  split
  case isFalse hknown =>
    exact h.becomeReady he hcomplete (Bool.eq_false_of_not_eq_true hknown) hrank
  case isTrue =>
  split
  case isTrue => exact h.fail _
  case isFalse =>
  dsimp only
  split
  case isTrue => exact hsaved.fail _
  case isFalse =>
    have hknown : Surveyed { (s.observe (.save c.dst a.save)).observe (.registered c.dst) with
        peer := c.dst, havePeer := true, newCandidate := false } :=
      { hregistered with ready := fun hready => Stage.noConfusion (hstage.symm.trans hready) }
    exact hknown.becomeReady ⟨hreg.live, hreg.requests, hreg.stage, hreg.notQueued⟩ hcomplete rfl
      hrank

lemma subscribeNext (h : Surveyed s) (he : Exploring s) {c : Conn}
    (hc : s.mouseConn = some c) (hstage : s.stage = .subscriptions) (a : Answers) :
    Surveyed (s.subscribeNext c a) := by
  have hspec := firstUseful_le s.session.map (s.session.reports.drop s.session.index)
    s.session.index
  have huseful {report : ReportCharacteristic} (hreport : s.session.reports[Session.firstUseful
      s.session.map (s.session.reports.drop s.session.index) s.session.index]? = some report) :
      report.type = 1 := by
    have hdrop : (s.session.reports.drop s.session.index)[Session.firstUseful s.session.map
        (s.session.reports.drop s.session.index) s.session.index - s.session.index]? =
          some report := by
      rw [List.getElem?_drop, Nat.add_sub_cancel' hspec.1]
      exact hreport
    have huseful := useful_firstUseful hdrop
    unfold Session.Useful at huseful
    exact of_decide_eq_true (Bool.and_eq_true_iff.1 huseful).1
  rw [List.length_drop] at hspec
  unfold State.subscribeNext
  dsimp only
  generalize Session.firstUseful s.session.map (s.session.reports.drop s.session.index)
    s.session.index = index at hspec huseful ⊢
  have hle : index ≤ s.session.reports.length := by
    have hindex := h.bounded.index_le
    omega
  have hnone {r : Conn × Request} (hr : r ∈ s.host.attempt.requests) : False := by
    rw [he.requests] at hr
    exact List.not_mem_nil hr
  have hfits := h.fits (.inl he.live.1)
  have hlow : Stage.protocol.rank < s.stage.rank := by rw [hstage]; decide
  have hmoved : Surveyed { s with session := { s.session with index } } :=
    { h with
      bounded := ⟨h.bounded.reports_le, hle, h.bounded.mapData_le, h.bounded.referenceData_le⟩
      fits := fun _ =>
        { hfits with
          blank := fun hrank => absurd ((hlow.trans_le hrank).trans (by decide)) (lt_irrefl _)
          unparsed := fun hrank => absurd ((hlow.trans_le hrank).trans (by decide)) (lt_irrefl _)
          covers := ⟨hfits.covers.buttons, hfits.covers.axes⟩ }
      reading := fun _ _ hne => absurd he.requests hne
      subscribing := fun _ c i value ccc hr => (hnone hr).elim
      passed := fun _ i hi => (h.passed he.live i hi).trans_le hspec.1
      ready := fun hready => Stage.noConfusion (hstage.symm.trans hready) }
  split
  case h_1 report hreport =>
    split
    case isTrue => exact hmoved.fail _
    case isFalse hccc =>
      refine hmoved.startRequest (he.withSession _) hc _ a.gatt (fun hreferences => ?_) ?_
      · exact Stage.noConfusion (hstage.symm.trans hreferences)
      · rintro i value ccc heq
        obtain ⟨rfl, rfl, rfl⟩ := Request.subscribe.inj heq
        exact ⟨hstage, rfl, report, hreport, huseful hreport, hccc⟩
  case h_2 =>
    split
    · exact hmoved.finishReady (he.withSession _) hstage c a
    · exact hmoved

lemma discoveryWorkCb (h : Surveyed s) (hs : Coherent s) (hnotQueued : .discovery ∉ s.work.queue)
    (hready : s.Live → s.host.attempt.requests = [] ∧ s.stage.Exploring) (a : Answers) :
    Surveyed (s.discoveryWorkCb a) := by
  unfold State.discoveryWorkCb
  split
  case h_1 => exact h
  case h_2 c hc =>
  split
  case isTrue => exact h
  case isFalse hfailed =>
  rw [not_or, not_not] at hfailed
  have hlive : s.Live := ⟨hc ▸ Option.some_ne_none c, hfailed⟩
  have he : Exploring s := ⟨hlive, (hready hlive).1, (hready hlive).2, hnotQueued⟩
  have hstart (request : Request) (hstage : s.stage ≠ .reportReferences)
      (hrequest : ∀ i value ccc, request ≠ .subscribe i value ccc) :
      Surveyed (s.startRequest c request a.gatt) :=
    h.startRequest he hc request a.gatt (fun hreferences => absurd hreferences hstage)
      fun i value ccc heq => absurd heq (hrequest i value ccc)
  split
  case h_5 hstage => exact h.readReferences hs he hc hstage a
  case h_6 hstage => exact h.selectProtocol hs he hc hstage a
  case h_7 hstage => exact h.subscribeNext he hc hstage a
  case h_8 => exact h
  all_goals
    rename_i hstage
    exact hstart _ (by rw [hstage]; exact Stage.noConfusion) fun _ _ _ => Request.noConfusion

/-! ### Steps and runs -/

/-- An attempt begins. -/
lemma opens {maxPaired : ℕ} (h : Opens maxPaired s s') (hs' : Coherent s') : Surveyed s' := by
  obtain ⟨t, addr, -, -, hr⟩ := h
  exact (begun t addr).rests (fun _ => ⟨rfl, (begun_procedures t addr).1⟩) hs' hr

lemma of_rests (h : Surveyed s) (hs : Coherent s) (hs' : Coherent s') (hr : Rests s s') :
    Surveyed s' :=
  h.rests (fun hgap => ⟨(hs.gap hgap).2.1, (hs.gapWork hgap).2.2.2⟩) hs' hr

/-- `discovery_work` has been taken off the queue. -/
lemma discovery (h : Surveyed s) (hs : Coherent s) {rest : List Work}
    (hq : s.work.queue = .discovery :: rest) (a : Answers) :
    Surveyed ((s.take .discovery rest).discoveryWorkCb a) := by
  have hst := hs.take hq
  have ht : Surveyed (s.take .discovery rest) := h.of_rests hs hst (.take .discovery rest)
  have hnodup : (Work.discovery :: rest).Nodup := hq ▸ hs.nodup
  refine ht.discoveryWorkCb hst (List.nodup_cons.1 hnodup).1 (fun hlive => ?_) a
  obtain ⟨hrequests, hstage⟩ := (hs.token hlive).discovery (hq ▸ List.mem_cons_self)
  refine ⟨?_, hstage⟩
  rw [State.take, State.host_observe]
  exact hrequests

/-- Every step preserves what the session holds. -/
theorem step {maxPaired : ℕ} (h : Surveyed s) (hs : Coherent s) {l : Label}
    (hstep : Step maxPaired s l s') : Surveyed s' := by
  have hs' := hs.step hstep
  have hallows := hstep.1
  cases course_of_step hs hstep.2 with
  | rests _ hr => exact h.of_rests hs hs' hr
  | opens _ ho => exact opens ho hs'
  | discovery _ hq => exact h.discovery hs hq _
  | discovered c type start stop attr => exact h.discovered hs hallows attr
  | readDone c handle err data => exact h.readDone hs hallows err data
  | written c handle value err => exact h.written hs hallows err
  | subscribed c i value ccc err => exact h.subscribed hs hallows err
  | notified c i data => exact h.notified hs c i data

end Surveyed

lemma surveyed_init (bonds : List Addr) : Surveyed (State.init bonds) := by
  have hidle : ¬(State.init bonds).Engaged := State.not_engaged rfl rfl
  exact {
    bounded := Session.bounded_empty
    fits := fun hengaged => absurd hengaged hidle
    owned := fun hlive => absurd rfl hlive.1
    reading := fun hlive => absurd rfl hlive.1
    subscribing := fun hengaged => absurd hengaged hidle
    passed := fun hlive => absurd rfl hlive.1
    ready := fun hready => Stage.noConfusion hready }

/-- The session fits the stage in every state of a run. -/
theorem run_surveyed {maxPaired : ℕ} {bonds : List Addr} {labels : List Label} {s : State}
    (hrun : Run maxPaired (State.init bonds) labels s) : Surveyed s :=
  (Transition.Run.invariant hrun (fun s => Coherent s ∧ Surveyed s)
    ⟨coherent_init bonds, surveyed_init bonds⟩
    fun _ _ _ h hstep => ⟨h.1.step hstep, h.2.step h.1 hstep⟩).2

end BleMouse.Client
