/-
The descriptors of the report characteristics.

`discover_cb` is told the declarations of the characteristics first and the other attributes
afterwards.  It keeps a range of handles for every report, whose end is the end of the service
until the next declaration is known.

* `rangeEnd`: where the range of a declaration ends;
* `owner`: the declaration that a handle belongs to;
* `descriptor_of_own_report`: which attributes are recorded for a report.
-/
import BleMouse.Client.CoherentRun

namespace BleMouse.Client

/-! ### Declarations -/

/-- The declarations of reports. -/
def declaredReports (chars : List Attr) : List Attr :=
  chars.filter fun ch => ch.characteristic = .report

/-- Declarations as the host reports them, at most twelve of them of reports. -/
structure Declared (session : Session) (chars : List Attr) : Prop where
  within : ∀ ch ∈ chars, session.serviceStart ≤ ch.handle ∧ ch.handle ≤ session.serviceEnd
  increasing : chars.Pairwise fun ch ch' => ch.handle < ch'.handle
  value : ∀ ch ∈ chars, ch.handle < ch.valueHandle
  next : chars.IsChain fun ch ch' => ch.valueHandle < ch'.handle
  count : (declaredReports chars).length ≤ maxCharacteristics

/-- Before the next declaration, or at the end of the service. -/
def rangeEnd (stop : Handle) (chars : List Attr) (ch : Attr) : Handle :=
  match (chars.filter fun ch' => ch.handle < ch'.handle).head? with
  | some next => next.handle - 1
  | none => stop

/-- The declaration that a handle belongs to: the last one that is not above it. -/
def owner (chars : List Attr) (handle : Handle) : Option Attr :=
  (chars.filter fun ch => ch.handle ≤ handle).getLast?

/-- The handle of the last of the attributes with a property, or zero. -/
def lastHandle (p : Attr → Prop) [DecidablePred p] (attrs : List Attr) : Handle :=
  ((attrs.filter fun attr => p attr).getLast?.map (·.handle)).getD 0

/-- The attribute recorded last among those of a kind that belong to a declaration, lie above
its value and within the service. -/
def recorded (uuid : Uuid) (stop : Handle) (chars : List Attr) (ch : Attr) (attrs : List Attr) :
    Handle :=
  lastHandle (fun attr => attr.uuid = uuid ∧ owner chars attr.handle = some ch ∧
    ch.valueHandle < attr.handle ∧ attr.handle ≤ stop) attrs

/-- What is kept of the reports once all declarations are known. -/
def surveyedReports (stop : Handle) (chars : List Attr) : List ReportCharacteristic :=
  (declaredReports chars).map fun ch => { handle := ch.valueHandle, stop := rangeEnd stop chars ch }

lemma declaredReports_append (chars rest : List Attr) :
    declaredReports (chars ++ rest) = declaredReports chars ++ declaredReports rest :=
  List.filter_append ..

lemma mem_of_declaredReports {chars : List Attr} {ch : Attr} (h : ch ∈ declaredReports chars) :
    ch ∈ chars :=
  List.mem_of_mem_filter h

section Ranges

variable {chars pre post : List Attr} {ch new : Attr} {stop handle : Handle}

/-- Around one of the declarations. -/
lemma filter_above (h : (pre ++ ch :: post).Pairwise fun ch ch' => ch.handle < ch'.handle) :
    (pre ++ ch :: post).filter (fun ch' => decide (ch.handle < ch'.handle)) = post := by
  obtain ⟨-, hpost, hpre⟩ := List.pairwise_append.1 h
  have hafter := (List.pairwise_cons.1 hpost).1
  rw [List.filter_append, List.filter_eq_nil_iff.2, List.nil_append,
    List.filter_cons_of_neg (by simp), List.filter_eq_self.2]
  · exact fun x hx => decide_eq_true (hafter x hx)
  · intro x hx
    have hlt := hpre x hx ch List.mem_cons_self
    rw [decide_eq_true_eq]
    bv_omega

lemma rangeEnd_split (h : (pre ++ ch :: post).Pairwise fun ch ch' => ch.handle < ch'.handle) :
    rangeEnd stop (pre ++ ch :: post) ch = match post.head? with
      | some next => next.handle - 1
      | none => stop := by
  unfold rangeEnd
  rw [filter_above h]

/-- A handle above the value belongs to a declaration as long as the next one is not reached. -/
lemma owner_split (h : (pre ++ ch :: post).Pairwise fun ch ch' => ch.handle < ch'.handle)
    (hle : ch.handle ≤ handle) : owner (pre ++ ch :: post) handle = some ch ↔
      ∀ next, post.head? = some next → handle < next.handle := by
  obtain ⟨-, hpost, hpre⟩ := List.pairwise_append.1 h
  obtain ⟨hafter, hsorted⟩ := List.pairwise_cons.1 hpost
  have hkeep {x : Attr} (rest : List Attr) (hle : x.handle ≤ handle) :
      (x :: rest).filter (fun ch' => decide (ch'.handle ≤ handle)) =
        x :: rest.filter fun ch' => decide (ch'.handle ≤ handle) :=
    List.filter_cons_of_pos (decide_eq_true hle)
  unfold owner
  rw [List.filter_append, hkeep post hle, List.getLast?_append]
  cases post with
  | nil => simp
  | cons next rest =>
    have hrest := (List.pairwise_cons.1 hsorted).1
    constructor
    · rintro heq _ ⟨⟩
      by_contra hnot
      rw [hkeep rest (BitVec.not_lt.1 hnot), List.getLast?_cons_cons] at heq
      obtain ⟨last, hlast⟩ : ∃ last, (next :: rest.filter fun ch' =>
          decide (ch'.handle ≤ handle)).getLast? = some last :=
        ⟨_, List.getLast?_eq_some_getLast (List.cons_ne_nil _ _)⟩
      rw [hlast, Option.some_or, Option.some_inj] at heq
      have hmem := List.mem_of_getLast? hlast
      have habove : ch.handle < last.handle := by
        rcases List.mem_cons.1 hmem with rfl | hmem
        · exact hafter _ List.mem_cons_self
        · exact hafter _ (List.mem_cons_of_mem _ (List.mem_of_mem_filter hmem))
      rw [heq] at habove
      bv_omega
    · intro hnext
      have hlt := hnext next rfl
      have hnone : (next :: rest).filter (fun ch' => decide (ch'.handle ≤ handle)) = [] := by
        refine List.filter_eq_nil_iff.2 fun x hx => ?_
        rw [decide_eq_true_eq]
        rcases List.mem_cons.1 hx with rfl | hx
        · bv_omega
        · have hlt' := hrest x hx
          bv_omega
      rw [hnone]
      rfl

/-- The range of a declaration holds the handles above its value that belong to it. -/
lemma mem_range_iff (h : chars.Pairwise fun ch ch' => ch.handle < ch'.handle)
    (hstop : ∀ ch ∈ chars, ch.handle ≤ stop) (hmem : ch ∈ chars)
    (hvalue : ch.handle < ch.valueHandle) :
    ch.valueHandle < handle ∧ handle ≤ rangeEnd stop chars ch ↔
      owner chars handle = some ch ∧ ch.valueHandle < handle ∧ handle ≤ stop := by
  obtain ⟨pre, post, rfl⟩ := List.append_of_mem hmem
  have hrange : ch.valueHandle < handle → (handle ≤ rangeEnd stop (pre ++ ch :: post) ch ↔
      owner (pre ++ ch :: post) handle = some ch ∧ handle ≤ stop) := by
    intro habove
    have hle : ch.handle ≤ handle := by bv_omega
    rw [rangeEnd_split h, owner_split h hle]
    cases hpost : post.head? with
    | none => simp
    | some next =>
      have hnext : next ∈ post := List.mem_of_head? hpost
      have hwithin := hstop next (List.mem_append_right _ (List.mem_cons_of_mem _ hnext))
      have hafter : ch.handle < next.handle :=
        (List.pairwise_cons.1 (List.pairwise_append.1 h).2.1).1 next hnext
      simp only [Option.some_inj]
      constructor
      · intro hle
        refine ⟨?_, ?_⟩
        · rintro _ rfl
          bv_omega
        · bv_omega
      · rintro ⟨hlt, -⟩
        have hlt := hlt next rfl
        bv_omega
  constructor
  · rintro ⟨habove, hle⟩
    exact ⟨((hrange habove).1 hle).1, habove, ((hrange habove).1 hle).2⟩
  · rintro ⟨howner, habove, hle⟩
    exact ⟨habove, (hrange habove).2 ⟨howner, hle⟩⟩

/-- With a later declaration, the ranges that had no end before get one. -/
lemma rangeEnd_snoc (h : ch.handle < new.handle) :
    rangeEnd stop (chars ++ [new]) ch = rangeEnd (new.handle - 1) chars ch := by
  unfold rangeEnd
  rw [List.filter_append, List.head?_append,
    show [new].filter (fun ch' => decide (ch.handle < ch'.handle)) = [new] from
      List.filter_cons_of_pos (decide_eq_true h)]
  cases (chars.filter fun ch' => decide (ch.handle < ch'.handle)).head? with
  | none => rfl
  | some next => rfl

lemma rangeEnd_last (h : ∀ ch ∈ chars, ch.handle ≤ new.handle) :
    rangeEnd stop (chars ++ [new]) new = stop := by
  unfold rangeEnd
  rw [List.filter_eq_nil_iff.2]
  · rfl
  · intro x hx
    rw [decide_eq_true_eq]
    rcases List.mem_append.1 hx with hx | hx
    · exact BitVec.not_lt.2 (h x hx)
    · rw [List.mem_singleton.1 hx]
      exact BitVec.lt_irrefl _

lemma surveyedReports_snoc (h : ∀ ch ∈ chars, ch.handle < new.handle) :
    surveyedReports stop (chars ++ [new]) = surveyedReports (new.handle - 1) chars ++
      if new.characteristic = .report then [{ handle := new.valueHandle, stop }] else [] := by
  have hold : (declaredReports chars).map (fun ch =>
      ({ handle := ch.valueHandle, stop := rangeEnd stop (chars ++ [new]) ch } :
        ReportCharacteristic)) = surveyedReports (new.handle - 1) chars := by
    refine List.map_congr_left fun ch hch => ?_
    rw [rangeEnd_snoc (h ch (mem_of_declaredReports hch))]
  unfold surveyedReports
  rw [declaredReports_append, List.map_append, hold]
  unfold surveyedReports
  congr 1
  by_cases hreport : new.characteristic = .report
  · have hnew : declaredReports [new] = [new] :=
      List.filter_cons_of_pos (decide_eq_true hreport)
    rw [if_pos hreport, hnew, List.map_singleton,
      rangeEnd_last fun ch hch => BitVec.le_of_lt (h ch hch)]
  · have hnew : declaredReports [new] = [] :=
      List.filter_cons_of_neg (by rwa [decide_eq_true_eq])
    rw [if_neg hreport, hnew]
    rfl

/-- Only a range without a declaration after it ends with the service. -/
lemma stop_lt_of_mem {report : ReportCharacteristic} {last : Handle}
    (hlast : ∀ ch ∈ chars, ch.handle < last) (hstop : last ≤ stop)
    (hmem : report ∈ surveyedReports (last - 1) chars) : report.stop ≠ stop := by
  obtain ⟨ch, hch, rfl⟩ := List.mem_map.1 hmem
  have hch := mem_of_declaredReports hch
  show rangeEnd (last - 1) chars ch ≠ stop
  unfold rangeEnd
  have hlt := hlast ch hch
  cases hnext : (chars.filter fun ch' => decide (ch.handle < ch'.handle)).head? with
  | none =>
    dsimp only
    bv_omega
  | some next =>
    have hmem := List.mem_filter.1 (List.mem_of_head? hnext)
    have hlt' := hlast next hmem.1
    have hafter := of_decide_eq_true hmem.2
    dsimp only
    bv_omega

end Ranges

/-! ### The characteristic stage -/

/-- The next declaration ends the range of the last report, unless it has an end already. -/
lemma closeLast_reports {session : Session} {chars : List Attr} {handle : Handle}
    (hreports : session.reports = surveyedReports session.serviceEnd chars)
    (hincreasing : chars.Pairwise fun ch ch' => ch.handle < ch'.handle)
    (hwithin : ∀ ch ∈ chars, ch.handle ≤ session.serviceEnd) :
    session.closeLast handle =
      { session with reports := surveyedReports (handle - 1) chars } := by
  rcases List.eq_nil_or_concat' chars with rfl | ⟨pre, last, rfl⟩
  · have hnil : session.reports = [] := hreports
    unfold Session.closeLast
    rw [hnil]
    show session = { session with reports := [] }
    rw [← hnil]
  · obtain ⟨-, -, hcross⟩ := List.pairwise_append.1 hincreasing
    have hbefore : ∀ ch ∈ pre, ch.handle < last.handle := fun ch hch =>
      hcross ch hch last List.mem_cons_self
    have hlast := hwithin last (List.mem_append_right _ List.mem_cons_self)
    rw [surveyedReports_snoc hbefore] at hreports ⊢
    unfold Session.closeLast
    by_cases hreport : last.characteristic = .report
    · -- the last declaration is that of the last report
      rw [if_pos hreport] at hreports ⊢
      rw [hreports, List.getLast?_concat]
      dsimp only
      rw [if_pos rfl, List.dropLast_concat]
    · -- the last report has its end from an earlier declaration
      rw [if_neg hreport, List.append_nil] at hreports ⊢
      rw [← hreports]
      cases hget : session.reports.getLast? with
      | none => rfl
      | some report =>
        have hmem := List.mem_of_getLast? hget
        rw [hreports] at hmem
        exact if_neg (stop_lt_of_mem hbefore hlast hmem)

section Report

variable {s : State} {c : Conn} {chars attrs : List Attr}

/-- The host reports attributes. -/
def State.reported (s : State) (c : Conn) (attrs : List Attr) : State :=
  attrs.foldl (fun s attr => (s.discoverCb c (some attr)).1) s

lemma State.reported_snoc (s : State) (c : Conn) (attrs : List Attr) (attr : Attr) :
    s.reported c (attrs ++ [attr]) = ((s.reported c attrs).discoverCb c (some attr)).1 := by
  unfold State.reported
  rw [List.foldl_append]
  rfl

/-- A procedure of the mouse goes on in the stage it is for. -/
structure State.Discovers (s : State) (c : Conn) (stage : Stage) : Prop where
  valid : s.validCallback c = true
  stage : s.stage = stage

lemma State.Discovers.of_session {stage : Stage} (h : s.Discovers c stage) (session : Session) :
    State.Discovers { s with session } c stage :=
  ⟨h.valid, h.stage⟩

/-- What the characteristic stage has kept after some of the declarations. -/
structure Charted (s : State) (c : Conn) (start stop : Handle) (chars : List Attr) : Prop where
  discovers : s.Discovers c .characteristics
  serviceStart : s.session.serviceStart = start
  serviceEnd : s.session.serviceEnd = stop
  reports : s.session.reports = surveyedReports stop chars

/-- The declarations before the last one. -/
lemma Declared.init {session : Session} {new : Attr} (h : Declared session (chars ++ [new])) :
    Declared session chars where
  within ch hch := h.within ch (List.mem_append_left _ hch)
  increasing := (List.pairwise_append.1 h.increasing).1
  value ch hch := h.value ch (List.mem_append_left _ hch)
  next := h.next.left_of_append
  count := by
    have hcount := h.count
    rw [declaredReports_append, List.length_append] at hcount
    omega

lemma surveyedReports_length (stop : Handle) (chars : List Attr) :
    (surveyedReports stop chars).length = (declaredReports chars).length :=
  List.length_map _

namespace Declared

variable {session session' : Session} {new : Attr}

lemma before (h : Declared session (chars ++ [new])) : ∀ ch ∈ chars, ch.handle < new.handle :=
  fun ch hch => (List.pairwise_append.1 h.increasing).2.2 ch hch new List.mem_cons_self

/-- There is room for the last report. -/
lemma room (h : Declared session (chars ++ [new])) (hreport : new.characteristic = .report)
    (stop : Handle) : (surveyedReports stop chars).length ≠ maxCharacteristics := by
  have hcount := h.count
  rw [declaredReports_append, List.length_append,
    show declaredReports [new] = [new] from List.filter_cons_of_pos (decide_eq_true hreport),
    List.length_singleton] at hcount
  rw [surveyedReports_length]
  omega

/-- The last declaration ends the report before it. -/
lemma closeLast (h : Declared session (chars ++ [new]))
    (hend : session'.serviceEnd = session.serviceEnd)
    (hreports : session'.reports = surveyedReports session.serviceEnd chars) :
    session'.closeLast new.handle =
      { session' with reports := surveyedReports (new.handle - 1) chars } := by
  refine closeLast_reports (hend ▸ hreports) h.init.increasing fun ch hch => ?_
  rw [hend]
  exact (h.init.within ch hch).2

end Declared

/-- A declaration is reported. -/
lemma Charted.discover {session : Session} {new : Attr}
    (h : Charted s c session.serviceStart session.serviceEnd chars)
    (hd : Declared session (chars ++ [new])) :
    Charted (s.discoverCb c (some new)).1 c session.serviceStart session.serviceEnd
      (chars ++ [new]) := by
  have hcb : s.discoverCb c (some new) = s.discoverCharacteristic new := by
    unfold State.discoverCb
    rw [h.discovers.valid, h.discovers.stage]
    rfl
  rw [hcb]
  unfold State.discoverCharacteristic
  rw [hd.closeLast h.serviceEnd h.reports]
  -- only a report adds to what is kept
  have hother (hnot : new.characteristic ≠ .report) :
      surveyedReports session.serviceEnd (chars ++ [new]) =
        surveyedReports (new.handle - 1) chars := by
    rw [surveyedReports_snoc hd.before, if_neg hnot, List.append_nil]
  split
  case h_4 hreport =>
    rw [if_neg (hd.room hreport _)]
    refine ⟨h.discovers.of_session _, h.serviceStart, h.serviceEnd, ?_⟩
    rw [surveyedReports_snoc hd.before, if_pos hreport]
    show surveyedReports (new.handle - 1) chars ++ [_] = _
    rw [h.serviceEnd]
  case h_1 hmap =>
    exact ⟨h.discovers.of_session _, h.serviceStart, h.serviceEnd,
      (hother (by rw [hmap]; exact Uuid.noConfusion)).symm⟩
  case h_2 hprotocol =>
    exact ⟨h.discovers.of_session _, h.serviceStart, h.serviceEnd,
      (hother (by rw [hprotocol]; exact Uuid.noConfusion)).symm⟩
  case h_3 hcontrol =>
    exact ⟨h.discovers.of_session _, h.serviceStart, h.serviceEnd,
      (hother (by rw [hcontrol]; exact Uuid.noConfusion)).symm⟩
  case h_5 hnot =>
    exact ⟨h.discovers.of_session _, h.serviceStart, h.serviceEnd, (hother hnot).symm⟩

lemma charted_of_reported (hs : s.Discovers c .characteristics) (hempty : s.session.reports = [])
    (hd : Declared s.session chars) :
    Charted (s.reported c chars) c s.session.serviceStart s.session.serviceEnd chars := by
  induction chars using List.reverseRecOn with
  | nil => exact ⟨hs, rfl, rfl, hempty⟩
  | append_singleton chars new ih =>
    rw [State.reported_snoc]
    exact (ih hd.init).discover hd

/-! ### The descriptor stage -/

lemma lastHandle_snoc (p : Attr → Prop) [DecidablePred p] (attrs : List Attr) (attr : Attr) :
    lastHandle p (attrs ++ [attr]) = if p attr then attr.handle else lastHandle p attrs := by
  unfold lastHandle
  rw [List.filter_append, List.getLast?_append]
  split
  case isTrue hp =>
    rw [show [attr].filter (fun attr => decide (p attr)) = [attr] from
      List.filter_cons_of_pos (decide_eq_true hp)]
    rfl
  case isFalse hp =>
    rw [show [attr].filter (fun attr => decide (p attr)) = [] from
      List.filter_cons_of_neg (by rwa [decide_eq_true_eq])]
    rfl

/-- A report keeps the last reference and the last configuration within its range. -/
lemma foldl_describe (attrs : List Attr) (handle stop : Handle) :
    attrs.foldl (fun report attr => Session.describe attr report) { handle, stop } =
      { handle, stop
        reference := lastHandle (fun attr => attr.uuid = .reportRef ∧ handle < attr.handle ∧
          attr.handle ≤ stop) attrs
        ccc := lastHandle (fun attr => attr.uuid = .ccc ∧ handle < attr.handle ∧
          attr.handle ≤ stop) attrs } := by
  induction attrs using List.reverseRecOn with
  | nil => rfl
  | append_singleton attrs attr ih =>
    rw [List.foldl_append, List.foldl_cons, List.foldl_nil, ih, lastHandle_snoc, lastHandle_snoc]
    unfold Session.describe
    dsimp only
    split
    case isTrue hout =>
      have hnot {uuid : Uuid} :
          ¬(attr.uuid = uuid ∧ handle < attr.handle ∧ attr.handle ≤ stop) := by
        rintro ⟨-, habove, hle⟩
        bv_omega
      rw [if_neg hnot, if_neg hnot]
    case isFalse hin =>
      have hrange : handle < attr.handle ∧ attr.handle ≤ stop := by
        constructor
        · bv_omega
        · bv_omega
      split
      case h_1 huuid =>
        rw [if_pos ⟨huuid, hrange⟩, if_neg fun h => Uuid.noConfusion (huuid.symm.trans h.1)]
      case h_2 huuid =>
        rw [if_neg fun h => Uuid.noConfusion (huuid.symm.trans h.1), if_pos ⟨huuid, hrange⟩]
      case h_3 href hccc => rw [if_neg fun h => href h.1, if_neg fun h => hccc h.1]

lemma discoverCb_descriptors (hs : s.Discovers c .descriptors) (attr : Attr) :
    (s.discoverCb c (some attr)).1 = { s with session := { s.session with
      reports := s.session.reports.map (Session.describe attr) } } := by
  unfold State.discoverCb
  rw [hs.valid, if_neg (by decide)]
  dsimp only
  split
  case h_1 hservice => cases hs.stage.symm.trans hservice
  case h_2 hcharacteristics => cases hs.stage.symm.trans hcharacteristics
  case h_3 => rfl
  case h_4 hnot => exact absurd hs.stage hnot

/-- Attributes are reported in the descriptor stage. -/
lemma reported_descriptors (hs : s.Discovers c .descriptors) (attrs : List Attr) :
    (s.reported c attrs).Discovers c .descriptors ∧
      (s.reported c attrs).session.reports = s.session.reports.map fun report =>
        attrs.foldl (fun report attr => Session.describe attr report) report := by
  induction attrs using List.reverseRecOn with
  | nil => exact ⟨hs, (List.map_id _).symm⟩
  | append_singleton attrs attr ih =>
    obtain ⟨hdiscovers, hreports⟩ := ih
    rw [State.reported_snoc, discoverCb_descriptors hdiscovers]
    refine ⟨hdiscovers.of_session _, ?_⟩
    show (s.reported c attrs).session.reports.map _ = _
    rw [hreports, List.map_map]
    refine List.map_congr_left fun report _ => ?_
    rw [List.foldl_append]
    rfl

lemma filter_range {uuid : Uuid} {stop : Handle} {ch : Attr}
    (hincreasing : chars.Pairwise fun ch ch' => ch.handle < ch'.handle)
    (hstop : ∀ ch ∈ chars, ch.handle ≤ stop) (hmem : ch ∈ chars)
    (hvalue : ch.handle < ch.valueHandle) :
    lastHandle (fun attr => attr.uuid = uuid ∧ ch.valueHandle < attr.handle ∧
      attr.handle ≤ rangeEnd stop chars ch) attrs = recorded uuid stop chars ch attrs := by
  unfold recorded lastHandle
  congr 3
  refine List.filter_congr fun attr _ => ?_
  rw [decide_eq_decide]
  exact and_congr_right fun _ => mem_range_iff hincreasing hstop hmem hvalue

/-- What the client knows of the reports once the mouse's declarations and then its other
attributes have been reported. -/
def State.described (s : State) (c : Conn) (chars attrs : List Attr) : State :=
  (((s.reported c chars).discoverCb c none).1).reported c attrs

/-- The ranges of the reports are disjoint, and for each of them the attributes are recorded that
belong to its own declaration. -/
theorem descriptor_of_own_report (attrs : List Attr) (hs : s.Discovers c .characteristics)
    (hempty : s.session.reports = []) (hd : Declared s.session chars)
    (hreached : ((s.reported c chars).discoverCb c none).1.stage = .descriptors) :
    (s.described c chars attrs).session.reports.length = (declaredReports chars).length ∧
    (s.described c chars attrs).session.reports.Pairwise (fun report report' =>
      ∀ handle, report.handle < handle → handle ≤ report.stop →
        ¬(report'.handle < handle ∧ handle ≤ report'.stop)) ∧
    ∀ (i : ℕ) (ch : Attr), (declaredReports chars)[i]? = some ch → ∃ report,
      (s.described c chars attrs).session.reports[i]? = some report ∧
      report.handle = ch.valueHandle ∧
      report.reference = recorded .reportRef s.session.serviceEnd chars ch attrs ∧
      report.ccc = recorded .ccc s.session.serviceEnd chars ch attrs := by
  have hchart := charted_of_reported hs hempty hd
  have hstop : ∀ ch ∈ chars, ch.handle ≤ s.session.serviceEnd := fun ch hch =>
    (hd.within ch hch).2
  -- the end of the characteristic stage leaves the session
  have hend : (s.reported c chars).discoverCb c none =
      ((s.reported c chars).nextStage .descriptors, false) := by
    have hcb : (s.reported c chars).discoverCb c none =
        ((s.reported c chars).discoverEnd, false) := by
      unfold State.discoverCb
      rw [hchart.discovers.valid]
      rfl
    rw [hcb] at hreached ⊢
    unfold State.discoverEnd at hreached ⊢
    rw [hchart.discovers.stage] at hreached ⊢
    dsimp only at hreached ⊢
    split at hreached
    case isTrue =>
      rw [show ((s.reported c chars).fail (-eNotSup)).stage = .characteristics from
        hchart.discovers.stage] at hreached
      cases hreached
    case isFalse hnot => rw [if_neg hnot]
  have hstart : ((s.reported c chars).nextStage .descriptors).Discovers c .descriptors := by
    obtain ⟨hc, hlive⟩ := State.validCallback_iff.1 hchart.discovers.valid
    exact ⟨State.validCallback_iff.2 ⟨hc, hlive.1, Stage.noConfusion⟩, rfl⟩
  have hreports : (s.described c chars attrs).session.reports =
      (declaredReports chars).map fun ch => attrs.foldl
        (fun report attr => Session.describe attr report)
        { handle := ch.valueHandle, stop := rangeEnd s.session.serviceEnd chars ch } := by
    unfold State.described
    rw [hend, (reported_descriptors hstart attrs).2]
    show (s.reported c chars).session.reports.map _ = _
    rw [hchart.reports]
    exact List.map_map
  rw [hreports]
  refine ⟨List.length_map _, ?_, ?_⟩
  · refine List.pairwise_map.2 ((hd.increasing.filter _).imp_of_mem fun {ch ch'} hch hch' hlt => ?_)
    have hmem := mem_of_declaredReports hch
    have hmem' := mem_of_declaredReports hch'
    rw [foldl_describe, foldl_describe]
    intro handle habove hle hrange
    have howner := (mem_range_iff hd.increasing hstop hmem (hd.value ch hmem)).1 ⟨habove, hle⟩
    have howner' := (mem_range_iff hd.increasing hstop hmem' (hd.value ch' hmem')).1 hrange
    rw [Option.some_inj.1 (howner.1.symm.trans howner'.1)] at hlt
    exact BitVec.lt_irrefl _ hlt
  · intro i ch hget
    have hmem := mem_of_declaredReports (List.mem_of_getElem? hget)
    have hvalue := hd.value ch hmem
    rw [List.getElem?_map, hget]
    refine ⟨_, rfl, ?_⟩
    dsimp only
    rw [foldl_describe]
    exact ⟨rfl, filter_range hd.increasing hstop hmem hvalue,
      filter_range hd.increasing hstop hmem hvalue⟩

/-- A mouse with a report map and two reports. -/
def twoReports : List Attr :=
  [{ handle := 2, characteristic := .reportMap, valueHandle := 3 },
    { handle := 4, characteristic := .report, valueHandle := 5 },
    { handle := 8, characteristic := .report, valueHandle := 9 }]

/-- The characteristics of a service are discovered. -/
def charting : State where
  session := { serviceStart := 2, serviceEnd := 50 }
  mouseConn := some ⟨1, ⟨1, 7⟩⟩
  stage := .characteristics

lemma charting_discovers : charting.Discovers ⟨1, ⟨1, 7⟩⟩ .characteristics := ⟨by decide, rfl⟩

lemma declared_twoReports : Declared charting.session twoReports where
  within := by decide
  increasing := by decide
  value := by decide
  next := by decide
  count := by decide

/-- A configuration between the two reports is recorded for the first. -/
theorem descriptor_of_first_report :
    let s := charting.described ⟨1, ⟨1, 7⟩⟩ twoReports [{ handle := 6, uuid := .ccc }]
    ∃ report, s.session.reports[0]? = some report ∧ report.ccc = 6 := by
  obtain ⟨-, -, hreports⟩ := descriptor_of_own_report [{ handle := 6, uuid := .ccc }]
    charting_discovers rfl declared_twoReports (by decide)
  obtain ⟨report, hget, -, -, hccc⟩ := hreports 0 _ rfl
  exact ⟨report, hget, hccc⟩

/-- The last declaration below a handle. -/
def lastBelow (chars : List Attr) (handle : Handle) : Option Attr :=
  (chars.filter fun ch => ch.handle < handle).getLast?

/-- A configuration that the mouse reports with the handle of a declaration is not recorded for
the report before it, and one beyond the service is not recorded for the last report. -/
theorem descriptor_at_declaration :
    let c : Conn := ⟨1, ⟨1, 7⟩⟩
    charting.Discovers c .characteristics ∧ charting.session.reports = [] ∧
    Declared charting.session twoReports ∧
    ((charting.reported c twoReports).discoverCb c none).1.stage = .descriptors ∧
    (lastBelow twoReports 8 = (declaredReports twoReports)[0]? ∧
      (charting.described c twoReports [{ handle := 8, uuid := .ccc }]).session.reports =
        [{ handle := 5, stop := 7 }, { handle := 9, stop := 50 }]) ∧
    (lastBelow twoReports 60 = (declaredReports twoReports)[1]? ∧
      (charting.described c twoReports [{ handle := 60, uuid := .ccc }]).session.reports =
        [{ handle := 5, stop := 7 }, { handle := 9, stop := 50 }]) :=
  ⟨charting_discovers, rfl, declared_twoReports, by decide, by decide, by decide⟩

end Report

end BleMouse.Client
