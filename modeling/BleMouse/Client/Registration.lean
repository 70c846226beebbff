/-
The registration of a candidate.

An attempt is for the saved peer or for a candidate, and a candidate becomes the saved peer in
`finish_ready` alone.

* `Advances`: a step lets the session rest, begins an attempt, explores, or finishes;
* `Enrolled`: `new_candidate` tells an attempt for a candidate that has not been registered;
* `registers_of_step`: what has been found and stored when a candidate is registered.
-/
import BleMouse.Client.Procedures

namespace BleMouse.Client

open BleMouse.Hid BleMouse.Output

/-! ### The kinds of steps -/

/-- `discovery_work` is taken off the queue. -/
lemma Explores.take {s : State} {rest : List Work} (hq : s.work.queue = .discovery :: rest) :
    Explores s (s.take .discovery rest) := by
  have hmem {w : Work} (hw : w ≠ .discovery) : w ∈ rest ↔ w ∈ s.work.queue := by
    rw [hq, List.mem_cons, or_iff_right hw]
  refine { Explores.refl s with queued := ?_, timeout := ?_, failure := ?_, journal := ?_ }
  · rintro w (rfl | rfl)
    · exact hmem Work.noConfusion
    · exact hmem Work.noConfusion
  · exact or_congr_right (hmem Work.noConfusion)
  · exact .inl ⟨rfl, (hmem Work.noConfusion).2⟩
  · refine ⟨[.ran .discovery], rfl, ?_⟩
    rintro o ho
    obtain rfl := List.mem_singleton.1 ho
    exact .inl Work.noConfusion

/-- What a step does to the attempt. -/
inductive Advances (maxPaired : ℕ) (s s' : State) : Prop
  | rests (hr : Rests s s')
  | opens (ho : Opens maxPaired s s')
  | explores (he : Explores s s')
  | finishes {c : Conn} {rest : List Work} {index : ℕ} (hq : s.work.queue = .discovery :: rest)
      (hc : s.mouseConn = some c) (hlive : s.Live) (hfinishes : Finishes c
        { s.take .discovery rest with session := { s.session with index } } s')

theorem advances_of_step {maxPaired : ℕ} {s s' : State} {l : Label} (hs : Coherent s)
    (hstep : Step maxPaired s l s') : Advances maxPaired s s' := by
  have hallows := hstep.1
  cases course_of_step hs hstep.2 with
  | rests _ hr => exact .rests hr
  | opens _ ho => exact .opens ho
  | @discovery a rest _ hq =>
    have hmem : .discovery ∈ s.work.queue := hq ▸ List.mem_cons_self
    rcases discoveryWorkCb_cases (s := s.take .discovery rest) (hs.initialized_of_mem hmem)
      (fun hlive => ((hs.token hlive).discovery hmem).2) a with
      hexplores | ⟨c, index, hc, hlive, -, hfinishes⟩
    · exact .explores ((Explores.take hq).trans hexplores)
    · exact .finishes hq hc hlive hfinishes
  | discovered c type start stop attr =>
    exact .explores ((Explores.discoverCb hs c attr).finished _ _ _ _)
  | readDone c handle err data => exact .explores ((Explores.readCb hs c err data).finished _ _ _ _)
  | written c handle value err =>
    have hstage (hlive : s.Live) : s.stage = .protocol := (hs.token hlive).fits _ hallows
    exact .explores ((Explores.writtenCb hs c err hstage).finished _ _ _ _)
  | subscribed c i value ccc err =>
    exact .explores ((Explores.subscribedCb hs c err i).finished _ _ _ _)
  | notified c i data => exact .explores (Explores.notifyCb hs c i data)

/-! ### The candidate of an attempt -/

/-- Whose attempt it is, whether it is for a candidate, whether its address was bonded before, and
whether it led to a registration. -/
def Attempt.candidacy (t : Attempt) : Addr × Bool × Bool × Bool :=
  (t.addr, t.new, t.bondedBefore, t.registered)

lemma record_candidacy (h : History) {o : Obs} (ho : o.Apart) :
    (h.record o).attempt.candidacy = h.attempt.candidacy := by
  cases o with
  | boot | attempt | gatt | done | registered => exact ho.elim
  | pairingComplete c bonded =>
    simp only [History.record, Attempt.record]
    split <;> rfl
  | _ => rfl

lemma Rests.candidacy {s s' : State} (h : Rests s s') :
    s'.host.attempt.candidacy = s.host.attempt.candidacy :=
  Journal.Grows.replay_keeps h.journal
    (fun host => host.attempt.candidacy = s.host.attempt.candidacy) rfl
    fun host _ ho hsame => (record_candidacy host ho).trans hsame

lemma Explores.candidacy {s s' : State} (h : Explores s s') :
    s'.host.attempt.candidacy = s.host.attempt.candidacy := by
  obtain ⟨requests, subscribed, hhost⟩ := h.host
  rw [hhost]
  rfl

lemma State.begun_candidacy (t : State) (addr : Addr) : (t.begun addr).host.attempt.candidacy =
    (addr, !t.havePeer, decide (addr ∈ t.host.bonds), false) := by
  unfold State.host State.begun
  simp only [State.observe, history_snoc]
  rfl

lemma State.register_host (s : State) (c : Conn) : (s.register c).becomeReady.host =
    (s.host.record (.save c.dst 0)).record (.registered c.dst) := by
  show history ((s.journal ++ [.save c.dst 0]) ++ [.registered c.dst]) = _
  rw [history_snoc, history_snoc]
  rfl

/-- What `new_candidate` says of the attempt under way. -/
structure Enrolled (s : State) : Prop where
  candidate : s.Engaged → s.newCandidate = (s.host.attempt.new && !s.host.attempt.registered)
  registered : s.host.attempt.registered = true → s.host.attempt.new = true
  fresh : s.host.attempt.new = true → s.host.attempt.bondedBefore = false

namespace Enrolled

variable {s s' : State}

/-- The candidate of the attempt stays. -/
lemma of_same (h : Enrolled s) (hsame : s'.host.attempt.candidacy = s.host.attempt.candidacy)
    (hengaged : s'.Engaged → s.Engaged ∧ s'.newCandidate = s.newCandidate) : Enrolled s' := by
  obtain ⟨-, hsame⟩ := Prod.mk.inj hsame
  obtain ⟨hnew, hsame⟩ := Prod.mk.inj hsame
  obtain ⟨hbefore, hregistered⟩ := Prod.mk.inj hsame
  refine ⟨fun hin => ?_, fun hreg => ?_, ?_⟩
  · obtain ⟨hin, heq⟩ := hengaged hin
    rw [heq, hnew, hregistered]
    exact h.candidate hin
  · rw [hnew]
    rw [hregistered] at hreg
    exact h.registered hreg
  · rw [hnew, hbefore]
    exact h.fresh

lemma rests (h : Enrolled s) (hr : Rests s s') : Enrolled s' :=
  h.of_same hr.candidacy fun hin => ⟨hr.engaged hin, hr.candidate hin⟩

lemma explores (h : Enrolled s) (he : Explores s s') : Enrolled s' := by
  refine h.of_same he.candidacy fun hin => ⟨?_, he.newCandidate⟩
  unfold State.Engaged at hin ⊢
  rwa [he.mouseConn, he.inConnect] at hin

lemma begun {maxPaired : ℕ} {t : State} {addr : Addr} (hadmits : Admits maxPaired t addr) :
    Enrolled (t.begun addr) := by
  obtain ⟨-, hcandidacy⟩ := Prod.mk.inj (t.begun_candidacy addr)
  obtain ⟨hnew, hcandidacy⟩ := Prod.mk.inj hcandidacy
  obtain ⟨hbefore, hregistered⟩ := Prod.mk.inj hcandidacy
  refine ⟨fun _ => ?_, fun hreg => ?_, fun hcandidate => ?_⟩
  · rw [hnew, hregistered]
    exact (Bool.and_true _).symm
  · rw [hregistered] at hreg
    exact absurd hreg Bool.false_ne_true
  · rw [hnew, Bool.not_eq_true'] at hcandidate
    rw [hbefore]
    exact decide_eq_false (hadmits.pairing hcandidate).2.1

lemma finishes (h : Enrolled s) {c : Conn} (hin : s.Engaged) (hf : Finishes c s s') :
    Enrolled s' := by
  cases hf with
  | known => exact ⟨fun _ => h.candidate hin, h.registered, h.fresh⟩
  | candidate _ hnew =>
    have hboth : (s.host.attempt.new && !s.host.attempt.registered) = true :=
      (h.candidate hin).symm.trans hnew
    have hcandidate : s.host.attempt.new = true := (Bool.and_eq_true_iff.1 hboth).1
    have hhost := s.register_host c
    refine ⟨fun _ => ?_, fun _ => ?_, ?_⟩
    · rw [hhost]
      exact (Bool.and_false _).symm
    · rw [hhost]
      exact hcandidate
    · rw [hhost]
      exact h.fresh

/-- Every step keeps `new_candidate` true to the attempt. -/
theorem step {maxPaired : ℕ} (h : Enrolled s) (hs : Coherent s) {l : Label}
    (hstep : Step maxPaired s l s') : Enrolled s' := by
  cases advances_of_step hs hstep with
  | rests hr => exact h.rests hr
  | opens ho =>
    obtain ⟨t, addr, -, hadmits, hr⟩ := ho
    exact (begun hadmits).rests hr
  | explores he => exact h.explores he
  | @finishes c rest index hq hc _ hfinishes =>
    have ht := h.explores ((Explores.take hq).session { s.session with index })
    have hin : s.Engaged := .inl (hc ▸ Option.some_ne_none c)
    exact ht.finishes hin hfinishes

end Enrolled

lemma enrolled_init (bonds : List Addr) : Enrolled (State.init bonds) where
  candidate := fun hin => absurd hin (State.not_engaged rfl rfl)
  registered := fun hreg => absurd hreg Bool.false_ne_true
  fresh := fun hnew => absurd hnew Bool.false_ne_true

/-! ### Registrations -/

/-- `have_peer` is set for a candidate: it was bonded, and `settings_save_one` has stored its
address without an error. -/
structure Registers (s : State) (addr : Addr) (s' : State) : Prop where
  unset : s.havePeer = false
  candidate : s.newCandidate = true
  bonded : s.candidateBonded = true ∧ addr ∈ s.host.bonds
  stored : s'.journal = s.journal ++ [.ran .discovery, .save addr 0, .registered addr]
  set : s'.havePeer = true ∧ s'.peer = addr

/-- A step registers the candidate of its attempt, or leaves the registration as it was. -/
theorem registers_of_step {maxPaired : ℕ} {s s' : State} {l : Label} (hs : Coherent s)
    (hstep : Step maxPaired s l s') (hreg : s'.host.attempt.registered = true) :
    s'.attempts = s.attempts ∧ (s'.host.attempt.candidacy = s.host.attempt.candidacy ∨
      Registers s s'.host.attempt.addr s') := by
  cases advances_of_step hs hstep with
  | rests hr => exact ⟨hr.attempts, .inl hr.candidacy⟩
  | opens ho =>
    obtain ⟨t, addr, -, -, hr⟩ := ho
    have hcandidacy := hr.candidacy.trans (t.begun_candidacy addr)
    have hnot : s'.host.attempt.registered = false := congrArg (·.2.2.2) hcandidacy
    rw [hnot] at hreg
    exact absurd hreg Bool.false_ne_true
  | explores he => exact ⟨he.uneventful.attempts, .inl he.candidacy⟩
  | @finishes c rest index hq hc _ hfinishes =>
    have htake : Explores s { s.take .discovery rest with session := { s.session with index } } :=
      (Explores.take hq).session { s.session with index }
    have hattempts := (attempts_finish hfinishes).trans htake.uneventful.attempts
    refine ⟨hattempts, ?_⟩
    have hin : s.Engaged := .inl (hc ▸ Option.some_ne_none c)
    cases hfinishes with
    | known => exact .inl htake.candidacy
    | candidate _ hnew hpaired hbonded =>
      have haddr : c.dst = s.host.attempt.addr := (hs.address c hc).trans (hs.addr hin).symm
      have haddr' : (({ s.take .discovery rest with
          session := { s.session with index } } : State).register c).becomeReady.host.attempt.addr =
            c.dst := by
        rw [State.register_host, haddr]
        exact congrArg Prod.fst htake.candidacy
      obtain ⟨requests, subscribed, hhost⟩ := htake.host
      rw [hhost] at hbonded
      rw [haddr']
      refine .inr ⟨hs.candidate hin hnew, hnew, ⟨hpaired, hbonded⟩, ?_, rfl, rfl⟩
      show ((s.journal ++ [.ran .discovery]) ++ [.save c.dst 0]) ++ [.registered c.dst] = _
      simp

end BleMouse.Client
