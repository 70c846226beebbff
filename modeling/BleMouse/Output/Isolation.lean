/-
Resets isolate the frames before them from the frames after them.

A reset is an endpoint change, a disconnect or an overflow of the queue.  Frames carry the
number of resets before they were received, so the frames before the reset number `k` are
those with a smaller number.  `reset_isolation` states, for runs with fewer than 2 ^ 32
resets, what a reset guarantees: at most one packet of the frames before it is still sent;
no packet of a frame after it is sent while a press of a frame before it is unreleased; and
a button it recorded as down is not pressed again before it was seen up or the mouse was
disconnected.
-/
import BleMouse.Output.Stream

namespace BleMouse.Output

open BleMouse.Hid Transition

/-! ### Packets and resets -/

/-- A packet of a frame received before the reset number `k`. -/
def Packet.before (p : Packet) (k : ℕ) : Bool :=
  match p.origin with
  | .frame received => received < k
  | .reset => false

/-- A packet of a frame received after the reset number `k`. -/
def Packet.after (p : Packet) (k : ℕ) : Bool :=
  match p.origin with
  | .frame received => k ≤ received
  | .reset => false

/-- The packets of frames received before the reset number `k`. -/
def stale (k : ℕ) (sent : List Packet) : List Packet := sent.filter fun p => p.before k

/-- The packet the worker sends next, if it has passed the epoch check before it. -/
def State.nextPacket (s : State) : Option Packet :=
  match s.worker with
  | .firstPacket input => some (input.chunk (mouseButtonsUpdate s.buttons input.buttons).2)
  | .morePacket input _ => some (input.chunk {})
  | _ => none

/-- The step reports button `b` up. -/
def ReportsUp (b : ℕ) : Label → Prop
  | .receive _ physical => ¬Has physical b
  | _ => False

@[simp] lemma chunk_before (input : QueuedInput) (edges : MouseButtonEdges) (k : ℕ) :
    (input.chunk edges).before k = decide (input.received < k) := rfl

lemma stale_concat (k : ℕ) (sent : List Packet) (p : Packet) :
    stale k (sent ++ [p]) = if p.before k = true then stale k sent ++ [p] else stale k sent := by
  by_cases hp : p.before k = true <;> simp [stale, List.filter_append, hp]

/-- What a step does to the packets sent. -/
lemma step_sent {cap : ℕ} {s s' : State} {l : Label} (h : step cap s l = some s') :
    s'.sent = s.sent ∨ (∃ p, p.origin = .reset ∧ s'.sent = s.sent ++ [p]) ∨
      ∃ p, s.nextPacket = some p ∧ s'.sent = s.sent ++ [p] := by
  cases step_effect h with
  | apply hw => exact .inr (.inl ⟨_, rfl, rfl⟩)
  | first hw hafter => exact .inr (.inr ⟨_, by rw [State.nextPacket, hw], rfl⟩)
  | more hw hafter => exact .inr (.inr ⟨_, by rw [State.nextPacket, hw], rfl⟩)
  | _ => exact .inl rfl

/-! ### At most one stale packet -/

/-- A step takes the worker past an epoch check only with a frame received after all the
resets so far. -/
lemma step_nextPacket {cap : ℕ} {s s' : State} {l : Label} {p : Packet} {k : ℕ} (ht : Tracks s)
    (hresets : s.resets < 2 ^ 32) (hk : k ≤ s.resets) (h : step cap s l = some s')
    (hp : s'.nextPacket = some p) (hbefore : p.before k = true) :
    s.nextPacket = some p ∧ s'.sent = s.sent := by
  cases step_effect h with
  -- equal epochs with fewer than 2 ^ 32 resets: the frame was received after all of them
  | @current input hw he =>
    cases hp
    have htaken := ht.taken input (by rw [hw]; rfl)
    rw [htaken.2, ht.epoch_eq] at he
    have hcurrent := epochAfter_inj htaken.1 (by omega) he
    simp only [chunk_before, decide_eq_true_eq] at hbefore
    omega
  | @recheck input i w hw he =>
    rcases he with ⟨rfl, he⟩ | rfl
    · cases hp
      have htaken := ht.taken input (by rw [hw]; rfl)
      rw [htaken.2, ht.epoch_eq] at he
      have hcurrent := epochAfter_inj htaken.1 (by omega) he
      simp only [chunk_before, decide_eq_true_eq] at hbefore
      omega
    · cases hp
  | @first input w hw hafter => rcases hafter with rfl | ⟨frame, rfl⟩ <;> cases hp
  | @more input i w hw hafter => rcases hafter with rfl | ⟨frame, rfl⟩ <;> cases hp
  | @readNothing next hw _ => cases next <;> cases hp
  | @apply physical upTo next hw => cases next <;> cases hp
  | queued frame physical hroom => exact ⟨hp, rfl⟩
  | reset hl => exact ⟨hp, rfl⟩
  | submit => exact ⟨hp, rfl⟩
  | _ => cases hp

/-- Since the state `s₁`, at most the packet it was about to send has been sent of the frames
before the reset number `k`; and while that packet has not been sent, it is still the only
one about to be sent. -/
def OneStale (k : ℕ) (s₁ s : State) : Prop :=
  ∃ new, s.sent = s₁.sent ++ new ∧
    (stale k new = [] ∧
        (∀ p, s.nextPacket = some p → p.before k = true → s₁.nextPacket = some p) ∨
      (∃ p, s₁.nextPacket = some p ∧ stale k new = [p]) ∧
        ∀ p, s.nextPacket = some p → p.before k = false)

lemma oneStale_step {cap k : ℕ} {s₁ s s' : State} {l : Label} (ht : Tracks s)
    (hresets : s.resets < 2 ^ 32) (hk : k ≤ s.resets) (hinv : OneStale k s₁ s)
    (h : step cap s l = some s') : OneStale k s₁ s' := by
  obtain ⟨new, hnew, hcases⟩ := hinv
  -- a packet about to be sent after the step was about to be sent before it
  have hkeep : ∀ p, s'.nextPacket = some p → p.before k = true →
      s.nextPacket = some p ∧ s'.sent = s.sent := fun p hp hbefore =>
    step_nextPacket ht hresets hk h hp hbefore
  -- after a step that sends a packet, no packet of an earlier frame is about to be sent
  have hlast (p : Packet) (hsent : s'.sent = s.sent ++ [p]) :
      ∀ q, s'.nextPacket = some q → q.before k = false := by
    intro q hq
    by_contra hbefore
    rw [Bool.not_eq_false] at hbefore
    have hsame := (hkeep q hq hbefore).2
    rw [hsent] at hsame
    simp at hsame
  rcases step_sent h with hsent | ⟨p, hp, hsent⟩ | ⟨p, hp, hsent⟩
  · refine ⟨new, hsent.trans hnew, ?_⟩
    rcases hcases with ⟨hnone, hnext⟩ | ⟨hone, hnext⟩
    · exact .inl ⟨hnone, fun p hp hbefore => hnext p (hkeep p hp hbefore).1 hbefore⟩
    · refine .inr ⟨hone, fun p hp => ?_⟩
      by_contra hbefore
      rw [Bool.not_eq_false] at hbefore
      rw [hnext p (hkeep p hp hbefore).1] at hbefore
      cases hbefore
  · have hreset : p.before k = false := by rw [Packet.before, hp]
    have hlast := hlast p hsent
    refine ⟨new ++ [p], by rw [hsent, hnew, List.append_assoc], ?_⟩
    rw [stale_concat, if_neg (by simp [hreset])]
    rcases hcases with ⟨hnone, -⟩ | ⟨hone, -⟩
    · refine .inl ⟨hnone, fun q hq hbefore => ?_⟩
      rw [hlast q hq] at hbefore
      cases hbefore
    · exact .inr ⟨hone, hlast⟩
  · have hlast := hlast p hsent
    refine ⟨new ++ [p], by rw [hsent, hnew, List.append_assoc], ?_⟩
    rw [stale_concat]
    by_cases hbefore : p.before k = true
    · rw [if_pos hbefore]
      rcases hcases with ⟨hnone, hnext⟩ | ⟨-, hnext⟩
      · refine .inr ⟨⟨p, hnext p hp hbefore, ?_⟩, hlast⟩
        rw [hnone, List.nil_append]
      · rw [hnext p hp] at hbefore
        cases hbefore
    · rw [if_neg hbefore]
      rcases hcases with ⟨hnone, -⟩ | ⟨hone, -⟩
      · refine .inl ⟨hnone, fun q hq hq' => ?_⟩
        rw [hlast q hq] at hq'
        cases hq'
      · exact .inr ⟨hone, hlast⟩

/-! ### Presses are released first -/

/-- A press that has not been released is of a forwarded button, by a frame received after
all the resets applied. -/
def Unreleased (s : State) : Prop :=
  ∀ earlier (q : Packet) later b, s.sent = earlier ++ q :: later → Has q.edges.press b →
    (∀ r ∈ later, ¬Has r.edges.release b) →
    Has s.buttons.forwarded b ∧ ∀ m, q.origin = .frame m → s.applied ≤ m

/-- Before a packet of a frame, every press of a frame received before a reset that the
packet's frame was received after has been released. -/
def Ordered (sent : List Packet) : Prop :=
  ∀ earlier (q : Packet) between (p : Packet) later b k,
    sent = earlier ++ q :: between ++ p :: later →
    q.before k = true → Has q.edges.press b → p.after k = true →
    ∃ r ∈ between, Has r.edges.release b

/-- Splitting a list after one more element. -/
lemma concat_eq_append_cons {α : Type} {l front back : List α} {a b : α}
    (h : l ++ [a] = front ++ b :: back) :
    (back = [] ∧ b = a ∧ l = front) ∨ ∃ back', back = back' ++ [a] ∧ l = front ++ b :: back' := by
  rcases List.eq_nil_or_concat' back with rfl | ⟨back', c, rfl⟩
  · obtain ⟨hl, ha⟩ := List.append_inj' h rfl
    cases ha
    exact .inl ⟨rfl, rfl, hl⟩
  · rw [← List.cons_append, ← List.append_assoc] at h
    obtain ⟨hl, ha⟩ := List.append_inj' h rfl
    cases ha
    exact .inr ⟨back', rfl, hl⟩

lemma Ordered.concat {sent : List Packet} (h : Ordered sent) {p : Packet}
    (hp : ∀ earlier q between b k, sent = earlier ++ q :: between → q.before k = true →
      Has q.edges.press b → p.after k = true → ∃ r ∈ between, Has r.edges.release b) :
    Ordered (sent ++ [p]) := by
  intro earlier q between p' later b k hsplit hbefore hpress hafter
  rcases concat_eq_append_cons hsplit with ⟨rfl, rfl, hsent⟩ | ⟨later', rfl, hsent⟩
  · exact hp earlier q between b k hsent hbefore hpress hafter
  · exact h earlier q between p' later' b k hsent hbefore hpress hafter

/-- Sending a packet of a frame received after exactly the resets applied. -/
lemma Unreleased.send {s s' : State} {p : Packet} {m : ℕ} (h : Unreleased s)
    (hsent : s'.sent = s.sent ++ [p]) (horigin : p.origin = .frame m)
    (happlied : s'.applied = s.applied)
    (hm : m = s.applied)
    (hpress : ∀ b, Has p.edges.press b → Has s'.buttons.forwarded b)
    (hrelease : ∀ b, Has s.buttons.forwarded b → ¬Has p.edges.release b →
      Has s'.buttons.forwarded b) : Unreleased s' := by
  intro earlier q later b hsplit hq hlater
  rw [hsent] at hsplit
  rw [happlied]
  rcases concat_eq_append_cons hsplit with ⟨rfl, rfl, -⟩ | ⟨later', rfl, hsplit'⟩
  · refine ⟨hpress b hq, fun m' hm' => ?_⟩
    rw [horigin] at hm'
    cases hm'
    exact hm.ge
  · obtain ⟨hforwarded, happlied'⟩ :=
      h earlier q later' b hsplit' hq fun r hr => hlater r (by simp [hr])
    exact ⟨hrelease b hforwarded (hlater p (by simp)), happlied'⟩

lemma isolation_step {cap : ℕ} {s s' : State} {l : Label} (ht : Tracks s) (hu : Unreleased s)
    (ho : Ordered s.sent) (h : step cap s l = some s') : Unreleased s' ∧ Ordered s'.sent := by
  -- a packet of a frame that passed its check comes after the release of older presses
  have hframe : ∀ (input : QueuedInput) (edges : MouseButtonEdges), s.worker.passed = some input →
      Ordered (s.sent ++ [input.chunk edges]) := by
    intro input edges hinput
    have hreceived := ht.passed input hinput
    refine ho.concat ?_
    intro earlier q between b k hsplit hbefore hpress hafter
    by_contra hnone
    push Not at hnone
    obtain ⟨-, happlied⟩ := hu earlier q between b hsplit hpress hnone
    simp only [Packet.after, QueuedInput.chunk, decide_eq_true_eq] at hafter
    unfold Packet.before at hbefore
    cases horigin : q.origin with
    | reset =>
      rw [horigin] at hbefore
      cases hbefore
    | frame m =>
      rw [horigin] at hbefore
      have hle := happlied m horigin
      simp only [decide_eq_true_eq] at hbefore
      omega
  cases step_effect h with
  | @apply physical upTo next hw =>
    constructor
    · -- the reset releases every button that is down
      intro earlier q later b hsplit hq hlater
      rcases concat_eq_append_cons hsplit with ⟨rfl, rfl, -⟩ | ⟨later', rfl, hsplit'⟩
      · simp at hq
      · obtain ⟨hforwarded, -⟩ :=
          hu earlier q later' b hsplit' hq fun r hr => hlater r (by simp [hr])
        exact absurd hforwarded (hlater _ (List.mem_append_right _ (List.mem_singleton_self _)))
    · refine ho.concat ?_
      intro earlier q between b k _ _ _ hafter
      simp [Packet.after] at hafter
  | @first input w hw hafter =>
    have hpassed : s.worker.passed = some input := by rw [hw]; rfl
    refine ⟨hu.send rfl rfl rfl (ht.passed input hpassed) ?_ ?_, hframe input _ hpassed⟩
    · intro b hb
      exact ((has_update_press _ _ _).1 hb).1
    · intro b hforwarded hrelease
      by_contra hnext
      exact hrelease ((has_update_release _ _ _).2 ⟨hforwarded, hnext⟩)
  | @more input i w hw hafter =>
    have hpassed : s.worker.passed = some input := by rw [hw]; rfl
    refine ⟨hu.send rfl rfl rfl (ht.passed input hpassed) ?_ ?_, hframe input _ hpassed⟩
    · intro b hb
      simp [QueuedInput.chunk] at hb
    · exact fun b hforwarded _ => hforwarded
  | _ => exact ⟨hu, ho⟩

/-! ### Recorded buttons stay suppressed -/

/-- Button `b`, recorded as down by the reset number `k`, has not been seen up since. -/
structure StaysDown (b k : ℕ) (s : State) : Prop where
  resets : k ≤ s.resets
  physical : Has s.physicalButtons b
  recorded : Has s.resetButtons b
  queue : ∀ input ∈ s.mouseInputs, Has input.buttons b
  taken : ∀ input, s.worker.inHand = some input → k ≤ input.received → Has input.buttons b
  read : ∀ physical upTo next, s.worker = .applyReset physical upTo next → k ≤ upTo →
    Has physical b
  suppressed : k ≤ s.applied → Has s.buttons.suppressed b

lemma staysDown_step {cap b k : ℕ} {s s' : State} {l : Label} (ht : Tracks s) (ha : Accounts s)
    (h : StaysDown b k s) (hl : ¬ReportsUp b l ∧ l ≠ .disconnect) (hstep : step cap s l = some s') :
    StaysDown b k s' := by
  obtain ⟨hresets, hphysical, hrecorded, hqueue, htaken, hread, hsuppressed⟩ := h
  have hb : b < 5 := by
    have hmask := hphysical
    rw [← ha.physical_le] at hmask
    exact (has_mask.1 hmask).2
  cases step_effect hstep with
  -- the frame reports the button down, or the step would report it up
  | queued frame physical hroom =>
    have hdown : Has physical b := not_not.1 hl.1
    refine ⟨hresets, has_mask.2 ⟨hdown, hb⟩, hrecorded, ?_, htaken, hread, hsuppressed⟩
    intro input hinput
    rcases List.mem_append.1 hinput with hinput | hinput
    · exact hqueue input hinput
    · rw [List.mem_singleton.1 hinput]
      exact hdown
  -- a disconnect is excluded; every other reset records the button as down again
  | @reset l physical hl' =>
    have hdown : Has physical b := by
      cases hl' with
      | overflow frame physical hfull => exact has_mask.2 ⟨not_not.1 hl.1, hb⟩
      | endpoint => exact hphysical
      | disconnect => exact absurd rfl hl.2
    exact ⟨Nat.le_succ_of_le hresets, hdown, hdown, by simp [State.reset], htaken, hread,
      hsuppressed⟩
  | submit => exact ⟨hresets, hphysical, hrecorded, hqueue, htaken, hread, hsuppressed⟩
  | start hw =>
    exact ⟨hresets, hphysical, hrecorded, hqueue, by simp [Position.inHand], by simp, hsuppressed⟩
  | @readPending next hw hp =>
    refine ⟨hresets, hphysical, hrecorded, hqueue, ?_, ?_, hsuppressed⟩
    · intro input hinput
      refine htaken input ?_
      rw [hw]
      cases next <;> exact hinput
    · rintro _ _ _ ⟨⟩ _
      exact hrecorded
  | @readNothing next hw hp =>
    refine ⟨hresets, hphysical, hrecorded, hqueue, ?_, by cases next <;> simp [Next.position],
      hsuppressed⟩
    intro input hinput
    refine htaken input ?_
    rw [hw]
    cases next <;> exact hinput
  | @apply physical upTo next hw =>
    refine ⟨hresets, hphysical, hrecorded, hqueue, ?_, by cases next <;> simp [Next.position], ?_⟩
    · intro input hinput
      refine htaken input ?_
      rw [hw]
      cases next <;> exact hinput
    -- the worker applies the recorded mask, and suppresses what is down in it
    · intro hle
      exact has_mask.2 ⟨hread physical upTo next hw hle, hb⟩
  | @dequeue input rest hw hq =>
    rw [hq] at hqueue
    refine ⟨hresets, hphysical, hrecorded, fun i hi => hqueue i (by simp [hi]), ?_, by simp,
      hsuppressed⟩
    rintro _ ⟨⟩ _
    exact hqueue input (by simp)
  | @current input hw he =>
    refine ⟨hresets, hphysical, hrecorded, hqueue, ?_, by simp, hsuppressed⟩
    rintro _ ⟨⟩
    exact htaken input (by rw [hw]; rfl)
  | @first input w hw hafter =>
    refine ⟨hresets, hphysical, hrecorded, hqueue, ?_, ?_, ?_⟩
    · intro input' hinput'
      rw [hafter.inHand] at hinput'
      cases hinput'
    · intro _ _ _ hw'
      exact absurd hw' (hafter.ne_applyReset _ _ _)
    -- the frame was received after the reset, so it has the button down
    · intro hle
      have hreceived := ht.passed input (by rw [hw]; rfl)
      have hdown := htaken input (by rw [hw]; rfl) (hle.trans hreceived.ge)
      exact (has_update_suppressed _ _ _).2 ⟨hsuppressed hle, hdown, hb⟩
  | @recheck input i w hw he =>
    refine ⟨hresets, hphysical, hrecorded, hqueue, ?_, ?_, hsuppressed⟩ <;>
      rcases he with ⟨rfl, -⟩ | rfl <;> simp [Position.inHand]
  | @more input i w hw hafter =>
    refine ⟨hresets, hphysical, hrecorded, hqueue, ?_, ?_, hsuppressed⟩
    · intro input' hinput'
      rw [hafter.inHand] at hinput'
      cases hinput'
    · intro _ _ _ hw'
      exact absurd hw' (hafter.ne_applyReset _ _ _)
  | _ =>
    exact ⟨hresets, hphysical, hrecorded, hqueue, by simp [Position.inHand], by simp, hsuppressed⟩

/-- A reset that records button `b` as down. -/
lemma staysDown_reset {cap b : ℕ} {s s₁ : State} {l : Label} (ht : Tracks s)
    (hstep : step cap s l = some s₁) (hcount : s₁.resets = s.resets + 1)
    (hrecorded : Has s₁.resetButtons b) : StaysDown b s₁.resets s₁ := by
  have hseen := ht.seen_le
  have happlied := ht.applied_le
  cases step_effect hstep with
  | @reset l physical hl =>
    refine ⟨le_rfl, hrecorded, hrecorded, by simp [State.reset], ?_, ?_, ?_⟩
    · intro input hinput hle
      have htaken := (ht.taken input
        (by rw [Position.taken, show s.worker.inHand = _ from hinput]; rfl)).1
      rw [hcount] at hle
      omega
    · intro physical' upTo next hw hle
      have hupTo : s.seen = upTo := by
        rw [State.seen, show s.worker = _ from hw]
      rw [hcount] at hle
      omega
    · intro hle
      rw [hcount] at hle
      have : s.resets + 1 ≤ s.applied := hle
      omega
  | _ => exact absurd hcount (Nat.succ_ne_self s.resets).symm

/-- A packet sent while button `b` is suppressed does not press it. -/
lemma StaysDown.not_pressed {cap b k : ℕ} {s s' : State} {p : Packet} (h : StaysDown b k s)
    (hk : k ≤ s.applied) (hstep : step cap s .work = some s')
    (hsent : s'.sent = s.sent ++ [p]) : ¬Has p.edges.press b := by
  intro hpress
  have hlast : ∀ q, s.sent ++ [q] = s.sent ++ [p] → q = p := by
    intro q hq
    simpa using hq
  have hsame : s.sent ≠ s.sent ++ [p] := by simp
  cases step_effect hstep with
  | @apply physical upTo next hw =>
    rw [← hlast _ hsent] at hpress
    simp at hpress
  | @first input w hw hafter =>
    rw [← hlast _ hsent] at hpress
    have hforwarded := ((has_update_press _ _ _).1 hpress).1
    exact ((has_update_forwarded _ _ _).1 hforwarded).2 (h.suppressed hk)
  | @more input i w hw hafter =>
    rw [← hlast _ hsent] at hpress
    simp [QueuedInput.chunk] at hpress
  | _ => exact hsame hsent

/-! ### Isolation -/

lemma run_tracks {cap : ℕ} {ls : List Label} {s : State} (h : Run cap {} ls s)
    (hresets : s.resets < 2 ^ 32) : Tracks s ∧ Accounts s :=
  bounded_tracks (bounded_of_resets_lt h hresets)

/-- What holds after a run holds with the invariants of the module when the run continues. -/
lemma continue_run {cap : ℕ} {ls ls' : List Label} {s₁ s₂ : State} (h₁ : Run cap {} ls s₁)
    (h₂ : Run cap s₁ ls' s₂) (hresets : s₂.resets < 2 ^ 32) (I : List Label → State → Prop)
    (hI : I [] s₁)
    (hstep : ∀ ls l s s', Tracks s → Accounts s → s₁.resets ≤ s.resets → s.resets < 2 ^ 32 →
      I ls s → step cap s l = some s' → I (ls ++ [l]) s') : I ls' s₂ := by
  induction h₂ with
  | nil => exact hI
  | snoc hrun hlast ih =>
    have hle := resets_le hlast
    obtain ⟨ht, ha⟩ := run_tracks (h₁.append hrun) (by omega)
    exact hstep _ _ _ _ ht ha (run_resets_le hrun) (by omega) (ih (by omega)) hlast

/-! ### Edges and key events -/

/-- The edges of a packet are the key events it is sent with. -/
def Packet.Shows (p : Packet) : Prop :=
  ∀ b, (Has p.edges.press b ↔ keyEvents b [p] = [1]) ∧
    (Has p.edges.release b ↔ keyEvents b [p] = [0])

lemma shows_of {p : Packet} (hpress : ∀ b, Has p.edges.press b → b < 5)
    (hrelease : ∀ b, Has p.edges.release b → b < 5 ∧ ¬Has p.edges.press b) : p.Shows := by
  intro b
  rw [keyEvents_packet]
  have hlt := hpress b
  have hlt' := hrelease b
  constructor <;> split_ifs <;> simp <;> tauto

/-- Every packet that is sent shows its edges. -/
lemma shows_step {cap : ℕ} {s s' : State} {l : Label} (hk : KeysFollow s)
    (h : ∀ p ∈ s.sent, p.Shows) (hstep : step cap s l = some s') : ∀ p ∈ s'.sent, p.Shows := by
  have hsend {p : Packet} (hp : p.Shows) : ∀ q ∈ s.sent ++ [p], q.Shows := by
    intro q hq
    rcases List.mem_append.1 hq with hq | hq
    · exact h q hq
    · rwa [List.mem_singleton.1 hq]
  cases step_effect hstep with
  | apply hw =>
    refine hsend (shows_of (by simp) fun b hb => ?_)
    exact ⟨hk.forwarded_lt hb, by simp⟩
  | @first input w hw hafter =>
    refine hsend (shows_of (fun b hb => ?_) fun b hb => ?_)
    · exact ((has_update_forwarded _ _ _).1 ((has_update_press _ _ b).1 hb).1).1.2
    · have hreleased := (has_update_release _ _ b).1 hb
      exact ⟨hk.forwarded_lt hreleased.1,
        fun hpress => ((has_update_press _ _ b).1 hpress).2 hreleased.1⟩
  | more => exact hsend (shows_of (by simp [QueuedInput.chunk]) (by simp [QueuedInput.chunk]))
  | _ => exact h

lemma run_shows {cap : ℕ} {ls : List Label} {s : State} (h : Run cap {} ls s) :
    ∀ p ∈ s.sent, p.Shows := by
  refine (h.invariant (fun t => KeysFollow t ∧ ∀ p ∈ t.sent, p.Shows)
    ⟨keysFollow_initial, by simp⟩ ?_).2
  rintro t l t' ⟨hk, ht⟩ hstep
  exact ⟨keysFollow_step hk hstep, shows_step hk ht hstep⟩

/-! ### The guarantees of a reset -/

/-- Let `l` be a reset, from `s` to `s₁`, in a run with fewer than 2 ^ 32 resets.  Of the
frames received before it, at most the packet is still sent for which the worker had passed
the epoch check.  Before a packet of a frame received after it, every press sent for a frame
received before it has been released.  A button in the mask it records is not pressed by a
packet sent once the reset has been applied, unless a frame received after it reported the
button up or the mouse was disconnected after it.  The presses and releases of the packets are
the key events they are sent with. -/
theorem reset_isolation (cap : ℕ) (ls ls' : List Label) (l : Label) (s s₁ s₂ : State)
    (hrun : Run cap {} ls s) (hreset : step cap s l = some s₁) (hcount : s₁.resets = s.resets + 1)
    (hrest : Run cap s₁ ls' s₂) (hresets : s₂.resets < 2 ^ 32) :
    (∃ new, s₂.sent = s₁.sent ++ new ∧
      (stale s₁.resets new = [] ∨
        ∃ p, s₁.nextPacket = some p ∧ stale s₁.resets new = [p])) ∧
    (∀ earlier q between p later b, s₂.sent = earlier ++ q :: between ++ p :: later →
      q.before s₁.resets = true → Has q.edges.press b → p.after s₁.resets = true →
      ∃ r ∈ between, Has r.edges.release b) ∧
    (∀ b s₃ p, Has s₁.resetButtons b → s₁.resets ≤ s₂.applied → step cap s₂ .work = some s₃ →
      s₃.sent = s₂.sent ++ [p] → Has p.edges.press b →
      ∃ l ∈ ls', ReportsUp b l ∨ l = .disconnect) ∧
    ∀ p ∈ s₂.sent, p.Shows := by
  have hrun₁ : Run cap {} (ls ++ [l]) s₁ := .snoc hrun hreset
  have hle := run_resets_le hrest
  obtain ⟨ht, -⟩ := run_tracks hrun (by omega)
  refine ⟨?_, ?_, ?_, run_shows (hrun₁.append hrest)⟩
  -- each part is an invariant of the run that follows the reset
  · have hstale : OneStale s₁.resets s₁ s₂ := by
      refine continue_run hrun₁ hrest hresets (fun _ => OneStale s₁.resets s₁) ?_ ?_
      · exact ⟨[], by simp, .inl ⟨rfl, fun p hp _ => hp⟩⟩
      · intro _ l t t' ht _ hk ht' hinv hstep
        exact oneStale_step ht ht' hk hinv hstep
    obtain ⟨new, hnew, hcases⟩ := hstale
    refine ⟨new, hnew, ?_⟩
    rcases hcases with ⟨hnone, -⟩ | ⟨hone, -⟩
    · exact .inl hnone
    · exact .inr hone
  · have hordered : Unreleased s₂ ∧ Ordered s₂.sent := by
      refine continue_run (.nil _) (hrun₁.append hrest) hresets
        (fun _ t => Unreleased t ∧ Ordered t.sent) ?_ ?_
      · constructor
        · intro earlier q later b hsplit
          simp at hsplit
        · intro earlier q between p later b k hsplit
          simp at hsplit
      · intro _ l t t' ht _ _ _ hinv hstep
        exact isolation_step ht hinv.1 hinv.2 hstep
    intro earlier q between p later b hsplit hbefore hpress hafter
    exact hordered.2 earlier q between p later b s₁.resets hsplit hbefore hpress hafter
  · intro b s₃ p hrecorded happlied hwork hsent hpress
    by_contra hnone
    push Not at hnone
    -- as long as nothing reports the button up, it stays suppressed
    have hdown : (∀ l ∈ ls', ¬ReportsUp b l ∧ l ≠ .disconnect) → StaysDown b s₁.resets s₂ := by
      refine continue_run hrun₁ hrest hresets
        (fun ls t => (∀ l ∈ ls, ¬ReportsUp b l ∧ l ≠ .disconnect) → StaysDown b s₁.resets t) ?_ ?_
      · intro _
        exact staysDown_reset ht hreset hcount hrecorded
      · intro ls l t t' ht ha _ _ hinv hstep hls
        exact staysDown_step ht ha (hinv fun l hl => hls l (by simp [hl])) (hls l (by simp)) hstep
    exact (hdown hnone).not_pressed happlied hwork hsent hpress

/-! ### A disconnect in between -/

/-- Button 0 is held, and its press has been sent. -/
def heldState : State where
  physicalButtons := 1
  buttons := { forwarded := 1 }
  sent := [{ origin := .frame 0, edges := { press := 1 } }]

/-- After an endpoint change while button 0 is held: the worker applies the reset, the mouse
disconnects, and after it has connected again a frame reports button 0 down. -/
def reconnect : List Label :=
  [Label.submit] ++ List.replicate 5 Label.work ++ [Label.disconnect, .submit] ++
    List.replicate 5 Label.work ++ [Label.receive {} 1, .submit] ++ List.replicate 5 Label.work

/-- The state after that, before the packet of the frame. -/
def reconnectedState : State where
  streamEpoch := 2
  physicalButtons := 1
  worker := .firstPacket { frame := {}, epoch := 2, buttons := 1, received := 2 }
  sent :=
    [{ origin := .frame 0, edges := { press := 1 } },
      { origin := .reset, edges := { release := 1 } },
      { origin := .reset, edges := {} }]
  resets := 2
  applied := 2

lemma run_heldState :
    Run 8 {} ([Label.receive {} 1, .submit] ++ List.replicate 8 Label.work) heldState :=
  Transition.Run.of_foldlM (by decide)

lemma run_reconnectedState : Run 8 (heldState.resetStream false) reconnect reconnectedState :=
  Transition.Run.of_foldlM (by decide)

/-- The frame after the disconnect may press the button again. -/
theorem reset_isolation_reconnect :
    (∃ new, reconnectedState.sent = (heldState.resetStream false).sent ++ new ∧
      (stale 1 new = [] ∨
        ∃ p, (heldState.resetStream false).nextPacket = some p ∧ stale 1 new = [p])) ∧
    (∀ earlier q between p later b,
      reconnectedState.sent = earlier ++ q :: between ++ p :: later →
      q.before 1 = true → Has q.edges.press b → p.after 1 = true →
      ∃ r ∈ between, Has r.edges.release b) ∧
    (∃ l ∈ reconnect, ReportsUp 0 l ∨ l = .disconnect) ∧
    ∀ p ∈ reconnectedState.sent, p.Shows :=
  have h := reset_isolation 8 _ _ .endpointChanged heldState _ reconnectedState run_heldState rfl
    rfl run_reconnectedState (by decide)
  ⟨h.1, h.2.1, h.2.2.1 0 _ { origin := .frame 2, edges := { press := 1 } } (by decide) (by decide)
    rfl (by decide) (by decide), h.2.2.2⟩

/-- Without the disconnect the last part fails: the packet of the new frame presses button 0,
which the endpoint change recorded as down, though no frame since has reported it up. -/
theorem disconnect_ends_suppression :
    ¬∀ cap ls ls' l s s₁ s₂, Run cap {} ls s → step cap s l = some s₁ →
      s₁.resets = s.resets + 1 → Run cap s₁ ls' s₂ → s₂.resets < 2 ^ 32 →
      ∀ b s₃ p, Has s₁.resetButtons b → s₁.resets ≤ s₂.applied → step cap s₂ .work = some s₃ →
        s₃.sent = s₂.sent ++ [p] → Has p.edges.press b → ∃ l ∈ ls', ReportsUp b l := by
  intro h
  obtain ⟨l, hl, hup⟩ := h 8 _ _ .endpointChanged heldState _ reconnectedState run_heldState rfl
    rfl run_reconnectedState (by decide) 0 _ { origin := .frame 2, edges := { press := 1 } }
    (by decide) (by decide) rfl (by decide) (by decide)
  simp only [reconnect, List.mem_append, List.mem_cons, List.not_mem_nil, or_false,
    List.mem_replicate] at hl
  rcases hl with ((((rfl | hl) | rfl | rfl) | hl) | rfl | rfl) | hl
  · exact hup
  · rw [hl.2] at hup
    exact hup
  · exact hup
  · exact hup
  · rw [hl.2] at hup
    exact hup
  · exact hup (by decide)
  · exact hup
  · rw [hl.2] at hup
    exact hup

end BleMouse.Output
