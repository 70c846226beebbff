/-
Programs that events interrupt.

A program (`Prog`) is a tree of atomic actions on a state: an action changes the state at once
and is told the state it found.  Before each action any number of events may happen; an event
changes the state as `handle` says.  `Prog.run` runs a program with given events, and
`Prog.alone` runs it without any.

`Triple handle P x Q` says that `x`, begun in a state with the property `P`, ends with `Q`
whatever events happen.  A precondition of an action has to be stable: events must not break
it.  `x.Blind R` says that states that are related by `R` make no difference to `x`; if events
keep states related, `x` does what it does alone (`Blind.run`).
-/
import Mathlib.Tactic

/-- A program on states `σ` with a result in `α`. -/
inductive Prog (σ α : Type)
  | done (a : α)
  /-- Change the state, and go on as `next` says for the state that was found. -/
  | act (f : σ → σ) (next : σ → Prog σ α)

namespace Prog

variable {σ α β ε : Type}

/-- One program after the other. -/
def bind : Prog σ α → (α → Prog σ β) → Prog σ β
  | done a, g => g a
  | act f next, g => act f fun s => (next s).bind g

instance : Monad (Prog σ) where
  pure := done
  bind := bind

/-- Change the state, and return the state that was found. -/
def exchange (f : σ → σ) : Prog σ σ := act f done

/-- Return the state. -/
def look : Prog σ σ := exchange id

/-- Change the state. -/
def modify (f : σ → σ) : Prog σ Unit := act f fun _ => done ()

/-- A program that runs only under a condition. -/
def onlyIf (c : Bool) (x : Prog σ Unit) : Prog σ Unit := if c then x else done ()

variable (handle : σ → ε → σ)

/-- Run a program; the lists are the events that happen before its actions, in order. -/
def run : Prog σ α → σ → List (List ε) → α × σ
  | done a, s, _ => (a, s)
  | act f next, s, events =>
    let t := (events.headD []).foldl handle s
    (next t).run (f t) events.tail

/-- Run a program without events. -/
def alone : Prog σ α → σ → α × σ
  | done a, s => (a, s)
  | act f next, s => (next s).alone (f s)

variable {handle}

/-- Without events a program does what it does alone. -/
lemma run_nil (x : Prog σ α) (s : σ) : x.run handle s [] = x.alone s := by
  induction x generalizing s with
  | done a => rfl
  | act f next ih => exact ih s (f s)

@[simp] lemma alone_pure (a : α) (s : σ) : (pure a : Prog σ α).alone s = (a, s) := rfl

/-- Two programs in a row, of which one knows what the first one does. -/
lemma alone_bind_of {x : Prog σ α} {s t : σ} {a : α} (h : x.alone s = (a, t)) (g : α → Prog σ β) :
    (x >>= g).alone s = (g a).alone t := by
  have hbind (x : Prog σ α) (s : σ) :
      (x.bind g).alone s = (g (x.alone s).1).alone (x.alone s).2 := by
    induction x generalizing s with
    | done a => rfl
    | act f next ih => exact ih s (f s)
  show (x.bind g).alone s = _
  rw [hbind, h]

@[simp] lemma alone_modify (f : σ → σ) (s : σ) : (modify f).alone s = ((), f s) := rfl

@[simp] lemma alone_onlyIf (c : Bool) (x : Prog σ Unit) (s : σ) :
    (onlyIf c x).alone s = ((), if c then (x.alone s).2 else s) := by
  unfold onlyIf
  split <;> rfl

@[simp] lemma alone_exchange_bind (f : σ → σ) (g : σ → Prog σ α) (s : σ) :
    (exchange f >>= g).alone s = (g s).alone (f s) := rfl

@[simp] lemma alone_look_bind (g : σ → Prog σ α) (s : σ) :
    (look >>= g).alone s = (g s).alone s := rfl

@[simp] lemma alone_modify_bind (f : σ → σ) (g : Unit → Prog σ α) (s : σ) :
    (modify f >>= g).alone s = (g ()).alone (f s) := rfl

@[simp] lemma alone_onlyIf_bind (c : Bool) (x : Prog σ Unit) (g : Unit → Prog σ α) (s : σ) :
    (onlyIf c x >>= g).alone s = (g ()).alone (if c then (x.alone s).2 else s) :=
  alone_bind_of (alone_onlyIf c x s) g

@[simp] lemma alone_ite (c : Prop) [Decidable c] (x y : Prog σ α) (s : σ) :
    (if c then x else y).alone s = if c then x.alone s else y.alone s :=
  apply_ite (fun x : Prog σ α => x.alone s) c x y

/-! ### Programs that events do not concern -/

/-- States that are related make no difference to a program, which keeps them related. -/
def Blind (R : σ → σ → Prop) : Prog σ α → Prop
  | done _ => True
  | act f next => ∀ s t, R s t → R (f s) (f t) ∧ next s = next t ∧ (next t).Blind R

namespace Blind

variable {R : σ → σ → Prop}

lemma pure (a : α) : (Pure.pure a : Prog σ α).Blind R := trivial

lemma bind {x : Prog σ α} {g : α → Prog σ β} (hx : x.Blind R) (hg : ∀ a, (g a).Blind R) :
    (x >>= g).Blind R := by
  show (x.bind g).Blind R
  induction x with
  | done a => exact hg a
  | act f next ih =>
    rintro s t hst
    obtain ⟨hf, hnext, hblind⟩ := hx s t hst
    exact ⟨hf, congrArg (Prog.bind · g) hnext, ih t hblind⟩

lemma exchange_bind {f : σ → σ} {g : σ → Prog σ α}
    (h : ∀ s t, R s t → R (f s) (f t) ∧ g s = g t) (hg : ∀ s, (g s).Blind R) :
    (exchange f >>= g).Blind R :=
  fun s t hst => ⟨(h s t hst).1, (h s t hst).2, hg t⟩

lemma look_bind {g : σ → Prog σ α} (h : ∀ s t, R s t → g s = g t) (hg : ∀ s, (g s).Blind R) :
    (look >>= g).Blind R :=
  fun s t hst => ⟨hst, h s t hst, hg t⟩

lemma modify {f : σ → σ} (h : ∀ s t, R s t → R (f s) (f t)) : (modify f).Blind R :=
  fun s t hst => ⟨h s t hst, rfl, trivial⟩

/-- A program that the events do not concern does what it does alone. -/
lemma run (hevent : ∀ s t e, R s t → R (handle s e) t) {x : Prog σ α} (hx : x.Blind R) {s t : σ}
    (hst : R s t) (events : List (List ε)) :
    (x.run handle s events).1 = (x.alone t).1 ∧ R (x.run handle s events).2 (x.alone t).2 := by
  induction x generalizing s t events with
  | done a => exact ⟨rfl, hst⟩
  | act f next ih =>
    have hevents (events : List ε) : R (events.foldl handle s) t := by
      induction events using List.reverseRecOn with
      | nil => exact hst
      | append_singleton events e ih =>
        rw [List.foldl_append]
        exact hevent _ _ e ih
    obtain ⟨hf, hnext, hblind⟩ := hx _ t (hevents (events.headD []))
    show ((next _).run handle (f _) events.tail).1 = ((next t).alone (f t)).1 ∧
      R ((next _).run handle (f _) events.tail).2 ((next t).alone (f t)).2
    rw [hnext]
    exact ih t hblind hf events.tail

end Blind

/-! ### Triples -/

variable (handle)

/-- Events do not break a property. -/
def Stable (P : σ → Prop) : Prop := ∀ s e, P s → P (handle s e)

/-- Begun in a state with the property `P`, the program ends with `Q`. -/
def Triple (P : σ → Prop) (x : Prog σ α) (Q : α → σ → Prop) : Prop :=
  ∀ s events, P s → Q (x.run handle s events).1 (x.run handle s events).2

variable {handle} {P P' : σ → Prop}

lemma Stable.foldl (hP : Stable handle P) {s : σ} (hs : P s) (events : List ε) :
    P (events.foldl handle s) := by
  induction events generalizing s with
  | nil => exact hs
  | cons e events ih => exact ih (hP s e hs)

lemma Stable.and (hP : Stable handle P) (hP' : Stable handle P') :
    Stable handle fun s => P s ∧ P' s :=
  fun s e hs => ⟨hP s e hs.1, hP' s e hs.2⟩

namespace Triple

lemma pure {a : α} {Q : α → σ → Prop} (h : ∀ s, P s → Q a s) :
    Triple handle P (Pure.pure a) Q := fun s _ hs => h s hs

/-- The programs of a sequence one by one. -/
lemma bind {x : Prog σ α} {g : α → Prog σ β} {Q : α → σ → Prop} {R : β → σ → Prop}
    (hx : Triple handle P x Q) (hg : ∀ a, Triple handle (Q a) (g a) R) :
    Triple handle P (x >>= g) R := by
  show Triple handle P (x.bind g) R
  have hrun (x : Prog σ α) (s : σ) (events : List (List ε)) : ∃ rest,
      (x.bind g).run handle s events =
        (g (x.run handle s events).1).run handle (x.run handle s events).2 rest := by
    induction x generalizing s events with
    | done a => exact ⟨events, rfl⟩
    | act f next ih => exact ih _ _ _
  intro s events hs
  obtain ⟨rest, heq⟩ := hrun x s events
  rw [heq]
  exact hg _ _ rest (hx s events hs)

lemma exchange {f : σ → σ} {Q : σ → σ → Prop}
    (hP : Stable handle P) (h : ∀ s, P s → Q s (f s)) : Triple handle P (exchange f) Q :=
  fun _ events hs => h _ (hP.foldl hs (events.headD []))

lemma look {Q : σ → σ → Prop}
    (hP : Stable handle P) (h : ∀ s, P s → Q s s) : Triple handle P look Q :=
  exchange hP h

lemma modify {f : σ → σ} {Q : Unit → σ → Prop} (hP : Stable handle P)
    (h : ∀ s, P s → Q () (f s)) : Triple handle P (modify f) Q :=
  fun _ events hs => h _ (hP.foldl hs (events.headD []))

lemma onlyIf {c : Bool} {x : Prog σ Unit} {Q : Unit → σ → Prop}
    (hx : c = true → Triple handle P x Q) (hskip : ∀ s, P s → Q () s) :
    Triple handle P (onlyIf c x) Q := by
  unfold Prog.onlyIf
  split
  · exact hx ‹_›
  · exact fun s _ hs => hskip s hs

/-- A stronger precondition, and a weaker postcondition. -/
lemma conseq {x : Prog σ α} {Q Q' : α → σ → Prop} (h : Triple handle P x Q)
    (hpre : ∀ s, P' s → P s) (hpost : ∀ a s, Q a s → Q' a s) : Triple handle P' x Q' :=
  fun s events hs => hpost _ _ (h s events (hpre s hs))

end Triple

end Prog
