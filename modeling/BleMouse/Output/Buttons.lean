/-
The forwarded button state of `src/button_state.c`.

A button is *forwarded* while the input layer has it pressed, and *suppressed* when it was
down at a reset and has not been seen up since.  Buttons are the low five bits of a byte;
`mem_press` and the lemmas beside it say for one button what the two operations do.
-/
import Mathlib.Tactic

namespace BleMouse.Output

/-- A set of buttons; button `b` is bit `b`. -/
abbrev Buttons := BitVec 8

/-- The buttons there are. -/
def allButtons : Buttons := 0x1f

/-- `struct mouse_button_state` -/
structure MouseButtonState where
  forwarded : Buttons := 0
  suppressed : Buttons := 0
deriving DecidableEq, Repr

/-- `struct mouse_button_edges` -/
structure MouseButtonEdges where
  press : Buttons := 0
  release : Buttons := 0
deriving DecidableEq, Repr

/-- `mouse_buttons_update` -/
def mouseButtonsUpdate (state : MouseButtonState) (physical : Buttons) :
    MouseButtonState × MouseButtonEdges :=
  let physical := physical &&& allButtons
  let suppressed := state.suppressed &&& physical
  let next := physical &&& ~~~suppressed
  let edges :=
    { press := next &&& ~~~state.forwarded
      release := state.forwarded &&& ~~~next }
  ({ forwarded := next, suppressed }, edges)

/-- `mouse_buttons_reset` -/
def mouseButtonsReset (state : MouseButtonState) (physical : Buttons) :
    MouseButtonState × Buttons :=
  let release := state.forwarded
  ({ forwarded := 0, suppressed := physical &&& allButtons }, release)

/-! ### Single buttons -/

/-- Button `b` is in the set. -/
def Has (s : Buttons) (b : ℕ) : Prop := s.getLsbD b = true

instance (s : Buttons) (b : ℕ) : Decidable (Has s b) := inferInstanceAs (Decidable (_ = true))

lemma ext_has {s t : Buttons} (h : ∀ b < 8, Has s b ↔ Has t b) : s = t := by
  apply BitVec.eq_of_getLsbD_eq
  intro b hb
  have hb' := h b hb
  unfold Has at hb'
  cases hs : s.getLsbD b <;> cases ht : t.getLsbD b <;> simp_all

lemma Has.lt {s : Buttons} {b : ℕ} (h : Has s b) : b < 8 := by
  by_contra hb
  unfold Has at h
  rw [BitVec.getLsbD_of_ge s b (by omega)] at h
  cases h

@[simp] lemma has_and {s t : Buttons} {b : ℕ} : Has (s &&& t) b ↔ Has s b ∧ Has t b := by
  simp [Has]

@[simp] lemma has_or {s t : Buttons} {b : ℕ} : Has (s ||| t) b ↔ Has s b ∨ Has t b := by
  simp [Has]

@[simp] lemma has_zero {b : ℕ} : ¬Has 0#8 b := by simp [Has]

lemma has_andNot {s t : Buttons} {b : ℕ} : Has (s &&& ~~~t) b ↔ Has s b ∧ ¬Has t b := by
  unfold Has
  by_cases hb : b < 8
  · simp [hb]
  · simp [BitVec.getLsbD_of_ge s b (by omega)]

lemma has_allButtons {b : ℕ} : Has allButtons b ↔ b < 5 := by
  by_cases hb : b < 8
  · interval_cases b <;> decide
  · constructor
    · intro h
      exact absurd h.lt hb
    · intro h
      omega

/-- The buttons of a mask. -/
lemma has_mask {s : Buttons} {b : ℕ} : Has (s &&& allButtons) b ↔ Has s b ∧ b < 5 := by
  rw [has_and, has_allButtons]

section Update

variable (state : MouseButtonState) (physical : Buttons) (b : ℕ)

lemma has_update_suppressed :
    Has (mouseButtonsUpdate state physical).1.suppressed b ↔
      Has state.suppressed b ∧ Has physical b ∧ b < 5 := by
  simp only [mouseButtonsUpdate, has_and, has_allButtons]

lemma has_update_forwarded :
    Has (mouseButtonsUpdate state physical).1.forwarded b ↔
      (Has physical b ∧ b < 5) ∧ ¬Has state.suppressed b := by
  have hnext : (mouseButtonsUpdate state physical).1.forwarded
      = (physical &&& allButtons) &&& ~~~(state.suppressed &&& (physical &&& allButtons)) := rfl
  rw [hnext, has_andNot, has_mask, has_and, has_mask]
  tauto

lemma has_update_press :
    Has (mouseButtonsUpdate state physical).2.press b ↔
      Has (mouseButtonsUpdate state physical).1.forwarded b ∧ ¬Has state.forwarded b :=
  has_andNot

lemma has_update_release :
    Has (mouseButtonsUpdate state physical).2.release b ↔
      Has state.forwarded b ∧ ¬Has (mouseButtonsUpdate state physical).1.forwarded b :=
  has_andNot

end Update

end BleMouse.Output
