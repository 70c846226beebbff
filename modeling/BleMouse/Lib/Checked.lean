/-
Checked computations.

A computation over machine values that can stop in two ways besides returning: with an error
of its own, which is part of its behaviour, or with a *fault*, which stands for undefined
behaviour of the program it models: an access outside an array, a shift by the width of its
operand, an unsigned subtraction that wraps, a signed result that does not fit.  The
primitive operations below fault exactly there, so a computation built from them is free of
undefined behaviour when it never faults.

Each primitive has one equation for the case in which it returns.  A computation is shown to
be free of faults by rewriting it with these equations into a form that has none.
-/
import Mathlib.Tactic

namespace Checked

universe u v

/-- The kinds of undefined behaviour. -/
inductive Fault
  | outOfBounds
  | badShift
  | underflow
  | overflow
  | divByZero
  | outOfFuel
deriving DecidableEq, Repr

/-- Why a computation stopped without a result. -/
inductive Stop (ε : Type*)
  | fault (f : Fault)
  | error (e : ε)
deriving DecidableEq, Repr

/-- A computation with errors `ε` and results `α`. -/
abbrev Comp (ε α : Type*) := Except (Stop ε) α

variable {ε : Type u} {α β σ : Type v}

/-- Stop with an error. -/
def fail (e : ε) : Comp ε α := .error (.error e)

/-- Stop with a fault. -/
def fault (f : Fault) : Comp ε α := .error (.fault f)

/-- A computation that does not reach undefined behaviour. -/
def NoFault (m : Comp ε α) : Prop := ∀ f, m ≠ fault f

lemma noFault_ok (a : α) : NoFault (.ok a : Comp ε α) := by
  intro f
  simp [fault]

lemma noFault_fail (e : ε) : NoFault (fail e : Comp ε α) := by
  intro f
  simp [fail, fault]

@[simp] lemma fail_ne_ok {e : ε} {a : α} : (fail e : Comp ε α) ≠ .ok a := by simp [fail]

@[simp] lemma ok_bind (a : α) (f : α → Comp ε β) : ((.ok a : Comp ε α) >>= f) = f a := rfl

@[simp] lemma fail_bind (e : ε) (f : α → Comp ε β) : ((fail e : Comp ε α) >>= f) = fail e := rfl

/-! ### Primitive operations -/

/-- Read the element at index `i`. -/
def get (l : List α) (i : ℕ) : Comp ε α :=
  match l[i]? with
  | some a => .ok a
  | none => fault .outOfBounds

/-- Store `a` at the first free index of an array of `cap` elements of which `l` are used. -/
def push (cap : ℕ) (l : List α) (a : α) : Comp ε (List α) :=
  if l.length < cap then .ok (l ++ [a]) else fault .outOfBounds

/-- An unsigned subtraction. -/
def sub (a b : ℕ) : Comp ε ℕ := if b ≤ a then .ok (a - b) else fault .underflow

/-- An unsigned division. -/
def div (a b : ℕ) : Comp ε ℕ := if b = 0 then fault .divByZero else .ok (a / b)

/-- A left shift of a 32-bit value. -/
def shl32 (a k : ℕ) : Comp ε ℕ := if k < 32 then .ok (a <<< k % 2 ^ 32) else fault .badShift

/-- The result of a signed operation of `w` bits. -/
def signed (w : ℕ) (z : ℤ) : Comp ε ℤ :=
  if -2 ^ (w - 1) ≤ z ∧ z < 2 ^ (w - 1) then .ok z else fault .overflow

/-- The conversion of an unsigned 32-bit value to a signed one. -/
def toInt32 (a : ℕ) : ℤ := (a : ℤ).bmod (2 ^ 32)

lemma get_eq {l : List α} {i : ℕ} {a : α} (h : l[i]? = some a) :
    (get l i : Comp ε α) = .ok a := by
  rw [get, h]

lemma get_of_lt {l : List α} {i : ℕ} (h : i < l.length) : (get l i : Comp ε α) = .ok l[i] :=
  get_eq (List.getElem?_eq_getElem h)

lemma push_of_lt {cap : ℕ} {l : List α} (h : l.length < cap) (a : α) :
    (push cap l a : Comp ε (List α)) = .ok (l ++ [a]) := if_pos h

lemma sub_of_le {a b : ℕ} (h : b ≤ a) : (sub a b : Comp ε ℕ) = .ok (a - b) := if_pos h

lemma div_of_ne {a b : ℕ} (h : b ≠ 0) : (div a b : Comp ε ℕ) = .ok (a / b) := if_neg h

lemma shl32_of_lt {k : ℕ} (a : ℕ) (h : k < 32) :
    (shl32 a k : Comp ε ℕ) = .ok (a <<< k % 2 ^ 32) := if_pos h

lemma signed_of_mem {w : ℕ} {z : ℤ} (h : -2 ^ (w - 1) ≤ z ∧ z < 2 ^ (w - 1)) :
    (signed w z : Comp ε ℤ) = .ok z := if_pos h

/-! ### Loops -/

/-- A loop over a list that agrees with a pure loop at every step from the states that an
invariant allows. -/
lemma foldlM_eq_foldl {g : σ → α → Comp ε σ} {f : σ → α → σ} {Inv : σ → Prop} (l : List α)
    {s : σ} (hs : Inv s) (hInv : ∀ s, ∀ a ∈ l, Inv s → Inv (f s a))
    (hstep : ∀ s, ∀ a ∈ l, Inv s → g s a = .ok (f s a)) :
    l.foldlM g s = .ok (l.foldl f s) := by
  induction l generalizing s with
  | nil => rfl
  | cons a l ih =>
    rw [List.foldlM_cons, hstep s a (by simp) hs, ok_bind]
    exact ih (hInv s a (by simp) hs) (fun s a ha => hInv s a (by simp [ha]))
      fun s a ha => hstep s a (by simp [ha])

/-- A loop over a list that agrees with a pure loop at every step. -/
lemma foldlM_eq_foldl_of_forall {g : σ → α → Comp ε σ} {f : σ → α → σ} {l : List α}
    (hstep : ∀ s, ∀ a ∈ l, g s a = .ok (f s a)) (s : σ) : l.foldlM g s = .ok (l.foldl f s) :=
  @foldlM_eq_foldl ε α σ g f (fun _ => True) l s trivial (fun _ _ _ _ => trivial)
    fun s a ha _ => hstep s a ha

end Checked
