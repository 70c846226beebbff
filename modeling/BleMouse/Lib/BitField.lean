/-
Bit fields in byte strings.

Bit `k` of a byte string is bit `k % 8` of its byte `k / 8`, counted from the least
significant bit.  A field of `n` bits at the offset `off` holds a number below `2 ^ n`, and
writing one field leaves every bit outside it alone.  Signed contents are two's complement:
the value of a field is the remainder of least absolute value modulo `2 ^ n`
(`Int.bmod`).
-/
import Mathlib.Tactic

namespace BitField

/-! ### Numbers from bits -/

/-- Collecting the bits `b 0, …, b (n - 1)` of a number one by one. -/
def collect (b : ℕ → Bool) (n : ℕ) : ℕ :=
  (List.range n).foldl (fun value i => value ||| (b i).toNat <<< i) 0

lemma collect_succ (b : ℕ → Bool) (n : ℕ) :
    collect b (n + 1) = collect b n ||| (b n).toNat <<< n := by
  simp [collect, List.range_succ]

lemma testBit_toNat_shiftLeft (c : Bool) (n j : ℕ) :
    (c.toNat <<< n).testBit j = (decide (j = n) && c) := by
  cases c with
  | false => simp
  | true =>
    rw [Bool.toNat_true, Nat.one_shiftLeft, Nat.testBit_two_pow, Bool.and_true]
    exact decide_eq_decide.2 eq_comm

lemma testBit_collect (b : ℕ → Bool) (n j : ℕ) :
    (collect b n).testBit j = (decide (j < n) && b j) := by
  induction n with
  | zero => simp [collect]
  | succ n ih =>
    rw [collect_succ, Nat.testBit_or, ih, testBit_toNat_shiftLeft]
    rcases lt_trichotomy j n with h | h | h
    · simp [h, h.ne, Nat.lt_succ_of_lt h]
    · simp [h]
    · simp [h.ne', not_lt.2 h.le, not_lt.2 (Nat.succ_le_of_lt h)]

lemma collect_lt (b : ℕ → Bool) (n : ℕ) : collect b n < 2 ^ n := by
  refine Nat.lt_pow_two_of_testBit _ fun j hj => ?_
  rw [testBit_collect]
  simp [not_lt.2 hj]

lemma collect_testBit (v n : ℕ) : collect v.testBit n = v % 2 ^ n := by
  apply Nat.eq_of_testBit_eq
  intro j
  rw [testBit_collect, Nat.testBit_mod_two_pow]

lemma collect_congr {b c : ℕ → Bool} {n : ℕ} (h : ∀ i < n, b i = c i) :
    collect b n = collect c n := by
  apply Nat.eq_of_testBit_eq
  intro j
  rw [testBit_collect, testBit_collect]
  by_cases hj : j < n
  · rw [h j hj]
  · simp [hj]

/-! ### Reading and writing -/

/-- Bit `k` of a byte string; the bits past its end are zero. -/
def bitAt (data : List UInt8) (k : ℕ) : Bool :=
  match data[k / 8]? with
  | some byte => byte.toNat.testBit (k % 8)
  | none => false

/-- The contents of the field of `n` bits at the offset `off`. -/
def getBits (data : List UInt8) (off n : ℕ) : ℕ := collect (fun i => bitAt data (off + i)) n

/-- The byte with bit `i` set to `b`. -/
def setBit (byte : UInt8) (i : ℕ) (b : Bool) : UInt8 :=
  UInt8.ofNat (collect (fun j => if j = i then b else byte.toNat.testBit j) 8)

/-- The byte string with bit `k` set to `b`. -/
def putBit (data : List UInt8) (k : ℕ) (b : Bool) : List UInt8 :=
  data.modify (k / 8) fun byte => setBit byte (k % 8) b

/-- The byte string with the low `n` bits of `v` in the field of `n` bits at `off`. -/
def putBits (data : List UInt8) (off n v : ℕ) : List UInt8 :=
  (List.range n).foldl (fun data i => putBit data (off + i) (v.testBit i)) data

lemma testBit_setBit (byte : UInt8) {i j : ℕ} (hj : j < 8) (b : Bool) :
    (setBit byte i b).toNat.testBit j = if j = i then b else byte.toNat.testBit j := by
  rw [setBit, UInt8.toNat_ofNat', Nat.mod_eq_of_lt (collect_lt _ 8), testBit_collect]
  simp [hj]

@[simp] lemma length_putBit (data : List UInt8) (k : ℕ) (b : Bool) :
    (putBit data k b).length = data.length := by
  simp [putBit]

lemma bitAt_putBit {data : List UInt8} {k : ℕ} (hk : k < 8 * data.length) (b : Bool) (j : ℕ) :
    bitAt (putBit data k b) j = if j = k then b else bitAt data j := by
  unfold bitAt putBit
  rw [List.getElem?_modify]
  by_cases hbyte : k / 8 = j / 8
  · have hlt : j / 8 < data.length := by omega
    have hmod : (j % 8 = k % 8) = (j = k) := by
      rw [eq_iff_iff]
      omega
    simp only [hbyte, List.getElem?_eq_getElem hlt, if_true, Option.map_eq_map, Option.map_some]
    rw [testBit_setBit _ (Nat.mod_lt _ (by omega))]
    simp only [hmod]
  · have hne : j ≠ k := by
      rintro rfl
      exact hbyte rfl
    simp [hbyte, hne]

lemma putBits_succ (data : List UInt8) (off n v : ℕ) :
    putBits data off (n + 1) v = putBit (putBits data off n v) (off + n) (v.testBit n) := by
  simp [putBits, List.range_succ]

@[simp] lemma length_putBits (data : List UInt8) (off n v : ℕ) :
    (putBits data off n v).length = data.length := by
  induction n with
  | zero => simp [putBits]
  | succ n ih => rw [putBits_succ, length_putBit, ih]

lemma bitAt_putBits {data : List UInt8} {off n : ℕ} (h : off + n ≤ 8 * data.length) (v j : ℕ) :
    bitAt (putBits data off n v) j
      = if off ≤ j ∧ j < off + n then v.testBit (j - off) else bitAt data j := by
  induction n with
  | zero =>
    have hout : ¬(off ≤ j ∧ j < off + 0) := by omega
    rw [if_neg hout]
    simp [putBits]
  | succ n ih =>
    rw [putBits_succ, bitAt_putBit (by rw [length_putBits]; omega), ih (by omega)]
    by_cases hj : j = off + n
    · have hin : off ≤ j ∧ j < off + (n + 1) := by omega
      rw [if_pos hj, if_pos hin, hj, Nat.add_sub_cancel_left]
    · have hiff : (off ≤ j ∧ j < off + (n + 1)) ↔ (off ≤ j ∧ j < off + n) := by omega
      rw [if_neg hj]
      simp only [hiff]

/-- A field holds what was written to it. -/
lemma getBits_putBits {data : List UInt8} {off n : ℕ} (h : off + n ≤ 8 * data.length) (v : ℕ) :
    getBits (putBits data off n v) off n = v % 2 ^ n := by
  rw [← collect_testBit]
  refine collect_congr fun i hi => ?_
  have hin : off ≤ off + i ∧ off + i < off + n := by omega
  rw [bitAt_putBits h, if_pos hin, Nat.add_sub_cancel_left]

/-- Writing a field leaves a disjoint one alone. -/
lemma getBits_putBits_of_disjoint {data : List UInt8} {off n : ℕ}
    (h : off + n ≤ 8 * data.length) (v : ℕ) {off' n' : ℕ}
    (hdisj : off' + n' ≤ off ∨ off + n ≤ off') :
    getBits (putBits data off n v) off' n' = getBits data off' n' := by
  refine collect_congr fun i hi => ?_
  have hout : ¬(off ≤ off' + i ∧ off' + i < off + n) := by omega
  rw [bitAt_putBits h, if_neg hout]

/-! ### Two's complement -/

/-- The low `n` bits of an integer. -/
def low (z : ℤ) (n : ℕ) : ℕ := (z % 2 ^ n).toNat

lemma low_lt (z : ℤ) (n : ℕ) : low z n < 2 ^ n := by
  have hpos : (0 : ℤ) < 2 ^ n := by positivity
  have hnn := Int.emod_nonneg z hpos.ne'
  have hlt := Int.emod_lt_of_pos z hpos
  have hcast : ((low z n : ℕ) : ℤ) = z % 2 ^ n := Int.toNat_of_nonneg hnn
  have : ((low z n : ℕ) : ℤ) < ((2 ^ n : ℕ) : ℤ) := by
    rw [hcast]
    exact_mod_cast hlt
  exact_mod_cast this

lemma cast_low (z : ℤ) (n : ℕ) : ((low z n : ℕ) : ℤ) = z % 2 ^ n :=
  Int.toNat_of_nonneg (Int.emod_nonneg z (by positivity))

/-- A field reads back a signed value that fits into it. -/
lemma bmod_low {z : ℤ} {n : ℕ} (hn : 1 ≤ n) (h : -2 ^ (n - 1) ≤ z ∧ z < 2 ^ (n - 1)) :
    ((low z n : ℕ) : ℤ).bmod (2 ^ n) = z := by
  obtain ⟨m, rfl⟩ : ∃ m, n = m + 1 := ⟨n - 1, by omega⟩
  rw [cast_low, show (2 : ℤ) ^ (m + 1) = ((2 ^ (m + 1) : ℕ) : ℤ) by push_cast; ring, Int.emod_bmod]
  simp only [Nat.add_sub_cancel] at h
  have hpow : (2 : ℤ) ^ (m + 1) = 2 * 2 ^ m := by ring
  apply Int.bmod_eq_of_le <;> push_cast <;> omega

/-- A field reads back an unsigned value that fits into it. -/
lemma low_of_lt {z : ℤ} {n : ℕ} (h : 0 ≤ z ∧ z < 2 ^ n) : ((low z n : ℕ) : ℤ) = z := by
  rw [cast_low, Int.emod_eq_of_lt h.1 h.2]

lemma xor_two_pow_of_lt {v k : ℕ} (h : v < 2 ^ k) : v ^^^ 2 ^ k = v + 2 ^ k := by
  apply Nat.eq_of_testBit_eq
  intro j
  rw [Nat.testBit_xor, Nat.testBit_two_pow, Nat.add_comm v, ← Nat.mul_one (2 ^ k),
    Nat.testBit_two_pow_mul_add _ h]
  rcases lt_trichotomy j k with hj | hj | hj
  · simp [hj, hj.ne']
  · subst hj
    simp [Nat.testBit_lt_two_pow h]
  · have hv : v.testBit j = false :=
      Nat.testBit_lt_two_pow (h.trans (Nat.pow_lt_pow_right (by omega) hj))
    have h1 : Nat.testBit 1 (j - k) = false :=
      Nat.testBit_lt_two_pow (Nat.one_lt_two_pow (by omega))
    simp [hv, h1, hj.ne, not_lt.2 hj.le]

lemma xor_two_pow_of_le {v k : ℕ} (h : 2 ^ k ≤ v) (h' : v < 2 ^ (k + 1)) :
    v ^^^ 2 ^ k = v - 2 ^ k := by
  have hw : v - 2 ^ k < 2 ^ k := by
    rw [pow_succ] at h'
    omega
  have hv : v = (v - 2 ^ k) ^^^ 2 ^ k := by
    rw [xor_two_pow_of_lt hw]
    omega
  calc v ^^^ 2 ^ k = ((v - 2 ^ k) ^^^ 2 ^ k) ^^^ 2 ^ k := by rw [← hv]
    _ = v - 2 ^ k := by rw [Nat.xor_assoc, Nat.xor_self, Nat.xor_zero]

/-- Flipping the sign bit and subtracting it again extends the sign. -/
lemma bmod_eq_xor_sub {v k : ℕ} (h : v < 2 ^ (k + 1)) :
    (v : ℤ).bmod (2 ^ (k + 1)) = ((v ^^^ 2 ^ k : ℕ) : ℤ) - (2 ^ k : ℕ) := by
  have hpow : 2 ^ (k + 1) = 2 * 2 ^ k := by ring
  have hxor : v ^^^ 2 ^ k = if v < 2 ^ k then v + 2 ^ k else v - 2 ^ k := by
    split
    · exact xor_two_pow_of_lt ‹_›
    · exact xor_two_pow_of_le (by omega) h
  rw [hxor]
  rw [hpow] at h ⊢
  generalize 2 ^ k = p at h
  rw [Int.bmod_eq_emod, Int.emod_eq_of_lt (by omega) (by omega)]
  split <;> split <;> omega

end BitField
