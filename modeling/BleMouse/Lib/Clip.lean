/-
Integers cut into pieces of a bounded size.

`clip n v` is the part of `v` within distance `n` of zero.  When pieces of size `m` are taken
off `v` one after another, the first `i` of them make up `clip (i * m) v` (`sum_piece`), so
piece `i` is `piece m v i`, the difference of two clips; it is what a loop takes off that clips
what the pieces before have left (`clip_sub_clip`).
-/
import Mathlib.Tactic

namespace Clip

/-- The part of `v` within distance `n` of zero. -/
def clip (n v : ℤ) : ℤ := max (-n) (min v n)

/-- Piece `i` of `v`. -/
def piece (m v : ℤ) (i : ℕ) : ℤ := clip ((i + 1 : ℕ) * m) v - clip (i * m) v

lemma clip_zero (v : ℤ) : clip 0 v = 0 := by
  unfold clip
  omega

lemma clip_mem {n : ℤ} (hn : 0 ≤ n) (v : ℤ) : -n ≤ clip n v ∧ clip n v ≤ n := by
  unfold clip
  omega

lemma clip_eq_self {n v : ℤ} (hn : 0 ≤ n) : clip n v = v ↔ -n ≤ v ∧ v ≤ n := by
  unfold clip
  omega

/-- Nothing is left over for a larger bound. -/
lemma clip_eq_self_mono {n n' v : ℤ} (hn : 0 ≤ n) (h : clip n v = v) (hle : n ≤ n') :
    clip n' v = v := by
  rw [clip_eq_self hn] at h
  rw [clip_eq_self (hn.trans hle)]
  omega

/-- What is left lies between zero and the number. -/
lemma sub_clip_mem {n : ℤ} (hn : 0 ≤ n) (v : ℤ) :
    min v 0 ≤ v - clip n v ∧ v - clip n v ≤ max v 0 := by
  unfold clip
  omega

/-- To clip what is left is to go on with the next piece. -/
lemma clip_sub_clip {n m : ℤ} (hn : 0 ≤ n) (hm : 0 ≤ m) (v : ℤ) :
    clip m (v - clip n v) = clip (n + m) v - clip n v := by
  unfold clip
  omega

lemma clip_sub_clip_mul {m : ℤ} (hm : 0 ≤ m) (v : ℤ) (i : ℕ) :
    clip m (v - clip (i * m) v) = piece m v i := by
  have hnext : ((i + 1 : ℕ) : ℤ) * m = i * m + m := by push_cast; ring
  rw [clip_sub_clip (mul_nonneg (Int.natCast_nonneg i) hm) hm, piece, hnext]

lemma piece_mem {m : ℤ} (hm : 0 ≤ m) (v : ℤ) (i : ℕ) : -m ≤ piece m v i ∧ piece m v i ≤ m := by
  rw [← clip_sub_clip_mul hm]
  exact clip_mem hm _

/-- The pieces add up. -/
lemma sum_piece (m v : ℤ) (n : ℕ) :
    ((List.range n).map (piece m v)).sum = clip (n * m) v := by
  induction n with
  | zero => simp [clip_zero]
  | succ n ih =>
    rw [List.range_succ, List.map_append, List.sum_append, ih, List.map_singleton,
      List.sum_singleton, piece]
    ring

end Clip
