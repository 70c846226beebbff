/-
Nesting and separators in a list of tokens.

Some tokens open something and some close it.  `Nests opens closes limit l` says that along `l`
nothing is closed that was not opened, and that at most `limit` levels are open at once;
`height` is the number of levels that are open at the end.  Other tokens separate the list into
sections: `Sparse separates counted limit l` says that no section holds more than `limit` of the
tokens that are counted, and `tally` counts those of the last section.

Each notion has one equation for a list that grows at its end, which is how a program that
reads the tokens one by one checks it.
-/
import Mathlib.Tactic

namespace Nesting

universe u

variable {α : Type u}

/-! ### Levels -/

section Levels

variable (opens closes : α → Bool) (limit : ℕ)

/-- Along the list, the levels that are open are between none and `limit`. -/
def Nests (l : List α) : Prop :=
  ∀ front, front <+: l → front.countP closes ≤ front.countP opens ∧
    front.countP opens ≤ front.countP closes + limit

/-- The number of levels that are open at the end. -/
def height (l : List α) : ℕ := l.countP opens - l.countP closes

variable {opens closes limit}

lemma nests_nil : Nests opens closes limit [] := by
  rintro front hfront
  obtain rfl := List.prefix_nil.1 hfront
  exact ⟨le_rfl, Nat.zero_le _⟩

lemma Nests.closes_le {l : List α} (h : Nests opens closes limit l) :
    l.countP closes ≤ l.countP opens := (h l List.prefix_rfl).1

lemma height_concat {l : List α} (h : Nests opens closes limit l) {a : α}
    (hdisjoint : opens a = true → closes a = false) :
    height opens closes (l ++ [a]) = if opens a then height opens closes l + 1
      else if closes a then height opens closes l - 1 else height opens closes l := by
  have hle := h.closes_le
  unfold height
  rw [List.countP_append, List.countP_append, List.countP_singleton, List.countP_singleton]
  cases hopens : opens a with
  | true =>
    rw [hdisjoint hopens]
    simp only [if_true, Bool.false_eq_true, if_false]
    omega
  | false =>
    cases closes a <;> simp only [if_true, Bool.false_eq_true, if_false] <;> omega

/-- One more token: there is room for a level that it opens, and a level that it closes. -/
lemma nests_concat {l : List α} {a : α} (hdisjoint : opens a = true → closes a = false) :
    Nests opens closes limit (l ++ [a]) ↔ Nests opens closes limit l ∧
      (opens a = true → height opens closes l < limit) ∧
      (closes a = true → height opens closes l ≠ 0) := by
  have hcount (p : α → Bool) : (l ++ [a]).countP p = l.countP p + if p a then 1 else 0 := by
    rw [List.countP_append, List.countP_singleton]
  unfold height
  constructor
  · intro h
    obtain ⟨hcloses, hopens⟩ := h _ List.prefix_rfl
    have hle := (h l (List.prefix_append _ _)).1
    rw [hcount, hcount] at hcloses hopens
    refine ⟨fun front hfront => h front (hfront.trans (List.prefix_append _ _)), ?_, ?_⟩
    · intro ha
      rw [ha, hdisjoint ha] at hcloses hopens
      simp only [if_true, Bool.false_eq_true, if_false] at hcloses hopens
      omega
    -- the token closes a level, so it opens none
    · intro ha
      have hno : opens a = false := by
        by_contra hyes
        rw [hdisjoint (Bool.eq_true_of_not_eq_false hyes)] at ha
        exact Bool.false_ne_true ha
      rw [ha, hno] at hcloses
      simp only [if_true, Bool.false_eq_true, if_false] at hcloses
      omega
  · rintro ⟨h, hroom, hlevel⟩ front hfront
    -- a beginning of the longer list is all of it, or a beginning of `l`
    rcases List.prefix_concat_iff.1 hfront with rfl | hfront
    · obtain ⟨hcloses, hopens⟩ := h l List.prefix_rfl
      rw [hcount, hcount]
      cases ha : opens a with
      | true =>
        have hfree := hroom ha
        rw [hdisjoint ha]
        simp only [if_true, Bool.false_eq_true, if_false]
        omega
      | false =>
        cases hb : closes a with
        | true =>
          have hopen := hlevel hb
          simp only [if_true, Bool.false_eq_true, if_false]
          omega
        | false =>
          simp only [Bool.false_eq_true, if_false]
          omega
    · exact h front hfront

end Levels

/-! ### Sections -/

section Sections

variable (separates counted : α → Bool) (limit : ℕ)

/-- No section between separators holds more than `limit` of the tokens that are counted. -/
def Sparse (l : List α) : Prop :=
  ∀ part, part <:+: l → (∀ a ∈ part, separates a = false) → part.countP counted ≤ limit

/-- The number of counted tokens since the last separator. -/
def tally (l : List α) : ℕ :=
  l.foldl (fun n a => if separates a then 0 else if counted a then n + 1 else n) 0

variable {separates counted limit}

lemma tally_concat (l : List α) (a : α) : tally separates counted (l ++ [a]) =
    if separates a then 0 else if counted a then tally separates counted l + 1
    else tally separates counted l := by
  unfold tally
  rw [List.foldl_append]
  rfl

/-- The tally is what the longest section at the end of the list holds. -/
lemma countP_le_tally {l part : List α} (hpart : part <:+ l)
    (hfree : ∀ a ∈ part, separates a = false) :
    part.countP counted ≤ tally separates counted l := by
  induction l using List.reverseRecOn generalizing part with
  | nil =>
    obtain rfl := List.suffix_nil.1 hpart
    exact Nat.zero_le _
  | append_singleton l a ih =>
    rcases List.suffix_concat_iff.1 hpart with rfl | ⟨front, rfl, hfront⟩
    · exact Nat.zero_le _
    · have hle := ih hfront fun b hb => hfree b (List.mem_append_left _ hb)
      have ha : separates a = false := hfree a (List.mem_append_right _ List.mem_cons_self)
      rw [tally_concat, ha, List.countP_append, List.countP_singleton]
      cases counted a <;> simp only [if_true, Bool.false_eq_true, if_false] <;> omega

lemma exists_countP_eq_tally (l : List α) : ∃ part, part <:+ l ∧
    (∀ a ∈ part, separates a = false) ∧ part.countP counted = tally separates counted l := by
  induction l using List.reverseRecOn with
  | nil => exact ⟨[], List.suffix_rfl, by simp, rfl⟩
  | append_singleton l a ih =>
    obtain ⟨part, hpart, hfree, hcount⟩ := ih
    cases ha : separates a with
    | true => exact ⟨[], List.nil_suffix, by simp, by rw [tally_concat, ha]; rfl⟩
    | false =>
      refine ⟨part ++ [a], ?_, ?_, ?_⟩
      · exact List.suffix_concat_iff.2 (.inr ⟨part, rfl, hpart⟩)
      · intro b hb
        rcases List.mem_append.1 hb with hb | hb
        · exact hfree b hb
        · rwa [List.mem_singleton.1 hb]
      · rw [tally_concat, ha, List.countP_append, List.countP_singleton, hcount]
        cases counted a <;> simp

lemma sparse_nil : Sparse separates counted limit [] := by
  rintro part hpart -
  obtain rfl := List.infix_nil.1 hpart
  exact Nat.zero_le _

/-- One more token: there is room for it in the last section, if it counts. -/
lemma sparse_concat {l : List α} {a : α} :
    Sparse separates counted limit (l ++ [a]) ↔ Sparse separates counted limit l ∧
      (separates a = false → counted a = true → tally separates counted l < limit) := by
  constructor
  · intro h
    refine ⟨fun part hpart => h part (hpart.trans (List.prefix_append _ _).isInfix), ?_⟩
    intro ha hcounted
    obtain ⟨part, hpart, hfree, hcount⟩ : ∃ part, part <:+ l ∧
        (∀ a ∈ part, separates a = false) ∧ part.countP counted = tally separates counted l :=
      exists_countP_eq_tally l
    -- the section at the end that holds most of them goes on with `a`
    have hle := h (part ++ [a]) (List.suffix_concat_iff.2 (.inr ⟨part, rfl, hpart⟩)).isInfix ?_
    · rw [List.countP_append, List.countP_singleton, hcounted, hcount] at hle
      simp only [if_true] at hle
      omega
    · intro b hb
      rcases List.mem_append.1 hb with hb | hb
      · exact hfree b hb
      · rwa [List.mem_singleton.1 hb]
  · rintro ⟨h, hroom⟩ part hpart hfree
    rcases List.infix_concat_iff.1 hpart with hpart | hpart
    -- a section of the longer list ends with `a`, or lies in `l`
    · rcases List.suffix_concat_iff.1 hpart with rfl | ⟨front, rfl, hfront⟩
      · exact Nat.zero_le _
      · have hfree' : ∀ b ∈ front, separates b = false :=
          fun b hb => hfree b (List.mem_append_left _ hb)
        have ha : separates a = false := hfree a (List.mem_append_right _ List.mem_cons_self)
        have hle := h front hfront.isInfix hfree'
        have htally : front.countP counted ≤ tally separates counted l :=
          countP_le_tally hfront hfree'
        rw [List.countP_append, List.countP_singleton]
        cases hcounted : counted a with
        | true =>
          have hfree := hroom ha hcounted
          simp only [if_true]
          omega
        | false =>
          simp only [Bool.false_eq_true, if_false]
          omega
    · exact h part hpart hfree

end Sections

end Nesting
