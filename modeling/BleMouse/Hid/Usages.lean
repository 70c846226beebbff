/-
The usages of the controls of an Input item.

The HID specification lists the usages that the local items before an Input item declare, one
after another, and gives the controls of the item the entries of that list, the last one to all
controls that are left (6.2.2.8).  `local_usage` looks for the usage of a control among the
explicit usages and in the last range, both by the number of the control.

* `Declares`: the items of a descriptor and the usages they declare;
* `locals_of_declares`: what the parser remembers of them;
* `usage_assignment`: when the controls get the declared usages.
-/
import BleMouse.Hid.Descriptor

namespace BleMouse.Hid

open Checked

/-! ### Declared usages -/

/-- A Usage item, or a pair of Usage Minimum and Usage Maximum. -/
inductive Declaration
  | usage (u : ℕ)
  | range (minimum maximum : ℕ)
deriving DecidableEq, Repr

/-- The item of a pair that comes first. -/
inductive Bound
  | minimum (u : ℕ)
  | maximum (u : ℕ)
deriving DecidableEq, Repr

/-- The usages a declaration adds to the list. -/
def Declaration.entries : Declaration → List ℕ
  | .usage u => [u]
  | .range minimum maximum => List.range' minimum (maximum - minimum + 1)

/-- The list of the declared usages. -/
def entries (ds : List Declaration) : List ℕ := ds.flatMap Declaration.entries

/-- The entry of the list for a control; the last one is for all controls that are left. -/
def entryFor (list : List ℕ) (i : ℕ) : Option ℕ := list[i]?.or list.getLast?

/-- `Declares s half items ds s'`: the parser accepts the items, which lead it from `s` to `s'`,
and they declare `ds`; `half` is the first item of a pair whose second one has not come yet.
A usage is qualified with the page that is in force at its item. -/
inductive Declares : ParserState → Option Bound → List Item → List Declaration → ParserState → Prop
  | nil (s : ParserState) : Declares s none [] [] s
  | global {s t s' : ParserState} {half : Option Bound} {tag size value : ℕ} {items : List Item}
      {ds : List Declaration} (hitem : globalItem s tag size value = .ok t)
      (hrest : Declares t half items ds s') :
      Declares s half (.short 1 tag size value :: items) ds s'
  | usage {s t s' : ParserState} {size value : ℕ} {items : List Item} {ds : List Declaration}
      (hitem : localItem s 0 size value = .ok t) (hrest : Declares t none items ds s') :
      Declares s none (.short 2 0 size value :: items) (.usage (s.itemUsage size value) :: ds) s'
  | minimum {s t s' : ParserState} {size value : ℕ} {items : List Item} {ds : List Declaration}
      (hitem : localItem s 1 size value = .ok t)
      (hrest : Declares t (some (.minimum (s.itemUsage size value))) items ds s') :
      Declares s none (.short 2 1 size value :: items) ds s'
  | maximum {s t s' : ParserState} {size value : ℕ} {items : List Item} {ds : List Declaration}
      (hitem : localItem s 2 size value = .ok t)
      (hrest : Declares t (some (.maximum (s.itemUsage size value))) items ds s') :
      Declares s none (.short 2 2 size value :: items) ds s'
  | toMaximum {s t s' : ParserState} {low size value : ℕ} {items : List Item}
      {ds : List Declaration} (hitem : localItem s 2 size value = .ok t)
      (hle : low ≤ s.itemUsage size value) (hrest : Declares t none items ds s') :
      Declares s (some (.minimum low)) (.short 2 2 size value :: items)
        (.range low (s.itemUsage size value) :: ds) s'
  | toMinimum {s t s' : ParserState} {high size value : ℕ} {items : List Item}
      {ds : List Declaration} (hitem : localItem s 1 size value = .ok t)
      (hle : s.itemUsage size value ≤ high) (hrest : Declares t none items ds s') :
      Declares s (some (.maximum high)) (.short 2 1 size value :: items)
        (.range (s.itemUsage size value) high :: ds) s'

/-- Control `i` of an Input item that follows gets usage `u`: the first step of `addControl`. -/
def Receives (s : ParserState) (i u : ℕ) : Prop := localUsage s.locals i = .ok u

/-- The controls of an Input item that follows get the declared usages. -/
def Assigned (ds : List Declaration) (s : ParserState) : Prop :=
  ∀ i < s.global.count, ∀ u, entryFor (entries ds) i = some u → Receives s i u

/-! ### What the parser remembers -/

namespace LocalState

/-- The local state after a declaration. -/
def note (l : LocalState) : Declaration → LocalState
  | .usage u => { l with usages := l.usages ++ [u] }
  | .range minimum maximum =>
    { l with minimum, maximum, hasMinimum := true, hasMaximum := true }

/-- The local state after the first item of a pair. -/
def noteHalf (l : LocalState) : Option Bound → LocalState
  | none => l
  | some (.minimum u) => { l with minimum := u, hasMinimum := true }
  | some (.maximum u) => { l with maximum := u, hasMaximum := true }

end LocalState

lemma globalItem_locals {s t : ParserState} {tag size value : ℕ}
    (h : globalItem s tag size value = .ok t) : t.locals = s.locals := by
  unfold globalItem at h
  split at h
  · split at h
    · exact absurd h fail_ne_ok
    · cases h
      rfl
  · split at h
    · exact absurd h fail_ne_ok
    · cases hbits : signedBits value (size * 8) with
      | error e =>
        rw [hbits] at h
        cases h
      | ok minimum =>
        rw [hbits] at h
        cases h
        rfl
  · cases h
    rfl
  · split at h
    · exact absurd h fail_ne_ok
    · cases h
      rfl
  · cases h
    rfl
  · split at h
    · exact absurd h fail_ne_ok
    · cases hpush : (push stackDepth s.stack s.global : Parse (List GlobalState)) with
      | error e =>
        rw [hpush] at h
        cases h
      | ok stack =>
        rw [hpush] at h
        cases h
        rfl
  · split at h
    · exact absurd h fail_ne_ok
    · rename_i hlen
      rw [sub_of_le (by omega), ok_bind, get_of_lt (by omega)] at h
      cases h
      rfl
  · cases h
    rfl

lemma localItem_usage {s t : ParserState} {size value : ℕ} (h : localItem s 0 size value = .ok t) :
    t.locals = s.locals.note (.usage (s.itemUsage size value)) := by
  unfold localItem at h
  rw [shl32_of_lt _ (by omega), ok_bind] at h
  have hitem : (if s.locals.usages.length = localUsages then fail .e2Big
      else do
        let usages ← push localUsages s.locals.usages (s.itemUsage size value)
        return { s with locals := { s.locals with usages } } : Parse ParserState) = .ok t := h
  split at hitem
  · exact absurd hitem fail_ne_ok
  · unfold push at hitem
    split at hitem
    · cases hitem
      rfl
    · cases hitem

lemma localItem_minimum {s t : ParserState} {size value : ℕ}
    (h : localItem s 1 size value = .ok t) :
    t.locals = s.locals.noteHalf (some (.minimum (s.itemUsage size value))) := by
  unfold localItem at h
  rw [shl32_of_lt _ (by omega), ok_bind] at h
  cases h
  rfl

lemma localItem_maximum {s t : ParserState} {size value : ℕ}
    (h : localItem s 2 size value = .ok t) :
    t.locals = s.locals.noteHalf (some (.maximum (s.itemUsage size value))) := by
  unfold localItem at h
  rw [shl32_of_lt _ (by omega), ok_bind] at h
  cases h
  rfl

/-- The parser notes one declaration after another. -/
lemma locals_of_declares {s s' : ParserState} {half : Option Bound} {items : List Item}
    {ds : List Declaration} (h : Declares s half items ds s') {l : LocalState}
    (hl : s.locals = l.noteHalf half) : s'.locals = ds.foldl LocalState.note l := by
  induction h generalizing l with
  | nil => exact hl
  | global hitem _ ih => exact ih ((globalItem_locals hitem).trans hl)
  | usage hitem _ ih =>
    rw [List.foldl_cons]
    apply ih
    rw [localItem_usage hitem, hl]
    rfl
  | minimum hitem _ ih =>
    apply ih
    rw [localItem_minimum hitem, hl]
    rfl
  | maximum hitem _ ih =>
    apply ih
    rw [localItem_maximum hitem, hl]
    rfl
  | toMaximum hitem _ _ ih =>
    rw [List.foldl_cons]
    apply ih
    rw [localItem_maximum hitem, hl]
    rfl
  | toMinimum hitem _ _ ih =>
    rw [List.foldl_cons]
    apply ih
    rw [localItem_minimum hitem, hl]
    rfl

/-! ### The usage of a control -/

/-- The declaration is a Usage item. -/
def Declaration.IsUsage (d : Declaration) : Prop := ∃ u, d = .usage u

/-- The explicit usages. -/
def explicit (ds : List Declaration) : List ℕ :=
  ds.flatMap fun d => match d with
    | .usage u => [u]
    | .range _ _ => []

/-- The last range. -/
def lastRange (ds : List Declaration) : Option (ℕ × ℕ) :=
  ds.foldl (fun range d => match d with
    | .usage _ => range
    | .range minimum maximum => some (minimum, maximum)) none

/-- The number of usages before the first range. -/
def leading : List Declaration → ℕ
  | .usage _ :: ds => leading ds + 1
  | _ => 0

/-- The usage that a control gets: the explicit one or else the one of the last range that has
the number of the control, or else the last explicit one. -/
def standIn (ds : List Declaration) (i : ℕ) : ℕ :=
  let last := (explicit ds).getLast?.getD 0xffffffff
  match (explicit ds)[i]?, lastRange ds with
  | some u, _ => u
  | none, some (minimum, maximum) => if i ≤ maximum - minimum then minimum + i else last
  | none, none => last

lemma explicit_append (ds ds' : List Declaration) :
    explicit (ds ++ ds') = explicit ds ++ explicit ds' := List.flatMap_append

lemma entries_append (ds ds' : List Declaration) :
    entries (ds ++ ds') = entries ds ++ entries ds' := List.flatMap_append

lemma explicit_map_usage (us : List ℕ) : explicit (us.map .usage) = us := by
  rw [explicit, List.flatMap_map]
  exact List.flatMap_singleton' us

lemma entries_map_usage (us : List ℕ) : entries (us.map .usage) = us := by
  rw [entries, List.flatMap_map]
  exact List.flatMap_singleton' us

lemma lastRange_concat (ds : List Declaration) (d : Declaration) :
    lastRange (ds ++ [d]) = match d with
      | .usage _ => lastRange ds
      | .range minimum maximum => some (minimum, maximum) := by
  rw [lastRange, List.foldl_append]
  rfl

/-- What the local state holds after declarations. -/
lemma noted (ds : List Declaration) : (ds.foldl LocalState.note {}).usages = explicit ds ∧
    match lastRange ds with
    | none => (ds.foldl LocalState.note {}).hasMinimum = false
    | some (minimum, maximum) =>
      (ds.foldl LocalState.note {}).hasMinimum = true ∧
        (ds.foldl LocalState.note {}).hasMaximum = true ∧
        (ds.foldl LocalState.note {}).minimum = minimum ∧
        (ds.foldl LocalState.note {}).maximum = maximum := by
  induction ds using List.reverseRecOn with
  | nil => exact ⟨rfl, rfl⟩
  | append_singleton ds d ih =>
    obtain ⟨husages, hrange⟩ := ih
    rw [List.foldl_append, explicit_append, lastRange_concat]
    cases d with
    | usage u => exact ⟨congrArg (· ++ [u]) husages, hrange⟩
    | range minimum maximum =>
      exact ⟨husages.trans (List.append_nil _).symm, rfl, rfl, rfl, rfl⟩

lemma last_or (l : List ℕ) (fallback : ℕ) :
    (if l.length ≠ 0 then l.getD (l.length - 1) 0 else fallback) = l.getLast?.getD fallback := by
  rcases List.eq_nil_or_concat' l with rfl | ⟨front, u, rfl⟩
  · rfl
  · rw [if_pos (by simp), List.getLast?_concat, List.length_append, List.length_singleton,
      Nat.add_sub_cancel, List.getD_eq_getElem?_getD, List.getElem?_concat_length]
    rfl

/-- `local_usage` returns the stand-in. -/
lemma usage_eq_standIn {l : LocalState} {ds : List Declaration}
    (hl : l = ds.foldl LocalState.note {})
    (hle : ∀ minimum maximum, lastRange ds = some (minimum, maximum) → minimum ≤ maximum)
    (i : ℕ) : l.usage i = standIn ds i := by
  obtain ⟨husages, hrange⟩ := noted ds
  rw [← hl] at husages hrange
  unfold LocalState.usage standIn
  rw [last_or, husages]
  by_cases hi : i < (explicit ds).length
  · rw [if_pos hi, List.getD_eq_getElem?_getD, List.getElem?_eq_getElem hi]
    rfl
  rw [if_neg hi, List.getElem?_eq_none (not_lt.1 hi)]
  cases hlast : lastRange ds with
  | none =>
    rw [hlast] at hrange
    rw [hrange]
    rfl
  | some range =>
    obtain ⟨minimum, maximum⟩ := range
    rw [hlast] at hrange
    obtain ⟨hmin, hmax, hminimum, hmaximum⟩ := hrange
    have hvalid := hle minimum maximum hlast
    rw [hmin, hmax, hminimum, hmaximum]
    simp only [Bool.and_self, Bool.true_and, Bool.and_eq_true, decide_eq_true_eq, hvalid, true_and]

lemma receives_iff {s : ParserState} {ds : List Declaration}
    (hs : s.locals = ds.foldl LocalState.note {})
    (hle : ∀ minimum maximum, lastRange ds = some (minimum, maximum) → minimum ≤ maximum)
    {i u : ℕ} : Receives s i u ↔ standIn ds i = u := by
  unfold Receives
  rw [localUsage_eq, usage_eq_standIn hs hle, Except.ok.injEq]

/-- The ranges that are declared are not empty. -/
def Proper (ds : List Declaration) : Prop :=
  ∀ minimum maximum, .range minimum maximum ∈ ds → minimum ≤ maximum

lemma proper_of_declares {s s' : ParserState} {half : Option Bound} {items : List Item}
    {ds : List Declaration} (h : Declares s half items ds s') : Proper ds := by
  induction h with
  | nil => exact fun _ _ hmem => absurd hmem List.not_mem_nil
  | global _ _ ih => exact ih
  | usage _ _ ih =>
    intro minimum maximum hmem
    rcases List.mem_cons.1 hmem with heq | hmem
    · cases heq
    · exact ih minimum maximum hmem
  | minimum _ _ ih => exact ih
  | maximum _ _ ih => exact ih
  | toMaximum _ hle _ ih =>
    intro minimum maximum hmem
    rcases List.mem_cons.1 hmem with heq | hmem
    · cases heq
      exact hle
    · exact ih minimum maximum hmem
  | toMinimum _ hle _ ih =>
    intro minimum maximum hmem
    rcases List.mem_cons.1 hmem with heq | hmem
    · cases heq
      exact hle
    · exact ih minimum maximum hmem

lemma lastRange_mem {ds : List Declaration} {minimum maximum : ℕ}
    (h : lastRange ds = some (minimum, maximum)) : .range minimum maximum ∈ ds := by
  induction ds using List.reverseRecOn with
  | nil => cases h
  | append_singleton ds d ih =>
    rw [lastRange_concat] at h
    cases d with
    | usage u => exact List.mem_append_left _ (ih h)
    | range minimum' maximum' =>
      cases h
      exact List.mem_append_right _ List.mem_cons_self

/-! ### When the controls get the declared usages -/

/-- The declarations that `local_usage` reads the way they are meant for `n` controls. -/
inductive Supported (ds : List Declaration) (n : ℕ) : Prop
  /-- There is no range. -/
  | explicit (h : ∀ d ∈ ds, d.IsUsage)
  /-- The usages before the first range are enough. -/
  | leading (h : n ≤ leading ds)
  /-- There is one range and nothing else, and it is long enough. -/
  | single (minimum maximum : ℕ) (h : ds = [.range minimum maximum])
      (hn : n ≤ maximum - minimum + 1)

/-- The usages before the first range come first. -/
lemma exists_leading (ds : List Declaration) : ∃ (us : List ℕ) (tail : List Declaration),
    ds = us.map .usage ++ tail ∧
    us.length = leading ds ∧
    (tail = [] ∨ ∃ minimum maximum rest, tail = .range minimum maximum :: rest) := by
  induction ds with
  | nil => exact ⟨[], [], rfl, rfl, .inl rfl⟩
  | cons d ds ih =>
    cases d with
    | usage u =>
      obtain ⟨us, tail, rfl, hlength, htail⟩ := ih
      exact ⟨u :: us, tail, rfl, by rw [leading, ← hlength, List.length_cons], htail⟩
    | range minimum maximum =>
      exact ⟨[], .range minimum maximum :: ds, rfl, rfl, .inr ⟨minimum, maximum, ds, rfl⟩⟩

/-- The controls before the first range get what is declared for them. -/
lemma standIn_of_lt {ds : List Declaration} {i : ℕ} (h : i < leading ds) :
    entryFor (entries ds) i = some (standIn ds i) := by
  obtain ⟨us, tail, rfl, hlength, -⟩ := exists_leading ds
  rw [← hlength] at h
  have hentry : entryFor (entries (us.map .usage ++ tail)) i = some us[i] := by
    rw [entryFor, entries_append, entries_map_usage, List.getElem?_append_left h,
      List.getElem?_eq_getElem h]
    rfl
  have hexplicit : (explicit (us.map .usage ++ tail))[i]? = some us[i] := by
    rw [explicit_append, explicit_map_usage, List.getElem?_append_left h,
      List.getElem?_eq_getElem h]
  rw [hentry, standIn, hexplicit]

lemma standIn_of_explicit {ds : List Declaration} (h : ∀ d ∈ ds, d.IsUsage) {i u : ℕ}
    (hu : entryFor (entries ds) i = some u) : standIn ds i = u := by
  obtain ⟨us, tail, rfl, -, htail⟩ := exists_leading ds
  obtain rfl : tail = [] := by
    rcases htail with rfl | ⟨minimum, maximum, rest, rfl⟩
    · rfl
    · obtain ⟨u, heq⟩ := h (.range minimum maximum) (by simp)
      cases heq
  have hrange : lastRange (us.map .usage ++ []) = none := by
    rw [List.append_nil, lastRange, List.foldl_map]
    exact List.foldl_fixed' (fun _ => rfl) us
  rw [List.append_nil] at hu hrange ⊢
  rw [entryFor, entries_map_usage] at hu
  rw [standIn, explicit_map_usage, hrange]
  cases hget : us[i]? with
  | some u' =>
    rw [hget] at hu
    exact Option.some.inj hu
  | none =>
    rw [hget] at hu
    change us.getLast? = some u at hu
    show us.getLast?.getD 0xffffffff = u
    rw [hu]
    rfl

lemma standIn_of_single {minimum maximum i : ℕ} (hi : i < maximum - minimum + 1) {u : ℕ}
    (hu : entryFor (entries [.range minimum maximum]) i = some u) :
    standIn [.range minimum maximum] i = u := by
  have hentry : (entries [.range minimum maximum])[i]? = some (minimum + i) := by
    rw [entries, List.flatMap_singleton]
    show (List.range' minimum (maximum - minimum + 1))[i]? = _
    rw [List.getElem?_range' hi, Nat.one_mul]
  rw [entryFor, hentry] at hu
  show (if i ≤ maximum - minimum then minimum + i else _) = u
  rw [if_pos (Nat.lt_succ_iff.1 hi)]
  exact Option.some.inj hu

/-- What is supported is read as it is meant. -/
lemma Supported.standIn {ds : List Declaration} {n : ℕ} (h : Supported ds n) {i : ℕ} (hi : i < n)
    {u : ℕ} (hu : entryFor (entries ds) i = some u) : standIn ds i = u := by
  cases h with
  | explicit h => exact standIn_of_explicit h hu
  | leading h =>
    rw [standIn_of_lt (hi.trans_le h)] at hu
    exact Option.some.inj hu
  | single minimum maximum h hn =>
    subst h
    exact standIn_of_single (hi.trans_le hn) hu

/-! ### Different usages -/

lemma lastRange_append (ds ds' : List Declaration) :
    lastRange (ds ++ ds') = (lastRange ds').or (lastRange ds) := by
  induction ds' using List.reverseRecOn with
  | nil => rw [List.append_nil]; rfl
  | append_singleton ds' d ih =>
    rw [← List.append_assoc, lastRange_concat, lastRange_concat]
    cases d with
    | usage u => exact ih
    | range minimum maximum => rfl

lemma explicit_subset (ds : List Declaration) : explicit ds ⊆ entries ds := by
  intro u hu
  obtain ⟨d, hd, hmem⟩ := List.mem_flatMap.1 hu
  refine List.mem_flatMap.2 ⟨d, hd, ?_⟩
  cases d with
  | usage u' => exact hmem
  | range minimum maximum => exact absurd hmem List.not_mem_nil

lemma mem_entries_of_range {ds : List Declaration} {minimum maximum i : ℕ}
    (h : .range minimum maximum ∈ ds) (hi : i ≤ maximum - minimum) : minimum + i ∈ entries ds := by
  refine List.mem_flatMap.2 ⟨_, h, ?_⟩
  rw [Declaration.entries, List.mem_range'_1]
  omega

lemma eq_nil_of_undeclared {ds : List Declaration} (hexplicit : explicit ds = [])
    (hrange : lastRange ds = none) : ds = [] := by
  rcases List.eq_nil_or_concat' ds with rfl | ⟨front, d, rfl⟩
  · rfl
  · cases d with
    | usage u =>
      rw [explicit_append] at hexplicit
      exact absurd (List.append_eq_nil_iff.1 hexplicit).2 (List.cons_ne_nil u [])
    | range minimum maximum =>
      rw [lastRange_concat] at hrange
      cases hrange

/-- The last explicit usage is one of them. -/
lemma getLast?_getD_mem {us : List ℕ} (h : us ≠ []) (fallback : ℕ) :
    us.getLast?.getD fallback ∈ us := by
  rw [List.getLast?_eq_some_getLast h]
  exact List.getLast_mem h

/-- When the first range starts at the number of a control, the control gets something else,
unless the range is the only declaration. -/
lemma eq_single_of_standIn {us : List ℕ} {minimum maximum : ℕ} {rest : List Declaration}
    (hus : minimum ∉ us) (hrest : minimum ∉ entries rest)
    (h : standIn (us.map .usage ++ .range minimum maximum :: rest) us.length = minimum) :
    us = [] ∧ rest = [] := by
  have hexplicit : explicit (us.map .usage ++ .range minimum maximum :: rest) =
      us ++ explicit rest := by
    rw [explicit_append, explicit_map_usage]
    rfl
  have hlast : lastRange (us.map .usage ++ .range minimum maximum :: rest) =
      (lastRange rest).or (some (minimum, maximum)) := by
    rw [← List.singleton_append, ← List.append_assoc, lastRange_append, lastRange_concat]
  unfold standIn at h
  rw [hexplicit, hlast] at h
  cases hmore : explicit rest with
  | cons u more =>
    -- an explicit usage after the range has the number of the control
    rw [hmore, List.getElem?_append_right le_rfl, Nat.sub_self] at h
    have hmem : u ∈ entries rest := explicit_subset rest (hmore ▸ List.mem_cons_self)
    exact absurd (h ▸ hmem) hrest
  | nil =>
    rw [hmore, List.append_nil, List.getElem?_eq_none le_rfl] at h
    have hfallback (hlt : us ≠ []) (heq : us.getLast?.getD 0xffffffff = minimum) : False :=
      hus (heq ▸ getLast?_getD_mem hlt _)
    cases hrange : lastRange rest with
    | some range =>
      -- a later range is the last one
      obtain ⟨minimum', maximum'⟩ := range
      rw [hrange] at h
      change (if us.length ≤ maximum' - minimum' then minimum' + us.length else _) = minimum at h
      split at h
      · rename_i hle
        exact absurd (h ▸ mem_entries_of_range (lastRange_mem hrange) hle) hrest
      · rename_i hgt
        refine (hfallback ?_ h).elim
        rintro rfl
        exact hgt (Nat.zero_le _)
    | none =>
      rw [hrange] at h
      change (if us.length ≤ maximum - minimum then minimum + us.length else _) = minimum at h
      refine ⟨?_, eq_nil_of_undeclared hmore hrange⟩
      split at h
      · exact List.length_eq_zero_iff.1 (by omega)
      · by_contra hne
        exact hfallback hne h

/-- The last usage of a range is for all controls that are left. -/
lemma entryFor_beyond {minimum maximum i : ℕ} (hle : minimum ≤ maximum)
    (hi : maximum - minimum < i) :
    entryFor (entries [.range minimum maximum]) i = some maximum := by
  have hentries : entries [.range minimum maximum] =
      List.range' minimum (maximum - minimum + 1) := List.flatMap_singleton _ _
  rw [entryFor, hentries, List.getElem?_eq_none (by rw [List.length_range']; omega), Option.none_or,
    List.getLast?_range', if_neg (Nat.succ_ne_zero _)]
  congr 1
  omega

lemma standIn_beyond {minimum maximum i : ℕ} (hi : maximum - minimum < i) :
    standIn [.range minimum maximum] i = 0xffffffff := by
  show (if i ≤ maximum - minimum then minimum + i else 0xffffffff) = _
  rw [if_neg (not_le.2 hi)]

/-- What is read as it is meant is supported, if all usages are different. -/
lemma supported_of_standIn {ds : List Declaration} {n : ℕ} (hproper : Proper ds)
    (hnodup : (entries ds).Nodup) (hmax : 0xffffffff ∉ entries ds)
    (h : ∀ i < n, ∀ u, entryFor (entries ds) i = some u → standIn ds i = u) : Supported ds n := by
  by_cases hn : n ≤ leading ds
  · exact .leading hn
  rw [not_le] at hn
  obtain ⟨us, tail, rfl, hlength, htail⟩ := exists_leading ds
  rcases htail with rfl | ⟨minimum, maximum, rest, rfl⟩
  · refine .explicit fun d hd => ?_
    rw [List.append_nil] at hd
    obtain ⟨u, -, rfl⟩ := List.mem_map.1 hd
    exact ⟨u, rfl⟩
  have hle : minimum ≤ maximum := hproper minimum maximum (by simp)
  have hentries : entries (us.map .usage ++ .range minimum maximum :: rest) =
      us ++ minimum :: (List.range' (minimum + 1) (maximum - minimum) ++ entries rest) := by
    rw [entries_append, entries_map_usage]
    show us ++ (List.range' minimum (maximum - minimum + 1) ++ entries rest) = _
    rw [List.range'_succ, List.cons_append]
  rw [hentries] at hnodup
  have hfirst := h us.length (hlength ▸ hn) minimum (by
    rw [entryFor, hentries, List.getElem?_append_right le_rfl, Nat.sub_self]
    rfl)
  obtain ⟨-, htail, hdisjoint⟩ := List.nodup_append.1 hnodup
  obtain ⟨rfl, rfl⟩ := eq_single_of_standIn
    (fun hmem => hdisjoint _ hmem _ List.mem_cons_self rfl)
    (fun hmem => (List.nodup_cons.1 htail).1 (List.mem_append_right _ hmem)) hfirst
  refine .single minimum maximum rfl ?_
  by_contra hlt
  rw [not_le] at hlt
  have hlast := h (maximum - minimum + 1) hlt maximum (entryFor_beyond hle (Nat.lt_succ_self _))
  have hbeyond : standIn [.range minimum maximum] (maximum - minimum + 1) = 0xffffffff :=
    standIn_beyond (Nat.lt_succ_self _)
  have hmem : minimum + (maximum - minimum) ∈ entries [.range minimum maximum] :=
    mem_entries_of_range List.mem_cons_self le_rfl
  rw [Nat.add_sub_cancel' hle] at hmem
  exact hmax (hbeyond.symm.trans hlast ▸ hmem)

/-- **When the controls get the declared usages.**  The items between two main items declare the
usages `ds`.  The controls of the Input item that follows get them if the declarations are
supported for its number of controls, and only then if all declared usages are different and none
is `UINT32_MAX`. -/
theorem usage_assignment {s s' : ParserState} {items : List Item} {ds : List Declaration}
    (hlocals : s.locals = {}) (h : Declares s none items ds s') :
    (Supported ds s'.global.count → Assigned ds s') ∧
    ((entries ds).Nodup → 0xffffffff ∉ entries ds →
      (Assigned ds s' ↔ Supported ds s'.global.count)) := by
  have hproper := proper_of_declares h
  have hreceives {i u : ℕ} : Receives s' i u ↔ standIn ds i = u :=
    receives_iff (locals_of_declares h (l := {}) hlocals) fun minimum maximum hlast =>
      hproper minimum maximum (lastRange_mem hlast)
  have hsupported (hsupp : Supported ds s'.global.count) : Assigned ds s' :=
    fun i hi u hu => hreceives.2 (hsupp.standIn hi hu)
  refine ⟨hsupported, fun hnodup hmax => ⟨fun hassigned => ?_, hsupported⟩⟩
  exact supported_of_standIn hproper hnodup hmax fun i hi u hu => hreceives.1 (hassigned i hi u hu)

/-- The parser after Usage Page (Button), Usage Minimum (1), Usage Maximum (3) and Report Count. -/
def afterButtons (count : ℕ) : ParserState where
  global := { page := 9, count }
  locals := { minimum := 0x90001, maximum := 0x90003, hasMinimum := true, hasMaximum := true }

/-- Three controls get the buttons 1 to 3; of five controls the last two do not get button 3. -/
theorem usage_assignment_buttons : Assigned [.range 0x90001 0x90003] (afterButtons 3) ∧
    ¬Assigned [.range 0x90001 0x90003] (afterButtons 5) := by
  have h (count : ℕ) : Declares {} none
      [.short 1 0 1 9, .short 2 1 1 1, .short 2 2 1 3, .short 1 9 1 count]
      [.range 0x90001 0x90003] (afterButtons count) :=
    .global rfl (.minimum rfl (.toMaximum rfl (by decide) (.global rfl (.nil _))))
  refine ⟨(usage_assignment rfl (h 3)).1 (.single _ _ rfl (by decide)), fun hassigned => ?_⟩
  cases ((usage_assignment rfl (h 5)).2 (by decide) (by decide)).1 hassigned with
  | explicit hall =>
    obtain ⟨u, heq⟩ := hall _ List.mem_cons_self
    cases heq
  | leading hn => exact absurd hn (by decide)
  | single minimum maximum heq hn =>
    cases heq
    exact absurd hn (by decide)

/-- Usage Page (Button), Usage Minimum (1), Usage Maximum (3), Usage Minimum (4), Usage
Maximum (5), Report Count (5). -/
def twoRanges : List Item :=
  [.short 1 0 1 9, .short 2 1 1 1, .short 2 2 1 3, .short 2 1 1 4, .short 2 2 1 5, .short 1 9 1 5]

/-- The parser after them. -/
def afterTwoRanges : ParserState where
  global := { page := 9, count := 5 }
  locals :=
    { minimum := 0x90004, maximum := 0x90005, hasMinimum := true, hasMaximum := true }

/-- The first button gets the first usage of the second range. -/
theorem two_ranges_misassigned : ¬∀ (s s' : ParserState) (items : List Item)
    (ds : List Declaration), s.locals = {} → Declares s none items ds s' → Assigned ds s' := by
  intro hall
  have h : Declares {} none twoRanges [.range 0x90001 0x90003, .range 0x90004 0x90005]
      afterTwoRanges :=
    .global rfl (.minimum rfl (.toMaximum rfl (by decide) (.minimum rfl (.toMaximum rfl (by decide)
      (.global rfl (.nil _))))))
  have hfirst : localUsage afterTwoRanges.locals 0 = .ok 0x90001 :=
    hall _ _ _ _ rfl h 0 (by decide) 0x90001 rfl
  exact absurd hfirst (by decide)

end BleMouse.Hid
