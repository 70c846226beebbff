/-
The parser as a run over the items of a descriptor.

A descriptor is split into items by `splitItem`, which only looks at the bytes that are
left.  The main results are `parseLoop_eq`, by which the loop of the parser never faults, and
`mouseHidParse_eq_ok_iff`: the parser accepts a byte string exactly when it reads as a list
of items along which the steps succeed.
-/
import BleMouse.Hid.Items

namespace BleMouse.Hid

open Checked

/-- The payload size of a short item. -/
def payloadSize (head : ℕ) : ℕ := if head % 4 = 3 then 4 else head % 4

/-- Split an item with head byte `head` off the bytes after it. -/
def splitItem (head : UInt8) (bytes : List UInt8) : Option (Item × List UInt8) :=
  if head.toNat = 0xfe then
    match bytes with
    | size :: _ :: bytes =>
      if bytes.length < size.toNat then none else some (.long, bytes.drop size.toNat)
    | _ => none
  else
    let size := payloadSize head.toNat
    if bytes.length < size then none
    else some (.short (head.toNat / 4 % 4) (head.toNat / 16) size (leBytes (bytes.take size)),
      bytes.drop size)

/-- `Reads bytes items`: the byte string is the concatenation of the items. -/
inductive Reads : List UInt8 → List Item → Prop
  | nil : Reads [] []
  | cons {head : UInt8} {bytes rest : List UInt8} {item : Item} {items : List Item}
      (hsplit : splitItem head bytes = some (item, rest)) (hrest : Reads rest items) :
      Reads (head :: bytes) (item :: items)

lemma splitItem_length {head : UInt8} {bytes rest : List UInt8} {item : Item}
    (h : splitItem head bytes = some (item, rest)) : rest.length ≤ bytes.length := by
  unfold splitItem at h
  split at h
  · split at h
    · split at h
      · cases h
      · cases h
        simp only [List.length_drop, List.length_cons]
        omega
    · cases h
  · dsimp only at h
    split at h
    · cases h
    · cases h
      simp only [List.length_drop]
      omega

lemma splitItem_valid {head : UInt8} {bytes rest : List UInt8} {item : Item}
    (h : splitItem head bytes = some (item, rest)) : item.Valid := by
  unfold splitItem at h
  split at h
  · split at h
    · split at h
      · cases h
      · cases h
        trivial
    · cases h
  · dsimp only at h
    split at h
    · cases h
    · rename_i hlen
      cases h
      have hvalue := leBytes_lt (bytes.take (payloadSize head.toNat))
      rw [List.length_take, Nat.min_eq_left (by omega)] at hvalue
      refine ⟨?_, hvalue⟩
      unfold payloadSize
      split <;> omega

/-- `readItem` reads the item that `splitItem` splits off the bytes at the offset. -/
lemma readItem_eq {data : List UInt8} {offset : ℕ} {head : UInt8} {bytes : List UInt8}
    (h : data.drop offset = head :: bytes) :
    readItem data offset = match splitItem head bytes with
      | none => fail .eInval
      | some (item, rest) => .ok (item, data.length - rest.length) := by
  have hlt : offset < data.length := by
    by_contra hge
    rw [List.drop_eq_nil_of_le (by omega)] at h
    cases h
  have hcons := List.drop_eq_getElem_cons hlt
  rw [h] at hcons
  injection hcons with hhead hbytes
  have hlen : bytes.length = data.length - (offset + 1) := by rw [hbytes, List.length_drop]
  unfold readItem splitItem
  rw [get_of_lt hlt, ok_bind, ← hhead]
  dsimp only
  by_cases hlong : head.toNat = 0xfe
  · rw [if_pos hlong, if_pos hlong, sub_of_le (by omega), ok_bind]
    cases hbs : bytes with
    | nil =>
      rw [if_pos (by rw [← hlen, hbs]; simp)]
    | cons size tail =>
      have hsize : data[offset + 1]? = some size := by
        rw [← Nat.add_zero (offset + 1), ← List.getElem?_drop, ← hbytes, hbs]
        rfl
      cases tail with
      | nil => rw [if_pos (by rw [← hlen, hbs]; simp)]
      | cons tag tail =>
        have htail : data.length = offset + 3 + tail.length := by
          rw [hbs] at hlen
          simp only [List.length_cons] at hlen
          omega
        rw [if_neg (by omega), get_eq hsize, ok_bind, sub_of_le (by omega), ok_bind]
        have hroom : data.length - (offset + 1) - 2 = tail.length := by omega
        rw [hroom]
        dsimp only
        by_cases hskip : tail.length < size.toNat
        · rw [if_pos hskip, if_pos hskip]
        · rw [if_neg hskip, if_neg hskip]
          dsimp only
          rw [List.length_drop]
          have hnext : offset + 1 + 2 + size.toNat = data.length - (tail.length - size.toNat) := by
            omega
          rw [hnext]
          rfl
  · rw [if_neg hlong, if_neg hlong, ← payloadSize, sub_of_le (by omega), ok_bind, ← hlen]
    by_cases hshort : bytes.length < payloadSize head.toNat
    · rw [if_pos hshort, if_pos hshort]
    · have hsize : payloadSize head.toNat ≤ 4 := by
        unfold payloadSize
        split <;> omega
      rw [if_neg hshort, if_neg hshort, unsignedItem_eq hsize (by omega), ok_bind, ← hbytes]
      dsimp only
      rw [List.length_drop]
      have hnext : offset + 1 + payloadSize head.toNat
          = data.length - (bytes.length - payloadSize head.toNat) := by
        omega
      rw [hnext]
      rfl

/-! ### The loop -/

/-- The loop of the parser on the bytes that are left. -/
def parseBytes : List UInt8 → ParserState → Except Errno ParserState
  | [], s => .ok s
  | head :: bytes, s =>
    match _hsplit : splitItem head bytes with
    | none => .error .eInval
    | some (item, rest) => do
      let s ← s.step item
      parseBytes rest s
termination_by bytes => bytes.length
decreasing_by exact Nat.lt_succ_of_le (splitItem_length ‹_›)

lemma parseBytes_cons (head : UInt8) (bytes : List UInt8) (s : ParserState) :
    parseBytes (head :: bytes) s = match splitItem head bytes with
      | none => .error .eInval
      | some (item, rest) => s.step item >>= parseBytes rest := by
  rw [parseBytes]
  split <;> simp_all

lemma drop_length_sub {α : Type} {l rest : List α} (h : rest <:+ l) :
    l.drop (l.length - rest.length) = rest := by
  obtain ⟨front, rfl⟩ := h
  simp

lemma splitItem_suffix {head : UInt8} {bytes rest : List UInt8} {item : Item}
    (h : splitItem head bytes = some (item, rest)) : rest <:+ bytes := by
  unfold splitItem at h
  split at h
  · split at h
    · split at h
      · cases h
      · cases h
        exact ((List.drop_suffix _ _).trans (List.suffix_cons _ _)).trans (List.suffix_cons _ _)
    · cases h
  · dsimp only at h
    split at h
    · cases h
    · cases h
      exact List.drop_suffix _ _

/-- With fuel for the bytes that are left, the loop is `parseBytes`. -/
lemma parseLoop_eq {data : List UInt8} (fuel offset : ℕ) {s : ParserState} (hs : s.Bounded)
    (hoffset : offset ≤ data.length) (hfuel : data.length ≤ offset + fuel) :
    parseLoop data fuel offset s = lift (parseBytes (data.drop offset) s) := by
  induction fuel generalizing offset s with
  | zero =>
    rw [parseLoop, if_neg (by omega), List.drop_eq_nil_of_le (by omega), parseBytes]
    rfl
  | succ fuel ih =>
    rw [parseLoop]
    cases hbytes : data.drop offset with
    | nil =>
      rw [if_neg (by have := List.drop_eq_nil_iff.1 hbytes; omega), parseBytes]
      rfl
    | cons head bytes =>
      have hlen := congrArg List.length hbytes
      rw [List.length_drop, List.length_cons] at hlen
      rw [if_pos (by omega), parseBytes_cons, readItem_eq hbytes]
      cases hsplit : splitItem head bytes with
      | none => rfl
      | some result =>
        obtain ⟨item, rest⟩ := result
        have hrest := splitItem_length hsplit
        have hsuffix : rest <:+ data := by
          refine (splitItem_suffix hsplit).trans ((List.suffix_cons head bytes).trans ?_)
          rw [← hbytes]
          exact List.drop_suffix _ _
        dsimp only
        rw [ok_bind]
        dsimp only
        rw [applyItem_eq hs (splitItem_valid hsplit)]
        cases hstep : s.step item with
        | error e => rfl
        | ok s' =>
          have hloop := ih (data.length - rest.length) (step_bounded hs hstep) (by omega) (by omega)
          rw [drop_length_sub hsuffix] at hloop
          exact hloop

/-- `parseBytes` returns what the steps along the items of the byte string return. -/
lemma parseBytes_eq_ok_iff {bytes : List UInt8} {s s' : ParserState} :
    parseBytes bytes s = .ok s' ↔
      ∃ items, Reads bytes items ∧ items.foldlM ParserState.step s = .ok s' := by
  constructor
  · intro h
    induction bytes, s using parseBytes.induct with
    | case1 s =>
      rw [parseBytes] at h
      exact ⟨[], .nil, h⟩
    | case2 head bytes s hsplit =>
      rw [parseBytes_cons, hsplit] at h
      cases h
    | case3 head bytes s item rest hsplit ih =>
      rw [parseBytes_cons, hsplit] at h
      dsimp only at h
      cases hstep : s.step item with
      | error e =>
        rw [hstep] at h
        cases h
      | ok t =>
        rw [hstep] at h
        obtain ⟨items, hreads, hrun⟩ := ih t h
        refine ⟨item :: items, .cons hsplit hreads, ?_⟩
        rw [List.foldlM_cons, hstep]
        exact hrun
  · rintro ⟨items, hreads, hrun⟩
    induction hreads generalizing s with
    | nil =>
      rw [parseBytes]
      exact hrun
    | cons hsplit hrest ih =>
      rename_i item items
      rw [parseBytes_cons, hsplit]
      dsimp only
      rw [List.foldlM_cons] at hrun
      cases hstep : s.step item with
      | error e =>
        rw [hstep] at hrun
        cases hrun
      | ok t =>
        rw [hstep] at hrun
        exact ih hrun

lemma run_bounded {items : List Item} {s s' : ParserState} (hs : s.Bounded)
    (h : items.foldlM ParserState.step s = .ok s') : s'.Bounded := by
  induction items generalizing s with
  | nil =>
    cases h
    exact hs
  | cons item items ih =>
    rw [List.foldlM_cons] at h
    cases hstep : s.step item with
    | error e =>
      rw [hstep] at h
      cases h
    | ok t =>
      rw [hstep] at h
      exact ih (step_bounded hs hstep) h

/-- The parser without its checks. -/
lemma mouseHidParse_eq (data : List UInt8) :
    mouseHidParse data
      = if data.length = 0 ∨ maxMapBytes < data.length then fail .eInval
        else match parseBytes data {} with
          | .error e => fail e
          | .ok s =>
            if s.collections.length ≠ 0 ∨ s.stack.length ≠ 0 then fail .eInval
            else if s.map.x ∧ s.map.y then .ok s.map
            else fail .eNotSup := by
  unfold mouseHidParse
  rw [parseLoop_eq _ 0 bounded_initial (by omega) (by omega), List.drop_zero]
  cases parseBytes data {} <;> rfl

/-- The parser accepts a byte string exactly when it has between 1 and 1024 bytes and reads
as a list of items along which the steps succeed, ending outside all collections with an
empty stack and both axes. -/
theorem mouseHidParse_eq_ok_iff {data : List UInt8} {map : MouseHidMap} :
    mouseHidParse data = .ok map ↔
      (1 ≤ data.length ∧ data.length ≤ maxMapBytes) ∧
      ∃ items s, Reads data items ∧ items.foldlM ParserState.step {} = .ok s ∧
        s.collections = [] ∧ s.stack = [] ∧ s.map.x = true ∧ s.map.y = true ∧ s.map = map := by
  rw [mouseHidParse_eq]
  constructor
  · intro h
    split at h
    · cases h
    · rename_i hlen
      refine ⟨by omega, ?_⟩
      split at h
      · cases h
      · rename_i s hs
        obtain ⟨items, hreads, hrun⟩ := parseBytes_eq_ok_iff.1 hs
        split at h
        · cases h
        · rename_i hempty
          split at h
          · rename_i haxes
            cases h
            rw [not_or, not_not, not_not, List.length_eq_zero_iff,
              List.length_eq_zero_iff] at hempty
            exact ⟨items, s, hreads, hrun, hempty.1, hempty.2, haxes.1, haxes.2, rfl⟩
          · cases h
  · rintro ⟨hlen, items, s, hreads, hrun, hcollections, hstack, hx, hy, rfl⟩
    rw [if_neg (by omega), parseBytes_eq_ok_iff.2 ⟨items, hreads, hrun⟩]
    dsimp only
    rw [hcollections, hstack, hx, hy]
    rfl

/-! ### A descriptor -/

/-- A mouse with one button, seven bits of padding and two axes in report 7. -/
def plainMouse : List UInt8 :=
  [0x05, 0x01, 0x09, 0x02, 0xa1, 0x01, 0x85, 0x07,
    0x05, 0x09, 0x09, 0x01, 0x75, 0x01, 0x95, 0x01, 0x81, 0x02, 0x95, 0x07, 0x81, 0x01,
    0x05, 0x01, 0x09, 0x30, 0x09, 0x31, 0x15, 0x81, 0x75, 0x08, 0x95, 0x02, 0x81, 0x06, 0xc0]

/-- Its map. -/
def plainMouseMap : MouseHidMap where
  reports := [{ bits := 24, id := 7, buttons := 1, useful := true }]
  fields :=
    [{ bit := 0, size := 1, report := 0, usage := .button, button := 0, isSigned := false },
      { bit := 8, size := 8, report := 0, usage := .x, button := 0, isSigned := true },
      { bit := 16, size := 8, report := 0, usage := .y, button := 0, isSigned := true }]
  buttons := 1
  x := true
  y := true

lemma parse_plainMouse : mouseHidParse plainMouse = .ok plainMouseMap := by decide +kernel

end BleMouse.Hid
