/-
What an item does to the variables of the parser.

The parser's computations are rewritten into forms that cannot fault: what an Input item
does to the map is `MouseHidMap.putInput`, under the checks `MouseHidMap.Fits`, and what an
item does to all the variables is `ParserState.step`.  The main results are `applyItem_eq`,
which says that the two agree while the capacities of the arrays are respected, and
`step_bounded`, which says that an item leaves them respected.
-/
import BleMouse.Hid.Parser
import BleMouse.Lib.BitField

namespace BleMouse.Hid

open Checked

/-! ### Values -/

/-- The usage `local_usage` resolves for a control. -/
def LocalState.usage (l : LocalState) (index : ℕ) : ℕ :=
  if index < l.usages.length then l.usages.getD index 0
  else if l.hasMinimum && l.hasMaximum && decide (l.minimum ≤ l.maximum)
      && decide (index ≤ l.maximum - l.minimum) then l.minimum + index
  else if l.usages.length ≠ 0 then l.usages.getD (l.usages.length - 1) 0
  else 0xffffffff

lemma localUsage_eq (l : LocalState) (index : ℕ) : localUsage l index = .ok (l.usage index) := by
  have hget : ∀ i < l.usages.length, (get l.usages i : Parse ℕ) = .ok (l.usages.getD i 0) := by
    intro i hi
    simp [get_of_lt hi, List.getD_eq_getElem?_getD, hi]
  have hfallback : (if l.usages.length ≠ 0 then do
        let last ← sub l.usages.length 1
        get l.usages last
      else return 0xffffffff : Parse ℕ)
      = .ok (if l.usages.length ≠ 0 then l.usages.getD (l.usages.length - 1) 0
          else 0xffffffff) := by
    split
    · rw [sub_of_le (by omega), ok_bind, hget _ (by omega)]
    · rfl
  unfold localUsage LocalState.usage
  simp only [hfallback]
  split
  · exact hget index ‹_›
  · split
    · rename_i hrange
      simp only [Bool.and_eq_true, decide_eq_true_eq] at hrange
      rw [sub_of_le hrange.2, ok_bind]
      simp only [hrange, Bool.true_and, Bool.and_true, decide_true, decide_eq_true_eq]
      split <;> rfl
    · rename_i hrange
      simp only [Bool.eq_false_of_not_eq_true hrange, Bool.false_and]
      rfl

/-- The little-endian value of a byte string. -/
def leBytes : List UInt8 → ℕ
  | [] => 0
  | byte :: bytes => byte.toNat + 256 * leBytes bytes

lemma leBytes_append (a : List UInt8) (byte : UInt8) :
    leBytes (a ++ [byte]) = leBytes a + 2 ^ (8 * a.length) * byte.toNat := by
  induction a with
  | nil => simp [leBytes]
  | cons b a ih =>
    rw [List.cons_append, leBytes, ih, leBytes, List.length_cons, Nat.mul_succ, pow_add]
    ring

lemma leBytes_lt (a : List UInt8) : leBytes a < 2 ^ (8 * a.length) := by
  induction a with
  | nil => simp [leBytes]
  | cons b a ih =>
    have hb : b.toNat < 256 := b.toNat_lt
    rw [leBytes, List.length_cons, Nat.mul_succ, pow_add]
    omega

lemma unsignedItem_eq {data : List UInt8} {offset size : ℕ} (hsize : size ≤ 4)
    (h : offset + size ≤ data.length) :
    unsignedItem data offset size = .ok (leBytes ((data.drop offset).take size)) := by
  induction size with
  | zero => rfl
  | succ n ih =>
    have hlt : offset + n < data.length := by omega
    have htake : (data.drop offset).take (n + 1)
        = (data.drop offset).take n ++ [data[offset + n]] := by
      rw [List.take_add_one, List.getElem?_drop, List.getElem?_eq_getElem hlt]
      rfl
    have hlen : ((data.drop offset).take n).length = n := by
      rw [List.length_take, List.length_drop]
      omega
    have hbyte : data[offset + n].toNat < 2 ^ 8 := data[offset + n].toNat_lt
    have hlow := leBytes_lt ((data.drop offset).take n)
    rw [hlen] at hlow
    have hshift : data[offset + n].toNat <<< (8 * n) % 2 ^ 32
        = 2 ^ (8 * n) * data[offset + n].toNat := by
      rw [Nat.shiftLeft_eq, Nat.mul_comm]
      apply Nat.mod_eq_of_lt
      calc 2 ^ (8 * n) * data[offset + n].toNat < 2 ^ (8 * n) * 2 ^ 8 :=
            Nat.mul_lt_mul_of_pos_left hbyte (by positivity)
        _ = 2 ^ (8 * n + 8) := by rw [pow_add]
        _ ≤ 2 ^ 32 := Nat.pow_le_pow_right (by omega) (by omega)
    have hloop : unsignedItem data offset (n + 1) = (unsignedItem data offset n >>= fun result => do
        let byte ← get data (offset + n)
        let shifted ← shl32 byte.toNat (8 * n)
        return result ||| shifted) := by
      unfold unsignedItem
      rw [List.range_succ, List.foldlM_append]
      simp only [List.foldlM_cons, List.foldlM_nil, bind_pure]
    rw [hloop, ih (by omega) (by omega), ok_bind, get_of_lt hlt, ok_bind,
      shl32_of_lt _ (by omega), ok_bind, hshift, htake, leBytes_append, hlen,
      Nat.add_comm (leBytes _), Nat.two_pow_add_eq_or_of_lt hlow, Nat.or_comm]
    rfl

lemma toInt32_of_lt {v : ℕ} (h : v < 2 ^ 31) : toInt32 v = v := by
  unfold toInt32
  apply Int.bmod_eq_of_le <;> push_cast <;> omega

lemma signedBits_eq {value bits : ℕ} (hpos : 1 ≤ bits) (hbits : bits ≤ 32)
    (h : value < 2 ^ bits) : signedBits value bits = .ok ((value : ℤ).bmod (2 ^ bits)) := by
  obtain ⟨k, rfl⟩ : ∃ k, bits = k + 1 := ⟨bits - 1, by omega⟩
  unfold signedBits
  split
  · rename_i h32
    rw [h32]
    rfl
  · have hk : 2 ^ (k + 1) ≤ 2 ^ 31 := Nat.pow_le_pow_right (by omega) (by omega)
    have hpow : 2 ^ (k + 1) = 2 * 2 ^ k := by ring
    have hxor : value ^^^ 2 ^ k < 2 ^ (k + 1) := by
      apply Nat.xor_lt_two_pow h
      rw [hpow]
      have : 0 < 2 ^ k := by positivity
      omega
    rw [sub_of_le hpos, ok_bind, Nat.add_sub_cancel, shl32_of_lt _ (by omega), ok_bind,
      Nat.one_shiftLeft, Nat.mod_eq_of_lt (by omega), toInt32_of_lt (by omega),
      toInt32_of_lt (by omega), BitField.bmod_eq_xor_sub h]
    exact signed_of_mem (by omega)

/-! ### Input items -/

/-- An Input item with the state in force at it. -/
structure InputItem where
  global : GlobalState
  locals : LocalState
  flags : ℕ
  inMouse : Bool

namespace InputItem

variable (x : InputItem)

/-- The number of bits the item adds to its report. -/
def bits : ℕ := x.global.size * x.global.count

/-- Neither constant nor an array. -/
def isVariable : Bool := !x.flags.testBit 0 && x.flags.testBit 1

/-- What control `i` of the item is recognised as. -/
def control (i : ℕ) : Option (MouseHidUsage × ℕ) :=
  recognise x.inMouse (x.flags.testBit 2) (x.locals.usage i >>> 16 % 2 ^ 16)
    (x.locals.usage i % 2 ^ 16)

/-- The field of control `i`, if the item starts at bit `start` of the report `report`. -/
def fieldAt (report start i : ℕ) : Option MouseHidField :=
  (x.control i).map fun kind =>
    { bit := start + i * x.global.size
      size := x.global.size
      report
      usage := kind.1
      button := kind.2
      isSigned := decide (x.global.minimum < 0) }

/-- The fields of the recognised controls, in order. -/
def fields (report start : ℕ) : List MouseHidField :=
  if x.isVariable then (List.range x.global.count).filterMap (x.fieldAt report start) else []

end InputItem

/-- Storing a field without the checks of `addField`. -/
def MouseHidMap.putField (map : MouseHidMap) (field : MouseHidField) : MouseHidMap :=
  let mask : BitVec 8 := if field.usage = .button then BitVec.ofNat 8 (2 ^ field.button) else 0
  { map.noteAxis field.usage with
    fields := map.fields ++ [field]
    reports := map.reports.modify field.report fun report =>
      { report with useful := true, buttons := report.buttons ||| mask }
    buttons := map.buttons ||| mask }

/-- The reports after `openReport`. -/
def MouseHidMap.opened (map : MouseHidMap) (id : ℕ) : List MouseHidReport :=
  if (mouseHidReportIndex map id).isSome then map.reports else map.reports ++ [{ id := id }]

/-- The index `openReport` returns. -/
def MouseHidMap.indexOf (map : MouseHidMap) (id : ℕ) : ℕ :=
  (mouseHidReportIndex map id).getD map.reports.length

/-- The number of bits of the report with an ID, zero if there is none. -/
def MouseHidMap.bitsOf (map : MouseHidMap) (id : ℕ) : ℕ :=
  ((map.opened id)[map.indexOf id]?.map MouseHidReport.bits).getD 0

/-- The map with the report of an Input item grown by its bits. -/
def MouseHidMap.grow (map : MouseHidMap) (x : InputItem) : MouseHidMap :=
  let reports := (map.opened x.global.id).modify (map.indexOf x.global.id) fun report =>
    { report with bits := report.bits + x.bits }
  { map with reports }

/-- What `add_input` does to the map when it does not fail. -/
def MouseHidMap.putInput (map : MouseHidMap) (x : InputItem) : MouseHidMap :=
  (x.fields (map.indexOf x.global.id) (map.bitsOf x.global.id)).foldl MouseHidMap.putField
    (map.grow x)

/-- The checks of `add_input`. -/
def MouseHidMap.Fits (map : MouseHidMap) (x : InputItem) : Prop :=
  (1 ≤ x.global.count ∧ 1 ≤ x.global.size ∧ x.global.size ≤ 32 ∧ x.bits ≤ maxReportBytes * 8) ∧
  (map.opened x.global.id).length ≤ maxReports ∧
  map.bitsOf x.global.id + x.bits ≤ maxReportBytes * 8 ∧
  map.fields.length + (x.fields (map.indexOf x.global.id) (map.bitsOf x.global.id)).length
    ≤ maxFields

instance (map : MouseHidMap) (x : InputItem) : Decidable (map.Fits x) := by
  unfold MouseHidMap.Fits
  infer_instance

/-- The capacities of the map are respected. -/
structure MouseHidMap.Bounded (map : MouseHidMap) : Prop where
  reports_le : map.reports.length ≤ maxReports
  fields_le : map.fields.length ≤ maxFields
  bits_le : ∀ report ∈ map.reports, report.bits ≤ maxReportBytes * 8

lemma noteAxis_fields (map : MouseHidMap) (usage : MouseHidUsage) :
    (map.noteAxis usage).fields = map.fields ∧ (map.noteAxis usage).reports = map.reports ∧
      (map.noteAxis usage).buttons = map.buttons := by
  cases usage <;> exact ⟨rfl, rfl, rfl⟩

lemma modify_eq_set {α : Type} {l : List α} {i : ℕ} (h : i < l.length) (f : α → α) :
    l.modify i f = l.set i (f l[i]) := by
  apply List.ext_getElem?
  intro j
  rw [List.getElem?_modify, List.getElem?_set]
  by_cases hj : i = j
  · subst hj
    simp [h]
  · simp [hj]

lemma addField_eq {map : MouseHidMap} {field : MouseHidField}
    (hreport : field.report < map.reports.length) (hbutton : field.button < 32)
    (hfields : map.fields.length ≤ maxFields) :
    addField map field
      = if map.fields.length < maxFields then .ok (map.putField field) else fail .e2Big := by
  obtain ⟨hf, hr, hb⟩ := noteAxis_fields map field.usage
  unfold addField
  simp only [hf, hr, hb]
  by_cases hlen : map.fields.length < maxFields
  · rw [if_neg hlen.ne, if_pos hlen, push_of_lt hlen, ok_bind, get_of_lt hreport, ok_bind]
    simp only [MouseHidMap.putField, modify_eq_set hreport]
    by_cases husage : field.usage = .button
    · have hmask :
          BitVec.ofNat 8 (2 ^ field.button % 2 ^ 32) = BitVec.ofNat 8 (2 ^ field.button) := by
        apply BitVec.eq_of_toNat_eq
        simp only [BitVec.toNat_ofNat]
        exact Nat.mod_mod_of_dvd _ (by norm_num)
      simp only [husage, if_true, shl32_of_lt 1 hbutton, ok_bind, Nat.one_shiftLeft, hmask]
      rfl
    · have hzero : ∀ b : BitVec 8, b ||| 0 = b := fun b => BitVec.or_zero
      simp only [husage, if_false, hzero]
      rw [← hb]
      rfl
  · rw [if_pos (by omega), if_neg hlen]

lemma recognise_button_le {inMouse relative : Bool} {page code : ℕ} {kind : MouseHidUsage × ℕ}
    (h : recognise inMouse relative page code = some kind) : kind.2 ≤ 4 := by
  unfold recognise at h
  split_ifs at h with h1 h2 h3 h4 h5 h6 h7 <;> cases h
  all_goals simp only
  all_goals omega

lemma addControl_eq (x : InputItem) (report start : ℕ) (map : MouseHidMap) (i : ℕ) :
    addControl x.global x.locals x.flags x.inMouse report start map i
      = match x.fieldAt report start i with
        | none => .ok map
        | some field => addField map field := by
  unfold addControl InputItem.fieldAt InputItem.control
  rw [localUsage_eq, ok_bind]
  dsimp only
  cases recognise x.inMouse (x.flags.testBit 2) (x.locals.usage i >>> 16 % 2 ^ 16)
    (x.locals.usage i % 2 ^ 16) <;> rfl

lemma fieldAt_some {x : InputItem} {report start i : ℕ} {field : MouseHidField}
    (h : x.fieldAt report start i = some field) : field.report = report ∧ field.button ≤ 4 := by
  unfold InputItem.fieldAt at h
  rw [Option.map_eq_some_iff] at h
  obtain ⟨kind, hkind, rfl⟩ := h
  exact ⟨rfl, recognise_button_le hkind⟩

@[simp] lemma putField_fields (map : MouseHidMap) (field : MouseHidField) :
    (map.putField field).fields = map.fields ++ [field] := rfl

lemma putField_reports (map : MouseHidMap) (field : MouseHidField) :
    ∃ f : MouseHidReport → MouseHidReport, (∀ r, (f r).bits = r.bits ∧ (f r).id = r.id) ∧
      (map.putField field).reports = map.reports.modify field.report f := by
  refine ⟨_, fun r => ⟨?_, ?_⟩, rfl⟩ <;> rfl

@[simp] lemma putField_reports_length (map : MouseHidMap) (field : MouseHidField) :
    (map.putField field).reports.length = map.reports.length := by
  simp [MouseHidMap.putField]

/-- The loop over the controls stores the recognised fields while there is room for them. -/
lemma foldlM_addControl (x : InputItem) {report : ℕ} (start : ℕ) (l : List ℕ)
    (map : MouseHidMap) (hreport : report < map.reports.length)
    (hfields : map.fields.length ≤ maxFields) :
    l.foldlM (addControl x.global x.locals x.flags x.inMouse report start) map
      = if map.fields.length + (l.filterMap (x.fieldAt report start)).length ≤ maxFields then
          .ok ((l.filterMap (x.fieldAt report start)).foldl MouseHidMap.putField map)
        else fail .e2Big := by
  induction l generalizing map with
  | nil => simp [hfields]; rfl
  | cons i l ih =>
    rw [List.foldlM_cons, addControl_eq]
    cases hfield : x.fieldAt report start i with
    | none =>
      rw [List.filterMap_cons_none hfield]
      exact ih map hreport hfields
    | some field =>
      obtain ⟨hr, hb⟩ := fieldAt_some hfield
      rw [List.filterMap_cons_some hfield]
      simp only [addField_eq (hr ▸ hreport) (by omega : field.button < 32) hfields]
      by_cases hroom : map.fields.length < maxFields
      · rw [if_pos hroom, ok_bind, ih _ (by simpa using hreport) (by simpa using hroom)]
        have hlen : (map.putField field).fields.length
              + (l.filterMap (x.fieldAt report start)).length
            = map.fields.length + (field :: l.filterMap (x.fieldAt report start)).length := by
          simp only [putField_fields, List.length_append, List.length_cons, List.length_nil]
          omega
        rw [hlen, List.foldl_cons]
      · rw [if_neg hroom, fail_bind, if_neg]
        rw [List.length_cons]
        omega

lemma findIdx?_lt {α : Type} {l : List α} {p : α → Bool} {i : ℕ} (h : l.findIdx? p = some i) :
    i < l.length := by
  rw [List.findIdx?_eq_some_iff_getElem] at h
  exact h.choose

lemma indexOf_lt_opened (map : MouseHidMap) (id : ℕ) : map.indexOf id < (map.opened id).length := by
  unfold MouseHidMap.indexOf MouseHidMap.opened
  cases h : mouseHidReportIndex map id with
  | none => simp
  | some i => simpa using findIdx?_lt h

lemma openReport_eq {map : MouseHidMap} (hreports : map.reports.length ≤ maxReports) (id : ℕ) :
    openReport map id
      = if (map.opened id).length ≤ maxReports then
          .ok (map.indexOf id, { map with reports := map.opened id })
        else fail .e2Big := by
  unfold openReport MouseHidMap.indexOf MouseHidMap.opened
  cases h : mouseHidReportIndex map id with
  | some i => simp [hreports]; rfl
  | none =>
    simp only [Option.isSome_none, Bool.false_eq_true, if_false, List.length_append,
      List.length_singleton, Option.getD_none]
    by_cases hlen : map.reports.length = maxReports
    · rw [if_pos hlen, if_neg (by omega)]
    · rw [if_neg hlen, if_pos (by omega), push_of_lt (by omega), ok_bind]
      rfl

lemma bits_le_opened {map : MouseHidMap} (h : map.Bounded) (id : ℕ) :
    ∀ report ∈ map.opened id, report.bits ≤ maxReportBytes * 8 := by
  intro report hmem
  unfold MouseHidMap.opened at hmem
  split at hmem
  · exact h.bits_le report hmem
  · rcases List.mem_append.1 hmem with hmem | hmem
    · exact h.bits_le report hmem
    · rw [List.mem_singleton.1 hmem]
      exact Nat.zero_le _

lemma bitsOf_eq {map : MouseHidMap} {id : ℕ} (h : map.indexOf id < (map.opened id).length) :
    map.bitsOf id = (map.opened id)[map.indexOf id].bits := by
  simp [MouseHidMap.bitsOf, List.getElem?_eq_getElem h]

/-- `add_input` stores what `putInput` says when its checks pass, and fails otherwise. -/
lemma addInput_eq {map : MouseHidMap} (h : map.Bounded) (x : InputItem) :
    addInput map x.global x.locals x.flags x.inMouse
      = if map.Fits x then .ok (map.putInput x) else fail .e2Big := by
  unfold addInput
  by_cases hsize : x.global.count = 0 ∨ x.global.size = 0 ∨ 32 < x.global.size
  · rw [if_pos hsize, if_neg]
    rintro ⟨⟨h1, h2, h3, -⟩, -⟩
    omega
  rw [if_neg hsize, div_of_ne (by omega), ok_bind]
  by_cases hmost : maxReportBytes * 8 / x.global.size < x.global.count
  · rw [if_pos hmost, if_neg]
    rintro ⟨⟨-, -, -, h4⟩, -⟩
    have hcount : x.global.count * x.global.size ≤ maxReportBytes * 8 := by
      rw [Nat.mul_comm]
      exact h4
    have := (Nat.le_div_iff_mul_le (by omega : 0 < x.global.size)).2 hcount
    omega
  have hbits : x.bits ≤ maxReportBytes * 8 := by
    have := (Nat.le_div_iff_mul_le (by omega : 0 < x.global.size)).1 (not_lt.1 hmost)
    rwa [Nat.mul_comm] at this
  rw [if_neg hmost, openReport_eq h.reports_le]
  by_cases hopen : (map.opened x.global.id).length ≤ maxReports
  swap
  · rw [if_neg hopen, fail_bind, if_neg]
    rintro ⟨-, h5, -⟩
    exact hopen h5
  have hidx := indexOf_lt_opened map x.global.id
  have hle : map.bitsOf x.global.id ≤ maxReportBytes * 8 := by
    rw [bitsOf_eq hidx]
    exact bits_le_opened h _ _ (List.getElem_mem _)
  rw [if_pos hopen, ok_bind]
  simp only [get_of_lt hidx, ok_bind]
  rw [← bitsOf_eq hidx, sub_of_le hle, ok_bind, ← InputItem.bits]
  by_cases hroom : maxReportBytes * 8 - map.bitsOf x.global.id < x.bits
  · rw [if_pos hroom, if_neg]
    rintro ⟨-, -, h6, -⟩
    omega
  rw [if_neg hroom, bitsOf_eq hidx,
    ← modify_eq_set hidx (fun report => { report with bits := report.bits + x.bits }),
    ← bitsOf_eq hidx]
  have hfit : map.Fits x ↔ map.fields.length +
      (x.fields (map.indexOf x.global.id) (map.bitsOf x.global.id)).length ≤ maxFields := by
    constructor
    · exact fun hfits => hfits.2.2.2
    · exact fun hlen => ⟨⟨by omega, by omega, by omega, hbits⟩, hopen, by omega, hlen⟩
  simp only [hfit, MouseHidMap.putInput]
  by_cases hvar : x.isVariable = true
  · have hflags : ¬(x.flags.testBit 0 ∨ ¬x.flags.testBit 1) := by
      simpa [InputItem.isVariable] using hvar
    have hloop := foldlM_addControl x (map.bitsOf x.global.id) (List.range x.global.count)
      (map.grow x) (by simpa [MouseHidMap.grow] using hidx) h.fields_le
    rw [if_neg hflags]
    simp only [InputItem.fields, hvar, if_true]
    exact hloop
  · have hflags : x.flags.testBit 0 ∨ ¬x.flags.testBit 1 := by
      cases h0 : x.flags.testBit 0 with
      | true => simp
      | false => simpa [InputItem.isVariable, h0] using hvar
    rw [if_pos hflags]
    simp only [InputItem.fields, hvar, if_false, List.length_nil, List.foldl_nil, Nat.add_zero,
      h.fields_le, if_true, Bool.false_eq_true]
    rfl

/-! ### Items -/

/-- A computation without faults as a computation of the parser. -/
def lift {α : Type} : Except Errno α → Parse α
  | .ok a => .ok a
  | .error e => fail e

namespace ParserState

variable (s : ParserState)

/-- The innermost open collection is a mouse, or part of one. -/
def inMouse : Bool := s.collections.getLast?.getD false

/-- The Input item with flags `flags` in the present state. -/
def input (flags : ℕ) : InputItem := ⟨s.global, s.locals, flags, s.inMouse⟩

/-- A global item. -/
def globalStep (tag size value : ℕ) : Except Errno ParserState :=
  match tag with
  | 0 =>
    if 0xffff < value then .error .eInval
    else .ok { s with global := { s.global with page := value } }
  | 1 =>
    if size = 0 then .error .eInval
    else .ok { s with global := { s.global with minimum := (value : ℤ).bmod (2 ^ (size * 8)) } }
  | 7 => .ok { s with global := { s.global with size := value } }
  | 8 =>
    if value = 0 ∨ 255 < value then .error .eInval
    else .ok { s with global := { s.global with id := value } }
  | 9 => .ok { s with global := { s.global with count := value } }
  | 10 =>
    if s.stack.length = stackDepth then .error .e2Big
    else .ok { s with stack := s.stack ++ [s.global] }
  | 11 =>
    match s.stack.getLast? with
    | none => .error .eInval
    | some global => .ok { s with global, stack := s.stack.dropLast }
  | _ => .ok s

/-- The usage a local item denotes. -/
def itemUsage (size value : ℕ) : ℕ :=
  if size = 4 then value else s.global.page <<< 16 % 2 ^ 32 ||| value

/-- A local item. -/
def localStep (tag size value : ℕ) : Except Errno ParserState :=
  match tag with
  | 0 =>
    if s.locals.usages.length = localUsages then .error .e2Big
    else .ok { s with locals :=
      { s.locals with usages := s.locals.usages ++ [s.itemUsage size value] } }
  | 1 => .ok { s with locals :=
      { s.locals with minimum := s.itemUsage size value, hasMinimum := true } }
  | 2 => .ok { s with locals :=
      { s.locals with maximum := s.itemUsage size value, hasMaximum := true } }
  | 10 => .error .eNotSup
  | _ => .ok s

/-- A main item, before the local state is reset. -/
def mainStep (tag value : ℕ) : Except Errno ParserState :=
  match tag with
  | 10 =>
    if s.collections.length = stackDepth then .error .e2Big
    else .ok { s with collections := s.collections ++
      [if value = 1 then s.locals.usage 0 == 0x00010002 else s.inMouse] }
  | 12 =>
    if s.collections = [] then .error .eInval
    else .ok { s with collections := s.collections.dropLast }
  | 8 =>
    if s.map.Fits (s.input value) then .ok { s with map := s.map.putInput (s.input value) }
    else .error .e2Big
  | _ => .ok s

/-- An item. -/
def step : Item → Except Errno ParserState
  | .long => .ok s
  | .short type tag size value =>
    if type = 1 then s.globalStep tag size value
    else if type = 2 then s.localStep tag size value
    else if type = 0 then (s.mainStep tag value).map fun s' => { s' with locals := {} }
    else .ok s

end ParserState

/-- The capacities of the parser's arrays are respected. -/
structure ParserState.Bounded (s : ParserState) : Prop where
  map : s.map.Bounded
  stack_le : s.stack.length ≤ stackDepth
  collections_le : s.collections.length ≤ stackDepth
  usages_le : s.locals.usages.length ≤ localUsages

/-- The payload of a short item is 0, 1, 2 or 4 bytes and bounds its value. -/
def Item.Valid : Item → Prop
  | .long => True
  | .short _ _ size value => (size ≤ 2 ∨ size = 4) ∧ value < 2 ^ (8 * size)

lemma get_pred {α : Type} {l : List α} (h : l ≠ []) :
    (get l (l.length - 1) : Parse α) = .ok (l.getLast h) := by
  have hlen := List.length_pos_iff.2 h
  rw [get_of_lt (by omega), List.getLast_eq_getElem]

lemma innermost_eq (s : ParserState) : innermost s.collections = .ok s.inMouse := by
  unfold innermost ParserState.inMouse
  by_cases h : s.collections = []
  · rw [h]
    rfl
  · have hlen := List.length_pos_iff.2 h
    rw [if_neg (by omega), sub_of_le (by omega), ok_bind, get_pred h,
      List.getLast?_eq_some_getLast h]
    rfl

lemma globalItem_eq {s : ParserState} (hs : s.Bounded) {tag size value : ℕ}
    (hsize : size ≤ 4) (hvalue : value < 2 ^ (8 * size)) :
    globalItem s tag size value = lift (s.globalStep tag size value) := by
  unfold globalItem ParserState.globalStep
  split
  · split <;> rfl
  · split
    · rfl
    · rw [Nat.mul_comm] at hvalue
      rw [signedBits_eq (by omega) (by omega) hvalue]
      rfl
  · rfl
  · split <;> rfl
  · rfl
  · split
    · rfl
    · have := hs.stack_le
      rw [push_of_lt (by omega)]
      rfl
  · by_cases h : s.stack = []
    · simp [h]
      rfl
    · have hlen := List.length_pos_iff.2 h
      rw [if_neg (by omega), sub_of_le (by omega), ok_bind, get_pred h, ok_bind,
        List.getLast?_eq_some_getLast h, ← List.dropLast_eq_take]
      rfl
  -- the other tags change nothing
  · simp_all [lift, pure, Except.pure]

lemma localItem_eq {s : ParserState} (hs : s.Bounded) (tag size value : ℕ) :
    localItem s tag size value = lift (s.localStep tag size value) := by
  unfold localItem ParserState.localStep ParserState.itemUsage
  rw [shl32_of_lt _ (by omega), ok_bind]
  dsimp only
  split
  · split
    · rfl
    · have := hs.usages_le
      rw [push_of_lt (by omega)]
      rfl
  · rfl
  · rfl
  · rfl
  · simp_all [lift, pure, Except.pure]

lemma mainItem_eq {s : ParserState} (hs : s.Bounded) (tag value : ℕ) :
    mainItem s tag value = lift (s.mainStep tag value) := by
  unfold mainItem ParserState.mainStep
  split
  · split
    · rfl
    · have := hs.collections_le
      rw [innermost_eq, ok_bind, localUsage_eq, ok_bind]
      dsimp only
      rw [push_of_lt (by omega)]
      rfl
  · by_cases h : s.collections = []
    · simp [h]
      rfl
    · have hlen := List.length_pos_iff.2 h
      rw [if_neg (by omega), sub_of_le (by omega), ok_bind, if_neg h, ← List.dropLast_eq_take]
      rfl
  · rw [innermost_eq, ok_bind]
    have hinput : addInput s.map s.global s.locals value s.inMouse
        = if s.map.Fits (s.input value) then .ok (s.map.putInput (s.input value))
          else fail .e2Big :=
      addInput_eq hs.map (s.input value)
    rw [hinput]
    by_cases hfits : s.map.Fits (s.input value)
    · simp only [hfits, if_true, ok_bind]
      rfl
    · simp only [hfits, if_false, fail_bind]
      rfl
  · simp_all [lift, pure, Except.pure]

lemma applyItem_eq {s : ParserState} (hs : s.Bounded) {item : Item} (hitem : item.Valid) :
    applyItem s item = lift (s.step item) := by
  cases item with
  | long => rfl
  | short type tag size value =>
    obtain ⟨hsize, hvalue⟩ := hitem
    dsimp only [applyItem, ParserState.step]
    split
    · exact globalItem_eq hs (by omega) hvalue
    · split
      · exact localItem_eq hs tag size value
      · split
        · rw [mainItem_eq hs]
          cases s.mainStep tag value <;> rfl
        · rfl

/-! ### Capacities -/

lemma putField_bounded {map : MouseHidMap} (h : map.Bounded) {field : MouseHidField}
    (hfields : map.fields.length < maxFields) : (map.putField field).Bounded := by
  obtain ⟨f, hf, hreports⟩ := putField_reports map field
  constructor
  · rw [putField_reports_length]
    exact h.reports_le
  · rw [putField_fields, List.length_append]
    exact hfields
  · intro report hmem
    rw [hreports] at hmem
    obtain ⟨i, hi, rfl⟩ := List.mem_iff_getElem.1 hmem
    rw [List.length_modify] at hi
    rw [List.getElem_modify]
    have hbits := h.bits_le _ (List.getElem_mem hi)
    split
    · rw [(hf _).1]
      exact hbits
    · exact hbits

lemma foldl_putField_bounded (fields : List MouseHidField) {map : MouseHidMap} (h : map.Bounded)
    (hfields : map.fields.length + fields.length ≤ maxFields) :
    (fields.foldl MouseHidMap.putField map).Bounded := by
  induction fields generalizing map with
  | nil => exact h
  | cons field fields ih =>
    rw [List.length_cons] at hfields
    apply ih (putField_bounded h (by omega))
    rw [putField_fields, List.length_append, List.length_singleton]
    omega

lemma putInput_bounded {map : MouseHidMap} (h : map.Bounded) {x : InputItem} (hx : map.Fits x) :
    (map.putInput x).Bounded := by
  obtain ⟨-, hopened, hbits, hfields⟩ := hx
  have hgrow : (map.grow x).Bounded := by
    constructor
    · simpa [MouseHidMap.grow] using hopened
    · exact h.fields_le
    · intro report hmem
      obtain ⟨i, hi, rfl⟩ := List.mem_iff_getElem.1 hmem
      simp only [MouseHidMap.grow, List.getElem_modify, List.length_modify] at hi ⊢
      split
      · rename_i hidx
        subst hidx
        rwa [bitsOf_eq (indexOf_lt_opened map _)] at hbits
      · exact bits_le_opened h _ _ (List.getElem_mem _)
  exact foldl_putField_bounded _ hgrow hfields

lemma globalStep_bounded {s s' : ParserState} {tag size value : ℕ} (hs : s.Bounded)
    (h : s.globalStep tag size value = .ok s') : s'.Bounded := by
  obtain ⟨hmap, hstack, hcollections, husages⟩ := hs
  unfold ParserState.globalStep at h
  split at h
  case h_6 =>
    split at h
    · cases h
    · cases h
      exact ⟨hmap, by simp only [List.length_append, List.length_singleton]; omega,
        hcollections, husages⟩
  case h_7 =>
    split at h
    · cases h
    · cases h
      exact ⟨hmap, by simp only [List.length_dropLast]; omega, hcollections, husages⟩
  all_goals
    first | split at h | skip
    all_goals cases h
    all_goals exact ⟨hmap, hstack, hcollections, husages⟩

lemma localStep_bounded {s s' : ParserState} {tag size value : ℕ} (hs : s.Bounded)
    (h : s.localStep tag size value = .ok s') : s'.Bounded := by
  obtain ⟨hmap, hstack, hcollections, husages⟩ := hs
  unfold ParserState.localStep at h
  split at h
  case h_1 =>
    split at h
    · cases h
    · cases h
      exact ⟨hmap, hstack, hcollections,
        by simp only [List.length_append, List.length_singleton]; omega⟩
  all_goals cases h
  all_goals exact ⟨hmap, hstack, hcollections, husages⟩

lemma mainStep_bounded {s s' : ParserState} {tag value : ℕ} (hs : s.Bounded)
    (h : s.mainStep tag value = .ok s') : s'.Bounded := by
  obtain ⟨hmap, hstack, hcollections, husages⟩ := hs
  unfold ParserState.mainStep at h
  split at h
  · split at h
    · cases h
    · cases h
      exact ⟨hmap, hstack, by simp only [List.length_append, List.length_singleton]; omega,
        husages⟩
  · split at h
    · cases h
    · cases h
      exact ⟨hmap, hstack, by simp only [List.length_dropLast]; omega, husages⟩
  · split at h
    · cases h
      exact ⟨putInput_bounded hmap ‹_›, hstack, hcollections, husages⟩
    · cases h
  · cases h
    exact ⟨hmap, hstack, hcollections, husages⟩

/-- An item leaves the capacities respected. -/
lemma step_bounded {s s' : ParserState} {item : Item} (hs : s.Bounded)
    (h : s.step item = .ok s') : s'.Bounded := by
  cases item with
  | long =>
    cases h
    exact hs
  | short type tag size value =>
    dsimp only [ParserState.step] at h
    split at h
    · exact globalStep_bounded hs h
    · split at h
      · exact localStep_bounded hs h
      · split at h
        · cases hmain : s.mainStep tag value with
          | error e =>
            rw [hmain] at h
            cases h
          | ok t =>
            rw [hmain] at h
            cases h
            obtain ⟨hmap, hstack, hcollections, -⟩ := mainStep_bounded hs hmain
            exact ⟨hmap, hstack, hcollections, Nat.zero_le _⟩
        · cases h
          exact hs

lemma bounded_initial : ({} : ParserState).Bounded :=
  ⟨⟨Nat.zero_le _, Nat.zero_le _, by simp⟩, Nat.zero_le _, Nat.zero_le _, Nat.zero_le _⟩

end BleMouse.Hid
