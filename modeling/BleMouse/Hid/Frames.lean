/-
The decoder without its checks.

On a map whose fields lie inside their reports the decoder cannot fault, and it folds the
values of the report's fields into a frame.

* `mouseHidDecode_eq`: the decoder as that fold;
* `parser_and_decoder_stay_in_bounds`: neither the parser, on any byte string, nor the
  decoder, on a parsed map and any payload, reaches undefined behaviour.
-/
import BleMouse.Hid.Decoder
import BleMouse.Hid.Layout

namespace BleMouse.Hid

open Checked BitField

/-! ### Field values -/

/-- The value of a field in a payload. -/
def MouseHidField.value (field : MouseHidField) (data : List UInt8) : ℤ :=
  let bits := getBits data field.bit field.size
  if field.isSigned then (bits : ℤ).bmod (2 ^ field.size) else min int32Max bits

/-- A sum that stops at the ends of the 32-bit range. -/
def saturate (z : ℤ) : ℤ := max int32Min (min int32Max z)

/-- The 32-bit range. -/
def InRange (z : ℤ) : Prop := int32Min ≤ z ∧ z ≤ int32Max

lemma inRange_saturate (z : ℤ) : InRange (saturate z) := by
  unfold InRange saturate int32Min int32Max
  omega

lemma inRange_zero : InRange 0 := by
  unfold InRange int32Min int32Max
  omega

lemma bitAt_eq {data : List UInt8} {k : ℕ} (h : k / 8 < data.length) :
    bitAt data k = data[k / 8].toNat.testBit (k % 8) := by
  simp [bitAt, List.getElem?_eq_getElem h]

lemma shiftRight_mod_two (n k : ℕ) : n >>> k % 2 = (n.testBit k).toNat := by
  rw [Nat.toNat_testBit, Nat.shiftRight_eq_div_pow]

/-- The loop of `extract_field` collects the bits of the field. -/
lemma extractLoop_eq {data : List UInt8} {field : MouseHidField} (hsize : field.size ≤ 32)
    (hin : field.bit + field.size ≤ 8 * data.length) :
    (List.range field.size).foldlM (fun value i => (do
      let bit := field.bit + i
      let byte ← get data (bit / 8)
      let shifted ← shl32 (byte.toNat >>> (bit % 8) % 2) i
      return value ||| shifted : Parse ℕ)) 0
      = .ok (getBits data field.bit field.size) := by
  apply foldlM_eq_foldl_of_forall
  intro value i hi
  rw [List.mem_range] at hi
  have hbyte : (field.bit + i) / 8 < data.length := by omega
  have hshift : (bitAt data (field.bit + i)).toNat <<< i < 2 ^ 32 := by
    rw [Nat.shiftLeft_eq]
    calc (bitAt data (field.bit + i)).toNat * 2 ^ i ≤ 1 * 2 ^ i :=
          Nat.mul_le_mul_right _ (Bool.toNat_le _)
      _ < 2 ^ 32 := by rw [Nat.one_mul]; exact Nat.pow_lt_pow_right (by omega) (by omega)
  dsimp only
  rw [get_of_lt hbyte, ok_bind, shiftRight_mod_two, ← bitAt_eq hbyte, shl32_of_lt _ (by omega),
    ok_bind, Nat.mod_eq_of_lt hshift]
  rfl

lemma getBits_lt (data : List UInt8) (off n : ℕ) : getBits data off n < 2 ^ n := collect_lt _ n

lemma extractField_eq {data : List UInt8} {field : MouseHidField}
    (hsize : 1 ≤ field.size ∧ field.size ≤ 32)
    (hin : field.bit + field.size ≤ 8 * data.length) :
    extractField data field = .ok (field.value data) := by
  unfold extractField MouseHidField.value
  rw [extractLoop_eq hsize.2 hin, ok_bind]
  dsimp only
  split
  · exact signedBits_eq hsize.1 hsize.2 (getBits_lt _ _ _)
  · split
    · rw [min_eq_left (by omega)]
      rfl
    · rw [min_eq_right (by omega)]
      rfl

lemma inRange_value {field : MouseHidField} (hsize : 1 ≤ field.size ∧ field.size ≤ 32)
    (data : List UInt8) : InRange (field.value data) := by
  unfold MouseHidField.value InRange int32Min int32Max
  dsimp only
  split
  · have hle : (2 : ℤ) ^ field.size ≤ 2 ^ 32 := pow_le_pow_right₀ (by norm_num) hsize.2
    have hpos : 0 < 2 ^ field.size := by positivity
    have hlower := Int.le_bmod (x := (getBits data field.bit field.size : ℤ)) hpos
    have hupper := Int.bmod_lt (x := (getBits data field.bit field.size : ℤ)) hpos
    push_cast at hlower hupper
    omega
  · omega

lemma addSaturated_eq {a b : ℤ} (ha : InRange a) (hb : InRange b) :
    addSaturated a b = .ok (saturate (a + b)) := by
  unfold InRange int32Min int32Max at ha hb
  unfold addSaturated
  rw [signed_of_mem (by omega), ok_bind]
  unfold saturate int32Min int32Max
  split
  · rw [min_eq_left (by omega), max_eq_right (by omega)]
    rfl
  · split
    · rw [min_eq_right (by omega), max_eq_left (by omega)]
      rfl
    · rw [min_eq_right (by omega), max_eq_right (by omega)]
      rfl

/-! ### Frames -/

/-- The frame with the value of a field added to it. -/
def MouseHidFrame.accumulate (frame : MouseHidFrame) (field : MouseHidField) (value : ℤ) :
    MouseHidFrame :=
  match field.usage with
  | .x => { frame with x := saturate (frame.x + value) }
  | .y => { frame with y := saturate (frame.y + value) }
  | .wheel => { frame with wheel := saturate (frame.wheel + value) }
  | .pan => { frame with pan := saturate (frame.pan + value) }
  | .button =>
    { frame with buttons := frame.buttons |||
        (if value ≠ 0 then BitVec.ofNat 8 (2 ^ field.button) else 0) }

/-- The axes of a frame are 32-bit values. -/
structure MouseHidFrame.AxesInRange (frame : MouseHidFrame) : Prop where
  x : InRange frame.x
  y : InRange frame.y
  wheel : InRange frame.wheel
  pan : InRange frame.pan

lemma accumulate_inRange {frame : MouseHidFrame} (h : frame.AxesInRange) (field : MouseHidField)
    (value : ℤ) : (frame.accumulate field value).AxesInRange := by
  obtain ⟨hx, hy, hwheel, hpan⟩ := h
  unfold MouseHidFrame.accumulate
  split
  · exact ⟨inRange_saturate _, hy, hwheel, hpan⟩
  · exact ⟨hx, inRange_saturate _, hwheel, hpan⟩
  · exact ⟨hx, hy, inRange_saturate _, hpan⟩
  · exact ⟨hx, hy, hwheel, inRange_saturate _⟩
  · exact ⟨hx, hy, hwheel, hpan⟩

lemma decodeField_eq {data : List UInt8} {field : MouseHidField} {frame : MouseHidFrame}
    (hsize : 1 ≤ field.size ∧ field.size ≤ 32) (hbutton : field.button ≤ 4)
    (hin : field.bit + field.size ≤ 8 * data.length) (hframe : frame.AxesInRange) :
    decodeField data field.report frame field
      = .ok (frame.accumulate field (field.value data)) := by
  have hvalue := inRange_value hsize data
  obtain ⟨hx, hy, hwheel, hpan⟩ := hframe
  unfold decodeField MouseHidFrame.accumulate
  rw [if_neg (not_not.2 rfl), extractField_eq hsize hin, ok_bind]
  cases field.usage with
  | x =>
    dsimp only
    rw [addSaturated_eq hx hvalue]
    rfl
  | y =>
    dsimp only
    rw [addSaturated_eq hy hvalue]
    rfl
  | wheel =>
    dsimp only
    rw [addSaturated_eq hwheel hvalue]
    rfl
  | pan =>
    dsimp only
    rw [addSaturated_eq hpan hvalue]
    rfl
  | button =>
    dsimp only
    by_cases hzero : field.value data = 0
    · rw [if_neg (not_not.2 hzero), if_neg (not_not.2 hzero)]
      have hor : frame.buttons ||| 0 = frame.buttons := BitVec.or_zero
      rw [hor]
      rfl
    · have hmask : 1 <<< field.button % 2 ^ 32 = 2 ^ field.button := by
        rw [Nat.one_shiftLeft]
        exact Nat.mod_eq_of_lt (Nat.pow_lt_pow_right (by omega) (by omega))
      rw [if_pos hzero, if_pos hzero, shl32_of_lt _ (by omega), ok_bind, hmask]
      rfl

/-- The frame the fields of the report `r` make up. -/
def MouseHidMap.frameOf (map : MouseHidMap) (r : ℕ) (buttonsPresent : BitVec 8)
    (data : List UInt8) : MouseHidFrame :=
  (map.fields.filter fun f => f.report == r).foldl
    (fun frame f => frame.accumulate f (f.value data)) { buttonsPresent }

lemma decodeLoop_eq {data : List UInt8} {r : ℕ} (fields : List MouseHidField)
    (hsize : ∀ f ∈ fields, 1 ≤ f.size ∧ f.size ≤ 32) (hbutton : ∀ f ∈ fields, f.button ≤ 4)
    (hin : ∀ f ∈ fields, f.report = r → f.bit + f.size ≤ 8 * data.length)
    {frame : MouseHidFrame} (hframe : frame.AxesInRange) :
    fields.foldlM (decodeField data r) frame
      = .ok ((fields.filter fun f => f.report == r).foldl
          (fun frame f => frame.accumulate f (f.value data)) frame) := by
  rw [List.foldl_filter]
  refine foldlM_eq_foldl fields hframe ?_ ?_
  · intro frame f _ hframe
    split
    · exact accumulate_inRange hframe f _
    · exact hframe
  · intro frame f hf hframe
    by_cases hr : f.report = r
    · subst hr
      rw [if_pos (by simp)]
      exact decodeField_eq (hsize f hf) (hbutton f hf) (hin f hf rfl) hframe
    · rw [if_neg (by simpa using hr), decodeField, if_pos hr]
      rfl

/-- On a map whose fields lie inside their reports, the decoder checks the report and the
length, and returns the frame that the fields make up. -/
lemma mouseHidDecode_eq {map : MouseHidMap} (h : map.Separated) (id : ℕ) (data : List UInt8)
    (frame : MouseHidFrame) :
    mouseHidDecode map id data frame
      = match mouseHidReportIndex map id with
        | none => .ok ⟨some .eNoEnt, frame⟩
        | some r =>
          match map.reports[r]? with
          | none => .ok ⟨some .eNoEnt, frame⟩
          | some report =>
            if report.useful = false then .ok ⟨some .eNoEnt, frame⟩
            else if data.length ≠ (report.bits + 7) / 8 then .ok ⟨some .eMsgSize, frame⟩
            else .ok ⟨none, map.frameOf r report.buttons data⟩ := by
  unfold mouseHidDecode
  cases hindex : mouseHidReportIndex map id with
  | none => rfl
  | some r =>
    have hlt := findIdx?_lt hindex
    dsimp only
    rw [get_of_lt hlt, ok_bind, List.getElem?_eq_getElem hlt]
    dsimp only
    by_cases huseful : map.reports[r].useful = false
    · rw [if_pos (by simp [huseful]), if_pos huseful]
      rfl
    by_cases hlen : data.length ≠ (map.reports[r].bits + 7) / 8
    · rw [if_neg (by simpa using huseful), if_pos hlen, if_neg huseful, if_pos hlen]
      rfl
    rw [if_neg (by simpa using huseful), if_neg hlen, if_neg huseful, if_neg hlen]
    have hin : ∀ f ∈ map.fields, f.report = r → f.bit + f.size ≤ 8 * data.length := by
      rintro f hf rfl
      obtain ⟨report, hreport, hle⟩ := h.inside f hf
      rw [List.getElem?_eq_getElem hlt, Option.some_inj] at hreport
      rw [hreport] at hlen
      omega
    rw [decodeLoop_eq map.fields h.size_mem h.button_le hin
      ⟨inRange_zero, inRange_zero, inRange_zero, inRange_zero⟩]
    rfl

/-! ### Bounds -/

/-- The parser reaches no undefined behaviour on any byte string: no access outside the
bytes or its arrays, no shift by the width, no wrapping subtraction, no signed overflow, and
an iteration of its loop for every byte suffices.  The decoder, on a parsed map, returns an
error and leaves the frame alone, or decodes the payload without undefined behaviour. -/
theorem parser_and_decoder_stay_in_bounds :
    (∀ data, NoFault (mouseHidParse data)) ∧
    ∀ data map, mouseHidParse data = .ok map → ∀ id payload frame,
      (∃ e, mouseHidDecode map id payload frame = .ok ⟨some e, frame⟩) ∨
      ∃ decoded, mouseHidDecode map id payload frame = .ok ⟨none, decoded⟩ := by
  constructor
  · intro data
    rw [mouseHidParse_eq]
    split
    · exact noFault_fail _
    · split
      · exact noFault_fail _
      · split
        · exact noFault_fail _
        · split
          · exact noFault_ok _
          · exact noFault_fail _
  · intro data map hparse id payload frame
    obtain ⟨-, -, -, -, hseparated⟩ := parsed_map_layout hparse
    rw [mouseHidDecode_eq hseparated]
    split
    · exact .inl ⟨_, rfl⟩
    · split
      · exact .inl ⟨_, rfl⟩
      · split
        · exact .inl ⟨_, rfl⟩
        · split
          · exact .inl ⟨_, rfl⟩
          · exact .inr ⟨_, rfl⟩

/-- A report of the plain mouse is decoded. -/
theorem plain_mouse_stays_in_bounds :
    NoFault (mouseHidParse plainMouse) ∧
      ∃ decoded, mouseHidDecode plainMouseMap 7 [1, 5, 0xfb] {} = .ok ⟨none, decoded⟩ ∧
        decoded.buttons = 1 ∧ decoded.x = 5 ∧ decoded.y = -5 := by
  have heval : mouseHidDecode plainMouseMap 7 [1, 5, 0xfb] {} =
    .ok ⟨none, { buttons := 1, buttonsPresent := 1, x := 5, y := -5 }⟩ := by decide +kernel
  refine ⟨parser_and_decoder_stay_in_bounds.1 plainMouse, ?_⟩
  rcases parser_and_decoder_stay_in_bounds.2 plainMouse plainMouseMap parse_plainMouse 7
    [1, 5, 0xfb] {} with ⟨e, herr⟩ | ⟨decoded, hok⟩
  · cases heval.symm.trans herr
  · cases heval.symm.trans hok
    exact ⟨_, heval, rfl, rfl, rfl⟩

end BleMouse.Hid
