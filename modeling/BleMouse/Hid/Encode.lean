/-
Encoding a report, and decoding it again.

The encoder is the inverse the decoder does not have in the source: it writes a value into
every field of a report and leaves the other bits of the payload as they are.  The main
result, `decode_encode`, says that the decoder recovers the values, up to the saturating sums
over the fields of one axis, and that it depends on no bit outside the fields.
-/
import BleMouse.Hid.Frames

namespace BleMouse.Hid

open Checked BitField

/-! ### The encoder -/

/-- The values a field can hold.  The decoder reads an unsigned field of 32 bits as at most
`INT32_MAX`, so larger values are left out. -/
def MouseHidField.Admits (f : MouseHidField) (z : ℤ) : Prop :=
  if f.isSigned then -2 ^ (f.size - 1) ≤ z ∧ z < 2 ^ (f.size - 1)
  else 0 ≤ z ∧ z ≤ min (2 ^ f.size - 1) int32Max

/-- The fields of the report `r`, in order. -/
def MouseHidMap.fieldsOf (map : MouseHidMap) (r : ℕ) : List MouseHidField :=
  map.fields.filter fun f => f.report == r

/-- Write the low bits of a value into every field.  The fields of a report are distinct, so
a function on them is any assignment of values to them. -/
def encode (fields : List MouseHidField) (v : MouseHidField → ℤ) (payload : List UInt8) :
    List UInt8 :=
  fields.foldl (fun data f => putBits data f.bit f.size (low (v f) f.size)) payload

/-- The sum of a list, saturating from left to right. -/
def saturatingSum (values : List ℤ) : ℤ := values.foldl (fun a b => saturate (a + b)) 0

/-- The values of the fields with a usage, in order. -/
def valuesOf (fields : List MouseHidField) (v : MouseHidField → ℤ) (usage : MouseHidUsage) :
    List ℤ :=
  (fields.filter fun f => f.usage == usage).map v

/-- Two payloads agree on all bits of the fields. -/
def AgreeOn (fields : List MouseHidField) (p q : List UInt8) : Prop :=
  ∀ f ∈ fields, ∀ i < f.size, bitAt p (f.bit + i) = bitAt q (f.bit + i)

section Payload

variable {fields : List MouseHidField} {v : MouseHidField → ℤ} {payload : List UInt8}

@[simp] lemma length_encode (fields : List MouseHidField) (v : MouseHidField → ℤ)
    (payload : List UInt8) : (encode fields v payload).length = payload.length := by
  induction fields generalizing payload with
  | nil => rfl
  | cons f fields ih =>
    have hlen := ih (putBits payload f.bit f.size (low (v f) f.size))
    rwa [length_putBits] at hlen

/-- Bits outside all the fields are left alone. -/
lemma getBits_encode_of_disjoint {off n : ℕ}
    (hin : ∀ f ∈ fields, f.bit + f.size ≤ 8 * payload.length)
    (hdisj : ∀ f ∈ fields, off + n ≤ f.bit) :
    getBits (encode fields v payload) off n = getBits payload off n := by
  induction fields generalizing payload with
  | nil => rfl
  | cons f fields ih =>
    have hin' : ∀ g ∈ fields,
        g.bit + g.size ≤ 8 * (putBits payload f.bit f.size (low (v f) f.size)).length := by
      intro g hg
      rw [length_putBits]
      exact hin g (by simp [hg])
    calc getBits (encode (f :: fields) v payload) off n
        = getBits (putBits payload f.bit f.size (low (v f) f.size)) off n :=
          ih hin' fun g hg => hdisj g (by simp [hg])
      _ = getBits payload off n :=
          getBits_putBits_of_disjoint (hin f (by simp)) _ (.inl (hdisj f (by simp)))

/-- Every field holds the low bits of its value. -/
lemma getBits_encode (hin : ∀ f ∈ fields, f.bit + f.size ≤ 8 * payload.length)
    (hdisj : fields.Pairwise fun f g => f.bit + f.size ≤ g.bit) :
    ∀ f ∈ fields, getBits (encode fields v payload) f.bit f.size = low (v f) f.size := by
  induction fields generalizing payload with
  | nil => simp
  | cons f fields ih =>
    obtain ⟨hfirst, hrest⟩ := List.pairwise_cons.1 hdisj
    have hin' : ∀ g ∈ fields,
        g.bit + g.size ≤ 8 * (putBits payload f.bit f.size (low (v f) f.size)).length := by
      intro g hg
      rw [length_putBits]
      exact hin g (by simp [hg])
    intro g hg
    rcases List.mem_cons.1 hg with rfl | hg
    · calc getBits (encode (g :: fields) v payload) g.bit g.size
          = getBits (putBits payload g.bit g.size (low (v g) g.size)) g.bit g.size :=
            getBits_encode_of_disjoint hin' hfirst
        _ = low (v g) g.size := by
            rw [getBits_putBits (hin g (by simp)), Nat.mod_eq_of_lt (low_lt _ _)]
    · exact ih hin' hrest g hg

end Payload

/-- A field reads back a value that it admits. -/
lemma value_eq_of_getBits {f : MouseHidField} {z : ℤ} {data : List UInt8} (hsize : 1 ≤ f.size)
    (hz : f.Admits z) (hbits : getBits data f.bit f.size = low z f.size) : f.value data = z := by
  unfold MouseHidField.Admits at hz
  unfold MouseHidField.value
  rw [hbits]
  dsimp only
  split
  · rw [if_pos ‹_›] at hz
    exact bmod_low hsize hz
  · rw [if_neg ‹_›] at hz
    have hpow := min_le_left ((2 : ℤ) ^ f.size - 1) int32Max
    have hmax := min_le_right ((2 : ℤ) ^ f.size - 1) int32Max
    rw [low_of_lt ⟨hz.1, by omega⟩]
    exact min_eq_right (by omega)

lemma value_congr {f : MouseHidField} {p q : List UInt8}
    (h : ∀ i < f.size, bitAt p (f.bit + i) = bitAt q (f.bit + i)) : f.value p = f.value q := by
  have hbits : getBits p f.bit f.size = getBits q f.bit f.size := collect_congr h
  unfold MouseHidField.value
  rw [hbits]

/-! ### Folding values into a frame -/

/-- The axis a usage is accumulated in. -/
def MouseHidFrame.axis (frame : MouseHidFrame) : MouseHidUsage → ℤ
  | .x => frame.x
  | .y => frame.y
  | .wheel => frame.wheel
  | .pan => frame.pan
  | .button => 0

lemma accumulate_axis (frame : MouseHidFrame) (f : MouseHidField) (z : ℤ) (u : MouseHidUsage)
    (hu : u ≠ .button) :
    (frame.accumulate f z).axis u
      = if f.usage = u then saturate (frame.axis u + z) else frame.axis u := by
  unfold MouseHidFrame.accumulate
  cases u with
  | button => exact absurd rfl hu
  | _ => cases f.usage <;> rfl

lemma accumulate_buttonsPresent (frame : MouseHidFrame) (f : MouseHidField) (z : ℤ) :
    (frame.accumulate f z).buttonsPresent = frame.buttonsPresent := by
  unfold MouseHidFrame.accumulate
  cases f.usage <;> rfl

lemma accumulate_buttons (frame : MouseHidFrame) (f : MouseHidField) (z : ℤ) {b : ℕ} (hb : b < 8) :
    (frame.accumulate f z).buttons.getLsbD b = true ↔
      frame.buttons.getLsbD b = true ∨ (f.usage = .button ∧ f.button = b ∧ z ≠ 0) := by
  unfold MouseHidFrame.accumulate
  cases husage : f.usage with
  | button =>
    by_cases hz : z = 0
    · simp [hz]
    · have hmask := fieldMask_iff f hb
      rw [if_pos husage] at hmask
      simp only [ne_eq, hz, not_false_eq_true, if_true, BitVec.getLsbD_or, Bool.or_eq_true, hmask,
        husage, true_and, and_true]
  | _ => simp

section Fold

variable (v : MouseHidField → ℤ) (fields : List MouseHidField) (frame : MouseHidFrame)

/-- The frame after the values of the fields. -/
def MouseHidFrame.accumulateAll : MouseHidFrame :=
  fields.foldl (fun frame f => frame.accumulate f (v f)) frame

lemma accumulateAll_cons (f : MouseHidField) :
    MouseHidFrame.accumulateAll v (f :: fields) frame
      = MouseHidFrame.accumulateAll v fields (frame.accumulate f (v f)) := rfl

lemma accumulateAll_axis (u : MouseHidUsage) (hu : u ≠ .button) :
    (MouseHidFrame.accumulateAll v fields frame).axis u
      = (valuesOf fields v u).foldl (fun a b => saturate (a + b)) (frame.axis u) := by
  induction fields generalizing frame with
  | nil => rfl
  | cons f fields ih =>
    rw [accumulateAll_cons, ih, accumulate_axis _ _ _ _ hu]
    by_cases husage : f.usage = u
    · simp [valuesOf, husage]
    · simp [valuesOf, husage]

lemma accumulateAll_buttonsPresent :
    (MouseHidFrame.accumulateAll v fields frame).buttonsPresent = frame.buttonsPresent := by
  induction fields generalizing frame with
  | nil => rfl
  | cons f fields ih => exact (ih _).trans (accumulate_buttonsPresent _ _ _)

lemma accumulateAll_buttons {b : ℕ} (hb : b < 8) :
    (MouseHidFrame.accumulateAll v fields frame).buttons.getLsbD b = true ↔
      frame.buttons.getLsbD b = true ∨
        ∃ f ∈ fields, f.usage = .button ∧ f.button = b ∧ v f ≠ 0 := by
  induction fields generalizing frame with
  | nil => simp [MouseHidFrame.accumulateAll]
  | cons f fields ih =>
    rw [accumulateAll_cons, ih, accumulate_buttons _ _ _ hb, or_assoc]
    simp

end Fold

/-! ### The round trip -/

section RoundTrip

variable {map : MouseHidMap}

lemma mem_fieldsOf {r : ℕ} {f : MouseHidField} :
    f ∈ map.fieldsOf r ↔ f ∈ map.fields ∧ f.report = r := by
  simp [MouseHidMap.fieldsOf]

lemma fieldsOf_disjoint (h : map.Separated) (r : ℕ) :
    (map.fieldsOf r).Pairwise fun f g => f.bit + f.size ≤ g.bit := by
  have hfilter := h.disjoint.filter fun f => f.report == r
  refine hfilter.imp_of_mem ?_
  intro f g hf hg hdisj
  exact hdisj ((mem_fieldsOf.1 hf).2.trans (mem_fieldsOf.1 hg).2.symm)

lemma frameOf_eq {r : ℕ} {present : BitVec 8} {data : List UInt8} {v : MouseHidField → ℤ}
    (hv : ∀ f ∈ map.fieldsOf r, f.value data = v f) :
    map.frameOf r present data
      = MouseHidFrame.accumulateAll v (map.fieldsOf r) { buttonsPresent := present } := by
  unfold MouseHidMap.frameOf MouseHidFrame.accumulateAll
  apply List.foldl_ext
  intro frame f hf
  rw [hv f hf]

/-- The ID of a report leads to its index. -/
lemma mouseHidReportIndex_id (h : map.Separated) {r : ℕ} {report : MouseHidReport}
    (hr : map.reports[r]? = some report) : mouseHidReportIndex map report.id = some r := by
  obtain ⟨hlt, hget⟩ := List.getElem?_eq_some_iff.1 hr
  rw [mouseHidReportIndex, List.findIdx?_eq_some_iff_getElem]
  refine ⟨hlt, by simp [hget], ?_⟩
  intro j hj hid
  have hlen : (map.reports.map MouseHidReport.id).length = map.reports.length := List.length_map _
  have heq : (map.reports.map MouseHidReport.id)[j] = (map.reports.map MouseHidReport.id)[r] := by
    simpa [hget] using hid
  have := (h.ids_nodup.getElem_inj_iff).1 heq
  omega

/-- A payload of the right length under the ID of a useful report decodes to the frame of
its fields. -/
lemma decode_useful (h : map.Separated) {r : ℕ} {report : MouseHidReport}
    (hr : map.reports[r]? = some report) (huseful : report.useful = true) {data : List UInt8}
    (hlen : data.length = (report.bits + 7) / 8) (frame : MouseHidFrame) :
    mouseHidDecode map report.id data frame
      = .ok ⟨none, map.frameOf r report.buttons data⟩ := by
  rw [mouseHidDecode_eq h, mouseHidReportIndex_id h hr]
  dsimp only
  rw [hr]
  dsimp only
  rw [if_neg (by simp [huseful]), if_neg (not_not.2 hlen)]

lemma fieldsOf_in_payload (h : map.Separated) {r : ℕ} {report : MouseHidReport}
    (hr : map.reports[r]? = some report) {payload : List UInt8}
    (hlen : payload.length = (report.bits + 7) / 8) :
    ∀ f ∈ map.fieldsOf r, f.bit + f.size ≤ 8 * payload.length := by
  intro f hf
  obtain ⟨hmem, rfl⟩ := mem_fieldsOf.1 hf
  obtain ⟨report', hreport', hle⟩ := h.inside f hmem
  rw [hr, Option.some_inj] at hreport'
  subst hreport'
  omega

/-- The decoder undoes the encoder: for every useful report of a parsed map, every assignment
of admitted values to its fields and every contents of the other bits, decoding returns zero
and the frame whose axes are the saturating sums of their fields' values, whose buttons are
those with a non-zero field, and whose present buttons are those of the report.  Payloads
that agree on the fields decode to the same frame. -/
theorem decode_encode (data : List UInt8) (map : MouseHidMap) (h : mouseHidParse data = .ok map)
    (r : ℕ) (report : MouseHidReport) (hr : map.reports[r]? = some report)
    (huseful : report.useful = true) (frame : MouseHidFrame) :
    (∀ v : MouseHidField → ℤ, (∀ f ∈ map.fieldsOf r, f.Admits (v f)) →
      ∀ payload : List UInt8, payload.length = (report.bits + 7) / 8 →
      ∃ decoded,
        mouseHidDecode map report.id (encode (map.fieldsOf r) v payload) frame
          = .ok ⟨none, decoded⟩ ∧
        decoded.x = saturatingSum (valuesOf (map.fieldsOf r) v .x) ∧
        decoded.y = saturatingSum (valuesOf (map.fieldsOf r) v .y) ∧
        decoded.wheel = saturatingSum (valuesOf (map.fieldsOf r) v .wheel) ∧
        decoded.pan = saturatingSum (valuesOf (map.fieldsOf r) v .pan) ∧
        (∀ b < 8, decoded.buttons.getLsbD b = true ↔
          ∃ f ∈ map.fieldsOf r, f.usage = .button ∧ f.button = b ∧ v f ≠ 0) ∧
        decoded.buttonsPresent = report.buttons ∧
        decoded.buttons &&& decoded.buttonsPresent = decoded.buttons) ∧
    ∀ p q : List UInt8, p.length = (report.bits + 7) / 8 → q.length = (report.bits + 7) / 8 →
      AgreeOn (map.fieldsOf r) p q →
      mouseHidDecode map report.id p frame = mouseHidDecode map report.id q frame := by
  obtain ⟨-, -, -, hsum, hsep⟩ := parsed_map_layout h
  constructor
  · intro v hv payload hlen
    have hin := fieldsOf_in_payload hsep hr hlen
    have hvalue : ∀ f ∈ map.fieldsOf r, f.value (encode (map.fieldsOf r) v payload) = v f := by
      intro f hf
      exact value_eq_of_getBits (hsep.size_mem f (mem_fieldsOf.1 hf).1).1 (hv f hf)
        (getBits_encode hin (fieldsOf_disjoint hsep r) f hf)
    have hbuttons : ∀ b < 8,
        (map.frameOf r report.buttons (encode (map.fieldsOf r) v payload)).buttons.getLsbD b
          = true ↔ ∃ f ∈ map.fieldsOf r, f.usage = .button ∧ f.button = b ∧ v f ≠ 0 := by
      intro b hb
      rw [frameOf_eq hvalue, accumulateAll_buttons _ _ _ hb]
      simp
    have hpresent :
        (map.frameOf r report.buttons (encode (map.fieldsOf r) v payload)).buttonsPresent
          = report.buttons := by
      rw [frameOf_eq hvalue, accumulateAll_buttonsPresent]
    have haxis := fun u hu => accumulateAll_axis v (map.fieldsOf r)
      { buttonsPresent := report.buttons } u hu
    rw [← frameOf_eq hvalue] at haxis
    refine ⟨_, decode_useful hsep hr huseful (by rw [length_encode, hlen]) frame,
      haxis .x (by decide), haxis .y (by decide), haxis .wheel (by decide),
      haxis .pan (by decide), hbuttons, hpresent, ?_⟩
    -- a button that is set has a field, and so is among the report's buttons
    apply BitVec.eq_of_getLsbD_eq
    intro b hb
    rw [BitVec.getLsbD_and, hpresent]
    cases hset :
      (map.frameOf r report.buttons (encode (map.fieldsOf r) v payload)).buttons.getLsbD b with
    | false => rfl
    | true =>
      obtain ⟨f, hf, husage, hbutton, -⟩ := (hbuttons b hb).1 hset
      obtain ⟨hmem, hreport⟩ := mem_fieldsOf.1 hf
      rw [(hsum.report_buttons_iff r report hr b hb).2 ⟨f, hmem, hreport, husage, hbutton⟩]
      rfl
  · intro p q hp hq hagree
    have hvalue : ∀ f ∈ map.fieldsOf r, f.value p = f.value q := fun f hf =>
      value_congr (hagree f hf)
    rw [decode_useful hsep hr huseful hp, decode_useful hsep hr huseful hq, frameOf_eq hvalue,
      frameOf_eq fun f _ => rfl]

/-- A report with the button down, moving by 5 to the left and 7 down, and padding set. -/
theorem plain_mouse_decode_encode :
    ∃ decoded,
      mouseHidDecode plainMouseMap 7
        (encode (plainMouseMap.fieldsOf 0)
          (fun f => if f.usage = .x then -5 else if f.usage = .y then 7 else 1) [0xfe, 0, 0]) {}
        = .ok ⟨none, decoded⟩ ∧ decoded.x = saturatingSum [-5] := by
  have hadmits : ∀ f ∈ plainMouseMap.fieldsOf 0,
      f.Admits (if f.usage = .x then -5 else if f.usage = .y then 7 else 1) := by
    have hfields : plainMouseMap.fieldsOf 0 = plainMouseMap.fields := by decide
    rw [hfields]
    simp only [plainMouseMap, List.mem_cons, List.not_mem_nil, or_false]
    rintro f (rfl | rfl | rfl) <;> simp [MouseHidField.Admits, int32Max]
  obtain ⟨decoded, hdecode, hx, -⟩ :=
    (decode_encode plainMouse plainMouseMap parse_plainMouse 0 _ rfl rfl {}).1 _ hadmits
      [0xfe, 0, 0] rfl
  exact ⟨decoded, hdecode, hx⟩

end RoundTrip

end BleMouse.Hid
