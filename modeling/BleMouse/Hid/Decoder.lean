/-
The report decoder of `src/hid_parser.c`.

`mouseHidDecode` reads the fields of one report out of a payload.  It checks the length of
the payload against the report and nothing else; that the fields lie inside the report is an
invariant of the maps the parser produces.
-/
import BleMouse.Hid.Parser

namespace BleMouse.Hid

open Checked

/-- `struct mouse_hid_frame` -/
structure MouseHidFrame where
  x : ℤ := 0
  y : ℤ := 0
  wheel : ℤ := 0
  pan : ℤ := 0
  buttons : BitVec 8 := 0
  buttonsPresent : BitVec 8 := 0
deriving DecidableEq, Repr

/-- `INT32_MAX` -/
def int32Max : ℤ := 2 ^ 31 - 1

/-- `INT32_MIN` -/
def int32Min : ℤ := -2 ^ 31

/-- `extract_field` -/
def extractField (data : List UInt8) (field : MouseHidField) : Parse ℤ := do
  let value ← (List.range field.size).foldlM (fun value i => do
    let bit := field.bit + i
    let byte ← get data (bit / 8)
    let shifted ← shl32 (byte.toNat >>> (bit % 8) % 2) i
    return value ||| shifted) 0
  if field.isSigned then signedBits value field.size
  else return if int32Max < value then int32Max else value

/-- `add_saturated`; the sum is computed in 64 bits -/
def addSaturated (a b : ℤ) : Parse ℤ := do
  let result ← signed 64 (a + b)
  return if int32Max < result then int32Max
    else if result < int32Min then int32Min
    else result

/-- The body of the loop in `mouse_hid_decode`. -/
def decodeField (data : List UInt8) (index : ℕ) (frame : MouseHidFrame) (field : MouseHidField) :
    Parse MouseHidFrame :=
  if field.report ≠ index then
    return frame
  else do
    let value ← extractField data field
    match field.usage with
    | .x =>
      let x ← addSaturated frame.x value
      return { frame with x }
    | .y =>
      let y ← addSaturated frame.y value
      return { frame with y }
    | .wheel =>
      let wheel ← addSaturated frame.wheel value
      return { frame with wheel }
    | .pan =>
      let pan ← addSaturated frame.pan value
      return { frame with pan }
    | .button =>
      if value ≠ 0 then do
        let mask ← shl32 1 field.button
        return { frame with buttons := frame.buttons ||| BitVec.ofNat 8 mask }
      else return frame

/-- What a call of `mouse_hid_decode` leaves behind: the error it returns, if it does not
return zero, and the contents of the caller's frame. -/
structure DecodeResult where
  error : Option Errno
  frame : MouseHidFrame
deriving DecidableEq, Repr

/-- `mouse_hid_decode`; `frame` is what the caller's frame holds before the call -/
def mouseHidDecode (map : MouseHidMap) (id : ℕ) (data : List UInt8) (frame : MouseHidFrame) :
    Parse DecodeResult :=
  match mouseHidReportIndex map id with
  | none => return ⟨some .eNoEnt, frame⟩
  | some index => do
    let report ← get map.reports index
    if ¬report.useful then
      return ⟨some .eNoEnt, frame⟩
    else if data.length ≠ (report.bits + 7) / 8 then
      return ⟨some .eMsgSize, frame⟩
    else do
      let frame ← map.fields.foldlM (decodeField data index)
        { buttonsPresent := report.buttons }
      return ⟨none, frame⟩

end BleMouse.Hid
