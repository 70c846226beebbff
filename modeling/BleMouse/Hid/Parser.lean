/-
The HID report descriptor parser of `src/hid_parser.c`.

`mouseHidParse` reads a report descriptor item by item and collects the reports and the
mouse controls it declares.  Every array access, shift, unsigned subtraction and signed
operation of the source is a checked operation here, so the model faults where the source
would leave the defined behaviour of C.

Arrays with a counter (`usages`, `reports`, `fields`, the two stacks) are lists of the
elements in use; storing past the declared capacity, and reading at or past the counter, is
a fault.
-/
import BleMouse.Lib.Checked

namespace BleMouse.Hid

open Checked

/-- `MOUSE_HID_MAX_REPORTS` -/
def maxReports : ℕ := 8

/-- `MOUSE_HID_MAX_FIELDS` -/
def maxFields : ℕ := 48

/-- `MOUSE_HID_MAX_REPORT_BYTES` -/
def maxReportBytes : ℕ := 64

/-- `MOUSE_HID_MAX_MAP_BYTES` -/
def maxMapBytes : ℕ := 1024

/-- `STACK_DEPTH` -/
def stackDepth : ℕ := 8

/-- `LOCAL_USAGES` -/
def localUsages : ℕ := 32

/-- The error numbers the parser and the decoder return (negated). -/
inductive Errno
  | eInval
  | e2Big
  | eNotSup
  | eNoEnt
  | eMsgSize
deriving DecidableEq, Repr

/-- `enum mouse_hid_usage` -/
inductive MouseHidUsage
  | x
  | y
  | wheel
  | pan
  | button
deriving DecidableEq, Repr

/-- `struct mouse_hid_field` -/
structure MouseHidField where
  bit : ℕ
  size : ℕ
  report : ℕ
  usage : MouseHidUsage
  button : ℕ
  isSigned : Bool
deriving DecidableEq, Repr

/-- `struct mouse_hid_report` -/
structure MouseHidReport where
  bits : ℕ := 0
  id : ℕ
  buttons : BitVec 8 := 0
  useful : Bool := false
deriving DecidableEq, Repr

/-- `struct mouse_hid_map` -/
structure MouseHidMap where
  reports : List MouseHidReport := []
  fields : List MouseHidField := []
  buttons : BitVec 8 := 0
  x : Bool := false
  y : Bool := false
  wheel : Bool := false
  pan : Bool := false
deriving DecidableEq, Repr

/-- `struct global_state` -/
structure GlobalState where
  page : ℕ := 0
  size : ℕ := 0
  count : ℕ := 0
  minimum : ℤ := 0
  id : ℕ := 0
deriving DecidableEq, Repr

/-- `struct local_state` -/
structure LocalState where
  usages : List ℕ := []
  minimum : ℕ := 0
  maximum : ℕ := 0
  hasMinimum : Bool := false
  hasMaximum : Bool := false
deriving DecidableEq, Repr

/-- A computation of this file. -/
abbrev Parse (α : Type) := Comp Errno α

/-- `unsigned_item`, with `offset` for the pointer it is given -/
def unsignedItem (data : List UInt8) (offset size : ℕ) : Parse ℕ :=
  (List.range size).foldlM (fun result i => do
    let byte ← get data (offset + i)
    let shifted ← shl32 byte.toNat (8 * i)
    return result ||| shifted) 0

/-- `signed_bits` -/
def signedBits (value bits : ℕ) : Parse ℤ :=
  if bits = 32 then
    return toInt32 value
  else do
    let shift ← sub bits 1
    let sign ← shl32 1 shift
    signed 32 (toInt32 (value ^^^ sign) - toInt32 sign)

/-- `local_usage` -/
def localUsage (locals : LocalState) (index : ℕ) : Parse ℕ :=
  let fallback : Parse ℕ :=
    if locals.usages.length ≠ 0 then do
      let last ← sub locals.usages.length 1
      get locals.usages last
    else
      return 0xffffffff
  if index < locals.usages.length then
    get locals.usages index
  else if locals.hasMinimum && locals.hasMaximum && decide (locals.minimum ≤ locals.maximum) then do
    let span ← sub locals.maximum locals.minimum
    if index ≤ span then return locals.minimum + index else fallback
  else
    fallback

/-- `mouse_hid_report_index`; `-ENOENT` is `none` -/
def mouseHidReportIndex (map : MouseHidMap) (id : ℕ) : Option ℕ :=
  map.reports.findIdx? fun report => report.id == id

/-- The chain of conditions in `add_input` that recognises a control: its usage and, for a
button, its number.  `relative` is `flags & 4`. -/
def recognise (inMouse relative : Bool) (page code : ℕ) : Option (MouseHidUsage × ℕ) :=
  if inMouse ∧ page = 9 ∧ 1 ≤ code ∧ code ≤ 5 then some (.button, code - 1)
  else if inMouse ∧ page = 1 ∧ relative ∧ code = 0x30 then some (.x, 0)
  else if inMouse ∧ page = 1 ∧ relative ∧ code = 0x31 then some (.y, 0)
  else if inMouse ∧ page = 1 ∧ relative ∧ code = 0x38 then some (.wheel, 0)
  else if page = 0x0c ∧ relative ∧ code = 0x238 then some (.pan, 0)
  else if page = 0x0c ∧ (code = 0x224 ∨ code = 0x225) then
    some (.button, if code = 0x224 then 3 else 4)
  else none

/-- The assignments `map->x = true` and so on of that chain. -/
def MouseHidMap.noteAxis (map : MouseHidMap) : MouseHidUsage → MouseHidMap
  | .x => { map with x := true }
  | .y => { map with y := true }
  | .wheel => { map with wheel := true }
  | .pan => { map with pan := true }
  | .button => map

/-- The end of an iteration of the loop in `add_input`: store a recognised field. -/
def addField (map : MouseHidMap) (field : MouseHidField) : Parse MouseHidMap :=
  let map := map.noteAxis field.usage
  if map.fields.length = maxFields then
    fail .e2Big
  else do
    let fields ← push maxFields map.fields field
    let report ← get map.reports field.report
    let report := { report with useful := true }
    if field.usage = .button then do
      let mask ← shl32 1 field.button
      let mask := BitVec.ofNat 8 mask
      let report := { report with buttons := report.buttons ||| mask }
      return { map with
        fields, reports := map.reports.set field.report report, buttons := map.buttons ||| mask }
    else
      return { map with fields, reports := map.reports.set field.report report }

/-- The body of the loop over the controls of an Input item in `add_input`. -/
def addControl (global : GlobalState) (locals : LocalState) (flags : ℕ) (inMouse : Bool)
    (reportIndex start : ℕ) (map : MouseHidMap) (i : ℕ) : Parse MouseHidMap := do
  let usage ← localUsage locals i
  let page := usage >>> 16 % 2 ^ 16
  let code := usage % 2 ^ 16
  match recognise inMouse (flags.testBit 2) page code with
  | none => return map
  | some (kind, button) =>
    addField map
      { bit := start + i * global.size
        size := global.size
        report := reportIndex
        usage := kind
        button
        isSigned := decide (global.minimum < 0) }

/-- The part of `add_input` that looks up the report with an ID, or starts a new one. -/
def openReport (map : MouseHidMap) (id : ℕ) : Parse (ℕ × MouseHidMap) :=
  match mouseHidReportIndex map id with
  | some index => return (index, map)
  | none =>
    if map.reports.length = maxReports then
      fail .e2Big
    else do
      let reports ← push maxReports map.reports { id }
      return (map.reports.length, { map with reports })

/-- `add_input` -/
def addInput (map : MouseHidMap) (global : GlobalState) (locals : LocalState) (flags : ℕ)
    (inMouse : Bool) : Parse MouseHidMap :=
  if global.count = 0 ∨ global.size = 0 ∨ 32 < global.size then
    fail .e2Big
  else do
    let most ← div (maxReportBytes * 8) global.size
    if most < global.count then
      fail .e2Big
    else do
      let (reportIndex, map) ← openReport map global.id
      let report ← get map.reports reportIndex
      let bits := global.size * global.count
      let room ← sub (maxReportBytes * 8) report.bits
      if room < bits then
        fail .e2Big
      else do
        let start := report.bits
        let reports := map.reports.set reportIndex { report with bits := report.bits + bits }
        let map := { map with reports }
        -- constant and array fields only contribute to the offset
        if flags.testBit 0 ∨ ¬flags.testBit 1 then
          return map
        else
          (List.range global.count).foldlM
            (addControl global locals flags inMouse reportIndex start) map

/-- An item of a descriptor: a short item with its type, tag, payload size and value, or a
long item. -/
inductive Item
  | short (type tag size value : ℕ)
  | long
deriving DecidableEq, Repr

/-- The head of the loop in `mouse_hid_parse`: the item at `offset` and the offset of the
next one. -/
def readItem (data : List UInt8) (offset : ℕ) : Parse (Item × ℕ) := do
  let head ← get data offset
  let head := head.toNat
  let offset := offset + 1
  if head = 0xfe then do
    let rest ← sub data.length offset
    if rest < 2 then
      fail .eInval
    else do
      let size ← get data offset
      let room ← sub rest 2
      if room < size.toNat then
        fail .eInval
      else
        return (.long, offset + 2 + size.toNat)
  else do
    let size := if head % 4 = 3 then 4 else head % 4
    let rest ← sub data.length offset
    if rest < size then
      fail .eInval
    else do
      let value ← unsignedItem data offset size
      return (.short (head / 4 % 4) (head / 16) size value, offset + size)

/-- The variables of `mouse_hid_parse` other than the offset, and the map it fills. -/
structure ParserState where
  map : MouseHidMap := {}
  global : GlobalState := {}
  stack : List GlobalState := []
  locals : LocalState := {}
  collections : List Bool := []
deriving DecidableEq, Repr

/-- The branch for global items. -/
def globalItem (s : ParserState) (tag size value : ℕ) : Parse ParserState :=
  match tag with
  | 0 =>
    if 0xffff < value then fail .eInval
    else return { s with global := { s.global with page := value } }
  | 1 =>
    if size = 0 then fail .eInval
    else do
      let minimum ← signedBits value (size * 8)
      return { s with global := { s.global with minimum } }
  | 7 => return { s with global := { s.global with size := value } }
  | 8 =>
    if value = 0 ∨ 255 < value then fail .eInval
    else return { s with global := { s.global with id := value } }
  | 9 => return { s with global := { s.global with count := value } }
  | 10 =>
    if s.stack.length = stackDepth then fail .e2Big
    else do
      let stack ← push stackDepth s.stack s.global
      return { s with stack }
  | 11 =>
    if s.stack.length = 0 then fail .eInval
    else do
      let top ← sub s.stack.length 1
      let global ← get s.stack top
      return { s with global, stack := s.stack.take top }
  | _ => return s

/-- The branch for local items. -/
def localItem (s : ParserState) (tag size value : ℕ) : Parse ParserState := do
  let high ← shl32 s.global.page 16
  let usage := if size = 4 then value else high ||| value
  match tag with
  | 0 =>
    if s.locals.usages.length = localUsages then fail .e2Big
    else do
      let usages ← push localUsages s.locals.usages usage
      return { s with locals := { s.locals with usages } }
  | 1 => return { s with locals := { s.locals with minimum := usage, hasMinimum := true } }
  | 2 => return { s with locals := { s.locals with maximum := usage, hasMaximum := true } }
  -- alternative usage sets are not supported
  | 10 => fail .eNotSup
  | _ => return s

/-- `depth && collections[depth - 1]` -/
def innermost (collections : List Bool) : Parse Bool :=
  if collections.length = 0 then return false
  else do
    let top ← sub collections.length 1
    get collections top

/-- The branch for main items, without the reset of the local state after it. -/
def mainItem (s : ParserState) (tag value : ℕ) : Parse ParserState :=
  match tag with
  | 10 =>
    if s.collections.length = stackDepth then fail .e2Big
    else do
      let inherited ← innermost s.collections
      let usage ← localUsage s.locals 0
      let mouse := if value = 1 then usage == 0x00010002 else inherited
      let collections ← push stackDepth s.collections mouse
      return { s with collections }
  | 12 =>
    if s.collections.length = 0 then fail .eInval
    else do
      let depth ← sub s.collections.length 1
      return { s with collections := s.collections.take depth }
  | 8 => do
    let inMouse ← innermost s.collections
    let map ← addInput s.map s.global s.locals value inMouse
    return { s with map }
  | _ => return s

/-- The body of the loop in `mouse_hid_parse` after an item has been read. -/
def applyItem (s : ParserState) : Item → Parse ParserState
  | .long => return s
  | .short type tag size value =>
    if type = 1 then globalItem s tag size value
    else if type = 2 then localItem s tag size value
    else if type = 0 then do
      let s ← mainItem s tag value
      return { s with locals := {} }
    else return s

/-- The loop of `mouse_hid_parse`.  An iteration reads at least one byte, so the number of
remaining bytes is enough fuel; running out of it would be a fault. -/
def parseLoop (data : List UInt8) : ℕ → ℕ → ParserState → Parse ParserState
  | fuel, offset, s =>
    if offset < data.length then
      match fuel with
      | 0 => fault .outOfFuel
      | fuel + 1 => do
        let (item, next) ← readItem data offset
        let s ← applyItem s item
        parseLoop data fuel next s
    else return s

/-- `mouse_hid_parse`; a zero return value is the map it has filled. -/
def mouseHidParse (data : List UInt8) : Parse MouseHidMap :=
  if data.length = 0 ∨ maxMapBytes < data.length then
    fail .eInval
  else do
    let s ← parseLoop data data.length 0 {}
    if s.collections.length ≠ 0 ∨ s.stack.length ≠ 0 then
      fail .eInval
    else if s.map.x ∧ s.map.y then
      return s.map
    else
      fail .eNotSup

end BleMouse.Hid
