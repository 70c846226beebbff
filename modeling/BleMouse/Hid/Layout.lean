/-
The report layout a descriptor declares.

A list of items is read the way the HID specification reads it: every item changes a
*context* (the global state with its stack, the local state, the open collections), and
every Input item takes effect with the context in force at it.  The layout of a list of
Input items is then declared without reference to the order in which a parser meets them:
the offset of a field is the sum of the sizes of the earlier Input items of its report.

* `runs_layout`: along a run of the parser, the map is laid out as the Input items declare;
* `parsed_map_is_declared_layout`: so is the map of every descriptor the parser accepts.
-/
import BleMouse.Hid.Descriptor

namespace BleMouse.Hid

/-! ### Contexts -/

/-- An open collection: whether it is an Application collection, and its usage. -/
structure Collection where
  application : Bool
  usage : ℕ

/-- Generic Desktop, Mouse -/
def mouseUsage : ℕ := 0x00010002

/-- The nearest enclosing Application collection, the innermost collection first, is a
mouse. -/
def enclosingMouse (opens : List Collection) : Bool :=
  match opens.find? Collection.application with
  | some collection => collection.usage == mouseUsage
  | none => false

/-- What is in force between two items.  The tops of the stack and of the collections come
first. -/
structure Context where
  global : GlobalState := {}
  stack : List GlobalState := []
  locals : LocalState := {}
  opens : List Collection := []

/-- The effect of a global item on the global state. -/
def GlobalState.declare (g : GlobalState) (tag size value : ℕ) : GlobalState :=
  match tag with
  | 0 => { g with page := value }
  | 1 => { g with minimum := (value : ℤ).bmod (2 ^ (size * 8)) }
  | 7 => { g with size := value }
  | 8 => { g with id := value }
  | 9 => { g with count := value }
  | _ => g

/-- The effect of a local item that denotes `usage` on the local state. -/
def LocalState.declare (l : LocalState) (tag usage : ℕ) : LocalState :=
  match tag with
  | 0 => { l with usages := l.usages ++ [usage] }
  | 1 => { l with minimum := usage, hasMinimum := true }
  | 2 => { l with maximum := usage, hasMaximum := true }
  | _ => l

namespace Context

variable (c : Context)

/-- After a global item: PUSH, POP, or a change of the global state. -/
def afterGlobal (tag size value : ℕ) : Context :=
  match tag with
  | 10 => { c with stack := c.global :: c.stack }
  | 11 => { c with global := c.stack.headD c.global, stack := c.stack.tail }
  | _ => { c with global := c.global.declare tag size value }

/-- The usage a local item denotes: a payload of four bytes contains its page. -/
def usageOf (size value : ℕ) : ℕ :=
  if size = 4 then value else c.global.page <<< 16 % 2 ^ 32 ||| value

/-- After a local item. -/
def afterLocal (tag size value : ℕ) : Context :=
  { c with locals := c.locals.declare tag (c.usageOf size value) }

/-- After a main item, which ends the scope of the local items before it. -/
def afterMain (tag value : ℕ) : Context :=
  match tag with
  | 10 => { c with opens := ⟨value == 1, c.locals.usage 0⟩ :: c.opens, locals := {} }
  | 12 => { c with opens := c.opens.tail, locals := {} }
  | _ => { c with locals := {} }

/-- The context after an item. -/
def next : Item → Context
  | .long => c
  | .short type tag size value =>
    if type = 1 then c.afterGlobal tag size value
    else if type = 2 then c.afterLocal tag size value
    else if type = 0 then c.afterMain tag value
    else c

/-- The Input item an item is, with what is in force at it. -/
def input? : Item → Option InputItem
  | .long => none
  | .short type tag _ value =>
    if type = 0 ∧ tag = 8 then some ⟨c.global, c.locals, value, enclosingMouse c.opens⟩ else none

/-- The Input items of a list of items. -/
def inputs : Context → List Item → List InputItem
  | _, [] => []
  | c, item :: items => (c.input? item).toList ++ inputs (c.next item) items

end Context

/-! ### Declared layouts -/

/-- The report ID of an Input item. -/
def InputItem.id (x : InputItem) : ℕ := x.global.id

/-- The report IDs, in first-use order. -/
def reportIds (xs : List InputItem) : List ℕ := (xs.map InputItem.id).eraseDups

/-- The number of bits of all Input items with a report ID. -/
def reportBits (xs : List InputItem) (id : ℕ) : ℕ :=
  ((xs.filter fun x => x.id == id).map InputItem.bits).sum

/-- The fields of the recognised controls, in declaration order.  Item `k` starts where the
items before it that have its report ID end. -/
def declaredFields (xs : List InputItem) : List MouseHidField :=
  xs.zipIdx.flatMap fun (x, k) =>
    x.fields ((reportIds xs).idxOf x.id) (reportBits (xs.take k) x.id)

/-- The map lists the reports and the fields that the Input items declare. -/
structure MouseHidMap.LaidOut (map : MouseHidMap) (xs : List InputItem) : Prop where
  reports_eq : map.reports.map (fun r => (r.id, r.bits))
    = (reportIds xs).map fun id => (id, reportBits xs id)
  fields_eq : map.fields = declaredFields xs

/-- The flags of the map and of its reports summarise the fields. -/
structure MouseHidMap.Summarised (map : MouseHidMap) : Prop where
  report_lt : ∀ f ∈ map.fields, f.report < map.reports.length
  x_iff : map.x = true ↔ ∃ f ∈ map.fields, f.usage = .x
  y_iff : map.y = true ↔ ∃ f ∈ map.fields, f.usage = .y
  wheel_iff : map.wheel = true ↔ ∃ f ∈ map.fields, f.usage = .wheel
  pan_iff : map.pan = true ↔ ∃ f ∈ map.fields, f.usage = .pan
  buttons_iff : ∀ b < 8, map.buttons.getLsbD b = true ↔
    ∃ f ∈ map.fields, f.usage = .button ∧ f.button = b
  report_buttons_iff : ∀ r report, map.reports[r]? = some report → ∀ b < 8,
    (report.buttons.getLsbD b = true ↔
      ∃ f ∈ map.fields, f.report = r ∧ f.usage = .button ∧ f.button = b)
  useful_iff : ∀ r report, map.reports[r]? = some report →
    (report.useful = true ↔ ∃ f ∈ map.fields, f.report = r)

/-- The fields lie inside their reports, and two fields of one report lie one after the
other. -/
structure MouseHidMap.Separated (map : MouseHidMap) : Prop where
  ids_nodup : (map.reports.map MouseHidReport.id).Nodup
  bits_le : ∀ report ∈ map.reports, report.bits ≤ maxReportBytes * 8
  inside : ∀ f ∈ map.fields, ∃ report, map.reports[f.report]? = some report ∧
    f.bit + f.size ≤ report.bits
  size_mem : ∀ f ∈ map.fields, 1 ≤ f.size ∧ f.size ≤ 32
  button_le : ∀ f ∈ map.fields, f.button ≤ 4
  disjoint : map.fields.Pairwise fun f g => f.report = g.report → f.bit + f.size ≤ g.bit

/-- The sizes the checks of an Input item let through. -/
def SizesFit (xs : List InputItem) : Prop :=
  ∀ x ∈ xs, 1 ≤ x.global.size ∧ x.global.size ≤ 32

/-! ### The parser follows the context -/

/-- The mouse flags of the open collections, the innermost first. -/
def mouseFlags : List Collection → List Bool
  | [] => []
  | collection :: opens => enclosingMouse (collection :: opens) :: mouseFlags opens

/-- The variables of the parser represent the context. -/
structure Represents (s : ParserState) (c : Context) : Prop where
  global_eq : s.global = c.global
  stack_eq : s.stack = c.stack.reverse
  locals_eq : s.locals = c.locals
  collections_eq : s.collections = (mouseFlags c.opens).reverse

lemma represents_initial : Represents {} {} := ⟨rfl, rfl, rfl, rfl⟩

lemma mouseFlags_tail (opens : List Collection) :
    mouseFlags opens.tail = (mouseFlags opens).tail := by
  cases opens <;> rfl

lemma Represents.inMouse_eq {s : ParserState} {c : Context} (h : Represents s c) :
    s.inMouse = enclosingMouse c.opens := by
  unfold ParserState.inMouse
  rw [h.collections_eq, List.getLast?_reverse]
  cases c.opens <;> rfl

lemma Represents.input_eq {s : ParserState} {c : Context} (h : Represents s c) (flags : ℕ) :
    s.input flags = ⟨c.global, c.locals, flags, enclosingMouse c.opens⟩ := by
  unfold ParserState.input
  rw [h.global_eq, h.locals_eq, h.inMouse_eq]

/-- Opening a collection: an Application collection decides by its usage, another one is
part of what encloses it. -/
lemma mouseFlags_open (value usage : ℕ) (opens : List Collection) :
    mouseFlags (⟨value == 1, usage⟩ :: opens)
      = (if value = 1 then usage == mouseUsage else enclosingMouse opens) :: mouseFlags opens := by
  by_cases hvalue : value = 1
  · simp [mouseFlags, enclosingMouse, hvalue]
  · simp [mouseFlags, enclosingMouse, hvalue]

lemma globalStep_represents {s s' : ParserState} {c : Context} {tag size value : ℕ}
    (h : Represents s c) (hstep : s.globalStep tag size value = .ok s') :
    Represents s' (c.afterGlobal tag size value) ∧ s'.map = s.map := by
  obtain ⟨hglobal, hstack, hlocals, hcollections⟩ := h
  unfold ParserState.globalStep at hstep
  split at hstep
  case h_6 =>
    split at hstep
    · cases hstep
    · cases hstep
      refine ⟨⟨hglobal, ?_, hlocals, hcollections⟩, rfl⟩
      simp [Context.afterGlobal, hstack, hglobal]
  case h_7 =>
    cases hstacked : c.stack with
    | nil =>
      rw [hstack, hstacked] at hstep
      cases hstep
    | cons top stack =>
      rw [hstack, hstacked, List.reverse_cons, List.getLast?_append] at hstep
      cases hstep
      refine ⟨⟨?_, ?_, hlocals, hcollections⟩, rfl⟩
      · simp [Context.afterGlobal, hstacked]
      · simp [Context.afterGlobal, hstacked]
  case h_8 h0 h1 h7 h8 h9 h10 h11 =>
    cases hstep
    refine ⟨?_, rfl⟩
    simp only [Context.afterGlobal, GlobalState.declare]
    exact ⟨hglobal, hstack, hlocals, hcollections⟩
  all_goals
    first | split at hstep | skip
    all_goals cases hstep
    all_goals
      refine ⟨⟨?_, hstack, hlocals, hcollections⟩, rfl⟩
      simp [Context.afterGlobal, GlobalState.declare, hglobal]

lemma localStep_represents {s s' : ParserState} {c : Context} {tag size value : ℕ}
    (h : Represents s c) (hstep : s.localStep tag size value = .ok s') :
    Represents s' (c.afterLocal tag size value) ∧ s'.map = s.map := by
  obtain ⟨hglobal, hstack, hlocals, hcollections⟩ := h
  have husage : s.itemUsage size value = c.usageOf size value := by
    rw [ParserState.itemUsage, Context.usageOf, hglobal]
  unfold ParserState.localStep at hstep
  rw [husage] at hstep
  split at hstep
  case h_1 =>
    split at hstep
    · cases hstep
    · cases hstep
      exact ⟨⟨hglobal, hstack, by simp [Context.afterLocal, LocalState.declare, hlocals],
        hcollections⟩, rfl⟩
  case h_4 => cases hstep
  case h_5 h0 h1 h2 h10 =>
    cases hstep
    refine ⟨⟨hglobal, hstack, ?_, hcollections⟩, rfl⟩
    simp only [Context.afterLocal, LocalState.declare]
    exact hlocals
  all_goals
    cases hstep
    exact ⟨⟨hglobal, hstack, by simp [Context.afterLocal, LocalState.declare, hlocals],
      hcollections⟩, rfl⟩

lemma mainStep_represents {s s' : ParserState} {c : Context} {tag value : ℕ}
    (h : Represents s c) (hstep : s.mainStep tag value = .ok s') :
    Represents { s' with locals := {} } (c.afterMain tag value) ∧
      if tag = 8 then s.map.Fits (s.input value) ∧ s'.map = s.map.putInput (s.input value)
      else s'.map = s.map := by
  have hmouse := h.inMouse_eq
  obtain ⟨hglobal, hstack, hlocals, hcollections⟩ := h
  unfold ParserState.mainStep at hstep
  split at hstep
  · split at hstep
    · cases hstep
    · cases hstep
      refine ⟨⟨hglobal, hstack, rfl, ?_⟩, rfl⟩
      simp only [Context.afterMain]
      rw [mouseFlags_open, List.reverse_cons, ← hcollections, hlocals, hmouse]
      rfl
  · split at hstep
    · cases hstep
    · cases hstep
      refine ⟨⟨hglobal, hstack, rfl, ?_⟩, rfl⟩
      simp only [Context.afterMain]
      rw [mouseFlags_tail, hcollections, List.dropLast_reverse]
  · split at hstep
    · cases hstep
      exact ⟨⟨hglobal, hstack, rfl, hcollections⟩, by rw [if_pos rfl]; exact ⟨‹_›, rfl⟩⟩
    · cases hstep
  · rename_i h10 h12 h8
    cases hstep
    refine ⟨?_, by rw [if_neg h8]⟩
    simp only [Context.afterMain]
    exact ⟨hglobal, hstack, rfl, hcollections⟩

/-- An item that succeeds changes the context as declared, and the map only if it is an
Input item. -/
lemma step_represents {s s' : ParserState} {c : Context} {item : Item} (h : Represents s c)
    (hstep : s.step item = .ok s') :
    Represents s' (c.next item) ∧
      match c.input? item with
      | none => s'.map = s.map
      | some x => s.map.Fits x ∧ s'.map = s.map.putInput x := by
  cases item with
  | long =>
    cases hstep
    exact ⟨h, rfl⟩
  | short type tag size value =>
    dsimp only [ParserState.step] at hstep
    dsimp only [Context.next, Context.input?]
    split at hstep
    · rename_i htype
      rw [if_pos htype, if_neg (by omega)]
      exact globalStep_represents h hstep
    · split at hstep
      · rename_i hne htype
        rw [if_neg hne, if_pos htype, if_neg (by omega)]
        exact localStep_represents h hstep
      · split at hstep
        · rename_i hne hne' htype
          rw [if_neg hne, if_neg hne', if_pos htype]
          cases hmain : s.mainStep tag value with
          | error e =>
            rw [hmain] at hstep
            cases hstep
          | ok t =>
            rw [hmain] at hstep
            cases hstep
            obtain ⟨hcontext, hmap⟩ := mainStep_represents h hmain
            refine ⟨hcontext, ?_⟩
            by_cases htag : tag = 8
            · rw [if_pos htag, h.input_eq] at hmap
              rw [if_pos ⟨htype, htag⟩]
              exact hmap
            · rw [if_neg htag] at hmap
              rw [if_neg (fun hboth => htag hboth.2)]
              exact hmap
        · rename_i hne hne' hne''
          cases hstep
          rw [if_neg hne, if_neg hne', if_neg hne'', if_neg (fun hboth => hne'' hboth.1)]
          exact ⟨h, rfl⟩

/-! ### First-use order -/

section FirstUse

variable {α β : Type} [BEq α] [LawfulBEq α]

lemma eraseDups_concat (l : List α) (a : α) :
    (l ++ [a]).eraseDups = if a ∈ l.eraseDups then l.eraseDups else l.eraseDups ++ [a] := by
  classical
  rw [List.eraseDups_append]
  by_cases ha : a ∈ l
  · rw [if_pos (List.mem_eraseDups.2 ha)]
    simp [List.cons_removeAll, ha]
  · rw [if_neg (fun h => ha (List.mem_eraseDups.1 h))]
    simp [List.cons_removeAll, ha]
    rfl

lemma nodup_eraseDups (l : List α) : l.eraseDups.Nodup := by
  induction l using List.reverseRecOn with
  | nil => exact List.nodup_nil
  | append_singleton l a ih =>
    rw [eraseDups_concat]
    split
    · exact ih
    · rename_i ha
      rw [List.nodup_append]
      refine ⟨ih, List.nodup_singleton a, ?_⟩
      intro b hb c hc hbc
      rw [List.mem_singleton] at hc
      subst hc hbc
      exact ha hb

/-- Changing the entry of a key in a table without repeated keys. -/
lemma modify_map_idxOf {l : List α} (hl : l.Nodup) {a : α} (F : α → β) (g : β → β) :
    (l.map F).modify (l.idxOf a) g = l.map fun b => if b == a then g (F b) else F b := by
  apply List.ext_getElem?
  intro j
  rw [List.getElem?_modify, List.getElem?_map, List.getElem?_map]
  cases hj : l[j]? with
  | none => simp
  | some b =>
    obtain ⟨hlt, hb⟩ := List.getElem?_eq_some_iff.1 hj
    have hidx : l.idxOf a = j ↔ b = a := by
      constructor
      · intro h
        subst h
        rw [← hb]
        exact List.getElem_idxOf hlt
      · intro h
        rw [← h, ← hb]
        exact hl.idxOf_getElem j hlt
    by_cases h : b = a
    · simp [h, hidx.2 h]
    · simp [h, mt hidx.1 h]

lemma getD_findIdx?_map (l : List β) (F : β → α) (a : α) :
    (l.findIdx? fun b => F b == a).getD l.length = (l.map F).idxOf a := by
  have hcomp : (fun b => F b == a) = (· == a) ∘ F := rfl
  rw [hcomp, ← List.findIdx?_map, List.idxOf]
  cases h : (l.map F).findIdx? (· == a) with
  | none =>
    rw [List.findIdx_eq_length_of_false (by simpa using h)]
    simp
  | some i => rw [(List.findIdx?_eq_some_iff_findIdx_eq.1 h).2]; rfl

end FirstUse

/-! ### The fields of an Input item -/

lemma mem_fields {x : InputItem} {report start : ℕ} {f : MouseHidField}
    (hf : f ∈ x.fields report start) :
    ∃ i, i < x.global.count ∧ x.fieldAt report start i = some f := by
  unfold InputItem.fields at hf
  split at hf
  · obtain ⟨i, hi, hfield⟩ := List.mem_filterMap.1 hf
    exact ⟨i, List.mem_range.1 hi, hfield⟩
  · cases hf

lemma fieldAt_bit {x : InputItem} {report start i : ℕ} {f : MouseHidField}
    (h : x.fieldAt report start i = some f) :
    f.bit = start + i * x.global.size ∧ f.size = x.global.size := by
  obtain ⟨kind, -, rfl⟩ := Option.map_eq_some_iff.1 h
  exact ⟨rfl, rfl⟩

/-- The fields of an item have its size and lie in its bits of its report. -/
lemma fields_spec {x : InputItem} {report start : ℕ} {f : MouseHidField}
    (hf : f ∈ x.fields report start) :
    f.report = report ∧ f.size = x.global.size ∧ start ≤ f.bit ∧
      f.bit + f.size ≤ start + x.bits := by
  obtain ⟨i, hi, hfield⟩ := mem_fields hf
  obtain ⟨hbit, hsize⟩ := fieldAt_bit hfield
  refine ⟨(fieldAt_some hfield).1, hsize, by omega, ?_⟩
  have hle : (i + 1) * x.global.size ≤ x.global.count * x.global.size :=
    Nat.mul_le_mul_right _ hi
  calc f.bit + f.size = start + (i + 1) * x.global.size := by rw [hbit, hsize]; ring
    _ ≤ start + x.bits := by rw [InputItem.bits, Nat.mul_comm x.global.size]; omega

lemma fields_disjoint (x : InputItem) (report start : ℕ) :
    (x.fields report start).Pairwise fun f g => f.report = g.report → f.bit + f.size ≤ g.bit := by
  unfold InputItem.fields
  split
  · rw [List.pairwise_filterMap]
    apply List.pairwise_lt_range.imp
    intro i j hij f hf g hg _
    obtain ⟨hfbit, hfsize⟩ := fieldAt_bit hf
    obtain ⟨hgbit, -⟩ := fieldAt_bit hg
    calc f.bit + f.size = start + (i + 1) * x.global.size := by rw [hfbit, hfsize]; ring
      _ ≤ start + j * x.global.size := by
        have : (i + 1) * x.global.size ≤ j * x.global.size := Nat.mul_le_mul_right _ hij
        omega
      _ = g.bit := hgbit.symm
  · exact List.Pairwise.nil

lemma mem_declaredFields {xs : List InputItem} {f : MouseHidField} (hf : f ∈ declaredFields xs) :
    ∃ x ∈ xs, f.button ≤ 4 ∧ f.size = x.global.size := by
  obtain ⟨⟨x, k⟩, hx, hfield⟩ := List.mem_flatMap.1 hf
  obtain ⟨i, -, hi⟩ := mem_fields hfield
  exact ⟨x, List.fst_mem_of_mem_zipIdx hx, (fieldAt_some hi).2, (fieldAt_bit hi).2⟩

/-! ### Storing an Input item -/

section PutInput

variable {map : MouseHidMap} {xs : List InputItem} {x : InputItem}

lemma foldl_putField_fields (fields : List MouseHidField) (map : MouseHidMap) :
    (fields.foldl MouseHidMap.putField map).fields = map.fields ++ fields := by
  induction fields generalizing map with
  | nil => simp
  | cons field fields ih => rw [List.foldl_cons, ih, putField_fields, List.append_assoc]; rfl

/-- Storing fields changes no ID and no number of bits. -/
lemma foldl_putField_shape (fields : List MouseHidField) (map : MouseHidMap) :
    (fields.foldl MouseHidMap.putField map).reports.map (fun r => (r.id, r.bits))
      = map.reports.map fun r => (r.id, r.bits) := by
  induction fields generalizing map with
  | nil => rfl
  | cons field fields ih =>
    obtain ⟨f, hf, hreports⟩ := putField_reports map field
    rw [List.foldl_cons, ih, hreports]
    apply List.ext_getElem?
    intro i
    simp only [List.getElem?_map, List.getElem?_modify]
    cases map.reports[i]? with
    | none => rfl
    | some r => by_cases hi : field.report = i <;> simp [hi, hf]

lemma putInput_fields (map : MouseHidMap) (x : InputItem) :
    (map.putInput x).fields
      = map.fields ++ x.fields (map.indexOf x.id) (map.bitsOf x.id) :=
  foldl_putField_fields _ _

lemma indexOf_eq_idxOf (map : MouseHidMap) (id : ℕ) :
    map.indexOf id = (map.reports.map MouseHidReport.id).idxOf id :=
  getD_findIdx?_map map.reports MouseHidReport.id id

lemma opened_eq (map : MouseHidMap) (id : ℕ) :
    map.opened id
      = if id ∈ map.reports.map MouseHidReport.id then map.reports
        else map.reports ++ [{ id := id }] := by
  have hsome : (mouseHidReportIndex map id).isSome = true ↔
      id ∈ map.reports.map MouseHidReport.id := by
    simp [mouseHidReportIndex, List.findIdx?_isSome]
  unfold MouseHidMap.opened
  simp only [hsome]

lemma reportBits_concat (xs : List InputItem) (x : InputItem) (id : ℕ) :
    reportBits (xs ++ [x]) id =
      if x.id = id then reportBits xs id + x.bits else reportBits xs id := by
  by_cases h : x.id = id <;> simp [reportBits, List.filter_append, h]

lemma reportIds_concat (xs : List InputItem) (x : InputItem) :
    reportIds (xs ++ [x])
      = if x.id ∈ reportIds xs then reportIds xs else reportIds xs ++ [x.id] := by
  rw [reportIds, List.map_append]
  exact eraseDups_concat _ _

lemma mem_reportIds {xs : List InputItem} {id : ℕ} :
    id ∈ reportIds xs ↔ ∃ x ∈ xs, x.id = id := by
  rw [reportIds, List.mem_eraseDups, List.mem_map]

lemma reportBits_of_notMem {xs : List InputItem} {id : ℕ} (h : id ∉ reportIds xs) :
    reportBits xs id = 0 := by
  have hfilter : (xs.filter fun x => x.id == id) = [] := by
    rw [List.filter_eq_nil_iff]
    intro x hx hid
    exact h (mem_reportIds.2 ⟨x, hx, by simpa using hid⟩)
  rw [reportBits, hfilter]
  rfl

lemma idxOf_reportIds_concat {xs : List InputItem} {id : ℕ} (x : InputItem)
    (h : id ∈ reportIds xs ∨ id = x.id) :
    (reportIds (xs ++ [x])).idxOf id = (reportIds xs).idxOf id := by
  rw [reportIds_concat]
  split
  · rfl
  · rename_i hx
    rcases h with h | rfl
    · rw [List.idxOf_append_of_mem h]
    · rw [List.idxOf_append_of_notMem hx, List.idxOf_eq_length hx, List.idxOf_cons_self,
        Nat.add_zero]

lemma declaredFields_concat (xs : List InputItem) (x : InputItem) :
    declaredFields (xs ++ [x])
      = declaredFields xs ++ x.fields ((reportIds xs).idxOf x.id) (reportBits xs x.id) := by
  unfold declaredFields
  rw [List.zipIdx_append, List.flatMap_append]
  congr 1
  · apply List.flatMap_congr
    rintro ⟨y, k⟩ hy
    have hk : k < xs.length := by
      have := List.snd_lt_of_mem_zipIdx hy
      omega
    have hmem : y ∈ xs := List.fst_mem_of_mem_zipIdx hy
    dsimp only
    rw [List.take_append_of_le_length hk.le,
      idxOf_reportIds_concat x (.inl (mem_reportIds.2 ⟨y, hmem, rfl⟩))]
  · simp [idxOf_reportIds_concat x (.inr rfl : x.id ∈ reportIds xs ∨ x.id = x.id)]

namespace MouseHidMap.LaidOut

variable (h : map.LaidOut xs)
include h

lemma ids_eq : map.reports.map MouseHidReport.id = reportIds xs := by
  have hids := congrArg (List.map Prod.fst) h.reports_eq
  simpa [Function.comp_def] using hids

lemma indexOf_eq (id : ℕ) : map.indexOf id = (reportIds xs).idxOf id := by
  rw [indexOf_eq_idxOf, h.ids_eq]

/-- After the report of an Input item has been looked up, it is among the reports, with the
bits declared before the item. -/
lemma opened_shape (x : InputItem) :
    (map.opened x.id).map (fun r => (r.id, r.bits))
      = (reportIds (xs ++ [x])).map fun id => (id, reportBits xs id) := by
  rw [opened_eq, h.ids_eq, reportIds_concat]
  split
  · exact h.reports_eq
  · rename_i hx
    rw [List.map_append, List.map_append, h.reports_eq]
    simp [reportBits_of_notMem hx]

lemma bitsOf_eq (x : InputItem) : map.bitsOf x.id = reportBits xs x.id := by
  have hmem : x.id ∈ reportIds (xs ++ [x]) := mem_reportIds.2 ⟨x, by simp, rfl⟩
  have hidx := idxOf_reportIds_concat x (.inr rfl : x.id ∈ reportIds xs ∨ x.id = x.id)
  have hentry := congrArg (fun l => l[map.indexOf x.id]?.map Prod.snd) (h.opened_shape x)
  simp only [List.getElem?_map, Option.map_map, Function.comp_def] at hentry
  rw [MouseHidMap.bitsOf]
  change ((map.opened x.id)[map.indexOf x.id]?.map fun r => r.bits).getD 0 = _
  rw [hentry, h.indexOf_eq, ← hidx, List.getElem?_eq_getElem (List.idxOf_lt_length_of_mem hmem),
    List.getElem_idxOf]
  rfl

/-- Storing an Input item keeps the map laid out as declared. -/
lemma putInput (x : InputItem) : (map.putInput x).LaidOut (xs ++ [x]) := by
  constructor
  · have hgrow : (map.grow x).reports.map (fun r => (r.id, r.bits))
        = ((map.opened x.id).map fun r => (r.id, r.bits)).modify (map.indexOf x.id)
            fun entry => (entry.1, entry.2 + x.bits) := by
      apply List.ext_getElem?
      intro i
      simp only [MouseHidMap.grow, InputItem.id, List.getElem?_map, List.getElem?_modify]
      cases (map.opened x.global.id)[i]? with
      | none => rfl
      | some r => by_cases hi : map.indexOf x.global.id = i <;> simp [hi]
    have hnodup : (reportIds (xs ++ [x])).Nodup := nodup_eraseDups _
    rw [MouseHidMap.putInput, foldl_putField_shape, hgrow, h.opened_shape, h.indexOf_eq,
      ← idxOf_reportIds_concat x (.inr rfl), modify_map_idxOf hnodup]
    apply List.map_congr_left
    intro id _
    rw [reportBits_concat]
    by_cases hid : x.id = id
    · simp [hid]
    · simp [hid, Ne.symm hid]
  · rw [putInput_fields, declaredFields_concat, h.fields_eq, h.indexOf_eq, h.bitsOf_eq]

end MouseHidMap.LaidOut

end PutInput

/-! ### The summary -/

lemma exists_mem_concat {α : Type} {l : List α} {a : α} {P : α → Prop} :
    (∃ b ∈ l ++ [a], P b) ↔ (∃ b ∈ l, P b) ∨ P a := by
  simp only [List.mem_append, List.mem_singleton]
  constructor
  · rintro ⟨b, hb | rfl, hP⟩
    · exact .inl ⟨b, hb, hP⟩
    · exact .inr hP
  · rintro (⟨b, hb, hP⟩ | hP)
    · exact ⟨b, .inl hb, hP⟩
    · exact ⟨a, .inr rfl, hP⟩

/-- The bit of a button field. -/
lemma fieldMask_iff (field : MouseHidField) {b : ℕ} (hb : b < 8) :
    (if field.usage = .button then BitVec.ofNat 8 (2 ^ field.button) else 0#8).getLsbD b = true ↔
      field.usage = .button ∧ field.button = b := by
  by_cases h : field.usage = .button
  · rw [if_pos h, BitVec.getLsbD_ofNat, Nat.testBit_two_pow]
    simp [h, hb]
  · simp [h]

namespace MouseHidMap.Summarised

variable {map : MouseHidMap} (h : map.Summarised)
include h

lemma putField {field : MouseHidField} (hreport : field.report < map.reports.length) :
    (map.putField field).Summarised := by
  have hget : ∀ r report, (map.putField field).reports[r]? = some report →
      ∃ old, map.reports[r]? = some old ∧ report = if field.report = r then
        { old with useful := true, buttons := old.buttons |||
          (if field.usage = .button then BitVec.ofNat 8 (2 ^ field.button) else 0#8) }
      else old := by
    intro r report hr
    simp only [MouseHidMap.putField, List.getElem?_modify] at hr
    cases hold : map.reports[r]? with
    | none => simp [hold] at hr
    | some old =>
      rw [hold] at hr
      simp only [Option.map_eq_map, Option.map_some, Option.some.injEq] at hr
      exact ⟨old, rfl, hr.symm⟩
  constructor
  · intro f hf
    rw [putField_reports_length]
    rw [putField_fields, List.mem_append, List.mem_singleton] at hf
    rcases hf with hf | rfl
    · exact h.report_lt f hf
    · exact hreport
  · rw [putField_fields, exists_mem_concat, ← h.x_iff]
    cases husage : field.usage <;> simp [MouseHidMap.putField, MouseHidMap.noteAxis, husage]
  · rw [putField_fields, exists_mem_concat, ← h.y_iff]
    cases husage : field.usage <;> simp [MouseHidMap.putField, MouseHidMap.noteAxis, husage]
  · rw [putField_fields, exists_mem_concat, ← h.wheel_iff]
    cases husage : field.usage <;> simp [MouseHidMap.putField, MouseHidMap.noteAxis, husage]
  · rw [putField_fields, exists_mem_concat, ← h.pan_iff]
    cases husage : field.usage <;> simp [MouseHidMap.putField, MouseHidMap.noteAxis, husage]
  · intro b hb
    rw [putField_fields, exists_mem_concat, ← h.buttons_iff b hb, ← fieldMask_iff field hb]
    simp only [MouseHidMap.putField, BitVec.getLsbD_or, Bool.or_eq_true]
    rfl
  · intro r report hr b hb
    obtain ⟨old, hold, rfl⟩ := hget r report hr
    rw [putField_fields, exists_mem_concat, ← h.report_buttons_iff r old hold b hb]
    by_cases hidx : field.report = r
    · rw [if_pos hidx, ← fieldMask_iff field hb]
      simp only [BitVec.getLsbD_or, Bool.or_eq_true, hidx, true_and]
    · simp [hidx]
  · intro r report hr
    obtain ⟨old, hold, rfl⟩ := hget r report hr
    rw [putField_fields, exists_mem_concat, ← h.useful_iff r old hold]
    by_cases hidx : field.report = r
    · simp [hidx]
    · simp [hidx]

lemma grow (x : InputItem) : (map.grow x).Summarised := by
  have hlen : map.reports.length ≤ (map.grow x).reports.length := by
    simp only [MouseHidMap.grow, List.length_modify]
    unfold MouseHidMap.opened
    split <;> simp
  -- a report of the grown map is an old one, or a new one without fields
  have hget : ∀ r report, (map.grow x).reports[r]? = some report →
      (∃ old, map.reports[r]? = some old ∧ report.buttons = old.buttons ∧
        report.useful = old.useful) ∨
      (map.reports.length ≤ r ∧ report.buttons = 0 ∧ report.useful = false) := by
    intro r report hr
    simp only [MouseHidMap.grow, List.getElem?_modify, Option.map_eq_map,
      Option.map_eq_some_iff] at hr
    obtain ⟨opened, hopened, rfl⟩ := hr
    rw [opened_eq] at hopened
    split at hopened
    · refine .inl ⟨opened, hopened, ?_, ?_⟩ <;> split <;> rfl
    · by_cases hr : r < map.reports.length
      · rw [List.getElem?_append_left hr] at hopened
        refine .inl ⟨opened, hopened, ?_, ?_⟩ <;> split <;> rfl
      · rw [List.getElem?_append_right (by omega), List.getElem?_singleton] at hopened
        split at hopened
        · cases hopened
          refine .inr ⟨by omega, ?_, ?_⟩ <;> split <;> rfl
        · cases hopened
  constructor
  · intro f hf
    exact lt_of_lt_of_le (h.report_lt f hf) hlen
  · exact h.x_iff
  · exact h.y_iff
  · exact h.wheel_iff
  · exact h.pan_iff
  · exact h.buttons_iff
  · intro r report hr b hb
    rcases hget r report hr with ⟨old, hold, hbuttons, -⟩ | ⟨hnew, hbuttons, -⟩
    · rw [hbuttons]
      exact h.report_buttons_iff r old hold b hb
    · rw [hbuttons]
      simp only [BitVec.ofNat_eq_ofNat, BitVec.getLsbD_zero, Bool.false_eq_true, false_iff]
      rintro ⟨f, hf, rfl, -⟩
      exact absurd (h.report_lt f hf) (not_lt.2 hnew)
  · intro r report hr
    rcases hget r report hr with ⟨old, hold, -, huseful⟩ | ⟨hnew, -, huseful⟩
    · rw [huseful]
      exact h.useful_iff r old hold
    · rw [huseful]
      simp only [Bool.false_eq_true, false_iff]
      rintro ⟨f, hf, rfl⟩
      exact absurd (h.report_lt f hf) (not_lt.2 hnew)

lemma foldl_putField (fields : List MouseHidField)
    (hreport : ∀ f ∈ fields, f.report < map.reports.length) :
    (fields.foldl MouseHidMap.putField map).Summarised := by
  induction fields generalizing map with
  | nil => exact h
  | cons field fields ih =>
    apply ih (h.putField (hreport field (by simp)))
    intro f hf
    rw [putField_reports_length]
    exact hreport f (by simp [hf])

lemma putInput (x : InputItem) : (map.putInput x).Summarised := by
  apply (h.grow x).foldl_putField
  intro f hf
  obtain ⟨i, -, hi⟩ := mem_fields hf
  rw [(fieldAt_some hi).1, MouseHidMap.grow, List.length_modify]
  exact indexOf_lt_opened map x.global.id

end MouseHidMap.Summarised

/-! ### Separation of the declared fields -/

section Separation

variable {xs : List InputItem}

lemma reportBits_le_concat (xs : List InputItem) (x : InputItem) (id : ℕ) :
    reportBits xs id ≤ reportBits (xs ++ [x]) id := by
  rw [reportBits_concat]
  split <;> omega

lemma declared_inside {f : MouseHidField} (hf : f ∈ declaredFields xs) :
    ∃ id, (reportIds xs)[f.report]? = some id ∧ f.bit + f.size ≤ reportBits xs id := by
  induction xs using List.reverseRecOn with
  | nil => simp [declaredFields] at hf
  | append_singleton xs x ih =>
    rw [declaredFields_concat, List.mem_append] at hf
    rcases hf with hf | hf
    · obtain ⟨id, hid, hle⟩ := ih hf
      refine ⟨id, ?_, hle.trans (reportBits_le_concat xs x id)⟩
      rw [reportIds_concat]
      split
      · exact hid
      · exact List.getElem?_append_left (List.getElem?_eq_some_iff.1 hid).1 ▸ hid
    · obtain ⟨hreport, -, -, hend⟩ := fields_spec hf
      have hmem : x.id ∈ reportIds (xs ++ [x]) := mem_reportIds.2 ⟨x, by simp, rfl⟩
      refine ⟨x.id, ?_, ?_⟩
      · rw [hreport, ← idxOf_reportIds_concat x (.inr rfl),
          List.getElem?_eq_getElem (List.idxOf_lt_length_of_mem hmem), List.getElem_idxOf]
      · rw [reportBits_concat, if_pos rfl]
        exact hend

lemma declared_disjoint (xs : List InputItem) :
    (declaredFields xs).Pairwise fun f g => f.report = g.report → f.bit + f.size ≤ g.bit := by
  induction xs using List.reverseRecOn with
  | nil => exact List.Pairwise.nil
  | append_singleton xs x ih =>
    rw [declaredFields_concat, List.pairwise_append]
    refine ⟨ih, fields_disjoint x _ _, ?_⟩
    intro f hf g hg hreport
    obtain ⟨id, hid, hle⟩ := declared_inside hf
    obtain ⟨hg', -, hstart, -⟩ := fields_spec hg
    -- a report that has a field already is the report of the item only under its ID
    rw [hreport, hg'] at hid
    have hlt := (List.getElem?_eq_some_iff.1 hid).1
    rw [List.getElem?_eq_getElem hlt, List.getElem_idxOf, Option.some_inj] at hid
    rw [← hid] at hle
    exact hle.trans hstart

/-- The fields of a map that is laid out as declared are separated. -/
lemma MouseHidMap.LaidOut.separated {map : MouseHidMap} (h : map.LaidOut xs) (hb : map.Bounded)
    (hsize : SizesFit xs) : map.Separated := by
  constructor
  · rw [h.ids_eq]
    exact nodup_eraseDups _
  · exact hb.bits_le
  · intro f hf
    rw [h.fields_eq] at hf
    obtain ⟨id, hid, hle⟩ := declared_inside hf
    have hentry := congrArg (fun l => l[f.report]?) h.reports_eq
    simp only [List.getElem?_map, hid, Option.map_some] at hentry
    obtain ⟨report, hreport, hpair⟩ := Option.map_eq_some_iff.1 hentry
    rw [Prod.mk.injEq] at hpair
    exact ⟨report, hreport, by rw [hpair.2]; exact hle⟩
  · intro f hf
    obtain ⟨x, hx, hspec⟩ := mem_declaredFields (h.fields_eq ▸ hf)
    rw [hspec.2]
    exact hsize x hx
  · intro f hf
    obtain ⟨x, hx, hspec⟩ := mem_declaredFields (h.fields_eq ▸ hf)
    exact hspec.1
  · rw [h.fields_eq]
    exact declared_disjoint xs

end Separation

/-! ### Runs -/

/-- Along a run of the parser, the map stays laid out as the Input items read so far
declare, and its flags summarise its fields. -/
lemma runs_layout {items : List Item} {s s' : ParserState} {c : Context} {xs : List InputItem}
    (hc : Represents s c) (hlaid : s.map.LaidOut xs) (hsum : s.map.Summarised)
    (hsize : SizesFit xs) (hrun : items.foldlM ParserState.step s = .ok s') :
    s'.map.LaidOut (xs ++ c.inputs items) ∧ s'.map.Summarised ∧
      SizesFit (xs ++ c.inputs items) := by
  induction items generalizing s c xs with
  | nil =>
    cases hrun
    rw [Context.inputs, List.append_nil]
    exact ⟨hlaid, hsum, hsize⟩
  | cons item items ih =>
    rw [List.foldlM_cons] at hrun
    cases hstep : s.step item with
    | error e =>
      rw [hstep] at hrun
      cases hrun
    | ok t =>
      rw [hstep] at hrun
      obtain ⟨ht, hmap⟩ := step_represents hc hstep
      rw [Context.inputs, ← List.append_assoc]
      cases hinput : c.input? item with
      | none =>
        rw [hinput] at hmap
        dsimp only at hmap
        rw [Option.toList_none, List.append_nil]
        exact ih ht (hmap ▸ hlaid) (hmap ▸ hsum) hsize hrun
      | some x =>
        rw [hinput] at hmap
        dsimp only at hmap
        obtain ⟨hfits, hput⟩ := hmap
        refine ih ht (hput ▸ hlaid.putInput x) (hput ▸ hsum.putInput x) ?_ hrun
        intro y hy
        rw [Option.toList_some, List.mem_append, List.mem_singleton] at hy
        rcases hy with hy | rfl
        · exact hsize y hy
        · exact ⟨hfits.1.2.1, hfits.1.2.2.1⟩

lemma laidOut_nil : ({} : MouseHidMap).LaidOut [] := ⟨rfl, rfl⟩

lemma summarised_empty : ({} : MouseHidMap).Summarised := by
  constructor <;> simp

lemma Reads.unique {bytes : List UInt8} {items items' : List Item} (h : Reads bytes items)
    (h' : Reads bytes items') : items' = items := by
  induction h generalizing items' with
  | nil =>
    cases h'
    rfl
  | cons hsplit _ ih =>
    cases h' with
    | cons hsplit' hrest' =>
      rw [hsplit] at hsplit'
      cases hsplit'
      rw [ih hrest']

/-- What the parser has established when it accepts. -/
lemma parsed_map_layout {data : List UInt8} {map : MouseHidMap}
    (h : mouseHidParse data = .ok map) :
    ∃ items, Reads data items ∧ map.LaidOut (({} : Context).inputs items) ∧ map.Summarised ∧
      map.Separated := by
  obtain ⟨-, items, s, hreads, hrun, -, -, -, -, rfl⟩ := mouseHidParse_eq_ok_iff.1 h
  obtain ⟨hlaid, hsum, hsize⟩ :=
    runs_layout represents_initial laidOut_nil summarised_empty (by simp [SizesFit]) hrun
  rw [List.nil_append] at hlaid hsize
  exact ⟨items, hreads, hlaid, hsum,
    hlaid.separated (run_bounded bounded_initial hrun).map hsize⟩

/-- The map of an accepted descriptor is the report layout that its items declare: it lists
the reports in first-use order with all their bits, the recognised controls in declaration
order at the offsets of their items, and flags that say which controls there are.  The fields
of a report lie inside it, one after the other. -/
theorem parsed_map_is_declared_layout (data : List UInt8) (map : MouseHidMap)
    (h : mouseHidParse data = .ok map) :
    ∃ items, (Reads data items ∧ ∀ items', Reads data items' → items' = items) ∧
      map.LaidOut (({} : Context).inputs items) ∧ map.Summarised ∧ map.Separated := by
  obtain ⟨items, hreads, hlayout⟩ := parsed_map_layout h
  exact ⟨items, ⟨hreads, fun items' h' => hreads.unique h'⟩, hlayout⟩

theorem plain_mouse_map_is_declared_layout :
    ∃ items, (Reads plainMouse items ∧ ∀ items', Reads plainMouse items' → items' = items) ∧
      plainMouseMap.LaidOut (({} : Context).inputs items) ∧ plainMouseMap.Summarised ∧
      plainMouseMap.Separated :=
  parsed_map_is_declared_layout plainMouse plainMouseMap parse_plainMouse

end BleMouse.Hid
