/-
The grammar of report descriptors.

The descriptors that the parser accepts are described here without a parser: by conditions on
the list of items, on the nesting of collections and of PUSH and POP, and on the Input items with
what is in force at them.

* `Regular`: the conditions that every beginning of a descriptor satisfies;
* `Grammatical`: the conditions on a whole descriptor;
* `run_ok_iff`: the parser gets through a list of items exactly when it is regular;
* `parser_accepts_its_grammar`: it accepts exactly the grammatical descriptors.
-/
import BleMouse.Hid.Layout
import BleMouse.Lib.Nesting

namespace BleMouse.Hid

open Checked Nesting

/-! ### Kinds of items -/

namespace Item

/-- The item is a short one of a type and with a tag. -/
def is (type tag : ℕ) : Item → Bool
  | .short type' tag' _ _ => type' == type && tag' == tag
  | .long => false

lemma is_short (type tag type' tag' size value : ℕ) :
    is type tag (.short type' tag' size value) = true ↔ type' = type ∧ tag' = tag := by
  simp [is]

def isMain : Item → Bool
  | .short type _ _ _ => type == 0
  | .long => false

def isCollection : Item → Bool := is 0 10

def isEndCollection : Item → Bool := is 0 12

def isPush : Item → Bool := is 1 10

def isPop : Item → Bool := is 1 11

def isUsage : Item → Bool := is 2 0

variable (item : Item)

lemma collection_disjoint : item.isCollection = true → item.isEndCollection = false := by
  cases item <;> simp +contextual [isCollection, isEndCollection, is]

lemma push_disjoint : item.isPush = true → item.isPop = false := by
  cases item <;> simp +contextual [isPush, isPop, is]

lemma usage_not_main : item.isUsage = true → item.isMain = false := by
  cases item <;> simp +contextual [isUsage, isMain, is]

/-- The values of Usage Page, Logical Minimum and Report ID that are permitted; Delimiter is
not. -/
def Permitted : Item → Prop
  | .long => True
  | .short type tag size value =>
    (type = 1 ∧ tag = 0 → value ≤ 0xffff) ∧ (type = 1 ∧ tag = 1 → size ≠ 0) ∧
      (type = 1 ∧ tag = 8 → 1 ≤ value ∧ value ≤ 255) ∧ ¬(type = 2 ∧ tag = 10)

end Item

/-! ### Input items -/

namespace InputItem

variable (x : InputItem)

/-- The recognised controls of an Input item. -/
def controls : List (MouseHidUsage × ℕ) :=
  if x.isVariable then (List.range x.global.count).filterMap x.control else []

/-- The item carries a relative axis of a mouse. -/
def Moves (axis : MouseHidUsage) : Prop :=
  x.inMouse = true ∧ x.flags.testBit 2 = true ∧ ∃ kind ∈ x.controls, kind.1 = axis

lemma length_fields (report start : ℕ) : (x.fields report start).length = x.controls.length := by
  have hlength (l : List ℕ) :
      (l.filterMap (x.fieldAt report start)).length = (l.filterMap x.control).length := by
    induction l with
    | nil => rfl
    | cons i l ih =>
      cases hcontrol : x.control i with
      | none =>
        have hfield : x.fieldAt report start i = none := by rw [fieldAt, hcontrol]; rfl
        rw [List.filterMap_cons_none hfield, List.filterMap_cons_none hcontrol, ih]
      | some kind =>
        have hfield : x.fieldAt report start i =
            some ((x.fieldAt report start i).get (by simp [fieldAt, hcontrol])) := by simp
        rw [List.filterMap_cons_some hfield, List.filterMap_cons_some hcontrol,
          List.length_cons, List.length_cons, ih]
  unfold fields controls
  split
  · exact hlength _
  · rfl

end InputItem

lemma length_declaredFields (xs : List InputItem) :
    (declaredFields xs).length = (xs.flatMap InputItem.controls).length := by
  induction xs using List.reverseRecOn with
  | nil => rfl
  | append_singleton xs x ih =>
    rw [declaredFields_concat, List.length_append, ih, x.length_fields, List.flatMap_append,
      List.length_append, List.flatMap_singleton]

/-- The Input items fit into the reports and into the map. -/
structure InputsFit (xs : List InputItem) : Prop where
  sizes : ∀ x ∈ xs, (1 ≤ x.global.size ∧ x.global.size ≤ 32) ∧ 1 ≤ x.global.count ∧
    x.global.size * x.global.count ≤ 512
  bits : ∀ id, reportBits xs id ≤ 512
  reports : (reportIds xs).length ≤ 8
  controls : (xs.flatMap InputItem.controls).length ≤ 48

/-! ### Descriptors -/

/-- What every beginning of a descriptor satisfies. -/
structure Regular (items : List Item) : Prop where
  collections : Nests Item.isCollection Item.isEndCollection 8 items
  pushes : Nests Item.isPush Item.isPop 8 items
  permitted : ∀ item ∈ items, item.Permitted
  usages : Sparse Item.isMain Item.isUsage 32 items
  inputs : InputsFit (({} : Context).inputs items)

/-- A list of items that is a descriptor of a mouse. -/
structure Grammatical (items : List Item) : Prop extends Regular items where
  closed : height Item.isCollection Item.isEndCollection items = 0
  popped : height Item.isPush Item.isPop items = 0
  movesX : ∃ x ∈ ({} : Context).inputs items, x.Moves .x
  movesY : ∃ x ∈ ({} : Context).inputs items, x.Moves .y

/-! ### One more item -/

/-- The context after a list of items. -/
def Context.after (c : Context) (items : List Item) : Context := items.foldl Context.next c

lemma Context.after_concat (c : Context) (items : List Item) (item : Item) :
    c.after (items ++ [item]) = (c.after items).next item := by
  unfold Context.after
  rw [List.foldl_append]
  rfl

lemma Context.inputs_concat (c : Context) (items : List Item) (item : Item) :
    c.inputs (items ++ [item]) = c.inputs items ++ ((c.after items).input? item).toList := by
  induction items generalizing c with
  | nil => simp [Context.inputs, Context.after]
  | cons first items ih =>
    rw [List.cons_append, Context.inputs, Context.inputs, ih, List.append_assoc]
    rfl

/-! ### The items that the parser takes -/

lemma length_mouseFlags (opens : List Collection) :
    (mouseFlags opens).length = opens.length := by
  induction opens with
  | nil => rfl
  | cons collection opens ih => rw [mouseFlags, List.length_cons, List.length_cons, ih]

/-- The parser has no objection to an item in a context. -/
structure ParserState.Takes (s : ParserState) (c : Context) (item : Item) : Prop where
  permitted : item.Permitted
  collection : item.isCollection = true → c.opens.length < 8
  endCollection : item.isEndCollection = true → c.opens.length ≠ 0
  push : item.isPush = true → c.stack.length < 8
  pop : item.isPop = true → c.stack.length ≠ 0
  usage : item.isUsage = true → c.locals.usages.length < 32
  input : ∀ x, c.input? item = some x → s.map.Fits x

lemma globalStep_ok_iff {s : ParserState} (hs : s.stack.length ≤ stackDepth) (tag size value : ℕ) :
    (∃ s', s.globalStep tag size value = .ok s') ↔
      (tag = 0 → value ≤ 0xffff) ∧ (tag = 1 → size ≠ 0) ∧ (tag = 8 → 1 ≤ value ∧ value ≤ 255) ∧
        (tag = 10 → s.stack.length < 8) ∧ (tag = 11 → s.stack.length ≠ 0) := by
  have hdepth : stackDepth = 8 := rfl
  unfold ParserState.globalStep
  split
  case h_1 => split <;> simp_all
  case h_2 => split <;> simp_all
  case h_4 => split <;> simp_all <;> omega
  case h_6 => split <;> simp_all; omega
  case h_7 =>
    split
    · simp_all
    · rename_i hlast
      have hne : s.stack ≠ [] := by
        rintro hnil
        rw [hnil] at hlast
        cases hlast
      simp [hne]
  all_goals simp_all

lemma localStep_ok_iff {s : ParserState} (hs : s.locals.usages.length ≤ localUsages)
    (tag size value : ℕ) :
    (∃ s', s.localStep tag size value = .ok s') ↔
      (tag = 0 → s.locals.usages.length < 32) ∧ tag ≠ 10 := by
  have hdepth : localUsages = 32 := rfl
  unfold ParserState.localStep
  split
  case h_1 => split <;> simp_all; omega
  all_goals simp_all

lemma mainStep_ok_iff {s : ParserState} (hs : s.collections.length ≤ stackDepth) (tag value : ℕ) :
    (∃ s', s.mainStep tag value = .ok s') ↔
      (tag = 10 → s.collections.length < 8) ∧ (tag = 12 → s.collections.length ≠ 0) ∧
        (tag = 8 → s.map.Fits (s.input value)) := by
  have hdepth : stackDepth = 8 := rfl
  unfold ParserState.mainStep
  split
  case h_1 => split <;> simp_all; omega
  case h_2 => split <;> simp_all
  case h_3 => split <;> simp_all
  all_goals simp_all

/-- A short item is taken when the branch for its type takes it. -/
lemma step_short_ok_iff {s : ParserState} (type tag size value : ℕ) :
    (∃ s', s.step (.short type tag size value) = .ok s') ↔
      (type = 1 → ∃ s', s.globalStep tag size value = .ok s') ∧
        (type = 2 → ∃ s', s.localStep tag size value = .ok s') ∧
        (type = 0 → ∃ s', s.mainStep tag value = .ok s') := by
  constructor
  · intro hstep
    refine ⟨?_, ?_, ?_⟩
    · rintro rfl
      exact hstep
    · rintro rfl
      exact hstep
    · rintro rfl
      obtain ⟨s', hs'⟩ := hstep
      dsimp only [ParserState.step] at hs'
      rw [if_neg (by decide), if_neg (by decide), if_pos rfl] at hs'
      cases hmain : s.mainStep tag value with
      | error e =>
        rw [hmain] at hs'
        cases hs'
      | ok t => exact ⟨t, rfl⟩
  · rintro ⟨hglobal, hlocal, hmain⟩
    dsimp only [ParserState.step]
    split_ifs with hone htwo hzero
    · exact hglobal hone
    · exact hlocal htwo
    · obtain ⟨t, ht⟩ := hmain hzero
      exact ⟨{ t with locals := {} }, by rw [ht]; rfl⟩
    · exact ⟨s, rfl⟩

/-- The items that the parser takes are those that it has no objection to. -/
lemma step_ok_iff {s : ParserState} {c : Context} (hs : s.Bounded) (hc : Represents s c)
    (item : Item) :
    (∃ s', s.step item = .ok s') ↔ s.Takes c item := by
  have hstack : s.stack.length = c.stack.length := by rw [hc.stack_eq, List.length_reverse]
  have hopens : s.collections.length = c.opens.length := by
    rw [hc.collections_eq, List.length_reverse, length_mouseFlags]
  have husages : s.locals.usages.length = c.locals.usages.length := by rw [hc.locals_eq]
  cases item with
  | long =>
    refine ⟨fun _ => ?_, fun _ => ⟨s, rfl⟩⟩
    constructor <;> simp [Item.Permitted, Item.isCollection, Item.isEndCollection, Item.isPush,
      Item.isPop, Item.isUsage, Item.is, Context.input?]
  | short type tag size value =>
    have hinput (x : InputItem) : c.input? (.short type tag size value) = some x ↔
        (type = 0 ∧ tag = 8) ∧ s.input value = x := by
      rw [hc.input_eq, Context.input?]
      split <;> simp_all
    have his {type' tag' : ℕ} := Item.is_short type' tag' type tag size value
    rw [step_short_ok_iff, globalStep_ok_iff hs.stack_le, localStep_ok_iff hs.usages_le,
      mainStep_ok_iff hs.collections_le, hstack, hopens, husages]
    constructor
    · rintro ⟨hglobal, hlocal, hmain⟩
      constructor
      · exact ⟨fun h => (hglobal h.1).1 h.2, fun h => (hglobal h.1).2.1 h.2,
          fun h => (hglobal h.1).2.2.1 h.2, fun h => (hlocal h.1).2 h.2⟩
      · exact fun h => (hmain (his.1 h).1).1 (his.1 h).2
      · exact fun h => (hmain (his.1 h).1).2.1 (his.1 h).2
      · exact fun h => (hglobal (his.1 h).1).2.2.2.1 (his.1 h).2
      · exact fun h => (hglobal (his.1 h).1).2.2.2.2 (his.1 h).2
      · exact fun h => (hlocal (his.1 h).1).1 (his.1 h).2
      · intro x hx
        obtain ⟨⟨htype, htag⟩, rfl⟩ := (hinput x).1 hx
        exact (hmain htype).2.2 htag
    · intro h
      obtain ⟨hpage, hminimum, hid, hdelimiter⟩ := h.permitted
      refine ⟨fun htype => ⟨fun htag => hpage ⟨htype, htag⟩, fun htag => hminimum ⟨htype, htag⟩,
        fun htag => hid ⟨htype, htag⟩, ?_, ?_⟩, fun htype => ⟨?_, ?_⟩, fun htype => ⟨?_, ?_, ?_⟩⟩
      · exact fun htag => h.push (his.2 ⟨htype, htag⟩)
      · exact fun htag => h.pop (his.2 ⟨htype, htag⟩)
      · exact fun htag => h.usage (his.2 ⟨htype, htag⟩)
      · exact fun htag => hdelimiter ⟨htype, htag⟩
      · exact fun htag => h.collection (his.2 ⟨htype, htag⟩)
      · exact fun htag => h.endCollection (his.2 ⟨htype, htag⟩)
      · exact fun htag => h.input _ ((hinput _).2 ⟨⟨htype, htag⟩, rfl⟩)

/-! ### Regular lists that grow -/

namespace Context

variable (c : Context)

lemma next_opens_length (item : Item) : (c.next item).opens.length =
    if item.isCollection then c.opens.length + 1
    else if item.isEndCollection then c.opens.length - 1 else c.opens.length := by
  cases item with
  | long => rfl
  | short type tag size value =>
    simp only [Item.isCollection, Item.isEndCollection, Item.is_short]
    dsimp only [next, afterGlobal, afterLocal, afterMain]
    split
    · rename_i htype
      rw [if_neg (by omega), if_neg (by omega)]
      split <;> rfl
    · split
      · rw [if_neg (by omega), if_neg (by omega)]
      · split
        · split <;> simp_all
        · rw [if_neg (by omega), if_neg (by omega)]

lemma next_stack_length (item : Item) : (c.next item).stack.length =
    if item.isPush then c.stack.length + 1
    else if item.isPop then c.stack.length - 1 else c.stack.length := by
  cases item with
  | long => rfl
  | short type tag size value =>
    simp only [Item.isPush, Item.isPop, Item.is_short]
    dsimp only [next, afterGlobal, afterLocal, afterMain]
    split
    · split <;> simp_all
    · rename_i htype
      have hpush : ¬(type = 1 ∧ tag = 10) := fun h => htype h.1
      have hpop : ¬(type = 1 ∧ tag = 11) := fun h => htype h.1
      rw [if_neg hpush, if_neg hpop]
      split
      · rfl
      · split
        · split <;> rfl
        · rfl

lemma next_usages_length (item : Item) : (c.next item).locals.usages.length =
    if item.isMain then 0
    else if item.isUsage then c.locals.usages.length + 1 else c.locals.usages.length := by
  cases item with
  | long => rfl
  | short type tag size value =>
    simp only [Item.isMain, Item.isUsage, Item.is_short, beq_iff_eq]
    dsimp only [next, afterGlobal, afterLocal, afterMain, LocalState.declare]
    split
    · rw [if_neg (by omega), if_neg (by omega)]
      split <;> rfl
    · split
      · rw [if_neg (by omega)]
        dsimp only
        split <;> simp_all
      · split
        · split <;> simp_all
        · simp_all

end Context

/-- What is open in the context after a list is what the list has left open. -/
lemma after_lengths {items : List Item}
    (hcollections : Nests Item.isCollection Item.isEndCollection 8 items)
    (hpushes : Nests Item.isPush Item.isPop 8 items) :
    (({} : Context).after items).opens.length =
        height Item.isCollection Item.isEndCollection items ∧
      (({} : Context).after items).stack.length = height Item.isPush Item.isPop items ∧
      (({} : Context).after items).locals.usages.length =
        tally Item.isMain Item.isUsage items := by
  induction items using List.reverseRecOn with
  | nil => exact ⟨rfl, rfl, rfl⟩
  | append_singleton items item ih =>
    have hcollections' := ((nests_concat item.collection_disjoint).1 hcollections).1
    have hpushes' := ((nests_concat item.push_disjoint).1 hpushes).1
    obtain ⟨hopens, hstack, husages⟩ := ih hcollections' hpushes'
    rw [Context.after_concat]
    refine ⟨?_, ?_, ?_⟩
    · rw [Context.next_opens_length, height_concat hcollections' item.collection_disjoint, hopens]
    · rw [Context.next_stack_length, height_concat hpushes' item.push_disjoint, hstack]
    · rw [Context.next_usages_length, tally_concat, husages]

lemma InputsFit.init {xs : List InputItem} {x : InputItem} (h : InputsFit (xs ++ [x])) :
    InputsFit xs := by
  constructor
  · exact fun y hy => h.sizes y (List.mem_append_left _ hy)
  · exact fun id => (reportBits_le_concat xs x id).trans (h.bits id)
  · refine (List.Sublist.length_le ?_).trans h.reports
    rw [reportIds_concat]
    split
    · exact List.Sublist.refl _
    · exact List.sublist_append_left _ _
  · refine le_trans ?_ h.controls
    rw [List.flatMap_append, List.length_append]
    exact Nat.le_add_right _ _

/-- One more Input item fits into the map when all of them fit. -/
lemma inputsFit_concat {map : MouseHidMap} {xs : List InputItem} (h : map.LaidOut xs)
    (x : InputItem) : InputsFit (xs ++ [x]) ↔ InputsFit xs ∧ map.Fits x := by
  have hreports : (map.opened x.id).length = (reportIds (xs ++ [x])).length := by
    rw [← List.length_map (fun r => (r.id, r.bits)), h.opened_shape, List.length_map]
  have hbits : map.bitsOf x.id + x.bits = reportBits (xs ++ [x]) x.id := by
    rw [h.bitsOf_eq, reportBits_concat, if_pos rfl]
  have hfields : (map.fields.length +
      (x.fields (map.indexOf x.global.id) (map.bitsOf x.global.id)).length) =
      ((xs ++ [x]).flatMap InputItem.controls).length := by
    rw [h.fields_eq, length_declaredFields, InputItem.length_fields, List.flatMap_append,
      List.length_append, List.flatMap_singleton]
  constructor
  · intro hfit
    refine ⟨hfit.init, ?_⟩
    obtain ⟨⟨hone, hsize⟩, hcount, hproduct⟩ := hfit.sizes x (by simp)
    exact ⟨⟨hcount, hone, hsize, hproduct⟩, hreports.trans_le hfit.reports,
      hbits.trans_le (hfit.bits x.id), hfields.trans_le hfit.controls⟩
  · rintro ⟨hfit, ⟨hcount, hone, hsize, hproduct⟩, hopened, hroom, hcontrols⟩
    constructor
    · intro y hy
      rcases List.mem_append.1 hy with hy | hy
      · exact hfit.sizes y hy
      · rw [List.mem_singleton.1 hy]
        exact ⟨⟨hone, hsize⟩, hcount, hproduct⟩
    · intro id
      by_cases hid : x.id = id
      · rw [← hid, ← hbits]
        exact hroom
      · rw [reportBits_concat, if_neg hid]
        exact hfit.bits id
    · exact hreports.symm.trans_le hopened
    · exact hfields.symm.trans_le hcontrols

lemma regular_nil : Regular [] := by
  refine ⟨nests_nil, nests_nil, by simp, sparse_nil, ?_⟩
  constructor <;> simp [Context.inputs, reportBits, reportIds]

lemma Regular.init {items : List Item} {item : Item} (h : Regular (items ++ [item])) :
    Regular items := by
  refine ⟨((nests_concat item.collection_disjoint).1 h.collections).1,
    ((nests_concat item.push_disjoint).1 h.pushes).1,
    fun i hi => h.permitted i (List.mem_append_left _ hi), (sparse_concat.1 h.usages).1, ?_⟩
  have hinputs := h.inputs
  rw [Context.inputs_concat] at hinputs
  cases hinput : (({} : Context).after items).input? item with
  | none =>
    rw [hinput, Option.toList_none, List.append_nil] at hinputs
    exact hinputs
  | some x =>
    rw [hinput, Option.toList_some] at hinputs
    exact hinputs.init

/-- One more item is regular when the parser takes it. -/
lemma regular_concat {items : List Item} {s : ParserState} (item : Item)
    (hmap : s.map.LaidOut (({} : Context).inputs items)) : Regular (items ++ [item]) ↔
      Regular items ∧ s.Takes (({} : Context).after items) item := by
  have hinputs : InputsFit (({} : Context).inputs (items ++ [item])) ↔
      InputsFit (({} : Context).inputs items) ∧
        ∀ x, (({} : Context).after items).input? item = some x → s.map.Fits x := by
    rw [Context.inputs_concat]
    cases (({} : Context).after items).input? item with
    | none => simp
    | some x => simpa using inputsFit_concat hmap x
  constructor
  · intro h
    obtain ⟨hcollections, hcollection, hendCollection⟩ :=
      (nests_concat item.collection_disjoint).1 h.collections
    obtain ⟨hpushes, hpush, hpop⟩ := (nests_concat item.push_disjoint).1 h.pushes
    obtain ⟨-, husage⟩ := sparse_concat.1 h.usages
    obtain ⟨-, hinput⟩ := hinputs.1 h.inputs
    obtain ⟨hopens, hstack, htally⟩ := after_lengths hcollections hpushes
    refine ⟨h.init, h.permitted item (by simp), ?_, ?_, ?_, ?_, ?_, hinput⟩
    · exact hopens ▸ hcollection
    · exact hopens ▸ hendCollection
    · exact hstack ▸ hpush
    · exact hstack ▸ hpop
    · exact fun h => htally ▸ husage (item.usage_not_main h) h
  · rintro ⟨h, htakes⟩
    obtain ⟨hopens, hstack, htally⟩ := after_lengths h.collections h.pushes
    constructor
    · exact (nests_concat item.collection_disjoint).2
        ⟨h.collections, hopens ▸ htakes.collection, hopens ▸ htakes.endCollection⟩
    · exact (nests_concat item.push_disjoint).2
        ⟨h.pushes, hstack ▸ htakes.push, hstack ▸ htakes.pop⟩
    · intro i hi
      rcases List.mem_append.1 hi with hi | hi
      · exact h.permitted i hi
      · rw [List.mem_singleton.1 hi]
        exact htakes.permitted
    · exact sparse_concat.2 ⟨h.usages, fun _ husage => htally ▸ htakes.usage husage⟩
    · exact hinputs.2 ⟨h.inputs, htakes.input⟩

/-! ### Runs -/

lemma run_represents {items : List Item} {s s' : ParserState} {c : Context} (h : Represents s c)
    (hrun : items.foldlM ParserState.step s = .ok s') : Represents s' (c.after items) := by
  induction items generalizing s c with
  | nil =>
    cases hrun
    exact h
  | cons item items ih =>
    rw [List.foldlM_cons] at hrun
    cases hstep : s.step item with
    | error e =>
      rw [hstep] at hrun
      cases hrun
    | ok t =>
      rw [hstep] at hrun
      exact ih (step_represents h hstep).1 hrun

/-- What a run of the parser has established. -/
lemma run_spec {items : List Item} {s : ParserState}
    (hrun : items.foldlM ParserState.step {} = .ok s) :
    s.Bounded ∧ Represents s (({} : Context).after items) ∧
      s.map.LaidOut (({} : Context).inputs items) ∧ s.map.Summarised := by
  obtain ⟨hlaid, hsum, -⟩ :=
    runs_layout represents_initial laidOut_nil summarised_empty (by simp [SizesFit]) hrun
  exact ⟨run_bounded bounded_initial hrun, run_represents represents_initial hrun, hlaid, hsum⟩

lemma run_concat_iff {items : List Item} {item : Item} {s s' : ParserState} :
    (items ++ [item]).foldlM ParserState.step s = .ok s' ↔
      ∃ t, items.foldlM ParserState.step s = .ok t ∧ t.step item = .ok s' := by
  rw [List.foldlM_append]
  cases items.foldlM ParserState.step s with
  | error e =>
    constructor
    · intro h
      cases h
    · rintro ⟨t, ht, -⟩
      cases ht
  | ok t =>
    have hlast : [item].foldlM ParserState.step t = t.step item := bind_pure (t.step item)
    constructor
    · exact fun h => ⟨t, rfl, hlast.symm.trans h⟩
    · rintro ⟨u, hu, hstep⟩
      cases hu
      exact hlast.trans hstep

/-- The parser gets through the regular lists of items. -/
lemma run_ok_iff (items : List Item) :
    (∃ s, items.foldlM ParserState.step {} = .ok s) ↔ Regular items := by
  induction items using List.reverseRecOn with
  | nil => exact ⟨fun _ => regular_nil, fun _ => ⟨{}, rfl⟩⟩
  | append_singleton items item ih =>
    constructor
    · rintro ⟨s', hrun⟩
      obtain ⟨s, hrun, hstep⟩ := run_concat_iff.1 hrun
      obtain ⟨hbounded, hcontext, hlaid, -⟩ := run_spec hrun
      exact (regular_concat item hlaid).2
        ⟨ih.1 ⟨s, hrun⟩, (step_ok_iff hbounded hcontext item).1 ⟨s', hstep⟩⟩
    · intro h
      obtain ⟨s, hrun⟩ := ih.2 h.init
      obtain ⟨hbounded, hcontext, hlaid, -⟩ := run_spec hrun
      obtain ⟨s', hstep⟩ :=
        (step_ok_iff hbounded hcontext item).2 ((regular_concat item hlaid).1 h).2
      exact ⟨s', run_concat_iff.2 ⟨s, hrun, hstep⟩⟩

/-! ### Descriptors that are accepted -/

lemma exists_fields_iff (x : InputItem) (report start : ℕ) (usage : MouseHidUsage) :
    (∃ f ∈ x.fields report start, f.usage = usage) ↔ ∃ kind ∈ x.controls, kind.1 = usage := by
  unfold InputItem.fields InputItem.controls
  split
  · constructor
    · rintro ⟨f, hf, husage⟩
      obtain ⟨i, hi, hfield⟩ := List.mem_filterMap.1 hf
      obtain ⟨kind, hkind, rfl⟩ := Option.map_eq_some_iff.1 hfield
      exact ⟨kind, List.mem_filterMap.2 ⟨i, hi, hkind⟩, husage⟩
    · rintro ⟨kind, hmem, husage⟩
      obtain ⟨i, hi, hkind⟩ := List.mem_filterMap.1 hmem
      exact ⟨_, List.mem_filterMap.2 ⟨i, hi, Option.map_eq_some_iff.2 ⟨kind, hkind, rfl⟩⟩, husage⟩
  · simp

/-- The usages of the fields are those of the recognised controls. -/
lemma exists_declaredFields_iff (xs : List InputItem) (usage : MouseHidUsage) :
    (∃ f ∈ declaredFields xs, f.usage = usage) ↔
      ∃ x ∈ xs, ∃ kind ∈ x.controls, kind.1 = usage := by
  induction xs using List.reverseRecOn with
  | nil => simp [declaredFields]
  | append_singleton xs x ih =>
    rw [declaredFields_concat, exists_mem_concat, ← ih, ← exists_fields_iff x]
    constructor
    · rintro ⟨f, hf, husage⟩
      rcases List.mem_append.1 hf with hf | hf
      · exact .inl ⟨f, hf, husage⟩
      · exact .inr ⟨f, hf, husage⟩
    · rintro (⟨f, hf, husage⟩ | ⟨f, hf, husage⟩)
      · exact ⟨f, List.mem_append_left _ hf, husage⟩
      · exact ⟨f, List.mem_append_right _ hf, husage⟩

/-- Only relative controls of a mouse are recognised as its axes. -/
lemma recognise_axis {inMouse relative : Bool} {page code : ℕ} {kind : MouseHidUsage × ℕ}
    (h : recognise inMouse relative page code = some kind) (haxis : kind.1 = .x ∨ kind.1 = .y) :
    inMouse = true ∧ relative = true := by
  unfold recognise at h
  split_ifs at h <;> cases h <;> simp_all

lemma moves_iff (x : InputItem) {axis : MouseHidUsage} (haxis : axis = .x ∨ axis = .y) :
    x.Moves axis ↔ ∃ kind ∈ x.controls, kind.1 = axis := by
  refine ⟨fun h => h.2.2, fun h => ?_⟩
  obtain ⟨kind, hmem, rfl⟩ := h
  have hcontrol : ∃ i, x.control i = some kind := by
    unfold InputItem.controls at hmem
    split at hmem
    · obtain ⟨i, -, hi⟩ := List.mem_filterMap.1 hmem
      exact ⟨i, hi⟩
    · cases hmem
  obtain ⟨i, hi⟩ := hcontrol
  obtain ⟨hmouse, hrelative⟩ := recognise_axis hi haxis
  exact ⟨hmouse, hrelative, kind, hmem, rfl⟩

/-- The conditions on a whole descriptor are the parser's last checks. -/
lemma grammatical_iff {items : List Item} {s : ParserState}
    (hrun : items.foldlM ParserState.step {} = .ok s) :
    Grammatical items ↔ s.collections = [] ∧ s.stack = [] ∧ s.map.x = true ∧ s.map.y = true := by
  have hregular := (run_ok_iff items).1 ⟨s, hrun⟩
  obtain ⟨-, hcontext, hlaid, hsum⟩ := run_spec hrun
  obtain ⟨hopens, hstack, -⟩ := after_lengths hregular.collections hregular.pushes
  have hx : s.map.x = true ↔ ∃ x ∈ ({} : Context).inputs items, x.Moves .x := by
    rw [hsum.x_iff, hlaid.fields_eq, exists_declaredFields_iff]
    simp only [moves_iff _ (.inl rfl : MouseHidUsage.x = .x ∨ _)]
  have hy : s.map.y = true ↔ ∃ x ∈ ({} : Context).inputs items, x.Moves .y := by
    rw [hsum.y_iff, hlaid.fields_eq, exists_declaredFields_iff]
    simp only [moves_iff _ (.inr rfl : _ ∨ MouseHidUsage.y = .y)]
  have hclosed : s.collections = [] ↔
      height Item.isCollection Item.isEndCollection items = 0 := by
    rw [← hopens, ← length_mouseFlags, ← List.length_reverse, ← hcontext.collections_eq,
      List.length_eq_zero_iff]
  have hpopped : s.stack = [] ↔ height Item.isPush Item.isPop items = 0 := by
    rw [← hstack, ← List.length_reverse, ← hcontext.stack_eq, List.length_eq_zero_iff]
  rw [hclosed, hpopped, hx, hy]
  constructor
  · exact fun h => ⟨h.closed, h.popped, h.movesX, h.movesY⟩
  · rintro ⟨h1, h2, h3, h4⟩
    exact ⟨hregular, h1, h2, h3, h4⟩

/-- The parser accepts exactly the descriptors of its grammar. -/
theorem parser_accepts_its_grammar (data : List UInt8) :
    (∃ map, mouseHidParse data = .ok map) ↔
      (1 ≤ data.length ∧ data.length ≤ 1024) ∧ ∃ items, Reads data items ∧ Grammatical items := by
  constructor
  · rintro ⟨map, hparse⟩
    obtain ⟨hlen, items, s, hreads, hrun, hcollections, hstack, hx, hy, -⟩ :=
      mouseHidParse_eq_ok_iff.1 hparse
    exact ⟨hlen, items, hreads, (grammatical_iff hrun).2 ⟨hcollections, hstack, hx, hy⟩⟩
  · rintro ⟨hlen, items, hreads, hgrammatical⟩
    obtain ⟨s, hrun⟩ := (run_ok_iff items).2 hgrammatical.toRegular
    obtain ⟨hcollections, hstack, hx, hy⟩ := (grammatical_iff hrun).1 hgrammatical
    exact ⟨s.map, mouseHidParse_eq_ok_iff.2
      ⟨hlen, items, s, hreads, hrun, hcollections, hstack, hx, hy, rfl⟩⟩

end BleMouse.Hid
