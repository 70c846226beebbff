/-
Items that do not move the fields of a report.

Long items, and blocks of Output and Feature items between a PUSH and a POP, can be inserted into
a descriptor without any effect on what the parser returns.  An inserted list of items has no
effect when it takes the variables of the parser back to where they were, since the parser reads
what comes after it from there.

* `Block`: the blocks that can be inserted outside a group of local items;
* `parse_inserted`: inserting items that lead back to the same variables has no effect;
* `irrelevant_items_do_not_move_fields`: neither has inserting a long item or a block.
-/
import BleMouse.Hid.Grammar

namespace BleMouse.Hid

open Checked Nesting

/-! ### Blocks -/

namespace Item

/-- A global item other than PUSH and POP. -/
def isPlainGlobal : Item → Bool
  | .short type tag _ _ => type == 1 && tag != 10 && tag != 11
  | .long => false

def isLocal : Item → Bool
  | .short type _ _ _ => type == 2
  | .long => false

def isOutput : Item → Bool := is 0 9

def isFeature : Item → Bool := is 0 11

end Item

/-- What stands between the PUSH and the POP of a block. -/
structure BlockBody (items : List Item) : Prop where
  kinds : ∀ item ∈ items,
    item.isPlainGlobal = true ∨ item.isLocal = true ∨ item.isOutput = true ∨ item.isFeature = true
  permitted : ∀ item ∈ items, item.Permitted
  usages : Sparse Item.isMain Item.isUsage 32 items
  closed : ∀ front item rest, items = front ++ item :: rest → item.isLocal = true →
    ∃ main ∈ rest, main.isMain = true

/-- A block: PUSH, its body, POP. -/
def Block (items : List Item) : Prop :=
  ∃ push body pop, items = push :: body ++ [pop] ∧ push.isPush = true ∧ BlockBody body ∧
    pop.isPop = true

/-- The bytes of a long item. -/
def LongItem (bytes : List UInt8) : Prop :=
  ∃ size tag payload, bytes = 0xfe :: size :: tag :: payload ∧ payload.length = size.toNat

/-- The parser gets through the bytes `front` of a descriptor without an error, reading
`items`. -/
structure Reaches (front : List UInt8) (items : List Item) (s : ParserState) : Prop where
  reads : Reads front items
  run : items.foldlM applyItem {} = .ok s

/-- No local item is in force. -/
def AtMain (items : List Item) : Prop :=
  items = [] ∨ ∃ front main, items = front ++ [main] ∧ main.isMain = true

/-! ### Reading on -/

lemma splitItem_append {head : UInt8} {bytes rest : List UInt8} {item : Item}
    (h : splitItem head bytes = some (item, rest)) (more : List UInt8) :
    splitItem head (bytes ++ more) = some (item, rest ++ more) := by
  unfold splitItem at h ⊢
  split at h
  · rename_i hlong
    rw [if_pos hlong]
    split at h
    · rename_i size tag tail
      split at h
      · cases h
      · rename_i hlen
        cases h
        rw [List.cons_append, List.cons_append]
        dsimp only
        rw [if_neg (by rw [List.length_append]; omega), List.drop_append_of_le_length (by omega)]
    · cases h
  · rename_i hshort
    rw [if_neg hshort]
    dsimp only at h ⊢
    split at h
    · cases h
    · rename_i hlen
      cases h
      rw [if_neg (by rw [List.length_append]; omega), List.take_append_of_le_length (by omega),
        List.drop_append_of_le_length (by omega)]

/-- After items along which the steps succeed, the parser goes on with the bytes after them. -/
lemma parseBytes_append {front : List UInt8} {items : List Item} (hreads : Reads front items)
    {s t : ParserState} (hrun : items.foldlM ParserState.step s = .ok t) (rest : List UInt8) :
    parseBytes (front ++ rest) s = parseBytes rest t := by
  induction hreads generalizing s with
  | nil =>
    cases hrun
    rfl
  | cons hsplit hrest ih =>
    rename_i item items
    rw [List.cons_append, parseBytes_cons, splitItem_append hsplit]
    rw [List.foldlM_cons] at hrun
    cases hstep : s.step item with
    | error e =>
      rw [hstep] at hrun
      cases hrun
    | ok u =>
      rw [hstep] at hrun
      dsimp only
      rw [hstep]
      exact ih hrun

lemma Reads.valid {bytes : List UInt8} {items : List Item} (h : Reads bytes items) :
    ∀ item ∈ items, item.Valid := by
  induction h with
  | nil => simp
  | cons hsplit _ ih =>
    intro item hitem
    rcases List.mem_cons.1 hitem with rfl | hitem
    · exact splitItem_valid hsplit
    · exact ih item hitem

/-- Runs of `applyItem` that succeed are runs of `step`. -/
lemma foldlM_step {items : List Item} (hvalid : ∀ item ∈ items, item.Valid) {s t : ParserState}
    (hs : s.Bounded) (hrun : items.foldlM applyItem s = .ok t) :
    items.foldlM ParserState.step s = .ok t := by
  induction items generalizing s with
  | nil =>
    cases hrun
    rfl
  | cons item items ih =>
    rw [List.foldlM_cons, applyItem_eq hs (hvalid item (by simp))] at hrun
    rw [List.foldlM_cons]
    cases hstep : s.step item with
    | error e =>
      rw [hstep] at hrun
      cases hrun
    | ok u =>
      rw [hstep] at hrun
      exact ih (fun i hi => hvalid i (List.mem_cons_of_mem _ hi)) (step_bounded hs hstep) hrun

/-- Items that lead back to the same variables can be inserted without effect. -/
lemma parse_inserted {front inserted rest : List UInt8} {items block : List Item}
    {s : ParserState} (hfront : Reaches front items s) (hinserted : Reads inserted block)
    (hback : block.foldlM ParserState.step s = .ok s) (hne : front ++ rest ≠ [])
    (hlen : (front ++ inserted ++ rest).length ≤ maxMapBytes) :
    mouseHidParse (front ++ inserted ++ rest) = mouseHidParse (front ++ rest) := by
  have hrun := foldlM_step hfront.reads.valid bounded_initial hfront.run
  have hpos := List.length_pos_iff.2 hne
  rw [mouseHidParse_eq, mouseHidParse_eq, List.append_assoc, parseBytes_append hfront.reads hrun,
    parseBytes_append hfront.reads hrun, parseBytes_append hinserted hback]
  simp only [List.length_append] at hlen hpos ⊢
  rw [if_neg (by omega), if_neg (by omega)]

/-! ### Long items -/

lemma LongItem.reads {bytes : List UInt8} (h : LongItem bytes) : Reads bytes [.long] := by
  obtain ⟨size, tag, payload, rfl, hlen⟩ := h
  have hsplit : splitItem 0xfe (size :: tag :: payload) = some (.long, []) := by
    unfold splitItem
    rw [if_pos (by decide)]
    dsimp only
    rw [if_neg (by omega), List.drop_eq_nil_of_le (by omega)]
  exact .cons hsplit .nil

/-! ### Blocks -/

/-- The variables `t` in the body of a block that was begun with the variables `s`. -/
structure ParserState.Inside (s t : ParserState) : Prop where
  bounded : t.Bounded
  map_eq : t.map = s.map
  collections_eq : t.collections = s.collections
  stack_eq : t.stack = s.stack ++ [s.global]

lemma globalStep_frame {s t : ParserState} {tag size value : ℕ}
    (h : s.globalStep tag size value = .ok t) (hpush : tag ≠ 10) (hpop : tag ≠ 11) :
    t.map = s.map ∧ t.collections = s.collections ∧ t.stack = s.stack ∧ t.locals = s.locals := by
  unfold ParserState.globalStep at h
  split at h
  case h_6 => exact absurd rfl hpush
  case h_7 => exact absurd rfl hpop
  all_goals
    first | split at h | skip
    all_goals cases h
    all_goals exact ⟨rfl, rfl, rfl, rfl⟩

lemma localStep_frame {s t : ParserState} {tag size value : ℕ}
    (h : s.localStep tag size value = .ok t) :
    t.map = s.map ∧ t.collections = s.collections ∧ t.stack = s.stack ∧
      t.locals.usages.length = s.locals.usages.length + if tag = 0 then 1 else 0 := by
  unfold ParserState.localStep at h
  split at h
  case h_1 =>
    split at h
    · cases h
    · cases h
      simp
  case h_4 => cases h
  case h_5 h0 _ _ _ =>
    cases h
    have hne : tag ≠ 0 := h0
    simp [hne]
  all_goals
    cases h
    simp

/-- An item of a body changes nothing but the global and the local state, and clears the local
state if it is a main item. -/
lemma ParserState.Inside.step {s t : ParserState} (h : s.Inside t) {item : Item}
    (hkind : item.isPlainGlobal = true ∨ item.isLocal = true ∨ item.isOutput = true ∨
      item.isFeature = true) (hpermitted : item.Permitted)
    (husage : item.isUsage = true → t.locals.usages.length < 32) :
    ∃ t', t.step item = .ok t' ∧ s.Inside t' ∧
      (item.isMain = true → t'.locals = {}) ∧
      (item.isMain = false → item.isLocal = false → t'.locals = t.locals) ∧
      t'.locals.usages.length = if item.isMain then 0
        else if item.isUsage then t.locals.usages.length + 1 else t.locals.usages.length := by
  obtain ⟨hbounded, hmap, hcollections, hstack⟩ := h
  cases item with
  | long => simp [Item.isPlainGlobal, Item.isLocal, Item.isOutput, Item.isFeature, Item.is] at hkind
  | short type tag size value =>
    obtain ⟨hpage, hminimum, hid, hdelimiter⟩ := hpermitted
    have hnext : ∀ t', t.step (.short type tag size value) = .ok t' → t'.map = t.map →
        t'.collections = t.collections → t'.stack = t.stack → s.Inside t' :=
      fun t' hstep h1 h2 h3 =>
        ⟨step_bounded hbounded hstep, h1.trans hmap, h2.trans hcollections, h3.trans hstack⟩
    rcases hkind with hglobal | hlocal | hmain
    · simp only [Item.isPlainGlobal, Bool.and_eq_true, beq_iff_eq, bne_iff_ne] at hglobal
      obtain ⟨⟨rfl, hpush⟩, hpop⟩ := hglobal
      obtain ⟨t', hstep⟩ := (globalStep_ok_iff hbounded.stack_le tag size value).2
        ⟨fun htag => hpage ⟨rfl, htag⟩, fun htag => hminimum ⟨rfl, htag⟩,
          fun htag => hid ⟨rfl, htag⟩, fun htag => absurd htag hpush, fun htag => absurd htag hpop⟩
      obtain ⟨h1, h2, h3, h4⟩ := globalStep_frame hstep hpush hpop
      refine ⟨t', hstep, hnext t' hstep h1 h2 h3, ?_, fun _ _ => h4, ?_⟩
      · simp [Item.isMain]
      · rw [h4]
        simp [Item.isMain, Item.isUsage, Item.is]
    · simp only [Item.isLocal, beq_iff_eq] at hlocal
      obtain rfl := hlocal
      have hroom : tag = 0 → t.locals.usages.length < 32 :=
        fun htag => husage ((Item.is_short _ _ _ _ _ _).2 ⟨rfl, htag⟩)
      obtain ⟨t', hstep⟩ := (localStep_ok_iff hbounded.usages_le tag size value).2
        ⟨hroom, fun htag => hdelimiter ⟨rfl, htag⟩⟩
      obtain ⟨h1, h2, h3, h4⟩ := localStep_frame hstep
      refine ⟨t', hstep, hnext t' hstep h1 h2 h3, ?_, ?_, ?_⟩
      · simp [Item.isMain]
      · simp [Item.isLocal]
      · rw [h4]
        by_cases htag : tag = 0 <;> simp [Item.isMain, Item.isUsage, Item.is, htag]
    · simp only [Item.isOutput, Item.isFeature, Item.is_short] at hmain
      have htype : type = 0 := by omega
      have htag : tag = 9 ∨ tag = 11 := by omega
      obtain rfl := htype
      have hstep : t.step (.short 0 tag size value) = .ok { t with locals := {} } := by
        rcases htag with rfl | rfl <;> rfl
      refine ⟨_, hstep, hnext _ hstep rfl rfl rfl, fun _ => rfl, ?_, ?_⟩
      · simp [Item.isMain]
      · simp [Item.isMain]

/-- Along a body, only the global and the local state change; at its end, no local item is in
force. -/
lemma BlockBody.run {items : List Item} (hbody : BlockBody items) {s t : ParserState}
    (h : s.Inside t) (hlocals : t.locals = {}) :
    ∃ t', items.foldlM ParserState.step t = .ok t' ∧ s.Inside t' ∧ t'.locals = {} := by
  -- the usages in force are those since the last main item, and there are no local items in
  -- force when a main item has followed each of them
  have hrun : ∀ items, (∀ item ∈ items, item.isPlainGlobal = true ∨ item.isLocal = true ∨
        item.isOutput = true ∨ item.isFeature = true) → (∀ item ∈ items, item.Permitted) →
      Sparse Item.isMain Item.isUsage 32 items →
      ∃ t', items.foldlM ParserState.step t = .ok t' ∧ s.Inside t' ∧
        t'.locals.usages.length = tally Item.isMain Item.isUsage items ∧
        ((∀ front item rest, items = front ++ item :: rest → item.isLocal = true →
          ∃ main ∈ rest, main.isMain = true) → t'.locals = {}) := by
    intro items
    induction items using List.reverseRecOn with
    | nil => exact fun _ _ _ => ⟨t, rfl, h, by rw [hlocals]; rfl, fun _ => hlocals⟩
    | append_singleton items item ih =>
      intro hkinds hpermitted husages
      obtain ⟨husages, hroom⟩ := sparse_concat.1 husages
      obtain ⟨u, hu, hinside, htally, hclosed⟩ :=
        ih (fun i hi => hkinds i (List.mem_append_left _ hi))
          (fun i hi => hpermitted i (List.mem_append_left _ hi)) husages
      obtain ⟨t', hstep, hinside', hmain, hother, hcount⟩ := hinside.step (hkinds item (by simp))
        (hpermitted item (by simp))
        (fun husage => htally ▸ hroom (item.usage_not_main husage) husage)
      refine ⟨t', ?_, hinside', by rw [hcount, tally_concat, htally], ?_⟩
      · exact run_concat_iff.2 ⟨u, hu, hstep⟩
      · intro hall
        cases hitem : item.isMain with
        | true => exact hmain hitem
        | false =>
          have hnot : item.isLocal = false := by
            by_contra hlocal
            obtain ⟨main, hmem, -⟩ := hall items item [] rfl (Bool.eq_true_of_not_eq_false hlocal)
            exact List.not_mem_nil hmem
          rw [hother hitem hnot]
          apply hclosed
          intro front i rest hitems hlocal
          obtain ⟨main, hmem, hmain⟩ := hall front i (rest ++ [item])
            (by rw [hitems, List.append_assoc]; rfl) hlocal
          rcases List.mem_append.1 hmem with hmem | hmem
          · exact ⟨main, hmem, hmain⟩
          · rw [List.mem_singleton.1 hmem, hitem] at hmain
            cases hmain
  obtain ⟨t', ht', hinside, -, hclosed⟩ := hrun items hbody.kinds hbody.permitted hbody.usages
  exact ⟨t', ht', hinside, hclosed hbody.closed⟩

lemma step_push {item : Item} (h : item.isPush = true) {s : ParserState}
    (hroom : s.stack.length < 8) : s.step item = .ok { s with stack := s.stack ++ [s.global] } := by
  cases item with
  | long => cases h
  | short type tag size value =>
    obtain ⟨rfl, rfl⟩ := (Item.is_short _ _ _ _ _ _).1 h
    have hne : s.stack.length ≠ stackDepth := hroom.ne
    exact if_neg hne

lemma step_pop {item : Item} (h : item.isPop = true) {s : ParserState} {stack : List GlobalState}
    {global : GlobalState} (hstack : s.stack = stack ++ [global]) :
    s.step item = .ok { s with global, stack } := by
  cases item with
  | long => cases h
  | short type tag size value =>
    obtain ⟨rfl, rfl⟩ := (Item.is_short _ _ _ _ _ _).1 h
    show s.globalStep 11 size value = _
    simp only [ParserState.globalStep, hstack, List.getLast?_concat, List.dropLast_concat]

/-- A block leads back to where it began. -/
lemma Block.run {items : List Item} (h : Block items) {s : ParserState} (hs : s.Bounded)
    (hlocals : s.locals = {}) (hroom : s.stack.length < 8) :
    items.foldlM ParserState.step s = .ok s := by
  obtain ⟨push, body, pop, rfl, hpush, hbody, hpop⟩ := h
  have hbegin := step_push hpush hroom
  have hinside : s.Inside { s with stack := s.stack ++ [s.global] } :=
    ⟨step_bounded hs hbegin, rfl, rfl, rfl⟩
  obtain ⟨t, hrun, ⟨-, hmap, hcollections, hstack⟩, hclear⟩ := hbody.run hinside hlocals
  have hend := step_pop hpop hstack
  have hsame : ({ t with global := s.global, stack := s.stack } : ParserState) = s := by
    cases s
    simp only at hmap hcollections hlocals
    simp only [hmap, hcollections, hclear, hlocals]
  rw [hsame] at hend
  rw [List.cons_append, List.foldlM_cons, hbegin]
  exact run_concat_iff.2 ⟨t, hrun, hend⟩

lemma AtMain.locals_eq {items : List Item} (h : AtMain items) {s : ParserState}
    (hrun : items.foldlM ParserState.step {} = .ok s) : s.locals = {} := by
  rcases h with rfl | ⟨front, main, rfl, hmain⟩
  · cases hrun
    rfl
  · obtain ⟨t, -, hstep⟩ := run_concat_iff.1 hrun
    cases main with
    | long => cases hmain
    | short type tag size value =>
      simp only [Item.isMain, beq_iff_eq] at hmain
      obtain rfl := hmain
      change (t.mainStep tag value).map _ = _ at hstep
      cases hu : t.mainStep tag value with
      | error e =>
        rw [hu] at hstep
        cases hstep
      | ok u =>
        rw [hu] at hstep
        cases hstep
        rfl

/-- The items inserted at a cut of a descriptor have no effect on what the parser returns: a
long item anywhere, and a block where no local item is in force and another PUSH is possible. -/
theorem irrelevant_items_do_not_move_fields (front rest inserted : List UInt8)
    (items : List Item) (s : ParserState) (hcut : Reaches front items s)
    (hne : front ++ rest ≠ []) (hlen : (front ++ inserted ++ rest).length ≤ 1024)
    (hinserted : LongItem inserted ∨
      AtMain items ∧ s.stack.length < 8 ∧ ∃ block, Reads inserted block ∧ Block block) :
    mouseHidParse (front ++ inserted ++ rest) = mouseHidParse (front ++ rest) := by
  rcases hinserted with hlong | ⟨hmain, hroom, block, hreads, hblock⟩
  · exact parse_inserted hcut hlong.reads rfl hne hlen
  · have hrun := foldlM_step hcut.reads.valid bounded_initial hcut.run
    have hback := hblock.run (run_bounded bounded_initial hrun) (hmain.locals_eq hrun) hroom
    exact parse_inserted hcut hreads hback hne hlen

/-- A vendor block with a group of local items and an Output item: PUSH, Usage Page, Usage,
Report Size, Report Count, Output, POP. -/
def vendorBlock : List UInt8 :=
  [0xa4, 0x06, 0x00, 0xff, 0x09, 0x01, 0x75, 0x08, 0x95, 0x04, 0x91, 0x02, 0xb4]

/-- The items between its PUSH and its POP. -/
def vendorBody : List Item :=
  [.short 1 0 2 0xff00, .short 2 0 1 1, .short 1 7 1 8, .short 1 9 1 4, .short 0 9 1 2]

lemma blockBody_vendorBody : BlockBody vendorBody := by
  constructor
  · decide
  · simp [vendorBody, Item.Permitted]
  · intro part hpart _
    exact (List.countP_le_length.trans hpart.length_le).trans (by decide)
  · intro front item rest hitems hlocal
    refine ⟨.short 0 9 1 2, ?_, rfl⟩
    -- the last item is not local, so it is one of the rest
    have hlast : (item :: rest).getLast? = some (.short 0 9 1 2) := by
      have hlast := congrArg List.getLast? hitems
      rw [List.getLast?_append_cons] at hlast
      exact hlast.symm
    cases rest with
    | nil =>
      cases hlast
      cases hlocal
    | cons next rest =>
      rw [List.getLast?_cons_cons] at hlast
      exact List.mem_of_getLast? hlast

/-- A long item between a Usage and its Collection, and the block after the Collection. -/
theorem inserted_in_plain_mouse :
    mouseHidParse (plainMouse.take 4 ++ [0xfe, 1, 7, 0xc0] ++ plainMouse.drop 4) =
        mouseHidParse (plainMouse.take 4 ++ plainMouse.drop 4) ∧
      mouseHidParse (plainMouse.take 6 ++ vendorBlock ++ plainMouse.drop 6) =
        mouseHidParse (plainMouse.take 6 ++ plainMouse.drop 6) := by
  have husage : Reaches (plainMouse.take 4) [.short 1 0 1 1, .short 2 0 1 2]
      { global := { page := 1 }, locals := { usages := [0x10002] } } :=
    ⟨.cons rfl (.cons rfl .nil), by decide⟩
  have hcollection : Reaches (plainMouse.take 6)
      [.short 1 0 1 1, .short 2 0 1 2, .short 0 10 1 1]
      { global := { page := 1 }, collections := [true] } :=
    ⟨.cons rfl (.cons rfl (.cons rfl .nil)), by decide⟩
  have hblock : Reads vendorBlock (.short 1 10 0 0 :: vendorBody ++ [.short 1 11 0 0]) :=
    .cons rfl (.cons rfl (.cons rfl (.cons rfl (.cons rfl (.cons rfl (.cons rfl .nil))))))
  constructor
  · exact irrelevant_items_do_not_move_fields _ _ _ _ _ husage (by decide) (by decide)
      (.inl ⟨1, 7, [0xc0], rfl, rfl⟩)
  · exact irrelevant_items_do_not_move_fields _ _ _ _ _ hcollection (by decide) (by decide)
      (.inr ⟨.inr ⟨[.short 1 0 1 1, .short 2 0 1 2], _, rfl, rfl⟩, by decide, _, hblock,
        _, vendorBody, _, rfl, rfl, blockBody_vendorBody, rfl⟩)

end BleMouse.Hid
