/-
The cache of advertisers.

While a mouse is paired for the first time, `zmk_ble_mouse_advertisement` notes what it hears
of every address in a cache of eight entries, of which the one not seen for the longest time
is given up for a new address.  An entry older than two seconds is not used again, but stays
in the cache, so an address may have several.

* `Slot`: the entry an advertisement is noted in;
* `Noted`: what the cache holds after a history of advertisements;
* `candidate_is_fresh`: which advertisements make an address a candidate.
-/
import BleMouse.Client.System

namespace BleMouse.Client

/-! ### Advertisements -/

/-- An advertisement and the time at which it is processed. -/
structure Advert where
  addr : Addr
  type : AdvType
  data : List BtData
  now : BitVec 32
deriving DecidableEq, Repr

namespace Advert

/-- `ADV_IND` -/
def Connectable (ad : Advert) : Prop := ad.type = .advInd

/-- A complete or shortened name starts with M720. -/
def Named (ad : Advert) : Prop :=
  ∃ element ∈ ad.data, (element.1 = 9 ∨ element.1 = 8) ∧
    element.2.take 4 = [0x4d, 0x37, 0x32, 0x30]

instance (ad : Advert) : Decidable ad.Connectable := by
  unfold Connectable
  infer_instance

instance (ad : Advert) : Decidable ad.Named := by
  unfold Named
  infer_instance

end Advert

/-- `zmk_ble_mouse_advertisement` -/
def State.advertised (s : State) (ad : Advert) : State × Bool :=
  s.zmkBleMouseAdvertisement ad.addr ad.type ad.data ad.now

/-- Advertisements are processed: the scan is wanted to pair a new mouse. -/
structure State.Listening (s : State) : Prop where
  scanWanted : s.scanWanted = true
  pairing : s.pairing = true
  havePeer : s.havePeer = false

/-- The cache after a history of processed advertisements, from the zeroed cache. -/
inductive Received : List Advert → List Advertiser → Prop
  | nil : Received [] (List.replicate 8 {})
  | snoc {history : List Advert} {s : State} {ad : Advert}
      (h : Received history s.advertisers) (hs : s.Listening) :
      Received (history ++ [ad]) (s.advertised ad).1.advertisers

/-- The times do not decrease, and none is zero. -/
structure Timely (history : List Advert) : Prop where
  pos : ∀ ad ∈ history, 0 < ad.now.toNat
  le : history.Pairwise fun ad ad' => ad.now.toNat ≤ ad'.now.toNat

/-! ### The entry of an advertisement -/

/-- What an entry holds after an advertisement of its address. -/
def Advertiser.hear (entry : Advertiser) (ad : Advert) : Advertiser where
  addr := entry.addr
  seen := ad.now
  connectable := entry.connectable || decide ad.Connectable
  m720 := entry.m720 || decide ad.Named

/-- The entry for an address: the first one that is not too old, or else the oldest one, which is
cleared. -/
inductive Slot (cache : List Advertiser) (addr : Addr) (now : BitVec 32) : ℕ → Advertiser → Prop
  | found {i : ℕ} {entry : Advertiser} (hget : cache[i]? = some entry)
      (haddr : entry.addr = addr) (hfresh : now.toNat < entry.seen.toNat + 2000)
      (hfirst : ∀ j < i, ∀ e, cache[j]? = some e → e.addr = addr →
        e.seen.toNat + 2000 ≤ now.toNat) : Slot cache addr now i entry
  | taken {i : ℕ} {old : Advertiser} (hget : cache[i]? = some old)
      (hstale : ∀ e ∈ cache, e.addr = addr → e.seen.toNat + 2000 ≤ now.toNat)
      (hold : ∀ e ∈ cache, old.seen.toNat ≤ e.seen.toNat)
      (hfirst : ∀ j < i, ∀ e, cache[j]? = some e → old.seen.toNat < e.seen.toNat) :
      Slot cache addr now i { addr }

/-- The age of an entry, without wrapping. -/
lemma age_lt_iff {entry : Advertiser} {now : BitVec 32} (h : entry.seen.toNat ≤ now.toNat) :
    now - entry.seen < 2000 ↔ now.toNat < entry.seen.toNat + 2000 := by
  rw [BitVec.lt_def, BitVec.toNat_sub_of_le h]
  show now.toNat - entry.seen.toNat < 2000 ↔ _
  omega

/-- The loop that looks for the greatest value finds the first one. -/
lemma foldl_greatest (age : ℕ → BitVec 32) (n : ℕ) :
    (∀ i < n, (age i).toNat ≤
      (age ((List.range n).foldl (fun o i => if age o < age i then i else o) 0)).toNat) ∧
    (∀ i < (List.range n).foldl (fun o i => if age o < age i then i else o) 0, (age i).toNat <
      (age ((List.range n).foldl (fun o i => if age o < age i then i else o) 0)).toNat) ∧
    (List.range n).foldl (fun o i => if age o < age i then i else o) 0 ≤ n - 1 := by
  induction n with
  | zero =>
    refine ⟨fun i hi => absurd hi (Nat.not_lt_zero i), fun i hi => ?_, le_rfl⟩
    exact absurd hi (Nat.not_lt_zero i)
  | succ n ih =>
    rw [List.range_succ, List.foldl_append, List.foldl_cons, List.foldl_nil]
    generalize (List.range n).foldl (fun o i => if age o < age i then i else o) 0 = o at ih ⊢
    obtain ⟨hle, hlt, hn⟩ := ih
    split
    case isTrue hgreater =>
      rw [BitVec.lt_def] at hgreater
      have hall : ∀ i < n, (age i).toNat < (age n).toNat := fun i hi => (hle i hi).trans_lt hgreater
      refine ⟨fun i hi => ?_, hall, le_rfl⟩
      rcases Nat.lt_succ_iff_lt_or_eq.1 hi with hi | rfl
      · exact (hall i hi).le
      · exact le_rfl
    case isFalse hnot =>
      rw [BitVec.lt_def, not_lt] at hnot
      refine ⟨fun i hi => ?_, hlt, hn.trans (Nat.sub_le n 1)⟩
      rcases Nat.lt_succ_iff_lt_or_eq.1 hi with hi | rfl
      · exact hle i hi
      · exact hnot

/-- `bt_data_parse` with `parse_ad` -/
lemma foldl_parseAd (data : List BtData) (entry : Advertiser) :
    data.foldl parseAd entry = { entry with m720 := entry.m720 || decide (∃ element ∈ data,
      (element.1 = 9 ∨ element.1 = 8) ∧ element.2.take 4 = [0x4d, 0x37, 0x32, 0x30]) } := by
  induction data generalizing entry with
  | nil => simp
  | cons element data ih =>
    rw [List.foldl_cons, ih]
    unfold parseAd
    split
    case isTrue hname => simp [hname]
    case isFalse hname => simp only [List.exists_mem_cons_iff, hname, false_or]

section Lookup

variable {cache : List Advertiser} {ad : Advert}

/-- `zmk_ble_mouse_advertisement` notes an advertisement in the slot of its address. -/
lemma slot_spec (hlength : cache.length = 8)
    (hseen : ∀ entry ∈ cache, entry.seen.toNat ≤ ad.now.toNat) : ∃ i base,
    Slot cache ad.addr ad.now i base ∧ advertiserSlot cache ad.addr ad.now = i ∧
      notedAdvertiser cache ad.addr ad.type ad.data ad.now = base.hear ad := by
  have hstale {e : Advertiser} (hmem : e ∈ cache) (hnot : ¬(ad.addr = e.addr ∧
      ad.now - e.seen < 2000)) (haddr : e.addr = ad.addr) :
      e.seen.toNat + 2000 ≤ ad.now.toNat := by
    rw [age_lt_iff (hseen e hmem)] at hnot
    by_contra hlt
    exact hnot ⟨haddr.symm, not_le.1 hlt⟩
  have hheard (base : Advertiser) : ad.data.foldl parseAd { base with
      seen := ad.now, connectable := base.connectable || decide (ad.type = .advInd) } =
        base.hear ad := foldl_parseAd _ _
  unfold advertiserSlot notedAdvertiser
  cases hfresh : freshAdvertiser cache ad.addr ad.now with
  | some i =>
    obtain ⟨hi, hmatch, hfirst⟩ := List.findIdx?_eq_some_iff_getElem.1 hfresh
    have hget : cache[i]? = some cache[i] := List.getElem?_eq_getElem hi
    obtain ⟨haddr, hage⟩ := of_decide_eq_true hmatch
    rw [age_lt_iff (hseen _ (List.getElem_mem hi))] at hage
    refine ⟨i, cache[i], .found hget haddr.symm hage fun j hj e he haddr => ?_, rfl, ?_⟩
    · obtain ⟨hj', rfl⟩ := List.getElem?_eq_some_iff.1 he
      exact hstale (List.getElem_mem hj') (fun hmatch => hfirst j hj (decide_eq_true hmatch)) haddr
    · dsimp only
      rw [hget]
      exact hheard _
  | none =>
    have hall := List.findIdx?_eq_none_iff.1 hfresh
    have hstale' : ∀ e ∈ cache, e.addr = ad.addr → e.seen.toNat + 2000 ≤ ad.now.toNat :=
      fun e he => hstale he (of_decide_eq_false (hall e he))
    obtain ⟨hle, hlt, hn⟩ := foldl_greatest
      (fun i => ad.now - (cache[i]?.map (·.seen)).getD 0) cache.length
    change ∀ i < _, _ ≤ (ad.now - (cache[oldestAdvertiser cache ad.now]?.map (·.seen)).getD 0).toNat
      at hle
    change ∀ i < oldestAdvertiser cache ad.now,
      _ < (ad.now - (cache[oldestAdvertiser cache ad.now]?.map (·.seen)).getD 0).toNat at hlt
    change oldestAdvertiser cache ad.now ≤ _ at hn
    generalize oldestAdvertiser cache ad.now = i at hle hlt hn
    have hi : i < cache.length := by omega
    have hage {j : ℕ} {e : Advertiser} (he : cache[j]? = some e) :
        (ad.now - (cache[j]?.map (·.seen)).getD 0).toNat = ad.now.toNat - e.seen.toNat := by
      rw [he]
      exact BitVec.toNat_sub_of_le (hseen e (List.mem_of_getElem? he))
    have hget : cache[i]? = some cache[i] := List.getElem?_eq_getElem hi
    refine ⟨i, { addr := ad.addr }, .taken hget hstale' ?_ ?_, rfl, hheard _⟩
    · intro e he
      obtain ⟨j, hj⟩ := List.getElem?_of_mem he
      have hle := hle j (List.getElem?_eq_some_iff.1 hj).1
      rw [hage hj, hage hget] at hle
      have hnow := hseen e he
      have hnow' := hseen _ (List.getElem_mem hi)
      omega
    · intro j hj e he
      have hlt := hlt j hj
      rw [hage he, hage hget] at hlt
      have hnow := hseen e (List.mem_of_getElem? he)
      omega

end Lookup

/-! ### What the cache holds -/

/-- From advertisement `p` of an address up to advertisement `r`, consecutive advertisements of
the address are less than two seconds apart. -/
def UnbrokenTo (history : List Advert) (addr : Addr) (p r : ℕ) : Prop :=
  ∀ (i j : ℕ) (x y : Advert), p ≤ i → i < j → j ≤ r → history[i]? = some x → history[j]? = some y →
    x.addr = addr → y.addr = addr →
    (∀ (k : ℕ) (z : Advert), i < k → k < j → history[k]? = some z → z.addr ≠ addr) →
    y.now.toNat < x.now.toNat + 2000

/-- Up to advertisement `r` there is one of the address with a property, and none of the address
has been missed for two seconds since. -/
def Since (history : List Advert) (addr : Addr) (P : Advert → Prop) (r : ℕ) : Prop :=
  ∃ p ≤ r, ∃ x, history[p]? = some x ∧ x.addr = addr ∧ P x ∧ UnbrokenTo history addr p r

/-- An entry holds what advertisement `r` has left. -/
structure Advertiser.Heard (entry : Advertiser) (history : List Advert) (r : ℕ) : Prop where
  last : ∃ x, history[r]? = some x ∧ x.addr = entry.addr ∧ x.now = entry.seen
  connectable : entry.connectable = true → Since history entry.addr Advert.Connectable r
  m720 : entry.m720 = true → Since history entry.addr Advert.Named r

/-- What the cache holds after a history.  The entries that are used come first, and two of one
address are at least two seconds apart. -/
structure Noted (history : List Advert) (cache : List Advertiser) : Prop where
  length : cache.length = 8
  heard : ∀ entry ∈ cache, entry.seen ≠ 0 → ∃ r, entry.Heard history r
  unused : ∀ entry ∈ cache, entry.seen = 0 → entry = {}
  usedFirst : ∀ (i j : ℕ) (e e' : Advertiser), i < j → cache[i]? = some e → cache[j]? = some e' →
    e.seen = 0 → e'.seen = 0
  apart : ∀ (i j : ℕ) (e e' : Advertiser), i ≠ j → cache[i]? = some e → cache[j]? = some e' →
    e.addr = e'.addr → e.seen ≠ 0 → e'.seen ≠ 0 →
    e.seen.toNat + 2000 ≤ e'.seen.toNat ∨ e'.seen.toNat + 2000 ≤ e.seen.toNat

lemma noted_initial : Noted [] (List.replicate 8 {}) := by
  have hempty {i : ℕ} {e : Advertiser} (h : (List.replicate 8 ({} : Advertiser))[i]? = some e) :
      e = {} := List.eq_of_mem_replicate (List.mem_of_getElem? h)
  refine ⟨rfl, fun e he hne => ?_, fun e he _ => List.eq_of_mem_replicate he, ?_, ?_⟩
  · rw [List.eq_of_mem_replicate he] at hne
    exact absurd rfl hne
  · intro i j e e' _ _ he' _
    rw [hempty he']
  · intro i j e e' _ he _ _ hne
    rw [hempty he] at hne
    exact absurd rfl hne

section Hear

variable {history : List Advert} {cache : List Advertiser} {ad : Advert}

lemma getElem?_append_of_some {i : ℕ} {x : Advert} (h : history[i]? = some x) :
    (history ++ [ad])[i]? = some x := by
  rw [List.getElem?_append_left (List.getElem?_eq_some_iff.1 h).1]
  exact h

lemma getElem?_of_append {i : ℕ} {x : Advert} (h : (history ++ [ad])[i]? = some x)
    (hi : i < history.length) : history[i]? = some x := by
  rwa [List.getElem?_append_left hi] at h

/-- The time of an advertisement of the history is not after the one that follows. -/
lemma Timely.le_last (h : Timely (history ++ [ad])) {i : ℕ} {x : Advert}
    (hx : history[i]? = some x) : x.now.toNat ≤ ad.now.toNat :=
  (List.pairwise_append.1 h.le).2.2 x (List.mem_of_getElem? hx) ad List.mem_cons_self

lemma Timely.init (h : Timely (history ++ [ad])) : Timely history :=
  ⟨fun x hx => h.pos x (List.mem_append_left _ hx), (List.pairwise_append.1 h.le).1⟩

lemma Timely.le_of_le (h : Timely history) {i j : ℕ} (hij : i ≤ j) {x y : Advert}
    (hx : history[i]? = some x) (hy : history[j]? = some y) : x.now.toNat ≤ y.now.toNat := by
  rcases Nat.eq_or_lt_of_le hij with rfl | hlt
  · rw [hx, Option.some_inj] at hy
    rw [hy]
  · obtain ⟨hi, rfl⟩ := List.getElem?_eq_some_iff.1 hx
    obtain ⟨hj, rfl⟩ := List.getElem?_eq_some_iff.1 hy
    exact List.pairwise_iff_getElem.1 h.le i j hi hj hlt

/-- A longer history has the same advertisements up to `r`. -/
lemma Since.append {addr : Addr} {P : Advert → Prop} {r : ℕ} (hr : r < history.length)
    (h : Since history addr P r) : Since (history ++ [ad]) addr P r := by
  obtain ⟨p, hp, x, hx, haddr, hP, hunbroken⟩ := h
  refine ⟨p, hp, x, getElem?_append_of_some hx, haddr, hP, ?_⟩
  intro i j y z hpi hij hjr hy hz haddr' haddr'' hnone
  refine hunbroken i j y z hpi hij hjr (getElem?_of_append hy (by omega))
    (getElem?_of_append hz (by omega)) haddr' haddr'' fun k w hik hkj hw => ?_
  exact hnone k w hik hkj (getElem?_append_of_some hw)

/-- Another advertisement of the address comes soon enough. -/
lemma Since.extend {P : Advert → Prop} {r : ℕ} {x : Advert} (ht : Timely (history ++ [ad]))
    (hx : history[r]? = some x) (haddr : x.addr = ad.addr)
    (hsoon : ad.now.toNat < x.now.toNat + 2000) (h : Since history ad.addr P r) :
    Since (history ++ [ad]) ad.addr P history.length := by
  have hr : r < history.length := (List.getElem?_eq_some_iff.1 hx).1
  have hlonger : Since (history ++ [ad]) ad.addr P r := h.append hr
  obtain ⟨p, hp, y, hy, haddr', hP, hunbroken⟩ := hlonger
  refine ⟨p, hp.trans hr.le, y, hy, haddr', hP, ?_⟩
  intro i j z w hpi hij hj hz hw hzaddr hwaddr hnone
  by_cases hjr : j ≤ r
  · exact hunbroken i j z w hpi hij hjr hz hw hzaddr hwaddr hnone
  by_cases hir : r ≤ i
  · have hfrom := ht.le_of_le hir (getElem?_append_of_some hx) hz
    have hto := ht.le_of_le hj hw (List.getElem?_concat_length ..)
    omega
  · exact absurd haddr (hnone r x (not_le.1 hir) (not_le.1 hjr) (getElem?_append_of_some hx))

/-- An advertisement with a property is one of the history itself. -/
lemma Since.last {P : Advert → Prop} (hP : P ad) :
    Since (history ++ [ad]) ad.addr P history.length := by
  refine ⟨history.length, le_rfl, ad, List.getElem?_concat_length .., rfl, hP, ?_⟩
  intro i j x y hi hij hj
  omega

/-- No entry has been seen after the advertisement that follows. -/
lemma Noted.seen_le (h : Noted history cache) (ht : Timely (history ++ [ad])) :
    ∀ entry ∈ cache, entry.seen.toNat ≤ ad.now.toNat := by
  intro entry hmem
  by_cases hzero : entry.seen = 0
  · rw [hzero]
    exact Nat.zero_le _
  · obtain ⟨r, ⟨x, hx, -, hseen⟩, -, -⟩ := h.heard entry hmem hzero
    exact hseen ▸ ht.le_last hx

lemma Slot.base_addr {i : ℕ} {base : Advertiser} (hslot : Slot cache ad.addr ad.now i base) :
    base.addr = ad.addr := by
  cases hslot with
  | found hget haddr _ _ => exact haddr
  | taken => rfl

/-- Of an address, the other entries are too old. -/
lemma Noted.stale (h : Noted history cache) (ht : Timely (history ++ [ad])) {i j : ℕ}
    {base e : Advertiser} (hslot : Slot cache ad.addr ad.now i base) (hne : j ≠ i)
    (he : cache[j]? = some e) (haddr : e.addr = ad.addr) (hused : e.seen ≠ 0) :
    e.seen.toNat + 2000 ≤ ad.now.toNat := by
  cases hslot with
  | found hget hbase hfresh hfirst =>
    by_cases hzero : base.seen = 0
    · refine hfirst j (lt_of_le_of_ne (not_lt.1 fun hlt => hused ?_) hne) e he haddr
      exact h.usedFirst i j base e hlt hget he hzero
    · have hle := h.seen_le ht e (List.mem_of_getElem? he)
      have hle' := h.seen_le ht base (List.mem_of_getElem? hget)
      rcases h.apart i j base e hne.symm hget he (hbase.trans haddr.symm) hzero hused with hlt | hlt
      · omega
      · omega
  | taken _ hstale _ _ => exact hstale e (List.mem_of_getElem? he) haddr

/-- The entries of the cache after an advertisement. -/
lemma getElem?_set_cases {i j : ℕ} {new e : Advertiser} (h : (cache.set i new)[j]? = some e) :
    j = i ∧ e = new ∨ j ≠ i ∧ cache[j]? = some e := by
  rw [List.getElem?_set] at h
  split at h
  · rename_i heq
    split at h
    · exact .inl ⟨heq.symm, (Option.some.inj h).symm⟩
    · cases h
  · rename_i hne
    exact .inr ⟨fun heq => hne heq.symm, h⟩

/-- The entry of the address that was noted has heard the advertisement. -/
lemma Noted.heard_hear (h : Noted history cache) (ht : Timely (history ++ [ad])) {i : ℕ}
    {base : Advertiser} (hslot : Slot cache ad.addr ad.now i base) :
    (base.hear ad).Heard (history ++ [ad]) history.length := by
  have haddr := hslot.base_addr
  -- a flag that was set has been set since an advertisement that is close enough
  have hflag {P : Advert → Prop} [DecidablePred P] {flag : Bool}
      (hbase : ∀ (_ : cache[i]? = some base) r, base.Heard history r → flag = true →
        Since history base.addr P r) (hnew : flag = true → base ≠ { addr := base.addr })
      (hset : (flag || decide (P ad)) = true) :
      Since (history ++ [ad]) ad.addr P history.length := by
    rcases Bool.or_eq_true_iff.1 hset with hflag | hP
    · cases hslot with
      | found hget _ hfresh _ =>
        have hused : base.seen ≠ 0 := by
          intro hzero
          have hempty := h.unused base (List.mem_of_getElem? hget) hzero
          refine hnew hflag ?_
          rw [hempty]
        obtain ⟨r, hheard⟩ := h.heard base (List.mem_of_getElem? hget) hused
        obtain ⟨x, hx, hxaddr, hseen⟩ := hheard.last
        have hsince := hbase hget r hheard hflag
        rw [haddr] at hsince
        exact hsince.extend ht hx (hxaddr.trans haddr) (hseen ▸ hfresh)
      | taken => exact absurd rfl (hnew hflag)
    · exact Since.last (of_decide_eq_true hP)
  refine ⟨⟨ad, List.getElem?_concat_length .., haddr.symm, rfl⟩, fun hset => ?_, fun hset => ?_⟩
  · show Since _ base.addr _ _
    rw [haddr]
    refine hflag (fun _ _ hheard => hheard.connectable) (fun hflag heq => ?_) hset
    rw [heq] at hflag
    cases hflag
  · show Since _ base.addr _ _
    rw [haddr]
    refine hflag (fun _ _ hheard => hheard.m720) (fun hflag heq => ?_) hset
    rw [heq] at hflag
    cases hflag

/-- An advertisement is noted. -/
lemma Noted.hear (h : Noted history cache) (ht : Timely (history ++ [ad])) {i : ℕ}
    {base : Advertiser} (hslot : Slot cache ad.addr ad.now i base) :
    Noted (history ++ [ad]) (cache.set i (base.hear ad)) := by
  have hnow : (base.hear ad).seen ≠ 0 := by
    have hpos := ht.pos ad (List.mem_append_right _ List.mem_cons_self)
    intro hzero
    rw [show ad.now = 0 from hzero] at hpos
    exact absurd hpos (by decide)
  have hold {e : Advertiser} (he : e ∈ cache.set i (base.hear ad)) :
      e = base.hear ad ∨ e ∈ cache := by
    obtain ⟨j, hj⟩ := List.getElem?_of_mem he
    rcases getElem?_set_cases hj with ⟨-, heq⟩ | ⟨-, hget⟩
    · exact .inl heq
    · exact .inr (List.mem_of_getElem? hget)
  refine ⟨?_, ?_, ?_, ?_, ?_⟩
  · rw [List.length_set]
    exact h.length
  · intro e he hused
    rcases hold he with rfl | hmem
    · exact ⟨history.length, h.heard_hear ht hslot⟩
    · obtain ⟨r, ⟨x, hx, hxaddr, hseen⟩, hconnectable, hm720⟩ := h.heard e hmem hused
      have hr := (List.getElem?_eq_some_iff.1 hx).1
      exact ⟨r, ⟨x, getElem?_append_of_some hx, hxaddr, hseen⟩,
        fun hset => (hconnectable hset).append hr, fun hset => (hm720 hset).append hr⟩
  · intro e he hzero
    rcases hold he with rfl | hmem
    · exact absurd hzero hnow
    · exact h.unused e hmem hzero
  · intro j k e e' hlt he he' hzero
    rcases getElem?_set_cases he with ⟨-, rfl⟩ | ⟨hj, hget⟩
    · exact absurd hzero hnow
    rcases getElem?_set_cases he' with ⟨rfl, -⟩ | ⟨hk, hget'⟩
    · -- an unused entry before the slot would have been the slot
      have hempty := h.unused e (List.mem_of_getElem? hget) hzero
      cases hslot with
      | found hbase haddr hfresh hfirst =>
        have hbasezero := h.usedFirst j k e base hlt hget hbase hzero
        have hbaseempty := h.unused base (List.mem_of_getElem? hbase) hbasezero
        have hage := hfirst j hlt e hget (by rw [hempty, ← haddr, hbaseempty])
        rw [hzero] at hage
        rw [hbasezero] at hfresh
        omega
      | taken _ _ _ hfirst =>
        have hless := hfirst j hlt e hget
        rw [hzero] at hless
        exact absurd hless (Nat.not_lt_zero _)
    · exact h.usedFirst j k e e' hlt hget hget' hzero
  · intro j k e e' hne he he' haddr hused hused'
    have hbase := hslot.base_addr
    rcases getElem?_set_cases he with ⟨rfl, rfl⟩ | ⟨hj, hget⟩
    · rcases getElem?_set_cases he' with ⟨rfl, -⟩ | ⟨hk, hget'⟩
      · exact absurd rfl hne
      · exact .inr (h.stale ht hslot hk hget' (haddr.symm.trans hbase) hused')
    · rcases getElem?_set_cases he' with ⟨rfl, rfl⟩ | ⟨hk, hget'⟩
      · exact .inl (h.stale ht hslot hj hget (haddr.trans hbase) hused)
      · exact h.apart j k e e' hne hget hget' haddr hused hused'

end Hear

/-! ### What is not given up -/

/-- The other addresses processed at times not before an advertisement. -/
def crowd (history : List Advert) (x : Advert) : Finset Addr :=
  ((history.filter fun y => x.now.toNat ≤ y.now.toNat ∧ y.addr ≠ x.addr).map (·.addr)).toFinset

lemma mem_crowd {history : List Advert} {x : Advert} {addr : Addr} :
    addr ∈ crowd history x ↔
      ∃ y ∈ history, x.now.toNat ≤ y.now.toNat ∧ y.addr ≠ x.addr ∧ y.addr = addr := by
  simp [crowd, and_assoc]

lemma crowd_subset {history : List Advert} {ad : Advert} (x : Advert) :
    crowd history x ⊆ crowd (history ++ [ad]) x := by
  intro addr h
  rw [mem_crowd] at h ⊢
  obtain ⟨y, hy, hrest⟩ := h
  exact ⟨y, List.mem_append_left _ hy, hrest⟩

/-- An entry holds what an advertisement has said. -/
def Holds (cache : List Advertiser) (x : Advert) : Prop :=
  ∃ (i : ℕ) (e : Advertiser), cache[i]? = some e ∧ e.addr = x.addr ∧
    x.now.toNat ≤ e.seen.toNat ∧ (x.Connectable → e.connectable = true) ∧
    (x.Named → e.m720 = true)

section Kept

variable {history : List Advert} {cache : List Advertiser} {ad x : Advert}

lemma holds_hear {i : ℕ} {base : Advertiser} (hi : i < cache.length)
    (hslot : Slot cache ad.addr ad.now i base) : Holds (cache.set i (base.hear ad)) ad := by
  refine ⟨i, base.hear ad, List.getElem?_set_self hi, hslot.base_addr, le_rfl, ?_, ?_⟩
  · intro hconnectable
    exact Bool.or_eq_true_iff.2 (.inr (decide_eq_true hconnectable))
  · intro hnamed
    exact Bool.or_eq_true_iff.2 (.inr (decide_eq_true hnamed))

lemma Slot.lt_length {addr : Addr} {now : BitVec 32} {i : ℕ} {base : Advertiser}
    (hslot : Slot cache addr now i base) : i < cache.length := by
  cases hslot with
  | found hget => exact (List.getElem?_eq_some_iff.1 hget).1
  | taken hget => exact (List.getElem?_eq_some_iff.1 hget).1

/-- If the oldest entry has been seen since an advertisement, then every entry is of an address
of its own. -/
lemma Noted.crowded (h : Noted history cache) (ht : Timely (history ++ [ad])) (hx : x ∈ history)
    (hsoon : ad.now.toNat < x.now.toNat + 2000) {i : ℕ} {old : Advertiser}
    (hget : cache[i]? = some old)
    (hstale : ∀ e ∈ cache, e.addr = ad.addr → e.seen.toNat + 2000 ≤ ad.now.toNat)
    (hold : ∀ e ∈ cache, old.seen.toNat ≤ e.seen.toNat) (haddr : old.addr = x.addr)
    (hseen : x.now.toNat ≤ old.seen.toNat) : 8 ≤ (crowd (history ++ [ad]) x).card := by
  have hpos := ht.init.pos x hx
  have hxnow : x.now.toNat ≤ ad.now.toNat := by
    obtain ⟨k, hk⟩ := List.getElem?_of_mem hx
    exact ht.le_last hk
  have hsince {e : Advertiser} (he : e ∈ cache) : x.now.toNat ≤ e.seen.toNat :=
    hseen.trans (hold e he)
  have hused {e : Advertiser} (he : e ∈ cache) : e.seen ≠ 0 := by
    intro hzero
    have hle := hsince he
    rw [hzero] at hle
    exact absurd (hpos.trans_le hle) (lt_irrefl 0)
  have hnew {e : Advertiser} (he : e ∈ cache) : e.addr ≠ ad.addr := by
    intro heq
    have hle := hstale e he heq
    have hle' := hsince he
    omega
  have hapart {j k : ℕ} {e e' : Advertiser} (hj : cache[j]? = some e) (hk : cache[k]? = some e')
      (heq : e.addr = e'.addr) : j = k := by
    by_contra hne
    have he := List.mem_of_getElem? hj
    have he' := List.mem_of_getElem? hk
    have hle := h.seen_le ht e he
    have hle' := h.seen_le ht e' he'
    have hge := hsince he
    have hge' := hsince he'
    rcases h.apart j k e e' hne hj hk heq (hused he) (hused he') with hfar | hfar
    · omega
    · omega
  have hentry {j : ℕ} (hj : j < 8) : ∃ e, cache[j]? = some e := by
    rw [← h.length] at hj
    exact ⟨cache[j], List.getElem?_eq_getElem hj⟩
  -- the new address takes the place of the oldest entry
  let address (j : ℕ) : Addr := if j = i then ad.addr else ((cache[j]?).getD {}).addr
  have haddress {j : ℕ} {e : Advertiser} (hne : j ≠ i) (hj : cache[j]? = some e) :
      address j = e.addr := by
    show ite _ _ _ = _
    rw [if_neg hne, hj]
    rfl
  have hnewest : address i = ad.addr := if_pos rfl
  refine Finset.le_card_of_inj_on_range address (fun j hj => ?_) fun j hj k hk heq => ?_
  · rw [mem_crowd]
    obtain ⟨e, he⟩ := hentry hj
    by_cases hji : j = i
    · rw [hji, hnewest]
      refine ⟨ad, List.mem_append_right _ List.mem_cons_self, hxnow, ?_, rfl⟩
      rw [← haddr]
      exact (hnew (List.mem_of_getElem? hget)).symm
    · rw [haddress hji he]
      have hmem := List.mem_of_getElem? he
      obtain ⟨r, ⟨y, hy, hyaddr, hynow⟩, -, -⟩ := h.heard e hmem (hused hmem)
      refine ⟨y, List.mem_append_left _ (List.mem_of_getElem? hy), ?_, ?_, hyaddr⟩
      · rw [hynow]
        exact hsince hmem
      · rw [hyaddr, ← haddr]
        exact fun heq => hji (hapart he hget heq)
  · obtain ⟨e, he⟩ := hentry hj
    obtain ⟨e', he'⟩ := hentry hk
    by_cases hji : j = i
    · by_cases hki : k = i
      · rw [hji, hki]
      · rw [hji, hnewest, haddress hki he'] at heq
        exact absurd heq.symm (hnew (List.mem_of_getElem? he'))
    · by_cases hki : k = i
      · rw [hki, hnewest, haddress hji he] at heq
        exact absurd heq (hnew (List.mem_of_getElem? he))
      · rw [haddress hji he, haddress hki he'] at heq
        exact hapart he he' heq

/-- An entry that holds an advertisement is not given up while few others are heard. -/
lemma Holds.hear (h : Noted history cache) (ht : Timely (history ++ [ad])) (hx : x ∈ history)
    (hsoon : ad.now.toNat < x.now.toNat + 2000) (hfew : (crowd (history ++ [ad]) x).card < 8)
    {i : ℕ} {base : Advertiser} (hslot : Slot cache ad.addr ad.now i base)
    (hholds : Holds cache x) : Holds (cache.set i (base.hear ad)) x := by
  obtain ⟨j, e, he, haddr, hseen, hconnectable, hnamed⟩ := hholds
  by_cases hji : j = i
  · subst hji
    refine ⟨j, base.hear ad, List.getElem?_set_self hslot.lt_length, ?_⟩
    cases hslot with
    | found hget =>
      obtain rfl : e = base := Option.some.inj (he.symm.trans hget)
      refine ⟨haddr, hseen.trans (h.seen_le ht e (List.mem_of_getElem? he)), ?_, ?_⟩
      · intro hP
        exact Bool.or_eq_true_iff.2 (.inl (hconnectable hP))
      · intro hP
        exact Bool.or_eq_true_iff.2 (.inl (hnamed hP))
    | taken hget hstale hold _ =>
      obtain rfl := Option.some.inj (he.symm.trans hget)
      exact absurd (h.crowded ht hx hsoon hget hstale hold haddr hseen) (not_le.2 hfew)
  · refine ⟨j, e, ?_, haddr, hseen, hconnectable, hnamed⟩
    rw [List.getElem?_set_ne (Ne.symm hji)]
    exact he

end Kept

/-! ### A run -/

section Run

variable {history : List Advert} {s : State} {ad : Advert}

@[simp] lemma State.centralConnect_advertisers (s : State) (addr : Addr) :
    (s.centralConnect addr).advertisers = s.advertisers := by
  unfold State.centralConnect
  split
  · rfl
  · rfl

/-- What `zmk_ble_mouse_advertisement` does with an advertisement. -/
lemma advertised_spec (hs : s.Listening) (h : Noted history s.advertisers)
    (ht : Timely (history ++ [ad])) : ∃ i base, Slot s.advertisers ad.addr ad.now i base ∧
      (s.advertised ad).1.advertisers = s.advertisers.set i (base.hear ad) ∧
      (s.advertised ad).2 = ((base.hear ad).connectable && (base.hear ad).m720) := by
  obtain ⟨i, base, hslot, hindex, hnoted⟩ := slot_spec h.length (h.seen_le ht)
  refine ⟨i, base, hslot, ?_⟩
  have heq : s.advertised ad =
      if (base.hear ad).connectable && (base.hear ad).m720 then
        (State.centralConnect { s with advertisers := s.advertisers.set i (base.hear ad) } ad.addr,
          true)
      else ({ s with advertisers := s.advertisers.set i (base.hear ad) }, false) := by
    unfold State.advertised State.zmkBleMouseAdvertisement
    rw [hs.scanWanted, hs.pairing, hs.havePeer, hindex, hnoted]
    rfl
  rw [heq]
  split
  case isTrue hset => exact ⟨State.centralConnect_advertisers _ _, hset.symm⟩
  case isFalse hset => exact ⟨rfl, (Bool.eq_false_of_not_eq_true hset).symm⟩

lemma noted_of_received {cache : List Advertiser} (h : Received history cache)
    (ht : Timely history) : Noted history cache := by
  induction h with
  | nil => exact noted_initial
  | snoc h hs ih =>
    obtain ⟨i, base, hslot, hset, -⟩ := advertised_spec hs (ih ht.init) ht
    rw [hset]
    exact (ih ht.init).hear ht hslot

/-- The cache holds every recent advertisement that few others have followed. -/
lemma holds_of_received {cache : List Advertiser} (h : Received history cache)
    (ht : Timely history) {x : Advert} (hx : x ∈ history)
    (hsoon : ∀ y ∈ history, y.now.toNat < x.now.toNat + 2000)
    (hfew : (crowd history x).card < 8) : Holds cache x := by
  induction h with
  | nil => cases hx
  | @snoc history s ad h hs ih =>
    have hnoted := noted_of_received h ht.init
    obtain ⟨i, base, hslot, hset, -⟩ := advertised_spec hs hnoted ht
    rw [hset]
    rcases List.mem_append.1 hx with hx | hx
    · have hholds := ih ht.init hx (fun y hy => hsoon y (List.mem_append_left _ hy))
        ((Finset.card_le_card (crowd_subset x)).trans_lt hfew)
      exact hholds.hear hnoted ht hx (hsoon ad (List.mem_append_right _ List.mem_cons_self)) hfew
        hslot
    · obtain rfl := List.mem_singleton.1 hx
      exact holds_hear hslot.lt_length hslot

/-- An address becomes a candidate only by fresh advertisements, one that is connectable and one
that has the name, and does so with the later of two that are less than two seconds apart unless
eight other addresses were heard. -/
theorem candidate_is_fresh (h : Received history s.advertisers) (hs : s.Listening)
    (ht : Timely (history ++ [ad])) :
    ((s.advertised ad).2 = true →
      Since (history ++ [ad]) ad.addr Advert.Connectable history.length ∧
      Since (history ++ [ad]) ad.addr Advert.Named history.length) ∧
    ∀ x ∈ history ++ [ad], x.addr = ad.addr → ad.now.toNat < x.now.toNat + 2000 →
      (x.Connectable ∧ ad.Named ∨ x.Named ∧ ad.Connectable) →
      (crowd (history ++ [ad]) x).card < 8 → (s.advertised ad).2 = true := by
  have hnoted := noted_of_received h ht.init
  obtain ⟨i, base, hslot, hset, hanswer⟩ := advertised_spec hs hnoted ht
  rw [hanswer, Bool.and_eq_true]
  constructor
  · rintro ⟨hconnectable, hnamed⟩
    have hheard := hnoted.heard_hear ht hslot
    have haddr : (base.hear ad).addr = ad.addr := hslot.base_addr
    rw [← haddr]
    exact ⟨hheard.connectable hconnectable, hheard.m720 hnamed⟩
  · intro x hx haddr hsoon hboth hfew
    have hall : ∀ y ∈ history ++ [ad], y.now.toNat < x.now.toNat + 2000 := by
      intro y hy
      rcases List.mem_append.1 hy with hy | hy
      · obtain ⟨k, hk⟩ := List.getElem?_of_mem hy
        exact (ht.le_last hk).trans_lt hsoon
      · rwa [List.mem_singleton.1 hy]
    -- the entry that holds the earlier one is the entry of the later one
    obtain ⟨j, e, he, headdr, hseen, hconnectable, hnamed⟩ :=
      holds_of_received (h.snoc hs) ht hx hall hfew
    rw [hset] at he
    obtain rfl : e = base.hear ad := by
      rcases getElem?_set_cases he with ⟨-, heq⟩ | ⟨hji, hget⟩
      · exact heq
      · have hpos := ht.pos x hx
        have hstale := hnoted.stale ht hslot hji hget (headdr.trans haddr) fun hzero => by
          rw [hzero] at hseen
          exact absurd (hpos.trans_le hseen) (lt_irrefl 0)
        omega
    rcases hboth with ⟨hx, had⟩ | ⟨hx, had⟩
    · exact ⟨hconnectable hx, Bool.or_eq_true_iff.2 (.inr (decide_eq_true had))⟩
    · exact ⟨Bool.or_eq_true_iff.2 (.inr (decide_eq_true had)), hnamed hx⟩

/-- A scan response with the name makes an address a candidate when it is followed by an
`ADV_IND`. -/
theorem candidate_is_fresh_scan_response :
    let addr : Addr := ⟨1, 0xc50403020109⟩
    let name : Advert := ⟨addr, .scanRsp, [(9, [0x4d, 0x37, 0x32, 0x30])], 1000⟩
    let connectable : Advert := ⟨addr, .advInd, [], 2500⟩
    let s : State := { scanWanted := true, pairing := true }
    ((s.advertised name).1.advertised connectable).2 = true ∧
      Since [name, connectable] addr Advert.Named 1 := by
  intro addr name connectable s
  have hs : s.Listening := ⟨rfl, rfl, rfl⟩
  have hs' : (s.advertised name).1.Listening := ⟨rfl, rfl, rfl⟩
  have ht : Timely ([name] ++ [connectable]) := ⟨by decide, by decide⟩
  have hreceived : Received [name] (s.advertised name).1.advertisers := Received.snoc .nil hs
  have h := candidate_is_fresh hreceived hs' ht
  have htrue := h.2 name (by decide) rfl (by decide) (.inr (by decide)) (by decide)
  exact ⟨htrue, (h.1 htrue).2⟩

end Run

end BleMouse.Client
