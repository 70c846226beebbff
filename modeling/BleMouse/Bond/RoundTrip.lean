/-
Round trips through the bond record adapters.

A record is saved through `wrapSettingsSaveOne`, kept by the settings backend, and loaded
again through `wrapSettingsCallSetHandler`.  Both wrappers decide about the format from the
four metadata bytes at the start of the record (`scRecord_congr`), and those bytes are part
of both formats, so the two decisions always agree.  The main result is
`bond_records_survive`.
-/
import BleMouse.Bond.Adapter

namespace BleMouse.Bond

variable (L : KeyLayout)

/-! ### The format decision -/

lemma KeyLayout.keySizeOffset_eq : L.keySizeOffset = 0 := by
  have h := L.encSize_eq
  unfold KeyLayout.keySizeOffset
  omega

lemma KeyLayout.flagsOffset_eq : L.flagsOffset = 1 := by
  have h := L.flags_eq
  unfold KeyLayout.flagsOffset
  omega

lemma KeyLayout.typesOffset_eq : L.typesOffset = 2 := by
  have h := L.keys_eq
  unfold KeyLayout.typesOffset
  omega

/-- `scRecord` looks at the first four bytes only. -/
lemma scRecord_congr {a b : List UInt8} (h : a.take 4 = b.take 4) :
    scRecord L a = scRecord L b := by
  have hget : ∀ i < 4, a.getD i 0 = b.getD i 0 := by
    intro i hi
    have hi' := congrArg (fun l => l[i]?) h
    simp only [List.getElem?_take_of_lt hi] at hi'
    simp only [List.getD_eq_getElem?_getD, hi']
  unfold scRecord
  rw [L.keySizeOffset_eq, L.flagsOffset_eq, L.typesOffset_eq]
  rw [hget 0 (by omega), hget 1 (by omega), hget 2 (by omega), hget (2 + 1) (by omega)]

/-- The record `v` with everything after the old fields replaced by `n` zero bytes. -/
def zeroTail (v : List UInt8) (n : ℕ) : List UInt8 :=
  v.take L.oldFieldsLen ++ List.replicate (n - L.oldFieldsLen) 0

lemma length_zeroTail {v : List UInt8} {n : ℕ} (hv : L.oldFieldsLen ≤ v.length)
    (hn : L.oldFieldsLen ≤ n) : (zeroTail L v n).length = n := by
  simp only [zeroTail, List.length_append, List.length_take, List.length_replicate]
  omega

lemma take_zeroTail {v : List UInt8} (hv : L.oldFieldsLen ≤ v.length) (n : ℕ) :
    (zeroTail L v n).take L.oldFieldsLen = v.take L.oldFieldsLen := by
  have hlen : (v.take L.oldFieldsLen).length = L.oldFieldsLen := by
    rw [List.length_take]
    omega
  rw [zeroTail, List.take_append_of_le_length (le_of_eq hlen.symm), List.take_take, min_self]

/-- Replacing the tail of a record does not change its format. -/
lemma scRecord_zeroTail {v : List UInt8} (hv : L.oldFieldsLen ≤ v.length) (n : ℕ) :
    scRecord L (zeroTail L v n) = scRecord L v := by
  apply scRecord_congr
  have hmeta := L.metadata_lt_oldFieldsLen
  have htake := congrArg (List.take 4) (take_zeroTail L hv n)
  rwa [List.take_take, List.take_take, min_eq_left hmeta] at htake

/-- A second replacement sees the old fields of the first one. -/
lemma zeroTail_zeroTail {v : List UInt8} (hv : L.oldFieldsLen ≤ v.length) (m n : ℕ) :
    zeroTail L (zeroTail L v m) n = zeroTail L v n := by
  rw [zeroTail, take_zeroTail L hv m, ← zeroTail]

/-! ### Saving and loading -/

/-- The arguments `__wrap_settings_save_one` hands to the wrapped function. -/
structure SaveCall where
  name : CString
  value : Option (List UInt8)
  len : ℕ
deriving DecidableEq, Repr

/-- What is handed to storage when a record of `len` bytes is saved. -/
def saved (name : CString) (value : List UInt8) (len : ℕ) : SaveCall :=
  wrapSettingsSaveOne L SaveCall.mk name (some value) len

/-- How a load ends: in a call of the wrapped handler, or in an error of the wrapper. -/
inductive LoadOutcome
  | called (name : CString) (len : ℕ) (readCb : Reader) (loadArg : Option SettingsLoadArg)
  | failed (err : ℤ)

/-- The settings backend's callback for a stored record: it copies as many bytes as were
asked for and are there, and returns their number. -/
def storageReader (bytes : List UInt8) : Reader := fun len =>
  ⟨(min len bytes.length : ℕ), bytes.take len⟩

/-- Loading the stored record `bytes` with no load argument. -/
def loaded (settingsNameSteq : List Char → List Char → Bool) (name : CString)
    (bytes : List UInt8) : LoadOutcome :=
  wrapSettingsCallSetHandler L settingsNameSteq LoadOutcome.called LoadOutcome.failed name
    bytes.length (storageReader bytes) none

/-- The wrapped handler is called for `name`, with the length of `bytes` and a callback that
reads exactly `bytes`. -/
def Delivers (out : LoadOutcome) (name : CString) (bytes : List UInt8) : Prop :=
  ∃ readCb, out = LoadOutcome.called name bytes.length readCb none ∧
    ∀ n, readCb n = ⟨(min n bytes.length : ℕ), bytes.take n⟩

/-- The record a full-length record comes back as. -/
def restored (v : List UInt8) : List UInt8 :=
  if scRecord L v then zeroTail L v L.btKeysStorageLen else v

lemma fill_replicate {n : ℕ} {written : List UInt8} (h : written.length ≤ n) :
    fill (List.replicate n 0) written = written ++ List.replicate (n - written.length) 0 := by
  simp [fill, List.take_of_length_le h]

lemma readAdapted_eq (bytes : List UInt8) (n : ℕ) :
    readAdapted bytes n = ⟨(min n bytes.length : ℕ), bytes.take n⟩ := by
  simp only [readAdapted, ReadResult.mk.injEq, true_and]
  rcases le_total n bytes.length with h | h
  · rw [min_eq_left h]
  · rw [min_eq_right h, List.take_of_length_le h, List.take_of_length_le le_rfl]

variable {L} {name : CString}

/-- An SC record is stored in the old format. -/
lemma saved_of_scRecord (hname : isBondKey name = true) {v : List UInt8}
    (hv : v.length = L.btKeysStorageLen) (hsc : scRecord L v = true) :
    saved L name v v.length =
      ⟨name, some (zeroTail L v L.oldStorageLen), L.oldStorageLen⟩ := by
  have hle := L.oldFieldsLen_le
  have hlt := L.oldStorageLen_lt
  have htake : (v.take L.oldFieldsLen).length = L.oldFieldsLen := by
    rw [List.length_take]
    omega
  have hfill : fill (List.replicate L.oldStorageLen 0) (v.take L.oldFieldsLen)
      = zeroTail L v L.oldStorageLen := by
    rw [fill_replicate (by omega), htake, ← zeroTail]
  simp [saved, wrapSettingsSaveOne, hname, hv, hsc, hfill]

/-- Any other record is stored as it is, under every name and at every length. -/
lemma saved_of_not_scRecord (name : CString) {v : List UInt8} (hsc : scRecord L v = false)
    (len : ℕ) : saved L name v len = ⟨name, some v, len⟩ := by
  simp [saved, wrapSettingsSaveOne, hsc]

/-- A full-length record is passed through. -/
lemma loaded_full (settingsNameSteq : List Char → List Char → Bool) (name : CString)
    {v : List UInt8} (hv : v.length = L.btKeysStorageLen) :
    Delivers (loaded L settingsNameSteq name v) name v := by
  refine ⟨storageReader v, ?_, fun n => rfl⟩
  simp [loaded, wrapSettingsCallSetHandler, hv]

/-- An old SC record is expanded. -/
lemma loaded_old (settingsNameSteq : List Char → List Char → Bool)
    (hname : isBondKey name = true) {r : List UInt8} (hr : r.length = L.oldStorageLen)
    (hsc : scRecord L r = true) :
    Delivers (loaded L settingsNameSteq name r) name (zeroTail L r L.btKeysStorageLen) := by
  have hle := L.oldFieldsLen_le
  have hlt := L.oldStorageLen_lt
  have hmeta := L.metadata_lt_oldFieldsLen
  have hlen : (zeroTail L r L.btKeysStorageLen).length = L.btKeysStorageLen :=
    length_zeroTail L (by omega) (by omega)
  -- the buffer the wrapper reads into: the record, then zeros
  have hbuf : fill (List.replicate L.btKeysStorageLen 0) r
      = r ++ List.replicate (L.btKeysStorageLen - r.length) 0 := fill_replicate (by omega)
  have htake : ∀ n ≤ r.length,
      (r ++ List.replicate (L.btKeysStorageLen - r.length) 0).take n = r.take n := fun n hn =>
    List.take_append_of_le_length hn
  have hsc' : scRecord L (r ++ List.replicate (L.btKeysStorageLen - r.length) 0) = true := by
    rw [scRecord_congr L (htake 4 (by omega))]
    exact hsc
  refine ⟨readAdapted (zeroTail L r L.btKeysStorageLen), ?_, readAdapted_eq _⟩
  have hread : r.take L.oldStorageLen = r := List.take_of_length_le (by omega)
  have hne : L.oldStorageLen ≠ 0 := by omega
  rw [hlen]
  simp only [loaded, wrapSettingsCallSetHandler, hname, hr, storageReader, hread, hbuf]
  rw [hr] at hsc' htake
  have hsizes : L.oldStorageLen ≠ L.btKeysStorageLen := by omega
  simp [hne, hsc', htake L.oldFieldsLen hle, zeroTail, hsizes]

/-- **Bond records survive the format adapters.**  A full-length record that is saved under a
bond key comes back full length: unchanged if it is not an SC record, otherwise with its old
fields and a zero tail, and saving what came back stores the same again.  A record of the old
format that is loaded and saved keeps its fields and its length.  Only SC records are ever
stored short, and every full-length SC record is. -/
theorem bond_records_survive (L : KeyLayout) (settingsNameSteq : List Char → List Char → Bool)
    (name : CString) (hname : isBondKey name = true) :
    (∀ v : List UInt8, v.length = L.btKeysStorageLen →
      ∃ stored : List UInt8, saved L name v v.length = ⟨name, some stored, stored.length⟩ ∧
        (restored L v).length = L.btKeysStorageLen ∧
        Delivers (loaded L settingsNameSteq name stored) name (restored L v) ∧
        saved L name (restored L v) (restored L v).length = saved L name v v.length ∧
        (scRecord L v = true → stored.length = L.oldStorageLen) ∧
        (scRecord L v = false → stored = v)) ∧
    (∀ r : List UInt8, r.length = L.oldStorageLen → scRecord L r = true →
      ∃ v : List UInt8, v.length = L.btKeysStorageLen ∧
        Delivers (loaded L settingsNameSteq name r) name v ∧
        saved L name v v.length =
          ⟨name, some (r.take L.oldFieldsLen ++
            List.replicate (L.oldStorageLen - L.oldFieldsLen) 0), L.oldStorageLen⟩) ∧
    (∀ (v : List UInt8) (len : ℕ), scRecord L v = false →
      saved L name v len = ⟨name, some v, len⟩) := by
  have hle := L.oldFieldsLen_le
  have hlt := L.oldStorageLen_lt
  refine ⟨fun v hv => ?_, fun r hr hsc => ?_, fun v len hsc => saved_of_not_scRecord name hsc len⟩
  · have hvlen : L.oldFieldsLen ≤ v.length := by omega
    cases hsc : scRecord L v with
    | false =>
      have hrest : restored L v = v := by simp [restored, hsc]
      rw [hrest]
      exact ⟨v, saved_of_not_scRecord name hsc _, hv, loaded_full settingsNameSteq name hv, rfl,
        by simp, fun _ => rfl⟩
    | true =>
      have hrest : restored L v = zeroTail L v L.btKeysStorageLen := by simp [restored, hsc]
      have hlen : (zeroTail L v L.oldStorageLen).length = L.oldStorageLen :=
        length_zeroTail L hvlen hle
      have hlen' : (zeroTail L v L.btKeysStorageLen).length = L.btKeysStorageLen :=
        length_zeroTail L hvlen (by omega)
      have hsc' : scRecord L (zeroTail L v L.oldStorageLen) = true := by
        rw [scRecord_zeroTail L hvlen, hsc]
      have hload := loaded_old settingsNameSteq hname hlen hsc'
      rw [zeroTail_zeroTail L hvlen] at hload
      rw [hrest]
      refine ⟨zeroTail L v L.oldStorageLen, ?_, hlen', hload, ?_, fun _ => hlen, by simp⟩
      · rw [saved_of_scRecord hname hv hsc, hlen]
      · rw [saved_of_scRecord hname hv hsc, saved_of_scRecord hname hlen'
          (by rw [scRecord_zeroTail L hvlen, hsc]), zeroTail_zeroTail L hvlen]
  · have hrlen : L.oldFieldsLen ≤ r.length := by omega
    have hlen : (zeroTail L r L.btKeysStorageLen).length = L.btKeysStorageLen :=
      length_zeroTail L hrlen (by omega)
    refine ⟨zeroTail L r L.btKeysStorageLen, hlen, loaded_old settingsNameSteq hname hr hsc, ?_⟩
    rw [saved_of_scRecord hname hlen (by rw [scRecord_zeroTail L hrlen, hsc]),
      zeroTail_zeroTail L hrlen, ← zeroTail]

/-- The layout of the stand-in `keys.h` of the host tests, on a 64-bit host without signing
keys. -/
def testHostLayout : KeyLayout where
  storageStart := 16
  encSize := 16
  flags := 17
  keys := 18
  ltk := 20
  irk := 46
  remoteCsrk := none
  periphLtk := 68
  sizeofLtk := 26
  sizeofIrk := 22
  sizeofCsrk := 20
  align := 8
  sizeofKeys := 96
  bigEndian := false
  btKeysSc := 0x10
  btKeysLtkP256 := 0x20
  btKeysLtk := 0x04
  btKeysPeriphLtk := 0x01
  btKeysAll := 0x3f
  encSize_eq := rfl
  flags_eq := rfl
  keys_eq := rfl
  ltk_eq := rfl
  sizeofLtk_eq := rfl
  sizeofIrk_eq := rfl
  irk_eq := rfl
  periphLtk_eq := rfl
  remoteCsrk_after := by simp
  sizeofKeys_eq := rfl
  old_fields_le := by decide
  old_storage_lt := by decide

/-- The old SC record of the host test: key size 16, the SC flag, a P-256 LTK and an IRK. -/
theorem bond_records_survive_test_host :
    ∃ v : List UInt8, v.length = 80 ∧
      Delivers (loaded testHostLayout (fun _ _ => true) (some (bondPrefix ++ ['1', '2']))
        ([16, 0x10, 0x22, 0] ++ List.replicate 52 37)) (some (bondPrefix ++ ['1', '2'])) v := by
  obtain ⟨-, hold, -⟩ := bond_records_survive testHostLayout (fun _ _ => true)
    (some (bondPrefix ++ ['1', '2'])) (by decide)
  obtain ⟨v, hv, hdel, -⟩ := hold ([16, 0x10, 0x22, 0] ++ List.replicate 52 37) (by decide)
    (by decide)
  exact ⟨v, hv, hdel⟩

end BleMouse.Bond
