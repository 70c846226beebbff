/-
The bond record adapters of `src/bond_compat.c`.

With Legacy pairing compiled in, the host appends `periph_ltk` to the stored part of
`struct bt_keys`, so its bond records are longer than the ones the SC-only firmware wrote.
The two linker wrappers translate between the formats: `__wrap_settings_call_set_handler`
expands an old SC record in memory before the host's handler reads it, and
`__wrap_settings_save_one` stores an SC record in the old format again.

The wrapped functions, `settings_name_steq` and the read callback belong to Zephyr, so they
are parameters here.  A wrapper ends in one call of its original, hence it is modelled as
a function of that original; its return value is whatever the original makes of the
arguments it is given.
-/
import Mathlib.Tactic

namespace BleMouse.Bond

/-- `ROUND_UP`: the least multiple of `align` that is at least `n`. -/
def roundUp (n align : ℕ) : ℕ := (n + align - 1) / align * align

/-- What `bond_compat.c` uses of the selected host's `keys.h`: the offsets of the members of
`struct bt_keys`, the sizes of the key structures and the key flags, together with the
build assertions on them. -/
structure KeyLayout where
  /-- `offsetof(struct bt_keys, storage_start)` -/
  storageStart : ℕ
  /-- `offsetof(struct bt_keys, enc_size)` -/
  encSize : ℕ
  /-- `offsetof(struct bt_keys, flags)` -/
  flags : ℕ
  /-- `offsetof(struct bt_keys, keys)` -/
  keys : ℕ
  /-- `offsetof(struct bt_keys, ltk)` -/
  ltk : ℕ
  /-- `offsetof(struct bt_keys, irk)` -/
  irk : ℕ
  /-- `offsetof(struct bt_keys, remote_csrk)`, with `CONFIG_BT_SIGNING` only -/
  remoteCsrk : Option ℕ
  /-- `offsetof(struct bt_keys, periph_ltk)` -/
  periphLtk : ℕ
  sizeofLtk : ℕ
  sizeofIrk : ℕ
  sizeofCsrk : ℕ
  /-- `__alignof__(struct bt_keys)` -/
  align : ℕ
  /-- `sizeof(struct bt_keys)` -/
  sizeofKeys : ℕ
  /-- The byte order in which the host keeps the `keys` member. -/
  bigEndian : Bool
  btKeysSc : UInt8
  btKeysLtkP256 : UInt16
  btKeysLtk : UInt16
  btKeysPeriphLtk : UInt16
  btKeysAll : UInt16
  encSize_eq : encSize = storageStart
  flags_eq : flags = storageStart + 1
  keys_eq : keys = storageStart + 2
  ltk_eq : ltk = storageStart + 4
  sizeofLtk_eq : sizeofLtk = 26
  sizeofIrk_eq : sizeofIrk = 22
  irk_eq : irk = ltk + 26
  /-- The suffix of the record: after the signing keys, or directly after the IRK. -/
  periphLtk_eq : periphLtk = match remoteCsrk with
    | some csrk => csrk + sizeofCsrk
    | none => irk + 22
  /-- Members of a structure are laid out in their declaration order. -/
  remoteCsrk_after : ∀ csrk ∈ remoteCsrk, irk + sizeofIrk ≤ csrk
  sizeofKeys_eq : sizeofKeys = roundUp (periphLtk + sizeofLtk) align
  old_fields_le : periphLtk - storageStart ≤ roundUp periphLtk align - storageStart
  old_storage_lt : roundUp periphLtk align - storageStart < sizeofKeys - storageStart

namespace KeyLayout

variable (L : KeyLayout)

/-- `OLD_FIELDS_LEN` -/
def oldFieldsLen : ℕ := L.periphLtk - L.storageStart

/-- `OLD_STORAGE_LEN` -/
def oldStorageLen : ℕ := roundUp L.periphLtk L.align - L.storageStart

/-- `BT_KEYS_STORAGE_LEN` -/
def btKeysStorageLen : ℕ := L.sizeofKeys - L.storageStart

/-- `FLAGS_OFFSET` -/
def flagsOffset : ℕ := L.flags - L.storageStart

/-- `TYPES_OFFSET` -/
def typesOffset : ℕ := L.keys - L.storageStart

/-- `KEY_SIZE_OFFSET` -/
def keySizeOffset : ℕ := L.encSize - L.storageStart

lemma oldFieldsLen_le : L.oldFieldsLen ≤ L.oldStorageLen := L.old_fields_le

lemma oldStorageLen_lt : L.oldStorageLen < L.btKeysStorageLen := L.old_storage_lt

/-- The metadata and the LTK and IRK precede `periph_ltk`, whatever follows them. -/
lemma metadata_lt_oldFieldsLen : 4 ≤ L.oldFieldsLen := by
  have hsuffix : L.irk ≤ L.periphLtk := by
    have heq := L.periphLtk_eq
    rcases hcsrk : L.remoteCsrk with _ | csrk
    · rw [hcsrk] at heq
      simp only at heq
      omega
    · rw [hcsrk] at heq
      have hafter := L.remoteCsrk_after csrk (by rw [hcsrk]; rfl)
      simp only at heq
      omega
  have hirk := L.irk_eq
  have hltk := L.ltk_eq
  unfold oldFieldsLen
  omega

end KeyLayout

/-- A C string; a null pointer is `none`. -/
abbrev CString := Option (List Char)

/-- `"bt/keys/"` -/
def bondPrefix : List Char := ['b', 't', '/', 'k', 'e', 'y', 's', '/']

/-- `is_bond_key` -/
def isBondKey : CString → Bool
  | none => false
  | some name => name.take 8 == bondPrefix && (name.drop 8).length != 0

/-- The `uint16_t` that `memcpy` copies out of two bytes of the record. -/
def loadU16 (L : KeyLayout) (b₀ b₁ : UInt8) : UInt16 :=
  if L.bigEndian then b₀.toUInt16 <<< 8 ||| b₁.toUInt16 else b₁.toUInt16 <<< 8 ||| b₀.toUInt16

/-- `sc_record`: the record holds an LE Secure Connections key and no Legacy key. -/
def scRecord (L : KeyLayout) (data : List UInt8) : Bool :=
  let types := loadU16 L (data.getD L.typesOffset 0) (data.getD (L.typesOffset + 1) 0)
  decide (7 ≤ data.getD L.keySizeOffset 0) && decide (data.getD L.keySizeOffset 0 ≤ 16) &&
    (data.getD L.flagsOffset 0 &&& L.btKeysSc != 0) && (types &&& L.btKeysLtkP256 != 0) &&
    !(types &&& (L.btKeysLtk ||| L.btKeysPeriphLtk) != 0) && !(types &&& ~~~L.btKeysAll != 0)

/-- What a settings read callback does when asked for some number of bytes: its return
value, a count or a negative error, and the bytes it has put at the start of the buffer. -/
structure ReadResult where
  got : ℤ
  written : List UInt8
deriving DecidableEq, Repr

/-- A `settings_read_cb` together with its `cb_arg`. -/
abbrev Reader := ℕ → ReadResult

/-- The members of `struct settings_load_arg` that the wrapper looks at. -/
structure SettingsLoadArg where
  /-- whether `cb` is set: a direct load -/
  cb : Bool
  subtree : CString
deriving DecidableEq, Repr

/-- The buffer after a callback has written the bytes `written` to its start. -/
def fill (buffer written : List UInt8) : List UInt8 :=
  written.take buffer.length ++ buffer.drop written.length

/-- `read_adapted`, reading from an `adapted_value` -/
def readAdapted (bytes : List UInt8) : Reader := fun len =>
  let len := min len bytes.length
  ⟨len, bytes.take len⟩

/-- `-EINVAL` -/
def eInval : ℤ := -22

section Wrappers

variable (L : KeyLayout) {ρ : Type}

/-- `__wrap_settings_call_set_handler`.  `real` is the wrapped function; it is given the
name, the length, the callback with its argument and the load argument.  The wrapper's own
errors are returned through `fail`. -/
def wrapSettingsCallSetHandler (settingsNameSteq : List Char → List Char → Bool)
    (real : CString → ℕ → Reader → Option SettingsLoadArg → ρ) (fail : ℤ → ρ)
    (name : CString) (len : ℕ) (readCb : Reader) (loadArg : Option SettingsLoadArg) : ρ :=
  let excluded := match loadArg with
    | none => false
    | some arg => arg.cb || match arg.subtree with
      | none => false
      | some subtree => !settingsNameSteq (name.getD []) subtree
  if !isBondKey name || len == 0 || excluded then
    real name len readCb loadArg
  else if len = L.btKeysStorageLen then
    real name len readCb loadArg
  else if len ≠ L.oldStorageLen then
    -- the host's handler would clear the key on a length mismatch
    fail eInval
  else
    let result := readCb L.oldStorageLen
    let value := fill (List.replicate L.btKeysStorageLen 0) (result.written.take L.oldStorageLen)
    if result.got < 0 then
      fail result.got
    else if result.got ≠ L.oldStorageLen || !scRecord L value then
      fail eInval
    else
      -- the old padding is not a Legacy key, so the complete new tail is zeroed
      let value := value.take L.oldFieldsLen ++
        List.replicate (L.btKeysStorageLen - L.oldFieldsLen) 0
      real name L.btKeysStorageLen (readAdapted value) loadArg

/-- `__wrap_settings_save_one`.  A null `value` is `none`. -/
def wrapSettingsSaveOne (real : CString → Option (List UInt8) → ℕ → ρ)
    (name : CString) (value : Option (List UInt8)) (len : ℕ) : ρ :=
  match value with
  | none => real name none len
  | some bytes =>
    if isBondKey name && len == L.btKeysStorageLen && scRecord L bytes then
      let old := fill (List.replicate L.oldStorageLen 0) (bytes.take L.oldFieldsLen)
      real name (some old) L.oldStorageLen
    else
      real name (some bytes) len

end Wrappers

end BleMouse.Bond
