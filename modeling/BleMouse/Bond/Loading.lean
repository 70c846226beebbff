/-
Loading through `__wrap_settings_call_set_handler`, with its effects.

The wrapper is written again over any monad, in which the calls of the read callback and of
the wrapped handler are the effects.  An equation between two programs of every monad then
says which calls are made, how often and in which order, and that nothing else happens: in
particular that nothing is written to the storage.

* `load_preserves_bonds`: the three ways in which a load can go, and what the host's handler
  is never given.
-/
import BleMouse.Bond.RoundTrip

namespace BleMouse.Bond

universe u

variable (L : KeyLayout) {m : Type → Type u} [Monad m]

/-- `__wrap_settings_call_set_handler`, whose calls are effects. -/
def callSetHandler (settingsNameSteq : List Char → List Char → Bool)
    (real : CString → ℕ → (ℕ → m ReadResult) → Option SettingsLoadArg → m ℤ)
    (name : CString) (len : ℕ) (readCb : ℕ → m ReadResult) (loadArg : Option SettingsLoadArg) :
    m ℤ := do
  let excluded := match loadArg with
    | none => false
    | some arg => arg.cb || match arg.subtree with
      | none => false
      | some subtree => !settingsNameSteq (name.getD []) subtree
  if !isBondKey name || len == 0 || excluded then
    real name len readCb loadArg
  else if len = L.btKeysStorageLen then
    real name len readCb loadArg
  else if len ≠ L.oldStorageLen then
    pure eInval
  else
    let result ← readCb L.oldStorageLen
    let value := fill (List.replicate L.btKeysStorageLen 0) (result.written.take L.oldStorageLen)
    if result.got < 0 then
      pure result.got
    else if result.got ≠ L.oldStorageLen || !scRecord L value then
      pure eInval
    else
      let value := value.take L.oldFieldsLen ++
        List.replicate (L.btKeysStorageLen - L.oldFieldsLen) 0
      real name L.btKeysStorageLen (fun n => pure (readAdapted value n)) loadArg

/-- Without effects it is the wrapper of `Bond/Adapter.lean`. -/
lemma callSetHandler_id (settingsNameSteq : List Char → List Char → Bool)
    (real : CString → ℕ → Reader → Option SettingsLoadArg → ℤ) (name : CString) (len : ℕ)
    (readCb : Reader) (loadArg : Option SettingsLoadArg) :
    Id.run (callSetHandler (m := Id) L settingsNameSteq real name len readCb loadArg) =
      wrapSettingsCallSetHandler L settingsNameSteq real id name len readCb loadArg := rfl

/-! ### The ways of a load -/

/-- The load wants the stored bytes as they are. -/
def Direct (loadArg : Option SettingsLoadArg) : Prop := ∃ arg ∈ loadArg, arg.cb = true

/-- The load is of a subtree that the name does not belong to. -/
def Excluded (settingsNameSteq : List Char → List Char → Bool) (name : CString)
    (loadArg : Option SettingsLoadArg) : Prop :=
  ∃ arg ∈ loadArg, ∃ subtree ∈ arg.subtree, settingsNameSteq (name.getD []) subtree = false

/-- The record is none of the adapter's business. -/
def PassedThrough (settingsNameSteq : List Char → List Char → Bool) (name : CString) (len : ℕ)
    (loadArg : Option SettingsLoadArg) : Prop :=
  isBondKey name = false ∨ len = 0 ∨ len = L.btKeysStorageLen ∨ Direct loadArg ∨
    Excluded settingsNameSteq name loadArg

/-- The bytes that the read callback has put into the buffer. -/
def recordRead (result : ReadResult) : List UInt8 :=
  fill (List.replicate L.oldStorageLen 0) (result.written.take L.oldStorageLen)

/-- The read is complete, and what was read is an SC record. -/
def ReadsRecord (result : ReadResult) : Prop :=
  result.got = L.oldStorageLen ∧ scRecord L (recordRead L result) = true

instance (result : ReadResult) : Decidable (ReadsRecord L result) :=
  inferInstanceAs (Decidable (_ ∧ _))

/-- The error for a read that is no SC record. -/
def loadError (result : ReadResult) : ℤ := if result.got < 0 then result.got else eInval

lemma loadError_neg (result : ReadResult) : loadError result < 0 := by
  unfold loadError
  split
  case isTrue h => exact h
  case isFalse => decide

/-- A callback that writes as much as it says delivers the record itself. -/
lemma recordRead_eq {result : ReadResult} (h : result.written.length = L.oldStorageLen) :
    recordRead L result = result.written := by
  have htake : result.written.take L.oldStorageLen = result.written :=
    List.take_of_length_le (le_of_eq h)
  rw [recordRead, htake, fill_replicate (le_of_eq h), h, Nat.sub_self, List.replicate_zero,
    List.append_nil]

variable {L} {settingsNameSteq : List Char → List Char → Bool}
  {real : CString → ℕ → (ℕ → m ReadResult) → Option SettingsLoadArg → m ℤ} {name : CString}
  {len : ℕ} {readCb : ℕ → m ReadResult} {loadArg : Option SettingsLoadArg}

/-- The wrapper's first test. -/
lemma untouched_iff : (!isBondKey name || len == 0 || match loadArg with
      | none => false
      | some arg => arg.cb || match arg.subtree with
        | none => false
        | some subtree => !settingsNameSteq (name.getD []) subtree) = true ↔
    isBondKey name = false ∨ len = 0 ∨ Direct loadArg ∨
      Excluded settingsNameSteq name loadArg := by
  rw [Bool.or_eq_true, Bool.or_eq_true, Bool.not_eq_true', beq_iff_eq, or_assoc]
  refine or_congr Iff.rfl (or_congr Iff.rfl ?_)
  unfold Direct Excluded
  cases loadArg with
  | none => simp
  | some arg =>
    rcases arg with ⟨cb, subtree⟩
    cases subtree <;> simp

lemma callSetHandler_of_passedThrough
    (h : PassedThrough L settingsNameSteq name len loadArg) :
    callSetHandler L settingsNameSteq real name len readCb loadArg =
      real name len readCb loadArg := by
  unfold callSetHandler
  dsimp only
  by_cases huntouched : isBondKey name = false ∨ len = 0 ∨ Direct loadArg ∨
      Excluded settingsNameSteq name loadArg
  · rw [if_pos (untouched_iff.2 huntouched)]
  · have hfull : len = L.btKeysStorageLen := by
      unfold PassedThrough at h
      tauto
    rw [if_neg (mt untouched_iff.1 huntouched), if_pos hfull]

/-- A record that is not passed through is a bond record of another length. -/
lemma touched_of_not_passedThrough (h : ¬PassedThrough L settingsNameSteq name len loadArg) :
    ¬(isBondKey name = false ∨ len = 0 ∨ Direct loadArg ∨
      Excluded settingsNameSteq name loadArg) ∧ len ≠ L.btKeysStorageLen := by
  unfold PassedThrough at h
  tauto

lemma callSetHandler_of_length (h : ¬PassedThrough L settingsNameSteq name len loadArg)
    (hlen : len ≠ L.oldStorageLen) :
    callSetHandler L settingsNameSteq real name len readCb loadArg = pure eInval := by
  obtain ⟨htouched, hfull⟩ := touched_of_not_passedThrough h
  unfold callSetHandler
  dsimp only
  rw [if_neg (mt untouched_iff.1 htouched), if_neg hfull, if_pos hlen]

/-- The old fields and the metadata lie in the part of the buffer that is read. -/
lemma take_buffer (result : ReadResult) {n : ℕ} (hn : n ≤ L.oldStorageLen) :
    (fill (List.replicate L.btKeysStorageLen 0) (result.written.take L.oldStorageLen)).take n =
      (recordRead L result).take n := by
  have hlt := L.oldStorageLen_lt
  have hwritten : (result.written.take L.oldStorageLen).length ≤ L.oldStorageLen := by
    rw [List.length_take]
    exact min_le_left _ _
  have hsplit : L.btKeysStorageLen - (result.written.take L.oldStorageLen).length =
      (L.oldStorageLen - (result.written.take L.oldStorageLen).length) +
        (L.btKeysStorageLen - L.oldStorageLen) := by omega
  rw [recordRead, fill_replicate (hwritten.trans hlt.le), fill_replicate hwritten, hsplit,
    List.replicate_add, ← List.append_assoc]
  refine List.take_append_of_le_length ?_
  rw [List.length_append, List.length_replicate]
  omega

lemma callSetHandler_of_old (h : ¬PassedThrough L settingsNameSteq name L.oldStorageLen loadArg) :
    callSetHandler L settingsNameSteq real name L.oldStorageLen readCb loadArg =
      readCb L.oldStorageLen >>= fun result =>
        if ReadsRecord L result then
          real name L.btKeysStorageLen
            (fun n => pure (readAdapted (zeroTail L (recordRead L result) L.btKeysStorageLen) n))
            loadArg
        else pure (loadError result) := by
  have hle := L.oldFieldsLen_le
  have hmeta := L.metadata_lt_oldFieldsLen
  obtain ⟨htouched, hfull⟩ := touched_of_not_passedThrough h
  unfold callSetHandler
  dsimp only
  rw [if_neg (mt untouched_iff.1 htouched), if_neg hfull, if_neg (not_not.2 rfl)]
  congr 1
  funext result
  have hsc : scRecord L (fill (List.replicate L.btKeysStorageLen 0)
      (result.written.take L.oldStorageLen)) = scRecord L (recordRead L result) :=
    scRecord_congr L (take_buffer result (hmeta.trans hle))
  rw [hsc, take_buffer result hle, ← zeroTail]
  by_cases hread : ReadsRecord L result
  · obtain ⟨hgot, hrecord⟩ := id hread
    rw [if_pos hread, if_neg (by omega), if_neg]
    simp [hgot, hrecord]
  · rw [if_neg hread]
    unfold loadError
    split
    case isTrue => rfl
    case isFalse =>
    rw [if_pos]
    rw [Bool.or_eq_true, decide_eq_true_eq, Bool.not_eq_true', ← Bool.not_eq_true]
    exact not_and_or.1 hread

/-! ### What the host's handler sees -/

/-- **Loading never lets the host destroy a bond.**  A record that is none of the adapter's
business is passed through in one call with all arguments unchanged.  A bond record of the
old length is read once; if the read is complete and an SC record, the host's handler is
called once, with the full length and a callback that delivers the prefixes of the record's
fields extended by zeros.  Otherwise the handler is not called, and the error is that of the
read if it failed.  So in a handler load the handler is given a bond record of full length,
or none at all. -/
theorem load_preserves_bonds (L : KeyLayout) (settingsNameSteq : List Char → List Char → Bool)
    (real : CString → ℕ → (ℕ → m ReadResult) → Option SettingsLoadArg → m ℤ) (name : CString)
    (len : ℕ) (readCb : ℕ → m ReadResult) (loadArg : Option SettingsLoadArg) :
    (PassedThrough L settingsNameSteq name len loadArg →
      callSetHandler L settingsNameSteq real name len readCb loadArg =
        real name len readCb loadArg) ∧
    (¬PassedThrough L settingsNameSteq name len loadArg → len = L.oldStorageLen →
      callSetHandler L settingsNameSteq real name len readCb loadArg =
        readCb L.oldStorageLen >>= fun result =>
          if ReadsRecord L result then
            real name L.btKeysStorageLen (fun n =>
              pure ⟨(min n L.btKeysStorageLen : ℕ),
                (zeroTail L (recordRead L result) L.btKeysStorageLen).take n⟩) loadArg
          else pure (loadError result)) ∧
    (¬PassedThrough L settingsNameSteq name len loadArg → len ≠ L.oldStorageLen →
      callSetHandler L settingsNameSteq real name len readCb loadArg = pure eInval) ∧
    eInval < 0 ∧
    (∀ result, loadError result < 0 ∧ (result.got < 0 → loadError result = result.got)) ∧
    (isBondKey name = true → ¬Direct loadArg → ¬Excluded settingsNameSteq name loadArg →
      ∀ real', (∀ n readCb, n = 0 ∨ n = L.btKeysStorageLen →
          real' name n readCb loadArg = real name n readCb loadArg) →
        callSetHandler L settingsNameSteq real' name len readCb loadArg =
          callSetHandler L settingsNameSteq real name len readCb loadArg) := by
  have hlength (result : ReadResult) :
      (zeroTail L (recordRead L result) L.btKeysStorageLen).length = L.btKeysStorageLen := by
    have hle := L.oldFieldsLen_le
    have hlt := L.oldStorageLen_lt
    refine length_zeroTail L ?_ (by omega)
    rw [recordRead, fill_replicate (by simp), List.length_append, List.length_replicate]
    rw [List.length_take]
    omega
  refine ⟨callSetHandler_of_passedThrough, ?_, callSetHandler_of_length, by decide, ?_, ?_⟩
  · rintro h rfl
    rw [callSetHandler_of_old h]
    simp only [readAdapted_eq, hlength]
  · exact fun result => ⟨loadError_neg result, fun hneg => if_pos hneg⟩
  · rintro hname hdirect hexcluded real' hreal
    by_cases h : PassedThrough L settingsNameSteq name len loadArg
    · rw [callSetHandler_of_passedThrough h, callSetHandler_of_passedThrough h]
      refine hreal len readCb ?_
      unfold PassedThrough at h
      rw [hname] at h
      tauto
    · by_cases hlen : len = L.oldStorageLen
      · subst hlen
        rw [callSetHandler_of_old h, callSetHandler_of_old h]
        simp only [hreal _ _ (.inr rfl)]
      · rw [callSetHandler_of_length h hlen, callSetHandler_of_length h hlen]

/-- A load of 56 bytes whose read and whose handler note the lengths they are called with. -/
def notedLoad (record : List UInt8) : StateM (List ℕ) ℤ :=
  callSetHandler testHostLayout (fun _ _ => true)
    (fun _ len _ _ => modify (· ++ [len]) *> pure 0) (some (bondPrefix ++ ['1', '2']))
    56 (fun n => modify (· ++ [n]) *> pure ⟨56, record⟩) none

/-- The old SC record of the host test is read once and handed over once, in full length; if its
SC flag is not set, the handler is not called. -/
theorem load_preserves_bonds_test_host :
    (notedLoad ([16, 0x10, 0x22, 0] ++ List.replicate 52 37)).run [] = (0, [56, 80]) ∧
      (notedLoad ([16, 0, 0x22, 0] ++ List.replicate 52 37)).run [] = (eInval, [56]) := by
  have hname : ¬PassedThrough testHostLayout (fun _ _ => true) (some (bondPrefix ++ ['1', '2'])) 56
      none := by
    have hkey : isBondKey (some (bondPrefix ++ ['1', '2'])) = true := by decide
    have hlen : (56 : ℕ) ≠ testHostLayout.btKeysStorageLen := by decide
    simp [PassedThrough, Direct, Excluded, hkey, hlen]
  constructor
  · rw [notedLoad, (load_preserves_bonds testHostLayout _ _ _ _ _ _).2.1 hname (by decide)]
    rfl
  · rw [notedLoad, (load_preserves_bonds testHostLayout _ _ _ _ _ _).2.1 hname (by decide)]
    rfl

end BleMouse.Bond
