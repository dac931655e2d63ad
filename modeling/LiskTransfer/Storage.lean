import LiskTransfer.Payload

/-!
# Saving a transfer and reading it back

`dbSave` (`src/logic/transfer.js:260-281`) writes `Buffer.from(trs.asset.data, 'utf8')` into the
`transfer` table, and `dbRead` (lines 250-253) builds the asset again from the `tf_data`
column, the UTF-8 text of those bytes. `Buffer.from` writes U+FFFD for a lone surrogate, so the
text read back is the saved string made well formed (`objectNormalize_readBack`): the string
itself exactly when it has no lone surrogate (`readBack_loneSurrogate` is one that does). The
bytes, and with them the fee, the id and the signature, come back unchanged in every case, and
the bytes `getBytes` returns determine the data read back (`getBytes_eq_iff`).
-/

namespace LiskTransfer

/-- Modelled from the spec: the `tf_data` column of the row `dbSave` left in the store, read as
    text, is the UTF-8 decoding of the saved bytes, and is missing when `dbSave` returned `null`
    or threw. -/
def storedTfData : Except Thrown (Option DbRow) → AssetData
  | .ok (some row) =>
    match decodeUtf8 row.values.data with
    | some text => .string text
    | none => .undefined
  | _ => .undefined

/-- Modelled from the spec: `trs` as the transactions query reads it back after `dbSave`, the
    same fields with the asset `dbRead` builds from the stored row. -/
def readBack (trs : Transaction) : Transaction :=
  { trs with asset := some (dbRead ⟨storedTfData (dbSave trs)⟩) }

/-- The data a saved transfer comes back with: its data made well formed when that is a
    non-empty string, and none otherwise. -/
def reloadedData (trs : Transaction) : AssetData :=
  match assetData trs with
  | .string s => if s = [] then .undefined else .string (toWellFormed s)
  | _ => .undefined

theorem toWellFormed_eq_nil_iff (s : JsString) : toWellFormed s = [] ↔ s = [] := by
  rw [← ucs2decode_eq_nil_iff, ← ucs2decode_eq_nil_iff, ← List.length_eq_zero,
    ← List.length_eq_zero, length_ucs2decode_toWellFormed]

/-- The stored `tf_data` column holds `reloadedData`: the UTF-8 text of the saved bytes is
    the saved string made well formed. -/
theorem storedTfData_dbSave (trs : Transaction) : storedTfData (dbSave trs) = reloadedData trs := by
  rw [dbSave_eq, getBytes_eq, reloadedData]
  cases assetData trs with
  | string s =>
    by_cases hs : s = [] <;>
      simp [hs, storedTfData, decodeUtf8_utf8Encode, Functor.map, Except.map]
  | boolean b => cases b <;> rfl
  | number n =>
    by_cases hn : n = 0 <;> simp [AssetData.truthy, hn, storedTfData, Functor.map, Except.map]
  | _ => rfl

/-- Once `objectNormalize` has deleted a `null`, the asset read back holds `reloadedData`. -/
theorem readBack_data (trs : Transaction) :
    (assetData (readBack trs)).deleteIfNull = reloadedData trs := by
  show (storedTfData (dbSave trs)).orNull.deleteIfNull = reloadedData trs
  rw [storedTfData_dbSave, reloadedData]
  cases assetData trs with
  | string s =>
    by_cases hs : s = []
    · simp [hs, AssetData.orNull, AssetData.deleteIfNull]
    · simp [hs, AssetData.orNull, AssetData.deleteIfNull, toWellFormed_eq_nil_iff]
  | _ => rfl

theorem validateData_reloadedData {trs : Transaction}
    (hvalid : validateData schema (assetData trs).deleteIfNull = []) :
    validateData schema (reloadedData trs) = [] := by
  cases hdata : assetData trs with
  | string s =>
    rw [hdata] at hvalid
    simp only [reloadedData, hdata]
    split_ifs
    · rfl
    · rw [validateData_schema_eq_nil_iff, length_ucs2decode_toWellFormed]
      exact (validateData_schema_eq_nil_iff s).1 hvalid
  | _ => simp only [reloadedData, hdata, validateData]

theorem getBytes_reloadedData {trs reloaded : Transaction} (htext : (assetData trs).isText)
    (h : assetData reloaded = reloadedData trs) : getBytes reloaded = getBytes trs := by
  rw [getBytes_eq, getBytes_of_isText htext, h, reloadedData]
  cases assetData trs with
  | string s =>
    by_cases hs : s = [] <;> simp [hs, utf8Encode_toWellFormed, toWellFormed_eq_nil_iff]
  | _ => rfl

theorem truthy_reloadedData {trs : Transaction} (htext : (assetData trs).isText) :
    (reloadedData trs).truthy = (assetData trs).truthy := by
  unfold reloadedData
  cases hd : assetData trs with
  | string s => by_cases hs : s = [] <;> simp [hs, toWellFormed_eq_nil_iff]
  | boolean b | number n => simp [hd, AssetData.isText] at htext
  | _ => rfl

/-- A normalized transfer, saved, read back and normalized again, comes back with its data made
    well formed, or with none when it had no non-empty data: with its own data exactly when that
    has no lone surrogate. Its signed bytes and its fee come back unchanged. -/
theorem objectNormalize_readBack (fees : Fees) {trs trs' : Transaction}
    (h : objectNormalize trs = .ok trs') :
    ∃ reloaded, objectNormalize (readBack trs) = .ok reloaded ∧
      assetData reloaded = reloadedData trs ∧
      (∀ s, assetData trs = .string s → s ≠ [] →
        (assetData reloaded = .string s ↔ IsWellFormed s)) ∧
      getBytes reloaded = getBytes trs ∧ calculateFee fees reloaded = calculateFee fees trs := by
  obtain ⟨asset, hasset, hvalid, -⟩ := objectNormalize_eq_ok h
  have hdata : assetData trs = asset.data := by rw [assetData, hasset]
  have htext := isText_of_objectNormalize h
  have hback := readBack_data trs
  have hvalid' : validateData schema (assetData (readBack trs)).deleteIfNull = [] :=
    hback ▸ validateData_reloadedData (hdata ▸ hvalid)
  refine ⟨_, objectNormalize_of_valid rfl hvalid', hback, fun s hs hne => ?_,
    getBytes_reloadedData htext hback,
    calculateFee_congr fees ((congrArg AssetData.truthy hback).trans (truthy_reloadedData htext))⟩
  change (assetData (readBack trs)).deleteIfNull = _ ↔ _
  simp only [hback, reloadedData, hs, if_neg hne, AssetData.string.injEq, toWellFormed_eq_self_iff]

/-- A data string that is one lone high surrogate, `"\uD800"`, normalizes, and comes back as
    U+FFFD with the same bytes. -/
theorem objectNormalize_readBack_loneSurrogate :
    objectNormalize ⟨"1", "2L", 5, some ⟨.string [fromCharCode 0xD800]⟩, none, none⟩ =
        .ok ⟨"1", "2L", 5, some ⟨.string [fromCharCode 0xD800]⟩, none, none⟩ ∧
      ∃ reloaded,
        objectNormalize
            (readBack ⟨"1", "2L", 5, some ⟨.string [fromCharCode 0xD800]⟩, none, none⟩) =
          .ok reloaded ∧
        assetData reloaded =
          reloadedData ⟨"1", "2L", 5, some ⟨.string [fromCharCode 0xD800]⟩, none, none⟩ ∧
        (∀ s, assetData ⟨"1", "2L", 5, some ⟨.string [fromCharCode 0xD800]⟩, none, none⟩ =
            .string s → s ≠ [] → (assetData reloaded = .string s ↔ IsWellFormed s)) ∧
        getBytes reloaded =
          getBytes ⟨"1", "2L", 5, some ⟨.string [fromCharCode 0xD800]⟩, none, none⟩ ∧
        calculateFee ⟨10, 20⟩ reloaded =
          calculateFee ⟨10, 20⟩ ⟨"1", "2L", 5, some ⟨.string [fromCharCode 0xD800]⟩, none, none⟩ :=
  ⟨rfl, objectNormalize_readBack ⟨10, 20⟩ rfl⟩

/-- The data does not always come back as it was saved: `"\uD800"` comes back as `"\uFFFD"`. -/
theorem readBack_loneSurrogate :
    ¬ ∀ trs trs' : Transaction, objectNormalize trs = .ok trs' →
      ∃ reloaded, objectNormalize (readBack trs) = .ok reloaded ∧
        assetData reloaded =
          (match assetData trs with
           | .string s => if s = [] then .undefined else .string s
           | _ => .undefined) ∧
        getBytes reloaded = getBytes trs ∧
        ∀ fees, calculateFee fees reloaded = calculateFee fees trs := by
  intro hclaim
  obtain ⟨reloaded, hnorm, hdata, -⟩ :=
    hclaim ⟨"1", "2L", 5, some ⟨.string [fromCharCode 0xD800]⟩, none, none⟩ _ rfl
  have hfffd :
      objectNormalize (readBack ⟨"1", "2L", 5, some ⟨.string [fromCharCode 0xD800]⟩, none, none⟩) =
        .ok ⟨"1", "2L", 5, some ⟨.string [fromCharCode 0xFFFD]⟩, none, none⟩ := rfl
  rw [hfffd] at hnorm
  cases hnorm
  revert hdata
  decide

end LiskTransfer
