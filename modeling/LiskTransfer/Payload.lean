import LiskTransfer.Transaction

/-!
# What a transfer contributes to the signed bytes

`getBytes` (`src/logic/transfer.js:100-115`) is the transfer's part of the bytes a
transaction's id and signature are computed over; `calculateFee` (lines 56-63) charges
`fees.data` for the data and `dbSave` (lines 260-281) stores it. Each of the three makes its
own test of `trs.asset && trs.asset.data`: on data that is missing, `null` or a string they
agree (`calculateFee_dbSave_getBytes`); on a truthy boolean or number `getBytes` and `dbSave`
throw the `TypeError` of `Buffer.from`. `objectNormalize` (lines 219-235) accepts only the
former (`assetData_of_objectNormalize_ok`) and changes none of the three
(`objectNormalize_stable`).

The schema bounds `data` by 64 characters, counted in code points, while `getBytes` writes UTF-8:
a validated transfer contributes up to 256 bytes, not 64 (`getBytes_length_le`,
`getBytes_exceeds_64_bytes`).
-/

namespace LiskTransfer

/-- On data that is missing, `null` or a string, `getBytes` returns, the data fee is charged for
    exactly the bytes it returns, and `dbSave` stores exactly those bytes under the transaction's
    id. The `sender` argument of `calculateFee` is not read. -/
theorem calculateFee_dbSave_getBytes (fees : Fees) (trs : Transaction)
    (hdata : (assetData trs).isText) :
    ∃ result, getBytes trs = .ok result ∧
      calculateFee fees trs =
        (match result with
         | some (_ :: _) => fees.send + fees.data
         | _ => fees.send) ∧
      dbSave trs = .ok (result.map fun bytes =>
        { table := dbTable, fields := dbFields,
          values := { data := bytes, transactionId := trs.id } }) := by
  refine ⟨_, getBytes_of_isText hdata, ?_, by rw [dbSave_eq, getBytes_of_isText hdata]; rfl⟩
  rw [calculateFee]
  cases hd : assetData trs with
  | string s =>
    by_cases hs : s = []
    · simp [hs]
    · obtain ⟨b, bs, hb⟩ :=
        List.exists_cons_of_ne_nil fun hnil => hs ((utf8Encode_eq_nil_iff s).1 hnil)
      simp [hs, hb]
  | boolean b | number n => simp [hd, AssetData.isText] at hdata
  | _ => rfl

/-- A euro sign as data: three bytes, charged and stored. -/
theorem calculateFee_dbSave_getBytes_euroData :
    (assetData ⟨"1", "2L", 5, some ⟨.string [fromCharCode 0x20AC]⟩, none, none⟩).isText ∧
      ∃ result,
        getBytes ⟨"1", "2L", 5, some ⟨.string [fromCharCode 0x20AC]⟩, none, none⟩ = .ok result ∧
        calculateFee ⟨10, 20⟩ ⟨"1", "2L", 5, some ⟨.string [fromCharCode 0x20AC]⟩, none, none⟩ =
          (match result with
           | some (_ :: _) => 10 + 20
           | _ => 10) ∧
        dbSave ⟨"1", "2L", 5, some ⟨.string [fromCharCode 0x20AC]⟩, none, none⟩ =
          .ok (result.map fun bytes =>
            { table := dbTable, fields := dbFields,
              values := { data := bytes, transactionId := "1" } }) :=
  ⟨rfl, calculateFee_dbSave_getBytes ⟨10, 20⟩ _ rfl⟩

/-- What `objectNormalize` accepts: `data` missing, `null`, or a string of at most 64 code
    points. -/
theorem assetData_of_objectNormalize_ok {trs trs' : Transaction}
    (h : objectNormalize trs = .ok trs') :
    assetData trs = .undefined ∨ assetData trs = .null ∨
      ∃ s, assetData trs = .string s ∧ (ucs2decode s).length ≤ 64 := by
  obtain ⟨asset, hasset, hvalid, -⟩ := objectNormalize_eq_ok h
  rw [assetData, hasset]
  rcases (validateData_eq_nil_iff schema _).1 hvalid with hnone | ⟨s, hs, -, hlen⟩
  · rcases deleteIfNull_eq_undefined_iff.1 hnone with hd | hd <;> simp [hd]
  · exact .inr (.inr ⟨s, deleteIfNull_eq_string_iff.1 hs, hlen⟩)

theorem isText_of_objectNormalize {trs trs' : Transaction} (h : objectNormalize trs = .ok trs') :
    (assetData trs).isText := by
  rcases assetData_of_objectNormalize_ok h with hd | hd | ⟨s, hd, -⟩ <;> rw [hd] <;> rfl

theorem assetData_of_objectNormalize {trs trs' : Transaction}
    (h : objectNormalize trs = .ok trs') : assetData trs' = (assetData trs).deleteIfNull := by
  obtain ⟨asset, hasset, -, rfl⟩ := objectNormalize_eq_ok h
  simp [assetData, hasset]

/-- Deleting a `null` `data` changes no byte of `getBytes`. -/
theorem getBytes_of_deleteIfNull {trs trs' : Transaction}
    (h : assetData trs' = (assetData trs).deleteIfNull) : getBytes trs' = getBytes trs := by
  rw [getBytes_eq, getBytes_eq, h]
  cases assetData trs <;> rfl

theorem calculateFee_of_deleteIfNull (fees : Fees) {trs trs' : Transaction}
    (h : assetData trs' = (assetData trs).deleteIfNull) :
    calculateFee fees trs' = calculateFee fees trs := by
  rw [calculateFee, calculateFee, h, truthy_deleteIfNull]

/-- A normalized transfer normalizes to itself. -/
theorem objectNormalize_idem {trs trs' : Transaction} (h : objectNormalize trs = .ok trs') :
    objectNormalize trs' = .ok trs' := by
  obtain ⟨asset, -, hvalid, rfl⟩ := objectNormalize_eq_ok h
  simp only [objectNormalize, deleteIfNull_deleteIfNull, hvalid]

/-- `objectNormalize` changes neither the signed bytes nor the fee, and a second run of it
    changes nothing. The `sender` argument of `calculateFee` is not read. -/
theorem objectNormalize_stable (fees : Fees) {trs trs' : Transaction}
    (h : objectNormalize trs = .ok trs') :
    getBytes trs' = getBytes trs ∧ calculateFee fees trs' = calculateFee fees trs ∧
      objectNormalize trs' = .ok trs' :=
  ⟨getBytes_of_deleteIfNull (assetData_of_objectNormalize h),
    calculateFee_of_deleteIfNull fees (assetData_of_objectNormalize h), objectNormalize_idem h⟩

/-- A transfer with a `null` `data` and a `blockId`: normalization deletes both. -/
theorem objectNormalize_stable_nullData :
    objectNormalize ⟨"1", "2L", 5, some ⟨.null⟩, some "9", none⟩ =
        .ok ⟨"1", "2L", 5, some ⟨.undefined⟩, none, none⟩ ∧
      (getBytes ⟨"1", "2L", 5, some ⟨.undefined⟩, none, none⟩ =
          getBytes ⟨"1", "2L", 5, some ⟨.null⟩, some "9", none⟩ ∧
        calculateFee ⟨10, 20⟩ ⟨"1", "2L", 5, some ⟨.undefined⟩, none, none⟩ =
          calculateFee ⟨10, 20⟩ ⟨"1", "2L", 5, some ⟨.null⟩, some "9", none⟩ ∧
        objectNormalize ⟨"1", "2L", 5, some ⟨.undefined⟩, none, none⟩ =
          .ok ⟨"1", "2L", 5, some ⟨.undefined⟩, none, none⟩) :=
  ⟨rfl, objectNormalize_stable ⟨10, 20⟩ rfl⟩

/-! ## The length of the data's bytes -/

/-- A transfer that validates contributes at most 256 bytes, and `getBytes` does not throw on
    it: 64 code points of at most four bytes each. -/
theorem getBytes_length_le {trs trs' : Transaction} (h : objectNormalize trs = .ok trs') :
    ∃ result, getBytes trs = .ok result ∧ ∀ bytes ∈ result, bytes.length ≤ 256 := by
  rw [getBytes_eq]
  rcases assetData_of_objectNormalize_ok h with hd | hd | ⟨s, hd, hcount⟩
  · exact ⟨none, by rw [hd]; rfl, by simp⟩
  · exact ⟨none, by rw [hd]; rfl, by simp⟩
  · refine ⟨_, by rw [hd], fun bytes hbytes => ?_⟩
    have hbound := length_utf8Encode_le s
    split_ifs at hbytes
    · cases hbytes
    · cases hbytes
      omega

/-- Twenty-two euro signs pass the schema, and are 66 bytes in UTF-8. -/
theorem getBytes_length_le_euroData :
    objectNormalize ⟨"1", "2L", 5, some ⟨.string (List.replicate 22 (fromCharCode 0x20AC))⟩,
        none, none⟩ =
      .ok ⟨"1", "2L", 5, some ⟨.string (List.replicate 22 (fromCharCode 0x20AC))⟩, none, none⟩ ∧
    ∃ result, getBytes ⟨"1", "2L", 5,
        some ⟨.string (List.replicate 22 (fromCharCode 0x20AC))⟩, none, none⟩ = .ok result ∧
      ∀ bytes ∈ result, bytes.length ≤ 256 :=
  ⟨rfl, getBytes_length_le rfl⟩

/-- The schema's 64 characters are not 64 bytes: twenty-two euro signs validate and
    `getBytes` writes 66 bytes for them. -/
theorem getBytes_exceeds_64_bytes :
    ¬ ∀ trs trs' : Transaction, objectNormalize trs = .ok trs' →
      ∀ bytes, getBytes trs = .ok (some bytes) → bytes.length ≤ 64 := by
  intro hclaim
  have hlong := hclaim
    ⟨"1", "2L", 5, some ⟨.string (List.replicate 22 (fromCharCode 0x20AC))⟩, none, none⟩ _ rfl
    (utf8Encode (List.replicate 22 (fromCharCode 0x20AC))) rfl
  revert hlong
  decide

end LiskTransfer
