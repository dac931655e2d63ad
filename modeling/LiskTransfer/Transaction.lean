import LiskTransfer.Utf8
import Mathlib.Data.Rat.Init

/-!
# The transfer transaction type

The pure methods of `Transfer` in `src/logic/transfer.js`: `create` (lines 42-48),
`calculateFee` (56-63), `verify` (72-82), `process` (90-92), `getBytes` (100-115), the asset
`schema` (202-212), `objectNormalize` (219-235), `dbRead` (250-253), `dbSave` (260-281) and
`ready` (291-300). The ledger methods `apply`, `undo`, `applyUnconfirmed` and
`undoUnconfirmed` are in `LiskTransfer.Ledger`.

A transaction is the record of the fields these methods read. `asset.data` is a JSON value,
missing, `null`, a boolean, a number or a string, and the methods test it with JavaScript
truthiness. `getBytes` and `dbSave` pass a truthy value to `Buffer.from`, which encodes a
string and throws a `TypeError` on a boolean or a number. Objects and arrays are left out:
`Buffer.from` reads an array-like object element by element through `ToNumber`, which the model
does not include. `constants.fees`, which `src/` does not include, is the parameter `fees`. The
validator `library.schema` is z-schema: its `type`, `minLength` and `maxLength` keywords are
modelled as JSON Schema defines them, lengths counted in code points, with z-schema's messages
and its type names (`whatIs`).
-/

namespace LiskTransfer

/-- The JSON value of `trs.asset.data`, and of the `tf_data` column `dbRead` reads. A number is
    the rational its JSON text denotes. -/
inductive AssetData where
  | undefined
  | null
  | boolean (b : Bool)
  | number (n : ℚ)
  | string (s : JsString)
  deriving DecidableEq, Repr

/-- JavaScript truthiness: `false`, `0`, the empty string, `null` and `undefined` are falsy. -/
def AssetData.truthy : AssetData → Bool
  | .boolean b => b
  | .number n => n ≠ 0
  | .string s => !s.isEmpty
  | _ => false

/-- Whether a value is missing, `null` or a string: the values `Buffer.from` does not reject
    once `getBytes` and `dbSave` have tested them. -/
def AssetData.isText : AssetData → Bool
  | .boolean _ | .number _ => false
  | _ => true

/-- `value || null`. -/
def AssetData.orNull (value : AssetData) : AssetData := if value.truthy then value else .null

/-- The transfer asset, `trs.asset`. -/
structure Asset where
  data : AssetData
  deriving DecidableEq, Repr

/-- The fields of a transaction that the transfer methods read or write. `asset` is `none` when
    `trs.asset` is `undefined`; `blockId` is `none` once deleted. -/
structure Transaction where
  id : String
  recipientId : String
  amount : Int
  asset : Option Asset
  blockId : Option String
  signatures : Option (List String)
  deriving DecidableEq, Repr

/-- The fields of the sender account that `ready` reads. -/
structure Sender where
  multisignatures : Option (List String)
  multimin : Int
  deriving DecidableEq, Repr

/-- `constants.fees.send` and `constants.fees.data`. -/
structure Fees where
  send : Nat
  data : Nat
  deriving DecidableEq, Repr

/-- What a transfer method throws: a `TypeError` from reading a property of `undefined`, or a
    string. -/
inductive Thrown where
  | typeError
  | message (text : String)
  deriving DecidableEq, Repr

/-- The value of `trs.asset && trs.asset.data`. -/
def assetData (trs : Transaction) : AssetData :=
  match trs.asset with
  | some asset => asset.data
  | none => .undefined

/-! ## `create`, `calculateFee`, `verify`, `process`, `getBytes` -/

/-- The `data` argument of `create`. -/
structure CreateData where
  recipientId : String
  amount : Int
  data : AssetData
  deriving DecidableEq, Repr

/-- `Transfer.prototype.create` (lines 42-48): `trs.asset.data = data.data || null`, which
    throws when `trs.asset` is missing. -/
def create (data : CreateData) (trs : Transaction) : Except Thrown Transaction :=
  match trs.asset with
  | some asset =>
    .ok { trs with
      recipientId := data.recipientId, amount := data.amount,
      asset := some { asset with data := data.data.orNull } }
  | none => .error .typeError

/-- `Transfer.prototype.calculateFee` (lines 56-63): `fees.send`, plus `fees.data` when
    `trs.asset && trs.asset.data`. The `sender` argument is not read. -/
def calculateFee (fees : Fees) (trs : Transaction) : Nat :=
  if (assetData trs).truthy then fees.send + fees.data else fees.send

/-- `Transfer.prototype.verify` (lines 72-82). The `sender` argument is not read. -/
def verify (trs : Transaction) : Except String Transaction :=
  if trs.recipientId.isEmpty then .error "Missing recipient"
  else if trs.amount ≤ 0 then .error "Invalid transaction amount"
  else .ok trs

/-- `Transfer.prototype.process` (lines 90-92). -/
def process (trs : Transaction) : Except String Transaction := .ok trs

/-- `Buffer.from(value, 'utf8')`: the UTF-8 bytes of a string; a boolean or a number is
    rejected with a `TypeError`. -/
def bufferFrom : AssetData → Except Thrown Buffer
  | .string s => .ok (utf8Encode s)
  | _ => .error .typeError

/-- `Transfer.prototype.getBytes` (lines 100-115): `data` is `trs.asset.data` when
    `trs.asset && trs.asset.data` holds, and the result is
    `data ? Buffer.from(data, 'utf8') : null`; the `catch` rethrows what `Buffer.from` throws. -/
def getBytes (trs : Transaction) : Except Thrown (Option Buffer) :=
  let data := if (assetData trs).truthy then assetData trs else .undefined
  if data.truthy then some <$> bufferFrom data else .ok none

/-! ## The schema and `objectNormalize` -/

/-- The JSON Schema keywords `type: 'string'`, `minLength` and `maxLength`. -/
structure StringSchema where
  minLength : Nat
  maxLength : Nat
  deriving DecidableEq, Repr

/-- `Transfer.prototype.schema` (lines 202-212): an object whose `data`, when present, is a
    string of 0 to 64 characters. -/
def schema : StringSchema := { minLength := 0, maxLength := 64 }

/-- An error z-schema reports: a value of the wrong type, or a string outside its length
    bounds, with the string's `length` in code units as z-schema's message gives it. -/
inductive SchemaError where
  | invalidType (expected found : String)
  | minLength (length minimum : Nat)
  | maxLength (length maximum : Nat)
  deriving DecidableEq, Repr

/-- z-schema's text for each error, `err.message`. -/
def SchemaError.message : SchemaError → String
  | .invalidType expected found => "Expected type " ++ expected ++ " but found type " ++ found
  | .minLength length minimum =>
    "String is too short (" ++ toString length ++ " chars), minimum " ++ toString minimum
  | .maxLength length maximum =>
    "String is too long (" ++ toString length ++ " chars), maximum " ++ toString maximum

/-- `library.schema.validate(asset, schema)` and `getLastErrors()`: the errors of the `data`
    property, none when it is absent. A value that is not a string fails `type` alone, named as
    z-schema's `whatIs` names it (`integer` for a whole number); a string is checked against
    `minLength` and `maxLength`, compared in code points (`ucs2decode`). -/
def validateData (sch : StringSchema) : AssetData → List SchemaError
  | .undefined => []
  | .null => [.invalidType "string" "null"]
  | .boolean _ => [.invalidType "string" "boolean"]
  | .number n => [.invalidType "string" (if n.den = 1 then "integer" else "number")]
  | .string s =>
    (if (ucs2decode s).length < sch.minLength then [.minLength s.length sch.minLength]
      else []) ++
    (if sch.maxLength < (ucs2decode s).length then [.maxLength s.length sch.maxLength]
      else [])

/-- `if (data === null || typeof data === 'undefined') delete data` (lines 222-224). -/
def AssetData.deleteIfNull : AssetData → AssetData
  | .null => .undefined
  | data => data

/-- `Transfer.prototype.objectNormalize` (lines 219-235): delete `trs.blockId`, delete a `null`
    `trs.asset.data`, and throw the joined schema messages when the asset does not validate.
    Reading `trs.asset.data` throws when `trs.asset` is missing. -/
def objectNormalize (trs : Transaction) : Except Thrown Transaction :=
  match trs.asset with
  | none => .error .typeError
  | some asset =>
    let asset := { asset with data := asset.data.deleteIfNull }
    match validateData schema asset.data with
    | [] => .ok { trs with blockId := none, asset := some asset }
    | errors =>
      .error (.message ("Failed to validate transfer schema: " ++
        ", ".intercalate (errors.map SchemaError.message)))

/-! ## Persistence and `ready` -/

/-- `Transfer.prototype.dbTable` (line 237). -/
def dbTable : String := "transfer"

/-- `Transfer.prototype.dbFields` (lines 239-242). -/
def dbFields : List String := ["data", "transactionId"]

/-- The `values` of a `dbSave` row. -/
structure DbValues where
  data : Buffer
  transactionId : String
  deriving DecidableEq, Repr

/-- The row `dbSave` returns for the `transfer` table. -/
structure DbRow where
  table : String
  fields : List String
  values : DbValues
  deriving DecidableEq, Repr

/-- `Transfer.prototype.dbSave` (lines 260-281): when `trs.asset && trs.asset.data`, a row
    holding `Buffer.from(trs.asset.data, 'utf8')` and `trs.id`, the `catch` rethrowing what
    `Buffer.from` throws; `null` otherwise. -/
def dbSave (trs : Transaction) : Except Thrown (Option DbRow) :=
  if (assetData trs).truthy then do
    let data ← bufferFrom (assetData trs)
    return some { table := dbTable, fields := dbFields,
                  values := { data := data, transactionId := trs.id } }
  else .ok none

/-- The column of a transactions query row that `dbRead` reads. -/
structure RawRow where
  tf_data : AssetData
  deriving DecidableEq, Repr

/-- `Transfer.prototype.dbRead` (lines 250-253): `{data: raw.tf_data || null}`. -/
def dbRead (raw : RawRow) : Asset := { data := raw.tf_data.orNull }

/-- `Transfer.prototype.ready` (lines 291-300): a sender with a non-empty `multisignatures`
    array needs at least `multimin` signatures on the transaction. -/
def ready (trs : Transaction) (sender : Sender) : Bool :=
  match sender.multisignatures with
  | some (_ :: _) =>
    match trs.signatures with
    | some signatures => decide (sender.multimin ≤ signatures.length)
    | none => false
  | _ => true

/-! ## Spec lemmas -/

@[simp] theorem truthy_undefined : AssetData.undefined.truthy = false := rfl

@[simp] theorem truthy_null : AssetData.null.truthy = false := rfl

@[simp] theorem truthy_string (s : JsString) : (AssetData.string s).truthy = decide (s ≠ []) := by
  cases s <;> rfl

@[simp] theorem deleteIfNull_null : AssetData.null.deleteIfNull = .undefined := rfl

@[simp] theorem deleteIfNull_undefined : AssetData.undefined.deleteIfNull = .undefined := rfl

theorem deleteIfNull_eq_undefined_iff {value : AssetData} :
    value.deleteIfNull = .undefined ↔ value = .undefined ∨ value = .null := by
  cases value <;> simp [AssetData.deleteIfNull]

theorem deleteIfNull_eq_string_iff {value : AssetData} {s : JsString} :
    value.deleteIfNull = .string s ↔ value = .string s := by
  cases value <;> simp [AssetData.deleteIfNull]

@[simp] theorem truthy_deleteIfNull (value : AssetData) :
    value.deleteIfNull.truthy = value.truthy := by
  cases value <;> rfl

@[simp] theorem isText_deleteIfNull (value : AssetData) :
    value.deleteIfNull.isText = value.isText := by
  cases value <;> rfl

@[simp] theorem deleteIfNull_deleteIfNull (value : AssetData) :
    value.deleteIfNull.deleteIfNull = value.deleteIfNull := by
  cases value <;> rfl

/-- `calculateFee` reads only whether `trs.asset && trs.asset.data` holds. -/
theorem calculateFee_congr (fees : Fees) {trs trs' : Transaction}
    (h : (assetData trs).truthy = (assetData trs').truthy) :
    calculateFee fees trs = calculateFee fees trs' := by
  rw [calculateFee, calculateFee, h]

/-- `getBytes` reads `trs.asset.data` and nothing else: the bytes of a non-empty string, `null`
    for a falsy value, and a `TypeError` for a truthy boolean or number. -/
theorem getBytes_eq (trs : Transaction) :
    getBytes trs =
      match assetData trs with
      | .string s => .ok (if s = [] then none else some (utf8Encode s))
      | data => if data.truthy then .error .typeError else .ok none := by
  unfold getBytes
  cases assetData trs with
  | string s => by_cases hs : s = [] <;> simp [hs, bufferFrom, Functor.map, Except.map]
  | boolean b => cases b <;> rfl
  | number n =>
    by_cases hn : n = 0 <;> simp [AssetData.truthy, hn, bufferFrom, Functor.map, Except.map]
  | _ => rfl

/-- On a missing, `null` or string `data`, `getBytes` does not throw. -/
theorem getBytes_of_isText {trs : Transaction} (h : (assetData trs).isText) :
    getBytes trs =
      .ok (match assetData trs with
        | .string s => if s = [] then none else some (utf8Encode s)
        | _ => none) := by
  rw [getBytes_eq]
  cases hd : assetData trs with
  | boolean b | number n => simp [hd, AssetData.isText] at h
  | _ => rfl

/-- `dbSave` stores exactly the bytes `getBytes` returns, under the transaction's id, and throws
    exactly what `getBytes` throws. -/
theorem dbSave_eq (trs : Transaction) :
    dbSave trs =
      Option.map (fun data => { table := dbTable, fields := dbFields,
                                values := { data := data, transactionId := trs.id } }) <$>
        getBytes trs := by
  unfold dbSave getBytes
  cases assetData trs with
  | boolean b => cases b <;> rfl
  | number n =>
    by_cases hn : n = 0 <;> simp [AssetData.truthy, hn, bufferFrom, Functor.map, Except.map]
  | string s => by_cases hs : s = [] <;> simp [hs, bufferFrom, Functor.map, Except.map]
  | _ => rfl

/-- What passes a string schema: a missing value, or a string within its bounds. -/
theorem validateData_eq_nil_iff (sch : StringSchema) (value : AssetData) :
    validateData sch value = [] ↔
      value = .undefined ∨ ∃ s, value = .string s ∧
        sch.minLength ≤ (ucs2decode s).length ∧ (ucs2decode s).length ≤ sch.maxLength := by
  cases value with
  | string s =>
    simp only [validateData, List.append_eq_nil, ite_eq_right_iff, reduceCtorEq, imp_false,
      Nat.not_lt, AssetData.string.injEq, exists_eq_left', false_or]
  | _ => simp [validateData]

theorem isText_of_validateData {sch : StringSchema} {value : AssetData}
    (h : validateData sch value = []) : value.isText := by
  rcases (validateData_eq_nil_iff sch value).1 h with rfl | ⟨s, rfl, -⟩ <;> rfl

/-- A string passes the transfer schema exactly when it has at most 64 code points. -/
theorem validateData_schema_eq_nil_iff (s : JsString) :
    validateData schema (.string s) = [] ↔ (ucs2decode s).length ≤ 64 := by
  simp [validateData_eq_nil_iff, schema]

/-- What a successful `objectNormalize` did: the asset was there, its `data` with `null`
    deleted validates, and the result is `trs` with that data and no `blockId`. -/
theorem objectNormalize_eq_ok {trs trs' : Transaction} (h : objectNormalize trs = .ok trs') :
    ∃ asset, trs.asset = some asset ∧ validateData schema asset.data.deleteIfNull = [] ∧
      trs' = { trs with blockId := none, asset := some ⟨asset.data.deleteIfNull⟩ } := by
  unfold objectNormalize at h
  split at h
  · cases h
  · next asset hasset =>
    dsimp only at h
    split at h
    · next hvalid => exact ⟨asset, hasset, hvalid, (Except.ok.inj h).symm⟩
    · cases h

theorem objectNormalize_of_valid {trs : Transaction} {asset : Asset}
    (hasset : trs.asset = some asset) (hvalid : validateData schema asset.data.deleteIfNull = []) :
    objectNormalize trs =
      .ok { trs with blockId := none, asset := some ⟨asset.data.deleteIfNull⟩ } := by
  simp only [objectNormalize, hasset, hvalid]

end LiskTransfer
