import Mathlib.Tactic.SplitIfs

/-!
# JavaScript strings and Node's UTF-8 `Buffer`

`src/logic/transfer.js` turns the transfer's `asset.data` into bytes with
`Buffer.from(data, 'utf8')` (`getBytes`, lines 100-115; `dbSave`, lines 260-281), and its
schema bounds the same string with `maxLength` (lines 202-212). Both read a JavaScript
string: a list of UTF-16 code units, in which a surrogate may stand alone.

* `ucs2decode`/`ucs2encode` are punycode's conversions between code units and code points;
  the schema validator counts a string's characters as `ucs2decode`'s code points.
* `utf8Encode` is `Buffer.from(s, 'utf8')`: each code point in UTF-8 (RFC 3629), a lone
  surrogate written as U+FFFD.
* `utf8Decode` is the Encoding Standard's UTF-8 decoder in fatal mode, reading the stored bytes
  back as text.
* `toWellFormed` is `String.prototype.toWellFormed`: every lone surrogate replaced by U+FFFD.

Reading back what `utf8Encode` wrote gives `toWellFormed s` (`decodeUtf8_utf8Encode`), which is
`s` exactly when `s` has no lone surrogate (`toWellFormed_eq_self_iff`), and every code point
takes at most four bytes (`length_utf8Encode_le`).
-/

namespace LiskTransfer

/-- A UTF-16 code unit; a JavaScript string is a list of them. -/
abbrev CodeUnit := Fin 0x10000

/-- A JavaScript string value. -/
abbrev JsString := List CodeUnit

/-- A byte of a Node `Buffer`. -/
abbrev Byte := Fin 0x100

/-- A Node `Buffer`. -/
abbrev Buffer := List Byte

/-- `String.fromCharCode(n)`: the code unit of the low 16 bits of `n`. -/
def fromCharCode (n : Nat) : CodeUnit := Fin.ofNat' _ n

/-- Storing `n` into a `Buffer` keeps its low 8 bits. -/
def toByte (n : Nat) : Byte := Fin.ofNat' _ n

@[simp] theorem val_fromCharCode (n : Nat) : (fromCharCode n).val = n % 0x10000 := rfl

@[simp] theorem val_toByte (n : Nat) : (toByte n).val = n % 0x100 := rfl

/-- A surrogate code point, `0xD800..0xDFFF`: never a Unicode scalar value. -/
def IsSurrogate (cp : Nat) : Prop := 0xD800 ≤ cp ∧ cp ≤ 0xDFFF

instance : DecidablePred IsSurrogate := fun _ => inferInstanceAs (Decidable (_ ∧ _))

/-- A Unicode scalar value: what UTF-8 can encode. -/
def IsScalar (cp : Nat) : Prop := cp < 0x110000 ∧ ¬ IsSurrogate cp

/-! ## punycode's `ucs2decode` and `ucs2encode` -/

/-- The loop of punycode's `ucs2decode`, one code unit at a time. `pending` is a high surrogate
    just read and held back until the next unit shows whether the two form a pair; when they do
    not, punycode's `counter--` reads that next unit again, as the last two branches do. -/
def ucs2decodeFrom : Option CodeUnit → JsString → List Nat
  | none, [] => []
  | some hi, [] => [hi.val]
  | none, u :: rest =>
    if 0xD800 ≤ u.val ∧ u.val ≤ 0xDBFF then ucs2decodeFrom (some u) rest
    else u.val :: ucs2decodeFrom none rest
  | some hi, u :: rest =>
    if 0xDC00 ≤ u.val ∧ u.val ≤ 0xDFFF then
      (hi.val % 0x400 * 0x400 + u.val % 0x400 + 0x10000) :: ucs2decodeFrom none rest
    else if 0xD800 ≤ u.val ∧ u.val ≤ 0xDBFF then hi.val :: ucs2decodeFrom (some u) rest
    else hi.val :: u.val :: ucs2decodeFrom none rest

/-- punycode's `ucs2decode`: the code points of a string, a lone surrogate kept as itself. -/
def ucs2decode (s : JsString) : List Nat := ucs2decodeFrom none s

/-- punycode's `ucs2encode`: a code point above `0xFFFF` as a surrogate pair, any other as one
    unit. -/
def ucs2encode : List Nat → JsString
  | [] => []
  | cp :: cps =>
    if 0xFFFF < cp then
      fromCharCode ((cp - 0x10000) / 0x400 % 0x400 + 0xD800) ::
        fromCharCode ((cp - 0x10000) % 0x400 + 0xDC00) :: ucs2encode cps
    else fromCharCode cp :: ucs2encode cps

/-! ## UTF-8 -/

/-- The UTF-8 bytes of one code point (RFC 3629 §3). -/
def utf8EncodePoint (cp : Nat) : Buffer :=
  if cp < 0x80 then [toByte cp]
  else if cp < 0x800 then [toByte (0xC0 + cp / 0x40), toByte (0x80 + cp % 0x40)]
  else if cp < 0x10000 then
    [toByte (0xE0 + cp / 0x1000), toByte (0x80 + cp / 0x40 % 0x40), toByte (0x80 + cp % 0x40)]
  else
    [toByte (0xF0 + cp / 0x40000), toByte (0x80 + cp / 0x1000 % 0x40),
      toByte (0x80 + cp / 0x40 % 0x40), toByte (0x80 + cp % 0x40)]

/-- A lone surrogate goes out as U+FFFD, the replacement character. -/
def replaceSurrogate (cp : Nat) : Nat := if IsSurrogate cp then 0xFFFD else cp

/-- `Buffer.from(s, 'utf8')`. -/
def utf8Encode (s : JsString) : Buffer :=
  (ucs2decode s).flatMap fun cp => utf8EncodePoint (replaceSurrogate cp)

/-- The UTF-8 decoder of the Encoding Standard (§9.1.1), in its fatal mode: `needed` bytes of
    the current character are still to come, `codePoint` holds its bits so far, and the next
    byte must lie in `lower..upper`, bounds that rule out overlong forms, surrogates and code
    points past U+10FFFF. `none` is the decoder's error. -/
def utf8DecodeFrom (needed codePoint lower upper : Nat) : Buffer → Option (List Nat)
  | [] => if needed = 0 then some [] else none
  | b :: bs =>
    if needed = 0 then
      if b.val ≤ 0x7F then (utf8DecodeFrom 0 0 0x80 0xBF bs).map (b.val :: ·)
      else if 0xC2 ≤ b.val ∧ b.val ≤ 0xDF then utf8DecodeFrom 1 (b.val % 0x20) 0x80 0xBF bs
      else if 0xE0 ≤ b.val ∧ b.val ≤ 0xEF then
        utf8DecodeFrom 2 (b.val % 0x10) (if b.val = 0xE0 then 0xA0 else 0x80)
          (if b.val = 0xED then 0x9F else 0xBF) bs
      else if 0xF0 ≤ b.val ∧ b.val ≤ 0xF4 then
        utf8DecodeFrom 3 (b.val % 0x8) (if b.val = 0xF0 then 0x90 else 0x80)
          (if b.val = 0xF4 then 0x8F else 0xBF) bs
      else none
    else if lower ≤ b.val ∧ b.val ≤ upper then
      if needed = 1 then
        (utf8DecodeFrom 0 0 0x80 0xBF bs).map ((codePoint * 0x40 + b.val % 0x40) :: ·)
      else utf8DecodeFrom (needed - 1) (codePoint * 0x40 + b.val % 0x40) 0x80 0xBF bs
    else none

/-- Strict UTF-8 decoding: the code points of `bytes`, or `none` when they are not UTF-8. -/
def utf8Decode (bytes : Buffer) : Option (List Nat) := utf8DecodeFrom 0 0 0x80 0xBF bytes

/-- UTF-8 bytes read back as a JavaScript string. -/
def decodeUtf8 (bytes : Buffer) : Option JsString := (utf8Decode bytes).map ucs2encode

/-- `String.prototype.toWellFormed`. -/
def toWellFormed (s : JsString) : JsString := ucs2encode ((ucs2decode s).map replaceSurrogate)

/-- `String.prototype.isWellFormed`: no lone surrogate. -/
def IsWellFormed (s : JsString) : Prop := ∀ cp ∈ ucs2decode s, ¬ IsSurrogate cp

instance : DecidablePred IsWellFormed :=
  fun s => inferInstanceAs (Decidable (∀ cp ∈ ucs2decode s, ¬ IsSurrogate cp))


/-! ## The decoder, one byte at a time -/

theorem utf8Decode_ascii {b : Byte} (bs : Buffer) (hb : b.val ≤ 0x7F) :
    utf8Decode (b :: bs) = (utf8Decode bs).map (b.val :: ·) := by
  rw [utf8Decode, utf8DecodeFrom.eq_2, if_pos rfl, if_pos hb, utf8Decode]

theorem utf8Decode_lead2 {b : Byte} (bs : Buffer) (hb : 0xC2 ≤ b.val ∧ b.val ≤ 0xDF) :
    utf8Decode (b :: bs) = utf8DecodeFrom 1 (b.val % 0x20) 0x80 0xBF bs := by
  rw [utf8Decode, utf8DecodeFrom.eq_2, if_pos rfl, if_neg (by omega), if_pos hb]

theorem utf8Decode_lead3 {b : Byte} (bs : Buffer) (hb : 0xE0 ≤ b.val ∧ b.val ≤ 0xEF) :
    utf8Decode (b :: bs) =
      utf8DecodeFrom 2 (b.val % 0x10) (if b.val = 0xE0 then 0xA0 else 0x80)
        (if b.val = 0xED then 0x9F else 0xBF) bs := by
  rw [utf8Decode, utf8DecodeFrom.eq_2, if_pos rfl, if_neg (by omega), if_neg (by omega), if_pos hb]

theorem utf8Decode_lead4 {b : Byte} (bs : Buffer) (hb : 0xF0 ≤ b.val ∧ b.val ≤ 0xF4) :
    utf8Decode (b :: bs) =
      utf8DecodeFrom 3 (b.val % 0x8) (if b.val = 0xF0 then 0x90 else 0x80)
        (if b.val = 0xF4 then 0x8F else 0xBF) bs := by
  rw [utf8Decode, utf8DecodeFrom.eq_2, if_pos rfl, if_neg (by omega), if_neg (by omega),
    if_neg (by omega), if_pos hb]

theorem utf8DecodeFrom_next {needed codePoint lower upper : Nat} {b : Byte} (bs : Buffer)
    (hn : 2 ≤ needed) (hb : lower ≤ b.val ∧ b.val ≤ upper) :
    utf8DecodeFrom needed codePoint lower upper (b :: bs) =
      utf8DecodeFrom (needed - 1) (codePoint * 0x40 + b.val % 0x40) 0x80 0xBF bs := by
  rw [utf8DecodeFrom.eq_2, if_neg (by omega), if_pos hb, if_neg (by omega)]

theorem utf8DecodeFrom_last {codePoint lower upper : Nat} {b : Byte} (bs : Buffer) (cp : Nat)
    (hb : lower ≤ b.val ∧ b.val ≤ upper) (hcp : codePoint * 0x40 + b.val % 0x40 = cp) :
    utf8DecodeFrom 1 codePoint lower upper (b :: bs) = (utf8Decode bs).map (cp :: ·) := by
  rw [utf8DecodeFrom.eq_2, if_neg (by omega), if_pos hb, if_pos rfl, utf8Decode, hcp]

/-- Decoding one code point's encoding gives the code point back, whatever follows it. -/
theorem utf8Decode_utf8EncodePoint_append {cp : Nat} (hcp : IsScalar cp) (rest : Buffer) :
    utf8Decode (utf8EncodePoint cp ++ rest) = (utf8Decode rest).map (cp :: ·) := by
  obtain ⟨hmax, hs⟩ := hcp
  simp only [IsSurrogate] at hs
  unfold utf8EncodePoint
  split_ifs with h1 h2 h3 <;> simp only [List.cons_append, List.nil_append]
  · rw [utf8Decode_ascii _ (by simp only [val_toByte]; omega), val_toByte,
      Nat.mod_eq_of_lt (by omega)]
  · rw [utf8Decode_lead2 _ ?_, utf8DecodeFrom_last _ cp ?_ ?_] <;>
      simp only [val_toByte] <;> omega
  · rw [utf8Decode_lead3 _ ?_, utf8DecodeFrom_next _ (Nat.le_refl 2) ?_,
      utf8DecodeFrom_last _ cp ?_ ?_] <;>
      simp (disch := omega) only [val_toByte, Nat.mod_eq_of_lt] <;> (try split_ifs) <;> omega
  · rw [utf8Decode_lead4 _ ?_, utf8DecodeFrom_next _ (by omega) ?_,
      utf8DecodeFrom_next _ (Nat.le_refl 2) ?_, utf8DecodeFrom_last _ cp ?_ ?_] <;>
      simp (disch := omega) only [val_toByte, Nat.mod_eq_of_lt] <;> (try split_ifs) <;> omega

/-! ## punycode's round trips -/

@[simp] theorem fromCharCode_val (u : CodeUnit) : fromCharCode u.val = u := Fin.ofNat'_val_eq_self u

theorem fromCharCode_eq {n : Nat} (u : CodeUnit) (h : n = u.val) : fromCharCode n = u := by
  rw [h, fromCharCode_val]

theorem ucs2encode_cons_of_le {cp : Nat} (cps : List Nat) (h : cp ≤ 0xFFFF) :
    ucs2encode (cp :: cps) = fromCharCode cp :: ucs2encode cps := by
  rw [ucs2encode, if_neg (by omega)]

/-- punycode's `ucs2encode` undoes `ucs2decode` on every string, lone surrogates included. -/
theorem ucs2encode_ucs2decodeFrom (p : Option CodeUnit) (s : JsString)
    (hp : ∀ hi ∈ p, 0xD800 ≤ hi.val ∧ hi.val ≤ 0xDBFF) :
    ucs2encode (ucs2decodeFrom p s) = p.toList ++ s := by
  induction p, s using ucs2decodeFrom.induct with
  | case1 => rfl
  | case2 hi => rw [ucs2decodeFrom, ucs2encode_cons_of_le _ (by omega), fromCharCode_val]; rfl
  | case3 u rest hu ih => rw [ucs2decodeFrom, if_pos hu, ih (by simpa using hu)]; rfl
  | case4 u rest hu ih =>
    rw [ucs2decodeFrom, if_neg hu, ucs2encode_cons_of_le _ (by omega), ih (by simp),
      fromCharCode_val]; rfl
  | case5 hi u rest hu ih =>
    have hhi := hp hi rfl
    rw [ucs2decodeFrom, if_pos hu, ucs2encode, if_pos (by omega), ih (by simp),
      fromCharCode_eq hi (by omega), fromCharCode_eq u (by omega)]; rfl
  | case6 hi u rest _ hu ih =>
    rw [ucs2decodeFrom, if_neg (by omega), if_pos hu, ucs2encode_cons_of_le _ (by omega),
      ih (by simpa using hu), fromCharCode_val]; rfl
  | case7 hi u rest hl hu ih =>
    rw [ucs2decodeFrom, if_neg hl, if_neg hu, ucs2encode_cons_of_le _ (by omega),
      ucs2encode_cons_of_le _ (by omega), ih (by simp), fromCharCode_val, fromCharCode_val]; rfl

theorem ucs2encode_ucs2decode (s : JsString) : ucs2encode (ucs2decode s) = s :=
  ucs2encode_ucs2decodeFrom none s (by simp)

/-- On Unicode scalar values `ucs2decode` undoes `ucs2encode`. -/
theorem ucs2decode_ucs2encode (cps : List Nat) (h : ∀ cp ∈ cps, IsScalar cp) :
    ucs2decode (ucs2encode cps) = cps := by
  induction cps with
  | nil => rfl
  | cons cp cps ih =>
    obtain ⟨hmax, hs⟩ := h cp (List.mem_cons_self cp cps)
    simp only [IsSurrogate] at hs
    have ih := ih fun c hc => h c (List.mem_cons_of_mem cp hc)
    simp only [ucs2decode] at ih ⊢
    by_cases hbig : 0xFFFF < cp
    · rw [ucs2encode, if_pos hbig, ucs2decodeFrom, if_pos (by simp; omega), ucs2decodeFrom,
        if_pos (by simp; omega), ih]
      congr 1; simp; omega
    · rw [ucs2encode_cons_of_le _ (by omega), ucs2decodeFrom, if_neg (by simp; omega), ih]
      simp; omega

theorem lt_of_mem_ucs2decodeFrom {p : Option CodeUnit} {s : JsString} {cp : Nat}
    (h : cp ∈ ucs2decodeFrom p s) : cp < 0x110000 := by
  induction p, s using ucs2decodeFrom.induct with
  | case1 => simp [ucs2decodeFrom] at h
  | case2 hi => simp [ucs2decodeFrom] at h; omega
  | case3 u rest hu ih => rw [ucs2decodeFrom, if_pos hu] at h; exact ih h
  | case4 u rest hu ih =>
    rw [ucs2decodeFrom, if_neg hu, List.mem_cons] at h
    rcases h with rfl | h <;> first | omega | exact ih h
  | case5 hi u rest hu ih =>
    rw [ucs2decodeFrom, if_pos hu, List.mem_cons] at h
    rcases h with rfl | h <;> first | omega | exact ih h
  | case6 hi u rest hl hu ih =>
    rw [ucs2decodeFrom, if_neg hl, if_pos hu, List.mem_cons] at h
    rcases h with rfl | h <;> first | omega | exact ih h
  | case7 hi u rest hl hu ih =>
    rw [ucs2decodeFrom, if_neg hl, if_neg hu, List.mem_cons, List.mem_cons] at h
    rcases h with rfl | rfl | h <;> first | omega | exact ih h

theorem ucs2decodeFrom_some_ne_nil (hi : CodeUnit) (s : JsString) :
    ucs2decodeFrom (some hi) s ≠ [] := by
  cases s with
  | nil => simp [ucs2decodeFrom]
  | cons u rest => rw [ucs2decodeFrom]; split_ifs <;> simp

theorem ucs2decode_eq_nil_iff (s : JsString) : ucs2decode s = [] ↔ s = [] := by
  cases s with
  | nil => simp [ucs2decode, ucs2decodeFrom]
  | cons u rest =>
    simp only [ucs2decode, ucs2decodeFrom, reduceCtorEq, iff_false]
    split_ifs
    · exact ucs2decodeFrom_some_ne_nil u rest
    · simp

/-! ## Replacing lone surrogates -/

theorem isScalar_replaceSurrogate {cp : Nat} (h : cp < 0x110000) :
    IsScalar (replaceSurrogate cp) := by
  unfold replaceSurrogate IsScalar IsSurrogate
  split_ifs <;> omega

theorem replaceSurrogate_of_not {cp : Nat} (h : ¬ IsSurrogate cp) : replaceSurrogate cp = cp :=
  if_neg h

@[simp] theorem replaceSurrogate_replaceSurrogate (cp : Nat) :
    replaceSurrogate (replaceSurrogate cp) = replaceSurrogate cp := by
  unfold replaceSurrogate IsSurrogate
  split_ifs <;> omega

theorem utf8Encode_eq_flatMap (s : JsString) :
    utf8Encode s = ((ucs2decode s).map replaceSurrogate).flatMap utf8EncodePoint := by
  rw [utf8Encode, List.flatMap_map]

theorem ucs2decode_toWellFormed (s : JsString) :
    ucs2decode (toWellFormed s) = (ucs2decode s).map replaceSurrogate := by
  refine ucs2decode_ucs2encode _ fun cp hcp => ?_
  obtain ⟨c, hc, rfl⟩ := List.mem_map.1 hcp
  exact isScalar_replaceSurrogate (lt_of_mem_ucs2decodeFrom hc)

theorem utf8Decode_flatMap (cps : List Nat) (h : ∀ cp ∈ cps, IsScalar cp) :
    utf8Decode (cps.flatMap utf8EncodePoint) = some cps := by
  induction cps with
  | nil => rfl
  | cons cp cps ih =>
    rw [List.flatMap_cons, utf8Decode_utf8EncodePoint_append (h cp (List.mem_cons_self cp cps)),
      ih fun c hc => h c (List.mem_cons_of_mem cp hc)]
    rfl

/-- Reading back the bytes of `Buffer.from(s, 'utf8')` gives `s.toWellFormed()`. -/
theorem decodeUtf8_utf8Encode (s : JsString) :
    decodeUtf8 (utf8Encode s) = some (toWellFormed s) := by
  rw [decodeUtf8, utf8Encode_eq_flatMap, utf8Decode_flatMap _ fun cp hcp => ?_]
  · rfl
  · obtain ⟨c, hc, rfl⟩ := List.mem_map.1 hcp
    exact isScalar_replaceSurrogate (lt_of_mem_ucs2decodeFrom hc)

/-- `toWellFormed` changes no byte that `Buffer.from` writes. -/
theorem utf8Encode_toWellFormed (s : JsString) : utf8Encode (toWellFormed s) = utf8Encode s := by
  rw [utf8Encode, ucs2decode_toWellFormed, List.flatMap_map, utf8Encode]
  simp only [replaceSurrogate_replaceSurrogate]

theorem isWellFormed_toWellFormed (s : JsString) : IsWellFormed (toWellFormed s) := by
  intro cp hcp
  rw [ucs2decode_toWellFormed] at hcp
  obtain ⟨c, hc, rfl⟩ := List.mem_map.1 hcp
  exact (isScalar_replaceSurrogate (lt_of_mem_ucs2decodeFrom hc)).2

theorem toWellFormed_eq_self_iff (s : JsString) : toWellFormed s = s ↔ IsWellFormed s := by
  constructor
  · intro h
    exact h ▸ isWellFormed_toWellFormed s
  · intro h
    rw [toWellFormed, List.map_congr_left fun cp hcp => replaceSurrogate_of_not (h cp hcp),
      List.map_id', ucs2encode_ucs2decode]

/-- The fatal UTF-8 decoder gives back the string whose bytes `Buffer.from(s, 'utf8')` wrote
    exactly when the string has no lone surrogate. -/
theorem decodeUtf8_utf8Encode_eq_self_iff (s : JsString) :
    decodeUtf8 (utf8Encode s) = some s ↔ IsWellFormed s := by
  rw [decodeUtf8_utf8Encode, Option.some.injEq, toWellFormed_eq_self_iff]

theorem length_ucs2decode_toWellFormed (s : JsString) :
    (ucs2decode (toWellFormed s)).length = (ucs2decode s).length := by
  rw [ucs2decode_toWellFormed, List.length_map]

/-! ## Byte counts -/

theorem length_utf8EncodePoint_le (cp : Nat) : (utf8EncodePoint cp).length ≤ 4 := by
  unfold utf8EncodePoint; split_ifs <;> simp

theorem utf8EncodePoint_ne_nil (cp : Nat) : utf8EncodePoint cp ≠ [] := by
  unfold utf8EncodePoint; split_ifs <;> simp

/-- Every code point the schema counts takes at most four bytes. -/
theorem length_utf8Encode_le (s : JsString) :
    (utf8Encode s).length ≤ 4 * (ucs2decode s).length := by
  rw [utf8Encode]
  induction ucs2decode s with
  | nil => simp
  | cons cp cps ih =>
    rw [List.flatMap_cons, List.length_append, List.length_cons]
    have := length_utf8EncodePoint_le (replaceSurrogate cp)
    omega

theorem utf8Encode_eq_nil_iff (s : JsString) : utf8Encode s = [] ↔ s = [] := by
  rw [utf8Encode, List.flatMap_eq_nil_iff, ← ucs2decode_eq_nil_iff]
  cases ucs2decode s with
  | nil => simp
  | cons cp cps =>
    exact iff_of_false (fun h => utf8EncodePoint_ne_nil _ (h cp (List.mem_cons_self cp cps)))
      (List.cons_ne_nil cp cps)

end LiskTransfer
