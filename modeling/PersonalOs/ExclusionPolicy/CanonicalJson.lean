import PersonalOs.Basis.Fallible
import PersonalOs.Basis.Json

/-!
# The canonical encoders

`canonical_json.py` and `canonical-json.ts`: the server's and the plugin's encoder of closed
values. Both refuse what lies outside the closed grammar before a byte is produced; what they
accept they write as the canonical JSON text in UTF-8.

Unicode's normal form C is a parameter of both.
-/

namespace PersonalOs.ExclusionPolicy

open Json

/-! ## Bytes -/

def utf8 (t : Text) : List UInt8 := t.flatMap String.utf8EncodeChar

theorem utf8_injective {s t : Text} (hs : utf8 s = utf8 t) : s = t := by
  have he : s.utf8Encode = t.utf8Encode := congrArg List.toByteArray hs
  have hr := List.utf8Decode?_utf8Encode (l := s)
  rw [he, List.utf8Decode?_utf8Encode, Option.some.injEq] at hr
  exact (congrArg Array.toList hr).symm

def maximumSafeInteger : Int := 9007199254740991

/-! ## The server's values -/

inductive CodePoint
  | scalar (c : Char)
  | surrogate (code : Fin 0x800)

abbrev PyString := List CodePoint

/-- What the server's encoder is given. `unsupported` stands for floats, lists, bytes and every
other object, a nameless member for one whose name is no string. -/
inductive PyValue
  | none
  | bool (value : Bool)
  | integer (value : Int)
  | string (value : PyString)
  | tuple (elements : List PyValue)
  | mapping (members : List (Option PyString × PyValue))
  | unsupported

inductive PayloadContractError
  | valueUnsupported
  | stringNotNormalized
  | stringInvalidUnicode
  | memberNameInvalid
  | memberDuplicate
  | integerOutOfRange
deriving DecidableEq

/-! ## The server's encoder -/

section Server

variable (isNormalized : Text → Bool)

def characters : PyString → Option Text
  | [] => some []
  | .scalar c :: s => (characters s).map (c :: ·)
  | .surrogate _ :: _ => .none

def validateString (value : PyString) : Except PayloadContractError Text :=
  match characters value with
  | .none => .error .stringInvalidUnicode
  | .some text => if isNormalized text then .ok text else .error .stringNotNormalized

/-- `_utf16_sort_key`: the big-endian bytes of a name. -/
def utf16SortKey (name : Text) : List Nat :=
  (utf16 name).flatMap fun unit => [unit / 0x100, unit % 0x100]

/-- The checks of the member names, each against the names seen before it. -/
def validateNames {β : Type} (seenNames : List Text) :
    List (Option PyString × β) → Except PayloadContractError (List (Text × β))
  | [] => .ok []
  | (.none, _) :: _ => .error .memberNameInvalid
  | (.some name, value) :: members => do
    let text ← validateString isNormalized name
    if text ∈ seenNames then .error .memberDuplicate
    else
      let rest ← validateNames (text :: seenNames) members
      return (text, value) :: rest

mutual

def encodeInto : PyValue → Except PayloadContractError Text
  | .none => .ok ['n', 'u', 'l', 'l']
  | .bool true => .ok ['t', 'r', 'u', 'e']
  | .bool false => .ok ['f', 'a', 'l', 's', 'e']
  | .integer value =>
    if -maximumSafeInteger ≤ value ∧ value ≤ maximumSafeInteger then .ok (decimal value)
    else .error .integerOutOfRange
  | .string value => do
    let text ← validateString isNormalized value
    return quoted text
  | .tuple elements => do
    let pieces ← encodeElements elements
    return '[' :: [','].intercalate pieces ++ [']']
  | .mapping members => do
    let named ← validateNames isNormalized [] (encodeMembers members)
    let orderedMembers := named.insertionSort fun a b => utf16SortKey a.1 ≤ utf16SortKey b.1
    let pieces ← orderedMembers.mapM fun member => do
      let piece ← member.2
      return quoted member.1 ++ ':' :: piece
    return '{' :: [','].intercalate pieces ++ ['}']
  | .unsupported => .error .valueUnsupported

def encodeElements : List PyValue → Except PayloadContractError (List Text)
  | [] => .ok []
  | element :: elements => do
    let piece ← encodeInto element
    let pieces ← encodeElements elements
    return piece :: pieces

def encodeMembers : List (Option PyString × PyValue) →
    List (Option PyString × Except PayloadContractError Text)
  | [] => []
  | (name, value) :: members => (name, encodeInto value) :: encodeMembers members

end

def canonicalizeJsonValue (value : PyValue) : Except PayloadContractError (List UInt8) :=
  (encodeInto isNormalized value).map utf8

end Server

/-! ## The plugin's values -/

/-- A JavaScript string: its UTF-16 code units. -/
abbrev JsString := List UInt16

def isHighSurrogate (code : Nat) : Bool := 0xD800 ≤ code && code ≤ 0xDBFF

def isLowSurrogate (code : Nat) : Bool := 0xDC00 ≤ code && code ≤ 0xDFFF

/-- `utf8ByteLength`; `merge.ts` has a copy of its own. -/
def utf8ByteLength : JsString → Nat
  | [] => 0
  | [codeUnit] =>
    if codeUnit.toNat < 0x80 then 1 else if codeUnit.toNat < 0x800 then 2 else 3
  | codeUnit :: next :: rest =>
    if codeUnit.toNat < 0x80 then 1 + utf8ByteLength (next :: rest)
    else if codeUnit.toNat < 0x800 then 2 + utf8ByteLength (next :: rest)
    else if isHighSurrogate codeUnit.toNat && isLowSurrogate next.toNat then
      4 + utf8ByteLength rest
    else 3 + utf8ByteLength (next :: rest)

/-- A JavaScript number: an integer, the negative zero, or neither. -/
inductive JsNumber
  | integer (value : Int)
  | negativeZero
  | fractional
deriving DecidableEq

inductive ClosedJsonValue
  | null
  | boolean (value : Bool)
  | number (value : JsNumber)
  | string (value : JsString)
  | array (elements : List ClosedJsonValue)
  | record (members : List (JsString × ClosedJsonValue))

inductive PolicyVerificationError
  | policyValueUnsupported
deriving DecidableEq

/-! ## The plugin's encoder -/

section Plugin

variable (isNormalized : Text → Bool)

/-- The characters of a string without unpaired surrogates. -/
def codePoints : JsString → Option Text
  | [] => some []
  | unit :: rest =>
    if 0xD800 ≤ unit.toNat ∧ unit.toNat ≤ 0xDBFF then
      match rest with
      | [] => none
      | next :: rest =>
        if 0xDC00 ≤ next.toNat ∧ next.toNat ≤ 0xDFFF then
          (codePoints rest).map (Char.ofNat
            (0x10000 + (unit.toNat - 0xD800) * 0x400 + (next.toNat - 0xDC00)) :: ·)
        else none
    else if 0xDC00 ≤ unit.toNat ∧ unit.toNat ≤ 0xDFFF then none
    else (codePoints rest).map (Char.ofNat unit.toNat :: ·)

/-- `validateString`. -/
def validateJsString (value : JsString) : Except PolicyVerificationError Text :=
  match codePoints value with
  | none => .error .policyValueUnsupported
  | some text => if isNormalized text then .ok text else .error .policyValueUnsupported

/-- `encodeInto` on a number. -/
def encodeNumber : JsNumber → Except PolicyVerificationError Text
  | .integer value =>
    if maximumSafeInteger < value ∨ value < -maximumSafeInteger then
      .error .policyValueUnsupported
    else .ok (decimal value)
  | .negativeZero => .ok ['0']
  | .fractional => .error .policyValueUnsupported

mutual

/-- `encodeInto`. -/
def encodeJsInto : ClosedJsonValue → Except PolicyVerificationError Text
  | .null => .ok ['n', 'u', 'l', 'l']
  | .boolean true => .ok ['t', 'r', 'u', 'e']
  | .boolean false => .ok ['f', 'a', 'l', 's', 'e']
  | .number value => encodeNumber value
  | .string value => do
    let text ← validateJsString isNormalized value
    return quoted text
  | .array elements => do
    let pieces ← encodeJsElements elements
    return '[' :: [','].intercalate pieces ++ [']']
  | .record members => do
    if ¬(members.map Prod.fst).Nodup then .error .policyValueUnsupported
    else
      let ordered := (encodeJsMembers members).insertionSort fun left right =>
        left.1.map UInt16.toNat ≤ right.1.map UInt16.toNat
      let pieces ← ordered.mapM fun member => do
        let name ← validateJsString isNormalized member.1
        let piece ← member.2
        return quoted name ++ ':' :: piece
      return '{' :: [','].intercalate pieces ++ ['}']

def encodeJsElements : List ClosedJsonValue → Except PolicyVerificationError (List Text)
  | [] => .ok []
  | element :: elements => do
    let piece ← encodeJsInto element
    let pieces ← encodeJsElements elements
    return piece :: pieces

def encodeJsMembers : List (JsString × ClosedJsonValue) →
    List (JsString × Except PolicyVerificationError Text)
  | [] => []
  | (name, value) :: members => (name, encodeJsInto value) :: encodeJsMembers members

end

def canonicalJsonBytes (value : ClosedJsonValue) : Except PolicyVerificationError (List UInt8) :=
  (encodeJsInto isNormalized value).map utf8

end Plugin

/-! ## What the encoders write -/

section Words

variable {ε α β : Type} {f : α → Except ε β} {word : α → β}

theorem map_of_mapM {xs : List α} {ys : List β} (hm : xs.mapM f = .ok ys)
    (hw : ∀ x ∈ xs, ∀ y, f x = .ok y → y = word x) : ys = xs.map word := by
  induction xs generalizing ys with
  | nil =>
    cases hm
    rfl
  | cons x xs ih =>
    rw [List.mapM_cons] at hm
    obtain ⟨y, hh, hm⟩ := bind_ok hm
    obtain ⟨r, ht, hm⟩ := bind_ok hm
    cases hm
    rw [List.map_cons, hw x List.mem_cons_self y hh,
      ih ht fun z hp => hw z (List.mem_cons_of_mem _ hp)]

end Words

variable {isNormalized : Text → Bool}

/-! ### The server -/

mutual

def pyValue : Json → PyValue
  | .null => .none
  | .bool value => .bool value
  | .integer value => .integer value
  | .string value => .string (value.map .scalar)
  | .array elements => .tuple (pyElements elements)
  | .object members => .mapping (pyMembers members)

def pyElements : List Json → List PyValue
  | [] => []
  | element :: elements => pyValue element :: pyElements elements

def pyMembers : List (Text × Json) → List (Option PyString × PyValue)
  | [] => []
  | (name, value) :: members => (some (name.map .scalar), pyValue value) :: pyMembers members

end

theorem characters_scalar (t : Text) : characters (t.map .scalar) = some t := by
  induction t with
  | nil => rfl
  | cons c t ih => rw [List.map_cons, characters, ih, Option.map_some]

theorem validateString_scalar {t u : Text}
    (ha : validateString isNormalized (t.map .scalar) = .ok u) : u = t := by
  rw [validateString, characters_scalar] at ha
  simp only at ha
  split at ha
  · cases ha
    rfl
  · cases ha

theorem bytes_lt_iff (xs ys : List Nat) : (xs.flatMap fun u => [u / 0x100, u % 0x100]) <
      (ys.flatMap fun u => [u / 0x100, u % 0x100]) ↔ xs < ys := by
  induction xs generalizing ys with
  | nil => cases ys <;> simp
  | cons x xs ih =>
    cases ys with
    | nil => simp
    | cons y ys =>
      have hl : x / 0x100 < y / 0x100 ∨ x / 0x100 = y / 0x100 ∧ x % 0x100 < y % 0x100 ↔ x < y := by
        omega
      have he : x / 0x100 = y / 0x100 ∧ x % 0x100 = y % 0x100 ↔ x = y := by omega
      simp only [List.flatMap_cons, List.cons_append, List.nil_append, List.cons_lt_cons_iff, ih]
      rw [← hl, ← he]
      tauto

theorem utf16SortKey_le_iff (s t : Text) : utf16SortKey s ≤ utf16SortKey t ↔ utf16 s ≤ utf16 t := by
  rw [← not_lt, ← not_lt]
  exact not_congr (bytes_lt_iff (utf16 t) (utf16 s))

theorem validateNames_scalar {β : Type} {sn : List Text} {me : List (Text × β)}
    {n : List (Text × β)} (ha : validateNames isNormalized sn
      (me.map fun m => (some (m.1.map .scalar), m.2)) = .ok n) : n = me := by
  induction me generalizing sn n with
  | nil =>
    cases ha
    rfl
  | cons m me ih =>
    rw [List.map_cons, validateNames] at ha
    obtain ⟨t, hv, ha⟩ := bind_ok ha
    have he := validateString_scalar hv
    subst he
    split at ha
    · cases ha
    · obtain ⟨r, hl, ha⟩ := bind_ok ha
      cases ha
      rw [ih hl]

theorem encodeMembers_pyMembers (me : List (Text × Json)) :
    encodeMembers isNormalized (pyMembers me) = (me.map fun m =>
      (m.1, encodeInto isNormalized (pyValue m.2))).map fun m =>
        (some (m.1.map .scalar), m.2) := by
  induction me with
  | nil => rfl
  | cons m me ih => rw [pyMembers, encodeMembers, ih, List.map_cons, List.map_cons]

theorem sortByKey_map {β γ : Type} (g : β → γ) (me : List (Text × β)) :
    (me.map fun m => (m.1, g m.2)).insertionSort (fun a b => utf16SortKey a.1 ≤ utf16SortKey b.1) =
      (sortMembers me).map fun m => (m.1, g m.2) :=
  (List.map_insertionSort (fun a b : Text × β => utf16 a.1 ≤ utf16 b.1)
    (fun a b : Text × γ => utf16SortKey a.1 ≤ utf16SortKey b.1) _ me
    fun a _ b _ => (utf16SortKey_le_iff a.1 b.1).symm).symm

theorem pieces_canonical {ε : Type} {me : List (Text × Json)}
    {w : Text × Json → Except ε Text} {p : List Text}
    (hwr : (sortMembers me).mapM w = .ok p)
    (hw : ∀ m ∈ me, ∀ pi, w m = .ok pi → pi = quoted m.1 ++ ':' :: m.2.canonical) :
    '{' :: [','].intercalate p ++ ['}'] = canonical (.object me) := by
  rw [canonical_object, map_of_mapM hwr fun m hp =>
    hw m ((List.mem_insertionSort _).mp hp)]

mutual

theorem encodeInto_pyValue : ∀ (v : Json) {text : Text},
    encodeInto isNormalized (pyValue v) = .ok text → text = v.canonical
  | .null, text, wrote => by
    cases wrote
    rfl
  | .bool b, text, wrote => by
    cases b <;> cases wrote <;> rfl
  | .integer i, text, wrote => by
    rw [pyValue, encodeInto] at wrote
    split at wrote
    · cases wrote
      rfl
    · cases wrote
  | .string s, text, wrote => by
    rw [pyValue, encodeInto] at wrote
    obtain ⟨t, valid, wrote⟩ := bind_ok wrote
    cases wrote
    rw [validateString_scalar valid]
    rfl
  | .array xs, text, wrote => by
    rw [pyValue, encodeInto] at wrote
    obtain ⟨pieces, encoded, wrote⟩ := bind_ok wrote
    cases wrote
    rw [encodeElements_pyElements xs encoded, canonical_array]
  | .object ms, text, wrote => by
    rw [pyValue, encodeInto, encodeMembers_pyMembers] at wrote
    obtain ⟨named, valid, wrote⟩ := bind_ok wrote
    rw [validateNames_scalar valid] at wrote
    obtain ⟨pieces, ordered, wrote⟩ := bind_ok wrote
    rw [sortByKey_map (fun v => encodeInto isNormalized (pyValue v)), List.mapM_map] at ordered
    cases wrote
    refine pieces_canonical ordered fun m present piece written => ?_
    obtain ⟨text, encoded, written⟩ := bind_ok written
    cases written
    rw [encodeValues_pyMembers ms m present encoded]

theorem encodeElements_pyElements : ∀ (xs : List Json) {pieces : List Text},
    encodeElements isNormalized (pyElements xs) = .ok pieces → pieces = xs.map canonical
  | [], pieces, wrote => by
    cases wrote
    rfl
  | x :: xs, pieces, wrote => by
    rw [pyElements, encodeElements] at wrote
    obtain ⟨piece, first, wrote⟩ := bind_ok wrote
    obtain ⟨later, rest, wrote⟩ := bind_ok wrote
    cases wrote
    rw [encodeInto_pyValue x first, encodeElements_pyElements xs rest, List.map_cons]

theorem encodeValues_pyMembers : ∀ (ms : List (Text × Json)), ∀ m ∈ ms, ∀ {text : Text},
    encodeInto isNormalized (pyValue m.2) = .ok text → text = m.2.canonical
  | [] => by simp
  | (name, value) :: ms => by
    intro m present text wrote
    rcases List.mem_cons.mp present with same | later
    · rw [same] at wrote ⊢
      exact encodeInto_pyValue value wrote
    · exact encodeValues_pyMembers ms m later wrote

end

/-! ### The plugin -/

def jsString (t : Text) : JsString := (utf16 t).map UInt16.ofNat

mutual

def jsValue : Json → ClosedJsonValue
  | .null => .null
  | .bool value => .boolean value
  | .integer value => .number (.integer value)
  | .string value => .string (jsString value)
  | .array elements => .array (jsElements elements)
  | .object members => .record (jsMembers members)

def jsElements : List Json → List ClosedJsonValue
  | [] => []
  | element :: elements => jsValue element :: jsElements elements

def jsMembers : List (Text × Json) → List (JsString × ClosedJsonValue)
  | [] => []
  | (name, value) :: members => (jsString name, jsValue value) :: jsMembers members

end

theorem scalar_range (c : Char) : c.toNat < 0xD800 ∨ 0xDFFF < c.toNat ∧ c.toNat < 0x110000 :=
  c.valid

theorem utf16Units_bounded (c : Char) : ∀ u ∈ utf16Units c, u < 0x10000 := by
  have hr := scalar_range c
  intro u hp
  unfold utf16Units at hp
  split at hp
  next hb =>
    rw [List.mem_singleton] at hp
    omega
  next =>
    simp only [List.mem_cons, List.not_mem_nil, or_false] at hp
    omega

theorem codePoints_basic {u : UInt16} {r : JsString} (hr : u.toNat < 0xD800 ∨ 0xDFFF < u.toNat) :
    codePoints (u :: r) = (codePoints r).map (Char.ofNat u.toNat :: ·) := by
  rw [codePoints.eq_def]
  simp only
  rw [if_neg (by omega), if_neg (by omega)]

theorem codePoints_pair {u n : UInt16} {r : JsString} (hh : 0xD800 ≤ u.toNat ∧ u.toNat ≤ 0xDBFF)
    (low : 0xDC00 ≤ n.toNat ∧ n.toNat ≤ 0xDFFF) :
    codePoints (u :: n :: r) = (codePoints r).map (Char.ofNat
      (0x10000 + (u.toNat - 0xD800) * 0x400 + (n.toNat - 0xDC00)) :: ·) := by
  rw [codePoints.eq_def]
  simp only
  rw [if_pos hh, if_pos low]

theorem codePoints_jsString (t : Text) : codePoints (jsString t) = some t := by
  induction t with
  | nil => rfl
  | cons c t ih =>
    have hs : jsString (c :: t) = (utf16Units c).map UInt16.ofNat ++ jsString t := by
      rw [jsString, utf16, List.flatMap_cons, List.map_append]
      rfl
    have hr := scalar_range c
    rw [hs, utf16Units]
    split
    next hb =>
      have hu := UInt16.toNat_ofNat_of_lt' hb
      rw [List.map_singleton, List.singleton_append, codePoints_basic (by omega), hu, ih,
        Option.map_some, Char.ofNat_toNat]
    next ha =>
      have hh : (UInt16.ofNat (0xD800 + (c.toNat - 0x10000) / 0x400)).toNat =
        0xD800 + (c.toNat - 0x10000) / 0x400 := UInt16.toNat_ofNat_of_lt' (show _ < 0x10000 by omega)
      have low : (UInt16.ofNat (0xDC00 + (c.toNat - 0x10000) % 0x400)).toNat =
        0xDC00 + (c.toNat - 0x10000) % 0x400 := UInt16.toNat_ofNat_of_lt' (show _ < 0x10000 by omega)
      have hw : 0x10000 + (0xD800 + (c.toNat - 0x10000) / 0x400 - 0xD800) * 0x400 +
          (0xDC00 + (c.toNat - 0x10000) % 0x400 - 0xDC00) = c.toNat := by omega
      rw [List.map_cons, List.map_singleton, List.cons_append, List.singleton_append,
        codePoints_pair (by omega) (by omega), hh, low, ih, Option.map_some, hw,
        Char.ofNat_toNat]

theorem validateJsString_jsString {t u : Text}
    (ha : validateJsString isNormalized (jsString t) = .ok u) : u = t := by
  rw [validateJsString, codePoints_jsString] at ha
  simp only at ha
  split at ha
  · cases ha
    rfl
  · cases ha

theorem toNat_jsString (t : Text) : (jsString t).map UInt16.toNat = utf16 t := by
  rw [jsString, List.map_map]
  refine (List.map_congr_left fun u hp => ?_).trans (List.map_id _)
  obtain ⟨c, _, hw⟩ := List.mem_flatMap.mp hp
  exact UInt16.toNat_ofNat_of_lt' (utf16Units_bounded c u hw)

theorem encodeJsMembers_jsMembers (me : List (Text × Json)) :
    encodeJsMembers isNormalized (jsMembers me) = me.map fun m =>
      (jsString m.1, encodeJsInto isNormalized (jsValue m.2)) := by
  induction me with
  | nil => rfl
  | cons m me ih => rw [jsMembers, encodeJsMembers, ih, List.map_cons]

theorem sortByUnits_map {β γ : Type} (g : β → γ) (me : List (Text × β)) :
    (me.map fun m => (jsString m.1, g m.2)).insertionSort
        (fun a b => a.1.map UInt16.toNat ≤ b.1.map UInt16.toNat) =
      (sortMembers me).map fun m => (jsString m.1, g m.2) :=
  (List.map_insertionSort (fun a b : Text × β => utf16 a.1 ≤ utf16 b.1)
    (fun a b : JsString × γ => a.1.map UInt16.toNat ≤ b.1.map UInt16.toNat) _ me
    fun a _ b _ => by rw [toNat_jsString, toNat_jsString]).symm

mutual

theorem encodeJsInto_jsValue : ∀ (v : Json) {text : Text},
    encodeJsInto isNormalized (jsValue v) = .ok text → text = v.canonical
  | .null, text, wrote => by
    cases wrote
    rfl
  | .bool b, text, wrote => by
    cases b <;> cases wrote <;> rfl
  | .integer i, text, wrote => by
    rw [jsValue, encodeJsInto, encodeNumber] at wrote
    split at wrote
    · cases wrote
    · cases wrote
      rfl
  | .string s, text, wrote => by
    rw [jsValue, encodeJsInto] at wrote
    obtain ⟨t, valid, wrote⟩ := bind_ok wrote
    cases wrote
    rw [validateJsString_jsString valid]
    rfl
  | .array xs, text, wrote => by
    rw [jsValue, encodeJsInto] at wrote
    obtain ⟨pieces, encoded, wrote⟩ := bind_ok wrote
    cases wrote
    rw [encodeJsElements_jsElements xs encoded, canonical_array]
  | .object ms, text, wrote => by
    rw [jsValue, encodeJsInto, encodeJsMembers_jsMembers] at wrote
    split at wrote
    · cases wrote
    · obtain ⟨pieces, ordered, wrote⟩ := bind_ok wrote
      rw [sortByUnits_map (fun v => encodeJsInto isNormalized (jsValue v)), List.mapM_map]
        at ordered
      cases wrote
      refine pieces_canonical ordered fun m present piece written => ?_
      obtain ⟨name, valid, written⟩ := bind_ok written
      obtain ⟨text, encoded, written⟩ := bind_ok written
      cases written
      rw [validateJsString_jsString valid, encodeJsValues_jsMembers ms m present encoded]

theorem encodeJsElements_jsElements : ∀ (xs : List Json) {pieces : List Text},
    encodeJsElements isNormalized (jsElements xs) = .ok pieces → pieces = xs.map canonical
  | [], pieces, wrote => by
    cases wrote
    rfl
  | x :: xs, pieces, wrote => by
    rw [jsElements, encodeJsElements] at wrote
    obtain ⟨piece, first, wrote⟩ := bind_ok wrote
    obtain ⟨later, rest, wrote⟩ := bind_ok wrote
    cases wrote
    rw [encodeJsInto_jsValue x first, encodeJsElements_jsElements xs rest, List.map_cons]

theorem encodeJsValues_jsMembers : ∀ (ms : List (Text × Json)), ∀ m ∈ ms, ∀ {text : Text},
    encodeJsInto isNormalized (jsValue m.2) = .ok text → text = m.2.canonical
  | [] => by simp
  | (name, value) :: ms => by
    intro m present text wrote
    rcases List.mem_cons.mp present with same | later
    · rw [same] at wrote ⊢
      exact encodeJsInto_jsValue value wrote
    · exact encodeJsValues_jsMembers ms m later wrote

end

/-! ### Bytes -/

end PersonalOs.ExclusionPolicy
