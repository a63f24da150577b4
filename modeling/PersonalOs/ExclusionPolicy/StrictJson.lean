import PersonalOs.ExclusionPolicy.CanonicalJson

/-!
# The closed JSON parser

`strict-json.ts`: the plugin's recursive-descent parser for policy responses. It takes null,
booleans, safe integers, strings, arrays and objects, and refuses everything else. An object under
construction is what JavaScript makes of the assignments to it: the members it owns, and whether the
accessor `__proto__` of `Object.prototype` is still found on it.
-/

namespace PersonalOs.ExclusionPolicy

open Json

/-! ## Objects -/

def unit (c : Char) : UInt16 := UInt16.ofNat c.toNat

/-- `"__proto__"`. -/
def protoName : JsString := "__proto__".toList.map unit

/-- A parsed value, and whether `__proto__`, looked up on it, is the accessor of
`Object.prototype`. -/
structure ParsedValue where
  value : ClosedJsonValue
  findsAccessor : Bool

/-- An object under construction. -/
structure JsObject where
  members : List (JsString × ClosedJsonValue)
  findsAccessor : Bool

namespace JsObject

/-- `{}`. -/
def empty : JsObject := ⟨[], true⟩

def toParsedValue (object : JsObject) : ParsedValue :=
  ⟨.record object.members, object.findsAccessor⟩

/-- `Object.prototype.hasOwnProperty.call(members, name)`. -/
def hasOwnProperty (object : JsObject) (name : JsString) : Bool :=
  (object.members.map Prod.fst).contains name

/-- `members[name] = value` for a name the object does not own. The accessor takes an object or
null as the new prototype and ignores every other value; where it is not found the member is the
object's own. -/
def setMember (object : JsObject) (name : JsString) (assigned : ParsedValue) : JsObject :=
  if name = protoName ∧ object.findsAccessor then
    match assigned.value with
    | .null | .array _ | .record _ => ⟨object.members, assigned.findsAccessor⟩
    | _ => object
  else ⟨object.members ++ [(name, assigned.value)], object.findsAccessor⟩

end JsObject

/-! ## Scalars -/

def maximumNestingDepth : Nat := 64

def isWhitespace (u : UInt16) : Bool :=
  u = unit ' ' || u = unit '\t' || u = unit '\n' || u = unit '\r'

def skipWhitespace (s : JsString) : JsString := s.dropWhile isWhitespace

def consume (expected : Text) (s : JsString) : Option JsString :=
  if expected.map unit <+: s then some (s.drop expected.length) else none

def isDigitUnit (u : UInt16) : Bool := unit '0' ≤ u && u ≤ unit '9'

/-- `Number.parseInt(character, 16)` of a character that passes `isHexDigit`. -/
def hexDigitValue (u : UInt16) : Option Nat :=
  if isDigitUnit u then some (u.toNat - (unit '0').toNat)
  else if unit 'a' ≤ u ∧ u ≤ unit 'f' then some (u.toNat - (unit 'a').toNat + 10)
  else if unit 'A' ≤ u ∧ u ≤ unit 'F' then some (u.toNat - (unit 'A').toNat + 10)
  else none

def readHex4 (a b c d : UInt16) : Option Nat := do
  let a ← hexDigitValue a
  let b ← hexDigitValue b
  let c ← hexDigitValue c
  let d ← hexDigitValue d
  return ((a * 16 + b) * 16 + c) * 16 + d

/-- `SHORT_ESCAPES`. -/
def shortEscape (escape : UInt16) : Option UInt16 :=
  if escape = unit '"' then some (unit '"')
  else if escape = unit '\\' then some (unit '\\')
  else if escape = unit '/' then some (unit '/')
  else if escape = unit 'b' then some 0x08
  else if escape = unit 'f' then some 0x0C
  else if escape = unit 'n' then some 0x0A
  else if escape = unit 'r' then some 0x0D
  else if escape = unit 't' then some 0x09
  else none

/-- Units before what is read next. -/
def prepend (pieces : JsString) (read : JsString × JsString) : JsString × JsString :=
  (pieces ++ read.1, read.2)

/-- `parseString` behind the opening quote: the string and what follows it. -/
def parseString : JsString → Option (JsString × JsString)
  | [] => none
  | character :: rest =>
    if character = unit '"' then some ([], rest)
    else if character = unit '\\' then
      match rest with
      | [] => none
      | escape :: rest =>
        if escape = unit 'u' then
          match rest with
          | a :: b :: c :: d :: rest =>
            match readHex4 a b c d with
            | none => none
            | some first =>
              if isHighSurrogate first then
                -- a high surrogate must be followed by its low half
                match rest with
                | slash :: u :: a :: b :: c :: d :: rest =>
                  if slash = unit '\\' ∧ u = unit 'u' then
                    match readHex4 a b c d with
                    | none => none
                    | some second =>
                      if isLowSurrogate second then
                        (parseString rest).map
                          (prepend [UInt16.ofNat first, UInt16.ofNat second])
                      else none
                  else none
                | _ => none
              else if isLowSurrogate first then none
              else (parseString rest).map (prepend [UInt16.ofNat first])
          | _ => none
        else
          match shortEscape escape with
          | none => none
          | some short => (parseString rest).map (prepend [short])
    else if character.toNat < 0x20 then none
    else if isHighSurrogate character.toNat || isLowSurrogate character.toNat then
      match rest with
      | next :: rest =>
        if isHighSurrogate character.toNat && isLowSurrogate next.toNat then
          (parseString rest).map (prepend [character, next])
        else none
      | [] => none
    else (parseString rest).map (prepend [character])

/-- The double nearest to a natural number, with ties to even; past the largest double the exponent
goes on. -/
def nearestDouble (n : Nat) : Nat :=
  if n < 2 ^ 53 then n
  else
    let spacing := 2 ^ (Nat.log2 n - 52)
    let significand := n / spacing
    if 2 * (n % spacing) < spacing ∨ 2 * (n % spacing) = spacing ∧ significand % 2 = 0 then
      significand * spacing
    else (significand + 1) * spacing

/-- The number of decimal digits. -/
def digitsValue (digits : JsString) : Nat :=
  digits.foldl (fun value digit => value * 10 + (digit.toNat - (unit '0').toNat)) 0

/-- `Number` of a decimal, where it is a safe integer. -/
def safeInteger (negative : Bool) (digits : JsString) : Option JsNumber :=
  let magnitude : Int := nearestDouble (digitsValue digits)
  if maximumSafeInteger < magnitude then none
  else if negative then
    some (if magnitude = 0 then .negativeZero else .integer (-magnitude))
  else some (.integer magnitude)

def digitRun : JsString → JsString × JsString
  | [] => ([], [])
  | first :: rest =>
    if first = unit '0' then ([first], rest) else (first :: rest).span isDigitUnit

/-- Floats, exponents and leading zeros stay outside the closed grammar. -/
def continuesNumber (s : JsString) : Bool :=
  match s with
  | [] => false
  | next :: _ => next = unit '.' || next = unit 'e' || next = unit 'E' || isDigitUnit next

/-- `parseInteger` behind the sign. -/
def parseMagnitude (negative : Bool) (s : JsString) : Option (JsNumber × JsString) :=
  match s with
  | [] => none
  | firstDigit :: _ =>
    if isDigitUnit firstDigit then
      if continuesNumber (digitRun s).2 then none
      else (safeInteger negative (digitRun s).1).map fun value => (value, (digitRun s).2)
    else none

def parseInteger : JsString → Option (JsNumber × JsString)
  | [] => none
  | first :: rest =>
    if first = unit '-' then parseMagnitude true rest else parseMagnitude false (first :: rest)

/-! ## Values -/

section Runtime

variable (hasOwnProperty : JsObject → JsString → Bool)
  (setMember : JsObject → JsString → ParsedValue → JsObject)

section Level

variable (nested : JsString → Option (ParsedValue × JsString))

/-- The rounds of `parseObject`, each of which takes a member. -/
def parseMembers : Nat → JsObject → JsString → Option (JsObject × JsString)
  | 0, _, _ => none
  | rounds + 1, members, s =>
    match skipWhitespace s with
    | [] => none
    | quote :: rest =>
      if quote = unit '"' then do
        let (name, rest) ← parseString rest
        if hasOwnProperty members name then none
        else
          match skipWhitespace rest with
          | [] => none
          | colon :: rest =>
            if colon = unit ':' then do
              let (value, rest) ← nested (skipWhitespace rest)
              let members := setMember members name value
              match skipWhitespace rest with
              | [] => none
              | separator :: rest =>
                if separator = unit ',' then parseMembers rounds members rest
                else if separator = unit '}' then some (members, rest)
                else none
            else none
      else none

/-- `parseObject` behind the opening brace. -/
def parseObject (s : JsString) : Option (JsObject × JsString) :=
  match skipWhitespace s with
  | [] => none
  | next :: rest =>
    if next = unit '}' then some (.empty, rest)
    else parseMembers hasOwnProperty setMember nested s.length .empty (next :: rest)

/-- The rounds of `parseArray`, each of which takes an element. -/
def parseElements : Nat → JsString → Option (List ClosedJsonValue × JsString)
  | 0, _ => none
  | rounds + 1, s => do
    let (element, rest) ← nested (skipWhitespace s)
    match skipWhitespace rest with
    | [] => none
    | separator :: rest =>
      if separator = unit ',' then
        (parseElements rounds rest).map fun later => (element.value :: later.1, later.2)
      else if separator = unit ']' then some ([element.value], rest)
      else none

/-- `parseArray` behind the opening bracket. -/
def parseArray (s : JsString) : Option (List ClosedJsonValue × JsString) :=
  match skipWhitespace s with
  | [] => none
  | next :: rest =>
    if next = unit ']' then some ([], rest) else parseElements nested s.length (next :: rest)

/-- `parseValue`, with the reader of the values inside the brackets. -/
def parseLevel (s : JsString) : Option (ParsedValue × JsString) :=
  match s with
  | [] => none
  | character :: rest =>
    if character = unit '{' then
      (parseObject hasOwnProperty setMember nested rest).map fun read =>
        (read.1.toParsedValue, read.2)
    else if character = unit '[' then
      (parseArray nested rest).map fun read => (⟨.array read.1, true⟩, read.2)
    else if character = unit '"' then
      (parseString rest).map fun read => (⟨.string read.1, true⟩, read.2)
    else if character = unit 't' then
      (consume "true".toList s).map fun rest => (⟨.boolean true, true⟩, rest)
    else if character = unit 'f' then
      (consume "false".toList s).map fun rest => (⟨.boolean false, true⟩, rest)
    else if character = unit 'n' then
      (consume "null".toList s).map fun rest => (⟨.null, false⟩, rest)
    else if character = unit '-' || isDigitUnit character then
      (parseInteger s).map fun read => (⟨.number read.1, true⟩, read.2)
    else none

end Level

/-- `parseValue` where so many levels are left, this one included. -/
def parseValue : Nat → JsString → Option (ParsedValue × JsString)
  | 0 => fun _ => none
  | levels + 1 => parseLevel hasOwnProperty setMember (parseValue levels)

/-- `parseClosedJson` without its byte bound. -/
def parseText (s : JsString) : Option ClosedJsonValue := do
  let (parsed, rest) ← parseValue hasOwnProperty setMember maximumNestingDepth (skipWhitespace s)
  if skipWhitespace rest = [] then some parsed.value else none

end Runtime

/-! ## The whole text -/

inductive PolicyResponseError
  | policyResponseOversized
  | policyResponseMalformed
deriving DecidableEq

def parseClosedJson (text : JsString) (maximumBytes : Nat) :
    Except PolicyResponseError ClosedJsonValue :=
  if maximumBytes < utf8ByteLength text then .error .policyResponseOversized
  else
    match parseText JsObject.hasOwnProperty JsObject.setMember text with
    | none => .error .policyResponseMalformed
    | some value => .ok value

end PersonalOs.ExclusionPolicy
