import PersonalOs.ExclusionPolicy.CanonicalJson

/-!
# The JSON decoder

`json.loads` with the hook that refuses repeated names: what the decoder of the standard library
makes of a text. Beyond the JSON grammar it takes `NaN` and the infinities and keeps lone
surrogates; it refuses integers of more digits than the interpreter converts and values nested
deeper than it recurses.
-/

namespace PersonalOs.Recovery

open Json Readable
open ExclusionPolicy (CodePoint PyString)

/-! ## Values -/

deriving instance DecidableEq for ExclusionPolicy.CodePoint

/-- A decoded value. A float is kept as its text. -/
inductive JsonValue
  | null
  | bool (value : Bool)
  | integer (value : Int)
  | float (text : Text)
  | string (value : PyString)
  | array (elements : List JsonValue)
  | object (members : List (PyString × JsonValue))

inductive DecodeError
  | malformed
  | duplicateKey
  | integerTooLong
  | tooDeep
deriving DecidableEq

def pyString (t : Text) : PyString := t.map .scalar

/-! ## Strings -/

def hexDigit? (c : Char) : Option Nat :=
  if '0' ≤ c ∧ c ≤ '9' then some (c.toNat - '0'.toNat)
  else if 'a' ≤ c ∧ c ≤ 'f' then some (c.toNat - 'a'.toNat + 10)
  else if 'A' ≤ c ∧ c ≤ 'F' then some (c.toNat - 'A'.toNat + 10)
  else none

/-- The unit of four hexadecimal digits. -/
def unit? (a b c d : Char) : Option Nat := do
  let a ← hexDigit? a
  let b ← hexDigit? b
  let c ← hexDigit? c
  let d ← hexDigit? d
  return ((a * 16 + b) * 16 + c) * 16 + d

def ofUnit (unit : Nat) : CodePoint :=
  if 0xD800 ≤ unit ∧ unit < 0xE000 then .surrogate (Fin.ofNat 0x800 (unit - 0xD800))
  else .scalar (Char.ofNat unit)

def shortEscape? : Char → Option Char
  | '"' => some '"'
  | '\\' => some '\\'
  | '/' => some '/'
  | 'b' => some (Char.ofNat 0x08)
  | 'f' => some (Char.ofNat 0x0C)
  | 'n' => some '\n'
  | 'r' => some '\r'
  | 't' => some '\t'
  | _ => none

/-- `scanstring` after the opening quote, before surrogates are joined. -/
def readUnits : Text → Except DecodeError (PyString × Text)
  | [] => .error .malformed
  | '"' :: r => .ok ([], r)
  | '\\' :: 'u' :: a :: b :: c :: d :: r =>
    match unit? a b c d with
    | none => .error .malformed
    | some unit => do
      let (s, r) ← readUnits r
      return (ofUnit unit :: s, r)
  | '\\' :: c :: r =>
    match shortEscape? c with
    | none => .error .malformed
    | some c => do
      let (s, r) ← readUnits r
      return (.scalar c :: s, r)
  | c :: r =>
    if c.toNat < 0x20 ∨ c = '\\' then .error .malformed
    else do
      let (s, r) ← readUnits r
      return (.scalar c :: s, r)

/-- A high surrogate and the low one that follows it are one character. -/
def joinSurrogates : PyString → PyString
  | [] => []
  | .surrogate high :: .surrogate low :: s =>
    if high.val < 0x400 ∧ 0x400 ≤ low.val then
      .scalar (Char.ofNat (0x10000 + high.val * 0x400 + (low.val - 0x400))) :: joinSurrogates s
    else .surrogate high :: joinSurrogates (.surrogate low :: s)
  | c :: s => c :: joinSurrogates s

/-- `scanstring`. -/
def readString (t : Text) : Except DecodeError (PyString × Text) := do
  let (s, r) ← readUnits t
  return (joinSurrogates s, r)

/-! ## Numbers -/

/-- `sys.get_int_max_str_digits()`. -/
def maximumIntegerDigits : Nat := 4300

def digitSpan (t : Text) : Text × Text := (t.takeWhile Char.isDigit, t.dropWhile Char.isDigit)

/-- The fraction that may follow the integer part. -/
def readFraction : Text → Text × Text
  | '.' :: r =>
    if (digitSpan r).1 = [] then ([], '.' :: r)
    else ('.' :: (digitSpan r).1, (digitSpan r).2)
  | r => ([], r)

def exponentSign : Text → Text × Text
  | '+' :: r => (['+'], r)
  | '-' :: r => (['-'], r)
  | r => ([], r)

/-- The exponent that may follow. -/
def readExponent : Text → Text × Text
  | c :: r =>
    let (sign, digits) := exponentSign r
    if (c = 'e' ∨ c = 'E') ∧ (digitSpan digits).1 ≠ [] then
      (c :: sign ++ (digitSpan digits).1, (digitSpan digits).2)
    else ([], c :: r)
  | [] => ([], [])

/-- `_match_number` behind the sign, its integer part already split off. -/
def finishNumber (negative : Bool) (digits r : Text) : Except DecodeError (JsonValue × Text) :=
  let (fraction, r') := readFraction r
  let (exponent, r'') := readExponent r'
  if fraction = [] ∧ exponent = [] then
    if maximumIntegerDigits < digits.length then .error .integerTooLong
    else
      let magnitude : Int := Nat.ofDigitChars 10 digits 0
      .ok (.integer (if negative then -magnitude else magnitude), r'')
  else .ok (.float ((if negative then ['-'] else []) ++ digits ++ fraction ++ exponent), r'')

/-- A zero stands alone, every other number begins with a digit that is none. -/
def readMagnitude (negative : Bool) : Text → Except DecodeError (JsonValue × Text)
  | '0' :: r => finishNumber negative ['0'] r
  | c :: r =>
    if c.isDigit then finishNumber negative (c :: (digitSpan r).1) (digitSpan r).2
    else .error .malformed
  | [] => .error .malformed

def readNumber : Text → Except DecodeError (JsonValue × Text)
  | '-' :: r => readMagnitude true r
  | r => readMagnitude false r

/-! ## Containers -/

def isBlank (c : Char) : Bool := c = ' ' || c = '\t' || c = '\n' || c = '\r'

def skipBlanks (t : Text) : Text := t.dropWhile isBlank

section Items

variable {α : Type} (item : Text → Except DecodeError (α × Text)) (close : Char)

/-- What follows an item: a comma and further items, or the closing bracket. -/
def readMore (further : Text → Except DecodeError (List α × Text)) (r : Text) :
    Except DecodeError (List α × Text) :=
  match skipBlanks r with
  | ',' :: r => further (skipBlanks r)
  | c :: r => if c = close then .ok ([], r) else .error .malformed
  | [] => .error .malformed

/-- Items up to the closing bracket, at most as many as there are characters left. -/
def readItems : Nat → Text → Except DecodeError (List α × Text)
  | 0, _ => .error .malformed
  | bound + 1, t => do
    let (x, r) ← item t
    let (xs, r) ← readMore close (readItems bound) r
    return (x :: xs, r)

/-- What stands between the brackets of a container. -/
def readBlock (t : Text) : Except DecodeError (List α × Text) :=
  match skipBlanks t with
  | [] => .error .malformed
  | c :: r => if c = close then .ok ([], r) else readItems item close (c :: r).length (c :: r)

end Items

variable (nested : Text → Except DecodeError (JsonValue × Text))

/-- A name, a colon and a value. -/
def readMember : Text → Except DecodeError ((PyString × JsonValue) × Text)
  | '"' :: r => do
    let (name, r) ← readString r
    match skipBlanks r with
    | ':' :: r => do
      let (value, r) ← nested (skipBlanks r)
      return ((name, value), r)
    | _ => throw .malformed
  | _ => .error .malformed

def rejectDuplicateKeys (members : List (PyString × JsonValue)) : Except DecodeError JsonValue :=
  if (members.map Prod.fst).Nodup then .ok (.object members) else .error .duplicateKey

/-- `scan_once`, with the reader of the values inside the brackets. -/
def readLevel : Text → Except DecodeError (JsonValue × Text)
  | '"' :: r => do
    let (s, r) ← readString r
    return (.string s, r)
  | '[' :: r => do
    let (xs, r) ← readBlock nested ']' r
    return (.array xs, r)
  | '{' :: r => do
    let (ms, r) ← readBlock (readMember nested) '}' r
    let value ← rejectDuplicateKeys ms
    return (value, r)
  | 'n' :: 'u' :: 'l' :: 'l' :: r => .ok (.null, r)
  | 't' :: 'r' :: 'u' :: 'e' :: r => .ok (.bool true, r)
  | 'f' :: 'a' :: 'l' :: 's' :: 'e' :: r => .ok (.bool false, r)
  | 'N' :: 'a' :: 'N' :: r => .ok (.float "NaN".toList, r)
  | 'I' :: 'n' :: 'f' :: 'i' :: 'n' :: 'i' :: 't' :: 'y' :: r => .ok (.float "inf".toList, r)
  | '-' :: 'I' :: 'n' :: 'f' :: 'i' :: 'n' :: 'i' :: 't' :: 'y' :: r =>
    .ok (.float "-inf".toList, r)
  | r => readNumber r

/-- The values nested within so many brackets. -/
def readValue : Nat → Text → Except DecodeError (JsonValue × Text)
  | 0 => readLevel fun _ => .error .tooDeep
  | depth + 1 => readLevel (readValue depth)

/-- `json.loads` in an interpreter that recurses to a depth. -/
def loads (recursionLimit : Nat) (t : Text) : Except DecodeError JsonValue := do
  let (value, r) ← readValue recursionLimit (skipBlanks t)
  if skipBlanks r = [] then return value else throw .malformed

/-! ## Reading strings back -/

namespace DecoderLemmas

theorem readUnits_marked {c : Char} (marked : c = '"' ∨ c = '\\') (t : Text) :
    readUnits ('\\' :: c :: t) = do
      let (s, r) ← readUnits t
      return (.scalar c :: s, r) := by
  rcases marked with rfl | rfl <;> rfl

theorem readUnits_control (t : Text) : ∀ n < 0x20, readUnits (controlEscape n ++ t) = do
      let (s, r) ← readUnits t
      return (.scalar (Char.ofNat n) :: s, r) := by
  intro n hb
  interval_cases n <;> rfl

theorem readUnits_literal {c : Char} (hq : c ≠ '"') (hs : c ≠ '\\')
    (hp : ¬c.toNat < 0x20) (t : Text) :
    readUnits (c :: t) = do
      let (s, r) ← readUnits t
      return (.scalar c :: s, r) := by
  rw [readUnits.eq_def]
  split
  next is => cases is
  next is => exact absurd (List.cons.inj is).1 hq
  next is => exact absurd (List.cons.inj is).1 hs
  next is => exact absurd (List.cons.inj is).1 hs
  next is =>
    obtain ⟨rfl, rfl⟩ := List.cons.inj is
    rw [if_neg (by simp [hp, hs])]

theorem readUnits_escape (c : Char) (t : Text) :
    readUnits (escape c ++ t) = do
      let (s, r) ← readUnits t
      return (.scalar c :: s, r) := by
  unfold escape
  split
  next hm => exact readUnits_marked hm t
  next hu =>
    split
    next hc =>
      rw [readUnits_control t c.toNat hc, Char.ofNat_toNat]
    next hp =>
      rw [not_or] at hu
      exact readUnits_literal hu.1 hu.2 hp t

theorem joinSurrogates_pyString (s : Text) : joinSurrogates (pyString s) = pyString s := by
  induction s with
  | nil => rfl
  | cons c s ih => exact congrArg (CodePoint.scalar c :: ·) ih

end DecoderLemmas

open DecoderLemmas

theorem readUnits_quoted (s r : Text) :
    readUnits (s.flatMap escape ++ '"' :: r) = .ok (pyString s, r) := by
  induction s with
  | nil => rfl
  | cons c s ih =>
    rw [List.flatMap_cons, List.append_assoc, readUnits_escape, ih]
    rfl

theorem readString_quoted (s r : Text) :
    readString (s.flatMap escape ++ '"' :: r) = .ok (pyString s, r) := by
  unfold readString
  rw [readUnits_quoted]
  exact congrArg (fun joined => Except.ok (joined, r)) (joinSurrogates_pyString s)

/-! ## Reading integers back -/

/-- A rest that does not go on with a number. -/
def NumberEnds (r : Text) : Prop :=
  Stops (fun c => c.isDigit = true ∨ c = '.' ∨ c = 'e' ∨ c = 'E') r

theorem numberEnds_cons {c : Char} (digit : c.isDigit = false) (other : c ∉ ['.', 'e', 'E'])
    (t : Text) : NumberEnds (c :: t) := by
  refine stops_cons ?_
  simpa [digit] using other

namespace DecoderLemmas

theorem digitSpan_append {ds r : Text} (digits : ∀ c ∈ ds, c.isDigit = true)
    (ends : NumberEnds r) : digitSpan (ds ++ r) = (ds, r) := by
  have stop : r.takeWhile Char.isDigit = [] ∧ r.dropWhile Char.isDigit = r := by
    cases r with
    | nil => exact ⟨rfl, rfl⟩
    | cons c r =>
      have outside := ends c rfl
      rw [not_or] at outside
      simp [outside.1]
  rw [digitSpan, List.takeWhile_append_of_pos digits, List.dropWhile_append_of_pos digits, stop.1,
    stop.2, List.append_nil]

theorem readFraction_ends {r : Text} (ends : NumberEnds r) : readFraction r = ([], r) := by
  unfold readFraction
  split
  next => exact absurd (ends '.' rfl) (by simp)
  next => rfl

theorem readExponent_ends {r : Text} (ends : NumberEnds r) : readExponent r = ([], r) := by
  cases r with
  | nil => rfl
  | cons c r =>
    have outside := ends c rfl
    simp only [not_or] at outside
    simp [readExponent, outside.2.2.1, outside.2.2.2]

theorem finishNumber_integer {negative : Bool} {digits r : Text} (ends : NumberEnds r)
    (short : digits.length ≤ maximumIntegerDigits) :
    finishNumber negative digits r =
      .ok (.integer (if negative then -(Nat.ofDigitChars 10 digits 0 : Int)
        else Nat.ofDigitChars 10 digits 0), r) := by
  unfold finishNumber
  rw [readFraction_ends ends]
  simp only
  rw [readExponent_ends ends]
  simp [Nat.not_lt.mpr short]

theorem toDigits_leads {n : Nat} (positive : 0 < n) :
    ∃ c t, Nat.toDigits 10 n = c :: t ∧ c ≠ '0' := by
  induction n using Nat.strong_induction_on with
  | _ n ih =>
    by_cases small : n < 10
    · refine ⟨_, [], Nat.toDigits_of_lt_base small, ?_⟩
      interval_cases n <;> decide
    · obtain ⟨c, t, is, leads⟩ := ih (n / 10) (by omega) (by omega)
      rw [Nat.toDigits_of_base_le (by decide) (by omega), is]
      exact ⟨c, _, List.cons_append, leads⟩

theorem readMagnitude_toDigits {negative : Bool} {n : Nat} {r : Text} (ends : NumberEnds r)
    (short : (Nat.toDigits 10 n).length ≤ maximumIntegerDigits) :
    readMagnitude negative (Nat.toDigits 10 n ++ r) =
      .ok (.integer (if negative then -(n : Int) else n), r) := by
  rcases Nat.eq_zero_or_pos n with rfl | positive
  · exact finishNumber_integer ends short
  · obtain ⟨c, t, is, leads⟩ := toDigits_leads positive
    have digits : ∀ d ∈ c :: t, d.isDigit = true := fun d member =>
      isDigit_of_toDigits (n := n) (is ▸ member)
    have value := Nat.ofDigitChars_ten_toDigits (n := n)
    rw [is] at short value ⊢
    rw [List.cons_append, readMagnitude, if_pos (digits c List.mem_cons_self),
      digitSpan_append (fun d member => digits d (List.mem_cons_of_mem _ member)) ends,
      finishNumber_integer ends short, value]
    exact leads

end DecoderLemmas

theorem readNumber_decimal {i : Int} {r : Text} (ends : NumberEnds r)
    (short : (Nat.toDigits 10 i.natAbs).length ≤ maximumIntegerDigits) :
    readNumber (decimal i ++ r) = .ok (.integer i, r) := by
  cases i with
  | ofNat n =>
    obtain ⟨c, t, is, digit⟩ := toDigits_cons n
    have unsigned : readNumber (decimal (.ofNat n) ++ r) =
        readMagnitude false (Nat.toDigits 10 n ++ r) := by
      rw [decimal, is, List.cons_append, readNumber]
      intro rest same
      rw [(List.cons.inj same).1] at digit
      exact absurd digit (by decide)
    rw [unsigned]
    exact readMagnitude_toDigits (n := n) ends short
  | negSucc n =>
    rw [decimal, List.cons_append, readNumber]
    exact readMagnitude_toDigits (n := n + 1) ends short

/-! ## Reading values back -/

mutual

/-- The decoded value of a text. -/
def ofJson : Json → JsonValue
  | .null => .null
  | .bool value => .bool value
  | .integer value => .integer value
  | .string value => .string (pyString value)
  | .array elements => .array (ofElements elements)
  | .object members => .object (ofMembers members)

def ofElements : List Json → List JsonValue
  | [] => []
  | element :: elements => ofJson element :: ofElements elements

def ofMembers : List (Text × Json) → List (PyString × JsonValue)
  | [] => []
  | (name, value) :: members => (pyString name, ofJson value) :: ofMembers members

end

theorem ofElements_eq (xs : List Json) : ofElements xs = xs.map ofJson := by
  induction xs with
  | nil => rfl
  | cons x xs ih => rw [ofElements, ih, List.map_cons]

theorem ofMembers_eq (ms : List (Text × Json)) :
    ofMembers ms = ms.map fun m => (pyString m.1, ofJson m.2) := by
  induction ms with
  | nil => rfl
  | cons m ms ih => rw [ofMembers, ih, List.map_cons]

/-- The values a decoder of some depth takes: no name twice, no integer too long. -/
inductive Loadable : Nat → Json → Prop
  | null {depth : Nat} : Loadable depth .null
  | bool {depth : Nat} {value : Bool} : Loadable depth (.bool value)
  | integer {depth : Nat} {value : Int}
      (short : (Nat.toDigits 10 value.natAbs).length ≤ maximumIntegerDigits) :
      Loadable depth (.integer value)
  | string {depth : Nat} {value : Text} : Loadable depth (.string value)
  | array {depth : Nat} {elements : List Json} (each : ∀ x ∈ elements, Loadable depth x) :
      Loadable (depth + 1) (.array elements)
  | object {depth : Nat} {members : List (Text × Json)} (names : (members.map Prod.fst).Nodup)
      (each : ∀ m ∈ members, Loadable depth m.2) : Loadable (depth + 1) (.object members)

namespace DecoderLemmas

section Items

variable {α β : Type} {item : Text → Except DecodeError (β × Text)} {word : α → Text} {f : α → β}
  {close : Char}

theorem skipBlanks_solid {c : Char} (solid : isBlank c = false) (t : Text) :
    skipBlanks (c :: t) = c :: t := by
  simp [skipBlanks, solid]

theorem readMore_close {further : Text → Except DecodeError (List β × Text)} {r : Text}
    (solid : isBlank close = false) (comma : close ≠ ',') :
    readMore close further (close :: r) = .ok ([], r) := by
  unfold readMore
  rw [skipBlanks_solid solid]
  split
  next is => exact absurd (List.cons.inj is).1 comma
  next is =>
    obtain ⟨rfl, rfl⟩ := List.cons.inj is
    exact if_pos rfl
  next is => cases is

theorem readMore_comma {further : Text → Except DecodeError (List β × Text)} {c : Char} {r : Text}
    (solid : isBlank c = false) : readMore close further (',' :: c :: r) = further (c :: r) := by
  show further (skipBlanks (c :: r)) = _
  rw [skipBlanks_solid solid]

theorem readItems_items {x : α} {xs : List α} {r : Text} {bound : Nat}
    (each : ∀ y ∈ x :: xs, ∀ r, NumberEnds r → item (word y ++ r) = .ok (f y, r))
    (solid : ∀ y, ∃ c t, word y = c :: t ∧ isBlank c = false)
    (closing : close.isDigit = false ∧ close ∉ ['.', 'e', 'E'] ∧ isBlank close = false ∧
      close ≠ ',')
    (room : xs.length < bound) :
    readItems item close bound (items ',' word (x :: xs) ++ close :: r) =
      .ok ((x :: xs).map f, r) := by
  induction xs generalizing x bound with
  | nil =>
    obtain ⟨bound, rfl⟩ : ∃ n, bound = n + 1 := ⟨bound - 1, by omega⟩
    have first := each x List.mem_cons_self (close :: r) (numberEnds_cons closing.1 closing.2.1 r)
    have last : readMore close (readItems item close bound) (close :: r) = .ok ([], r) :=
      readMore_close closing.2.2.1 closing.2.2.2
    simp only [items_singleton, readItems, first, last, bind, Except.bind, pure, Except.pure,
      List.map_cons, List.map_nil]
  | cons y ys ih =>
    obtain ⟨bound, rfl⟩ : ∃ n, bound = n + 1 := ⟨bound - 1, by simp at room; omega⟩
    have first := each x List.mem_cons_self (',' :: (items ',' word (y :: ys) ++ close :: r))
      (numberEnds_cons rfl (by decide) _)
    have rest : readItems item close bound (items ',' word (y :: ys) ++ close :: r) =
        .ok ((y :: ys).map f, r) :=
      ih (fun z member => each z (List.mem_cons_of_mem _ member)) (by simpa using room)
    have more : readMore close (readItems item close bound)
        (',' :: (items ',' word (y :: ys) ++ close :: r)) = .ok ((y :: ys).map f, r) := by
      obtain ⟨c, t, is, blank⟩ := solid y
      obtain ⟨u, split, -⟩ := items_cons word ',' close y ys r
      rw [split, is, List.cons_append] at rest ⊢
      rw [readMore_comma blank, rest]
    simp only [items_cons_cons, List.append_assoc, List.cons_append, readItems, first, more, bind,
      Except.bind, pure, Except.pure, List.map_cons]

theorem length_le_items {xs : List α} (solid : ∀ y, ∃ c t, word y = c :: t ∧ isBlank c = false)
    (r : Text) : xs.length ≤ (items ',' word xs ++ r).length := by
  induction xs with
  | nil => exact Nat.zero_le _
  | cons x xs ih =>
    obtain ⟨c, t, is, -⟩ := solid x
    cases xs with
    | nil => simp [items_singleton, is]
    | cons y ys =>
      rw [items_cons_cons, is]
      simp only [List.length_append, List.length_cons] at ih ⊢
      omega

theorem readBlock_items {xs : List α} {r : Text}
    (each : ∀ y ∈ xs, ∀ r, NumberEnds r → item (word y ++ r) = .ok (f y, r))
    (solid : ∀ y, ∃ c t, word y = c :: t ∧ isBlank c = false)
    (avoids : Avoids close word)
    (closing : close.isDigit = false ∧ close ∉ ['.', 'e', 'E'] ∧ isBlank close = false ∧
      close ≠ ',') :
    readBlock item close (items ',' word xs ++ close :: r) = .ok (xs.map f, r) := by
  cases xs with
  | nil =>
    rw [items_nil, List.nil_append, readBlock, skipBlanks_solid closing.2.2.1]
    exact if_pos rfl
  | cons x xs =>
    obtain ⟨c, t, is, blank⟩ := solid x
    obtain ⟨u, split, -⟩ := items_cons word ',' close x xs r
    have opening : c ≠ close := by
      rintro rfl
      exact avoids x [] t (by rw [is, List.append_nil])
    have long : (x :: xs).length ≤ (items ',' word (x :: xs) ++ close :: r).length :=
      length_le_items solid (close :: r)
    have read := readItems_items (r := r) each solid closing (Nat.lt_of_succ_le long)
    rw [split, is, List.cons_append] at read ⊢
    rw [readBlock, skipBlanks_solid blank]
    simp only [if_neg opening]
    exact read

end Items

theorem render_solid (v : Json) : ∃ c t, render v = c :: t ∧ isBlank c = false := by
  cases v with
  | null => exact ⟨_, _, by rw [render], rfl⟩
  | bool b => cases b <;> exact ⟨_, _, by rw [render], rfl⟩
  | integer i =>
    cases i with
    | ofNat n =>
      obtain ⟨c, t, is, digit⟩ := toDigits_cons n
      refine ⟨c, t, by rw [render, decimal, is], Bool.eq_false_iff.mpr fun blank => ?_⟩
      simp only [isBlank, Bool.or_eq_true, decide_eq_true_eq] at blank
      rcases blank with ((rfl | rfl) | rfl) | rfl <;> exact absurd digit (by decide)
    | negSucc n => exact ⟨_, _, by rw [render, decimal], rfl⟩
  | string s => exact ⟨_, _, by rw [render, quoted]; rfl, rfl⟩
  | array xs => exact ⟨_, _, by rw [render]; rfl, rfl⟩
  | object ms => exact ⟨_, _, by rw [render]; rfl, rfl⟩

theorem member_solid (m : Text × Json) : ∃ c t, Json.member m = c :: t ∧ isBlank c = false :=
  ⟨'"', _, by rw [Json.member, quoted]; rfl, rfl⟩

theorem pyString_injective : Function.Injective pyString :=
  List.map_injective_iff.mpr fun _ _ he => CodePoint.scalar.inj he

theorem readMember_member {n : Text → Except DecodeError (JsonValue × Text)} {nm : Text}
    {v : Json} {r : Text} (hr : n (render v ++ r) = .ok (ofJson v, r)) :
    readMember n (Json.member (nm, v) ++ r) = .ok ((pyString nm, ofJson v), r) := by
  obtain ⟨c, t, is, hb⟩ := render_solid v
  have hs := readString_quoted nm (':' :: (render v ++ r))
  have va : skipBlanks (render v ++ r) = render v ++ r := by
    rw [is, List.cons_append, skipBlanks_solid hb]
  have ho : Json.member (nm, v) ++ r =
      '"' :: (nm.flatMap escape ++ '"' :: ':' :: (render v ++ r)) := by
    simp [Json.member, quoted]
  rw [ho, readMember, hs]
  show (do
    let (va, r) ← n (skipBlanks (render v ++ r))
    return ((pyString nm, va), r)) = _
  rw [va, hr]
  rfl

theorem readLevel_number {ne : Text → Except DecodeError (JsonValue × Text)} {i : Int}
    {r : Text} (hen : NumberEnds r)
    (hs : (Nat.toDigits 10 i.natAbs).length ≤ maximumIntegerDigits) :
    readLevel ne (decimal i ++ r) = .ok (.integer i, r) := by
  rw [← readNumber_decimal hen hs]
  cases i with
  | ofNat n =>
    obtain ⟨c, t, is, hf⟩ := toDigits_cons n
    rw [decimal, is, List.cons_append]
    unfold readLevel
    split <;> first
      | rfl
      | (rename_i he
         rw [(List.cons.inj he).1] at hf
         exact absurd hf (by decide))
  | negSucc n =>
    obtain ⟨c, t, is, hf⟩ := toDigits_cons (n + 1)
    rw [decimal, is, List.cons_append, List.cons_append]
    unfold readLevel
    split <;> first
      | rfl
      | (rename_i he
         exact absurd (List.cons.inj he).1 (by decide))
      | (rename_i he
         rw [(List.cons.inj (List.cons.inj he).2).1] at hf
         exact absurd hf (by decide))

end DecoderLemmas

theorem readValue_render {depth : Nat} {v : Json} (loadable : Loadable depth v) {r : Text}
    (ends : NumberEnds r) : readValue depth (render v ++ r) = .ok (ofJson v, r) := by
  have leveled : ∃ nested, readValue depth = readLevel nested := by
    cases depth <;> exact ⟨_, rfl⟩
  induction loadable generalizing r with
  | null =>
    obtain ⟨nested, is⟩ := leveled
    rw [is, render]
    rfl
  | @bool _ value =>
    obtain ⟨nested, is⟩ := leveled
    rw [is]
    cases value <;> rw [render] <;> rfl
  | integer short =>
    obtain ⟨nested, is⟩ := leveled
    rw [is, render]
    exact readLevel_number ends short
  | @string _ value =>
    obtain ⟨nested, is⟩ := leveled
    have read := readString_quoted value r
    rw [is, render, quoted]
    simp only [List.cons_append, List.append_assoc, List.nil_append, readLevel, read, bind,
      Except.bind, pure, Except.pure, ofJson]
  | @array depth elements each ih =>
    have read : readBlock (readValue depth) ']' (items ',' render elements ++ ']' :: r) =
        .ok (elements.map ofJson, r) :=
      readBlock_items (fun x member r ends => ih x member ends (by cases depth <;> exact ⟨_, rfl⟩))
        render_solid render_avoids (by decide)
    rw [render_array]
    simp only [List.cons_append, List.append_assoc, List.nil_append, readValue, readLevel, read,
      bind, Except.bind, pure, Except.pure, ofJson, ofElements_eq]
  | @object depth members names each ih =>
    have read : readBlock (readMember (readValue depth)) '}'
        (items ',' Json.member members ++ '}' :: r) =
        .ok (members.map fun m => (pyString m.1, ofJson m.2), r) :=
      readBlock_items
        (fun m member r ends => readMember_member
          (ih m member ends (by cases depth <;> exact ⟨_, rfl⟩)))
        member_solid member_avoids (by decide)
    have distinct : ((ofMembers members).map Prod.fst).Nodup := by
      rw [ofMembers_eq, List.map_map]
      have := names.map pyString_injective
      rwa [List.map_map] at this
    rw [render_object]
    simp only [List.cons_append, List.append_assoc, List.nil_append, readValue, readLevel, read,
      bind, Except.bind, pure, Except.pure, ofJson, ← ofMembers_eq, rejectDuplicateKeys,
      if_pos distinct]

theorem loads_render {recursionLimit : Nat} {v : Json} (loadable : Loadable recursionLimit v)
    {blanks : Text} (blank : ∀ c ∈ blanks, isBlank c = true) :
    loads recursionLimit (render v ++ blanks) = .ok (ofJson v) := by
  obtain ⟨c, t, is, solid⟩ := render_solid v
  have opening : skipBlanks (render v ++ blanks) = render v ++ blanks := by
    rw [is, List.cons_append, skipBlanks_solid solid]
  have ends : NumberEnds blanks := by
    cases blanks with
    | nil => exact stops_nil _
    | cons b bs =>
      have first := blank b List.mem_cons_self
      simp only [isBlank, Bool.or_eq_true, decide_eq_true_eq] at first
      rcases first with ((rfl | rfl) | rfl) | rfl <;> exact numberEnds_cons rfl (by decide) _
  have past : skipBlanks blanks = [] := List.dropWhile_eq_nil_iff.mpr blank
  rw [loads, opening, readValue_render loadable ends]
  exact if_pos past

end PersonalOs.Recovery
