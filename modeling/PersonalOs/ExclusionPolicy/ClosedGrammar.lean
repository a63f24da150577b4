import PersonalOs.ExclusionPolicy.StrictJson

/-!
# The closed grammar

The JSON texts of the closed profile: safe integers without fraction or exponent, strings whose
surrogates are paired, blanks around the tokens, and a bounded nesting. A text relates the units
it begins with, the value they denote and the units that follow.
-/

namespace PersonalOs.ExclusionPolicy

open Json

/-! ## Tokens -/

inductive Blanks : JsString → JsString → Prop
  | nil (s : JsString) : Blanks s s
  | cons {u : UInt16} {s t : JsString} (blank : isWhitespace u = true) :
      Blanks s t → Blanks (u :: s) t

/-- How the units of one character are spelled inside a string. Half of a surrogate pair is no
character of a text, so a pair is spelled in one way, as it is or by two escapes. -/
inductive Letter : JsString → JsString → Prop
  | plain {u : UInt16} (printable : 0x20 ≤ u.toNat) (quote : u ≠ unit '"') (slash : u ≠ unit '\\')
      (high : isHighSurrogate u.toNat = false) (low : isLowSurrogate u.toNat = false) :
      Letter [u] [u]
  | pair {u v : UInt16} (high : isHighSurrogate u.toNat = true)
      (low : isLowSurrogate v.toNat = true) : Letter [u, v] [u, v]
  | short {e u : UInt16} (means : shortEscape e = some u) : Letter [unit '\\', e] [u]
  | escape {a b c d : UInt16} {n : Nat} (code : readHex4 a b c d = some n)
      (high : isHighSurrogate n = false) (low : isLowSurrogate n = false) :
      Letter [unit '\\', unit 'u', a, b, c, d] [UInt16.ofNat n]
  | escapePair {a b c d a' b' c' d' : UInt16} {n m : Nat} (code : readHex4 a b c d = some n)
      (high : isHighSurrogate n = true) (code' : readHex4 a' b' c' d' = some m)
      (low : isLowSurrogate m = true) :
      Letter [unit '\\', unit 'u', a, b, c, d, unit '\\', unit 'u', a', b', c', d']
        [UInt16.ofNat n, UInt16.ofNat m]

/-- A string behind its opening quote. -/
inductive StringBody : JsString → JsString → JsString → Prop
  | close (t : JsString) : StringBody (unit '"' :: t) [] t
  | letter {w v s vs t : JsString} (spelled : Letter w v) :
      StringBody s vs t → StringBody (w ++ s) (v ++ vs) t

/-- Decimal digits without a leading zero. -/
structure Digits (w : JsString) : Prop where
  nonempty : w ≠ []
  all : ∀ u ∈ w, isDigitUnit u = true
  leads : w = [unit '0'] ∨ w.head? ≠ some (unit '0')

inductive IntegerWord : JsString → JsNumber → Prop
  | positive {w : JsString} (digits : Digits w) (safe : digitsValue w ≤ 2 ^ 53 - 1) :
      IntegerWord w (.integer (digitsValue w))
  | negative {w : JsString} (digits : Digits w) (safe : digitsValue w ≤ 2 ^ 53 - 1) :
      IntegerWord (unit '-' :: w)
        (if digitsValue w = 0 then .negativeZero else .integer (-(digitsValue w)))

/-! ## Values -/

section Level

variable (nested : JsString → ClosedJsonValue → JsString → Prop)

/-- The elements of an array, up to the closing bracket. -/
inductive Elements : JsString → List ClosedJsonValue → JsString → Prop
  | last {s s' r t : JsString} {x : ClosedJsonValue} (before : Blanks s s') (element : nested s' x r)
      (close : Blanks r (unit ']' :: t)) : Elements s [x] t
  | more {s s' r r' t : JsString} {x : ClosedJsonValue} {xs : List ClosedJsonValue}
      (before : Blanks s s') (element : nested s' x r) (comma : Blanks r (unit ',' :: r')) :
      Elements r' xs t → Elements s (x :: xs) t

/-- A name, a colon and a value. -/
inductive Member : JsString → JsString × ClosedJsonValue → JsString → Prop
  | mk {s n r v v' t : JsString} {name : JsString} {x : ClosedJsonValue}
      (opens : Blanks s (unit '"' :: n)) (isName : StringBody n name r)
      (colon : Blanks r (unit ':' :: v)) (before : Blanks v v') (value : nested v' x t) :
      Member s (name, x) t

/-- The members of an object, up to the closing brace. -/
inductive Members : JsString → List (JsString × ClosedJsonValue) → JsString → Prop
  | last {s r t : JsString} {m : JsString × ClosedJsonValue} (first : Member nested s m r)
      (close : Blanks r (unit '}' :: t)) : Members s [m] t
  | more {s r r' t : JsString} {m : JsString × ClosedJsonValue}
      {ms : List (JsString × ClosedJsonValue)} (first : Member nested s m r)
      (comma : Blanks r (unit ',' :: r')) : Members r' ms t → Members s (m :: ms) t

/-- A value, with the grammar of the values inside its brackets. -/
inductive ValueText : JsString → ClosedJsonValue → JsString → Prop
  | null (t : JsString) : ValueText ("null".toList.map unit ++ t) .null t
  | true (t : JsString) : ValueText ("true".toList.map unit ++ t) (.boolean true) t
  | false (t : JsString) : ValueText ("false".toList.map unit ++ t) (.boolean false) t
  | number {w t : JsString} {n : JsNumber} (word : IntegerWord w n) : ValueText (w ++ t) (.number n) t
  | string {s v t : JsString} (body : StringBody s v t) :
      ValueText (unit '"' :: s) (.string v) t
  | emptyArray {s t : JsString} (close : Blanks s (unit ']' :: t)) :
      ValueText (unit '[' :: s) (.array []) t
  | array {s t : JsString} {xs : List ClosedJsonValue} (elements : Elements nested s xs t) :
      ValueText (unit '[' :: s) (.array xs) t
  | emptyObject {s t : JsString} (close : Blanks s (unit '}' :: t)) :
      ValueText (unit '{' :: s) (.record []) t
  | object {s t : JsString} {ms : List (JsString × ClosedJsonValue)}
      (members : Members nested s ms t) : ValueText (unit '{' :: s) (.record ms) t

end Level

/-- A value nested within so many levels, its own included. -/
def ValueWithin : Nat → JsString → ClosedJsonValue → JsString → Prop
  | 0 => fun _ _ _ => False
  | levels + 1 => ValueText (ValueWithin levels)

/-- `s` is a text of the closed profile and denotes the value. -/
def TextOf (s : JsString) (v : ClosedJsonValue) : Prop :=
  ∃ s' t, Blanks s s' ∧ ValueWithin maximumNestingDepth s' v t ∧ Blanks t []

/-! ## The scanners -/

namespace GrammarLemmas

variable {s t w v : JsString}

theorem blanks_skipWhitespace (s : JsString) : Blanks s (skipWhitespace s) := by
  induction s with
  | nil => exact .nil _
  | cons u s ih =>
    unfold skipWhitespace
    rw [List.dropWhile_cons]
    split
    · next hb => exact .cons hb ih
    · exact .nil _

theorem skipWhitespace_of_blanks (hb : Blanks s t) : skipWhitespace s = skipWhitespace t := by
  induction hb with
  | nil => rfl
  | @cons u s t hbl _ ih =>
    rw [← ih]
    unfold skipWhitespace
    rw [List.dropWhile_cons, if_pos hbl]

variable {u : UInt16}

theorem skipWhitespace_solid (hs : isWhitespace u = false) (s : JsString) :
    skipWhitespace (u :: s) = u :: s := by
  unfold skipWhitespace
  rw [List.dropWhile_cons, if_neg (by rw [hs]; exact Bool.false_ne_true)]

theorem skipWhitespace_to (hb : Blanks s (u :: t)) (hs : isWhitespace u = false) :
    skipWhitespace s = u :: t := by
  rw [skipWhitespace_of_blanks hb, skipWhitespace_solid hs]

theorem blanks_of_skipWhitespace (hs : skipWhitespace s = u :: t) :
    Blanks s (u :: t) := hs ▸ blanks_skipWhitespace s

theorem length_of_blanks (hb : Blanks s t) : t.length ≤ s.length := by
  induction hb with
  | nil => exact Nat.le_refl _
  | cons _ _ ih => exact Nat.le_succ_of_le ih

/-! ### Strings -/

theorem shortEscape_ne_unicode {e : UInt16} (hm : shortEscape e = some u) : e ≠ unit 'u' := by
  rintro rfl
  exact nomatch hm

theorem parseString_letter (hsp : Letter w v) (s : JsString) :
    parseString (w ++ s) = (parseString s).map (prepend v) := by
  cases hsp with
  | plain hp hq hs hh low =>
    rw [List.singleton_append, parseString.eq_def]
    simp [hq, hs, hh, low, Nat.not_lt.mpr hp]
  | @pair u v hh low =>
    have hq : u ≠ unit '"' := by
      rintro rfl
      exact absurd hh (by decide)
    have hs : u ≠ unit '\\' := by
      rintro rfl
      exact absurd hh (by decide)
    have hp : ¬ u.toNat < 0x20 := by
      simp [isHighSurrogate] at hh
      omega
    rw [List.cons_append, List.singleton_append, parseString.eq_def]
    simp [hq, hs, hh, low, hp]
  | @short e u hm =>
    have hq : unit '\\' ≠ unit '"' := by decide
    rw [List.cons_append, List.singleton_append, parseString.eq_def]
    simp [hq, shortEscape_ne_unicode hm, hm]
  | escape hc hh low =>
    have hq : unit '\\' ≠ unit '"' := by decide
    simp only [List.cons_append, List.nil_append]
    rw [parseString.eq_def]
    simp [hq, hc, hh, low]
  | escapePair hc hh hc' low =>
    have hq : unit '\\' ≠ unit '"' := by decide
    simp only [List.cons_append, List.nil_append]
    rw [parseString.eq_def]
    simp [hq, hc, hh, hc', low]

theorem parseString_close (t : JsString) : parseString (unit '"' :: t) = some ([], t) := by
  rw [parseString.eq_def]
  exact if_pos rfl

theorem parseString_complete (body : StringBody s v t) : parseString s = some (v, t) := by
  induction body with
  | close t => exact parseString_close t
  | letter spelled _ ih =>
    rw [parseString_letter spelled, ih]
    rfl

theorem body_of_letter {read : JsString × JsString} (spelled : Letter w v)
    (rest : ∀ {read}, parseString s = some read → StringBody s read.1 read.2)
    (parsed : (parseString s).map (prepend v) = some read) : StringBody (w ++ s) read.1 read.2 := by
  obtain ⟨later, isLater, rfl⟩ := Option.map_eq_some_iff.mp parsed
  exact .letter spelled (rest isLater)

theorem parseString_sound {read : JsString × JsString} (parsed : parseString s = some read) :
    StringBody s read.1 read.2 := by
  fun_induction parseString s generalizing read with
  | case2 rest =>
    cases parsed
    exact .close rest
  | case6 a b c d n code high slash u a' b' c' d' rest marks m code' low _ ih =>
    obtain ⟨rfl, rfl⟩ := marks
    exact body_of_letter (.escapePair code high code' low) ih parsed
  | case11 a b c d rest n code high low _ ih =>
    exact body_of_letter (.escape code (Bool.eq_false_iff.mpr high) (Bool.eq_false_iff.mpr low))
      ih parsed
  | case14 escape rest _ short means _ ih => exact body_of_letter (.short means) ih parsed
  | case16 character quote slash printable _ next rest paired ih =>
    rw [Bool.and_eq_true] at paired
    exact body_of_letter (.pair paired.1 paired.2) ih parsed
  | case19 character rest quote slash printable single ih =>
    rw [Bool.or_eq_true, not_or] at single
    exact body_of_letter (.plain (Nat.not_lt.mp printable) quote slash
      (Bool.eq_false_iff.mpr single.1) (Bool.eq_false_iff.mpr single.2)) ih parsed
  | _ => exact nomatch parsed

/-! ### Integers -/

theorem nearestDouble_safe {n : Nat} (safe : n ≤ 2 ^ 53 - 1) : nearestDouble n = n :=
  if_pos (by omega)

theorem le_nearestDouble {n : Nat} (large : 2 ^ 53 ≤ n) : 2 ^ 53 ≤ nearestDouble n := by
  have positive : n ≠ 0 := by omega
  have exponent : 53 ≤ Nat.log2 n := (Nat.le_log2 positive).mpr large
  obtain ⟨e, is⟩ : ∃ e, Nat.log2 n - 52 = e + 1 := ⟨Nat.log2 n - 53, by omega⟩
  have leading : 2 ^ 52 * 2 ^ (e + 1) ≤ n := by
    rw [← Nat.pow_add, show 52 + (e + 1) = Nat.log2 n by omega]
    exact Nat.log2_self_le positive
  have significand : 2 ^ 52 ≤ n / 2 ^ (e + 1) :=
    (Nat.le_div_iff_mul_le (Nat.two_pow_pos _)).mpr leading
  have even : 2 ≤ 2 ^ (e + 1) := by
    rw [Nat.pow_succ]
    exact Nat.le_mul_of_pos_left 2 (Nat.two_pow_pos e)
  have rounded : ∀ m, 2 ^ 52 ≤ m → 2 ^ 53 ≤ m * 2 ^ (e + 1) := fun m le =>
    Nat.mul_le_mul le even
  unfold nearestDouble
  rw [if_neg (Nat.not_lt.mpr large), is]
  show 2 ^ 53 ≤ if _ then _ else _
  split
  · exact rounded _ significand
  · exact rounded _ (Nat.le_succ_of_le significand)

/-- The integer of digits, where it is safe. -/
def integerOf (negative : Bool) (n : Nat) : JsNumber :=
  if negative then (if n = 0 then .negativeZero else .integer (-n)) else .integer n

theorem safeInteger_iff {negative : Bool} {n : JsNumber} :
    safeInteger negative w = some n ↔
      digitsValue w ≤ 2 ^ 53 - 1 ∧ n = integerOf negative (digitsValue w) := by
  have bound : maximumSafeInteger = ((2 ^ 53 - 1 : Nat) : Int) := rfl
  unfold safeInteger integerOf
  rcases Nat.lt_or_ge (2 ^ 53 - 1) (digitsValue w) with large | safe
  · have rounded := le_nearestDouble (n := digitsValue w) (by omega)
    have past : maximumSafeInteger < (nearestDouble (digitsValue w) : Int) := by
      rw [bound]
      exact Int.ofNat_lt.mpr (by omega)
    simp only [if_pos past]
    exact ⟨nofun, fun ⟨small, _⟩ => absurd small (by omega)⟩
  · have under : ¬ maximumSafeInteger < ((digitsValue w : Nat) : Int) := by
      rw [bound]
      exact fun past => absurd (Int.ofNat_lt.mp past) (by omega)
    rw [nearestDouble_safe safe, and_iff_right (show digitsValue w ≤ 2 ^ 53 - 1 from safe)]
    simp only [if_neg under]
    cases negative <;> simp [eq_comm]

theorem span_eq_append (w : JsString) : (w.span isDigitUnit).1 ++ (w.span isDigitUnit).2 = w := by
  rw [List.span_eq_takeWhile_dropWhile]
  exact List.takeWhile_append_dropWhile

theorem digitRun_cons (u : UInt16) (s : JsString) :
    digitRun (u :: s) = if u = unit '0' then ([u], s) else (u :: s).span isDigitUnit := rfl

theorem digitRun_spec (digit : isDigitUnit u = true) (s : JsString) :
    (digitRun (u :: s)).1 ++ (digitRun (u :: s)).2 = u :: s ∧ Digits (digitRun (u :: s)).1 := by
  rw [digitRun_cons]
  by_cases zero : u = unit '0'
  · rw [if_pos zero]
    refine ⟨rfl, List.cons_ne_nil _ _, fun v member => ?_, .inl (zero ▸ rfl)⟩
    rw [List.mem_singleton.mp member]
    exact digit
  · rw [if_neg zero]
    refine ⟨span_eq_append _, ?_, ?_, .inr ?_⟩
    · rw [List.span_eq_takeWhile_dropWhile, List.takeWhile_cons_of_pos digit]
      exact List.cons_ne_nil _ _
    · rw [List.span_eq_takeWhile_dropWhile]
      exact fun v member => List.mem_takeWhile_imp member
    · rw [List.span_eq_takeWhile_dropWhile, List.takeWhile_cons_of_pos digit]
      exact fun same => zero (Option.some.inj same)

theorem digitRun_append (digits : Digits w) (ends : continuesNumber t = false) :
    digitRun (w ++ t) = (w, t) := by
  cases w with
  | nil => exact absurd rfl digits.nonempty
  | cons u w =>
    rw [List.cons_append, digitRun_cons]
    rcases digits.leads with single | leads
    · obtain ⟨rfl, rfl⟩ := List.cons.inj single
      exact if_pos rfl
    · have nonzero : u ≠ unit '0' := fun same => leads (congrArg some same)
      have stop : t.takeWhile isDigitUnit = [] ∧ t.dropWhile isDigitUnit = t := by
        cases t with
        | nil => exact ⟨rfl, rfl⟩
        | cons next t =>
          have outside : ¬ isDigitUnit next = true := by
            simp [continuesNumber] at ends
            simp [ends]
          exact ⟨List.takeWhile_cons_of_neg outside, List.dropWhile_cons_of_neg outside⟩
      rw [if_neg nonzero, ← List.cons_append, List.span_eq_takeWhile_dropWhile,
        List.takeWhile_append_of_pos digits.all, List.dropWhile_append_of_pos digits.all,
        stop.1, stop.2, List.append_nil]

theorem parseMagnitude_iff {negative : Bool} {n : JsNumber} :
    parseMagnitude negative s = some (n, t) ↔
      ∃ w, s = w ++ t ∧ Digits w ∧ digitsValue w ≤ 2 ^ 53 - 1 ∧ continuesNumber t = false ∧
        n = integerOf negative (digitsValue w) := by
  constructor
  · intro parsed
    cases s with
    | nil => exact nomatch parsed
    | cons u s =>
      unfold parseMagnitude at parsed
      simp only at parsed
      split at parsed
      · next digit =>
        split at parsed
        · exact nomatch parsed
        · next ends =>
          obtain ⟨m, safe, is⟩ := Option.map_eq_some_iff.mp parsed
          obtain ⟨rfl, rfl⟩ := Prod.mk.inj is
          obtain ⟨whole, digits⟩ := digitRun_spec digit s
          obtain ⟨small, same⟩ := safeInteger_iff.mp safe
          exact ⟨_, whole.symm, digits, small, Bool.eq_false_iff.mpr ends, same⟩
      · exact nomatch parsed
  · rintro ⟨w, rfl, digits, safe, ends, rfl⟩
    obtain ⟨u, rest, rfl⟩ := List.exists_cons_of_ne_nil digits.nonempty
    have run := digitRun_append digits ends
    have number : safeInteger negative (u :: rest) = _ := safeInteger_iff.mpr ⟨safe, rfl⟩
    unfold parseMagnitude
    rw [List.cons_append] at run ⊢
    simp only [digits.all u List.mem_cons_self, if_true, run, ends, Bool.false_eq_true, if_false]
    rw [number]
    rfl

end GrammarLemmas

open GrammarLemmas

variable {s : JsString}

theorem parseString_iff {v t : JsString} : parseString s = some (v, t) ↔ StringBody s v t :=
  ⟨parseString_sound, parseString_complete⟩

/-- A safe integer before anything that does not go on with a number is what the scanner reads. -/
theorem parseInteger_iff {t : JsString} {n : JsNumber} :
    parseInteger s = some (n, t) ↔
      ∃ w, s = w ++ t ∧ IntegerWord w n ∧ continuesNumber t = false := by
  cases s with
  | nil =>
    refine ⟨nofun, fun ⟨w, is, word, _⟩ => ?_⟩
    obtain ⟨rfl, rfl⟩ := List.append_eq_nil_iff.mp is.symm
    cases word with
    | positive digits => exact absurd rfl digits.nonempty
  | cons u s =>
    have signed : parseInteger (u :: s) =
        if u = unit '-' then parseMagnitude true s else parseMagnitude false (u :: s) := rfl
    rw [signed]
    by_cases minus : u = unit '-'
    · rw [if_pos minus, parseMagnitude_iff]
      constructor
      · rintro ⟨w, rfl, digits, safe, ends, rfl⟩
        exact ⟨u :: w, rfl, minus ▸ .negative digits safe, ends⟩
      · rintro ⟨w, is, word, ends⟩
        cases word with
        | positive digits =>
          obtain ⟨v, w, rfl⟩ := List.exists_cons_of_ne_nil digits.nonempty
          obtain ⟨rfl, _⟩ := List.cons.inj is
          exact absurd (digits.all u List.mem_cons_self) (minus ▸ by decide)
        | @negative w digits safe =>
          obtain ⟨_, rfl⟩ := List.cons.inj is
          exact ⟨w, rfl, digits, safe, ends, rfl⟩
    · rw [if_neg minus, parseMagnitude_iff]
      constructor
      · rintro ⟨w, is, digits, safe, ends, rfl⟩
        exact ⟨w, is, .positive digits safe, ends⟩
      · rintro ⟨w, is, word, ends⟩
        cases word with
        | positive digits safe => exact ⟨w, is, digits, safe, ends, rfl⟩
        | negative => exact absurd (List.cons.inj is).1 minus

namespace GrammarLemmas

/-! ### Lengths -/

variable {s t r w v : JsString} {nested : JsString → ClosedJsonValue → JsString → Prop}

theorem length_of_body (body : StringBody s v t) : t.length < s.length := by
  induction body with
  | close t => exact Nat.lt_succ_self _
  | @letter w v s vs t spelled _ ih =>
    rw [List.length_append]
    exact Nat.lt_of_lt_of_le ih (Nat.le_add_left _ _)

theorem length_of_integer {n : JsNumber} (word : IntegerWord w n) : 0 < w.length := by
  cases word with
  | positive digits => exact List.length_pos_iff.mpr digits.nonempty
  | negative => exact Nat.succ_pos _

/-- A grammar of values that take at least one unit each. -/
def Consumes (nested : JsString → ClosedJsonValue → JsString → Prop) : Prop :=
  ∀ s x t, nested s x t → t.length < s.length

theorem length_of_member {m : JsString × ClosedJsonValue} (consumes : Consumes nested)
    (member : Member nested s m t) : t.length < s.length := by
  obtain ⟨opens, isName, colon, before, value⟩ := member
  have := length_of_blanks opens
  have := length_of_body isName
  have := length_of_blanks colon
  have := length_of_blanks before
  have := consumes _ _ _ value
  simp only [List.length_cons] at *
  omega

theorem length_of_members {ms : List (JsString × ClosedJsonValue)} (consumes : Consumes nested)
    (members : Members nested s ms t) : ms.length + t.length ≤ s.length := by
  induction members with
  | last first close =>
    have := length_of_member consumes first
    have := length_of_blanks close
    simp only [List.length_cons, List.length_nil] at *
    omega
  | more first comma _ ih =>
    have := length_of_member consumes first
    have := length_of_blanks comma
    simp only [List.length_cons] at *
    omega

theorem length_of_elements {xs : List ClosedJsonValue} (consumes : Consumes nested)
    (elements : Elements nested s xs t) : xs.length + t.length ≤ s.length := by
  induction elements with
  | last before element close =>
    have := length_of_blanks before
    have := consumes _ _ _ element
    have := length_of_blanks close
    simp only [List.length_cons, List.length_nil] at *
    omega
  | more before element comma _ ih =>
    have := length_of_blanks before
    have := consumes _ _ _ element
    have := length_of_blanks comma
    simp only [List.length_cons] at *
    omega

theorem consumes_valueText (consumes : Consumes nested) : Consumes (ValueText nested) := by
  intro s x t text
  cases text with
  | null | true | false =>
    rw [List.length_append]
    exact Nat.lt_add_of_pos_left (by decide)
  | number word =>
    rw [List.length_append]
    exact Nat.lt_add_of_pos_left (length_of_integer word)
  | string body => exact Nat.lt_succ_of_lt (length_of_body body)
  | emptyArray close | emptyObject close =>
    exact Nat.lt_succ_of_lt (length_of_blanks close)
  | array elements =>
    exact Nat.lt_succ_of_le (Nat.le_trans (Nat.le_add_left _ _)
      (length_of_elements consumes elements))
  | object members =>
    exact Nat.lt_succ_of_le (Nat.le_trans (Nat.le_add_left _ _)
      (length_of_members consumes members))

theorem consumes_valueWithin (levels : Nat) : Consumes (ValueWithin levels) := by
  induction levels with
  | zero => exact fun _ _ _ none => none.elim
  | succ levels ih => exact consumes_valueText ih

/-! ### Openings -/

/-- A value opens with no blank and no closing bracket, and a number's text goes on after nothing
that ends a value. -/
theorem valueText_opens {x : ClosedJsonValue} (text : ValueText nested s x t) :
    ∃ u r, s = u :: r ∧ isWhitespace u = false ∧ u ≠ unit ']' := by
  cases text with
  | number word =>
    have digit : ∀ u, isDigitUnit u = true → isWhitespace u = false ∧ u ≠ unit ']' := by
      intro u digit
      simp only [isDigitUnit, Bool.and_eq_true, decide_eq_true_eq] at digit
      constructor
      · refine Bool.eq_false_iff.mpr fun blank => ?_
        simp only [isWhitespace, Bool.or_eq_true, decide_eq_true_eq] at blank
        rcases blank with ((rfl | rfl) | rfl) | rfl <;> exact absurd digit (by decide)
      · rintro rfl
        exact absurd digit (by decide)
    cases word with
    | positive digits =>
      obtain ⟨u, w, rfl⟩ := List.exists_cons_of_ne_nil digits.nonempty
      exact ⟨u, _, rfl, digit u (digits.all u List.mem_cons_self)⟩
    | negative => exact ⟨unit '-', _, rfl, by decide, by decide⟩
  | null | true | false => exact ⟨_, _, rfl, by decide, by decide⟩
  | string | emptyArray | array | emptyObject | object =>
    exact ⟨_, _, rfl, by decide, by decide⟩

theorem continuesNumber_symbol {u : UInt16}
    (ends : (u = unit '.' || u = unit 'e' || u = unit 'E' || isDigitUnit u) = false)
    (blanks : Blanks s (u :: t)) : continuesNumber s = false := by
  cases blanks with
  | nil => exact ends
  | @cons b s _ blank =>
    simp only [isWhitespace, Bool.or_eq_true, decide_eq_true_eq] at blank
    rcases blank with ((rfl | rfl) | rfl) | rfl <;> rfl

end GrammarLemmas

/-! ## Objects of members -/

section Runtime

variable (hasOwnProperty : JsObject → JsString → Bool)
  (setMember : JsObject → JsString → ParsedValue → JsObject)

mutual

/-- What the runtime makes of a value whose objects are given their members one by one, unless a
name is already owned. -/
def buildValue : ClosedJsonValue → Option ParsedValue
  | .null => some ⟨.null, false⟩
  | .boolean b => some ⟨.boolean b, true⟩
  | .number n => some ⟨.number n, true⟩
  | .string s => some ⟨.string s, true⟩
  | .array xs => do
    let built ← buildElements xs
    return ⟨.array built, true⟩
  | .record ms => do
    let object ← buildMembers .empty ms
    return object.toParsedValue

def buildElements : List ClosedJsonValue → Option (List ClosedJsonValue)
  | [] => some []
  | x :: xs => do
    let element ← buildValue x
    let later ← buildElements xs
    return element.value :: later

def buildMembers (object : JsObject) : List (JsString × ClosedJsonValue) → Option JsObject
  | [] => some object
  | (name, x) :: ms =>
    if hasOwnProperty object name then none
    else do
      let value ← buildValue x
      buildMembers (setMember object name value) ms

end

/-! ## The parser -/

/-- A reader reads only values of a grammar, and makes them as the runtime does. -/
def ReadsOnly (reader : JsString → Option (ParsedValue × JsString))
    (nested : JsString → ClosedJsonValue → JsString → Prop) : Prop :=
  ∀ s p t, reader s = some (p, t) →
    ∃ x, nested s x t ∧ buildValue hasOwnProperty setMember x = some p

/-- A reader reads every value of a grammar that the runtime can make. -/
def ReadsAll (reader : JsString → Option (ParsedValue × JsString))
    (nested : JsString → ClosedJsonValue → JsString → Prop) : Prop :=
  ∀ s x p t, nested s x t → continuesNumber t = false →
    buildValue hasOwnProperty setMember x = some p → reader s = some (p, t)

namespace GrammarLemmas

variable {hasOwnProperty : JsObject → JsString → Bool}
  {setMember : JsObject → JsString → ParsedValue → JsObject}
  {reader : JsString → Option (ParsedValue × JsString)}
  {nested : JsString → ClosedJsonValue → JsString → Prop} {s t : JsString}

variable {rounds : Nat} {xs : List ClosedJsonValue} {object : JsObject} {r : JsString}

theorem parseElements_sound (reads : ReadsOnly hasOwnProperty setMember reader nested)
    (parsed : parseElements reader rounds s = some (xs, t)) :
    ∃ trees, Elements nested s trees t ∧
      buildElements hasOwnProperty setMember trees = some xs := by
  induction rounds generalizing s xs with
  | zero => exact nomatch parsed
  | succ rounds ih =>
    unfold parseElements at parsed
    obtain ⟨⟨p, r⟩, element, parsed⟩ := Option.bind_eq_some_iff.mp parsed
    obtain ⟨x, text, built⟩ := reads _ _ _ element
    have before := blanks_skipWhitespace s
    simp only at parsed
    split at parsed
    · exact nomatch parsed
    · next separator rest skipped =>
      split at parsed
      · next comma =>
        obtain ⟨⟨later, t'⟩, further, same⟩ := Option.map_eq_some_iff.mp parsed
        obtain ⟨rfl, rfl⟩ := Prod.mk.inj same
        obtain ⟨trees, elements, builds⟩ := ih further
        refine ⟨x :: trees, .more before text (comma ▸ blanks_of_skipWhitespace skipped) elements,
          ?_⟩
        rw [buildElements, built, builds]
        rfl
      · split at parsed
        · next close =>
          cases parsed
          refine ⟨[x], .last before text (close ▸ blanks_of_skipWhitespace skipped), ?_⟩
          rw [buildElements, built, buildElements]
          rfl
        · exact nomatch parsed

theorem parseMembers_sound (reads : ReadsOnly hasOwnProperty setMember reader nested)
    {before after : JsObject}
    (parsed : parseMembers hasOwnProperty setMember reader rounds before s = some (after, t)) :
    ∃ trees, Members nested s trees t ∧
      buildMembers hasOwnProperty setMember before trees = some after := by
  induction rounds generalizing s before with
  | zero => exact nomatch parsed
  | succ rounds ih =>
    unfold parseMembers at parsed
    split at parsed
    · exact nomatch parsed
    · next quote rest skipped =>
      split at parsed
      · next isQuote =>
        obtain ⟨⟨name, rest⟩, isName, parsed⟩ := Option.bind_eq_some_iff.mp parsed
        simp only at parsed
        split at parsed
        · exact nomatch parsed
        · next fresh =>
          split at parsed
          · exact nomatch parsed
          · next colon rest' skipped' =>
            split at parsed
            · next isColon =>
              obtain ⟨⟨p, r⟩, value, parsed⟩ := Option.bind_eq_some_iff.mp parsed
              obtain ⟨x, text, built⟩ := reads _ _ _ value
              have member : Member nested s (name, x) r :=
                .mk (isQuote ▸ blanks_of_skipWhitespace skipped) (parseString_iff.mp isName)
                  (isColon ▸ blanks_of_skipWhitespace skipped') (blanks_skipWhitespace rest') text
              have builds : ∀ ms, buildMembers hasOwnProperty setMember before ((name, x) :: ms) =
                  buildMembers hasOwnProperty setMember (setMember before name p) ms := by
                intro ms
                rw [buildMembers, if_neg fresh, built]
                rfl
              simp only at parsed
              split at parsed
              · exact nomatch parsed
              · next separator rest'' skipped'' =>
                split at parsed
                · next comma =>
                  obtain ⟨trees, members, later⟩ := ih parsed
                  exact ⟨_, .more member (comma ▸ blanks_of_skipWhitespace skipped'') members,
                    (builds trees).trans later⟩
                · split at parsed
                  · next close =>
                    cases parsed
                    refine ⟨_, .last member (close ▸ blanks_of_skipWhitespace skipped''),
                      (builds []).trans ?_⟩
                    rw [buildMembers]
                  · exact nomatch parsed
            · exact nomatch parsed
      · exact nomatch parsed

def Opens (nested : JsString → ClosedJsonValue → JsString → Prop) : Prop :=
  ∀ s x t, nested s x t → ∃ u r, s = u :: r ∧ isWhitespace u = false ∧ u ≠ unit ']'

theorem skipWhitespace_value (opens : Opens nested) {s' : JsString} {x : ClosedJsonValue}
    (before : Blanks s s') (text : nested s' x t) : skipWhitespace s = s' := by
  obtain ⟨u, r, rfl, solid, _⟩ := opens _ _ _ text
  exact skipWhitespace_to before solid

theorem parseElements_complete (reads : ReadsAll hasOwnProperty setMember reader nested)
    (opens : Opens nested) {trees : List ClosedJsonValue} (elements : Elements nested s trees t)
    (enough : trees.length ≤ rounds)
    (builds : buildElements hasOwnProperty setMember trees = some xs) :
    parseElements reader rounds s = some (xs, t) := by
  induction elements generalizing xs rounds with
  | @last s s' r t x before text close =>
    obtain ⟨rounds, rfl⟩ : ∃ n, rounds = n + 1 := ⟨rounds - 1, by simp at enough; omega⟩
    rw [buildElements, buildElements] at builds
    obtain ⟨p, built, builds⟩ := Option.bind_eq_some_iff.mp builds
    cases builds
    have element := reads _ _ _ _ text (continuesNumber_symbol (by decide) close) built
    unfold parseElements
    rw [skipWhitespace_value opens before text, element]
    simp only [Option.bind_eq_bind, Option.bind_some, skipWhitespace_to close (by decide)]
    rw [if_neg (by decide)]
    exact if_pos trivial
  | @more s s' r r' t x trees before text comma _ ih =>
    obtain ⟨rounds, rfl⟩ : ∃ n, rounds = n + 1 := ⟨rounds - 1, by simp at enough; omega⟩
    rw [buildElements] at builds
    obtain ⟨p, built, builds⟩ := Option.bind_eq_some_iff.mp builds
    obtain ⟨later, laterBuilds, builds⟩ := Option.bind_eq_some_iff.mp builds
    cases builds
    have element := reads _ _ _ _ text (continuesNumber_symbol (by decide) comma) built
    unfold parseElements
    rw [skipWhitespace_value opens before text, element]
    simp only [Option.bind_eq_bind, Option.bind_some, skipWhitespace_to comma (by decide)]
    rw [if_pos trivial, ih (Nat.le_of_succ_le_succ enough) laterBuilds]
    rfl

theorem parseMembers_member (reads : ReadsAll hasOwnProperty setMember reader nested)
    (opens : Opens nested) {m : JsString × ClosedJsonValue} {p : ParsedValue} {separator : UInt16}
    (member : Member nested s m r) (fresh : hasOwnProperty object m.1 = false)
    (built : buildValue hasOwnProperty setMember m.2 = some p) (after : Blanks r (separator :: t))
    (symbol : separator = unit ',' ∨ separator = unit '}') :
    parseMembers hasOwnProperty setMember reader (rounds + 1) object s =
      if separator = unit ',' then
        parseMembers hasOwnProperty setMember reader rounds (setMember object m.1 p) t
      else some (setMember object m.1 p, t) := by
  obtain ⟨quote, isName, colon, before, text⟩ := member
  have solid : isWhitespace separator = false := by rcases symbol with rfl | rfl <;> decide
  have ends : continuesNumber r = false :=
    continuesNumber_symbol (by rcases symbol with rfl | rfl <;> decide) after
  rw [parseMembers, skipWhitespace_to quote (by decide)]
  simp only [if_true, parseString_iff.mpr isName, Option.bind_eq_bind, Option.bind_some, fresh,
    Bool.false_eq_true, if_false, skipWhitespace_to colon (by decide),
    skipWhitespace_value opens before text, reads _ _ _ _ text ends built,
    skipWhitespace_to after solid]
  rcases symbol with rfl | rfl
  · rw [if_pos rfl, if_pos rfl]
  · rw [if_neg (by decide), if_pos rfl, if_neg (by decide)]

theorem parseMembers_complete (reads : ReadsAll hasOwnProperty setMember reader nested)
    (opens : Opens nested) {trees : List (JsString × ClosedJsonValue)} {object' : JsObject}
    (members : Members nested s trees t) (enough : trees.length ≤ rounds)
    (builds : buildMembers hasOwnProperty setMember object trees = some object') :
    parseMembers hasOwnProperty setMember reader rounds object s = some (object', t) := by
  have step : ∀ {object m ms}, buildMembers hasOwnProperty setMember object (m :: ms) =
      some object' → ∃ p, hasOwnProperty object m.1 = false ∧
        buildValue hasOwnProperty setMember m.2 = some p ∧
        buildMembers hasOwnProperty setMember (setMember object m.1 p) ms = some object' := by
    intro object m ms builds
    obtain ⟨name, x⟩ := m
    rw [buildMembers] at builds
    split at builds
    · exact nomatch builds
    · next fresh =>
      obtain ⟨p, built, later⟩ := Option.bind_eq_some_iff.mp builds
      exact ⟨p, Bool.eq_false_iff.mpr fresh, built, later⟩
  induction members generalizing object rounds with
  | last first close =>
    obtain ⟨rounds, rfl⟩ : ∃ n, rounds = n + 1 := ⟨rounds - 1, by simp at enough; omega⟩
    obtain ⟨p, fresh, built, later⟩ := step builds
    rw [buildMembers] at later
    cases later
    rw [parseMembers_member reads opens first fresh built close (.inr rfl), if_neg (by decide)]
  | more first comma _ ih =>
    obtain ⟨rounds, rfl⟩ : ∃ n, rounds = n + 1 := ⟨rounds - 1, by simp at enough; omega⟩
    obtain ⟨p, fresh, built, later⟩ := step builds
    rw [parseMembers_member reads opens first fresh built comma (.inl rfl), if_pos rfl]
    exact ih (Nat.le_of_succ_le_succ enough) later

theorem consume_iff (word : Text) :
    consume word s = some t ↔ s = word.map unit ++ t := by
  unfold consume
  constructor
  · intro consumed
    split at consumed
    · next ahead =>
      obtain ⟨rest, rfl⟩ := ahead
      rw [List.drop_left' (List.length_map unit)] at consumed
      cases consumed
      rfl
    · exact nomatch consumed
  · rintro rfl
    rw [if_pos (List.prefix_append _ _), List.drop_left' (List.length_map unit)]

theorem blanks_trans (first : Blanks r s) (second : Blanks s t) : Blanks r t := by
  induction first with
  | nil => exact second
  | cons blank _ ih => exact .cons blank (ih second)

theorem elements_after (blanks : Blanks r s) (elements : Elements nested s xs t) :
    Elements nested r xs t := by
  cases elements with
  | last before element close => exact .last (blanks_trans blanks before) element close
  | more before element comma later => exact .more (blanks_trans blanks before) element comma later

theorem members_after {ms : List (JsString × ClosedJsonValue)} (blanks : Blanks r s)
    (members : Members nested s ms t) : Members nested r ms t := by
  have opened : ∀ {m t}, Member nested s m t → Member nested r m t := 
    fun ⟨opens, isName, colon, before, value⟩ =>
      .mk (blanks_trans blanks opens) isName colon before value
  cases members with
  | last first close => exact .last (opened first) close
  | more first comma later => exact .more (opened first) comma later

theorem parseArray_sound (reads : ReadsOnly hasOwnProperty setMember reader nested)
    (parsed : parseArray reader s = some (xs, t)) :
    ∃ trees, ValueText nested (unit '[' :: s) (.array trees) t ∧
      buildElements hasOwnProperty setMember trees = some xs := by
  unfold parseArray at parsed
  split at parsed
  · exact nomatch parsed
  · next u rest skipped =>
    have before := blanks_of_skipWhitespace skipped
    split at parsed
    · next close =>
      cases parsed
      exact ⟨[], .emptyArray (close ▸ before), by rw [buildElements]⟩
    · obtain ⟨trees, elements, builds⟩ := parseElements_sound reads parsed
      exact ⟨trees, .array (elements_after before elements), builds⟩

theorem parseObject_sound (reads : ReadsOnly hasOwnProperty setMember reader nested)
    (parsed : parseObject hasOwnProperty setMember reader s = some (object, t)) :
    ∃ trees, ValueText nested (unit '{' :: s) (.record trees) t ∧
      buildMembers hasOwnProperty setMember .empty trees = some object := by
  unfold parseObject at parsed
  split at parsed
  · exact nomatch parsed
  · next u rest skipped =>
    have before := blanks_of_skipWhitespace skipped
    split at parsed
    · next close =>
      cases parsed
      exact ⟨[], .emptyObject (close ▸ before), by rw [buildMembers]⟩
    · obtain ⟨trees, members, builds⟩ := parseMembers_sound reads parsed
      exact ⟨trees, .object (members_after before members), builds⟩

theorem parseArray_complete (reads : ReadsAll hasOwnProperty setMember reader nested)
    (opens : Opens nested) (consumes : Consumes nested) {trees : List ClosedJsonValue}
    (elements : Elements nested s trees t)
    (builds : buildElements hasOwnProperty setMember trees = some xs) :
    parseArray reader s = some (xs, t) := by
  -- the first element is what the blanks lead to
  obtain ⟨u, rest, skipped, opening⟩ : ∃ u rest, skipWhitespace s = u :: rest ∧ u ≠ unit ']' := by
    cases elements with
    | last before element _ | more before element _ _ =>
      obtain ⟨u, rest, rfl, solid, opening⟩ := opens _ _ _ element
      exact ⟨u, rest, skipWhitespace_to before solid, opening⟩
  have whole : parseElements reader s.length s = some (xs, t) :=
    parseElements_complete reads opens elements
      (Nat.le_trans (Nat.le_add_right _ _) (length_of_elements consumes elements)) builds
  have skips : skipWhitespace (u :: rest) = skipWhitespace s := by
    rw [skipWhitespace_of_blanks (blanks_of_skipWhitespace skipped)]
  unfold parseArray
  rw [skipped]
  simp only [if_neg opening]
  rw [← whole]
  cases s.length with
  | zero => rfl
  | succ rounds => rw [parseElements, parseElements, skips]

theorem parseObject_complete (reads : ReadsAll hasOwnProperty setMember reader nested)
    (opens : Opens nested) (consumes : Consumes nested) {trees : List (JsString × ClosedJsonValue)}
    (members : Members nested s trees t)
    (builds : buildMembers hasOwnProperty setMember .empty trees = some object) :
    parseObject hasOwnProperty setMember reader s = some (object, t) := by
  obtain ⟨rest, skipped⟩ : ∃ rest, skipWhitespace s = unit '"' :: rest := by
    cases members with
    | last first _ | more first _ _ =>
      obtain ⟨quote, _⟩ := first
      exact ⟨_, skipWhitespace_to quote (by decide)⟩
  have whole : parseMembers hasOwnProperty setMember reader s.length .empty s = some (object, t) :=
    parseMembers_complete reads opens members
      (Nat.le_trans (Nat.le_add_right _ _) (length_of_members consumes members)) builds
  have skips : skipWhitespace (unit '"' :: rest) = skipWhitespace s := by
    rw [skipWhitespace_of_blanks (blanks_of_skipWhitespace skipped)]
  unfold parseObject
  rw [skipped]
  show (if unit '"' = unit '}' then _ else _) = _
  rw [if_neg (by decide), ← whole]
  cases s.length with
  | zero => rfl
  | succ rounds => rw [parseMembers, parseMembers, skips]

theorem parseLevel_sound (reads : ReadsOnly hasOwnProperty setMember reader nested) :
    ReadsOnly hasOwnProperty setMember (parseLevel hasOwnProperty setMember reader)
      (ValueText nested) := by
  intro s p t parsed
  cases s with
  | nil => exact nomatch parsed
  | cons u s =>
    have level : parseLevel hasOwnProperty setMember reader (u :: s) = some (p, t) := parsed
    unfold parseLevel at level
    simp only at level
    split at level
    · next isBrace =>
      obtain ⟨⟨object, t'⟩, read, same⟩ := Option.map_eq_some_iff.mp level
      cases same
      obtain ⟨trees, text, builds⟩ := parseObject_sound reads read
      exact ⟨.record trees, isBrace ▸ text, by rw [buildValue, builds]; rfl⟩
    split at level
    · next isBracket =>
      obtain ⟨⟨xs, t'⟩, read, same⟩ := Option.map_eq_some_iff.mp level
      cases same
      obtain ⟨trees, text, builds⟩ := parseArray_sound reads read
      exact ⟨.array trees, isBracket ▸ text, by rw [buildValue, builds]; rfl⟩
    split at level
    · next isQuote =>
      obtain ⟨⟨v, t'⟩, read, same⟩ := Option.map_eq_some_iff.mp level
      cases same
      exact ⟨.string v, isQuote ▸ .string (parseString_iff.mp read), by rw [buildValue]⟩
    split at level
    · obtain ⟨t', read, same⟩ := Option.map_eq_some_iff.mp level
      cases same
      exact ⟨.boolean true, (consume_iff _).mp read ▸ .true t, by rw [buildValue]⟩
    split at level
    · obtain ⟨t', read, same⟩ := Option.map_eq_some_iff.mp level
      cases same
      exact ⟨.boolean false, (consume_iff _).mp read ▸ .false t, by rw [buildValue]⟩
    split at level
    · obtain ⟨t', read, same⟩ := Option.map_eq_some_iff.mp level
      cases same
      exact ⟨.null, (consume_iff _).mp read ▸ .null t, by rw [buildValue]⟩
    split at level
    · obtain ⟨⟨n, t'⟩, read, same⟩ := Option.map_eq_some_iff.mp level
      cases same
      obtain ⟨w, is, word, _⟩ := parseInteger_iff.mp read
      exact ⟨.number n, is ▸ .number word, by rw [buildValue]⟩
    · exact nomatch level

theorem integer_opens {n : JsNumber} (hw : IntegerWord w n) :
    ∃ u r, w = u :: r ∧ (u = unit '-' || isDigitUnit u) = true := by
  cases hw with
  | positive hd =>
    obtain ⟨u, w, rfl⟩ := List.exists_cons_of_ne_nil hd.nonempty
    exact ⟨u, w, rfl, by rw [hd.all u List.mem_cons_self, Bool.or_true]⟩
  | negative => exact ⟨_, _, rfl, rfl⟩

theorem parseLevel_complete (reads : ReadsAll hasOwnProperty setMember reader nested)
    (opens : Opens nested) (consumes : Consumes nested) :
    ReadsAll hasOwnProperty setMember (parseLevel hasOwnProperty setMember reader)
      (ValueText nested) := by
  intro s x p t text ends built
  cases text with
  | null =>
    rw [buildValue] at built
    cases built
    have read := (consume_iff (t := t) "null".toList).mpr rfl
    show Option.map _ (consume "null".toList ("null".toList.map unit ++ t)) = _
    rw [read]
    rfl
  | true =>
    rw [buildValue] at built
    cases built
    have read := (consume_iff (t := t) "true".toList).mpr rfl
    show Option.map _ (consume "true".toList ("true".toList.map unit ++ t)) = _
    rw [read]
    rfl
  | false =>
    rw [buildValue] at built
    cases built
    have read := (consume_iff (t := t) "false".toList).mpr rfl
    show Option.map _ (consume "false".toList ("false".toList.map unit ++ t)) = _
    rw [read]
    rfl
  | @number w t n word =>
    rw [buildValue] at built
    cases built
    have read := parseInteger_iff.mpr ⟨w, rfl, word, ends⟩
    obtain ⟨u, r, rfl, opening⟩ := integer_opens word
    have other : ∀ c, (unit c = unit '-' || isDigitUnit (unit c)) = false → u ≠ unit c := by
      rintro c not rfl
      exact absurd opening (by rw [not]; exact Bool.false_ne_true)
    rw [List.cons_append] at read ⊢
    unfold parseLevel
    simp only
    rw [if_neg (other '{' (by decide)), if_neg (other '[' (by decide)),
      if_neg (other '"' (by decide)), if_neg (other 't' (by decide)),
      if_neg (other 'f' (by decide)), if_neg (other 'n' (by decide)), if_pos opening, read]
    rfl
  | @string s v t body =>
    rw [buildValue] at built
    cases built
    show Option.map _ (parseString s) = _
    rw [parseString_iff.mpr body]
    rfl
  | @emptyArray s t close =>
    rw [buildValue, buildElements] at built
    cases built
    show Option.map _ (parseArray reader s) = _
    rw [parseArray, skipWhitespace_to close (by decide)]
    rfl
  | @array s t xs elements =>
    rw [buildValue] at built
    obtain ⟨ys, builds, same⟩ := Option.bind_eq_some_iff.mp built
    cases same
    show Option.map _ (parseArray reader s) = _
    rw [parseArray_complete reads opens consumes elements builds]
    rfl
  | @emptyObject s t close =>
    rw [buildValue, buildMembers] at built
    cases built
    show Option.map _ (parseObject hasOwnProperty setMember reader s) = _
    rw [parseObject, skipWhitespace_to close (by decide)]
    rfl
  | @object s t ms members =>
    rw [buildValue] at built
    obtain ⟨object, builds, same⟩ := Option.bind_eq_some_iff.mp built
    cases same
    show Option.map _ (parseObject hasOwnProperty setMember reader s) = _
    rw [parseObject_complete reads opens consumes members builds]
    rfl

theorem opens_valueWithin (levels : Nat) : Opens (ValueWithin levels) := by
  cases levels with
  | zero => exact fun _ _ _ none => none.elim
  | succ levels => exact fun _ _ _ text => valueText_opens text

end GrammarLemmas

theorem parseValue_sound (levels : Nat) :
    ReadsOnly hasOwnProperty setMember (parseValue hasOwnProperty setMember levels)
      (ValueWithin levels) := by
  induction levels with
  | zero => exact fun _ _ _ none => nomatch none
  | succ levels ih => exact parseLevel_sound ih

theorem parseValue_complete (levels : Nat) :
    ReadsAll hasOwnProperty setMember (parseValue hasOwnProperty setMember levels)
      (ValueWithin levels) := by
  induction levels with
  | zero => exact fun _ _ _ _ none => none.elim
  | succ levels ih =>
    exact parseLevel_complete ih (opens_valueWithin levels) (consumes_valueWithin levels)

theorem parseText_iff {s : JsString} {v : ClosedJsonValue} :
    parseText hasOwnProperty setMember s = some v ↔
      ∃ x p, TextOf s x ∧ buildValue hasOwnProperty setMember x = some p ∧ p.value = v := by
  unfold parseText
  constructor
  · intro parsed
    obtain ⟨⟨p, rest⟩, value, parsed⟩ := Option.bind_eq_some_iff.mp parsed
    obtain ⟨x, text, built⟩ := parseValue_sound _ _ _ _ _ _ value
    simp only at parsed
    split at parsed
    · next past =>
      exact ⟨x, p, ⟨_, rest, blanks_skipWhitespace s, text, past ▸ blanks_skipWhitespace rest⟩,
        built, Option.some.inj parsed⟩
    · exact nomatch parsed
  · rintro ⟨x, p, ⟨s', t, before, text, after⟩, built, rfl⟩
    have ends : continuesNumber t = false := by
      cases after with
      | nil => rfl
      | cons blank _ =>
        simp only [isWhitespace, Bool.or_eq_true, decide_eq_true_eq] at blank
        rcases blank with ((rfl | rfl) | rfl) | rfl <;> rfl
    have past : skipWhitespace t = [] := skipWhitespace_of_blanks after
    rw [skipWhitespace_value (opens_valueWithin _) before text,
      parseValue_complete _ _ _ _ _ _ _ text ends built]
    exact if_pos past

end Runtime

/-! ## One value for each text -/

def recordMember (object : JsObject) (name : JsString) (assigned : ParsedValue) : JsObject :=
  ⟨object.members ++ [(name, assigned.value)], object.findsAccessor⟩

mutual

theorem buildValue_recording : ∀ x : ClosedJsonValue,
    ∃ p, buildValue (fun _ _ => false) recordMember x = some p ∧ p.value = x
  | .null | .boolean _ | .number _ | .string _ => ⟨_, by rw [buildValue], rfl⟩
  | .array xs => ⟨⟨.array xs, true⟩, by rw [buildValue, buildElements_recording xs]; rfl, rfl⟩
  | .record ms => by
    obtain ⟨object, built, members⟩ := buildMembers_recording ms .empty
    refine ⟨object.toParsedValue, by rw [buildValue, built]; rfl, ?_⟩
    show ClosedJsonValue.record object.members = _
    rw [members]
    rfl

theorem buildElements_recording : ∀ xs : List ClosedJsonValue,
    buildElements (fun _ _ => false) recordMember xs = some xs
  | [] => by rw [buildElements]
  | x :: xs => by
    obtain ⟨p, built, value⟩ := buildValue_recording x
    rw [buildElements, built, buildElements_recording xs, ← value]
    rfl

theorem buildMembers_recording : ∀ (ms : List (JsString × ClosedJsonValue)) (object : JsObject),
    ∃ object', buildMembers (fun _ _ => false) recordMember object ms = some object' ∧
      object'.members = object.members ++ ms
  | [], before => ⟨before, by rw [buildMembers], (List.append_nil _).symm⟩
  | (name, x) :: ms, before => by
    obtain ⟨p, built, value⟩ := buildValue_recording x
    obtain ⟨after, later, members⟩ := buildMembers_recording ms (recordMember before name p)
    refine ⟨after, ?_, ?_⟩
    · rw [buildMembers, if_neg Bool.false_ne_true, built]
      exact later
    · rw [members, ← value]
      exact List.append_assoc _ _ _

end

theorem textOf_iff {x : ClosedJsonValue} :
    TextOf s x ↔ parseText (fun _ _ => false) recordMember s = some x := by
  rw [parseText_iff]
  constructor
  · intro isText
    obtain ⟨p, built, same⟩ := buildValue_recording x
    exact ⟨x, p, isText, built, same⟩
  · rintro ⟨y, p, isText, built, rfl⟩
    obtain ⟨q, built', same⟩ := buildValue_recording y
    rw [built] at built'
    cases built'
    rwa [same]

theorem textOf_unique {x y : ClosedJsonValue} (first : TextOf s x) (second : TextOf s y) :
    x = y := by
  have read := textOf_iff.mp first
  rw [textOf_iff.mp second] at read
  exact (Option.some.inj read).symm

end PersonalOs.ExclusionPolicy
