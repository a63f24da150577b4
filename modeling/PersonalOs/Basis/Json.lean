import PersonalOs.Basis.Readable

/-!
# Canonical JSON texts

JSON values without fractions and their texts as RFC 8785 fixes them: no blanks, the shortest
escapes, members in the order of their names' UTF-16 code units.
-/

namespace PersonalOs

open Readable

abbrev Text := List Char

instance : LawfulBEq Text := inferInstance

/-! ## Values -/

inductive Json
  | null
  | bool (value : Bool)
  | integer (value : Int)
  | string (value : Text)
  | array (elements : List Json)
  | object (members : List (Text × Json))

namespace Json

/-! ## Strings -/

/-- The escape of a C0 control: the short one where JSON has it. -/
def controlEscape : Nat → Text
  | 0x08 => ['\\', 'b']
  | 0x09 => ['\\', 't']
  | 0x0A => ['\\', 'n']
  | 0x0C => ['\\', 'f']
  | 0x0D => ['\\', 'r']
  | code => '\\' :: 'u' :: (Nat.toDigits 16 code).leftpad 4 '0'

/-- A character inside a string. -/
def escape (c : Char) : Text :=
  if c = '"' ∨ c = '\\' then ['\\', c]
  else if c.toNat < 0x20 then controlEscape c.toNat
  else [c]

/-- A string between quotes. -/
def quoted (s : Text) : Text := '"' :: s.flatMap escape ++ ['"']

theorem controlEscape_ahead : ∀ m < 0x20, ∀ n < 0x20,
    controlEscape m <+: controlEscape n → m = n := by
  decide

theorem controlEscape_opens : ∀ n < 0x20, (controlEscape n)[0]? = some '\\' ∧
    (controlEscape n)[1]? ≠ some '"' ∧ (controlEscape n)[1]? ≠ some '\\' ∧
      2 ≤ (controlEscape n).length := by
  decide

/-- A control's escape begins with a backslash and goes on with no quote or backslash. -/
theorem controlEscape_cons {n : Nat} (hco : n < 0x20) : ∃ x t,
    controlEscape n = '\\' :: x :: t ∧ x ≠ '"' ∧ x ≠ '\\' := by
  obtain ⟨hf, hq, hs, hlo⟩ := controlEscape_opens n hco
  match is : controlEscape n with
  | [] | [_] =>
    rw [is] at hlo
    exact absurd hlo (by simp)
  | a :: x :: t =>
    rw [is] at hf hq hs
    refine ⟨x, t, ?_, fun he => hq (by rw [he]; rfl), fun he => hs (by rw [he]; rfl)⟩
    rw [Option.some.inj hf]

inductive Escaped (c : Char) : Text → Prop
  | marked (hm : c = '"' ∨ c = '\\') : Escaped c ['\\', c]
  | control (hc : c.toNat < 0x20) : Escaped c (controlEscape c.toNat)
  | literal (hq : c ≠ '"') (hs : c ≠ '\\') : Escaped c [c]

theorem escape_escaped (c : Char) : Escaped c (escape c) := by
  unfold escape
  split
  next hm => exact .marked hm
  next hp =>
    rw [not_or] at hp
    split
    next hc => exact .control hc
    · exact .literal hp.1 hp.2

theorem escape_apart (c : Char) : Apart Anything escape c := by
  intro d r s _ _ he
  have hl := escape_escaped c
  have hr := escape_escaped d
  generalize escape c = u at hl he
  generalize escape d = v at hr he
  cases hl with
  | marked hm =>
    cases hr with
    | marked =>
      simp only [List.cons_append, List.nil_append, List.cons.injEq, true_and] at he
      exact he
    | control hc =>
      obtain ⟨x, t, is, hq, hs⟩ := controlEscape_cons hc
      rw [is] at he
      simp only [List.cons_append, List.nil_append, List.cons.injEq, true_and] at he
      rcases hm with rfl | rfl
      · exact absurd he.1.symm hq
      · exact absurd he.1.symm hs
    | literal _ hs => exact absurd (List.cons.inj he).1.symm hs
  | control hc =>
    cases hr with
    | marked hm =>
      obtain ⟨x, t, is, hq, hs⟩ := controlEscape_cons hc
      rw [is] at he
      simp only [List.cons_append, List.nil_append, List.cons.injEq, true_and] at he
      rcases hm with rfl | rfl
      · exact absurd he.1 hq
      · exact absurd he.1 hs
    | control hc' =>
      have heq : c.toNat = d.toNat := by
        rcases List.prefix_or_prefix_of_prefix (List.prefix_append _ r)
            (he ▸ List.prefix_append _ s) with ha | ha
        · exact controlEscape_ahead _ hc _ hc' ha
        · exact (controlEscape_ahead _ hc' _ hc ha).symm
      rw [heq] at he
      exact ⟨Char.toNat_inj.mp heq, List.append_cancel_left he⟩
    | literal _ hs =>
      obtain ⟨x, t, is, _⟩ := controlEscape_cons hc
      rw [is] at he
      exact absurd (List.cons.inj he).1.symm hs
  | literal _ hs =>
    cases hr with
    | marked => exact absurd (List.cons.inj he).1 hs
    | control hc =>
      obtain ⟨x, t, is, _⟩ := controlEscape_cons hc
      rw [is] at he
      exact absurd (List.cons.inj he).1 hs
    | literal => exact List.cons.inj he

theorem escape_avoids : Avoids '"' escape := by
  intro c r s he
  have is := escape_escaped c
  generalize escape c = u at is he
  cases is with
  | marked => exact absurd (List.cons.inj he).1 (by decide)
  | control hc =>
    obtain ⟨x, t, is, _⟩ := controlEscape_cons hc
    rw [is] at he
    exact absurd (List.cons.inj he).1 (by decide)
  | literal hq => exact absurd (List.cons.inj he).1 hq

theorem quoted_apart (s : Text) : Apart Anything quoted s := by
  intro t r r' _ _ he
  rw [quoted, quoted, List.append_assoc, List.append_assoc] at he
  exact flatMap_apart (fun c _ => escape_apart c) escape_avoids (List.cons.inj he).2

/-! ## Integers -/

/-- The plain decimal of an integer. -/
def decimal : Int → Text
  | .ofNat n => Nat.toDigits 10 n
  | .negSucc n => '-' :: Nat.toDigits 10 (n + 1)

/-- A rest that does not go on with digits. -/
def Ends (r : Text) : Prop := Stops (fun c => c.isDigit = true) r

variable {c : Char}

theorem isDigit_of_toDigits {n : Nat} (hm : c ∈ Nat.toDigits 10 n) : c.isDigit = true :=
  Nat.isDigit_of_mem_toDigits (by decide) (by decide) hm

theorem toDigits_cons (n : Nat) : ∃ c t, Nat.toDigits 10 n = c :: t ∧ c.isDigit = true := by
  obtain ⟨c, t, is⟩ := List.exists_cons_of_ne_nil (Nat.toDigits_ne_nil (n := n) (b := 10))
  exact ⟨c, t, is, isDigit_of_toDigits (n := n) (by rw [is]; exact List.mem_cons_self)⟩

theorem toDigits_apart (n : Nat) : Apart Ends (Nat.toDigits 10) n := by
  intro m r s he he' hs
  obtain ⟨hd, hr⟩ := run_apart (fun c hm => isDigit_of_toDigits hm)
    (fun c hm => isDigit_of_toDigits hm) he he' hs
  refine ⟨?_, hr⟩
  rw [← Nat.ofDigitChars_ten_toDigits (n := n), hd, Nat.ofDigitChars_ten_toDigits]

theorem decimal_apart (i : Int) : Apart Ends decimal i := by
  intro j r s hen he' he
  cases i with
  | ofNat m =>
    cases j with
    | ofNat n =>
      obtain ⟨rfl, hr⟩ := toDigits_apart m n r s hen he' he
      exact ⟨rfl, hr⟩
    | negSucc n =>
      obtain ⟨c, t, is, hd⟩ := toDigits_cons m
      rw [decimal, decimal, is] at he
      rw [(List.cons.inj he).1] at hd
      exact absurd hd (by decide)
  | negSucc m =>
    cases j with
    | ofNat n =>
      obtain ⟨c, t, is, hd⟩ := toDigits_cons n
      rw [decimal, decimal, is] at he
      rw [← (List.cons.inj he).1] at hd
      exact absurd hd (by decide)
    | negSucc n =>
      obtain ⟨heq, hr⟩ := toDigits_apart (m + 1) (n + 1) r s hen he' (List.cons.inj he).2
      exact ⟨by rw [Nat.succ.inj heq], hr⟩

/-! ## Texts of values -/

mutual

/-- The text of a value, its members in the order they stand. -/
def render : Json → Text
  | .null => ['n', 'u', 'l', 'l']
  | .bool true => ['t', 'r', 'u', 'e']
  | .bool false => ['f', 'a', 'l', 's', 'e']
  | .integer i => decimal i
  | .string s => quoted s
  | .array xs => '[' :: [','].intercalate (renderAll xs) ++ [']']
  | .object ms => '{' :: [','].intercalate (renderMembers ms) ++ ['}']

def renderAll : List Json → List Text
  | [] => []
  | x :: xs => render x :: renderAll xs

def renderMembers : List (Text × Json) → List Text
  | [] => []
  | (name, value) :: ms => (quoted name ++ ':' :: render value) :: renderMembers ms

end

def member (m : Text × Json) : Text := quoted m.1 ++ ':' :: render m.2

theorem renderAll_eq (xs : List Json) : renderAll xs = xs.map render := by
  induction xs with
  | nil => rfl
  | cons x xs ih => rw [renderAll, ih, List.map_cons]

theorem renderMembers_eq (ms : List (Text × Json)) : renderMembers ms = ms.map member := by
  induction ms with
  | nil => rfl
  | cons m ms ih => rw [renderMembers, ih, List.map_cons, member]

theorem render_array (xs : List Json) : render (.array xs) = '[' :: items ',' render xs ++ [']'] := by
  rw [render, renderAll_eq, items]

theorem render_object (ms : List (Text × Json)) :
    render (.object ms) = '{' :: items ',' member ms ++ ['}'] := by
  rw [render, renderMembers_eq, items]

/-- What a text opens with tells the kind of its value. -/
inductive Kind
  | null
  | bool (value : Bool)
  | integer
  | string
  | array
  | object

def kind : Json → Kind
  | .null => .null
  | .bool b => .bool b
  | .integer _ => .integer
  | .string _ => .string
  | .array _ => .array
  | .object _ => .object

def Kind.opensWith (c : Char) : Kind :=
  if c = 'n' then .null
  else if c = 't' then .bool true
  else if c = 'f' then .bool false
  else if c = '"' then .string
  else if c = '[' then .array
  else if c = '{' then .object
  else .integer

theorem Kind.opensWith_digit (digit : c.isDigit = true) :
    Kind.opensWith c = .integer := by
  unfold Kind.opensWith
  repeat rw [if_neg (by rintro rfl; exact absurd digit (by decide))]

/-- Every text opens with the symbol of its kind, which is no separator and no closing symbol. -/
theorem render_opens (v : Json) : ∃ c t, render v = c :: t ∧ Kind.opensWith c = v.kind ∧
    c ≠ ']' ∧ c ≠ '}' := by
  cases v with
  | null => exact ⟨_, _, by rw [render], rfl, by decide, by decide⟩
  | bool b => cases b <;> exact ⟨_, _, by rw [render], rfl, by decide, by decide⟩
  | integer i =>
    cases i with
    | ofNat n =>
      obtain ⟨c, t, is, digit⟩ := toDigits_cons n
      refine ⟨c, t, by rw [render, decimal, is], Kind.opensWith_digit digit, ?_, ?_⟩
      · rintro rfl
        exact absurd digit (by decide)
      · rintro rfl
        exact absurd digit (by decide)
    | negSucc n => exact ⟨_, _, by rw [render, decimal], rfl, by decide, by decide⟩
  | string s => exact ⟨_, _, by rw [render, quoted]; rfl, rfl, by decide, by decide⟩
  | array xs => exact ⟨_, _, by rw [render]; rfl, rfl, by decide, by decide⟩
  | object ms => exact ⟨_, _, by rw [render]; rfl, rfl, by decide, by decide⟩

theorem render_avoids : Avoids ']' render := by
  intro v r s same
  obtain ⟨c, t, is, _, opening, _⟩ := render_opens v
  rw [is] at same
  exact opening (List.cons.inj same).1

theorem member_avoids : Avoids '}' member := by
  intro m r s same
  rw [member, quoted] at same
  exact absurd (List.cons.inj same).1 (by decide)

theorem kind_of_render {v w : Json} {r s : Text} (same : render v ++ r = render w ++ s) :
    v.kind = w.kind := by
  obtain ⟨c, t, is, opens, _⟩ := render_opens v
  obtain ⟨d, u, is', opens', _⟩ := render_opens w
  rw [is, is'] at same
  rw [← opens, ← opens', (List.cons.inj same).1]

theorem ends_cons (symbol : c.isDigit = false) (t : Text) : Ends (c :: t) :=
  stops_cons (by rw [symbol]; exact Bool.false_ne_true)

theorem member_apart {m : Text × Json} (value : Apart Ends render m.2) : Apart Ends member m := by
  intro n r s ends ends' same
  rw [member, member, List.append_assoc, List.append_assoc] at same
  obtain ⟨name, rest⟩ := quoted_apart m.1 n.1 _ _ trivial trivial same
  obtain ⟨value, rest⟩ := value n.2 r s ends ends' (List.cons.inj rest).2
  exact ⟨Prod.ext name value, rest⟩

mutual

/-- A value's text is told from every other one and from what follows it. -/
theorem render_apart : ∀ v : Json, Apart Ends render v
  | .null => by
    intro w r s _ _ same
    have kinds := kind_of_render same
    cases w <;> cases kinds
    exact ⟨rfl, List.append_cancel_left same⟩
  | .bool b => by
    intro w r s _ _ same
    have kinds := kind_of_render same
    cases w <;> cases kinds
    exact ⟨rfl, List.append_cancel_left same⟩
  | .integer i => by
    intro w r s ends ends' same
    have kinds := kind_of_render same
    cases w <;> cases kinds
    next j =>
      rw [render, render] at same
      obtain ⟨rfl, rest⟩ := decimal_apart i j r s ends ends' same
      exact ⟨rfl, rest⟩
  | .string t => by
    intro w r s _ _ same
    have kinds := kind_of_render same
    cases w <;> cases kinds
    next u =>
      rw [render, render] at same
      obtain ⟨rfl, rest⟩ := quoted_apart t u r s trivial trivial same
      exact ⟨rfl, rest⟩
  | .array xs => by
    intro w r s _ _ same
    have kinds := kind_of_render same
    cases w <;> cases kinds
    next ys =>
      rw [render_array, render_array, List.append_assoc, List.append_assoc] at same
      obtain ⟨rfl, rest⟩ := items_apart (renderAll_apart xs) render_avoids
        (ends_cons (by decide)) (ends_cons (by decide)) (by decide) (List.cons.inj same).2
      exact ⟨rfl, rest⟩
  | .object ms => by
    intro w r s _ _ same
    have kinds := kind_of_render same
    cases w <;> cases kinds
    next ns =>
      rw [render_object, render_object, List.append_assoc, List.append_assoc] at same
      obtain ⟨rfl, rest⟩ := items_apart (renderMembers_apart ms) member_avoids
        (ends_cons (by decide)) (ends_cons (by decide)) (by decide) (List.cons.inj same).2
      exact ⟨rfl, rest⟩

theorem renderAll_apart : ∀ xs : List Json, ∀ x ∈ xs, Apart Ends render x
  | [] => by simp
  | y :: ys => by
    intro x present
    rcases List.mem_cons.mp present with same | later
    · rw [same]
      exact render_apart y
    · exact renderAll_apart ys x later

theorem renderMembers_apart : ∀ ms : List (Text × Json), ∀ m ∈ ms, Apart Ends member m
  | [] => by simp
  | (name, value) :: ms => by
    intro m present
    rcases List.mem_cons.mp present with same | later
    · rw [same]
      exact member_apart (render_apart value)
    · exact renderMembers_apart ms m later

end

/-! ## The canonical order -/

def utf16Units (c : Char) : List Nat :=
  if c.toNat < 0x10000 then [c.toNat]
  else [0xD800 + (c.toNat - 0x10000) / 0x400, 0xDC00 + (c.toNat - 0x10000) % 0x400]

def utf16 (s : Text) : List Nat := s.flatMap utf16Units

/-- Members in the order of their names. -/
def sortMembers {β : Type*} (ms : List (Text × β)) : List (Text × β) :=
  ms.insertionSort fun m n => utf16 m.1 ≤ utf16 n.1

mutual

/-- A value with the members of its objects in canonical order. -/
def sorted : Json → Json
  | .array xs => .array (sortedAll xs)
  | .object ms => .object (sortMembers (sortedMembers ms))
  | v => v

def sortedAll : List Json → List Json
  | [] => []
  | x :: xs => sorted x :: sortedAll xs

def sortedMembers : List (Text × Json) → List (Text × Json)
  | [] => []
  | (name, value) :: ms => (name, sorted value) :: sortedMembers ms

end

theorem sortedAll_eq (xs : List Json) : sortedAll xs = xs.map sorted := by
  induction xs with
  | nil => rfl
  | cons x xs ih => rw [sortedAll, ih, List.map_cons]

theorem sortedMembers_eq (ms : List (Text × Json)) :
    sortedMembers ms = ms.map fun m => (m.1, sorted m.2) := by
  induction ms with
  | nil => rfl
  | cons m ms ih => rw [sortedMembers, ih, List.map_cons]

theorem sortMembers_map {β γ : Type*} (g : β → γ) (ms : List (Text × β)) :
    sortMembers (ms.map fun m => (m.1, g m.2)) = (sortMembers ms).map fun m => (m.1, g m.2) :=
  (List.map_insertionSort (fun m n : Text × β => utf16 m.1 ≤ utf16 n.1)
    (fun m n : Text × γ => utf16 m.1 ≤ utf16 n.1) _ ms fun _ _ _ _ => Iff.rfl).symm

def canonical (v : Json) : Text := render (sorted v)

theorem canonical_array (xs : List Json) :
    canonical (.array xs) = '[' :: [','].intercalate (xs.map canonical) ++ [']'] := by
  rw [canonical, sorted, render, renderAll_eq, sortedAll_eq, List.map_map]
  rfl

theorem canonical_object (ms : List (Text × Json)) :
    canonical (.object ms) = '{' :: [','].intercalate
      ((sortMembers ms).map fun m => quoted m.1 ++ ':' :: canonical m.2) ++ ['}'] := by
  rw [canonical, sorted, sortedMembers_eq, sortMembers_map, render, renderMembers_eq, List.map_map]
  rfl

theorem canonical_inj {v w : Json} : canonical v = canonical w ↔ sorted v = sorted w := by
  constructor
  · intro same
    exact (render_apart (sorted v)).injective (stops_nil _) same
  · intro same
    rw [canonical, same, canonical]

/-! ### Values in order -/

theorem sortMembers_sorted {β : Type*} (ms : List (Text × β)) :
    sortMembers (sortMembers ms) = sortMembers ms := by
  have total : Std.Total fun m n : Text × β => utf16 m.1 ≤ utf16 n.1 :=
    ⟨fun m n => le_total (utf16 m.1) (utf16 n.1)⟩
  have trans : IsTrans (Text × β) fun m n => utf16 m.1 ≤ utf16 n.1 :=
    ⟨fun _ _ _ => le_trans⟩
  exact (List.pairwise_insertionSort _ ms).insertionSort_eq

end Json

end PersonalOs
