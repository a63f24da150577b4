import PersonalOs.ExclusionPolicy.ParsedMembers

/-!
# Strings and encodable values

The values that the server's encoder accepts, and the strings of the plugin: their code units, and
the bytes that the plugin counts.
-/

namespace PersonalOs.ExclusionPolicy

open Json

/-! ## Encodable values -/

variable {isNormalized : Text → Bool}

/-- The values the encoders accept: safe integers, normalized strings, distinct names. -/
inductive Encodable (isNormalized : Text → Bool) : Json → Prop
  | null : Encodable isNormalized .null
  | bool (value : Bool) : Encodable isNormalized (.bool value)
  | integer {value : Int} (lower : -maximumSafeInteger ≤ value) (upper : value ≤ maximumSafeInteger) :
      Encodable isNormalized (.integer value)
  | string {value : Text} (normalized : isNormalized value = true) :
      Encodable isNormalized (.string value)
  | array {elements : List Json} (each : ∀ x ∈ elements, Encodable isNormalized x) :
      Encodable isNormalized (.array elements)
  | object {members : List (Text × Json)} (distinct : (members.map Prod.fst).Nodup)
      (names : ∀ m ∈ members, isNormalized m.1 = true)
      (each : ∀ m ∈ members, Encodable isNormalized m.2) :
      Encodable isNormalized (.object members)

namespace EncoderLemmas

theorem normalized_of_validateString {t u : Text}
    (ha : validateString isNormalized (t.map .scalar) = .ok u) : isNormalized t = true := by
  rw [validateString, characters_scalar] at ha
  simp only at ha
  split at ha
  · next hn => exact hn
  · cases ha

theorem validateNames_ok {β : Type} {sn : List Text} {me : List (Text × β)}
    {na : List (Text × β)} (ha : validateNames isNormalized sn
      (me.map fun m => (some (m.1.map .scalar), m.2)) = .ok na) :
    (∀ m ∈ me, isNormalized m.1 = true) ∧ (me.map Prod.fst).Nodup ∧ ∀ m ∈ me, m.1 ∉ sn := by
  induction me generalizing sn na with
  | nil => exact ⟨nofun, List.nodup_nil, nofun⟩
  | cons m me ih =>
    rw [List.map_cons, validateNames] at ha
    obtain ⟨te, hv, ha⟩ := bind_ok ha
    have he := validateString_scalar hv
    subst he
    split at ha
    · cases ha
    · next hu =>
      obtain ⟨r, hl, ha⟩ := bind_ok ha
      obtain ⟨hn, hd, hf⟩ := ih hl
      refine ⟨fun n hm => ?_, ?_, fun n hm => ?_⟩
      · rcases List.mem_cons.mp hm with rfl | hm
        · exact normalized_of_validateString hv
        · exact hn n hm
      · rw [List.map_cons, List.nodup_cons]
        refine ⟨fun hp => ?_, hd⟩
        obtain ⟨n, hm, he⟩ := List.mem_map.mp hp
        exact hf n hm (he ▸ List.mem_cons_self)
      · rcases List.mem_cons.mp hm with rfl | hm
        · exact hu
        · exact fun hs => hf n hm (List.mem_cons_of_mem _ hs)

theorem mapM_ok_of_mem {ε α β : Type} {f : α → Except ε β} {xs : List α} {ys : List β}
    (hm : xs.mapM f = .ok ys) : ∀ x ∈ xs, ∃ y, f x = .ok y := by
  induction xs generalizing ys with
  | nil => exact nofun
  | cons x xs ih =>
    rw [List.mapM_cons] at hm
    obtain ⟨y, hh, hm⟩ := bind_ok hm
    obtain ⟨r, ht, _⟩ := bind_ok hm
    intro z hp
    rcases List.mem_cons.mp hp with rfl | hp
    · exact ⟨y, hh⟩
    · exact ih ht z hp

end EncoderLemmas

open EncoderLemmas

mutual

theorem encodable_of_encodeInto : ∀ (v : Json) {text : Text},
    encodeInto isNormalized (pyValue v) = .ok text → Encodable isNormalized v
  | .null, _, _ => .null
  | .bool b, _, _ => .bool b
  | .integer i, text, wrote => by
    rw [pyValue, encodeInto] at wrote
    split at wrote
    · next safe => exact .integer safe.1 safe.2
    · cases wrote
  | .string s, text, wrote => by
    rw [pyValue, encodeInto] at wrote
    obtain ⟨t, valid, _⟩ := bind_ok wrote
    exact .string (normalized_of_validateString valid)
  | .array xs, text, wrote => by
    rw [pyValue, encodeInto] at wrote
    obtain ⟨pieces, encoded, _⟩ := bind_ok wrote
    exact .array (encodable_of_elements xs encoded)
  | .object ms, text, wrote => by
    rw [pyValue, encodeInto, encodeMembers_pyMembers] at wrote
    obtain ⟨named, valid, wrote⟩ := bind_ok wrote
    obtain ⟨normalized, distinct, _⟩ := validateNames_ok valid
    rw [validateNames_scalar valid] at wrote
    obtain ⟨pieces, ordered, _⟩ := bind_ok wrote
    rw [List.map_map] at distinct
    refine .object distinct (fun m member => normalized _ (List.mem_map_of_mem member))
      fun m member => ?_
    have sorted := (List.mem_insertionSort fun a b : Text × Except PayloadContractError Text =>
      utf16SortKey a.1 ≤ utf16SortKey b.1).mpr (List.mem_map_of_mem
        (f := fun m : Text × Json => (m.1, encodeInto isNormalized (pyValue m.2))) member)
    obtain ⟨piece, written⟩ := mapM_ok_of_mem ordered _ sorted
    obtain ⟨t, encoded, _⟩ := bind_ok written
    exact encodable_of_members ms m member encoded

theorem encodable_of_elements : ∀ (xs : List Json) {pieces : List Text},
    encodeElements isNormalized (pyElements xs) = .ok pieces → ∀ x ∈ xs, Encodable isNormalized x
  | [], _, _ => nofun
  | x :: xs, pieces, wrote => by
    rw [pyElements, encodeElements] at wrote
    obtain ⟨piece, first, wrote⟩ := bind_ok wrote
    obtain ⟨later, rest, _⟩ := bind_ok wrote
    intro y member
    rcases List.mem_cons.mp member with same | member
    · exact same ▸ encodable_of_encodeInto x first
    · exact encodable_of_elements xs rest y member

theorem encodable_of_members : ∀ (ms : List (Text × Json)), ∀ m ∈ ms, ∀ {text : Text},
    encodeInto isNormalized (pyValue m.2) = .ok text → Encodable isNormalized m.2
  | [] => nofun
  | (name, value) :: ms => by
    intro m present text wrote
    rcases List.mem_cons.mp present with same | later
    · rw [same] at wrote ⊢
      exact encodable_of_encodeInto value wrote
    · exact encodable_of_members ms m later wrote

end

namespace EncoderLemmas

theorem jsString_injective : Function.Injective jsString := by
  intro s t he
  have hr := codePoints_jsString s
  rw [he, codePoints_jsString, Option.some.injEq] at hr
  exact hr.symm

end EncoderLemmas

/-! ## Code units -/

namespace TextLemmas

theorem jsString_append (r s : Text) : jsString (r ++ s) = jsString r ++ jsString s := by
  rw [jsString, utf16, List.flatMap_append, List.map_append]
  rfl

theorem jsString_cons (c : Char) (s : Text) : jsString (c :: s) = jsString [c] ++ jsString s :=
  jsString_append [c] s

variable {c : Char}

theorem jsString_basic (hb : c.toNat < 0x10000) : jsString [c] = [unit c] := by
  rw [jsString, utf16, List.flatMap_singleton, utf16Units, if_pos hb]
  rfl

theorem toNat_unit (hb : c.toNat < 0x10000) : (unit c).toNat = c.toNat :=
  UInt16.toNat_ofNat_of_lt' hb

theorem unit_ne {d : Char} (hb : c.toNat < 0x10000) (hb' : d.toNat < 0x10000)
    (hd : c ≠ d) : unit c ≠ unit d := by
  intro hs
  have he := congrArg UInt16.toNat hs
  rw [toNat_unit hb, toNat_unit hb'] at he
  exact hd (Char.toNat_inj.mp he)

theorem isHighSurrogate_iff {co : Nat} : isHighSurrogate co = true ↔ 0xD800 ≤ co ∧ co ≤ 0xDBFF := by
  rw [isHighSurrogate, Bool.and_eq_true, decide_eq_true_eq, decide_eq_true_eq]

theorem isLowSurrogate_iff {co : Nat} : isLowSurrogate co = true ↔ 0xDC00 ≤ co ∧ co ≤ 0xDFFF := by
  rw [isLowSurrogate, Bool.and_eq_true, decide_eq_true_eq, decide_eq_true_eq]

theorem utf8ByteLength_pair {u v : UInt16} (hh : isHighSurrogate u.toNat = true)
    (low : isLowSurrogate v.toNat = true) (r : JsString) :
    utf8ByteLength (u :: v :: r) = 4 + utf8ByteLength r := by
  have ha := isHighSurrogate_iff.mp hh
  rw [utf8ByteLength, if_neg (by omega), if_neg (by omega), hh, low]
  rfl

theorem utf8ByteLength_basic {c : Char} {u : UInt16} {r : JsString} (hc : u.toNat = c.toNat)
    (hr : c.toNat < 0xD800 ∨ 0xDFFF < c.toNat ∧ c.toNat < 0x110000) :
    utf8ByteLength (u :: r) = c.utf8Size + utf8ByteLength r := by
  have hb := u.toNat_lt
  have hsi : c.utf8Size = if u.toNat < 0x80 then 1 else if u.toNat < 0x800 then 2 else 3 := by
    split
    · exact Char.utf8Size_eq_one_iff.mpr (UInt32.le_iff_toNat_le.mpr (show c.toNat ≤ 127 by omega))
    · split
      · exact Char.utf8Size_eq_two_iff.mpr ⟨UInt32.lt_iff_toNat_lt.mpr (show 127 < c.toNat by omega),
          UInt32.le_iff_toNat_le.mpr (show c.toNat ≤ 0x7FF by omega)⟩
      · exact Char.utf8Size_eq_three_iff.mpr
          ⟨UInt32.lt_iff_toNat_lt.mpr (show 0x7FF < c.toNat by omega),
            UInt32.le_iff_toNat_le.mpr (show c.toNat ≤ 0xFFFF by omega)⟩
  have hs : isHighSurrogate u.toNat = false := by
    rw [← Bool.not_eq_true, isHighSurrogate_iff]
    omega
  rw [hsi]
  cases r with
  | nil => rfl
  | cons n r =>
    rw [utf8ByteLength, hs]
    split
    · rfl
    · split <;> rfl

theorem utf8ByteLength_jsString (s : Text) : utf8ByteLength (jsString s) = (utf8 s).length := by
  induction s with
  | nil => rfl
  | cons c s ih =>
    have hs : (utf8 (c :: s)).length = c.utf8Size + (utf8 s).length := by
      rw [utf8, List.flatMap_cons, List.length_append, String.length_utf8EncodeChar]
      rfl
    have hr := scalar_range c
    rw [hs, ← ih, jsString_cons]
    by_cases hb : c.toNat < 0x10000
    · rw [jsString_basic hb]
      exact utf8ByteLength_basic (toNat_unit hb) hr
    · have hl : c.utf8Size = 4 := Char.utf8Size_eq_four_iff.mpr
        (UInt32.lt_iff_toNat_lt.mpr (show 0xFFFF < c.toNat by omega))
      rw [jsString, utf16, List.flatMap_singleton, utf16Units, if_neg hb, hl]
      refine utf8ByteLength_pair ?_ ?_ _
      · rw [UInt16.toNat_ofNat_of_lt' (show _ < 0x10000 by omega), isHighSurrogate_iff]
        omega
      · rw [UInt16.toNat_ofNat_of_lt' (show _ < 0x10000 by omega), isLowSurrogate_iff]
        omega

end TextLemmas

end PersonalOs.ExclusionPolicy
