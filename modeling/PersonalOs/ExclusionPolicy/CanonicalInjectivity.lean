import PersonalOs.ExclusionPolicy.CanonicalTexts

/-!
# The canonical encoding tells values apart

`canonicalize_json_value` writes two values alike exactly when they differ in the order of object
members at most.
-/

namespace PersonalOs.ExclusionPolicy

open Json EncoderLemmas

/-- Equal but for the order of object members. -/
inductive Alike : PyValue → PyValue → Prop
  | none : Alike .none .none
  | bool (b : Bool) : Alike (.bool b) (.bool b)
  | integer (i : Int) : Alike (.integer i) (.integer i)
  | string (s : PyString) : Alike (.string s) (.string s)
  | tuple {xs ys : List PyValue} (each : List.Forall₂ Alike xs ys) : Alike (.tuple xs) (.tuple ys)
  | mapping {ms os ns : List (Option PyString × PyValue)}
      (names : ms.map Prod.fst = os.map Prod.fst)
      (each : List.Forall₂ Alike (ms.map Prod.snd) (os.map Prod.snd)) (order : os.Perm ns) :
      Alike (.mapping ms) (.mapping ns)

/-! ## Accepted values -/

variable {isNormalized : Text → Bool}

theorem scalar_of_characters {s : PyString} {t : Text} (is : characters s = some t) :
    s = t.map .scalar := by
  induction s generalizing t with
  | nil =>
    cases is
    rfl
  | cons c s ih =>
    cases c with
    | scalar c =>
      obtain ⟨u, rest, rfl⟩ := Option.map_eq_some_iff.mp is
      rw [ih rest, List.map_cons]
    | surrogate => cases is

theorem scalar_of_validateString {s : PyString} {t : Text}
    (valid : validateString isNormalized s = .ok t) : s = t.map .scalar := by
  unfold validateString at valid
  split at valid
  · cases valid
  next u is =>
    split at valid
    · cases valid
      exact scalar_of_characters is
    · cases valid

theorem named_of_validateNames {β : Type} {seen : List Text} {ms : List (Option PyString × β)}
    {ns : List (Text × β)} (valid : validateNames isNormalized seen ms = .ok ns) :
    ms = ns.map fun n => (some (n.1.map .scalar), n.2) := by
  induction ms generalizing seen ns with
  | nil =>
    cases valid
    rfl
  | cons m ms ih =>
    obtain ⟨_ | name, x⟩ := m
    · cases valid
    · rw [validateNames] at valid
      obtain ⟨text, isText, valid⟩ := bind_ok valid
      split at valid
      · cases valid
      · obtain ⟨rest, later, valid⟩ := bind_ok valid
        cases valid
        rw [List.map_cons, ← ih later, scalar_of_validateString isText]

theorem encodeMembers_eq (ms : List (Option PyString × PyValue)) :
    encodeMembers isNormalized ms = ms.map fun m => (m.1, encodeInto isNormalized m.2) := by
  induction ms with
  | nil => rfl
  | cons m ms ih => rw [encodeMembers, ih, List.map_cons]

/-- The members of an accepted object are named, and their values are accepted. -/
theorem members_of_encodeInto {ms : List (Option PyString × PyValue)} {text : Text}
    (wrote : encodeInto isNormalized (.mapping ms) = .ok text) : ∀ m ∈ ms,
      (∃ t : Text, m.1 = some (t.map .scalar)) ∧ ∃ u, encodeInto isNormalized m.2 = .ok u := by
  rw [encodeInto, encodeMembers_eq] at wrote
  obtain ⟨named, valid, wrote⟩ := bind_ok wrote
  obtain ⟨pieces, ordered, _⟩ := bind_ok wrote
  have is := named_of_validateNames valid
  intro m hm
  have written := List.mem_map_of_mem
    (f := fun m : Option PyString × PyValue => (m.1, encodeInto isNormalized m.2)) hm
  rw [is] at written
  obtain ⟨n, hn, same⟩ := List.mem_map.mp written
  obtain ⟨piece, written⟩ := mapM_ok_of_mem ordered n ((List.mem_insertionSort _).mpr hn)
  obtain ⟨u, encoded, _⟩ := bind_ok written
  obtain ⟨name, value⟩ := Prod.mk.inj same
  exact ⟨⟨n.1, name.symm⟩, u, value ▸ encoded⟩

mutual

theorem json_of_encodeInto : ∀ (v : PyValue) {text : Text},
    encodeInto isNormalized v = .ok text → ∃ j, pyValue j = v
  | .none, _, _ => ⟨.null, rfl⟩
  | .bool b, _, _ => ⟨.bool b, rfl⟩
  | .integer i, _, _ => ⟨.integer i, rfl⟩
  | .string s, text, wrote => by
    rw [encodeInto] at wrote
    obtain ⟨t, valid, _⟩ := bind_ok wrote
    exact ⟨.string t, by rw [pyValue, scalar_of_validateString valid]⟩
  | .tuple xs, text, wrote => by
    rw [encodeInto] at wrote
    obtain ⟨pieces, encoded, _⟩ := bind_ok wrote
    obtain ⟨js, rfl⟩ := json_of_elements xs encoded
    exact ⟨.array js, rfl⟩
  | .mapping ms, text, wrote => by
    obtain ⟨js, rfl⟩ := json_of_members ms (members_of_encodeInto wrote)
    exact ⟨.object js, rfl⟩
  | .unsupported, _, wrote => by cases wrote

theorem json_of_elements : ∀ (xs : List PyValue) {pieces : List Text},
    encodeElements isNormalized xs = .ok pieces → ∃ js, pyElements js = xs
  | [], _, _ => ⟨[], rfl⟩
  | x :: xs, pieces, wrote => by
    rw [encodeElements] at wrote
    obtain ⟨piece, first, wrote⟩ := bind_ok wrote
    obtain ⟨later, rest, _⟩ := bind_ok wrote
    obtain ⟨j, rfl⟩ := json_of_encodeInto x first
    obtain ⟨js, rfl⟩ := json_of_elements xs rest
    exact ⟨j :: js, rfl⟩

theorem json_of_members : ∀ (ms : List (Option PyString × PyValue)),
    (∀ m ∈ ms, (∃ t : Text, m.1 = some (t.map .scalar)) ∧
      ∃ u, encodeInto isNormalized m.2 = .ok u) → ∃ js, pyMembers js = ms
  | [], _ => ⟨[], rfl⟩
  | (name, value) :: ms, each => by
    obtain ⟨⟨t, named⟩, u, encoded⟩ := each (name, value) List.mem_cons_self
    obtain ⟨j, rfl⟩ := json_of_encodeInto value encoded
    obtain ⟨js, rfl⟩ := json_of_members ms fun m hm => each m (List.mem_cons_of_mem _ hm)
    exact ⟨(t, j) :: js, by rw [pyMembers, ← named]⟩

end

/-! ## The order of members -/

theorem pyMembers_eq (ms : List (Text × Json)) :
    pyMembers ms = ms.map fun m => (some (m.1.map .scalar), pyValue m.2) := by
  induction ms with
  | nil => rfl
  | cons m ms ih => rw [pyMembers, ih, List.map_cons]

theorem scalars_injective : Function.Injective fun t : Text => some (t.map CodePoint.scalar) :=
  fun _ _ same => List.map_injective_iff.mpr (fun _ _ is => CodePoint.scalar.inj is)
    (Option.some.inj same)

theorem sortMembers_perm {β : Type*} {ms ns : List (Text × β)} (perm : ms.Perm ns)
    (distinct : (ms.map Prod.fst).Nodup) : sortMembers ms = sortMembers ns := by
  have total : Std.Total fun m n : Text × β => utf16 m.1 ≤ utf16 n.1 :=
    ⟨fun m n => le_total (utf16 m.1) (utf16 n.1)⟩
  have trans : IsTrans (Text × β) fun m n => utf16 m.1 ≤ utf16 n.1 := ⟨fun _ _ _ => le_trans⟩
  have sorted := List.perm_insertionSort (fun m n : Text × β => utf16 m.1 ≤ utf16 n.1) ms
  have sorted' := List.perm_insertionSort (fun m n : Text × β => utf16 m.1 ≤ utf16 n.1) ns
  refine ((sorted.trans perm).trans sorted'.symm).eq_of_pairwise (fun m n hm hn le le' => ?_)
    (List.pairwise_insertionSort _ ms) (List.pairwise_insertionSort _ ns)
  have units : jsString m.1 = jsString n.1 := by
    rw [jsString, jsString, le_antisymm le le']
  exact List.inj_on_of_nodup_map distinct (sorted.mem_iff.mp hm)
    ((sorted'.trans perm.symm).mem_iff.mp hn) (jsString_injective units)

theorem Alike.string_inv {s : PyString} {v : PyValue} (alike : Alike (.string s) v) :
    v = .string s := by
  cases alike
  rfl

theorem Alike.tuple_inv {xs : List PyValue} {v : PyValue} (alike : Alike (.tuple xs) v) :
    ∃ ys, v = .tuple ys ∧ List.Forall₂ Alike xs ys := by
  cases alike with
  | tuple each => exact ⟨_, rfl, each⟩

theorem Alike.mapping_inv {ms : List (Option PyString × PyValue)} {v : PyValue}
    (alike : Alike (.mapping ms) v) :
    ∃ os ns : List (Option PyString × PyValue), v = .mapping ns ∧ ms.map Prod.fst = os.map Prod.fst ∧
      List.Forall₂ Alike (ms.map Prod.snd) (os.map Prod.snd) ∧ os.Perm ns := by
  cases alike with
  | mapping names each order => exact ⟨_, _, rfl, names, each, order⟩

theorem map_of_perm {α β : Type*} {f : α → β} {xs : List α} {ys : List β}
    (perm : ys.Perm (xs.map f)) : ∃ zs : List α, ys = zs.map f ∧ zs.Perm xs := by
  have composed := congrFun (congrFun (List.eq_map_comp_perm f) ys) xs
  exact composed.symm.mp perm

theorem names_pyMembers {ms ns : List (Text × Json)} :
    (pyMembers ms).map Prod.fst = (pyMembers ns).map Prod.fst ↔
      ms.map Prod.fst = ns.map Prod.fst := by
  have shape : ∀ ls : List (Text × Json), (pyMembers ls).map Prod.fst =
      (ls.map Prod.fst).map fun t => some (t.map CodePoint.scalar) := fun ls => by
    rw [pyMembers_eq, List.map_map, List.map_map]
    rfl
  rw [shape, shape]
  exact (List.map_injective_iff.mpr scalars_injective).eq_iff

theorem sortedMembers_names (ms : List (Text × Json)) :
    (sortedMembers ms).map Prod.fst = ms.map Prod.fst := by
  rw [sortedMembers_eq, List.map_map]
  rfl

mutual

theorem sorted_of_alike : ∀ (j k : Json), Encodable isNormalized j →
    Alike (pyValue j) (pyValue k) → sorted j = sorted k
  | .null, k, _, alike => by cases k <;> cases alike; rfl
  | .bool b, k, _, alike => by cases k <;> cases alike; rfl
  | .integer i, k, _, alike => by cases k <;> cases alike; rfl
  | .string s, k, _, alike => by
    have is := alike.string_inv
    cases k <;> simp only [pyValue, reduceCtorEq, PyValue.string.injEq] at is
    rw [scalars_injective (congrArg some is)]
  | .array xs, k, encodable, alike => by
    obtain ⟨ys, is, each⟩ := alike.tuple_inv
    cases k <;> cases is
    cases encodable with
    | array safe => rw [sorted, sorted, sortedAll_of_alike xs _ safe each]
  | .object ms, k, encodable, alike => by
    obtain ⟨os, ns, is, names, each, order⟩ := alike.mapping_inv
    cases k <;> cases is
    next ks =>
      rw [pyMembers_eq ks] at order
      obtain ⟨ks', rfl, perm⟩ := map_of_perm order
      rw [← pyMembers_eq] at names each
      rw [names_pyMembers] at names
      cases encodable with
      | object distinct _ safe =>
        have same := sortedMembers_of_alike ms ks' safe names each
        have moved : (sortedMembers ks').Perm (sortedMembers ks) := by
          rw [sortedMembers_eq, sortedMembers_eq]
          exact perm.map _
        rw [sorted, sorted, same, sortMembers_perm moved]
        rwa [sortedMembers_names, ← names]

theorem sortedAll_of_alike : ∀ xs ys : List Json, (∀ x ∈ xs, Encodable isNormalized x) →
    List.Forall₂ Alike (pyElements xs) (pyElements ys) → sortedAll xs = sortedAll ys
  | [], [], _, _ => rfl
  | [], _ :: _, _, each => nomatch each
  | _ :: _, [], _, each => nomatch each
  | x :: xs, y :: ys, safe, each => by
    obtain ⟨first, rest⟩ := List.forall₂_cons.mp each
    rw [sortedAll, sortedAll, sorted_of_alike x y (safe x List.mem_cons_self) first,
      sortedAll_of_alike xs ys (fun z hz => safe z (List.mem_cons_of_mem _ hz)) rest]

theorem sortedMembers_of_alike : ∀ ms ns : List (Text × Json),
    (∀ m ∈ ms, Encodable isNormalized m.2) → ms.map Prod.fst = ns.map Prod.fst →
    List.Forall₂ Alike ((pyMembers ms).map Prod.snd) ((pyMembers ns).map Prod.snd) →
      sortedMembers ms = sortedMembers ns
  | [], [], _, _, _ => rfl
  | [], _ :: _, _, names, _ => nomatch names
  | _ :: _, [], _, names, _ => nomatch names
  | (s, x) :: ms, (t, y) :: ns, safe, names, each => by
    rw [List.map_cons, List.map_cons, List.cons.injEq] at names
    obtain ⟨rfl, names⟩ := names
    obtain ⟨first, rest⟩ := List.forall₂_cons.mp each
    rw [sortedMembers, sortedMembers, sorted_of_alike x y (safe (s, x) List.mem_cons_self) first,
      sortedMembers_of_alike ms ns (fun m hm => safe m (List.mem_cons_of_mem _ hm)) names rest]

end

mutual

theorem alike_of_sorted : ∀ j k : Json, sorted j = sorted k → Alike (pyValue j) (pyValue k)
  | .null, k, same => by cases k <;> cases same; exact .none
  | .bool b, k, same => by cases k <;> cases same; exact .bool b
  | .integer i, k, same => by cases k <;> cases same; exact .integer i
  | .string s, k, same => by cases k <;> cases same; exact .string _
  | .array xs, k, same => by
    cases k <;> simp only [sorted, reduceCtorEq, Json.array.injEq] at same
    exact .tuple (alike_of_sortedAll xs _ same)
  | .object ms, k, same => by
    cases k <;> simp only [sorted, reduceCtorEq, Json.object.injEq] at same
    next ks =>
      have perm : (sortedMembers ms).Perm (sortedMembers ks) := by
        have left := List.perm_insertionSort
          (fun m n : Text × Json => utf16 m.1 ≤ utf16 n.1) (sortedMembers ms)
        have right := List.perm_insertionSort
          (fun m n : Text × Json => utf16 m.1 ≤ utf16 n.1) (sortedMembers ks)
        exact (left.symm.trans (.of_eq same)).trans right
      rw [sortedMembers_eq ks] at perm
      obtain ⟨ks', is, perm⟩ := map_of_perm perm
      rw [← sortedMembers_eq] at is
      have paired := alike_of_sortedMembers ms ks' is
      refine .mapping ?_ paired ?_
      · rw [names_pyMembers, ← sortedMembers_names ms, is, sortedMembers_names]
      · rw [pyMembers_eq, pyMembers_eq]
        exact perm.map _

theorem alike_of_sortedAll : ∀ xs ys : List Json, sortedAll xs = sortedAll ys →
    List.Forall₂ Alike (pyElements xs) (pyElements ys)
  | [], [], _ => .nil
  | [], _ :: _, same => nomatch same
  | _ :: _, [], same => nomatch same
  | x :: xs, y :: ys, same => by
    obtain ⟨first, rest⟩ := List.cons.inj same
    exact .cons (alike_of_sorted x y first) (alike_of_sortedAll xs ys rest)

theorem alike_of_sortedMembers : ∀ ms ns : List (Text × Json),
    sortedMembers ms = sortedMembers ns →
      List.Forall₂ Alike ((pyMembers ms).map Prod.snd) ((pyMembers ns).map Prod.snd)
  | [], [], _ => .nil
  | [], _ :: _, same => nomatch same
  | _ :: _, [], same => nomatch same
  | (s, x) :: ms, (t, y) :: ns, same => by
    obtain ⟨first, rest⟩ := List.cons.inj same
    exact .cons (alike_of_sorted x y (Prod.mk.inj first).2) (alike_of_sortedMembers ms ns rest)

end

/-! ## Bytes -/

/-- Two accepted values have the same bytes exactly when they are equal but for the order of their
members; and a string's bytes are its characters' escapes, one after the other. -/
theorem canonical_bytes_iff {isNormalized : Text → Bool} {v w : PyValue}
    {bytes bytes' : List UInt8} (wrote : canonicalizeJsonValue isNormalized v = .ok bytes)
    (wrote' : canonicalizeJsonValue isNormalized w = .ok bytes') :
    (bytes = bytes' ↔ Alike v w) ∧
      ∀ s, v = .string s → ∃ t : Text,
        s = t.map .scalar ∧ bytes = utf8 ('"' :: t.flatMap escape ++ ['"']) := by
  obtain ⟨text, encoded, rfl⟩ := map_ok wrote
  obtain ⟨text', encoded', rfl⟩ := map_ok wrote'
  obtain ⟨j, rfl⟩ := json_of_encodeInto v encoded
  obtain ⟨k, rfl⟩ := json_of_encodeInto w encoded'
  refine ⟨?_, fun s is => ?_⟩
  · rw [encodeInto_pyValue j encoded, encodeInto_pyValue k encoded']
    constructor
    · exact fun same => alike_of_sorted j k (canonical_inj.mp (utf8_injective same))
    · intro alike
      rw [canonical_inj.mpr (sorted_of_alike j k (encodable_of_encodeInto j encoded) alike)]
  · rw [is, encodeInto] at encoded
    obtain ⟨t, valid, encoded⟩ := bind_ok encoded
    cases encoded
    exact ⟨t, scalar_of_validateString valid, rfl⟩

theorem canonical_bytes_iff_exchanged :
    Alike (.mapping [(some [.scalar 'b'], .none), (some [.scalar 'a'], .bool true)])
      (.mapping [(some [.scalar 'a'], .bool true), (some [.scalar 'b'], .none)]) :=
  (@canonical_bytes_iff (fun _ => true) _ _ (utf8 "\x7b\"a\":true,\"b\":null\x7d".toList) _
    (by decide) (by decide)).1.mp rfl

end PersonalOs.ExclusionPolicy
