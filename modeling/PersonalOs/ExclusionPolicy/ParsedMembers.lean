import PersonalOs.ExclusionPolicy.ClosedGrammar

/-!
# The members of a parsed object

`strict-json.ts` assigns the members of an object one by one to `{}`. An assignment to `__proto__`
sets the object's prototype and leaves no member, and `hasOwnProperty` does not see it: the member
is lost, and a second one of that name is not refused.
-/

namespace PersonalOs.ExclusionPolicy

/-! ## Objects within a value -/

mutual

/-- The members of every object within a value have a property. -/
def Everywhere (P : List (JsString × ClosedJsonValue) → Prop) : ClosedJsonValue → Prop
  | .array xs => EverywhereIn P xs
  | .record ms => P ms ∧ EverywhereUnder P ms
  | .null | .boolean _ | .number _ | .string _ => True

def EverywhereIn (P : List (JsString × ClosedJsonValue) → Prop) : List ClosedJsonValue → Prop
  | [] => True
  | x :: xs => Everywhere P x ∧ EverywhereIn P xs

def EverywhereUnder (P : List (JsString × ClosedJsonValue) → Prop) :
    List (JsString × ClosedJsonValue) → Prop
  | [] => True
  | (_, x) :: ms => Everywhere P x ∧ EverywhereUnder P ms

end

/-- No two members of one object have one name. -/
def Distinct : ClosedJsonValue → Prop := Everywhere fun ms => (ms.map Prod.fst).Nodup

/-- No member is named `__proto__`. -/
def Plain : ClosedJsonValue → Prop := Everywhere fun ms => protoName ∉ ms.map Prod.fst

/-- What an assignment to `__proto__` takes as a prototype. -/
def isPrototype : ClosedJsonValue → Bool
  | .null | .array _ | .record _ => true
  | .boolean _ | .number _ | .string _ => false

mutual

/-- Whether the accessor `__proto__` is in reach of a value: null has no properties, and an object
has it unless a member `__proto__` took it away. -/
def reaches : ClosedJsonValue → Bool
  | .null => false
  | .record ms => reachesAfter true ms
  | .array _ | .boolean _ | .number _ | .string _ => true

def reachesAfter (reach : Bool) : List (JsString × ClosedJsonValue) → Bool
  | [] => reach
  | (name, x) :: ms =>
    reachesAfter (if name = protoName ∧ reach ∧ isPrototype x then reaches x else reach) ms

end

/-- Whether the accessor stays in reach of an object over one member. -/
def reachesNext (reach : Bool) (name : JsString) (x : ClosedJsonValue) : Bool :=
  if name = protoName ∧ reach ∧ isPrototype x then reaches x else reach

/-- The names that become members of an object: all but a `__proto__` that meets the accessor. -/
def ownNames (reach : Bool) : List (JsString × ClosedJsonValue) → List JsString
  | [] => []
  | (name, x) :: ms =>
    if name = protoName ∧ reach then ownNames (reachesNext reach name x) ms
    else name :: ownNames (reachesNext reach name x) ms

/-- No object has two members of one name, a `__proto__` that meets the accessor apart. -/
def Admitted : ClosedJsonValue → Prop := Everywhere fun ms => (ownNames true ms).Nodup

namespace MemberLemmas

section Everywhere

variable {P Q R : List (JsString × ClosedJsonValue) → Prop}

mutual

theorem everywhere_imp (step : ∀ ms, P ms → Q ms → R ms) :
    ∀ {x : ClosedJsonValue}, Everywhere P x → Everywhere Q x → Everywhere R x
  | .null, _, _ | .boolean _, _, _ | .number _, _, _ | .string _, _, _ => by
    unfold Everywhere
    trivial
  | .array xs, left, right => by
    unfold Everywhere at *
    exact everywhereIn_imp step left right
  | .record ms, left, right => by
    unfold Everywhere at *
    exact ⟨step ms left.1 right.1, everywhereUnder_imp step left.2 right.2⟩

theorem everywhereIn_imp (step : ∀ ms, P ms → Q ms → R ms) :
    ∀ {xs : List ClosedJsonValue}, EverywhereIn P xs → EverywhereIn Q xs → EverywhereIn R xs
  | [], _, _ => by
    unfold EverywhereIn
    trivial
  | x :: xs, left, right => by
    unfold EverywhereIn at *
    exact ⟨everywhere_imp step left.1 right.1, everywhereIn_imp step left.2 right.2⟩

theorem everywhereUnder_imp (step : ∀ ms, P ms → Q ms → R ms) :
    ∀ {ms : List (JsString × ClosedJsonValue)}, EverywhereUnder P ms → EverywhereUnder Q ms →
      EverywhereUnder R ms
  | [], _, _ => by
    unfold EverywhereUnder
    trivial
  | (_, x) :: ms, left, right => by
    unfold EverywhereUnder at *
    exact ⟨everywhere_imp step left.1 right.1, everywhereUnder_imp step left.2 right.2⟩

end

end Everywhere

theorem ownNames_sublist (r : Bool) (ms : List (JsString × ClosedJsonValue)) :
    (ownNames r ms).Sublist (ms.map Prod.fst) := by
  induction ms generalizing r with
  | nil => exact .slnil
  | cons m ms ih =>
    obtain ⟨n, x⟩ := m
    unfold ownNames
    split
    · exact List.Sublist.cons n (ih _)
    · exact List.Sublist.cons_cons n (ih _)

theorem ownNames_plain {r : Bool} {ms : List (JsString × ClosedJsonValue)}
    (hp : protoName ∉ ms.map Prod.fst) : ownNames r ms = ms.map Prod.fst := by
  induction ms generalizing r with
  | nil => rfl
  | cons m ms ih =>
    obtain ⟨n, x⟩ := m
    rw [List.map_cons, List.mem_cons, not_or] at hp
    unfold ownNames
    rw [if_neg fun hb => hp.1 hb.1.symm, ih hp.2]
    rfl

/-! ### What the assignments make -/

def names (object : JsObject) : List JsString := object.members.map Prod.fst

theorem names_setMember (o : JsObject) (n : JsString) (p : ParsedValue) : names (o.setMember n p) =
      if n = protoName ∧ o.findsAccessor then names o else names o ++ [n] := by
  unfold JsObject.setMember names
  split
  · split <;> rfl
  · exact List.map_append

theorem findsAccessor_setMember (o : JsObject) (n : JsString) {p : ParsedValue}
    {x : ClosedJsonValue} (hr : p.findsAccessor = reaches x)
    (hk : isPrototype p.value = isPrototype x) :
    (o.setMember n p).findsAccessor = reachesNext o.findsAccessor n x := by
  unfold reachesNext
  rw [← hr, ← hk]
  unfold JsObject.setMember
  by_cases hm : n = protoName ∧ o.findsAccessor
  · rw [if_pos hm]
    obtain ⟨hp, hf⟩ := hm
    cases p.value <;> simp [isPrototype, hp, hf]
  · rw [if_neg hm, if_neg fun all => hm ⟨all.1, all.2.1⟩]

theorem hasOwnProperty_iff (o : JsObject) (n : JsString) :
    o.hasOwnProperty n = true ↔ n ∈ names o := by
  unfold JsObject.hasOwnProperty names
  exact List.contains_iff_mem

mutual

theorem buildValue_spec : ∀ x : ClosedJsonValue,
    (Admitted x → ∃ p, buildValue JsObject.hasOwnProperty JsObject.setMember x = some p) ∧
    ∀ p, buildValue JsObject.hasOwnProperty JsObject.setMember x = some p →
      Admitted x ∧ p.findsAccessor = reaches x ∧ isPrototype p.value = isPrototype x
  | .null | .boolean _ | .number _ | .string _ => by
    unfold buildValue Admitted Everywhere reaches
    refine ⟨fun _ => ⟨_, rfl⟩, fun p built => ?_⟩
    cases built
    exact ⟨trivial, rfl, rfl⟩
  | .array xs => by
    obtain ⟨makes, made⟩ := buildElements_spec xs
    unfold buildValue Admitted Everywhere reaches
    refine ⟨fun admitted => ?_, fun p built => ?_⟩
    · obtain ⟨ys, built⟩ := makes admitted
      exact ⟨_, by rw [built]; rfl⟩
    · obtain ⟨ys, elements, same⟩ := Option.bind_eq_some_iff.mp built
      cases same
      exact ⟨made ys elements, rfl, rfl⟩
  | .record ms => by
    obtain ⟨makes, made⟩ := buildMembers_spec ms .empty nofun List.nodup_nil
    unfold buildValue Admitted Everywhere reaches
    refine ⟨fun admitted => ?_, fun p built => ?_⟩
    · obtain ⟨object, built⟩ := makes admitted.2 admitted.1
      exact ⟨_, by rw [built]; rfl⟩
    · obtain ⟨object, members, same⟩ := Option.bind_eq_some_iff.mp built
      cases same
      obtain ⟨within, distinct, reach⟩ := made object members
      exact ⟨⟨distinct, within⟩, reach, rfl⟩

theorem buildElements_spec : ∀ xs : List ClosedJsonValue,
    (EverywhereIn (fun ms => (ownNames true ms).Nodup) xs →
      ∃ ys, buildElements JsObject.hasOwnProperty JsObject.setMember xs = some ys) ∧
    ∀ ys, buildElements JsObject.hasOwnProperty JsObject.setMember xs = some ys →
      EverywhereIn (fun ms => (ownNames true ms).Nodup) xs
  | [] => by
    unfold buildElements EverywhereIn
    exact ⟨fun _ => ⟨_, rfl⟩, fun _ _ => trivial⟩
  | x :: xs => by
    obtain ⟨makes, made⟩ := buildValue_spec x
    obtain ⟨makesLater, madeLater⟩ := buildElements_spec xs
    unfold buildElements EverywhereIn
    refine ⟨fun admitted => ?_, fun ys built => ?_⟩
    · obtain ⟨p, built⟩ := makes admitted.1
      obtain ⟨ys, later⟩ := makesLater admitted.2
      exact ⟨_, by rw [built, later]; rfl⟩
    · obtain ⟨p, element, rest⟩ := Option.bind_eq_some_iff.mp built
      obtain ⟨ys, later, _⟩ := Option.bind_eq_some_iff.mp rest
      exact ⟨(made p element).1, madeLater ys later⟩

theorem buildMembers_spec : ∀ (ms : List (JsString × ClosedJsonValue)) (before : JsObject),
    (before.findsAccessor = true → protoName ∉ names before) → (names before).Nodup →
    (EverywhereUnder (fun ms => (ownNames true ms).Nodup) ms →
      (names before ++ ownNames before.findsAccessor ms).Nodup →
      ∃ after, buildMembers JsObject.hasOwnProperty JsObject.setMember before ms = some after) ∧
    ∀ after, buildMembers JsObject.hasOwnProperty JsObject.setMember before ms = some after →
      EverywhereUnder (fun ms => (ownNames true ms).Nodup) ms ∧
      (names before ++ ownNames before.findsAccessor ms).Nodup ∧
      after.findsAccessor = reachesAfter before.findsAccessor ms
  | [], before, _, distinct => by
    unfold buildMembers EverywhereUnder ownNames reachesAfter
    rw [List.append_nil]
    refine ⟨fun _ _ => ⟨_, rfl⟩, fun after built => ?_⟩
    cases built
    exact ⟨trivial, distinct, rfl⟩
  | (name, x) :: ms, before, unseen, distinct => by
    obtain ⟨makes, made⟩ := buildValue_spec x
    -- the accessor keeps `__proto__` from becoming a member
    have unseen' : ∀ p, (before.setMember name p).findsAccessor =
        reachesNext before.findsAccessor name x →
        (before.setMember name p).findsAccessor = true →
          protoName ∉ names (before.setMember name p) := by
      intro p next found
      rw [names_setMember]
      split
      · next meets => exact unseen meets.2
      · next misses =>
        rw [next, reachesNext, if_neg fun all => misses ⟨all.1, all.2.1⟩] at found
        rw [List.mem_append, not_or, List.mem_singleton]
        exact ⟨unseen found, fun same => misses ⟨same.symm, found⟩⟩
    have owns : before.hasOwnProperty name = true → ¬(name = protoName ∧ before.findsAccessor) :=
      fun owned meets => unseen meets.2 (meets.1 ▸ (hasOwnProperty_iff before name).mp owned)
    -- what follows the assignment owns the same names
    have shifted : ∀ p, (before.setMember name p).findsAccessor =
        reachesNext before.findsAccessor name x →
        names before ++ ownNames before.findsAccessor ((name, x) :: ms) =
          names (before.setMember name p) ++
            ownNames (before.setMember name p).findsAccessor ms := by
      intro p next
      rw [names_setMember, next, ownNames]
      split
      · rfl
      · rw [List.append_assoc, List.singleton_append]
    unfold buildMembers EverywhereUnder
    rw [reachesAfter]
    refine ⟨fun admitted apart => ?_, fun after built => ?_⟩
    · obtain ⟨p, built⟩ := makes admitted.1
      obtain ⟨_, reach, kind⟩ := made p built
      have next := findsAccessor_setMember before name reach kind
      rw [shifted p next] at apart
      have fresh : before.hasOwnProperty name = false := by
        refine Bool.eq_false_iff.mpr fun owned => ?_
        rw [names_setMember, if_neg (owns owned), List.append_assoc] at apart
        exact (List.nodup_append.mp apart).2.2 name ((hasOwnProperty_iff before name).mp owned)
          name (List.mem_append_left _ (List.mem_singleton.mpr rfl)) rfl
      obtain ⟨makesLater, _⟩ := buildMembers_spec ms (before.setMember name p) (unseen' p next)
        (List.nodup_append.mp apart).1
      obtain ⟨after, later⟩ := makesLater admitted.2 apart
      refine ⟨after, ?_⟩
      rw [fresh, built]
      exact later
    · split at built
      · exact nomatch built
      · next fresh =>
        obtain ⟨p, value, later⟩ := Option.bind_eq_some_iff.mp built
        obtain ⟨within, reach, kind⟩ := made p value
        have next := findsAccessor_setMember before name reach kind
        have distinct' : (names (before.setMember name p)).Nodup := by
          rw [names_setMember]
          split
          · exact distinct
          · rw [List.nodup_append]
            refine ⟨distinct, List.nodup_singleton _, fun n owned m single same => fresh ?_⟩
            rw [hasOwnProperty_iff, ← List.mem_singleton.mp single, ← same]
            exact owned
        obtain ⟨_, madeLater⟩ :=
          buildMembers_spec ms (before.setMember name p) (unseen' p next) distinct'
        obtain ⟨under, apart, found⟩ := madeLater after later
        rw [← shifted p next] at apart
        rw [next] at found
        exact ⟨⟨within, under⟩, apart, found⟩

end

end MemberLemmas

open MemberLemmas

/-- The assignments make a value exactly when no object is given a name it owns. -/
theorem buildValue_iff (x : ClosedJsonValue) :
    (∃ p, buildValue JsObject.hasOwnProperty JsObject.setMember x = some p) ↔ Admitted x :=
  ⟨fun ⟨p, hb⟩ => ((buildValue_spec x).2 p hb).1, (buildValue_spec x).1⟩

theorem admitted_of_distinct {x : ClosedJsonValue} (hd : Distinct x) : Admitted x :=
  everywhere_imp (fun _ hn _ => hn.sublist (ownNames_sublist true _)) hd hd

theorem distinct_of_plain {x : ClosedJsonValue} (hp : Plain x) (ha : Admitted x) : Distinct x :=
  everywhere_imp (fun _ hp hn => ownNames_plain hp ▸ hn) hp ha

namespace MemberLemmas

variable {ms : List (JsString × ClosedJsonValue)}

theorem members_of_plain {b af : JsObject} (hp : protoName ∉ ms.map Prod.fst)
    (hb : buildMembers JsObject.hasOwnProperty JsObject.setMember b ms = some af) :
    ∃ ad, af.members = b.members ++ ad ∧ List.Forall₂ (fun m a => a.1 = m.1 ∧ ∃ p,
        buildValue JsObject.hasOwnProperty JsObject.setMember m.2 = some p ∧ p.value = a.2)
        ms ad := by
  induction ms generalizing b with
  | nil =>
    rw [buildMembers] at hb
    cases hb
    exact ⟨[], (List.append_nil _).symm, .nil⟩
  | cons m ms ih =>
    obtain ⟨n, x⟩ := m
    rw [List.map_cons, List.mem_cons, not_or] at hp
    rw [buildMembers] at hb
    split at hb
    · exact nomatch hb
    · obtain ⟨p, hv, hl⟩ := Option.bind_eq_some_iff.mp hb
      obtain ⟨ad, hm, he⟩ := ih hp.2 hl
      have own : (b.setMember n p).members = b.members ++ [(n, p.value)] := by
        rw [JsObject.setMember, if_neg fun hme => hp.1 hme.1.symm]
      rw [own, List.append_assoc] at hm
      exact ⟨_, hm, .cons ⟨rfl, p, hv, rfl⟩ he⟩

theorem length_members {b a : JsObject}
    (hb : buildMembers JsObject.hasOwnProperty JsObject.setMember b ms = some a) :
    a.members.length ≤ b.members.length + ms.length ∧
      (b.findsAccessor = true → protoName ∈ ms.map Prod.fst →
        a.members.length < b.members.length + ms.length) := by
  induction ms generalizing b with
  | nil =>
    rw [buildMembers] at hb
    cases hb
    exact ⟨Nat.le_refl _, fun _ hn => nomatch hn⟩
  | cons m ms ih =>
    obtain ⟨n, x⟩ := m
    rw [buildMembers] at hb
    split at hb
    · exact nomatch hb
    · obtain ⟨p, hv, hl⟩ := Option.bind_eq_some_iff.mp hb
      obtain ⟨hmo, hfe⟩ := ih hl
      have ho : (names (b.setMember n p)).length =
          (b.setMember n p).members.length := List.length_map _
      have ho' : (names b).length = b.members.length := List.length_map _
      rw [names_setMember] at ho
      by_cases hme : n = protoName ∧ b.findsAccessor
      · rw [if_pos hme] at ho
        rw [List.length_cons]
        exact ⟨by omega, fun _ _ => by omega⟩
      · rw [if_neg hme, List.length_append, List.length_singleton] at ho
        rw [List.length_cons]
        refine ⟨by omega, fun hf hm => ?_⟩
        have hot : n ≠ protoName := fun he => hme ⟨he, hf⟩
        rcases List.mem_cons.mp hm with he | hm
        · exact absurd he.symm hot
        · have hk : (b.setMember n p).findsAccessor = true := by
            rw [JsObject.setMember, if_neg hme]
            exact hf
          have := hfe hk hm
          omega

theorem eq_of_forall₂ (ma : ClosedJsonValue → ClosedJsonValue → Prop)
    {ad : List (JsString × ClosedJsonValue)}
    (hea : List.Forall₂ (fun m a => a.1 = m.1 ∧ ma m.2 a.2) ms ad)
    (he : ∀ m ∈ ms, ∀ y, ma m.2 y → y = m.2) : ad = ms := by
  induction hea with
  | nil => rfl
  | cons hh _ ih =>
    rw [ih fun m hm => he m (List.mem_cons_of_mem _ hm),
      Prod.ext hh.1 (he _ List.mem_cons_self _ hh.2)]

mutual

theorem value_of_plain : ∀ (x : ClosedJsonValue) (p : ParsedValue), Plain x →
    buildValue JsObject.hasOwnProperty JsObject.setMember x = some p → p.value = x
  | .null, p, _, built | .boolean _, p, _, built | .number _, p, _, built
  | .string _, p, _, built => by
    rw [buildValue] at built
    cases built
    rfl
  | .array xs, p, plain, built => by
    rw [buildValue] at built
    obtain ⟨ys, elements, same⟩ := Option.bind_eq_some_iff.mp built
    cases same
    unfold Plain Everywhere at plain
    show ClosedJsonValue.array ys = _
    rw [elements_of_plain xs ys plain elements]
  | .record ms, p, plain, built => by
    rw [buildValue] at built
    obtain ⟨object, members, same⟩ := Option.bind_eq_some_iff.mp built
    cases same
    unfold Plain Everywhere at plain
    obtain ⟨added, is, each⟩ := members_of_plain plain.1 members
    show ClosedJsonValue.record object.members = _
    rw [is, eq_of_forall₂ (fun x y => ∃ p, buildValue _ _ x = some p ∧ p.value = y) each
      fun m member y ⟨p, value, same⟩ => same ▸ values_of_plain ms plain.2 m member p value]
    rfl

theorem elements_of_plain : ∀ (xs ys : List ClosedJsonValue),
    EverywhereIn (fun ms => protoName ∉ ms.map Prod.fst) xs →
    buildElements JsObject.hasOwnProperty JsObject.setMember xs = some ys → ys = xs
  | [], ys, _, built => by
    rw [buildElements] at built
    cases built
    rfl
  | x :: xs, ys, plain, built => by
    unfold EverywhereIn at plain
    rw [buildElements] at built
    obtain ⟨p, value, rest⟩ := Option.bind_eq_some_iff.mp built
    obtain ⟨zs, later, same⟩ := Option.bind_eq_some_iff.mp rest
    cases same
    rw [value_of_plain x p plain.1 value, elements_of_plain xs zs plain.2 later]

theorem values_of_plain : ∀ (ms : List (JsString × ClosedJsonValue)),
    EverywhereUnder (fun ms => protoName ∉ ms.map Prod.fst) ms → ∀ m ∈ ms, ∀ p : ParsedValue,
      buildValue JsObject.hasOwnProperty JsObject.setMember m.2 = some p → p.value = m.2
  | [], _, m, member, _, _ => nomatch member
  | (name, x) :: ms, plain, m, member, p, value => by
    unfold EverywhereUnder at plain
    rcases List.mem_cons.mp member with same | later
    · rw [same] at value ⊢
      exact value_of_plain x p plain.1 value
    · exact values_of_plain ms plain.2 m later p value

end

mutual

theorem plain_of_value : ∀ (x : ClosedJsonValue) (p : ParsedValue),
    buildValue JsObject.hasOwnProperty JsObject.setMember x = some p → p.value = x → Plain x
  | .null, _, _, _ | .boolean _, _, _, _ | .number _, _, _, _ | .string _, _, _, _ => by
    unfold Plain Everywhere
    trivial
  | .array xs, p, built, same => by
    rw [buildValue] at built
    obtain ⟨ys, elements, is⟩ := Option.bind_eq_some_iff.mp built
    cases is
    cases same
    unfold Plain Everywhere
    exact plain_of_elements _ elements
  | .record ms, p, built, same => by
    rw [buildValue] at built
    obtain ⟨object, members, is⟩ := Option.bind_eq_some_iff.mp built
    cases is
    have owned : object.members = ms := ClosedJsonValue.record.inj same
    have plain : protoName ∉ ms.map Prod.fst := fun member => by
      have fewer := (length_members members).2 rfl member
      rw [owned] at fewer
      exact absurd fewer (by simp [JsObject.empty])
    obtain ⟨added, is, each⟩ := members_of_plain plain members
    have unchanged : added = ms := by
      rw [← owned, is]
      rfl
    subst unchanged
    unfold Plain Everywhere
    exact ⟨plain, plain_of_members added (List.forall₂_same.mp each)⟩

theorem plain_of_elements : ∀ xs : List ClosedJsonValue,
    buildElements JsObject.hasOwnProperty JsObject.setMember xs = some xs →
    EverywhereIn (fun ms => protoName ∉ ms.map Prod.fst) xs
  | [], _ => by
    unfold EverywhereIn
    trivial
  | x :: xs, built => by
    rw [buildElements] at built
    obtain ⟨p, value, rest⟩ := Option.bind_eq_some_iff.mp built
    obtain ⟨zs, later, same⟩ := Option.bind_eq_some_iff.mp rest
    obtain ⟨is, rfl⟩ := List.cons.inj (Option.some.inj same)
    unfold EverywhereIn
    exact ⟨plain_of_value x p value is, plain_of_elements zs later⟩

theorem plain_of_members : ∀ ms : List (JsString × ClosedJsonValue), (∀ m ∈ ms, m.1 = m.1 ∧ ∃ p,
      buildValue JsObject.hasOwnProperty JsObject.setMember m.2 = some p ∧ p.value = m.2) →
    EverywhereUnder (fun ms => protoName ∉ ms.map Prod.fst) ms
  | [], _ => by
    unfold EverywhereUnder
    trivial
  | (name, x) :: ms, each => by
    obtain ⟨_, p, value, same⟩ := each (name, x) List.mem_cons_self
    unfold EverywhereUnder
    exact ⟨plain_of_value x p value same,
      plain_of_members ms fun m member => each m (List.mem_cons_of_mem _ member)⟩

end

end MemberLemmas

/-! ## The parser -/

/-- The parser reads a text as the closed profile has it: it takes it exactly when it is within the
caller's bound and in the profile, and returns the value it denotes. -/
def ParsedExactly (text : JsString) (maximumBytes : Nat) : Prop :=
  ∀ v, parseClosedJson text maximumBytes = .ok v ↔
    utf8ByteLength text ≤ maximumBytes ∧ TextOf text v ∧ Distinct v

theorem parseClosedJson_ok {t : JsString} {mb : Nat} {v : ClosedJsonValue} :
    parseClosedJson t mb = .ok v ↔ utf8ByteLength t ≤ mb ∧ ∃ x p, TextOf t x ∧
        buildValue JsObject.hasOwnProperty JsObject.setMember x = some p ∧ p.value = v := by
  rw [← parseText_iff, parseClosedJson]
  split
  · next hp => exact ⟨nofun, fun hu => absurd hu.1 (Nat.not_le.mpr hp)⟩
  · next hu =>
    cases parseText JsObject.hasOwnProperty JsObject.setMember t <;> simp [Nat.not_lt.mp hu]

/-- A text is read exactly unless it brings the parser to an assignment to `__proto__`: it is
within the bound, its objects take their members, and one of these has that name. -/
theorem parseClosedJson_exact_iff (text : JsString) (maximumBytes : Nat) :
    ParsedExactly text maximumBytes ↔
      (utf8ByteLength text ≤ maximumBytes → ∀ x, TextOf text x → Admitted x → Plain x) := by
  constructor
  · intro he hbo x ht ha
    obtain ⟨p, hb⟩ := (buildValue_iff x).mpr ha
    obtain ⟨_, ht', _⟩ := (he p.value).mp (parseClosedJson_ok.mpr ⟨hbo, x, p, ht, hb, rfl⟩)
    exact plain_of_value x p hb (textOf_unique ht' ht)
  · intro hpl v
    rw [parseClosedJson_ok]
    refine and_congr_right fun hbo => ?_
    constructor
    · rintro ⟨x, p, ht, hb, rfl⟩
      have ha := (buildValue_iff x).mp ⟨p, hb⟩
      have hp := hpl hbo x ht ha
      rw [value_of_plain x p hp hb]
      exact ⟨ht, distinct_of_plain hp ha⟩
    · rintro ⟨ht, hd⟩
      have ha := admitted_of_distinct hd
      obtain ⟨p, hb⟩ := (buildValue_iff v).mpr ha
      exact ⟨v, p, ht, hb, value_of_plain v p (hpl hbo v ht ha) hb⟩

def memberNames : ClosedJsonValue → Option (List JsString)
  | .record ms => some (ms.map Prod.fst)
  | _ => none

/-- An object whose one member is named `__proto__`. -/
def protoText : JsString := "\x7b\"__proto__\":1\x7d".toList.map unit

/-- The parser makes an object without members of it. -/
theorem proto_member_lost : ¬ParsedExactly protoText 1024 := by
  have hb : utf8ByteLength protoText ≤ 1024 := by decide +kernel
  have hre : (parseText JsObject.hasOwnProperty JsObject.setMember protoText).map memberNames =
      some (some []) := by decide +kernel
  have hd : (parseText (fun _ _ => false) recordMember protoText).map memberNames =
      some (some [protoName]) := by decide +kernel
  obtain ⟨v, hp, he⟩ := Option.map_eq_some_iff.mp hre
  obtain ⟨x, hde, hn⟩ := Option.map_eq_some_iff.mp hd
  intro hex
  have hr := (hex v).mp (parseClosedJson_ok.mpr ⟨hb, (parseText_iff _ _).mp hp⟩)
  rw [textOf_unique hr.2.1 (textOf_iff.mpr hde), hn] at he
  exact nomatch he

end PersonalOs.ExclusionPolicy
