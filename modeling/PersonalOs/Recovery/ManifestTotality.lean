import PersonalOs.Recovery.ManifestRoundTrips

/-!
# Which bytes the manifest parser settles

A parse that ends in an exception of the interpreter has let one of three things through: an
integer too long for `int`, values nested too deep for the decoder, or a lone surrogate that only
the final encoding meets.
-/

namespace PersonalOs.Recovery

open Json Readable
open ExclusionPolicy (PyString characters utf8 ContentDigest deriveCanonicalObjectKey)

/-! ## Integers of decoded values -/

inductive Writable : JsonValue → Prop
  | null : Writable .null
  | bool {value : Bool} : Writable (.bool value)
  | integer {i : Int} (short : isWritable i.natAbs = true) : Writable (.integer i)
  | float {text : Text} : Writable (.float text)
  | string {value : PyString} : Writable (.string value)
  | array {elements : List JsonValue} (each : ∀ v ∈ elements, Writable v) :
    Writable (.array elements)
  | object {members : List (PyString × JsonValue)} (each : ∀ m ∈ members, Writable m.2) :
    Writable (.object members)

theorem Writable.members {i : List (PyString × JsonValue)} (hw : Writable (.object i)) :
    ∀ m ∈ i, Writable m.2 := by
  cases hw with
  | object he => exact he

theorem Writable.natural {v : JsonValue} {n : Nat} (hw : Writable v)
    (hn : natural? (some v) = some n) : isWritable n = true := by
  cases hw with
  | @integer i hs =>
    cases i <;> cases hn
    exact hs
  | null | bool | float | string | array | object => cases hn

theorem isWritable_iff {n : Nat} : isWritable n = true ↔ n < 10 ^ maximumIntegerDigits := by
  rw [isWritable, decide_eq_true_iff]
  exact Nat.length_toDigits_le_iff (by decide) (by decide)

theorem isWritable_of_le {n : Nat} (hb : n ≤ maximumObjectSizeBytes) : isWritable n = true := by
  refine isWritable_iff.mpr (Nat.lt_of_le_of_lt hb ?_)
  calc maximumObjectSizeBytes < 10 ^ 9 := by decide
    _ ≤ 10 ^ maximumIntegerDigits := Nat.pow_le_pow_right (by decide) (by decide)

namespace ManifestLemmas

theorem ofDigitChars_lt {di : Text} (he : ∀ c ∈ di, c.isDigit = true) :
    Nat.ofDigitChars 10 di 0 < 10 ^ di.length := by
  have hfr : ∀ acc, Nat.ofDigitChars 10 di acc < (acc + 1) * 10 ^ di.length := by
    induction di with
    | nil => exact fun acc => by simp
    | cons c di ih =>
      intro acc
      have hd : c.toNat - '0'.toNat ≤ 9 := by
        have hf := he c List.mem_cons_self
        simp only [Char.isDigit, Bool.and_eq_true, decide_eq_true_eq] at hf
        have hu : c.toNat ≤ 57 := hf.2
        have hl : '0'.toNat = 48 := rfl
        omega
      rw [Nat.ofDigitChars_cons, List.length_cons, Nat.pow_succ']
      calc _ < (10 * acc + (c.toNat - '0'.toNat) + 1) * 10 ^ di.length :=
            ih (fun d hm => he d (List.mem_cons_of_mem _ hm)) _
        _ ≤ ((acc + 1) * 10) * 10 ^ di.length := Nat.mul_le_mul_right _ (by omega)
        _ = (acc + 1) * (10 * 10 ^ di.length) := Nat.mul_assoc _ _ _
  simpa using hfr 0

theorem finishNumber_writable {n : Bool} {d r r' : Text} {v : JsonValue}
    (he : ∀ c ∈ d, c.isDigit = true)
    (hr : finishNumber n d r = .ok (v, r')) : Writable v := by
  unfold finishNumber at hr
  split at hr
  split at hr
  simp only at hr
  split at hr
  · split at hr
    · cases hr
    next hs =>
      cases hr
      have hb : Nat.ofDigitChars 10 d 0 < 10 ^ maximumIntegerDigits := (ofDigitChars_lt he).trans_le
          (Nat.pow_le_pow_right (by decide) (Nat.not_lt.mp hs))
      refine .integer (isWritable_iff.mpr ?_)
      split <;> simpa using hb
  · cases hr
    exact .float

theorem readMagnitude_writable {n : Bool} {t r : Text} {v : JsonValue}
    (hr : readMagnitude n t = .ok (v, r)) : Writable v := by
  unfold readMagnitude at hr
  split at hr
  · exact finishNumber_writable (by simp) hr
  next c rs _ =>
    split at hr
    next hd =>
      refine finishNumber_writable (fun d hm => ?_) hr
      rcases List.mem_cons.mp hm with rfl | hl
      · exact hd
      · exact List.mem_takeWhile_imp hl
    · cases hr
  · cases hr

theorem readNumber_writable {t r : Text} {v : JsonValue} (hr : readNumber t = .ok (v, r)) :
    Writable v := by
  unfold readNumber at hr
  split at hr <;> exact readMagnitude_writable hr

section Items

variable {α : Type} {i : Text → Except DecodeError (α × Text)} {hc : Char} {P : α → Prop}

theorem readMore_all {f : Text → Except DecodeError (List α × Text)} {r r' : Text}
    {xs : List α} (he : ∀ t ys r, f t = .ok (ys, r) → ∀ y ∈ ys, P y)
    (hr : readMore hc f r = .ok (xs, r')) : ∀ x ∈ xs, P x := by
  unfold readMore at hr
  split at hr
  · exact he _ _ _ hr
  · split at hr <;> cases hr
    nofun
  · cases hr

theorem readItems_all (he : ∀ t x r, i t = .ok (x, r) → P x) {b : Nat} {t r : Text}
    {xs : List α} (hr : readItems i hc b t = .ok (xs, r)) : ∀ x ∈ xs, P x := by
  induction b generalizing t r xs with
  | zero => cases hr
  | succ b ih =>
    obtain ⟨⟨x, rs⟩, hfi, hr⟩ := bind_ok hr
    obtain ⟨⟨ys, r'⟩, hf, hr⟩ := bind_ok hr
    cases hr
    exact List.forall_mem_cons.mpr ⟨he _ _ _ hfi, readMore_all (fun _ _ _ => ih) hf⟩

theorem readBlock_all (he : ∀ t x r, i t = .ok (x, r) → P x) {t r : Text} {xs : List α}
    (hr : readBlock i hc t = .ok (xs, r)) : ∀ x ∈ xs, P x := by
  unfold readBlock at hr
  split at hr
  · cases hr
  · split at hr
    · cases hr
      nofun
    · exact readItems_all he hr

end Items

section Values

variable {hn : Text → Except DecodeError (JsonValue × Text)}

theorem readMember_writable (hi : ∀ t v r, hn t = .ok (v, r) → Writable v) {t r : Text}
    {m : PyString × JsonValue} (hr : readMember hn t = .ok (m, r)) : Writable m.2 := by
  unfold readMember at hr
  split at hr
  · obtain ⟨⟨n, rs⟩, -, hr⟩ := bind_ok hr
    simp only at hr
    split at hr
    · obtain ⟨⟨va, r'⟩, hv, hr⟩ := bind_ok hr
      cases hr
      exact hi _ _ _ hv
    · cases hr
  · cases hr

theorem readLevel_writable (hi : ∀ t v r, hn t = .ok (v, r) → Writable v) {t r : Text}
    {v : JsonValue} (hr : readLevel hn t = .ok (v, r)) : Writable v := by
  unfold readLevel at hr
  split at hr
  next =>
    obtain ⟨⟨s, rs⟩, -, hr⟩ := bind_ok hr
    cases hr
    exact .string
  next =>
    obtain ⟨⟨xs, rs⟩, he, hr⟩ := bind_ok hr
    cases hr
    exact .array (readBlock_all hi he)
  next =>
    obtain ⟨⟨ms, rs⟩, hm, hr⟩ := bind_ok hr
    obtain ⟨va, hd, hr⟩ := bind_ok hr
    cases hr
    unfold rejectDuplicateKeys at hd
    split at hd <;> cases hd
    exact .object (readBlock_all (fun _ _ _ => readMember_writable hi) hm)
  next =>
    cases hr
    exact .null
  next =>
    cases hr
    exact .bool
  next =>
    cases hr
    exact .bool
  next =>
    cases hr
    exact .float
  next =>
    cases hr
    exact .float
  next =>
    cases hr
    exact .float
  next => exact readNumber_writable hr

theorem readValue_writable {d : Nat} {t r : Text} {v : JsonValue}
    (hr : readValue d t = .ok (v, r)) : Writable v := by
  induction d generalizing t v r with
  | zero => exact readLevel_writable (fun _ _ _ ht => by cases ht) hr
  | succ d ih => exact readLevel_writable (fun _ _ _ => ih) hr

end Values

end ManifestLemmas

open ManifestLemmas

theorem loads_writable {rl : Nat} {t : Text} {v : JsonValue}
    (hl : loads rl t = .ok v) : Writable v := by
  obtain ⟨⟨va, r⟩, hr, hl⟩ := bind_ok hl
  simp only at hl
  split at hl <;> cases hl
  exact readValue_writable hr

/-! ## The field rules -/

/-- A failure is one of the closed reasons. -/
def Refuses {α : Type} (x : Except BundleFailure α) : Prop :=
  ∀ failure, x = .error failure → ∃ reason, failure = .bundleInvalid reason

section Refuses

variable {α β : Type}

theorem refuses_ok (a : α) : Refuses (.ok a : Except BundleFailure α) := nofun

theorem refuses_reject (r : BundleInvalidReason) : Refuses (reject r : Except BundleFailure α) := by
  rintro f ⟨⟩
  exact ⟨r, rfl⟩

theorem refuses_require (r : BundleInvalidReason) (v : Option α) : Refuses (require r v) := by
  cases v with
  | none => exact refuses_reject r
  | some a => exact refuses_ok a

theorem Refuses.bind {x : Except BundleFailure α} {f : α → Except BundleFailure β}
    (hf : Refuses x) (hr : ∀ a, Refuses (f a)) : Refuses (x >>= f) := by
  cases x with
  | error fa => exact fun _ is => hf _ (by cases is; rfl)
  | ok a => exact hr a

theorem refuses_ite {p : Prop} [Decidable p] {x y : Except BundleFailure α} (yes : Refuses x)
    (no : Refuses y) : Refuses (if p then x else y) := by
  split
  · exact yes
  · exact no

theorem refuses_mapM {f : α → Except BundleFailure β} (he : ∀ a, Refuses (f a)) (xs : List α) :
    Refuses (xs.mapM f) := by
  induction xs with
  | nil => exact refuses_ok _
  | cons x xs ih =>
    rw [List.mapM_cons]
    exact (he x).bind fun y => ih.bind fun ys => refuses_ok _

end Refuses

namespace ManifestLemmas

theorem parseDump_refuses (v : Option JsonValue) : Refuses (parseDump v) := by
  unfold parseDump
  split
  · refine refuses_ite (refuses_reject _) (refuses_ite (refuses_reject _) ?_)
    refine (refuses_require _ _).bind fun s => refuses_ite (refuses_reject _) ?_
    exact (refuses_require _ _).bind fun sb => refuses_ok _
  · exact refuses_reject _

theorem parseCounts_refuses (c : ManifestContract) (v : Option JsonValue) :
    Refuses (parseCounts c v) := by
  unfold parseCounts
  split
  · refine refuses_ite (refuses_reject _) ((refuses_mapM (fun ct => ?_) _).bind fun co =>
      refuses_ok _)
    exact (refuses_require _ _).bind fun t => (refuses_require _ _).bind fun tc =>
      refuses_ok _
  · exact refuses_reject _

theorem parseEntry_refuses (v : JsonValue) : Refuses (parseEntry v) := by
  unfold parseEntry
  split
  · refine refuses_ite (refuses_reject _) ?_
    refine (refuses_require _ _).bind fun cs => (refuses_require _ _).bind fun d =>
      (refuses_require _ _).bind fun ok => (refuses_require _ _).bind fun rp =>
      refuses_ite (refuses_reject _) ?_
    exact (refuses_require _ _).bind fun mt => (refuses_require _ _).bind fun c =>
      (refuses_require _ _).bind fun sb => refuses_ite (refuses_reject _) (refuses_ok _)
  · exact refuses_reject _

theorem parseEntries_refuses (p : Option Text) (v : List JsonValue) :
    Refuses (parseEntries p v) := by
  induction v generalizing p with
  | nil => exact refuses_ok _
  | cons va v ih =>
    unfold parseEntries
    exact (parseEntry_refuses va).bind fun en => refuses_ite (refuses_reject _)
      (refuses_ite (refuses_reject _) ((ih _).bind fun e => refuses_ok _))

theorem parseObjects_refuses (v : Option JsonValue) : Refuses (parseObjects v) := by
  unfold parseObjects
  split
  · exact parseEntries_refuses _ _
  · exact refuses_reject _

end ManifestLemmas

theorem parseFields_refuses (payload : List (PyString × JsonValue)) :
    Refuses (parseFields payload) := by
  unfold parseFields
  refine (refuses_require _ _).bind fun c => refuses_ite (refuses_reject _) ?_
  refine (refuses_require _ _).bind fun bi => refuses_ite (refuses_reject _) ?_
  refine (refuses_require _ _).bind fun ca => (refuses_require _ _).bind fun e =>
    (refuses_require _ _).bind fun v => (refuses_require _ _).bind fun r =>
    refuses_ite (refuses_reject _) ?_
  exact (parseDump_refuses _).bind fun d => (parseCounts_refuses _ _).bind fun co =>
    (parseObjects_refuses _).bind fun o => refuses_ok _

/-! ## The integers of a parsed manifest -/

namespace ManifestLemmas

variable {payload : List (PyString × JsonValue)}

theorem member?_writable {n : String} {v : JsonValue} (he : ∀ m ∈ payload, Writable m.2)
    (hf : member? payload n = some v) : Writable v := by
  obtain ⟨m, hh, rfl⟩ := Option.map_eq_some_iff.mp hf
  exact he m (List.mem_of_find?_eq_some hh)

theorem natural?_writable {nm : String} {n : Nat} (he : ∀ m ∈ payload, Writable m.2)
    (hf : natural? (member? payload nm) = some n) : isWritable n = true := by
  cases hh : member? payload nm with
  | none =>
    rw [hh] at hf
    cases hf
  | some v =>
    rw [hh] at hf
    exact (member?_writable he hh).natural hf

theorem parseDump_writable {n : String} {d : ManifestDumpEntry} (he : ∀ m ∈ payload, Writable m.2)
    (hp : parseDump (member? payload n) = .ok d) : isWritable d.sizeBytes = true := by
  unfold parseDump at hp
  split at hp
  next i hf =>
    split at hp
    · cases hp
    · split at hp
      · cases hp
      · obtain ⟨s, -, hp⟩ := bind_ok hp
        split at hp
        · cases hp
        · obtain ⟨sb, hs, hp⟩ := bind_ok hp
          cases hp
          exact natural?_writable (member?_writable he hf).members (require_ok.mp hs)
  · cases hp

theorem parseCounts_writable {n : String} {co : ManifestContract}
    {cs : List (Text × Nat)} (he : ∀ m ∈ payload, Writable m.2)
    (hp : parseCounts co (member? payload n) = .ok cs) :
    ∀ c ∈ cs, isWritable c.2 = true := by
  unfold parseCounts at hp
  split at hp
  next i hf =>
    split at hp
    · cases hp
    · obtain ⟨r, hm, hp⟩ := bind_ok hp
      cases hp
      intro c hme
      have hu : c ∈ r := (List.perm_insertionSort _ r).mem_iff.mp hme
      obtain ⟨m, hh, one⟩ := (mem_of_mapM hm).1 c hu
      obtain ⟨t, -, one⟩ := bind_ok one
      obtain ⟨tc, hv, one⟩ := bind_ok one
      cases one
      exact ((member?_writable he hf).members m hh).natural (require_ok.mp hv)
  · cases hp

theorem parseObjects_rules {v : Option JsonValue} {e : List ManifestObjectEntry}
    (hp : parseObjects v = .ok e) : ∀ en ∈ e, EntryRules en := by
  unfold parseObjects at hp
  split at hp
  · exact (parseEntries_rules hp).1
  · cases hp

end ManifestLemmas

theorem parseFields_ok {payload : List (PyString × JsonValue)} {ma : RecoveryManifest}
    (hp : parseFields payload = .ok ma) :
    member? payload "postgresql_server_version" = some (.string ma.postgresqlServerVersion) ∧
      ((∀ m ∈ payload, Writable m.2) → ma.integers.all isWritable = true) := by
  obtain ⟨c, -, hp⟩ := bind_ok hp
  split at hp
  · cases hp
  obtain ⟨bi, -, hp⟩ := bind_ok hp
  split at hp
  · cases hp
  obtain ⟨ca, -, hp⟩ := bind_ok hp
  obtain ⟨se, -, hp⟩ := bind_ok hp
  obtain ⟨sv, hv, hp⟩ := bind_ok hp
  obtain ⟨sr, -, hp⟩ := bind_ok hp
  split at hp
  · cases hp
  obtain ⟨d, hd, hp⟩ := bind_ok hp
  obtain ⟨cs, hc, hp⟩ := bind_ok hp
  obtain ⟨o, hl, hp⟩ := bind_ok hp
  cases hp
  constructor
  · have hs := require_ok.mp hv
    unfold string? at hs
    split at hs <;> cases hs
    assumption
  · intro he
    refine List.all_eq_true.mpr fun n hm => ?_
    simp only [RecoveryManifest.integers, List.mem_cons, List.mem_append, List.mem_map] at hm
    rcases hm with (rfl | ⟨co, hh, rfl⟩) | ⟨e, hha, rfl⟩
    · exact parseDump_writable he hd
    · exact parseCounts_writable he hc co hh
    · exact isWritable_of_le (parseObjects_rules hl e hha).bounded

/-! ## Both directions -/

/-- The manifest can be written: its integers, and its server version as characters. -/
def Encodable (manifest : RecoveryManifest) : Prop :=
  manifest.integers.all isWritable = true ∧ characters manifest.postgresqlServerVersion ≠ none

theorem encodeManifest_ok_iff {m : RecoveryManifest} :
    (∃ raw, encodeManifest m = .ok raw) ↔ Encodable m := by
  unfold encodeManifest Encodable
  split
  next hw => cases characters m.postgresqlServerVersion <;> simp [hw]
  next hu => simp [hu]

def FieldsKept (payload : List (PyString × JsonValue)) : Prop :=
  ∃ manifest, parseFields payload = .ok manifest

/-- The decoder neither meets an integer too long nor values too deep, and what it decodes is no
payload that keeps all field rules with a lone surrogate in its server version. -/
def Settled (recursionLimit : Nat) (raw : Bytes) : Prop :=
  ∀ text, decodeUtf8 raw = some text →
    loads recursionLimit text ≠ .error .integerTooLong ∧
    loads recursionLimit text ≠ .error .tooDeep ∧
    ∀ payload version, loads recursionLimit text = .ok (.object payload) → FieldsKept payload →
      member? payload "postgresql_server_version" = some (.string version) →
      characters version ≠ none

/-- The bytes give a manifest that encodes to them, or one of the closed reasons. -/
def Answers (recursionLimit : Nat) (raw : Bytes) : Prop :=
  (∃ manifest, parseManifest recursionLimit raw = .ok manifest ∧
    encodeManifest manifest = .ok raw) ∨
  ∃ reason, parseManifest recursionLimit raw = .error (.bundleInvalid reason)

theorem encode_of_parsed {rl : Nat} {raw : Bytes} {m : RecoveryManifest}
    (hp : parseManifest rl raw = .ok m) :
    encodeManifest m = .ok raw := by
  obtain ⟨t, -, hp⟩ := bind_ok hp
  obtain ⟨v, -, hp⟩ := bind_ok hp
  split at hp
  · obtain ⟨m', -, hp⟩ := bind_ok hp
    obtain ⟨e, he, hp⟩ := bind_ok hp
    split at hp
    · cases hp
    next hs =>
      cases hp
      rw [mapError_ok.mp he, not_not.mp hs]
  · cases hp

theorem answers_iff_not_raised {rl : Nat} {raw : Bytes} : Answers rl raw ↔
      ∀ e, parseManifest rl raw ≠ .error (.raised e) := by
  constructor
  · rintro (⟨m, hp, -⟩ | ⟨r, hre⟩) e hr
    · cases hp.symm.trans hr
    · cases hre.symm.trans hr
  · intro hs
    cases ho : parseManifest rl raw with
    | ok m => exact .inl ⟨m, ho, encode_of_parsed ho⟩
    | error f =>
      cases f with
      | bundleInvalid r => exact .inr ⟨r, ho⟩
      | raised e => exact absurd ho (hs e)

theorem recheck_silent_iff {m : RecoveryManifest} {raw : Bytes} (en : Except PythonError Bytes) :
    (∀ er, (do
      let e ← en.mapError BundleFailure.raised
      if e ≠ raw then reject .jsonNoncanonical else return m) ≠
        .error (.raised er)) ↔ ∃ e, en = .ok e := by
  cases en with
  | error er => simp [Except.mapError, bind, Except.bind]
  | ok e =>
    refine ⟨fun _ => ⟨e, rfl⟩, fun _ er => ?_⟩
    simp only [Except.mapError, bind, Except.bind, reject]
    split
    · exact fun h => by cases h
    · exact fun h => by cases h

theorem answers_iff {rl : Nat} {raw : Bytes} : Answers rl raw ↔ Settled rl raw := by
  rw [answers_iff_not_raised]
  cases hd : decodeUtf8 raw with
  | none =>
    refine ⟨fun _ t is => by simp [hd] at is, fun _ er hr => ?_⟩
    simp [parseManifest, hd, require, reject, bind, Except.bind] at hr
  | some t =>
    have hs : Settled rl raw ↔ loads rl t ≠ .error .integerTooLong ∧ loads rl t ≠ .error .tooDeep ∧
        ∀ payload v, loads rl t = .ok (.object payload) → FieldsKept payload →
          member? payload "postgresql_server_version" = some (.string v) →
          characters v ≠ none :=
      ⟨fun all => all t hd, fun all t' is => by
        rw [hd] at is
        cases is
        exact all⟩
    rw [hs]
    cases hl : loads rl t with
    | error c =>
      cases c <;> simp [parseManifest, hd, hl, Except.mapError, DecodeError.failure, require, bind,
        Except.bind]
    | ok va =>
      cases va with
      | object payload =>
        have hw := (loads_writable hl).members
        simp only [ne_eq, reduceCtorEq, not_false_eq_true, true_and, Except.ok.injEq,
          JsonValue.object.injEq]
        have hpa : parseManifest rl raw = (do
            let m ← parseFields payload
            let e ← (encodeManifest m).mapError .raised
            if e ≠ raw then reject .jsonNoncanonical
            else return m) := by
          rw [parseManifest, hd]
          show ((loads rl t).mapError DecodeError.failure >>= _) = _
          rw [hl]
          rfl
        rw [hpa]
        cases hf : parseFields payload with
        | error f =>
          obtain ⟨r, rfl⟩ := parseFields_refuses payload f hf
          refine ⟨fun _ p' v is hk => ?_, fun _ er h => by cases h⟩
          subst is
          obtain ⟨m, hp⟩ := hk
          cases hf.symm.trans hp
        | ok m =>
          obtain ⟨v, hi⟩ := parseFields_ok hf
          have he : (∃ e, encodeManifest m = .ok e) ↔ characters m.postgresqlServerVersion ≠ none :=
            encodeManifest_ok_iff.trans (and_iff_right (hi hw))
          refine (recheck_silent_iff _).trans (he.trans ⟨?_, ?_⟩)
          · rintro hk _ fo rfl _ is
            cases v.symm.trans is
            exact hk
          · exact fun all => all payload _ rfl ⟨m, hf⟩ v
      | null | bool | integer | float | string | array =>
        simp [parseManifest, hd, hl, Except.mapError, require, bind, Except.bind, reject]

/-- Encoding a manifest whose fields keep the parser's rules and parsing it gives it back exactly
where it can be written, and the parser settles exactly the bytes of the condition. -/
theorem manifest_codec_iff (recursionLimit : Nat) (deep : 3 ≤ recursionLimit) :
    (∀ manifest, KeepsRules manifest →
      ((∃ raw, encodeManifest manifest = .ok raw ∧ parseManifest recursionLimit raw = .ok manifest) ↔
        Encodable manifest)) ∧
    ∀ raw, Answers recursionLimit raw ↔ Settled recursionLimit raw := by
  refine ⟨fun manifest hr => ?_, fun raw => answers_iff⟩
  rw [← encodeManifest_ok_iff]
  constructor
  · rintro ⟨raw, he, -⟩
    exact ⟨raw, he⟩
  · rintro ⟨raw, he⟩
    exact ⟨raw, he, parseManifest_encoded hr deep he⟩

def noteDigest : ContentDigest := ⟨List.replicate 64 'b', by decide⟩

/-- A manifest of the first contract with one object. -/
def noteManifest : RecoveryManifest where
  bundleId := ⟨"0198c0de000070008000000000000001".toList, by decide⟩
  createdAt := ⟨2026, 9, 2, 10, 30, 0, 5, by decide⟩
  sourceEnvironment := .test
  postgresqlServerVersion := pyString "18.0".toList
  postgresqlSchemaRevision := ManifestContract.v1.schemaRevision
  postgresDump := ⟨postgresDumpRelativePath, 10, List.replicate 64 'a'⟩
  canonicalCounts := sortMembers (v1CanonicalCountTables.map fun table => (table.toList, 1))
  objects := [⟨noteDigest.hexadecimal, deriveCanonicalObjectKey noteDigest, 4,
    "text/markdown".toList, deriveCanonicalObjectKey noteDigest⟩]
  contract := .v1

theorem manifest_codec_note : ∃ raw, encodeManifest noteManifest = .ok raw ∧
    parseManifest 1000 raw = .ok noteManifest ∧ Settled 1000 raw := by
  have hc := manifest_codec_iff 1000 (by decide)
  have hk : KeepsRules noteManifest := {
    version7 := by decide
    revision := rfl
    dumpPath := rfl
    dumpSha256 := by decide
    tables := ⟨v1CanonicalCountTables, by decide, by decide⟩
    countsSorted := sortMembers_sorted _
    entries := List.forall_mem_singleton.mpr
      ⟨⟨noteDigest, by decide, rfl, rfl⟩, by decide, by decide⟩
    ascending := List.pairwise_singleton _ _ }
  obtain ⟨raw, he, hp⟩ := (hc.1 noteManifest hk).mpr ⟨by decide, by decide⟩
  exact ⟨raw, he, hp, (hc.2 raw).mp (.inl ⟨_, hp, he⟩)⟩

/-- The decoder refuses an integer of more digits than the interpreter converts. -/
theorem loads_ones {rl d : Nat} (hlo : maximumIntegerDigits ≤ d) :
    loads rl (List.replicate (d + 1) '1') = .error .integerTooLong := by
  have ho : ∀ c ∈ List.replicate d '1', c.isDigit = true := fun c hm =>
    List.eq_of_mem_replicate hm ▸ rfl
  have hsn : digitSpan (List.replicate d '1') = (List.replicate d '1', []) := by
    have hsp := DecoderLemmas.digitSpan_append ho (stops_nil _)
    rwa [List.append_nil] at hsp
  have hr : readNumber (List.replicate (d + 1) '1') = .error .integerTooLong := by
    show finishNumber false ('1' :: (digitSpan (List.replicate d '1')).1)
      (digitSpan (List.replicate d '1')).2 = _
    rw [hsn]
    have ht : maximumIntegerDigits < ('1' :: List.replicate d '1').length := by
      rw [List.length_cons, List.length_replicate]
      exact Nat.lt_succ_of_le hlo
    simp only [finishNumber, readFraction, readExponent, and_self, if_true, if_pos ht]
  have hl : readValue rl (List.replicate (d + 1) '1') =
      readNumber (List.replicate (d + 1) '1') := by
    cases rl <;> rfl
  have hs : skipBlanks (List.replicate (d + 1) '1') = List.replicate (d + 1) '1' := rfl
  rw [loads, hs, hl, hr]
  rfl

/-- An integer of one digit more than the interpreter converts. -/
theorem long_integer_raises : parseManifest 1000 (utf8 (List.replicate 4301 '1')) =
      .error (.raised .valueError) ∧ ¬ Answers 1000 (utf8 (List.replicate 4301 '1')) := by
  have hr : parseManifest 1000 (utf8 (List.replicate 4301 '1')) = .error (.raised .valueError) := by
    rw [parseManifest, decodeUtf8_utf8]
    simp only [require, bind, Except.bind, loads_ones (show maximumIntegerDigits ≤ 4300 by decide),
      Except.mapError, DecodeError.failure]
  refine ⟨hr, fun ha => ?_⟩
  exact answers_iff_not_raised.mp ha .valueError hr

end PersonalOs.Recovery
