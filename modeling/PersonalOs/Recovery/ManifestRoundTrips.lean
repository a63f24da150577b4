import PersonalOs.Recovery.Manifest

/-!
# Decoding undoes encoding

The fields of an encoded manifest are read back one by one, each under the rule the parser has
for it.
-/

namespace PersonalOs.Recovery

open Json
open ExclusionPolicy (PyString ContentDigest CanonicalMediaType deriveCanonicalObjectKey utf8
  characters characters_scalar)

/-! ## Identifiers -/

namespace ManifestLemmas

theorem removeWord_absent {c : Char} {w t : Text} {a : Nat} (hn : c ∉ t) :
    removeWord (c :: w) a t = t := by
  induction a generalizing t with
  | zero => rfl
  | succ a ih =>
    cases t with
    | nil => rfl
    | cons d t =>
      rw [List.mem_cons, not_or] at hn
      rw [removeWord, if_neg, ih hn.2]
      rw [List.isPrefixOf_cons_cons, Bool.and_eq_true, beq_iff_eq]
      exact fun hs => hn.1 hs.1

theorem stripBraces_absent {t : Text} (hn : ∀ c ∈ t, c ≠ '{' ∧ c ≠ '}') : stripBraces t = t := by
  have hk : ∀ u : Text, (∀ c ∈ u, c ∈ t) →
      u.dropWhile (fun c => decide (c = '{') || decide (c = '}')) = u := by
    intro u hi
    cases u with
    | nil => rfl
    | cons c u =>
      have hp := hn c (hi c List.mem_cons_self)
      simp [hp.1, hp.2]
  unfold stripBraces
  rw [hk t fun _ hm => hm, hk t.reverse fun _ hm => List.mem_reverse.mp hm, List.reverse_reverse]

theorem hex_plain {c : Char} (hex : isLowercaseHex c = true) :
    c ≠ '-' ∧ c ≠ 'u' ∧ c ≠ '{' ∧ c ≠ '}' ∧ c.toLower = c := by
  have hu : ¬('A' ≤ c ∧ c ≤ 'Z') := by
    rintro ⟨low, hh⟩
    simp only [isLowercaseHex, Bool.or_eq_true, Bool.and_eq_true, decide_eq_true_eq] at hex
    rcases hex with ⟨-, top⟩ | ⟨hb, -⟩
    · exact absurd (low.trans top) (by decide)
    · exact absurd (hb.trans hh) (by decide)
  refine ⟨?_, ?_, ?_, ?_, ?_⟩
  · rintro rfl
    exact absurd hex (by decide)
  · rintro rfl
    exact absurd hex (by decide)
  · rintro rfl
    exact absurd hex (by decide)
  · rintro rfl
    exact absurd hex (by decide)
  · rw [Char.toLower]
    exact dif_neg hu

end ManifestLemmas

open ManifestLemmas

theorem BundleId.all_hex (bi : BundleId) : ∀ c ∈ bi.hex, isLowercaseHex c = true := by
  have hc := bi.canonical
  simp only [isUuidHex, Bool.and_eq_true, List.all_eq_true] at hc
  exact hc.2

theorem BundleId.mem_text {bi : BundleId} {c : Char} (hm : c ∈ bi.text) :
    c = '-' ∨ isLowercaseHex c = true := by
  have hex := bi.all_hex
  simp only [BundleId.text, List.mem_append, List.mem_cons] at hm
  rcases hm with hi | rfl | hi | rfl | hi | rfl | hi | rfl | hi
  · exact .inr (hex c (List.mem_of_mem_take hi))
  · exact .inl rfl
  · exact .inr (hex c (List.mem_of_mem_drop (List.mem_of_mem_take hi)))
  · exact .inl rfl
  · exact .inr (hex c (List.mem_of_mem_drop (List.mem_of_mem_take hi)))
  · exact .inl rfl
  · exact .inr (hex c (List.mem_of_mem_drop (List.mem_of_mem_take hi)))
  · exact .inl rfl
  · exact .inr (hex c (List.mem_of_mem_drop hi))

theorem BundleId.filter_text (bi : BundleId) : bi.text.filter (fun c => c ≠ '-') = bi.hex := by
  have hk : ∀ u : Text, (∀ c ∈ u, c ∈ bi.hex) → u.filter (fun c => c ≠ '-') = u :=
    fun u hi => List.filter_eq_self.mpr fun c hm =>
      decide_eq_true (hex_plain (bi.all_hex c (hi c hm))).1
  have hc : ∀ n m, ∀ c ∈ (bi.hex.drop n).take m, c ∈ bi.hex :=
    fun n m c hm => List.mem_of_mem_drop (List.mem_of_mem_take hm)
  have hp : bi.hex = bi.hex.take 8 ++ ((bi.hex.drop 8).take 4 ++
      ((bi.hex.drop 12).take 4 ++ ((bi.hex.drop 16).take 4 ++ bi.hex.drop 20))) := by
    have hs : ∀ n m, bi.hex.drop n = (bi.hex.drop n).take m ++ bi.hex.drop (n + m) := fun n m => by
      rw [← List.drop_drop, List.take_append_drop]
    rw [← hs 16 4, ← hs 12 4, ← hs 8 4, List.take_append_drop]
  have hsk : ∀ u : Text, ('-' :: u).filter (fun c => c ≠ '-') = u.filter (fun c => c ≠ '-') :=
    fun u => List.filter_cons_of_neg (by decide)
  rw [BundleId.text]
  simp only [List.filter_append, hsk]
  rw [hk _ fun c => List.mem_of_mem_take, hk _ (hc 8 4), hk _ (hc 12 4),
    hk _ (hc 16 4), hk _ fun c => List.mem_of_mem_drop]
  exact hp.symm

namespace ManifestLemmas

theorem hex_ascii {c : Char} (hex : isLowercaseHex c = true) :
    toAscii c = c ∧ isAsciiSpace c = false ∧ c ≠ '+' ∧ c ≠ 'x' ∧ c ≠ 'X' ∧ c ≠ '_' := by
  have hr : (48 ≤ c.toNat ∧ c.toNat ≤ 57) ∨ (97 ≤ c.toNat ∧ c.toNat ≤ 102) := by
    simp only [isLowercaseHex, Bool.or_eq_true, Bool.and_eq_true, decide_eq_true_eq] at hex
    exact hex
  have hs : c.toNat < 127 := by omega
  have hd : ∀ d : Char, (d.toNat < 48 ∨ (57 < d.toNat ∧ d.toNat < 97) ∨ 102 < d.toNat) → c ≠ d := by
    rintro d ho rfl
    omega
  refine ⟨if_pos hs, ?_, hd _ (by decide), hd _ (by decide), hd _ (by decide), hd _ (by decide)⟩
  have hb : c ≠ ' ' := hd _ (by decide)
  simp only [isAsciiSpace, Bool.or_eq_false_iff, Bool.and_eq_false_iff, decide_eq_false_iff_not]
  exact ⟨hb, by omega⟩

theorem hexDigits?_plain {t : Text} (hs : t ≠ []) (hex : ∀ c ∈ t, isLowercaseHex c = true) :
    hexDigits? t = some t := by
  have hp : ∀ c ∈ t, (isHex c || decide (c = '_')) = true := fun c hm => by
    simp [isHex, hex c hm]
  have hb : t.takeWhile (fun c => isHex c || decide (c = '_')) = t :=
    List.takeWhile_eq_self_iff.mpr hp
  have hr : t.dropWhile (fun c => isHex c || decide (c = '_')) = [] :=
    List.dropWhile_eq_nil_iff.mpr hp
  have hn : '_' ∉ t := fun hm => (hex_ascii (hex _ hm)).2.2.2.2.2 rfl
  have hk : t.filter (fun c => c ≠ '_') = t :=
    List.filter_eq_self.mpr fun c hm => decide_eq_true (hex_ascii (hex c hm)).2.2.2.2.2
  have hl : t.map Char.toLower = t :=
    (List.map_congr_left fun c hm => (hex_plain (hex c hm)).2.2.2.2).trans (List.map_id _)
  unfold hexDigits?
  simp only [hb, hr, List.all_nil]
  rw [if_pos, hk, hl]
  refine ⟨hs, fun hf => hn ?_, fun hla => hn ?_, fun ht => hn ?_, trivial⟩
  · exact List.mem_of_mem_head? hf
  · exact List.mem_of_getLast? hla
  · exact ht.subset List.mem_cons_self

theorem intBase16?_plain {t : Text} (hso : t ≠ []) (hex : ∀ c ∈ t, isLowercaseHex c = true) :
    intBase16? t = some t := by
  have ha : t.map toAscii = t :=
    (List.map_congr_left fun c hm => (hex_ascii (hex c hm)).1).trans (List.map_id _)
  obtain ⟨c, r, rfl⟩ := List.exists_cons_of_ne_nil hso
  have hf := hex_ascii (hex c List.mem_cons_self)
  have hu : skipPlus (c :: r) = c :: r := by
    unfold skipPlus
    split
    next he => exact absurd (List.cons.inj he).1 hf.2.2.1
    next => rfl
  have hs : ∀ d ∈ r, d ≠ 'x' ∧ d ≠ 'X' := fun d hm =>
    have ho := hex_ascii (hex d (List.mem_cons_of_mem _ hm))
    ⟨ho.2.2.2.1, ho.2.2.2.2.1⟩
  have hb : skipHexPrefix (c :: r) = c :: r := by
    unfold skipHexPrefix
    split <;> first
      | rfl
      | (rename_i he
         obtain ⟨-, rfl⟩ := List.cons.inj he
         exact absurd rfl (hs _ List.mem_cons_self).1)
      | (rename_i he
         obtain ⟨-, rfl⟩ := List.cons.inj he
         exact absurd rfl (hs _ List.mem_cons_self).2)
  rw [intBase16?, ha, List.dropWhile_cons_of_neg (by simp [hf.2.1]), hu, hb,
    hexDigits?_plain hso hex]

end ManifestLemmas

theorem BundleId.parse_text (bi : BundleId) : BundleId.parse bi.text = some bi := by
  have hl : 'u' ∉ bi.text := fun hm => by
    rcases BundleId.mem_text hm with he | hex
    · exact absurd he (by decide)
    · exact absurd hex (by decide)
  have hb : ∀ c ∈ bi.text, c ≠ '{' ∧ c ≠ '}' := fun c hm => by
    rcases BundleId.mem_text hm with rfl | hex
    · decide
    · exact ⟨(hex_plain hex).2.2.1, (hex_plain hex).2.2.2.1⟩
  have hlo : bi.hex.length = 32 := by
    have hc := bi.canonical
    simp only [isUuidHex, Bool.and_eq_true, decide_eq_true_eq] at hc
    exact hc.1
  have hr : (stripBraces (removeWord "uuid:".toList
      (removeWord "urn:".toList bi.text.length bi.text).length
      (removeWord "urn:".toList bi.text.length bi.text))).filter (fun c => c ≠ '-') = bi.hex := by
    rw [show "urn:".toList = 'u' :: "rn:".toList from rfl,
      show "uuid:".toList = 'u' :: "uid:".toList from rfl, removeWord_absent hl,
      removeWord_absent hl, stripBraces_absent hb, bi.filter_text]
  have hd : intBase16? bi.hex = some bi.hex :=
    intBase16?_plain (List.ne_nil_of_length_pos (by omega)) bi.all_hex
  unfold BundleId.parse
  simp only [hr]
  rw [if_neg (by simp [hlo]), hd]
  simp only [bind, Option.bind, hlo, Nat.sub_self, List.replicate_zero, List.nil_append]
  exact dif_pos bi.canonical

/-! ## Moments -/

namespace ManifestLemmas

theorem length_padded (width n : Nat) : (padded width n).length = width := by
  induction width generalizing n with
  | zero => rfl
  | succ width ih => rw [padded, List.length_append, ih, List.length_singleton]

variable {n width : Nat}

theorem padded_digits {c : Char} (hm : c ∈ padded width n) : c.isDigit = true := by
  induction width generalizing n with
  | zero => cases hm
  | succ width ih =>
    rcases List.mem_append.mp hm with hb | hl
    · exact ih hb
    · rw [List.mem_singleton.mp hl]
      have hbo : n % 10 < 10 := Nat.mod_lt _ (by decide)
      generalize n % 10 = d at hbo
      interval_cases d <;> rfl

theorem ofDigitChars_padded (hbo : n < 10 ^ width) :
    Nat.ofDigitChars 10 (padded width n) 0 = n := by
  induction width generalizing n with
  | zero =>
    rw [Nat.lt_one_iff.mp hbo]
    rfl
  | succ width ih =>
    have hb : n / 10 < 10 ^ width := Nat.div_lt_of_lt_mul (by rwa [← Nat.pow_succ'])
    rw [padded, Nat.ofDigitChars_append, ih hb,
      Nat.ofDigitChars_cons_digitChar_of_lt_ten (Nat.mod_lt _ (by decide)), Nat.ofDigitChars_nil,
      Nat.div_add_mod]

theorem decimals?_digits {t : Text} (hdi : ∀ c ∈ t, c.isDigit = true) :
    decimals? t = some (Nat.ofDigitChars 10 t 0) := by
  have hv : ∀ c : Char, c.isDigit = true → decimalDigit? c = some (c.toNat - '0'.toNat) := by
    intro c hd
    have hr : 0x30 ≤ c.toNat ∧ c.toNat < 0x30 + 10 := by
      simp only [Char.isDigit, Bool.and_eq_true, decide_eq_true_eq] at hd
      exact ⟨hd.1, Nat.lt_succ_of_le hd.2⟩
    obtain ⟨o, hz⟩ : ∃ o, decimalZeros = 0x30 :: o := ⟨_, rfl⟩
    have hf : decimalZeros.find? (fun x => x ≤ c.toNat && c.toNat < x + 10) = some 0x30 := by
      rw [hz]
      exact List.find?_cons_of_pos (by simpa using hr)
    rw [decimalDigit?, hf]
    rfl
  have hfr : ∀ acc, t.foldlM (fun n c => (decimalDigit? c).map (n * 10 + ·)) acc =
      some (Nat.ofDigitChars 10 t acc) := by
    induction t with
    | nil => exact fun acc => rfl
    | cons c t ih =>
      intro acc
      rw [List.foldlM_cons, hv c (hdi c List.mem_cons_self), Nat.ofDigitChars_cons, Nat.mul_comm 10]
      exact ih (fun d hm => hdi d (List.mem_cons_of_mem _ hm)) _
  exact hfr 0

theorem readField_padded {s : Char} {t : Text} {a : Text → Bool} (hb : n < 10 ^ width)
    (ha : ∀ f : Text, f.length = width → f.all Char.isDigit = true → a f = true) :
    readField width a s (padded width n ++ s :: t) = some (n, t) := by
  have ht : (padded width n ++ s :: t).take width = padded width n :=
    List.take_left' (length_padded width n)
  have hd : (padded width n ++ s :: t).drop (width + 1) = t := by
    rw [← List.drop_drop, List.drop_left' (length_padded width n)]
    rfl
  have hn : (padded width n ++ s :: t)[width]? = some s := by
    rw [List.getElem?_append_right (by rw [length_padded]), length_padded, Nat.sub_self]
    rfl
  rw [readField, ht, hd, decimals?_digits fun c => padded_digits,
    ofDigitChars_padded hb, if_pos, Option.map_some]
  exact ⟨length_padded width n, ha _ (length_padded width n)
    (List.all_eq_true.mpr fun c => padded_digits), hn⟩

theorem twoDigits_ascii (fr : List Char) (f : Text) (two : f.length = 2)
    (hd : f.all Char.isDigit = true) : twoDigits fr f = true := by
  match f, two with
  | [a, b], _ =>
    simp only [List.all_cons, List.all_nil, Bool.and_true, Bool.and_eq_true] at hd
    simp [twoDigits, hd]

end ManifestLemmas

theorem Timestamp.parse_text (mo : Timestamp) :
    Timestamp.parse (formatManifestTimestamp mo) = some mo := by
  obtain ⟨ye, mh, day, h, mi, y, m, hv⟩ := mo
  have hbo := hv
  simp only [isMoment, Bool.and_eq_true, decide_eq_true_eq] at hbo
  obtain ⟨⟨⟨⟨⟨⟨⟨⟨⟨-, hy⟩, -⟩, hmo⟩, -⟩, hda⟩, hh⟩, hm⟩, hs⟩, hmi⟩ := hbo
  have hsh : daysIn ye mh ≤ 31 := by
    unfold daysIn
    split
    · split <;> decide
    · split <;> decide
  have hr : ∀ {width n : Nat} {s : Char} {t : Text}, n < 10 ^ width →
      readField width asciiDigits s (padded width n ++ s :: t) = some (n, t) :=
    fun hb => readField_padded hb fun _ _ hd => hd
  have two : ∀ {n : Nat} {f : List Char} {s : Char} {t : Text}, n < 10 ^ 2 →
      readField 2 (twoDigits f) s (padded 2 n ++ s :: t) = some (n, t) :=
    fun hb => readField_padded hb (twoDigits_ascii _)
  have any : ∀ {s : Char} {t : Text},
      readField 4 (fun _ => true) s (padded 4 ye ++ s :: t) = some (ye, t) :=
    readField_padded (by omega) fun _ _ _ => rfl
  simp only [Timestamp.parse, formatManifestTimestamp, bind, Option.bind, any,
    hr (show mh < 10 ^ 2 by omega), two (show day < 10 ^ 2 by omega),
    two (show h < 10 ^ 2 by omega), two (show mi < 10 ^ 2 by omega),
    two (show y < 10 ^ 2 by omega), hr (show m < 10 ^ 6 by omega)]
  exact dif_pos ⟨hv, trivial⟩

/-! ## Enumerations -/

theorem RecoveryEnvironment.parse_value (e : RecoveryEnvironment) :
    RecoveryEnvironment.parse e.value = some e := by
  cases e <;> decide

theorem ManifestContract.parse_token (c : ManifestContract) :
    ManifestContract.parse c.token = some c := by
  cases c <;> decide

/-! ## Bytes -/

theorem decodeUtf8_utf8 (t : Text) : decodeUtf8 (utf8 t) = some t := by
  have he : (utf8 t).toByteArray = t.utf8Encode := rfl
  rw [decodeUtf8, he, List.utf8Decode?_utf8Encode]
  rfl

/-! ## Members -/

theorem member?_ofMembers (ms : List (Text × Json)) (name : String) :
    member? (ofMembers ms) name = (ms.lookup name.toList).map ofJson := by
  induction ms with
  | nil => rfl
  | cons m ms ih =>
    rw [ofMembers, member?, List.find?_cons, List.lookup_cons]
    by_cases he : m.1 = name.toList
    · simp [he]
    · have ho : pyString m.1 ≠ pyString name.toList := fun heq =>
        he (DecoderLemmas.pyString_injective heq)
      rw [decide_eq_false ho, beq_eq_false_iff_ne.mpr (Ne.symm he)]
      exact ih

theorem hasExactly_ofMembers (na : List String) (ms : List (Text × Json)) :
    hasExactly na (ofMembers ms) =
      ((ms.map Prod.fst).all (fun t => na.any fun name => t = name.toList) &&
        na.all fun name => (ms.map Prod.fst).any fun t => t = name.toList) := by
  have he : ∀ (m : Text × Json) (name : String),
      decide (pyString m.1 = pyString name.toList) = decide (m.1 = name.toList) := fun m name =>
    decide_eq_decide.mpr DecoderLemmas.pyString_injective.eq_iff
  simp only [hasExactly, ofMembers_eq, List.all_map, List.any_map, Function.comp_def, he]

variable {ms : List (Text × Json)} {name : String}

theorem string?_field {t : Text} (hf : ms.lookup name.toList = some (.string t)) :
    string? (member? (ofMembers ms) name) = some (pyString t) := by
  rw [member?_ofMembers, hf]
  rfl

theorem text?_field {t : Text} (hf : ms.lookup name.toList = some (.string t)) :
    text? (member? (ofMembers ms) name) = some t := by
  rw [text?, string?_field hf]
  exact characters_scalar t

theorem natural?_field {n : Nat} (hf : ms.lookup name.toList = some (.integer n)) :
    natural? (member? (ofMembers ms) name) = some n := by
  rw [member?_ofMembers, hf]
  rfl

theorem hasExactly_names {na : List String} (he : ms.map Prod.fst = na.map String.toList) :
    hasExactly na (ofMembers ms) = true := by
  rw [hasExactly_ofMembers, he, Bool.and_eq_true, List.all_eq_true, List.all_eq_true]
  constructor
  · intro t hm
    obtain ⟨name, hi, rfl⟩ := List.mem_map.mp hm
    exact List.any_eq_true.mpr ⟨name, hi, decide_eq_true rfl⟩
  · intro name hi
    exact List.any_eq_true.mpr ⟨_, List.mem_map_of_mem hi, decide_eq_true rfl⟩

/-! ## Fields -/

structure EntryRules (entry : ManifestObjectEntry) : Prop where
  derived : ∃ digest : ContentDigest, ContentDigest.parse entry.contentSha256 = some digest ∧
    entry.objectKey = deriveCanonicalObjectKey digest ∧
    entry.relativePath = deriveCanonicalObjectKey digest
  media : (CanonicalMediaType.parse entry.mediaType).isSome = true
  bounded : entry.sizeBytes ≤ maximumObjectSizeBytes

structure KeepsRules (manifest : RecoveryManifest) : Prop where
  version7 : manifest.bundleId.isVersion7 = true
  revision : manifest.postgresqlSchemaRevision = manifest.contract.schemaRevision
  dumpPath : manifest.postgresDump.relativePath = postgresDumpRelativePath
  dumpSha256 : isLowercaseHex64 manifest.postgresDump.sha256 = true
  tables : ∃ names ∈ manifest.contract.countTableSets,
    (manifest.canonicalCounts.map Prod.fst).Perm (names.map String.toList)
  countsSorted : sortMembers manifest.canonicalCounts = manifest.canonicalCounts
  entries : ∀ entry ∈ manifest.objects, EntryRules entry
  ascending : manifest.objects.Pairwise fun a b => a.contentSha256 < b.contentSha256

namespace ManifestLemmas

theorem parseDump_members {d : ManifestDumpEntry} (hp : d.relativePath = postgresDumpRelativePath)
    (hs : isLowercaseHex64 d.sha256 = true) :
    parseDump (some (.object (ofMembers d.members))) = .ok d := by
  have hk : hasExactly dumpKeys (ofMembers d.members) = true := hasExactly_names rfl
  have hf : text? (member? (ofMembers d.members) "format") = some postgresDumpFormat :=
    text?_field rfl
  have hr : text? (member? (ofMembers d.members) "relative_path") =
      some d.relativePath := text?_field rfl
  have hd : text? (member? (ofMembers d.members) "sha256") = some d.sha256 := text?_field rfl
  have hsi : natural? (member? (ofMembers d.members) "size_bytes") = some d.sizeBytes :=
    natural?_field rfl
  rw [hp] at hr
  simp only [parseDump, hk, hf, hr, hd, hsi, hs, require, bind,
    Except.bind, pure, Except.pure, Bool.not_true, Bool.false_eq_true, ne_eq, not_true_eq_false,
    or_self, ↓reduceIte]
  rw [← hp]

theorem parseEntry_members {e : ManifestObjectEntry} (hru : EntryRules e) :
    parseEntry (.object (ofMembers e.members)) = .ok e := by
  obtain ⟨⟨d, hp, key, hpa⟩, hme, hb⟩ := hru
  obtain ⟨pm, hme⟩ := Option.isSome_iff_exists.mp hme
  have hk : hasExactly objectKeys (ofMembers e.members) = true := hasExactly_names rfl
  have hs : text? (member? (ofMembers e.members) "content_sha256") =
      some e.contentSha256 := text?_field rfl
  have ho : string? (member? (ofMembers e.members) "object_key") =
      some (pyString e.objectKey) := string?_field rfl
  have hr : string? (member? (ofMembers e.members) "relative_path") =
      some (pyString e.relativePath) := string?_field rfl
  have hm : text? (member? (ofMembers e.members) "media_type") = some e.mediaType := text?_field rfl
  have hsi : natural? (member? (ofMembers e.members) "size_bytes") = some e.sizeBytes :=
    natural?_field rfl
  rw [key] at ho
  rw [hpa] at hr
  simp only [parseEntry, hk, hs, hp, ho, hr, hm, hme, hsi,
    Nat.not_lt.mpr hb, require, bind, Except.bind, pure, Except.pure, Bool.not_true,
    Bool.false_eq_true, ne_eq, not_true_eq_false, or_self, ↓reduceIte]
  cases e
  cases key
  cases hpa
  rfl

theorem parseEntries_members {en : List ManifestObjectEntry} {p : Option Text}
    (hr : ∀ ey ∈ en, EntryRules ey)
    (ha : en.Pairwise fun a b => a.contentSha256 < b.contentSha256)
    (hab : ∀ s ∈ p, ∀ ey ∈ en, s < ey.contentSha256) :
    parseEntries p (en.map fun ey => .object (ofMembers ey.members)) = .ok en := by
  induction en generalizing p with
  | nil => rfl
  | cons ey en ih =>
    rw [List.pairwise_cons] at ha
    have hf : p.any (fun s => ey.contentSha256 = s) = false := by
      rw [Option.any_eq_false]
      intro s is
      exact decide_eq_false (hab s is ey List.mem_cons_self).ne'
    have hs : p.any (fun s => ey.contentSha256 < s) = false := by
      rw [Option.any_eq_false]
      intro s is
      exact decide_eq_false (hab s is ey List.mem_cons_self).asymm
    have hre : parseEntries (some ey.contentSha256)
        (en.map fun ey => .object (ofMembers ey.members)) = .ok en := by
      refine ih (fun e hm => hr e (List.mem_cons_of_mem _ hm)) ha.2 ?_
      intro s is e hm
      cases is
      exact ha.1 e hm
    simp only [List.map_cons, parseEntries, parseEntry_members (hr ey List.mem_cons_self),
      hf, hs, hre, bind, Except.bind, pure, Except.pure, Bool.false_eq_true, ↓reduceIte]

theorem parseCounts_members {co : ManifestContract} {c : List (Text × Nat)}
    (ht : ∃ na ∈ co.countTableSets, (c.map Prod.fst).Perm (na.map String.toList))
    (hs : sortMembers c = c) :
    parseCounts co (some (.object (ofMembers (countMembers c)))) = .ok c := by
  obtain ⟨na, ha, hp⟩ := ht
  have hk : (co.countTableSets.any (hasExactly · (ofMembers (countMembers c)))) = true := by
    refine List.any_eq_true.mpr ⟨na, ha, ?_⟩
    have fst : (countMembers c).map Prod.fst = c.map Prod.fst := by
      rw [countMembers, List.map_map]
      rfl
    rw [hasExactly_ofMembers, fst, Bool.and_eq_true, List.all_eq_true, List.all_eq_true]
    constructor
    · intro t hm
      obtain ⟨name, hi, rfl⟩ := List.mem_map.mp (hp.mem_iff.mp hm)
      exact List.any_eq_true.mpr ⟨name, hi, decide_eq_true rfl⟩
    · intro name hi
      exact List.any_eq_true.mpr ⟨_, hp.mem_iff.mpr (List.mem_map_of_mem hi), decide_eq_true rfl⟩
  have hr : (ofMembers (countMembers c)).mapM parseCount = .ok c := by
    clear hp hs hk
    induction c with
    | nil => rfl
    | cons ct c ih =>
      have one : parseCount (pyString ct.1, ofJson (.integer ct.2)) = .ok ct := by
        rw [parseCount, pyString, characters_scalar]
        rfl
      have hre : ofMembers (countMembers (ct :: c)) =
          (pyString ct.1, ofJson (.integer ct.2)) :: ofMembers (countMembers c) := rfl
      rw [hre, List.mapM_cons, one, ih]
      rfl
  simp only [parseCounts, hk, hr, hs, bind, Except.bind, pure, Except.pure, Bool.not_true,
    Bool.false_eq_true, ↓reduceIte]

theorem parseFields_members {m : RecoveryManifest} {sv : Text} (hr : KeepsRules m)
    (hv : m.postgresqlServerVersion = pyString sv) :
    parseFields (ofMembers (m.members sv)) = .ok m := by
  generalize hf : ofMembers (m.members sv) = p
  have hco : text? (member? p "contract") = some m.contract.token := by
    rw [← hf]
    exact text?_field rfl
  have hk : hasExactly manifestKeys p = true := by
    rw [← hf]
    exact hasExactly_names rfl
  have hb : text? (member? p "bundle_id") = some m.bundleId.text := by
    rw [← hf]
    exact text?_field rfl
  have hc : text? (member? p "created_at") = some (formatManifestTimestamp m.createdAt) := by
    rw [← hf]
    exact text?_field rfl
  have he : text? (member? p "source_environment") = some m.sourceEnvironment.value := by
    rw [← hf]
    exact text?_field rfl
  have hs : string? (member? p "postgresql_server_version") = some m.postgresqlServerVersion := by
    rw [← hf, hv]
    exact string?_field rfl
  have hre : text? (member? p "postgresql_schema_revision") = some m.contract.schemaRevision := by
    rw [← hf, ← hr.revision]
    exact text?_field rfl
  have hd : parseDump (member? p "postgres_dump") = .ok m.postgresDump := by
    have hfo : (m.members sv).lookup "postgres_dump".toList =
        some (.object m.postgresDump.members) := rfl
    rw [← hf, member?_ofMembers, hfo]
    exact parseDump_members hr.dumpPath hr.dumpSha256
  have hcs : parseCounts m.contract (member? p "canonical_counts") = .ok m.canonicalCounts := by
    have hfo : (m.members sv).lookup "canonical_counts".toList =
        some (.object (countMembers m.canonicalCounts)) := rfl
    rw [← hf, member?_ofMembers, hfo]
    exact parseCounts_members hr.tables hr.countsSorted
  have ho : parseObjects (member? p "objects") = .ok m.objects := by
    have hfo : (m.members sv).lookup "objects".toList =
        some (.array (m.objects.map fun e => .object e.members)) := rfl
    have hen : ofElements (m.objects.map fun e => .object e.members) =
        m.objects.map fun e => .object (ofMembers e.members) := by
      rw [ofElements_eq, List.map_map]
      rfl
    rw [← hf, member?_ofMembers, hfo, Option.map_some, ofJson, parseObjects, hen]
    exact parseEntries_members hr.entries hr.ascending (by rintro _ ⟨⟩)
  simp only [parseFields, hco, hk, hb, hc, he, hs, hre, hd,
    hcs, ho, hr.version7, Option.bind_some, ManifestContract.parse_token,
    BundleId.parse_text, Timestamp.parse_text, RecoveryEnvironment.parse_value, require, bind,
    Except.bind, pure, Except.pure, Bool.not_true, Bool.false_eq_true, ne_eq, not_true_eq_false,
    ↓reduceIte, ← hr.revision]

theorem characters_some {s : PyString} {t : Text} (is : characters s = some t) : s = pyString t := by
  induction s generalizing t with
  | nil =>
    cases is
    rfl
  | cons c s ih =>
    cases c with
    | scalar c =>
      rw [characters, Option.map_eq_some_iff] at is
      obtain ⟨t, hr, rfl⟩ := is
      exact congrArg (_ :: ·) (ih hr)
    | surrogate => cases is

theorem loadable_members {ma : RecoveryManifest} {sv : Text} {d : Nat}
    (hr : KeepsRules ma) (hw : ma.integers.all isWritable = true) :
    Loadable (d + 3) (.object (ma.members sv)) := by
  have hs : ∀ n ∈ ma.integers,
      (Nat.toDigits 10 (n : Int).natAbs).length ≤ maximumIntegerDigits := fun n hm =>
    of_decide_eq_true (List.all_eq_true.mp hw n hm)
  have hl : ∀ {d : Nat} {t : Text}, Loadable d (.string t) := .string
  have ht : (ma.canonicalCounts.map Prod.fst).Nodup := by
    obtain ⟨na, ha, hp⟩ := hr.tables
    refine hp.nodup_iff.mpr ?_
    have all : ∀ c : ManifestContract, ∀ na ∈ c.countTableSets, (na.map String.toList).Nodup := by
      intro c
      cases c <;> decide
    exact all _ na ha
  have hc : Loadable (d + 2) (.object (countMembers ma.canonicalCounts)) := by
    refine .object ?_ ?_
    · rw [countMembers, List.map_map]
      exact ht
    · intro m hm
      obtain ⟨co, hi, rfl⟩ := List.mem_map.mp hm
      refine .integer (hs co.2 ?_)
      simp only [RecoveryManifest.integers, List.mem_cons, List.mem_append]
      exact .inl (.inr (List.mem_map_of_mem hi))
  have hd : Loadable (d + 2) (.object ma.postgresDump.members) := by
    refine .object (show (dumpKeys.map String.toList).Nodup by decide) ?_
    simp only [ManifestDumpEntry.members, List.forall_mem_cons]
    exact ⟨hl, hl, hl, .integer (hs _ List.mem_cons_self), by rintro _ ⟨⟩⟩
  have ho : Loadable (d + 2) (.array (ma.objects.map fun e => .object e.members)) := by
    refine .array fun x hm => ?_
    obtain ⟨e, hi, rfl⟩ := List.mem_map.mp hm
    refine .object (show (objectKeys.map String.toList).Nodup by decide) ?_
    simp only [ManifestObjectEntry.members, List.forall_mem_cons]
    refine ⟨hl, hl, hl, hl, .integer (hs _ ?_), by rintro _ ⟨⟩⟩
    simp only [RecoveryManifest.integers, List.mem_cons, List.mem_append]
    exact .inr (List.mem_map_of_mem hi)
  refine .object (show (manifestKeys.map String.toList).Nodup by decide) ?_
  simp only [RecoveryManifest.members, List.forall_mem_cons]
  exact ⟨hl, hc, hl, hl, ho, hd, hl, hl, hl, by rintro _ ⟨⟩⟩

end ManifestLemmas

theorem parseManifest_encoded {rl : Nat} {m : RecoveryManifest} {raw : Bytes}
    (hr : KeepsRules m) (hd : 3 ≤ rl)
    (he : encodeManifest m = .ok raw) :
    parseManifest rl raw = .ok m := by
  obtain ⟨d, rfl⟩ := Nat.exists_eq_add_of_le' hd
  have hu := he
  unfold encodeManifest at hu
  split at hu
  next hw =>
    split at hu
    · cases hu
    next sv hv =>
      cases hu
      have hl : loads (d + 3) (render (.object (m.members sv)) ++ ['\n']) =
          .ok (.object (ofMembers (m.members sv))) :=
        loads_render (loadable_members hr hw) fun c hi =>
          List.mem_singleton.mp hi ▸ rfl
      have hre := parseFields_members hr (characters_some hv)
      simp only [parseManifest, decodeUtf8_utf8, hl, hre, he, require, bind, Except.bind,
        pure, Except.pure, Except.mapError, ne_eq, not_true_eq_false, ↓reduceIte]
  next => cases hu

/-! ## What a parsed manifest keeps -/

namespace ManifestLemmas

theorem require_ok {α : Type} {r : BundleInvalidReason} {v : Option α} {a : α} :
    require r v = .ok a ↔ v = some a := by
  cases v <;> simp [require, reject]

theorem parseEntry_rules {v : JsonValue} {e : ManifestObjectEntry}
    (hp : parseEntry v = .ok e) : EntryRules e := by
  unfold parseEntry at hp
  split at hp
  next i =>
    split at hp
    · cases hp
    next =>
      obtain ⟨cs, -, hp⟩ := bind_ok hp
      obtain ⟨d, hr, hp⟩ := bind_ok hp
      obtain ⟨ok, -, hp⟩ := bind_ok hp
      obtain ⟨rp, -, hp⟩ := bind_ok hp
      simp only at hp
      split at hp
      · cases hp
      next =>
        obtain ⟨mt, -, hp⟩ := bind_ok hp
        obtain ⟨m, hc, hp⟩ := bind_ok hp
        obtain ⟨sb, -, hp⟩ := bind_ok hp
        split at hp
        · cases hp
        next hb =>
          cases hp
          exact ⟨⟨d, require_ok.mp hr, rfl, rfl⟩, by rw [require_ok.mp hc]; rfl, Nat.not_lt.mp hb⟩
  next => cases hp

theorem parseEntries_rules {v : List JsonValue} {p : Option Text}
    {en : List ManifestObjectEntry} (hp : parseEntries p v = .ok en) :
    (∀ ey ∈ en, EntryRules ey) ∧
    (en.Pairwise fun a b => a.contentSha256 < b.contentSha256) ∧
    ∀ s ∈ p, ∀ ey ∈ en, s < ey.contentSha256 := by
  induction v generalizing p en with
  | nil =>
    cases hp
    simp
  | cons va v ih =>
    obtain ⟨ey, hfi, hp⟩ := bind_ok hp
    split at hp
    · cases hp
    next hfr =>
      split at hp
      · cases hp
      next hs =>
        obtain ⟨r, hf, hp⟩ := bind_ok hp
        cases hp
        obtain ⟨hr, ha, hab⟩ := ih hf
        have haf : ∀ e ∈ r, ey.contentSha256 < e.contentSha256 := hab _ rfl
        refine ⟨List.forall_mem_cons.mpr ⟨parseEntry_rules hfi, hr⟩,
          List.pairwise_cons.mpr ⟨haf, ha⟩, ?_⟩
        intro s is
        cases is
        simp only [Option.any_some, decide_eq_true_eq] at hfr hs
        have hb : s < ey.contentSha256 := lt_of_le_of_ne (not_lt.mp hs) (Ne.symm hfr)
        exact List.forall_mem_cons.mpr ⟨hb, fun e hm => hb.trans (haf e hm)⟩

end ManifestLemmas

theorem entries_of_parsed {rl : Nat} {raw : Bytes} {m : RecoveryManifest}
    (hp : parseManifest rl raw = .ok m) :
    (∀ e ∈ m.objects, EntryRules e) ∧
    m.objects.Pairwise fun a b => a.contentSha256 < b.contentSha256 := by
  obtain ⟨t, -, hp⟩ := bind_ok hp
  obtain ⟨v, -, hp⟩ := bind_ok hp
  split at hp
  next p =>
    obtain ⟨m', hf, hp⟩ := bind_ok hp
    obtain ⟨en, -, hp⟩ := bind_ok hp
    have hs : m' = m := by
      split at hp
      · cases hp
      · cases hp
        rfl
    subst hs
    obtain ⟨c, -, hf⟩ := bind_ok hf
    split at hf
    · cases hf
    next =>
      obtain ⟨bi, -, hf⟩ := bind_ok hf
      split at hf
      · cases hf
      next =>
        obtain ⟨ca, -, hf⟩ := bind_ok hf
        obtain ⟨se, -, hf⟩ := bind_ok hf
        obtain ⟨sv, -, hf⟩ := bind_ok hf
        obtain ⟨sr, -, hf⟩ := bind_ok hf
        split at hf
        · cases hf
        next =>
          obtain ⟨pd, -, hf⟩ := bind_ok hf
          obtain ⟨cc, -, hf⟩ := bind_ok hf
          obtain ⟨o, he, hf⟩ := bind_ok hf
          cases hf
          unfold parseObjects at he
          split at he
          next => exact ⟨(ManifestLemmas.parseEntries_rules he).1,
            (ManifestLemmas.parseEntries_rules he).2.1⟩
          next => cases he
  next => cases hp

end PersonalOs.Recovery
