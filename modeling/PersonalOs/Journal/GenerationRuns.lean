import PersonalOs.Journal.Persistence

/-!
# The journal across stops

The image of a generation is written under a number above every published one, so a stop inside
the write damages no image that a manifest names. The manifest goes from one verified generation
to the next in a single write. The removal that follows is of a number below the new predecessor.
-/

namespace PersonalOs.Journal

variable {ρ β : Type}

/-- The published generations: in ascending numbers, each described by its database. -/
structure SoundChain (engine : SqliteEngine ρ β) (published : List (Publication ρ)) : Prop where
  ascending : published.Pairwise fun earlier later =>
    earlier.generation.generationNumber < later.generation.generationNumber
  described : ∀ publication ∈ published, 1 ≤ publication.generation.generationNumber ∧
    publication.generation =
      engine.describe publication.generation.generationNumber publication.database

/-- The manifest names the publication, and its image is in the store. -/
structure HoldsGeneration (engine : SqliteEngine ρ β) (store : JournalFileStore β)
    (last : Publication ρ) : Prop where
  manifest : ∃ prior, store.manifest = some ⟨last.generation, prior⟩ ∧
    ∀ generation, prior = some generation →
      generation.generationNumber < last.generation.generationNumber ∧
      parseVerifiedGeneration generation = some generation
  image : store.readGeneration last.generation.generationNumber =
    some (engine.exportImage last.database)

/-- The store holds the last published generation, or nothing was published. -/
def SoundStore (engine : SqliteEngine ρ β) (store : JournalFileStore β)
    (published : List (Publication ρ)) : Prop :=
  match published.getLast? with
  | none => store.manifest = none
  | some last => HoldsGeneration engine store last

/-- An open instance stands on the last published generation. -/
structure Follows (persistence : JournalPersistence ρ) (published : List (Publication ρ)) :
    Prop where
  verified : persistence.verifiedGeneration = published.getLast?.map (·.generation)
  prior : ∀ generation, persistence.priorVerifiedGeneration = some generation →
    ∃ current, persistence.verifiedGeneration = some current ∧
      generation.generationNumber < current.generationNumber

/-- What holds of the process in each phase. -/
def SoundPhase (engine : SqliteEngine ρ β) (world : PersistedJournal ρ β) : Prop :=
  match world.phase with
  | .stopped _ => world.published.getLast? = world.settled ∨
      world.published.getLast? = world.interrupted
  | .idle persistence | .writingImage persistence =>
    Follows persistence world.published ∧ world.published.getLast? = world.settled
  | .writingManifest persistence =>
    Follows persistence world.published ∧ world.published.getLast? = world.settled ∧
      world.store.readGeneration persistence.nextGenerationNumber =
        some (engine.exportImage persistence.database)
  | .retiring persistence retired =>
    Follows persistence world.published ∧
      ∀ generation last, retired = some generation → world.published.getLast? = some last →
        generation.generationNumber < last.generation.generationNumber

/-- The invariant of every run. -/
structure PersistedJournal.Sound (engine : SqliteEngine ρ β) (world : PersistedJournal ρ β) :
    Prop where
  chain : SoundChain engine world.published
  store : SoundStore engine world.store world.published
  phase : SoundPhase engine world
  resolved : ∀ publication, world.settled = some publication → publication ∈ world.published

namespace GenerationRunsLemmas

variable {engine : SqliteEngine ρ β} {world : PersistedJournal ρ β}
  {store : JournalFileStore β} {published : List (Publication ρ)}
  {persistence : JournalPersistence ρ} {last : Publication ρ}

/-! ## The store -/

theorem readGeneration_written (number : Nat) (i : List β) :
    (store.writeGeneration number i).readGeneration number = some i := by
  simp [JournalFileStore.writeGeneration, JournalFileStore.readGeneration]

variable {number other : Nat}

theorem find_filter_other (hd : other ≠ number) (fi : List (Nat × List β)) :
    (fi.filter fun f => f.1 != number).find? (fun f => f.1 == other) =
      fi.find? fun f => f.1 == other := by
  induction fi with
  | nil => rfl
  | cons f r ih =>
    by_cases hr : f.1 = number
    · have hs : (f.1 == other) = false := by
        simpa [hr] using hd.symm
      rw [List.filter_cons_of_neg (by simp [hr]), List.find?_cons_of_neg (by simp [hs]),
        ih]
    · rw [List.filter_cons_of_pos (by simpa using hr), List.find?_cons, List.find?_cons, ih]

theorem readGeneration_write_other (hd : other ≠ number) (i : List β) :
    (store.writeGeneration number i).readGeneration other = store.readGeneration other := by
  unfold JournalFileStore.writeGeneration JournalFileStore.readGeneration
  have hs : (number == other) = false := by
    simpa using hd.symm
  dsimp only
  rw [List.find?_cons]
  dsimp only
  rw [hs]
  dsimp only
  rw [find_filter_other hd]

theorem readGeneration_remove_other (hd : other ≠ number) :
    (store.removeGeneration number).readGeneration other = store.readGeneration other := by
  unfold JournalFileStore.removeGeneration JournalFileStore.readGeneration
  rw [find_filter_other hd]

theorem holds_written (hh : HoldsGeneration engine store last)
    (ha : last.generation.generationNumber < number) (i : List β) :
    HoldsGeneration engine (store.writeGeneration number i) last :=
  ⟨hh.manifest, (readGeneration_write_other (Nat.ne_of_lt ha) i).trans hh.image⟩

theorem holds_removed (hh : HoldsGeneration engine store last)
    (hb : number < last.generation.generationNumber) :
    HoldsGeneration engine (store.removeGeneration number) last :=
  ⟨hh.manifest, (readGeneration_remove_other (Nat.ne_of_gt hb)).trans hh.image⟩

/-! ## The chain -/

theorem describe_parses (hl : engine.Lawful) (hp : 1 ≤ number) (d : JournalDatabase ρ) :
    parseVerifiedGeneration (engine.describe number d) = some (engine.describe number d) := by
  have hex := hl.hex (engine.exportImage d)
  have hs := hl.nonempty d
  unfold parseVerifiedGeneration SqliteEngine.describe
  rw [if_neg]
  simp only [hex, Bool.not_true, Bool.or_false, beq_self_eq_true, Bool.true_or,
    Bool.or_eq_true, decide_eq_true_eq, not_or, not_lt]
  exact ⟨hp, hs⟩

theorem chain_parses (hl : engine.Lawful) (hc : SoundChain engine published)
    {p : Publication ρ} (hm : p ∈ published) :
    parseVerifiedGeneration p.generation = some p.generation := by
  obtain ⟨hp, hd⟩ := hc.described p hm
  rw [hd]
  exact describe_parses hl hp _

theorem last_largest (hc : SoundChain engine published) (hl : published.getLast? = some last) :
    ∀ p ∈ published, p = last ∨
      p.generation.generationNumber < last.generation.generationNumber := by
  obtain ⟨e, rfl⟩ := List.getLast?_eq_some_iff.mp hl
  intro p hm
  rcases List.mem_append.mp hm with old | new
  · exact .inr ((List.pairwise_append.mp hc.ascending).2.2 p old last (List.mem_singleton_self _))
  · exact .inl (List.mem_singleton.mp new)

theorem mem_of_last (hl : published.getLast? = some last) : last ∈ published :=
  List.mem_of_getLast? hl

theorem find_last (hc : SoundChain engine published) (hl : published.getLast? = some last) :
    published.find? (·.generation == last.generation) = some last := by
  cases hf : published.find? (·.generation == last.generation) with
  | none =>
    have hd := List.find?_eq_none.mp hf last (mem_of_last hl)
    simp at hd
  | some p =>
    have hs : p.generation = last.generation := by
      simpa using List.find?_some hf
    rcases last_largest hc hl p (List.mem_of_find?_eq_some hf) with he | lt
    · rw [he]
    · rw [hs] at lt
      exact absurd lt (Nat.lt_irrefl _)

theorem follows_above (hf : Follows persistence published) (hc : SoundChain engine published) :
    ∀ p ∈ published, p.generation.generationNumber < persistence.nextGenerationNumber := by
  intro p hm
  unfold JournalPersistence.nextGenerationNumber
  rw [hf.verified]
  cases hl : published.getLast? with
  | none =>
    rw [List.getLast?_eq_none_iff.mp hl] at hm
    exact nomatch hm
  | some last =>
    have hb : p.generation.generationNumber ≤ last.generation.generationNumber := by
      rcases last_largest hc hl p hm with he | lt
      · rw [he]
      · exact Nat.le_of_lt lt
    exact Nat.lt_succ_of_le hb

theorem follows_transaction (hf : Follows persistence published)
    (o : JournalDatabase ρ → JournalDatabase ρ) :
    Follows (persistence.executeTransaction o) published :=
  ⟨hf.verified, hf.prior⟩

theorem follows_mark (hf : Follows persistence published) :
    Follows persistence.markReconcileComplete published :=
  ⟨hf.verified, hf.prior⟩

theorem chain_snoc (hc : SoundChain engine published) (hf : Follows persistence published) :
    SoundChain engine (published ++ [PersistedJournal.inProgress engine persistence]) := by
  constructor
  · refine List.pairwise_append.mpr ⟨hc.ascending, List.pairwise_singleton _ _, ?_⟩
    intro e old new hn
    rw [List.mem_singleton.mp hn]
    exact follows_above hf hc e old
  · intro p hm
    rcases List.mem_append.mp hm with old | new
    · exact hc.described p old
    · rw [List.mem_singleton.mp new]
      exact ⟨Nat.succ_le_succ (Nat.zero_le _), rfl⟩

/-! ## The last generation opens -/

/-- What recovery serves of a held generation. -/
def repairedOpening (last : Publication ρ) : OpenedGeneration ρ :=
  let repair := repairInvalidPendingRenameState last.database.journal
  { database := { last.database with journal := repair.journal }
    shouldPublishRecoveredImage := repair.didRepair }

theorem openVerifiedGeneration_held (hl : engine.Lawful) (hh : HoldsGeneration engine store last)
    (hd : last.generation = engine.describe last.generation.generationNumber last.database) :
    openVerifiedGeneration engine store last.generation = some (repairedOpening last) := by
  have hs : last.generation.sizeBytes = (engine.exportImage last.database).length := by
    rw [hd]
    rfl
  have hdi : last.generation.sha256 = engine.sha256Hex (engine.exportImage last.database) := by
    rw [hd]
    rfl
  unfold openVerifiedGeneration
  rw [hh.image]
  dsimp only
  rw [hs, hdi, if_neg (by simp), if_neg (by simp), SqliteEngine.openMigrated,
    hl.reopens last.database]
  simp only [Bool.false_or]
  rfl

theorem parse_manifest (hla : engine.Lawful) (hc : SoundChain engine published)
    (hl : published.getLast? = some last) {p : Option VerifiedJournalGeneration}
    (hp : ∀ g, p = some g → parseVerifiedGeneration g = some g) :
    parseJournalManifest ⟨last.generation, p⟩ = some ⟨last.generation, p⟩ := by
  unfold parseJournalManifest
  dsimp only
  rw [chain_parses hla hc (mem_of_last hl)]
  cases p with
  | none => rfl
  | some g =>
    dsimp only
    rw [hp g rfl]
    rfl

theorem recovers_last (hla : engine.Lawful) (hs : world.Sound engine)
    (hl : world.published.getLast? = some last) :
    ∃ p, world.store.manifest.bind parseJournalManifest = some ⟨last.generation, p⟩ ∧
      (∀ g, p = some g → g.generationNumber < last.generation.generationNumber) ∧
      recoverVerifiedDatabase engine world.store (some ⟨last.generation, p⟩) =
        some ⟨repairedOpening last, last.generation, .verifiedGenerationLoaded⟩ := by
  have hh : HoldsGeneration engine world.store last := by
    have store := hs.store
    unfold SoundStore at store
    rwa [hl] at store
  obtain ⟨p, hm, ho⟩ := hh.manifest
  have hd := (hs.chain.described last (mem_of_last hl)).2
  refine ⟨p, ?_, fun g hp => (ho g hp).1, ?_⟩
  · rw [hm]
    exact parse_manifest hla hs.chain hl fun g hp =>
      (ho g hp).2
  · unfold recoverVerifiedDatabase
    dsimp only
    rw [openVerifiedGeneration_held hla hh hd]

/-! ## Opening -/

def serveLast (unopened : UnopenedJournal) (last : Publication ρ)
    (prior : Option VerifiedJournalGeneration) : JournalPersistence ρ :=
  serveRecovered unopened (some ⟨last.generation, prior⟩)
    ⟨repairedOpening last, last.generation, .verifiedGenerationLoaded⟩

theorem openJournal_last (hla : engine.Lawful) (hs : world.Sound engine)
    (hl : world.published.getLast? = some last) (u : UnopenedJournal)
    (hv : Bool) :
    ∃ p, (∀ g, p = some g → g.generationNumber < last.generation.generationNumber) ∧
      world.openJournal engine u hv =
        { world with
          settled := some last
          phase :=
            if (repairInvalidPendingRenameState last.database.journal).didRepair then
              .writingImage ((serveLast u last p).executeTransaction id)
            else .idle (serveLast u last p) } := by
  obtain ⟨p, hm, ho, hr⟩ := recovers_last hla hs hl
  refine ⟨p, ho, ?_⟩
  unfold PersistedJournal.openJournal
  dsimp only
  rw [hm, hr]
  dsimp only
  rw [find_last hs.chain hl]
  rfl

theorem openJournal_unpublished (hs : world.Sound engine)
    (hno : world.published.getLast? = none) (u : UnopenedJournal)
    (hv : Bool) :
    world.openJournal engine u hv =
      { world with
        settled := none
        phase := .writingImage ((rebuildEmptyJournal engine world.store u
          hv).executeTransaction id) } := by
  have store := hs.store
  unfold SoundStore at store
  rw [hno] at store
  have hn : world.store.manifest = none := store
  unfold PersistedJournal.openJournal
  rw [hn]
  rfl

theorem follows_serveLast (hl : published.getLast? = some last) (u : UnopenedJournal)
    {p : Option VerifiedJournalGeneration}
    (ho : ∀ g, p = some g → g.generationNumber < last.generation.generationNumber) :
    Follows (serveLast u last p) published := by
  refine ⟨by rw [hl]; rfl, ?_⟩
  intro g hp
  have he : (serveLast u last p).priorVerifiedGeneration = p := by
    simp [serveLast, serveRecovered]
  rw [he] at hp
  exact ⟨last.generation, rfl, ho g hp⟩

theorem sound_open (hla : engine.Lawful) (hso : world.Sound engine)
    (u : UnopenedJournal) (hv : Bool) :
    (world.openJournal engine u hv).Sound engine := by
  cases hl : world.published.getLast? with
  | none =>
    rw [openJournal_unpublished hso hl]
    refine ⟨hso.chain, hso.store, ⟨⟨?_, ?_⟩, hl⟩, fun _ hse => nomatch hse⟩
    · rw [hl]
      rfl
    · intro g hp
      exact nomatch hp
  | some last =>
    obtain ⟨p, hol, ho⟩ := openJournal_last hla hso hl u hv
    rw [ho]
    have hf := follows_serveLast hl u hol
    refine ⟨hso.chain, hso.store, ?_, ?_⟩
    rotate_left
    · rintro _ ⟨⟩
      exact mem_of_last hl
    unfold SoundPhase
    split
    · next hs =>
      dsimp only at hs
      split at hs
      · exact nomatch hs
      · exact nomatch hs
    · next persistence hi =>
      dsimp only at hi
      split at hi
      · exact nomatch hi
      · cases hi
        exact ⟨hf, hl⟩
    · next persistence hw =>
      dsimp only at hw
      split at hw
      · cases hw
        exact ⟨follows_transaction hf id, hl⟩
      · exact nomatch hw
    · next persistence hw =>
      dsimp only at hw
      split at hw
      · exact nomatch hw
      · exact nomatch hw
    · next persistence r hw =>
      dsimp only at hw
      split at hw
      · exact nomatch hw
      · exact nomatch hw

/-! ## Publishing -/

/-- The image of the generation in progress is written. -/
def imageWritten (engine : SqliteEngine ρ β) (world : PersistedJournal ρ β)
    (persistence : JournalPersistence ρ) : PersistedJournal ρ β :=
  { world with
    store := world.store.writeGeneration persistence.nextGenerationNumber
      (engine.exportImage persistence.database)
    phase := .writingManifest persistence }

/-- The manifest names the generation in progress. -/
def manifestWritten (engine : SqliteEngine ρ β) (world : PersistedJournal ρ β)
    (persistence : JournalPersistence ρ) : PersistedJournal ρ β :=
  let publication := PersistedJournal.inProgress engine persistence
  { world with
    store :=
      { world.store with
        manifest := some ⟨publication.generation, persistence.verifiedGeneration⟩ }
    published := world.published ++ [publication]
    phase := .retiring (persistence.switchChain publication.generation)
      persistence.priorVerifiedGeneration }

theorem storeSound_written (hs : SoundStore engine store published)
    (hc : SoundChain engine published) (hf : Follows persistence published)
    (i : List β) :
    SoundStore engine (store.writeGeneration persistence.nextGenerationNumber i) published := by
  unfold SoundStore at hs ⊢
  split
  · next hn =>
    rw [hn] at hs
    exact hs
  · next last hl =>
    rw [hl] at hs
    exact holds_written hs (follows_above hf hc last (mem_of_last hl)) i

theorem writeImage_ok [DecidableEq β] (persistence : JournalPersistence ρ) :
    world.writeImage engine persistence = some (imageWritten engine world persistence) := by
  unfold PersistedJournal.writeImage
  dsimp only [SqliteEngine.describe]
  rw [readGeneration_written]
  simp [imageWritten]

theorem sound_writeImage (hs : world.Sound engine) (hw : world.phase = .writingImage persistence) :
    (imageWritten engine world persistence).Sound engine := by
  have hp := hs.phase
  unfold SoundPhase at hp
  rw [hw] at hp
  obtain ⟨hf, hse⟩ := hp
  exact ⟨hs.chain, storeSound_written hs.store hs.chain hf _,
    ⟨hf, hse, readGeneration_written _ _⟩, hs.resolved⟩

theorem follows_predecessor (hl : engine.Lawful) {published : List (Publication ρ)}
    (hc : SoundChain engine published) (hf : Follows persistence published)
    (g : VerifiedJournalGeneration) (hv : persistence.verifiedGeneration = some g) :
    g.generationNumber < persistence.nextGenerationNumber ∧
      parseVerifiedGeneration g = some g := by
  have hw := hv
  rw [hf.verified, Option.map_eq_some_iff] at hw
  obtain ⟨b, hw, rfl⟩ := hw
  have hm := mem_of_last hw
  exact ⟨follows_above hf hc b hm, chain_parses hl hc hm⟩

theorem writeManifest_ok (hl : engine.Lawful) (hc : SoundChain engine world.published)
    (hf : Follows persistence world.published) :
    world.writeManifest engine persistence = some (manifestWritten engine world persistence) := by
  have hla : (world.published ++ [PersistedJournal.inProgress engine persistence]).getLast? =
      some (PersistedJournal.inProgress engine persistence) := List.getLast?_concat ..
  have hp := parse_manifest hl (chain_snoc hc hf) hla
    fun g hv => (follows_predecessor hl hc hf g hv).2
  unfold PersistedJournal.writeManifest
  dsimp only [Option.bind_some]
  rw [hp]
  simp [manifestWritten]

theorem sound_writeManifest (hla : engine.Lawful) (hs : world.Sound engine)
    (hwr : world.phase = .writingManifest persistence) :
    (manifestWritten engine world persistence).Sound engine := by
  have hph := hs.phase
  unfold SoundPhase at hph
  rw [hwr] at hph
  obtain ⟨hf, _, hi⟩ := hph
  have hl : (world.published ++ [PersistedJournal.inProgress engine persistence]).getLast? =
      some (PersistedJournal.inProgress engine persistence) := List.getLast?_concat ..
  have hp := follows_predecessor hla hs.chain hf
  refine ⟨chain_snoc hs.chain hf, ?_, ⟨⟨?_, ?_⟩, ?_⟩,
    fun p hse => List.mem_append_left _ (hs.resolved p hse)⟩
  · unfold SoundStore
    dsimp only [manifestWritten]
    rw [hl]
    exact ⟨⟨_, rfl, hp⟩, hi⟩
  · dsimp only [manifestWritten]
    rw [hl]
    rfl
  · intro g hpr
    exact ⟨_, rfl, (hp g hpr).1⟩
  · intro g l hr hn
    cases Option.some.inj (hl.symm.trans hn)
    -- The retired generation was below the predecessor already.
    show g.generationNumber < persistence.nextGenerationNumber
    obtain ⟨c, hv, ho⟩ := hf.prior g hr
    exact Nat.lt_trans ho (hp c hv).1

theorem sound_retire (hso : world.Sound engine) {r : Option VerifiedJournalGeneration}
    (hr : world.phase = .retiring persistence r) :
    (world.retire persistence r).Sound engine := by
  have hp := hso.phase
  unfold SoundPhase at hp
  rw [hr] at hp
  obtain ⟨hf, hb⟩ := hp
  refine ⟨hso.chain, ?_, ⟨hf, rfl⟩, fun _ hl => mem_of_last hl⟩
  have hs := hso.store
  unfold SoundStore at hs ⊢
  unfold PersistedJournal.retire
  dsimp only
  cases r with
  | none => exact hs
  | some g =>
    cases hl : world.published.getLast? with
    | none =>
      rw [hl] at hs
      exact hs
    | some last =>
      rw [hl] at hs
      exact holds_removed hs (hb g last rfl hl)

/-! ## Stops -/

theorem sound_stop (hs : world.Sound engine) : (world.stop engine).Sound engine ∨
    ∃ u, world.phase = .stopped u := by
  cases hp : world.phase with
  | stopped u => exact .inr ⟨u, rfl⟩
  | idle persistence =>
    have hh := hs.phase
    unfold SoundPhase at hh
    rw [hp] at hh
    exact .inl ⟨hs.chain, hs.store, .inl hh.2, hs.resolved⟩
  | writingImage persistence =>
    have hh := hs.phase
    unfold SoundPhase at hh
    rw [hp] at hh
    exact .inl ⟨hs.chain, hs.store, .inl hh.2, hs.resolved⟩
  | writingManifest persistence =>
    have hh := hs.phase
    unfold SoundPhase at hh
    rw [hp] at hh
    exact .inl ⟨hs.chain, hs.store, .inl hh.2.1, hs.resolved⟩
  | retiring persistence r =>
    refine .inl ⟨hs.chain, hs.store, .inr ?_, hs.resolved⟩
    unfold PersistedJournal.stop
    rw [hp]

theorem sound_stopWriting (hs : world.Sound engine)
    (hw : world.phase = .writingImage persistence) (i : List β) :
    PersistedJournal.Sound engine
      { world.stop engine with
        store := world.store.writeGeneration persistence.nextGenerationNumber i } := by
  have hh := hs.phase
  unfold SoundPhase at hh
  rw [hw] at hh
  exact ⟨hs.chain, storeSound_written hs.store hs.chain hh.1 i, .inl hh.2, hs.resolved⟩

theorem sound_mark (hs : world.Sound engine) :
    PersistedJournal.Sound engine { world with phase := world.phase.markReconcileComplete } := by
  refine ⟨hs.chain, hs.store, ?_, hs.resolved⟩
  have hh := hs.phase
  unfold SoundPhase at hh ⊢
  cases hp : world.phase with
  | stopped u =>
    rw [hp] at hh
    exact hh
  | idle persistence =>
    rw [hp] at hh
    exact ⟨follows_mark hh.1, hh.2⟩
  | writingImage persistence =>
    rw [hp] at hh
    exact ⟨follows_mark hh.1, hh.2⟩
  | writingManifest persistence =>
    rw [hp] at hh
    exact ⟨follows_mark hh.1, hh.2⟩
  | retiring persistence r =>
    rw [hp] at hh
    exact ⟨follows_mark hh.1, hh.2⟩

/-! ## Every run -/

variable [DecidableEq β]

theorem sound_step (hl : engine.Lawful) (hs : world.Sound engine)
    {a : PersistenceAction ρ} {n : PersistedJournal ρ β}
    (hv : (persistenceMachine engine).step world a = some n) : n.Sound engine := by
  simp only [persistenceMachine] at hv
  split at hv
  · next hst =>
    cases hv
    have hh := hs.phase
    unfold SoundPhase at hh
    rw [hst] at hh
    exact ⟨hs.chain, hs.store, hh, hs.resolved⟩
  · cases hv
    exact sound_open hl hs _ _
  · next o persistence hi =>
    cases hv
    have hh := hs.phase
    unfold SoundPhase at hh
    rw [hi] at hh
    exact ⟨hs.chain, hs.store, ⟨follows_transaction hh.1 o, hh.2⟩, hs.resolved⟩
  · next hw =>
    rw [writeImage_ok] at hv
    cases hv
    exact sound_writeImage hs hw
  · next persistence hw =>
    have hh := hs.phase
    unfold SoundPhase at hh
    rw [hw] at hh
    rw [writeManifest_ok hl hs.chain hh.1] at hv
    cases hv
    exact sound_writeManifest hl hs hw
  · next hr =>
    cases hv
    exact sound_retire hs hr
  · cases hv
    exact sound_mark hs
  · cases hv
  · next up =>
    cases hv
    rcases sound_stop hs with hst | ⟨u, hd⟩
    · exact hst
    · exact absurd hd (up u)
  · next hw =>
    cases hv
    exact sound_stopWriting hs hw _
  · cases hv

omit [DecidableEq β] in
theorem sound_fresh : (PersistedJournal.fresh : PersistedJournal ρ β).Sound engine :=
  ⟨⟨List.Pairwise.nil, fun _ hm => absurd hm List.not_mem_nil⟩, rfl, .inl rfl,
    fun _ hs => nomatch hs⟩

theorem sound_reachable (hl : engine.Lawful)
    (hr : (persistenceMachine engine).Reachable world) : world.Sound engine := by
  refine @Machine.Reachable.invariant _ _ (persistenceMachine engine)
    (fun world => world.Sound engine) ?_ ?_ world hr
  · rintro _ rfl
    exact sound_fresh
  · intro b a af hs hv
    exact sound_step hl hs hv

/-! ## An opening completes -/

/-- The tables an instance serves. -/
def tables (persistence : JournalPersistence ρ) : JournalRepository × ρ :=
  (persistence.database.journal, persistence.database.otherTables)

theorem tables_switched (hm : persistence.database.journal.isReconcileRequired =
      persistence.isReconcileRequired) (c : VerifiedJournalGeneration) :
    tables (persistence.switchChain c) = tables persistence := by
  have hf : persistence.mergeReconcileRequired persistence.database.journal.isReconcileRequired =
        persistence.database.journal.isReconcileRequired := by
    unfold JournalPersistence.mergeReconcileRequired
    rw [← hm]
    cases persistence.isReconcileComplete <;> simp
  unfold tables JournalPersistence.switchChain
  dsimp only
  rw [hf]

theorem publication_completes (hl : engine.Lawful) (hs : world.Sound engine)
    (hw : world.phase = .writingImage persistence)
    (hme : persistence.database.journal.isReconcileRequired = persistence.isReconcileRequired) :
    ∃ s a, (persistenceMachine engine).run world [.advance, .advance, .advance] = some a ∧
        a.phase = .idle s ∧ tables s = tables persistence := by
  have hh := hs.phase
  unfold SoundPhase at hh
  rw [hw] at hh
  have hi : (persistenceMachine engine).step world .advance =
      some (imageWritten engine world persistence) := by
    simp only [persistenceMachine, hw]
    exact writeImage_ok persistence
  refine ⟨persistence.switchChain (PersistedJournal.inProgress engine persistence).generation,
    ?after, ?ran, ?idle, tables_switched hme _⟩
  case ran =>
    rw [Machine.run, hi]
    dsimp only
    have hm : (persistenceMachine engine).step (imageWritten engine world persistence) .advance =
        some (manifestWritten engine (imageWritten engine world persistence) persistence) :=
      writeManifest_ok hl hs.chain hh.1
    rw [Machine.run, hm]
    dsimp only
    rw [Machine.run]
    rfl
  case idle => rfl

theorem merged_transaction (o : JournalDatabase ρ → JournalDatabase ρ) :
    (persistence.executeTransaction o).database.journal.isReconcileRequired =
      (persistence.executeTransaction o).isReconcileRequired := rfl

theorem tables_unchanged (hm : persistence.database.journal.isReconcileRequired =
      persistence.isReconcileRequired) (hi : persistence.isReconcileComplete = false) :
    tables (persistence.executeTransaction id) = tables persistence := by
  have hf : persistence.mergeReconcileRequired persistence.database.journal.isReconcileRequired =
        persistence.database.journal.isReconcileRequired := by
    unfold JournalPersistence.mergeReconcileRequired
    rw [hi, ← hm]
    simp
  unfold tables JournalPersistence.executeTransaction
  dsimp only [id]
  rw [hf]

end GenerationRunsLemmas

open GenerationRunsLemmas

/-- An instance serves a published generation as recovery leaves it: the restart repair applied
to its journal, and the flag of a recovery buffer that overflowed. -/
structure ServesGeneration (unopened : UnopenedJournal) (last : Publication ρ)
    (persistence : JournalPersistence ρ) : Prop where
  loaded : persistence.recoveryState = .verifiedGenerationLoaded
  generation : persistence.verifiedGeneration = some last.generation
  journal : persistence.database.journal =
    let repaired := (repairInvalidPendingRenameState last.database.journal).journal
    { repaired with
      isReconcileRequired := unopened.isReconcileRequired || repaired.isReconcileRequired }
  otherTables : persistence.database.otherTables = last.database.otherTables
  unrepaired : (repairInvalidPendingRenameState last.database.journal).didRepair = false →
    persistence.database.journal =
      { last.database.journal with
        isReconcileRequired :=
          unopened.isReconcileRequired || last.database.journal.isReconcileRequired }

namespace GenerationRunsLemmas

theorem serves_last (u : UnopenedJournal) (last : Publication ρ)
    (p : Option VerifiedJournalGeneration) :
    ServesGeneration u last (serveLast u last p) := by
  refine ⟨rfl, rfl, rfl, rfl, fun hs => ?_⟩
  have hj : (serveLast u last p).database.journal =
      { (repairInvalidPendingRenameState last.database.journal).journal with
        isReconcileRequired := u.isReconcileRequired ||
          (repairInvalidPendingRenameState last.database.journal).journal.isReconcileRequired } :=
    rfl
  rw [hj, repairInvalidPendingRenameState_quiet hs]

theorem serves_transaction {u : UnopenedJournal} {last : Publication ρ}
    {persistence : JournalPersistence ρ} (hs : ServesGeneration u last persistence)
    (he : tables (persistence.executeTransaction id) = tables persistence) :
    ServesGeneration u last (persistence.executeTransaction id) := by
  have hj : (persistence.executeTransaction id).database.journal =
      persistence.database.journal := congrArg Prod.fst he
  refine ⟨hs.loaded, hs.generation, hj.trans hs.journal, hs.otherTables,
    fun hsi => hj.trans (hs.unrepaired hsi)⟩

end GenerationRunsLemmas

/-- After any run of commits, stops and openings, opening a stopped journal succeeds and completes.
Once a generation was published it serves the last published one, which is the one the last
resolved commit or opening stands on, or the one in progress at the last stop. -/
theorem reopened_journal_serves_last_generation [DecidableEq β] {engine : SqliteEngine ρ β}
    (lawful : engine.Lawful) {world : PersistedJournal ρ β}
    (reached : (persistenceMachine engine).Reachable world) {unopened : UnopenedJournal}
    (down : world.phase = .stopped unopened) (hasVaultContent : Bool) :
    ∃ opened persistence,
      (persistenceMachine engine).step world (.open hasVaultContent) = some opened ∧
      opened.phase.persistence? = some persistence ∧
      (∀ last, world.published.getLast? = some last → ServesGeneration unopened last persistence ∧
        ∀ publication ∈ world.published,
          publication.generation.generationNumber ≤ last.generation.generationNumber) ∧
      (world.published.getLast? = world.settled ∨ world.published.getLast? = world.interrupted) ∧
      (∀ publication, world.settled = some publication → publication ∈ world.published) ∧
      ∃ writes after served,
        (persistenceMachine engine).run opened (List.replicate writes .advance) = some after ∧
        after.phase = .idle served ∧ tables served = tables persistence := by
  have hso := sound_reachable lawful reached
  have hst : (persistenceMachine engine).step world (.open hasVaultContent) =
      some (world.openJournal engine unopened hasVaultContent) := by
    simp only [persistenceMachine, down]
  have hs := hso.phase
  unfold SoundPhase at hs
  rw [down] at hs
  have ho := sound_open lawful hso unopened hasVaultContent
  cases hl : world.published.getLast? with
  | none =>
    rw [hl] at hs
    have opened := congrArg PersistedJournal.phase
      (openJournal_unpublished hso hl unopened hasVaultContent)
    dsimp only at opened
    have hc := publication_completes lawful ho opened (merged_transaction id)
    obtain ⟨served, after, ran, hi, he⟩ := hc
    refine ⟨_, _, hst, congrArg JournalPhase.persistence? opened, ?_, hs,
      hso.resolved, 3, after, served, ran, hi, he⟩
    intro last hsom
    exact nomatch hsom
  | some last =>
    rw [hl] at hs
    obtain ⟨p, hol, opened⟩ := openJournal_last lawful hso hl unopened hasVaultContent
    replace opened := congrArg PersistedJournal.phase opened
    dsimp only at opened
    have hse := serves_last unopened last p
    have hla (publication : Publication ρ) (hm : publication ∈ world.published) :
        publication.generation.generationNumber ≤ last.generation.generationNumber := by
      rcases last_largest hso.chain hl publication hm with heq | lt
      · rw [heq]
      · exact Nat.le_of_lt lt
    by_cases hr : (repairInvalidPendingRenameState last.database.journal).didRepair = true
    · -- The repaired image is published as the next generation.
      have he : tables ((serveLast unopened last p).executeTransaction id) =
          tables (serveLast unopened last p) := tables_unchanged rfl rfl
      rw [if_pos hr] at opened
      have hc := publication_completes lawful ho opened (merged_transaction id)
      obtain ⟨served, after, ran, hi, hk⟩ := hc
      refine ⟨_, _, hst, congrArg JournalPhase.persistence? opened, ?_, hs,
        hso.resolved, 3, after, served, ran, hi, hk⟩
      rintro _ ⟨⟩
      exact ⟨serves_transaction hse he, hla⟩
    · rw [if_neg hr] at opened
      refine ⟨_, _, hst, congrArg JournalPhase.persistence? opened, ?_, hs,
        hso.resolved, 0, _, serveLast unopened last p, rfl, opened, rfl⟩
      rintro _ ⟨⟩
      exact ⟨hse, hla⟩

/-! ## Runs -/

def twoCellEngine : SqliteEngine Unit (Option (JournalDatabase Unit)) where
  emptyTables := ()
  exportImage := fun database => [some database, none]
  openFromImage := fun image =>
    match image with
    | [some database, none] => .ok database
    | _ => .error .journalImageInvalid
  migrateImage := fun _ _ => .error .journalImageInvalid
  sha256Hex := fun image =>
    String.ofList (List.replicate 64 (if image.length == 2 then 'a' else '0'))

theorem twoCellEngine_lawful : twoCellEngine.Lawful where
  reopens := fun _ => rfl
  nonempty := fun _ => Nat.le_succ 1
  hex := by
    intro i
    show DeviceSync.isSha256Hex
      (String.ofList (List.replicate 64 (if i.length == 2 then 'a' else '0'))) = true
    split
    · decide +kernel
    · decide +kernel

def noteUpload (eventId : Nat) (database : JournalDatabase Unit) : JournalDatabase Unit :=
  { database with journal := { database.journal with multipartUploadProgress := [eventId] } }

/-- A transaction that leaves an intent of no file. -/
def strayIntent (database : JournalDatabase Unit) : JournalDatabase Unit :=
  { database with
    journal :=
      { database.journal with
        pendingRenameIntents := [⟨1, "a.md", "b.md"⟩] } }

/-- A first opening, with the publication of its empty journal. -/
def firstOpening : List (PersistenceAction Unit) :=
  [.open false, .advance, .advance, .advance]

def resolvedCommit (operation : JournalDatabase Unit → JournalDatabase Unit) :
    List (PersistenceAction Unit) :=
  [.commit operation, .advance, .advance, .advance]

/-- A commit resolves and the next one stops inside the write of its image: the opening serves the
first. -/
theorem reopened_journal_serves_last_generation_torn : ∃ world opened persistence,
      (persistenceMachine twoCellEngine).run .fresh
        (firstOpening ++ resolvedCommit (noteUpload 1) ++
          [.commit (noteUpload 2), .stopWriting 1]) = some world ∧
      (persistenceMachine twoCellEngine).step world (.open false) = some opened ∧
      opened.phase.persistence? = some persistence ∧
      persistence.recoveryState = .verifiedGenerationLoaded ∧
      persistence.database.journal.multipartUploadProgress = [1] := by
  have ho : ((persistenceMachine twoCellEngine).run .fresh
      (firstOpening ++ resolvedCommit (noteUpload 1) ++
        [.commit (noteUpload 2), .stopWriting 1])).map (fun world =>
        (world.phase, world.published.getLast?.map (·.database.journal))) =
      some (.stopped ⟨false⟩,
        some { JournalRepository.empty with multipartUploadProgress := [1] }) := by
    decide +kernel
  obtain ⟨world, ran, hsn⟩ := Option.map_eq_some_iff.mp ho
  obtain ⟨hd, published⟩ := Prod.mk.inj hsn
  obtain ⟨last, hl, hj⟩ := Option.map_eq_some_iff.mp published
  have hr := Machine.reachable_of_run
    (show (persistenceMachine twoCellEngine).Init .fresh from rfl) ran
  obtain ⟨opened, persistence, hst, hse, hss, _⟩ :=
    reopened_journal_serves_last_generation twoCellEngine_lawful hr hd false
  obtain ⟨hs, _⟩ := hss last hl
  have hsi : (repairInvalidPendingRenameState last.database.journal).didRepair = false := by
    rw [hj]
    decide
  refine ⟨world, opened, persistence, ran, hst, hse, hs.loaded, ?_⟩
  rw [hs.unrepaired hsi, hj]

/-- An opening may serve neither the last resolved commit nor the one in progress at the last
stop: recovery drops an intent of no file from a resolved commit, and a generation whose commit
stopped after its manifest stays the one that is served. -/
theorem reopened_journal_differs : (∃ world persistence,
      (persistenceMachine twoCellEngine).run .fresh
        (firstOpening ++ resolvedCommit strayIntent ++ [.stop, .open false]) = some world ∧
      world.phase.persistence? = some persistence ∧
      persistence.database.journal.pendingRenameIntents = [] ∧
      ∀ database, (strayIntent database).journal.pendingRenameIntents ≠ []) ∧
    (∃ world persistence, (persistenceMachine twoCellEngine).run .fresh
        (firstOpening ++ resolvedCommit (noteUpload 1) ++
          [.commit (noteUpload 2), .advance, .advance, .stop, .open false,
            .commit (noteUpload 3), .stop, .open false]) = some world ∧
      world.phase.persistence? = some persistence ∧
      persistence.database.journal.multipartUploadProgress = [2] ∧
      world.interrupted.map (·.database.journal.multipartUploadProgress) = some [3]) := by
  have hr : ((persistenceMachine twoCellEngine).run .fresh
      (firstOpening ++ resolvedCommit strayIntent ++ [.stop, .open false])).map (fun world =>
        world.phase.persistence?.map (·.database.journal.pendingRenameIntents)) =
      some (some []) := by
    decide +kernel
  have hb : ((persistenceMachine twoCellEngine).run .fresh
      (firstOpening ++ resolvedCommit (noteUpload 1) ++
        [.commit (noteUpload 2), .advance, .advance, .stop, .open false,
          .commit (noteUpload 3), .stop, .open false])).map (fun world =>
        (world.phase.persistence?.map (·.database.journal.multipartUploadProgress),
          world.interrupted.map (·.database.journal.multipartUploadProgress))) =
      some (some [2], some [3]) := by
    decide +kernel
  constructor
  · obtain ⟨world, ran, hsn⟩ := Option.map_eq_some_iff.mp hr
    obtain ⟨persistence, hs, hin⟩ := Option.map_eq_some_iff.mp hsn
    exact ⟨world, persistence, ran, hs, hin, fun database => List.cons_ne_nil _ _⟩
  · obtain ⟨world, ran, hsn⟩ := Option.map_eq_some_iff.mp hb
    obtain ⟨hse, hi⟩ := Prod.mk.inj hsn
    obtain ⟨persistence, hs, hu⟩ := Option.map_eq_some_iff.mp hse
    exact ⟨world, persistence, ran, hs, hu, hi⟩

end PersonalOs.Journal
