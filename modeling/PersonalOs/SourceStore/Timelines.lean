import PersonalOs.SourceStore.SourceGraph

/-!
# Where a source lies, over time

The locators of a source in the order they were opened are a timeline: each but the last is
closed, by the event that opens its successor or by the deletion whose restoration opens it.
What is open at the end is decided by the state of the source: a locator while it is active,
a tombstone while it is deleted.
-/

namespace PersonalOs.SourceStore

open HistoryLemmas

/-! ## Links -/

/-- A locator closed behind its opening is followed at once by the locator its closing event
opened, or after the time between a deletion and its restoration. -/
def Linked (tombstones : List SourceTombstone) (l m : SourceLocator) : Prop :=
  ∃ c, l.closure = some c ∧ l.openedSequence < c.closedSequence ∧
    (c.closedEventId = m.openedEventId ∧ c.closedSequence = m.openedSequence ∨
      c.closedSequence < m.openedSequence ∧ ∃ t ∈ tombstones,
        t.deleteEventId = c.closedEventId ∧ t.restoreEventId = some m.openedEventId)

/-- The locators of a source are linked, and closed behind their opening; a deletion is another
event than its restoration. -/
structure Timeline (g : SourceGraph) : Prop where
  linked : g.locators.IsChain (Linked g.tombstones)
  forward : ∀ l ∈ g.locators, ∀ c ∈ l.closure, l.openedSequence < c.closedSequence ∧
    ∃ e ∈ g.events, e.eventId = c.closedEventId ∧ e.eventSequence = c.closedSequence
  restored : ∀ t ∈ g.tombstones, t.restoreEventId ≠ some t.deleteEventId

/-! ## Places -/

/-- Where a source lies: nowhere from its creation on, at its last locator, or at none since
the deletion that closed it. -/
inductive Located (g : SourceGraph) (row : Source) : Prop
  | unbound (active : row.syncState = .active) (locators : g.locators = [])
      (tombstones : g.tombstones = [])
  | bound (past : List SourceLocator) (l : SourceLocator) (active : row.syncState = .active)
      (locators : g.locators = past ++ [l]) (closed : ∀ p ∈ past, p.closure ≠ none)
      (unclosed : l.closure = none) (restored : ∀ t ∈ g.tombstones, t.restoreEventId ≠ none)
  | deleted (past : List SourceLocator) (l : SourceLocator) (c : LocatorClosure)
      (old : List SourceTombstone) (t : SourceTombstone) (deleted : row.syncState = .deleted)
      (locators : g.locators = past ++ [l]) (closed : ∀ p ∈ past, p.closure ≠ none)
      (closure : l.closure = some c) (tombstones : g.tombstones = old ++ [t])
      (restored : ∀ t ∈ old, t.restoreEventId ≠ none) (unrestored : t.restoreEventId = none)
      (deletes : t.deleteEventId = c.closedEventId)
      (retained : row.currentVersionId = some t.retainedVersionId)

def SourceGraph.CreatedWithLocator (g : SourceGraph) : Prop :=
  ∃ e ∈ g.events, e.eventType = .create ∧ ∃ l ∈ g.locators, l.openedEventId = e.eventId

variable {x : SourceId} {g g' : SourceGraph} {e : SyncEvent} {row row' : Source}

namespace TimelineLemmas

theorem closeLocators_snoc {pa : List SourceLocator} {l : SourceLocator}
    (hl : g.locators = pa ++ [l]) (hc : ∀ p ∈ pa, p.closure ≠ none)
    (hu : l.closure = none) :
    g.closeLocators e = pa ++ [{ l with closure := some ⟨e.eventId, e.eventSequence⟩ }] := by
  rw [SourceGraph.closeLocators, hl, List.map_append, List.map_singleton, if_pos hu]
  congr 1
  refine (List.map_congr_left fun p hm => ?_).trans (List.map_id pa)
  exact if_neg (hc p hm)

theorem restoreTombstone_snoc {old : List SourceTombstone} {t : SourceTombstone}
    (ht : g.tombstones = old ++ [t]) (hr : ∀ t ∈ old, t.restoreEventId ≠ none)
    (hu : t.restoreEventId = none) :
    g.restoreTombstone t.sourceTombstoneId e =
      old ++ [{ t with restoreEventId := some e.eventId }] := by
  rw [SourceGraph.restoreTombstone, ht, List.map_append, List.map_singleton, if_pos ⟨rfl, hu⟩]
  congr 1
  refine (List.map_congr_left fun u hm => ?_).trans (List.map_id old)
  exact if_neg fun hb => hr u hm hb.2

theorem eq_last {α : Type} {rs : List α} {r la : α} {f : α → Prop}
    (hm : r ∈ rs ++ [la]) (ho : ∀ a ∈ rs, ¬f a) (hh : f r) : r = la := by
  rcases List.mem_append.mp hm with old | is
  · exact absurd hh (ho r old)
  · exact List.mem_singleton.mp is

theorem isChain_snoc {α : Type} {R : α → α → Prop} {rs : List α} {la new : α}
    (hc : (rs ++ [la]).IsChain R) (hs : R la new) :
    (rs ++ [la] ++ [new]).IsChain R := by
  refine List.isChain_append.mpr ⟨hc, List.isChain_singleton _, ?_⟩
  intro a hl b hf
  rw [List.getLast?_append, List.getLast?_singleton, Option.some_or] at hl
  cases hl
  cases hf
  exact hs

theorem isChain_last {α : Type} {R : α → α → Prop} {rs : List α} {la l' : α}
    (hc : (rs ++ [la]).IsChain R) (he : ∀ a, R a la → R a l') :
    (rs ++ [l']).IsChain R := by
  obtain ⟨hb, _, hs⟩ := List.isChain_append.mp hc
  refine List.isChain_append.mpr ⟨hb, List.isChain_singleton _, ?_⟩
  intro a hl b hf
  cases hf
  exact he a (hs a hl la rfl)

theorem Linked.mono {ts t' : List SourceTombstone} {l m : SourceLocator}
    (hk : ∀ t ∈ ts, t.restoreEventId ≠ none → t ∈ t')
    (hl : Linked ts l m) : Linked t' l m := by
  obtain ⟨c, hc, hf, ha | ⟨hla, t, ht, hd, hr⟩⟩ := hl
  · exact ⟨c, hc, hf, .inl ha⟩
  · refine ⟨c, hc, hf, .inr ⟨hla, t, hk t ht ?_, hd, hr⟩⟩
    rw [hr]
    exact Option.some_ne_none _

end TimelineLemmas

open TimelineLemmas

theorem located_row (hl : g = .empty ∨ ∃ row, g.rows = [row] ∧ Located g row)
    (ht : g.rows = [row]) : Located g row := by
  rcases hl with rfl | ⟨row', ht', hl⟩
  · cases ht
  · rw [ht] at ht'
    cases ht'
    exact hl

/-- A step that leaves locators and tombstones alone, and of the row the state and, while it is
deleted, the current version. -/
theorem Located.still (hlo : Located g row) (hl : g'.locators = g.locators)
    (ht : g'.tombstones = g.tombstones) (hs : row'.syncState = row.syncState)
    (hp : row.syncState ≠ .deleted ∨ row'.currentVersionId = row.currentVersionId) :
    Located g' row' := by
  cases hlo with
  | unbound ha hno hn =>
    exact .unbound (hs.trans ha) (hl.trans hno)
      (ht.trans hn)
  | bound p l ha hat hc hun hr =>
    exact .bound p l (hs.trans ha) (hl.trans hat) hc hun
      (ht ▸ hr)
  | deleted p l c old t hd hat hc hcl hla hr hu
      hde hre =>
    exact .deleted p l c old t (hs.trans hd) (hl.trans hat) hc hcl
      (ht.trans hla) hr hu hde
      ((hp.resolve_left (not_not.mpr hd)).trans hre)

theorem Located.last (hlo : Located g row) (ha : row.syncState = .active)
    {l : SourceLocator} (ht : l ∈ g.locators) (hu : l.closure = none) :
    ∃ pa, g.locators = pa ++ [l] ∧ (∀ p ∈ pa, p.closure ≠ none) ∧
      ∀ t ∈ g.tombstones, t.restoreEventId ≠ none := by
  cases hlo with
  | unbound _ hl =>
    rw [hl] at ht
    cases ht
  | bound pa la _ hl hc _ hr =>
    rw [hl] at ht
    obtain rfl := eq_last ht hc hu
    exact ⟨pa, hl, hc, hr⟩
  | deleted _ _ _ _ _ hd =>
    rw [ha] at hd
    cases hd

theorem SourceHistory.located (hh : SourceHistory x g) :
    g = .empty ∨ ∃ row, g.rows = [row] ∧ Located g row := by
  induction hh with
  | empty => exact .inl rfl
  | @step g g' e _ _ _ _ hv ih =>
    refine .inr ?_
    cases hv with
    | create row v lo hn _ _ _ _ _ ha _ _ _ _ ho =>
      have hb : g = .empty := ih.resolve_right fun ⟨row', ht, _⟩ => by
        rw [ht] at hn
        cases hn
      subst hb
      refine ⟨row, rfl, ?_⟩
      cases lo with
      | none => exact .unbound ha rfl rfl
      | some l => exact .bound [] l ha rfl (by simp) (ho l rfl).unclosed (by
          simp [SourceGraph.empty])
    | repeatCurrent row cu ht =>
      exact ⟨row, ht, (located_row ih ht).still rfl rfl rfl (.inr rfl)⟩
    | publish row pa v ht _ hli =>
      exact ⟨_, rfl, (located_row ih ht).still rfl rfl rfl (.inl hli)⟩
    | relocate row cu cl o ht _ ha _ hc hw _ _ ho =>
      obtain ⟨p, hl, hp, hr⟩ := (located_row ih ht).last ha hc hw
      refine ⟨row, ht, .bound (g.closeLocators e) o ha rfl ?_ ho.unclosed hr⟩
      rw [closeLocators_snoc hl hp hw]
      exact forall_snoc hp (Option.some_ne_none _)
    | delete row cu cl te ht _ ha hpo hc hw _ _ _ _ hde hre _ hu =>
      obtain ⟨p, hl, hp, hr⟩ := (located_row ih ht).last ha hc hw
      refine ⟨_, rfl, .deleted p { cl with closure := some ⟨e.eventId, e.eventSequence⟩ }
        ⟨e.eventId, e.eventSequence⟩ g.tombstones te rfl
        (closeLocators_snoc hl hp hw) hp rfl rfl hr hu
        hde ?_⟩
      rw [hre]
      exact hpo
    | restore row cu te o ht _ hd hpo hto hu _ _ _ ho =>
      refine ⟨_, rfl, ?_⟩
      cases located_row ih ht with
      | unbound ha | bound _ _ ha =>
        rw [ha] at hd
        cases hd
      | deleted p l c old t _ hl cl hcl hts hr =>
        rw [hts] at hto
        obtain rfl := eq_last hto hr hu
        refine .bound g.locators o rfl rfl ?_ ho.unclosed ?_
        · rw [hl]
          exact forall_snoc cl (by rw [hcl]; exact Option.some_ne_none _)
        · show ∀ t ∈ g.restoreTombstone te.sourceTombstoneId e, t.restoreEventId ≠ none
          rw [restoreTombstone_snoc hts hr hu]
          exact forall_snoc hr (Option.some_ne_none _)
    | record row ht =>
      exact ⟨row, ht, (located_row ih ht).still rfl rfl rfl (.inr rfl)⟩

/-! ## Timelines -/

variable {l : SourceLocator}

/-- A closure that an event of the graph made is one that an event of the next graph made. -/
theorem forward_step (hv : GraphStep e g g')
    (hf : ∀ c ∈ l.closure, l.openedSequence < c.closedSequence ∧
      ∃ y ∈ g.events, y.eventId = c.closedEventId ∧ y.eventSequence = c.closedSequence) :
    ∀ c ∈ l.closure, l.openedSequence < c.closedSequence ∧
      ∃ y ∈ g'.events, y.eventId = c.closedEventId ∧ y.eventSequence = c.closedSequence := by
  intro c hc
  obtain ⟨hl, y, ht, hr⟩ := hf c hc
  exact ⟨hl, y, by rw [hv.events]; exact List.mem_append_left _ ht, hr⟩

theorem Timeline.still (ht : Timeline g) (hv : GraphStep e g g')
    (hl : g'.locators = g.locators) (hto : g'.tombstones = g.tombstones) :
    Timeline g' where
  linked := by
    rw [hl, hto]
    exact ht.linked
  forward := by
    rw [hl]
    exact fun l hs => forward_step hv (ht.forward l hs)
  restored := by
    rw [hto]
    exact ht.restored

theorem Timeline.close (ht : Timeline g) (hv : GraphStep e g g')
    {pa : List SourceLocator} (hl : g.locators = pa ++ [l])
    (hla : l.openedSequence < e.eventSequence) :
    (pa ++ [{ l with closure := some ⟨e.eventId, e.eventSequence⟩ }]).IsChain
        (Linked g.tombstones) ∧
      ∀ m ∈ pa ++ [{ l with closure := some ⟨e.eventId, e.eventSequence⟩ }],
        ∀ c ∈ m.closure, m.openedSequence < c.closedSequence ∧
          ∃ y ∈ g'.events, y.eventId = c.closedEventId ∧ y.eventSequence = c.closedSequence := by
  have hc := ht.linked
  rw [hl] at hc
  refine ⟨isChain_last hc fun p hli => hli, ?_⟩
  refine forall_snoc (fun m hm => forward_step hv (ht.forward m ?_)) ?_
  · rw [hl]
    exact List.mem_append_left _ hm
  · rintro c ⟨⟩
    exact ⟨hla, e, hv.recorded_self, rfl, rfl⟩

theorem SourceHistory.timeline (hh : SourceHistory x g) : Timeline g := by
  induction hh with
  | empty => exact ⟨.nil, by simp [SourceGraph.empty], by simp [SourceGraph.empty]⟩
  | @step g g' e hb _ hbe hf hmo ih =>
    have ho : ∀ l ∈ g.locators, l.openedSequence < e.eventSequence := by
      intro l ht
      obtain ⟨y, hd, _, _, hs⟩ := hb.locators_opened.1 l ht
      rw [← hs _ rfl]
      exact hbe y hd
    cases hmo with
    | create row v lo hn _ _ _ _ _ ha _ _ _ _ hop =>
      have hbl : g = .empty := hb.located.resolve_right (by simp [hn])
      subst hbl
      cases lo with
      | none => exact ⟨.nil, by simp [SourceGraph.empty], by simp [SourceGraph.empty]⟩
      | some l =>
        refine ⟨List.isChain_singleton l, ?_, by simp [SourceGraph.empty]⟩
        intro m hm
        rw [List.mem_singleton.mp hm, (hop l rfl).unclosed]
        rintro c ⟨⟩
    | repeatCurrent row cu ht hw hli hp hty hba hco =>
      exact ih.still (.repeatCurrent row cu ht hw hli hp hty hba hco) rfl rfl
    | publish row p v ht hw hli hp hps hty hba hco hv hf hne hpd =>
      exact ih.still (.publish row p v ht hw hli hp hps hty hba hco hv hf hne hpd) rfl rfl
    | record row ht hw hty hco =>
      exact ih.still (.record row ht hw hty hco) rfl rfl
    | relocate row cu cl o ht hw ha hp hc hwa hty hco hop hms =>
      obtain ⟨pa, hl, hpa, _⟩ := (located_row hb.located ht).last ha hc hwa
      have hcl := ih.close (.relocate row cu cl o ht hw ha hp hc hwa hty hco hop hms) hl (ho cl hc)
      rw [← closeLocators_snoc hl hpa hwa] at hcl
      refine ⟨?_, forall_snoc hcl.2 ?_, ih.restored⟩
      · show (g.closeLocators e ++ [o]).IsChain _
        rw [closeLocators_snoc hl hpa hwa] at hcl ⊢
        exact isChain_snoc hcl.1 ⟨_, rfl, ho cl hc, .inl ⟨hop.event.symm, hop.sequence.symm⟩⟩
      · rw [hop.unclosed]
        rintro c ⟨⟩
    | delete row cu cl te ht hw ha hp hc hwa hty hco hso hte hdd hrd hre hu =>
      obtain ⟨pa, hl, hpa, _⟩ := (located_row hb.located ht).last ha hc hwa
      have hcl := ih.close (.delete row cu cl te ht hw ha hp hc hwa hty hco hso hte hdd hrd
        hre hu) hl (ho cl hc)
      rw [← closeLocators_snoc hl hpa hwa] at hcl
      refine ⟨hcl.1.imp fun l m => Linked.mono fun t ht _ =>
        List.mem_append_left _ ht, hcl.2, forall_snoc ih.restored ?_⟩
      rw [hu]
      rintro ⟨⟩
    | restore row cu te o ht hw hde hp hto hu hrd hty hco hop =>
      have hmo : GraphStep e g _ := .restore row cu te o ht hw hde hp hto hu hrd hty hco hop
      cases located_row hb.located ht with
      | unbound ha | bound _ _ ha =>
        rw [ha] at hde
        cases hde
      | deleted pa l c old t _ hl cl hce hts hres _ hds =>
        have he : te = t := eq_last (hts ▸ hto) hres hu
        subst he
        have hr := restoreTombstone_snoc (e := e) hts hres hu
        have hap : ∀ u ∈ g.tombstones, u.deleteEventId ≠ e.eventId := by
          intro u ht he
          obtain ⟨y, hd, hna, _⟩ := hb.tombstones_deleted.1 u ht
          exact hf y hd (hna.trans he)
        refine ⟨?_, ?_, ?_⟩
        · show (g.locators ++ [o]).IsChain (Linked (g.restoreTombstone _ e))
          have hch : g.locators.IsChain (Linked (g.restoreTombstone te.sourceTombstoneId e)) := by
            refine ih.linked.imp fun l m => Linked.mono fun u ht hwd => ?_
            rw [hr]
            rw [hts] at ht
            rcases List.mem_append.mp ht with old | hla
            · exact List.mem_append_left _ old
            · rw [List.mem_singleton.mp hla] at hwd
              exact absurd hu hwd
          rw [hl] at hch ⊢
          obtain ⟨hfo, y, hd, _, hs⟩ := ih.forward l (by rw [hl]; simp) c hce
          refine isChain_snoc hch ⟨c, hce, hfo, .inr ⟨?_,
            { te with restoreEventId := some e.eventId }, ?_, hds, ?_⟩⟩
          · rw [← hs, hop.sequence]
            exact hbe y hd
          · rw [hr]
            exact List.mem_append_right _ (List.mem_singleton.mpr rfl)
          · rw [hop.event]
        · refine forall_snoc (fun m hm => forward_step hmo (ih.forward m hm)) ?_
          rw [hop.unclosed]
          rintro c ⟨⟩
        · show ∀ t ∈ g.restoreTombstone te.sourceTombstoneId e, _
          rw [hr]
          refine forall_snoc (fun u hm => ih.restored u ?_) ?_
          · rw [hts]
            exact List.mem_append_left _ hm
          · intro he
            exact hap te hto (Option.some.inj he).symm

/-! ## What a source keeps -/

theorem GraphStep.opened (hv : GraphStep e g g') (ht : l ∈ g.locators) :
    ∃ l' ∈ g'.locators, l'.openedEventId = l.openedEventId := by
  obtain ⟨o, _, _, hl | hl⟩ := hv.locators
  · exact ⟨l, by rw [hl]; exact List.mem_append_left _ ht, rfl⟩
  · refine ⟨_, by rw [hl]; exact List.mem_append_left _ (List.mem_map_of_mem ht), ?_⟩
    split <;> rfl

theorem SourceHistory.createdWithLocator (hh : SourceHistory x g) (hs : g.locators ≠ []) :
    g.CreatedWithLocator := by
  induction hh with
  | empty => exact absurd rfl hs
  | @step g g' e hb _ _ _ hv ih =>
    have hg (had : g.locators ≠ []) : g'.CreatedWithLocator := by
      obtain ⟨y, hr, hty, l, ht, ho⟩ := ih had
      obtain ⟨l', ht', he⟩ := hv.opened ht
      refine ⟨y, ?_, hty, l', ht', he.trans ho⟩
      rw [hv.events]
      exact List.mem_append_left _ hr
    cases hv with
    | create row v lo hn hty _ _ _ _ _ _ _ _ _ hop =>
      have hbl : g = .empty := hb.located.resolve_right fun ⟨row', ht, _⟩ => by
        rw [ht] at hn
        cases hn
      subst hbl
      cases lo with
      | none => exact absurd rfl hs
      | some l => exact ⟨e, by simp, hty, l, by simp, (hop l rfl).event⟩
    | repeatCurrent | publish | record => exact hg hs
    | relocate _ _ c _ _ _ _ _ hc =>
      exact hg (List.ne_nil_of_mem hc)
    | delete _ _ c _ _ _ _ _ hc =>
      exact hg (List.ne_nil_of_mem hc)
    | restore row _ _ _ ht _ hd =>
      refine hg ?_
      cases located_row hb.located ht with
      | unbound ha | bound _ _ ha =>
        rw [ha] at hd
        cases hd
      | deleted p l _ _ _ _ hl =>
        rw [hl]
        exact List.append_ne_nil_of_right_ne_nil _ (List.cons_ne_nil _ _)

def SourceGraph.openLocators (g : SourceGraph) : List SourceLocator :=
  g.locators.filter fun l => l.closure = none

def SourceGraph.openTombstones (g : SourceGraph) : List SourceTombstone :=
  g.tombstones.filter fun t => t.restoreEventId = none

/-- What holds of a source in every committed state: the open rows that go with its state, and
the order of its locators. -/
structure SourceInvariant (g : SourceGraph) (row : Source) : Prop where
  active_iff : row.syncState = .active ↔ g.openTombstones = []
  active_open : row.syncState = .active → (g.CreatedWithLocator ↔ ∃ l, g.openLocators = [l])
  deleted_iff : row.syncState = .deleted ↔ g.openLocators = [] ∧ ∃ t, g.openTombstones = [t] ∧
    row.currentVersionId = some t.retainedVersionId
  ordered : g.locators.Pairwise fun l m => l.openedSequence < m.openedSequence
  forward : ∀ l ∈ g.locators, ∀ c ∈ l.closure, l.openedSequence < c.closedSequence
  disjoint : g.locators.Pairwise fun l m =>
    ∃ c, l.closure = some c ∧ c.closedSequence ≤ m.openedSequence
  gaps : g.locators.IsChain fun l m => ∃ c, l.closure = some c ∧
    (c.closedSequence < m.openedSequence ↔ ∃ t ∈ g.tombstones,
      t.deleteEventId = c.closedEventId ∧ t.restoreEventId = some m.openedEventId)

namespace TimelineLemmas

theorem filter_last {α : Type} {rs : List α} {la : α} {p : α → Bool}
    (ho : ∀ a ∈ rs, ¬p a = true) (hh : p la = true) :
    (rs ++ [la]).filter p = [la] := by
  rw [List.filter_append, List.filter_eq_nil_iff.mpr ho, List.filter_singleton, hh]
  rfl

theorem filter_none {α : Type} {rs : List α} {la : α} {p : α → Bool}
    (ho : ∀ a ∈ rs, ¬p a = true) (hf : ¬p la = true) :
    (rs ++ [la]).filter p = [] :=
  List.filter_eq_nil_iff.mpr (forall_snoc ho hf)

end TimelineLemmas

/-- A locator closed behind its opening and in front of another. -/
def Precedes (l m : SourceLocator) : Prop :=
  ∃ c, l.closure = some c ∧ l.openedSequence < c.closedSequence ∧
    c.closedSequence ≤ m.openedSequence

instance : Trans Precedes Precedes Precedes where
  trans := by
    rintro l m n ⟨c, closure, forward, before⟩ ⟨c', _, forward', before'⟩
    refine ⟨c, closure, forward, ?_⟩
    calc c.closedSequence ≤ m.openedSequence := before
      _ ≤ c'.closedSequence := Nat.le_of_lt forward'
      _ ≤ n.openedSequence := before'

theorem Timeline.precedes (ht : Timeline g) : g.locators.Pairwise Precedes := by
  refine (ht.linked.imp fun l m hl => ?_).pairwise
  obtain ⟨c, hc, hf, ⟨_, he⟩ | ⟨hla, _⟩⟩ := hl
  · exact ⟨c, hc, hf, Nat.le_of_eq he⟩
  · exact ⟨c, hc, hf, Nat.le_of_lt hla⟩

theorem Timeline.gap (ht : Timeline g) {m : SourceLocator} (hl : Linked g.tombstones l m)
    : ∃ c, l.closure = some c ∧ (c.closedSequence < m.openedSequence ↔ ∃ t ∈ g.tombstones,
        t.deleteEventId = c.closedEventId ∧ t.restoreEventId = some m.openedEventId) := by
  obtain ⟨c, hc, _, ⟨hsa, hs⟩ | ⟨hla, hsp⟩⟩ := hl
  · refine ⟨c, hc, fun gap => absurd hs (Nat.ne_of_lt gap), ?_⟩
    rintro ⟨t, hst, hd, hr⟩
    refine absurd ?_ (ht.restored t hst)
    rw [hr, hd, hsa]
  · exact ⟨c, hc, fun _ => hsp, fun _ => hla⟩

theorem SourceHistory.sourceInvariant (hh : SourceHistory x g) (ht : g.rows = [row]) :
    SourceInvariant g row := by
  have hti := hh.timeline
  have ho : g.locators.Pairwise fun l m => l.openedSequence < m.openedSequence :=
    hti.precedes.imp fun ⟨_, _, hf, hb⟩ => Nat.lt_of_lt_of_le hf hb
  have hdi : g.locators.Pairwise fun l m =>
      ∃ c, l.closure = some c ∧ c.closedSequence ≤ m.openedSequence :=
    hti.precedes.imp fun ⟨c, hc, _, hb⟩ => ⟨c, hc, hb⟩
  have hrt (haf) (hac) (hde) : SourceInvariant g row := ⟨haf, hac, hde, ho,
      fun l hm c hc => (hti.forward l hm c hc).1, hdi,
      hti.linked.imp fun l m hli => hti.gap hli⟩
  cases located_row hh.located ht with
  | unbound ha hl hto =>
    have hn : g.openTombstones = [] := by rw [SourceGraph.openTombstones, hto]; rfl
    have hno : g.openLocators = [] := by rw [SourceGraph.openLocators, hl]; rfl
    refine hrt (by simp [ha, hn]) (fun _ => ?_) (by simp [ha, hn])
    rw [hno]
    refine ⟨?_, fun ⟨l, one⟩ => nomatch one⟩
    rintro ⟨_, _, _, l, hm, _⟩
    rw [hl] at hm
    cases hm
  | bound pa l ha hl hcl hun hr =>
    have hn : g.openTombstones = [] := List.filter_eq_nil_iff.mpr fun t ht => by simpa using hr t ht
    have one : g.openLocators = [l] := by
      rw [SourceGraph.openLocators, hl]
      exact filter_last (fun p ht => by simpa using hcl p ht) (by simpa using hun)
    refine hrt (by simp [ha, hn]) (fun _ => ?_) (by simp [ha, hn])
    refine ⟨fun _ => ⟨l, one⟩, fun _ => hh.createdWithLocator ?_⟩
    rw [hl]
    exact List.append_ne_nil_of_right_ne_nil _ (List.cons_ne_nil _ _)
  | deleted pa l c old t hd hl hcl hc hto hr hu hds hre =>
    have one : g.openTombstones = [t] := by
      rw [SourceGraph.openTombstones, hto]
      exact filter_last (fun u ht => by simpa using hr u ht) (by simpa using hu)
    have hno : g.openLocators = [] := by
      rw [SourceGraph.openLocators, hl]
      exact filter_none (fun p ht => by simpa using hcl p ht) (by simp [hc])
    refine hrt (by simp [hd, one]) (by simp [hd]) ?_
    exact ⟨fun _ => ⟨hno, t, one, hre⟩, fun _ => hd⟩

end PersonalOs.SourceStore
