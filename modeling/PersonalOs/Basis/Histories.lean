import PersonalOs.Basis.Transactions

/-!
# Committed states over time

A database with every state it has had, and programs over a part of a database run on the whole.
With both, an outcome can be compared with what stood at one moment of its call.
-/

namespace Transactions

/-! ## Recorded databases -/

/-- The committed state and the states before it, the newest first. -/
structure Recorded (Db : Type) where
  now : Db
  past : List Db

namespace Recorded

variable {Db : Type}

def commit (r : Recorded Db) (db : Db) : Recorded Db := ⟨db, r.now :: r.past⟩

/-- Every state so far, the newest first. -/
def moments (r : Recorded Db) : List Db := r.now :: r.past

/-- The states from the moment of `born` to now. -/
def since (born r : Recorded Db) : List Db :=
  r.moments.take (r.past.length + 1 - born.past.length)

def Extends (born r : Recorded Db) : Prop := born.moments <:+ r.moments

variable {born mid r : Recorded Db}

theorem Extends.refl (r : Recorded Db) : Extends r r := List.suffix_rfl

theorem Extends.trans (hf : Extends born mid) (hs : Extends mid r) : Extends born r :=
  List.IsSuffix.trans hf hs

theorem Extends.commit (r : Recorded Db) (db : Db) : Extends r (r.commit db) :=
  List.suffix_cons db r.moments

theorem Extends.length_le (hf : Extends born r) : born.past.length ≤ r.past.length :=
  Nat.le_of_succ_le_succ (List.IsSuffix.length_le hf)

/-- A state that stood between two moments is among the states since the first. -/
theorem Extends.mem_since (hf : Extends born mid) (hs : Extends mid r) :
    mid.now ∈ born.since r := by
  have hb := hf.length_le
  obtain ⟨l, hj⟩ := hs
  have hc := congrArg List.length hj
  simp only [List.length_append, moments, List.length_cons] at hc
  unfold since
  rw [← hj, List.take_append]
  refine List.mem_append_right _ ?_
  obtain ⟨n, hp⟩ : ∃ n, r.past.length + 1 - born.past.length - l.length = n + 1 :=
    ⟨r.past.length - born.past.length - l.length, by omega⟩
  rw [hp]
  exact List.mem_cons_self

theorem mem_since_iff (he : Extends born r) {db : Db} :
    db ∈ born.since r ↔ ∃ mid, Extends born mid ∧ Extends mid r ∧ mid.now = db := by
  constructor
  · intro hm
    obtain ⟨i, hi, rfl⟩ := List.mem_iff_getElem.1 hm
    simp only [since, List.length_take, lt_min_iff] at hi
    refine ⟨⟨r.moments[i], r.moments.drop (i + 1)⟩, ?_, ?_, by simp [since]⟩
    · have hk : born.moments = r.moments.drop (r.moments.length - born.moments.length) :=
        List.suffix_iff_eq_drop.1 he
      have hr : (⟨r.moments[i], r.moments.drop (i + 1)⟩ : Recorded Db).moments =
          r.moments.drop i := (List.drop_eq_getElem_cons hi.2).symm
      rw [Extends, hr, hk]
      have hb : i ≤ r.moments.length - born.moments.length := by
        simp only [moments, List.length_cons] at *
        omega
      obtain ⟨n, hs⟩ := Nat.exists_eq_add_of_le hb
      rw [hs, ← List.drop_drop]
      exact List.drop_suffix n _
    · show r.moments[i] :: r.moments.drop (i + 1) <:+ r.moments
      rw [← List.drop_eq_getElem_cons hi.2]
      exact List.drop_suffix i _
  · rintro ⟨mid, hbe, ha, rfl⟩
    exact hbe.mem_since ha

theorem Extends.since_subset (hf : Extends born mid) (hs : Extends mid r) :
    born.since mid ⊆ born.since r := by
  intro db hm
  obtain ⟨m, hb, ha, rfl⟩ := (mem_since_iff hf).1 hm
  exact hb.mem_since (ha.trans hs)

end Recorded

/-! ## Programs over a part -/

section Through

variable {Part Db Lock Note Note' Out Out' hc : Type}

/-- Run a program over a part of the database on the whole; its notes are dropped. -/
def Program.through (get : Db → Part) (put : Db → Part → Db) (answer : Out → Out') :
    Program Part Lock Note Out → Program Db Lock Note' Out'
  | .begin keepsNotes onFailure body =>
    .begin keepsNotes (fun failure => (onFailure failure).through get put answer)
      (body.through get put answer)
  | .lock l next => .lock l (next.through get put answer)
  | .read next => .read fun db => (next (get db)).through get put answer
  | .draw next => .draw fun n => (next n).through get put answer
  | .note _ next => .read fun db => (next (get db)).through get put answer
  | .finish writes committed refused =>
    .finish (fun db => (writes (get db)).map (put db))
      (fun db => (committed (get db)).through get put answer)
      (fun db => (refused (get db)).through get put answer)
  | .done out => .done (answer out)
  | .halt => .halt

variable {R : Rules Db Lock Note' Out' hc} {ca : hc} {born : Snapshot Db}
  {get : Db → Part} {put : Db → Part → Db} {answer : Out → Out'}

theorem Safe.through (hg : ∀ o s pa, R.Inv s → R.Guar ca o s (put s.db pa))
    (hgo : ∀ s out, R.Good ca born s (answer out)) (p : Program Part Lock Note Out)
    (o : Own Lock Note') (s : Snapshot Db) : Safe R ca born (p.through get put answer) o s := by
  induction p generalizing o s with
  | begin kn oe b hf hru =>
    exact fun s' _ _ => ⟨fun f => hf f _ s', hru o s'⟩
  | lock l n ha => exact fun s' _ _ => ha _ s'
  | read n ha => exact fun s' _ _ => ha _ o s'
  | draw n ha => exact fun s' _ _ => ha _ _ _
  | note ns n ha => exact fun s' _ _ => ha _ o s'
  | finish w c re hc hr =>
    intro s' _ inv
    refine ⟨fun db hw => ?_, fun _ => hr _ _ s'⟩
    obtain ⟨pa, _, rfl⟩ := Option.map_eq_some_iff.mp hw
    exact ⟨hg o s' pa inv, hc _ _ _⟩
  | done out => exact fun s' _ _ => hgo s' out
  | halt => trivial

end Through

end Transactions
