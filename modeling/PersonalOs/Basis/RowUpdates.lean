import PersonalOs.Basis.Transactions

/-!
# Updates of several rows

An `UPDATE` under READ COMMITTED finds its rows in the state its statement starts in and then
waits for them one after another. Rows that appear meanwhile are not found.
-/

namespace Transactions

variable {Db Lock Note Out hc : Type}

/-- Several locks on top of those taken. -/
def Own.withLocks (o : Own Lock Note) (locks : List Lock) : Own Lock Note :=
  locks.foldl Own.withLock o

variable {l : Lock} {locks : List Lock}

theorem Own.mem_withLocks {o : Own Lock Note} :
    l ∈ (o.withLocks locks).locks ↔ l ∈ locks ∨ l ∈ o.locks := by
  induction locks generalizing o with
  | nil => simp [Own.withLocks]
  | cons x r ih =>
    rw [show o.withLocks (x :: r) = (o.withLock x).withLocks r from rfl, ih, List.mem_cons]
    show l ∈ r ∨ l ∈ x :: o.locks ↔ _
    rw [List.mem_cons]
    tauto

theorem Own.held_withLocks {o : Own Lock Note} (hh : l ∈ o.locks) : l ∈ (o.withLocks locks).locks :=
  mem_withLocks.mpr (.inr hh)

theorem Own.taken_withLocks {o : Own Lock Note} (ht : l ∈ locks) : l ∈ (o.withLocks locks).locks :=
  mem_withLocks.mpr (.inl ht)

namespace Program

/-- Wait for several rows, one after another. -/
def lockRows (locks : List Lock) (next : Program Db Lock Note Out) : Program Db Lock Note Out :=
  locks.foldr .lock next

/-- The rows of an `UPDATE`, locked; the writes of the statement are left to the commit. -/
def updateRows {α : Type} (select : Db → List α) (name : α → Lock)
    (next : List α → Program Db Lock Note Out) : Program Db Lock Note Out :=
  .read fun db => lockRows ((select db).map name) (next (select db))

end Program

variable {R : Rules Db Lock Note Out hc} {c : hc} {hb s : Snapshot Db}
  {o : Own Lock Note}

theorem Safe.lockRows {ne : Program Db Lock Note Out} (inv : R.Inv s)
    (ha : ∀ s', Rely R o s s' → R.Inv s' → Safe R c hb ne (o.withLocks locks) s') :
    Safe R c hb (.lockRows locks ne) o s := by
  induction locks generalizing o s with
  | nil => exact ha s .refl inv
  | cons x r ih =>
    intro s₁ ho₁ hi₁
    refine ih hi₁ fun s₂ ho₂ hi₂ => ha s₂ (ho₁.trans ?_) hi₂
    exact ho₂.weaken (fun l hh => List.mem_cons_of_mem _ hh) fun n hd => hd

/-- What is known once the rows are locked: the state the statement started in, and what the
others have done since. -/
theorem Safe.updateRows {α : Type} {se : Db → List α} {n : α → Lock}
    {ne : List α → Program Db Lock Note Out}
    (ha : ∀ s₁ s₂, Rely R o s s₁ → R.Inv s₁ → Rely R o s₁ s₂ → R.Inv s₂ →
      Safe R c hb (ne (se s₁.db)) (o.withLocks ((se s₁.db).map n)) s₂) :
    Safe R c hb (.updateRows se n ne) o s :=
  fun s₁ ho₁ hi₁ => .lockRows hi₁ fun s₂ => ha s₁ s₂ ho₁ hi₁

end Transactions
