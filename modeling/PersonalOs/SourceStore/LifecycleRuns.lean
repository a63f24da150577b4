import PersonalOs.SourceStore.SourceRuns

/-!
# Lifecycle commits in every run

A lifecycle call looks for its committed event once, before it takes a lock. While nobody
commits the event of a request another call has looked for in vain, lifecycle commits are
exactly once; two calls of one request that both miss are not.
-/

namespace PersonalOs.SourceStore

open Transactions

/-! ## Runs without a race -/

/-- A device renames a note. -/
def sampleRename : LifecycleCall where
  request := {
    command := {
      sourceId := 1
      eventId := 500
      idempotencyKey := "k2"
      operation := .rename
      expectedVersionId := 301
      expectedLocator := some "a.md"
      targetLocator := some "b.md"
      tombstoneId := none
      policyRevision := 1
      clientTimestamp := none
      shape := rfl }
    device := ⟨1, 7⟩ }
  identities := fun remaining => ⟨600 + remaining, 700 + remaining⟩

def renamedScript : List (Action StoreCall) :=
  createScript ++ .spawn (.lifecycle sampleRename) :: advances 1 17

end PersonalOs.SourceStore
