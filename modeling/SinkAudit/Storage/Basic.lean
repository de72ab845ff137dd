import SinkAudit.Failure

/-!
# Stores of buckets

A store is whatever can be asked whether it has a bucket (`BucketStore`). Asking is a step of the store, so
that a store may keep a record, or make a client when it is first needed. The answer is a truth value: a
store that answers with anything else, or with something whose truth cannot be told, breaks its promise and
is not looked at.

- `Answer`: whether a bucket exists, or why that is not known.
- `BucketStore`: whatever can be asked for a bucket. Asking may change it.
- `MemoryStore`: buckets in memory, with an error that can be set and the list of all names asked for.
-/

namespace SinkAudit

/-- Whether a bucket exists, or why that is not known: what `bucket_exists` returns or raises. -/
abbrev Answer := Except Failure Bool

/-- A store that can be asked whether it has a bucket (`bucket_exists`). -/
class BucketStore (σ : Type) where
  /-- The answer for a bucket, and the store after it. -/
  ask : σ → String → Answer × σ

/-- Buckets in memory, for tests and for runs without a service (`FakeBucketStore`). -/
structure MemoryStore where
  /-- The names of the buckets. -/
  buckets : List String
  /-- What every lookup fails with, if anything. -/
  failure : Option Failure := none
  /-- The names asked for, in order. -/
  calls : List String := []

namespace MemoryStore

/-- Look a bucket up. The lookup is recorded even when it fails. -/
def ask (m : MemoryStore) (name : String) : Answer × MemoryStore :=
  (match m.failure with
    | some f => .error f
    | none => .ok (m.buckets.contains name),
    { m with calls := m.calls ++ [name] })

/-- Add a bucket. One that is there already is there twice, which no lookup can tell. -/
def create (m : MemoryStore) (name : String) : MemoryStore :=
  { m with buckets := name :: m.buckets }

/-- Remove a bucket. -/
def delete (m : MemoryStore) (name : String) : MemoryStore :=
  { m with buckets := m.buckets.filter (· != name) }

/-- Make lookups fail from now on, or stop failing. The failure is kept until another call changes it. -/
def failWith (m : MemoryStore) (failure : Option Failure) : MemoryStore := { m with failure }

instance : BucketStore MemoryStore := ⟨ask⟩

end MemoryStore

end SinkAudit
