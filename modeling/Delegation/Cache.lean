import Delegation.Exit
import Delegation.Key
/-!
# The runner cache

The cache maps keys to runners.  Its view is `get?`; the lemmas say what each operation does to
that view.  A runner is only ever added where there was none, by `getOrInsert`, whose builder runs
at most once, and not at all when the key is present.  A builder that fails or panics leaves the
cache as it was.
-/

namespace Delegation

/-- A map from keys to runners. -/
structure Cache (ρ : Type) where
  /-- The entries, the latest first. -/
  entries : List (Key × ρ)
  /-- No key has two entries. -/
  keys_nodup : (entries.map Prod.fst).Nodup

namespace Cache

variable {ρ σ ε : Type}

/-- The cache without entries. -/
def empty : Cache ρ :=
  ⟨[], List.nodup_nil⟩

/-- The runner under a key. -/
def get? (c : Cache ρ) (k : Key) : Option ρ :=
  c.entries.lookup k

/-- Whether there is a runner under a key. -/
def contains (c : Cache ρ) (k : Key) : Bool :=
  (c.get? k).isSome

/-- The keys, without repetitions. -/
def keys (c : Cache ρ) : List Key :=
  c.entries.map Prod.fst

/-- The number of entries. -/
def size (c : Cache ρ) : Nat :=
  c.entries.length

/-- Remove the entry under a key, if there is one. -/
def erase (c : Cache ρ) (k : Key) : Cache ρ :=
  ⟨c.entries.filter fun e => e.1 ≠ k,
    c.keys_nodup.sublist (List.filter_sublist.map _)⟩

theorem lookup_eq_none_iff {entries : List (Key × ρ)} {k : Key} :
    entries.lookup k = none ↔ k ∉ entries.map Prod.fst := by
  induction entries with
  | nil => simp
  | cons e es ih =>
    obtain ⟨k', r⟩ := e
    by_cases h : k = k'
    · simp [h]
    · have hne : (k == k') = false := by simp [h]
      rw [List.lookup_cons, hne, List.map_cons, List.mem_cons, ih]
      simp [h]

/-- Add an entry under a key that has none. -/
def insert (c : Cache ρ) (k : Key) (r : ρ) (h : c.get? k = none) : Cache ρ :=
  ⟨(k, r) :: c.entries,
    List.nodup_cons.mpr ⟨lookup_eq_none_iff.mp h, c.keys_nodup⟩⟩

/-- The runner under a key, built and added if there is none.  The builder acts on a state of its
own. -/
def getOrInsert (c : Cache ρ) (k : Key) (build : σ → Exit ε ρ × σ) (s : σ) :
    Exit ε ρ × Cache ρ × σ :=
  match h : c.get? k with
  | some r => (.returned r, c, s)
  | none =>
    match build s with
    | (.returned r, s') => (.returned r, c.insert k r h, s')
    | (.failed e, s') => (.failed e, c, s')
    | (.panicked m, s') => (.panicked m, c, s')

/-! ## The view -/

@[simp] theorem get?_empty (k : Key) : (empty : Cache ρ).get? k = none := rfl

theorem get?_insert (c : Cache ρ) {k : Key} (r : ρ) (h : c.get? k = none) (j : Key) :
    (c.insert k r h).get? j = if j = k then some r else c.get? j := by
  by_cases hj : j = k
  · simp [get?, insert, hj]
  · have hne : (j == k) = false := by simp [hj]
    simp [get?, insert, List.lookup_cons, hj, hne]

theorem get?_erase (c : Cache ρ) (k j : Key) :
    (c.erase k).get? j = if j = k then none else c.get? j := by
  obtain ⟨entries, hnodup⟩ := c
  simp only [get?, erase]
  clear hnodup
  induction entries with
  | nil => simp
  | cons e es ih =>
    obtain ⟨k', r⟩ := e
    by_cases hk : k' = k
    · by_cases hj : j = k
      · simpa [hk, hj] using ih
      · have hne : (j == k) = false := by simp [hj]
        simpa [hk, hj, List.lookup_cons, hne] using ih
    · by_cases hjk : j = k'
      · have hne : j ≠ k := fun h => hk (hjk ▸ h)
        simp [hk, hjk]
      · have hne : (j == k') = false := by simp [hjk]
        simpa [hk, List.lookup_cons, hne] using ih

end Cache

end Delegation
