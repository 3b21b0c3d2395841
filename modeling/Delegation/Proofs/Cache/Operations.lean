import Delegation.World
import Mathlib.Tactic.Common
/-!
# What the operations on a cache do

The three ways in which an insertion goes, first for a cache by itself and then for a cache of the
shared state, and what each operation does to the entries, to the keys and to the size.  Later
files use these statements and do not open the operations.

How often an insertion calls its builder is measured from outside: the builder is given a counter
that it turns at each call (`counted`), and `World.builderCalls` reads the counter.
-/

namespace Delegation

variable {σ ρ ε : Type}

/-- A call of outside code returned or did not.  Errors and panics are alike to a cache. -/
lemma Exit.returned_or_not (e : Exit ε ρ) : (∃ r, e = .returned r) ∨ ∀ r, e ≠ .returned r := by
  cases e with
  | returned r => exact Or.inl ⟨r, rfl⟩
  | failed e => exact Or.inr fun r h => by cases h
  | panicked m => exact Or.inr fun r h => by cases h

/-! ### Keys and size -/

namespace Cache

lemma mem_keys_iff {c : Cache ρ} {k : Key} : k ∈ c.keys ↔ ∃ r, c.get? k = some r := by
  have h : c.get? k = none ↔ k ∉ c.keys := lookup_eq_none_iff
  rw [← not_iff_not, ← h, not_exists]
  constructor
  · intro hnone r hr
    rw [hnone] at hr
    cases hr
  · intro hnone
    exact Option.eq_none_iff_forall_ne_some.mpr hnone

lemma contains_iff {c : Cache ρ} {k : Key} : c.contains k = true ↔ ∃ r, c.get? k = some r := by
  rw [contains, Option.isSome_iff_exists]

lemma length_keys (c : Cache ρ) : c.keys.length = c.size := by
  simp [keys, size]

@[simp] lemma size_empty : (empty : Cache ρ).size = 0 := rfl

@[simp] lemma size_insert (c : Cache ρ) (k : Key) (r : ρ) (h : c.get? k = none) :
    (c.insert k r h).size = c.size + 1 := rfl

/-- Erasing takes away the one entry under the key, or nothing. -/
lemma size_erase (c : Cache ρ) (k : Key) :
    (c.erase k).size + (if c.contains k then 1 else 0) = c.size := by
  -- As the keys do not repeat, the entries under `k` are counted through the keys.
  have hpresent : c.keys.count k = if c.contains k then 1 else 0 := by
    have hnodup : c.keys.Nodup := c.keys_nodup
    rw [hnodup.count]
    simp only [contains_iff, ← mem_keys_iff]
  have hcount : c.entries.countP (fun e => e.1 = k) = c.keys.count k := by
    rw [keys, List.count, List.countP_map]
    congr 1
  have herase : (c.erase k).size = c.entries.countP fun e => ¬ decide (e.1 = k) := by
    simp [erase, size, List.countP_eq_length_filter]
  have hsize : c.size = c.entries.countP (fun e => e.1 = k) +
      c.entries.countP fun e => ¬ decide (e.1 = k) :=
    List.length_eq_countP_add_countP _
  omega

/-! ### Inserting -/

/-- An insertion under a key that has an entry returns the entry and does nothing else. -/
lemma getOrInsert_of_some {c : Cache ρ} {k : Key} {r : ρ} (h : c.get? k = some r)
    (build : σ → Exit ε ρ × σ) (s : σ) : c.getOrInsert k build s = (.returned r, c, s) := by
  rw [getOrInsert]
  split
  · rename_i r' h'
    rw [h] at h'
    cases h'
    rfl
  · rename_i h'
    rw [h] at h'
    cases h'

/-- An insertion under a key without an entry adds what its builder returns. -/
lemma getOrInsert_of_returned {c : Cache ρ} {k : Key} (h : c.get? k = none)
    {build : σ → Exit ε ρ × σ} {s s' : σ} {r : ρ} (hbuild : build s = (.returned r, s')) :
    c.getOrInsert k build s = (.returned r, c.insert k r h, s') := by
  rw [getOrInsert]
  split
  · rename_i r' h'
    rw [h] at h'
    cases h'
  · rw [hbuild]

/-- A builder that does not return leaves the cache as it was, and its end is the end of the
insertion. -/
lemma getOrInsert_of_not_returned {c : Cache ρ} {k : Key} (h : c.get? k = none)
    {build : σ → Exit ε ρ × σ} {s : σ} (hbuild : ∀ r, (build s).1 ≠ .returned r) :
    c.getOrInsert k build s = ((build s).1, c, (build s).2) := by
  rw [getOrInsert]
  split
  · rename_i r' h'
    rw [h] at h'
    cases h'
  · generalize hb : build s = b at hbuild
    obtain ⟨_ | e | m, s'⟩ := b
    · exact absurd rfl (hbuild _)
    · rfl
    · rfl

end Cache

/-- A builder that turns a counter at each call. -/
def counted (build : σ → Exit ε ρ × σ) : σ × Nat → Exit ε ρ × σ × Nat :=
  fun s =>
    let r := build s.1
    (r.1, r.2, s.2 + 1)

namespace World

@[simp] lemma setCache_caches (w : World σ ρ) (c : CacheId) (cache : Cache ρ) :
    (w.setCache c cache).caches c = cache := by
  simp [setCache]

lemma setCache_self (w : World σ ρ) (c : CacheId) : w.setCache c (w.caches c) = w := by
  have h : setAt w.caches c (w.caches c) = w.caches := by
    funext d
    by_cases hd : d = c
    · rw [hd, setAt_self]
    · rw [setAt_of_ne _ _ hd]
  rw [setCache, h]

/-- How often an insertion calls its builder, by a counter that the builder turns. -/
def builderCalls (w : World σ ρ) (c : CacheId) (k : Key) (build : σ → Exit ε ρ × σ) : Nat :=
  ((w.caches c).getOrInsert k (counted build) (w.outside, 0)).2.2.2

lemma getOrInsert_of_some {w : World σ ρ} {c : CacheId} {k : Key} {r : ρ}
    (h : (w.caches c).get? k = some r) (build : σ → Exit ε ρ × σ) :
    w.getOrInsert c k build = (.returned r, w) := by
  rw [getOrInsert, Cache.getOrInsert_of_some h]
  simp only [setCache_self]

lemma getOrInsert_of_returned {w : World σ ρ} {c : CacheId} {k : Key}
    (h : (w.caches c).get? k = none) {build : σ → Exit ε ρ × σ} {s : σ} {r : ρ}
    (hbuild : build w.outside = (.returned r, s)) :
    w.getOrInsert c k build =
      (.returned r, { w.setCache c ((w.caches c).insert k r h) with outside := s }) := by
  rw [getOrInsert, Cache.getOrInsert_of_returned h hbuild]

lemma getOrInsert_of_not_returned {w : World σ ρ} {c : CacheId} {k : Key}
    (h : (w.caches c).get? k = none) {build : σ → Exit ε ρ × σ}
    (hbuild : ∀ r, (build w.outside).1 ≠ .returned r) :
    w.getOrInsert c k build =
      ((build w.outside).1, { w with outside := (build w.outside).2 }) := by
  rw [getOrInsert, Cache.getOrInsert_of_not_returned h hbuild]
  simp only [setCache_self]

lemma builderCalls_of_some {w : World σ ρ} {c : CacheId} {k : Key} {r : ρ}
    (h : (w.caches c).get? k = some r) (build : σ → Exit ε ρ × σ) :
    w.builderCalls c k build = 0 := by
  rw [builderCalls, Cache.getOrInsert_of_some h]

lemma builderCalls_of_none {w : World σ ρ} {c : CacheId} {k : Key}
    (h : (w.caches c).get? k = none) (build : σ → Exit ε ρ × σ) :
    w.builderCalls c k build = 1 := by
  rcases (build w.outside).1.returned_or_not with ⟨r, hr⟩ | hnot
  · have hcounted : counted build (w.outside, 0) = (.returned r, (build w.outside).2, 0 + 1) := by
      rw [counted, hr]
    rw [builderCalls, Cache.getOrInsert_of_returned h hcounted]
  · have hcounted : ∀ r, (counted build (w.outside, 0)).1 ≠ .returned r := hnot
    rw [builderCalls, Cache.getOrInsert_of_not_returned h hcounted]
    rfl

/-- What an insertion ends with when there is no entry: the end of its builder. -/
lemma getOrInsert_fst_of_none {w : World σ ρ} {c : CacheId} {k : Key}
    (h : (w.caches c).get? k = none) (build : σ → Exit ε ρ × σ) :
    (w.getOrInsert c k build).1 = (build w.outside).1 := by
  rcases (build w.outside).1.returned_or_not with ⟨r, hr⟩ | hnot
  · rw [getOrInsert_of_returned h (Prod.ext hr rfl), hr]
  · rw [getOrInsert_of_not_returned h hnot]

/-- What an insertion does outside when there is no entry: what its builder does. -/
lemma getOrInsert_outside_of_none {w : World σ ρ} {c : CacheId} {k : Key}
    (h : (w.caches c).get? k = none) (build : σ → Exit ε ρ × σ) :
    (w.getOrInsert c k build).2.outside = (build w.outside).2 := by
  rcases (build w.outside).1.returned_or_not with ⟨r, hr⟩ | hnot
  · rw [getOrInsert_of_returned h (Prod.ext hr rfl)]
  · rw [getOrInsert_of_not_returned h hnot]

/-- The entries after an insertion: those before it, and the one that was built. -/
lemma get?_getOrInsert (w : World σ ρ) (c : CacheId) (k : Key) (build : σ → Exit ε ρ × σ)
    (j : Key) (r : ρ) :
    ((w.getOrInsert c k build).2.caches c).get? j = some r ↔
      (w.caches c).get? j = some r ∨
        (j = k ∧ (w.caches c).get? k = none ∧ (build w.outside).1 = .returned r) := by
  cases h : (w.caches c).get? k with
  | some r' =>
    rw [getOrInsert_of_some h]
    simp
  | none =>
    rcases (build w.outside).1.returned_or_not with ⟨r', hr'⟩ | hnot
    · rw [getOrInsert_of_returned h (Prod.ext hr' rfl)]
      simp only [setCache_caches, Cache.get?_insert, hr', Exit.returned.injEq, true_and]
      by_cases hj : j = k
      · simp [hj, h]
      · simp [hj]
    · rw [getOrInsert_of_not_returned h hnot]
      constructor
      · exact Or.inl
      · rintro (hr | ⟨-, -, hr⟩)
        · exact hr
        · exact absurd hr (hnot r)

/-- What an insertion returns is the entry afterwards, whether it was found or built. -/
lemma get?_of_getOrInsert {w : World σ ρ} {c : CacheId} {k : Key} {build : σ → Exit ε ρ × σ}
    {r : ρ} (h : (w.getOrInsert c k build).1 = .returned r) :
    ((w.getOrInsert c k build).2.caches c).get? k = some r := by
  rw [get?_getOrInsert]
  cases hget : (w.caches c).get? k with
  | some r' =>
    rw [getOrInsert_of_some hget] at h
    exact Or.inl (congrArg some (Exit.returned.inj h))
  | none =>
    rw [getOrInsert_fst_of_none hget] at h
    exact Or.inr ⟨rfl, rfl, h⟩

/-- No insertion takes an entry away or changes it. -/
lemma get?_getOrInsert_of_some {w : World σ ρ} {c : CacheId} {j : Key} {r : ρ}
    (h : (w.caches c).get? j = some r) (k : Key) (build : σ → Exit ε ρ × σ) :
    ((w.getOrInsert c k build).2.caches c).get? j = some r :=
  (get?_getOrInsert w c k build j r).mpr (Or.inl h)

end World

end Delegation
