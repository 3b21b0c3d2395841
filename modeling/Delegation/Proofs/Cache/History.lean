import Delegation.Proofs.Cache.Operations
import Mathlib.Algebra.Ring.Nat
import Mathlib.Data.List.Induction
/-!
# A cache and its history

What a cache answers is determined by what happened to it.  A history is the list of the calls that
were made, each with its answer; `Current` reads off it which runner belongs to a key, and the
three counts at the end of the second section read off it how many entries there are.  Neither
mentions the cache.

The main statement, `performAll_lawful`, says of every history of an initially empty cache that the
next call, whichever it is, is answered as `Lawful` demands of that history.
-/

namespace Delegation.Cache

variable {σ ε ρ : Type}

/-! ### Calls and answers -/

/-- A call on a cache. -/
inductive Call (σ ε ρ : Type) where
  /-- Get the runner under a key, built and added if there is none. -/
  | getOrInsert (k : Key) (build : σ → Exit ε ρ × σ)
  /-- Get the runner under a key. -/
  | get (k : Key)
  /-- Ask whether there is a runner under a key. -/
  | contains (k : Key)
  /-- Ask for the number of entries. -/
  | size
  /-- Ask for the keys. -/
  | keys
  /-- Remove a key. -/
  | remove (k : Key)
  /-- Remove all keys. -/
  | clear

/-- The answer to a call. -/
inductive Answer (ε ρ : Type) where
  /-- How an insertion ended, and how often it called its builder. -/
  | insertion (exit : Exit ε ρ) (builderCalls : Nat)
  /-- The runner that was found. -/
  | runner (found : Option ρ)
  /-- Yes or no. -/
  | decision (holds : Bool)
  /-- A number of entries. -/
  | count (n : Nat)
  /-- Keys. -/
  | keys (ks : List Key)

/-- Make a call on a cache of the shared state. -/
def Call.perform (c : CacheId) : Call σ ε ρ → World σ ρ → Answer ε ρ × World σ ρ
  | getOrInsert k build, w =>
    let r := w.getOrInsert c k build
    (.insertion r.1 (w.builderCalls c k build), r.2)
  | get k, w => (.runner ((w.caches c).get? k), w)
  | contains k, w => (.decision ((w.caches c).contains k), w)
  | size, w => (.count (w.caches c).size, w)
  | keys, w => (.keys (w.caches c).keys, w)
  | remove k, w =>
    let r := w.removeKey c k
    (.decision r.1, r.2)
  | clear, w =>
    let r := w.clearCache c
    (.count r.1, r.2)

/-- A call that was made, and its answer. -/
structure Event (σ ε ρ : Type) where
  /-- The call. -/
  call : Call σ ε ρ
  /-- The answer. -/
  answer : Answer ε ρ

/-- Make several calls in order. -/
def performAll (c : CacheId) : List (Call σ ε ρ) → World σ ρ → List (Event σ ε ρ) × World σ ρ
  | [], w => ([], w)
  | call :: calls, w =>
    let r := call.perform c w
    let later := performAll c calls r.2
    (⟨call, r.1⟩ :: later.1, later.2)

lemma performAll_concat (c : CacheId) (calls : List (Call σ ε ρ)) (call : Call σ ε ρ)
    (w : World σ ρ) :
    performAll c (calls ++ [call]) w =
      ((performAll c calls w).1 ++ [⟨call, (call.perform c (performAll c calls w).2).1⟩],
        (call.perform c (performAll c calls w).2).2) := by
  induction calls generalizing w with
  | nil => rfl
  | cons first calls ih => simp only [List.cons_append, performAll, ih]

/-! ### What a history tells -/

namespace Event

/-- The call built a runner under a key. -/
def Builds (e : Event σ ε ρ) (k : Key) (r : ρ) : Prop :=
  (∃ build, e.call = .getOrInsert k build) ∧ e.answer = .insertion (.returned r) 1

/-- The call took away whatever was under a key. -/
def Drops (e : Event σ ε ρ) (k : Key) : Prop :=
  e.call = .remove k ∨ e.call = .clear

/-- One for a build that gave a runner. -/
def built : Event σ ε ρ → Nat
  | ⟨.getOrInsert _ _, .insertion (.returned _) 1⟩ => 1
  | _ => 0

/-- One for a removal of a key that was there. -/
def removed : Event σ ε ρ → Nat
  | ⟨.remove _, .decision true⟩ => 1
  | _ => 0

/-- The answer of a call that removed all keys. -/
def cleared : Event σ ε ρ → Nat
  | ⟨.clear, .count n⟩ => n
  | _ => 0

end Event

/-- The runner is what the last successful build for the key gave, and since then the key was not
removed, alone or with all others. -/
def Current (h : List (Event σ ε ρ)) (k : Key) (r : ρ) : Prop :=
  ∃ before e after, h = before ++ e :: after ∧ e.Builds k r ∧
    ∀ e' ∈ after, ¬ e'.Drops k ∧ ∀ r', ¬ e'.Builds k r'

/-- The sum of a count over a history. -/
def total (count : Event σ ε ρ → Nat) (h : List (Event σ ε ρ)) : Nat :=
  (h.map count).sum

/-- What a history demands of the call that is made next on a cache of the shared state `w`. -/
structure Lawful (c : CacheId) (h : List (Event σ ε ρ)) (w : World σ ρ) : Prop where
  /-- An insertion under a key with a runner returns that runner, does not call its builder, and
  changes nothing. -/
  present : ∀ k r build, Current h k r →
    (Call.getOrInsert k build : Call σ ε ρ).perform c w = (.insertion (.returned r) 0, w)
  /-- An insertion under a key without a runner calls its builder once and ends as the builder
  does: with its runner, with its error, or with its panic. -/
  absent : ∀ k build, (∀ r, ¬ Current h k r) →
    ((Call.getOrInsert k build : Call σ ε ρ).perform c w).1 = .insertion (build w.outside).1 1
  /-- An insertion that gives no runner leaves all later answers as if it had not been made; what
  its builder did to the state outside is the builder's own affair. -/
  without_runner : ∀ k build,
    (∀ r n, ((Call.getOrInsert k build : Call σ ε ρ).perform c w).1 ≠ .insertion (.returned r) n) →
    ∀ later : List (Call σ ε ρ),
      (performAll c later ((Call.getOrInsert k build : Call σ ε ρ).perform c w).2).1 =
        (performAll c later { w with outside := (build w.outside).2 }).1
  /-- The runner under a key is the current one. -/
  get : ∀ k, ∃ found, (Call.get k : Call σ ε ρ).perform c w = (.runner found, w) ∧
    ∀ r, found = some r ↔ Current h k r
  /-- A key is there exactly when it has a current runner. -/
  contains : ∀ k, ∃ holds, (Call.contains k : Call σ ε ρ).perform c w = (.decision holds, w) ∧
    (holds = true ↔ ∃ r, Current h k r)
  /-- A removal tells whether the key was there, and leaves all other keys alone. -/
  remove : ∀ k, ∃ holds w', (Call.remove k : Call σ ε ρ).perform c w = (.decision holds, w') ∧
    (holds = true ↔ ∃ r, Current h k r) ∧
    ∀ j, j ≠ k → ((Call.get j : Call σ ε ρ).perform c w').1 =
      ((Call.get j : Call σ ε ρ).perform c w).1
  /-- Removing all keys tells how many there were. -/
  clear : (Call.clear : Call σ ε ρ).perform c w =
    (((Call.size : Call σ ε ρ).perform c w).1, w.setCache c .empty)
  /-- The keys are listed without repetitions, and the size is their number. -/
  keys : ∃ ks, (Call.keys : Call σ ε ρ).perform c w = (.keys ks, w) ∧ ks.Nodup ∧
    (∀ k, k ∈ ks ↔ ∃ r, Current h k r) ∧
    (Call.size : Call σ ε ρ).perform c w = (.count ks.length, w)
  /-- The size is what was built, less what was removed. -/
  size : ∃ n, (Call.size : Call σ ε ρ).perform c w = (.count n, w) ∧
    n + total Event.removed h + total Event.cleared h = total Event.built h

/-! ### Histories that grow by one call -/

lemma current_concat {h : List (Event σ ε ρ)} {e : Event σ ε ρ} {k : Key} {r : ρ} :
    Current (h ++ [e]) k r ↔
      e.Builds k r ∨ (Current h k r ∧ ¬ e.Drops k ∧ ∀ r', ¬ e.Builds k r') := by
  constructor
  · rintro ⟨before, e', after, heq, hbuilds, hafter⟩
    -- The build that decides is the last call or lies before it.
    rcases List.eq_nil_or_concat after with rfl | ⟨after, last, rfl⟩
    · obtain ⟨-, he⟩ := List.append_inj' heq rfl
      cases he
      exact Or.inl hbuilds
    · have hlast : h ++ [e] = (before ++ e' :: after) ++ [last] := by simpa using heq
      obtain ⟨hh, he⟩ := List.append_inj' hlast rfl
      cases he
      obtain ⟨hdrops, hother⟩ := hafter e (by simp)
      refine Or.inr ⟨⟨before, e', after, hh, hbuilds, ?_⟩, hdrops, hother⟩
      intro e'' he''
      exact hafter e'' (by simp [he''])
  · rintro (hbuilds | ⟨⟨before, e', after, rfl, hbuilds, hafter⟩, hdrops, hother⟩)
    · exact ⟨h, e, [], rfl, hbuilds, by simp⟩
    · refine ⟨before, e', after ++ [e], by simp, hbuilds, ?_⟩
      intro e'' he''
      rcases List.mem_append.mp he'' with he'' | he''
      · exact hafter e'' he''
      · rw [List.mem_singleton.mp he'']
        exact ⟨hdrops, hother⟩

@[simp] lemma not_current_nil (k : Key) (r : ρ) : ¬ Current ([] : List (Event σ ε ρ)) k r := by
  rintro ⟨before, e, after, heq, -, -⟩
  simp at heq

@[simp] lemma total_nil (count : Event σ ε ρ → Nat) : total count [] = 0 := rfl

@[simp] lemma total_concat (count : Event σ ε ρ → Nat) (h : List (Event σ ε ρ))
    (e : Event σ ε ρ) : total count (h ++ [e]) = total count h + count e := by
  simp [total]

/-! ### The invariant -/

/-- A cache is what its history says: its entries are the current runners, and its size is what was
built less what was removed. -/
structure Follows (c : CacheId) (h : List (Event σ ε ρ)) (w : World σ ρ) : Prop where
  /-- The entries are the current runners. -/
  entries : ∀ k r, (w.caches c).get? k = some r ↔ Current h k r
  /-- The entries are as many as were built and not removed. -/
  size : (w.caches c).size + total Event.removed h + total Event.cleared h = total Event.built h

variable {c : CacheId} {h : List (Event σ ε ρ)} {w : World σ ρ}

lemma follows_nil (hempty : w.caches c = .empty) : Follows c ([] : List (Event σ ε ρ)) w where
  entries k r := by simp [hempty]
  size := by simp [hempty]

/-- A call that neither builds nor takes away leaves everything as it was. -/
lemma Follows.concat_of_idle (hf : Follows c h w) {e : Event σ ε ρ} {w' : World σ ρ}
    (hcache : w'.caches c = w.caches c) (hbuilds : ∀ k r, ¬ e.Builds k r)
    (hdrops : ∀ k, ¬ e.Drops k) (hbuilt : e.built = 0) (hremoved : e.removed = 0)
    (hcleared : e.cleared = 0) : Follows c (h ++ [e]) w' where
  entries k r := by
    rw [current_concat, hcache, hf.entries]
    constructor
    · intro hcurrent
      exact Or.inr ⟨hcurrent, hdrops k, hbuilds k⟩
    · rintro (hb | ⟨hcurrent, -, -⟩)
      · exact absurd hb (hbuilds k r)
      · exact hcurrent
  size := by
    have hsize := hf.size
    rw [total_concat, total_concat, total_concat, hcache]
    omega

lemma Follows.getOrInsert (hf : Follows c h w) (k : Key) (build : σ → Exit ε ρ × σ) :
    Follows c (h ++ [⟨.getOrInsert k build, ((Call.getOrInsert k build).perform c w).1⟩])
      ((Call.getOrInsert k build : Call σ ε ρ).perform c w).2 := by
  simp only [Call.perform]
  cases hk : (w.caches c).get? k with
  | some r =>
    rw [World.getOrInsert_of_some hk, World.builderCalls_of_some hk]
    refine hf.concat_of_idle rfl ?_ ?_ rfl rfl rfl
    · simp [Event.Builds]
    · simp [Event.Drops]
  | none =>
    rw [World.builderCalls_of_none hk]
    -- Only a builder that returns changes the cache.
    rcases (build w.outside).1.returned_or_not with ⟨r, hr⟩ | hnot
    · rw [World.getOrInsert_of_returned hk (Prod.ext hr rfl)]
      refine ⟨?_, ?_⟩
      · intro j r'
        rw [current_concat]
        simp only [World.setCache_caches, get?_insert, Event.Builds, Event.Drops]
        by_cases hj : j = k
        · subst hj
          simp
        · simp [hj, Ne.symm hj, hf.entries]
      · have hsize := hf.size
        simp only [World.setCache_caches, size_insert, total_concat, Event.built, Event.removed,
          Event.cleared]
        omega
    · rw [World.getOrInsert_of_not_returned hk hnot]
      refine hf.concat_of_idle rfl ?_ ?_ ?_ rfl rfl
      · intro j r hb
        have hr := hb.2
        simp only [Answer.insertion.injEq] at hr
        exact hnot r hr.1
      · simp [Event.Drops]
      · cases hb : (build w.outside).1 with
        | returned r => exact absurd hb (hnot r)
        | failed e => rfl
        | panicked m => rfl

lemma Follows.remove (hf : Follows c h w) (k : Key) :
    Follows c (h ++ [⟨.remove k, ((Call.remove k : Call σ ε ρ).perform c w).1⟩])
      ((Call.remove k : Call σ ε ρ).perform c w).2 := by
  simp only [Call.perform, World.removeKey]
  refine ⟨?_, ?_⟩
  · intro j r
    rw [current_concat]
    simp only [World.setCache_caches, get?_erase, Event.Builds, Event.Drops]
    by_cases hj : j = k
    · simp [hj]
    · simp [hj, Ne.symm hj, hf.entries]
  · have hsize := hf.size
    have herase := size_erase (w.caches c) k
    simp only [World.setCache_caches, total_concat, Event.built, Event.cleared]
    cases hk : (w.caches c).contains k with
    | true =>
      simp only [hk, if_true, Event.removed] at herase ⊢
      omega
    | false =>
      simp only [hk, Event.removed, Bool.false_eq_true, if_false] at herase ⊢
      omega

lemma Follows.clear (hf : Follows c h w) :
    Follows c (h ++ [⟨.clear, ((Call.clear : Call σ ε ρ).perform c w).1⟩])
      ((Call.clear : Call σ ε ρ).perform c w).2 := by
  simp only [Call.perform, World.clearCache]
  refine ⟨?_, ?_⟩
  · intro j r
    rw [current_concat]
    simp [Event.Builds, Event.Drops]
  · have hsize := hf.size
    simp only [World.setCache_caches, size_empty, total_concat, Event.built, Event.removed,
      Event.cleared]
    omega

/-- **One call keeps the invariant**, whichever call it is. -/
lemma Follows.concat (hf : Follows c h w) (call : Call σ ε ρ) :
    Follows c (h ++ [⟨call, (call.perform c w).1⟩]) (call.perform c w).2 := by
  cases call with
  | getOrInsert k build => exact hf.getOrInsert k build
  | remove k => exact hf.remove k
  | clear => exact hf.clear
  | _ =>
    refine hf.concat_of_idle rfl ?_ ?_ rfl rfl rfl
    · simp [Event.Builds]
    · simp [Event.Drops]

/-- A whole history keeps the invariant. -/
lemma follows_performAll (hempty : w.caches c = .empty) (calls : List (Call σ ε ρ)) :
    Follows c (performAll c calls w).1 (performAll c calls w).2 := by
  induction calls using List.reverseRecOn with
  | nil => exact follows_nil hempty
  | append_singleton calls call ih =>
    rw [performAll_concat]
    exact ih.concat call

/-! ### What follows from the invariant -/

lemma Follows.absent_iff (hf : Follows c h w) {k : Key} :
    (∀ r, ¬ Current h k r) ↔ (w.caches c).get? k = none := by
  rw [Option.eq_none_iff_forall_ne_some]
  exact forall_congr' fun r => not_congr (hf.entries k r).symm

lemma Follows.present_iff (hf : Follows c h w) {k : Key} :
    (∃ r, (w.caches c).get? k = some r) ↔ ∃ r, Current h k r :=
  exists_congr fun r => hf.entries k r

lemma Follows.lawful (hf : Follows c h w) : Lawful c h w where
  present k r build hcurrent := by
    have hk := (hf.entries k r).mpr hcurrent
    simp only [Call.perform, World.getOrInsert_of_some hk, World.builderCalls_of_some hk]
  absent k build hnone := by
    have hk := hf.absent_iff.mp hnone
    simp only [Call.perform, World.getOrInsert_fst_of_none hk, World.builderCalls_of_none hk]
  without_runner k build hno later := by
    cases hk : (w.caches c).get? k with
    | some r =>
      refine absurd ?_ (hno r 0)
      simp only [Call.perform, World.getOrInsert_of_some hk, World.builderCalls_of_some hk]
    | none =>
      have hnot : ∀ r, (build w.outside).1 ≠ .returned r := by
        intro r hr
        refine hno r 1 ?_
        simp only [Call.perform, World.getOrInsert_fst_of_none hk, World.builderCalls_of_none hk,
          hr]
      simp only [Call.perform, World.getOrInsert_of_not_returned hk hnot]
  get k := ⟨_, rfl, hf.entries k⟩
  contains k := ⟨_, rfl, contains_iff.trans hf.present_iff⟩
  remove k := by
    refine ⟨_, _, rfl, contains_iff.trans hf.present_iff, ?_⟩
    intro j hj
    simp only [Call.perform, World.removeKey, World.setCache_caches, get?_erase, if_neg hj]
  clear := rfl
  keys := by
    refine ⟨_, rfl, (w.caches c).keys_nodup, ?_, ?_⟩
    · intro k
      exact mem_keys_iff.trans hf.present_iff
    · simp only [Call.perform, length_keys]
  size := ⟨_, rfl, hf.size⟩

/-- **The history law.**  After any calls on a cache that was empty, every further call is answered
as the history of those calls demands. -/
theorem performAll_lawful (c : CacheId) {w : World σ ρ} (hempty : w.caches c = .empty)
    (calls : List (Call σ ε ρ)) :
    Lawful c (performAll c calls w).1 (performAll c calls w).2 :=
  (follows_performAll hempty calls).lawful

/-- A builder runs, its runner is removed, a second builder fails, and a third one is what the key
holds in the end. -/
theorem lawful_after_failed_rebuild :
    let w : World Nat Nat := World.start ⟨0⟩ 0
    let calls : List (Call Nat String Nat) :=
      [.getOrInsert ⟨[1]⟩ fun s => (.returned 7, s + 1), .remove ⟨[1]⟩,
        .getOrInsert ⟨[1]⟩ fun s => (.failed "no", s + 1),
        .getOrInsert ⟨[1]⟩ fun s => (.returned s, s)]
    w.caches .global = .empty ∧
      Lawful .global (performAll .global calls w).1 (performAll .global calls w).2 ∧
      (((Call.get ⟨[1]⟩ : Call Nat String Nat).perform .global
        (performAll .global calls w).2).1 = .runner (some 2)) :=
  ⟨rfl, performAll_lawful .global rfl _, rfl⟩

end Delegation.Cache
