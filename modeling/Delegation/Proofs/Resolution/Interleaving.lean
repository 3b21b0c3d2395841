import Delegation.Proofs.Resolution.Calls
/-!
# Resolutions that overlap

A resolution is three operations on the cache, and what the first two of them found may be out of
date when the third one runs.  Here any number of resolutions advance in any order, one operation at
a time, and other users of the cache insert runners in between; nobody removes keys.  That a
resolution which is left alone is `Context.resolve` is `Job.advance_resolve`.

The invariant is `Sound`: a resolution that has returned a runner has it from one of its two keys,
and no key has seen more than one successful compiler call, and none as long as it is without an
entry.  Together with the fact that entries stay (`run_entry`) it gives the main statement,
`run_agrees`.
-/

namespace Delegation.Interleaving

variable {ι σ ε ρ η : Type}

/-! ### One resolution, one operation at a time -/

/-- How far a resolution has come. -/
inductive Phase (ρ : Type) where
  /-- It has not begun. -/
  | waiting
  /-- It has found nothing under the identity of the subgraph. -/
  | identityMissed
  /-- It has found nothing under the name of the kind either. -/
  | nameMissed
  /-- It has come to its end. -/
  | finished (exit : Exit RunError ρ)
deriving DecidableEq

/-- A resolution to be carried out. -/
structure Job (σ ρ η : Type) where
  /-- The context that resolves. -/
  context : Context σ ρ η
  /-- The node that is resolved. -/
  node : Node

namespace Job

/-- The next operation of a resolution: the phase and the shared state after it. -/
def advance (j : Job σ ρ η) (p : Phase ρ) (w : World σ ρ) : Phase ρ × World σ ρ :=
  match p, j.node.subgraph with
  | .finished exit, _ => (.finished exit, w)
  | _, none => (.finished (.failed (.missingSubgraph j.node.kind)), w)
  | .waiting, some g =>
    match j.context.lookupIdentity g w with
    | some r => (.finished (.returned r), w)
    | none => (.identityMissed, w)
  | .identityMissed, some _ =>
    match j.context.lookupName j.node.kind w with
    | some r => (.finished (.returned r), w)
    | none => (.nameMissed, w)
  | .nameMissed, some g =>
    let r := j.context.buildIdentity g w
    (.finished r.1, r.2)

/-- The compiler calls of the next operation of a resolution. -/
def calls (j : Job σ ρ η) (p : Phase ρ) (w : World σ ρ) : List (FactoryCall ρ η) :=
  match p, j.node.subgraph with
  | .nameMissed, some g => j.context.callsOfBuild g w
  | _, _ => []

/-- The runner is under one of the two keys of the node. -/
def Finds (j : Job σ ρ η) (r : ρ) (w : World σ ρ) : Prop :=
  ∃ g, j.node.subgraph = some g ∧
    (j.context.lookupIdentity g w = some r ∨ j.context.lookupName j.node.kind w = some r)

variable {j : Job σ ρ η} {g : Subgraph Node} {w : World σ ρ} {r : ρ}

@[simp] lemma advance_finished (exit : Exit RunError ρ) :
    j.advance (.finished exit) w = (.finished exit, w) := by
  simp only [advance]

lemma advance_of_missing {p : Phase ρ} (hg : j.node.subgraph = none)
    (hp : ∀ exit, p ≠ .finished exit) :
    j.advance p w = (.finished (.failed (.missingSubgraph j.node.kind)), w) := by
  cases p with
  | finished exit => exact absurd rfl (hp exit)
  | _ => simp only [advance, hg]

lemma advance_waiting_of_some (hg : j.node.subgraph = some g)
    (h : j.context.lookupIdentity g w = some r) :
    j.advance .waiting w = (.finished (.returned r), w) := by
  simp only [advance, hg, h]

lemma advance_waiting_of_none (hg : j.node.subgraph = some g)
    (h : j.context.lookupIdentity g w = none) : j.advance .waiting w = (.identityMissed, w) := by
  simp only [advance, hg, h]

lemma advance_identityMissed_of_some (hg : j.node.subgraph = some g)
    (h : j.context.lookupName j.node.kind w = some r) :
    j.advance .identityMissed w = (.finished (.returned r), w) := by
  simp only [advance, hg, h]

lemma advance_identityMissed_of_none (hg : j.node.subgraph = some g)
    (h : j.context.lookupName j.node.kind w = none) :
    j.advance .identityMissed w = (.nameMissed, w) := by
  simp only [advance, hg, h]

lemma advance_nameMissed (hg : j.node.subgraph = some g) :
    j.advance .nameMissed w =
      (.finished (j.context.buildIdentity g w).1, (j.context.buildIdentity g w).2) := by
  simp only [advance, hg]

lemma calls_nameMissed (hg : j.node.subgraph = some g) :
    j.calls .nameMissed w = j.context.callsOfBuild g w := by
  simp only [calls, hg]

/-- Only the last operation of a resolution changes the shared state and calls the compiler.  Every
other one can end the resolution with a runner only by finding it. -/
lemma advance_cases (j : Job σ ρ η) (p : Phase ρ) (w : World σ ρ) :
    (∃ g, j.node.subgraph = some g ∧ p = .nameMissed) ∨
      ((j.advance p w).2 = w ∧ j.calls p w = [] ∧
        ∀ r, (j.advance p w).1 = .finished (.returned r) →
          p = .finished (.returned r) ∨ j.Finds r w) := by
  cases hg : j.node.subgraph with
  | none =>
    cases p with
    | finished exit =>
      rw [advance_finished]
      exact Or.inr ⟨rfl, by simp only [calls], fun r hr => Or.inl hr⟩
    | _ =>
      rw [advance_of_missing hg (by simp)]
      refine Or.inr ⟨rfl, by simp only [calls, hg], ?_⟩
      intro r hr
      cases hr
  | some g =>
    cases p with
    | finished exit =>
      rw [advance_finished]
      exact Or.inr ⟨rfl, by simp only [calls], fun r hr => Or.inl hr⟩
    | waiting =>
      cases hi : j.context.lookupIdentity g w with
      | none =>
        rw [advance_waiting_of_none hg hi]
        refine Or.inr ⟨rfl, by simp only [calls], ?_⟩
        intro r hr
        cases hr
      | some r' =>
        rw [advance_waiting_of_some hg hi]
        refine Or.inr ⟨rfl, by simp only [calls], ?_⟩
        intro r hr
        cases hr
        exact Or.inr ⟨g, hg, Or.inl hi⟩
    | identityMissed =>
      cases hk : j.context.lookupName j.node.kind w with
      | none =>
        rw [advance_identityMissed_of_none hg hk]
        refine Or.inr ⟨rfl, by simp only [calls], ?_⟩
        intro r hr
        cases hr
      | some r' =>
        rw [advance_identityMissed_of_some hg hk]
        refine Or.inr ⟨rfl, by simp only [calls], ?_⟩
        intro r hr
        cases hr
        exact Or.inr ⟨g, hg, Or.inr hk⟩
    | nameMissed => exact Or.inl ⟨g, rfl, rfl⟩

/-- A resolution whose three operations follow one another directly ends as `Context.resolve`. -/
lemma advance_resolve (j : Job σ ρ η) (w : World σ ρ) :
    let first := j.advance .waiting w
    let second := j.advance first.1 first.2
    j.advance second.1 second.2 =
      (.finished (j.context.resolve j.node w).1, (j.context.resolve j.node w).2) := by
  cases hg : j.node.subgraph with
  | none =>
    have hwaiting : ∀ exit : Exit RunError ρ, Phase.waiting ≠ .finished exit := by simp
    simp only [advance_of_missing hg hwaiting, advance_finished, Context.resolve_of_missing hg]
  | some g =>
    cases hi : j.context.lookupIdentity g w with
    | some r =>
      simp only [advance_waiting_of_some hg hi, advance_finished,
        Context.resolve_of_identity hg hi]
    | none =>
      cases hk : j.context.lookupName j.node.kind w with
      | some r =>
        simp only [advance_waiting_of_none hg hi, advance_identityMissed_of_some hg hk,
          advance_finished, Context.resolve_of_name hg hi hk]
      | none =>
        simp only [advance_waiting_of_none hg hi, advance_identityMissed_of_none hg hk,
          advance_nameMissed hg, Context.resolve_of_absent hg hi hk]

end Job

/-! ### Many resolutions and other users of the cache -/

/-- The state of all resolutions. -/
structure State (ι σ ρ η : Type) where
  /-- The shared state. -/
  world : World σ ρ
  /-- How far each resolution has come. -/
  phase : ι → Phase ρ
  /-- The compiler calls of all resolutions so far. -/
  calls : List (FactoryCall ρ η)

/-- A single step of a run. -/
inductive Move (ι σ ε ρ : Type) where
  /-- A resolution carries out its next operation. -/
  | advance (i : ι)
  /-- Another user inserts a runner, as a preload does. -/
  | insert (k : Key) (build : σ → Exit ε ρ × σ)

/-- No resolution has begun. -/
def State.start (w : World σ ρ) : State ι σ ρ η :=
  ⟨w, fun _ => .waiting, []⟩

/-- The runner under a key of the shared cache. -/
def State.entry (s : State ι σ ρ η) (c : CacheId) (k : Key) : Option ρ :=
  (s.world.caches c).get? k

/-- A compiler call for a subgraph with this identity key gave a runner. -/
def succeeds (k : Key) (call : FactoryCall ρ η) : Bool :=
  decide (Key.identity call.request.subgraph.id = k) && call.exit.value?.isSome

section Runs

variable [DecidableEq ι] (c : CacheId) (job : ι → Job σ ρ η)

/-- The state after a move. -/
def step (s : State ι σ ρ η) : Move ι σ ε ρ → State ι σ ρ η
  | .advance i =>
    let next := (job i).advance (s.phase i) s.world
    ⟨next.2, setAt s.phase i next.1, s.calls ++ (job i).calls (s.phase i) s.world⟩
  | .insert k build => { s with world := (s.world.getOrInsert c k build).2 }

/-- The state after several moves. -/
def run (s : State ι σ ρ η) (moves : List (Move ι σ ε ρ)) : State ι σ ρ η :=
  moves.foldl (step c job) s

lemma run_cons (s : State ι σ ρ η) (m : Move ι σ ε ρ) (moves : List (Move ι σ ε ρ)) :
    run c job s (m :: moves) = run c job (step c job s m) moves := rfl

lemma run_append (s : State ι σ ρ η) (before after : List (Move ι σ ε ρ)) :
    run c job s (before ++ after) = run c job (run c job s before) after := by
  rw [run, run, run, List.foldl_append]

end Runs

variable {c : CacheId} {job : ι → Job σ ρ η} {s : State ι σ ρ η} {i : ι} {k : Key} {r : ρ}

/-! ### Entries stay, and so do ends -/

section Stay

variable [DecidableEq ι]

section Entries

variable (hshared : ∀ i, (job i).context.cache = c)

include hshared

lemma step_entry (h : s.entry c k = some r) (m : Move ι σ ε ρ) :
    (step c job s m).entry c k = some r := by
  cases m with
  | insert j build => exact World.get?_getOrInsert_of_some h j build
  | advance i =>
    simp only [step, State.entry]
    rcases (job i).advance_cases (s.phase i) s.world with ⟨g, hg, hp⟩ | ⟨hw, -, -⟩
    · rw [hp, Job.advance_nameMissed hg, Context.buildIdentity, hshared i]
      exact World.get?_getOrInsert_of_some h _ _
    · rw [hw]
      exact h

lemma run_entry (h : s.entry c k = some r) (moves : List (Move ι σ ε ρ)) :
    (run c job s moves).entry c k = some r := by
  induction moves generalizing s with
  | nil => exact h
  | cons m moves ih => exact ih (step_entry hshared h m)

/-- A key has at most one entry over a whole run. -/
lemma entry_unique {w : World σ ρ} {moves before : List (Move ι σ ε ρ)} (hbefore : before <+: moves)
    {r' : ρ} (hr' : (run c job (.start w) before).entry c k = some r')
    (hr : (run c job (.start w) moves).entry c k = some r) : r' = r := by
  obtain ⟨after, rfl⟩ := hbefore
  rw [run_append] at hr
  have hstay := run_entry hshared hr' after
  rw [hstay] at hr
  exact Option.some.inj hr

end Entries

lemma step_phase_of_ne {i' : ι} (h : i ≠ i') :
    (step c job s (.advance i' : Move ι σ ε ρ)).phase i = s.phase i := by
  simp only [step]
  exact setAt_of_ne _ _ h

lemma step_finished {exit : Exit RunError ρ} (h : s.phase i = .finished exit)
    (m : Move ι σ ε ρ) : (step c job s m).phase i = .finished exit := by
  cases m with
  | insert k build => exact h
  | advance i' =>
    by_cases hi : i = i'
    · subst hi
      simp only [step, setAt_self, h, Job.advance_finished]
    · rw [step_phase_of_ne hi, h]

lemma run_finished {exit : Exit RunError ρ} (h : s.phase i = .finished exit)
    (moves : List (Move ι σ ε ρ)) : (run c job s moves).phase i = .finished exit := by
  induction moves generalizing s with
  | nil => exact h
  | cons m moves ih => exact ih (step_finished h m)

/-- A resolution that begins when the identity of its subgraph has an entry returns that entry. -/
lemma run_of_entry (hshared : ∀ i, (job i).context.cache = c) {g : Subgraph Node}
    (hg : (job i).node.subgraph = some g) (hwaiting : s.phase i = .waiting)
    (hentry : s.entry c (.identity g.id) = some r) {moves : List (Move ι σ ε ρ)}
    (hi : .advance i ∈ moves) : (run c job s moves).phase i = .finished (.returned r) := by
  induction moves generalizing s with
  | nil => cases hi
  | cons m moves ih =>
    rw [run_cons]
    have hentry' := step_entry hshared hentry m
    cases m with
    | insert k build =>
      have hlater : Move.advance i ∈ moves := by simpa using hi
      exact ih hwaiting hentry' hlater
    | advance i' =>
      by_cases heq : i = i'
      · subst heq
        -- The first operation of the resolution finds the entry, and that is its end.
        have hfound : (job i).context.lookupIdentity g s.world = some r := by
          rw [Context.lookupIdentity, hshared i]
          exact hentry
        refine run_finished ?_ moves
        simp only [step, setAt_self, hwaiting, Job.advance_waiting_of_some hg hfound]
      · have hlater : Move.advance i ∈ moves := by simpa [heq] using hi
        refine ih ?_ hentry' hlater
        rw [step_phase_of_ne heq, hwaiting]

end Stay

/-! ### The invariant -/

/-- What every run keeps. -/
structure Sound (c : CacheId) (job : ι → Job σ ρ η) (s : State ι σ ρ η) : Prop where
  /-- A runner that was returned is under one of the two keys of its node. -/
  found : ∀ i r, s.phase i = .finished (.returned r) → (job i).Finds r s.world
  /-- At most one compiler call for a key gave a runner. -/
  once : ∀ k, s.calls.countP (succeeds k) ≤ 1
  /-- No compiler call for a key without an entry gave a runner. -/
  never : ∀ k, s.entry c k = none → s.calls.countP (succeeds k) = 0

lemma sound_start (c : CacheId) (job : ι → Job σ ρ η) (w : World σ ρ) :
    Sound c job (.start w : State ι σ ρ η) where
  found _ _ h := by cases h
  once _ := Nat.zero_le 1
  never _ _ := rfl

/-- The two places where the invariant finds a runner that was returned. -/
lemma Sound.entry_of_returned (hshared : ∀ i, (job i).context.cache = c)
    (hs : Sound c job s) (h : s.phase i = .finished (.returned r)) :
    ∃ g, (job i).node.subgraph = some g ∧
      (s.entry c (.identity g.id) = some r ∨
        s.entry c (.name (job i).node.kind.qualified) = some r) := by
  obtain ⟨g, hg, hkeys⟩ := hs.found i r h
  rw [Context.lookupIdentity, Context.lookupName, hshared i] at hkeys
  exact ⟨g, hg, hkeys⟩

/-- When the name of the kind has no entry, only the identity is left. -/
lemma Sound.identity_of_returned (hshared : ∀ i, (job i).context.cache = c)
    (hs : Sound c job s) {g : Subgraph Node} (hg : (job i).node.subgraph = some g)
    (hname : s.entry c (.name (job i).node.kind.qualified) = none)
    (h : s.phase i = .finished (.returned r)) : s.entry c (.identity g.id) = some r := by
  obtain ⟨g', hg', hidentity | hkind⟩ := Sound.entry_of_returned hshared hs h
  · rw [hg] at hg'
    cases hg'
    exact hidentity
  · rw [hname] at hkind
    cases hkind

/-- The last operation of a resolution has a successful compiler call only for a key that had no
entry before and has one afterwards. -/
lemma countP_callsOfBuild (ctx : Context σ ρ η) (g : Subgraph Node) (w : World σ ρ) (k : Key) :
    (ctx.callsOfBuild g w).countP (succeeds k) = 0 ∨
      ((ctx.callsOfBuild g w).countP (succeeds k) = 1 ∧ (w.caches ctx.cache).get? k = none ∧
        ((ctx.buildIdentity g w).2.caches ctx.cache).get? k ≠ none) := by
  cases hg : ctx.lookupIdentity g w with
  | some r =>
    rw [Context.callsOfBuild_of_some hg]
    exact Or.inl rfl
  | none =>
    rw [Context.callsOfBuild_of_none hg]
    cases hexit : (ctx.buildIdentity g w).1 with
    | failed e => exact Or.inl (by simp [succeeds, Exit.value?])
    | panicked m => exact Or.inl (by simp [succeeds, Exit.value?])
    | returned r =>
      by_cases hk : Key.identity g.id = k
      · subst hk
        refine Or.inr ⟨by simp [succeeds, Context.request, Exit.value?], hg, ?_⟩
        have hafter := Context.lookupIdentity_buildIdentity hexit
        rw [Context.lookupIdentity] at hafter
        rw [hafter]
        exact Option.some_ne_none r
      · exact Or.inl (by simp [succeeds, Context.request, hk])

section Moves

variable [DecidableEq ι] (hshared : ∀ i, (job i).context.cache = c)

include hshared

/-- What a resolution can find before a move it can find after it. -/
lemma Job.Finds.step (h : (job i).Finds r s.world) (m : Move ι σ ε ρ) :
    (job i).Finds r (step c job s m).world := by
  obtain ⟨g, hg, hkeys⟩ := h
  rw [Context.lookupIdentity, Context.lookupName, hshared i] at hkeys
  refine ⟨g, hg, ?_⟩
  rw [Context.lookupIdentity, Context.lookupName, hshared i]
  rcases hkeys with hidentity | hname
  · exact Or.inl (step_entry hshared hidentity m)
  · exact Or.inr (step_entry hshared hname m)

/-- A key without an entry had none before. -/
lemma entry_none_of_step {m : Move ι σ ε ρ} (h : (step c job s m).entry c k = none) :
    s.entry c k = none := by
  cases hbefore : s.entry c k with
  | none => rfl
  | some r =>
    rw [step_entry hshared hbefore m] at h
    cases h

lemma Sound.insert (hs : Sound c job s) (j : Key) (build : σ → Exit ε ρ × σ) :
    Sound c job (step c job s (.insert j build : Move ι σ ε ρ)) where
  found i r h := (hs.found i r h).step hshared (.insert j build)
  once := hs.once
  never k h := hs.never k (entry_none_of_step hshared h)

/-- The phases of the other resolutions are as before, and for the one that advances it remains to
see where its runner comes from. -/
lemma Sound.found_advance (hs : Sound c job s)
    (hnext : ∀ r, ((job i).advance (s.phase i) s.world).1 = .finished (.returned r) →
      (job i).Finds r ((job i).advance (s.phase i) s.world).2) (i' : ι) (r : ρ)
    (h : (step c job s (.advance i : Move ι σ ε ρ)).phase i' = .finished (.returned r)) :
    (job i').Finds r (step c job s (.advance i : Move ι σ ε ρ)).world := by
  by_cases heq : i' = i
  · subst heq
    simp only [step, setAt_self] at h
    exact hnext r h
  · rw [step_phase_of_ne heq] at h
    exact (hs.found i' r h).step hshared (.advance i)

/-- The cache may have changed since the first two operations of a resolution, but the last one looks
again. -/
lemma Sound.advance_last (hs : Sound c job s) {g : Subgraph Node}
    (hg : (job i).node.subgraph = some g) (hp : s.phase i = .nameMissed) :
    Sound c job (step c job s (.advance i : Move ι σ ε ρ)) := by
  have hcount := countP_callsOfBuild (job i).context g s.world
  rw [hshared i] at hcount
  refine ⟨hs.found_advance hshared ?_, ?_, ?_⟩
  · intro r h
    rw [hp, Job.advance_nameMissed hg] at h ⊢
    simp only [Phase.finished.injEq] at h
    exact ⟨g, hg, Or.inl (Context.lookupIdentity_buildIdentity h)⟩
  · intro k
    have honce := hs.once k
    simp only [step, hp, Job.calls_nameMissed hg, List.countP_append]
    -- A call can succeed only for a key without an entry, and for such a key none did before.
    rcases hcount k with hzero | ⟨hone, habsent, -⟩
    · omega
    · have hzero := hs.never k habsent
      omega
  · intro k hk
    have hzero := hs.never k (entry_none_of_step hshared hk)
    simp only [step, State.entry, hp, Job.advance_nameMissed hg] at hk
    simp only [step, hp, Job.calls_nameMissed hg, List.countP_append]
    rcases hcount k with hnew | ⟨-, -, hpresent⟩
    · omega
    · exact absurd hk hpresent

/-- Every other operation only looks. -/
lemma Sound.advance_look (hs : Sound c job s)
    (hw : ((job i).advance (s.phase i) s.world).2 = s.world)
    (hcalls : (job i).calls (s.phase i) s.world = [])
    (hfound : ∀ r, ((job i).advance (s.phase i) s.world).1 = .finished (.returned r) →
      s.phase i = .finished (.returned r) ∨ (job i).Finds r s.world) :
    Sound c job (step c job s (.advance i : Move ι σ ε ρ)) := by
  have hsame : (step c job s (.advance i : Move ι σ ε ρ)).calls = s.calls := by
    simp only [step, hcalls, List.append_nil]
  refine ⟨hs.found_advance hshared ?_, ?_, ?_⟩
  · intro r h
    rw [hw]
    rcases hfound r h with hfinished | hfinds
    · exact hs.found i r hfinished
    · exact hfinds
  · intro k
    rw [hsame]
    exact hs.once k
  · intro k hk
    rw [hsame]
    exact hs.never k (entry_none_of_step hshared hk)

lemma Sound.advance (hs : Sound c job s) (i : ι) :
    Sound c job (step c job s (.advance i : Move ι σ ε ρ)) := by
  rcases (job i).advance_cases (s.phase i) s.world with ⟨g, hg, hp⟩ | ⟨hw, hcalls, hfound⟩
  · exact hs.advance_last hshared hg hp
  · exact hs.advance_look hshared hw hcalls hfound

/-- **One move keeps the invariant**, whoever makes it. -/
lemma Sound.step (hs : Sound c job s) (m : Move ι σ ε ρ) : Sound c job (step c job s m) := by
  cases m with
  | advance i => exact hs.advance hshared i
  | insert k build => exact hs.insert hshared k build

lemma Sound.run (hs : Sound c job s) (moves : List (Move ι σ ε ρ)) :
    Sound c job (run c job s moves) := by
  induction moves generalizing s with
  | nil => exact hs
  | cons m moves ih => exact ih (hs.step hshared m)

end Moves

/-! ### What the resolutions agree on -/

section Agreement

variable [DecidableEq ι]

/-- The only runner that a key has during a run. -/
def OnlyEntry (c : CacheId) (job : ι → Job σ ρ η) (w : World σ ρ) (moves : List (Move ι σ ε ρ))
    (k : Key) (r : ρ) : Prop :=
  (run c job (.start w) moves).entry c k = some r ∧
    ∀ before, before <+: moves → ∀ r', (run c job (.start w) before).entry c k = some r' → r' = r

/-- A key has no runner during a run. -/
def NoEntry (c : CacheId) (job : ι → Job σ ρ η) (w : World σ ρ) (moves : List (Move ι σ ε ρ))
    (k : Key) : Prop :=
  ∀ before, before <+: moves → (run c job (.start w) before).entry c k = none

lemma onlyEntry_of_entry (hshared : ∀ i, (job i).context.cache = c) {w : World σ ρ}
    {moves : List (Move ι σ ε ρ)} (h : (run c job (.start w) moves).entry c k = some r) :
    OnlyEntry c job w moves k r :=
  ⟨h, fun _ hbefore _ hr' => entry_unique hshared hbefore hr' h⟩

/-- As entries stay, it is enough to look at the end of the run. -/
lemma noEntry_of_entry (hshared : ∀ i, (job i).context.cache = c) {w : World σ ρ}
    {moves : List (Move ι σ ε ρ)} (h : (run c job (.start w) moves).entry c k = none) :
    NoEntry c job w moves k := by
  rintro before ⟨after, rfl⟩
  rw [run_append] at h
  cases hbefore : (run c job (.start w) before).entry c k with
  | none => rfl
  | some r =>
    rw [run_entry hshared hbefore after] at h
    cases h

/-- **Overlapping resolutions agree.**  Resolutions over one cache advance in any order, and other
users insert runners in between.

At most one compiler call for an identity key gives a runner.  A resolution that returns a runner
returns the only entry of one of its two keys.  Two resolutions of one subgraph return the same
runner if the names of their kinds have no entry.  A resolution that begins when the identity of its
subgraph has an entry returns this entry, whatever is under the name of its kind. -/
theorem run_agrees (c : CacheId) (job : ι → Job σ ρ η) (hshared : ∀ i, (job i).context.cache = c)
    (w : World σ ρ) (moves : List (Move ι σ ε ρ)) :
    (∀ k, (run c job (.start w) moves).calls.countP (succeeds k) ≤ 1) ∧
    (∀ i r, (run c job (.start w) moves).phase i = .finished (.returned r) →
      ∃ g, (job i).node.subgraph = some g ∧
        (OnlyEntry c job w moves (.identity g.id) r ∨
          OnlyEntry c job w moves (.name (job i).node.kind.qualified) r)) ∧
    (∀ i i' g g' r r', (job i).node.subgraph = some g → (job i').node.subgraph = some g' →
      g.id = g'.id →
      NoEntry c job w moves (.name (job i).node.kind.qualified) →
      NoEntry c job w moves (.name (job i').node.kind.qualified) →
      (run c job (.start w) moves).phase i = .finished (.returned r) →
      (run c job (.start w) moves).phase i' = .finished (.returned r') → r = r') ∧
    (∀ before after i g r, moves = before ++ after → (job i).node.subgraph = some g →
      (run c job (.start w) before).phase i = .waiting →
      (run c job (.start w) before).entry c (.identity g.id) = some r →
      .advance i ∈ after →
      (run c job (.start w) moves).phase i = .finished (.returned r)) := by
  have hsound := (sound_start c job w).run hshared moves
  refine ⟨hsound.once, ?_, ?_, ?_⟩
  · intro i r h
    obtain ⟨g, hg, hkeys⟩ := Sound.entry_of_returned hshared hsound h
    exact ⟨g, hg, hkeys.imp (onlyEntry_of_entry hshared) (onlyEntry_of_entry hshared)⟩
  · intro i i' g g' r r' hg hg' hid hname hname' h h'
    have hr := Sound.identity_of_returned hshared hsound hg (hname moves (List.prefix_refl moves)) h
    have hr' := Sound.identity_of_returned hshared hsound hg' (hname' moves (List.prefix_refl moves)) h'
    rw [hid, hr'] at hr
    exact (Option.some.inj hr).symm
  · rintro before after i g r rfl hg hwaiting hentry hi
    rw [run_append]
    exact run_of_entry hshared hg hwaiting hentry hi

/-- Two resolutions miss both keys before the first of them builds.  A third one begins after a
runner was preloaded under the name of the kind, and a fourth one has another subgraph. -/
theorem run_agrees_around_preload :
    let g : Subgraph Node := ⟨⟨5⟩, ⟨[], [], []⟩⟩
    let n : Node := ⟨⟨"box", "fused"⟩, [], [], some g⟩
    let ctx : Context Nat Nat Unit :=
      ⟨⟨0⟩, .global, fun _ s => (.returned s, s + 1), defaultHost, defaultBackend, .global⟩
    let job : Nat → Job Nat Nat Unit :=
      fun i => ⟨ctx, if i = 3 then { n with subgraph := some ⟨⟨6⟩, g.block⟩ } else n⟩
    let w : World Nat Nat := World.start ⟨0⟩ 0
    let race : List (Move Nat Nat RunError Nat) :=
      [.advance 0, .advance 1, .advance 0, .advance 1, .advance 0, .advance 1]
    let later : List (Move Nat Nat RunError Nat) :=
      [.insert (.name n.kind.qualified) fun s => (.returned 7, s), .advance 2, .advance 3,
        .advance 3]
    let last := run .global job (.start w) (race ++ later)
    (∀ r r', (run .global job (.start w) race).phase 0 = .finished (.returned r) →
      (run .global job (.start w) race).phase 1 = .finished (.returned r') → r = r') ∧
    (∀ k, last.calls.countP (succeeds k) ≤ 1) ∧
    last.phase 2 = .finished (.returned 0) ∧
    ∃ g', (job 3).node.subgraph = some g' ∧
      (OnlyEntry .global job w (race ++ later) (.identity g'.id) 7 ∨
        OnlyEntry .global job w (race ++ later) (.name (job 3).node.kind.qualified) 7) := by
  intro g n ctx job w race later last
  have hshared : ∀ i, (job i).context.cache = .global := fun _ => rfl
  have hname : NoEntry .global job w race (.name n.kind.qualified) :=
    noEntry_of_entry hshared (by decide)
  refine ⟨?_, (run_agrees .global job hshared w (race ++ later)).1, ?_, ?_⟩
  · intro r r' h h'
    exact (run_agrees .global job hshared w race).2.2.1 0 1 g g r r' rfl rfl rfl hname hname h h'
  · exact (run_agrees .global job hshared w (race ++ later)).2.2.2 race later 2 g 0 rfl rfl
      rfl (by decide) (by simp [later])
  · exact (run_agrees .global job hshared w (race ++ later)).2.1 3 7 (by decide)

end Agreement

end Delegation.Interleaving
