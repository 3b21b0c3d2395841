import Delegation.Proofs.Host.Installation
/-!
# The tables of a host over time

Five calls may change the tables of a host.  Each asks for operators and passes (`Call.operators`,
`Call.passes`), and either adds all of them at the ends of the tables or changes nothing
(`Call.perform_cases`).  From this one fact follows what holds after any sequence of calls: the
operator table consists of the registrations that succeeded, in their order, and no symbol occurs
twice in it (`performAll_allOrNothing`).
-/

namespace Delegation

namespace HostTables

/-- A call that may change the tables. -/
inductive Call (σ ρ η : Type) where
  /-- Register an operator. -/
  | register (symbol : Symbol) (aliasing : AliasAnalysis) (factory : OperationFactory σ ρ)
  /-- Register a symbol as a delegated operator. -/
  | registerDelegated (ctx : Context σ ρ η) (symbol : Symbol)
  /-- Register a fusion pass. -/
  | registerFusion (fuser : Fuser) (kind : Symbol) (gate : Gate σ ρ)
  /-- Register a delegated operator and its fusion pass. -/
  | registerFusionOperator (ctx : Context σ ρ η) (fuser : Fuser) (symbol : Symbol) (gate : Gate σ ρ)
  /-- Install in the shared state `w`, whatever has happened to it since the call before. -/
  | install (i : Installation σ ρ η) (w : World σ ρ)

variable {σ ρ η : Type}

namespace Call

/-! ### One call -/

/-- The tables that a registration gives, or its error and the tables as they were. -/
def settle (t : HostTables σ ρ) :
    Except SetupError (HostTables σ ρ) → Except SetupError Unit × HostTables σ ρ
  | .ok t' => (.ok (), t')
  | .error e => (.error e, t)

/-- What a call answers, and the tables afterwards. -/
def perform : Call σ ρ η → HostTables σ ρ → Except SetupError Unit × HostTables σ ρ
  | register s aliasing factory, t =>
    settle t ((t.operators.register s aliasing factory).map fun operators => ⟨operators, t.passes⟩)
  | registerDelegated ctx s, t =>
    settle t ((t.operators.registerDelegated ctx s).map fun operators => ⟨operators, t.passes⟩)
  | registerFusion fuser kind gate, t =>
    (.ok (), ⟨t.operators, t.passes.registerFusion fuser kind gate⟩)
  | registerFusionOperator ctx fuser s gate, t => settle t (t.registerFusionOperator ctx fuser s gate)
  | install i w, t => ((i.install t w).1.map fun _ => (), (i.install t w).2.1)

/-- The operators that a call asks for. -/
def operators : Call σ ρ η → List (RegisteredOperator σ ρ)
  | register s aliasing factory => [⟨s, aliasing, factory⟩]
  | registerDelegated ctx s | registerFusionOperator ctx _ s _ => [ctx.operator s]
  | registerFusion _ _ _ => []
  | install i w =>
    match i.config.symbol with
    | .ok s => [(Context.make i.contextSpec w).1.operator s]
    | .error _ => []

/-- The passes that a call asks for. -/
def passes : Call σ ρ η → List (Pass σ ρ)
  | register _ _ _ | registerDelegated _ _ => []
  | registerFusion fuser kind gate | registerFusionOperator _ fuser kind gate =>
    [fusionPass fuser kind gate]
  | install i w =>
    match i.config.symbol with
    | .ok s => (i.pass? (Context.make i.contextSpec w).1 s).toList
    | .error _ => []

/-- A registration that would also add passes adds the operator and them, or nothing. -/
lemma settle_register (t : HostTables σ ρ) (o : RegisteredOperator σ ρ)
    (passes : List (Pass σ ρ)) :
    let r := settle t ((t.operators.register o.symbol o.aliasing o.factory).map
      fun operators => ⟨operators, ⟨t.passes.passes ++ passes⟩⟩)
    (∃ e, r = (.error e, t)) ∨
      r = (.ok (), t.extend [o] passes) ∧ ∀ o' ∈ [o], t.operators.contains o'.symbol = false := by
  cases h : t.operators.contains o.symbol with
  | true =>
    refine Or.inl ⟨.duplicateOperator o.symbol.qualified, ?_⟩
    rw [OperatorTable.register_of_taken h]
    rfl
  | false =>
    refine Or.inr ⟨?_, ?_⟩
    · rw [OperatorTable.register_of_free h]
      rfl
    · intro o' ho'
      rw [List.mem_singleton.mp ho']
      exact h

lemma registerFusionOperator_eq (t : HostTables σ ρ) (ctx : Context σ ρ η) (fuser : Fuser)
    (s : Symbol) (gate : Gate σ ρ) :
    t.registerFusionOperator ctx fuser s gate = (t.operators.registerDelegated ctx s).map
      fun operators => ⟨operators, ⟨t.passes.passes ++ [fusionPass fuser s gate]⟩⟩ := by
  rw [HostTables.registerFusionOperator]
  cases t.operators.registerDelegated ctx s <;> rfl

/-- **All or nothing**: a call fails and changes nothing, or it adds all that it asks for, of which
nothing was there. -/
lemma perform_cases (c : Call σ ρ η) (t : HostTables σ ρ) :
    (∃ e, c.perform t = (.error e, t)) ∨
      c.perform t = (.ok (), t.extend c.operators c.passes) ∧
        ∀ o ∈ c.operators, t.operators.contains o.symbol = false := by
  cases c with
  | register s aliasing factory =>
    have h := settle_register t ⟨s, aliasing, factory⟩ []
    rwa [List.append_nil] at h
  | registerDelegated ctx s =>
    have h := settle_register t (ctx.operator s) []
    rwa [List.append_nil] at h
  | registerFusion fuser kind gate =>
    refine Or.inr ⟨?_, fun o ho => absurd ho List.not_mem_nil⟩
    rw [extend, operators, List.append_nil]
    rfl
  | registerFusionOperator ctx fuser s gate =>
    rw [perform, registerFusionOperator_eq]
    exact settle_register t (ctx.operator s) [fusionPass fuser s gate]
  | install i w =>
    obtain ⟨e, hinvalid⟩ | ⟨s, hvalid, hs, htaken | hfree⟩ := i.install_cases t
    · refine Or.inl ⟨e, ?_⟩
      rw [perform, Installation.install_of_invalid hinvalid]
      rfl
    · refine Or.inl ⟨.duplicateOperator s.qualified, ?_⟩
      rw [perform, Installation.install_of_taken hvalid hs htaken]
      rfl
    · refine Or.inr ⟨?_, ?_⟩
      · simp only [perform, Installation.install_of_free hvalid hs hfree, operators, passes, hs]
        rfl
      · simpa [operators, hs, Context.operator] using hfree

/-- A call that fails leaves the tables as they were. -/
lemma failed_perform (c : Call σ ρ η) {t : HostTables σ ρ} {e : SetupError}
    (h : (c.perform t).1 = .error e) : (c.perform t).2 = t := by
  obtain ⟨e', hfailed⟩ | ⟨hdone, -⟩ := c.perform_cases t
  · rw [hfailed]
  · rw [hdone] at h
    cases h

/-- What a call registers: what it asks for, unless it fails. -/
def registered (c : Call σ ρ η) (t : HostTables σ ρ) : List (RegisteredOperator σ ρ) :=
  match (c.perform t).1 with
  | .ok _ => c.operators
  | .error _ => []

/-- The operators after a call are those before it and those that it registers, none of which was
there. -/
lemma entries_perform (c : Call σ ρ η) (t : HostTables σ ρ) :
    (c.perform t).2.operators.entries = t.operators.entries ++ c.registered t ∧
      ∀ o ∈ c.registered t, t.operators.contains o.symbol = false := by
  obtain ⟨e, h⟩ | ⟨h, hfree⟩ := c.perform_cases t
  · simp [registered, h]
  · simpa [registered, h, extend] using hfree

/-- A call asks for at most one operator. -/
lemma length_operators_le (c : Call σ ρ η) : c.operators.length ≤ 1 := by
  cases c with
  | install i w =>
    rw [operators]
    split <;> simp
  | _ => simp [operators]

end Call

/-- A delegated operator and its pass are added together. -/
lemma registerFusionOperator_eq_ok {t t' : HostTables σ ρ} {ctx : Context σ ρ η} {fuser : Fuser}
    {s : Symbol} {gate : Gate σ ρ} (h : t.registerFusionOperator ctx fuser s gate = .ok t') :
    t' = t.extend [ctx.operator s] [fusionPass fuser s gate] := by
  have hperform : (Call.registerFusionOperator ctx fuser s gate).perform t = (.ok (), t') := by
    rw [Call.perform, h]
    rfl
  obtain ⟨e, hfailed⟩ | ⟨hdone, -⟩ := (Call.registerFusionOperator ctx fuser s gate).perform_cases t
  · rw [hfailed] at hperform
    cases hperform
  · rw [hdone] at hperform
    exact (Prod.mk.inj hperform).2.symm

/-! ### Sequences of calls -/

/-- The tables after several calls. -/
def performAll (calls : List (Call σ ρ η)) (t : HostTables σ ρ) : HostTables σ ρ :=
  calls.foldl (fun t c => (c.perform t).2) t

/-- The operators that several calls register, in their order. -/
def registrations : List (Call σ ρ η) → HostTables σ ρ → List (RegisteredOperator σ ρ)
  | [], _ => []
  | c :: calls, t => c.registered t ++ registrations calls (c.perform t).2

lemma performAll_append (calls later : List (Call σ ρ η)) (t : HostTables σ ρ) :
    performAll (calls ++ later) t = performAll later (performAll calls t) := by
  rw [performAll, performAll, performAll, List.foldl_append]

/-- **The operators after several calls** are those before them and those that they register. -/
lemma entries_performAll (calls : List (Call σ ρ η)) (t : HostTables σ ρ) :
    (performAll calls t).operators.entries = t.operators.entries ++ registrations calls t := by
  induction calls generalizing t with
  | nil => exact (List.append_nil _).symm
  | cons c calls ih =>
    have hstep : performAll (c :: calls) t = performAll calls (c.perform t).2 := rfl
    rw [hstep, ih, (c.entries_perform t).1, registrations, List.append_assoc]

/-- No symbol has two entries. -/
def OneEach (t : HostTables σ ρ) : Prop :=
  (t.operators.entries.map fun o => o.symbol).Nodup

lemma OneEach.perform {t : HostTables σ ρ} (h : t.OneEach) (c : Call σ ρ η) :
    (c.perform t).2.OneEach := by
  obtain ⟨hentries, hfree⟩ := c.entries_perform t
  have hlength : (c.registered t).length ≤ 1 := by
    rw [Call.registered]
    split
    · exact c.length_operators_le
    · exact Nat.zero_le _
  rw [OneEach, hentries]
  match c.registered t, hfree, hlength with
  | [], _, _ =>
    rw [List.append_nil]
    exact h
  | [o], hfree, _ =>
    rw [List.map_append, List.nodup_append]
    refine ⟨h, List.pairwise_singleton _ _, ?_⟩
    rintro s hs s' hs' rfl
    obtain ⟨o', ho', rfl⟩ := List.mem_map.mp hs
    refine OperatorTable.contains_eq_false_iff.mp (hfree o (List.mem_singleton_self o)) o' ho' ?_
    exact List.mem_singleton.mp hs'

lemma OneEach.performAll {t : HostTables σ ρ} (h : t.OneEach) (calls : List (Call σ ρ η)) :
    (performAll calls t).OneEach := by
  induction calls generalizing t with
  | nil => exact h
  | cons c calls ih => exact ih (h.perform c)

/-- An entry stays over all calls. -/
lemma lookup_performAll {t : HostTables σ ρ} {s : Symbol} {o : RegisteredOperator σ ρ}
    (h : t.operators.lookup s = some o) (calls : List (Call σ ρ η)) :
    (performAll calls t).operators.lookup s = some o := by
  rw [OperatorTable.lookup] at h
  rw [OperatorTable.lookup, entries_performAll, List.find?_append, h, Option.some_or]

/-- What holds of the tables after `calls`, and of a call that is made next. -/
structure AllOrNothing (start : HostTables σ ρ) (calls : List (Call σ ρ η)) (t : HostTables σ ρ) :
    Prop where
  /-- No symbol has two entries. -/
  unique : t.OneEach
  /-- The entry of a symbol is that of its first registration that succeeded. -/
  first : ∀ s, t.operators.lookup s = (registrations calls start).find? fun o => o.symbol = s
  /-- It is never replaced. -/
  kept : ∀ s o, t.operators.lookup s = some o →
    ∀ later, (performAll (calls ++ later) start).operators.lookup s = some o
  /-- A call that fails leaves both tables as they were. -/
  failed : ∀ (c : Call σ ρ η) e, (c.perform t).1 = .error e → (c.perform t).2 = t
  /-- A delegated operator and its pass are added together, each at the end of its table. -/
  fusionOperator : ∀ (ctx : Context σ ρ η) fuser s gate t',
    t.registerFusionOperator ctx fuser s gate = .ok t' →
      t' = t.extend [⟨s, .pureFunction, OperatorTable.delegatedFactory ctx⟩]
        [fusionPass fuser s gate]
  /-- An installation adds one operator under the symbol of its configuration, and one pass exactly
  if a fuser or at least one kind is given. -/
  installed : ∀ (i : Installation σ ρ η) w ctx, (i.install t w).1 = .ok ctx →
    ∃ s passes, Symbol.parse i.config.fusionSymbol = .ok s ∧
      (i.install t w).2.1 =
        t.extend [⟨s, .pureFunction, OperatorTable.delegatedFactory ctx⟩] passes ∧
      passes.length = if i.fuser.isSome = true ∨ i.supported ≠ [] then 1 else 0
  /-- An installation fails if its configuration does not pass the check, or if else its symbol is
  taken. -/
  refused : ∀ (i : Installation σ ρ η) w e, (i.install t w).1 = .error e ↔
    i.config.validate = .error e ∨ i.config.validate = .ok () ∧
      ∃ s, Symbol.parse i.config.fusionSymbol = .ok s ∧ t.operators.contains s = true ∧
        e = .duplicateOperator s.qualified

/-- **The tables change all or nothing**, over every sequence of calls that starts without
operators. -/
theorem performAll_allOrNothing (passes : PassTable σ ρ) (calls : List (Call σ ρ η)) :
    AllOrNothing ⟨.empty, passes⟩ calls (performAll calls ⟨.empty, passes⟩) where
  unique := OneEach.performAll (t := ⟨.empty, passes⟩) List.nodup_nil calls
  first s := by rw [OperatorTable.lookup, entries_performAll]; rfl
  kept s o h later := by
    rw [performAll_append]
    exact lookup_performAll h later
  failed c e h := c.failed_perform h
  fusionOperator ctx fuser s gate t' h := registerFusionOperator_eq_ok h
  installed i w ctx h := by
    obtain ⟨s, hs, htables⟩ := Installation.tables_of_install_ok h
    exact ⟨s, _, Config.symbol_eq_ok_iff.mp hs, htables, i.length_pass? ctx s⟩
  refused i w e := by
    rw [Installation.install_eq_error_iff]
    simp only [Config.symbol_eq_ok_iff]

end HostTables

end Delegation
