import Delegation.Proofs.Fusion.Settled
import Delegation.Proofs.Host.Installation
/-!
# What an installed fusion pass looks at, and when

An installation for a set of kinds reads one settings record at two times.  The size of groups and the
blacklist are read when it installs, and they stay in the fuser; the flag that fusion is enabled is
read by the gate, each time the passes run.  So the pass follows the flag of the settings in force and
nothing else of them (`Installation.FollowsSettings`).  A gate that is given to the installation takes
the place of the flag (`Installation.FollowsGate`).

What comes after the installation is a list of steps: settings are replaced, passes run, and outside
code, of which a given gate may be a part, changes its own state.
-/

namespace Delegation

variable {σ ρ η : Type}

/-- Something that happens after an installation. -/
inductive LaterStep (σ : Type) where
  /-- The settings of the context are replaced. -/
  | update (s : Settings)
  /-- All passes run over a graph. -/
  | run (g : Graph)
  /-- Outside code changes its own state. -/
  | outside (change : σ → σ)

namespace LaterStep

/-- The shared state after a step. -/
def perform (ctx : Context σ ρ η) (t : PassTable σ ρ) : LaterStep σ → World σ ρ → World σ ρ
  | update s, w => ctx.updateSettings s w
  | run g, w => (t.runAll g w).2
  | outside change, w => { w with outside := change w.outside }

/-- The shared state after several steps. -/
def performAll (ctx : Context σ ρ η) (t : PassTable σ ρ) (steps : List (LaterStep σ))
    (w : World σ ρ) : World σ ρ :=
  steps.foldl (fun w step => step.perform ctx t w) w

/-- The settings that a step puts in force. -/
def update? : LaterStep σ → Option Settings
  | update s => some s
  | _ => none

/-- The settings last put in force, or the first ones. -/
def inForce (first : Settings) (steps : List (LaterStep σ)) : Settings :=
  (steps.filterMap update?).getLast?.getD first

/-- Steps that are the same but for settings, of which only the flag is the same. -/
inductive SameFlag : LaterStep σ → LaterStep σ → Prop where
  | update {s s' : Settings} (h : s'.fusionEnabled = s.fusionEnabled) :
      SameFlag (update s) (update s')
  | run (g : Graph) : SameFlag (run g) (run g)
  | outside (change : σ → σ) : SameFlag (outside change) (outside change)

variable {ctx : Context σ ρ η} {t : PassTable σ ρ}

lemma performAll_concat (steps : List (LaterStep σ)) (step : LaterStep σ) (w : World σ ρ) :
    performAll ctx t (steps ++ [step]) w = step.perform ctx t (performAll ctx t steps w) := by
  rw [performAll, performAll, List.foldl_append, List.foldl_cons, List.foldl_nil]

lemma inForce_concat (first : Settings) (steps : List (LaterStep σ)) (step : LaterStep σ) :
    inForce first (steps ++ [step]) = step.update?.getD (inForce first steps) := by
  rw [inForce, inForce, List.filterMap_append]
  cases h : step.update? with
  | none => simp [h]
  | some s => simp [h]

end LaterStep

/-! ### A table with one fusion pass -/

namespace PassTable

variable {fuser : Fuser} {kind : Symbol} {gate : Gate σ ρ}

lemma runAll_of_open {w : World σ ρ} (h : gate w = true) (g : Graph) :
    runAll ⟨[fusionPass fuser kind gate]⟩ g w =
      ((fuser kind g w.blocks).graph, { w with blocks := (fuser kind g w.blocks).supply }) := by
  show fusionPass fuser kind gate g w = _
  rw [fusionPass, if_pos h]

lemma runAll_of_closed {w : World σ ρ} (h : gate w = false) (g : Graph) :
    runAll ⟨[fusionPass fuser kind gate]⟩ g w = (g, w) := by
  show fusionPass fuser kind gate g w = _
  rw [fusionPass, h]
  rfl

/-- A run leaves the settings of all contexts as they were. -/
lemma settings_runAll (g : Graph) (w : World σ ρ) :
    (runAll ⟨[fusionPass fuser kind gate]⟩ g w).2.settings = w.settings := by
  cases h : gate w with
  | true => rw [runAll_of_open h]
  | false => rw [runAll_of_closed h]

end PassTable

namespace Installation

/-- The fuser for the kinds of an installation, with the size of groups and the blacklist of its
configuration. -/
def installedFuser (i : Installation σ ρ η) : KindFuser :=
  { supported := i.supported
    floor := max 1 i.config.settings.minGroupSize.toNat
    blacklist := i.config.settings.blacklist }

/-- The pass fuses under an answer of the gate, and otherwise leaves everything as it was. -/
structure Fuses (f : KindFuser) (kind : Symbol) (t : PassTable σ ρ) (g : Graph) (w : World σ ρ)
    (answer : Bool) : Prop where
  /-- The graph is unchanged exactly if the answer is no or no run is long enough. -/
  unchanged_iff : (t.runAll g w).1 = g ↔ answer = false ∨ f.Settled kind g.nodes
  /-- Then nothing else changes either. -/
  idle : answer = false ∨ f.Settled kind g.nodes → t.runAll g w = (g, w)
  /-- Otherwise the pass does what one fusion does. -/
  fused : ¬ (answer = false ∨ f.Settled kind g.nodes) →
    t.runAll g w = ((f.fuse kind g w.blocks).graph,
      { w with blocks := (f.fuse kind g w.blocks).supply })

/-- A pass that asks for the flag of the settings in force. -/
structure FollowsSettings (f : KindFuser) (kind : Symbol) (first : Settings) (ctx : Context σ ρ η)
    (t : PassTable σ ρ) (w : World σ ρ) : Prop where
  /-- After any steps, a run goes by the flag of the settings last put in force. -/
  fuses : ∀ (steps : List (LaterStep σ)) (g : Graph),
    Fuses f kind t g (LaterStep.performAll ctx t steps w)
      (LaterStep.inForce first steps).fusionEnabled
  /-- All else in the settings that were put in force might have been different. -/
  only_flags : ∀ steps steps' : List (LaterStep σ), List.Forall₂ LaterStep.SameFlag steps steps' →
    ∀ g, (t.runAll g (LaterStep.performAll ctx t steps' w)).1 =
      (t.runAll g (LaterStep.performAll ctx t steps w)).1

/-- A pass that asks a given gate. -/
structure FollowsGate (f : KindFuser) (kind : Symbol) (gate : Gate σ ρ) (ctx : Context σ ρ η)
    (t : PassTable σ ρ) (w : World σ ρ) : Prop where
  /-- After any steps, a run goes by the answer of the gate at that time. -/
  fuses : ∀ (steps : List (LaterStep σ)) (g : Graph),
    let w' := LaterStep.performAll ctx t steps w
    Fuses f kind t g w' (gate w')
  /-- Whatever settings are in force, the answer alone decides. -/
  only_answer : ∀ w₁ w₂ : World σ ρ, gate w₁ = gate w₂ → w₁.blocks = w₂.blocks →
    ∀ g, (t.runAll g w₁).1 = (t.runAll g w₂).1

variable {f : KindFuser} {kind : Symbol} {gate : Gate σ ρ} {ctx : Context σ ρ η}

lemma fuses_onePass (f : KindFuser) (kind : Symbol) (gate : Gate σ ρ) (g : Graph)
    (w : World σ ρ) :
    Fuses f kind ⟨[fusionPass f.fuse kind gate]⟩ g w (gate w) := by
  cases h : gate w with
  | false =>
    have hrun : PassTable.runAll ⟨[fusionPass f.fuse kind gate]⟩ g w = (g, w) :=
      PassTable.runAll_of_closed h g
    refine ⟨?_, fun _ => hrun, fun hnot => absurd (Or.inl rfl) hnot⟩
    rw [hrun]
    simp
  | true =>
    have hrun : PassTable.runAll ⟨[fusionPass f.fuse kind gate]⟩ g w =
        ((f.fuse kind g w.blocks).graph, { w with blocks := (f.fuse kind g w.blocks).supply }) :=
      PassTable.runAll_of_open h g
    refine ⟨?_, ?_, fun _ => hrun⟩
    · rw [hrun]
      simpa using KindFuser.graph_fuse_eq_iff
    · rintro (hclosed | hsettled)
      · cases hclosed
      · rw [hrun, KindFuser.fuse_of_settled hsettled]

/-! ### The settings in force -/

lemma settings_performAll (steps : List (LaterStep σ)) (w : World σ ρ) :
    ctx.settings (LaterStep.performAll ctx ⟨[fusionPass f.fuse kind gate]⟩ steps w) =
      LaterStep.inForce (ctx.settings w) steps := by
  induction steps using List.reverseRecOn with
  | nil => rfl
  | append_singleton steps step ih =>
    rw [LaterStep.performAll_concat, LaterStep.inForce_concat, ← ih]
    cases step with
    | update s => exact setAt_self _ _ _
    | run g => exact congrFun (PassTable.settings_runAll g _) ctx.id
    | outside change => rfl

/-- Steps with the same flags leave the same flag in force, and the same identities for blocks. -/
lemma alike_performAll (f : KindFuser) (kind : Symbol) {steps steps' : List (LaterStep σ)}
    (h : List.Forall₂ LaterStep.SameFlag steps steps') {w w' : World σ ρ}
    (hflag : (ctx.settings w').fusionEnabled = (ctx.settings w).fusionEnabled)
    (hblocks : w'.blocks = w.blocks) :
    let t : PassTable σ ρ := ⟨[fusionPass f.fuse kind (settingsGate ctx)]⟩
    let v := LaterStep.performAll ctx t steps w
    let v' := LaterStep.performAll ctx t steps' w'
    (ctx.settings v').fusionEnabled = (ctx.settings v).fusionEnabled ∧ v'.blocks = v.blocks := by
  induction h generalizing w w' with
  | nil => exact ⟨hflag, hblocks⟩
  | cons hstep _ ih =>
    cases hstep with
    | @update s s' hsame =>
      refine ih ?_ hblocks
      simpa [LaterStep.perform, Context.settings, Context.updateSettings] using hsame
    | run g =>
      refine ih ?_ ?_
      · simpa [LaterStep.perform, Context.settings, PassTable.settings_runAll] using hflag
      · -- both runs fuse, with the same identities, or neither does
        cases hopen : settingsGate ctx w with
        | true =>
          have hopen' : settingsGate ctx w' = true := hflag.trans hopen
          simp only [LaterStep.perform, PassTable.runAll_of_open hopen,
            PassTable.runAll_of_open hopen', hblocks]
        | false =>
          have hclosed' : settingsGate ctx w' = false := hflag.trans hopen
          simp only [LaterStep.perform, PassTable.runAll_of_closed hopen,
            PassTable.runAll_of_closed hclosed', hblocks]
    | outside change => exact ih hflag hblocks

lemma graph_runAll_congr {w w' : World σ ρ} (hgate : gate w = gate w')
    (hblocks : w.blocks = w'.blocks) (g : Graph) :
    (PassTable.runAll ⟨[fusionPass f.fuse kind gate]⟩ g w).1 =
      (PassTable.runAll ⟨[fusionPass f.fuse kind gate]⟩ g w').1 := by
  cases h : gate w with
  | true => rw [PassTable.runAll_of_open h, PassTable.runAll_of_open (hgate ▸ h), hblocks]
  | false => rw [PassTable.runAll_of_closed h, PassTable.runAll_of_closed (hgate ▸ h)]

lemma followsSettings (ctx : Context σ ρ η) (w : World σ ρ) :
    FollowsSettings f kind (ctx.settings w) ctx ⟨[fusionPass f.fuse kind (settingsGate ctx)]⟩ w where
  fuses steps g := by
    have h := fuses_onePass f kind (settingsGate ctx) g
      (LaterStep.performAll ctx ⟨[fusionPass f.fuse kind (settingsGate ctx)]⟩ steps w)
    rwa [settingsGate, settings_performAll] at h
  only_flags steps steps' h g := by
    obtain ⟨hflag, hblocks⟩ := alike_performAll f kind h (w := w) rfl rfl
    exact graph_runAll_congr hflag hblocks g

lemma followsGate (ctx : Context σ ρ η) (w : World σ ρ) :
    FollowsGate f kind gate ctx ⟨[fusionPass f.fuse kind gate]⟩ w where
  fuses _ g := fuses_onePass f kind gate g _
  only_answer _ _ := graph_runAll_congr

/-- A new context is in force with the settings of its configuration. -/
lemma settings_make (i : Installation σ ρ η) (w : World σ ρ) :
    (Context.make i.contextSpec w).1.settings (Context.make i.contextSpec w).2 =
      i.config.settings :=
  setAt_self _ _ _

/-- Without a fuser of its own an installation adds the pass of the fuser for its kinds. -/
lemma pass?_of_kinds {i : Installation σ ρ η} (hfuser : i.fuser = none) (hkinds : i.supported ≠ [])
    (ctx : Context σ ρ η) (s : Symbol) :
    i.pass? ctx s = some (fusionPass i.installedFuser.fuse s (i.gate.getD (settingsGate ctx))) := by
  have hsome : i.supported.isEmpty = false := List.isEmpty_eq_false_iff.mpr hkinds
  rw [pass?, chosenFuser, hfuser, hsome]
  rfl

/-- **An installed pass fuses by what was installed, and asks its gate each time.**  The context of a
valid configuration is made, and its symbol is the kind of the fused nodes. -/
theorem install_gated (i : Installation σ ρ η) (hvalid : i.config.validate = .ok ())
    (hfuser : i.fuser = none) (hkinds : i.supported ≠ []) (w : World σ ρ) :
    ∃ ctx t w' kind, i.install .empty w = (.ok ctx, t, w') ∧
      Symbol.parse i.config.fusionSymbol = .ok kind ∧
      (i.gate = none →
        FollowsSettings i.installedFuser kind i.config.settings ctx t.passes w') ∧
      ∀ gate, i.gate = some gate → FollowsGate i.installedFuser kind gate ctx t.passes w' := by
  obtain ⟨kind, hkind, -⟩ := Config.exists_symbol_of_validate hvalid
  have hinstall := install_of_free (t := .empty) hvalid hkind rfl w
  simp only [pass?_of_kinds hfuser hkinds] at hinstall
  refine ⟨_, _, _, kind, hinstall, Config.symbol_eq_ok_iff.mp hkind, ?_, ?_⟩
  · intro hgate
    rw [hgate, ← i.settings_make w]
    exact followsSettings _ _
  · intro gate hgate
    rw [hgate]
    exact followsGate _ _

/-- Groups of at least two are installed, once with the flag of the settings as the gate, and once with
a gate that outside code opens and closes. -/
theorem install_gated_two_kinds :
    let config : Config := { settings := { minGroupSize := 2, blacklist := ["aten::sort"] } }
    let kinds : List Symbol := [⟨"aten", "add"⟩, ⟨"aten", "relu"⟩]
    let byFlag : Installation Bool Unit Unit :=
      { factory := fun _ b => (.returned (), b), config := config, supported := kinds }
    let byGate : Installation Bool Unit Unit := { byFlag with gate := some fun w => w.outside }
    let w : World Bool Unit := .start ⟨0⟩ true
    config.validate = .ok () ∧ byFlag.fuser = none ∧ byFlag.supported ≠ [] ∧
      (∃ ctx t w' kind, byFlag.install .empty w = (.ok ctx, t, w') ∧
        FollowsSettings ⟨kinds, 2, ["aten::sort"]⟩ kind config.settings ctx t.passes w') ∧
      ∃ ctx t w' kind, byGate.install .empty w = (.ok ctx, t, w') ∧
        FollowsGate ⟨kinds, 2, ["aten::sort"]⟩ kind (fun w => w.outside) ctx t.passes w' := by
  intro config kinds byFlag byGate w
  have hvalid : config.validate = .ok () := by decide +kernel
  have hkinds : kinds ≠ [] := by decide
  refine ⟨hvalid, rfl, hkinds, ?_, ?_⟩
  · obtain ⟨ctx, t, w', kind, hinstall, -, hflag, -⟩ := install_gated byFlag hvalid rfl hkinds w
    exact ⟨ctx, t, w', kind, hinstall, hflag rfl⟩
  · obtain ⟨ctx, t, w', kind, hinstall, -, -, hgate⟩ := install_gated byGate hvalid rfl hkinds w
    exact ⟨ctx, t, w', kind, hinstall, hgate _ rfl⟩

end Installation

end Delegation
