import Delegation.Proofs.Signals.Guards
import Delegation.World
/-!
# Guards that overlap

Guards of several threads are taken and dropped without coordination: each of them exchanges the
two dispositions and later restores them, and these four steps may stand in any order among the
steps of other guards.  That a guard which is left alone is taken by `Guard.install` and dropped by
`Guard.release` is `Phase.advance_install` and `Phase.advance_release`.

A disposition that is not default handling is like a token.  An exchange takes it from the process
to a guard, a restoration takes it back, and a guard that found default handling has nothing to
give back.  So it has one holder at every moment (`State.conserved_run`), and it is with the process
when no guard holds anything (`run_conserves`), in whatever order the guards are dropped.
-/

namespace Delegation.Overlap

/-! ### One guard, one step at a time -/

/-- How far a guard has come. -/
inductive Phase where
  /-- It has not been taken. -/
  | waiting
  /-- It has taken SIGINT. -/
  | holdsInterrupt (saved : Disposition)
  /-- It has taken both signals. -/
  | holdsBoth (guard : Guard)
  /-- It has restored SIGINT. -/
  | holdsTerminate (saved : Disposition)
  /-- It has restored both signals. -/
  | dropped
deriving DecidableEq

namespace Phase

/-- What a guard has saved for a signal and not restored yet. -/
def saved? : Phase → Signal → Option Disposition
  | holdsInterrupt x, .interrupt => some x
  | holdsBoth g, s => some (g.saved.get s)
  | holdsTerminate x, .terminate => some x
  | _, _ => none

/-- The next step of a guard: its phase and the dispositions of the process after it. -/
def advance (p : Phase) (d : Dispositions) : Phase × Dispositions :=
  match p with
  | waiting =>
    let taken := d.exchange .interrupt
    (holdsInterrupt taken.1, taken.2)
  | holdsInterrupt x =>
    let taken := d.exchange .terminate
    (holdsBoth ⟨⟨x, taken.1⟩⟩, taken.2)
  | holdsBoth g => (holdsTerminate g.saved.terminate, d.restore .interrupt g.saved.interrupt)
  | holdsTerminate x => (dropped, d.restore .terminate x)
  | dropped => (dropped, d)

/-- The first two steps of a guard, one directly after the other, take it. -/
lemma advance_install (d : Dispositions) :
    (waiting.advance d).1.advance (waiting.advance d).2 =
      (holdsBoth (Guard.install d).1, (Guard.install d).2) := rfl

/-- The last two steps of a guard, one directly after the other, drop it. -/
lemma advance_release (g : Guard) (d : Dispositions) :
    ((holdsBoth g).advance d).1.advance ((holdsBoth g).advance d).2 = (dropped, g.release d) := rfl

/-- **What a step does to one signal.**  It leaves the signal alone, it takes the signal from the
process to the guard, or it ends what the guard has saved, and then the process gets it back unless
it is default handling. -/
lemma advance_cases (p : Phase) (d : Dispositions) (s : Signal) :
    ((p.advance d).1.saved? s = p.saved? s ∧ (p.advance d).2.get s = d.get s) ∨
      (p.saved? s = none ∧ (p.advance d).1.saved? s = some (d.get s) ∧
        (p.advance d).2.get s = .default) ∨
      ∃ x, p.saved? s = some x ∧ (p.advance d).1.saved? s = none ∧
        (p.advance d).2.get s = if x = .default then d.get s else x := by
  cases p with
  | waiting =>
    cases s with
    | interrupt => exact Or.inr (Or.inl ⟨rfl, rfl, rfl⟩)
    | terminate => exact Or.inl ⟨rfl, rfl⟩
  | holdsInterrupt x =>
    cases s with
    | interrupt => exact Or.inl ⟨rfl, rfl⟩
    | terminate => exact Or.inr (Or.inl ⟨rfl, rfl, rfl⟩)
  | holdsBoth g =>
    cases s with
    | interrupt => exact Or.inr (Or.inr ⟨_, rfl, rfl, d.get_restore_self .interrupt _⟩)
    | terminate => exact Or.inl ⟨rfl, d.get_restore_of_ne _ (by simp)⟩
  | holdsTerminate x =>
    cases s with
    | interrupt => exact Or.inl ⟨rfl, d.get_restore_of_ne _ (by simp)⟩
    | terminate => exact Or.inr (Or.inr ⟨x, rfl, rfl, d.get_restore_self .terminate _⟩)
  | dropped => exact Or.inl ⟨rfl, rfl⟩

end Phase

/-! ### Many guards -/

/-- Those who may hold a disposition. -/
inductive Holder (ι : Type) where
  /-- The process, whose disposition is in force. -/
  | process
  /-- A guard, which has saved the disposition. -/
  | guard (i : ι)

/-- The state of all guards. -/
structure State (ι : Type) where
  /-- The dispositions of the process. -/
  dispositions : Dispositions
  /-- How far each guard has come. -/
  phase : ι → Phase

namespace State

variable {ι : Type}

/-- No guard has been taken. -/
def start (d : Dispositions) : State ι :=
  ⟨d, fun _ => .waiting⟩

/-- What somebody holds for a signal.  A guard holds nothing before it has taken the signal and
after it has restored it. -/
def holding (st : State ι) (s : Signal) : Holder ι → Option Disposition
  | .process => some (st.dispositions.get s)
  | .guard i => (st.phase i).saved? s

/-- One holder has the disposition, and all others have default handling. -/
def HeldBy (st : State ι) (s : Signal) (x : Disposition) (h : Holder ι) : Prop :=
  st.holding s h = some x ∧ ∀ h' y, h' ≠ h → st.holding s h' = some y → y = .default

/-- A disposition other than default handling has no second holder. -/
lemma HeldBy.unique {st : State ι} {s : Signal} {x : Disposition} {h h' : Holder ι}
    (hx : x ≠ .default) (hheld : st.HeldBy s x h) (hh' : st.holding s h' = some x) : h' = h := by
  by_contra hne
  exact hx (hheld.2 h' x hne hh')

lemma heldBy_start (d : Dispositions) (s : Signal) :
    (start d : State ι).HeldBy s (d.get s) .process := by
  refine ⟨rfl, ?_⟩
  intro h' y hne hy
  cases h' with
  | process => exact absurd rfl hne
  | guard j => cases hy

/-- When no guard holds anything, the process has its dispositions back. -/
lemma HeldBy.get_of_idle {st : State ι} {s : Signal} {x : Disposition} {h : Holder ι}
    (hheld : st.HeldBy s x h)
    (hidle : ∀ i, st.phase i = .waiting ∨ st.phase i = .dropped) : st.dispositions.get s = x := by
  cases h with
  | process => exact Option.some.inj hheld.1
  | guard i =>
    have hsaved := hheld.1
    rcases hidle i with hi | hi
    · simp [holding, hi, Phase.saved?] at hsaved
    · simp [holding, hi, Phase.saved?] at hsaved

variable [DecidableEq ι]

/-- The state after the next step of a guard. -/
def step (st : State ι) (i : ι) : State ι :=
  let next := (st.phase i).advance st.dispositions
  ⟨next.2, setAt st.phase i next.1⟩

/-- The state after several steps. -/
def run (st : State ι) (moves : List ι) : State ι :=
  moves.foldl step st

variable {st : State ι} {s : Signal} {x : Disposition} {i : ι}

lemma holding_step_self :
    (st.step i).holding s (.guard i) = ((st.phase i).advance st.dispositions).1.saved? s := by
  simp only [holding, step, setAt_self]

/-- A step leaves alone what others hold. -/
lemma holding_step_of_other {h : Holder ι} (hprocess : h ≠ .process) (hguard : h ≠ .guard i) :
    (st.step i).holding s h = st.holding s h := by
  cases h with
  | process => exact absurd rfl hprocess
  | guard j =>
    have hj : j ≠ i := fun heq => hguard (congrArg Holder.guard heq)
    simp only [holding, step, setAt_of_ne _ _ hj]

/-- A step that takes a signal hands what the process had over to the guard. -/
lemma heldBy_of_taken {h : Holder ι} (hheld : st.HeldBy s x h)
    (hnone : st.holding s (.guard i) = none)
    (hguard : (st.step i).holding s (.guard i) = st.holding s .process)
    (hprocess : (st.step i).holding s .process = some .default) :
    ∃ h', (st.step i).HeldBy s x h' := by
  have hdefault : ∀ y, (st.step i).holding s .process = some y → y = .default := by
    intro y hy
    rw [hprocess] at hy
    exact (Option.some.inj hy).symm
  by_cases hp : h = .process
  · subst hp
    refine ⟨.guard i, hguard.trans hheld.1, ?_⟩
    intro h' y hne hy
    by_cases hp' : h' = .process
    · subst hp'
      exact hdefault y hy
    · rw [holding_step_of_other hp' hne] at hy
      exact hheld.2 h' y hp' hy
  · have hi : h ≠ .guard i := by
      rintro rfl
      rw [hheld.1] at hnone
      cases hnone
    refine ⟨h, (holding_step_of_other hp hi).trans hheld.1, ?_⟩
    intro h' y hne hy
    by_cases hp' : h' = .process
    · subst hp'
      exact hdefault y hy
    · by_cases hi' : h' = .guard i
      · -- What the guard found was default handling, because somebody else has the disposition.
        subst hi'
        exact hheld.2 .process y (Ne.symm hp) (hguard.symm.trans hy)
      · rw [holding_step_of_other hp' hi'] at hy
        exact hheld.2 h' y hne hy

/-- A step that restores a signal hands what the guard had back to the process, or ends what did not
count. -/
lemma heldBy_of_restored {h : Holder ι} {z : Disposition} (hheld : st.HeldBy s x h)
    (hsome : st.holding s (.guard i) = some z)
    (hguard : (st.step i).holding s (.guard i) = none)
    (hprocess : (st.step i).holding s .process =
      if z = .default then st.holding s .process else some z) :
    ∃ h', (st.step i).HeldBy s x h' := by
  have hgone : ∀ y, (st.step i).holding s (.guard i) ≠ some y := by simp [hguard]
  by_cases hi : h = .guard i
  · subst hi
    have hz : z = x := Option.some.inj (hsome.symm.trans hheld.1)
    subst hz
    refine ⟨.process, ?_, ?_⟩
    · rw [hprocess]
      split
      · -- All others had default handling, the process too.
        have hdefault := hheld.2 .process (st.dispositions.get s) (by simp) rfl
        rw [holding, hdefault]
        exact congrArg some (Eq.symm ‹_›)
      · rfl
    · intro h' y hne hy
      by_cases hi' : h' = .guard i
      · subst hi'
        exact absurd hy (hgone y)
      · rw [holding_step_of_other hne hi'] at hy
        exact hheld.2 h' y hi' hy
  · have hz : z = .default := hheld.2 _ z (Ne.symm hi) hsome
    rw [if_pos hz] at hprocess
    have hsame : ∀ h', h' ≠ .guard i → (st.step i).holding s h' = st.holding s h' := by
      intro h' hi'
      by_cases hp' : h' = .process
      · rw [hp', hprocess]
      · exact holding_step_of_other hp' hi'
    refine ⟨h, (hsame h hi).trans hheld.1, ?_⟩
    intro h' y hne hy
    by_cases hi' : h' = .guard i
    · subst hi'
      exact absurd hy (hgone y)
    · rw [hsame h' hi'] at hy
      exact hheld.2 h' y hne hy

/-- **One step keeps a disposition with one holder.** -/
lemma heldBy_step {h : Holder ι} (hheld : st.HeldBy s x h) (i : ι) :
    ∃ h', (st.step i).HeldBy s x h' := by
  rcases (st.phase i).advance_cases st.dispositions s with
    ⟨hguard, hprocess⟩ | ⟨hnone, hguard, hprocess⟩ | ⟨z, hsome, hguard, hprocess⟩
  · have hsame : (st.step i).holding s = st.holding s := by
      funext h'
      by_cases hp : h' = .process
      · rw [hp]
        exact congrArg some hprocess
      · by_cases hi : h' = .guard i
        · rw [hi]
          exact holding_step_self.trans hguard
        · exact holding_step_of_other hp hi
    refine ⟨h, ?_⟩
    rw [HeldBy, hsame]
    exact hheld
  · exact heldBy_of_taken hheld hnone (holding_step_self.trans hguard) (congrArg some hprocess)
  · refine heldBy_of_restored hheld hsome (holding_step_self.trans hguard) ?_
    refine (congrArg some hprocess).trans ?_
    split <;> rfl

/-- A whole run keeps a disposition with one holder. -/
lemma conserved_run {h : Holder ι} (hheld : st.HeldBy s x h) (moves : List ι) :
    ∃ h', (st.run moves).HeldBy s x h' := by
  induction moves generalizing st h with
  | nil => exact ⟨h, hheld⟩
  | cons i moves ih =>
    obtain ⟨h', hstep⟩ := heldBy_step hheld i
    exact ih hstep

end State

/-- **Overlapping guards lose no handler.**  After any steps of any guards, a disposition other than
default handling that was there at first has exactly one holder, the process or a guard that has
taken the signal and not restored it, and all other holders have default handling.  When every guard
that was taken has been dropped, the process has its first dispositions again. -/
theorem run_conserves {ι : Type} [DecidableEq ι] (d : Dispositions) (moves : List ι) :
    (∀ s, d.get s ≠ .default →
      ∃ h, ((State.start d).run moves).holding s h = some (d.get s) ∧
        (∀ h', ((State.start d).run moves).holding s h' = some (d.get s) → h' = h) ∧
        ∀ h' x, h' ≠ h → ((State.start d).run moves).holding s h' = some x → x = .default) ∧
    ((∀ i, ((State.start d).run moves).phase i = .waiting ∨
        ((State.start d).run moves).phase i = .dropped) →
      ((State.start d).run moves).dispositions = d) := by
  constructor
  · intro s hd
    obtain ⟨h, hheld⟩ := State.conserved_run (State.heldBy_start d s) moves
    exact ⟨h, hheld.1, fun h' hh' => hheld.unique hd hh', hheld.2⟩
  · intro hidle
    refine Dispositions.ext_get fun s => ?_
    obtain ⟨h, hheld⟩ := State.conserved_run (State.heldBy_start d s) moves
    exact hheld.get_of_idle hidle

/-- One guard takes SIGINT before the other one, and SIGTERM after it, so that each of them holds
one of two handlers; the guard that was first in line is also dropped first. -/
theorem run_conserves_crossed :
    let d : Dispositions := ⟨.handler 1, .ignore⟩
    let taken : List Bool := [false, true, true, false]
    let all : List Bool := taken ++ [false, false, true, true]
    d.get .interrupt ≠ .default ∧
      ((State.start d).run taken).dispositions = {} ∧
      (∃ h, ((State.start d).run taken).holding .interrupt h = some (.handler 1) ∧
        (∀ h', ((State.start d).run taken).holding .interrupt h' = some (.handler 1) → h' = h) ∧
        ∀ h' x, h' ≠ h → ((State.start d).run taken).holding .interrupt h' = some x →
          x = .default) ∧
      (∀ i, ((State.start d).run all).phase i = .waiting ∨
        ((State.start d).run all).phase i = .dropped) ∧
      ((State.start d).run all).dispositions = d := by
  intro d taken all
  have hhandler : d.get .interrupt ≠ .default := by decide
  have hidle : ∀ i, ((State.start d).run all).phase i = .waiting ∨
      ((State.start d).run all).phase i = .dropped := by decide
  exact ⟨hhandler, by decide, (run_conserves d taken).1 .interrupt hhandler, hidle,
    (run_conserves d all).2 hidle⟩

end Delegation.Overlap
