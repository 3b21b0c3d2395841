/-!
# Signal dispositions and guards

A host often installs handlers for SIGINT and SIGTERM that only set a flag.  While delegated code
runs nobody looks at the flag, so a guard puts both signals back to default handling and restores
afterwards what it found.  Taking a guard is two exchanges, one for each signal, and dropping it is
two restorations; a restoration of default handling is left out.
-/

namespace Delegation

/-- The signals that a guard covers. -/
inductive Signal where
  /-- SIGINT. -/
  | interrupt
  /-- SIGTERM. -/
  | terminate
deriving DecidableEq, Repr

/-- What the process does on a signal. -/
inductive Disposition where
  /-- The default of the system. -/
  | default
  /-- Nothing. -/
  | ignore
  /-- A handler of the process, by its number. -/
  | handler (id : Nat)
deriving DecidableEq, Repr

/-- The dispositions of the process. -/
structure Dispositions where
  /-- For SIGINT. -/
  interrupt : Disposition := .default
  /-- For SIGTERM. -/
  terminate : Disposition := .default
deriving DecidableEq, Repr

namespace Dispositions

/-- The disposition for a signal. -/
def get (d : Dispositions) : Signal → Disposition
  | .interrupt => d.interrupt
  | .terminate => d.terminate

/-- Set the disposition for a signal. -/
def set (d : Dispositions) (s : Signal) (x : Disposition) : Dispositions :=
  match s with
  | .interrupt => { d with interrupt := x }
  | .terminate => { d with terminate := x }

/-- Put a signal back to default handling; what it had before comes back. -/
def exchange (d : Dispositions) (s : Signal) : Disposition × Dispositions :=
  (d.get s, d.set s .default)

/-- Give a signal back what was saved for it, unless that is default handling. -/
def restore (d : Dispositions) (s : Signal) (saved : Disposition) : Dispositions :=
  if saved = .default then d else d.set s saved

@[simp] theorem get_set_self (d : Dispositions) (s : Signal) (x : Disposition) :
    (d.set s x).get s = x := by
  cases s <;> rfl

theorem get_set_of_ne (d : Dispositions) {s t : Signal} (x : Disposition) (h : t ≠ s) :
    (d.set s x).get t = d.get t := by
  cases s <;> cases t
  · exact absurd rfl h
  · rfl
  · rfl
  · exact absurd rfl h

end Dispositions

/-- What was found when default handling was installed. -/
structure Guard where
  /-- The dispositions that were saved. -/
  saved : Dispositions
deriving DecidableEq, Repr

namespace Guard

/-- Take a guard: first SIGINT, then SIGTERM. -/
def install (d : Dispositions) : Guard × Dispositions :=
  let first := d.exchange .interrupt
  let second := first.2.exchange .terminate
  (⟨⟨first.1, second.1⟩⟩, second.2)

/-- Drop a guard: first SIGINT, then SIGTERM. -/
def release (g : Guard) (d : Dispositions) : Dispositions :=
  (d.restore .interrupt g.saved.interrupt).restore .terminate g.saved.terminate

end Guard

end Delegation
