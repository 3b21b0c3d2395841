import Delegation.Fusion.Runs
import Mathlib.Tactic.Common
/-!
# Scans and segments

A scan goes over the nodes once and keeps only the position at which the current run started.  The
runs that it finds are those of the segments of the list (`Scan.runs_eq`): what it has still to find
is the runs of the segments ahead, of which the first one may prolong the run that is open
(`Scan.ahead`).
-/

namespace Delegation

namespace Scan

/-- The runs that end at or after a position, if the given run is open there and `segments` are
ahead. -/
def ahead : Option Nat → Nat → List Segment → List (Nat × Nat)
  | none, i, segments => Segment.longRuns 0 i segments
  | some first, i, .run ns :: rest =>
    (first, i + ns.length) :: Segment.longRuns 0 (i + ns.length) rest
  | some first, i, segments => (first, i) :: Segment.longRuns 0 i segments

/-- A node that passes the test prolongs the open run, or opens one. -/
lemma ahead_extend (first? : Option Nat) (i : Nat) (n : Node) (segments : List Segment) :
    ahead first? i (Segment.extend n segments) =
      ahead (some (first?.getD i)) (i + 1) segments := by
  have hlength (ms : List Node) : i + (n :: ms).length = i + 1 + ms.length := by
    rw [List.length_cons, Nat.add_assoc, Nat.add_comm 1]
  cases first? with
  | none =>
    match segments with
    | [] => rfl
    | .kept m :: rest => rfl
    | .run ms :: rest =>
      simp only [Segment.extend, ahead, Segment.longRuns, Nat.zero_le, if_true, hlength,
        Option.getD_none]
  | some first =>
    match segments with
    | [] => rfl
    | .kept m :: rest => rfl
    | .run ms :: rest => simp only [Segment.extend, ahead, hlength, Option.getD_some]

/-- **What a scan finds** from a position on: the runs that it has, and those that are ahead. -/
lemma finish_foldl (test : Node → Bool) (ns : List Node) (i : Nat) (s : Scan) :
    ((ns.zipIdx i).foldl (step test) s).finish (i + ns.length) =
      s.ended ++ ahead s.current? i (Segment.ofNodes test ns) := by
  induction ns generalizing i s with
  | nil =>
    obtain ⟨ended, first?⟩ := s
    cases first? with
    | none => exact (List.append_nil ended).symm
    | some first => rfl
  | cons n ns ih =>
    have hlength : i + (n :: ns).length = i + 1 + ns.length := by
      rw [List.length_cons, Nat.add_assoc, Nat.add_comm 1]
    rw [List.zipIdx_cons, List.foldl_cons, hlength, ih, Segment.ofNodes]
    obtain ⟨ended, first?⟩ := s
    cases htest : test n with
    | true =>
      rw [if_pos rfl, ahead_extend]
      cases first? with
      | none => simp only [step, htest, Option.getD_none]
      | some first => simp only [step, htest, Option.getD_some]
    | false =>
      rw [if_neg Bool.false_ne_true]
      cases first? with
      | none => simp only [step, htest, ahead, Segment.longRuns]
      | some first => simp only [step, htest, ahead, Segment.longRuns, List.append_assoc,
          List.singleton_append]

/-- **A scan finds the runs of the segments.** -/
lemma runs_eq (test : Node → Bool) (ns : List Node) :
    runs test ns = Segment.longRuns 0 0 (Segment.ofNodes test ns) := by
  have h := finish_foldl test ns 0 ⟨[], none⟩
  rw [Nat.zero_add] at h
  exact h

end Scan

/-- Runs that are too short can also be left out afterwards. -/
lemma Segment.filter_longRuns (floor i : Nat) (segments : List Segment) :
    (longRuns 0 i segments).filter (fun r => floor ≤ r.2 - r.1) = longRuns floor i segments := by
  induction segments generalizing i with
  | nil => rfl
  | cons segment rest ih =>
    cases segment with
    | kept n => exact ih (i + 1)
    | run ns =>
      simp only [longRuns, Nat.zero_le, if_true, List.filter_cons, Nat.add_sub_cancel_left, ih,
        decide_eq_true_eq]

end Delegation
