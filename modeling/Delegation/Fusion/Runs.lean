import Delegation.Graph.Basic
/-!
# Runs of nodes

A node list falls into segments: single nodes that a test refuses, and maximal runs of consecutive
nodes that it accepts.  Putting the segments together again gives back the list
(`nodesOf_ofNodes`).

A `Scan` finds the positions of the runs in one pass over the list, without the segments.
-/

namespace Delegation

/-- A part of a node list. -/
inductive Segment where
  /-- A node that stays as it is. -/
  | kept (node : Node)
  /-- Consecutive nodes that pass a test. -/
  | run (nodes : List Node)

namespace Segment

/-- The nodes of a segment. -/
def nodes : Segment → List Node
  | kept n => [n]
  | run ns => ns

/-- The nodes of several segments. -/
def nodesOf (segments : List Segment) : List Node :=
  segments.flatMap nodes

/-- Put a node that passes the test in front: it joins a run that starts right after it. -/
def extend (n : Node) : List Segment → List Segment
  | run ns :: rest => run (n :: ns) :: rest
  | rest => run [n] :: rest

/-- The segments of a node list. -/
def ofNodes (test : Node → Bool) : List Node → List Segment
  | [] => []
  | n :: ns => if test n then extend n (ofNodes test ns) else kept n :: ofNodes test ns

/-- The positions of the runs of at least the given length, each as the position of its first node
and the position after its last one. -/
def longRuns (floor : Nat) : Nat → List Segment → List (Nat × Nat)
  | _, [] => []
  | i, kept _ :: rest => longRuns floor (i + 1) rest
  | i, run ns :: rest =>
    let later := longRuns floor (i + ns.length) rest
    if floor ≤ ns.length then (i, i + ns.length) :: later else later

theorem nodesOf_extend (n : Node) (segments : List Segment) :
    nodesOf (extend n segments) = n :: nodesOf segments := by
  match segments with
  | [] => rfl
  | run ns :: rest => simp [extend, nodesOf, nodes]
  | kept m :: rest => simp [extend, nodesOf, nodes]

/-- The segments of a list hold exactly its nodes, in order. -/
theorem nodesOf_ofNodes (test : Node → Bool) (ns : List Node) :
    nodesOf (ofNodes test ns) = ns := by
  induction ns with
  | nil => rfl
  | cons n ns ih =>
    by_cases h : test n
    · simp [ofNodes, h, nodesOf_extend, ih]
    · simp only [ofNodes, h, if_neg, Bool.false_eq_true, not_false_eq_true]
      simpa [nodesOf, nodes] using ih

end Segment

/-- What a scan of a node list has found so far. -/
structure Scan where
  /-- The runs that have ended, each as the position of its first node and the position after its
  last one. -/
  ended : List (Nat × Nat)
  /-- The position of the first node of a run that has not ended. -/
  current? : Option Nat
deriving DecidableEq, Repr

namespace Scan

/-- Scan a node at a position. -/
def step (test : Node → Bool) (s : Scan) (entry : Node × Nat) : Scan :=
  match test entry.1, s.current? with
  | true, none => { s with current? := some entry.2 }
  | false, some first => ⟨s.ended ++ [(first, entry.2)], none⟩
  | _, _ => s

/-- All runs of a list that ends at a position: a run that has not ended before ends there. -/
def finish (s : Scan) (last : Nat) : List (Nat × Nat) :=
  match s.current? with
  | some first => s.ended ++ [(first, last)]
  | none => s.ended

/-- The runs of a node list. -/
def runs (test : Node → Bool) (ns : List Node) : List (Nat × Nat) :=
  (ns.zipIdx.foldl (step test) ⟨[], none⟩).finish ns.length

end Scan

end Delegation
