import Delegation.Graph.Valid
/-!
# The interface of a region

A region is a list of consecutive nodes that is taken out of a graph.  It takes the values that
its nodes read before any node of the region produces them, and gives the values that its nodes
produce and that are still needed.  Both lists are in the order of first occurrence.
-/

namespace Delegation

/-- The members of a list without repetitions, in the order of first occurrence. -/
def distinct {α : Type} [DecidableEq α] : List α → List α
  | [] => []
  | a :: as => a :: (distinct as).filter (· ≠ a)

namespace Region

/-- The values that nodes read although none of the known values and no earlier node gives them,
in the order of reading. -/
def reads (known : List ValueId) : List Node → List ValueId
  | [] => []
  | n :: ns => n.inputs.filter (· ∉ known) ++ reads (known ++ n.outputs) ns

/-- The values that a region takes. -/
def inputs (ns : List Node) : List ValueId :=
  distinct (reads [] ns)

/-- The values that a region gives when the values in `needed` are still needed. -/
def outputs (ns : List Node) (needed : List ValueId) : List ValueId :=
  distinct ((produced ns).filter (· ∈ needed))

/-- The block that holds a region. -/
def block (ns : List Node) (needed : List ValueId) : Block Node :=
  ⟨inputs ns, ns, outputs ns needed⟩

end Region

theorem mem_distinct {α : Type} [DecidableEq α] {a : α} {as : List α} :
    a ∈ distinct as ↔ a ∈ as := by
  induction as with
  | nil => simp [distinct]
  | cons b bs ih =>
    by_cases h : a = b
    · simp [distinct, h]
    · simp [distinct, ih, h]

theorem nodup_distinct {α : Type} [DecidableEq α] (as : List α) : (distinct as).Nodup := by
  induction as with
  | nil => simp [distinct]
  | cons b bs ih =>
    refine List.nodup_cons.mpr ⟨by simp, ?_⟩
    exact ih.sublist List.filter_sublist

end Delegation
