import Delegation.Value
/-!
# The host call stack

Delegated operations take their arguments from the top of the stack and leave their results there.
The view of a stack is `toList`, the bottom first; `toList_push`, `toList_ofList` and
`popMany_of_toList` describe the operations through it.  An operation that fails for want of values
changes nothing.
-/

namespace Delegation

/-- A call stack. -/
structure Stack where
  /-- The values, the top first. -/
  cells : List Value
deriving Repr

namespace Stack

/-- The empty stack. -/
def empty : Stack :=
  ⟨[]⟩

/-- The stack with the given values, the bottom first. -/
def ofList (values : List Value) : Stack :=
  ⟨values.reverse⟩

/-- The values, the bottom first. -/
def toList (s : Stack) : List Value :=
  s.cells.reverse

/-- The number of values. -/
def size (s : Stack) : Nat :=
  s.cells.length

/-- Put a value on top. -/
def push (s : Stack) (v : Value) : Stack :=
  ⟨v :: s.cells⟩

/-- The value on top. -/
def top? (s : Stack) : Option Value :=
  s.cells.head?

/-- Take the value on top. -/
def pop (s : Stack) : Except Fault (Value × Stack) :=
  match s.cells with
  | v :: rest => .ok (v, ⟨rest⟩)
  | [] => .error (.stackUnderflow 1 0)

/-- Take the `n` values on top, in the order in which they were pushed. -/
def popMany (s : Stack) (n : Nat) : Except Fault (List Value × Stack) :=
  if n ≤ s.size then .ok ((s.cells.take n).reverse, ⟨s.cells.drop n⟩)
  else .error (.stackUnderflow n s.size)

/-- Put several values on top, the first one first. -/
def pushAll (s : Stack) (values : List Value) : Stack :=
  values.foldl push s

@[simp] theorem toList_ofList (values : List Value) : (ofList values).toList = values := by
  simp [ofList, toList]

@[simp] theorem toList_push (s : Stack) (v : Value) : (s.push v).toList = s.toList ++ [v] := by
  simp [push, toList]

@[simp] theorem toList_pushAll (s : Stack) (values : List Value) :
    (s.pushAll values).toList = s.toList ++ values := by
  induction values generalizing s with
  | nil => simp [pushAll]
  | cons v vs ih =>
    have h := ih (s.push v)
    simp only [pushAll, List.foldl_cons] at h ⊢
    rw [h]
    simp

/-- Taking as many values as were put on top gives them back, in order. -/
theorem popMany_of_toList {s : Stack} {below values : List Value}
    (h : s.toList = below ++ values) : s.popMany values.length = .ok (values, ofList below) := by
  have hcells : s.cells = values.reverse ++ below.reverse := by
    rw [← List.reverse_append, ← h, toList, List.reverse_reverse]
  have hlen : values.length ≤ s.size := by
    rw [size, hcells, List.length_append, List.length_reverse]
    exact Nat.le_add_right _ _
  have htake : s.cells.take values.length = values.reverse := by
    rw [hcells, ← List.length_reverse, List.take_left]
  have hdrop : s.cells.drop values.length = below.reverse := by
    rw [hcells, ← List.length_reverse, List.drop_left]
  rw [popMany, if_pos hlen, htake, hdrop, List.reverse_reverse, ofList]

end Stack

end Delegation
