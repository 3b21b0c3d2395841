import Delegation.Value
import Mathlib.Algebra.Group.Nat.Defs
/-!
# Tensors of a shape

The elements that a shape calls for are counted axis by axis, and the count has to fit a machine
word all the way.  `Tensor.HasShape` says of a tensor, in terms of the products of the extents
alone, that its data matches its shape; `Tensor.hasShape_iff_make` says that these are the tensors
that can be made.  A tensor of a shape keeps it when its numbers are replaced by as many others.
-/

namespace Delegation.Tensor

/-- The tensor has the shape, and its data matches it. -/
structure HasShape (shape : List UInt64) (t : Tensor) : Prop where
  /-- It has the shape. -/
  shape_eq : t.shape = shape
  /-- There are as many numbers as the product of the extents. -/
  length_eq : (shape.map UInt64.toNat).prod = t.data.length
  /-- A machine word holds this product and the ones that it is counted by. -/
  fits : ∀ k, ((shape.take k).map UInt64.toNat).prod < UInt64.size

variable {shape : List UInt64} {data : List Single} {t : Tensor} {volume : Nat}

/-! ### Counting elements -/

lemma extend?_eq_some_iff {count : Nat} {extent : UInt64} :
    extend? count extent = some volume ↔
      count * extent.toNat = volume ∧ count * extent.toNat < UInt64.size := by
  rw [extend?]
  split
  · simp [*]
  · simp [*]

/-- The count goes on from what it has come to, and stops at the first product that does not fit. -/
lemma foldlM_extend?_eq_some_iff {count : Nat} (hcount : count < UInt64.size) :
    shape.foldlM extend? count = some volume ↔
      count * (shape.map UInt64.toNat).prod = volume ∧
        ∀ k, count * ((shape.take k).map UInt64.toNat).prod < UInt64.size := by
  induction shape generalizing count with
  | nil => simp [hcount]
  | cons extent shape ih =>
    rw [List.foldlM_cons, Option.bind_eq_bind, Option.bind_eq_some_iff]
    constructor
    · rintro ⟨next, hnext, hrest⟩
      obtain ⟨rfl, hfits⟩ := extend?_eq_some_iff.mp hnext
      obtain ⟨hvolume, hall⟩ := (ih hfits).mp hrest
      refine ⟨by rwa [List.map_cons, List.prod_cons, ← mul_assoc], fun k => ?_⟩
      cases k with
      | zero => simpa using hcount
      | succ k =>
        simpa only [List.take_succ_cons, List.map_cons, List.prod_cons, ← mul_assoc] using hall k
    · rintro ⟨hvolume, hall⟩
      -- The product up to the first axis is the one that the step checks.
      have hfits : count * extent.toNat < UInt64.size := by simpa using hall 1
      refine ⟨_, extend?_eq_some_iff.mpr ⟨rfl, hfits⟩, (ih hfits).mpr ⟨?_, fun k => ?_⟩⟩
      · rwa [List.map_cons, List.prod_cons, ← mul_assoc] at hvolume
      · simpa only [List.take_succ_cons, List.map_cons, List.prod_cons, ← mul_assoc]
          using hall (k + 1)

lemma volume?_eq_some_iff :
    volume? shape = some volume ↔ (shape.map UInt64.toNat).prod = volume ∧
      ∀ k, ((shape.take k).map UInt64.toNat).prod < UInt64.size := by
  have hone : 1 < UInt64.size := by decide
  rw [volume?, foldlM_extend?_eq_some_iff hone]
  simp only [one_mul]

/-! ### Making tensors -/

lemma make_eq_returned_iff :
    make shape data = .returned t ↔ volume? shape = some data.length ∧ t = ⟨shape, data⟩ := by
  rw [make]
  split
  · simp [*]
  · split
    · simp [*, eq_comm]
    · simp [*]

/-- **A tensor has a shape exactly if it can be made** from the shape and its numbers. -/
lemma hasShape_iff_make : t.HasShape shape ↔ make shape t.data = .returned t := by
  rw [make_eq_returned_iff, volume?_eq_some_iff]
  constructor
  · rintro ⟨rfl, hlength, hfits⟩
    exact ⟨⟨hlength, hfits⟩, rfl⟩
  · rintro ⟨⟨hlength, hfits⟩, ht⟩
    exact ⟨congrArg Tensor.shape ht, hlength, hfits⟩

/-- The shape calls for no element, but the count does not fit before it comes to the zero. -/
example : make [2 ^ 63, 2, 0] [] = .panicked "attempt to multiply with overflow" := by
  cbv

namespace HasShape

/-- Other numbers, if there are as many, can take the place of those of a tensor. -/
lemma make (h : t.HasShape shape) (hlength : data.length = t.data.length) :
    Tensor.make t.shape data = .returned ⟨t.shape, data⟩ ∧ HasShape shape ⟨t.shape, data⟩ := by
  obtain ⟨rfl, hdata, hfits⟩ := h
  have hshape : HasShape t.shape ⟨t.shape, data⟩ := ⟨rfl, hdata.trans hlength.symm, hfits⟩
  exact ⟨hasShape_iff_make.mp hshape, hshape⟩

/-- Applying a function to the elements keeps the shape. -/
lemma mapData (h : t.HasShape shape) (f : Single → Single) :
    t.mapData f = .returned ⟨t.shape, t.data.map f⟩ ∧ HasShape shape ⟨t.shape, t.data.map f⟩ :=
  h.make (List.length_map f)

end HasShape

end Delegation.Tensor
