import Delegation.Fusion.Runs
import Mathlib.Tactic.Common
/-!
# Maximal runs of a list

A maximal run of a list is an interval of positions whose members all have a property, and which no
neighbouring position prolongs.  Maximal runs are said by positions alone, without the segments into
which a fuser cuts a list.

The maximal runs of two lists put together are those of either list, as long as no run goes across
the seam (`maximalRun_append`).  Segments meet only at such seams (`Segment.Separated`), and so the
long runs of segments are exactly the long maximal runs (`Segment.Separated.mem_longRuns`).
-/

namespace Delegation

variable {α : Type} {P : α → Prop}

/-- The positions from `first` up to but not including `last` are a maximal run of members with the
property `P`. -/
structure MaximalRun (P : α → Prop) (as : List α) (first last : Nat) : Prop where
  /-- There is a position in it. -/
  nonempty : first < last
  /-- It lies within the list. -/
  within : last ≤ as.length
  /-- Its members have the property. -/
  passes : ∀ k a, first ≤ k → k < last → as[k]? = some a → P a
  /-- The member before it, if there is one, has not. -/
  stops_before : ∀ k a, k + 1 = first → as[k]? = some a → ¬ P a
  /-- The member after it, if there is one, has not. -/
  stops_after : ∀ a, as[last]? = some a → ¬ P a

/-- No run goes across the seam of two lists. -/
def Apart (P : α → Prop) (as bs : List α) : Prop :=
  ∀ a b, as.getLast? = some a → bs.head? = some b → P a → ¬ P b

namespace MaximalRun

variable {as bs : List α} {i j i' j' k : Nat}

/-- Of two maximal runs with a common position neither starts before the other: it would hold the
member before the other one. -/
lemma start_le_of_common (h : MaximalRun P as i j) (h' : MaximalRun P as i' j') (hj : k < j)
    (hi' : i' ≤ k) : i' ≤ i := by
  by_contra hlt
  have hwithin := h.within
  have hbefore : as[i' - 1]? = some as[i' - 1] := List.getElem?_eq_getElem (by omega)
  exact h'.stops_before (i' - 1) _ (by omega) hbefore
    (h.passes (i' - 1) _ (by omega) (by omega) hbefore)

/-- Of two maximal runs with a common position neither ends after the other: it would hold the
member after the other one. -/
lemma end_le_of_common (h : MaximalRun P as i j) (h' : MaximalRun P as i' j') (hi : i ≤ k)
    (hj' : k < j') : j ≤ j' := by
  by_contra hlt
  have hwithin := h.within
  have hafter : as[j']? = some as[j'] := List.getElem?_eq_getElem (by omega)
  exact h'.stops_after _ hafter (h.passes j' _ (by omega) (by omega) hafter)

/-- **Maximal runs with a common position are the same.** -/
lemma eq_of_common (h : MaximalRun P as i j) (h' : MaximalRun P as i' j') (hi : i ≤ k)
    (hj : k < j) (hi' : i' ≤ k) (hj' : k < j') : i = i' ∧ j = j' :=
  ⟨Nat.le_antisymm (h'.start_le_of_common h hj' hi) (h.start_le_of_common h' hj hi'),
    Nat.le_antisymm (h.end_le_of_common h' hi hj') (h'.end_le_of_common h hi' hj)⟩

/-- After a maximal run that ends within the list stands a member without the property. -/
lemma exists_after (h : MaximalRun P as i j) (hj : j < as.length) :
    ∃ a, as[j]? = some a ∧ ¬ P a :=
  ⟨as[j], List.getElem?_eq_getElem hj, h.stops_after _ (List.getElem?_eq_getElem hj)⟩

end MaximalRun

/-! ### Lists put together -/

section Append

variable {as bs : List α} {i j : Nat}

lemma not_maximalRun_nil : ¬ MaximalRun P [] i j := by
  intro h
  have hnonempty := h.nonempty
  have hwithin := h.within
  simp only [List.length_nil] at hwithin
  omega

lemma not_maximalRun_singleton {a : α} (ha : ¬ P a) : ¬ MaximalRun P [a] i j := by
  intro h
  have hnonempty := h.nonempty
  have hwithin := h.within
  simp only [List.length_singleton] at hwithin
  have hi : i = 0 := by omega
  exact ha (h.passes 0 a (by omega) (by omega) rfl)

/-- A list whose members all have the property is one run. -/
lemma maximalRun_of_forall (h : ∀ a ∈ as, P a) :
    MaximalRun P as i j ↔ as ≠ [] ∧ i = 0 ∧ j = as.length := by
  constructor
  · intro hrun
    have hnonempty := hrun.nonempty
    have hwithin := hrun.within
    have hne : as ≠ [] := by
      rintro rfl
      exact not_maximalRun_nil hrun
    refine ⟨hne, ?_, ?_⟩
    · by_contra hi
      have hlen : i - 1 < as.length := by omega
      exact hrun.stops_before (i - 1) _ (by omega) (List.getElem?_eq_getElem hlen)
        (h _ (List.getElem_mem hlen))
    · by_contra hj
      have hlen : j < as.length := by omega
      exact hrun.stops_after _ (List.getElem?_eq_getElem hlen) (h _ (List.getElem_mem hlen))
  · rintro ⟨hne, rfl, rfl⟩
    refine ⟨List.length_pos_iff.mpr hne, (Nat.le_refl _), ?_, ?_, ?_⟩
    · intro k a _ _ hk
      exact h a (List.mem_of_getElem? hk)
    · intro k a hk
      omega
    · intro a hlast
      simp at hlast

/-- A maximal run of the first list is one of both lists. -/
lemma MaximalRun.append_right (h : MaximalRun P as i j) (hseam : Apart P as bs) :
    MaximalRun P (as ++ bs) i j := by
  have hnonempty := h.nonempty
  have hwithin := h.within
  refine ⟨hnonempty, ?_, ?_, ?_, ?_⟩
  · rw [List.length_append]
    omega
  · intro k a hi hj hk
    rw [List.getElem?_append_left (by omega)] at hk
    exact h.passes k a hi hj hk
  · intro k a hi hk
    rw [List.getElem?_append_left (by omega)] at hk
    exact h.stops_before k a hi hk
  · intro b hb
    by_cases hj : j < as.length
    · rw [List.getElem?_append_left hj] at hb
      exact h.stops_after b hb
    · -- The run ends at the seam, and its last member is the last one before it.
      obtain rfl : j = as.length := by omega
      rw [List.getElem?_append_right (Nat.le_refl _), Nat.sub_self] at hb
      have hlen : as.length - 1 < as.length := by omega
      have hlast : as[as.length - 1]? = some as[as.length - 1] := List.getElem?_eq_getElem hlen
      have hpasses := h.passes _ _ (by omega) hlen hlast
      rw [← List.getLast?_eq_getElem?] at hlast
      rw [← List.head?_eq_getElem?] at hb
      exact hseam _ b hlast hb hpasses

/-- A maximal run of the second list is one of both lists. -/
lemma MaximalRun.append_left (h : MaximalRun P bs i j) (hseam : Apart P as bs) :
    MaximalRun P (as ++ bs) (as.length + i) (as.length + j) := by
  have hnonempty := h.nonempty
  have hwithin := h.within
  refine ⟨by omega, ?_, ?_, ?_, ?_⟩
  · rw [List.length_append]
    omega
  · intro k b hi hj hk
    rw [List.getElem?_append_right (by omega)] at hk
    exact h.passes (k - as.length) b (by omega) (by omega) hk
  · intro k a hi hk hpasses
    by_cases hstart : i = 0
    · -- The run starts at the seam, and its first member is the first one after it.
      obtain rfl : k = as.length - 1 := by omega
      have hlen : 0 < bs.length := by omega
      have hfirst : bs[0]? = some bs[0] := List.getElem?_eq_getElem hlen
      have hhead := hfirst
      rw [← List.head?_eq_getElem?] at hhead
      rw [List.getElem?_append_left (by omega), ← List.getLast?_eq_getElem?] at hk
      exact hseam a _ hk hhead hpasses (h.passes 0 _ (by omega) (by omega) hfirst)
    · rw [List.getElem?_append_right (by omega)] at hk
      exact h.stops_before (k - as.length) a (by omega) hk hpasses
  · intro b hb
    rw [List.getElem?_append_right (by omega), Nat.add_sub_cancel_left] at hb
    exact h.stops_after b hb

/-- **The maximal runs of two lists put together** are those of either list, if no run goes across
the seam. -/
lemma maximalRun_append (hseam : Apart P as bs) :
    MaximalRun P (as ++ bs) i j ↔
      MaximalRun P as i j ∨
        ∃ i' j', i = as.length + i' ∧ j = as.length + j' ∧ MaximalRun P bs i' j' := by
  constructor
  · intro h
    have hnonempty := h.nonempty
    have hwithin := h.within
    rw [List.length_append] at hwithin
    by_cases hi : i < as.length
    · refine Or.inl ⟨hnonempty, ?_, ?_, ?_, ?_⟩
      · -- Otherwise the run would hold both members at the seam.
        by_contra hj
        have hlast : as[as.length - 1]? = some as[as.length - 1] :=
          List.getElem?_eq_getElem (by omega)
        have hfirst : bs[0]? = some bs[0] := List.getElem?_eq_getElem (by omega)
        refine hseam as[as.length - 1] bs[0] ?_ ?_ ?_ ?_
        · rw [List.getLast?_eq_getElem?]
          exact hlast
        · rw [List.head?_eq_getElem?]
          exact hfirst
        · refine h.passes (as.length - 1) _ (by omega) (by omega) ?_
          rw [List.getElem?_append_left (by omega)]
          exact hlast
        · refine h.passes as.length _ (by omega) (by omega) ?_
          rw [List.getElem?_append_right (Nat.le_refl _), Nat.sub_self]
          exact hfirst
      · intro k a hik hkj hk
        have hlen := (List.getElem?_eq_some_iff.mp hk).1
        exact h.passes k a hik hkj (by rw [List.getElem?_append_left hlen, hk])
      · intro k a hik hk
        have hlen := (List.getElem?_eq_some_iff.mp hk).1
        exact h.stops_before k a hik (by rw [List.getElem?_append_left hlen, hk])
      · intro a ha
        have hlen := (List.getElem?_eq_some_iff.mp ha).1
        exact h.stops_after a (by rw [List.getElem?_append_left hlen, ha])
    · refine Or.inr ⟨i - as.length, j - as.length, by omega, by omega, by omega, by omega, ?_, ?_,
        ?_⟩
      · intro k b hik hkj hk
        refine h.passes (as.length + k) b (by omega) (by omega) ?_
        rw [List.getElem?_append_right (by omega), Nat.add_sub_cancel_left, hk]
      · intro k b hik hk
        refine h.stops_before (as.length + k) b (by omega) ?_
        rw [List.getElem?_append_right (by omega), Nat.add_sub_cancel_left, hk]
      · intro b hb
        refine h.stops_after b ?_
        rw [List.getElem?_append_right (by omega), hb]
  · rintro (h | ⟨i', j', rfl, rfl, h⟩)
    · exact h.append_right hseam
    · exact h.append_left hseam

end Append

/-! ### Segments -/

namespace Segment

variable {P : Node → Prop} {segments : List Segment} {floor offset : Nat}

/-- Kept nodes do not have the property, runs are not empty and hold only nodes that have it, and no
run follows right after another. -/
def Separated (P : Node → Prop) : List Segment → Prop
  | [] => True
  | kept n :: rest => ¬ P n ∧ Separated P rest
  | run ns :: rest =>
    ns ≠ [] ∧ (∀ n ∈ ns, P n) ∧ (∀ n, (nodesOf rest).head? = some n → ¬ P n) ∧ Separated P rest

lemma nodesOf_kept (n : Node) (rest : List Segment) :
    nodesOf (kept n :: rest) = [n] ++ nodesOf rest := rfl

lemma nodesOf_run (ns : List Node) (rest : List Segment) :
    nodesOf (run ns :: rest) = ns ++ nodesOf rest := rfl

lemma Separated.extend {n : Node} (hn : P n) (h : Separated P segments) :
    Separated P (extend n segments) := by
  match segments, h with
  | [], h => exact ⟨by simp, by simpa using hn, by simp [nodesOf], h⟩
  | kept m :: rest, h =>
    refine ⟨by simp, by simpa using hn, ?_, h⟩
    intro m' hm'
    rw [nodesOf_kept] at hm'
    cases hm'
    exact h.1
  | run ns :: rest, h =>
    obtain ⟨-, hall, hnext, hrest⟩ := h
    refine ⟨by simp, ?_, hnext, hrest⟩
    intro m hm
    rcases List.mem_cons.mp hm with rfl | hm
    · exact hn
    · exact hall m hm

/-- The segments of a list are separated by the test that made them. -/
lemma separated_ofNodes (test : Node → Bool) (ns : List Node) :
    Separated (fun n => test n = true) (ofNodes test ns) := by
  induction ns with
  | nil => trivial
  | cons n ns ih =>
    by_cases h : test n = true
    · rw [ofNodes, if_pos h]
      exact ih.extend h
    · rw [ofNodes, if_neg h]
      exact ⟨h, ih⟩

lemma apart_kept {n : Node} (hn : ¬ P n) (ms : List Node) : Apart P [n] ms := by
  intro a b ha _ hpa
  cases ha
  exact absurd hpa hn

lemma apart_run {rest : List Segment} (ns : List Node)
    (hnext : ∀ n, (nodesOf rest).head? = some n → ¬ P n) : Apart P ns (nodesOf rest) :=
  fun _ b _ hb _ => hnext b hb

namespace Separated

/-- **The long runs of segments are the long maximal runs of their nodes**, counted from the position
of the first node on. -/
lemma mem_longRuns (h : Separated P segments) {a b : Nat} :
    (a, b) ∈ longRuns floor offset segments ↔
      ∃ i j, a = offset + i ∧ b = offset + j ∧ MaximalRun P (nodesOf segments) i j ∧
        floor ≤ j - i := by
  induction segments generalizing offset with
  | nil =>
    constructor
    · intro hmem
      cases hmem
    · rintro ⟨i, j, -, -, hrun, -⟩
      exact absurd hrun not_maximalRun_nil
  | cons segment rest ih =>
    cases segment with
    | kept n =>
      obtain ⟨hn, hrest⟩ := h
      rw [longRuns, ih hrest, nodesOf_kept]
      simp only [maximalRun_append (apart_kept hn _), not_maximalRun_singleton hn, false_or,
        List.length_singleton]
      constructor
      · rintro ⟨i, j, rfl, rfl, hrun, hlong⟩
        exact ⟨1 + i, 1 + j, by omega, by omega, ⟨i, j, rfl, rfl, hrun⟩, by omega⟩
      · rintro ⟨-, -, rfl, rfl, ⟨i, j, rfl, rfl, hrun⟩, hlong⟩
        exact ⟨i, j, by omega, by omega, hrun, by omega⟩
    | run ns =>
      obtain ⟨hne, hall, hnext, hrest⟩ := h
      have hmem : (a, b) ∈ longRuns floor offset (run ns :: rest) ↔
          (floor ≤ ns.length ∧ a = offset ∧ b = offset + ns.length) ∨
            (a, b) ∈ longRuns floor (offset + ns.length) rest := by
        rw [longRuns]
        by_cases hlong : floor ≤ ns.length
        · simp [hlong]
        · simp [hlong]
      rw [hmem, ih hrest, nodesOf_run]
      simp only [maximalRun_append (apart_run ns hnext), maximalRun_of_forall hall]
      constructor
      · rintro (⟨hlong, rfl, rfl⟩ | ⟨i, j, rfl, rfl, hrun, hlong⟩)
        · exact ⟨0, ns.length, rfl, rfl, Or.inl ⟨hne, rfl, rfl⟩, by omega⟩
        · exact ⟨ns.length + i, ns.length + j, by omega, by omega,
            Or.inr ⟨i, j, rfl, rfl, hrun⟩, by omega⟩
      · rintro ⟨i, j, rfl, rfl, ⟨-, rfl, rfl⟩ | ⟨i, j, rfl, rfl, hrun⟩, hlong⟩
        · exact Or.inl ⟨by omega, rfl, rfl⟩
        · exact Or.inr ⟨i, j, by omega, by omega, hrun, by omega⟩

/-- The long runs of segments are listed in order, and no two of them touch. -/
lemma pairwise_longRuns (h : Separated P segments) :
    (longRuns floor offset segments).Pairwise fun r r' => r.2 < r'.1 := by
  induction segments generalizing offset with
  | nil => exact List.Pairwise.nil
  | cons segment rest ih =>
    cases segment with
    | kept n => exact ih h.2
    | run ns =>
      obtain ⟨-, -, hnext, hrest⟩ := h
      rw [longRuns]
      by_cases hlong : floor ≤ ns.length
      · rw [if_pos hlong]
        refine List.Pairwise.cons ?_ (ih hrest)
        rintro ⟨a, b⟩ hlater
        obtain ⟨i, j, rfl, -, hrun, -⟩ := hrest.mem_longRuns.mp hlater
        -- A later run does not start right at the end of this one, where a node stops it.
        have hi : i ≠ 0 := by
          rintro rfl
          have hlen : 0 < (nodesOf rest).length := Nat.lt_of_lt_of_le hrun.nonempty hrun.within
          have hfirst : (nodesOf rest)[0]? = some (nodesOf rest)[0] :=
            List.getElem?_eq_getElem hlen
          refine hnext _ ?_ (hrun.passes 0 _ (Nat.le_refl _) hrun.nonempty hfirst)
          rw [List.head?_eq_getElem?]
          exact hfirst
        show offset + ns.length < offset + ns.length + i
        omega
      · rw [if_neg hlong]
        exact ih hrest

/-- Every node with the property lies in a maximal run. -/
lemma exists_maximalRun (h : Separated P segments) {k : Nat} {n : Node}
    (hk : (nodesOf segments)[k]? = some n) (hn : P n) :
    ∃ i j, MaximalRun P (nodesOf segments) i j ∧ i ≤ k ∧ k < j := by
  induction segments generalizing k with
  | nil => simp [nodesOf] at hk
  | cons segment rest ih =>
    cases segment with
    | kept m =>
      obtain ⟨hm, hrest⟩ := h
      rw [nodesOf_kept] at hk ⊢
      cases k with
      | zero =>
        cases hk
        exact absurd hn hm
      | succ k =>
        obtain ⟨i, j, hrun, hik, hkj⟩ := ih hrest hk
        exact ⟨1 + i, 1 + j, hrun.append_left (apart_kept hm _), by omega, by omega⟩
    | run ns =>
      obtain ⟨hne, hall, hnext, hrest⟩ := h
      rw [nodesOf_run] at hk ⊢
      by_cases hlen : k < ns.length
      · have hrun : MaximalRun P ns 0 ns.length := (maximalRun_of_forall hall).mpr ⟨hne, rfl, rfl⟩
        exact ⟨0, ns.length, hrun.append_right (apart_run ns hnext), by omega, hlen⟩
      · rw [List.getElem?_append_right (by omega)] at hk
        obtain ⟨i, j, hrun, hik, hkj⟩ := ih hrest hk
        exact ⟨ns.length + i, ns.length + j, hrun.append_left (apart_run ns hnext), by omega,
          by omega⟩

end Separated

end Segment

end Delegation
