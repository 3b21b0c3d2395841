import Delegation.Proofs.Fusion.Regions
/-!
# Graphs in which nothing is left to fuse

A graph is settled for a fuser when every maximal run of fusible nodes is too short for it
(`KindFuser.Settled`).

* `KindFuser.settled_fuse`: fusion leaves a settled graph.  Runs that were too short do not grow when
  others collapse, since the node that takes the place of a run carries a subgraph and so is not
  fusible itself, even if the fusion kind is among the supported ones;
* `KindFuser.Settled.anti`: a graph that is settled for a fuser is settled for every fuser that
  permits no more;
* `KindFuser.fuse_of_settled`: fusion does not change a settled graph.

From these, `KindFuser.fuse_after_fuse`: what one fuser leaves, no fuser that permits no more
changes.
-/

namespace Delegation

namespace KindFuser

/-- Every maximal run of fusible nodes is too short. -/
def Settled (f : KindFuser) (kind : Symbol) (ns : List Node) : Prop :=
  ∀ i j, MaximalRun (f.Fusible kind) ns i j → j - i < f.leastLength

/-- The first fuser fuses nothing that the second one would leave. -/
structure PermitsNoMore (f' f : KindFuser) : Prop where
  /-- It supports only kinds that the other one supports. -/
  supported : f'.supported ⊆ f.supported
  /-- It blacklists all that the other one blacklists. -/
  blacklist : f.blacklist ⊆ f'.blacklist
  /-- Its floor is not below that of the other one. -/
  floor : f.floor ≤ f'.floor

variable {f f' : KindFuser} {kind : Symbol}

lemma PermitsNoMore.fusible (h : f'.PermitsNoMore f) {n : Node} (hn : f'.Fusible kind n) :
    f.Fusible kind n where
  supported := h.supported hn.supported
  other_kind := hn.other_kind
  allowed hblack := hn.allowed (h.blacklist hblack)
  plain := hn.plain

/-! ### What fusion leaves -/

lemma not_fusible_fusionNode (ns : List Node) (needed : List ValueId) (s : BlockSupply) :
    ¬ f.Fusible kind (fusionNode kind ns needed s).1 :=
  fun h => h.other_kind rfl

/-- A node that is not fusible prolongs no run of the nodes after it. -/
lemma Settled.cons {n : Node} {ns : List Node} (h : f.Settled kind ns) (hn : ¬ f.Fusible kind n) :
    f.Settled kind (n :: ns) := by
  intro i j hrun
  rcases (maximalRun_append (Segment.apart_kept hn ns)).mp hrun with
    hfirst | ⟨i', j', rfl, rfl, hlater⟩
  · exact absurd hfirst (not_maximalRun_singleton hn)
  · have hshort := h i' j' hlater
    omega

/-- If segments do not start with a fusible node, then neither does what fusion makes of them. -/
lemma head_fuseSegments (outputs : List ValueId) {segments : List Segment}
    (h : Segment.Separated (f.Fusible kind) segments)
    (hhead : ∀ n, (Segment.nodesOf segments).head? = some n → ¬ f.Fusible kind n)
    (s : BlockSupply) {n : Node}
    (hn : (fuseSegments f.floor kind outputs segments s).nodes.head? = some n) :
    ¬ f.Fusible kind n := by
  cases segments with
  | nil => cases hn
  | cons segment rest =>
    cases segment with
    | kept m => exact hhead n hn
    | run ns =>
      obtain ⟨hne, hall, -, -⟩ := h
      obtain ⟨m, ms, rfl⟩ := List.exists_cons_of_ne_nil hne
      exact absurd (hall m List.mem_cons_self) (hhead m rfl)

/-- **Fusion leaves only short runs**, segment by segment.  A node that stays because it is not
fusible and a node that replaces a run both stop the runs beside them. -/
lemma settled_fuseSegments (outputs : List ValueId) {segments : List Segment}
    (h : Segment.Separated (f.Fusible kind) segments) (s : BlockSupply) :
    f.Settled kind (fuseSegments f.floor kind outputs segments s).nodes := by
  induction segments generalizing s with
  | nil =>
    intro i j hrun
    exact absurd hrun not_maximalRun_nil
  | cons segment rest ih =>
    cases segment with
    | kept n =>
      obtain ⟨hn, hrest⟩ := h
      exact (ih hrest s).cons hn
    | run ns =>
      obtain ⟨-, hall, hnext, hrest⟩ := h
      by_cases hlong : f.floor ≤ ns.length
      · rw [fuseSegments, if_pos hlong]
        exact (ih hrest _).cons (not_fusible_fusionNode ns _ s)
      · rw [fuseSegments, if_neg hlong]
        have hseam : Apart (f.Fusible kind) ns
            (fuseSegments f.floor kind outputs rest s).nodes :=
          fun _ _ _ hhead _ => head_fuseSegments outputs hrest hnext s hhead
        intro i j hrun
        rcases (maximalRun_append hseam).mp hrun with hfirst | ⟨i', j', rfl, rfl, hlater⟩
        · obtain ⟨-, rfl, rfl⟩ := (maximalRun_of_forall hall).mp hfirst
          rw [leastLength]
          omega
        · have hshort := ih hrest s i' j' hlater
          omega

/-- **Fusion leaves a settled graph.** -/
lemma settled_fuse (f : KindFuser) (kind : Symbol) (g : Graph) (s : BlockSupply) :
    f.Settled kind (f.fuse kind g s).graph.nodes :=
  settled_fuseSegments g.outputs (f.separated_segments kind g.nodes) s

/-! ### What fusion makes of a settled graph -/

/-- Every run of nodes that pass a stricter test lies within a maximal run. -/
lemma exists_maximalRun_around {ns : List Node} {i j : Nat} (h : f'.PermitsNoMore f)
    (hrun : MaximalRun (f'.Fusible kind) ns i j) :
    ∃ i' j', MaximalRun (f.Fusible kind) ns i' j' ∧ i' ≤ i ∧ j ≤ j' := by
  have hnonempty := hrun.nonempty
  have hwithin := hrun.within
  have hpasses : ∀ k n, i ≤ k → k < j → ns[k]? = some n → f.Fusible kind n :=
    fun k n hik hkj hk => h.fusible (hrun.passes k n hik hkj hk)
  have hfirst : ns[i]? = some ns[i] := List.getElem?_eq_getElem (by omega)
  have hnodes : Segment.nodesOf (f.segments kind ns) = ns := Segment.nodesOf_ofNodes _ ns
  have hexists := (f.separated_segments kind ns).exists_maximalRun (k := i) (n := ns[i])
  rw [hnodes] at hexists
  obtain ⟨i', j', hrun', hi, hj⟩ := hexists hfirst (hpasses i _ (Nat.le_refl i) hnonempty hfirst)
  refine ⟨i', j', hrun', hi, ?_⟩
  -- Otherwise the node that stops the larger run would be in the smaller one.
  by_contra hlt
  have hlast : ns[j']? = some ns[j'] := List.getElem?_eq_getElem (by omega)
  exact hrun'.stops_after _ hlast (hpasses j' _ (by omega) (by omega) hlast)

/-- A graph that is settled for a fuser is settled for every fuser that permits no more. -/
lemma Settled.anti {ns : List Node} (hsettled : f.Settled kind ns) (h : f'.PermitsNoMore f) :
    f'.Settled kind ns := by
  intro i j hrun
  obtain ⟨i', j', hrun', hi, hj⟩ := exists_maximalRun_around h hrun
  have hshort := hsettled i' j' hrun'
  have hfloor : f.leastLength ≤ f'.leastLength := by
    have hle := h.floor
    rw [leastLength, leastLength]
    omega
  omega

/-- **Fusion does not change a settled graph.** -/
lemma fuse_of_settled {g : Graph} (h : f.Settled kind g.nodes) (s : BlockSupply) :
    f.fuse kind g s = ⟨g, 0, s⟩ := by
  refine fuse_of_count_eq_zero ?_
  rw [count_fuse, List.length_eq_zero_iff, List.eq_nil_iff_forall_not_mem]
  rintro ⟨i, j⟩ hmem
  obtain ⟨hrun, hlong⟩ := mem_candidateRuns.mp hmem
  have hshort := h i j hrun
  omega

/-- **Fusion changes exactly the graphs that are not settled**, since it leaves a settled one. -/
lemma graph_fuse_eq_iff {g : Graph} {s : BlockSupply} :
    (f.fuse kind g s).graph = g ↔ f.Settled kind g.nodes := by
  constructor
  · intro hsame
    have hsettled := f.settled_fuse kind g s
    rwa [hsame] at hsettled
  · intro hsettled
    rw [fuse_of_settled hsettled]

/-- **A later fuser that permits no more finds nothing.**  In particular a second fusion by the same
fuser changes nothing. -/
theorem fuse_after_fuse (f f' : KindFuser) (kind : Symbol) (g : Graph) (s s' : BlockSupply) :
    (f'.PermitsNoMore f →
      f'.fuse kind (f.fuse kind g s).graph s' = ⟨(f.fuse kind g s).graph, 0, s'⟩) ∧
      f.fuse kind (f.fuse kind g s).graph s' = ⟨(f.fuse kind g s).graph, 0, s'⟩ := by
  have hsettled := settled_fuse f kind g s
  constructor
  · intro h
    exact fuse_of_settled (hsettled.anti h) s'
  · exact fuse_of_settled hsettled s'

/-- A run of two nodes collapses between two single nodes, which do not become neighbours.  The
fusion kind itself is supported, and the second fuser asks for longer runs of fewer kinds. -/
theorem fuse_after_fuse_between_short_runs :
    let add : Symbol := ⟨"aten", "add"⟩
    let relu : Symbol := ⟨"aten", "relu"⟩
    let sort : Symbol := ⟨"aten", "sort"⟩
    let kind : Symbol := ⟨"box", "fused"⟩
    let g : Graph :=
      ⟨[⟨0⟩],
        [⟨relu, [⟨0⟩], [⟨1⟩], none⟩, ⟨sort, [⟨1⟩], [⟨2⟩], none⟩, ⟨relu, [⟨2⟩], [⟨3⟩], none⟩,
          ⟨add, [⟨2⟩, ⟨3⟩], [⟨4⟩], none⟩, ⟨sort, [⟨4⟩], [⟨5⟩], none⟩, ⟨relu, [⟨5⟩], [⟨6⟩], none⟩],
        [⟨6⟩]⟩
    let f : KindFuser := ⟨[add, relu, kind], 2, []⟩
    let f' : KindFuser := ⟨[relu, kind], 3, ["aten::add"]⟩
    f'.PermitsNoMore f ∧ (f.fuse kind g ⟨8⟩).count = 1 ∧
      f'.fuse kind (f.fuse kind g ⟨8⟩).graph ⟨9⟩ = ⟨(f.fuse kind g ⟨8⟩).graph, 0, ⟨9⟩⟩ := by
  intro add relu sort kind g f f'
  have h : f'.PermitsNoMore f := ⟨by simp [f, f'], by simp [f], by decide⟩
  exact ⟨h, by decide, (fuse_after_fuse f f' kind g ⟨8⟩ ⟨9⟩).1 h⟩

end KindFuser

end Delegation
