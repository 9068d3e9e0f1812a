import Surveyor.Proofs.Graph.Neighbourhood

/-! A deeper cluster continues a shallower one. Two searches run alike until the shallower one meets an entry at its
depth. From there it only empties its queue, and what the deeper one adds to the queue meanwhile waits behind. -/

namespace Surveyor.Graph

/-- Whoever waits further behind is no nearer, and at most one step further away. -/
def Layered (queue : List (String × Nat)) : Prop := queue.Pairwise fun a b => a.2 ≤ b.2 ∧ b.2 ≤ a.2 + 1

variable {graph : Graph} {depth deeper : Int} {marked : List String} {path : String} {distance : Nat}
  {rest : List (String × Nat)}

/-! ## Steps of a search -/

theorem clusterFrom_marked (seen : path ∈ marked) :
    graph.clusterFrom depth marked ((path, distance) :: rest) = graph.clusterFrom depth marked rest := by
  rw [clusterFrom, dif_pos seen]

theorem clusterFrom_deep (fresh : path ∉ marked) (deep : depth ≤ distance) :
    graph.clusterFrom depth marked ((path, distance) :: rest) = graph.clusterFrom depth (marked ++ [path]) rest := by
  rw [clusterFrom, dif_neg fresh, if_pos deep]

theorem clusterFrom_shallow (fresh : path ∉ marked) (shallow : ¬ depth ≤ distance) :
    graph.clusterFrom depth marked ((path, distance) :: rest) =
      graph.clusterFrom depth (marked ++ [path])
        (rest ++ ((graph.neighbours path).filter (· ∉ marked ++ [path])).map fun next => (next, distance + 1)) := by
  rw [clusterFrom, dif_neg fresh, if_neg shallow]
  split
  next unknown => rw [neighbours_unknown unknown, List.filter_nil, List.map_nil, List.append_nil]
  next node found => rw [neighbours_known found]

namespace Layered

theorem tail {entry : String × Nat} (layered : Layered (entry :: rest)) : Layered rest :=
  (List.pairwise_cons.mp layered).2

/-- Who follows an entry at the depth is at the depth as well. -/
theorem deep (layered : Layered ((path, distance) :: rest)) (far : depth ≤ distance) :
    ∀ entry ∈ rest, depth ≤ entry.2 := by
  intro entry member
  have later := ((List.pairwise_cons.mp layered).1 entry member).1
  dsimp only at later
  omega

/-- Those next to the first entry may go to the end of the queue when it leaves. -/
theorem advance (layered : Layered ((path, distance) :: rest)) (names : List String) :
    Layered (rest ++ names.map fun next => (next, distance + 1)) := by
  obtain ⟨first, others⟩ := List.pairwise_cons.mp layered
  refine List.pairwise_append.mpr ⟨others, ?_, ?_⟩
  · exact List.pairwise_map.mpr (List.pairwise_of_forall fun _ _ => by simp)
  · intro old member new added
    obtain ⟨next, -, rfl⟩ := List.mem_map.mp added
    have near := first old member
    dsimp only at near ⊢
    omega

/-- What the shallower search marks the deeper one marks first. Until the depth is met both have one queue; from then on
that of the deeper one may be longer. -/
theorem clusterFrom_prefix (graph : Graph) (less : depth ≤ deeper) (marked : List String)
    {queue : List (String × Nat)} (layered : Layered queue) {behind : List (String × Nat)}
    (apart : behind = [] ∨ ∀ entry ∈ queue, depth ≤ entry.2) :
    graph.clusterFrom depth marked queue <+: graph.clusterFrom deeper marked (queue ++ behind) := by
  -- The induction is on the shallower search; `behind` is what only the deeper one has in its queue.
  fun_induction clusterFrom graph depth marked queue generalizing behind with
  | case1 marked => exact clusterFrom_extends graph deeper marked behind
  | case2 marked path distance rest seen ih =>
    rw [List.cons_append, clusterFrom_marked seen]
    exact ih layered.tail (apart.imp_right fun far entry later => far entry (List.mem_cons_of_mem _ later))
  | case3 marked path distance rest fresh deep ih =>
    have far := layered.deep deep
    by_cases last : deeper ≤ distance
    · rw [List.cons_append, clusterFrom_deep fresh last]
      exact ih layered.tail (.inr far)
    · rw [List.cons_append, clusterFrom_shallow fresh last, List.append_assoc]
      exact ih layered.tail (.inr far)
  | case4 marked path distance rest fresh shallow unknown ih =>
    obtain rfl : behind = [] := apart.resolve_right fun far => shallow (far _ List.mem_cons_self)
    rw [List.append_nil, clusterFrom_shallow fresh (fun last => shallow (less.trans last)),
      neighbours_unknown unknown]
    exact ih layered.tail (.inl rfl)
  | case5 marked path distance rest fresh shallow node found further ih =>
    obtain rfl : behind = [] := apart.resolve_right fun far => shallow (far _ List.mem_cons_self)
    rw [List.append_nil, clusterFrom_shallow fresh (fun last => shallow (less.trans last)),
      neighbours_known found]
    simpa only [List.append_nil] using ih (layered.advance further) (.inl rfl)

end Layered

/-- A deeper cluster of a file lists what a shallower one lists, in the same order, before anything else. -/
theorem cluster_prefix (graph : Graph) (path : String) {depth deeper : Int} (less : depth ≤ deeper) :
    graph.cluster path (some depth) <+: graph.cluster path (some deeper) := by
  have alone : Layered [(path, 0)] := List.pairwise_singleton ..
  have continued := alone.clusterFrom_prefix graph less [] (.inl rfl)
  rwa [List.append_nil] at continued

theorem cluster_prefix_ring :
    let ring : Graph := { nodes := [⟨"a", "/w/a", .source, ["b"], ["d"]⟩, ⟨"b", "/w/b", .source, ["c"], ["a"]⟩,
      ⟨"c", "/w/c", .source, ["d"], ["b"]⟩, ⟨"d", "/w/d", .source, ["a"], ["c"]⟩] }
    (1 : Int) ≤ 2 ∧ ring.cluster "a" (some 1) = ["a", "b", "d"] ∧
      ring.cluster "a" (some 1) <+: ring.cluster "a" (some 2) := by
  intro ring
  refine ⟨by decide, ?_, cluster_prefix ring "a" (by decide)⟩
  have opened : ring.cluster "a" (some 1) = ring.clusterFrom 1 ["a"] [("b", 1), ("d", 1)] := by
    rw [cluster, clusterFrom_shallow (by simp) (by simp)]
    rfl
  rw [opened, clusterFrom_deep (by simp) (by simp), clusterFrom_deep (by simp) (by simp), clusterFrom]
  rfl

end Surveyor.Graph
