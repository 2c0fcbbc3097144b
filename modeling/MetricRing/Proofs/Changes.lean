import Mathlib.Logic.Relation
import Mathlib.Order.Nat
import MetricRing.Proofs.PoolMoves

/-!
# What a client does to its state

`Change` lists every section of a client's operations that writes to the state, each with what
holds when it begins. In a state whose pooled nodes have distinct addresses each change keeps them
distinct, and what the client has learned lasts: pooled nodes stay in the pool, and an id, a
version or a topology of a node that is not empty does not become empty again.
-/

namespace MetricRing

open MetricRing.Topology (Ring)

structure Compilation.Passes (x : Compilation) (ring : Ring) : Prop where
  declared : x.declared ≠ ""
  compiles : x.document.compile (some x.declared) = .ok ring
  agrees : Text.sameIgnoringCase x.declared ring.hash = true

namespace State

def poolAddresses (s : State) : List String := s.pool.members.map s.nodes.address

structure Distinct (s : State) : Prop where
  made : ∀ r ∈ s.pool.members, r < s.nodes.length
  nodup : s.poolAddresses.Nodup

/-- What lasts: nodes and pool grow, and of what is known about a node nothing becomes empty. -/
structure Extends (s t : State) : Prop where
  made : s.nodes.length ≤ t.nodes.length
  pooled : ∀ r ∈ s.pool.members, r ∈ t.pool.members
  named : ∀ r, (s.node r).id ≠ "" → (t.node r).id ≠ ""
  versioned : ∀ r, (s.node r).semver ≠ "" → (t.node r).semver ≠ ""
  informed : ∀ r, (s.node r).currentTopology ≠ "" → (t.node r).currentTopology ≠ ""
  compiled : ∀ x ∈ s.compilations, x ∈ t.compilations

/-- A ring that callers handed in, or one that has passed the check of its digest. -/
def Vouches (given : Ring → Prop) (s : State) (ring : Ring) : Prop :=
  given ring ∨ ∃ x ∈ s.compilations, x.Passes ring

theorem Extends.refl (s : State) : s.Extends s :=
  ⟨le_rfl, fun _ h => h, fun _ h => h, fun _ h => h, fun _ h => h, fun _ h => h⟩

theorem Extends.trans {s t u : State} (h : s.Extends t) (h' : t.Extends u) : s.Extends u :=
  ⟨h.made.trans h'.made, fun r hr => h'.pooled r (h.pooled r hr),
    fun r hr => h'.named r (h.named r hr), fun r hr => h'.versioned r (h.versioned r hr),
    fun r hr => h'.informed r (h.informed r hr), fun x hx => h'.compiled x (h.compiled x hx)⟩

theorem Vouches.mono {given : Ring → Prop} {s t : State} {ring : Ring}
    (h : s.Vouches given ring) (hst : s.Extends t) : t.Vouches given ring := by
  rcases h with hg | ⟨x, hx, hp⟩
  · exact Or.inl hg
  · exact Or.inr ⟨x, hst.compiled x hx, hp⟩

end State

/-- One section of a client's operations. -/
inductive Change (given : Ring → Prop) (s : State) : State → Prop
  | look : Change given s s
  | record (e : Event) : Change given s (s.record e)
  | notify (r : NodeRef) (healthy : Bool) : Change given s (s.notify r healthy)
  | setHook (hook : Option RequestHook) : Change given s { s with hook := hook }
  | setWatching (watching : Bool) : Change given s { s with watching := watching }
  | makeNode (n : Node) : Change given s (s.makeNode n).1
  | noteCompilation (x : Compilation) (h : x.declared ≠ "") : Change given s (s.noteCompilation x)
  | announce (r : NodeRef) (hash : String) (h : hash ≠ "") :
    Change given s (s.updateNode r (·.setCurrentTopology hash))
  | setTopology (hash : String) : Change given s (s.setTopology hash)
  | invalidate : Change given s s.invalidate
  | install (ring : Ring) (h : s.Vouches given ring) : Change given s (s.install ring).1
  | applyState (r : NodeRef) (report : NodeState) (h : report.identity ≠ "") :
    Change given s (s.applyState r report)
  | seed (address : String) : Change given s (s.seed address).1
  | merge (id address : String) : Change given s (s.merge id address).1
  | activate (r : NodeRef) (h : r ∈ s.pool.members) (hid : (s.node r).id ≠ "") :
    Change given s (s.activate r)
  | deactivate (r : NodeRef) (h : r ∈ s.pool.members) : Change given s (s.deactivate r)

namespace State

variable {s t : State}

/-! ### Distinct addresses -/

theorem Distinct.of_perm (h : s.Distinct) (hp : t.pool.members.Perm s.pool.members)
    (hl : s.nodes.length ≤ t.nodes.length)
    (ha : ∀ r ∈ s.pool.members, t.nodes.address r = s.nodes.address r) : t.Distinct := by
  refine ⟨fun r hr => (h.made r (hp.mem_iff.1 hr)).trans_le hl, ?_⟩
  have he : s.pool.members.map t.nodes.address = s.poolAddresses := List.map_congr_left ha
  rw [poolAddresses, (hp.map t.nodes.address).nodup_iff, he]
  exact h.nodup

theorem Distinct.updateNode (h : s.Distinct) (r : NodeRef) {f : Node → Node}
    (hf : ∀ n, (f n).address = n.address) : (s.updateNode r f).Distinct :=
  h.of_perm (List.Perm.refl _) (Directory.length_update ..).ge
    fun q _ => s.nodes.update_keeps Node.address hf r q

/-- A node may take an address that nobody in the pool has. -/
theorem Distinct.setAddress (h : s.Distinct) (r : NodeRef) {a : String}
    (ha : a ∉ s.poolAddresses) : (s.updateNode r (·.setAddress a)).Distinct := by
  refine ⟨fun q hq => (h.made q hq).trans_eq (Directory.length_update ..).symm, ?_⟩
  have moved {q : NodeRef} (hq : q ∈ s.pool.members) :
      (s.nodes.update r (·.setAddress a)).address q = if r = q then a else s.nodes.address q := by
    by_cases he : r = q
    · subst q
      rw [if_pos rfl, Directory.address, s.nodes.node_update_self (h.made r hq)]
      rfl
    · rw [if_neg he, Directory.address, s.nodes.node_update_ne he]
      rfl
  refine List.Nodup.map_on ?_ (List.Nodup.of_map _ h.nodup)
  intro p hp q hq he
  change (s.nodes.update r _).address p = (s.nodes.update r _).address q at he
  rw [moved hp, moved hq] at he
  split_ifs at he with hrp hrq hrq
  · exact hrp.symm.trans hrq
  · exact absurd (he ▸ List.mem_map_of_mem hq) ha
  · exact absurd (he ▸ List.mem_map_of_mem hp) ha
  · exact List.inj_on_of_nodup_map h.nodup hp hq he

theorem Distinct.map_address_append (h : s.Distinct) (n : Node) :
    s.pool.members.map (Directory.address (s.nodes ++ [n])) = s.poolAddresses :=
  List.map_congr_left fun r hr => congrArg Node.address (s.nodes.node_append (h.made r hr) n)

/-- A new node whose address nobody in the pool has goes to the end of the pool. -/
theorem Distinct.members_addNode (h : s.Distinct) {n : Node} (hn : n.address ∉ s.poolAddresses) :
    ((s.makeNode n).1.addNode s.nodes.length).pool.members =
      s.pool.members ++ [s.nodes.length] := by
  apply Pool.members_add
  change Directory.address (s.nodes ++ [n]) s.nodes.length ∉
    s.pool.members.map (Directory.address (s.nodes ++ [n]))
  rwa [h.map_address_append, Directory.address, Directory.node_append_length]

theorem Distinct.mem_members_addNode (h : s.Distinct) {n : Node}
    (hn : n.address ∉ s.poolAddresses) :
    s.nodes.length ∈ ((s.makeNode n).1.addNode s.nodes.length).pool.members := by
  rw [h.members_addNode hn]
  exact List.mem_append_right _ (List.mem_singleton.2 rfl)

theorem Distinct.addNode (h : s.Distinct) {n : Node} (hn : n.address ∉ s.poolAddresses) :
    ((s.makeNode n).1.addNode s.nodes.length).Distinct := by
  have hm := h.members_addNode hn
  refine ⟨?_, ?_⟩
  · intro r hr
    have hl : (s.nodes ++ [n]).length = s.nodes.length + 1 := List.length_append
    change r < (s.nodes ++ [n]).length
    rw [hm, List.mem_append, List.mem_singleton] at hr
    rcases hr with hr | rfl
    · exact hl ▸ Nat.lt_succ_of_lt (h.made r hr)
    · exact hl ▸ Nat.lt_succ_self _
  · rw [poolAddresses, hm, List.map_append]
    change (s.pool.members.map (Directory.address (s.nodes ++ [n])) ++
      [Directory.address (s.nodes ++ [n]) s.nodes.length]).Nodup
    rw [h.map_address_append, Directory.address, Directory.node_append_length]
    exact List.nodup_append_comm.1 (List.nodup_cons.2 ⟨hn, h.nodup⟩)

/-! ### Each change -/

/-- A change that touches neither nodes nor pool and forgets no compilation. -/
theorem Distinct.aside (h : s.Distinct) (hn : t.nodes = s.nodes) (hp : t.pool = s.pool)
    (hc : ∀ x ∈ s.compilations, x ∈ t.compilations) : t.Distinct ∧ s.Extends t := by
  have hnode : ∀ r, t.node r = s.node r := fun r => congrArg (Directory.node · r) hn
  refine ⟨⟨fun r hr => ?_, ?_⟩, ⟨?_, fun r hr => ?_, ?_, ?_, ?_, hc⟩⟩
  · rw [hn]
    exact h.made r (hp ▸ hr)
  · rw [poolAddresses, hn, hp]
    exact h.nodup
  · rw [hn]
  · rwa [hp]
  all_goals
    intro r hr
    rwa [hnode]

/-- A change of one node that empties nothing. -/
theorem extends_updateNode (s : State) (r : NodeRef) {f : Node → Node}
    (hid : (s.node r).id ≠ "" → (f (s.node r)).id ≠ "")
    (hv : (s.node r).semver ≠ "" → (f (s.node r)).semver ≠ "")
    (ht : (s.node r).currentTopology ≠ "" → (f (s.node r)).currentTopology ≠ "") :
    s.Extends (s.updateNode r f) := by
  have carry (P : Node → Prop) (hP : P (s.node r) → P (f (s.node r))) (q : NodeRef)
      (hq : P (s.node q)) : P ((s.nodes.update r f).node q) := by
    by_cases he : r = q
    · subst q
      by_cases hr : r < s.nodes.length
      · rw [s.nodes.node_update_self hr]
        exact hP hq
      · rwa [s.nodes.update_of_le (Nat.le_of_not_lt hr)]
    · rwa [s.nodes.node_update_ne he]
  exact ⟨(Directory.length_update ..).ge, fun _ hq => hq, carry (·.id ≠ "") hid,
    carry (·.semver ≠ "") hv, carry (·.currentTopology ≠ "") ht, fun _ hx => hx⟩

theorem Distinct.applyState (h : s.Distinct) (r : NodeRef) {report : NodeState}
    (hr : report.identity ≠ "") :
    (s.applyState r report).Distinct ∧ s.Extends (s.applyState r report) := by
  refine ⟨h.updateNode r fun _ => rfl, s.extends_updateNode r ?_ ?_ ?_⟩
  · exact fun _ he => hr (Text.lowercase_eq_empty_iff.1 he)
  · intro hn
    simp only [Node.applyState]
    split_ifs with he
    · exact hn
    · exact he
  · intro hn
    simp only [Node.applyState]
    split_ifs with he
    · exact hn
    · exact he

/-- A node that reports itself has an id. -/
theorem id_applyState_ne_empty {r : NodeRef} (hr : r < s.nodes.length) {report : NodeState}
    (hreport : report.identity ≠ "") : ((s.applyState r report).node r).id ≠ "" := by
  change ((s.nodes.update r _).node r).id ≠ ""
  rw [s.nodes.node_update_self hr]
  exact fun he => hreport (Text.lowercase_eq_empty_iff.1 he)

/-- The nodes of the pool may change places. -/
theorem Distinct.permute (h : s.Distinct) {pool : Pool} (hp : pool.members.Perm s.pool.members) :
    State.Distinct { s with pool := pool } ∧ s.Extends { s with pool := pool } := by
  refine ⟨h.of_perm hp le_rfl fun _ _ => rfl, { State.Extends.refl s with pooled := ?_ }⟩
  exact fun _ hr => hp.mem_iff.2 hr

theorem Distinct.activate (h : s.Distinct) {r : NodeRef} (hr : r ∈ s.pool.members) :
    (s.activate r).Distinct ∧ s.Extends (s.activate r) :=
  h.permute (Pool.activate_perm h.nodup hr)

theorem Distinct.deactivate (h : s.Distinct) {r : NodeRef} (hr : r ∈ s.pool.members) :
    (s.deactivate r).Distinct ∧ s.Extends (s.deactivate r) :=
  h.permute (Pool.deactivate_perm h.nodup hr)

theorem extends_makeNode (s : State) (n : Node) : s.Extends (s.makeNode n).1 := by
  -- Behind the last node there is only the empty one, of which nothing is known.
  have carry (P : Node → Prop) (hP : ¬P { address := "" }) (q : NodeRef) (hq : P (s.node q)) :
      P (Directory.node (s.nodes ++ [n]) q) := by
    by_cases hr : q < s.nodes.length
    · rwa [s.nodes.node_append hr]
    · rw [node, s.nodes.node_of_le (Nat.le_of_not_lt hr)] at hq
      exact absurd hq hP
  refine ⟨?_, fun _ hq => hq, carry (·.id ≠ "") (fun h => h rfl),
    carry (·.semver ≠ "") (fun h => h rfl), carry (·.currentTopology ≠ "") (fun h => h rfl),
    fun _ hx => hx⟩
  change s.nodes.length ≤ (s.nodes ++ [n]).length
  rw [List.length_append]
  exact Nat.le_add_right _ _

theorem Distinct.makeNode (h : s.Distinct) (n : Node) :
    (s.makeNode n).1.Distinct ∧ s.Extends (s.makeNode n).1 := by
  have he := s.extends_makeNode n
  refine ⟨h.of_perm (List.Perm.refl _) he.made fun r hr => ?_, he⟩
  exact congrArg Node.address (s.nodes.node_append (h.made r hr) n)

/-- A new node whose address nobody in the pool has. -/
theorem Distinct.adopt (h : s.Distinct) {n : Node} (hn : n.address ∉ s.poolAddresses) :
    ((s.makeNode n).1.addNode s.nodes.length).Distinct ∧
      s.Extends ((s.makeNode n).1.addNode s.nodes.length) := by
  have he := s.extends_makeNode n
  refine ⟨h.addNode hn, he.made, fun r hr => ?_, he.named, he.versioned, he.informed, he.compiled⟩
  rw [h.members_addNode hn]
  exact List.mem_append_left _ hr

theorem Distinct.seed (h : s.Distinct) (address : String) :
    (s.seed address).1.Distinct ∧ s.Extends (s.seed address).1 := by
  unfold State.seed
  split
  · exact ⟨h, Extends.refl s⟩
  · next hnone => exact h.adopt (n := { address }) (Pool.findByAddress_eq_none_iff.1 hnone)

theorem Distinct.nameUnnamed (h : s.Distinct) (r : NodeRef) (id : String) :
    (s.nameUnnamed r id).Distinct ∧ s.Extends (s.nameUnnamed r id) := by
  unfold State.nameUnnamed
  split_ifs with he
  · exact ⟨h.updateNode r fun _ => rfl,
      s.extends_updateNode r (fun hn => absurd he hn) (fun hn => hn) fun hn => hn⟩
  · exact ⟨h, Extends.refl s⟩

theorem Distinct.relocate (h : s.Distinct) (r : NodeRef) (address : String) :
    (s.relocate r address).Distinct ∧ s.Extends (s.relocate r address) := by
  unfold State.relocate
  split_ifs with hfree
  · rw [Bool.and_eq_true, Option.isNone_iff_eq_none, Pool.findByAddress_eq_none_iff] at hfree
    exact ⟨h.setAddress r hfree.2,
      s.extends_updateNode r (fun hn => hn) (fun hn => hn) fun hn => hn⟩
  · exact ⟨h, Extends.refl s⟩

theorem Distinct.rename (h : s.Distinct) (r : NodeRef) (id address : String) :
    (s.rename r id address).Distinct ∧ s.Extends (s.rename r id address) := by
  obtain ⟨hu, hsu⟩ := h.nameUnnamed r id
  obtain ⟨hv, huv⟩ := hu.relocate r address
  exact ⟨hv, hsu.trans huv⟩

theorem Distinct.merge (h : s.Distinct) (id address : String) :
    (s.merge id address).1.Distinct ∧ s.Extends (s.merge id address).1 := by
  unfold State.merge
  split
  · exact h.rename _ id address
  · next hnone =>
    refine h.adopt (n := Node.withId id address) (Pool.findByAddress_eq_none_iff.1 ?_)
    exact (Option.or_eq_none_iff.1 hnone).2

end State

/-- Every section keeps the addresses distinct and what the client has learned. -/
theorem Change.lasts {given : Ring → Prop} {s t : State} (h : Change given s t) (hs : s.Distinct) :
    t.Distinct ∧ s.Extends t := by
  cases h with
  | look => exact ⟨hs, State.Extends.refl s⟩
  | record e => exact hs.aside rfl rfl fun _ hx => hx
  | notify r healthy =>
    unfold State.notify
    split_ifs
    · exact hs.aside rfl rfl fun _ hx => hx
    · exact ⟨hs, State.Extends.refl s⟩
  | setHook hook => exact hs.aside rfl rfl fun _ hx => hx
  | setWatching watching => exact hs.aside rfl rfl fun _ hx => hx
  | makeNode n => exact hs.makeNode n
  | noteCompilation x hx => exact hs.aside rfl rfl fun _ hy => List.mem_append_left _ hy
  | announce r hash hash_ne =>
    exact ⟨hs.updateNode r fun _ => rfl,
      s.extends_updateNode r (fun hn => hn) (fun hn => hn) fun _ => hash_ne⟩
  | setTopology hash =>
    unfold State.setTopology
    dsimp only
    split_ifs
    · exact ⟨hs, State.Extends.refl s⟩
    · exact hs.aside rfl rfl fun _ hx => hx
  | invalidate => exact hs.aside rfl rfl fun _ hx => hx
  | install ring _ => exact hs.aside rfl rfl fun _ hx => hx
  | applyState r report hr => exact hs.applyState r hr
  | seed address => exact hs.seed address
  | merge id address => exact hs.merge id address
  | activate r hr _ => exact hs.activate hr
  | deactivate r hr => exact hs.deactivate hr

abbrev Changes (given : Ring → Prop) : State → State → Prop := Relation.ReflTransGen (Change given)

theorem Changes.lasts {given : Ring → Prop} {s t : State} (h : Changes given s t)
    (hs : s.Distinct) : t.Distinct ∧ s.Extends t := by
  induction h with
  | refl => exact ⟨hs, State.Extends.refl s⟩
  | tail _ hstep ih =>
    obtain ⟨ht, hst⟩ := hstep.lasts ih.1
    exact ⟨ht, ih.2.trans hst⟩

end MetricRing
