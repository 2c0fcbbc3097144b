import Mathlib.Data.List.Nodup
import Mathlib.Tactic.SplitIfs
import MetricRing.Client.State

/-!
# Moves inside the pool

A pool whose nodes have distinct addresses is only permuted by moving one of its own nodes: the
node goes to the end of the other list and nothing is dropped. An added node is appended, and a
node that takes an address nobody in the pool has leaves the addresses distinct.
-/

namespace MetricRing

/-! ### Nodes by number -/

namespace Directory

variable (d : Directory)

@[simp] theorem length_update (r : NodeRef) (f : Node → Node) :
    (d.update r f).length = d.length := List.length_modify ..

theorem node_update_self {r : NodeRef} (hr : r < d.length) (f : Node → Node) :
    (d.update r f).node r = f (d.node r) := by
  simp only [node, update, List.getElem?_modify_eq, List.getElem?_eq_getElem hr, Option.map_eq_map,
    Option.map_some, Option.getD_some]

theorem node_update_ne {r q : NodeRef} (hq : r ≠ q) (f : Node → Node) :
    (d.update r f).node q = d.node q := by
  simp only [node, update, List.getElem?_modify_ne f d hq]

/-- There is no node to change behind the last one. -/
theorem update_of_le {r : NodeRef} (hr : d.length ≤ r) (f : Node → Node) : d.update r f = d :=
  List.modify_eq_self hr

theorem node_append {q : NodeRef} (hq : q < d.length) (n : Node) :
    (d ++ [n]).node q = d.node q := by
  simp only [node, List.getElem?_append_left hq]

@[simp] theorem node_append_length (n : Node) : Directory.node (d ++ [n]) d.length = n := by
  simp [node]

theorem node_of_le {q : NodeRef} (hq : d.length ≤ q) : d.node q = { address := "" } := by
  simp only [node, List.getElem?_eq_none hq, Option.getD_none]

/-- What a change of one node keeps of it, the directory keeps of all. -/
theorem update_keeps {β : Type} (g : Node → β) {f : Node → Node} (hf : ∀ n, g (f n) = g n)
    (r q : NodeRef) : g ((d.update r f).node q) = g (d.node q) := by
  by_cases hq : r = q
  · subst q
    by_cases hr : r < d.length
    · rw [d.node_update_self hr, hf]
    · rw [d.update_of_le (Nat.le_of_not_lt hr)]
  · rw [d.node_update_ne hq]

end Directory

/-! ### Moving and adding -/

namespace Pool

variable {d : Directory}

theorem hasAddress_iff {a : String} {r : NodeRef} : hasAddress d a r = true ↔ d.address r = a := by
  simp only [hasAddress, Node.hasAddress, Directory.address, beq_iff_eq]

theorem any_hasAddress_iff {rs : List NodeRef} {a : String} :
    rs.any (hasAddress d a) = true ↔ a ∈ rs.map d.address := by
  simp only [List.any_eq_true, hasAddress_iff, List.mem_map]

theorem findByAddress_eq_none_iff {p : Pool} {a : String} :
    p.findByAddress d a = none ↔ a ∉ p.members.map d.address := by
  rw [← any_hasAddress_iff, findByAddress, List.find?_eq_none]
  simp only [List.any_eq_true, not_exists, not_and]

/-- What a move does where addresses are distinct: nothing if the address is at the target; a node
there that comes from the source stays the same one; and a new address is put at the end. -/
theorem move_cases {source target : List NodeRef} (h : ((target ++ source).map d.address).Nodup)
    (r : NodeRef) :
    (d.address r ∈ target.map d.address ∧ move d source target r = (source, target)) ∨
      (∃ before q after, source = before ++ q :: after ∧ d.address q = d.address r ∧
        move d source target r = (before ++ after, target ++ [q])) ∨
      (d.address r ∉ (target ++ source).map d.address ∧
        move d source target r = (source, target ++ [r])) := by
  rw [List.map_append] at h
  by_cases there : target.any (hasAddress d (d.address r)) = true
  · refine Or.inl ⟨any_hasAddress_iff.1 there, ?_⟩
    have stays : source.filter (fun s => !hasAddress d (d.address r) s) = source := by
      rw [List.filter_eq_self]
      intro s hs
      rw [Bool.not_eq_true', ← Bool.not_eq_true, hasAddress_iff]
      intro hsr
      exact List.disjoint_of_nodup_append h (any_hasAddress_iff.1 there)
        (hsr ▸ List.mem_map_of_mem hs)
    simp only [move, if_pos there, stays]
  · refine Or.inr ?_
    simp only [move, if_neg there]
    cases hfind : source.find? (hasAddress d (d.address r)) with
    | some q =>
      obtain ⟨hq, before, after, rfl, hb⟩ := List.find?_eq_some_iff_append.1 hfind
      have rest : (before ++ q :: after).eraseP (hasAddress d (d.address r)) = before ++ after := by
        rw [List.eraseP_append_right _ (fun b hm => by simpa using hb b hm),
          List.eraseP_cons_of_pos hq]
      exact Or.inl ⟨before, q, after, rfl, hasAddress_iff.1 hq, by simp only [rest]⟩
    | none =>
      refine Or.inr ⟨fun hmem => ?_, rfl⟩
      rw [List.map_append, List.mem_append] at hmem
      rcases hmem with ht | hs
      · exact there (any_hasAddress_iff.2 ht)
      · obtain ⟨q, hq, hqr⟩ := List.mem_map.1 hs
        exact List.find?_eq_none.1 hfind q hq (hasAddress_iff.2 hqr)

/-- Nothing is lost by a move where addresses are distinct, and a new address is all that is new. -/
theorem move_perm {source target : List NodeRef} (h : ((target ++ source).map d.address).Nodup)
    (r : NodeRef) :
    ((move d source target r).2 ++ (move d source target r).1).Perm
      (if d.address r ∈ (target ++ source).map d.address then target ++ source
        else target ++ source ++ [r]) := by
  rcases move_cases h r with ⟨hr, hmove⟩ | ⟨before, q, after, rfl, hq, hmove⟩ | ⟨hr, hmove⟩
  · rw [if_pos (List.map_append ▸ List.mem_append_left _ hr), hmove]
  · have hmem : d.address r ∈ (target ++ (before ++ q :: after)).map d.address := by
      rw [← hq]
      exact List.mem_map_of_mem (by simp)
    rw [if_pos hmem, hmove, List.append_assoc]
    have hfront : (before ++ q :: after).Perm (q :: (before ++ after)) := List.perm_middle
    exact List.Perm.append_left target hfront.symm
  · rw [if_neg hr, hmove, List.append_assoc, List.append_assoc]
    exact List.Perm.append_left target List.perm_append_comm

/-- A move brings its address to the target. -/
theorem mem_target_move {source target : List NodeRef}
    (h : ((target ++ source).map d.address).Nodup) (r : NodeRef) (a : String) :
    a ∈ (move d source target r).2.map d.address ↔ a ∈ target.map d.address ∨ a = d.address r := by
  rcases move_cases h r with ⟨hr, hmove⟩ | ⟨before, q, after, rfl, hq, hmove⟩ | ⟨-, hmove⟩
  · rw [hmove]
    exact ⟨Or.inl, fun ha => ha.elim id fun ha => ha ▸ hr⟩
  · rw [hmove, List.map_append, List.mem_append, List.map_singleton, List.mem_singleton, hq]
  · rw [hmove, List.map_append, List.mem_append, List.map_singleton, List.mem_singleton]

/-- A move takes its address from the source. -/
theorem mem_source_move {source target : List NodeRef}
    (h : ((target ++ source).map d.address).Nodup) (r : NodeRef) (a : String) :
    a ∈ (move d source target r).1.map d.address ↔ a ∈ source.map d.address ∧ a ≠ d.address r := by
  have apart := (List.map_append ▸ h : (target.map d.address ++ source.map d.address).Nodup)
  rcases move_cases h r with ⟨hr, hmove⟩ | ⟨before, q, after, rfl, hq, hmove⟩ | ⟨hr, hmove⟩
  · rw [hmove]
    refine ⟨fun ha => ⟨ha, fun har => ?_⟩, And.left⟩
    exact List.disjoint_of_nodup_append apart (har ▸ hr) ha
  · rw [hmove]
    have hq' : d.address q ∉ (before ++ after).map d.address := by
      have hnodup := (List.perm_middle.map d.address).nodup_iff.1 (List.Nodup.of_append_right apart)
      exact (List.nodup_cons.1 hnodup).1
    simp only [List.map_append, List.map_cons, List.mem_append, List.mem_cons, ← hq] at hq' ⊢
    refine ⟨fun ha => ⟨ha.imp_right Or.inr, fun haq => hq' (haq ▸ ha)⟩, fun ⟨ha, haq⟩ => ?_⟩
    exact ha.imp_right fun ha => ha.resolve_left haq
  · rw [hmove]
    refine ⟨fun ha => ⟨ha, fun har => hr ?_⟩, And.left⟩
    rw [List.map_append, ← har]
    exact List.mem_append_right _ ha

/-! ### Pools after a move -/

abbrev withNode (d : Directory) (p : Pool) (r : NodeRef) : List NodeRef :=
  if d.address r ∈ p.members.map d.address then p.members else p.members ++ [r]

theorem members_activateNode {p : Pool} (h : (p.members.map d.address).Nodup) (r : NodeRef) :
    (p.activateNode d r).members.Perm (withNode d p r) := move_perm h r

theorem members_deactivateNode {p : Pool} (h : (p.members.map d.address).Nodup) (r : NodeRef) :
    (p.deactivateNode d r).members.Perm (withNode d p r) := by
  have swap : (p.inactive ++ p.active).Perm p.members := List.perm_append_comm
  have hp := move_perm ((swap.map d.address).nodup_iff.2 h) r
  refine (List.perm_append_comm.trans hp).trans ?_
  simp only [(swap.map d.address).mem_iff]
  split_ifs
  · exact swap
  · exact swap.append_right [r]

theorem members_addNode (d : Directory) (p : Pool) (r : NodeRef) :
    (p.addNode d r).members = withNode d p r := by
  unfold addNode withNode
  simp only [any_hasAddress_iff]
  split_ifs
  · rfl
  · exact (List.append_assoc ..).symm

theorem activate_perm {p : Pool} {r : NodeRef} (h : (p.members.map d.address).Nodup)
    (hr : r ∈ p.members) : (p.activate d [r]).members.Perm p.members := by
  have hp := members_activateNode h r
  rwa [withNode, if_pos (List.mem_map_of_mem hr)] at hp

theorem deactivate_perm {p : Pool} {r : NodeRef} (h : (p.members.map d.address).Nodup)
    (hr : r ∈ p.members) : (p.deactivate d [r]).members.Perm p.members := by
  have hp := members_deactivateNode h r
  rwa [withNode, if_pos (List.mem_map_of_mem hr)] at hp

theorem members_add {p : Pool} {r : NodeRef} (h : d.address r ∉ p.members.map d.address) :
    (p.add d [r]).members = p.members ++ [r] :=
  (members_addNode d p r).trans (if_neg h)

/-! ### Moving many nodes -/

/-- Moves look at addresses alone. -/
theorem move_congr {d' : Directory} (h : ∀ r, d'.address r = d.address r)
    (source target : List NodeRef) (r : NodeRef) :
    move d' source target r = move d source target r := by
  have hfun : ∀ a, hasAddress d' a = hasAddress d a := by
    intro a
    funext q
    rw [Bool.eq_iff_iff, hasAddress_iff, hasAddress_iff, h q]
  unfold move
  simp only [hfun, h r]

theorem activate_congr {d' : Directory} (h : ∀ r, d'.address r = d.address r) (p : Pool)
    (rs : List NodeRef) : p.activate d' rs = p.activate d rs := by
  have hstep : activateNode d' = activateNode d := by
    funext p r
    rw [activateNode, activateNode, move_congr h]
  rw [activate, activate, hstep]

theorem deactivate_congr {d' : Directory} (h : ∀ r, d'.address r = d.address r) (p : Pool)
    (rs : List NodeRef) : p.deactivate d' rs = p.deactivate d rs := by
  have hstep : deactivateNode d' = deactivateNode d := by
    funext p r
    rw [deactivateNode, deactivateNode, move_congr h]
  rw [deactivate, deactivate, hstep]

/-- Of the nodes of a pool with distinct addresses a move takes just the one it names. -/
theorem mem_move {source target : List NodeRef} (h : ((target ++ source).map d.address).Nodup)
    {r : NodeRef} (hr : r ∈ target ++ source) (q : NodeRef) :
    (q ∈ (move d source target r).2 ↔ q ∈ target ∨ q = r) ∧
      (q ∈ (move d source target r).1 ↔ q ∈ source ∧ q ≠ r) := by
  have hinj : ∀ q ∈ target ++ source, d.address q = d.address r → q = r :=
    fun q hq => List.inj_on_of_nodup_map h hq hr
  have hnodup := List.Nodup.of_map _ h
  rcases move_cases h r with ⟨hmem, hmove⟩ | ⟨before, p, after, rfl, hp, hmove⟩ | ⟨hmem, -⟩
  · obtain ⟨p, hp, haddress⟩ := List.mem_map.1 hmem
    obtain rfl := hinj p (List.mem_append_left _ hp) haddress
    rw [hmove]
    refine ⟨⟨Or.inl, fun hq => hq.elim id fun hq => hq ▸ hp⟩, fun hq => ⟨hq, ?_⟩, And.left⟩
    rintro rfl
    exact List.disjoint_of_nodup_append hnodup hp hq
  · obtain rfl := hinj p (by simp) hp
    rw [hmove]
    have hapart := (List.nodup_cons.1 (List.perm_middle.nodup_iff.1
      (List.Nodup.of_append_right hnodup))).1
    refine ⟨by simp, ?_⟩
    simp only [List.mem_append, List.mem_cons] at hapart ⊢
    refine ⟨fun hq => ⟨hq.imp_right Or.inr, fun hqp => hapart (hqp ▸ hq)⟩, fun ⟨hq, hne⟩ => ?_⟩
    exact hq.imp_right fun hq => hq.resolve_left hne
  · exact absurd (List.mem_map_of_mem hr) hmem

theorem activate_append (p : Pool) (rs rs' : List NodeRef) :
    p.activate d (rs ++ rs') = (p.activate d rs).activate d rs' := List.foldl_append

theorem deactivate_append (p : Pool) (rs rs' : List NodeRef) :
    p.deactivate d (rs ++ rs') = (p.deactivate d rs).deactivate d rs' := List.foldl_append

/-- Activating nodes of the pool permutes it, and makes just these active as well. -/
theorem activate_members {p : Pool} (h : (p.members.map d.address).Nodup) {rs : List NodeRef}
    (hrs : ∀ r ∈ rs, r ∈ p.members) : (p.activate d rs).members.Perm p.members ∧
      ∀ q, q ∈ (p.activate d rs).active ↔ q ∈ p.active ∨ q ∈ rs := by
  induction rs generalizing p with
  | nil => exact ⟨List.Perm.refl _, fun q => by simp [activate]⟩
  | cons r rest ih =>
    have hr := hrs r List.mem_cons_self
    have hperm : (p.activateNode d r).members.Perm p.members := activate_perm h hr
    obtain ⟨hp, hactive⟩ := ih ((hperm.map d.address).nodup_iff.2 h) fun q hq =>
      hperm.mem_iff.2 (hrs q (List.mem_cons_of_mem _ hq))
    refine ⟨hp.trans hperm, fun q => (hactive q).trans ?_⟩
    have hmoved : q ∈ (p.activateNode d r).active ↔ q ∈ p.active ∨ q = r := (mem_move h hr q).1
    rw [hmoved, List.mem_cons, or_assoc]

/-- Deactivating nodes of the pool permutes it, and leaves all the other active ones active. -/
theorem deactivate_members {p : Pool} (h : (p.members.map d.address).Nodup) {rs : List NodeRef}
    (hrs : ∀ r ∈ rs, r ∈ p.members) : (p.deactivate d rs).members.Perm p.members ∧
      ∀ q, q ∈ (p.deactivate d rs).active ↔ q ∈ p.active ∧ q ∉ rs := by
  induction rs generalizing p with
  | nil => exact ⟨List.Perm.refl _, fun q => by simp [deactivate]⟩
  | cons r rest ih =>
    have hr := hrs r List.mem_cons_self
    have hperm : (p.deactivateNode d r).members.Perm p.members := deactivate_perm h hr
    obtain ⟨hp, hactive⟩ := ih ((hperm.map d.address).nodup_iff.2 h) fun q hq =>
      hperm.mem_iff.2 (hrs q (List.mem_cons_of_mem _ hq))
    refine ⟨hp.trans hperm, fun q => (hactive q).trans ?_⟩
    have swap : (p.inactive ++ p.active).Perm p.members := List.perm_append_comm
    have hmoved : q ∈ (p.deactivateNode d r).active ↔ q ∈ p.active ∧ q ≠ r :=
      (mem_move ((swap.map d.address).nodup_iff.2 h) (swap.mem_iff.2 hr) q).2
    rw [hmoved, List.mem_cons, not_or, and_assoc]

end Pool
end MetricRing
