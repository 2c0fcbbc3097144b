import Mathlib.Data.List.Sort
import Mathlib.Tactic.SplitIfs
import MetricRing.Topology.Ring

/-!
# The order of the ring

The order of slots is total and tells any two slots apart, so that the slots of a ring stand in
the only order they can. A compiled ring has the members it was compiled from, with ids in lower
case, and just their slots.
-/

namespace MetricRing.Topology

/-! ### Slots -/

namespace Slot

variable {s t u : Slot}

theorem le_iff : s.le t = true ↔ s.location.toNat < t.location.toNat ∨
    s.location = t.location ∧ (s.node < t.node ∨ s.node = t.node ∧ s.replica ≤ t.replica) := by
  simp [Slot.le, BitVec.lt_def]

theorem le_total (s t : Slot) : (s.le t || t.le s) = true := by
  rw [Bool.or_eq_true, le_iff, le_iff, ← BitVec.toNat_inj, ← BitVec.toNat_inj]
  omega

theorem le_trans (hst : s.le t = true) (htu : t.le u = true) : s.le u = true := by
  rw [le_iff, ← BitVec.toNat_inj] at hst htu ⊢
  omega

theorem le_antisymm (hst : s.le t = true) (hts : t.le s = true) : s = t := by
  rw [le_iff, ← BitVec.toNat_inj] at hst hts
  obtain ⟨hl, hn, hr⟩ : s.location.toNat = t.location.toNat ∧ s.node = t.node ∧
      s.replica = t.replica := by omega
  obtain ⟨sl, sn, sr⟩ := s
  obtain ⟨tl, tn, tr⟩ := t
  simp only [Slot.mk.injEq]
  exact ⟨BitVec.toNat_inj.1 hl, hn, hr⟩

/-- Two sorted lists of the same slots are equal. -/
theorem eq_of_perm {xs ys : List Slot} (hp : xs.Perm ys)
    (hx : xs.Pairwise fun s t => s.le t = true) (hy : ys.Pairwise fun s t => s.le t = true) :
    xs = ys :=
  hp.eq_of_pairwise (fun _ _ _ _ => le_antisymm) hx hy

theorem pairwise_mergeSort (xs : List Slot) :
    (xs.mergeSort Slot.le).Pairwise fun s t => s.le t = true := by
  apply List.pairwise_mergeSort
  · exact fun _ _ _ => le_trans
  · exact le_total

end Slot

theorem mem_slotsFrom {k : Nat} {members : List Member} {s : Slot}
    (hs : s ∈ slotsFrom k members) : k ≤ s.node ∧ s.node < k + members.length := by
  induction members generalizing k with
  | nil => exact absurd hs List.not_mem_nil
  | cons m rest ih =>
    rw [List.length_cons]
    rcases List.mem_append.1 hs with hs | hs
    · obtain ⟨r, -, rfl⟩ := List.mem_map.1 hs
      exact ⟨Nat.le_refl k, Nat.lt_add_of_pos_right (Nat.succ_pos _)⟩
    · have hrest := ih hs
      omega

/-! ### Compiled rings -/

theorem normalized_eq_ok {members lowered : List Member} (h : normalized members = .ok lowered) :
    lowered = members.map Member.lowered := by
  induction members generalizing lowered with
  | nil => exact (Except.ok.inj h).symm
  | cons m rest ih =>
    unfold normalized at h
    split_ifs at h
    split at h
    next others hothers =>
      rw [← Except.ok.inj h, ih hothers, List.map_cons]
    next => cases h

namespace Ring

variable {members : List Member} {declared : Option String} {writeCopies : UInt8} {r : Ring}

theorem compile_eq_ok (h : compile members declared writeCopies = .ok r) :
    r = build (members.map Member.lowered) r.hash (isSided (members.map Member.lowered))
      writeCopies := by
  unfold compile at h
  split at h
  · cases h
  next lowered hlowered =>
    rw [normalized_eq_ok hlowered] at h
    dsimp only at h
    split at h
    · split_ifs at h
      exact (Except.ok.inj h) ▸ rfl
    · exact (Except.ok.inj h) ▸ rfl

structure Ordered (r : Ring) : Prop where
  sorted : r.slots.toList.Pairwise fun s t => s.le t = true
  placed : ∀ s ∈ r.slots.toList, s.node < r.members.length

theorem ordered_build (members : List Member) (hash : String) (sided : Bool) (writeCopies : UInt8) :
    (build members hash sided writeCopies).Ordered where
  sorted := Slot.pairwise_mergeSort _
  placed s hs := by
    have hnode := (mem_slotsFrom (List.mem_mergeSort.1 hs)).2
    rwa [Nat.zero_add] at hnode

theorem IsCompiled.ordered (h : r.IsCompiled) : r.Ordered := by
  obtain ⟨members, declared, writeCopies, hr⟩ := h
  rw [compile_eq_ok hr]
  exact ordered_build ..

theorem IsCompiled.slots_eq (h : r.IsCompiled) :
    r.slots.toList = (slotsFrom 0 r.members).mergeSort Slot.le := by
  obtain ⟨members, declared, writeCopies, hr⟩ := h
  rw [compile_eq_ok hr]
  rfl

end Ring
end MetricRing.Topology
