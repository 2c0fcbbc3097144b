import MetricRing.Proofs.MinimalDisruption

/-!
# Nearest slots

The slots of some members, sorted by where they are met on the way clockwise from a place. The
owners of a key are found by taking the first slot in that order whose member is new, and in a sided
ring whose half is the one looked in, and by looking in the other half next.
-/

namespace MetricRing.Topology

/-- The slots at or after the place come first, then those before it, each in the order of the
ring. -/
def Slot.metBefore (l : Location) (s t : Slot) : Bool :=
  if s.location < l then t.location < l && s.le t else t.location < l || s.le t

def slotsClockwise (members : List Member) (l : Location) : List Slot :=
  (slotsFrom 0 members).mergeSort (Slot.metBefore l)

/-- The positions of up to `n` members that are not among those before. -/
def nearest (members : List Member) (sided : Bool) : Nat → Location → List Nat → List Nat
  | 0, _, _ => []
  | n + 1, l, before =>
    match (slotsClockwise members l).find? fun s =>
      s.node ∉ before ∧ (sided = true → s.isUpper = l.isUpper) with
    | some s => s.node :: nearest members sided n l.opposite (before ++ [s.node])
    | none => []

namespace Slot

variable {l : Location} {s t u : Slot}

theorem metBefore_iff : metBefore l s t = true ↔
    s.location < l ∧ t.location < l ∧ s.le t = true ∨
      ¬s.location < l ∧ (t.location < l ∨ s.le t = true) := by
  unfold metBefore
  by_cases hs : s.location < l <;> simp [hs]

theorem metBefore_trans (hst : metBefore l s t = true) (htu : metBefore l t u = true) :
    metBefore l s u = true := by
  rw [metBefore_iff] at hst htu ⊢
  rcases hst with ⟨hs, ht, hst⟩ | ⟨hs, ht | hst⟩ <;>
    rcases htu with ⟨ht', hu, htu⟩ | ⟨ht', hu | htu⟩
  · exact Or.inl ⟨hs, hu, le_trans hst htu⟩
  · exact absurd ht ht'
  · exact absurd ht ht'
  · exact Or.inr ⟨hs, Or.inl hu⟩
  · exact absurd ht ht'
  · exact absurd ht ht'
  · exact Or.inr ⟨hs, Or.inl hu⟩
  · exact Or.inr ⟨hs, Or.inl hu⟩
  · exact Or.inr ⟨hs, Or.inr (le_trans hst htu)⟩

theorem metBefore_total (l : Location) (s t : Slot) :
    (metBefore l s t || metBefore l t s) = true := by
  have htotal := le_total s t
  rw [Bool.or_eq_true] at htotal
  rw [Bool.or_eq_true, metBefore_iff, metBefore_iff]
  tauto

theorem metBefore_antisymm (hst : metBefore l s t = true) (hts : metBefore l t s = true) :
    s = t := by
  rw [metBefore_iff] at hst hts
  have hboth : s.le t = true ∧ t.le s = true := by tauto
  exact le_antisymm hboth.1 hboth.2

end Slot

theorem pairwise_slotsClockwise (members : List Member) (l : Location) :
    (slotsClockwise members l).Pairwise fun s t => Slot.metBefore l s t = true := by
  apply List.pairwise_mergeSort
  · exact fun _ _ _ => Slot.metBefore_trans
  · exact Slot.metBefore_total l

namespace Ring

variable {r : Ring} {l : Location}

/-- Clockwise from a place, the slots of an ordered ring are sorted by where they are met. -/
theorem Ordered.pairwise_clockwise (hr : r.Ordered) (l : Location) :
    (r.clockwise l).Pairwise fun s t => Slot.metBefore l s t = true := by
  refine List.pairwise_append.2 ⟨?_, ?_, fun s hs t ht => ?_⟩
  · refine List.Pairwise.imp_of_mem (fun {s t} hs _ hle => ?_) (hr.sorted.filter _)
    have hs := (List.mem_filter.1 hs).2
    exact Slot.metBefore_iff.2 (Or.inr ⟨by simpa using hs, Or.inr hle⟩)
  · refine List.Pairwise.imp_of_mem (fun {s t} hs ht hle => ?_) (hr.sorted.filter _)
    have hs := (List.mem_filter.1 hs).2
    have ht := (List.mem_filter.1 ht).2
    exact Slot.metBefore_iff.2 (Or.inl ⟨by simpa using hs, by simpa using ht, hle⟩)
  · have hs := (List.mem_filter.1 hs).2
    have ht := (List.mem_filter.1 ht).2
    exact Slot.metBefore_iff.2 (Or.inr ⟨by simpa using hs, Or.inl (by simpa using ht)⟩)

theorem clockwise_perm (r : Ring) (l : Location) : (r.clockwise l).Perm r.slots.toList :=
  List.perm_append_comm.trans (List.filter_append_perm _ _)

theorem IsCompiled.slotsClockwise_eq (hr : r.IsCompiled) (l : Location) :
    slotsClockwise r.members l = r.clockwise l := by
  have hperm : (slotsClockwise r.members l).Perm (r.clockwise l) := by
    refine (List.mergeSort_perm _ _).trans (((r.clockwise_perm l).trans ?_).symm)
    rw [hr.slots_eq]
    exact List.mergeSort_perm _ _
  exact hperm.eq_of_pairwise (fun _ _ _ _ => Slot.metBefore_antisymm)
    (pairwise_slotsClockwise r.members l) (hr.ordered.pairwise_clockwise l)

theorem IsCompiled.select_eq (hr : r.IsCompiled) (n : Nat) (l : Location) (selected : List Nat) :
    r.select n l selected = selected ++ nearest r.members r.sided n l selected := by
  induction n generalizing l selected with
  | zero => exact (List.append_nil selected).symm
  | succ n ih =>
    have hserves : r.serves selected l = fun s : Slot =>
        decide (s.node ∉ selected ∧ (r.sided = true → s.isUpper = l.isUpper)) := by
      funext s
      rw [Bool.eq_iff_iff]
      cases hsided : r.sided <;> simp [serves, hsided]
    rw [hr.ordered.select_succ, nearest, hr.slotsClockwise_eq, hserves]
    cases (r.clockwise l).find? _ with
    | none => exact (List.append_nil selected).symm
    | some s =>
      dsimp only
      rw [ih, List.append_assoc, List.singleton_append]

theorem IsCompiled.owners_eq (hr : r.IsCompiled) (key : String) (n : Nat) :
    r.owners key n = nearest r.members r.sided n (Location.ofKey key) [] := by
  rw [hr.ordered.owners_eq, hr.select_eq, List.nil_append]

theorem findN_eq_ok_iff {key : String} {n : Nat} {entries : List Member} :
    r.findN key n = .ok entries ↔
      r.slots.isEmpty = false ∧ r.membersAt (r.owners key n) = entries := by
  unfold findN membersAt
  cases r.slots.isEmpty <;> simp

/-- A key's owners are the members of the nearest slots, and only an empty ring has none to give. -/
theorem findN_eq_nearest (hr : r.IsCompiled) (key : String) (n : Nat) :
    (r.slots.isEmpty = false → ∃ entries, r.findN key n = .ok entries ∧
      entries.map some =
        (nearest r.members r.sided n (Location.ofKey key) []).map fun i => r.members[i]?) ∧
    (r.slots.isEmpty = true → r.findN key n = .error .emptyTopology) := by
  refine ⟨fun hslots => ⟨_, findN_eq_ok_iff.2 ⟨hslots, rfl⟩, ?_⟩, fun hslots => ?_⟩
  · rw [← hr.owners_eq]
    exact map_some_membersAt (hr.ordered.lt_of_mem_owners key n)
  · rw [findN, hslots]
    rfl

end Ring

/-- More owners are wanted than there are members, and a ring without members has none. -/
theorem findN_eq_nearest_in_trio :
    ∃ r empty entries, Ring.compile trio none 2 = .ok r ∧ r.findN "k" 7 = .ok entries ∧
      entries.map some =
        (nearest r.members r.sided 7 (Location.ofKey "k") []).map (fun i => r.members[i]?) ∧
      Ring.compile [] none 2 = .ok empty ∧ empty.findN "k" 0 = .error .emptyTopology := by
  obtain ⟨r, hr, hslots⟩ : ∃ r, Ring.compile trio none 2 = .ok r ∧ r.slots.isEmpty = false := by
    refine ⟨_, rfl, ?_⟩
    rw [Ring.isEmpty_slots_build]
    decide +kernel
  obtain ⟨empty, hempty, hnone⟩ : ∃ empty, Ring.compile [] none 2 = .ok empty ∧
      empty.slots.isEmpty = true := by
    refine ⟨_, rfl, ?_⟩
    rw [Ring.isEmpty_slots_build]
    rfl
  obtain ⟨entries, hfind, hentries⟩ := (Ring.findN_eq_nearest ⟨_, _, _, hr⟩ "k" 7).1 hslots
  exact ⟨r, empty, entries, hr, hfind, hentries, hempty,
    (Ring.findN_eq_nearest ⟨_, _, _, hempty⟩ "k" 0).2 hnone⟩

end MetricRing.Topology
