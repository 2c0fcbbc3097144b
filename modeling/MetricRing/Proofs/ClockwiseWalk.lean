import Mathlib.Data.List.Rotate
import MetricRing.Proofs.RingOrder
import MetricRing.Topology.Walk

/-!
# Walking clockwise

The slots of a ring, read clockwise from a place, are those at or after it and then those before
it. In an ordered ring the search finds where they begin, and the walk finds the first of them
that serves. So owners are selected without indices, and no member is selected twice.
-/

namespace MetricRing.Topology.Ring

variable {r : Ring} {l : Location}

def slotsBefore (r : Ring) (l : Location) : List Slot :=
  r.slots.toList.filter fun s => decide (s.location < l)

def slotsOnward (r : Ring) (l : Location) : List Slot :=
  r.slots.toList.filter fun s => !decide (s.location < l)

def clockwise (r : Ring) (l : Location) : List Slot := r.slotsOnward l ++ r.slotsBefore l

theorem mem_clockwise {s : Slot} : s ∈ r.clockwise l ↔ s ∈ r.slots.toList := by
  simp only [clockwise, slotsOnward, slotsBefore, List.mem_append, List.mem_filter]
  cases decide (s.location < l) <;> simp

/-! ### The search -/

theorem Ordered.append_eq (hr : r.Ordered) (l : Location) :
    r.slotsBefore l ++ r.slotsOnward l = r.slots.toList := by
  refine Slot.eq_of_perm (List.filter_append_perm _ _) ?_ hr.sorted
  refine List.pairwise_append.2 ⟨hr.sorted.filter _, hr.sorted.filter _, fun s hs t ht => ?_⟩
  have hs := (List.mem_filter.1 hs).2
  have ht := (List.mem_filter.1 ht).2
  simp only [decide_eq_true_eq, Bool.not_eq_true', decide_eq_false_iff_not, BitVec.lt_def] at hs ht
  exact Slot.le_iff.2 (Or.inl (by omega))

/-- The slots before a place come first. -/
theorem Ordered.location_lt_iff (hr : r.Ordered) {i : Nat} {s : Slot} (hs : r.slots[i]? = some s) :
    s.location < l ↔ i < (r.slotsBefore l).length := by
  rw [← Array.getElem?_toList, ← hr.append_eq l] at hs
  by_cases hi : i < (r.slotsBefore l).length
  · rw [List.getElem?_append_left hi] at hs
    have hmem := (List.mem_filter.1 (List.mem_of_getElem? hs)).2
    simpa [hi] using hmem
  · rw [List.getElem?_append_right (Nat.le_of_not_lt hi)] at hs
    have hmem := (List.mem_filter.1 (List.mem_of_getElem? hs)).2
    simpa [hi] using hmem

theorem Ordered.bisect_eq (hr : r.Ordered) {fuel lo hi : Nat}
    (hlo : lo ≤ (r.slotsBefore l).length) (hhi : (r.slotsBefore l).length ≤ hi)
    (hsize : hi ≤ r.slots.size) (hfuel : hi - lo ≤ fuel) :
    r.bisect l fuel lo hi = (r.slotsBefore l).length := by
  induction fuel generalizing lo hi with
  | zero =>
    unfold bisect
    omega
  | succ fuel ih =>
    unfold bisect
    by_cases hlt : lo < hi
    · rw [if_pos hlt]
      have hmiddle : (lo + hi) / 2 < r.slots.size := by omega
      dsimp only
      rw [Array.getElem?_eq_getElem hmiddle]
      have hiff := hr.location_lt_iff (l := l) (Array.getElem?_eq_getElem hmiddle)
      dsimp only
      by_cases hbefore : r.slots[(lo + hi) / 2].location < l
      · rw [if_pos hbefore]
        have hindex := hiff.1 hbefore
        exact ih (by omega) hhi hsize (by omega)
      · rw [if_neg hbefore]
        have hindex : ¬(lo + hi) / 2 < (r.slotsBefore l).length := fun h => hbefore (hiff.2 h)
        exact ih hlo (by omega) (by omega) (by omega)
    · rw [if_neg hlt]
      omega

/-- From where the search ends, the slots of the circle stand clockwise from the place. -/
theorem Ordered.rotate_search (hr : r.Ordered) (l : Location) :
    r.slots.toList.rotate (r.search l) = r.clockwise l := by
  have hlength : (r.slotsBefore l).length + (r.slotsOnward l).length = r.slots.size := by
    rw [← List.length_append, hr.append_eq l, Array.length_toList]
  have hbisect : r.bisect l r.slots.size 0 r.slots.size = (r.slotsBefore l).length :=
    hr.bisect_eq (Nat.zero_le _) (by omega) (Nat.le_refl _) (by omega)
  unfold search clockwise
  rw [hbisect]
  dsimp only
  by_cases hall : (r.slotsBefore l).length = r.slots.size
  · have hnone : r.slotsOnward l = [] := List.eq_nil_of_length_eq_zero (by omega)
    have happend := hr.append_eq l
    rw [hnone, List.append_nil] at happend
    rw [if_pos hall, List.rotate_zero, hnone, List.nil_append, happend]
  · rw [if_neg hall, ← hr.append_eq l, List.rotate_append_length_eq]

/-! ### The walk -/

variable {selected : List Nat}

/-- A walk over slots none of which serves finds none. -/
theorem walk_eq_none (hs : ∀ s ∈ r.slots.toList, r.serves selected l s = false) (steps i : Nat) :
    r.walk selected l steps i = none := by
  induction steps generalizing i with
  | zero => rfl
  | succ steps ih =>
    unfold walk
    split
    next s hget =>
      rw [← Array.getElem?_toList] at hget
      rw [hs s (List.mem_of_getElem? hget), if_neg Bool.false_ne_true]
      exact ih (i + 1)
    next => rfl

/-- A walk that meets these slots one after another stops at the first of them that serves. -/
theorem walk_eq_some {xs : List Slot} {i steps : Nat} {s : Slot}
    (hxs : ∀ j < xs.length, r.slots[(i + j) % r.slots.size]? = xs[j]?) (hsteps : xs.length ≤ steps)
    (hs : xs.find? (r.serves selected l) = some s) : r.walk selected l steps i = some s.node := by
  induction xs generalizing i steps with
  | nil => cases hs
  | cons x xs ih =>
    cases steps with
    | zero => cases hsteps
    | succ steps =>
      have hx : r.slots[i % r.slots.size]? = some x := hxs 0 (Nat.succ_pos _)
      unfold walk
      rw [hx]
      dsimp only
      rw [List.find?_cons] at hs
      cases hserves : r.serves selected l x with
      | true =>
        rw [hserves] at hs
        rw [if_pos rfl, Option.some.inj hs]
      | false =>
        rw [hserves] at hs
        rw [if_neg Bool.false_ne_true]
        refine ih (fun j hj => ?_) (Nat.le_of_succ_le_succ hsteps) hs
        rw [Nat.add_right_comm, Nat.add_assoc]
        exact hxs (j + 1) (Nat.succ_lt_succ hj)

theorem Ordered.walk_eq (hr : r.Ordered) (selected : List Nat) (l : Location) :
    r.walk selected l (2 * r.slots.size) (r.search l) =
      ((r.clockwise l).find? (r.serves selected l)).map Slot.node := by
  cases hfind : (r.clockwise l).find? (r.serves selected l) with
  | none =>
    refine walk_eq_none (fun s hs => ?_) _ _
    have hnot := List.find?_eq_none.1 hfind s (mem_clockwise.2 hs)
    exact Bool.eq_false_iff.2 hnot
  | some s =>
    have hlength : (r.clockwise l).length = r.slots.size := by
      rw [← hr.rotate_search l, List.length_rotate, Array.length_toList]
    refine walk_eq_some (fun j hj => ?_) (by omega) hfind
    rw [← hr.rotate_search l, List.getElem?_rotate (by rw [Array.length_toList]; omega),
      Array.getElem?_toList, Array.length_toList, Nat.add_comm]

/-! ### Selected members -/

theorem Ordered.select_succ (hr : r.Ordered) (n : Nat) (l : Location) (selected : List Nat) :
    r.select (n + 1) l selected =
      match (r.clockwise l).find? (r.serves selected l) with
      | some s => r.select n l.opposite (selected ++ [s.node])
      | none => selected := by
  rw [select, hr.walk_eq]
  cases (r.clockwise l).find? (r.serves selected l) <;> rfl

theorem Ordered.prefix_select (hr : r.Ordered) (n : Nat) (l : Location) (selected : List Nat) :
    selected <+: r.select n l selected := by
  induction n generalizing l selected with
  | zero => exact List.prefix_refl _
  | succ n ih =>
    rw [hr.select_succ]
    cases (r.clockwise l).find? (r.serves selected l) with
    | none => exact List.prefix_refl _
    | some s => exact (List.prefix_append _ _).trans (ih l.opposite (selected ++ [s.node]))

theorem Ordered.nodup_select (hr : r.Ordered) {n : Nat} {l : Location} {selected : List Nat}
    (hs : selected.Nodup) : (r.select n l selected).Nodup := by
  induction n generalizing l selected with
  | zero => exact hs
  | succ n ih =>
    rw [hr.select_succ]
    cases hfind : (r.clockwise l).find? (r.serves selected l) with
    | none => exact hs
    | some s =>
      have hserves := List.find?_some hfind
      have hnew : s.node ∉ selected := by
        rw [serves, Bool.and_eq_true, Bool.not_eq_true', List.contains_eq_mem,
          decide_eq_false_iff_not] at hserves
        exact hserves.1
      refine ih (List.nodup_append_comm.1 (List.nodup_cons.2 ⟨hnew, hs⟩))

theorem Ordered.lt_of_mem_select (hr : r.Ordered) {n : Nat} {l : Location} {selected : List Nat}
    (hs : ∀ i ∈ selected, i < r.members.length) :
    ∀ i ∈ r.select n l selected, i < r.members.length := by
  induction n generalizing l selected with
  | zero => exact hs
  | succ n ih =>
    rw [hr.select_succ]
    cases hfind : (r.clockwise l).find? (r.serves selected l) with
    | none => exact hs
    | some s =>
      apply ih
      intro i hi
      rcases List.mem_append.1 hi with hi | hi
      · exact hs i hi
      · rw [List.mem_singleton.1 hi]
        exact hr.placed s (mem_clockwise.1 (List.mem_of_find?_eq_some hfind))

/-- One more member wanted is one more member, or all there are have been selected already. -/
theorem Ordered.select_succ_cases (hr : r.Ordered) (n : Nat) (l : Location) (selected : List Nat) :
    (r.select (n + 1) l selected).length = selected.length + (n + 1) ∨
      r.select (n + 1) l selected = r.select n l selected := by
  induction n generalizing l selected with
  | zero =>
    rw [hr.select_succ]
    cases (r.clockwise l).find? (r.serves selected l) with
    | none => exact Or.inr rfl
    | some s => exact Or.inl List.length_append
  | succ n ih =>
    rw [hr.select_succ, hr.select_succ]
    cases (r.clockwise l).find? (r.serves selected l) with
    | none => exact Or.inr rfl
    | some s =>
      rcases ih l.opposite (selected ++ [s.node]) with hlength | heq
      · left
        rw [List.length_append, List.length_singleton] at hlength
        dsimp only
        omega
      · exact Or.inr heq

/-- More members than there are cannot be selected. -/
theorem Ordered.length_select_le (hr : r.Ordered) (n : Nat) (l : Location) :
    (r.select n l []).length ≤ r.members.length := by
  have hnodup : (r.select n l []).Nodup := hr.nodup_select List.nodup_nil
  have hrange : r.select n l [] ⊆ List.range r.members.length := fun i hi =>
    List.mem_range.2 (hr.lt_of_mem_select (fun _ h => absurd h List.not_mem_nil) i hi)
  have hle := (List.subperm_of_subset hnodup hrange).length_le
  rwa [List.length_range] at hle

/-- Bounding the wanted members by the number of members changes nothing. -/
theorem Ordered.owners_eq (hr : r.Ordered) (key : String) (n : Nat) :
    r.owners key n = r.select n (Location.ofKey key) [] := by
  have beyond (k : Nat) : r.select (r.members.length + k) (Location.ofKey key) [] =
      r.select r.members.length (Location.ofKey key) [] := by
    induction k with
    | zero => rfl
    | succ k ih =>
      rcases hr.select_succ_cases (r.members.length + k) (Location.ofKey key) [] with hlength | heq
      · have hle := hr.length_select_le (r.members.length + k + 1) (Location.ofKey key)
        rw [hlength, List.length_nil] at hle
        omega
      · exact heq.trans ih
  unfold owners
  rcases Nat.le_total n r.members.length with hn | hn
  · rw [Nat.min_eq_left hn]
  · obtain ⟨k, rfl⟩ := Nat.exists_eq_add_of_le hn
    rw [Nat.min_eq_right hn, beyond k]

theorem Ordered.lt_of_mem_owners (hr : r.Ordered) (key : String) (n : Nat) :
    ∀ i ∈ r.owners key n, i < r.members.length := by
  rw [hr.owners_eq]
  exact hr.lt_of_mem_select fun i hi => absurd hi List.not_mem_nil

end MetricRing.Topology.Ring
