import Mathlib.Data.List.InsertIdx
import MetricRing.Proofs.ClockwiseWalk

/-!
# Minimal disruption

When a member gets lighter or leaves, a ring loses some of this member's slots and keeps all others
in their order. A walk that does not stop at a slot of this member then stops at the same slot as
before, so that two selections that start together go on together until one of them turns to the
member in question.
-/

namespace MetricRing.Topology

/-- What is left of the slots when the member at position `p` gets lighter or leaves: which slots
stay, and where their members stand afterwards. The slots of other members all stay, in order. -/
structure Thinning (p : Nat) where
  keeps : Slot → Bool
  number : Nat → Nat
  keeps_of_ne : ∀ s : Slot, s.node ≠ p → keeps s = true
  strict : ∀ s t : Slot, keeps s = true → keeps t = true → s.node < t.node →
    number s.node < number t.node

namespace Thinning

variable {p : Nat}

def lighter (p weight : Nat) : Thinning p where
  keeps s := s.node != p || s.replica < weight
  number i := i
  keeps_of_ne s hs := by simp [hs]
  strict _ _ _ _ h := h

def without (p : Nat) : Thinning p where
  keeps s := s.node != p
  number i := if p < i then i - 1 else i
  keeps_of_ne s hs := by simp [hs]
  strict s t hs ht h := by
    simp only [bne_iff_ne] at hs ht
    split_ifs <;> omega

def renumber (θ : Thinning p) (s : Slot) : Slot := { s with node := θ.number s.node }

def apply (θ : Thinning p) (slots : List Slot) : List Slot := (slots.filter θ.keeps).map θ.renumber

theorem apply_append (θ : Thinning p) (xs ys : List Slot) :
    θ.apply (xs ++ ys) = θ.apply xs ++ θ.apply ys := by
  rw [apply, List.filter_append, List.map_append]
  rfl

/-- Only the member itself can come to stand where it stood. -/
theorem number_inj (θ : Thinning p) {s : Slot} {i : Nat} (hs : θ.keeps s = true) (hi : i ≠ p)
    (h : θ.number s.node = θ.number i) : s.node = i := by
  have hkeep : θ.keeps ⟨0, i, 0⟩ = true := θ.keeps_of_ne _ hi
  rcases Nat.lt_trichotomy s.node i with hlt | heq | hgt
  · exact absurd h (Nat.ne_of_lt (θ.strict s ⟨0, i, 0⟩ hs hkeep hlt))
  · exact heq
  · exact absurd h.symm (Nat.ne_of_lt (θ.strict ⟨0, i, 0⟩ s hkeep hs hgt))

/-- Renumbering keeps the order of the ring. -/
theorem le_renumber (θ : Thinning p) {s t : Slot} (hs : θ.keeps s = true) (ht : θ.keeps t = true)
    (h : s.le t = true) : (θ.renumber s).le (θ.renumber t) = true := by
  rw [Slot.le_iff] at h ⊢
  rcases h with hl | ⟨hl, hn | ⟨hn, hr⟩⟩
  · exact Or.inl hl
  · exact Or.inr ⟨hl, Or.inl (θ.strict s t hs ht hn)⟩
  · exact Or.inr ⟨hl, Or.inr ⟨congrArg θ.number hn, hr⟩⟩

/-- It makes no difference whether slots go before or after sorting. -/
theorem mergeSort_apply (θ : Thinning p) (slots : List Slot) :
    (θ.apply slots).mergeSort Slot.le = θ.apply (slots.mergeSort Slot.le) := by
  apply Slot.eq_of_perm _ (Slot.pairwise_mergeSort _)
  · have hsorted := (Slot.pairwise_mergeSort slots).filter θ.keeps
    refine List.pairwise_map.2 (List.Pairwise.imp_of_mem ?_ hsorted)
    intro s t hs ht
    exact θ.le_renumber (List.mem_filter.1 hs).2 (List.mem_filter.1 ht).2
  · apply (List.mergeSort_perm _ _).trans
    exact (((List.mergeSort_perm slots Slot.le).symm).filter _).map _

end Thinning

/-! ### Slots of a list without a member, or with a lighter one -/

variable {p : Nat}

/-- The slots of any other member stay, and move with the member. -/
theorem apply_slots_of_ne (θ : Thinning p) (m : Member) {k : Nat} (hk : k ≠ p) :
    θ.apply (m.slots k) = m.slots (θ.number k) := by
  unfold Thinning.apply Member.slots
  have hkeep : ∀ s ∈ (List.range m.weight.toNat).map
      (fun r => (⟨slotLocation m.id (UInt16.ofNat r) m.side, k, r⟩ : Slot)), θ.keeps s = true := by
    intro s hs
    obtain ⟨r, -, rfl⟩ := List.mem_map.1 hs
    exact θ.keeps_of_ne _ hk
  rw [List.filter_eq_self.2 hkeep, List.map_map]
  rfl

/-- Members none of which is the one that changes. -/
theorem apply_slotsFrom (θ : Thinning p) {j k : Nat} (members : List Member)
    (h : ∀ i, k + i ≠ p ∧ θ.number (k + i) = j + i) :
    θ.apply (slotsFrom k members) = slotsFrom j members := by
  induction members generalizing j k with
  | nil => rfl
  | cons m rest ih =>
    obtain ⟨hk, hj⟩ := h 0
    have hrest : θ.apply (slotsFrom (k + 1) rest) = slotsFrom (j + 1) rest := by
      apply ih
      intro i
      have hi := h (1 + i)
      rwa [← Nat.add_assoc, ← Nat.add_assoc] at hi
    have hhead : θ.apply (m.slots k) = m.slots j :=
      (apply_slots_of_ne θ m hk).trans (congrArg m.slots hj)
    rw [slotsFrom, slotsFrom, θ.apply_append, hhead, hrest]

theorem filter_range_lt {n k : Nat} (h : k ≤ n) :
    (List.range n).filter (fun i => decide (i < k)) = List.range k := by
  obtain ⟨d, rfl⟩ := Nat.exists_eq_add_of_le h
  rw [List.range_add, List.filter_append]
  have hlow : (List.range k).filter (fun i => decide (i < k)) = List.range k :=
    List.filter_eq_self.2 fun i hi => decide_eq_true (List.mem_range.1 hi)
  have hhigh : ((List.range d).map fun i => k + i).filter (fun i => decide (i < k)) = [] := by
    apply List.filter_eq_nil_iff.2
    intro i hi
    obtain ⟨j, -, rfl⟩ := List.mem_map.1 hi
    simp
  rw [hlow, hhigh, List.append_nil]

theorem slots_lighter (m : Member) (k : Nat) {weight : UInt32} (hw : weight ≤ m.weight) :
    ({ m with weight } : Member).slots k = (Thinning.lighter k weight.toNat).apply (m.slots k) := by
  unfold Thinning.apply Member.slots
  rw [List.filter_map, List.map_map]
  have hkeep : ((Thinning.lighter k weight.toNat).keeps ∘
      fun r => ⟨slotLocation m.id (UInt16.ofNat r) m.side, k, r⟩) =
      fun r => decide (r < weight.toNat) := by
    funext r
    simp [Thinning.lighter]
  rw [hkeep, filter_range_lt (UInt32.le_iff_toNat_le.1 hw)]
  rfl

theorem slotsFrom_lighter (k p : Nat) {members : List Member} {m : Member} {weight : UInt32}
    (hm : members[p]? = some m) (hw : weight ≤ m.weight) :
    slotsFrom k (members.set p { m with weight }) =
      (Thinning.lighter (k + p) weight.toNat).apply (slotsFrom k members) := by
  induction members generalizing k p with
  | nil => cases hm
  | cons x rest ih =>
    cases p with
    | zero =>
      obtain rfl : x = m := Option.some.inj hm
      rw [List.set_cons_zero, slotsFrom, slotsFrom, Thinning.apply_append, slots_lighter x k hw]
      congr 1
      refine (apply_slotsFrom _ rest fun i => ⟨?_, rfl⟩).symm
      omega
    | succ p =>
      rw [List.set_cons_succ, slotsFrom, slotsFrom, Thinning.apply_append, ih (k + 1) p hm,
        apply_slots_of_ne _ x (by omega), Nat.add_right_comm, Nat.add_assoc]
      rfl

theorem slotsFrom_without (k p : Nat) (members : List Member) :
    slotsFrom k (members.eraseIdx p) = (Thinning.without (k + p)).apply (slotsFrom k members) := by
  induction members generalizing k p with
  | nil => rfl
  | cons x rest ih =>
    cases p with
    | zero =>
      rw [List.eraseIdx_cons_zero, slotsFrom, Thinning.apply_append]
      have hnone : (Thinning.without (k + 0)).apply (x.slots k) = [] := by
        unfold Thinning.apply
        rw [List.filter_eq_nil_iff.2, List.map_nil]
        intro s hs
        obtain ⟨r, -, rfl⟩ := List.mem_map.1 hs
        simp [Thinning.without]
      rw [hnone, List.nil_append]
      refine (apply_slotsFrom _ rest fun i => ⟨by omega, ?_⟩).symm
      simp only [Thinning.without]
      split_ifs <;> omega
    | succ p =>
      have hnumber : (Thinning.without (k + (p + 1))).number k = k := if_neg (by omega)
      rw [List.eraseIdx_cons_succ, slotsFrom, slotsFrom, Thinning.apply_append, ih (k + 1) p,
        apply_slots_of_ne _ x (by omega), hnumber, Nat.add_right_comm, Nat.add_assoc]

/-! ### Two rings -/

structure Thinned (θ : Thinning p) (r r' : Ring) : Prop where
  sided : r'.sided = r.sided
  slots : r'.slots.toList = θ.apply r.slots.toList
  members : ∀ i, i ≠ p → r'.members[θ.number i]? = r.members[i]?

variable {θ : Thinning p} {r r' : Ring}

theorem Thinning.apply_filter (θ : Thinning p) {q : Slot → Bool} (hq : ∀ s, q (θ.renumber s) = q s)
    (slots : List Slot) : (θ.apply slots).filter q = θ.apply (slots.filter q) := by
  have hcomp : q ∘ θ.renumber = q := funext hq
  rw [Thinning.apply, Thinning.apply, List.filter_map, hcomp, List.filter_comm]

theorem Thinned.clockwise_eq (h : Thinned θ r r') (l : Location) :
    r'.clockwise l = θ.apply (r.clockwise l) := by
  unfold Ring.clockwise Ring.slotsOnward Ring.slotsBefore
  rw [h.slots, θ.apply_append, θ.apply_filter fun _ => rfl, θ.apply_filter fun _ => rfl]

/-- A slot that stays serves in the one ring as in the other. -/
theorem Thinned.serves_eq (h : Thinned θ r r') {selected : List Nat} (hp : p ∉ selected)
    (l : Location) {s : Slot} (hs : θ.keeps s = true) :
    r'.serves (selected.map θ.number) l (θ.renumber s) = r.serves selected l s := by
  have hmem : θ.number s.node ∈ selected.map θ.number ↔ s.node ∈ selected := by
    constructor
    · intro hm
      obtain ⟨i, hi, heq⟩ := List.mem_map.1 hm
      rwa [θ.number_inj hs (fun hip => hp (hip ▸ hi)) heq.symm]
    · exact fun hm => List.mem_map_of_mem hm
  have hcontains : (selected.map θ.number).contains (θ.renumber s).node =
      selected.contains s.node := by
    rw [List.contains_eq_mem, List.contains_eq_mem, decide_eq_decide]
    exact hmem
  unfold Ring.serves
  rw [hcontains, h.sided]
  rfl

theorem Thinned.find_eq (h : Thinned θ r r') {selected : List Nat} (hp : p ∉ selected)
    (l : Location) :
    (r'.clockwise l).find? (r'.serves (selected.map θ.number) l) =
      ((r.clockwise l).find? fun s => θ.keeps s && r.serves selected l s).map θ.renumber := by
  rw [h.clockwise_eq, Thinning.apply, List.find?_map, List.find?_filter]
  congr 2
  funext s
  cases hs : θ.keeps s with
  | false => simp
  | true => simp [h.serves_eq hp l hs]

/-- Where no slot serves, none serves in the thinned ring. -/
theorem Thinned.find_eq_none (h : Thinned θ r r') {selected : List Nat} (hp : p ∉ selected)
    {l : Location} (hnone : (r.clockwise l).find? (r.serves selected l) = none) :
    (r'.clockwise l).find? (r'.serves (selected.map θ.number) l) = none := by
  rw [h.find_eq hp, Option.map_eq_none_iff, List.find?_eq_none]
  intro s hs hboth
  exact List.find?_eq_none.1 hnone s hs (Bool.and_eq_true_iff.1 hboth).2

/-- Where the first slot that serves is another member's, it is the first in the thinned ring. -/
theorem Thinned.find_eq_some (h : Thinned θ r r') {selected : List Nat} (hp : p ∉ selected)
    {l : Location} {s : Slot} (hs : (r.clockwise l).find? (r.serves selected l) = some s)
    (hne : s.node ≠ p) :
    (r'.clockwise l).find? (r'.serves (selected.map θ.number) l) = some (θ.renumber s) := by
  obtain ⟨hserves, before, after, hsplit, hbefore⟩ := List.find?_eq_some_iff_append.1 hs
  have hkept : (r.clockwise l).find? (fun s => θ.keeps s && r.serves selected l s) = some s := by
    refine List.find?_eq_some_iff_append.2 ⟨?_, before, after, hsplit, fun t ht => ?_⟩
    · rw [θ.keeps_of_ne s hne, hserves]
      rfl
    · have hnot := hbefore t ht
      rw [Bool.not_eq_true'] at hnot ⊢
      rw [hnot, Bool.and_false]
  rw [h.find_eq hp, hkept]
  rfl

/-- Two selections that start together go on together until the first turns to the member that
changed. -/
theorem Thinned.select_prefix (h : Thinned θ r r') (hr : r.Ordered) (hr' : r'.Ordered) (n : Nat)
    (l : Location) {selected : List Nat} (hp : p ∉ selected) :
    ((r.select n l selected).take ((r.select n l selected).idxOf p)).map θ.number <+:
        r'.select n l (selected.map θ.number) ∧
      (p ∉ r.select n l selected →
        r'.select n l (selected.map θ.number) = (r.select n l selected).map θ.number) := by
  have stopped {selected : List Nat} (hp : p ∉ selected) :
      (selected.take (selected.idxOf p)).map θ.number <+: selected.map θ.number := by
    rw [List.idxOf_of_notMem hp, List.take_length]
  induction n generalizing l selected with
  | zero => exact ⟨stopped hp, fun _ => rfl⟩
  | succ n ih =>
    cases hfind : (r.clockwise l).find? (r.serves selected l) with
    | none =>
      rw [hr.select_succ, hr'.select_succ, hfind, h.find_eq_none hp hfind]
      exact ⟨stopped hp, fun _ => rfl⟩
    | some s =>
      by_cases hs : s.node = p
      · -- The member itself is selected next; what came before it is selected in both.
        have hstarts : selected ++ [p] <+: r.select (n + 1) l selected := by
          rw [hr.select_succ, hfind, ← hs]
          exact hr.prefix_select n l.opposite _
        obtain ⟨rest, hrest⟩ := hstarts
        have hindex : (r.select (n + 1) l selected).idxOf p = selected.length := by
          rw [← hrest, List.append_assoc, List.idxOf_append_of_notMem hp]
          simp
        constructor
        · rw [hindex, ← hrest, List.append_assoc, List.take_left]
          exact hr'.prefix_select (n + 1) l _
        · intro hnot
          refine absurd ?_ hnot
          rw [← hrest]
          simp
      · rw [hr.select_succ, hr'.select_succ, hfind, h.find_eq_some hp hfind hs]
        have hp' : p ∉ selected ++ [s.node] := by
          simp [hp, Ne.symm hs]
        have hnext := ih l.opposite hp'
        rw [List.map_append] at hnext
        exact hnext

/-! ### Compiled rings -/

/-- The same members, but that the one at position `p` is lighter or has left. -/
inductive Lightened (members : List Member) (p : Nat) : List Member → Prop
  | lighter (m : Member) (weight : UInt32) (hm : members[p]? = some m) (hw : weight ≤ m.weight) :
    Lightened members p (members.set p { m with weight })
  | without : Lightened members p (members.eraseIdx p)

theorem Lightened.lowered {members members' : List Member} (h : Lightened members p members') :
    Lightened (members.map Member.lowered) p (members'.map Member.lowered) := by
  cases h with
  | lighter m weight hm hw =>
    rw [List.map_set]
    refine .lighter m.lowered weight ?_ hw
    rw [List.getElem?_map, hm]
    rfl
  | without =>
    rw [← List.eraseIdx_map]
    exact .without

theorem Lightened.thinned {members members' : List Member} (h : Lightened members p members')
    (hash hash' : String) (sided : Bool) (writeCopies writeCopies' : UInt8) :
    ∃ θ : Thinning p, Thinned θ (Ring.build members hash sided writeCopies)
      (Ring.build members' hash' sided writeCopies') := by
  cases h with
  | lighter m weight hm hw =>
    refine ⟨.lighter p weight.toNat, rfl, ?_, fun i hi => List.getElem?_set_ne (Ne.symm hi)⟩
    have hslots := slotsFrom_lighter 0 p hm hw
    rw [Nat.zero_add] at hslots
    change (slotsFrom 0 (members.set p { m with weight })).mergeSort Slot.le = _
    rw [hslots]
    exact Thinning.mergeSort_apply _ _
  | without =>
    refine ⟨.without p, rfl, ?_, fun i hi => ?_⟩
    · have hslots := slotsFrom_without 0 p members
      rw [Nat.zero_add] at hslots
      change (slotsFrom 0 (members.eraseIdx p)).mergeSort Slot.le = _
      rw [hslots]
      exact Thinning.mergeSort_apply _ _
    · change (members.eraseIdx p)[if p < i then i - 1 else i]? = members[i]?
      rw [List.getElem?_eraseIdx]
      by_cases hlt : p < i
      · rw [if_pos hlt, if_neg (by omega), Nat.sub_add_cancel (by omega)]
      · rw [if_neg hlt, if_pos (by omega)]

/-- Where no member weighs anything, the ring is empty. -/
theorem Ring.isEmpty_slots_build (members : List Member) (hash : String) (sided : Bool)
    (writeCopies : UInt8) :
    (build members hash sided writeCopies).slots.isEmpty = (slotsFrom 0 members).isEmpty := by
  change ((slotsFrom 0 members).mergeSort Slot.le).toArray.isEmpty = _
  rw [List.isEmpty_toArray, Bool.eq_iff_iff, List.isEmpty_iff_length_eq_zero,
    List.isEmpty_iff_length_eq_zero, List.length_mergeSort]

/-! ### Answers -/

def Ring.membersAt (r : Ring) (positions : List Nat) : List Member :=
  positions.filterMap fun i => r.members[i]?

theorem Ring.membersAt_cons {r : Ring} {i : Nat} (hi : i < r.members.length) (rest : List Nat) :
    r.membersAt (i :: rest) = r.members[i] :: r.membersAt rest := by
  rw [Ring.membersAt, List.filterMap_cons, List.getElem?_eq_getElem hi]
  rfl

theorem Ring.map_some_membersAt {r : Ring} {positions : List Nat}
    (h : ∀ i ∈ positions, i < r.members.length) :
    (r.membersAt positions).map some = positions.map fun i => r.members[i]? := by
  induction positions with
  | nil => rfl
  | cons i rest ih =>
    have hi := h i List.mem_cons_self
    have hrest := ih fun j hj => h j (List.mem_cons_of_mem i hj)
    rw [membersAt_cons hi, List.map_cons, List.map_cons, hrest, List.getElem?_eq_getElem hi]

theorem Ring.membersAt_take {r : Ring} {positions : List Nat}
    (h : ∀ i ∈ positions, i < r.members.length) (k : Nat) :
    (r.membersAt positions).take k = r.membersAt (positions.take k) := by
  apply List.map_injective_iff.2 (Option.some_injective Member)
  rw [List.map_take, map_some_membersAt h, ← List.map_take]
  exact (map_some_membersAt fun i hi => h i (List.mem_of_mem_take hi)).symm

theorem Thinned.membersAt_map (h : Thinned θ r r') {positions : List Nat} (hp : p ∉ positions) :
    r'.membersAt (positions.map θ.number) = r.membersAt positions := by
  unfold Ring.membersAt
  rw [List.filterMap_map]
  exact List.filterMap_congr fun i hi => h.members i fun hip => hp (hip ▸ hi)

theorem Thinned.answers (h : Thinned θ r r') (hr : r.Ordered) (hr' : r'.Ordered) (key : String)
    (n : Nat) :
    (r.membersAt (r.owners key n)).take ((r.owners key n).idxOf p) <+:
        r'.membersAt (r'.owners key n) ∧
      (p ∉ r.owners key n →
        r'.membersAt (r'.owners key n) = r.membersAt (r.owners key n)) := by
  have hnil : p ∉ ([] : List Nat) := List.not_mem_nil
  have hplaced := hr.lt_of_mem_owners key n
  obtain ⟨hstarts, hequal⟩ := h.select_prefix hr hr' n (Location.ofKey key) hnil
  rw [List.map_nil, ← hr.owners_eq, ← hr'.owners_eq] at hstarts hequal
  constructor
  · have hbefore : p ∉ (r.owners key n).take ((r.owners key n).idxOf p) := fun hm =>
      absurd ((List.mem_take_iff_idxOf_lt (List.mem_of_mem_take hm)).1 hm) (Nat.lt_irrefl _)
    rw [Ring.membersAt_take hplaced, ← h.membersAt_map hbefore]
    exact hstarts.filterMap _
  · intro hp
    rw [hequal hp, h.membersAt_map hp]

/-- An answer that does not begin with the member still begins as it did. -/
theorem Thinned.head?_eq (h : Thinned θ r r') (hr : r.Ordered) (hr' : r'.Ordered) (key : String)
    (n : Nat) (hp : (r.owners key n).head? ≠ some p) :
    (r'.membersAt (r'.owners key n)).head? = (r.membersAt (r.owners key n)).head? := by
  obtain ⟨hstarts, hequal⟩ := h.answers hr hr' key n
  cases howners : r.owners key n with
  | nil =>
    rw [hequal, howners]
    rw [howners]
    exact List.not_mem_nil
  | cons i rest =>
    have hip : i ≠ p := fun hip => hp (howners ▸ congrArg some hip)
    have hi : i < r.members.length := by
      refine hr.lt_of_mem_owners key n i ?_
      rw [howners]
      exact List.mem_cons_self
    rw [howners, List.idxOf_cons_ne rest hip, Ring.membersAt_cons hi] at hstarts
    obtain ⟨others, hothers⟩ := hstarts
    rw [← hothers, Ring.membersAt_cons hi]
    rfl

/-- When a member gets lighter or leaves, the answers for a key begin with the entries that stood
before that member, and they are the same if it was not among them. So the first owner of a key
changes only if the member was the first. -/
theorem minimal_disruption {members members' : List Member} {declared declared' : Option String}
    {writeCopies writeCopies' : UInt8} (hr : Ring.compile members declared writeCopies = .ok r)
    (hr' : Ring.compile members' declared' writeCopies' = .ok r')
    (hl : Lightened members p members') (hsided : r'.sided = r.sided)
    (hslots : r'.slots.isEmpty = false) (key : String) (n : Nat) :
    ∃ entries entries', r.findN key n = .ok entries ∧ r'.findN key n = .ok entries' ∧
      entries.map some = ((r.owners key n).map fun i => r.members[i]?) ∧
      entries.take ((r.owners key n).idxOf p) <+: entries' ∧
      (p ∉ r.owners key n → entries' = entries) ∧
      ((r.owners key n).head? ≠ some p → entries'.head? = entries.head?) := by
  have hordered : r.Ordered := Ring.IsCompiled.ordered ⟨_, _, _, hr⟩
  have hordered' : r'.Ordered := Ring.IsCompiled.ordered ⟨_, _, _, hr'⟩
  obtain ⟨θ, h⟩ : ∃ θ : Thinning p, Thinned θ r r' := by
    have hsided' : isSided (members'.map Member.lowered) =
        isSided (members.map Member.lowered) := by
      rw [Ring.compile_eq_ok hr, Ring.compile_eq_ok hr'] at hsided
      exact hsided
    rw [Ring.compile_eq_ok hr, Ring.compile_eq_ok hr', hsided']
    exact hl.lowered.thinned ..
  have hslotsr : r.slots.isEmpty = false := by
    rw [← Array.isEmpty_toList] at hslots ⊢
    rw [h.slots] at hslots
    cases hempty : r.slots.toList with
    | nil =>
      rw [hempty] at hslots
      cases hslots
    | cons s rest => rfl
  have hfind : r.findN key n = .ok (r.membersAt (r.owners key n)) := by
    rw [Ring.findN, hslotsr]
    rfl
  have hfind' : r'.findN key n = .ok (r'.membersAt (r'.owners key n)) := by
    rw [Ring.findN, hslots]
    rfl
  have hplaced := Ring.map_some_membersAt (hordered.lt_of_mem_owners key n)
  obtain ⟨hstarts, hequal⟩ := h.answers hordered hordered' key n
  exact ⟨_, _, hfind, hfind', hplaced, hstarts, hequal, h.head?_eq hordered hordered' key n⟩

def trio : List Member :=
  [{ id := "a", address := "10.0.0.1", weight := 2 },
    { id := "b", address := "10.0.0.2", weight := 3 },
    { id := "c", address := "10.0.0.3", weight := 1 }]

theorem minimal_disruption_in_trio :
    ∃ r r' entries entries', Ring.compile trio none 2 = .ok r ∧
      Ring.compile (trio.set 1 { id := "b", address := "10.0.0.2" }) none 2 = .ok r' ∧
      r.findN "k" 2 = .ok entries ∧ r'.findN "k" 2 = .ok entries' ∧
      entries.take ((r.owners "k" 2).idxOf 1) <+: entries' ∧
      (1 ∉ r.owners "k" 2 → entries' = entries) ∧
      ((r.owners "k" 2).head? ≠ some 1 → entries'.head? = entries.head?) := by
  obtain ⟨r, hr⟩ : ∃ r, Ring.compile trio none 2 = .ok r := ⟨_, rfl⟩
  obtain ⟨r', hr', hsided, hslots⟩ : ∃ r',
      Ring.compile (trio.set 1 { id := "b", address := "10.0.0.2" }) none 2 = .ok r' ∧
        r'.sided = false ∧ r'.slots.isEmpty = false := by
    refine ⟨_, rfl, rfl, ?_⟩
    rw [Ring.isEmpty_slots_build]
    decide +kernel
  have hl : Lightened trio 1 (trio.set 1 { id := "b", address := "10.0.0.2" }) :=
    .lighter { id := "b", address := "10.0.0.2", weight := 3 } 0 rfl (by decide)
  have hsame : r'.sided = r.sided := by
    rw [hsided, Ring.compile_eq_ok hr]
    rfl
  obtain ⟨entries, entries', hfind, hfind', -, hstarts, hequal, hfirst⟩ :=
    minimal_disruption hr hr' hl hsame hslots "k" 2
  exact ⟨r, r', entries, entries', hr, hr', hfind, hfind', hstarts, hequal, hfirst⟩

end MetricRing.Topology
