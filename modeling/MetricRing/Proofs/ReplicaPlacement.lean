import MetricRing.Proofs.NearestSlots
import MetricRing.Proofs.TakingTurns

/-!
# Placement of replicas

The walks that start at a key and at the place opposite to it take turns in giving the owners. In
a ring without sides both walks meet every member of some weight, so that all of these are owners
if enough are wanted. Where every such member declares a side the walks have no member in common,
the owners alternate between the sides, and those of one side do not depend on the members of the
other.
-/

namespace MetricRing.Topology

/-! ### Halves and sides -/

namespace Location

def side (l : Location) : Side := if l.isUpper then .b else .a

variable {l l' : Location}

theorem isUpper_opposite (l : Location) : l.opposite.isUpper = !l.isUpper := by
  have htop : topBit.msb = true := by decide
  rw [isUpper, opposite, BitVec.msb_xor, htop, Bool.xor_true, isUpper]

theorem opposite_opposite (l : Location) : l.opposite.opposite = l := by
  rw [opposite, opposite, BitVec.xor_assoc, BitVec.xor_self, BitVec.xor_zero]

theorem side_eq_side_iff : l.side = l'.side ↔ l.isUpper = l'.isUpper := by
  unfold side
  cases l.isUpper <;> cases l'.isUpper <;> decide

theorem iterate_opposite (i : Nat) (l : Location) :
    opposite^[i] l = if i % 2 = 0 then l else l.opposite := by
  induction i with
  | zero => rfl
  | succ i ih =>
    rw [Function.iterate_succ_apply', ih]
    rcases Nat.mod_two_eq_zero_or_one i with h | h
    · rw [if_pos h, if_neg (by omega)]
    · rw [if_neg (by omega), if_pos (by omega), opposite_opposite]

theorem isDeclared_side (l : Location) : l.side.isDeclared = true := by
  unfold side
  cases l.isUpper <;> rfl

theorem side_opposite_ne (l : Location) : l.opposite.side ≠ l.side := by
  rw [Ne, side_eq_side_iff, isUpper_opposite]
  exact Bool.not_ne_self _

end Location

theorem Side.side_pin {side : Side} (h : side.isDeclared = true) (l : Location) :
    (side.pin l).side = side := by
  have htop : Location.topBit.msb = true := by decide
  cases side with
  | none => cases h
  | a => simp [Side.pin, Location.lower, Location.side, Location.isUpper, htop]
  | b => simp [Side.pin, Location.upper, Location.side, Location.isUpper, htop]

/-! ### Members and their slots -/

theorem Member.mem_slots {m : Member} {k : Nat} {s : Slot} : s ∈ m.slots k ↔
    s.node = k ∧ s.replica < m.weight.toNat ∧
      s.location = slotLocation m.id (UInt16.ofNat s.replica) m.side := by
  unfold Member.slots
  rw [List.mem_map]
  constructor
  · rintro ⟨replica, hreplica, rfl⟩
    exact ⟨rfl, List.mem_range.1 hreplica, rfl⟩
  · rintro ⟨rfl, hreplica, hlocation⟩
    exact ⟨s.replica, List.mem_range.2 hreplica, by rw [← hlocation]⟩

theorem Member.weight_pos_of_mem_slots {m : Member} {k : Nat} {s : Slot} (hs : s ∈ m.slots k) :
    0 < m.weight :=
  UInt32.lt_iff_toNat_lt.2 (Nat.zero_lt_of_lt (mem_slots.1 hs).2.1)

theorem Member.exists_mem_slots {m : Member} (hm : 0 < m.weight) (k : Nat) : ∃ s, s ∈ m.slots k :=
  ⟨⟨slotLocation m.id (UInt16.ofNat 0) m.side, k, 0⟩,
    mem_slots.2 ⟨rfl, UInt32.lt_iff_toNat_lt.1 hm, rfl⟩⟩

/-- The slots of a member that declares a side lie in the half of the side. -/
theorem Member.side_of_mem_slots {m : Member} {k : Nat} {s : Slot} (hs : s ∈ m.slots k)
    (hside : m.side.isDeclared = true) : s.location.side = m.side := by
  rw [(mem_slots.1 hs).2.2, slotLocation]
  exact Side.side_pin hside _

theorem mem_slotsFrom_iff {k : Nat} {members : List Member} {s : Slot} :
    s ∈ slotsFrom k members ↔ ∃ (i : Nat) (m : Member), members[i]? = some m ∧
      s ∈ m.slots (k + i) := by
  induction members generalizing k with
  | nil => simp [slotsFrom]
  | cons m rest ih =>
    rw [slotsFrom, List.mem_append, ih]
    constructor
    · rintro (hs | ⟨i, m', hm', hs⟩)
      · exact ⟨0, m, rfl, hs⟩
      · exact ⟨i + 1, m', hm', by rwa [Nat.add_comm i, ← Nat.add_assoc]⟩
    · rintro ⟨i | i, m', hm', hs⟩
      · obtain rfl : m = m' := Option.some.inj hm'
        exact Or.inl hs
      · exact Or.inr ⟨i, m', hm', by rwa [Nat.add_assoc, Nat.add_comm 1]⟩

/-! ### Members met on the way -/

def nodesOf (slots : List Slot) : List Nat := (slots.map Slot.node).eraseDups

/-- The members met clockwise from a place, in a sided ring those met in its half. -/
def met (members : List Member) (sided : Bool) (l : Location) : List Nat :=
  nodesOf ((slotsClockwise members l).filter fun s => sided = true → s.isUpper = l.isUpper)

variable {members : List Member} {sided : Bool} {l : Location} {n p : Nat}

theorem mem_met : p ∈ met members sided l ↔ ∃ m s, members[p]? = some m ∧ s ∈ m.slots p ∧
    (sided = true → s.isUpper = l.isUpper) := by
  simp only [met, nodesOf, List.mem_eraseDups, List.mem_map, List.mem_filter, slotsClockwise,
    List.mem_mergeSort, mem_slotsFrom_iff, decide_eq_true_eq, Nat.zero_add]
  constructor
  · rintro ⟨s, ⟨⟨i, m, hm, hs⟩, hhalf⟩, hnode⟩
    obtain rfl : i = p := (Member.mem_slots.1 hs).1.symm.trans hnode
    exact ⟨m, s, hm, hs, hhalf⟩
  · rintro ⟨m, s, hm, hs, hhalf⟩
    exact ⟨s, ⟨⟨p, m, hm, hs⟩, hhalf⟩, (Member.mem_slots.1 hs).1⟩

theorem nodup_met (members : List Member) (sided : Bool) (l : Location) :
    (met members sided l).Nodup :=
  nodup_eraseDups _

theorem nearest_succ (members : List Member) (sided : Bool) (n : Nat) (l : Location)
    (before : List Nat) : nearest members sided (n + 1) l before =
      match (met members sided l).find? fun i => i ∉ before with
      | some i => i :: nearest members sided n l.opposite (before ++ [i])
      | none => [] := by
  have hfind : (met members sided l).find? (fun i => i ∉ before) =
      ((slotsClockwise members l).find? fun s =>
        s.node ∉ before ∧ (sided = true → s.isUpper = l.isUpper)).map Slot.node := by
    rw [met, nodesOf, find?_eraseDups, List.find?_map, List.find?_filter]
    congr 2
    funext s
    rw [Bool.eq_iff_iff]
    simp [and_comm]
  rw [nearest, hfind]
  cases (slotsClockwise members l).find? _ <;> rfl

theorem nearest_eq_turns (members : List Member) (sided : Bool) (n : Nat) (l : Location)
    (before : List Nat) : nearest members sided n l before =
      turns n (met members sided l) (met members sided l.opposite) before := by
  induction n generalizing l before with
  | zero => rfl
  | succ n ih =>
    rw [nearest_succ, turns]
    cases (met members sided l).find? _ with
    | none => rfl
    | some i =>
      dsimp only
      rw [ih, Location.opposite_opposite]

/-- Each owner is met from the place whose turn it is. -/
theorem mem_met_of_getElem?_nearest {before : List Nat} {i : Nat}
    (h : (nearest members sided n l before)[i]? = some p) :
    p ∈ met members sided (Location.opposite^[i] l) := by
  induction n generalizing l before i with
  | zero => cases h
  | succ n ih =>
    rw [nearest_succ] at h
    cases hfind : (met members sided l).find? fun j => j ∉ before with
    | none =>
      rw [hfind] at h
      cases h
    | some q =>
      rw [hfind] at h
      cases i with
      | zero =>
        obtain rfl : q = p := Option.some.inj h
        exact List.mem_of_find?_eq_some hfind
      | succ i =>
        rw [Function.iterate_succ_apply]
        exact ih h

/-- Without sides every member of some weight is met. -/
theorem mem_met_iff_weight_pos :
    p ∈ met members false l ↔ p ∈ members.findIdxs fun m => 0 < m.weight := by
  rw [mem_met, List.mem_findIdxs_iff_exists_getElem_pos]
  constructor
  · rintro ⟨m, s, hm, hs, -⟩
    obtain ⟨hp, rfl⟩ := List.getElem?_eq_some_iff.1 hm
    exact ⟨hp, decide_eq_true (Member.weight_pos_of_mem_slots hs)⟩
  · rintro ⟨hp, hweight⟩
    rw [decide_eq_true_eq] at hweight
    obtain ⟨s, hs⟩ := Member.exists_mem_slots hweight p
    exact ⟨members[p], s, List.getElem?_eq_getElem hp, hs, fun h => absurd h Bool.false_ne_true⟩

theorem length_nearest_unsided (members : List Member) (n : Nat) (l : Location) :
    (nearest members false n l []).length = min n (members.countP fun m => 0 < m.weight) := by
  have hmet (l : Location) (i : Nat) : i ∈ met members false l ↔
      i ∈ (members.findIdxs fun m => 0 < m.weight).toFinset := by
    rw [List.mem_toFinset, mem_met_iff_weight_pos]
  rw [nearest_eq_turns, length_turns n (hmet l) (hmet l.opposite), List.toFinset_nil,
    Finset.sdiff_empty, List.toFinset_card_of_nodup List.nodup_findIdxs, List.length_findIdxs]

/-! ### The members of one side -/

def Slot.renumber (f : Nat → Nat) (s : Slot) : Slot := { s with node := f s.node }

theorem Slot.metBefore_renumber {f : Nat → Nat} {s t : Slot}
    (hf : s.node < t.node → f s.node < f t.node) (h : metBefore l s t = true) :
    metBefore l (s.renumber f) (t.renumber f) = true := by
  have hle : s.le t = true → (s.renumber f).le (t.renumber f) = true := by
    rw [le_iff, le_iff]
    rintro (hl | ⟨hl, hn | ⟨hn, hreplica⟩⟩)
    · exact Or.inl hl
    · exact Or.inr ⟨hl, Or.inl (hf hn)⟩
    · exact Or.inr ⟨hl, Or.inr ⟨congrArg f hn, hreplica⟩⟩
  rw [metBefore_iff] at h ⊢
  exact h.imp (fun h => ⟨h.1, h.2.1, hle h.2.2⟩) fun h => ⟨h.1, h.2.imp_right hle⟩

theorem Member.map_slots (m : Member) (f : Nat → Nat) (k : Nat) :
    (m.slots k).map (Slot.renumber f) = m.slots (f k) := by
  unfold Member.slots
  rw [List.map_map]
  rfl

/-- A member of the list of those chosen by `q` stands in the whole list where `f` says. -/
theorem slotsFrom_filter {q : Member → Bool} {q' : Slot → Bool} {f : Nat → Nat} {j k : Nat}
    (hq : ∀ m ∈ members, ∀ i, ∀ s ∈ m.slots i, q' s = q m)
    (hf : ∀ i < members.countP q, f (j + i) = k + members.findIdxNth q i) :
    (slotsFrom j (members.filter q)).map (Slot.renumber f) = (slotsFrom k members).filter q' := by
  induction members generalizing j k with
  | nil => rfl
  | cons m rest ih =>
    have hrest := fun m' hm' => hq m' (List.mem_cons_of_mem m hm')
    have hfirst := hq m List.mem_cons_self k
    rw [slotsFrom, List.filter_append]
    cases hm : q m with
    | true =>
      rw [List.countP_cons_of_pos hm] at hf
      have hj : f j = k := by simpa [hm] using hf 0 (Nat.succ_pos _)
      have hkept : (m.slots k).filter q' = m.slots k :=
        List.filter_eq_self.2 fun s hs => (hfirst s hs).trans hm
      rw [List.filter_cons_of_pos hm, slotsFrom, List.map_append, Member.map_slots, hj, hkept]
      refine congrArg _ (ih hrest fun i hi => ?_)
      rw [Nat.add_right_comm, Nat.add_assoc, hf (i + 1) (Nat.succ_lt_succ hi),
        List.findIdxNth_cons_succ_of_pos hm]
      omega
    | false =>
      have hm' : ¬q m = true := Bool.eq_false_iff.1 hm
      rw [List.countP_cons_of_neg hm'] at hf
      have hgone : (m.slots k).filter q' = [] :=
        List.filter_eq_nil_iff.2 fun s hs => hfirst s hs ▸ hm'
      rw [List.filter_cons_of_neg hm', hgone, List.nil_append]
      refine ih hrest fun i hi => ?_
      rw [hf i hi, List.findIdxNth_cons_of_neg hm]
      omega

/-- The slots of the chosen members are met in the same order with the others and without them. -/
theorem slotsClockwise_filter {q : Member → Bool} {q' : Slot → Bool}
    (hq : ∀ m ∈ members, ∀ i, ∀ s ∈ m.slots i, q' s = q m) (l : Location) :
    (slotsClockwise (members.filter q) l).map (Slot.renumber (members.findIdxNth q)) =
      (slotsClockwise members l).filter q' := by
  have hslots := slotsFrom_filter (f := members.findIdxNth q) (j := 0) (k := 0) hq fun i _ => by
    rw [Nat.zero_add, Nat.zero_add]
  have hperm : ((slotsClockwise (members.filter q) l).map
      (Slot.renumber (members.findIdxNth q))).Perm ((slotsClockwise members l).filter q') := by
    refine ((List.mergeSort_perm _ _).map _).trans ?_
    rw [hslots]
    exact ((List.mergeSort_perm _ _).filter _).symm
  refine hperm.eq_of_pairwise (fun _ _ _ _ => Slot.metBefore_antisymm) ?_
    ((pairwise_slotsClockwise members l).filter _)
  refine List.pairwise_map.2 ((pairwise_slotsClockwise _ l).imp_of_mem fun {s t} hs _ hst => ?_)
  refine Slot.metBefore_renumber (fun hnode => ?_) hst
  have hnumber := (mem_slotsFrom (List.mem_mergeSort.1 hs)).2
  rw [Nat.zero_add, ← List.countP_eq_length_filter] at hnumber
  exact List.findIdxNth_lt_findIdxNth_iff.2 ⟨hnumber, hnode⟩

theorem getElem?_findIdxNth {q : Member → Bool} {i : Nat} (hi : i < (members.filter q).length) :
    members[members.findIdxNth q i]? = (members.filter q)[i]? := by
  have hcount : i < members.countP q := List.countP_eq_length_filter ▸ hi
  have hindex := List.findIdxNth_lt_length_of_lt_countP hcount
  rw [List.getElem?_eq_getElem hi, List.getElem?_eq_getElem hindex,
    List.getElem_filter_eq_getElem_getElem_findIdxs]
  simp only [List.getElem_findIdxs_eq_findIdxNth]

def membersMet (members : List Member) (l : Location) : List Member :=
  (nodesOf (slotsClockwise members l)).filterMap fun i => members[i]?

theorem filterMap_nodesOf_filter {q : Member → Bool} {q' : Slot → Bool}
    (hq : ∀ m ∈ members, ∀ i, ∀ s ∈ m.slots i, q' s = q m) (l : Location) :
    (nodesOf ((slotsClockwise members l).filter q')).filterMap (fun i => members[i]?) =
      membersMet (members.filter q) l := by
  have hplaced : ∀ i ∈ (slotsClockwise (members.filter q) l).map Slot.node,
      i < (members.filter q).length := by
    intro i hi
    obtain ⟨s, hs, rfl⟩ := List.mem_map.1 hi
    have hnumber := (mem_slotsFrom (List.mem_mergeSort.1 hs)).2
    rwa [Nat.zero_add] at hnumber
  have hnodes : nodesOf ((slotsClockwise members l).filter q') =
      (nodesOf (slotsClockwise (members.filter q) l)).map (members.findIdxNth q) := by
    rw [← slotsClockwise_filter hq, nodesOf, nodesOf, List.map_map, ← eraseDups_map, List.map_map]
    · rfl
    · intro i hi j _ hij
      have hi' : i < members.countP q := List.countP_eq_length_filter ▸ hplaced i hi
      exact (List.findIdxNth_eq_findIdxNth_iff_of_left_lt_countP hi').1 hij
  rw [hnodes, List.filterMap_map]
  exact List.filterMap_congr fun i hi => getElem?_findIdxNth (hplaced i (List.mem_eraseDups.1 hi))

/-! ### Pinned members -/

def onSide (side : Side) (members : List Member) : List Member :=
  members.filter fun m => m.side = side

def AllPinned (members : List Member) : Prop :=
  ∀ m ∈ members, 0 < m.weight → m.side.isDeclared = true

instance (members : List Member) : Decidable (AllPinned members) :=
  inferInstanceAs (Decidable (∀ m ∈ members, 0 < m.weight → m.side.isDeclared = true))

/-- In a sided ring no member is met in the half that is not its side's. -/
theorem side_of_mem_met {m : Member} (hp : p ∈ met members true l) (hm : members[p]? = some m)
    (hside : m.side.isDeclared = true) : m.side = l.side := by
  obtain ⟨m', s, hm', hs, hhalf⟩ := mem_met.1 hp
  obtain rfl : m = m' := Option.some.inj (hm.symm.trans hm')
  rw [← Member.side_of_mem_slots hs hside]
  exact Location.side_eq_side_iff.2 (hhalf rfl)

theorem weight_pos_of_mem_met {m : Member} (hp : p ∈ met members sided l)
    (hm : members[p]? = some m) : 0 < m.weight := by
  obtain ⟨m', s, hm', hs, -⟩ := mem_met.1 hp
  obtain rfl : m = m' := Option.some.inj (hm.symm.trans hm')
  exact Member.weight_pos_of_mem_slots hs

def pinnedTo (members : List Member) (side : Side) : Nat :=
  members.countP fun m => 0 < m.weight ∧ m.side = side

namespace AllPinned

theorem isUpper_eq_iff (h : AllPinned members) {m : Member} (hm : m ∈ members) {i : Nat} {s : Slot}
    (hs : s ∈ m.slots i) : s.isUpper = l.isUpper ↔ m.side = l.side := by
  have hside := Member.side_of_mem_slots hs (h m hm (Member.weight_pos_of_mem_slots hs))
  rw [← hside, Location.side_eq_side_iff, Slot.isUpper]

theorem mem_met_iff (h : AllPinned members) : p ∈ met members true l ↔
    p ∈ members.findIdxs fun m => 0 < m.weight ∧ m.side = l.side := by
  rw [mem_met, List.mem_findIdxs_iff_exists_getElem_pos]
  constructor
  · rintro ⟨m, s, hm, hs, hhalf⟩
    obtain ⟨hp, rfl⟩ := List.getElem?_eq_some_iff.1 hm
    refine ⟨hp, decide_eq_true ⟨Member.weight_pos_of_mem_slots hs, ?_⟩⟩
    exact (h.isUpper_eq_iff (List.getElem_mem hp) hs).1 (hhalf rfl)
  · rintro ⟨hp, hboth⟩
    obtain ⟨hweight, hside⟩ := of_decide_eq_true hboth
    obtain ⟨s, hs⟩ := Member.exists_mem_slots hweight p
    exact ⟨_, s, List.getElem?_eq_getElem hp, hs,
      fun _ => (h.isUpper_eq_iff (List.getElem_mem hp) hs).2 hside⟩

theorem length_met (h : AllPinned members) (l : Location) :
    (met members true l).length = pinnedTo members l.side := by
  have hperm : (met members true l).Perm
      (members.findIdxs fun m => 0 < m.weight ∧ m.side = l.side) :=
    (List.perm_ext_iff_of_nodup (nodup_met ..) List.nodup_findIdxs).2 fun _ => h.mem_met_iff
  rw [hperm.length_eq, List.length_findIdxs, pinnedTo]

theorem disjoint_met (h : AllPinned members) (l : Location) :
    (met members true l).Disjoint (met members true l.opposite) := by
  intro i hi hi'
  obtain ⟨hlt, hhere⟩ := List.mem_findIdxs_iff_exists_getElem_pos.1 (h.mem_met_iff.1 hi)
  obtain ⟨_, hthere⟩ := List.mem_findIdxs_iff_exists_getElem_pos.1 (h.mem_met_iff.1 hi')
  exact l.side_opposite_ne ((of_decide_eq_true hthere).2.symm.trans (of_decide_eq_true hhere).2)

theorem nearest_eq_alternate (h : AllPinned members) (n : Nat) (l : Location) :
    nearest members true n l [] =
      alternate n (met members true l) (met members true l.opposite) := by
  have hall (xs : List Nat) : xs.filter (fun i => decide (i ∉ ([] : List Nat))) = xs :=
    List.filter_eq_self.2 fun i _ => decide_eq_true List.not_mem_nil
  rw [nearest_eq_turns, turns_eq_alternate n (nodup_met ..) (nodup_met ..) (h.disjoint_met l),
    hall, hall]

theorem filterMap_met (h : AllPinned members) (l : Location) :
    (met members true l).filterMap (fun i => members[i]?) =
      membersMet (onSide l.side members) l := by
  refine filterMap_nodesOf_filter (fun m hm i s hs => ?_) l
  rw [decide_eq_decide]
  exact (forall_prop_of_true rfl).trans (h.isUpper_eq_iff hm hs)

end AllPinned

/-! ### Placement -/

/-- Up to `n` replicas that start from a place, where all members are pinned. -/
structure Spread (members : List Member) (l : Location) (n : Nat) (entries : List Member) :
    Prop where
  length : entries.length =
    if pinnedTo members l.side ≤ pinnedTo members l.opposite.side then
      min n (2 * pinnedTo members l.side)
    else min n (2 * pinnedTo members l.opposite.side + 1)
  alternates : ∀ i m, entries[i]? = some m →
    m.side = if i % 2 = 0 then l.side else l.opposite.side
  near : onSide l.side entries <+: membersMet (onSide l.side members) l
  far : onSide l.opposite.side entries <+: membersMet (onSide l.opposite.side members) l.opposite

namespace Ring

variable {r : Ring} {key : String}

/-- Where the entries of an answer stand among the members. -/
theorem IsCompiled.getElem?_entries (hr : r.IsCompiled) {i : Nat} {m : Member}
    (hm : (r.membersAt (r.owners key n))[i]? = some m) :
    ∃ p, r.members[p]? = some m ∧
      p ∈ met r.members r.sided (Location.opposite^[i] (Location.ofKey key)) := by
  have hplaced := map_some_membersAt (hr.ordered.lt_of_mem_owners key n)
  have hindex := congrArg (fun xs => xs[i]?) hplaced
  rw [List.getElem?_map, hm, List.getElem?_map] at hindex
  obtain ⟨p, hp, hmember⟩ := Option.map_eq_some_iff.1 hindex.symm
  rw [hr.owners_eq] at hp
  exact ⟨p, hmember, mem_met_of_getElem?_nearest hp⟩

theorem IsCompiled.length_entries (hr : r.IsCompiled) (key : String) (n : Nat) :
    (r.membersAt (r.owners key n)).length = (r.owners key n).length := by
  have hlength := congrArg List.length (map_some_membersAt (hr.ordered.lt_of_mem_owners key n))
  rwa [List.length_map, List.length_map] at hlength

/-- Of the members at some positions, those of one side stand at the positions of that side. -/
theorem filter_membersAt (r : Ring) (q : Member → Bool) (positions : List Nat) :
    (r.membersAt positions).filter q =
      r.membersAt (positions.filter fun i => r.members[i]?.any q) := by
  unfold membersAt
  rw [List.filter_filterMap, List.filterMap_filter]
  refine List.filterMap_congr fun i _ => ?_
  cases r.members[i]? with
  | none => rfl
  | some m => cases hm : q m <;> simp [hm]

theorem IsCompiled.spread (hr : r.IsCompiled) (hsided : r.sided = true)
    (hpinned : AllPinned r.members) (key : String) (n : Nat) :
    Spread r.members (Location.ofKey key) n (r.membersAt (r.owners key n)) := by
  have howners : r.owners key n = alternate n (met r.members true (Location.ofKey key))
      (met r.members true (Location.ofKey key).opposite) := by
    rw [hr.owners_eq, hsided, hpinned.nearest_eq_alternate]
  have hkind {l l' : Location} : ∀ i ∈ met r.members true l',
      (r.members[i]?.any fun m => m.side = l.side) = decide (l'.side = l.side) := by
    intro i hi
    obtain ⟨hlt, hboth⟩ := List.mem_findIdxs_iff_exists_getElem_pos.1 (hpinned.mem_met_iff.1 hi)
    rw [List.getElem?_eq_getElem hlt, Option.any_some, (of_decide_eq_true hboth).2]
  have hne := (Location.ofKey key).side_opposite_ne
  refine ⟨?_, fun i m hm => ?_, ?_, ?_⟩
  · rw [hr.length_entries, howners, length_alternate, hpinned.length_met, hpinned.length_met]
  · obtain ⟨p, hp, hmet⟩ := hr.getElem?_entries hm
    rw [hsided] at hmet
    have hside := hpinned m (List.mem_of_getElem? hp) (weight_pos_of_mem_met hmet hp)
    rw [side_of_mem_met hmet hp hside, Location.iterate_opposite, apply_ite Location.side]
  · rw [onSide, filter_membersAt, howners, ← hpinned.filterMap_met]
    refine List.IsPrefix.filterMap _ ((filter_alternate n _).1 (fun i hi => ?_) fun i hi => ?_)
    · rw [hkind i hi, decide_eq_true rfl]
    · rw [hkind i hi, decide_eq_false hne]
  · rw [onSide, filter_membersAt, howners, ← hpinned.filterMap_met]
    refine List.IsPrefix.filterMap _ ((filter_alternate n _).2 (fun i hi => ?_) fun i hi => ?_)
    · rw [hkind i hi, decide_eq_false hne.symm]
    · rw [hkind i hi, decide_eq_true rfl]

/-- Owners of a key are different members of some weight. Without sides there are as many as are
wanted or there are such members. With sides no owner is pinned to the half that its turn is not
for, and where all are pinned they are spread over the sides, where the members of one side do not
reorder those of the other. -/
theorem replica_placement (hr : r.IsCompiled) (hslots : r.slots.isEmpty = false) (key : String)
    (n : Nat) :
    ∃ (positions : List Nat) (entries : List Member), r.findN key n = .ok entries ∧
      entries.map some = (positions.map fun i => r.members[i]?) ∧ positions.Nodup ∧
      (∀ m ∈ entries, 0 < m.weight) ∧
      (r.sided = false → entries.length = min n (r.members.countP fun m => 0 < m.weight)) ∧
      (r.sided = true →
        (∀ i m, entries[i]? = some m →
          m.side ≠ (Location.opposite^[i] (Location.ofKey key)).opposite.side) ∧
        (∀ i m m', entries[i]? = some m → entries[i + 1]? = some m' →
          m.side.isDeclared = true → m'.side ≠ m.side) ∧
        (AllPinned r.members → Spread r.members (Location.ofKey key) n entries ∧
          ∀ (r' : Ring) (entries' : List Member), r'.IsCompiled → r'.sided = true →
            AllPinned r'.members → r'.findN key n = .ok entries' →
            onSide (Location.ofKey key).side r'.members =
              onSide (Location.ofKey key).side r.members →
            onSide (Location.ofKey key).side entries' <+:
                onSide (Location.ofKey key).side entries ∨
              onSide (Location.ofKey key).side entries <+:
                onSide (Location.ofKey key).side entries')) := by
  have hside {i : Nat} {m : Member} (hsided : r.sided = true)
      (hm : (r.membersAt (r.owners key n))[i]? = some m) (hdeclared : m.side.isDeclared = true) :
      m.side = (Location.opposite^[i] (Location.ofKey key)).side := by
    obtain ⟨p, hp, hmet⟩ := hr.getElem?_entries hm
    rw [hsided] at hmet
    exact side_of_mem_met hmet hp hdeclared
  refine ⟨r.owners key n, _, findN_eq_ok_iff.2 ⟨hslots, rfl⟩,
    map_some_membersAt (hr.ordered.lt_of_mem_owners key n), ?_, fun m hm => ?_, fun hsided => ?_,
    fun hsided => ⟨fun i m hm => ?_, fun i m m' hm hm' hdeclared => ?_, fun hpinned => ?_⟩⟩
  · rw [hr.ordered.owners_eq]
    exact hr.ordered.nodup_select List.nodup_nil
  · obtain ⟨i, hi⟩ := List.getElem?_of_mem hm
    obtain ⟨p, hp, hmet⟩ := hr.getElem?_entries hi
    exact weight_pos_of_mem_met hmet hp
  · rw [hr.length_entries, hr.owners_eq, hsided, length_nearest_unsided]
  · intro hopposite
    have hdeclared : m.side.isDeclared = true := hopposite ▸ Location.isDeclared_side _
    exact Location.side_opposite_ne _ (hopposite.symm.trans (hside hsided hm hdeclared))
  · intro hsame
    have hhere := hside hsided hm hdeclared
    have hnext := hside hsided hm' (hsame ▸ hdeclared)
    rw [Function.iterate_succ_apply'] at hnext
    exact Location.side_opposite_ne _ (hnext.symm.trans (hsame.trans hhere))
  · refine ⟨hr.spread hsided hpinned key n, fun r' entries' hr' hsided' hpinned' hfind hsame => ?_⟩
    have hspread : Spread r'.members (Location.ofKey key) n entries' := by
      obtain ⟨-, rfl⟩ := findN_eq_ok_iff.1 hfind
      exact hr'.spread hsided' hpinned' key n
    have hnear := (hr.spread hsided hpinned key n).near
    exact List.prefix_or_prefix_of_prefix hspread.near (hsame ▸ hnear)

end Ring

def twoSides : List Member :=
  [{ id := "a", address := "10.0.0.1", weight := 1, side := .a },
    { id := "b", address := "10.0.0.2", weight := 2, side := .b },
    { id := "c", address := "10.0.0.3", weight := 1, side := .b },
    { id := "d", address := "10.0.0.4" }]

theorem replica_placement_in_twoSides :
    ∃ r r' entries entries', Ring.compile twoSides none 2 = .ok r ∧
      Ring.compile (twoSides.set 0 { id := "e", address := "10.0.0.5", weight := 3, side := .a })
        none 2 = .ok r' ∧
      r.findN "k" 5 = .ok entries ∧ r'.findN "k" 5 = .ok entries' ∧ entries.length = 3 ∧
      Spread r.members (Location.ofKey "k") 5 entries ∧
      (onSide .b entries' <+: onSide .b entries ∨ onSide .b entries <+: onSide .b entries') := by
  have hkey : (Location.ofKey "k").side = .b := by decide +kernel
  have hother : (Location.ofKey "k").opposite.side = .a := by decide +kernel
  obtain ⟨r, hr, hsided, hslots⟩ : ∃ r, Ring.compile twoSides none 2 = .ok r ∧ r.sided = true ∧
      r.slots.isEmpty = false := by
    refine ⟨_, rfl, rfl, ?_⟩
    rw [Ring.isEmpty_slots_build]
    decide +kernel
  obtain ⟨r', hr', hsided', hslots'⟩ : ∃ r', Ring.compile (twoSides.set 0
      { id := "e", address := "10.0.0.5", weight := 3, side := .a }) none 2 = .ok r' ∧
        r'.sided = true ∧ r'.slots.isEmpty = false := by
    refine ⟨_, rfl, rfl, ?_⟩
    rw [Ring.isEmpty_slots_build]
    decide +kernel
  have hmembers : r.members = twoSides.map Member.lowered :=
    congrArg Ring.members (Ring.compile_eq_ok hr)
  have hmembers' : r'.members = (twoSides.set 0
      { id := "e", address := "10.0.0.5", weight := 3, side := .a }).map Member.lowered :=
    congrArg Ring.members (Ring.compile_eq_ok hr')
  have hpinned : AllPinned r.members := by
    rw [hmembers]
    decide +kernel
  have hpinned' : AllPinned r'.members := by
    rw [hmembers']
    decide +kernel
  have hsame : onSide .b r'.members = onSide .b r.members := by
    rw [hmembers, hmembers']
    rfl
  obtain ⟨-, entries', hfind', -⟩ := Ring.replica_placement ⟨_, _, _, hr'⟩ hslots' "k" 5
  obtain ⟨-, entries, hfind, -, -, -, -, hplaced⟩ :=
    Ring.replica_placement ⟨_, _, _, hr⟩ hslots "k" 5
  obtain ⟨hspread, hcomparable⟩ := (hplaced hsided).2.2 hpinned
  have hentries := hcomparable r' entries' ⟨_, _, _, hr'⟩ hsided' hpinned' hfind'
  rw [hkey] at hentries
  refine ⟨r, r', entries, entries', hr, hr', hfind, hfind', ?_, hspread, hentries hsame⟩
  rw [hspread.length, hkey, hother, hmembers]
  decide +kernel

end MetricRing.Topology
