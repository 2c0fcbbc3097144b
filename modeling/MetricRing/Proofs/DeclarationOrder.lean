import Mathlib.Data.List.Find
import MetricRing.Proofs.CompiledRings
import MetricRing.Proofs.ReplicaIds

/-!
# The order of declaration

Slots know their members by position, and positions depend on the order in which the members are
declared. Where no two slots have one place, that order leaves no trace in the answers: what is
seen clockwise from a place, places and members, is the same, and a member is told by what is seen
of it.
-/

namespace MetricRing.Topology

/-! ### What is seen -/

/-- What is seen of a slot: its place, and the member that has it. -/
def Slot.sight (members : List Member) (s : Slot) : Location × Option Member :=
  (s.location, members[s.node]?)

def Member.sights (m : Member) : List (Location × Option Member) :=
  (List.range m.weight.toNat).map fun r => (slotLocation m.id (UInt16.ofNat r) m.side, some m)

def DistinctPlaces (members : List Member) : Prop :=
  ((slotsFrom 0 members).map Slot.location).Nodup

instance : DecidablePred DistinctPlaces := fun _ => inferInstanceAs (Decidable (List.Nodup _))

variable {members members' : List Member} {l : Location}

theorem map_sight_slots {m : Member} {k : Nat} (hm : members[k]? = some m) :
    (m.slots k).map (Slot.sight members) = m.sights := by
  rw [Member.slots, List.map_map]
  exact List.map_congr_left fun r _ => congrArg (Prod.mk _) hm

theorem map_sight_slotsFrom {k : Nat} {later : List Member}
    (hlater : ∀ i m, later[i]? = some m → members[k + i]? = some m) :
    (slotsFrom k later).map (Slot.sight members) = later.flatMap Member.sights := by
  induction later generalizing k with
  | nil => rfl
  | cons m rest ih =>
    have hrest : ∀ i m', rest[i]? = some m' → members[k + 1 + i]? = some m' := by
      intro i m' hm'
      rw [Nat.add_assoc, Nat.add_comm 1]
      exact hlater (i + 1) m' hm'
    rw [slotsFrom, List.map_append, map_sight_slots (k := k) (hlater 0 m rfl), ih hrest,
      List.flatMap_cons]

/-- The sights of a ring do not depend on the order of its members, but for their own order. -/
theorem sights_perm (hp : members.Perm members') :
    ((slotsFrom 0 members).map (Slot.sight members)).Perm
      ((slotsFrom 0 members').map (Slot.sight members')) := by
  have hall (xs : List Member) :
      (slotsFrom 0 xs).map (Slot.sight xs) = xs.flatMap Member.sights :=
    map_sight_slotsFrom fun i m hm => by rwa [Nat.zero_add]
  rw [hall, hall]
  exact hp.flatMap_right _

theorem places_perm (hp : members.Perm members') :
    ((slotsFrom 0 members).map Slot.location).Perm
      ((slotsFrom 0 members').map Slot.location) := by
  have hplaces (xs : List Member) : (slotsFrom 0 xs).map Slot.location =
      ((slotsFrom 0 xs).map (Slot.sight xs)).map Prod.fst := by
    rw [List.map_map]
    rfl
  rw [hplaces, hplaces]
  exact (sights_perm hp).map _

/-! ### Clockwise -/

def Location.MetBefore (l a b : Location) : Prop :=
  a < l ∧ b < l ∧ a ≤ b ∨ ¬a < l ∧ (b < l ∨ a ≤ b)

theorem Location.MetBefore.antisymm {a b : Location} (hab : MetBefore l a b)
    (hba : MetBefore l b a) : a = b := by
  unfold MetBefore at hab hba
  have hboth : a ≤ b ∧ b ≤ a := by tauto
  exact BitVec.le_antisymm hboth.1 hboth.2

theorem Slot.metBefore_location {s t : Slot} (h : metBefore l s t = true) :
    Location.MetBefore l s.location t.location := by
  have hle : s.le t = true → s.location ≤ t.location := by
    rw [le_iff, BitVec.le_def]
    rintro (hlt | ⟨heq, -⟩)
    · exact hlt.le
    · exact heq ▸ le_rfl
  rw [metBefore_iff] at h
  exact h.imp (fun h => ⟨h.1, h.2.1, hle h.2.2⟩) fun h => ⟨h.1, h.2.imp_right hle⟩

namespace DistinctPlaces

theorem of_perm (hd : DistinctPlaces members) (hp : members.Perm members') :
    DistinctPlaces members' :=
  (places_perm hp).nodup_iff.1 hd

/-- A member that has a slot stands at one position only. -/
theorem node_eq (hd : DistinctPlaces members) {s : Slot} (hs : s ∈ slotsFrom 0 members) {i : Nat}
    (hi : members[i]? = members[s.node]?) : i = s.node := by
  obtain ⟨j, m, hm, hslot⟩ := mem_slotsFrom_iff.1 hs
  rw [Nat.zero_add] at hslot
  obtain ⟨hnode, hreplica, hlocation⟩ := Member.mem_slots.1 hslot
  rw [hnode, hm] at hi
  have htwin : { s with node := i } ∈ slotsFrom 0 members :=
    mem_slotsFrom_iff.2 ⟨i, m, hi, Member.mem_slots.2 ⟨(Nat.zero_add i).symm, hreplica, hlocation⟩⟩
  exact congrArg Slot.node (List.inj_on_of_nodup_map hd htwin hs rfl)

/-- Clockwise from a place the same is seen, however the members are declared. -/
theorem sights_eq (hd : DistinctPlaces members) (hp : members.Perm members') (l : Location) :
    (slotsClockwise members l).map (Slot.sight members) =
      (slotsClockwise members' l).map (Slot.sight members') := by
  have hsorted (xs : List Member) : ((slotsClockwise xs l).map (Slot.sight xs)).Pairwise
      fun a b => Location.MetBefore l a.1 b.1 :=
    List.pairwise_map.2 ((pairwise_slotsClockwise xs l).imp Slot.metBefore_location)
  have hclockwise (xs : List Member) : ((slotsClockwise xs l).map (Slot.sight xs)).Perm
      ((slotsFrom 0 xs).map (Slot.sight xs)) := (List.mergeSort_perm _ _).map _
  have hperm := (hclockwise members).trans ((sights_perm hp).trans (hclockwise members').symm)
  refine hperm.eq_of_pairwise (fun a b ha hb hab hba => ?_) (hsorted members) (hsorted members')
  obtain ⟨s, hs, rfl⟩ := List.mem_map.1 ha
  obtain ⟨t, ht, rfl⟩ := List.mem_map.1 (hperm.mem_iff.2 hb)
  have hslots := List.inj_on_of_nodup_map hd (List.mem_mergeSort.1 hs) (List.mem_mergeSort.1 ht)
    (hab.antisymm hba)
  rw [hslots]

/-- The first slot of a new member, told by what is seen of it. -/
theorem find?_sight (hd : DistinctPlaces members) (sided : Bool) (l : Location)
    (before : List Nat) :
    ((slotsClockwise members l).find? fun s =>
        s.node ∉ before ∧ (sided = true → s.isUpper = l.isUpper)).map (Slot.sight members) =
      ((slotsClockwise members l).map (Slot.sight members)).find? fun seen =>
        seen.2 ∉ before.map (fun i => members[i]?) ∧
          (sided = true → seen.1.isUpper = l.isUpper) := by
  rw [List.find?_map]
  congr 1
  refine List.find?_congr fun s hs => ?_
  have hnew : s.node ∈ before ↔ members[s.node]? ∈ before.map fun i => members[i]? := by
    rw [List.mem_map]
    constructor
    · exact fun hmem => ⟨s.node, hmem, rfl⟩
    · rintro ⟨i, hmem, hi⟩
      exact hd.node_eq (List.mem_mergeSort.1 hs) hi ▸ hmem
  exact decide_eq_decide.2 (and_congr_left' (not_congr hnew))

/-- Walks that have met the same members meet the same members from there on. -/
theorem nearest_eq (hd : DistinctPlaces members) (hp : members.Perm members') (sided : Bool)
    (n : Nat) (l : Location) {before before' : List Nat}
    (hbefore : before.map (fun i => members[i]?) = before'.map fun i => members'[i]?) :
    (nearest members sided n l before).map (fun i => members[i]?) =
      (nearest members' sided n l before').map fun i => members'[i]? := by
  induction n generalizing l before before' with
  | zero => rfl
  | succ n ih =>
    have hfound := hd.find?_sight sided l before
    rw [hd.sights_eq hp, hbefore, ← (hd.of_perm hp).find?_sight sided l before'] at hfound
    rw [nearest, nearest]
    cases hs : (slotsClockwise members l).find? _ with
    | none =>
      rw [hs, Option.map_none] at hfound
      rw [Option.map_eq_none_iff.1 hfound.symm]
      rfl
    | some s =>
      rw [hs, Option.map_some] at hfound
      obtain ⟨t, ht, hsight⟩ := Option.map_eq_some_iff.1 hfound.symm
      have hmember : members[s.node]? = members'[t.node]? := (congrArg Prod.snd hsight).symm
      rw [ht]
      dsimp only
      rw [List.map_cons, List.map_cons, hmember]
      refine congrArg _ (ih l.opposite ?_)
      rw [List.map_append, List.map_append, hbefore, List.map_singleton, List.map_singleton,
        hmember]

end DistinctPlaces

/-! ### Answers -/

namespace Ring

variable {r : Ring} {writeCopies : UInt8}

theorem IsCompiled.distinctPlaces (hr : r.IsCompiled)
    (hd : (r.slots.toList.map Slot.location).Nodup) : DistinctPlaces r.members := by
  rw [hr.slots_eq] at hd
  exact ((List.mergeSort_perm _ _).map _).nodup_iff.1 hd

theorem compile_none {members : List Member} (hl : ∀ m ∈ members, m.IsLight)
    (writeCopies : UInt8) :
    compile members none writeCopies = .ok (build (members.map Member.lowered)
      (compiledDigest members writeCopies) (isSided members) writeCopies) :=
  compile_undeclared hl fun _ hd => nomatch hd

theorem hash_of_compile {members : List Member} (h : compile members none writeCopies = .ok r) :
    r.hash = compiledDigest members writeCopies := by
  rw [compile_none (isLight_of_compile h)] at h
  exact (congrArg hash (Except.ok.inj h)).symm

/-- Compiled rings of the same members give the same answers, in whatever order the members are,
where no two slots have one place. -/
theorem IsCompiled.findN_eq {r' : Ring} (hr : r.IsCompiled) (hr' : r'.IsCompiled)
    (hd : (r.slots.toList.map Slot.location).Nodup) (hp : r.members.Perm r'.members)
    (hsided : r'.sided = r.sided) (key : String) (n : Nat) : r'.findN key n = r.findN key n := by
  have hempty : r'.slots.isEmpty = r.slots.isEmpty := by
    have hlength := (places_perm hp).length_eq
    rw [List.length_map, List.length_map] at hlength
    rw [← Array.isEmpty_toList, ← Array.isEmpty_toList, hr.slots_eq, hr'.slots_eq,
      Bool.eq_iff_iff, List.isEmpty_iff_length_eq_zero, List.isEmpty_iff_length_eq_zero,
      List.length_mergeSort, List.length_mergeSort, hlength]
  have hnone : ([] : List Nat).map (fun i => r.members[i]?) =
      ([] : List Nat).map fun i => r'.members[i]? := rfl
  have hnearest := (hr.distinctPlaces hd).nearest_eq hp r.sided n (Location.ofKey key) hnone
  have hentries : r'.membersAt (r'.owners key n) = r.membersAt (r.owners key n) := by
    apply List.map_injective_iff.2 (Option.some_injective Member)
    rw [map_some_membersAt (hr.ordered.lt_of_mem_owners key n),
      map_some_membersAt (hr'.ordered.lt_of_mem_owners key n), hr.owners_eq, hr'.owners_eq,
      hsided]
    exact hnearest.symm
  cases hslots : r.slots.isEmpty with
  | true =>
    rw [findN, findN, hempty, hslots]
    rfl
  | false => rw [findN_of_slots (hempty.trans hslots), findN_of_slots hslots, hentries]

/-- Members may be declared in any order: if the ring compiled from them has no two slots at one
place, they compile in every order, with any number of copies, and the answers for every key are
the same. The digest, in which the order counts, need not be. -/
theorem findN_of_perm {members members' : List Member} (hp : members.Perm members')
    (hr : compile members none writeCopies = .ok r)
    (hd : (r.slots.toList.map fun s => s.location).Nodup) (writeCopies' : UInt8) :
    ∃ r', compile members' none writeCopies' = .ok r' ∧
      ∀ key n, r'.findN key n = r.findN key n := by
  have hl : ∀ m ∈ members', m.IsLight :=
    fun m hm => isLight_of_compile hr m (hp.mem_iff.2 hm)
  have hr' := compile_none hl writeCopies'
  refine ⟨_, hr', fun key n => ?_⟩
  have hcompiled := compile_eq_ok hr
  have hmembers : r.members = members.map Member.lowered := congrArg Ring.members hcompiled
  have hsided : r.sided = isSided members :=
    (congrArg Ring.sided hcompiled).trans (isSided_map_lowered members)
  refine IsCompiled.findN_eq ⟨_, _, _, hr⟩ ⟨_, _, _, hr'⟩ hd ?_ ?_ key n
  · rw [hmembers]
    exact hp.map _
  · rw [hsided]
    exact hp.symm.any_eq

end Ring

/-- The digest of `trio` is another one when it is declared backwards. -/
theorem findN_of_perm_in_trio :
    ∃ r r', Ring.compile trio none 2 = .ok r ∧ Ring.compile trio.reverse none 2 = .ok r' ∧
      (r.slots.toList.map fun s => s.location).Nodup ∧
      (∀ key n, r'.findN key n = r.findN key n) ∧ r'.hash ≠ r.hash := by
  obtain ⟨r, hr⟩ : ∃ r, Ring.compile trio none 2 = .ok r := ⟨_, rfl⟩
  have hd : (r.slots.toList.map fun s => s.location).Nodup := by
    have hslots : r.slots.toList = (slotsFrom 0 (trio.map Member.lowered)).mergeSort Slot.le :=
      congrArg (fun r => r.slots.toList) (Ring.compile_eq_ok hr)
    have hplaces : DistinctPlaces (trio.map Member.lowered) := by decide +kernel
    rw [hslots]
    exact ((List.mergeSort_perm _ _).map _).nodup_iff.2 hplaces
  obtain ⟨r', hr', hsame⟩ := Ring.findN_of_perm (List.reverse_perm trio).symm hr hd 2
  refine ⟨r, r', hr, hr', hd, hsame, ?_⟩
  rw [Ring.hash_of_compile hr, Ring.hash_of_compile hr']
  decide +kernel

end MetricRing.Topology
