import Mathlib.Algebra.GroupWithZero.Nat
import MetricRing.Proofs.DigestBytes
import MetricRing.Proofs.ReplicaPlacement

/-!
# What compiling comes to

Compiling looks at the weights first, in the order of the members, and then at the digest. What
passes both checks becomes a ring with one slot for each unit of weight of its members and with no
other, in the strict order of places, members and replicas.
-/

namespace MetricRing.Topology

variable {members : List Member} {declared : Option String} {writeCopies : UInt8} {m : Member}

/-! ### The checks -/

def Member.isHeavy (m : Member) : Bool := maxWeight < m.weight.toNat

def Member.tooHeavy (m : Member) : Error :=
  .invalidNode (Text.lowercase m.id)
    ("weight " ++ toString m.weight.toNat ++ " exceeds " ++ toString maxWeight)

theorem isLight_of_find?_isHeavy (h : members.find? Member.isHeavy = none) :
    ∀ m ∈ members, m.IsLight := by
  intro m hm
  have hnot := List.find?_eq_none.1 h m hm
  rw [Member.isHeavy, decide_eq_true_eq] at hnot
  exact Nat.not_lt.1 hnot

theorem normalized_of_find?_isHeavy (h : members.find? Member.isHeavy = some m) :
    normalized members = .error m.tooHeavy := by
  induction members with
  | nil => cases h
  | cons first rest ih =>
    unfold normalized
    rw [List.find?_cons] at h
    cases hfirst : first.isHeavy with
    | true =>
      rw [hfirst] at h
      cases h
      rw [Member.isHeavy, decide_eq_true_eq] at hfirst
      rw [if_pos hfirst]
      rfl
    | false =>
      rw [hfirst] at h
      rw [Member.isHeavy, decide_eq_false_iff_not] at hfirst
      rw [if_neg hfirst, ih h]

theorem Ring.compile_undeclared (hl : ∀ m ∈ members, m.IsLight) (hd : ∀ d ∈ declared, d = "") :
    compile members declared writeCopies =
      .ok (build (members.map Member.lowered) (compiledDigest members writeCopies)
        (isSided members) writeCopies) := by
  have hnone : declared.filter (fun d => d != "") = none :=
    Option.filter_eq_none_iff.2 fun d hdeclared => by simp [hd d hdeclared]
  simp only [compile, normalized_of_isLight hl, hnone, isSided_map_lowered]
  rfl

/-! ### The slots -/

def Slot.Before (s t : Slot) : Prop :=
  s.location < t.location ∨
    s.location = t.location ∧ (s.node < t.node ∨ s.node = t.node ∧ s.replica < t.replica)

theorem Slot.before_of_le {s t : Slot} (h : s.le t = true) (hne : s ≠ t) : s.Before t := by
  obtain hl | ⟨hl, hn | ⟨hn, hr⟩⟩ := le_iff.1 h
  · exact Or.inl (BitVec.lt_def.2 hl)
  · exact Or.inr ⟨hl, Or.inl hn⟩
  · refine Or.inr ⟨hl, Or.inr ⟨hn, Nat.lt_of_le_of_ne hr fun hreplica => hne ?_⟩⟩
    obtain ⟨sl, sn, sr⟩ := s
    obtain ⟨tl, tn, tr⟩ := t
    rw [Slot.mk.injEq]
    exact ⟨hl, hn, hreplica⟩

theorem Location.side_eq_a_iff {l : Location} : l.side = .a ↔ l.isUpper = false := by
  unfold side
  cases l.isUpper <;> decide

theorem Location.side_eq_b_iff {l : Location} : l.side = .b ↔ l.isUpper = true := by
  unfold side
  cases l.isUpper <;> decide

/-- The slots that these members have, and no others, each once and in order. -/
structure Slotted (members : List Member) (slots : List Slot) : Prop where
  mem_iff : ∀ s, s ∈ slots ↔ ∃ i m, members[i]? = some m ∧ ∃ replica : UInt16,
    replica.toNat < m.weight.toNat ∧ s = ⟨slotLocation m.id replica m.side, i, replica.toNat⟩
  once : ∀ s ∈ slots, slots.count s = 1
  increasing : slots.Pairwise Slot.Before
  length : slots.length = (members.map fun m => m.weight.toNat).sum
  lower : ∀ s ∈ slots, ∀ m, members[s.node]? = some m → m.side = .a → s.isUpper = false
  upper : ∀ s ∈ slots, ∀ m, members[s.node]? = some m → m.side = .b → s.isUpper = true

theorem Member.length_slots (m : Member) (k : Nat) : (m.slots k).length = m.weight.toNat := by
  rw [Member.slots, List.length_map, List.length_range]

theorem Member.nodup_slots (m : Member) (k : Nat) : (m.slots k).Nodup :=
  List.Nodup.map (fun _ _ h => (Slot.mk.inj h).2.2) List.nodup_range

theorem length_slotsFrom (k : Nat) (members : List Member) :
    (slotsFrom k members).length = (members.map fun m => m.weight.toNat).sum := by
  induction members generalizing k with
  | nil => rfl
  | cons m rest ih =>
    rw [slotsFrom, List.length_append, m.length_slots, ih, List.map_cons, List.sum_cons]

theorem nodup_slotsFrom (k : Nat) (members : List Member) : (slotsFrom k members).Nodup := by
  induction members generalizing k with
  | nil => exact List.nodup_nil
  | cons m rest ih =>
    refine List.Nodup.append (m.nodup_slots k) (ih (k + 1)) fun s hs hrest => ?_
    have hlater := (mem_slotsFrom hrest).1
    rw [(Member.mem_slots.1 hs).1] at hlater
    exact Nat.not_succ_le_self k hlater

/-- The replicas of a member that is not too heavy are numbers of 16 bits. -/
theorem Member.IsLight.mem_slots_iff (hm : m.IsLight) {k : Nat} {s : Slot} :
    s ∈ m.slots k ↔ ∃ replica : UInt16, replica.toNat < m.weight.toNat ∧
      s = ⟨slotLocation m.id replica m.side, k, replica.toNat⟩ := by
  rw [Member.mem_slots]
  constructor
  · rintro ⟨rfl, hreplica, hlocation⟩
    have hsize : s.replica < 2 ^ 16 := lt_of_lt_of_le hreplica (Nat.le_succ_of_le hm)
    have hnumber : (UInt16.ofNat s.replica).toNat = s.replica := UInt16.toNat_ofNat_of_lt' hsize
    refine ⟨UInt16.ofNat s.replica, hnumber.symm ▸ hreplica, ?_⟩
    rw [← hlocation, hnumber]
  · rintro ⟨replica, hreplica, rfl⟩
    exact ⟨rfl, hreplica, by rw [UInt16.ofNat_toNat]⟩

theorem slotted_mergeSort (hl : ∀ m ∈ members, m.IsLight) :
    Slotted members ((slotsFrom 0 members).mergeSort Slot.le) := by
  have hmem (s : Slot) : s ∈ (slotsFrom 0 members).mergeSort Slot.le ↔
      ∃ (i : Nat) (m : Member), members[i]? = some m ∧ s ∈ m.slots i := by
    rw [List.mem_mergeSort, mem_slotsFrom_iff]
    simp only [Nat.zero_add]
  have hnodup : ((slotsFrom 0 members).mergeSort Slot.le).Nodup :=
    (List.mergeSort_perm _ _).nodup_iff.2 (nodup_slotsFrom 0 members)
  have hside {s : Slot} (hs : s ∈ (slotsFrom 0 members).mergeSort Slot.le) {m : Member}
      (hm : members[s.node]? = some m) (hdeclared : m.side.isDeclared = true) :
      s.location.side = m.side := by
    obtain ⟨i, m', hm', hs'⟩ := (hmem s).1 hs
    rw [(Member.mem_slots.1 hs').1] at hm
    cases hm.symm.trans hm'
    exact Member.side_of_mem_slots hs' hdeclared
  refine ⟨fun s => ?_, fun s hs => List.count_eq_one_of_mem hnodup hs, ?_, ?_,
    fun s hs m hm ha => ?_, fun s hs m hm hb => ?_⟩
  · rw [hmem]
    refine exists_congr fun i => exists_congr fun m => and_congr_right fun hm => ?_
    exact (hl m (List.mem_of_getElem? hm)).mem_slots_iff
  · exact ((Slot.pairwise_mergeSort _).and hnodup).imp fun h => Slot.before_of_le h.1 h.2
  · rw [List.length_mergeSort, length_slotsFrom]
  · exact Location.side_eq_a_iff.1 ((hside hs hm (ha ▸ rfl)).trans ha)
  · exact Location.side_eq_b_iff.1 ((hside hs hm (hb ▸ rfl)).trans hb)

/-! ### The outcome -/

/-- Compiling reports the first member that is too heavy, naming it in lower case; else a declared
digest, unless it is empty, that is not the computed one up to the case of its letters; and else it
gives the ring of the computed digest, with the members in lower case and exactly their slots. -/
theorem compile_outcome (members : List Member) (declared : Option String) (writeCopies : UInt8) :
    (∀ m, members.find? (fun m => 65535 < m.weight.toNat) = some m →
      Ring.compile members declared writeCopies = .error (.invalidNode (Text.lowercase m.id)
        ("weight " ++ toString m.weight.toNat ++ " exceeds " ++ toString 65535))) ∧
    (members.find? (fun m => 65535 < m.weight.toNat) = none →
      (∀ d ∈ declared, d ≠ "" →
        Text.sameIgnoringCase d (compiledDigest members writeCopies) = false →
        Ring.compile members declared writeCopies =
          .error (.integrity d (compiledDigest members writeCopies))) ∧
      ((∀ d ∈ declared, d ≠ "" →
          Text.sameIgnoringCase d (compiledDigest members writeCopies) = true) →
        ∃ r, Ring.compile members declared writeCopies = .ok r ∧
          r.hash = compiledDigest members writeCopies ∧ Text.asciiLower r.hash = r.hash ∧
          r.members = members.map (fun m => { m with id := Text.lowercase m.id }) ∧
          r.sided = members.any (fun m => m.side.isDeclared) ∧ r.writeCopies = writeCopies ∧
          Slotted r.members r.slots.toList)) := by
  refine ⟨fun m hm => ?_, fun hlight => ⟨fun d hd hne hdiffers => ?_, fun hagrees => ?_⟩⟩
  · rw [Ring.compile, normalized_of_find?_isHeavy hm]
    rfl
  · obtain rfl := Option.mem_def.1 hd
    rw [Ring.compile_declared hne (isLight_of_find?_isHeavy hlight), hdiffers]
    rfl
  · have hl : ∀ m ∈ members, m.IsLight := isLight_of_find?_isHeavy hlight
    have hcompile : Ring.compile members declared writeCopies =
        .ok (Ring.build (members.map Member.lowered) (compiledDigest members writeCopies)
          (isSided members) writeCopies) := by
      by_cases hdeclared : ∃ d ∈ declared, d ≠ ""
      · obtain ⟨d, hd, hne⟩ := hdeclared
        obtain rfl := Option.mem_def.1 hd
        rw [Ring.compile_declared hne hl, hagrees d hd hne]
        rfl
      · refine Ring.compile_undeclared hl fun d hd => ?_
        exact not_not.1 fun hne => hdeclared ⟨d, hd, hne⟩
    refine ⟨_, hcompile, rfl, Text.asciiLower_hex _, rfl, rfl, rfl, ?_⟩
    refine slotted_mergeSort fun m hm => ?_
    obtain ⟨m', hm', rfl⟩ := List.mem_map.1 hm
    exact hl m' hm'

def heaviest : List Member :=
  [{ id := "A", address := "10.0.0.1", weight := 65535, side := .a },
    { id := "B", address := "10.0.0.2", weight := 2 }]

/-- The checks go before the digest and in order, and the largest weight that passes has all its
slots. -/
theorem compile_outcome_heaviest :
    Ring.compile (heaviest ++ [{ id := "C", address := "10.0.0.3", weight := 65536 },
        { id := "D", address := "10.0.0.4", weight := 70000 }]) (some "0") 2 =
      .error (.invalidNode "c" "weight 65536 exceeds 65535") ∧
    Ring.compile heaviest (some "0") 2 = .error (.integrity "0" (compiledDigest heaviest 2)) ∧
    ∃ r, Ring.compile heaviest (some "") 2 = .ok r ∧ r.slots.toList.length = 65537 ∧
      r.members.map (fun m => m.id) = ["a", "b"] ∧ Slotted r.members r.slots.toList := by
  have hdiffers : Text.sameIgnoringCase "0" (compiledDigest heaviest 2) = false := by
    decide +kernel
  refine ⟨?_, ?_, ?_⟩
  · exact (compile_outcome _ _ _).1 { id := "C", address := "10.0.0.3", weight := 65536 }
      (by decide +kernel)
  · exact ((compile_outcome heaviest (some "0") 2).2 (by decide +kernel)).1 "0" rfl (by decide)
      hdiffers
  · obtain ⟨r, hr, -, -, hmembers, -, -, hslots⟩ :=
      ((compile_outcome heaviest (some "") 2).2 (by decide +kernel)).2
        fun d hd hne => absurd (Option.some.inj hd).symm hne
    refine ⟨r, hr, ?_, ?_, hslots⟩
    · rw [hslots.length, hmembers]
      rfl
    · rw [hmembers]
      decide +kernel

end MetricRing.Topology
