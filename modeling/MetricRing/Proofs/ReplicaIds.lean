import MetricRing.Proofs.DigestBytes
import MetricRing.Proofs.ReplicaPlacement

/-!
# Ids of replicas

The owners of a key are members at different positions. What the answers show of them are their
ids, and nothing keeps two members from having one id: compiling lower-cases the ids and compares
none of them. So the ids of an answer are distinct if those of the members of some weight are, in
lower case, and in a ring without sides only then.
-/

namespace MetricRing.Topology

/-- No two members of some weight have one id, up to its case. -/
def NoNamesakes (members : List Member) : Prop :=
  ((members.filter fun m => 0 < m.weight).map fun m => Text.lowercase m.id).Nodup

instance : DecidablePred NoNamesakes := fun _ => inferInstanceAs (Decidable (List.Nodup _))

/-- The entries at the positions where a predicate holds are those for which it does. -/
theorem filterMap_findIdxs (q : Member → Bool) (members : List Member) :
    (members.findIdxs q).filterMap (fun i => members[i]?) = members.filter q := by
  induction members with
  | nil => rfl
  | cons m rest ih =>
    have hrest : (rest.findIdxs q 1).filterMap (fun i => (m :: rest)[i]?) = rest.filter q := by
      rw [List.findIdxs_start, List.filterMap_map, ← ih]
      rfl
    rw [List.findIdxs_cons]
    cases hm : q m with
    | true =>
      rw [if_pos rfl, List.filterMap_cons, hrest, List.filter_cons_of_pos hm]
      rfl
    | false => rw [if_neg Bool.false_ne_true, hrest, List.filter_cons_of_neg (by simp [hm])]

namespace Ring

variable {r : Ring} {members : List Member} {declared : Option String} {writeCopies : UInt8}

theorem IsCompiled.owners_subperm (hr : r.IsCompiled) (key : String) (n : Nat) :
    (r.owners key n).Subperm (r.members.findIdxs fun m => 0 < m.weight) := by
  have hnodup : (r.owners key n).Nodup := by
    rw [hr.ordered.owners_eq]
    exact hr.ordered.nodup_select List.nodup_nil
  refine List.subperm_of_subset hnodup fun p hp => ?_
  obtain ⟨i, hi⟩ := List.getElem?_of_mem hp
  rw [hr.owners_eq] at hi
  obtain ⟨m, s, hm, hs, -⟩ := mem_met.1 (mem_met_of_getElem?_nearest hi)
  obtain ⟨hlt, rfl⟩ := List.getElem?_eq_some_iff.1 hm
  exact List.mem_findIdxs_iff_exists_getElem_pos.2
    ⟨hlt, decide_eq_true (Member.weight_pos_of_mem_slots hs)⟩

theorem IsCompiled.entries_subperm (hr : r.IsCompiled) (key : String) (n : Nat) :
    (r.membersAt (r.owners key n)).Subperm (r.members.filter fun m => 0 < m.weight) := by
  obtain ⟨positions, hperm, hsublist⟩ := hr.owners_subperm key n
  rw [← filterMap_findIdxs]
  exact ⟨_, hperm.filterMap _, hsublist.filterMap _⟩

/-- Without sides all members of some weight own a key, if enough owners are wanted. -/
theorem IsCompiled.entries_perm (hr : r.IsCompiled) (hsided : r.sided = false) (key : String)
    {n : Nat} (hn : r.members.length ≤ n) :
    (r.membersAt (r.owners key n)).Perm (r.members.filter fun m => 0 < m.weight) := by
  refine (hr.entries_subperm key n).perm_of_length_le ?_
  rw [hr.length_entries, hr.owners_eq, hsided, length_nearest_unsided,
    ← List.countP_eq_length_filter]
  exact le_min ((List.countP_le_length).trans hn) le_rfl

theorem findN_of_slots (h : r.slots.isEmpty = false) (key : String) (n : Nat) :
    r.findN key n = .ok (r.membersAt (r.owners key n)) :=
  findN_eq_ok_iff.2 ⟨h, rfl⟩

theorem findMetricIds_eq_ok_iff {owner metric : String} {ids : List String} :
    r.findMetricIds owner metric = .ok ids ↔
      ∃ entries, r.findN (metricKey owner metric) r.writeCopies.toNat = .ok entries ∧
        entries.map (fun m => m.id) = ids := by
  unfold findMetricIds findMetric
  cases r.findN (metricKey owner metric) r.writeCopies.toNat <;> simp

theorem weighted_ids_of_compile (h : compile members declared writeCopies = .ok r) :
    (r.members.filter fun m => 0 < m.weight).map (fun m => m.id) =
      (members.filter fun m => 0 < m.weight).map fun m => Text.lowercase m.id := by
  have hmembers : r.members = members.map Member.lowered :=
    congrArg Ring.members (compile_eq_ok h)
  rw [hmembers, List.filter_map, List.map_map]
  rfl

/-- The ids of the owners of a key are distinct if no two members of some weight are namesakes, and
so are the ids of the owners of a metric. Without sides namesakes both own every key, so that their
id comes twice as soon as all members are wanted. -/
theorem ids_distinct_of_noNamesakes (h : compile members declared writeCopies = .ok r) :
    (NoNamesakes members →
      (∀ key n entries, r.findN key n = .ok entries → (entries.map fun m => m.id).Nodup) ∧
      ∀ owner metric ids, r.findMetricIds owner metric = .ok ids → ids.Nodup) ∧
    (isSided members = false → ¬NoNamesakes members →
      ∀ key n entries, members.length ≤ n → r.findN key n = .ok entries →
        ¬(entries.map fun m => m.id).Nodup) := by
  have hr : r.IsCompiled := ⟨_, _, _, h⟩
  have hids := weighted_ids_of_compile h
  have hfound : NoNamesakes members →
      ∀ key n entries, r.findN key n = .ok entries → (entries.map fun m => m.id).Nodup := by
    intro hmembers key n entries hentries
    obtain ⟨-, rfl⟩ := findN_eq_ok_iff.1 hentries
    rw [NoNamesakes, ← hids] at hmembers
    obtain ⟨some, hperm, hsublist⟩ := hr.entries_subperm key n
    exact (hperm.map _).nodup_iff.1 (hmembers.sublist (hsublist.map _))
  refine ⟨fun hmembers => ⟨hfound hmembers, fun owner metric ids hmetric => ?_⟩,
    fun hunsided hnamesakes key n entries hn hentries hnodup => hnamesakes ?_⟩
  · obtain ⟨entries, hentries, rfl⟩ := findMetricIds_eq_ok_iff.1 hmetric
    exact hfound hmembers _ _ entries hentries
  · have hcompiled := compile_eq_ok h
    have hlength : r.members.length = members.length := by
      rw [congrArg Ring.members hcompiled]
      exact List.length_map _
    have hsided : r.sided = false :=
      (congrArg Ring.sided hcompiled).trans ((isSided_map_lowered members).trans hunsided)
    obtain ⟨-, rfl⟩ := findN_eq_ok_iff.1 hentries
    have hperm := hr.entries_perm hsided key (hlength.trans_le hn)
    rw [NoNamesakes, ← hids]
    exact (hperm.map fun m => m.id).nodup_iff.1 hnodup

end Ring

/-- Everybody in `trio` has an id of its own, and there are no sides to keep the three apart. -/
theorem ids_distinct_in_trio :
    ∃ r entries ids, Ring.compile trio none 2 = .ok r ∧ r.findN "k" 7 = .ok entries ∧
      (entries.map fun m => m.id).Nodup ∧ r.findMetricIds "o" "m" = .ok ids ∧ ids.Nodup ∧
      ∃ r' entries', Ring.compile (trio ++ trio) none 2 = .ok r' ∧ r'.findN "k" 6 = .ok entries' ∧
        ¬(entries'.map fun m => m.id).Nodup := by
  obtain ⟨r, hr, hslots⟩ : ∃ r, Ring.compile trio none 2 = .ok r ∧ r.slots.isEmpty = false := by
    refine ⟨_, rfl, ?_⟩
    rw [Ring.isEmpty_slots_build]
    decide +kernel
  obtain ⟨r', hr', hslots'⟩ : ∃ r', Ring.compile (trio ++ trio) none 2 = .ok r' ∧
      r'.slots.isEmpty = false := by
    refine ⟨_, rfl, ?_⟩
    rw [Ring.isEmpty_slots_build]
    decide +kernel
  have hdistinct := (Ring.ids_distinct_of_noNamesakes hr).1 (by decide +kernel)
  have hentries := Ring.findN_of_slots hslots "k" 7
  obtain ⟨ids, hids⟩ : ∃ ids, r.findMetricIds "o" "m" = .ok ids :=
    ⟨_, Ring.findMetricIds_eq_ok_iff.2 ⟨_, Ring.findN_of_slots hslots _ _, rfl⟩⟩
  have hentries' := Ring.findN_of_slots hslots' "k" 6
  exact ⟨r, _, ids, hr, hentries, hdistinct.1 "k" 7 _ hentries, hids, hdistinct.2 "o" "m" _ hids,
    r', _, hr', hentries', (Ring.ids_distinct_of_noNamesakes hr').2 (by decide +kernel)
      (by decide +kernel) "k" 6 _ (by decide) hentries'⟩

def namesakes : List Member :=
  [{ id := "N1", address := "10.0.0.1", weight := 1 },
    { id := "n1", address := "10.0.0.2", weight := 1 }]

/-- Both copies of every metric go to `n1`. -/
theorem ids_coincide_in_namesakes :
    ∃ r, Ring.compile namesakes none 2 = .ok r ∧
      (∀ key, ∃ entries, r.findN key 2 = .ok entries ∧
        entries.map (fun m => m.id) = ["n1", "n1"]) ∧
      ∀ owner metric, r.findMetricIds owner metric = .ok ["n1", "n1"] := by
  obtain ⟨r, hr, hsided, hcopies, hslots⟩ : ∃ r, Ring.compile namesakes none 2 = .ok r ∧
      r.sided = false ∧ r.writeCopies = 2 ∧ r.slots.isEmpty = false := by
    refine ⟨_, rfl, rfl, rfl, ?_⟩
    rw [Ring.isEmpty_slots_build]
    decide +kernel
  have hmembers : r.members = namesakes.map Member.lowered :=
    congrArg Ring.members (Ring.compile_eq_ok hr)
  have hfound : ∀ key, (r.membersAt (r.owners key 2)).map (fun m => m.id) = ["n1", "n1"] := by
    intro key
    have hperm := (Ring.IsCompiled.entries_perm ⟨_, _, _, hr⟩ hsided key (n := 2)
      (by rw [hmembers]; decide)).map fun m => m.id
    have hweighted : (r.members.filter fun m => 0 < m.weight).map (fun m => m.id) =
        List.replicate 2 "n1" := by
      rw [hmembers]
      decide +kernel
    rw [hweighted] at hperm
    exact List.perm_replicate.1 hperm
  have hcopied : ∀ key, ∃ entries, r.findN key 2 = .ok entries ∧
      entries.map (fun m => m.id) = ["n1", "n1"] :=
    fun key => ⟨_, Ring.findN_of_slots hslots key 2, hfound key⟩
  refine ⟨r, hr, hcopied, fun owner metric => Ring.findMetricIds_eq_ok_iff.2 ?_⟩
  rw [hcopies]
  exact hcopied _

end MetricRing.Topology
