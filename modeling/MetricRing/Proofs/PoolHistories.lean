import Mathlib.Data.List.Dedup
import Mathlib.Data.List.Induction
import MetricRing.Proofs.PoolMoves

/-!
# What a pool remembers

A pool is handed nodes to add, to activate or to deactivate, and knows them by address. What it
remembers of all that is a registry: for each address the node that was handed in first, and
whether the address is active, which the last activation or deactivation of it decides. No address
may change in the meantime, so the directory of the nodes is fixed here.
-/

namespace MetricRing.Pool

variable {d : Directory}

/-! ### Histories -/

inductive Action where
  | add
  | activate
  | deactivate
  deriving DecidableEq, Repr

def Action.perform (d : Directory) (p : Pool) (rs : List NodeRef) : Action → Pool
  | .add => p.add d rs
  | .activate => p.activate d rs
  | .deactivate => p.deactivate d rs

abbrev History := List (Action × List NodeRef)

def replay (d : Directory) (h : History) : Pool := h.foldl (fun p c => c.1.perform d p c.2) {}

def mentions (h : History) : List (Action × NodeRef) := h.flatMap fun c => c.2.map fun r => (c.1, r)

def first? (d : Directory) (ms : List (Action × NodeRef)) (a : String) : Option NodeRef :=
  (ms.map Prod.snd).find? (hasAddress d a)

/-- Activations and deactivations move an address, and additions do not. -/
def moves (d : Directory) (a : String) (m : Action × NodeRef) : Bool :=
  m.1 != .add && hasAddress d a m.2

def lastMove? (d : Directory) (ms : List (Action × NodeRef)) (a : String) : Option Action :=
  (ms.filter (moves d a)).getLast?.map Prod.fst

/-- For each address its node, and whether it is active. -/
def registry (d : Directory) (h : History) (a : String) : Option (NodeRef × Bool) :=
  (first? d (mentions h) a).map fun r => (r, lastMove? d (mentions h) a == some .activate)

def handedIn (d : Directory) (h : History) : List String :=
  ((mentions h).map fun m => d.address m.2).dedup

/-! ### One more node -/

theorem first?_concat (ms : List (Action × NodeRef)) (m : Action × NodeRef) (a : String) :
    first? d (ms ++ [m]) a =
      (first? d ms a).or (if d.address m.2 = a then some m.2 else none) := by
  unfold first?
  rw [List.map_append, List.map_singleton, List.find?_append, List.find?_singleton]
  exact congrArg _ (if_congr hasAddress_iff rfl rfl)

theorem address_of_first? {ms : List (Action × NodeRef)} {a : String} {r : NodeRef}
    (h : first? d ms a = some r) : d.address r = a := hasAddress_iff.1 (List.find?_some h)

theorem moves_iff {a : String} {m : Action × NodeRef} :
    moves d a m = true ↔ m.1 ≠ .add ∧ d.address m.2 = a := by
  rw [moves, Bool.and_eq_true, bne_iff_ne, hasAddress_iff]

theorem lastMove?_concat (ms : List (Action × NodeRef)) (m : Action × NodeRef) (a : String) :
    lastMove? d (ms ++ [m]) a =
      if m.1 ≠ .add ∧ d.address m.2 = a then some m.1 else lastMove? d ms a := by
  unfold lastMove?
  rw [List.filter_append]
  split_ifs with hm
  · rw [List.filter_cons_of_pos (moves_iff.2 hm), List.filter_nil, List.getLast?_concat]
    rfl
  · rw [List.filter_cons_of_neg (mt moves_iff.1 hm), List.filter_nil, List.append_nil]

theorem nodup_withNode {p : Pool} (h : (p.members.map d.address).Nodup) (r : NodeRef) :
    ((withNode d p r).map d.address).Nodup := by
  unfold withNode
  split_ifs with hr
  · exact h
  · rw [List.map_append]
    exact List.nodup_append_comm.1 (List.nodup_cons.2 ⟨hr, h⟩)

theorem mem_withNode {p : Pool} {q r : NodeRef} :
    q ∈ withNode d p r ↔ q ∈ p.members ∨ q = r ∧ d.address r ∉ p.members.map d.address := by
  unfold withNode
  split_ifs with hr
  · simp only [hr, not_true, and_false, or_false]
  · simp only [List.mem_append, List.mem_singleton, hr, not_false_eq_true, and_true]

theorem members_perform {p : Pool} (h : (p.members.map d.address).Nodup) (k : Action)
    (r : NodeRef) : (k.perform d p [r]).members.Perm (withNode d p r) := by
  cases k with
  | add => exact .of_eq (members_addNode d p r)
  | activate => exact members_activateNode h r
  | deactivate => exact members_deactivateNode h r

theorem mem_active_perform {p : Pool} (h : (p.members.map d.address).Nodup) (k : Action)
    (r : NodeRef) (a : String) :
    a ∈ (k.perform d p [r]).active.map d.address ↔
      if k ≠ .add ∧ d.address r = a then k = .activate else a ∈ p.active.map d.address := by
  cases k with
  | add =>
    have hactive : (p.addNode d r).active = p.active := by
      unfold addNode
      split_ifs <;> rfl
    rw [if_neg fun hk => hk.1 rfl]
    exact iff_of_eq (congrArg (a ∈ ·.map d.address) hactive)
  | activate =>
    refine (mem_target_move h r a).trans ?_
    by_cases hr : d.address r = a
    · simp [hr]
    · simp [hr, Ne.symm hr]
  | deactivate =>
    have swap : (p.inactive ++ p.active).Perm p.members := List.perm_append_comm
    refine (mem_source_move ((swap.map d.address).nodup_iff.2 h) r a).trans ?_
    by_cases hr : d.address r = a
    · simp [hr]
    · simp [hr, Ne.symm hr]

/-! ### All nodes -/

structure Reflects (d : Directory) (ms : List (Action × NodeRef)) (p : Pool) : Prop where
  nodup : (p.members.map d.address).Nodup
  first : ∀ r, r ∈ p.members ↔ first? d ms (d.address r) = some r
  last : ∀ a, a ∈ p.active.map d.address ↔ lastMove? d ms a = some .activate

theorem Reflects.mem_addresses {ms : List (Action × NodeRef)} {p : Pool} (h : Reflects d ms p)
    (a : String) : a ∈ p.members.map d.address ↔ first? d ms a ≠ none := by
  rw [List.mem_map, Option.ne_none_iff_exists']
  constructor
  · rintro ⟨r, hr, rfl⟩
    exact ⟨r, (h.first r).1 hr⟩
  · rintro ⟨r, hr⟩
    have ha := address_of_first? hr
    exact ⟨r, (h.first r).2 (ha ▸ hr), ha⟩

theorem Reflects.perform {ms : List (Action × NodeRef)} {p : Pool} (h : Reflects d ms p)
    (k : Action) (r : NodeRef) : Reflects d (ms ++ [(k, r)]) (k.perform d p [r]) := by
  have hp := members_perform h.nodup k r
  refine ⟨(hp.map d.address).nodup_iff.2 (nodup_withNode h.nodup r), fun q => ?_, fun a => ?_⟩
  · rw [hp.mem_iff, mem_withNode, h.first, first?_concat, h.mem_addresses, Option.or_eq_some_iff]
    refine or_congr_right ?_
    dsimp only
    constructor
    · rintro ⟨rfl, hnew⟩
      exact ⟨not_not.1 hnew, if_pos rfl⟩
    · rintro ⟨hnew, hr⟩
      split_ifs at hr with ha
      cases hr
      exact ⟨rfl, not_not.2 hnew⟩
  · rw [mem_active_perform h.nodup, lastMove?_concat]
    dsimp only
    split_ifs
    · rw [Option.some_inj]
    · exact h.last a

/-- A call hands its nodes in one by one. -/
theorem Reflects.perform_all {ms : List (Action × NodeRef)} {p : Pool} (h : Reflects d ms p)
    (k : Action) (rs : List NodeRef) :
    Reflects d (ms ++ rs.map fun r => (k, r)) (k.perform d p rs) := by
  induction rs generalizing ms p with
  | nil =>
    rw [List.map_nil, List.append_nil]
    cases k <;> exact h
  | cons r rs ih =>
    have hrest := ih (h.perform k r)
    rw [List.append_assoc] at hrest
    cases k <;> exact hrest

theorem reflects_replay (d : Directory) (h : History) : Reflects d (mentions h) (replay d h) := by
  induction h using List.reverseRecOn with
  | nil => exact ⟨List.nodup_nil, fun r => by simp [replay, mentions, first?, members],
      fun a => by simp [replay, mentions, lastMove?]⟩
  | append_singleton h c ih =>
    rw [replay, List.foldl_append, mentions, List.flatMap_append, List.flatMap_singleton]
    exact ih.perform_all c.1 c.2

/-! ### The registry -/

/-- Where addresses are distinct, a node is active if its address is. -/
theorem mem_active_iff {p : Pool} (h : (p.members.map d.address).Nodup) {r : NodeRef} :
    r ∈ p.active ↔ r ∈ p.members ∧ d.address r ∈ p.active.map d.address := by
  constructor
  · exact fun hr => ⟨List.mem_append_left _ hr, List.mem_map_of_mem hr⟩
  · rintro ⟨hr, ha⟩
    obtain ⟨q, hq, hqr⟩ := List.mem_map.1 ha
    exact List.inj_on_of_nodup_map h (List.mem_append_left _ hq) hr hqr ▸ hq

theorem mem_inactive_iff {p : Pool} (h : (p.members.map d.address).Nodup) {r : NodeRef} :
    r ∈ p.inactive ↔ r ∈ p.members ∧ d.address r ∉ p.active.map d.address := by
  constructor
  · intro hr
    refine ⟨List.mem_append_right _ hr, fun ha => ?_⟩
    rw [members, List.map_append] at h
    exact List.disjoint_of_nodup_append h ha (List.mem_map_of_mem hr)
  · rintro ⟨hr, ha⟩
    exact (List.mem_append.1 hr).resolve_left fun hr => ha (List.mem_map_of_mem hr)

theorem findByAddress_eq_some_iff {p : Pool} (h : (p.members.map d.address).Nodup) {a : String}
    {r : NodeRef} : p.findByAddress d a = some r ↔ r ∈ p.members ∧ d.address r = a := by
  constructor
  · intro hr
    exact ⟨List.mem_of_find?_eq_some hr, hasAddress_iff.1 (List.find?_some hr)⟩
  · rintro ⟨hr, rfl⟩
    cases hfind : p.findByAddress d (d.address r) with
    | none => exact absurd (List.mem_map_of_mem hr) (findByAddress_eq_none_iff.1 hfind)
    | some q =>
      have hq := hasAddress_iff.1 (List.find?_some hfind)
      rw [List.inj_on_of_nodup_map h (List.mem_of_find?_eq_some hfind) hr hq]

theorem mem_handedIn {h : History} {a : String} :
    a ∈ handedIn d h ↔ ∃ c ∈ h, ∃ r ∈ c.2, d.address r = a := by
  rw [handedIn, List.mem_dedup]
  simp only [mentions, List.mem_map, List.mem_flatMap]
  constructor
  · rintro ⟨_, ⟨c, hc, r, hr, rfl⟩, ha⟩
    exact ⟨c, hc, r, hr, ha⟩
  · rintro ⟨c, hc, r, hr, ha⟩
    exact ⟨_, ⟨c, hc, r, hr, rfl⟩, ha⟩

theorem first?_ne_none_iff {h : History} {a : String} :
    first? d (mentions h) a ≠ none ↔ a ∈ handedIn d h := by
  rw [handedIn, List.mem_dedup, first?, ne_eq, List.find?_eq_none, List.mem_map]
  simp only [List.mem_map, hasAddress_iff, not_forall, not_not, exists_prop]
  constructor
  · rintro ⟨_, ⟨m, hm, rfl⟩, ha⟩
    exact ⟨m, hm, ha⟩
  · rintro ⟨m, hm, ha⟩
    exact ⟨_, ⟨m, hm, rfl⟩, ha⟩

theorem registry_eq_some_iff {h : History} {a : String} {r : NodeRef} {b : Bool} :
    registry d h a = some (r, b) ↔ first? d (mentions h) a = some r ∧
      (lastMove? d (mentions h) a == some .activate) = b := by
  rw [registry, Option.map_eq_some_iff]
  simp only [Prod.mk.injEq]
  constructor
  · rintro ⟨q, hq, rfl, hb⟩
    exact ⟨hq, hb⟩
  · rintro ⟨hr, hb⟩
    exact ⟨r, hr, rfl, hb⟩

theorem mem_active_replay {h : History} {r : NodeRef} :
    r ∈ (replay d h).active ↔ registry d h (d.address r) = some (r, true) := by
  have hp := reflects_replay d h
  rw [mem_active_iff hp.nodup, hp.first, hp.last, registry_eq_some_iff, beq_iff_eq]

theorem mem_inactive_replay {h : History} {r : NodeRef} :
    r ∈ (replay d h).inactive ↔ registry d h (d.address r) = some (r, false) := by
  have hp := reflects_replay d h
  rw [mem_inactive_iff hp.nodup, hp.first, hp.last, registry_eq_some_iff, beq_eq_false_iff_ne]

/-- The list of the nodes that the registry flags with `b` has their addresses. -/
theorem mem_addresses_iff {h : History} {b : Bool} {rs : List NodeRef}
    (hrs : ∀ r, r ∈ rs ↔ registry d h (d.address r) = some (r, b)) (a : String) :
    a ∈ rs.map d.address ↔ (registry d h a).map Prod.snd = some b := by
  rw [List.mem_map, Option.map_eq_some_iff]
  constructor
  · rintro ⟨r, hr, rfl⟩
    exact ⟨_, (hrs r).1 hr, rfl⟩
  · rintro ⟨⟨r, _⟩, hr, rfl⟩
    have ha := address_of_first? (registry_eq_some_iff.1 hr).1
    exact ⟨r, (hrs r).2 (ha ▸ hr), ha⟩

/-- So it is as long as there are such addresses. -/
theorem length_eq_countP {h : History} {b : Bool} {rs : List NodeRef}
    (hrs : ∀ r, r ∈ rs ↔ registry d h (d.address r) = some (r, b))
    (hnodup : (rs.map d.address).Nodup) :
    rs.length = (handedIn d h).countP fun a => (registry d h a).map Prod.snd = some b := by
  rw [List.countP_eq_length_filter, ← List.length_map d.address]
  apply List.Perm.length_eq
  have hhanded : (handedIn d h).Nodup := List.nodup_dedup _
  rw [List.perm_ext_iff_of_nodup hnodup (hhanded.filter _)]
  intro a
  rw [mem_addresses_iff hrs, List.mem_filter, decide_eq_true_eq, and_iff_right_of_imp]
  intro ha
  obtain ⟨⟨r, _⟩, hr, -⟩ := Option.map_eq_some_iff.1 ha
  rw [← first?_ne_none_iff, (registry_eq_some_iff.1 hr).1]
  exact Option.some_ne_none r

/-- Whatever nodes a pool is handed, and for whatever, it is the registry of them: the addresses it
knows are those that were ever handed in, each of them once; it keeps the node that came first with
an address; the address is active if the last activation or deactivation of it was an activation;
and whatever the pool is asked about its addresses the registry answers too. -/
theorem replay_refines_registry (d : Directory) (h : History) :
    (((replay d h).active ++ (replay d h).inactive).map d.address).Nodup ∧
      (∀ a, a ∈ ((replay d h).active ++ (replay d h).inactive).map d.address ↔
        ∃ c ∈ h, ∃ r ∈ c.2, d.address r = a) ∧
      (∀ r, r ∈ (replay d h).active ↔ registry d h (d.address r) = some (r, true)) ∧
      (∀ r, r ∈ (replay d h).inactive ↔ registry d h (d.address r) = some (r, false)) ∧
      (∀ a, (replay d h).isActive d a = true ↔ (registry d h a).map Prod.snd = some true) ∧
      (∀ a, (replay d h).findByAddress d a = (registry d h a).map Prod.fst) ∧
      (replay d h).active.length =
        (handedIn d h).countP (fun a => (registry d h a).map Prod.snd = some true) ∧
      (replay d h).inactive.length =
        (handedIn d h).countP fun a => (registry d h a).map Prod.snd = some false := by
  have hp := reflects_replay d h
  have hnodup := hp.nodup
  rw [members, List.map_append] at hnodup
  refine ⟨hp.nodup, fun a => ?_, fun r => mem_active_replay, fun r => mem_inactive_replay,
    fun a => ?_, fun a => ?_, length_eq_countP (fun r => mem_active_replay) hnodup.of_append_left,
    length_eq_countP (fun r => mem_inactive_replay) hnodup.of_append_right⟩
  · rw [← mem_handedIn, ← first?_ne_none_iff]
    exact hp.mem_addresses a
  · rw [isActive, any_hasAddress_iff]
    exact mem_addresses_iff (fun r => mem_active_replay) a
  · apply Option.ext
    intro r
    rw [findByAddress_eq_some_iff hp.nodup, hp.first, registry, Option.map_map]
    change _ ↔ Option.map id _ = some r
    rw [Option.map_id_fun, id]
    constructor
    · rintro ⟨hr, rfl⟩
      exact hr
    · intro hr
      have ha := address_of_first? hr
      exact ⟨ha ▸ hr, ha⟩

/-- The second node has the address of the first, which is the one that is kept. -/
example : replay [{ address := "a" }, { address := "a" }, { address := "b" }]
    [(.add, [0, 0]), (.activate, [1, 2, 1]), (.deactivate, [2]), (.add, [1])] = ⟨[0], [2]⟩ := by
  decide

end MetricRing.Pool
