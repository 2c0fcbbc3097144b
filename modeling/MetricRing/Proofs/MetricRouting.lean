import MetricRing.Proofs.CalmRuns
import MetricRing.Proofs.FailoverOrder
import MetricRing.Proofs.IdMatching
import MetricRing.Proofs.MetricRequests
import MetricRing.Proofs.ReplicaIds

/-!
# Where requests for a metric go

The first exchange of a request that concerns a metric is with an owner of the metric, if the ring
can be loaded and an owner is active, and else with any active node. Among the active owners the
order of the ring decides, and among nodes of one id the order of the pool. Whatever came of the
search, what the call returns is what the request returns.
-/

namespace MetricRing

variable {α : Type} {e : Setting} {cancel : Option Time}

/-! ### The first owner -/

namespace State

/-- The node that is asked for the metric of these owners: of the first id that some active node
carries it is the first active node. -/
structure IsFirstOwner (s : State) (ids : List String) (p : NodeRef) (id : String) : Prop where
  wanted : ∃ before after, ids = before ++ id :: after ∧
    ∀ other ∈ before, ∀ q ∈ s.pool.active, (s.node q).hasId other = false
  carries : (s.node p).hasId id = true
  first : ∃ before after, s.pool.active = before ++ p :: after ∧
    ∀ q ∈ before, (s.node q).hasId id = false

theorem preferred_eq_some_iff {s : State} {ids : List String} {p : NodeRef} :
    s.pool.preferred s.nodes ids = some p ↔ ∃ id, s.IsFirstOwner ids p id := by
  constructor
  · intro h
    obtain ⟨before, id, after, hids, hid, hbefore⟩ := List.findSome?_eq_some_iff.1 h
    obtain ⟨hcarries, others, rest, hactive, hothers⟩ := List.find?_eq_some_iff_append.1 hid
    refine ⟨id, ⟨before, after, hids, fun other hother q hq => ?_⟩, hcarries, others, rest, hactive,
      fun q hq => (Bool.not_eq_true' _).mp (hothers q hq)⟩
    exact Bool.eq_false_iff.2 (List.find?_eq_none.1 (hbefore other hother) q hq)
  · rintro ⟨id, ⟨before, after, hids, hbefore⟩, hcarries, others, rest, hactive, hothers⟩
    refine List.findSome?_eq_some_iff.2 ⟨before, id, after, hids, ?_, fun other hother => ?_⟩
    · exact List.find?_eq_some_iff_append.2 ⟨hcarries, others, rest, hactive,
        fun q hq => (Bool.not_eq_true' _).mpr (hothers q hq)⟩
    · exact List.find?_eq_none.2 fun q hq => Bool.eq_false_iff.1 (hbefore other hother q hq)

def NoOwner (s : State) (ids : List String) : Prop :=
  ∀ id ∈ ids, ∀ q ∈ s.pool.active, (s.node q).hasId id = false

theorem noOwner_of_preferred {s : State} {ids : List String}
    (h : s.pool.preferred s.nodes ids = none) : s.NoOwner ids := fun id hid q hq =>
  Bool.eq_false_iff.2 (List.find?_eq_none.1 (List.findSome?_eq_none_iff.1 h id hid) q hq)

theorem Steady.preferred_eq {s t : State} (h : s.Steady t) (ids : List String) :
    t.pool.preferred t.nodes ids = s.pool.preferred s.nodes ids := by
  have hid (id : String) (q : NodeRef) : (t.nodes.node q).hasId id = (s.nodes.node q).hasId id := by
    rw [Node.hasId, Node.hasId, show (t.nodes.node q).id = (s.nodes.node q).id from h.named q]
  simp only [Pool.preferred, h.pool, hid]

end State

/-- The ids of owners are in lower case, as are those of the nodes. -/
theorem Topology.Ring.IsCompiled.isWritten {r : Topology.Ring} (hr : r.IsCompiled)
    {owner metric : String} {ids : List String} (h : r.findMetricIds owner metric = .ok ids)
    {id : String} (hid : id ∈ ids) : IsWritten id := by
  obtain ⟨members, declared, writeCopies, hcompiled⟩ := hr
  have hmembers : r.members = members.map Member.lowered :=
    congrArg Ring.members (compile_eq_ok hcompiled)
  obtain ⟨entries, hentries, rfl⟩ := findMetricIds_eq_ok_iff.1 h
  obtain ⟨-, rfl⟩ := findN_eq_ok_iff.1 hentries
  obtain ⟨m, hm, rfl⟩ := List.mem_map.1 hid
  obtain ⟨i, -, hi⟩ := List.mem_filterMap.1 hm
  obtain ⟨m', -, rfl⟩ := List.mem_map.1 (hmembers ▸ List.mem_of_getElem? hi)
  exact ⟨m'.id, rfl⟩

theorem Node.hasId_iff_eq {n : Node} {id : String} (hn : IsWritten n.id) (hid : IsWritten id)
    (hne : id ≠ "") : n.hasId id = true ↔ n.id = id := by
  obtain ⟨s, rfl⟩ := hid
  have hplain : Text.IsPlain (Text.lowercase s) :=
    Text.isPlain_of_asciiLower_eq (Text.asciiLower_lowercase s)
  have hsame : Text.lowercase (Text.lowercase s) = Text.lowercase s :=
    hplain.symm.trans (Text.asciiLower_lowercase s)
  rw [Node.hasId_iff hn hne, hsame]
  exact and_iff_left hplain

namespace Client

open MetricRing.Topology (Ring)

variable {r : Request} {w w₁ : World} {out : Outcome} {t : List Mark}

/-! ### The first exchange of a request -/

/-- An attempt that has a node to begin with turns to it first. -/
theorem tryOnce_leads {attempt contacted : Nat} {result : Outcome × Nat}
    (h : (tryOnce e.config r attempt contacted).Ends e cancel w result w₁ t)
    (hserene : Serene e cancel w.state) (hr : Untimed r)
    (hsome : ¬(r.preferred = none ∧ w.state.pool.active = [])) :
    ∃ x xs, contactsIn t = x :: xs ∧ Leads w.state r.preferred attempt x.node := by
  obtain ⟨hresult, -⟩ := h.gives (gives_tryOnce hr attempt contacted) (fun _ h => h) hserene
  obtain ⟨vs, hvs, hcontacts⟩ := h.steps.amid
  obtain ⟨hordered, hends⟩ :=
    (tryOnce_meets r attempt contacted).amid (fun _ _ _ => failoverStep_meets) orderly_nil hvs
  rw [List.nil_append] at hordered hends
  cases vs with
  | nil =>
    rcases hends.1 rfl with ⟨i, hi⟩ | ⟨-, hnobody⟩
    · rw [hi] at hresult
      exact absurd (hresult _ rfl) (by rw [Interrupt.isCancellation_failure]; decide)
    · exact absurd hnobody hsome
  | cons v rest =>
    refine ⟨v.contact, rest.map Visit.contact, ?_, hordered.first v rfl⟩
    exact hcontacts.symm

/-- Without any node to turn to an attempt fails at once. -/
theorem tryOnce_nobody {attempt contacted : Nat} {result : Outcome × Nat}
    (h : (tryOnce e.config r attempt contacted).Ends e cancel w result w₁ t)
    (hp : r.preferred = none) (hnobody : w.state.pool.active = []) :
    result = (.error .noActiveNodes, contacted) ∧ w₁.state = w.state ∧ contactsIn t = [] := by
  unfold tryOnce selectNode at h
  obtain ⟨choice, w₂, t₁, t₂, hchoice, hrest, rfl⟩ := h.of_bind
  obtain ⟨t₃, hstart, rfl⟩ := hchoice.of_read
  rw [hp, startOf, hnobody] at hstart
  obtain ⟨rfl, rfl, rfl⟩ := hstart.of_done
  obtain ⟨rfl, rfl, rfl⟩ := hrest.of_done
  exact ⟨rfl, rfl, rfl⟩

theorem retry_nobody {left attempt contacted : Nat}
    (h : (retry e.config r left attempt contacted .noActiveNodes).Ends e none w out w₁ t)
    (hr : Untimed r) (hp : r.preferred = none) (hnobody : w.state.pool.active = []) :
    out = .error (.exhausted contacted .noActiveNodes) ∧ contactsIn t = [] := by
  induction left generalizing attempt w t with
  | zero =>
    obtain ⟨rfl, -, rfl⟩ := h.of_done
    exact ⟨rfl, rfl⟩
  | succ left ih =>
    unfold retry at h
    obtain ⟨waited, w₂, t₁, t₂, hwait, hrest, rfl⟩ := h.of_bind
    cases hwait with
    | pause hsettled hdone =>
      obtain ⟨rfl, rfl, rfl⟩ := hdone.of_done
      rw [hr] at hsettled
      obtain ⟨rfl, rfl⟩ := Prod.mk.inj hsettled
      obtain ⟨result, w₃, t₃, t₄, htry, hlast, rfl⟩ := Op.Ends.of_bind hrest
      obtain ⟨rfl, hstate, hnone⟩ := tryOnce_nobody htry hp hnobody
      obtain ⟨hout, hlater⟩ := ih hlast (hstate ▸ hnobody)
      refine ⟨hout, ?_⟩
      rw [contactsIn_append, contactsIn_append, hnone, hlater]
      rfl

theorem preferred_withHint (c : Config) (r : Request) (now : Time) :
    (withHint c r now).preferred = r.preferred := by
  unfold withHint
  split_ifs <;> rfl

/-- Without a hook all exchanges of a request carry it as it was prepared, and the first is with the
preferred node, or with any active one. -/
theorem request_leads (h : (request e.config r).Ends e none w out w₁ t)
    (hhook : w.state.hook = none) (hserene : Serene e none w.state) (hr : Untimed r) :
    (∀ x ∈ contactsIn t, x.request = withHint e.config r w.now) ∧
    (r.preferred = none ∧ w.state.pool.active = [] →
      contactsIn t = [] ∧ out = .error (.exhausted 0 .noActiveNodes)) ∧
    (¬(r.preferred = none ∧ w.state.pool.active = []) →
      ∃ x xs, contactsIn t = x :: xs ∧ Leads w.state r.preferred 0 x.node) := by
  obtain ⟨result, w₂, t₁, t₂, hprepare, hrest, rfl⟩ := h.of_bind
  obtain ⟨hresult, rfl, rfl⟩ := prepare_ends hprepare
  rw [hhook] at hresult
  subst hresult
  change (sendPrepared e.config (withHint e.config r w₂.now)).Ends e none w₂ out w₁ t₂ at hrest
  have huntimed : Untimed (withHint e.config r w₂.now) := (deadline_withHint ..).trans hr
  rw [contactsIn_append, show contactsIn [.change w₂.now w₂.state w₂.state] = [] from rfl,
    List.nil_append, ← preferred_withHint e.config r w₂.now]
  refine ⟨fun x hx => ?_, fun hnobody => ?_, fun hsome => ?_⟩
  · obtain ⟨-, -, hsent, -⟩ := hrest.gives
      (gives_sendPrepared (P := (· = withHint e.config r w₂.now)) rfl huntimed)
      (fun _ h => h ▸ huntimed) hserene
    have hmem : x.request ∈ (exchanges t₂).map Exchange.request :=
      requests_contactsIn t₂ ▸ List.mem_map_of_mem hx
    obtain ⟨y, hy, hyx⟩ := List.mem_map.1 hmem
    exact hyx ▸ hsent y hy
  · unfold sendPrepared at hrest
    obtain ⟨result, w₃, t₃, t₄, htry, hlast, rfl⟩ := hrest.of_bind
    obtain ⟨rfl, hstate, hnone⟩ := tryOnce_nobody htry hnobody.1 hnobody.2
    obtain ⟨hout, hlater⟩ := retry_nobody hlast huntimed hnobody.1 (hstate ▸ hnobody.2)
    rw [contactsIn_append, hnone, hlater]
    exact ⟨rfl, hout⟩
  · unfold sendPrepared at hrest
    obtain ⟨result, w₃, t₃, t₄, htry, -, rfl⟩ := hrest.of_bind
    obtain ⟨x, xs, hxs, hleads⟩ := tryOnce_leads htry hserene huntimed hsome
    rw [contactsIn_append, hxs]
    exact ⟨x, xs ++ contactsIn t₄, rfl, hleads⟩

/-! ### The search for an owner -/

/-- The node that a request is to prefer after this search: the first owner that is active, or else
an active node, if there is one. -/
structure IsChosen (s : State) (found : Except Failure Compiled) (owner metric : String)
    (node : Option NodeRef) : Prop where
  active : ∀ p, node = some p → p ∈ s.pool.active
  owns : ∀ k ids p, found = .ok k → k.ring.findMetricIds owner metric = .ok ids →
    s.pool.preferred s.nodes ids = some p → node = some p

theorem mem_active_of_preferred {s : State} {ids : List String} {p : NodeRef}
    (h : s.pool.preferred s.nodes ids = some p) : p ∈ s.pool.active := by
  obtain ⟨id, howner⟩ := State.preferred_eq_some_iff.1 h
  obtain ⟨before, after, hactive, -⟩ := howner.first
  exact hactive ▸ List.mem_append_right _ (List.mem_cons_self ..)

theorem activeNode_ends {ids : List String} {node : Option NodeRef}
    (h : (activeNode ids).Ends e cancel w node w₁ t) :
    (∀ p, node = some p → p ∈ w.state.pool.active) ∧
      ∀ p, w.state.pool.preferred w.state.nodes ids = some p → node = some p := by
  unfold activeNode at h
  obtain ⟨t₁, h₁, rfl⟩ := h.of_read
  cases hpreferred : w.state.pool.preferred w.state.nodes ids with
  | some q =>
    rw [hpreferred] at h₁
    obtain ⟨rfl, -, -⟩ := h₁.of_done
    refine ⟨?_, fun p hp => hp⟩
    rintro p ⟨⟩
    exact mem_active_of_preferred hpreferred
  | none =>
    rw [hpreferred] at h₁
    refine ⟨?_, fun p hp => nomatch hp⟩
    rintro p rfl
    exact (mem_of_oneOf h₁).1

/-- Without a node of its own a request gets one after the topology has been loaded or not. -/
theorem addressed_chooses {owner metric : String} {result : Except Failure Request}
    (h : (addressed e.config owner metric r).Ends e cancel w result w₁ t)
    (hserene : Serene e cancel w.state) (hp : r.preferred = none) :
    ∃ found w₂ t₁ t₂ node, (topology e.config).Ends e cancel w found w₂ t₁ ∧ t = t₁ ++ t₂ ∧
      contactsIn t₂ = [] ∧ result = .ok { r with preferred := node } ∧
      IsChosen w.state found owner metric node := by
  have hsame : { r with preferred := none } = r := by rw [← hp]
  unfold addressed at h
  rw [hp, Option.isSome_none, if_neg Bool.false_ne_true] at h
  obtain ⟨chosen, w₂, t₁, t₂, hnode, hrest, rfl⟩ := h.of_bind
  unfold preferredNode at hnode
  obtain ⟨found, w₃, t₃, t₄, htopology, hsearch, rfl⟩ := hnode.of_bind
  have hsteady : w.state.Steady w₃.state := htopology.within (acts_topology _)
  obtain ⟨hcalm, -⟩ := htopology.gives gives_topology (fun _ h => h) hserene
  rw [List.append_assoc]
  refine ⟨found, w₃, t₃, t₄ ++ t₂, ?_⟩
  cases found with
  | error f =>
    have hf : f.isCancellation = false := hcalm f rfl
    obtain ⟨rfl, rfl, rfl⟩ := hsearch.of_done
    dsimp only at hrest
    rw [if_neg (Bool.eq_false_iff.1 hf)] at hrest
    obtain ⟨rfl, rfl, rfl⟩ := hrest.of_done
    refine ⟨none, htopology, rfl, rfl, congrArg Except.ok hsame.symm, ?_⟩
    exact ⟨fun p hp => (nomatch hp), fun k ids p hk => (nomatch hk)⟩
  | ok k =>
    dsimp only at hsearch
    split at hsearch
    next error herror =>
      obtain ⟨rfl, rfl, rfl⟩ := hsearch.of_done
      obtain ⟨rfl, rfl, rfl⟩ := hrest.of_done
      refine ⟨none, htopology, rfl, rfl, congrArg Except.ok hsame.symm, ?_⟩
      refine ⟨fun p hp => (nomatch hp), fun k' ids p hk hids => ?_⟩
      rw [← Except.ok.inj hk, herror] at hids
      cases hids
    next ids hids =>
      obtain ⟨node, w₄, t₅, t₆, hactive, hlast, rfl⟩ := hsearch.of_bind
      obtain ⟨rfl, rfl, rfl⟩ := hlast.of_done
      obtain ⟨rfl, rfl, rfl⟩ := hrest.of_done
      obtain ⟨hmem, howns⟩ := activeNode_ends hactive
      have hquiet := ((isQuiet_activeNode ids).ends hactive).2
      refine ⟨node, htopology, rfl, ?_, rfl, ?_⟩
      · rw [List.append_nil, List.append_nil]
        exact contactsIn_eq_nil_iff.2 hquiet
      · rw [hsteady.pool] at hmem
        rw [hsteady.preferred_eq] at howns
        refine ⟨hmem, fun k' ids' p hk hids' hp => howns p ?_⟩
        rw [← Except.ok.inj hk, hids] at hids'
        rwa [Except.ok.inj hids']

/-- The node that leads the request is the one that was chosen. -/
theorem IsChosen.leads {s t : State} {found : Except Failure Compiled} {owner metric : String}
    {node : Option NodeRef} (h : IsChosen s found owner metric node) (hpool : t.pool = s.pool)
    {q : NodeRef} (hq : Leads t node 0 q) : q ∈ s.pool.active ∧
      ∀ k ids, found = .ok k → k.ring.findMetricIds owner metric = .ok ids →
        (∃ id, s.IsFirstOwner ids q id) ∨ s.NoOwner ids := by
  rw [leads_iff] at hq
  cases node with
  | none =>
    refine ⟨hpool ▸ hq, fun k ids hk hids => Or.inr ?_⟩
    cases hpreferred : s.pool.preferred s.nodes ids with
    | none => exact State.noOwner_of_preferred hpreferred
    | some p => cases h.owns k ids p hk hids hpreferred
  | some p =>
    obtain rfl : q = p := by simpa using hq
    refine ⟨h.active q rfl, fun k ids hk hids => ?_⟩
    cases hpreferred : s.pool.preferred s.nodes ids with
    | none => exact Or.inr (State.noOwner_of_preferred hpreferred)
    | some p =>
      obtain rfl := Option.some.inj (h.owns k ids p hk hids hpreferred)
      exact Or.inl (State.preferred_eq_some_iff.1 hpreferred)

theorem metricRequest_of_lowercase {owner owner' : String}
    (h : Text.lowercase owner = Text.lowercase owner') (c : Config) (metric : String)
    (r : Request) : metricRequest c owner metric r = metricRequest c owner' metric r := by
  have hids (ring : Ring) :
      ring.findMetricIds owner metric = ring.findMetricIds owner' metric := by
    unfold Ring.findMetricIds Ring.findMetric Topology.metricKey
    rw [h]
  unfold metricRequest preferredNode
  simp only [hids]

/-- Where a request without a hook and a deadline goes that concerns a metric. If it names a node it
goes there at once. Else the topology is loaded, and the request goes to the first owner of the ring
that is active, or to any active node, but nowhere if no node is active. What the call returns is
what this request returns, whatever came of the topology. The owners of a compiled ring are the
nodes that have their ids, as soon as these are in lower case, and the case of the owner of the
metric does not matter. -/
theorem metricRequest_routes (e : Setting) (owner metric : String) {r : Request} {w : World}
    (hhook : w.state.hook = none) (hr : r.deadline = none)
    (hcalm : ∀ sent x, IsCalm (e.transport sent x).outcome) :
    (∀ p, r.preferred = some p → ∃ out w₁ t x xs,
      (metricRequest e.config owner metric r).Ends e none w out w₁ t ∧
      contactsIn t = x :: xs ∧ x.node = p ∧ ∀ y ∈ x :: xs, y.request = withHint e.config r w.now) ∧
    (r.preferred = none → ∃ found w₁ t₁ t₂ node w₂ out w₃ t₃,
      (topology e.config).Ends e none w found w₁ t₁ ∧ contactsIn t₂ = [] ∧
      (request e.config { r with preferred := node }).Ends e none w₂ out w₃ t₃ ∧
      (metricRequest e.config owner metric r).Ends e none w out w₃ (t₁ ++ t₂ ++ t₃) ∧
      (w.state.pool.active = [] →
        contactsIn t₃ = [] ∧ out = .error (.exhausted 0 .noActiveNodes)) ∧
      (w.state.pool.active ≠ [] → ∃ x xs, contactsIn t₃ = x :: xs ∧
        (∀ y ∈ x :: xs, y.request = withHint e.config { r with preferred := node } w₂.now) ∧
        x.node ∈ w.state.pool.active ∧
        ∀ k ids, found = .ok k → k.ring.findMetricIds owner metric = .ok ids →
          (∃ id, w.state.IsFirstOwner ids x.node id) ∨ w.state.NoOwner ids) ∧
      ∀ k ids, found = .ok k → k.ring.IsCompiled → k.ring.findMetricIds owner metric = .ok ids →
        ∀ id ∈ ids, id ≠ "" → ∀ q, IsWritten (w.state.node q).id →
          ((w.state.node q).hasId id = true ↔ (w.state.node q).id = id)) ∧
    ∀ owner', Text.lowercase owner = Text.lowercase owner' →
      metricRequest e.config owner metric r = metricRequest e.config owner' metric r := by
  have hserene : Serene e none w.state := ⟨rfl, hhook ▸ keepsDeadlines_none, hcalm⟩
  obtain ⟨out, w₃, t, h⟩ := Op.halts e none (metricRequest e.config owner metric r) w
  refine ⟨fun p hp => ?_, fun hp => ?_, fun owner' h => metricRequest_of_lowercase h _ _ _⟩
  · have hrequest := h
    unfold metricRequest at hrequest
    rw [hp, Option.isSome_some, if_pos rfl] at hrequest
    obtain ⟨hsent, -, hleads⟩ := request_leads hrequest hhook hserene hr
    have hsome : ¬(r.preferred = none ∧ w.state.pool.active = []) := by
      rw [hp]
      exact fun h => nomatch h.1
    obtain ⟨x, xs, hxs, hx⟩ := hleads hsome
    rw [leads_iff, hp] at hx
    exact ⟨out, w₃, t, x, xs, h, hxs, by simpa using hx, hxs ▸ hsent⟩
  · have hsplit := h
    rw [metricRequest_eq] at hsplit
    obtain ⟨result, w₂, t₀, t₃, haddressed, hrest, rfl⟩ := hsplit.of_bind
    have hsteady : w.state.Steady w₂.state := haddressed.within (acts_addressed ..)
    obtain ⟨found, w₁, t₁, t₂, node, htopology, rfl, hquiet, rfl, hchosen⟩ :=
      addressed_chooses haddressed hserene hp
    obtain ⟨hsent, hnobody, hleads⟩ := request_leads hrest (hsteady.hook.trans hhook)
      (hserene.of_hook hsteady.hook) hr
    rw [hsteady.pool] at hnobody hleads
    refine ⟨found, w₁, t₁, t₂, node, w₂, out, w₃, t₃, htopology, hquiet, hrest, h, ?_, ?_, ?_⟩
    · intro hactive
      cases node with
      | none => exact hnobody ⟨rfl, hactive⟩
      | some p => exact absurd (hactive ▸ hchosen.active p rfl) List.not_mem_nil
    · intro hactive
      obtain ⟨x, xs, hxs, hx⟩ := hleads fun h => hactive h.2
      obtain ⟨hmem, howns⟩ := hchosen.leads hsteady.pool hx
      exact ⟨x, xs, hxs, hxs ▸ hsent, hmem, howns⟩
    · intro k ids hk hcompiled hids id hid hne q hq
      exact Node.hasId_iff_eq hq (hcompiled.isWritten hids hid) hne

theorem mixedCluster_calm (sent : List Exchange) (x : Exchange) :
    IsCalm (mixedCluster.transport sent x).outcome := by
  change IsCalm (mixedCluster.answer x.node)
  unfold mixedCluster.answer
  split_ifs
  · exact isCalm_error rfl
  all_goals exact isCalm_ok _

def ownedStart : World where
  state :=
    { nodes := [{ address := "e" }, { id := "n", address := "d" }, { id := "n", address := "f" }]
      pool := { active := [0, 1, 2] }
      currentTopology := soloHash }

/-- The request goes to the first of the two, although the choice falls on the node before it. -/
theorem metricRequest_routes_in_mixedCluster :
    ∃ out w₁ t₁ t₂ x xs,
      (metricRequest mixedCluster.config "o" "m" { path := "/" }).Ends mixedCluster none ownedStart
        out w₁ (t₁ ++ t₂) ∧ contactsIn t₁ ≠ [] ∧ contactsIn t₂ = x :: xs ∧ x.node = 1 := by
  obtain ⟨-, hroutes, -⟩ := metricRequest_routes mixedCluster "o" "m" (r := { path := "/" })
    (w := ownedStart) rfl rfl mixedCluster_calm
  obtain ⟨found, w₁, t₁, t₂, node, w₂, out, w₃, t₃, htopology, hquiet, -, h, -, hactive, -⟩ :=
    hroutes rfl
  obtain ⟨x, xs, hxs, -, -, howner⟩ := hactive (by decide)
  have hseen := htopology.of_run 0 (fun x => (x.1.toOption.map fun k : Compiled =>
    (k.ring.findMetricIds "o" "m").toOption, x.2.sent.length))
    (show _ = some (some (some ["n"]), 1) by decide +kernel)
  obtain ⟨hids, hsent⟩ := Prod.mk.inj hseen
  refine ⟨out, w₃, t₁, t₂ ++ t₃, x, xs, ?_, fun hnone => ?_, ?_, ?_⟩
  · rwa [← List.append_assoc]
  · rw [htopology.sent_eq, contactsIn_eq_nil_iff.1 hnone] at hsent
    cases hsent
  · rw [contactsIn_append, hquiet, hxs]
    rfl
  · cases found with
    | error f => cases hids
    | ok k =>
      obtain ⟨ids, hfound, rfl⟩ : ∃ ids, k.ring.findMetricIds "o" "m" = .ok ids ∧ ids = ["n"] := by
        cases hk : k.ring.findMetricIds "o" "m" with
        | error error =>
          rw [Except.toOption, Option.map_some, hk] at hids
          cases hids
        | ok ids =>
          rw [Except.toOption, Option.map_some, hk] at hids
          exact ⟨ids, rfl, Option.some.inj (Option.some.inj hids)⟩
      rcases howner k _ rfl hfound with ⟨id, hfirst⟩ | hnone
      · have hchosen : ownedStart.state.pool.preferred ownedStart.state.nodes ["n"] = some x.node :=
          State.preferred_eq_some_iff.2 ⟨id, hfirst⟩
        exact (Option.some.inj (hchosen.symm.trans (by decide +kernel)))
      · exact absurd (hnone "n" (by decide) 1 (by decide)) (by decide +kernel)

end Client
end MetricRing
