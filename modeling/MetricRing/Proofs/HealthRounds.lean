import MetricRing.Proofs.Interleavings
import MetricRing.Proofs.NodeAnswers

/-!
# Health rounds

What a round of health checks comes to where every node answers always in the same way. The
verdict on a node is then the same whenever it is reached, also for a node that was promoted and
is checked again with an id it has just reported. So one round sorts the pool by health, and the
next finds nothing left to move.
-/

namespace MetricRing.Client

variable {e : Setting} {cancel : Option Time} {answers : String → String → Outcome}
  {c : Config} {s t u : State} {w w₁ : World} {l : List Mark} {node : NodeRef}

/-! ### Health -/

/-- The id by which the gossip is searched for a node: its own, or else the one it reports. -/
def knownId? (c : Config) (answers : String → String → Outcome) (s : State) (r : NodeRef) :
    Option String :=
  if (s.node r).id ≠ "" then some (s.node r).id
  else (document? NodeState.parse c answers s r "/state").map fun report =>
    Text.lowercase report.identity

/-- A node is healthy if it is known by an id, and the gossip it serves says in the first entry
for this id that it was heard of less than ten seconds ago. -/
def Healthy (c : Config) (answers : String → String → Outcome) (s : State) (r : NodeRef) : Prop :=
  ∃ id entries entry, knownId? c answers s r = some id ∧
    document? Gossip.parse c answers s r "/gossip/json" = some entries ∧
    entries.find? (fun x => Text.sameIgnoringCase x.id id) = some entry ∧ entry.age < 10.0

def finds (c : Config) (answers : String → String → Outcome) (s : State) (r : NodeRef) : Bool :=
  match knownId? c answers s r, document? Gossip.parse c answers s r "/gossip/json" with
  | some id, some entries => isHeard entries id
  | _, _ => false

theorem isHeard_iff {entries : List GossipEntry} {id : String} : isHeard entries id = true ↔
    ∃ entry, entries.find? (fun x => Text.sameIgnoringCase x.id id) = some entry ∧
      entry.age < 10.0 := by
  unfold isHeard Gossip.ageOf
  cases entries.find? fun x => Text.sameIgnoringCase x.id id with
  | none => simp
  | some entry =>
    refine decide_eq_true_iff.trans ⟨fun hage => ⟨entry, rfl, hage⟩, ?_⟩
    rintro ⟨_, ⟨⟩, hage⟩
    exact hage

theorem finds_iff {r : NodeRef} : finds c answers s r = true ↔ Healthy c answers s r := by
  unfold finds Healthy
  split
  next id entries hid hentries =>
    rw [isHeard_iff, hid, hentries]
    constructor
    · rintro ⟨entry, hentry⟩
      exact ⟨id, entries, entry, rfl, rfl, hentry⟩
    · rintro ⟨_, _, entry, ⟨⟩, ⟨⟩, hentry⟩
      exact ⟨entry, hentry⟩
  next hneither =>
    refine ⟨fun h => (nomatch h), ?_⟩
    rintro ⟨id, entries, entry, hid, hentries, -⟩
    exact (hneither id entries hid hentries).elim

/-- What the watch hook is to be told about a node. -/
def verdict (c : Config) (answers : String → String → Outcome) (s : State) (r : NodeRef) :
    Verdict :=
  ⟨(knownId? c answers s r).getD "", s.nodes.address r, finds c answers s r⟩

/-! ### What a round learns -/

structure Learns (c : Config) (answers : String → String → Outcome) (s t : State) : Prop where
  hook : t.hook = s.hook
  watching : t.watching = s.watching
  made : t.nodes.length = s.nodes.length
  placed : ∀ r, t.nodes.address r = s.nodes.address r
  named : ∀ r, (t.node r).id = (s.node r).id ∨
    (s.node r).id = "" ∧ knownId? c answers s r = some (t.node r).id

theorem document?_congr {β : Type} (parse : List UInt8 → Except Failure β) (hhook : t.hook = s.hook)
    (hplaced : ∀ r, t.nodes.address r = s.nodes.address r) (r : NodeRef) (path : String) :
    document? parse c answers t r path = document? parse c answers s r path := by
  rw [document?, document?, served, served, hhook, hplaced]

theorem knownId?_ne_empty {r : NodeRef} {id : String} (h : knownId? c answers s r = some id) :
    id ≠ "" := by
  unfold knownId? at h
  split_ifs at h with hid
  · exact Option.some.inj h ▸ hid
  · obtain ⟨report, hreport, rfl⟩ := Option.map_eq_some_iff.1 h
    unfold document? at hreport
    split at hreport
    · cases hreport
    next response _ =>
      cases hparse : NodeState.parse response.body with
      | error f =>
        rw [hparse] at hreport
        cases hreport
      | ok report' =>
        rw [hparse] at hreport
        cases hreport
        exact fun he => identity_ne_empty_of_parse hparse (Text.lowercase_eq_empty_iff.1 he)

namespace Learns

theorem document?_eq {β : Type} (h : Learns c answers s t) (parse : List UInt8 → Except Failure β)
    (r : NodeRef) (path : String) :
    document? parse c answers t r path = document? parse c answers s r path :=
  document?_congr parse h.hook h.placed r path

theorem knownId?_eq (h : Learns c answers s t) (r : NodeRef) :
    knownId? c answers t r = knownId? c answers s r := by
  rcases h.named r with hid | ⟨-, hid⟩
  · rw [knownId?, knownId?, hid, h.document?_eq]
  · rw [hid, knownId?, if_pos (knownId?_ne_empty hid)]

theorem finds_eq (h : Learns c answers s t) : finds c answers t = finds c answers s := by
  funext r
  rw [finds, finds, h.knownId?_eq, h.document?_eq]

theorem verdict_eq (h : Learns c answers s t) (r : NodeRef) :
    verdict c answers t r = verdict c answers s r := by
  rw [verdict, verdict, h.knownId?_eq, h.finds_eq, h.placed]

end Learns

instance : IsPreorder State (Learns c answers) where
  refl _ := ⟨rfl, rfl, rfl, fun _ => rfl, fun _ => Or.inl rfl⟩
  trans s t u h h' := by
    refine ⟨h'.hook.trans h.hook, h'.watching.trans h.watching, h'.made.trans h.made,
      fun r => (h'.placed r).trans (h.placed r), fun r => ?_⟩
    rcases h'.named r with hid | ⟨hid, hreported⟩
    · rw [hid]
      exact h.named r
    · rw [h.knownId?_eq] at hreported
      rcases h.named r with hsame | ⟨-, hknown⟩
      · exact Or.inr ⟨hsame ▸ hid, hreported⟩
      · exact absurd hid (knownId?_ne_empty hknown)

structure Asks (c : Config) (answers : String → String → Outcome) (s t : State) : Prop
    extends Learns c answers s t where
  pool : t.pool = s.pool
  verdicts : t.verdicts = s.verdicts

instance : IsPreorder State (Asks c answers) where
  refl s := ⟨refl s, rfl, rfl⟩
  trans _ _ _ h h' := ⟨IsTrans.trans _ _ _ h.toLearns h'.toLearns, h'.pool.trans h.pool,
    h'.verdicts.trans h.verdicts⟩

theorem asks_of_steady (h : s.Steady t) (hwatching : t.watching = s.watching)
    (hverdicts : t.verdicts = s.verdicts) : Asks c answers s t :=
  ⟨⟨h.hook, hwatching, h.made, h.placed, fun r => Or.inl (h.named r)⟩, h.pool, hverdicts⟩

instance : State.Tolerates (Asks c answers) where
  record s x := asks_of_steady (State.Tolerates.record s x) rfl rfl
  announce s r hash := asks_of_steady (State.Tolerates.announce s r hash) rfl rfl
  setTopology s hash := by
    have hsteady : s.Steady (s.setTopology hash) := State.Tolerates.setTopology s hash
    unfold State.setTopology at hsteady ⊢
    dsimp only at hsteady ⊢
    split_ifs at hsteady ⊢ <;> exact asks_of_steady hsteady rfl rfl

theorem id_applyState {report : NodeState} (hnode : node < s.nodes.length) :
    ((s.applyState node report).node node).id = Text.lowercase report.identity :=
  congrArg Node.id (s.nodes.node_update_self hnode _)

theorem asks_applyState {report : NodeState} (hnode : node < s.nodes.length)
    (hid : (s.node node).id = "")
    (hreport : document? NodeState.parse c answers s node "/state" = some report) :
    Asks c answers s (s.applyState node report) := by
  refine ⟨⟨rfl, rfl, Directory.length_update .., fun r => ?_, fun r => ?_⟩, rfl, rfl⟩
  · exact s.nodes.update_keeps Node.address (f := fun n => n.applyState report) (fun _ => rfl)
      node r
  · by_cases hr : node = r
    · subst hr
      refine Or.inr ⟨hid, ?_⟩
      rw [knownId?, if_neg (not_not.2 hid), hreport, id_applyState hnode]
      rfl
    · exact Or.inl (congrArg Node.id (s.nodes.node_update_ne hr _))

/-! ### Asking one node -/

theorem checkGossip_ends {result : Except Failure Bool} (hserves : e.Serves answers)
    (h : (checkGossip e.config node).Ends e cancel w result w₁ l)
    (hcalm : Peaceful cancel answers w.state l)
    (hid : knownId? e.config answers w.state node = some (w.state.node node).id) :
    Calm l ∧ Asks e.config answers w.state w₁.state ∧
      (w₁.state.node node).id = (w.state.node node).id ∧
      result = .ok (finds e.config answers w.state node) := by
  unfold checkGossip at h
  obtain ⟨gossip, w₂, l₁, l₂, hfetch, hrest, rfl⟩ := h.of_bind
  have hsteady : w.state.Steady w₂.state := hfetch.within (acts_fetchGossip e.config node)
  have hasks : Asks e.config answers w.state w₂.state :=
    hfetch.within (acts_fetchGossip e.config node)
  obtain ⟨hcalm₁, hgossip, hserved⟩ := fetchGossip_ends hserves hfetch hcalm.left
  unfold finds
  rw [hid, ← hserved]
  cases gossip with
  | error f =>
    dsimp only at hrest
    rw [hgossip f rfl] at hrest
    obtain ⟨rfl, rfl, rfl⟩ := hrest.of_done
    exact ⟨calm_append.2 ⟨hcalm₁, calm_nil⟩, hasks, hsteady.named node, rfl⟩
  | ok entries =>
    obtain ⟨l₃, hdone, rfl⟩ := hrest.of_read
    obtain ⟨rfl, rfl, rfl⟩ := hdone.of_done
    rw [hsteady.named node]
    exact ⟨calm_append.2 ⟨hcalm₁, calm_cons.2 ⟨trivial, calm_nil⟩⟩, hasks, rfl, rfl⟩

/-- A calm check finds out what is to be found out about a node. It knows the node's id from then
on, if there is one to know. -/
theorem isHealthy_ends {result : Except Failure Bool} (hserves : e.Serves answers)
    (hnode : node < w.state.nodes.length)
    (h : (isHealthy e.config node).Ends e cancel w result w₁ l)
    (hcalm : Peaceful cancel answers w.state l) :
    Calm l ∧ Asks e.config answers w.state w₁.state ∧
      (w₁.state.node node).id = (knownId? e.config answers w.state node).getD "" ∧
      result = .ok (finds e.config answers w.state node) := by
  unfold isHealthy at h
  obtain ⟨l', h', rfl⟩ := h.of_read
  replace hcalm := hcalm.tail rfl
  rw [calm_cons]
  split_ifs at h' with hid
  · have hknown : knownId? e.config answers w.state node = some (w.state.node node).id := if_pos hid
    obtain ⟨hcalm', hasks, hsame, hresult⟩ := checkGossip_ends hserves h' hcalm hknown
    rw [hknown]
    exact ⟨⟨trivial, hcalm'⟩, hasks, hsame, hresult⟩
  · obtain ⟨report, w₂, l₁, l₂, hfetch, hrest, rfl⟩ := h'.of_bind
    have hsteady : w.state.Steady w₂.state := hfetch.within (acts_fetchState e.config node)
    have hasks : Asks e.config answers w.state w₂.state :=
      hfetch.within (acts_fetchState e.config node)
    obtain ⟨hcalm₁, hreport, hserved⟩ := fetchState_ends hserves hfetch hcalm.left
    have hknown : knownId? e.config answers w.state node =
        report.toOption.map fun report => Text.lowercase report.identity := by
      rw [knownId?, if_neg hid, ← hserved]
    rw [calm_append]
    cases report with
    | error f =>
      dsimp only at hrest
      rw [hreport f rfl] at hrest
      obtain ⟨rfl, rfl, rfl⟩ := hrest.of_done
      refine ⟨⟨trivial, hcalm₁, calm_nil⟩, hasks, ?_, ?_⟩
      · rw [hknown, hsteady.named node]
        exact not_not.1 hid
      · rw [finds, hknown]
        rfl
    | ok report =>
      obtain ⟨l₃, hgossip, rfl⟩ := hrest.of_modify
      have hunnamed : (w₂.state.node node).id = "" := (hsteady.named node).trans (not_not.1 hid)
      have hmade : node < w₂.state.nodes.length := hsteady.made.symm ▸ hnode
      have hreported := (hasks.document?_eq NodeState.parse node "/state").trans hserved.symm
      have hlearns : Asks e.config answers w.state (w₂.state.applyState node report) :=
        IsTrans.trans _ _ _ hasks (asks_applyState hmade hunnamed hreported)
      have hnamed : knownId? e.config answers (w₂.state.applyState node report) node =
          some ((w₂.state.applyState node report).node node).id := by
        rw [hlearns.knownId?_eq, hknown, id_applyState hmade]
        rfl
      obtain ⟨hcalm₃, hasks₃, hsame, hresult⟩ := checkGossip_ends hserves hgossip
        ((hcalm.right hsteady.hook).tail rfl) hnamed
      refine ⟨⟨trivial, hcalm₁, calm_cons.2 ⟨trivial, hcalm₃⟩⟩,
        IsTrans.trans _ _ _ hlearns hasks₃, ?_, ?_⟩
      · rw [hsame, id_applyState hmade, hknown]
        rfl
      · rw [hresult, hlearns.finds_eq]

/-! ### Checking lists of nodes -/

structure Checks (c : Config) (answers : String → String → Outcome) (rs : List NodeRef)
    (s t : State) : Prop extends Learns c answers s t where
  verdicts : t.verdicts = s.verdicts ++ if s.watching then rs.map (verdict c answers s) else []

theorem checks_nil (s : State) : Checks c answers [] s s :=
  ⟨refl s, by simp⟩

theorem Checks.append {rs rs' : List NodeRef} (h : Checks c answers rs s t)
    (h' : Checks c answers rs' t u) : Checks c answers (rs ++ rs') s u := by
  refine ⟨IsTrans.trans _ _ _ h.toLearns h'.toLearns, ?_⟩
  have hsame : rs'.map (verdict c answers t) = rs'.map (verdict c answers s) :=
    List.map_congr_left fun r _ => h.verdict_eq r
  rw [h'.verdicts, h.verdicts, h.watching, hsame, List.map_append, List.append_assoc]
  split_ifs <;> simp

theorem pool_notify (s : State) (r : NodeRef) (healthy : Bool) :
    (s.notify r healthy).pool = s.pool := by
  unfold State.notify
  split_ifs <;> rfl

/-- A node has been asked, the pool was changed, and the hook is told. -/
theorem checks_notify (h : Asks c answers s t)
    (hid : (t.node node).id = (knownId? c answers s node).getD "") (pool : Pool) :
    Checks c answers [node] s
      (State.notify { t with pool := pool } node (finds c answers s node)) := by
  have htold : verdict c answers s node =
      ⟨(t.node node).id, t.nodes.address node, finds c answers s node⟩ := by
    rw [verdict, hid, h.placed]
  unfold State.notify
  by_cases hwatching : t.watching = true
  · rw [if_pos hwatching]
    refine ⟨⟨h.hook, h.watching, h.made, h.placed, h.named⟩, ?_⟩
    rw [if_pos (h.watching ▸ hwatching), List.map_singleton, htold, ← h.verdicts]
    rfl
  · rw [if_neg hwatching]
    refine ⟨⟨h.hook, h.watching, h.made, h.placed, h.named⟩, ?_⟩
    rw [if_neg (h.watching ▸ hwatching), List.append_nil]
    exact h.verdicts

/-- The rest of a check of several nodes, once the first has been asked: it is put in its place,
and the hook is told. -/
theorem place_ends {α : Type} {rest : Op α} {a : α} {w₂ : World} {moves : Bool} {pool : Pool}
    (move : State → State) (hasks : Asks e.config answers w.state w₂.state)
    (hid : (w₂.state.node node).id = (knownId? e.config answers w.state node).getD "")
    (hmove : move w₂.state = { w₂.state with pool := (move w₂.state).pool })
    (hpool : (if moves then (move w₂.state).pool else w₂.state.pool) = pool)
    (h : (if moves = true then
        (Op.modify move >>= fun _ =>
          Op.modify (fun s => s.notify node (finds e.config answers w.state node)) >>= fun _ => rest)
      else Op.modify (fun s => s.notify node (finds e.config answers w.state node)) >>=
        fun _ => rest).Ends e cancel w₂ a w₁ l)
    (hcalm : Peaceful cancel answers w.state l) :
    ∃ w₃ l', rest.Ends e cancel w₃ a w₁ l' ∧ Peaceful cancel answers w₃.state l' ∧
      (Calm l' → Calm l) ∧ Checks e.config answers [node] w.state w₃.state ∧
      w₃.state.pool = pool := by
  have hchecks := checks_notify hasks hid pool
  split_ifs at h hpool
  · obtain ⟨l₁, htell, rfl⟩ := h.of_modify
    obtain ⟨l₂, hrest, rfl⟩ := htell.of_modify
    rw [hmove, hpool] at hrest
    exact ⟨_, l₂, hrest, (hcalm.tail rfl).tail hchecks.hook,
      fun hl => calm_cons.2 ⟨trivial, calm_cons.2 ⟨trivial, hl⟩⟩, hchecks, pool_notify ..⟩
  · subst hpool
    obtain ⟨l₂, hrest, rfl⟩ := h.of_modify
    exact ⟨_, l₂, hrest, hcalm.tail hchecks.hook, fun hl => calm_cons.2 ⟨trivial, hl⟩, hchecks,
      pool_notify ..⟩

/-- Of inactive nodes the healthy ones are activated. -/
theorem checkInactive_ends {rs : List NodeRef} {all : Bool} (hserves : e.Serves answers)
    (hrs : ∀ r ∈ rs, r < w.state.nodes.length)
    (h : (checkInactive e.config rs).Ends e cancel w all w₁ l)
    (hcalm : Peaceful cancel answers w.state l) :
    Calm l ∧ all = true ∧ Checks e.config answers rs w.state w₁.state ∧
      w₁.state.pool =
        w.state.pool.activate w.state.nodes (rs.filter (finds e.config answers w.state)) := by
  induction rs generalizing w l with
  | nil =>
    obtain ⟨rfl, rfl, rfl⟩ := h.of_done
    exact ⟨calm_nil, rfl, checks_nil _, rfl⟩
  | cons node rest ih =>
    obtain ⟨hnode, hrest⟩ := List.forall_mem_cons.1 hrs
    unfold checkInactive at h
    obtain ⟨result, w₂, l₁, l₂, hasked, hplaced, rfl⟩ := h.of_bind
    obtain ⟨hcalm₁, hasks, hid, rfl⟩ := isHealthy_ends hserves hnode hasked hcalm.left
    have hpool : (if finds e.config answers w.state node then (w₂.state.activate node).pool
        else w₂.state.pool) = w.state.pool.activate w.state.nodes
          ([node].filter (finds e.config answers w.state)) := by
      rw [State.activate, hasks.pool, Pool.activate_congr hasks.placed, List.filter_singleton]
      cases finds e.config answers w.state node <;> rfl
    obtain ⟨w₃, l₃, hends, hcalm₃, hcalms, hchecks, hpooled⟩ :=
      place_ends (fun s => s.activate node) hasks hid rfl hpool hplaced (hcalm.right rfl)
    obtain ⟨hcalm₄, rfl, hchecked, hlast⟩ := ih (hchecks.made ▸ hrest) hends hcalm₃
    refine ⟨calm_append.2 ⟨hcalm₁, hcalms hcalm₄⟩, rfl, hchecks.append hchecked, ?_⟩
    rw [hlast, hpooled, Pool.activate_congr hchecks.placed, hchecks.finds_eq,
      ← Pool.activate_append, ← List.filter_append]
    rfl

/-- Of active nodes the others are deactivated. -/
theorem checkActive_ends {rs : List NodeRef} {a : Unit} (hserves : e.Serves answers)
    (hrs : ∀ r ∈ rs, r < w.state.nodes.length)
    (h : (checkActive e.config rs).Ends e cancel w a w₁ l)
    (hcalm : Peaceful cancel answers w.state l) :
    Calm l ∧ Checks e.config answers rs w.state w₁.state ∧
      w₁.state.pool = w.state.pool.deactivate w.state.nodes
        (rs.filter fun r => !finds e.config answers w.state r) := by
  induction rs generalizing w l with
  | nil =>
    obtain ⟨-, rfl, rfl⟩ := h.of_done
    exact ⟨calm_nil, checks_nil _, rfl⟩
  | cons node rest ih =>
    obtain ⟨hnode, hrest⟩ := List.forall_mem_cons.1 hrs
    unfold checkActive at h
    obtain ⟨result, w₂, l₁, l₂, hasked, hplaced, rfl⟩ := h.of_bind
    obtain ⟨hcalm₁, hasks, hid, rfl⟩ := isHealthy_ends hserves hnode hasked hcalm.left
    have hpool : (if !finds e.config answers w.state node then (w₂.state.deactivate node).pool
        else w₂.state.pool) = w.state.pool.deactivate w.state.nodes
          ([node].filter fun r => !finds e.config answers w.state r) := by
      rw [State.deactivate, hasks.pool, Pool.deactivate_congr hasks.placed, List.filter_singleton]
      cases finds e.config answers w.state node <;> rfl
    obtain ⟨w₃, l₃, hends, hcalm₃, hcalms, hchecks, hpooled⟩ :=
      place_ends (fun s => s.deactivate node) hasks hid rfl hpool hplaced (hcalm.right rfl)
    obtain ⟨hcalm₄, hchecked, hlast⟩ := ih (hchecks.made ▸ hrest) hends hcalm₃
    refine ⟨calm_append.2 ⟨hcalm₁, hcalms hcalm₄⟩, hchecks.append hchecked, ?_⟩
    rw [hlast, hpooled, Pool.deactivate_congr hchecks.placed, hchecks.finds_eq,
      ← Pool.deactivate_append, ← List.filter_append]
    rfl

/-! ### Rounds -/

/-- What a round makes of a pool: healthy nodes are activated, and then of the active ones the
others are deactivated. -/
def sift (d : Directory) (healthy : NodeRef → Bool) (p : Pool) : Pool :=
  let q := p.activate d (p.inactive.filter healthy)
  q.deactivate d (q.active.filter fun r => !healthy r)

section Sift

variable {d d' : Directory} {healthy : NodeRef → Bool} {p : Pool}

theorem sift_congr (h : ∀ r, d'.address r = d.address r) :
    sift d' healthy p = sift d healthy p := by
  rw [sift, sift, Pool.activate_congr h, Pool.deactivate_congr h]

theorem activate_inactive (h : (p.members.map d.address).Nodup) (healthy : NodeRef → Bool) :
    (p.activate d (p.inactive.filter healthy)).members.Perm p.members ∧
      ∀ r, r ∈ (p.activate d (p.inactive.filter healthy)).active ↔
        r ∈ p.active ∨ r ∈ p.inactive ∧ healthy r = true := by
  have hrs : ∀ r ∈ p.inactive.filter healthy, r ∈ p.members := fun r hr =>
    List.mem_append_right _ (List.mem_filter.1 hr).1
  obtain ⟨hperm, hactive⟩ := Pool.activate_members h hrs
  exact ⟨hperm, fun r => (hactive r).trans (or_congr_right List.mem_filter)⟩

/-- A round keeps the nodes of the pool, and has just the healthy ones active. -/
theorem sift_members (h : (p.members.map d.address).Nodup) (healthy : NodeRef → Bool) :
    (sift d healthy p).members.Perm p.members ∧
      ∀ r ∈ p.members, r ∈ (sift d healthy p).active ↔ healthy r = true := by
  obtain ⟨hperm, hactive⟩ := activate_inactive h healthy
  unfold sift
  dsimp only
  generalize p.activate d (p.inactive.filter healthy) = q at hperm hactive ⊢
  have hrs : ∀ r ∈ q.active.filter fun r => !healthy r, r ∈ q.members := fun r hr =>
    List.mem_append_left _ (List.mem_filter.1 hr).1
  obtain ⟨hperm', hactive'⟩ := Pool.deactivate_members ((hperm.map d.address).nodup_iff.2 h) hrs
  refine ⟨hperm'.trans hperm, fun r hr => ?_⟩
  rw [hactive', hactive, List.mem_filter, hactive]
  have hr := List.mem_append.1 hr
  cases healthy r <;> simp [hr]

/-- Where the nodes are sorted by health there is nothing to move. -/
theorem sift_eq_self (hactive : ∀ r ∈ p.active, healthy r = true)
    (hinactive : ∀ r ∈ p.inactive, healthy r = false) : sift d healthy p = p := by
  have hnone : p.inactive.filter healthy = [] := by
    rw [List.filter_eq_nil_iff]
    intro r hr
    rw [hinactive r hr]
    exact Bool.false_ne_true
  have hall : p.active.filter (fun r => !healthy r) = [] := by
    rw [List.filter_eq_nil_iff]
    intro r hr
    rw [hactive r hr]
    exact Bool.false_ne_true
  unfold sift
  rw [hnone]
  change p.deactivate d (p.active.filter fun r => !healthy r) = p
  rw [hall]
  rfl

/-- The first round sorts the nodes, so that the second has nothing to move. -/
theorem sift_sift (h : (p.members.map d.address).Nodup) :
    sift d healthy (sift d healthy p) = sift d healthy p := by
  obtain ⟨hperm, hactive⟩ := sift_members h healthy
  have hnodup : (sift d healthy p).members.Nodup :=
    List.Nodup.of_map _ ((hperm.map d.address).nodup_iff.2 h)
  refine sift_eq_self (fun r hr => ?_) fun r hr => ?_
  · exact (hactive r (hperm.mem_iff.1 (List.mem_append_left _ hr))).1 hr
  · rw [← Bool.not_eq_true, ← hactive r (hperm.mem_iff.1 (List.mem_append_right _ hr))]
    exact fun hr' => List.disjoint_of_nodup_append hnodup hr' hr

end Sift

/-- A calm round checks all nodes of the pool and sorts them. -/
theorem checkNodes_ends {a : Unit} (hserves : e.Serves answers) (hd : w.state.Distinct)
    (hdiscover : e.config.discover = false)
    (h : (checkNodes e.config).Ends e cancel w a w₁ l)
    (hcalm : Peaceful cancel answers w.state l) :
    Calm l ∧ w₁.state.pool = sift w.state.nodes (finds e.config answers w.state) w.state.pool ∧
      ∃ rs, (∀ r, r ∈ rs ↔ r ∈ w.state.pool.members) ∧
        Checks e.config answers rs w.state w₁.state := by
  unfold checkNodes discoverBefore at h
  rw [hdiscover] at h
  obtain ⟨go, w₂, l₁, l₂, hgo, hround, rfl⟩ := h.of_bind
  obtain ⟨rfl, rfl, rfl⟩ := hgo.of_done
  obtain ⟨l₃, hchecks, rfl⟩ := Op.Ends.of_read hround
  obtain ⟨all, w₃, l₄, l₅, hfirst, hthen, rfl⟩ := hchecks.of_bind
  have hcalm := Peaceful.tail hcalm rfl
  have hmade : ∀ r ∈ w₂.state.pool.inactive, r < w₂.state.nodes.length := fun r hr =>
    hd.made r (List.mem_append_right _ hr)
  obtain ⟨hcalm₁, rfl, hchecked, hpool⟩ := checkInactive_ends hserves hmade hfirst hcalm.left
  obtain ⟨hperm, hactive⟩ := activate_inactive hd.nodup (finds e.config answers w₂.state)
  rw [← hpool] at hperm hactive
  obtain ⟨l₆, hsecond, rfl⟩ := Op.Ends.of_read hthen
  have hmade' : ∀ r ∈ w₃.state.pool.active, r < w₃.state.nodes.length := fun r hr =>
    hchecked.made.symm ▸ hd.made r (hperm.mem_iff.1 (List.mem_append_left _ hr))
  obtain ⟨hcalm₂, hchecked', hpool'⟩ := checkActive_ends hserves hmade' hsecond
    ((hcalm.right hchecked.hook).tail rfl)
  refine ⟨?_, ?_, _, fun r => ?_, hchecked.append hchecked'⟩
  · exact calm_cons.2 ⟨trivial, calm_append.2 ⟨hcalm₁, calm_cons.2 ⟨trivial, hcalm₂⟩⟩⟩
  · rw [hpool', Pool.deactivate_congr hchecked.placed, hchecked.finds_eq, hpool]
    rfl
  · rw [List.mem_append, hactive, Pool.members, List.mem_append]
    constructor
    · rintro (hr | hr | ⟨hr, -⟩)
      · exact Or.inr hr
      · exact Or.inl hr
      · exact Or.inr hr
    · rintro (hr | hr)
      · exact Or.inr (Or.inl hr)
      · exact Or.inl hr

/-- Where discovery is off and each path at each address is always answered in the same way, a
round that nothing disturbs ends with the healthy nodes of the pool active and the others
inactive. The watch hook is called for every node, always with this verdict. Another round leaves
both lists as they are. -/
theorem round_sorts_nodes_by_health (cancel : Option Time) {y : System}
    (hy : y.Reachable e.config) (hw : w.state = y.state) (hdiscover : e.config.discover = false)
    (hserves : e.Serves answers) :
    ∃ w₁ l, (checkNodes e.config).Ends e cancel w () w₁ l ∧
      (Peaceful cancel answers w.state l →
        w₁.state.pool.members.Perm w.state.pool.members ∧
        (∀ r ∈ w.state.pool.members,
          r ∈ w₁.state.pool.active ↔ Healthy e.config answers w.state r) ∧
        (w.state.watching = true → ∃ told, w₁.state.verdicts = w.state.verdicts ++ told ∧
          (∀ r ∈ w.state.pool.members, ∃ v ∈ told, v.address = w.state.nodes.address r) ∧
          ∀ v ∈ told, ∃ r ∈ w.state.pool.members, v.address = w.state.nodes.address r ∧
            (v.healthy = true ↔ Healthy e.config answers w.state r)) ∧
        ∀ cancel' w', w'.state = w₁.state →
          ∃ w₂ l', (checkNodes e.config).Ends e cancel' w' () w₂ l' ∧
            (Peaceful cancel' answers w'.state l' → w₂.state.pool = w₁.state.pool)) := by
  have hd : w.state.Distinct := hw ▸ (hy.sound Relation.ReflTransGen.refl).state.distinct
  obtain ⟨_, w₁, l, h⟩ := Op.halts e cancel (checkNodes e.config) w
  refine ⟨w₁, l, h, fun hcalm => ?_⟩
  obtain ⟨-, hpool, rs, hrs, hchecks⟩ := checkNodes_ends hserves hd hdiscover h hcalm
  obtain ⟨hperm, hactive⟩ := sift_members hd.nodup (finds e.config answers w.state)
  rw [← hpool] at hperm hactive
  refine ⟨hperm, fun r hr => (hactive r hr).trans finds_iff, fun hwatching => ?_, ?_⟩
  · refine ⟨rs.map (verdict e.config answers w.state), ?_, fun r hr => ?_, fun v hv => ?_⟩
    · rw [hchecks.verdicts, if_pos hwatching]
    · exact ⟨_, List.mem_map_of_mem ((hrs r).2 hr), rfl⟩
    · obtain ⟨r, hr, rfl⟩ := List.mem_map.1 hv
      exact ⟨r, (hrs r).1 hr, rfl, finds_iff⟩
  · intro cancel' w' hw'
    obtain ⟨_, w₂, l', h'⟩ := Op.halts e cancel' (checkNodes e.config) w'
    refine ⟨w₂, l', h', fun hcalm' => ?_⟩
    have hd' : w'.state.Distinct :=
      hw' ▸ hd.of_perm hperm hchecks.made.ge fun r _ => hchecks.placed r
    obtain ⟨-, hpool', -⟩ := checkNodes_ends hserves hd' hdiscover h' hcalm'
    rw [hpool', hw', hchecks.finds_eq, sift_congr hchecks.placed, hpool, sift_sift hd.nodup]

def silentAnswers (_ path : String) : Outcome :=
  .ok { status := 200, body := body.toUTF8.toList, node := "" }
where
  body : String := if path = "/state" then "\x7b\"id\":\"a\",\"current\":\"t\"\x7d" else "[]"

def silentCluster : Setting where
  config := { servers := ["[::1]:1"] }
  transport _ x := { outcome := silentAnswers x.node x.request.path }
  pick _ := 0

theorem isCalm_silentAnswers (address path : String) : IsCalm (silentAnswers address path) :=
  isCalm_ok _

/-- The node is active after the start, and a round deactivates it and says so. -/
theorem round_deactivates_in_silentCluster :
    ∃ (y : System) (w w₁ : World) (l : List Mark), y.Reachable silentCluster.config ∧
      w.state = y.state ∧ w.state.pool.active.length = 1 ∧
      (checkNodes silentCluster.config).Ends silentCluster none w () w₁ l ∧
      w₁.state.pool.active = [] ∧ w₁.state.pool.inactive.length = 1 ∧
      ∃ v ∈ w₁.state.verdicts, v.healthy = false := by
  have hruns : ((run silentCluster none 1 (Call.bootstrap.op silentCluster.config) {}).bind fun x =>
      (run silentCluster none 1 ((Call.setWatching true).op silentCluster.config) x.2).map fun x' =>
        (x'.2.state.pool, x'.2.state.watching, x'.2.state.hook.isNone)) =
      some (⟨[0], []⟩, true, true) := by
    decide +kernel
  obtain ⟨⟨a, w₀⟩, hstart, hwatch⟩ := Option.bind_eq_some_iff.1 hruns
  obtain ⟨⟨_, w⟩, hset, hseen⟩ := Option.map_eq_some_iff.1 hwatch
  obtain ⟨hpool, hseen⟩ := Prod.mk.inj hseen
  obtain ⟨hwatching, hhook⟩ := Prod.mk.inj hseen
  dsimp only at hpool hwatching hhook
  have hy : System.Reachable silentCluster.config _ :=
    (System.Steps.of_run (y := {}) rfl hstart).trans (System.Steps.of_run rfl hset)
  have hpeaceful : Undisturbed none silentAnswers w.state := by
    refine ⟨rfl, ?_, isCalm_silentAnswers⟩
    rw [Option.isNone_iff_eq_none.1 hhook]
    exact keepsDeadlines_none
  have hunheard : ∀ r, ¬ Healthy silentCluster.config silentAnswers w.state r := by
    rintro r ⟨id, entries, entry, -, hentries, hentry, -⟩
    have hempty : (document? Gossip.parse silentCluster.config silentAnswers w.state r
        "/gossip/json").map List.length = some 0 := by
      -- All addresses are answered alike.
      rw [document?, served, Option.isNone_iff_eq_none.1 hhook]
      change (document? Gossip.parse silentCluster.config silentAnswers {} 0 "/gossip/json").map
        List.length = some 0
      decide +kernel
    rw [hentries] at hempty
    rw [List.length_eq_zero_iff.1 (Option.some.inj hempty)] at hentry
    cases hentry
  have hserves : silentCluster.Serves silentAnswers := fun _ _ => rfl
  obtain ⟨w₁, l, h, hround⟩ := round_sorts_nodes_by_health none hy (w := w) rfl rfl hserves
  obtain ⟨hperm, hactive, htold, -⟩ := hround (Or.inr hpeaceful)
  have hmembers : w.state.pool.members = [0] := congrArg Pool.members hpool
  have hnone : w₁.state.pool.active = [] := by
    rw [List.eq_nil_iff_forall_not_mem]
    intro r hr
    exact hunheard r ((hactive r (hperm.mem_iff.1 (List.mem_append_left _ hr))).1 hr)
  refine ⟨_, w, w₁, l, hy, rfl, congrArg (fun p => p.active.length) hpool, h, hnone, ?_, ?_⟩
  · have hlength := hperm.length_eq
    rw [hmembers, Pool.members, hnone] at hlength
    exact hlength
  · obtain ⟨told, hverdicts, hall, hsame⟩ := htold hwatching
    obtain ⟨v, hv, -⟩ := hall 0 (hmembers ▸ List.mem_singleton_self 0)
    obtain ⟨r, -, -, hhealthy⟩ := hsame v hv
    refine ⟨v, hverdicts ▸ List.mem_append_right _ hv, ?_⟩
    rw [← Bool.not_eq_true, hhealthy]
    exact hunheard r

end MetricRing.Client
