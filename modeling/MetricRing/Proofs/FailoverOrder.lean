import MetricRing.Proofs.RequestExchanges
import MetricRing.Proofs.DirectRuns
import MetricRing.Run.Amid

/-!
# The order of a failover

Within an attempt a request turns from one node to another as long as it cannot connect. What a
failover has to find when it is reached, and what holds when it has come to its result, is a `Pact`;
an operation that meets it does so amid any others. The pact of an attempt keeps the visits in
order: no address comes twice, every node after the first was active when it was chosen, and only a
refused connection makes the request turn to another node.
-/

namespace MetricRing

def Contact.IsRefused (x : Contact) : Prop :=
  ∃ e, x.result = .ok (.error e) ∧ e.isConnection = true

theorem Contact.isRefused_of_outcome {x : Contact} {e : Failure} (h : x.outcome = .error e)
    (he : e.isConnection = true) : x.IsRefused := by
  obtain ⟨node, r, result⟩ := x
  unfold outcome at h
  rcases result with i | f | response
  · obtain rfl := Except.error.inj h
    rw [Interrupt.isConnection_failure] at he
    cases he
  · obtain rfl := Except.error.inj h
    exact ⟨f, rfl, he⟩
  · dsimp only [Client.judge] at h
    split_ifs at h
    obtain rfl := Except.error.inj h
    cases he

theorem Pool.mem_activeExcluding {d : Directory} {p : Pool} {tried : List String} {r : NodeRef} :
    r ∈ p.activeExcluding d tried ↔ r ∈ p.active ∧ d.address r ∉ tried := by
  have hany : (tried.any fun a => hasAddress d a r) = true ↔ d.address r ∈ tried := by
    simp only [List.any_eq_true, hasAddress_iff, exists_eq_right']
  rw [activeExcluding, List.mem_filter, Bool.not_eq_true', ← Bool.not_eq_true, hany]

/-- What is promised of failovers: what holds of the visits at each moment, what has to hold when a
failover is reached, and what holds when it has come to its result. -/
structure Pact where
  kept : List Visit → Prop
  before : Failover → State → List Visit → Prop
  after : Outcome × Nat → State → List Visit → Prop

namespace Op

variable {α β : Type} {c : Config} {p : Pact} {Q : α → State → List Visit → Prop} {op : Op α}
  {s s₁ s₂ : State} {us vs : List Visit}

def Meets (p : Pact) (Q : α → State → List Visit → Prop) : Op α → State → List Visit → Prop
  | .done a, s, vs => Q a s vs
  | .act f next, s, vs => (next s).Meets p Q (f s) vs
  | .choose n next, s, vs => ∀ i, (next (i % n)).Meets p Q s vs
  | .clock next, s, vs => ∀ now, (next now).Meets p Q s vs
  | .exchange node r next, s, vs =>
    (∀ x : Contact, x.node = node → x.request = r → p.kept (vs ++ [⟨s, x⟩]) ∧
      ∀ t, (next x.result).Meets p Q t (vs ++ [⟨s, x⟩])) ∧
    ∀ i t, (next (.error i)).Meets p Q t vs
  | .pause _ _ next, _, vs => ∀ result t, (next result).Meets p Q t vs
  | .acquire next, _, vs => ∀ result t, (next result).Meets p Q t vs
  | .release next, s, vs => next.Meets p Q s vs
  | .failover f next, s, vs =>
    p.before f s vs ∧ ∀ result t us, p.after result t us → (next result).Meets p Q t us

theorem Meets.bind {R : β → State → List Visit → Prop} {f : α → Op β} (h : op.Meets p Q s vs)
    (hf : ∀ a t us, Q a t us → (f a).Meets p R t us) : (op >>= f).Meets p R s vs := by
  change (op.bind f).Meets p R s vs
  induction op generalizing s vs with
  | done a => exact hf a s vs h
  | act g next ih => exact ih s h
  | choose n next ih => exact fun i => ih (i % n) (h i)
  | clock next ih => exact fun now => ih now (h now)
  | exchange node r next ih =>
    refine ⟨fun x hn hr => ⟨(h.1 x hn hr).1, fun t => ih x.result ((h.1 x hn hr).2 t)⟩, ?_⟩
    exact fun i t => ih (.error i) (h.2 i t)
  | pause deadline delay next ih => exact fun result t => ih result (h result t)
  | acquire next ih => exact fun result t => ih result (h result t)
  | release next ih => exact ih h
  | failover g next ih =>
    exact ⟨h.1, fun result t us ha => ih result (h.2 result t us ha)⟩

theorem meets_read {g : State → β} {k : β → Op α} (h : (k (g s)).Meets p Q s vs) :
    (Op.read g >>= k).Meets p Q s vs := h

theorem meets_oneOf {candidates : List NodeRef} {Q : Option NodeRef → State → List Visit → Prop}
    (hsome : ∀ node ∈ candidates, Q (some node) s vs) (hnone : candidates = [] → Q none s vs) :
    (Op.oneOf candidates).Meets p Q s vs := by
  unfold Op.oneOf
  split_ifs with hempty
  · exact hnone (List.isEmpty_iff.1 hempty)
  · intro i
    have hpos : 0 < candidates.length :=
      List.length_pos_iff.2 fun hnil => hempty (List.isEmpty_iff.2 hnil)
    have hlt : i % candidates.length < candidates.length := Nat.mod_lt i hpos
    change Q candidates[i % candidates.length]? s vs
    rw [List.getElem?_eq_getElem hlt]
    exact hsome _ (List.getElem_mem hlt)

/-- A step leaves a pact to be met by the rest, whatever the others do while the operation waits. -/
theorem Meets.step {l : Option Label} {op₁ : Op α}
    (hp : ∀ f s vs, p.before f s vs → (Client.failoverStep c f).Meets p p.after s vs)
    (h : op.Meets p Q s us) (hk : p.kept us) (first : op.Step c s l s₁ op₁)
    (others : op.waits = false → s₂ = s₁) :
    p.kept (us ++ Visit.made s l) ∧ op₁.Meets p Q s₂ (us ++ Visit.made s l) := by
  have unseen : us ++ Visit.made s none = us := List.append_nil us
  cases first with
  | act f next =>
    obtain rfl := others rfl
    rw [unseen]
    exact ⟨hk, h⟩
  | choose n i next =>
    obtain rfl := others rfl
    rw [unseen]
    exact ⟨hk, h i⟩
  | clock now next =>
    obtain rfl := others rfl
    rw [unseen]
    exact ⟨hk, h now⟩
  | exchange x next => exact ⟨(h.1 x rfl rfl).1, (h.1 x rfl rfl).2 s₂⟩
  | barred node r i next =>
    rw [unseen]
    exact ⟨hk, h.2 i s₂⟩
  | pause deadline delay result next =>
    rw [show Visit.made _ (some (.pause result)) = [] from rfl, List.append_nil]
    exact ⟨hk, h result s₂⟩
  | acquire result next =>
    rw [unseen]
    exact ⟨hk, h result s₂⟩
  | release next =>
    obtain rfl := others rfl
    rw [unseen]
    exact ⟨hk, h⟩
  | failover f next =>
    obtain rfl := others rfl
    rw [unseen]
    exact ⟨hk, (hp f _ us h.1).bind h.2⟩

theorem Meets.amid {op₁ : Op α}
    (hp : ∀ f s vs, p.before f s vs → (Client.failoverStep c f).Meets p p.after s vs)
    (h : op.Meets p Q s us) (hk : p.kept us) (ha : op.Amid c s vs s₁ op₁) :
    p.kept (us ++ vs) ∧ op₁.Meets p Q s₁ (us ++ vs) := by
  induction ha generalizing us with
  | refl s op =>
    rw [List.append_nil]
    exact ⟨hk, h⟩
  | step _ first others _ ih =>
    obtain ⟨hk, h⟩ := h.step hp hk first others
    rw [← List.append_assoc]
    exact ih h hk

end Op

namespace Client

variable {α : Type} {p : Pact} {Q : α → State → List Visit → Prop} {s : State} {vs : List Visit}

theorem meets_note {setting : Option String} {path : String} {event : State → Event}
    {k : Unit → Op α}
    (h : ∀ t : State, t.pool = s.pool → t.nodes = s.nodes → (k ()).Meets p Q t vs) :
    (note setting path event >>= k).Meets p Q s vs := by
  unfold note
  split_ifs
  · exact h _ rfl rfl
  · exact h s rfl rfl

theorem meets_observe {node : NodeRef} {headers : Headers} {k : Unit → Op α}
    (h : ∀ t, (k ()).Meets p Q t vs) : (observe node headers >>= k).Meets p Q s vs := by
  suffices hseen : (observe node headers).Meets p (fun _ _ us => us = vs) s vs from
    hseen.bind fun _ t us hus => hus ▸ h t
  unfold observe
  split
  · exact rfl
  · apply Op.meets_read
    dsimp only
    split_ifs <;> exact rfl

/-- Sending a request is a visit in a state with the same nodes, unless it is cut short before. -/
theorem meets_sendOnce {c : Config} {node : NodeRef} {r : Request}
    {Q : Outcome → State → List Visit → Prop}
    (hvisit : ∀ v : Visit, v.state.pool = s.pool → v.state.nodes = s.nodes → v.contact.node = node →
      p.kept (vs ++ [v]) ∧ ∀ t, Q v.contact.outcome t (vs ++ [v]))
    (hcut : ∀ (i : Interrupt) t, Q (.error i.failure) t vs) :
    (sendOnce c node r).Meets p Q s vs := by
  unfold sendOnce
  apply meets_note
  intro t hpool hnodes now
  refine ⟨fun x hnode _ => ?_, hcut⟩
  obtain ⟨hkept, hQ⟩ := hvisit ⟨t, x⟩ hpool hnodes hnode
  refine ⟨hkept, fun t' => ?_⟩
  obtain ⟨node, r, result⟩ := x
  cases result with
  | error i => exact hQ t'
  | ok answer =>
    intro ended
    apply meets_note
    intro t'' _ _
    cases answer with
    | error f => exact hQ t''
    | ok response =>
      apply meets_observe
      intro u
      apply meets_note
      intro u' _ _
      exact hQ u'

/-! ### Visits in order -/

/-- The node that an attempt begins with: a preferred node leads the first attempt, and later ones
if it is active or no node is. -/
def Leads (s : State) (preferred : Option NodeRef) (attempt : Nat) (node : NodeRef) : Prop :=
  match startOf s preferred attempt with
  | .node r => node = r
  | .oneOf rs => node ∈ rs

structure Orderly (c : Config) (leads : NodeRef → Prop) (vs : List Visit) : Prop where
  first : ∀ v ∈ vs.head?, leads v.contact.node
  apart : (vs.map Visit.address).Nodup
  active : ∀ v ∈ vs.tail, v.contact.node ∈ v.state.pool.active
  refused : ∀ v ∈ vs.dropLast, v.contact.IsRefused
  afforded : ∀ b, c.connectBudget = some b → vs.length ≤ b + 1

structure Turning (c : Config) (leads : NodeRef → Prop) (f : Failover) (s : State)
    (vs : List Visit) : Prop extends Orderly c leads vs where
  tried : f.tried = vs.map Visit.address
  fresh : s.nodes.address f.node ∉ vs.map Visit.address
  failed : ∀ v ∈ vs, v.contact.IsRefused
  budget : f.budget = c.connectBudget.map (· - vs.length)
  room : ∀ b, c.connectBudget = some b → vs.length ≤ b
  next : if vs = [] then leads f.node else f.node ∈ s.pool.active

/-- All nodes that are active have been visited where they are, or as many as the budget allows. -/
def Exhausts (c : Config) (s : State) (vs : List Visit) : Prop :=
  (∃ b, c.connectBudget = some b ∧ vs.length = b + 1) ∨
    ∀ r ∈ s.pool.active, s.nodes.address r ∈ vs.map Visit.address

def attemptPact (c : Config) (leads : NodeRef → Prop) : Pact where
  kept := Orderly c leads
  before := Turning c leads
  after result s vs := (vs = [] → ∃ i : Interrupt, result.1 = .error i.failure) ∧
    ∀ e, result.1 = .error e → e.isConnection = true → Exhausts c s vs

variable {c : Config} {leads : NodeRef → Prop} {f : Failover} {t : State} {v : Visit}

/-- What is left of a budget of which `k` has been spent. -/
theorem spend?_cases {budget : Option Nat} {k : Nat} (hk : ∀ b, budget = some b → k ≤ b) :
    spend? (budget.map (· - k)) = none ∧ budget = some k ∨
      spend? (budget.map (· - k)) = some (budget.map (· - (k + 1))) ∧
        ∀ b, budget = some b → k + 1 ≤ b := by
  cases budget with
  | none => exact Or.inr ⟨rfl, fun b hb => nomatch hb⟩
  | some b =>
    rcases (hk b rfl).eq_or_lt with rfl | hlt
    · refine Or.inl ⟨?_, rfl⟩
      rw [Option.map_some, Nat.sub_self]
      rfl
    · refine Or.inr ⟨?_, fun b' hb' => Option.some.inj hb' ▸ hlt⟩
      rw [Option.map_some, Option.map_some, ← Nat.succ_sub_succ, Nat.succ_sub hlt]
      rfl

theorem orderly_nil : Orderly c leads [] :=
  ⟨fun _ hv => (nomatch hv), List.nodup_nil, fun _ hv => (nomatch hv), fun _ hv => (nomatch hv),
    fun _ _ => Nat.zero_le _⟩

theorem Turning.visit (h : Turning c leads f s vs) (hpool : v.state.pool = s.pool)
    (hnodes : v.state.nodes = s.nodes) (hnode : v.contact.node = f.node) :
    Orderly c leads (vs ++ [v]) := by
  have haddress : v.address = s.nodes.address f.node := by rw [Visit.address, hnodes, hnode]
  refine ⟨?_, ?_, ?_, ?_, ?_⟩
  · cases vs with
    | nil =>
      rintro _ ⟨⟩
      exact hnode ▸ h.next
    | cons u us => exact h.first
  · rw [List.map_append, List.map_singleton, List.nodup_append_comm, List.singleton_append,
      List.nodup_cons, haddress]
    exact ⟨h.fresh, h.apart⟩
  · cases vs with
    | nil => exact fun _ hv => nomatch hv
    | cons u us =>
      intro w hw
      rcases List.mem_append.1 hw with hw | hw
      · exact h.active w hw
      · obtain rfl := List.mem_singleton.1 hw
        rw [hpool, hnode]
        exact h.next
  · rw [List.dropLast_concat]
    exact h.failed
  · intro b hb
    rw [List.length_append]
    exact Nat.succ_le_succ (h.room b hb)

/-- A failover turns to another node that is active and has not been visited. -/
theorem Turning.again (h : Turning c leads f s vs) (hv : Orderly c leads (vs ++ [v]))
    (hrefused : v.contact.IsRefused) (hroom : ∀ b, c.connectBudget = some b → vs.length + 1 ≤ b)
    {node : NodeRef} (hnode : node ∈ t.pool.activeExcluding t.nodes ((vs ++ [v]).map Visit.address))
    (r : Request) (contacted : Nat) :
    Turning c leads
      { request := r, node, tried := (vs ++ [v]).map Visit.address,
        budget := c.connectBudget.map (· - (vs.length + 1)), contacted } t (vs ++ [v]) := by
  obtain ⟨hactive, hfresh⟩ := Pool.mem_activeExcluding.1 hnode
  have hlength : (vs ++ [v]).length = vs.length + 1 := List.length_append
  refine ⟨hv, rfl, hfresh, ?_, ?_, ?_, ?_⟩
  · intro u hu
    rcases List.mem_append.1 hu with hu | hu
    · exact h.failed u hu
    · exact List.mem_singleton.1 hu ▸ hrefused
  · rw [hlength]
  · rw [hlength]
    exact hroom
  · rw [if_neg (List.append_ne_nil_of_right_ne_nil _ (List.cons_ne_nil _ _))]
    exact hactive

def proceed (f : Failover) (tried : List String) : Outcome → Op (Outcome × Nat)
  | .ok response => return (.ok response, f.contacted + 1)
  | .error e =>
    if !e.isConnection then return (.error e, f.contacted + 1)
    else match spend? f.budget with
      | none => return (.error e, f.contacted + 1)
      | some budget => do
        let others ← Op.read fun s => s.pool.activeExcluding s.nodes tried
        match ← Op.oneOf others with
        | none => return (.error e, f.contacted + 1)
        | some node =>
          .failover
            { request := f.request, node, tried, budget, contacted := f.contacted + 1 } .done

theorem failoverStep_eq (c : Config) (f : Failover) :
    failoverStep c f = (do
      let address ← Op.read fun s => s.nodes.address f.node
      let out ← sendOnce c f.node f.request
      proceed f (f.tried ++ [address]) out) := rfl

theorem proceed_meets (h : Turning c leads f s vs) (hv : Orderly c leads (vs ++ [v]))
    (haddress : v.address = s.nodes.address f.node) :
    (proceed f (f.tried ++ [s.nodes.address f.node]) v.contact.outcome).Meets
      (attemptPact c leads) (attemptPact c leads).after t (vs ++ [v]) := by
  have hvisited : vs ++ [v] ≠ [] := List.append_ne_nil_of_right_ne_nil _ (List.cons_ne_nil _ _)
  have htried : f.tried ++ [s.nodes.address f.node] = (vs ++ [v]).map Visit.address := by
    rw [h.tried, List.map_append, List.map_singleton, haddress]
  rw [htried]
  cases hout : v.contact.outcome with
  | ok response => exact ⟨fun hnil => absurd hnil hvisited, fun e he => nomatch he⟩
  | error e =>
    have ended (hexhausts : e.isConnection = true → Exhausts c t (vs ++ [v])) :
        (attemptPact c leads).after (.error e, f.contacted + 1) t (vs ++ [v]) :=
      ⟨fun hnil => absurd hnil hvisited, fun e' he' => Except.error.inj he' ▸ hexhausts⟩
    unfold proceed
    dsimp only
    split_ifs with hconnection
    · refine ended fun he => ?_
      rw [he] at hconnection
      cases hconnection
    · have he : e.isConnection = true := by simpa using hconnection
      rw [h.budget]
      obtain ⟨hspend, hb⟩ | ⟨hspend, hroom⟩ := spend?_cases h.room
      · rw [hspend]
        exact ended fun _ => Or.inl ⟨_, hb, List.length_append⟩
      · rw [hspend]
        dsimp only
        apply Op.meets_read
        refine Op.Meets.bind (Op.meets_oneOf ?_ ?_) fun _ _ _ hnext => hnext
        · intro node hnode
          have hrefused := Contact.isRefused_of_outcome hout he
          exact ⟨h.again hv hrefused hroom hnode _ _, fun result t us hafter => hafter⟩
        · intro hnobody
          refine ended fun _ => Or.inr fun r hr => ?_
          by_contra hnew
          have hother := Pool.mem_activeExcluding.2 ⟨hr, hnew⟩
          rw [hnobody] at hother
          cases hother

theorem failoverStep_meets (h : Turning c leads f s vs) :
    (failoverStep c f).Meets (attemptPact c leads) (attemptPact c leads).after s vs := by
  rw [failoverStep_eq]
  apply Op.meets_read
  refine (meets_sendOnce (Q := fun out t us => (us = vs ∧ ∃ i : Interrupt, out = .error i.failure) ∨
    ∃ v : Visit, us = vs ++ [v] ∧ Orderly c leads us ∧ out = v.contact.outcome ∧
      v.address = s.nodes.address f.node) (fun v hpool hnodes hnode => ?_)
    fun i t => Or.inl ⟨rfl, i, rfl⟩).bind ?_
  · have hvisit := h.visit hpool hnodes hnode
    refine ⟨hvisit, fun t => Or.inr ⟨v, rfl, hvisit, rfl, ?_⟩⟩
    rw [Visit.address, hnodes, hnode]
  · rintro out t us (⟨rfl, i, rfl⟩ | ⟨v, rfl, hvisit, rfl, haddress⟩)
    · unfold proceed
      dsimp only
      rw [if_pos (by rw [Interrupt.isConnection_failure, Bool.not_false])]
      refine ⟨fun _ => ⟨i, rfl⟩, fun e he hconnection => ?_⟩
      obtain rfl := Except.error.inj he
      rw [Interrupt.isConnection_failure] at hconnection
      cases hconnection
    · exact proceed_meets h hvisit haddress

theorem leads_iff {preferred : Option NodeRef} {attempt : Nat} {node : NodeRef} :
    Leads s preferred attempt node ↔ match preferred with
      | some p =>
        if attempt = 0 ∨ s.pool.isActive s.nodes (s.nodes.address p) = true ∨ s.pool.active = []
        then node = p else node ∈ s.pool.active
      | none => node ∈ s.pool.active := by
  unfold Leads startOf
  cases preferred with
  | none => rfl
  | some p =>
    have hat : (s.node p).address = s.nodes.address p := rfl
    by_cases hfirst : attempt = 0 ∨ s.pool.isActive s.nodes (s.nodes.address p) = true
    · simp only [hat, if_pos hfirst, if_pos (or_assoc.1 (Or.inl hfirst))]
    · by_cases hnobody : s.pool.active = []
      · simp only [hat, if_neg hfirst, hnobody, List.isEmpty_nil, or_true, if_true]
      · have hother : ¬(attempt = 0 ∨ s.pool.isActive s.nodes (s.nodes.address p) = true ∨
            s.pool.active = []) := fun h => (or_assoc.2 h).elim hfirst hnobody
        simp only [hat, if_neg hfirst, List.isEmpty_iff, if_neg hnobody, if_neg hother]

theorem nobody_of_startOf {preferred : Option NodeRef} {attempt : Nat}
    (h : startOf s preferred attempt = .oneOf []) : preferred = none ∧ s.pool.active = [] := by
  unfold startOf at h
  cases preferred with
  | none => exact ⟨rfl, Start.oneOf.inj h⟩
  | some p =>
    dsimp only at h
    split_ifs at h with _ hsome
    exact absurd (List.isEmpty_iff.2 (Start.oneOf.inj h)) hsome

theorem tryOnce_meets (r : Request) (attempt contacted : Nat) :
    (tryOnce c r attempt contacted).Meets (attemptPact c (Leads s r.preferred attempt))
      (fun result t vs =>
        (vs = [] → (∃ i : Interrupt, result.1 = .error i.failure) ∨
          result.1 = .error .noActiveNodes ∧ r.preferred = none ∧ s.pool.active = []) ∧
        ∀ e, result.1 = .error e → e.isConnection = true → Exhausts c t vs) s [] := by
  have hselects : (selectNode r.preferred attempt).Meets
      (attemptPact c (Leads s r.preferred attempt))
      (fun choice t us => t = s ∧ us = [] ∧ match choice with
        | some node => Leads s r.preferred attempt node
        | none => r.preferred = none ∧ s.pool.active = []) s [] := by
    unfold selectNode
    apply Op.meets_read
    dsimp only [Leads]
    cases hstart : startOf s r.preferred attempt with
    | node p => exact ⟨rfl, rfl, rfl⟩
    | oneOf rs =>
      refine Op.meets_oneOf (fun node hnode => ⟨rfl, rfl, hnode⟩) fun hnobody => ⟨rfl, rfl, ?_⟩
      exact nobody_of_startOf (hnobody ▸ hstart)
  unfold tryOnce
  refine hselects.bind ?_
  rintro choice t us ⟨rfl, rfl, hchoice⟩
  cases choice with
  | none =>
    refine ⟨fun _ => Or.inr ⟨rfl, hchoice⟩, fun e he hconnection => ?_⟩
    obtain rfl := Except.error.inj he
    cases hconnection
  | some node =>
    refine ⟨?_, fun result t us hafter => ⟨fun hus => Or.inl (hafter.1 hus), hafter.2⟩⟩
    refine ⟨orderly_nil, rfl, List.not_mem_nil, fun v hv => (nomatch hv), ?_,
      fun b _ => Nat.zero_le _, hchoice⟩
    rw [List.length_nil]
    exact (Option.map_id' ..).symm

/-- The visits of an attempt amid any others, at any moment and once it has come to its result. A
preferred node leads the first attempt, and later ones if it is active or no node is. No address is
visited twice, every node but the first was active when it was chosen, and only nodes that cannot be
connected to are given up for another, as many as the budget allows. An attempt that has failed to
connect has visited all nodes that are active now, unless its budget is spent, and an attempt
without any visit was cut short or had no node to visit. As long as the pool is the same the visits
are no more than its active nodes and one, and by itself every attempt comes to a result. -/
theorem attempt_visits (r : Request) (attempt contacted : Nat) {s s₁ : State} {vs : List Visit}
    {op : Op (Outcome × Nat)} (h : (tryOnce c r attempt contacted).Amid c s vs s₁ op) :
    (∀ v ∈ vs.head?, match r.preferred with
      | some p =>
        if attempt = 0 ∨ s.pool.isActive s.nodes (s.nodes.address p) = true ∨ s.pool.active = []
        then v.contact.node = p else v.contact.node ∈ s.pool.active
      | none => v.contact.node ∈ s.pool.active) ∧
    (vs.map Visit.address).Nodup ∧
    (∀ v ∈ vs.tail, v.contact.node ∈ v.state.pool.active) ∧
    (∀ v ∈ vs.dropLast, ∃ e, v.contact.result = .ok (.error e) ∧ e.isConnection = true) ∧
    (∀ b, c.connectBudget = some b → vs.length ≤ b + 1) ∧
    (∀ out n, op = .done (out, n) →
      (vs = [] → (∃ i : Interrupt, out = .error i.failure) ∨
        out = .error .noActiveNodes ∧ r.preferred = none ∧ s.pool.active = []) ∧
      ∀ e, out = .error e → e.isConnection = true →
        (∃ b, c.connectBudget = some b ∧ vs.length = b + 1) ∨
          ∀ q ∈ s₁.pool.active, s₁.nodes.address q ∈ vs.map Visit.address) ∧
    ((∀ v ∈ vs, v.state.pool = s.pool ∧ ∀ q, v.state.nodes.address q = s.nodes.address q) →
      vs.length ≤ s.pool.active.length + 1) ∧
    ∀ (e : Setting) (cancel : Option Time) (w : World), e.config = c →
      ∃ result w₁ us, (∃ n, ∀ fuel ≥ n,
          run e cancel fuel (tryOnce c r attempt contacted) w = some (result, w₁)) ∧
        (tryOnce c r attempt contacted).Amid c w.state us w₁.state (.done result) := by
  obtain ⟨hordered, hends⟩ :=
    (tryOnce_meets r attempt contacted).amid (fun _ _ _ => failoverStep_meets) orderly_nil h
  rw [List.nil_append] at hordered hends
  refine ⟨fun v hv => leads_iff.1 (hordered.first v hv), hordered.apart, hordered.active,
    hordered.refused, hordered.afforded, ?_, fun hfixed => ?_, ?_⟩
  · rintro out n rfl
    exact hends
  · have hvisited : vs.tail.map Visit.address ⊆ s.pool.active.map s.nodes.address := by
      intro a ha
      obtain ⟨v, hv, rfl⟩ := List.mem_map.1 ha
      obtain ⟨hpool, haddress⟩ := hfixed v (List.mem_of_mem_tail hv)
      rw [Visit.address, haddress]
      exact List.mem_map_of_mem (hpool ▸ hordered.active v hv)
    have hapart : (vs.tail.map Visit.address).Nodup :=
      hordered.apart.sublist ((List.tail_sublist vs).map _)
    have hle := (List.subperm_of_subset hapart hvisited).length_le
    rw [List.length_map, List.length_map, List.length_tail] at hle
    omega
  · rintro e cancel w rfl
    obtain ⟨⟨result, w₁⟩, n, hrun⟩ :=
      Op.exists_run_eq e cancel (tryOnce e.config r attempt contacted) w
    obtain ⟨t, hsteps, -⟩ := run_runs (hrun n le_rfl)
    obtain ⟨us, hus, -⟩ := hsteps.amid
    exact ⟨result, w₁, us, ⟨n, hrun⟩, hus⟩

def outsiderStart : State where
  nodes := [{ address := "a" }, { address := "b" }]
  pool := { active := [0] }

def refusal (s : State) (node : NodeRef) (address : String) : Visit where
  state := s
  contact := ⟨node, { path := "/", preferred := some 1 },
    .ok (.error (.connection address "refused"))⟩

/-- While the request waits for the two nodes the client learns of one topology, then another. -/
theorem attempt_visits_of_outsider :
    ∃ vs s₁ e, (tryOnce {} { path := "/", preferred := some 1 } 0 0).Amid {} outsiderStart vs s₁
        (.done (.error e, 2)) ∧
      e.isConnection = true ∧ vs.map Visit.address = ["b", "a"] ∧ (vs.map Visit.address).Nodup ∧
      (∀ v ∈ vs.head?, v.contact.node = 1) ∧
      (∀ q ∈ s₁.pool.active, s₁.nodes.address q ∈ vs.map Visit.address) ∧ vs.length ≤ 2 := by
  have h : (tryOnce {} { path := "/", preferred := some 1 } 0 0).Amid {} outsiderStart
      [refusal outsiderStart 1 "b", refusal (outsiderStart.setTopology "t") 0 "a"]
      (outsiderStart.setTopology "u") (.done (.error (.connection "a" "refused"), 2)) := by
    refine .step _ (.act _ _ _) (fun _ => rfl) ?_
    refine .step _ (.failover _ _ _) (fun _ => rfl) ?_
    refine .step _ (.act _ _ _) (fun _ => rfl) ?_
    refine .step _ (.clock _ 0 _) (fun _ => rfl) ?_
    refine .step (outsiderStart.setTopology "t")
      (.exchange _ (refusal outsiderStart 1 "b").contact _) (fun h => nomatch h) ?_
    refine .step _ (.clock _ 0 _) (fun _ => rfl) ?_
    refine .step _ (.act _ _ _) (fun _ => rfl) ?_
    refine .step _ (.choose _ _ 0 _) (fun _ => rfl) ?_
    refine .step _ (.failover _ _ _) (fun _ => rfl) ?_
    refine .step _ (.act _ _ _) (fun _ => rfl) ?_
    refine .step _ (.clock _ 0 _) (fun _ => rfl) ?_
    refine .step (outsiderStart.setTopology "u")
      (.exchange _ (refusal outsiderStart 0 "a").contact _) (fun h => nomatch h) ?_
    refine .step _ (.clock _ 0 _) (fun _ => rfl) ?_
    refine .step _ (.act _ _ _) (fun _ => rfl) ?_
    exact .refl _ _
  obtain ⟨hfirst, hapart, -, -, -, hends, hfixed, -⟩ := attempt_visits _ 0 0 h
  refine ⟨_, _, _, h, rfl, rfl, hapart, hfirst, ?_, hfixed fun v hv => ?_⟩
  · obtain ⟨b, hb, -⟩ | hall := (hends _ _ rfl).2 _ rfl rfl
    · cases hb
    · exact hall
  · rcases List.mem_cons.1 hv with rfl | hv
    · exact ⟨rfl, fun _ => rfl⟩
    · obtain rfl := List.mem_singleton.1 hv
      exact ⟨rfl, fun _ => rfl⟩

end Client
end MetricRing
