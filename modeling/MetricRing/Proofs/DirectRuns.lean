import MetricRing.Proofs.Obedience
import MetricRing.Proofs.PoolMoves
import MetricRing.Proofs.TimedRuns

/-!
# Runs without failover, and why all runs end

`op.Acts R` says that every section of an operation moves the state within `R` and that the
operation makes no failover. Such an operation ends, and the whole run is within `R`. An exchange
with one node leaves the members of the pool with the ids and addresses that they have, and so
does the loading of a topology. So a failover has fewer nodes left after each exchange, and every
run ends.
-/

namespace MetricRing

variable {α β : Type} {e : Setting} {cancel : Option Time}

namespace Op

variable {R : State → State → Prop} {P : α → Prop} {op : Op α} {w w₁ : World} {a : α}
  {t : List Mark}

def Acts (R : State → State → Prop) : Op α → Prop
  | .done _ => True
  | .act f next => ∀ s, R s (f s) ∧ (next s).Acts R
  | .choose n next => ∀ i, (next (i % n)).Acts R
  | .clock next => ∀ now, (next now).Acts R
  | .exchange _ _ next => ∀ result, (next result).Acts R
  | .pause _ _ next => ∀ result, (next result).Acts R
  | .acquire next => ∀ result, (next result).Acts R
  | .release next => next.Acts R
  | .failover _ _ => False

theorem Acts.bind {f : α → Op β} (h : op.Acts R) (hf : ∀ a, (f a).Acts R) : (op >>= f).Acts R := by
  change (op.bind f).Acts R
  induction op with
  | done a => exact hf a
  | act g next ih => exact fun s => ⟨(h s).1, ih s (h s).2⟩
  | choose n next ih => exact fun i => ih (i % n) (h i)
  | clock next ih => exact fun now => ih now (h now)
  | exchange node r next ih => exact fun result => ih result (h result)
  | pause deadline delay next ih => exact fun result => ih result (h result)
  | acquire next ih => exact fun result => ih result (h result)
  | release next ih => exact ih h
  | failover f next ih => exact h.elim

theorem acts_read [Std.Refl R] (g : State → α) : (Op.read g).Acts R := fun s => ⟨refl s, trivial⟩

theorem acts_modify {f : State → State} (h : ∀ s, R s (f s)) : (Op.modify f).Acts R :=
  fun s => ⟨h s, trivial⟩

theorem acts_update {f : State → State × α} (h : ∀ s, R s (f s).1) : (Op.update f).Acts R :=
  fun s => ⟨h s, trivial⟩

theorem acts_oneOf (candidates : List NodeRef) : (Op.oneOf candidates).Acts R := by
  unfold Op.oneOf
  split_ifs
  · trivial
  · exact fun _ => trivial

theorem Ends.within [IsPreorder State R] (h : op.Ends e cancel w a w₁ t) (hop : op.Acts R) :
    R w.state w₁.state := by
  induction h with
  | done a w => exact refl _
  | act _ ih => exact IsTrans.trans _ _ _ (hop _).1 (ih (hop _).2)
  | choose _ ih => exact ih (hop _)
  | clock _ ih => exact ih (hop _)
  | barred _ _ ih => exact ih (hop _)
  | exchange _ _ ih => exact ih (hop _)
  | pause _ _ ih => exact ih (hop _)
  | acquire _ ih => exact ih (hop _)
  | release _ ih => exact ih hop
  | failover _ _ _ _ => exact hop.elim

/-! ### Coming to an end -/

def Halts (e : Setting) (cancel : Option Time) (op : Op α) (w : World) : Prop :=
  ∃ a w₁ t, op.Ends e cancel w a w₁ t

theorem halts_done (a : α) (w : World) : (Op.done a).Halts e cancel w := ⟨a, w, [], .done a w⟩

theorem Ends.halts_bind {f : α → Op β} (h : op.Ends e cancel w a w₁ t)
    (hf : (f a).Halts e cancel w₁) : (op >>= f).Halts e cancel w := by
  obtain ⟨b, w₂, t', ht⟩ := hf
  exact ⟨b, w₂, _, h.bind ht⟩

theorem halts_read {g : State → β} {f : β → Op α} (h : (f (g w.state)).Halts e cancel w) :
    (Op.read g >>= f).Halts e cancel w :=
  Ends.halts_bind (.act (.done (g w.state) w)) h

theorem halts_failover {f : Failover} (h : (Client.failoverStep e.config f).Halts e cancel w) :
    (Op.failover f .done).Halts e cancel w := by
  obtain ⟨result, w₁, t, ht⟩ := h
  exact ⟨result, w₁, _, .failover ht (.done _ _)⟩

/-- An operation ends if it makes no failover, or if all failovers do. -/
theorem halts_of (hop : op.Acts R ∨ ∀ f w, (Client.failoverStep e.config f).Halts e cancel w)
    (w : World) : op.Halts e cancel w := by
  induction op generalizing w with
  | done a => exact halts_done a w
  | act f next ih =>
    obtain ⟨a, w₁, t, ht⟩ := ih w.state (hop.imp_left fun h => (h _).2)
      { w with state := f w.state }
    exact ⟨a, w₁, _, .act ht⟩
  | choose n next ih =>
    obtain ⟨a, w₁, t, ht⟩ := ih (e.pick w.picks % n) (hop.imp_left fun h => h _)
      { w with picks := w.picks + 1 }
    exact ⟨a, w₁, t, .choose ht⟩
  | clock next ih =>
    obtain ⟨a, w₁, t, ht⟩ := ih w.now (hop.imp_left fun h => h _) w
    exact ⟨a, w₁, t, .clock ht⟩
  | exchange node r next ih =>
    cases hb : barrier? cancel r.deadline w.now with
    | some i =>
      obtain ⟨a, w₁, t, ht⟩ := ih (.error i) (hop.imp_left fun h => h _) w
      exact ⟨a, w₁, _, .barred hb ht⟩
    | none =>
      obtain ⟨a, w₁, t, ht⟩ := ih (w.answer e cancel node r) (hop.imp_left fun h => h _)
        (w.after e cancel node r)
      exact ⟨a, w₁, _, .exchange hb ht⟩
  | pause deadline delay next ih =>
    obtain ⟨a, w₁, t, ht⟩ := ih (settle cancel deadline w.now (w.now + delay)).1
      (hop.imp_left fun h => h _)
      { w with now := (settle cancel deadline w.now (w.now + delay)).2 }
    exact ⟨a, w₁, _, .pause rfl ht⟩
  | acquire next ih =>
    obtain ⟨a, w₁, t, ht⟩ := ih _ (hop.imp_left fun h => h _) w
    exact ⟨a, w₁, t, .acquire ht⟩
  | release next ih =>
    obtain ⟨a, w₁, t, ht⟩ := ih hop w
    exact ⟨a, w₁, t, .release ht⟩
  | failover f next ih =>
    obtain h | h := hop
    · exact h.elim
    · obtain ⟨r, w₁, t, ht⟩ := h f w
      obtain ⟨a, w₂, t', ht'⟩ := ih r (Or.inr h) w₁
      exact ⟨a, w₂, _, .failover ht ht'⟩

/-- What quits ends at once. -/
theorem Quits.ends (h : op.Quits P) (w : World) : ∃ a, P a ∧ op.Ends e cancel w a w [] := by
  induction op with
  | done a => exact ⟨a, h, .done a w⟩
  | release next ih =>
    obtain ⟨a, ha, hnext⟩ := ih h
    exact ⟨a, ha, .release hnext⟩
  | _ => exact h.elim

theorem Quits.of_ends (hop : op.Quits P) (h : op.Ends e cancel w a w₁ t) :
    P a ∧ w₁ = w ∧ t = [] := by
  obtain ⟨b, hb, hends⟩ := hop.ends w
  obtain ⟨rfl, rfl, rfl⟩ := h.unique hends
  exact ⟨hb, rfl, rfl⟩

end Op

/-! ### Exchanges with one node -/

namespace State

structure Steady (s t : State) : Prop where
  pool : t.pool = s.pool
  hook : t.hook = s.hook
  made : t.nodes.length = s.nodes.length
  named : ∀ r, (t.node r).id = (s.node r).id
  placed : ∀ r, t.nodes.address r = s.nodes.address r

instance : IsPreorder State Steady where
  refl _ := ⟨rfl, rfl, rfl, fun _ => rfl, fun _ => rfl⟩
  trans _ _ _ h h' := ⟨h'.pool.trans h.pool, h'.hook.trans h.hook, h'.made.trans h.made,
    fun r => (h'.named r).trans (h.named r), fun r => (h'.placed r).trans (h.placed r)⟩

theorem steady_of_eq {s t : State} (hp : t.pool = s.pool) (hh : t.hook = s.hook)
    (hn : t.nodes = s.nodes) : s.Steady t := by
  refine ⟨hp, hh, congrArg List.length hn, fun r => ?_, fun r => ?_⟩
  · rw [node, node, hn]
  · rw [hn]

theorem steady_setTopology (s : State) (hash : String) : s.Steady (s.setTopology hash) := by
  unfold setTopology
  dsimp only
  split_ifs
  · exact refl s
  · exact steady_of_eq rfl rfl rfl

theorem steady_announce (s : State) (r : NodeRef) (hash : String) :
    s.Steady (s.updateNode r (·.setCurrentTopology hash)) := by
  refine ⟨rfl, rfl, Directory.length_update .., fun q => ?_, fun q => ?_⟩
  · exact s.nodes.update_keeps Node.id (f := fun n => n.setCurrentTopology hash) (fun _ => rfl) r q
  · exact s.nodes.update_keeps Node.address (f := fun n => n.setCurrentTopology hash)
      (fun _ => rfl) r q

/-- What the exchanges of a client do to its state is within `R`: they record events and take over
announced topologies. -/
class Tolerates (R : State → State → Prop) : Prop where
  record : ∀ (s : State) (x : Event), R s (s.record x)
  announce : ∀ (s : State) (r : NodeRef) (hash : String),
    R s (s.updateNode r (·.setCurrentTopology hash))
  setTopology : ∀ (s : State) (hash : String), R s (s.setTopology hash)

instance : Tolerates Steady where
  record _ _ := steady_of_eq rfl rfl rfl
  announce := steady_announce
  setTopology := steady_setTopology

/-- The active nodes at none of these addresses are the same. -/
theorem Steady.activeExcluding_eq {s t : State} (h : s.Steady t) (tried : List String) :
    t.pool.activeExcluding t.nodes tried = s.pool.activeExcluding s.nodes tried := by
  have hplaced (a : String) (r : NodeRef) :
      Pool.hasAddress t.nodes a r = Pool.hasAddress s.nodes a r := by
    rw [Bool.eq_iff_iff, Pool.hasAddress_iff, Pool.hasAddress_iff, h.placed r]
  unfold Pool.activeExcluding
  simp only [h.pool, hplaced]

end State

namespace Client

open MetricRing.Topology (Document Ring)
open State (Steady Tolerates)

section Exchanges

variable {R : State → State → Prop} [IsPreorder State R] [Tolerates R]

omit [IsPreorder State R] in
theorem acts_note (setting : Option String) (path : String) (event : State → Event) :
    (note setting path event).Acts R := by
  unfold note
  split_ifs
  · exact Op.acts_modify fun s => Tolerates.record s _
  · trivial

theorem acts_observe (node : NodeRef) (headers : Headers) :
    (observe node headers).Acts R := by
  unfold observe
  split
  · trivial
  · apply (Op.acts_read _).bind
    intro own
    dsimp only
    split_ifs
    · apply (Op.acts_modify fun s => Tolerates.announce s node _).bind
      exact fun _ => Op.acts_modify fun s => Tolerates.setTopology s _
    · exact Op.acts_modify fun s => Tolerates.setTopology s _

theorem acts_sendOnce (c : Config) (node : NodeRef) (r : Request) :
    (sendOnce c node r).Acts R := by
  unfold sendOnce
  apply (acts_note _ _ _).bind
  intro _ now result
  cases result with
  | error i => trivial
  | ok answer =>
    intro ended
    apply (acts_note _ _ _).bind
    intro _
    cases answer with
    | error f => trivial
    | ok response =>
      apply (acts_observe node response.headers).bind
      intro _
      apply (acts_note _ _ _).bind
      intro _
      trivial

omit [Tolerates R] in
theorem acts_prepare (c : Config) (r : Request) : (prepare c r).Acts R := by
  rw [prepare_eq]
  exact fun now s => ⟨refl s, trivial⟩

theorem acts_nodeRequest (c : Config) (node : NodeRef) (r : Request) :
    (nodeRequest c node r).Acts R := by
  unfold nodeRequest
  apply (acts_prepare c r).bind
  intro prepared
  cases prepared with
  | error f => trivial
  | ok r => exact acts_sendOnce c node r

theorem acts_fetchState (c : Config) (node : NodeRef) : (fetchState c node).Acts R := by
  unfold fetchState
  apply (acts_nodeRequest c node _).bind
  intro result
  cases result <;> trivial

theorem acts_fetchGossip (c : Config) (node : NodeRef) : (fetchGossip c node).Acts R := by
  unfold fetchGossip
  apply (acts_nodeRequest c node _).bind
  intro result
  cases result <;> trivial

theorem acts_fetchDocument (c : Config) (node : NodeRef) (hash : String) :
    (fetchDocument c node hash).Acts R := by
  unfold fetchDocument
  apply (acts_nodeRequest c node _).bind
  intro result
  cases result <;> trivial

end Exchanges

/-! ### Topologies -/

theorem acts_compile (d : Document) (hash : String) : (compile d hash).Acts Steady :=
  fun _ => ⟨State.steady_of_eq rfl rfl rfl, trivial⟩

theorem acts_install (ring : Ring) : (Op.update fun s => s.install ring).Acts Steady :=
  Op.acts_update fun _ => State.steady_of_eq rfl rfl rfl

theorem acts_loadFrom (c : Config) (node : NodeRef) (hash : String) :
    (loadFrom c node hash).Acts Steady := by
  unfold loadFrom
  apply (acts_fetchDocument c node hash).bind
  intro document
  cases document with
  | error f => trivial
  | ok d => exact acts_compile d hash

theorem acts_loadFirst (c : Config) (wanted : String) (nodes : List NodeRef)
    (failures : List Failure) : (loadFirst c wanted nodes failures).Acts Steady := by
  induction nodes generalizing failures with
  | nil => trivial
  | cons node rest ih =>
    unfold loadFirst
    apply (Op.acts_read _).bind
    intro own
    dsimp only
    generalize (if wanted = "" then own else wanted) = hash
    split_ifs
    · exact ih failures
    · apply (acts_loadFrom c node hash).bind
      intro result
      cases result with
      | ok ring => exact (acts_install ring).bind fun _ => trivial
      | error f =>
        dsimp only
        split_ifs
        · trivial
        · exact ih _

theorem acts_topology (c : Config) : (topology c).Acts Steady := by
  have locked : (loadLocked c).Acts Steady := by
    unfold loadLocked
    apply (Op.acts_read _).bind
    intro compiled
    cases compiled with
    | some compiled => trivial
    | none =>
      apply (Op.acts_read _).bind
      intro wanted
      apply (Op.acts_read _).bind
      exact fun nodes => acts_loadFirst c wanted nodes []
  unfold topology
  apply (Op.acts_read _).bind
  intro compiled
  cases compiled with
  | some compiled => trivial
  | none =>
    intro result
    cases result with
    | error i => trivial
    | ok _ => exact locked.bind fun _ => trivial

theorem acts_preferredNode (c : Config) (owner metric : String) :
    (preferredNode c owner metric).Acts Steady := by
  unfold preferredNode
  apply (acts_topology c).bind
  intro compiled
  cases compiled with
  | error f => trivial
  | ok compiled =>
    dsimp only
    split
    · trivial
    next ids _ =>
      refine Op.Acts.bind ?_ fun _ => trivial
      unfold activeNode
      apply (Op.acts_read _).bind
      rintro ⟨preferred, active⟩
      cases preferred with
      | some r => trivial
      | none => exact Op.acts_oneOf active

/-! ### Failovers -/

/-- The nodes that a failover may still turn to after its next exchange. -/
def untried (s : State) (f : Failover) : List NodeRef :=
  s.pool.activeExcluding s.nodes (f.tried ++ [(s.node f.node).address])

theorem length_activeExcluding_lt {d : Directory} {p : Pool} {tried : List String} {r : NodeRef}
    (hr : r ∈ p.activeExcluding d tried) :
    (p.activeExcluding d (tried ++ [d.address r])).length < (p.activeExcluding d tried).length := by
  have hfilter : p.activeExcluding d (tried ++ [d.address r]) =
      (p.activeExcluding d tried).filter fun q => !Pool.hasAddress d (d.address r) q := by
    simp only [Pool.activeExcluding, List.any_append, List.any_cons, List.any_nil, Bool.or_false,
      Bool.not_or, List.filter_filter, Bool.and_comm]
  rw [hfilter, List.length_filter_lt_length_iff_exists]
  refine ⟨r, hr, ?_⟩
  rw [Pool.hasAddress_iff.2 rfl]
  exact Bool.false_ne_true

theorem mem_of_oneOf {candidates : List NodeRef} {w w₁ : World} {node : NodeRef} {t : List Mark}
    (h : (Op.oneOf candidates).Ends e cancel w (some node) w₁ t) :
    node ∈ candidates ∧ w₁.state = w.state := by
  unfold Op.oneOf at h
  split_ifs at h
  · cases h
  · cases h with
    | choose rest =>
      obtain ⟨hchosen, rfl, -⟩ := rest.of_done
      exact ⟨List.mem_of_getElem? hchosen.symm, rfl⟩

theorem oneOf_halts (candidates : List NodeRef) (w : World) :
    (Op.oneOf candidates).Halts e cancel w :=
  Op.halts_of (Or.inl (Op.acts_oneOf (R := State.Steady) candidates)) w

/-- Each exchange leaves fewer nodes to turn to. -/
theorem failoverStep_halts {n : Nat} {f : Failover} {w : World}
    (hn : (untried w.state f).length < n) : (failoverStep e.config f).Halts e cancel w := by
  induction n generalizing f w with
  | zero => exact absurd hn (Nat.not_lt_zero _)
  | succ n ih =>
    unfold failoverStep
    apply Op.halts_read
    have hsends : (sendOnce e.config f.node f.request).Halts e cancel w :=
      Op.halts_of (R := State.Steady) (Or.inl (acts_sendOnce ..)) w
    obtain ⟨outcome, w₁, t, ht⟩ := hsends
    have hsteady : w.state.Steady w₁.state := ht.within (acts_sendOnce ..)
    refine ht.halts_bind ?_
    cases outcome with
    | ok response => exact Op.halts_done _ _
    | error failure =>
      dsimp only
      split_ifs
      · exact Op.halts_done _ _
      · split
        · exact Op.halts_done _ _
        · apply Op.halts_read
          obtain ⟨choice, w₂, t', ht'⟩ := oneOf_halts (e := e) (w₁.state.pool.activeExcluding
            w₁.state.nodes (f.tried ++ [(w.state.node f.node).address])) w₁
          refine ht'.halts_bind ?_
          cases choice with
          | none => exact Op.halts_done _ _
          | some node =>
            obtain ⟨hnode, hstate⟩ := mem_of_oneOf ht'
            rw [hsteady.activeExcluding_eq] at hnode
            have hfewer := length_activeExcluding_lt hnode
            rw [← hsteady.placed node, ← hsteady.activeExcluding_eq, ← hstate] at hfewer
            exact Op.halts_failover (ih (lt_of_lt_of_le hfewer (Nat.le_of_lt_succ hn)))

theorem failover_halts (f : Failover) (w : World) : (failoverStep e.config f).Halts e cancel w :=
  failoverStep_halts (Nat.lt_succ_self _)

end Client

/-- Every operation comes to an end. -/
theorem Op.halts (e : Setting) (cancel : Option Time) (op : Op α) (w : World) :
    op.Halts e cancel w :=
  Op.halts_of (R := State.Steady) (Or.inr Client.failover_halts) w

/-- With fuel enough every operation is computed. -/
theorem Op.exists_run_eq (e : Setting) (cancel : Option Time) (op : Op α) (w : World) :
    ∃ x n, ∀ fuel ≥ n, run e cancel fuel op w = some x := by
  obtain ⟨a, w₁, t, h⟩ := op.halts e cancel w
  exact ⟨(a, w₁), h.run_eq⟩

end MetricRing
