import Mathlib.Tactic.SplitIfs
import MetricRing.Run.Interleaved

/-!
# Operations that stop when they are told to

`op.Obeys D K` says two things of an operation. What it waits for, it waits for under deadlines of
the kind `D`. And as soon as an exchange, a pause or a wait for the lock has been cut short, it has
nothing left to do: it may release the lock, and its result is what `K` says of the interrupt. Of
a failover, whose steps are looked at when it unfolds, the rest has to stop at its failure. All
operations of a client but the start obey every interrupt.
-/

namespace MetricRing

@[simp] theorem Interrupt.isCancellation_failure (i : Interrupt) :
    i.failure.isCancellation = true := by
  cases i <;> rfl

@[simp] theorem Interrupt.isRetryable_failure (i : Interrupt) : i.failure.isRetryable = false := by
  cases i <;> rfl

@[simp] theorem Interrupt.isConnection_failure (i : Interrupt) :
    i.failure.isConnection = false := by
  cases i <;> rfl

namespace Op

variable {α β : Type} {D : Option Time → Prop} {P : α → Prop} {K : Interrupt → α → Prop}
  {L : Interrupt → β → Prop} {op : Op α} {f : α → Op β}

/-- Nothing is left to do but to release the lock. -/
def Quits (P : α → Prop) : Op α → Prop
  | .done a => P a
  | .release next => next.Quits P
  | _ => False

def Obeys (D : Option Time → Prop) (K : Interrupt → α → Prop) : Op α → Prop
  | .done _ => True
  | .act _ next => ∀ s, (next s).Obeys D K
  | .choose n next => ∀ i, (next (i % n)).Obeys D K
  | .clock next => ∀ now, (next now).Obeys D K
  | .exchange _ r next =>
    D r.deadline ∧ (∀ i, (next (.error i)).Quits (K i)) ∧ ∀ result, (next result).Obeys D K
  | .pause deadline _ next =>
    D deadline ∧ (∀ i, (next (.error i)).Quits (K i)) ∧ ∀ result, (next result).Obeys D K
  | .acquire next => (∀ i, (next (.error i)).Quits (K i)) ∧ ∀ result, (next result).Obeys D K
  | .release next => next.Obeys D K
  | .failover g next =>
    D g.request.deadline ∧ (∀ i n, (next (.error i.failure, n)).Quits (K i)) ∧
      ∀ result, (next result).Obeys D K

abbrev Uncut (_ : Interrupt) (_ : α) : Prop := False

theorem Quits.bind {Q : β → Prop} (h : op.Quits P) (hf : ∀ a, P a → (f a).Quits Q) :
    (op >>= f).Quits Q := by
  change (op.bind f).Quits Q
  induction op with
  | done a => exact hf a h
  | release next ih => exact ih h
  | _ => exact h.elim

theorem Obeys.bind (h : op.Obeys D K) (hcut : ∀ i a, K i a → (f a).Quits (L i))
    (hf : ∀ a, (f a).Obeys D L) : (op >>= f).Obeys D L := by
  change (op.bind f).Obeys D L
  induction op with
  | done a => exact hf a
  | act g next ih => exact fun s => ih s (h s)
  | choose n next ih => exact fun i => ih (i % n) (h i)
  | clock next ih => exact fun now => ih now (h now)
  | exchange node r next ih =>
    exact ⟨h.1, fun i => (h.2.1 i).bind (hcut i), fun result => ih result (h.2.2 result)⟩
  | pause deadline delay next ih =>
    exact ⟨h.1, fun i => (h.2.1 i).bind (hcut i), fun result => ih result (h.2.2 result)⟩
  | acquire next ih =>
    exact ⟨fun i => (h.1 i).bind (hcut i), fun result => ih result (h.2 result)⟩
  | release next ih => exact ih h
  | failover g next ih =>
    exact ⟨h.1, fun i n => (h.2.1 i n).bind (hcut i), fun result => ih result (h.2.2 result)⟩

/-- What comes after an operation that nothing can cut short. -/
theorem Obeys.then (h : op.Obeys D Uncut) (hf : ∀ a, (f a).Obeys D L) : (op >>= f).Obeys D L :=
  h.bind (fun _ _ hcut => hcut.elim) hf

theorem obeys_read (g : State → α) : (Op.read g).Obeys D K := fun _ => trivial

theorem obeys_modify (g : State → State) {K : Interrupt → Unit → Prop} :
    (Op.modify g).Obeys D K := fun _ => trivial

theorem obeys_update (g : State → State × α) : (Op.update g).Obeys D K := fun _ => trivial

theorem obeys_oneOf (candidates : List NodeRef) {K : Interrupt → Option NodeRef → Prop} :
    (Op.oneOf candidates).Obeys D K := by
  unfold Op.oneOf
  split_ifs
  · trivial
  · exact fun _ => trivial

end Op

namespace Client

open MetricRing.Topology (Document Member)

variable {α : Type} {c : Config} {D : Option Time → Prop}

-- What a member's address is normalized to does not matter here, and takes long to unfold.
attribute [local irreducible] Address.normalize

abbrev CutBy (i : Interrupt) (result : Except Failure α) : Prop := result = .error i.failure

abbrev AnyTime (_ : Option Time) : Prop := True

/-- Where a cancellation is told from other failures it is passed on. -/
theorem quits_of_cut (i : Interrupt) (rest : Op (Except Failure α)) :
    (if i.failure.isCancellation then return .error i.failure else rest).Quits (CutBy i) := by
  rw [if_pos (Interrupt.isCancellation_failure i)]
  exact rfl

/-! ### Requests -/

def prepared (c : Config) (hook : Option RequestHook) (now : Time) (r : Request) :
    Except Failure Request :=
  match hook with
  | none => .ok (withHint c r now)
  | some hook =>
    match hook (withHint c r now) with
    | .ok r => .ok r
    | .error m => .error (.hook m)

theorem prepare_eq (c : Config) (r : Request) :
    prepare c r = .clock fun now => .act id fun s => .done (prepared c s.hook now r) := by
  refine congrArg Op.clock (funext fun now => congrArg (Op.act id) (funext fun s => ?_))
  dsimp only [Op.bind, prepared]
  cases s.hook with
  | none => rfl
  | some hook =>
    dsimp only
    cases hook (withHint c r now) <;> rfl

theorem obeys_note (setting : Option String) (path : String) (event : State → Event) :
    (note setting path event).Obeys D Op.Uncut := by
  unfold note
  split_ifs
  · exact Op.obeys_modify _
  · trivial

theorem obeys_observe (node : NodeRef) (headers : Headers) :
    (observe node headers).Obeys D Op.Uncut := by
  unfold observe
  split
  · trivial
  · apply (Op.obeys_read _).then
    intro own
    dsimp only
    split_ifs
    · exact (Op.obeys_modify _).then fun _ => Op.obeys_modify _
    · exact Op.obeys_modify _

theorem obeys_prepare (r : Request) : (prepare c r).Obeys D Op.Uncut := by
  rw [prepare_eq]
  exact fun now s => trivial

theorem obeys_sendOnce (node : NodeRef) {r : Request} (hr : D r.deadline) :
    (sendOnce c node r).Obeys D CutBy := by
  unfold sendOnce
  apply (obeys_note _ _ _).then
  intro _ started
  refine ⟨hr, fun i => rfl, fun result => ?_⟩
  cases result with
  | error i => trivial
  | ok answer =>
    intro ended
    apply (obeys_note _ _ _).then
    intro _
    cases answer with
    | error f => trivial
    | ok response =>
      apply (obeys_observe node response.headers).then
      intro _
      apply (obeys_note _ _ _).then
      intro _
      trivial

theorem obeys_nodeRequest (node : NodeRef) (r : Request) :
    (nodeRequest c node r).Obeys AnyTime CutBy := by
  unfold nodeRequest
  apply (obeys_prepare r).then
  intro prepared
  cases prepared with
  | error f => trivial
  | ok r => exact obeys_sendOnce node trivial

theorem obeys_selectNode (preferred : Option NodeRef) (attempt : Nat) :
    (selectNode preferred attempt).Obeys D Op.Uncut := by
  unfold selectNode
  apply (Op.obeys_read _).then
  intro start
  cases start with
  | node r => trivial
  | oneOf rs => exact Op.obeys_oneOf rs

/-- A node that was cut off is not taken for one that cannot be reached. -/
theorem obeys_failoverStep {f : Failover} (hf : D f.request.deadline) :
    (failoverStep c f).Obeys D fun i result => CutBy i result.1 := by
  unfold failoverStep
  apply (Op.obeys_read _).then
  intro address
  refine (obeys_sendOnce f.node hf).bind ?_ fun outcome => ?_
  · rintro i _ rfl
    simp only [Interrupt.isConnection_failure]
    exact rfl
  · cases outcome with
    | ok response => trivial
    | error e =>
      dsimp only
      split_ifs
      · trivial
      · split
        · trivial
        · apply (Op.obeys_read _).then
          intro others
          apply (Op.obeys_oneOf others).then
          intro choice
          cases choice with
          | none => trivial
          | some node => exact ⟨hf, fun i n => rfl, fun _ => trivial⟩

theorem obeys_tryOnce {r : Request} (hr : D r.deadline) (attempt contacted : Nat) :
    (tryOnce c r attempt contacted).Obeys D fun i result => CutBy i result.1 := by
  unfold tryOnce
  apply (obeys_selectNode _ _).then
  intro node
  cases node with
  | none => trivial
  | some node => exact ⟨hr, fun i n => rfl, fun _ => trivial⟩

/-- A request that was cut short is not retried. -/
theorem obeys_retry {r : Request} (hr : D r.deadline) (left attempt contacted : Nat)
    (last : Failure) : (retry c r left attempt contacted last).Obeys D CutBy := by
  induction left generalizing attempt contacted last with
  | zero => trivial
  | succ left ih =>
    unfold retry
    refine ⟨hr, fun i => rfl, fun result => ?_⟩
    cases result with
    | error i => trivial
    | ok _ =>
      refine (obeys_tryOnce hr attempt contacted).bind ?_ ?_
      · rintro i ⟨_, n⟩ rfl
        simp only [Interrupt.isRetryable_failure]
        exact rfl
      · rintro ⟨outcome, n⟩
        cases outcome with
        | ok response => trivial
        | error e =>
          dsimp only
          split_ifs
          · exact ih ..
          · trivial

def sendPrepared (c : Config) (r : Request) : Op Outcome := do
  let (outcome, contacted) ← tryOnce c r 0 0
  match outcome with
  | .ok response => return .ok response
  | .error e =>
    if e.isRetryable then retry c r (RetryPolicy.ofConfig c).retries 1 contacted e
    else return .error e

theorem obeys_sendPrepared {r : Request} (hr : D r.deadline) :
    (sendPrepared c r).Obeys D CutBy := by
  unfold sendPrepared
  refine (obeys_tryOnce hr 0 0).bind ?_ ?_
  · rintro i ⟨_, n⟩ rfl
    simp only [Interrupt.isRetryable_failure]
    exact rfl
  · rintro ⟨outcome, n⟩
    cases outcome with
    | ok response => trivial
    | error e =>
      dsimp only
      split_ifs
      · exact obeys_retry hr ..
      · trivial

theorem obeys_request (r : Request) : (request c r).Obeys AnyTime CutBy := by
  unfold request
  apply (obeys_prepare r).then
  intro prepared
  cases prepared with
  | error f => trivial
  | ok r => exact obeys_sendPrepared (c := c) (r := r) trivial

/-! ### What nodes report -/

theorem obeys_fetchState (node : NodeRef) : (fetchState c node).Obeys AnyTime CutBy := by
  unfold fetchState
  refine (obeys_nodeRequest node _).bind (fun i a ha => ha ▸ rfl) fun out => ?_
  cases out <;> trivial

theorem obeys_fetchGossip (node : NodeRef) : (fetchGossip c node).Obeys AnyTime CutBy := by
  unfold fetchGossip
  refine (obeys_nodeRequest node _).bind (fun i a ha => ha ▸ rfl) fun out => ?_
  cases out <;> trivial

theorem obeys_fetchDocument (node : NodeRef) (hash : String) :
    (fetchDocument c node hash).Obeys AnyTime CutBy := by
  unfold fetchDocument
  refine (obeys_nodeRequest node _).bind (fun i a ha => ha ▸ rfl) fun out => ?_
  cases out <;> trivial

/-! ### Topologies -/

theorem obeys_compile (d : Document) (hash : String) : (compile d hash).Obeys D Op.Uncut :=
  fun _ => trivial

theorem obeys_loadFrom (node : NodeRef) (hash : String) :
    (loadFrom c node hash).Obeys AnyTime CutBy := by
  unfold loadFrom
  refine (obeys_fetchDocument node hash).bind (fun i a ha => ha ▸ rfl) fun document => ?_
  cases document with
  | error f => trivial
  | ok d => exact fun _ => trivial

theorem obeys_loadFirst (wanted : String) (nodes : List NodeRef) (failures : List Failure) :
    (loadFirst c wanted nodes failures).Obeys AnyTime CutBy := by
  induction nodes generalizing failures with
  | nil => trivial
  | cons node rest ih =>
    unfold loadFirst
    apply (Op.obeys_read _).then
    intro own
    dsimp only
    generalize (if wanted = "" then own else wanted) = hash
    split_ifs
    · exact ih failures
    · refine (obeys_loadFrom node hash).bind ?_ fun loaded => ?_
      · rintro i _ rfl
        exact quits_of_cut i _
      · cases loaded with
        | ok ring => exact (Op.obeys_update _).then fun _ => trivial
        | error f =>
          dsimp only
          split_ifs
          · trivial
          · exact ih _

theorem obeys_loadLocked : (loadLocked c).Obeys AnyTime CutBy := by
  unfold loadLocked
  apply (Op.obeys_read _).then
  intro compiled
  cases compiled with
  | some compiled => trivial
  | none =>
    apply (Op.obeys_read _).then
    intro wanted
    apply (Op.obeys_read _).then
    exact fun nodes => obeys_loadFirst wanted nodes []

theorem obeys_topology : (topology c).Obeys AnyTime CutBy := by
  unfold topology
  apply (Op.obeys_read _).then
  intro compiled
  cases compiled with
  | some compiled => trivial
  | none =>
    refine ⟨fun i => rfl, fun result => ?_⟩
    cases result with
    | error i => trivial
    | ok _ => exact obeys_loadLocked.bind (fun i a ha => ha) fun _ => trivial

theorem obeys_locate (owner metric : String) : (locate c owner metric).Obeys AnyTime CutBy := by
  unfold locate
  refine obeys_topology.bind (fun i a ha => ha ▸ rfl) fun compiled => ?_
  cases compiled <;> trivial

theorem obeys_activeNode (ids : List String) : (activeNode ids).Obeys D Op.Uncut := by
  unfold activeNode
  apply (Op.obeys_read _).then
  rintro ⟨preferred, active⟩
  cases preferred with
  | some r => trivial
  | none => exact Op.obeys_oneOf active

theorem obeys_preferredNode (owner metric : String) :
    (preferredNode c owner metric).Obeys AnyTime CutBy := by
  unfold preferredNode
  refine obeys_topology.bind (fun i a ha => ha ▸ rfl) fun compiled => ?_
  cases compiled with
  | error f => trivial
  | ok compiled =>
    dsimp only
    split
    · trivial
    · exact (obeys_activeNode _).then fun _ => trivial

theorem obeys_metricRequest (owner metric : String) (r : Request) :
    (metricRequest c owner metric r).Obeys AnyTime CutBy := by
  unfold metricRequest
  split_ifs
  · exact obeys_request r
  · refine (obeys_preferredNode owner metric).bind ?_ fun node => ?_
    · rintro i _ rfl
      exact quits_of_cut i _
    · cases node with
      | ok node => exact obeys_request _
      | error f =>
        dsimp only
        split_ifs
        · trivial
        · exact obeys_request r

/-! ### Discovery -/

theorem obeys_knownHash (node : NodeRef) : (knownHash c node).Obeys AnyTime CutBy := by
  unfold knownHash
  apply (Op.obeys_read _).then
  intro hash
  split_ifs
  · trivial
  · refine (obeys_fetchState node).bind (fun i a ha => ha ▸ rfl) fun report => ?_
    cases report with
    | error f => trivial
    | ok report => exact fun _ _ => trivial

theorem obeys_firstDocument (nodes : List NodeRef) (failures : List Failure) :
    (firstDocument c nodes failures).Obeys AnyTime CutBy := by
  induction nodes generalizing failures with
  | nil => trivial
  | cons node rest ih =>
    unfold firstDocument
    refine (obeys_knownHash node).bind ?_ fun hash => ?_
    · rintro i _ rfl
      exact quits_of_cut i _
    · cases hash with
      | error f =>
        dsimp only
        split_ifs
        · trivial
        · exact ih _
      | ok hash =>
        dsimp only
        split_ifs
        · exact ih failures
        · refine (obeys_fetchDocument node hash).bind ?_ fun document => ?_
          · rintro i _ rfl
            exact quits_of_cut i _
          · cases document with
            | ok d => trivial
            | error f =>
              dsimp only
              split_ifs
              · trivial
              · exact ih _

theorem obeys_mergeMember (m : Member) : (mergeMember c m).Obeys AnyTime CutBy := by
  unfold mergeMember
  split
  · trivial
  · apply (Op.obeys_update _).then
    intro made
    cases made with
    | none => trivial
    | some node =>
      refine (obeys_fetchState node).bind ?_ fun report => ?_
      · rintro i _ rfl
        exact quits_of_cut i _
      · cases report with
        | ok report => exact fun _ _ => trivial
        | error f =>
          dsimp only
          split_ifs <;> trivial

theorem obeys_mergeAll (members : List Member) (tally : Tally) :
    (mergeAll c members tally).Obeys AnyTime CutBy := by
  induction members generalizing tally with
  | nil => trivial
  | cons m rest ih =>
    unfold mergeAll
    refine (obeys_mergeMember m).bind ?_ fun merged => ?_
    · rintro i _ rfl
      simp only [cancellation?, Interrupt.isCancellation_failure]
      exact rfl
    · split
      · trivial
      · exact ih _

theorem obeys_installDocument (d : Document) (hash : String) :
    (installDocument d hash).Obeys D Op.Uncut := by
  unfold installDocument
  apply (obeys_compile d hash).then
  intro compiled
  cases compiled with
  | ok ring => exact fun _ => trivial
  | error f => trivial

theorem obeys_discover : (discover c).Obeys AnyTime CutBy := by
  unfold discover
  apply (Op.obeys_read _).then
  intro nodes
  refine (obeys_firstDocument nodes []).bind (fun i a ha => ha ▸ rfl) fun found => ?_
  cases found with
  | error f => trivial
  | ok found =>
    obtain ⟨source, d⟩ := found
    apply (Op.obeys_read _).then
    intro hash
    refine (obeys_mergeAll d.members {}).bind (fun i a ha => ha ▸ rfl) fun tally => ?_
    cases tally with
    | error f => trivial
    | ok tally =>
      apply (obeys_installDocument d hash).then
      intro failures
      dsimp only
      split_ifs <;> trivial

/-! ### Health -/

theorem obeys_checkGossip (node : NodeRef) : (checkGossip c node).Obeys AnyTime CutBy := by
  unfold checkGossip
  refine (obeys_fetchGossip node).bind ?_ fun entries => ?_
  · rintro i _ rfl
    exact quits_of_cut i _
  · cases entries with
    | error f =>
      dsimp only
      split_ifs <;> trivial
    | ok entries => exact fun _ => trivial

/-- A node whose check was cut short is not taken for one that is not healthy. -/
theorem obeys_isHealthy (node : NodeRef) : (isHealthy c node).Obeys AnyTime CutBy := by
  unfold isHealthy
  apply (Op.obeys_read _).then
  intro id
  split_ifs
  · exact obeys_checkGossip node
  · refine (obeys_fetchState node).bind ?_ fun report => ?_
    · rintro i _ rfl
      exact quits_of_cut i _
    · cases report with
      | error f =>
        dsimp only
        split_ifs <;> trivial
      | ok report => exact (Op.obeys_modify _).then fun _ => obeys_checkGossip node

theorem obeys_checkInactive (nodes : List NodeRef) :
    (checkInactive c nodes).Obeys AnyTime fun _ complete => complete = false := by
  induction nodes with
  | nil => trivial
  | cons node rest ih =>
    unfold checkInactive
    refine (obeys_isHealthy node).bind (fun i a ha => ha ▸ rfl) fun healthy => ?_
    cases healthy with
    | error f => trivial
    | ok healthy =>
      dsimp only
      split_ifs
      · exact (Op.obeys_modify _).then fun _ => (Op.obeys_modify _).then fun _ => ih
      · exact (Op.obeys_modify _).then fun _ => ih

theorem obeys_checkActive (nodes : List NodeRef) :
    (checkActive c nodes).Obeys AnyTime fun _ _ => True := by
  induction nodes with
  | nil => trivial
  | cons node rest ih =>
    unfold checkActive
    refine (obeys_isHealthy node).bind (fun i a ha => ha ▸ trivial) fun healthy => ?_
    cases healthy with
    | error f => trivial
    | ok healthy =>
      dsimp only
      split_ifs
      · exact (Op.obeys_modify _).then fun _ => (Op.obeys_modify _).then fun _ => ih
      · exact (Op.obeys_modify _).then fun _ => ih

theorem obeys_discoverBefore :
    (discoverBefore c).Obeys AnyTime fun _ goesOn => goesOn = false := by
  unfold discoverBefore
  split_ifs
  · refine obeys_discover.bind ?_ fun _ => trivial
    rintro i _ rfl
    cases i <;> rfl
  · trivial

theorem obeys_checkNodes : (checkNodes c).Obeys AnyTime fun _ _ => True := by
  unfold checkNodes
  refine obeys_discoverBefore.bind (fun i a ha => ha ▸ trivial) fun goesOn => ?_
  split_ifs
  · apply (Op.obeys_read _).then
    intro inactive
    refine (obeys_checkInactive inactive).bind (fun i a ha => ha ▸ trivial) fun complete => ?_
    split_ifs
    · exact (Op.obeys_read _).then fun active => obeys_checkActive active
    · trivial
  · trivial

end Client
end MetricRing
