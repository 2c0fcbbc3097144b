import MetricRing.Proofs.TopologyLoading

/-!
# What calm runs return

If nothing is cut short and nobody answers that it was, then no operation reports that it was, with
the requests that the hook lets out without a deadline. `op.Gives P K` says so of an operation, by
recursion on it: it sends requests of the kind `P` only, it waits under no deadline, and its result
is of the kind `K` as long as all that it is told is calm.
-/

namespace MetricRing

open Client (KeepsDeadlines)

variable {α β : Type} {e : Setting} {cancel : Option Time}

namespace Op

variable {P : Request → Prop} {K : α → Prop} {L : β → Prop} {op : Op α} {f : α → Op β}

def Gives (P : Request → Prop) (K : α → Prop) : Op α → Prop
  | .done a => K a
  | .act f next => ∀ s, KeepsDeadlines s.hook → (f s).hook = s.hook ∧ (next s).Gives P K
  | .choose n next => ∀ i, (next (i % n)).Gives P K
  | .clock next => ∀ now, (next now).Gives P K
  | .exchange _ r next => P r ∧ ∀ answer, IsCalm answer → (next (.ok answer)).Gives P K
  | .pause deadline _ next => deadline = none ∧ (next (.ok ())).Gives P K
  | .acquire next => (next (.ok ())).Gives P K
  | .release next => next.Gives P K
  | .failover f next => P f.request ∧ ∀ out n, IsCalm out → (next (out, n)).Gives P K

theorem Gives.bind (h : op.Gives P K) (hf : ∀ a, K a → (f a).Gives P L) :
    (op >>= f).Gives P L := by
  change (op.bind f).Gives P L
  induction op with
  | done a => exact hf a h
  | act g next ih => exact fun s hs => ⟨(h s hs).1, ih s (h s hs).2⟩
  | choose n next ih => exact fun i => ih (i % n) (h i)
  | clock next ih => exact fun now => ih now (h now)
  | exchange node r next ih => exact ⟨h.1, fun answer ha => ih _ (h.2 answer ha)⟩
  | pause deadline delay next ih => exact ⟨h.1, ih _ h.2⟩
  | acquire next ih => exact ih _ h
  | release next ih => exact ih h
  | failover g next ih => exact ⟨h.1, fun out n ho => ih _ (h.2 out n ho)⟩

/-- What nobody sees sends nothing, and within what leaves the hook alone it does nothing else. -/
theorem gives_of_isQuiet (hq : op.IsQuiet) (ha : op.Acts State.Steady) :
    op.Gives P fun _ => True := by
  induction op with
  | done a => trivial
  | act g next ih => exact fun s _ => ⟨(ha s).1.hook, ih s (hq s) (ha s).2⟩
  | choose n next ih => exact fun i => ih (i % n) (hq i) (ha i)
  | clock next ih => exact fun now => ih now (hq now) (ha now)
  | exchange node r next ih => exact hq.elim
  | pause deadline delay next ih => exact hq.elim
  | acquire next ih => exact ih _ (hq _) (ha _)
  | release next ih => exact ih hq ha
  | failover g next ih => exact hq.elim

theorem gives_read (g : State → α) : (Op.read g).Gives P fun _ => True := fun _ _ => ⟨rfl, trivial⟩

theorem gives_modify {g : State → State} (hg : ∀ s, (g s).hook = s.hook) :
    (Op.modify g).Gives P fun _ => True := fun s _ => ⟨hg s, trivial⟩

theorem gives_update {g : State → State × α} (hg : ∀ s, (g s).1.hook = s.hook) :
    (Op.update g).Gives P fun _ => True := fun s _ => ⟨hg s, trivial⟩

end Op

theorem isCalm_normalize (text : String) : IsCalm (Address.normalize text) := by
  unfold Address.normalize
  dsimp only
  split
  · exact isCalm_error rfl
  · split_ifs
    · exact isCalm_error rfl
    · exact isCalm_error rfl
    · exact isCalm_ok _

namespace Client

open MetricRing.Topology (Document Member)

-- What a member's address is normalized to does not matter here, and takes long to unfold.
attribute [local irreducible] Address.normalize

variable {P : Request → Prop} {c : Config}

abbrev Untimed (r : Request) : Prop := r.deadline = none

/-! ### Requests -/

theorem gives_note (setting : Option String) (path : String) (event : State → Event) :
    (note setting path event).Gives P fun _ => True :=
  Op.gives_of_isQuiet (isQuiet_note ..) (acts_note ..)

theorem gives_observe (node : NodeRef) (headers : Headers) :
    (observe node headers).Gives P fun _ => True :=
  Op.gives_of_isQuiet (isQuiet_observe ..) (acts_observe ..)

theorem gives_oneOf (candidates : List NodeRef) : (Op.oneOf candidates).Gives P fun _ => True :=
  Op.gives_of_isQuiet (isQuiet_oneOf _) (Op.acts_oneOf _)

theorem isCalm_judge (response : Response) : IsCalm (judge response) :=
  isCalm_judged (isCalm_ok response)

theorem gives_receive (node : NodeRef) (r : Request) (started : Time) {answer : Outcome}
    (h : IsCalm answer) : (receive c node r started answer).Gives P IsCalm := by
  unfold receive
  intro ended
  apply (gives_note _ _ _).bind
  intro _ _
  cases answer with
  | error f => exact isCalm_error (h f rfl)
  | ok response =>
    apply (gives_observe node response.headers).bind
    intro _ _
    apply (gives_note _ _ _).bind
    exact fun _ _ => isCalm_judge response

theorem gives_sendOnce (node : NodeRef) {r : Request} (hr : P r) :
    (sendOnce c node r).Gives P IsCalm := by
  rw [sendOnce_eq]
  apply (gives_note _ _ _).bind
  exact fun _ _ started => ⟨hr, fun answer ha => gives_receive node r started ha⟩

def IsUntimed (prepared : Except Failure Request) : Prop :=
  IsCalm prepared ∧ ∀ r, prepared = .ok r → Untimed r

theorem gives_prepare {r : Request} (hr : Untimed r) : (prepare c r).Gives P IsUntimed := by
  rw [prepare_eq]
  exact fun now s hs =>
    ⟨rfl, isCalm_prepared _ _ _ _, fun sent hsent => (hs.deadline_eq hsent).trans hr⟩

theorem gives_nodeRequest (node : NodeRef) {r : Request} (hr : Untimed r) :
    (nodeRequest c node r).Gives Untimed IsCalm := by
  unfold nodeRequest
  apply (gives_prepare hr).bind
  rintro prepared ⟨hcalm, huntimed⟩
  cases prepared with
  | error f => exact isCalm_error (hcalm f rfl)
  | ok sent => exact gives_sendOnce node (huntimed sent rfl)

theorem gives_selectNode (preferred : Option NodeRef) (attempt : Nat) :
    (selectNode preferred attempt).Gives P fun _ => True := by
  unfold selectNode
  apply (Op.gives_read _).bind
  intro start _
  cases start with
  | node r => trivial
  | oneOf rs => exact gives_oneOf rs

theorem gives_failoverStep {f : Failover} (hf : P f.request) :
    (failoverStep c f).Gives P fun result => IsCalm result.1 := by
  unfold failoverStep
  apply (Op.gives_read _).bind
  intro address _
  apply (gives_sendOnce f.node hf).bind
  intro outcome houtcome
  cases outcome with
  | ok response => exact isCalm_ok response
  | error g =>
    have hg : IsCalm (.error g : Outcome) := isCalm_error (houtcome g rfl)
    dsimp only
    split_ifs
    · exact hg
    · split
      · exact hg
      · apply (Op.gives_read _).bind
        intro others _
        apply (gives_oneOf others).bind
        intro choice _
        cases choice with
        | none => exact hg
        | some node => exact ⟨hf, fun out n hout => hout⟩

theorem gives_tryOnce {r : Request} (hr : P r) (attempt contacted : Nat) :
    (tryOnce c r attempt contacted).Gives P fun result => IsCalm result.1 := by
  unfold tryOnce
  apply (gives_selectNode _ _).bind
  intro node _
  cases node with
  | none => exact isCalm_error rfl
  | some node => exact ⟨hr, fun out n hout => hout⟩

theorem gives_retry {r : Request} (hr : P r) (huntimed : Untimed r) (left attempt contacted : Nat)
    (last : Failure) : (retry c r left attempt contacted last).Gives P IsCalm := by
  induction left generalizing attempt contacted last with
  | zero => exact isCalm_error rfl
  | succ left ih =>
    unfold retry
    refine ⟨huntimed, ?_⟩
    apply (gives_tryOnce hr attempt contacted).bind
    rintro ⟨outcome, n⟩ houtcome
    cases outcome with
    | ok response => exact isCalm_ok response
    | error f =>
      dsimp only
      split_ifs
      · exact ih ..
      · exact isCalm_error (houtcome f rfl)

theorem gives_sendPrepared {r : Request} (hr : P r) (huntimed : Untimed r) :
    (sendPrepared c r).Gives P IsCalm := by
  unfold sendPrepared
  apply (gives_tryOnce hr 0 0).bind
  rintro ⟨outcome, n⟩ houtcome
  cases outcome with
  | ok response => exact isCalm_ok response
  | error f =>
    dsimp only
    split_ifs
    · exact gives_retry hr huntimed ..
    · exact isCalm_error (houtcome f rfl)

/-! ### What nodes report -/

theorem gives_fetchState (node : NodeRef) : (fetchState c node).Gives Untimed IsCalm := by
  unfold fetchState
  apply (gives_nodeRequest node rfl).bind
  intro out hout
  cases out with
  | error f => exact isCalm_error (hout f rfl)
  | ok response => exact isCalm_nodeState _

theorem gives_fetchDocument (node : NodeRef) (hash : String) :
    (fetchDocument c node hash).Gives Untimed IsCalm := by
  unfold fetchDocument
  apply (gives_nodeRequest node rfl).bind
  intro out hout
  cases out with
  | error f => exact isCalm_error (hout f rfl)
  | ok response => exact isCalm_readDocument _

/-! ### Topologies -/

/-- Several failures as one are no cancellation, if they are none. -/
theorem isCalm_combine {failures : List Failure} (h : ∀ f ∈ failures, f.isCancellation = false) :
    IsCalm (.error (Failure.combine failures .noActiveNodes) : Except Failure α) := by
  refine isCalm_error ?_
  match failures with
  | [] => rfl
  | [f] => exact h f (List.mem_singleton_self f)
  | _ :: _ :: _ => rfl

theorem gives_loadFrom (node : NodeRef) (hash : String) :
    (loadFrom c node hash).Gives Untimed IsCalm := by
  unfold loadFrom
  apply (gives_fetchDocument node hash).bind
  intro document hdocument
  cases document with
  | error f => exact isCalm_error (hdocument f rfl)
  | ok d => exact fun _ _ => ⟨rfl, isCalm_compileDocument d hash⟩

theorem gives_loadFirst (wanted : String) (nodes : List NodeRef) {failures : List Failure}
    (h : ∀ f ∈ failures, f.isCancellation = false) :
    (loadFirst c wanted nodes failures).Gives Untimed IsCalm := by
  induction nodes generalizing failures with
  | nil => exact isCalm_combine h
  | cons node rest ih =>
    rw [loadFirst_cons]
    apply (Op.gives_read _).bind
    intro hash _
    split_ifs
    · exact ih h
    · apply (gives_loadFrom node hash).bind
      intro loaded hloaded
      cases loaded with
      | ok ring => exact (Op.gives_update fun _ => rfl).bind fun _ _ => isCalm_ok _
      | error f =>
        have hf : f.isCancellation = false := hloaded f rfl
        dsimp only
        rw [if_neg (Bool.eq_false_iff.1 hf)]
        exact ih (List.forall_mem_append.2 ⟨h, List.forall_mem_singleton.2 hf⟩)

theorem gives_topology : (topology c).Gives Untimed IsCalm := by
  have locked : (loadLocked c).Gives Untimed IsCalm := by
    unfold loadLocked
    apply (Op.gives_read _).bind
    intro compiled _
    cases compiled with
    | some compiled => exact isCalm_ok _
    | none =>
      apply (Op.gives_read _).bind
      intro wanted _
      apply (Op.gives_read _).bind
      exact fun nodes _ => gives_loadFirst wanted nodes (List.forall_mem_nil _)
  unfold topology
  apply (Op.gives_read _).bind
  intro compiled _
  cases compiled with
  | some compiled => exact isCalm_ok _
  | none => exact locked.bind fun _ hloaded => hloaded

/-! ### Discovery -/

theorem gives_knownHash (node : NodeRef) : (knownHash c node).Gives Untimed IsCalm := by
  unfold knownHash
  apply (Op.gives_read _).bind
  intro hash _
  split_ifs
  · exact isCalm_ok _
  · apply (gives_fetchState node).bind
    intro report hreport
    cases report with
    | error f => exact isCalm_error (hreport f rfl)
    | ok report =>
      apply (Op.gives_modify fun _ => rfl).bind
      intro _ _
      exact (Op.gives_read _).bind fun _ _ => isCalm_ok _

theorem gives_firstDocument (nodes : List NodeRef) {failures : List Failure}
    (h : ∀ f ∈ failures, f.isCancellation = false) :
    (firstDocument c nodes failures).Gives Untimed IsCalm := by
  induction nodes generalizing failures with
  | nil => exact isCalm_combine h
  | cons node rest ih =>
    have hnext {f : Failure} (hf : f.isCancellation = false) :
        (if f.isCancellation then return .error f
          else firstDocument c rest (failures ++ [f])).Gives Untimed IsCalm := by
      rw [if_neg (Bool.eq_false_iff.1 hf)]
      exact ih (List.forall_mem_append.2 ⟨h, List.forall_mem_singleton.2 hf⟩)
    unfold firstDocument
    apply (gives_knownHash node).bind
    intro known hknown
    cases known with
    | error f => exact hnext (hknown f rfl)
    | ok hash =>
      dsimp only
      split_ifs
      · exact ih h
      · apply (gives_fetchDocument node hash).bind
        intro document hdocument
        cases document with
        | ok d => exact isCalm_ok _
        | error f => exact hnext (hdocument f rfl)

theorem gives_welcome (node : NodeRef) (report : NodeState) :
    (welcome node report).Gives P fun _ => True := by
  unfold welcome
  exact (Op.gives_modify fun _ => rfl).bind fun _ _ => Op.gives_modify fun _ => rfl

theorem hook_merge (s : State) (id address : String) : (s.merge id address).1.hook = s.hook := by
  unfold State.merge State.rename State.nameUnnamed State.relocate
  split
  · split_ifs <;> rfl
  · rfl

theorem gives_mergeMember (m : Member) : (mergeMember c m).Gives Untimed IsCalm := by
  unfold mergeMember
  split
  next f hf => exact isCalm_error (isCalm_normalize _ f hf)
  next address _ =>
    apply (Op.gives_update fun s => hook_merge s m.id address).bind
    intro added _
    cases added with
    | none => exact isCalm_ok _
    | some node =>
      apply (gives_fetchState node).bind
      intro report hreport
      cases report with
      | ok report => exact (gives_welcome node report).bind fun _ _ => isCalm_ok _
      | error f =>
        dsimp only
        rw [if_neg (Bool.eq_false_iff.1 (hreport f rfl))]
        exact isCalm_ok _

theorem cancellation?_of_isCalm {α : Type} {result : Except Failure α} (h : IsCalm result) :
    cancellation? result = none := by
  cases result with
  | ok a => rfl
  | error f => exact if_neg (Bool.eq_false_iff.1 (h f rfl))

theorem gives_mergeAll (members : List Member) (tally : Tally) :
    (mergeAll c members tally).Gives Untimed fun result => ∃ tally, result = .ok tally := by
  induction members generalizing tally with
  | nil => exact ⟨tally, rfl⟩
  | cons m rest ih =>
    unfold mergeAll
    apply (gives_mergeMember m).bind
    intro merged hmerged
    rw [cancellation?_of_isCalm hmerged]
    exact ih _

theorem gives_installDocument (d : Document) (hash : String) :
    (installDocument d hash).Gives P fun _ => True := by
  have hcompiles : (compile d hash).Gives P fun _ => True := fun _ _ => ⟨rfl, trivial⟩
  unfold installDocument
  apply hcompiles.bind
  intro compiled _
  cases compiled with
  | ok ring => exact (Op.gives_update fun _ => rfl).bind fun _ _ => trivial
  | error f => trivial

theorem gives_discover : (discover c).Gives Untimed IsCalm := by
  unfold discover
  apply (Op.gives_read _).bind
  intro nodes _
  apply (gives_firstDocument nodes (List.forall_mem_nil _)).bind
  intro found hfound
  cases found with
  | error f => exact isCalm_error (hfound f rfl)
  | ok found =>
    obtain ⟨source, d⟩ := found
    apply (Op.gives_read _).bind
    intro hash _
    apply (gives_mergeAll d.members {}).bind
    rintro _ ⟨tally, rfl⟩
    apply (gives_installDocument d hash).bind
    intro failures _
    dsimp only
    split_ifs
    · exact isCalm_error rfl
    · exact isCalm_ok _

end Client

/-- What an operation gives it brings in every run that nothing disturbs. -/
theorem Op.Ends.gives {P : Request → Prop} {K : α → Prop} {op : Op α} {w w₁ : World} {a : α}
    {t : List Mark} (h : op.Ends e cancel w a w₁ t) (hop : op.Gives P K)
    (hP : ∀ r, P r → Client.Untimed r) (hserene : Serene e cancel w.state) :
    K a ∧ Calm t ∧ (∀ x ∈ exchanges t, P x.request) ∧ w₁.state.hook = w.state.hook := by
  induction h with
  | done a w => exact ⟨hop, calm_nil, List.forall_mem_nil _, rfl⟩
  | @act _ f next w _ _ _ _ ih =>
    obtain ⟨hhook, hnext⟩ := hop w.state hserene.untimed
    obtain ⟨ha, hcalm, hsent, hkept⟩ := ih hnext (hserene.of_hook hhook)
    exact ⟨ha, calm_cons.2 ⟨trivial, hcalm⟩, hsent, hkept.trans hhook⟩
  | choose _ ih => exact ih (hop _) hserene
  | clock _ ih => exact ih (hop _) hserene
  | barred hb _ _ =>
    rw [hserene.uncancelled, hP _ hop.1] at hb
    cases hb
  | @exchange _ node r next w _ _ _ _ _ ih =>
    have hanswer : w.answer e cancel node r = .ok (w.reply e node r) :=
      hserene.uncancelled ▸ w.answer_undisturbed (hP _ hop.1)
    rw [hanswer] at ih ⊢
    obtain ⟨ha, hcalm, hsent, hkept⟩ := ih (hop.2 _ (hserene.calm _ _)) (hserene.of_hook rfl)
    exact ⟨ha, calm_cons.2 ⟨hserene.calm _ _, hcalm⟩, List.forall_mem_cons.2 ⟨hop.1, hsent⟩, hkept⟩
  | pause hsettled _ ih =>
    rw [hserene.uncancelled, hop.1] at hsettled
    obtain ⟨rfl, rfl⟩ := Prod.mk.inj hsettled
    obtain ⟨ha, hcalm, hsent, hkept⟩ := ih hop.2 (hserene.of_hook rfl)
    exact ⟨ha, calm_cons.2 ⟨trivial, hcalm⟩, hsent, hkept⟩
  | @acquire _ next w _ _ _ _ ih =>
    have hfree : isPast cancel w.now = false := hserene.uncancelled ▸ rfl
    rw [hfree] at ih
    exact ih hop hserene
  | release _ ih => exact ih hop hserene
  | failover _ _ ihfirst ihrest =>
    obtain ⟨hresult, hcalm, hsent, hkept⟩ := ihfirst (Client.gives_failoverStep hop.1) hserene
    obtain ⟨ha, hcalm', hsent', hkept'⟩ := ihrest (hop.2 _ _ hresult) (hserene.of_hook hkept)
    rw [exchanges_append]
    exact ⟨ha, calm_append.2 ⟨hcalm, hcalm'⟩, List.forall_mem_append.2 ⟨hsent, hsent'⟩,
      hkept'.trans hkept⟩

end MetricRing
