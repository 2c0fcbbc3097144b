import MetricRing.Proofs.DiscoveryFrame

/-!
# Starting from the seeds

A client that starts asks each of its seeds for its state, once and in the order of the
configuration, however often and in whatever spelling a seed is listed. Those that report themselves
are active from then on, and the others are inactive. So the start fails only if no seed reports
itself, and then with the failures of all of them: what discovery finds afterwards, or fails to
find, leaves the active nodes active.
-/

namespace MetricRing

open MetricRing.Topology (Ring)

variable {e : Setting} {cancel : Option Time} {given : Ring → Prop}

/-! ### Probes -/

structure Probe where
  node : NodeRef
  exchange : Exchange
  answer : Outcome

namespace Probe

def contact (p : Probe) : Contact := ⟨p.node, p.exchange.request, .ok p.answer⟩

def address (p : Probe) : String := p.exchange.node

def verdict (p : Probe) : Except Failure NodeState := do
  let response ← Client.judged p.answer
  NodeState.parse response.body

def succeeds (p : Probe) : Bool := p.verdict.isOk

def failure? (p : Probe) : Option Failure :=
  match p.verdict with
  | .ok _ => none
  | .error f => some f

theorem succeeds_of_verdict {p : Probe} {report : NodeState} (h : p.verdict = .ok report) :
    p.succeeds = true := by
  rw [succeeds, h]
  rfl

theorem verdict_of_fails {p : Probe} (h : p.succeeds = false) : ∃ f, p.verdict = .error f := by
  unfold succeeds at h
  cases hverdict : p.verdict with
  | ok report =>
    rw [hverdict] at h
    cases h
  | error f => exact ⟨f, rfl⟩

/-- A probe succeeds if the answer is a success that says who the node is. -/
theorem succeeds_iff {p : Probe} : p.succeeds = true ↔ ∃ response report, p.answer = .ok response ∧
    response.isSuccess = true ∧ NodeState.parse response.body = .ok report := by
  have hverdict : p.succeeds = true ↔ ∃ report, p.verdict = .ok report := by
    refine ⟨fun h => ?_, fun ⟨report, h⟩ => succeeds_of_verdict h⟩
    cases hp : p.verdict with
    | ok report => exact ⟨report, rfl⟩
    | error f =>
      rw [succeeds, hp] at h
      cases h
  rw [hverdict, exists_comm]
  simp only [verdict, bind_eq_ok_iff, Client.judged_eq_ok_iff, and_assoc]

theorem outcome_contact (p : Probe) : p.contact.outcome = Client.judged p.answer := by
  unfold contact Contact.outcome
  cases p.answer <;> rfl

/-- No node reports by itself that there are no active nodes. -/
theorem verdict_eq_noActiveNodes_iff {p : Probe} :
    p.verdict = .error .noActiveNodes ↔ p.answer = .error .noActiveNodes := by
  constructor
  · intro h
    unfold verdict Client.judged at h
    cases hanswer : p.answer with
    | error f =>
      rw [hanswer] at h
      cases h
      rfl
    | ok response =>
      rw [hanswer] at h
      dsimp only [Client.judge] at h
      split_ifs at h
      · change NodeState.parse response.body = _ at h
        unfold NodeState.parse NodeState.ofValue at h
        dsimp only at h
        split at h
        · split_ifs at h
          cases h
        · cases h
      · cases h
  · intro h
    rw [verdict, h]
    rfl

end Probe

def Mark.probe? : Mark → Option Probe
  | .exchange node x (.ok answer) _ => some ⟨node, x, answer⟩
  | _ => none

/-- The exchanges of a run that were answered, in order. -/
def probesIn (t : List Mark) : List Probe := t.filterMap Mark.probe?

theorem probesIn_append (t t' : List Mark) : probesIn (t ++ t') = probesIn t ++ probesIn t' :=
  List.filterMap_append

/-- In a calm run every exchange was answered. -/
theorem probesIn_of_calm {t : List Mark} (h : Calm t) :
    (probesIn t).map Probe.exchange = exchanges t ∧
      (probesIn t).map Probe.contact = contactsIn t := by
  induction t with
  | nil => exact ⟨rfl, rfl⟩
  | cons m rest ih =>
    obtain ⟨hm, hrest⟩ := calm_cons.1 h
    obtain ⟨hexchanges, hcontacts⟩ := ih hrest
    cases m with
    | exchange node x result ended =>
      cases result with
      | error i => exact hm.elim
      | ok answer =>
        exact ⟨congrArg (x :: ·) hexchanges,
          congrArg (Contact.mk node x.request (.ok answer) :: ·) hcontacts⟩
    | _ => exact ⟨hexchanges, hcontacts⟩

theorem probesIn_of_isQuiet {α : Type} {op : Op α} {w w₁ : World} {a : α} {t : List Mark}
    (hop : op.IsQuiet) (h : op.Ends e cancel w a w₁ t) : probesIn t = [] :=
  List.map_eq_nil_iff.1 ((probesIn_of_calm (hop.calm h)).1.trans (hop.ends h).2)

/-! ### Configurations -/

namespace Config

variable {c : Config}

theorem length_normalizeAll {texts addresses : List String}
    (h : normalizeAll texts = .ok addresses) : addresses.length = texts.length := by
  induction texts generalizing addresses with
  | nil =>
    cases h
    rfl
  | cons text rest ih =>
    unfold normalizeAll at h
    split at h
    · cases h
    · split at h
      · cases h
      next others hothers =>
        cases h
        exact congrArg (· + 1) (ih hothers)

/-- A valid configuration lists some seed, and addresses only. -/
theorem serverAddresses_of_validate (h : c.validate = .ok ()) :
    ∃ addresses, c.serverAddresses = .ok addresses ∧ addresses ≠ [] := by
  unfold validate at h
  simp only [bind_eq_ok_iff] at h
  obtain ⟨-, -, -, -, -, -, hservers⟩ := h
  unfold checkServers at hservers
  split_ifs at hservers with hsome
  split at hservers
  · cases hservers
  next addresses haddresses =>
    refine ⟨addresses, haddresses, ?_⟩
    rintro rfl
    exact hsome (List.isEmpty_iff_length_eq_zero.2 (length_normalizeAll haddresses).symm)

end Config

/-! ### Seeds in the pool -/

namespace State

variable {s : State} {address : String} {node : NodeRef}

theorem seed_of_none (h : (s.seed address).2 = none) :
    (s.seed address).1 = s ∧ address ∈ s.poolAddresses := by
  unfold State.seed at h ⊢
  split at h
  next r hr =>
    refine ⟨rfl, ?_⟩
    by_contra hnot
    cases hr.symm.trans (Pool.findByAddress_eq_none_iff.2 hnot)
  · cases h

/-- A seed that is not known yet gets a new node, which is inactive at first. -/
theorem Distinct.seed_of_some (hs : s.Distinct) (h : (s.seed address).2 = some node) :
    node = s.nodes.length ∧ address ∉ s.poolAddresses ∧
      (s.seed address).1.hook = s.hook ∧
      (s.seed address).1.nodes = s.nodes ++ [({ address } : Node)] ∧
      (s.seed address).1.pool = ⟨s.pool.active, s.pool.inactive ++ [node]⟩ := by
  unfold State.seed at h ⊢
  split at h
  · cases h
  next hnone =>
    cases h
    have hfree := Pool.findByAddress_eq_none_iff.1 hnone
    exact ⟨rfl, hfree, rfl, rfl, hs.pool_addNode (n := { address }) hfree⟩

end State

namespace Client

variable {c : Config} {w w₁ : World} {t t' : List Mark} {node : NodeRef}

def stateRequest (c : Config) : Request := withHint c (Request.get "/state") 0

/-- Seeds were asked for their states, and nobody else for anything. They came behind the active
nodes or behind the inactive ones as they answered, and all nodes stay where they are. -/
structure Seeds (c : Config) (t : List Mark) (s s' : State) (ps : List Probe) : Prop where
  calm : Calm t
  probes : probesIn t = ps
  hook : s'.hook = s.hook
  asked : ∀ p ∈ ps, p.exchange.request = stateRequest c
  active : s'.pool.active = s.pool.active ++ (ps.filter Probe.succeeds).map Probe.node
  inactive : s'.pool.inactive = s.pool.inactive ++
    (ps.filter fun p => !p.succeeds).map Probe.node
  made : s.nodes.length ≤ s'.nodes.length
  kept : ∀ r < s.nodes.length, s'.nodes.address r = s.nodes.address r
  placed : ∀ p ∈ ps, p.node < s'.nodes.length ∧ s'.nodes.address p.node = p.address

section Seeding

variable {s s₁ s₂ : State} {ps ps' : List Probe}

theorem Seeds.refl (c : Config) (s : State) : Seeds c [] s s [] :=
  ⟨calm_nil, rfl, rfl, List.forall_mem_nil _, (List.append_nil _).symm, (List.append_nil _).symm,
    le_rfl, fun _ _ => rfl, List.forall_mem_nil _⟩

theorem Seeds.trans (h : Seeds c t s s₁ ps) (h' : Seeds c t' s₁ s₂ ps') :
    Seeds c (t ++ t') s s₂ (ps ++ ps') where
  calm := calm_append.2 ⟨h.calm, h'.calm⟩
  probes := by rw [probesIn_append, h.probes, h'.probes]
  hook := h'.hook.trans h.hook
  asked := List.forall_mem_append.2 ⟨h.asked, h'.asked⟩
  active := by
    rw [h'.active, h.active, List.append_assoc, List.filter_append, List.map_append]
  inactive := by
    rw [h'.inactive, h.inactive, List.append_assoc, List.filter_append, List.map_append]
  made := h.made.trans h'.made
  kept r hr := (h'.kept r (hr.trans_le h.made)).trans (h.kept r hr)
  placed := by
    refine List.forall_mem_append.2 ⟨fun p hp => ?_, h'.placed⟩
    obtain ⟨hmade, haddress⟩ := h.placed p hp
    exact ⟨hmade.trans_le h'.made, (h'.kept p.node hmade).trans haddress⟩

theorem Seeds.mem_members (h : Seeds c t s s₁ ps) (r : NodeRef) :
    r ∈ s₁.pool.members ↔ r ∈ s.pool.members ∨ ∃ p ∈ ps, p.node = r := by
  simp only [Pool.members, h.active, h.inactive, List.mem_append, List.mem_map, List.mem_filter,
    Bool.not_eq_true']
  constructor
  · rintro ((hr | ⟨p, hp, hnode⟩) | hr | ⟨p, hp, hnode⟩)
    · exact Or.inl (Or.inl hr)
    · exact Or.inr ⟨p, hp.1, hnode⟩
    · exact Or.inl (Or.inr hr)
    · exact Or.inr ⟨p, hp.1, hnode⟩
  · rintro ((hr | hr) | ⟨p, hp, hnode⟩)
    · exact Or.inl (Or.inl hr)
    · exact Or.inr (Or.inl hr)
    · cases hsucceeds : p.succeeds with
      | true => exact Or.inl (Or.inr ⟨p, ⟨hp, hsucceeds⟩, hnode⟩)
      | false => exact Or.inr (Or.inr ⟨p, ⟨hp, hsucceeds⟩, hnode⟩)

/-- The addresses in the pool are the old ones and those of the seeds. -/
theorem Seeds.mem_poolAddresses (h : Seeds c t s s₁ ps) (hs : s.Distinct) (a : String) :
    a ∈ s₁.poolAddresses ↔ a ∈ s.poolAddresses ∨ a ∈ ps.map Probe.address := by
  unfold State.poolAddresses
  simp only [List.mem_map, h.mem_members]
  constructor
  · rintro ⟨r, hr | ⟨p, hp, rfl⟩, ha⟩
    · exact Or.inl ⟨r, hr, (h.kept r (hs.made r hr)).symm.trans ha⟩
    · exact Or.inr ⟨p, hp, (h.placed p hp).2.symm.trans ha⟩
  · rintro (⟨r, hr, ha⟩ | ⟨p, hp, ha⟩)
    · exact ⟨r, Or.inl hr, (h.kept r (hs.made r hr)).trans ha⟩
    · exact ⟨p.node, Or.inr ⟨p, hp, rfl⟩, (h.placed p hp).2.trans ha⟩

/-- One seed that was new to the pool. -/
theorem Seeds.single {p : Probe} (hs : s.Distinct) (hseeded : (s.seed p.address).2 = some p.node)
    (hcalm : Calm t) (hprobes : probesIn t = [p])
    (hasked : p.exchange.request = stateRequest c) (hhook : s₁.hook = (s.seed p.address).1.hook)
    (hmade : s₁.nodes.length = (s.seed p.address).1.nodes.length)
    (hplaced : ∀ r, s₁.nodes.address r = (s.seed p.address).1.nodes.address r)
    (hpool : s₁.pool = if p.succeeds then ⟨s.pool.active ++ [p.node], s.pool.inactive⟩
      else ⟨s.pool.active, s.pool.inactive ++ [p.node]⟩) : Seeds c t s s₁ [p] := by
  obtain ⟨hnode, -, hkept, hnodes, -⟩ := hs.seed_of_some hseeded
  have hlength : s₁.nodes.length = s.nodes.length + 1 := by
    rw [hmade, hnodes, List.length_append]
    rfl
  refine ⟨hcalm, hprobes, hhook.trans hkept, List.forall_mem_singleton.2 hasked, ?_, ?_,
    hlength ▸ Nat.le_succ _, fun r hr => ?_, List.forall_mem_singleton.2 ⟨?_, ?_⟩⟩
  · rw [hpool]
    cases hp : p.succeeds <;> simp [hp]
  · rw [hpool]
    cases hp : p.succeeds <;> simp [hp]
  · rw [hplaced, hnodes]
    exact congrArg Node.address (s.nodes.node_append hr _)
  · rw [hlength, hnode]
    exact Nat.lt_succ_self _
  · rw [hplaced, hnodes, hnode]
    exact congrArg Node.address (s.nodes.node_append_length _)

end Seeding

/-! ### Asking the seeds -/

theorem fetchState_probed {result : Except Failure NodeState}
    (h : (fetchState e.config node).Ends e cancel w result w₁ t)
    (hserene : Serene e cancel w.state) (hhook : w.state.hook = none) :
    ∃ p, Calm t ∧ IsCalm result ∧ probesIn t = [p] ∧ p.node = node ∧
      p.address = w.state.nodes.address node ∧ p.exchange.request = stateRequest e.config ∧
      p.verdict = result := by
  obtain ⟨hcalm, hresult, -, hexchanges, -⟩ := fetch_replied isCalm_nodeState h (Or.inr hserene)
  have hout : w.outgoing e "/state" = .ok (stateRequest e.config) := by
    unfold World.outgoing
    rw [hhook]
    rfl
  rw [hout] at hexchanges
  obtain ⟨hmap, hcontacts⟩ := probesIn_of_calm hcalm
  obtain ⟨p, hp, hsent⟩ := List.map_eq_singleton_iff.1 (hmap.trans hexchanges)
  rw [hp] at hcontacts
  obtain ⟨hnone, -⟩ | ⟨x, hx, hnode, hends, -⟩ := fetchState_contact h
  · cases hcontacts.trans hnone
  · obtain rfl : p.contact = x := List.head_eq_of_cons_eq (hcontacts.trans hx)
    refine ⟨p, hcalm, hresult, hp, hnode, congrArg Exchange.node hsent,
      congrArg Exchange.request hsent, ?_⟩
    rw [hends, Probe.outcome_contact]
    rfl

/-- A seed that was new to the pool is asked, and welcomed if it reports itself. -/
theorem seed_asked {address : String} {report : Except Failure NodeState} (hd : w.state.Distinct)
    (hserene : Serene e cancel w.state) (hhook : w.state.hook = none)
    (hseeded : (w.state.seed address).2 = some node)
    (h : (fetchState e.config node).Ends e cancel { w with state := (w.state.seed address).1 }
      report w₁ t) :
    ∃ p, p.verdict = report ∧ p.address = address ∧
      (∀ f, report = .error f → f.isCancellation = false ∧ w₁.state.Distinct ∧
        Seeds e.config (.change w.now w.state (w.state.seed address).1 :: t) w.state w₁.state [p]) ∧
      ∀ r, report = .ok r → ∀ a w₂ t', (welcome node r).Ends e cancel w₁ a w₂ t' →
        w₂.state.Distinct ∧ Seeds e.config
          (.change w.now w.state (w.state.seed address).1 :: (t ++ t')) w.state w₂.state [p] := by
  obtain ⟨hnode, -, hkept, hnodes, hpool⟩ := hd.seed_of_some hseeded
  have hsteady : (w.state.seed address).1.Steady w₁.state :=
    h.within (acts_fetchState e.config node)
  obtain ⟨p, hcalm, hresult, hprobes, rfl, haddress, hasked, rfl⟩ :=
    fetchState_probed h (hserene.of_hook hkept) (hkept.trans hhook)
  obtain rfl : p.address = address := by
    rw [haddress]
    change Directory.address (w.state.seed address).1.nodes p.node = address
    rw [hnodes, hnode]
    exact congrArg Node.address (w.state.nodes.node_append_length _)
  have hd₁ : w₁.state.Distinct := hsteady.distinct (hd.seed p.address).1
  have hpool₁ : w₁.state.pool = ⟨w.state.pool.active, w.state.pool.inactive ++ [p.node]⟩ :=
    hsteady.pool.trans hpool
  refine ⟨p, rfl, rfl, fun f hf => ?_, fun r hr a w₂ t' hwelcome => ?_⟩
  · refine ⟨hresult f hf, hd₁, .single hd hseeded (calm_cons.2 ⟨trivial, hcalm⟩) hprobes hasked
      hsteady.hook hsteady.made hsteady.placed ?_⟩
    have hfails : p.succeeds = false := by
      rw [Probe.succeeds, hf]
      rfl
    rw [hpool₁, hfails]
    rfl
  · have hquiet := isQuiet_welcome p.node r
    have hreported : (w₁.state.applyState p.node r).Distinct := hd₁.updateNode _ fun _ => rfl
    have hmem : p.node ∈ w₁.state.pool.members := by
      rw [hpool₁]
      exact List.mem_append_right _ List.mem_concat_self
    have hstate := welcome_ends hwelcome
    have hsucceeds : p.succeeds = true := Probe.succeeds_of_verdict hr
    refine ⟨hstate ▸ (hreported.activate hmem).1, .single hd hseeded ?_ ?_ hasked ?_ ?_ ?_ ?_⟩
    · exact calm_cons.2 ⟨trivial, calm_append.2 ⟨hcalm, hquiet.calm hwelcome⟩⟩
    · change probesIn (t ++ t') = [p]
      rw [probesIn_append, hprobes, probesIn_of_isQuiet hquiet hwelcome, List.append_nil]
    · rw [hstate]
      exact hsteady.hook
    · rw [hstate]
      exact (Directory.length_update ..).trans hsteady.made
    · intro q
      rw [hstate, address_welcome]
      exact hsteady.placed q
    · rw [pool_of_welcome hwelcome hd₁ (congrArg Pool.inactive hpool₁), hpool₁, hsucceeds]
      rfl

theorem eraseDups_filter_cons {known known' : List String} {a : String} {rest : List String}
    (ha : a ∉ known) (hknown : ∀ b, b ∈ known' ↔ b ∈ known ∨ b = a) :
    ((a :: rest).filter fun b => b ∉ known).eraseDups =
      a :: (rest.filter fun b => b ∉ known').eraseDups := by
  rw [List.filter_cons_of_pos (by simpa using ha), List.eraseDups_cons, List.filter_filter]
  refine congrArg (fun bs : List String => a :: bs.eraseDups) (List.filter_congr fun b _ => ?_)
  rw [Bool.eq_iff_iff]
  simp only [hknown, Bool.and_eq_true, Bool.not_eq_true', beq_eq_false_iff_ne, decide_eq_true_eq,
    not_or, ne_eq, and_comm]

/-- Every address that is not in the pool yet is asked once, and the failures are kept in order. -/
theorem probeSeeds_ends {addresses : List String} {failures : List Failure}
    {result : Except Failure (List Failure)} (hd : w.state.Distinct)
    (hserene : Serene e cancel w.state) (hhook : w.state.hook = none)
    (h : (probeSeeds e.config addresses failures).Ends e cancel w result w₁ t) :
    ∃ ps, Seeds e.config t w.state w₁.state ps ∧
      ps.map Probe.address = (addresses.filter fun a => a ∉ w.state.poolAddresses).eraseDups ∧
      result = .ok (failures ++ ps.filterMap Probe.failure?) := by
  induction addresses generalizing w failures t with
  | nil =>
    obtain ⟨rfl, rfl, rfl⟩ := h.of_done
    exact ⟨[], .refl _ _, rfl, congrArg Except.ok (List.append_nil _).symm⟩
  | cons address rest ih =>
    unfold probeSeeds at h
    obtain ⟨t₁, h₁, rfl⟩ := h.of_update
    cases hseeded : (w.state.seed address).2 with
    | none =>
      obtain ⟨hsame, hmem⟩ := State.seed_of_none hseeded
      rw [hseeded, hsame] at h₁
      obtain ⟨ps, hseeds, haddresses, hresult⟩ := ih hd hserene hhook h₁
      have hlook : Seeds e.config [.change w.now w.state w.state] w.state w.state [] :=
        { Seeds.refl e.config w.state with calm := calm_cons.2 ⟨trivial, calm_nil⟩ }
      rw [hsame]
      refine ⟨ps, hlook.trans hseeds, ?_, hresult⟩
      rw [haddresses, List.filter_cons_of_neg (by simpa using hmem)]
    | some node =>
      rw [hseeded] at h₁
      obtain ⟨report, w₂, t₂, t₃, hfetch, hrest, rfl⟩ := h₁.of_bind
      obtain ⟨p, hverdict, rfl, hfailed, hreported⟩ := seed_asked hd hserene hhook hseeded hfetch
      obtain ⟨-, hfree, -⟩ := hd.seed_of_some hseeded
      have hasked {s : State} {u : List Mark} (hseeds : Seeds e.config u w.state s [p]) :
          ((p.address :: rest).filter fun a => a ∉ w.state.poolAddresses).eraseDups =
            p.address :: (rest.filter fun a => a ∉ s.poolAddresses).eraseDups :=
        eraseDups_filter_cons hfree fun a => (hseeds.mem_poolAddresses hd a).trans <|
          or_congr_right List.mem_singleton
      cases report with
      | ok r =>
        obtain ⟨_, w₃, t₄, t₅, hwelcome, hnext, rfl⟩ := Op.Ends.of_bind hrest
        obtain ⟨hd₃, hseeds⟩ := hreported r rfl _ w₃ t₄ hwelcome
        obtain ⟨ps, hlater, haddresses, hresult⟩ :=
          ih hd₃ (hserene.of_hook hseeds.hook) (hseeds.hook.trans hhook) hnext
        refine ⟨p :: ps, ?_, ?_, ?_⟩
        · rw [← List.append_assoc]
          exact hseeds.trans hlater
        · rw [hasked hseeds, ← haddresses]
          rfl
        · have hnone : p.failure? = none := by rw [Probe.failure?, hverdict]
          rw [List.filterMap_cons_none hnone, hresult]
      | error f =>
        obtain ⟨hf, hd₂, hseeds⟩ := hfailed f rfl
        dsimp only at hrest
        rw [if_neg (Bool.eq_false_iff.1 hf)] at hrest
        obtain ⟨ps, hlater, haddresses, hresult⟩ :=
          ih hd₂ (hserene.of_hook hseeds.hook) (hseeds.hook.trans hhook) hrest
        refine ⟨p :: ps, hseeds.trans hlater, ?_, ?_⟩
        · rw [hasked hseeds, ← haddresses]
          rfl
        · have hsome : p.failure? = some f := by rw [Probe.failure?, hverdict]
          rw [List.filterMap_cons_some hsome, hresult, List.append_assoc]
          rfl

/-! ### The whole start -/

theorem isQuiet_adoptFirst : adoptFirst.IsQuiet := by
  unfold adoptFirst
  apply (Op.isQuiet_read _).bind
  intro active
  cases active with
  | nil => trivial
  | cons first rest =>
    apply (Op.isQuiet_read _).bind
    intro hash
    split_ifs
    · exact Op.isQuiet_modify _
    · trivial

theorem acts_adoptFirst : adoptFirst.Acts State.Steady := by
  unfold adoptFirst
  apply (Op.acts_read _).bind
  intro active
  cases active with
  | nil => trivial
  | cons first rest =>
    apply (Op.acts_read _).bind
    intro hash
    split_ifs
    · exact Op.acts_modify fun s => s.steady_setTopology hash
    · trivial

/-- Discovery at the start leaves the active nodes active, and does nothing without one. -/
theorem discoverAtStart_ends (hs : w.state.Sound given) (hserene : Serene e cancel w.state)
    {stopped : Option Failure}
    (h : (discoverAtStart e.config).Ends e cancel w stopped w₁ t) :
    stopped = none ∧ w.state.pool.active <+: w₁.state.pool.active ∧
      (e.config.discover = false ∨ w.state.pool.active = [] →
        w₁.state = w.state ∧ probesIn t = [] ∧ exchanges t = []) := by
  unfold discoverAtStart at h
  obtain ⟨t₁, h₁, rfl⟩ := h.of_read
  split_ifs at h₁ with hdiscovers
  · obtain ⟨found, w₂, t₂, t₃, hdiscover, hdone, rfl⟩ := h₁.of_bind
    obtain ⟨rfl, rfl, rfl⟩ := hdone.of_done
    obtain ⟨hcalm, -⟩ := hdiscover.gives gives_discover (fun _ h => h) hserene
    obtain ⟨u₁, u₂, s, reached, missed, -, hinforms, hgrows, -⟩ := discover_grows hs hdiscover
    refine ⟨cancellation?_of_isCalm hcalm, ?_, fun hnot => ?_⟩
    · rw [hgrows.active, hinforms.pool]
      exact List.prefix_append _ _
    · obtain ⟨hon, hsome⟩ := hdiscovers
      obtain hoff | hnobody := hnot
      · rw [hoff] at hon
        cases hon
      · rw [hnobody] at hsome
        cases hsome
  · obtain ⟨rfl, rfl, rfl⟩ := h₁.of_done
    exact ⟨rfl, List.prefix_rfl, fun _ => ⟨rfl, rfl, rfl⟩⟩

end Client

/-- Several failures, of which there is one at least, as one. -/
theorem Failure.combine_cases {fs : List Failure} (hsome : fs ≠ []) (fallback : Failure) :
    fs = [Failure.combine fs fallback] ∨
      2 ≤ fs.length ∧ Failure.combine fs fallback = .multiple fs := by
  match fs with
  | [] => exact absurd rfl hsome
  | [f] => exact Or.inl rfl
  | _ :: _ :: rest => exact Or.inr ⟨Nat.le_add_left 2 rest.length, rfl⟩

namespace Client

variable {w : World}

theorem failures_of_fail {ps : List Probe} (h : ∀ p ∈ ps, p.succeeds = false) :
    ps.map Probe.verdict = (ps.filterMap Probe.failure?).map .error := by
  induction ps with
  | nil => rfl
  | cons p rest ih =>
    obtain ⟨hp, hrest⟩ := List.forall_mem_cons.1 h
    obtain ⟨f, hf⟩ := Probe.verdict_of_fails hp
    have hsome : p.failure? = some f := by rw [Probe.failure?, hf]
    rw [List.map_cons, List.filterMap_cons_some hsome, List.map_cons, hf, ih hrest]

/-- What comes of seeds that have all failed. -/
theorem failure_of_fail {ps : List Probe} (hsome : ps ≠ []) (h : ∀ p ∈ ps, p.succeeds = false) :
    ∃ fs, ps.map Probe.verdict = fs.map .error ∧
      (fs = [Failure.combine (ps.filterMap Probe.failure?) .noActiveNodes] ∨
        2 ≤ fs.length ∧
          Failure.combine (ps.filterMap Probe.failure?) .noActiveNodes = .multiple fs) ∧
      (Failure.combine (ps.filterMap Probe.failure?) .noActiveNodes = .noActiveNodes ↔
        ∃ p, ps = [p] ∧ p.answer = .error .noActiveNodes) := by
  have hverdicts := failures_of_fail h
  generalize ps.filterMap Probe.failure? = fs at hverdicts ⊢
  have hfailures : fs ≠ [] := by
    rintro rfl
    exact hsome (List.map_eq_nil_iff.1 hverdicts)
  have hcases := Failure.combine_cases hfailures .noActiveNodes
  refine ⟨fs, hverdicts, hcases, fun hfallback => ?_, ?_⟩
  · rw [hfallback] at hcases
    obtain rfl | ⟨-, hmany⟩ := hcases
    · obtain ⟨p, rfl, hverdict⟩ := List.map_eq_singleton_iff.1 hverdicts
      exact ⟨p, rfl, Probe.verdict_eq_noActiveNodes_iff.1 hverdict⟩
    · cases hmany
  · rintro ⟨p, rfl, hanswer⟩
    have hsingle : (fs.map .error : List (Except Failure NodeState)) = [.error .noActiveNodes] := by
      rw [← hverdicts, List.map_singleton, Probe.verdict_eq_noActiveNodes_iff.2 hanswer]
    obtain ⟨f, rfl, hf⟩ := List.map_eq_singleton_iff.1 hsingle
    exact Except.error.inj hf

def finishStart (c : Config) (failures : List Failure) : Op (Except Failure Unit) := do
  adoptFirst
  match ← discoverAtStart c with
  | some f => return .error f
  | none =>
    let active ← Op.read fun s => s.pool.active
    if active.isEmpty then return .error (Failure.combine failures .noActiveNodes)
    else return .ok ()

/-- The start succeeds if some node is active by now. Without discovery nothing else is sent, and
the nodes stay as they are. -/
theorem finishStart_ends (hs : w.state.Sound given) (hserene : Serene e cancel w.state)
    {failures : List Failure} {result : Except Failure Unit}
    (h : (finishStart e.config failures).Ends e cancel w result w₁ t) :
    w.state.pool.active <+: w₁.state.pool.active ∧
      (e.config.discover = false → w.state.Steady w₁.state ∧ exchanges t = []) ∧
      ((result = .ok () ∧ w.state.pool.active ≠ []) ∨
        result = .error (Failure.combine failures .noActiveNodes) ∧ w.state.pool.active = []) := by
  unfold finishStart at h
  obtain ⟨_, w₂, t₁, t₂, hadopt, hrest, rfl⟩ := h.of_bind
  obtain ⟨stopped, w₃, t₃, t₄, hdiscovery, hlast, rfl⟩ := hrest.of_bind
  have hsteady : w.state.Steady w₂.state := hadopt.within acts_adoptFirst
  obtain ⟨hs₂, -⟩ := (hadopt.changes keeps_adoptFirst).sound hs
  obtain ⟨rfl, hfront, hnothing⟩ :=
    discoverAtStart_ends hs₂ (hserene.of_hook hsteady.hook) hdiscovery
  obtain ⟨t₅, h₅, rfl⟩ := Op.Ends.of_read hlast
  rw [hsteady.pool] at hfront hnothing
  have hdone : (result = .ok () ∧ w₃.state.pool.active ≠ [] ∨
      result = .error (Failure.combine failures .noActiveNodes) ∧ w₃.state.pool.active = []) ∧
      w₁ = w₃ ∧ t₅ = [] := by
    split_ifs at h₅ with hnobody
    · obtain ⟨rfl, rfl, rfl⟩ := h₅.of_done
      exact ⟨Or.inr ⟨rfl, List.isEmpty_iff.1 hnobody⟩, rfl, rfl⟩
    · obtain ⟨rfl, rfl, rfl⟩ := h₅.of_done
      exact ⟨Or.inl ⟨rfl, fun hnone => hnobody (List.isEmpty_iff.2 hnone)⟩, rfl, rfl⟩
  obtain ⟨hresult, rfl, rfl⟩ := hdone
  -- Discovery brings no node in if none is active, and it takes none away.
  have hactive : w₁.state.pool.active = [] ↔ w.state.pool.active = [] := by
    refine ⟨fun hnone => List.prefix_nil.1 (hnone ▸ hfront), fun hnone => ?_⟩
    rw [(hnothing (Or.inr hnone)).1, hsteady.pool, hnone]
  refine ⟨hfront, fun hoff => ?_, ?_⟩
  · obtain ⟨hstate, -, hsent⟩ := hnothing (Or.inl hoff)
    refine ⟨hstate ▸ hsteady, ?_⟩
    rw [exchanges_append, exchanges_append, (isQuiet_adoptFirst.ends hadopt).2, hsent]
    rfl
  · rwa [hactive, Ne, hactive] at hresult

/-- A client without any node asks its seeds, and then goes on with those that have answered. -/
theorem bootstrap_ends {addresses : List String} (hstart : w.state = {})
    (hserene : Serene e cancel w.state) (haddresses : e.config.serverAddresses = .ok addresses)
    {result : Except Failure Unit} (h : (bootstrap e.config).Ends e cancel w result w₁ t) :
    ∃ (ps : List Probe) (w₂ : World) (t₁ t₂ : List Mark), t = t₁ ++ t₂ ∧
      Seeds e.config t₁ w.state w₂.state ps ∧
      ps.map Probe.address = addresses.eraseDups ∧
      w₂.state.pool = ⟨(ps.filter Probe.succeeds).map Probe.node,
        (ps.filter fun p => !p.succeeds).map Probe.node⟩ ∧
      w₂.state.pool.active <+: w₁.state.pool.active ∧
      (e.config.discover = false → w₂.state.Steady w₁.state ∧ exchanges t₂ = []) ∧
      ((result = .ok () ∧ w₂.state.pool.active ≠ []) ∨
        result = .error (Failure.combine (ps.filterMap Probe.failure?) .noActiveNodes) ∧
          w₂.state.pool.active = []) := by
  have hs : w.state.Sound fun _ => False := hstart ▸ State.sound_empty
  have hhook : w.state.hook = none := hstart ▸ rfl
  unfold bootstrap at h
  rw [haddresses] at h
  obtain ⟨probed, w₂, t₁, t₂, hprobes, hrest, rfl⟩ := h.of_bind
  obtain ⟨hs₂, -⟩ := (hprobes.changes (keeps_probeSeeds e.config hs _ _)).sound hs
  obtain ⟨ps, hseeds, hasked, rfl⟩ := probeSeeds_ends hs.distinct hserene hhook hprobes
  refine ⟨ps, w₂, t₁, t₂, rfl, hseeds, ?_, ?_,
    finishStart_ends hs₂ (hserene.of_hook hseeds.hook) hrest⟩
  · rw [hasked, hstart]
    simp [State.poolAddresses, Pool.members]
  · have hactive := hseeds.active
    have hinactive := hseeds.inactive
    rw [hstart] at hactive hinactive
    exact congrArg₂ Pool.mk hactive hinactive

/-- How a client starts. Every seed is asked for its state once, in the order of the configuration.
The start succeeds just if some seed reports itself, and what discovery comes to changes nothing
about that, nor does it deactivate a seed that has reported itself. Without discovery nobody else is
asked, and the seeds are active or inactive as they have answered. If no seed reports itself the
start fails with the failure of the only seed, or with those of all of them, and with
`noActiveNodes` just if that is what the transport told of the only seed. -/
theorem bootstrap_outcome (hvalid : create e.config = .ok w.state)
    (hcalm : ∀ sent x, IsCalm (e.transport sent x).outcome) :
    ∃ addresses result w₁ t ps, e.config.serverAddresses = .ok addresses ∧
      (bootstrap e.config).Ends e none w result w₁ t ∧ ps <+: probesIn t ∧
      ps.map Probe.address = addresses.eraseDups ∧
      (∀ p ∈ ps, p.exchange.request = stateRequest e.config) ∧
      (result = .ok () ↔ ∃ p ∈ ps, ∃ response report, p.answer = .ok response ∧
        response.isSuccess = true ∧ NodeState.parse response.body = .ok report) ∧
      (∀ p ∈ ps, p.succeeds = true → p.node ∈ w₁.state.pool.active) ∧
      (e.config.discover = false → exchanges t = ps.map Probe.exchange ∧
        w₁.state.pool.active = (ps.filter Probe.succeeds).map Probe.node ∧
        w₁.state.pool.inactive = (ps.filter fun p => !p.succeeds).map Probe.node ∧
        ∀ p ∈ ps, w₁.state.nodes.address p.node = p.address) ∧
      ∀ f, result = .error f → ∃ fs, ps.map Probe.verdict = fs.map .error ∧
        (fs = [f] ∨ 2 ≤ fs.length ∧ f = .multiple fs) ∧
        (f = .noActiveNodes ↔ ∃ p, ps = [p] ∧ p.answer = .error .noActiveNodes) := by
  obtain ⟨hvalidated, hstart⟩ : e.config.validate = .ok () ∧ w.state = {} := by
    unfold create at hvalid
    split at hvalid
    · cases hvalid
    next hvalidated => exact ⟨hvalidated, (Except.ok.inj hvalid).symm⟩
  obtain ⟨addresses, haddresses, hsome⟩ := Config.serverAddresses_of_validate hvalidated
  have hserene : Serene e none w.state := ⟨rfl, hstart ▸ keepsDeadlines_none, hcalm⟩
  obtain ⟨result, w₁, t, h⟩ := (bootstrap e.config).halts e none w
  obtain ⟨ps, w₂, t₁, t₂, rfl, hseeds, hseeded, hpool, hfront, hoff, hresult⟩ :=
    bootstrap_ends hstart hserene haddresses h
  rw [hpool] at hfront hresult
  have hnobody : (ps.filter Probe.succeeds).map Probe.node = [] ↔
      ∀ p ∈ ps, p.succeeds = false := by
    rw [List.map_eq_nil_iff, List.filter_eq_nil_iff]
    simp only [Bool.not_eq_true]
  refine ⟨addresses, result, w₁, _, ps, haddresses, h, ?_, hseeded, hseeds.asked, ?_,
    fun p hp hsucceeds => hfront.subset ?_, fun hdiscover => ?_, fun f hf => ?_⟩
  · rw [probesIn_append, hseeds.probes]
    exact List.prefix_append _ _
  · simp only [← Probe.succeeds_iff]
    obtain ⟨rfl, hactive⟩ | ⟨rfl, hnone⟩ := hresult
    · refine iff_of_true rfl (by_contra fun hno => hactive (hnobody.2 fun p hp => ?_))
      exact Bool.eq_false_iff.2 fun hsucceeds => hno ⟨p, hp, hsucceeds⟩
    · refine iff_of_false ?_ ?_
      · rintro ⟨⟩
      · rintro ⟨p, hp, hsucceeds⟩
        exact Bool.false_ne_true ((hnobody.1 hnone p hp).symm.trans hsucceeds)
  · exact List.mem_map_of_mem (List.mem_filter.2 ⟨hp, hsucceeds⟩)
  · obtain ⟨hsteady, hsent⟩ := hoff hdiscover
    have hexchanges : exchanges t₁ = ps.map Probe.exchange := by
      rw [← hseeds.probes]
      exact (probesIn_of_calm hseeds.calm).1.symm
    rw [exchanges_append, hexchanges, hsent, List.append_nil, hsteady.pool, hpool]
    exact ⟨rfl, rfl, rfl, fun p hp => (hsteady.placed p.node).trans (hseeds.placed p hp).2⟩
  · obtain ⟨rfl, -⟩ | ⟨rfl, hnone⟩ := hresult
    · cases hf
    cases hf
    refine failure_of_fail ?_ (hnobody.1 hnone)
    rintro rfl
    obtain ⟨a, rest, rfl⟩ := List.exists_cons_of_ne_nil hsome
    cases hseeded.trans List.eraseDups_cons

theorem create_of_isOk {c : Config} (h : c.validate.isOk = true) : create c = .ok {} := by
  unfold create
  cases hvalidated : c.validate with
  | error f =>
    rw [hvalidated] at h
    cases h
  | ok u => rfl

/-- Three seeds at two addresses. One cannot be reached, and the other one announces a topology that
it does not hand out. -/
def seededPair : Setting where
  config := { servers := ["[::2]:1", "[::1]:1", "http://[::1]:1"], discover := true }
  transport _ x := { outcome := answer x }
  pick _ := 0
where
  answer (x : Exchange) : Outcome :=
    if x.node = "http://[::2]:1" then .error (.connection x.node "refused")
    else if x.request.path = "/state" then
      let body := "\x7b\"id\":\"a\",\"current\":\"t\"\x7d".toUTF8.toList
      .ok { status := 200, body, node := x.node }
    else .ok { status := 404, node := x.node }

theorem bootstrap_outcome_in_seededPair :
    ∃ w₁ t ps, (bootstrap seededPair.config).Ends seededPair none {} (.ok ()) w₁ t ∧
      ps.map Probe.address = ["http://[::2]:1", "http://[::1]:1"] ∧ ps <+: probesIn t ∧
      (exchanges t).length = 3 ∧ w₁.state.pool = ⟨[1], [0]⟩ ∧
      ∃ p ∈ ps, p.succeeds = true ∧ p.node = 1 := by
  have hvalid : create seededPair.config = .ok {} := create_of_isOk (by decide +kernel)
  have hcalm (sent : List Exchange) (x : Exchange) :
      IsCalm (seededPair.transport sent x).outcome := by
    change IsCalm (seededPair.answer x)
    unfold seededPair.answer
    split_ifs
    · exact isCalm_error rfl
    · exact isCalm_ok _
    · exact isCalm_ok _
  obtain ⟨addresses, result, w₁, t, ps, haddresses, h, hfront, hasked, -, hresult, hactive, -⟩ :=
    bootstrap_outcome (w := {}) hvalid hcalm
  have hseen := h.of_run 1 (fun x => (x.1.isOk, x.2.state.pool, x.2.sent.length))
    (show _ = some (true, ⟨[1], [0]⟩, 3) by decide +kernel)
  simp only [Prod.mk.injEq] at hseen
  obtain ⟨hok, hpool, hsent⟩ := hseen
  obtain rfl : result = .ok () := by
    cases result with
    | error f => cases hok
    | ok u => rfl
  obtain ⟨p, hp, hreports⟩ := hresult.1 rfl
  have hsucceeds : p.succeeds = true := Probe.succeeds_iff.2 hreports
  refine ⟨w₁, t, ps, h, ?_, hfront, ?_, hpool, p, hp, hsucceeds, ?_⟩
  · have hnormal : seededPair.config.serverAddresses.toOption.map List.eraseDups =
        some ["http://[::2]:1", "http://[::1]:1"] := by
      decide +kernel
    rw [haddresses] at hnormal
    exact hasked.trans (Option.some.inj hnormal)
  · rw [h.sent_eq, List.append_nil, List.length_reverse] at hsent
    exact hsent
  · have hmem := hactive p hp hsucceeds
    rw [hpool] at hmem
    exact List.mem_singleton.1 hmem

def idleSeed : Setting where
  config := { servers := ["[::1]:1"] }
  transport _ _ := { outcome := .error .noActiveNodes }
  pick _ := 0

/-- The failure of the only seed is passed on, whatever it is. -/
theorem bootstrap_of_idleSeed :
    create idleSeed.config = .ok {} ∧
      (∀ sent x, IsCalm (idleSeed.transport sent x).outcome) ∧
      ∃ w₁ t, (bootstrap idleSeed.config).Ends idleSeed none {} (.error .noActiveNodes) w₁ t := by
  refine ⟨create_of_isOk (by decide +kernel), fun _ _ => isCalm_error rfl, ?_⟩
  obtain ⟨result, w₁, t, h⟩ := (bootstrap idleSeed.config).halts idleSeed none {}
  have hresult := h.of_run 1 (fun x => match x.1 with
    | .ok _ => false
    | .error .noActiveNodes => true
    | .error _ => false) (b := true) (by decide +kernel)
  dsimp only at hresult
  split at hresult
  next => cases hresult
  next => exact ⟨w₁, t, h⟩
  next => cases hresult

end Client
end MetricRing
