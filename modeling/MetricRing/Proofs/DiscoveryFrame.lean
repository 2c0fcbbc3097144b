import MetricRing.Proofs.CalmRuns
import MetricRing.Proofs.DiscoveredMembers

/-!
# What discovery leaves alone

Discovery only adds to the pool. The nodes that it finds there stay where they are and keep their
ids, but for those that have no topology yet and are asked for their state. A member that is new is
inactive at first; it is moved to the end of the active nodes just if it reports itself. So the
active nodes and the inactive ones grow at their ends, whatever the document repeats and whenever
the search ends.
-/

namespace MetricRing

open MetricRing.Topology (Document Member Ring)

variable {e : Setting} {cancel : Option Time} {given : Ring → Prop}

/-! ### New nodes in the pool -/

namespace State

variable {s t : State} {id address : String} {node : NodeRef}

theorem Steady.distinct (h : s.Steady t) (hs : s.Distinct) : t.Distinct :=
  hs.of_perm (List.Perm.of_eq (congrArg Pool.members h.pool)) h.made.ge fun r _ => h.placed r

/-- A new node whose address nobody in the pool has is the last inactive one. -/
theorem Distinct.pool_addNode (h : s.Distinct) {n : Node} (hn : n.address ∉ s.poolAddresses) :
    ((s.makeNode n).1.addNode s.nodes.length).pool =
      ⟨s.pool.active, s.pool.inactive ++ [s.nodes.length]⟩ := by
  refine if_neg ?_
  change ¬s.pool.members.any (Pool.hasAddress (s.nodes ++ [n])
    (Directory.address (s.nodes ++ [n]) s.nodes.length)) = true
  rw [Pool.any_hasAddress_iff, h.map_address_append, Directory.address,
    Directory.node_append_length]
  exact hn

theorem pool_merge_of_none (hn : (s.merge id address).2 = none) :
    (s.merge id address).1.pool = s.pool := by
  unfold merge at hn ⊢
  split at hn
  · exact pool_rename s _ id address
  · cases hn

/-- A member that was not known gets a new node, which is inactive at first. -/
theorem Distinct.merge_of_some (h : s.Distinct) (hn : (s.merge id address).2 = some node) :
    node = s.nodes.length ∧ (s.merge id address).1.nodes = s.nodes ++ [Node.withId id address] ∧
      (s.merge id address).1.pool = ⟨s.pool.active, s.pool.inactive ++ [node]⟩ := by
  unfold State.merge at hn ⊢
  split at hn
  · cases hn
  next hnone =>
    cases hn
    refine ⟨rfl, rfl, h.pool_addNode (n := Node.withId id address) ?_⟩
    exact Pool.findByAddress_eq_none_iff.1 (Option.or_eq_none_iff.1 hnone).2

/-- Activating the last of the inactive nodes moves it to the end of the active ones. -/
theorem Distinct.pool_activate (h : s.Distinct) {rest : List NodeRef}
    (hlast : s.pool.inactive = rest ++ [node]) :
    (s.activate node).pool = ⟨s.pool.active ++ [node], rest⟩ := by
  have hmem : node ∈ s.pool.inactive := hlast ▸ List.mem_concat_self
  have hsolo {q : NodeRef} (hq : q ∈ s.pool.members)
      (hqa : s.nodes.address q = s.nodes.address node) : q = node :=
    List.inj_on_of_nodup_map h.nodup hq (List.mem_append_right _ hmem) hqa
  have hnodup : (s.pool.active ++ s.pool.inactive).Nodup := List.Nodup.of_map _ h.nodup
  change Pool.mk (Pool.move s.nodes s.pool.inactive s.pool.active node).2
    (Pool.move s.nodes s.pool.inactive s.pool.active node).1 = _
  rcases Pool.move_cases h.nodup node with
    ⟨hat, -⟩ | ⟨before, q, after, hsource, hq, hmove⟩ | ⟨hat, -⟩
  · obtain ⟨q, hq, hqa⟩ := List.mem_map.1 hat
    obtain rfl := hsolo (List.mem_append_left _ hq) hqa
    exact (List.disjoint_of_nodup_append hnodup hq hmem).elim
  · obtain rfl := hsolo (List.mem_append_right _ (hsource ▸ List.mem_append_right _
      List.mem_cons_self)) hq
    have hapart : q ∉ rest := by
      have hinactive := hlast ▸ List.Nodup.of_append_right hnodup
      exact fun hmem => List.disjoint_of_nodup_append hinactive hmem (List.mem_singleton_self q)
    obtain ⟨rfl, -, rfl⟩ := (List.append_cons_inj_of_notMem hapart List.not_mem_nil).1
      (hlast.symm.trans hsource)
    rw [hmove, List.append_nil]
  · exact absurd (List.mem_map_of_mem (List.mem_append_right _ hmem)) hat

end State

namespace Client

variable {c : Config} {w w₁ : World} {t t' : List Mark} {node : NodeRef}

-- What the address of a member is normalized to takes long to unfold.
attribute [local irreducible] Address.normalize

/-! ### Asking one node -/

theorem contactsIn_of_isQuiet {α : Type} {op : Op α} {a : α} (hop : op.IsQuiet)
    (h : op.Ends e cancel w a w₁ t) : contactsIn t = [] :=
  contactsIn_eq_nil_iff.2 (hop.ends h).2

/-- The node was asked for its state, as the request hook lets such requests out, and the answer was
this report. -/
def Probed (c : Config) (hook : Option RequestHook) (t : List Mark) (node : NodeRef)
    (report : NodeState) : Prop :=
  ∃ x ∈ contactsIn t, x.node = node ∧
    (∃ now, prepared c hook now (Request.get "/state") = .ok x.request) ∧
    ∃ response, x.result = .ok (.ok response) ∧ response.isSuccess = true ∧
      NodeState.parse response.body = .ok report

/-- A request to one node comes to one exchange with it, or it fails without any. -/
theorem nodeRequest_contacts {r : Request} {out : Outcome}
    (h : (nodeRequest e.config node r).Ends e cancel w out w₁ t) :
    (contactsIn t = [] ∧ ∃ f, out = .error f) ∨
      ∃ x, contactsIn t = [x] ∧ x.node = node ∧ out = x.outcome ∧
        prepared e.config w.state.hook w.now r = .ok x.request := by
  unfold nodeRequest at h
  obtain ⟨result, w₂, t₁, t₂, hprepare, hsend, rfl⟩ := h.of_bind
  obtain ⟨hresult, rfl, rfl⟩ := prepare_ends hprepare
  rw [contactsIn_append, show contactsIn [.change w₂.now w₂.state w₂.state] = [] from rfl,
    List.nil_append]
  cases result with
  | error f =>
    obtain ⟨rfl, -, rfl⟩ := hsend.of_done
    exact Or.inl ⟨rfl, f, rfl⟩
  | ok sent =>
    dsimp only at hsend
    rw [sendOnce_eq] at hsend
    obtain ⟨_, w₃, t₃, t₄, hnote, hexchange, rfl⟩ := hsend.of_bind
    rw [contactsIn_append, contactsIn_of_isQuiet (isQuiet_note _ _ _) hnote, List.nil_append]
    cases hexchange with
    | clock hexchange =>
      cases hexchange with
      | barred _ hrest =>
        obtain ⟨rfl, -, rfl⟩ := hrest.of_done
        exact Or.inl ⟨rfl, _, rfl⟩
      | exchange _ hrest =>
        refine Or.inr ⟨⟨node, sent, w₃.answer e cancel node sent⟩, ?_, rfl, ?_, hresult.symm⟩
        · generalize w₃.answer e cancel node sent = answer at hrest ⊢
          cases answer with
          | error i =>
            obtain ⟨-, -, rfl⟩ := hrest.of_done
            rfl
          | ok answer =>
            exact congrArg (Contact.mk node sent (.ok answer) :: ·)
              (contactsIn_of_isQuiet (isQuiet_receive _ _ _) hrest)
        · generalize w₃.answer e cancel node sent = answer at hrest ⊢
          cases answer with
          | error i => exact hrest.of_done.1
          | ok answer =>
            rw [(receive_ends hrest).1]
            cases answer <;> rfl

/-- Asking a node for its state is one exchange, or a failure without any. -/
theorem fetchState_contact {result : Except Failure NodeState}
    (h : (fetchState e.config node).Ends e cancel w result w₁ t) :
    (contactsIn t = [] ∧ ∃ f, result = .error f) ∨
      ∃ x, contactsIn t = [x] ∧ x.node = node ∧
        result = (x.outcome >>= fun response => NodeState.parse response.body) ∧
        prepared e.config w.state.hook w.now (Request.get "/state") = .ok x.request := by
  unfold fetchState at h
  obtain ⟨out, w₂, t₁, t₂, hrequest, hrest, rfl⟩ := h.of_bind
  obtain ⟨rfl, rfl⟩ : result = (out >>= fun response => NodeState.parse response.body) ∧
      t₂ = [] := by
    cases out with
    | error f => exact ⟨hrest.of_done.1, hrest.of_done.2.2⟩
    | ok response => exact ⟨hrest.of_done.1, hrest.of_done.2.2⟩
  rw [List.append_nil]
  obtain ⟨hnone, f, rfl⟩ | ⟨x, hx, hnode, rfl, hsent⟩ := nodeRequest_contacts hrequest
  · exact Or.inl ⟨hnone, f, rfl⟩
  · exact Or.inr ⟨x, hx, hnode, rfl, hsent⟩

theorem fetchState_contacts {result : Except Failure NodeState}
    (h : (fetchState e.config node).Ends e cancel w result w₁ t) :
    (∀ x ∈ contactsIn t, x.node = node) ∧
      ∀ report, result = .ok report ↔ Probed e.config w.state.hook t node report := by
  unfold Probed
  obtain ⟨hnone, f, rfl⟩ | ⟨x, hx, rfl, rfl, hsent⟩ := fetchState_contact h
  · rw [hnone]
    refine ⟨List.forall_mem_nil _, fun report => iff_of_false (fun h => nomatch h) ?_⟩
    rintro ⟨x, hx, -⟩
    exact List.not_mem_nil hx
  · rw [hx]
    refine ⟨List.forall_mem_singleton.2 rfl, fun report => ?_⟩
    simp only [bind_eq_ok_iff, Contact.outcome_eq_ok_iff, List.mem_singleton, exists_eq_left,
      true_and, and_assoc]
    exact ⟨fun h => ⟨⟨_, hsent⟩, h⟩, fun h => h.2⟩

theorem fetchDocument_contacts {hash : String} {result : Except Failure Document}
    (h : (fetchDocument e.config node hash).Ends e cancel w result w₁ t) :
    ∀ x ∈ contactsIn t, x.node = node := by
  unfold fetchDocument at h
  obtain ⟨out, w₂, t₁, t₂, hrequest, hrest, rfl⟩ := h.of_bind
  obtain rfl : t₂ = [] := by
    cases out with
    | error f => exact hrest.of_done.2.2
    | ok response => exact hrest.of_done.2.2
  rw [List.append_nil]
  rcases nodeRequest_contacts hrequest with ⟨hnone, -⟩ | ⟨x, hx, hnode, -⟩
  · rw [hnone]
    exact List.forall_mem_nil _
  · rw [hx]
    exact List.forall_mem_singleton.2 hnode

theorem probed_append {hook : Option RequestHook} {report : NodeState} :
    Probed c hook (t ++ t') node report ↔
      Probed c hook t node report ∨ Probed c hook t' node report := by
  unfold Probed
  rw [contactsIn_append]
  simp only [List.mem_append, or_and_right, exists_or]

theorem not_probed {hook : Option RequestHook} (h : ∀ x ∈ contactsIn t, x.node ≠ node) :
    ¬∃ report, Probed c hook t node report := by
  rintro ⟨report, x, hx, hnode, -⟩
  exact h x hx hnode

/-! ### Adding nodes -/

/-- Nodes that were made on the way are put behind the active nodes or behind the inactive ones.
They are the only ones that are asked, and just the active ones have reported themselves. All others
keep an id that they have. -/
structure Grows (c : Config) (t : List Mark) (s s' : State) (reached missed : List NodeRef) :
    Prop where
  hook : s'.hook = s.hook
  active : s'.pool.active = s.pool.active ++ reached
  inactive : s'.pool.inactive = s.pool.inactive ++ missed
  made : s.nodes.length ≤ s'.nodes.length
  fresh : ∀ r ∈ reached ++ missed, s.nodes.length ≤ r ∧ r < s'.nodes.length
  probed : ∀ r ∈ reached ++ missed, r ∈ reached ↔ ∃ report, Probed c s.hook t r report
  asked : ∀ x ∈ contactsIn t, s.nodes.length ≤ x.node ∧ x.node < s'.nodes.length
  named : ∀ r < s.nodes.length, (s.node r).id ≠ "" → (s'.node r).id = (s.node r).id

section Growing

variable {s s₁ s₂ : State} {reached missed reached' missed' : List NodeRef}

theorem Grows.of_pool (hhook : s₁.hook = s.hook) (hpool : s₁.pool = s.pool)
    (hmade : s.nodes.length ≤ s₁.nodes.length) (hasked : contactsIn t = [])
    (hnamed : ∀ r, (s.node r).id ≠ "" → (s₁.node r).id = (s.node r).id) :
    Grows c t s s₁ [] [] where
  hook := hhook
  active := by rw [hpool, List.append_nil]
  inactive := by rw [hpool, List.append_nil]
  made := hmade
  fresh := List.forall_mem_nil _
  probed := List.forall_mem_nil _
  asked := hasked ▸ List.forall_mem_nil _
  named r _ := hnamed r

theorem Grows.refl (c : Config) (s : State) : Grows c [] s s [] [] :=
  .of_pool rfl rfl le_rfl rfl fun _ _ => rfl

/-- The nodes of the first part are none of those that the second part asks, and the other way
round. -/
theorem Grows.trans (h : Grows c t s s₁ reached missed) (h' : Grows c t' s₁ s₂ reached' missed') :
    Grows c (t ++ t') s s₂ (reached ++ reached') (missed ++ missed') where
  hook := h'.hook.trans h.hook
  active := by rw [h'.active, h.active, List.append_assoc]
  inactive := by rw [h'.inactive, h.inactive, List.append_assoc]
  made := h.made.trans h'.made
  fresh r hr := by
    obtain hold | hnew := mem_or_mem hr
    · exact ⟨(h.fresh r hold).1, (h.fresh r hold).2.trans_le h'.made⟩
    · exact ⟨h.made.trans (h'.fresh r hnew).1, (h'.fresh r hnew).2⟩
  probed r hr := by
    simp only [probed_append, exists_or, List.mem_append]
    obtain hold | hnew := mem_or_mem hr
    · have hlt := (h.fresh r hold).2
      have hnot : r ∉ reached' := fun hr' =>
        hlt.not_ge (h'.fresh r (List.mem_append_left _ hr')).1
      have hunasked : ¬∃ report, Probed c s.hook t' r report :=
        not_probed fun x hx hxr => hlt.not_ge (hxr ▸ (h'.asked x hx).1)
      rw [or_iff_left hnot, or_iff_left hunasked]
      exact h.probed r hold
    · have hle := (h'.fresh r hnew).1
      have hnot : r ∉ reached := fun hr' => hle.not_gt (h.fresh r (List.mem_append_left _ hr')).2
      have hunasked : ¬∃ report, Probed c s.hook t r report :=
        not_probed fun x hx hxr => hle.not_gt (hxr ▸ (h.asked x hx).2)
      rw [or_iff_right hnot, or_iff_right hunasked, ← h.hook]
      exact h'.probed r hnew
  asked x hx := by
    rw [contactsIn_append, List.mem_append] at hx
    obtain hold | hnew := hx
    · exact ⟨(h.asked x hold).1, (h.asked x hold).2.trans_le h'.made⟩
    · exact ⟨h.made.trans (h'.asked x hnew).1, (h'.asked x hnew).2⟩
  named r hr hid := by
    have hsame := h.named r hr hid
    exact (h'.named r (hr.trans_le h.made) (hsame ▸ hid)).trans hsame
where
  mem_or_mem {r : NodeRef} (hr : r ∈ reached ++ reached' ++ (missed ++ missed')) :
      r ∈ reached ++ missed ∨ r ∈ reached' ++ missed' := by
    simp only [List.mem_append] at hr ⊢
    tauto

end Growing

/-! ### Merging -/

theorem isQuiet_welcome (node : NodeRef) (report : NodeState) : (welcome node report).IsQuiet :=
  (Op.isQuiet_modify _).bind fun _ => Op.isQuiet_modify _

/-- A new node that has reported itself is the last active one. -/
theorem pool_of_welcome {report : NodeState} {a : Unit} {rest : List NodeRef}
    (h : (welcome node report).Ends e cancel w a w₁ t) (hd : w.state.Distinct)
    (hlast : w.state.pool.inactive = rest ++ [node]) :
    w₁.state.pool = ⟨w.state.pool.active ++ [node], rest⟩ := by
  have hreported : (w.state.applyState node report).Distinct := hd.updateNode node fun _ => rfl
  rw [welcome_ends h]
  exact hreported.pool_activate hlast

structure Introduces (c : Config) (t : List Mark) (node : NodeRef) (s s' : State)
    (result : Except Failure Merge) : Prop where
  hook : s'.hook = s.hook
  made : s'.nodes.length = s.nodes.length
  asked : ∀ x ∈ contactsIn t, x.node = node
  moved : ∀ rest, s.pool.inactive = rest ++ [node] →
    (result = .ok .added ∧ (∃ report, Probed c s.hook t node report) ∧
      s'.pool = ⟨s.pool.active ++ [node], rest⟩) ∨
    (∃ f, result = if f.isCancellation then .error f else .ok (.addedInactive f)) ∧
      (¬∃ report, Probed c s.hook t node report) ∧ s'.pool = s.pool

theorem introduce_introduces {result : Except Failure Merge} (hd : w.state.Distinct)
    (h : (introduce e.config node).Ends e cancel w result w₁ t) :
    Introduces e.config t node w.state w₁.state result := by
  unfold introduce at h
  obtain ⟨report, w₂, t₁, t₂, hfetch, hrest, rfl⟩ := h.of_bind
  have hsteady : w.state.Steady w₂.state := hfetch.within (acts_fetchState e.config node)
  obtain ⟨hasked, hprobed⟩ := fetchState_contacts hfetch
  cases report with
  | ok report =>
    obtain ⟨_, w₃, t₃, t₄, hwelcome, hdone, rfl⟩ := hrest.of_bind
    obtain ⟨rfl, rfl, rfl⟩ := hdone.of_done
    have hstate := welcome_ends hwelcome
    have hquiet : contactsIn t₃ = [] := contactsIn_of_isQuiet (isQuiet_welcome _ _) hwelcome
    refine ⟨?_, ?_, ?_, fun rest hlast => Or.inl ⟨rfl, ⟨report, ?_⟩, ?_⟩⟩
    · rw [hstate]
      exact hsteady.hook
    · rw [hstate]
      exact (Directory.length_update ..).trans hsteady.made
    · rw [List.append_nil, contactsIn_append, hquiet, List.append_nil]
      exact hasked
    · exact probed_append.2 (Or.inl ((hprobed report).1 rfl))
    · rw [← hsteady.pool] at hlast ⊢
      exact pool_of_welcome hwelcome (hsteady.distinct hd) hlast
  | error f =>
    obtain ⟨rfl, rfl, rfl⟩ : result = (if f.isCancellation then .error f
        else .ok (.addedInactive f)) ∧ w₁ = w₂ ∧ t₂ = [] := by
      dsimp only at hrest
      split_ifs at hrest ⊢
      · exact hrest.of_done
      · exact hrest.of_done
    rw [List.append_nil]
    refine ⟨hsteady.hook, hsteady.made, hasked, fun rest _ => Or.inr ⟨⟨f, rfl⟩, ?_, hsteady.pool⟩⟩
    rintro ⟨report, hreport⟩
    cases (hprobed report).2 hreport

/-- The tally counts these new nodes, and those that were reached as reachable. -/
structure Counts (tally tally' : Tally) (reached missed : List NodeRef) : Prop where
  added : tally'.added = tally.added + (reached.length + missed.length)
  reachable : tally.reachable + reached.length ≤ tally'.reachable

/-- A member that is new to the pool is added as inactive, and as active once it has reported
itself. -/
theorem introduce_grows (hd : w.state.Distinct) {m : Member} {address : String}
    (hmerged : (w.state.merge m.id address).2 = some node) {result : Except Failure Merge}
    (h : (introduce e.config node).Ends e cancel
      { w with state := (w.state.merge m.id address).1 } result w₁ t) :
    ∃ reached missed, Grows e.config (.change w.now w.state (w.state.merge m.id address).1 :: t)
        w.state w₁.state reached missed ∧
      (cancellation? result = none → ∀ tally : Tally,
        Counts tally (tally.count result) reached missed) := by
  obtain ⟨hnode, hnodes, hpool⟩ := hd.merge_of_some hmerged
  have hnew := introduce_introduces (hd.merge m.id address).1 h
  have hhook : (w.state.merge m.id address).1.hook = w.state.hook := hook_merge ..
  have hlength : (w.state.merge m.id address).1.nodes.length = node + 1 := by
    rw [hnodes, List.length_append, ← hnode]
    rfl
  have hfresh : w.state.nodes.length ≤ node ∧ node < w₁.state.nodes.length := by
    rw [hnew.made, hlength, hnode]
    exact ⟨le_rfl, Nat.lt_succ_self _⟩
  have hgrows {reached missed : List NodeRef} (hsolo : reached ++ missed = [node])
      (hactive : w₁.state.pool.active = w.state.pool.active ++ reached)
      (hinactive : w₁.state.pool.inactive = w.state.pool.inactive ++ missed)
      (hprobed : node ∈ reached ↔ ∃ report, Probed e.config w.state.hook t node report) :
      Grows e.config (.change w.now w.state (w.state.merge m.id address).1 :: t) w.state
        w₁.state reached missed := by
    refine ⟨hnew.hook.trans hhook, hactive, hinactive, hfresh.1.trans hfresh.2.le, ?_, ?_,
      fun x hx => hnew.asked x hx ▸ hfresh, fun r hr hid => ?_⟩
    · rw [hsolo]
      exact List.forall_mem_singleton.2 hfresh
    · rw [hsolo]
      exact List.forall_mem_singleton.2 hprobed
    · have hne : r ≠ node := (hr.trans_le hfresh.1).ne
      rw [(introduce_ends h).2 r hne, State.node, hnodes, Directory.node_append _ hr]
      rfl
  rcases hnew.moved _ (congrArg Pool.inactive hpool) with
    ⟨rfl, hprobed, hmoved⟩ | ⟨⟨f, rfl⟩, hprobed, hmoved⟩
  · refine ⟨[node], [], hgrows rfl ?_ ?_ ?_, fun _ tally => ⟨rfl, le_rfl⟩⟩
    · rw [hmoved, hpool]
    · rw [hmoved, List.append_nil]
    · exact iff_of_true (List.mem_singleton_self node) (hhook ▸ hprobed)
  · refine ⟨[], [node], hgrows rfl ?_ ?_ ?_, fun hnone tally => ?_⟩
    · rw [hmoved, hpool, List.append_nil]
    · rw [hmoved, hpool]
    · exact iff_of_false List.not_mem_nil (hhook ▸ hprobed)
    · split_ifs at hnone ⊢ with hf
      · rw [cancellation?, if_pos hf] at hnone
        cases hnone
      · exact ⟨rfl, le_rfl⟩

theorem mergeMember_grows (hs : w.state.Sound given) {m : Member} {result : Except Failure Merge}
    (h : (mergeMember e.config m).Ends e cancel w result w₁ t) :
    ∃ reached missed, Grows e.config t w.state w₁.state reached missed ∧
      (cancellation? result = none → ∀ tally : Tally,
        Counts tally (tally.count result) reached missed) := by
  have hd := hs.distinct
  unfold mergeMember at h
  split at h
  next f _ =>
    obtain ⟨rfl, rfl, rfl⟩ := h.of_done
    exact ⟨[], [], .refl _ _, fun _ tally => ⟨rfl, le_rfl⟩⟩
  next address _ =>
    obtain ⟨t', h', rfl⟩ := h.of_update
    cases hmerged : (w.state.merge m.id address).2 with
    | some node =>
      rw [hmerged] at h'
      exact introduce_grows hd hmerged h'
    | none =>
      rw [hmerged] at h'
      obtain ⟨rfl, rfl, rfl⟩ := h'.of_done
      have hlasts := (hd.merge m.id address).2
      refine ⟨[], [], .of_pool (hook_merge ..) (State.pool_merge_of_none hmerged) hlasts.made rfl
        fun r hid => ?_, fun _ tally => ⟨rfl, Nat.le_succ _⟩⟩
      unfold State.merge at hmerged ⊢
      split at hmerged
      · exact State.id_rename _ _ _ _ hid
      · cases hmerged

theorem Counts.trans {tally tally' tally'' : Tally} {reached missed reached' missed' : List NodeRef}
    (h : Counts tally tally' reached missed) (h' : Counts tally' tally'' reached' missed') :
    Counts tally tally'' (reached ++ reached') (missed ++ missed') where
  added := by
    rw [h'.added, h.added, List.length_append, List.length_append]
    omega
  reachable := by
    have hfirst := h.reachable
    have hrest := h'.reachable
    rw [List.length_append]
    omega

theorem mergeAll_grows (hs : w.state.Sound given) {members : List Member} {tally : Tally}
    {result : Except Failure Tally}
    (h : (mergeAll e.config members tally).Ends e cancel w result w₁ t) :
    ∃ reached missed, Grows e.config t w.state w₁.state reached missed ∧
      (∀ tally', result = .ok tally' → Counts tally tally' reached missed) ∧
      ∀ f, result = .error f → f.isCancellation = true := by
  induction members generalizing w tally t with
  | nil =>
    obtain ⟨rfl, rfl, rfl⟩ := h.of_done
    refine ⟨[], [], .refl _ _, ?_, ?_⟩
    · rintro tally' ⟨⟩
      exact ⟨rfl, le_rfl⟩
    · rintro f ⟨⟩
  | cons m rest ih =>
    unfold mergeAll at h
    obtain ⟨merged, w₂, t₁, t₂, hmember, hrest, rfl⟩ := h.of_bind
    obtain ⟨hs₂, -⟩ := (hmember.changes (keeps_mergeMember e.config hs m)).sound hs
    obtain ⟨reached, missed, hgrows, hcounts⟩ := mergeMember_grows hs hmember
    cases hcancelled : cancellation? merged with
    | some f =>
      rw [hcancelled] at hrest
      obtain ⟨rfl, rfl, rfl⟩ := hrest.of_done
      rw [List.append_nil]
      refine ⟨reached, missed, hgrows, ?_, ?_⟩
      · rintro tally' ⟨⟩
      · rintro g ⟨⟩
        unfold cancellation? at hcancelled
        split at hcancelled
        · split_ifs at hcancelled with hf
          cases hcancelled
          exact hf
        · cases hcancelled
    | none =>
      rw [hcancelled] at hrest
      obtain ⟨reached', missed', hgrows', hcounts', hfails⟩ := ih hs₂ hrest
      exact ⟨_, _, hgrows.trans hgrows',
        fun tally' htally => (hcounts hcancelled tally).trans (hcounts' tally' htally), hfails⟩

/-! ### Asking for a document -/

/-- Only these nodes are asked, and pool and addresses stay. A node that has no topology takes over
the id that it reports; all others keep theirs. -/
structure Informs (c : Config) (asked : List NodeRef) (t : List Mark) (s s' : State) : Prop where
  hook : s'.hook = s.hook
  pool : s'.pool = s.pool
  made : s'.nodes.length = s.nodes.length
  informed : ∀ r, (s.node r).currentTopology ≠ "" → (s'.node r).currentTopology ≠ ""
  asked : ∀ x ∈ contactsIn t, x.node ∈ asked
  named : ∀ r, (s'.node r).id = (s.node r).id ∨ (s.node r).currentTopology = "" ∧
    ∃ report, Probed c s.hook t r report ∧ (s'.node r).id = Text.lowercase report.identity

section Informing

variable {s s₁ s₂ : State} {asked : List NodeRef}

theorem Informs.refl (c : Config) (asked : List NodeRef) (s : State) : Informs c asked [] s s :=
  ⟨rfl, rfl, rfl, fun _ h => h, List.forall_mem_nil _, fun _ => Or.inl rfl⟩

theorem Informs.of_steady (h : s.Steady s₁) (hlasts : s.Extends s₁)
    (hasked : ∀ x ∈ contactsIn t, x.node ∈ asked) : Informs c asked t s s₁ :=
  ⟨h.hook, h.pool, h.made, hlasts.informed, hasked, fun r => Or.inl (h.named r)⟩

theorem Informs.trans (h : Informs c asked t s s₁) (h' : Informs c asked t' s₁ s₂) :
    Informs c asked (t ++ t') s s₂ where
  hook := h'.hook.trans h.hook
  pool := h'.pool.trans h.pool
  made := h'.made.trans h.made
  informed r hr := h'.informed r (h.informed r hr)
  asked := by
    rw [contactsIn_append]
    exact List.forall_mem_append.2 ⟨h.asked, h'.asked⟩
  named r := by
    simp only [probed_append]
    obtain hsame' | ⟨hhash, report, hreport, hid⟩ := h'.named r
    · rw [hsame']
      refine (h.named r).imp_right ?_
      rintro ⟨hhash, report, hreport, hid⟩
      exact ⟨hhash, report, Or.inl hreport, hid⟩
    · -- A topology that was known at first is known when the node is asked.
      exact Or.inr ⟨by_contra fun hne => h.informed r hne hhash, report,
        Or.inr (h.hook ▸ hreport), hid⟩

end Informing

theorem knownHash_lasts (hs : w.state.Sound given) {result : Except Failure String}
    (h : (knownHash e.config node).Ends e cancel w result w₁ t) :
    w₁.state.Sound given ∧ w.state.Extends w₁.state :=
  (h.changes ((keeps_knownHash e.config node).imp fun _ _ _ => trivial)).sound hs

theorem knownHash_informs (hs : w.state.Sound given) {asked : List NodeRef} (hnode : node ∈ asked)
    {result : Except Failure String}
    (h : (knownHash e.config node).Ends e cancel w result w₁ t) :
    Informs e.config asked t w.state w₁.state := by
  have hlasts := (knownHash_lasts hs h).2
  unfold knownHash at h
  obtain ⟨t₁, h₁, rfl⟩ := h.of_read
  split_ifs at h₁ with hhash
  · obtain ⟨-, rfl, rfl⟩ := h₁.of_done
    exact .of_steady (refl _) hlasts (List.forall_mem_nil _)
  · obtain ⟨report, w₂, t₂, t₃, hfetch, hrest, rfl⟩ := h₁.of_bind
    have hsteady : w.state.Steady w₂.state := hfetch.within (acts_fetchState e.config node)
    obtain ⟨hasked, hprobed⟩ := fetchState_contacts hfetch
    have hfetched : ∀ x ∈ contactsIn t₂, x.node ∈ asked := fun x hx => hasked x hx ▸ hnode
    cases report with
    | error f =>
      obtain ⟨-, rfl, rfl⟩ := hrest.of_done
      rw [List.append_nil]
      exact .of_steady hsteady hlasts hfetched
    | ok report =>
      obtain ⟨t₄, h₄, rfl⟩ := Op.Ends.of_modify hrest
      obtain ⟨t₅, h₅, rfl⟩ := Op.Ends.of_read h₄
      obtain ⟨-, rfl, rfl⟩ := h₅.of_done
      refine ⟨hsteady.hook, hsteady.pool, (Directory.length_update ..).trans hsteady.made,
        hlasts.informed, ?_, fun r => ?_⟩
      · change ∀ x ∈ contactsIn (t₂ ++ [_, _]), x.node ∈ asked
        rw [contactsIn_append]
        exact List.forall_mem_append.2 ⟨hfetched, List.forall_mem_nil _⟩
      · by_cases hr : node = r
        · subst hr
          by_cases hmade : node < w₂.state.nodes.length
          · refine Or.inr ⟨not_not.1 hhash, report, ?_, ?_⟩
            · exact probed_append.2 (Or.inl ((hprobed report).1 rfl))
            · exact congrArg Node.id (w₂.state.nodes.node_update_self hmade _)
          · refine Or.inl (Eq.trans ?_ (hsteady.named node))
            exact congrArg (fun d : Directory => (d.node node).id)
              (w₂.state.nodes.update_of_le (Nat.le_of_not_lt hmade) _)
        · refine Or.inl (Eq.trans ?_ (hsteady.named r))
          exact congrArg Node.id (w₂.state.nodes.node_update_ne hr _)

theorem firstDocument_informs (hs : w.state.Sound given) {asked nodes : List NodeRef}
    (hnodes : ∀ r ∈ nodes, r ∈ asked) {failures : List Failure}
    {result : Except Failure (NodeRef × Document)}
    (h : (firstDocument e.config nodes failures).Ends e cancel w result w₁ t) :
    Informs e.config asked t w.state w₁.state := by
  induction nodes generalizing w failures t with
  | nil =>
    obtain ⟨-, rfl, rfl⟩ := h.of_done
    exact .refl _ _ _
  | cons node rest ih =>
    obtain ⟨hnode, hrest⟩ := List.forall_mem_cons.1 hnodes
    unfold firstDocument at h
    obtain ⟨known, w₂, t₁, t₂, hknown, hnext, rfl⟩ := h.of_bind
    have hs₂ := (knownHash_lasts hs hknown).1
    refine (knownHash_informs hs hnode hknown).trans ?_
    cases known with
    | error f =>
      dsimp only at hnext
      split_ifs at hnext
      · obtain ⟨-, rfl, rfl⟩ := hnext.of_done
        exact .refl _ _ _
      · exact ih hs₂ hrest hnext
    | ok hash =>
      dsimp only at hnext
      split_ifs at hnext
      · exact ih hs₂ hrest hnext
      · obtain ⟨document, w₃, t₃, t₄, hfetch, hlast, rfl⟩ := hnext.of_bind
        obtain ⟨hs₃, hlasts⟩ := (hfetch.changes (keeps_fetchDocument e.config node hash)).sound hs₂
        have hfetched : Informs e.config asked t₃ w₂.state w₃.state :=
          .of_steady (hfetch.within (acts_fetchDocument e.config node hash)) hlasts
            fun x hx => fetchDocument_contacts hfetch x hx ▸ hnode
        refine hfetched.trans ?_
        cases document with
        | ok d =>
          obtain ⟨-, rfl, rfl⟩ := hlast.of_done
          exact .refl _ _ _
        | error f =>
          dsimp only at hlast
          split_ifs at hlast
          · obtain ⟨-, rfl, rfl⟩ := hlast.of_done
            exact .refl _ _ _
          · exact ih hs₃ hrest hlast

/-! ### Discovery -/

theorem isQuiet_installDocument (d : Document) (hash : String) :
    (installDocument d hash).IsQuiet := by
  have hcompile : (compile d hash).IsQuiet := fun _ => trivial
  unfold installDocument
  apply hcompile.bind
  intro compiled
  cases compiled with
  | ok ring => exact fun _ => trivial
  | error f => trivial

theorem acts_installDocument (d : Document) (hash : String) :
    (installDocument d hash).Acts State.Steady := by
  unfold installDocument
  apply (acts_compile d hash).bind
  intro compiled
  cases compiled with
  | ok ring => exact (acts_install ring).bind fun _ => trivial
  | error f => trivial

def takeIn (c : Config) (source : NodeRef) (d : Document) : Op (Except Failure Nat) := do
  let hash ← Op.read fun s => (s.node source).currentTopology
  match ← mergeAll c d.members {} with
  | .error f => return .error f
  | .ok t =>
    let failures := t.failures ++ (← installDocument d hash)
    if t.reachable = 0 ∧ !failures.isEmpty then return .error (.multiple failures)
    else return .ok t.added

theorem takeIn_grows (hs : w.state.Sound given) {source : NodeRef} {d : Document}
    {result : Except Failure Nat} (h : (takeIn e.config source d).Ends e cancel w result w₁ t) :
    ∃ reached missed, Grows e.config t w.state w₁.state reached missed ∧
      (∀ k, result = .ok k → (reached ++ missed).length = k) ∧
      ∀ f, result = .error f → f.isCancellation = false → reached = [] := by
  unfold takeIn at h
  obtain ⟨t₁, h₁, rfl⟩ := h.of_read
  obtain ⟨tally, w₂, t₂, t₃, hmembers, hrest, rfl⟩ := h₁.of_bind
  obtain ⟨reached, missed, hgrows, hcounts, hcancelled⟩ := mergeAll_grows hs hmembers
  have hread : Grows e.config [.change w.now w.state w.state] w.state w.state [] [] :=
    .of_pool rfl rfl le_rfl rfl fun _ _ => rfl
  cases tally with
  | error f =>
    obtain ⟨rfl, rfl, rfl⟩ := hrest.of_done
    rw [List.append_nil]
    refine ⟨reached, missed, hread.trans hgrows, fun k hk => (nomatch hk), fun g hg hcalm => ?_⟩
    cases hg
    rw [hcancelled f rfl] at hcalm
    cases hcalm
  | ok tally =>
    obtain ⟨failures, w₃, t₄, t₅, hinstall, hdone, rfl⟩ := hrest.of_bind
    obtain ⟨hadded, hreachable⟩ := hcounts tally rfl
    have hsteady : w₂.state.Steady w₃.state := hinstall.within (acts_installDocument _ _)
    have hinstalled : Grows e.config t₄ w₂.state w₃.state [] [] :=
      .of_pool hsteady.hook hsteady.pool hsteady.made.ge
        (contactsIn_of_isQuiet (isQuiet_installDocument _ _) hinstall) fun r _ => hsteady.named r
    have hall := hread.trans (hgrows.trans hinstalled)
    rw [List.nil_append, List.nil_append, List.append_nil, List.append_nil] at hall
    dsimp only at hdone
    split_ifs at hdone with hnone
    · obtain ⟨rfl, rfl, rfl⟩ := hdone.of_done
      rw [List.append_nil]
      refine ⟨reached, missed, hall, fun k hk => (nomatch hk), fun _ _ _ => ?_⟩
      rw [hnone.1] at hreachable
      exact List.eq_nil_of_length_eq_zero (Nat.le_zero.1 ((Nat.le_add_left _ _).trans hreachable))
    · obtain ⟨rfl, rfl, rfl⟩ := hdone.of_done
      rw [List.append_nil]
      refine ⟨reached, missed, hall, fun k hk => ?_, fun f hf => nomatch hf⟩
      cases hk
      rw [List.length_append, hadded]
      exact (Nat.zero_add _).symm

/-- Nodes are added after others were asked for a document. Each of these keeps its id, or had no
topology and has reported the new id. Of the new nodes just the active ones have reported
themselves. -/
theorem Informs.grows {s s₁ s₂ : State} {reached missed : List NodeRef} (hs : s.Distinct)
    (h : Informs c s.pool.active t s s₁) (h' : Grows c t' s₁ s₂ reached missed) :
    (∀ r ∈ s.pool.members, (s.node r).id ≠ "" → (s₂.node r).id = (s.node r).id ∨
      (s.node r).currentTopology = "" ∧ ∃ report, Probed c s.hook (t ++ t') r report ∧
        (s₂.node r).id = Text.lowercase report.identity) ∧
    ∀ r ∈ reached ++ missed, r ∈ reached ↔ ∃ report, Probed c s.hook (t ++ t') r report := by
  refine ⟨fun r hr hid => ?_, fun r hr => ?_⟩
  · have hmade : r < s₁.nodes.length := h.made ▸ hs.made r hr
    obtain hsame | ⟨hhash, report, hprobed, hnew⟩ := h.named r
    · exact Or.inl ((h'.named r hmade (hsame ▸ hid)).trans hsame)
    · have hne : (s₁.node r).id ≠ "" := by
        obtain ⟨x, -, -, -, response, -, -, hparse⟩ := hprobed
        rw [hnew]
        exact fun he => identity_ne_empty_of_parse hparse (Text.lowercase_eq_empty_iff.1 he)
      exact Or.inr ⟨hhash, report, probed_append.2 (Or.inl hprobed),
        (h'.named r hmade hne).trans hnew⟩
  · have hunasked : ¬∃ report, Probed c s.hook t r report := by
      refine not_probed fun x hx hxr => ?_
      have hlt := hs.made _ (List.mem_append_left _ (h.asked x hx))
      exact hlt.not_ge (h.made ▸ hxr ▸ (h'.fresh r hr).1)
    simp only [probed_append, exists_or]
    rw [or_iff_right hunasked, ← h.hook]
    exact h'.probed r hr

/-- Discovery asks the active nodes for a document, and then takes in the members. -/
theorem discover_grows (hs : w.state.Sound given) {result : Except Failure Nat}
    (h : (discover e.config).Ends e cancel w result w₁ t) :
    ∃ t₁ t₂ s reached missed, t = t₁ ++ t₂ ∧
      Informs e.config w.state.pool.active t₁ w.state s ∧
      Grows e.config t₂ s w₁.state reached missed ∧
      (∀ k, result = .ok k → (reached ++ missed).length = k) ∧
      ∀ f, result = .error f → f.isCancellation = false → reached = [] := by
  unfold discover at h
  obtain ⟨t₁, h₁, rfl⟩ := h.of_read
  obtain ⟨found, w₂, t₂, t₃, hfirst, hrest, rfl⟩ := h₁.of_bind
  have hkeeps : (firstDocument e.config w.state.pool.active []).Keeps (Changes given) Op.Any
      w.state := (keeps_firstDocument e.config hs _ _).imp fun _ _ _ => trivial
  obtain ⟨hs₂, -⟩ := (hfirst.changes hkeeps).sound hs
  have hread : Informs e.config w.state.pool.active [.change w.now w.state w.state] w.state
      w.state := .of_steady (refl _) (.refl _) (List.forall_mem_nil _)
  have hinforms := hread.trans (firstDocument_informs hs (fun _ h => h) hfirst)
  obtain ⟨reached, missed, hgrows⟩ : ∃ reached missed,
      Grows e.config t₃ w₂.state w₁.state reached missed ∧
      (∀ k, result = .ok k → (reached ++ missed).length = k) ∧
      ∀ f, result = .error f → f.isCancellation = false → reached = [] := by
    cases found with
    | error f =>
      obtain ⟨rfl, rfl, rfl⟩ := hrest.of_done
      exact ⟨[], [], .refl _ _, fun k hk => (nomatch hk), fun _ _ _ => rfl⟩
    | ok found => exact takeIn_grows hs₂ hrest
  exact ⟨.change w.now w.state w.state :: t₂, t₃, _, reached, missed, rfl, hinforms, hgrows⟩

/-- What discovery does to the pool. The nodes that it adds come after the active and after the
inactive ones, which all stay where they are and keep their ids; only a node without a topology may
take over another id, which it has reported itself. A new node is active just if it has reported
itself. They are as many as discovery says, and if it fails for lack of members that can be reached,
or without a document, none of them is active. -/
theorem discover_frames {y : System} (hy : y.Reachable e.config) (hw : w.state = y.state) :
    ∃ result w₁ t reached missed, (discover e.config).Ends e cancel w result w₁ t ∧
      w₁.state.pool.active = w.state.pool.active ++ reached ∧
      w₁.state.pool.inactive = w.state.pool.inactive ++ missed ∧
      w₁.state.pool.members.Nodup ∧
      (∀ r ∈ reached ++ missed, w.state.nodes.length ≤ r) ∧
      (∀ r ∈ w.state.pool.members, (w.state.node r).id ≠ "" →
        (w₁.state.node r).id = (w.state.node r).id ∨
          (w.state.node r).currentTopology = "" ∧
            ∃ report, Probed e.config w.state.hook t r report ∧
              (w₁.state.node r).id = Text.lowercase report.identity) ∧
      (∀ r ∈ reached ++ missed,
        r ∈ reached ↔ ∃ report, Probed e.config w.state.hook t r report) ∧
      (∀ k, result = .ok k →
        w₁.state.pool.members.length = w.state.pool.members.length + k) ∧
      ∀ f, result = .error f → f.isCancellation = false → reached = [] := by
  have hs : w.state.Sound y.Given := hw ▸ (hy.sound Relation.ReflTransGen.refl).state
  obtain ⟨result, w₁, t, h⟩ := (discover e.config).halts e cancel w
  have hnodup := ((h.changes (keeps_discover e.config hs)).sound hs).1.distinct.nodup
  obtain ⟨t₁, t₂, s, reached, missed, rfl, hinforms, hgrows, hcounts, hfails⟩ := discover_grows hs h
  have hactive : w₁.state.pool.active = w.state.pool.active ++ reached :=
    hinforms.pool ▸ hgrows.active
  have hinactive : w₁.state.pool.inactive = w.state.pool.inactive ++ missed :=
    hinforms.pool ▸ hgrows.inactive
  obtain ⟨hnamed, hprobed⟩ := hinforms.grows hs.distinct hgrows
  refine ⟨result, w₁, _, reached, missed, h, hactive, hinactive, List.Nodup.of_map _ hnodup,
    fun r hr => hinforms.made ▸ (hgrows.fresh r hr).1, hnamed, hprobed, fun k hk => ?_, hfails⟩
  have hlength := hcounts k hk
  simp only [Pool.members, hactive, hinactive, List.length_append] at hlength ⊢
  omega

/-- A cluster of three. The first node has another id by the time it is asked for its topology, and
the last one cannot be reached. -/
def growingCluster : Setting where
  config := { servers := ["[::1]:1"] }
  transport := Script.transport
    [{ node := "http://[::3]:1", answer := .refused "down" },
     { node := "http://[::2]:1", path := "/state"
       answer := .response 200 [] (bytes "\x7b\"id\":\"c\"\x7d") none },
     { path := "/state", times := some 1
       answer := .response 200 [] (bytes "\x7b\"id\":\"a\"\x7d") none },
     { path := "/state"
       answer := .response 200 [] (bytes "\x7b\"id\":\"b\",\"current\":\"t\"\x7d") none },
     { answer := .response 200 [] (bytes ("\x7b\"nodes\":[" ++
         "\x7b\"id\":\"b\",\"address\":\"[::1]\",\"apiport\":1\x7d," ++
         "\x7b\"id\":\"d\",\"address\":\"[::3]\",\"apiport\":1\x7d," ++
         "\x7b\"id\":\"c\",\"address\":\"[::2]\",\"apiport\":1\x7d]\x7d")) none }]
  pick _ := 0
where
  bytes (s : String) : List UInt8 := s.toUTF8.toList

theorem discover_frames_in_growingCluster :
    ∃ (y : System) (w w₁ : World) (t : List Mark), y.Reachable growingCluster.config ∧
      w.state = y.state ∧
      (discover growingCluster.config).Ends growingCluster none w (.ok 2) w₁ t ∧
      w.state.pool = ⟨[0], []⟩ ∧ w₁.state.pool = ⟨[0, 2], [1]⟩ ∧
      (∃ report, Probed growingCluster.config w.state.hook t 2 report) ∧
      (¬∃ report, Probed growingCluster.config w.state.hook t 1 report) ∧
      (w.state.node 0).id = "a" ∧
      ∃ report, Probed growingCluster.config w.state.hook t 0 report ∧
        Text.lowercase report.identity = "b" := by
  have hruns : ((run growingCluster none 1 (Call.bootstrap.op growingCluster.config) {}).bind
      fun x => (run growingCluster none 1 (Call.discover.op growingCluster.config) x.2).map
        fun x' => (x.2.state.pool, (x.2.state.node 0).id, x'.1.toOption, x'.2.state.pool,
          (x'.2.state.node 0).id)) =
      some (⟨[0], []⟩, "a", some 2, ⟨[0, 2], [1]⟩, "b") := by
    decide +kernel
  obtain ⟨⟨a, w⟩, hstart, hdiscovery⟩ := Option.bind_eq_some_iff.1 hruns
  obtain ⟨⟨result, w₁⟩, hdiscover, hseen⟩ := Option.map_eq_some_iff.1 hdiscovery
  simp only [Prod.mk.injEq] at hseen
  obtain ⟨hpool, hid, hok, hpool₁, hid₁⟩ := hseen
  have hy : System.Reachable growingCluster.config ⟨w.state, [⟨.bootstrap, .done a⟩]⟩ :=
    System.Steps.of_run (y := {}) rfl hstart
  obtain ⟨result', w', t, reached, missed, hends, hactive, hinactive, -, -, hnamed, hprobed, -⟩ :=
    @discover_frames growingCluster none w _ hy rfl
  obtain ⟨t', hends'⟩ := ends_of_run hdiscover
  obtain ⟨rfl, rfl, rfl⟩ := hends.unique hends'
  have hresult : result' = .ok 2 := by
    cases result' with
    | error f => cases hok
    | ok k => exact congrArg Except.ok (Option.some.inj hok)
  subst hresult
  rw [hpool, hpool₁] at hactive hinactive
  obtain rfl : [2] = reached := List.tail_eq_of_cons_eq hactive
  obtain rfl : [1] = missed := hinactive
  refine ⟨_, w, w', t, hy, rfl, hends, hpool, hpool₁, ?_, ?_, hid, ?_⟩
  · exact (hprobed 2 (by decide)).1 (by decide)
  · exact fun hreport => absurd ((hprobed 1 (by decide)).2 hreport) (by decide)
  · have hmember : (0 : NodeRef) ∈ w.state.pool.members := by
      rw [hpool]
      decide
    have hne : (w.state.node 0).id ≠ "" := by
      rw [hid]
      decide
    obtain hsame | ⟨-, report, hreport, hnew⟩ := hnamed 0 hmember hne
    · rw [hid₁, hid] at hsame
      exact absurd hsame (by decide)
    · exact ⟨report, hreport, hnew.symm.trans hid₁⟩

end Client
end MetricRing
