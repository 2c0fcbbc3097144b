import MetricRing.Proofs.DirectRuns
import MetricRing.Proofs.Interleavings
import MetricRing.Proofs.RunExchanges

/-!
# The members that discovery finds

Discovery brings the members of a document into the pool, one after another. A member is known once
it has been merged, by its id or by its address, and a node that bears its id keeps it. But a node
that was recognized by its address alone may be moved by a later member whose id it bears. So after
discovery every member is known, unless a later one has moved the node that it was recognized by.
-/

namespace MetricRing

open MetricRing.Topology (Document Member Ring)

variable {α : Type} {e : Setting} {cancel : Option Time} {given : Ring → Prop}

/-! ### Merging one member -/

theorem Node.id_ne_empty_of_hasId {n : Node} {id : String} (h : n.hasId id = true) : n.id ≠ "" :=
  bne_iff_ne.1 (Bool.and_eq_true_iff.1 h).1

theorem Node.hasId_congr {n n' : Node} (h : n'.id = n.id) (id : String) :
    n'.hasId id = n.hasId id := by
  rw [hasId, hasId, h]

namespace State

variable {s t : State} {id address : String} {r : NodeRef}

def Knows (s : State) (id address : String) : Prop :=
  ∃ r ∈ s.pool.members, (s.node r).hasId id = true ∨ s.nodes.address r = address

theorem isSome_known?_iff : (s.known? id address).isSome ↔ s.Knows id address := by
  unfold known? Pool.findById Pool.findByAddress Knows
  rw [Option.isSome_or, Bool.or_eq_true, List.find?_isSome, List.find?_isSome]
  simp only [Pool.hasAddress_iff, and_or_left, exists_or]
  rfl

theorem of_known? {q : NodeRef} (h : s.known? id address = some q) :
    q ∈ s.pool.members ∧ ((s.node q).hasId id = true ∨ s.nodes.address q = address) := by
  obtain hfound | ⟨-, hfound⟩ := Option.or_eq_some_iff.1 h
  · exact ⟨List.mem_of_find?_eq_some hfound,
      Or.inl (List.find?_some (p := fun r => (s.nodes.node r).hasId id) hfound)⟩
  · exact ⟨List.mem_of_find?_eq_some hfound,
      Or.inr (Pool.hasAddress_iff.1 (List.find?_some hfound))⟩

@[simp] theorem pool_rename (s : State) (r : NodeRef) (id address : String) :
    (s.rename r id address).pool = s.pool := by
  unfold rename relocate nameUnnamed
  split_ifs <;> rfl

/-- Only what has no id is given one. -/
theorem id_rename (s : State) (r : NodeRef) (id address : String) {q : NodeRef}
    (hq : (s.node q).id ≠ "") : ((s.rename r id address).node q).id = (s.node q).id := by
  have named : ((s.nameUnnamed r id).node q).id = (s.node q).id := by
    unfold nameUnnamed
    split_ifs with hr
    · have hne : r ≠ q := fun h => hq (h ▸ hr)
      exact congrArg Node.id (s.nodes.node_update_ne hne _)
    · rfl
  unfold rename relocate
  split_ifs
  · rw [← named]
    exact Directory.update_keeps _ Node.id (f := fun n => n.setAddress address) (fun _ => rfl) r q
  · exact named

/-- Only the node that is renamed is moved, from elsewhere. -/
theorem address_rename (s : State) (r : NodeRef) (id address : String) (q : NodeRef) :
    (s.rename r id address).nodes.address q = s.nodes.address q ∨
      q = r ∧ (s.rename r id address).nodes.address r = address ∧ s.nodes.address r ≠ address := by
  have placed (p : NodeRef) : (s.nameUnnamed r id).nodes.address p = s.nodes.address p := by
    unfold nameUnnamed
    split_ifs
    · exact s.nodes.update_keeps Node.address (f := fun n => n.setId id) (fun _ => rfl) r p
    · rfl
  unfold rename
  generalize s.nameUnnamed r id = u at placed ⊢
  unfold relocate
  split_ifs with hfree
  · by_cases hq : r = q
    · subst q
      by_cases hr : r < u.nodes.length
      · refine Or.inr ⟨rfl, ?_, ?_⟩
        · exact congrArg Node.address (u.nodes.node_update_self hr _)
        · intro ha
          have hhere : Pool.hasAddress u.nodes address r = true :=
            Pool.hasAddress_iff.2 ((placed r).trans ha)
          have hnot := (Bool.and_eq_true_iff.1 hfree).1
          exact Bool.false_ne_true ((Bool.not_eq_true' _ ▸ hnot).symm.trans hhere)
      · refine Or.inl ((congrArg (Directory.address · r) ?_).trans (placed r))
        exact u.nodes.update_of_le (Nat.le_of_not_lt hr) _
    · exact Or.inl ((congrArg Node.address (u.nodes.node_update_ne hq _)).trans (placed q))
  · exact Or.inl (placed q)

theorem node_append_of_mem (h : s.Distinct) (n : Node) (hr : r ∈ s.pool.members) :
    Directory.node (s.nodes ++ [n]) r = s.node r := s.nodes.node_append (h.made r hr) n

theorem id_merge (h : s.Distinct) (hr : r ∈ s.pool.members) (hid : (s.node r).id ≠ "") :
    ((s.merge id address).1.node r).id = (s.node r).id := by
  unfold merge
  split
  · exact id_rename s _ id address hid
  · exact congrArg Node.id (node_append_of_mem h _ hr)

/-- A member that moves a node bears the node's id. -/
theorem address_merge (h : s.Distinct) (hr : r ∈ s.pool.members) :
    (s.merge id address).1.nodes.address r = s.nodes.address r ∨
      (s.merge id address).1.nodes.address r = address ∧ s.nodes.address r ≠ address ∧
        (s.node r).hasId id = true := by
  unfold merge
  split
  next q hq =>
    obtain hsame | ⟨rfl, hmoved, haway⟩ := address_rename s q id address r
    · exact Or.inl hsame
    · exact Or.inr ⟨hmoved, haway, (of_known? hq).2.resolve_right haway⟩
  · exact Or.inl (congrArg Node.address (node_append_of_mem h _ hr))

/-- A member that is known already is known afterwards. -/
theorem knows_merge (hn : (s.merge id address).2 = none) :
    (s.merge id address).1.Knows id address := by
  unfold merge at hn ⊢
  split at hn
  next q hq =>
    obtain ⟨hmem, hfound⟩ := of_known? hq
    refine ⟨q, (pool_rename s q id address).symm ▸ hmem, hfound.imp (fun hid => ?_) fun ha => ?_⟩
    · rw [Node.hasId_congr (id_rename s q id address (Node.id_ne_empty_of_hasId hid))]
      exact hid
    · obtain hsame | ⟨-, hmoved, -⟩ := address_rename s q id address q
      · exact hsame.trans ha
      · exact hmoved
  · cases hn

/-- A member that was not known gets a node of its own, at its address. -/
theorem merge_eq_some (h : s.Distinct) (hn : (s.merge id address).2 = some r) :
    r ∈ (s.merge id address).1.pool.members ∧ r ∉ s.pool.members ∧
      (s.merge id address).1.nodes.address r = address := by
  have hmem := Client.mem_members_merge h hn
  refine ⟨hmem, ?_⟩
  unfold merge at hn ⊢
  split at hn
  · cases hn
  · cases hn
    refine ⟨fun hr => Nat.lt_irrefl _ (h.made _ hr), ?_⟩
    exact congrArg Node.address (s.nodes.node_append_length (Node.withId id address))

end State

/-! ### Runs -/

/-- A run keeps to what its operation guarantees the others. -/
theorem Op.Ends.changes {op : Op α} {w w₁ : World} {a : α} {t : List Mark}
    (h : op.Ends e cancel w a w₁ t) (hop : op.Keeps (Changes given) Op.Any w.state) :
    Changes given w.state w₁.state := by
  induction h with
  | done a w => exact refl _
  | act _ ih => exact (hop _ (refl _)).1.trans (ih (hop _ (refl _)).2)
  | choose _ ih => exact ih (hop _)
  | clock _ ih => exact ih (hop _)
  | barred _ _ ih => exact ih (hop _)
  | exchange _ _ ih => exact ih (hop _)
  | pause _ _ ih => exact ih (hop _)
  | acquire _ ih => exact ih (hop _)
  | release _ ih => exact ih hop
  | failover _ _ ihfirst ihrest =>
    have hfirst := ihfirst (Client.keeps_failoverStep e.config _)
    exact hfirst.trans (ihrest ((hop _).mono hfirst fun _ _ => trivial))

namespace Client

variable {w w₁ : World} {t : List Mark}

-- What the address of a member is normalized to takes long to unfold.
attribute [local irreducible] Address.normalize

/-- A change of the run moves the node from the address to the one of the member, whose id the node
bears. -/
def Moves (t : List Mark) (m : Member) (r : NodeRef) (address : String) : Prop :=
  ∃ target time s s', Address.normalize m.apiUrl = .ok target ∧ target ≠ address ∧
    .change time s s' ∈ t ∧ s.nodes.address r = address ∧ s'.nodes.address r = target ∧
    (s.node r).hasId m.id = true

theorem Moves.mono {t' : List Mark} {m : Member} {r : NodeRef} {address : String}
    (h : Moves t m r address) (ht : t ⊆ t') : Moves t' m r address := by
  obtain ⟨target, time, s, s', hm, hne, hchange, hrest⟩ := h
  exact ⟨target, time, s, s', hm, hne, ht hchange, hrest⟩

structure Merges (t : List Mark) (m : Member) (s s₁ : State) : Prop where
  named : ∀ r ∈ s.pool.members, (s.node r).id ≠ "" → (s₁.node r).id = (s.node r).id
  placed : ∀ r ∈ s.pool.members,
    s₁.nodes.address r = s.nodes.address r ∨ Moves t m r (s.nodes.address r)
  known : ∀ address, Address.normalize m.apiUrl = .ok address → s₁.Knows m.id address

theorem welcome_ends {node : NodeRef} {report : NodeState} {a : Unit}
    (h : (welcome node report).Ends e cancel w a w₁ t) :
    w₁.state = (w.state.applyState node report).activate node := by
  obtain ⟨t₁, h₁, rfl⟩ := Op.Ends.of_modify h
  obtain ⟨t₂, h₂, rfl⟩ := Op.Ends.of_act h₁
  obtain ⟨-, rfl, -⟩ := h₂.of_done
  rfl

/-- A node that reports itself and is activated may get another id, but stays where it is. -/
theorem id_welcome {node r : NodeRef} {report : NodeState} {s : State} (hr : r ≠ node) :
    (((s.applyState node report).activate node).node r).id = (s.node r).id :=
  congrArg Node.id (s.nodes.node_update_ne hr.symm _)

theorem address_welcome (node r : NodeRef) (report : NodeState) (s : State) :
    ((s.applyState node report).activate node).nodes.address r = s.nodes.address r :=
  s.nodes.update_keeps Node.address (f := fun n => n.applyState report) (fun _ => rfl) node r

def introduce (c : Config) (node : NodeRef) : Op (Except Failure Merge) := do
  match ← fetchState c node with
  | .ok report =>
    welcome node report
    return .ok .added
  | .error f => if f.isCancellation then return .error f else return .ok (.addedInactive f)

/-- No node is moved, and only the new one may get another id. -/
theorem introduce_ends {node : NodeRef} {result : Except Failure Merge}
    (h : (introduce e.config node).Ends e cancel w result w₁ t) :
    (∀ r, w₁.state.nodes.address r = w.state.nodes.address r) ∧
      ∀ r ≠ node, (w₁.state.node r).id = (w.state.node r).id := by
  unfold introduce at h
  obtain ⟨report, w₂, t₁, t₂, hfetch, hrest, rfl⟩ := h.of_bind
  have hsteady : w.state.Steady w₂.state := hfetch.within (acts_fetchState e.config node)
  obtain ⟨hplaced, hnamed⟩ : (∀ r, w₁.state.nodes.address r = w₂.state.nodes.address r) ∧
      ∀ r ≠ node, (w₁.state.node r).id = (w₂.state.node r).id := by
    cases report with
    | ok report =>
      obtain ⟨_, w₃, t₃, t₄, hwelcome, hdone, -⟩ := hrest.of_bind
      obtain ⟨-, rfl, -⟩ := hdone.of_done
      rw [welcome_ends hwelcome]
      exact ⟨fun r => address_welcome node r report _, fun r hr => id_welcome hr⟩
    | error f =>
      have hsame : w₁ = w₂ := by
        dsimp only at hrest
        split_ifs at hrest
        · exact hrest.of_done.2.1
        · exact hrest.of_done.2.1
      rw [hsame]
      exact ⟨fun _ => rfl, fun _ _ => rfl⟩
  exact ⟨fun r => (hplaced r).trans (hsteady.placed r),
    fun r hr => (hnamed r hr).trans (hsteady.named r)⟩

theorem mergeMember_ends (hs : w.state.Sound given) {m : Member} {result : Except Failure Merge}
    (h : (mergeMember e.config m).Ends e cancel w result w₁ t) : Merges t m w.state w₁.state := by
  have hkeeps := keeps_mergeMember e.config hs m
  unfold mergeMember at h hkeeps
  split at h
  next f hf =>
    obtain ⟨-, rfl, rfl⟩ := h.of_done
    exact ⟨fun _ _ _ => rfl, fun _ _ => Or.inl rfl, fun a ha => by cases hf.symm.trans ha⟩
  next address ha =>
    obtain ⟨t', h', rfl⟩ := h.of_update
    have moves {r : NodeRef} (hr : r ∈ w.state.pool.members) :
        (w.state.merge m.id address).1.nodes.address r = w.state.nodes.address r ∨
          Moves (.change w.now w.state (w.state.merge m.id address).1 :: t') m r
            (w.state.nodes.address r) := by
      refine (State.address_merge hs.distinct hr).imp_right ?_
      rintro ⟨hmoved, haway, hid⟩
      exact ⟨address, _, _, _, ha, haway.symm, List.mem_cons_self, rfl, hmoved, hid⟩
    cases hmerged : (w.state.merge m.id address).2 with
    | none =>
      rw [hmerged] at h'
      obtain ⟨-, rfl, rfl⟩ := h'.of_done
      refine ⟨fun r hr => State.id_merge hs.distinct hr, fun r hr => moves hr, fun a ha' => ?_⟩
      cases ha.symm.trans ha'
      exact State.knows_merge hmerged
    | some node =>
      rw [hmerged] at h'
      obtain ⟨hmem, hnew, hplaced⟩ := State.merge_eq_some hs.distinct hmerged
      have hpooled : node ∈ w₁.state.pool.members := by
        rw [ha] at hkeeps
        have hstep : Change given w.state (w.state.merge m.id address).1 := .merge m.id address
        obtain ⟨-, hrest⟩ := hkeeps w.state (refl _)
        dsimp only at hrest
        rw [hmerged] at hrest
        exact ((h'.changes hrest).sound (hstep.sound hs).1).2.pooled node hmem
      -- The node is none of the old ones, which therefore keep their ids.
      obtain ⟨hstays, hlasts⟩ := introduce_ends h'
      refine ⟨fun r hr hid => ?_, fun r hr => ?_, fun a ha' => ?_⟩
      · rw [hlasts r fun h => hnew (h ▸ hr)]
        exact State.id_merge hs.distinct hr hid
      · rw [hstays]
        exact moves hr
      · cases ha.symm.trans ha'
        exact ⟨node, hpooled, Or.inr ((hstays node).trans hplaced)⟩

/-! ### Merging all members -/

structure MergesAll (t : List Mark) (members : List Member) (s s₁ : State) : Prop where
  named : ∀ r ∈ s.pool.members, (s.node r).id ≠ "" → (s₁.node r).id = (s.node r).id
  placed : ∀ r ∈ s.pool.members, s₁.nodes.address r = s.nodes.address r ∨
    ∃ m ∈ members, Moves t m r (s.nodes.address r)
  known : ∀ before m after address, members = before ++ m :: after →
    Address.normalize m.apiUrl = .ok address →
      s₁.Knows m.id address ∨ ∃ m' ∈ after, ∃ r, Moves t m' r address

/-- What is known stays known, unless a node is moved. -/
theorem MergesAll.knows {members : List Member} {s s₁ : State} {id address : String}
    (h : MergesAll t members s s₁) (hst : s.Extends s₁) (hk : s.Knows id address) :
    s₁.Knows id address ∨ ∃ m ∈ members, ∃ r, Moves t m r address := by
  obtain ⟨r, hr, hid | rfl⟩ := hk
  · refine Or.inl ⟨r, hst.pooled r hr, Or.inl ?_⟩
    rw [Node.hasId_congr (h.named r hr (Node.id_ne_empty_of_hasId hid))]
    exact hid
  · obtain hsame | ⟨m, hm, hmoves⟩ := h.placed r hr
    · exact Or.inl ⟨r, hst.pooled r hr, Or.inr hsame⟩
    · exact Or.inr ⟨m, hm, r, hmoves⟩

theorem Merges.cons {t' : List Mark} {m : Member} {rest : List Member} {s s₁ s₂ : State}
    (h : Merges t m s s₁) (h' : MergesAll t' rest s₁ s₂) (hs : s.Extends s₁)
    (hs₁ : s₁.Extends s₂) : MergesAll (t ++ t') (m :: rest) s s₂ := by
  have later {m' : Member} {r : NodeRef} {a : String} (hm : Moves t' m' r a) :
      Moves (t ++ t') m' r a := hm.mono (List.subset_append_right t t')
  refine ⟨fun r hr hid => ?_, fun r hr => ?_, fun before m' after a hsplit ha => ?_⟩
  · rw [h'.named r (hs.pooled r hr) (hs.named r hid), h.named r hr hid]
  · obtain hsame | hmoves := h.placed r hr
    · obtain hsame' | ⟨m', hm', hmoves⟩ := h'.placed r (hs.pooled r hr)
      · exact Or.inl (hsame'.trans hsame)
      · rw [hsame] at hmoves
        exact Or.inr ⟨m', List.mem_cons_of_mem m hm', later hmoves⟩
    · exact Or.inr ⟨m, List.mem_cons_self, hmoves.mono (List.subset_append_left t t')⟩
  · have widen (hknown : s₂.Knows m'.id a ∨ ∃ m'' ∈ after, ∃ r, Moves t' m'' r a) :
        s₂.Knows m'.id a ∨ ∃ m'' ∈ after, ∃ r, Moves (t ++ t') m'' r a :=
      hknown.imp_right fun ⟨m'', hm'', r, hmoves⟩ => ⟨m'', hm'', r, later hmoves⟩
    -- The member is known once it is merged; what comes after it may still move its node.
    cases before with
    | nil =>
      obtain ⟨rfl, rfl⟩ := List.cons.inj hsplit
      exact widen (h'.knows hs₁ (h.known a ha))
    | cons m₀ before =>
      obtain ⟨-, hsplit⟩ := List.cons.inj hsplit
      exact widen (h'.known before m' after a hsplit ha)

theorem mergeAll_ends (hs : w.state.Sound given) {members : List Member} {tally result : Tally}
    (h : (mergeAll e.config members tally).Ends e cancel w (.ok result) w₁ t) :
    MergesAll t members w.state w₁.state := by
  induction members generalizing w tally t with
  | nil =>
    obtain ⟨-, rfl, rfl⟩ := h.of_done
    exact ⟨fun _ _ _ => rfl, fun _ _ => Or.inl rfl, fun before _ _ _ hsplit => by simp at hsplit⟩
  | cons m rest ih =>
    unfold mergeAll at h
    obtain ⟨merged, w₂, t₁, t₂, hmember, hrest, rfl⟩ := h.of_bind
    obtain ⟨hs₂, hlasts⟩ := (hmember.changes (keeps_mergeMember e.config hs m)).sound hs
    split at hrest
    · cases hrest.of_done.1
    · have hlasts₂ := ((hrest.changes (keeps_mergeAll e.config hs₂ _ _)).sound hs₂).2
      exact (mergeMember_ends hs hmember).cons (ih hs₂ hrest) hlasts hlasts₂

/-! ### Discovery -/

def Fetched (t : List Mark) (d : Document) : Prop :=
  ∃ response, Answered t response ∧ readDocument response.body = .ok d

theorem Fetched.mono {t' : List Mark} {d : Document} (h : Fetched t d) (ht : t ⊆ t') :
    Fetched t' d := by
  obtain ⟨response, hanswered, hread⟩ := h
  exact ⟨response, hanswered.mono ht, hread⟩

theorem fetchDocument_ends {node : NodeRef} {hash : String} {d : Document}
    (h : (fetchDocument e.config node hash).Ends e cancel w (.ok d) w₁ t) : Fetched t d := by
  unfold fetchDocument at h
  obtain ⟨result, w₂, t₁, t₂, hrequest, hrest, rfl⟩ := h.of_bind
  cases result with
  | error f => cases hrest.of_done.1
  | ok response =>
    obtain ⟨hread, -, -⟩ := hrest.of_done
    exact ⟨response, (nodeRequest_answered hrequest).2.mono (List.subset_append_left t₁ t₂),
      hread.symm⟩

theorem firstDocument_ends {nodes : List NodeRef} {failures : List Failure} {node : NodeRef}
    {d : Document}
    (h : (firstDocument e.config nodes failures).Ends e cancel w (.ok (node, d)) w₁ t) :
    Fetched t d := by
  induction nodes generalizing w t failures with
  | nil => cases h.of_done.1
  | cons asked rest ih =>
    unfold firstDocument at h
    obtain ⟨known, w₂, t₁, t₂, -, hrest, rfl⟩ := h.of_bind
    refine Fetched.mono ?_ (List.subset_append_right t₁ t₂)
    cases known with
    | error f =>
      dsimp only at hrest
      split_ifs at hrest
      · cases hrest.of_done.1
      · exact ih hrest
    | ok hash =>
      dsimp only at hrest
      split_ifs at hrest
      · exact ih hrest
      · obtain ⟨result, w₃, t₃, t₄, hfetch, hlast, rfl⟩ := hrest.of_bind
        cases result with
        | ok found =>
          obtain ⟨hfound, -, -⟩ := hlast.of_done
          cases hfound
          exact (fetchDocument_ends hfetch).mono (List.subset_append_left t₃ t₄)
        | error f =>
          dsimp only at hlast
          split_ifs at hlast
          · cases hlast.of_done.1
          · exact (ih hlast).mono (List.subset_append_right t₃ t₄)

theorem installDocument_ends {d : Document} {hash : String} {failures : List Failure}
    (h : (installDocument d hash).Ends e cancel w failures w₁ t) :
    w₁.state.nodes = w.state.nodes ∧ w₁.state.pool = w.state.pool ∧
      w₁.state.compilations.getLast? = some ⟨d, hash⟩ := by
  have hlast : (w.state.noteCompilation ⟨d, hash⟩).compilations.getLast? = some ⟨d, hash⟩ :=
    List.getLast?_concat
  unfold installDocument at h
  obtain ⟨compiled, w₂, t₁, t₂, hcompile, hrest, rfl⟩ := h.of_bind
  obtain ⟨t₀, hcompiled, rfl⟩ := hcompile.of_modify
  obtain ⟨-, rfl, -⟩ := hcompiled.of_done
  cases compiled with
  | ok ring =>
    obtain ⟨t₃, hdone, rfl⟩ := hrest.of_update
    obtain ⟨-, rfl, -⟩ := hdone.of_done
    exact ⟨rfl, rfl, hlast⟩
  | error f =>
    obtain ⟨-, rfl, -⟩ := hrest.of_done
    exact ⟨rfl, rfl, hlast⟩

/-- After discovery every member of the document that was fetched and compiled is known by its id or
by its address, unless a member further down in the document has moved a node away from there. -/
theorem discover_knows_members {y : System} (hy : y.Reachable e.config) (hw : w.state = y.state)
    {n : Nat} (h : (discover e.config).Ends e cancel w (.ok n) w₁ t) :
    ∃ d hash, Fetched t d ∧ w₁.state.compilations.getLast? = some ⟨d, hash⟩ ∧
      ∀ before m after address, d.members = before ++ m :: after →
        Address.normalize m.apiUrl = .ok address →
          (w₁.state.known? m.id address).isSome ∨
            ∃ m' ∈ after, ∃ r, Moves t m' r address := by
  have hs : w.state.Sound y.Given := hw ▸ (hy.sound (Relation.ReflTransGen.refl)).state
  unfold discover at h
  obtain ⟨t₁, h₁, rfl⟩ := h.of_read
  obtain ⟨found, w₂, t₂, t₃, hfirst, hrest, rfl⟩ := h₁.of_bind
  have hkeeps : (firstDocument e.config w.state.pool.active []).Keeps (Changes y.Given) Op.Any
      w.state := (keeps_firstDocument e.config hs _ _).imp fun _ _ _ => trivial
  obtain ⟨hs₂, -⟩ := (hfirst.changes hkeeps).sound hs
  cases found with
  | error f => cases hrest.of_done.1
  | ok found =>
    obtain ⟨source, d⟩ := found
    have hfetched : Fetched t₂ d := firstDocument_ends hfirst
    obtain ⟨t₄, h₄, rfl⟩ := hrest.of_read
    obtain ⟨tally, w₃, t₅, t₆, hmembers, hrest₅, rfl⟩ := h₄.of_bind
    cases tally with
    | error f => cases hrest₅.of_done.1
    | ok tally =>
      have hmerges := mergeAll_ends hs₂ hmembers
      obtain ⟨failures, w₄, t₇, t₈, hinstall, hdone, rfl⟩ := hrest₅.of_bind
      obtain ⟨hnodes, hpool, hlast⟩ := installDocument_ends hinstall
      have hw₁ : w₁ = w₄ := by
        dsimp only at hdone
        split_ifs at hdone
        · exact hdone.of_done.2.1
        · exact hdone.of_done.2.1
      rw [hw₁]
      refine ⟨d, _, hfetched.mono fun x hx => ?_, hlast, fun before m after address hsplit ha => ?_⟩
      · exact List.mem_cons_of_mem _ (List.mem_append_left _ hx)
      refine (hmerges.known before m after address hsplit ha).imp (fun hknows => ?_) ?_
      · rw [State.isSome_known?_iff]
        unfold State.Knows State.node
        rw [hnodes, hpool]
        exact hknows
      · rintro ⟨m', hm', r, hmoves⟩
        refine ⟨m', hm', r, hmoves.mono fun x hx => ?_⟩
        simp only [List.mem_cons, List.mem_append]
        tauto

theorem discover_knows_last_in_movingCluster :
    ∃ (y : System) (w w₁ : World) (t : List Mark) (n : Nat) (d : Document) (hash : String),
      y.Reachable System.movingCluster.config ∧ w.state = y.state ∧
      (discover System.movingCluster.config).Ends System.movingCluster none w (.ok n) w₁ t ∧
      w₁.state.compilations.getLast? = some ⟨d, hash⟩ ∧ d.members.length = 2 ∧
      ∀ m ∈ d.members.getLast?, ∀ address, Address.normalize m.apiUrl = .ok address →
        (w₁.state.known? m.id address).isSome := by
  have hruns : ((run System.movingCluster none 1
      (Call.bootstrap.op System.movingCluster.config) {}).bind fun x =>
        (run System.movingCluster none 1 (Call.discover.op System.movingCluster.config) x.2).map
          fun x' => (x'.1.toOption.isSome,
            x'.2.state.compilations.getLast?.map (·.document.members.length))) =
      some (true, some 2) := by
    decide +kernel
  obtain ⟨⟨a, w⟩, hstart, hdiscovery⟩ := Option.bind_eq_some_iff.1 hruns
  obtain ⟨⟨result, w₁⟩, hdiscover, hseen⟩ := Option.map_eq_some_iff.1 hdiscovery
  obtain ⟨hok, hcompiled⟩ := Prod.mk.inj hseen
  cases result with
  | error f => cases hok
  | ok n =>
    have hy : System.Reachable System.movingCluster.config ⟨w.state, [⟨.bootstrap, .done a⟩]⟩ :=
      System.Steps.of_run (y := {}) rfl hstart
    obtain ⟨t, ht⟩ := ends_of_run hdiscover
    obtain ⟨d, hash, -, hlast, hknown⟩ := discover_knows_members hy rfl ht
    dsimp only at hcompiled
    rw [hlast] at hcompiled
    refine ⟨_, w, w₁, t, n, d, hash, hy, rfl, ht, hlast, Option.some.inj hcompiled, ?_⟩
    intro m hm address ha
    have hsplit : d.members = d.members.dropLast ++ m :: [] :=
      (List.dropLast_append_getLast? m hm).symm
    refine (hknown _ m [] address hsplit ha).resolve_right ?_
    rintro ⟨m', hm', -⟩
    exact List.not_mem_nil hm'

/-- A cluster whose document lists a member at the address of a node, and then that node
elsewhere. -/
def swappedCluster : Setting where
  config := { servers := ["[::1]:1"] }
  transport := Script.transport
    [{ path := "/state"
       answer := .response 200 [] (bytes "\x7b\"id\":\"a\",\"current\":\"t\"\x7d") none },
     { answer := .response 200 [] (bytes ("\x7b\"nodes\":[" ++
         "\x7b\"id\":\"b\",\"address\":\"[::1]\",\"apiport\":1\x7d," ++
         "\x7b\"id\":\"a\",\"address\":\"[::2]\",\"apiport\":1\x7d]\x7d")) none }]
  pick _ := 0
where
  bytes (s : String) : List UInt8 := s.toUTF8.toList

/-- The member is taken for the node, the node moves, and nobody stands for the member. -/
theorem discover_loses_member :
    ∃ (y : System) (w w₁ : World) (t : List Mark) (d : Document) (hash address : String)
      (m : Member),
      y.Reachable swappedCluster.config ∧ w.state = y.state ∧
      (discover swappedCluster.config).Ends swappedCluster none w (.ok 0) w₁ t ∧
      w₁.state.compilations.getLast? = some ⟨d, hash⟩ ∧ m ∈ d.members ∧
      Address.normalize m.apiUrl = .ok address ∧ w₁.state.known? m.id address = none := by
  have hruns : ((run swappedCluster none 1 (Call.bootstrap.op swappedCluster.config) {}).bind
      fun x => (run swappedCluster none 1 (Call.discover.op swappedCluster.config) x.2).map
        fun x' => (x'.1.toOption, x'.2.state.compilations.getLast?.bind fun k =>
          k.document.members.head?.bind fun m => (Address.normalize m.apiUrl).toOption.map fun a =>
            x'.2.state.known? m.id a)) =
      some (some 0, some none) := by
    decide +kernel
  obtain ⟨⟨a, w⟩, hstart, hdiscovery⟩ := Option.bind_eq_some_iff.1 hruns
  obtain ⟨⟨result, w₁⟩, hdiscover, hseen⟩ := Option.map_eq_some_iff.1 hdiscovery
  obtain ⟨hok, hunknown⟩ := Prod.mk.inj hseen
  obtain ⟨⟨d, hash⟩, hlast, hmember⟩ := Option.bind_eq_some_iff.1 hunknown
  obtain ⟨m, hm, haddress⟩ := Option.bind_eq_some_iff.1 hmember
  obtain ⟨address, ha, hnone⟩ := Option.map_eq_some_iff.1 haddress
  have hy : System.Reachable swappedCluster.config ⟨w.state, [⟨.bootstrap, .done a⟩]⟩ :=
    System.Steps.of_run (y := {}) rfl hstart
  obtain ⟨t, ht⟩ := ends_of_run hdiscover
  have hresult : result = .ok 0 := by
    cases result with
    | error f => cases hok
    | ok n => exact congrArg Except.ok (Option.some.inj hok)
  have hnormal : Address.normalize m.apiUrl = .ok address := by
    cases hx : Address.normalize m.apiUrl with
    | error f =>
      rw [hx] at ha
      cases ha
    | ok a =>
      rw [hx] at ha
      exact congrArg Except.ok (Option.some.inj ha)
  subst hresult
  exact ⟨_, w, w₁, t, d, hash, address, m, hy, rfl, ht, hlast, List.mem_of_head? hm, hnormal, hnone⟩

end Client
end MetricRing
