import MetricRing.Proofs.Guarantees

/-!
# What calls guarantee

Every call of a client stays within `Changes`, whatever other calls do within `Changes` in the
meantime. What makes a section legitimate is often learned some exchanges earlier: that a node is
in the pool, that its topology is known, that a ring was checked. Such knowledge lasts.
-/

namespace MetricRing

open MetricRing.Topology (Document Member Ring)

namespace Client

-- Operations that start with an address are not to be unfolded into the reading of addresses.
attribute [local irreducible] Address.normalize

variable (c : Config) {given : Ring → Prop} {s : State}

/-! ### Reports -/

theorem identity_ne_empty_of_parse {body : List UInt8} {report : NodeState}
    (h : NodeState.parse body = .ok report) : report.identity ≠ "" := by
  unfold NodeState.parse at h
  split at h
  · unfold NodeState.ofValue at h
    dsimp only at h
    split_ifs at h with he
    exact (Except.ok.inj h) ▸ he
  · cases h

theorem keeps_fetchState (node : NodeRef) : (fetchState c node).Keeps (Changes given)
    (fun _ result => ∀ report, result = .ok report → report.identity ≠ "") s := by
  unfold fetchState
  apply (keeps_nodeRequest c node _).bind
  intro t outcome _ _
  cases outcome with
  | error f => exact fun _ h => nomatch h
  | ok response => exact fun _ h => identity_ne_empty_of_parse h

theorem keeps_fetchGossip (node : NodeRef) :
    (fetchGossip c node).Keeps (Changes given) Op.Any s := by
  unfold fetchGossip
  apply (keeps_nodeRequest c node _).bind
  intro t outcome _ _
  cases outcome <;> trivial

theorem keeps_fetchDocument (node : NodeRef) (hash : String) :
    (fetchDocument c node hash).Keeps (Changes given) Op.Any s := by
  unfold fetchDocument
  apply (keeps_nodeRequest c node _).bind
  intro t outcome _ _
  cases outcome <;> trivial

/-! ### Owners -/

def Handed (given : Ring → Prop) (t : State) (result : Except Failure Compiled) : Prop :=
  ∀ compiled, result = .ok compiled → t.Vouches given compiled.ring

theorem keeps_compile (d : Document) {hash : String} (hd : hash ≠ "") :
    (compile d hash).Keeps (Changes given)
      (fun t result => ∀ ring, result = .ok ring → t.Vouches given ring) s := by
  unfold compile
  refine Op.keeps_modify fun t _ => ⟨.single (.noteCompilation ⟨d, hash⟩ hd), ?_⟩
  intro ring h
  refine Or.inr ⟨⟨d, hash⟩, List.mem_append_right _ (List.mem_singleton.2 rfl), ?_⟩
  apply Compilation.passes_of_compiles hd
  unfold compileDocument at h
  split at h
  next r hr => exact (Except.ok.inj h) ▸ hr
  next => cases h

theorem keeps_loadFrom (node : NodeRef) {hash : String} (hd : hash ≠ "") :
    (loadFrom c node hash).Keeps (Changes given)
      (fun t result => ∀ ring, result = .ok ring → t.Vouches given ring) s := by
  unfold loadFrom
  apply (keeps_fetchDocument c node hash).bind
  intro t d _ _
  cases d with
  | error f => exact fun _ h => nomatch h
  | ok d => exact keeps_compile d hd

theorem keeps_loadFirst (hs : s.Sound given) (wanted : String) (nodes : List NodeRef)
    (failures : List Failure) :
    (loadFirst c wanted nodes failures).Keeps (Changes given) (Handed given) s := by
  induction nodes generalizing s failures with
  | nil => exact fun _ h => nomatch h
  | cons node rest ih =>
    unfold loadFirst
    apply Op.keeps_read
    intro t ht
    have htSound := (ht.sound hs).1
    dsimp only
    generalize (if wanted = "" then (t.node node).currentTopology else wanted) = hash
    by_cases he : hash = ""
    · rw [if_pos he]
      exact ih htSound failures
    · rw [if_neg he]
      apply (keeps_loadFrom c node he).bind
      intro u loaded hu hring
      have huSound := (hu.sound htSound).1
      cases loaded with
      | ok ring =>
        apply Op.keeps_update
        intro v hv
        obtain ⟨hvSound, huv⟩ := hv.sound huSound
        have hvouch := (hring ring rfl).mono huv
        have hstep : Change given v (v.install ring).1 := .install ring hvouch
        refine ⟨.single hstep, ?_⟩
        rintro compiled ⟨⟩
        exact hvouch.mono (hstep.sound hvSound).2
      | error f =>
        dsimp only
        split_ifs
        · exact fun _ h => nomatch h
        · exact ih huSound _

/-- A kept ring that is handed out. -/
theorem handed_of_compiled (hs : s.Sound given) {compiled : Compiled}
    (h : s.compiled = some compiled) : Handed given s (.ok compiled) := by
  rintro _ ⟨⟩
  exact hs.vouched compiled h

theorem keeps_loadLocked (hs : s.Sound given) :
    (loadLocked c).Keeps (Changes given) (Handed given) s := by
  unfold loadLocked
  apply Op.keeps_read
  intro t ht
  have htSound := (ht.sound hs).1
  cases hc : t.compiled with
  | some compiled => exact handed_of_compiled htSound hc
  | none =>
    apply Op.keeps_read
    intro u hu
    apply Op.keeps_read
    intro v hv
    exact keeps_loadFirst c (hv.sound (hu.sound htSound).1).1 _ _ _

theorem keeps_topology (hs : s.Sound given) :
    (topology c).Keeps (Changes given) (Handed given) s := by
  unfold topology
  apply Op.keeps_read
  intro t ht
  have htSound := (ht.sound hs).1
  cases hc : t.compiled with
  | some compiled => exact handed_of_compiled htSound hc
  | none =>
    apply Op.keeps_lock
    intro result
    cases result with
    | error i => exact fun _ h => nomatch h
    | ok _ => exact (keeps_loadLocked c htSound).bind fun u loaded _ h => Op.keeps_unlock h

theorem keeps_locate (hs : s.Sound given) (owner metric : String) :
    (locate c owner metric).Keeps (Changes given) Op.Any s := by
  unfold locate
  apply (keeps_topology c hs).bind
  intro t loaded _ _
  cases loaded <;> trivial

theorem keeps_activeNode (ids : List String) :
    (activeNode ids).Keeps (Changes given) Op.Any s := by
  unfold activeNode
  apply Op.keeps_read
  intro t _
  split
  · trivial
  · exact Op.keeps_oneOf fun _ => trivial

theorem keeps_preferredNode (hs : s.Sound given) (owner metric : String) :
    (preferredNode c owner metric).Keeps (Changes given) Op.Any s := by
  unfold preferredNode
  apply (keeps_topology c hs).bind
  intro t loaded _ _
  cases loaded with
  | error f => trivial
  | ok compiled =>
    dsimp only
    split
    · trivial
    · exact (keeps_activeNode _).bind fun u node _ _ => trivial

theorem keeps_metricRequest (hs : s.Sound given) (owner metric : String) (r : Request) :
    (metricRequest c owner metric r).Keeps (Changes given) Op.Any s := by
  unfold metricRequest
  split_ifs
  · exact keeps_request c r
  · apply (keeps_preferredNode c hs owner metric).bind
    intro t node _ _
    cases node with
    | ok node => exact keeps_request c _
    | error f =>
      dsimp only
      split_ifs
      · trivial
      · exact keeps_request c r

/-! ### Discovery -/

/-- A hash that a node is known by is one that it knows itself. -/
def Known (node : NodeRef) (t : State) (result : Except Failure String) : Prop :=
  ∀ hash, result = .ok hash → hash ≠ "" → (t.node node).currentTopology ≠ ""

theorem keeps_knownHash (node : NodeRef) :
    (knownHash c node).Keeps (Changes given) (Known node) s := by
  unfold knownHash
  apply Op.keeps_read
  intro t ht
  split_ifs with he
  · rintro hash ⟨⟩ hne
    exact hne
  · apply (keeps_fetchState c node).bind
    intro u report hu hreport
    cases report with
    | error f => exact fun _ h => nomatch h
    | ok report =>
      have hr := hreport report rfl
      refine Op.keeps_modify fun v hv => ⟨.single (.applyState node report hr), ?_⟩
      apply Op.keeps_read
      intro w _
      rintro hash ⟨⟩ hne
      exact hne

/-- The node whose document was read knows its topology. -/
def Sourced (t : State) (result : Except Failure (NodeRef × Document)) : Prop :=
  ∀ node d, result = .ok (node, d) → (t.node node).currentTopology ≠ ""

theorem keeps_firstDocument (hs : s.Sound given) (nodes : List NodeRef) (failures : List Failure) :
    (firstDocument c nodes failures).Keeps (Changes given) Sourced s := by
  induction nodes generalizing s failures with
  | nil => exact fun _ _ h => nomatch h
  | cons node rest ih =>
    unfold firstDocument
    apply (keeps_knownHash c node).bind
    intro t hash ht hknown
    have htSound := (ht.sound hs).1
    cases hash with
    | error f =>
      dsimp only
      split_ifs
      · exact fun _ _ h => nomatch h
      · exact ih htSound _
    | ok hash =>
      dsimp only
      split_ifs with he
      · exact ih htSound failures
      · apply (keeps_fetchDocument c node hash).bind
        intro u d hu _
        obtain ⟨huSound, htu⟩ := hu.sound htSound
        cases d with
        | ok d =>
          rintro _ _ ⟨⟩
          exact htu.informed node (hknown hash rfl he)
        | error f =>
          dsimp only
          split_ifs
          · exact fun _ _ h => nomatch h
          · exact ih huSound _

/-- A node of the pool that reported itself is activated. -/
theorem keeps_welcome (hs : s.Sound given) {node : NodeRef} (hn : node ∈ s.pool.members)
    {report : NodeState} (hr : report.identity ≠ "") :
    (welcome node report).Keeps (Changes given) Op.Any s := by
  unfold welcome
  apply Op.keeps_modify
  intro t ht
  obtain ⟨htSound, hst⟩ := ht.sound hs
  have hstep : Change given t (t.applyState node report) := .applyState node report hr
  obtain ⟨huSound, htu⟩ := hstep.sound htSound
  refine ⟨.single hstep, fun v hv => ?_⟩
  have huv := (hv.sound huSound).2
  have hmade := htSound.distinct.made node (hst.pooled node hn)
  have hid : ((t.applyState node report).node node).id ≠ "" := State.id_applyState_ne_empty hmade hr
  have hpooled := huv.pooled node (htu.pooled node (hst.pooled node hn))
  exact ⟨.single (.activate node hpooled (huv.named node hid)), trivial⟩

theorem mem_members_merge (hs : s.Distinct) {id address : String} {node : NodeRef}
    (h : (s.merge id address).2 = some node) : node ∈ (s.merge id address).1.pool.members := by
  unfold State.merge at h ⊢
  split at h
  · cases h
  next hnone =>
    cases h
    have hfree := Pool.findByAddress_eq_none_iff.1 (Option.or_eq_none_iff.1 hnone).2
    exact hs.mem_members_addNode (n := Node.withId id address) hfree

theorem mem_members_seed (hs : s.Distinct) {address : String} {node : NodeRef}
    (h : (s.seed address).2 = some node) : node ∈ (s.seed address).1.pool.members := by
  unfold State.seed at h ⊢
  split at h
  · cases h
  next hnone =>
    cases h
    have hfree := Pool.findByAddress_eq_none_iff.1 hnone
    exact hs.mem_members_addNode (n := { address }) hfree

theorem keeps_mergeMember (hs : s.Sound given) (m : Member) :
    (mergeMember c m).Keeps (Changes given) Op.Any s := by
  unfold mergeMember
  split
  · trivial
  next address _ =>
    apply Op.keeps_update
    intro t ht
    have htSound := (ht.sound hs).1
    have hstep : Change given t (t.merge m.id address).1 := .merge m.id address
    refine ⟨.single hstep, ?_⟩
    cases hmerged : (t.merge m.id address).2 with
    | none => trivial
    | some node =>
      have hnode := mem_members_merge htSound.distinct hmerged
      apply (keeps_fetchState c node).bind
      intro u report hu hreport
      obtain ⟨huSound, htu⟩ := hu.sound (hstep.sound htSound).1
      cases report with
      | ok report =>
        apply (keeps_welcome huSound (htu.pooled node hnode) (hreport report rfl)).bind
        exact fun _ _ _ _ => trivial
      | error f =>
        dsimp only
        split_ifs <;> trivial

theorem keeps_mergeAll (hs : s.Sound given) (members : List Member) (tally : Tally) :
    (mergeAll c members tally).Keeps (Changes given) Op.Any s := by
  induction members generalizing s tally with
  | nil => trivial
  | cons m rest ih =>
    unfold mergeAll
    apply (keeps_mergeMember c hs m).bind
    intro t merged ht _
    split
    · trivial
    · exact ih (ht.sound hs).1 _

theorem keeps_installDocument (hs : s.Sound given) (d : Document) {hash : String} (hd : hash ≠ "") :
    (installDocument d hash).Keeps (Changes given) Op.Any s := by
  unfold installDocument
  apply (keeps_compile d hd).bind
  intro t result ht hring
  have htSound := (ht.sound hs).1
  cases result with
  | error f => trivial
  | ok ring =>
    refine Op.keeps_update fun u hu => ⟨.single (.install ring ?_), trivial⟩
    exact (hring ring rfl).mono (hu.sound htSound).2

theorem keeps_discover (hs : s.Sound given) : (discover c).Keeps (Changes given) Op.Any s := by
  unfold discover
  apply Op.keeps_read
  intro t ht
  have htSound := (ht.sound hs).1
  apply (keeps_firstDocument c htSound _ _).bind
  intro u found hu hsource
  have huSound := (hu.sound htSound).1
  cases found with
  | error f => trivial
  | ok found =>
    obtain ⟨source, d⟩ := found
    apply Op.keeps_read
    intro v hv
    obtain ⟨hvSound, huv⟩ := hv.sound huSound
    have hhash := huv.informed source (hsource source d rfl)
    apply (keeps_mergeAll c hvSound _ _).bind
    intro w tally hw _
    cases tally with
    | error f => trivial
    | ok tally =>
      apply (keeps_installDocument (hw.sound hvSound).1 d hhash).bind
      intro x failures _ _
      dsimp only
      split_ifs <;> trivial

/-! ### Start -/

theorem keeps_probeSeeds (hs : s.Sound given) (addresses : List String) (failures : List Failure) :
    (probeSeeds c addresses failures).Keeps (Changes given) Op.Any s := by
  induction addresses generalizing s failures with
  | nil => trivial
  | cons address rest ih =>
    unfold probeSeeds
    apply Op.keeps_update
    intro t ht
    have htSound := (ht.sound hs).1
    have hstep : Change given t (t.seed address).1 := .seed address
    have huSound := (hstep.sound htSound).1
    refine ⟨.single hstep, ?_⟩
    cases hseeded : (t.seed address).2 with
    | none => exact ih huSound failures
    | some node =>
      have hnode := mem_members_seed htSound.distinct hseeded
      apply (keeps_fetchState c node).bind
      intro u report hu hreport
      obtain ⟨hvSound, huv⟩ := hu.sound huSound
      cases report with
      | ok report =>
        apply (keeps_welcome hvSound (huv.pooled node hnode) (hreport report rfl)).bind
        exact fun w _ hw _ => ih (hw.sound hvSound).1 failures
      | error f =>
        dsimp only
        split_ifs
        · trivial
        · exact ih hvSound _

theorem keeps_adoptFirst : adoptFirst.Keeps (Changes given) Op.Any s := by
  unfold adoptFirst
  apply Op.keeps_read
  intro t _
  split
  · trivial
  · apply Op.keeps_read
    intro u _
    split_ifs
    · exact keeps_section fun v => .setTopology _
    · trivial

theorem keeps_discoverAtStart (hs : s.Sound given) :
    (discoverAtStart c).Keeps (Changes given) Op.Any s := by
  unfold discoverAtStart
  apply Op.keeps_read
  intro t ht
  split_ifs
  · exact (keeps_discover c (ht.sound hs).1).bind fun _ _ _ _ => trivial
  · trivial

theorem keeps_bootstrap (hs : s.Sound given) : (bootstrap c).Keeps (Changes given) Op.Any s := by
  unfold bootstrap
  split
  · trivial
  · apply (keeps_probeSeeds c hs _ _).bind
    intro t probed ht _
    have htSound := (ht.sound hs).1
    cases probed with
    | error f => trivial
    | ok failures =>
      apply (keeps_adoptFirst).bind
      intro u _ hu _
      apply (keeps_discoverAtStart c (hu.sound htSound).1).bind
      intro v found _ _
      cases found with
      | some f => trivial
      | none =>
        apply Op.keeps_read
        intro w _
        split_ifs <;> trivial

/-! ### Health -/

/-- A node that was found healthy has an id, provided that it has been `made`. -/
def Identified (made : Prop) (node : NodeRef) (t : State) (result : Except Failure Bool) : Prop :=
  made → result = .ok true → (t.node node).id ≠ ""

theorem keeps_checkGossip (hs : s.Sound given) {made : Prop} {node : NodeRef}
    (hid : made → (s.node node).id ≠ "") :
    (checkGossip c node).Keeps (Changes given) (Identified made node) s := by
  unfold checkGossip
  apply (keeps_fetchGossip c node).bind
  intro t entries ht _
  obtain ⟨htSound, hst⟩ := ht.sound hs
  cases entries with
  | error f =>
    dsimp only
    split_ifs
    · exact fun _ h => nomatch h
    · exact fun _ h => nomatch h
  | ok entries =>
    apply Op.keeps_read
    intro u hu
    exact fun hmade _ => (hu.sound htSound).2.named node (hst.named node (hid hmade))

theorem keeps_isHealthy (hs : s.Sound given) (node : NodeRef) :
    (isHealthy c node).Keeps (Changes given) (Identified (node < s.nodes.length) node) s := by
  unfold isHealthy
  apply Op.keeps_read
  intro t ht
  obtain ⟨htSound, hst⟩ := ht.sound hs
  split_ifs with he
  · exact keeps_checkGossip c htSound fun _ => he
  · apply (keeps_fetchState c node).bind
    intro u report hu hreport
    obtain ⟨huSound, htu⟩ := hu.sound htSound
    cases report with
    | error f =>
      dsimp only
      split_ifs
      · exact fun _ h => nomatch h
      · exact fun _ h => nomatch h
    | ok report =>
      apply Op.keeps_modify
      intro v hv
      obtain ⟨hvSound, huv⟩ := hv.sound huSound
      have hr := hreport report rfl
      have hstep : Change given v (v.applyState node report) := .applyState node report hr
      refine ⟨.single hstep, keeps_checkGossip c (hstep.sound hvSound).1 fun hmade => ?_⟩
      have hlater : s.nodes.length ≤ v.nodes.length := (hst.trans (htu.trans huv)).made
      exact State.id_applyState_ne_empty (hmade.trans_le hlater) hr

/-- The hook is told of a node, and the round goes on with the nodes that are left. -/
theorem keeps_notify_then {α : Type} {nodes : List NodeRef} {rest : Op α} (hs : s.Sound given)
    (hn : ∀ r ∈ nodes, r ∈ s.pool.members)
    (ih : ∀ {t : State}, t.Sound given → (∀ r ∈ nodes, r ∈ t.pool.members) →
      rest.Keeps (Changes given) Op.Any t) (node : NodeRef) (healthy : Bool) :
    (Op.modify (fun s => s.notify node healthy) >>= fun _ => rest).Keeps
      (Changes given) Op.Any s := by
  apply Op.keeps_modify
  intro t ht
  obtain ⟨htSound, hst⟩ := ht.sound hs
  have hstep : Change given t (t.notify node healthy) := .notify node healthy
  obtain ⟨huSound, htu⟩ := hstep.sound htSound
  exact ⟨.single hstep, ih huSound fun r hr => (hst.trans htu).pooled r (hn r hr)⟩

theorem keeps_checkInactive (hs : s.Sound given) (nodes : List NodeRef)
    (hn : ∀ r ∈ nodes, r ∈ s.pool.members) :
    (checkInactive c nodes).Keeps (Changes given) Op.Any s := by
  induction nodes generalizing s with
  | nil => trivial
  | cons node rest ih =>
    have hnode := hn node List.mem_cons_self
    have hrest : ∀ r ∈ rest, r ∈ s.pool.members := fun r hr => hn r (List.mem_cons_of_mem _ hr)
    unfold checkInactive
    apply (keeps_isHealthy c hs node).bind
    intro t healthy ht hid
    obtain ⟨htSound, hst⟩ := ht.sound hs
    cases healthy with
    | error f => trivial
    | ok healthy =>
      dsimp only
      split_ifs with hh
      · apply Op.keeps_modify
        intro u hu
        obtain ⟨huSound, htu⟩ := hu.sound htSound
        have hid := hid (hs.distinct.made node hnode) (congrArg Except.ok hh)
        have hstep : Change given u (u.activate node) :=
          .activate node ((hst.trans htu).pooled node hnode) (htu.named node hid)
        obtain ⟨hvSound, huv⟩ := hstep.sound huSound
        have hleft : ∀ r ∈ rest, r ∈ (u.activate node).pool.members := fun r hr =>
          (hst.trans (htu.trans huv)).pooled r (hrest r hr)
        exact ⟨.single hstep, keeps_notify_then hvSound hleft ih node healthy⟩
      · exact keeps_notify_then htSound (fun r hr => hst.pooled r (hrest r hr)) ih node healthy

theorem keeps_checkActive (hs : s.Sound given) (nodes : List NodeRef)
    (hn : ∀ r ∈ nodes, r ∈ s.pool.members) :
    (checkActive c nodes).Keeps (Changes given) Op.Any s := by
  induction nodes generalizing s with
  | nil => trivial
  | cons node rest ih =>
    have hnode := hn node List.mem_cons_self
    have hrest : ∀ r ∈ rest, r ∈ s.pool.members := fun r hr => hn r (List.mem_cons_of_mem _ hr)
    unfold checkActive
    apply (keeps_isHealthy c hs node).bind
    intro t healthy ht _
    obtain ⟨htSound, hst⟩ := ht.sound hs
    cases healthy with
    | error f => trivial
    | ok healthy =>
      dsimp only
      split_ifs
      · apply Op.keeps_modify
        intro u hu
        obtain ⟨huSound, htu⟩ := hu.sound htSound
        have hstep : Change given u (u.deactivate node) :=
          .deactivate node ((hst.trans htu).pooled node hnode)
        obtain ⟨hvSound, huv⟩ := hstep.sound huSound
        have hleft : ∀ r ∈ rest, r ∈ (u.deactivate node).pool.members := fun r hr =>
          (hst.trans (htu.trans huv)).pooled r (hrest r hr)
        exact ⟨.single hstep, keeps_notify_then hvSound hleft ih node healthy⟩
      · exact keeps_notify_then htSound (fun r hr => hst.pooled r (hrest r hr)) ih node healthy

theorem keeps_discoverBefore (hs : s.Sound given) :
    (discoverBefore c).Keeps (Changes given) Op.Any s := by
  unfold discoverBefore
  split_ifs
  · exact (keeps_discover c hs).bind fun _ _ _ _ => trivial
  · trivial

theorem keeps_checkNodes (hs : s.Sound given) : (checkNodes c).Keeps (Changes given) Op.Any s := by
  unfold checkNodes
  apply (keeps_discoverBefore c hs).bind
  intro t goesOn ht _
  have htSound := (ht.sound hs).1
  split_ifs
  · apply Op.keeps_read
    intro u hu
    have huSound := (hu.sound htSound).1
    refine (keeps_checkInactive c huSound _ fun r hr => ?_).bind fun v allChecked hv _ => ?_
    · exact List.mem_append_right _ hr
    · have hvSound := (hv.sound huSound).1
      split_ifs
      · apply Op.keeps_read
        intro w hw
        apply keeps_checkActive c (hw.sound hvSound).1 _
        intro r hr
        exact List.mem_append_left _ hr
      · trivial
  · trivial

end Client

def Call.Promise (given : Ring → Prop) : (k : Call) → State → k.Result → Prop
  | .topology => Client.Handed given
  | _ => Op.Any

/-- Every call stays within the changes of a client. -/
theorem Call.keeps (c : Config) {given : Ring → Prop} {s : State} (hs : s.Sound given) (k : Call)
    (hk : ∀ ring, k = .install ring → given ring.1) :
    (k.op c).Keeps (Changes given) (k.Promise given) s := by
  cases k with
  | bootstrap => exact Client.keeps_bootstrap c hs
  | discover => exact Client.keeps_discover c hs
  | checkNodes => exact Client.keeps_checkNodes c hs
  | topology => exact Client.keeps_topology c hs
  | locate owner metric => exact Client.keeps_locate c hs owner metric
  | preferredNode owner metric => exact Client.keeps_preferredNode c hs owner metric
  | request r => exact Client.keeps_request c r
  | nodeRequest node r => exact Client.keeps_nodeRequest c node r
  | metricRequest owner metric r => exact Client.keeps_metricRequest c hs owner metric r
  | isHealthy node => exact (Client.keeps_isHealthy c hs node).imp fun _ _ _ => trivial
  | fetchState node => exact (Client.keeps_fetchState c node).imp fun _ _ _ => trivial
  | fetchGossip node => exact Client.keeps_fetchGossip c node
  | fetchDocument node hash => exact Client.keeps_fetchDocument c node hash
  | setTopology hash => exact fun t _ => ⟨.single (.setTopology hash), trivial⟩
  | install ring =>
    exact fun t _ => ⟨.single (.install ring.1 (Or.inl (hk ring rfl))), trivial⟩
  | invalidate => exact fun t _ => ⟨.single .invalidate, trivial⟩
  | observe node headers => exact Client.keeps_observe node headers
  | makeNode n => exact fun t _ => ⟨.single (.makeNode n), trivial⟩
  | setHook hook => exact fun t _ => ⟨.single (.setHook hook), trivial⟩
  | setWatching watching => exact fun t _ => ⟨.single (.setWatching watching), trivial⟩

/-- Promises last. -/
theorem Call.Promise.mono {given : Ring → Prop} {s t : State} (hst : s.Extends t) {k : Call}
    {result : k.Result} (h : k.Promise given s result) : k.Promise given t result := by
  cases k with
  | topology => exact fun compiled hc => (h compiled hc).mono hst
  | _ => trivial

end MetricRing
