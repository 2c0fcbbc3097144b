import MetricRing.Proofs.DiscoveredMembers

/-!
# Active nodes have ids

Only two sections make a node active, the one after it has reported itself and the one after it was
found healthy, and both know its id by then. Since an id that is known never becomes empty again,
every active node has one. A version and a topology that a node has reported last in the same way.
-/

namespace MetricRing

open MetricRing.Topology (Ring)

variable {c : Config} {given : Ring → Prop} {s t : State}

namespace State

def ActiveNamed (s : State) : Prop := ∀ r ∈ s.pool.active, (s.node r).id ≠ ""

theorem pool_setTopology (s : State) (hash : String) : (s.setTopology hash).pool = s.pool := by
  unfold setTopology
  dsimp only
  split_ifs <;> rfl

theorem active_addNode (s : State) (r : NodeRef) :
    (s.addNode r).pool.active = s.pool.active := by
  change (s.pool.addNode s.nodes r).active = s.pool.active
  unfold Pool.addNode
  split_ifs <;> rfl

theorem active_seed (s : State) (address : String) :
    (s.seed address).1.pool.active = s.pool.active := by
  unfold seed
  split
  · rfl
  · exact active_addNode ..

theorem active_merge (s : State) (id address : String) :
    (s.merge id address).1.pool.active = s.pool.active := by
  unfold merge
  split
  · exact congrArg Pool.active (pool_rename ..)
  · exact active_addNode ..

/-- In a pool with distinct addresses a node becomes active only by its own activation. -/
theorem Distinct.mem_active_activate (h : s.Distinct) {r q : NodeRef} (hr : r ∈ s.pool.members)
    (hq : q ∈ (s.activate r).pool.active) : q ∈ s.pool.active ∨ q = r := by
  have hmembers : ∀ p ∈ [r], p ∈ s.pool.members := fun p hp => List.mem_singleton.1 hp ▸ hr
  exact (((Pool.activate_members h.nodup hmembers).2 q).1 hq).imp_right List.mem_singleton.1

theorem Distinct.mem_active_deactivate (h : s.Distinct) {r q : NodeRef} (hr : r ∈ s.pool.members)
    (hq : q ∈ (s.deactivate r).pool.active) : q ∈ s.pool.active := by
  have hmembers : ∀ p ∈ [r], p ∈ s.pool.members := fun p hp => List.mem_singleton.1 hp ▸ hr
  exact (((Pool.deactivate_members h.nodup hmembers).2 q).1 hq).1

end State

/-- A section makes no node active that has no id. -/
theorem Change.mem_active (h : Change given s t) (hs : s.Distinct) {q : NodeRef}
    (hq : q ∈ t.pool.active) : q ∈ s.pool.active ∨ (s.node q).id ≠ "" := by
  cases h with
  | activate r hr hid =>
    rcases hs.mem_active_activate hr hq with hq | rfl
    · exact Or.inl hq
    · exact Or.inr hid
  | deactivate r hr => exact Or.inl (hs.mem_active_deactivate hr hq)
  | seed address => exact Or.inl (s.active_seed address ▸ hq)
  | merge id address => exact Or.inl (s.active_merge id address ▸ hq)
  | setTopology hash => exact Or.inl (s.pool_setTopology hash ▸ hq)
  | notify r healthy =>
    unfold State.notify at hq
    split_ifs at hq <;> exact Or.inl hq
  | _ => exact Or.inl hq

theorem Change.activeNamed (h : Change given s t) (hs : s.Distinct) (hn : s.ActiveNamed) :
    t.ActiveNamed := by
  intro q hq
  have hid : (s.node q).id ≠ "" := (h.mem_active hs hq).elim (hn q) id
  exact (h.lasts hs).2.named q hid

theorem Changes.activeNamed (h : Changes given s t) (hs : s.Distinct) (hn : s.ActiveNamed) :
    t.ActiveNamed := by
  induction h with
  | refl => exact hn
  | tail hbefore hstep ih => exact hstep.activeNamed (Changes.lasts hbefore hs).1 ih

namespace System

/-- Whatever a client is asked and answered, its active nodes have ids, and of a node of its pool
neither the id nor the version nor the topology becomes empty again once it is known. -/
theorem active_named_and_known_lasts {y z : System} (hy : Reachable c y) (hz : Steps c y z) :
    (∀ r ∈ z.state.pool.active, (z.state.node r).id ≠ "") ∧
      ∀ r ∈ y.state.pool.active ++ y.state.pool.inactive,
        r ∈ z.state.pool.active ++ z.state.pool.inactive ∧
          ((y.state.node r).id ≠ "" → (z.state.node r).id ≠ "") ∧
          ((y.state.node r).semver ≠ "" → (z.state.node r).semver ≠ "") ∧
          ((y.state.node r).currentTopology ≠ "" → (z.state.node r).currentTopology ≠ "") := by
  have hysound := hy.sound hz
  have hstart : Changes z.Given {} z.state :=
    (Steps.sound (hy.trans hz) sound_nil fun r hr => ⟨r, hr, rfl⟩).2
  have hlasts := (Changes.sound (hz.sound hysound fun r hr => ⟨r, hr, rfl⟩).2 hysound.state).2
  have hempty : State.Sound z.Given {} := State.sound_empty
  refine ⟨?_, fun r hr => ?_⟩
  · exact hstart.activeNamed hempty.distinct fun r hr => absurd hr List.not_mem_nil
  · exact ⟨hlasts.pooled r hr, hlasts.named r, hlasts.versioned r, hlasts.informed r⟩

/-- Two nodes. The first reports its version but no topology, and later a topology but no version
under another id. The second answers only when it is asked again. -/
def tersePair : Setting where
  config := { servers := ["[::1]:1", "[::2]:1"] }
  transport := Script.transport
    [{ node := "http://[::1]:1", path := "/state", times := some 1
       answer := .response 200 [] (bytes "\x7b\"id\":\"A\",\"semver\":\"1.2\"\x7d") none },
     { path := "/state", times := some 1, answer := .timedOut },
     { node := "http://[::1]:1", path := "/state", times := some 1
       answer := .response 200 [] (bytes "\x7b\"id\":\"B\",\"current\":\"T\"\x7d") none },
     { path := "/state", answer := .response 200 [] (bytes "\x7b\"id\":\"C\"\x7d") none },
     { path := "/gossip/json", answer := .response 200 [] (bytes
         "[\x7b\"id\":\"c\",\"gossip_age\":\"1\"\x7d]") none },
     { answer := .response 200 [] (bytes "\x7b\"nodes\":[]\x7d") none }]
  pick _ := 0
where
  bytes (s : String) : List UInt8 := s.toUTF8.toList

def profiles (s : State) : List (String × String × String) :=
  s.nodes.map fun n => (n.id, n.semver, n.currentTopology)

theorem active_named_in_tersePair :
    ∃ y z, Reachable tersePair.config y ∧ Steps tersePair.config y z ∧
      (profiles y.state, y.state.pool) = ([("a", "1.2", ""), ("", "", "")], ⟨[0], [1]⟩) ∧
      (profiles z.state, z.state.pool) = ([("b", "1.2", "t"), ("c", "", "")], ⟨[1], [0]⟩) ∧
      (∀ r ∈ z.state.pool.active, (z.state.node r).id ≠ "") ∧
      ∀ r ∈ y.state.pool.active ++ y.state.pool.inactive,
        (y.state.node r).semver ≠ "" → (z.state.node r).semver ≠ "" := by
  have hruns : ((run tersePair none 1 (Call.bootstrap.op tersePair.config) {}).bind fun x =>
      (run tersePair none 1 (Call.discover.op tersePair.config) x.2).bind fun x' =>
        (run tersePair none 1 (Call.checkNodes.op tersePair.config) x'.2).map fun x'' =>
          ((profiles x.2.state, x.2.state.pool), (profiles x''.2.state, x''.2.state.pool))) =
      some (([("a", "1.2", ""), ("", "", "")], ⟨[0], [1]⟩),
        ([("b", "1.2", "t"), ("c", "", "")], ⟨[1], [0]⟩)) := by
    decide +kernel
  obtain ⟨⟨a, w₁⟩, hstart, hlater⟩ := Option.bind_eq_some_iff.1 hruns
  obtain ⟨⟨n, w₂⟩, hdiscover, hround⟩ := Option.bind_eq_some_iff.1 hlater
  obtain ⟨⟨u, w₃⟩, hcheck, hknown⟩ := Option.map_eq_some_iff.1 hround
  obtain ⟨hbefore, hafter⟩ := Prod.mk.inj hknown
  have hy : Reachable tersePair.config ⟨w₁.state, [⟨.bootstrap, .done a⟩]⟩ :=
    Steps.of_run (y := {}) rfl hstart
  have hz := (Steps.of_run (y := ⟨w₁.state, [⟨.bootstrap, .done a⟩]⟩) rfl hdiscover).trans
    (Steps.of_run rfl hcheck)
  obtain ⟨hnamed, hlasts⟩ := active_named_and_known_lasts hy hz
  exact ⟨_, _, hy, hz, hbefore, hafter, hnamed, fun r hr => (hlasts r hr).2.2.1⟩

end System
end MetricRing
