import MetricRing.Proofs.CallGuarantees
import MetricRing.Proofs.SoloRuns
import MetricRing.Run.Script

/-!
# Clients under any interleaving

The calls of one client rely on each other only for what each of them guarantees, so whatever the
order of their steps the state moves within `Changes`, and every call still keeps its promise. Two
facts about all runs of a client follow: no address is in the pool twice and no node ever leaves
it, and no ring is kept or handed out that was not checked.
-/

namespace MetricRing

open MetricRing.Topology (Ring)

namespace System

def calls (y : System) : List Call := y.tasks.map Task.call

/-- The rings that callers have handed in so far. -/
def Given (y : System) (ring : Ring) : Prop := ∃ r, .install r ∈ y.calls ∧ r.1 = ring

/-- The state is sound, and each call goes on as it guarantees, whatever the others do. -/
structure Sound (given : Ring → Prop) (y : System) : Prop where
  state : y.state.Sound given
  kept : ∀ x ∈ y.tasks, x.op.Keeps (Changes given) (x.call.Promise given) y.state

end System

variable {c : Config} {given : Ring → Prop}

/-- What is left of a call after one of its steps goes on as the call does. -/
theorem Op.Step.keeps {s s₁ : State} {k : Call} {op op₁ : Op k.Result} {l : Option Label}
    (h : op.Step c s l s₁ op₁) (hs : s.Sound given)
    (hop : op.Keeps (Changes given) (k.Promise given) s) :
    Changes given s s₁ ∧ op₁.Keeps (Changes given) (k.Promise given) s₁ := by
  cases h with
  | act f next => exact hop s (refl s)
  | choose n i next => exact ⟨refl s, hop i⟩
  | clock now next => exact ⟨refl s, hop now⟩
  | exchange x next => exact ⟨refl s, hop x.result⟩
  | barred node r i next => exact ⟨refl s, hop (.error i)⟩
  | pause deadline delay result next => exact ⟨refl s, hop result⟩
  | acquire result next => exact ⟨refl s, hop result⟩
  | release next => exact ⟨refl s, hop⟩
  | failover f next =>
    refine ⟨refl s, (Client.keeps_failoverStep c f).bind fun t result hst _ => ?_⟩
    exact (hop result).mono hst fun _ ha => ha.mono (hst.sound hs).2

namespace System

/-! ### Steps and runs -/

theorem Step.calls_prefix {y z : System} (h : Step c y z) : y.calls <+: z.calls := by
  cases h with
  | start _ k =>
    refine ⟨[k], ?_⟩
    rw [calls, calls, List.map_append]
    rfl
  | move before after _ =>
    refine ⟨[], ?_⟩
    simp only [calls, List.map_append, List.map_cons, List.append_nil]

theorem Steps.calls_prefix {y z : System} (h : Steps c y z) : y.calls <+: z.calls := by
  induction h with
  | refl => exact List.prefix_refl _
  | tail _ hstep ih => exact ih.trans hstep.calls_prefix

theorem Step.sound {y z : System} (h : Step c y z) (hy : y.Sound given)
    (hg : ∀ r, .install r ∈ z.calls → given r.1) :
    z.Sound given ∧ Changes given y.state z.state := by
  cases h with
  | start _ k =>
    refine ⟨⟨hy.state, fun x hx => ?_⟩, refl y.state⟩
    rcases List.mem_append.1 hx with hx | hx
    · exact hy.kept x hx
    · rw [List.mem_singleton.1 hx]
      refine k.keeps c hy.state fun r hr => hg r ?_
      exact List.mem_map.2 ⟨_, List.mem_append_right _ (List.mem_singleton.2 rfl), hr⟩
  | move before after hstep =>
    obtain ⟨hs, hkept⟩ := hy
    obtain ⟨hmoved, hop⟩ := hstep.keeps hs (hkept _ (List.mem_append_right _ List.mem_cons_self))
    obtain ⟨hs₁, hlasts⟩ := hmoved.sound hs
    refine ⟨⟨hs₁, fun x hx => ?_⟩, hmoved⟩
    -- The call that moved is looked at apart from those that did not.
    have others {x : Task} (hx : x ∈ before ∨ x ∈ after) :
        x.op.Keeps (Changes given) (x.call.Promise given) _ :=
      (hkept x (by simp only [List.mem_append, List.mem_cons]; tauto)).mono hmoved
        fun _ ha => ha.mono hlasts
    rcases List.mem_append.1 hx with hx | hx
    · exact others (Or.inl hx)
    · rcases List.mem_cons.1 hx with rfl | hx
      · exact hop
      · exact others (Or.inr hx)

theorem Steps.sound {y z : System} (h : Steps c y z) (hy : y.Sound given)
    (hg : ∀ r, .install r ∈ z.calls → given r.1) :
    z.Sound given ∧ Changes given y.state z.state := by
  induction h with
  | refl => exact ⟨hy, refl y.state⟩
  | tail _ hstep ih =>
    obtain ⟨hb, hchanges⟩ := ih fun r hr => hg r (hstep.calls_prefix.subset hr)
    obtain ⟨hz, hlast⟩ := hstep.sound hb hg
    exact ⟨hz, hchanges.trans hlast⟩

theorem sound_nil : Sound given {} := ⟨State.sound_empty, fun _ hx => absurd hx List.not_mem_nil⟩

/-! ### All runs of a client -/

theorem Reachable.sound {y z : System} (hy : Reachable c y) (hz : Steps c y z) :
    y.Sound z.Given :=
  (Steps.sound hy sound_nil fun r hr => ⟨r, hz.calls_prefix.subset hr, rfl⟩).1

/-- Whatever a client is asked and answered, no address is in its pool twice, neither among the
active nodes nor among the inactive nor in both, and the nodes of the pool stay there. -/
theorem addresses_distinct_and_nodes_stay {y z : System} (hy : Reachable c y) (hz : Steps c y z) :
    ((z.state.pool.active ++ z.state.pool.inactive).map z.state.nodes.address).Nodup ∧
      ∀ r ∈ y.state.pool.active ++ y.state.pool.inactive,
        r ∈ z.state.pool.active ++ z.state.pool.inactive := by
  have hysound := hy.sound hz
  obtain ⟨hzsound, hchanges⟩ := hz.sound hysound fun r hr => ⟨r, hr, rfl⟩
  exact ⟨hzsound.state.distinct.nodup, (hchanges.sound hysound.state).2.pooled⟩

/-- A cluster of two nodes. The document that they hand out puts the second at another address
than the one it was found at. -/
def movingCluster : Setting where
  config := { servers := ["[::1]:1", "[::2]:1"] }
  transport := Script.transport
    [{ node := "http://[::1]:1", path := "/state"
       answer := .response 200 [] (bytes "\x7b\"id\":\"a\",\"current\":\"t\"\x7d") none },
     { path := "/state", answer := .response 200 [] (bytes "\x7b\"id\":\"b\"\x7d") none },
     { answer := .response 200 [] (bytes ("\x7b\"nodes\":[" ++
         "\x7b\"id\":\"a\",\"address\":\"[::1]\",\"apiport\":1,\"weight\":70000\x7d," ++
         "\x7b\"id\":\"b\",\"address\":\"[::3]\",\"apiport\":1\x7d]\x7d")) none }]
  pick _ := 0
where
  bytes (s : String) : List UInt8 := s.toUTF8.toList

theorem addresses_distinct_in_movingCluster :
    ∃ y z, Reachable movingCluster.config y ∧ Steps movingCluster.config y z ∧
      y.state.poolAddresses = ["http://[::1]:1", "http://[::2]:1"] ∧
      z.state.poolAddresses = ["http://[::1]:1", "http://[::3]:1"] ∧
      ((z.state.pool.active ++ z.state.pool.inactive).map z.state.nodes.address).Nodup ∧
      ∀ r ∈ y.state.pool.active ++ y.state.pool.inactive,
        r ∈ z.state.pool.active ++ z.state.pool.inactive := by
  have hruns : ((run movingCluster none 1 (Call.bootstrap.op movingCluster.config) {}).bind fun x =>
      (run movingCluster none 1 (Call.discover.op movingCluster.config) x.2).map fun x' =>
        (x.2.state.poolAddresses, x'.2.state.poolAddresses)) =
      some (["http://[::1]:1", "http://[::2]:1"], ["http://[::1]:1", "http://[::3]:1"]) := by
    decide +kernel
  obtain ⟨⟨a, w₁⟩, hstart, hdiscovery⟩ := Option.bind_eq_some_iff.1 hruns
  obtain ⟨⟨n, w₂⟩, hdiscover, haddresses⟩ := Option.map_eq_some_iff.1 hdiscovery
  obtain ⟨hbefore, hafter⟩ := Prod.mk.inj haddresses
  have hy : Reachable movingCluster.config ⟨w₁.state, [⟨.bootstrap, .done a⟩]⟩ :=
    Steps.of_run (y := {}) rfl hstart
  have hz := Steps.of_run (y := ⟨w₁.state, [⟨.bootstrap, .done a⟩]⟩) rfl hdiscover
  exact ⟨_, _, hy, hz, hbefore, hafter, addresses_distinct_and_nodes_stay hy hz⟩

/-- A ring that is kept has the hash in force and bears the digest of its own members. Nothing was
ever compiled without a declared digest, and a ring that is kept, or that a caller of `topology`
has got, was handed in or agrees with the digest that its document was declared with. -/
theorem rings_in_force_and_checked {y : System} (hy : Reachable c y) :
    (∀ k, y.state.compiled = some k →
      y.state.currentTopology = k.ring.hash ∧
        k.ring.hash = Topology.digest k.ring.members k.ring.sided k.ring.writeCopies ∧
        y.state.Vouches y.Given k.ring) ∧
      (∀ x ∈ y.state.compilations, x.declared ≠ "") ∧
      ∀ k, ⟨.topology, .done (.ok k)⟩ ∈ y.tasks → y.state.Vouches y.Given k.ring := by
  have hsound := hy.sound (Relation.ReflTransGen.refl : Steps c y y)
  refine ⟨fun k hk => ?_, hsound.state.declared, fun k hk => hsound.kept _ hk k rfl⟩
  have hvouched := hsound.state.vouched k hk
  refine ⟨hsound.state.inForce k hk, Topology.Ring.IsCompiled.hash_eq ?_, hvouched⟩
  rcases hvouched with ⟨r, -, hr⟩ | ⟨x, -, hx⟩
  · exact hr ▸ r.2
  · exact hx.isCompiled

def namedCluster : Setting where
  config := { servers := ["[::1]:1"] }
  transport := Script.transport
    [{ path := "/state"
       answer := .response 200 [] (bytes ("\x7b\"id\":\"a\",\"current\":" ++
         "\"b819a861a18cac3c160862363b533ebaa503d51505fff49672ffe8c01b6e5255\"\x7d")) none },
     { answer := .response 200 [] (bytes ("\x7b\"nodes\":[" ++
         "\x7b\"id\":\"a\",\"address\":\"[::1]\",\"apiport\":1,\"weight\":1\x7d," ++
         "\x7b\"id\":\"b\",\"address\":\"[::3]\",\"apiport\":1,\"weight\":1\x7d]\x7d")) none }]
  pick _ := 0
where
  bytes (s : String) : List UInt8 := s.toUTF8.toList

theorem rings_checked_in_namedCluster :
    ∃ y k k', Reachable namedCluster.config y ∧ y.state.compiled = some k ∧
      ⟨.topology, .done (.ok k')⟩ ∈ y.tasks ∧ y.state.currentTopology = k.ring.hash ∧
      k.ring.hash = Topology.digest k.ring.members k.ring.sided k.ring.writeCopies ∧
      y.state.Vouches y.Given k.ring ∧ y.state.Vouches y.Given k'.ring := by
  have hruns : ((run namedCluster none 1 (Call.bootstrap.op namedCluster.config) {}).bind fun x =>
      (run namedCluster none 1 (Call.topology.op namedCluster.config) x.2).map fun x' =>
        (x'.2.state.compiled.isSome, x'.1.toOption.isSome)) = some (true, true) := by
    decide +kernel
  obtain ⟨⟨a, w₁⟩, hstart, hloading⟩ := Option.bind_eq_some_iff.1 hruns
  obtain ⟨⟨result, w₂⟩, hload, hsome⟩ := Option.map_eq_some_iff.1 hloading
  obtain ⟨hkept, hhanded⟩ := Prod.mk.inj hsome
  obtain ⟨k, hk⟩ := Option.isSome_iff_exists.1 hkept
  cases result with
  | error f => cases hhanded
  | ok k' =>
    have hstarted : Steps namedCluster.config {} ⟨w₁.state, [⟨.bootstrap, .done a⟩]⟩ :=
      Steps.of_run rfl hstart
    have hy := hstarted.trans (Steps.of_run rfl hload)
    obtain ⟨hring, -, hresults⟩ := rings_in_force_and_checked hy
    obtain ⟨hforce, hhash, hvouched⟩ := hring k hk
    have htask : (⟨.topology, .done (.ok k')⟩ : Task) ∈
        [⟨.bootstrap, .done a⟩] ++ [⟨.topology, .done (.ok k')⟩] :=
      List.mem_append_right _ (List.mem_singleton.2 rfl)
    exact ⟨_, k, k', hy, hk, htask, hforce, hhash, hvouched, hresults k' htask⟩

end System
end MetricRing
