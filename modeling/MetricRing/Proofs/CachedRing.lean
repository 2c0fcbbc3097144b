import MetricRing.Proofs.Changes

/-!
# The ring that is kept

Two cells tell what a client believes about the topology: the hash in force and the ring compiled
for it. `State.Sound` ties them together: a ring that is kept has the hash in force, it was handed
in or has passed the check of its digest, and nothing was ever compiled under an empty digest.
Every section keeps this.
-/

namespace MetricRing

open MetricRing.Topology (Ring Document)

namespace Topology

/-- A compiled ring bears the digest of its own members. -/
theorem Ring.IsCompiled.hash_eq {r : Ring} (h : r.IsCompiled) :
    r.hash = digest r.members r.sided r.writeCopies := by
  obtain ⟨members, declared, writeCopies, hr⟩ := h
  unfold Ring.compile at hr
  split at hr
  · cases hr
  · dsimp only at hr
    split at hr
    · split_ifs at hr
      exact (Except.ok.inj hr) ▸ rfl
    · exact (Except.ok.inj hr) ▸ rfl

/-- A ring compiled under a declared digest bears that digest, up to case. -/
theorem Ring.compile_agrees {members : List Member} {declared : String} {writeCopies : UInt8}
    {r : Ring} (hd : declared ≠ "") (h : Ring.compile members (some declared) writeCopies = .ok r) :
    Text.sameIgnoringCase declared r.hash = true := by
  unfold Ring.compile at h
  split at h
  · cases h
  · dsimp only at h
    rw [Option.filter_some, if_pos (bne_iff_ne.2 hd)] at h
    dsimp only at h
    split_ifs at h with hs
    exact (Except.ok.inj h) ▸ hs

end Topology

theorem Compilation.Passes.isCompiled {x : Compilation} {ring : Ring} (h : x.Passes ring) :
    ring.IsCompiled := ⟨_, _, _, h.compiles⟩

theorem Compilation.passes_of_compiles {x : Compilation} {ring : Ring} (hd : x.declared ≠ "")
    (h : x.document.compile (some x.declared) = .ok ring) : x.Passes ring :=
  ⟨hd, h, Topology.Ring.compile_agrees hd h⟩

namespace State

/-- All that is believed about the topology: the hash in force, the ring, what was compiled. -/
def belief (s : State) : String × Option Compiled × List Compilation :=
  (s.currentTopology, s.compiled, s.compilations)

structure Sound (given : Ring → Prop) (s : State) : Prop where
  distinct : s.Distinct
  inForce : ∀ c, s.compiled = some c → s.currentTopology = c.ring.hash
  vouched : ∀ c, s.compiled = some c → s.Vouches given c.ring
  declared : ∀ x ∈ s.compilations, x.declared ≠ ""

variable {given : Ring → Prop} {s t : State}

theorem sound_empty : Sound given {} where
  distinct := ⟨fun _ hr => absurd hr List.not_mem_nil, List.nodup_nil⟩
  inForce _ hc := nomatch hc
  vouched _ hc := nomatch hc
  declared _ hx := absurd hx List.not_mem_nil

theorem Sound.of_belief (h : s.Sound given) (hd : t.Distinct) (he : s.Extends t)
    (hb : t.belief = s.belief) : t.Sound given := by
  obtain ⟨ht, hc, hx⟩ : t.currentTopology = s.currentTopology ∧ t.compiled = s.compiled ∧
      t.compilations = s.compilations := by
    simpa only [belief, Prod.mk.injEq] using hb
  exact ⟨hd, fun c hk => ht.trans (h.inForce c (hc ▸ hk)),
    fun c hk => (h.vouched c (hc ▸ hk)).mono he, fun x hm => h.declared x (hx ▸ hm)⟩

theorem belief_notify (s : State) (r : NodeRef) (healthy : Bool) :
    (s.notify r healthy).belief = s.belief := by
  unfold State.notify
  split_ifs <;> rfl

theorem belief_seed (s : State) (address : String) : (s.seed address).1.belief = s.belief := by
  unfold State.seed
  split <;> rfl

theorem belief_rename (s : State) (r : NodeRef) (id address : String) :
    (s.rename r id address).belief = s.belief := by
  unfold State.rename State.relocate State.nameUnnamed
  split_ifs <;> rfl

theorem belief_merge (s : State) (id address : String) :
    (s.merge id address).1.belief = s.belief := by
  unfold State.merge
  split
  · exact belief_rename ..
  · rfl

theorem Sound.setTopology (h : s.Sound given) (hash : String) (hd : (s.setTopology hash).Distinct) :
    (s.setTopology hash).Sound given := by
  unfold State.setTopology at hd ⊢
  dsimp only at hd ⊢
  split_ifs at hd ⊢
  · exact h
  · exact ⟨hd, fun _ hk => absurd hk.symm (Option.some_ne_none _),
      fun _ hk => absurd hk.symm (Option.some_ne_none _), h.declared⟩

theorem Sound.install (h : s.Sound given) {ring : Ring} (hr : s.Vouches given ring)
    (hd : (s.install ring).1.Distinct) : (s.install ring).1.Sound given := by
  have kept : ∀ c, (s.install ring).1.compiled = some c →
      (s.install ring).1.currentTopology = c.ring.hash ∧ s.Vouches given c.ring := by
    intro c hk
    dsimp only [State.install] at hk ⊢
    by_cases he : s.currentTopology = ""
    · rw [if_pos he, if_pos rfl] at hk
      cases hk
      exact ⟨if_pos he, hr⟩
    · rw [if_neg he] at hk ⊢
      split_ifs at hk with hs
      · cases hk
        exact ⟨hs, hr⟩
      · exact ⟨h.inForce c hk, h.vouched c hk⟩
  exact ⟨hd, fun c hk => (kept c hk).1, fun c hk => (kept c hk).2, h.declared⟩

end State

theorem Change.sound {given : Ring → Prop} {s t : State} (h : Change given s t)
    (hs : s.Sound given) : t.Sound given ∧ s.Extends t := by
  obtain ⟨hd, he⟩ := h.lasts hs.distinct
  refine ⟨?_, he⟩
  cases h with
  | look => exact hs
  | record e => exact hs.of_belief hd he rfl
  | notify r healthy => exact hs.of_belief hd he (s.belief_notify r healthy)
  | setHook hook => exact hs.of_belief hd he rfl
  | setWatching watching => exact hs.of_belief hd he rfl
  | makeNode n => exact hs.of_belief hd he rfl
  | noteCompilation x hx =>
    refine ⟨hd, hs.inForce, fun c hk => (hs.vouched c hk).mono he, fun y hy => ?_⟩
    rcases List.mem_append.1 hy with hy | hy
    · exact hs.declared y hy
    · exact List.mem_singleton.1 hy ▸ hx
  | announce r hash _ => exact hs.of_belief hd he rfl
  | setTopology hash => exact hs.setTopology hash hd
  | invalidate =>
    exact ⟨hd, fun _ hk => absurd hk.symm (Option.some_ne_none _),
      fun _ hk => absurd hk.symm (Option.some_ne_none _), hs.declared⟩
  | install ring hr => exact hs.install hr hd
  | applyState r report _ => exact hs.of_belief hd he rfl
  | seed address => exact hs.of_belief hd he (s.belief_seed address)
  | merge id address => exact hs.of_belief hd he (s.belief_merge id address)
  | activate r _ _ => exact hs.of_belief hd he rfl
  | deactivate r _ => exact hs.of_belief hd he rfl

theorem Changes.sound {given : Ring → Prop} {s t : State} (h : Changes given s t)
    (hs : s.Sound given) : t.Sound given ∧ s.Extends t := by
  induction h with
  | refl => exact ⟨hs, State.Extends.refl s⟩
  | tail _ hstep ih =>
    obtain ⟨ht, hst⟩ := hstep.sound ih.1
    exact ⟨ht, ih.2.trans hst⟩

end MetricRing
