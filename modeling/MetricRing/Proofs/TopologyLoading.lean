import MetricRing.Proofs.DigestBytes
import MetricRing.Proofs.NodeAnswers

/-!
# Loading a topology

A caller that finds no ring asks the active nodes one after another, until one of them hands out a
document with the right digest. An `Ask` is a node that is asked for a hash in a world, and what
comes of it is a function of what the request hook and the transport say then. A bad answer of
whatever kind only leads to the next node, and a load fails with the failures of all nodes asked.
-/

namespace MetricRing

open MetricRing.Topology (Document Ring)

variable {e : Setting} {cancel : Option Time}

/-! ### Asking one node -/

structure Ask where
  node : NodeRef
  hash : String
  world : World

namespace Ask

variable (e : Setting) (a : Ask)

def answer : Outcome := a.world.fetched e a.node (Client.documentPath a.hash)

def outcome : Except Failure Ring := do
  let response ← Client.judged (a.answer e)
  let document ← Client.readDocument response.body
  Client.compileDocument document a.hash

def failure? : Option Failure :=
  match a.outcome e with
  | .ok _ => none
  | .error f => some f

def exchange? : Option Exchange :=
  (a.world.outgoing e (Client.documentPath a.hash)).toOption.map (a.world.sending a.node)

end Ask

namespace Client

theorem judged_eq_ok_iff {answer : Outcome} {response : Response} :
    judged answer = .ok response ↔ answer = .ok response ∧ response.isSuccess = true := by
  cases answer with
  | error f => exact ⟨fun h => (nomatch h), fun h => (nomatch h.1)⟩
  | ok r =>
    unfold judged judge
    dsimp only
    split_ifs with hr
    · exact ⟨fun h => ⟨h, Except.ok.inj h ▸ hr⟩, fun h => h.1⟩
    · exact ⟨fun h => (nomatch h), fun h => absurd (Except.ok.inj h.1 ▸ h.2) hr⟩

theorem readDocument_eq_ok_iff {body : List UInt8} {d : Document} :
    readDocument body = .ok d ↔ Document.parse body = .ok d := by
  unfold readDocument
  cases Document.parse body <;> simp

theorem compileDocument_eq_ok_iff {d : Document} {hash : String} {ring : Ring} :
    compileDocument d hash = .ok ring ↔ d.compile (some hash) = .ok ring := by
  unfold compileDocument
  cases d.compile (some hash) <;> simp

end Client

theorem bind_eq_ok_iff {α β : Type} {x : Except Failure α} {f : α → Except Failure β} {b : β} :
    x >>= f = .ok b ↔ ∃ a, x = .ok a ∧ f a = .ok b := by
  cases x with
  | error g => exact ⟨fun h => (nomatch h), fun ⟨_, h, _⟩ => (nomatch h)⟩
  | ok a => exact ⟨fun h => ⟨a, rfl, h⟩, fun ⟨_, h, hb⟩ => Except.ok.inj h ▸ hb⟩

/-- A ring comes of a success that carries a document, and the document has to compile. -/
theorem Ask.outcome_eq_ok_iff {a : Ask} {ring : Ring} :
    a.outcome e = .ok ring ↔ ∃ response d, a.answer e = .ok response ∧ response.isSuccess = true ∧
      Document.parse response.body = .ok d ∧ d.compile (some a.hash) = .ok ring := by
  simp only [outcome, bind_eq_ok_iff, Client.judged_eq_ok_iff, Client.readDocument_eq_ok_iff,
    Client.compileDocument_eq_ok_iff, and_assoc, exists_and_left]

inductive Asked (e : Setting) (cancel : Option Time) : World → List Ask → World → Prop
  | nil (w : World) : Asked e cancel w [] w
  | cons {a : Ask} {asks : List Ask} {w₁ w₂ : World} {t : List Mark}
    (first : (Client.loadFrom e.config a.node a.hash).Ends e cancel a.world (a.outcome e) w₁ t)
    (rest : Asked e cancel w₁ asks w₂) : Asked e cancel a.world (a :: asks) w₂

namespace State

/-- The hash that a node is asked for: the one that is wanted, or else its own. -/
def hashFor (s : State) (wanted : String) (r : NodeRef) : String :=
  if wanted = "" then (s.node r).currentTopology else wanted

/-- The nodes to ask, in order. Those that have the wanted topology come first, and if none is
wanted, those that have no topology are left out. -/
def toAsk (s : State) (wanted : String) : List NodeRef :=
  if wanted = "" then s.pool.active.filter fun r => (s.node r).currentTopology != ""
  else (s.pool.active.filter fun r => (s.node r).currentTopology == wanted) ++
    s.pool.active.filter fun r => (s.node r).currentTopology != wanted

theorem filter_candidates (s : State) (wanted : String) :
    (s.candidates wanted).filter (fun r => s.hashFor wanted r != "") = s.toAsk wanted := by
  unfold candidates toAsk hashFor
  by_cases hwanted : wanted = ""
  · subst hwanted
    simp only [if_true, List.filter_append, List.filter_filter, bne, Bool.not_and_self,
      Bool.and_self, List.filter_false, List.nil_append]
  · simp only [if_neg hwanted, bne_iff_ne.2 hwanted, List.filter_true]
    rfl

end State

namespace Client

variable {a : Ask} {w w₁ : World} {t : List Mark}

theorem isCalm_readDocument (body : List UInt8) : IsCalm (readDocument body) := by
  unfold readDocument
  split
  · exact isCalm_ok _
  · exact isCalm_error rfl

theorem isCalm_compileDocument (d : Document) (hash : String) :
    IsCalm (compileDocument d hash) := by
  unfold compileDocument
  split
  · exact isCalm_ok _
  · exact isCalm_error rfl

/-- What comes of asking a node, and what it leaves behind. -/
theorem loadFrom_ends {result : Except Failure Ring}
    (h : (loadFrom e.config a.node a.hash).Ends e cancel a.world result w₁ t)
    (hcalm : Calm t ∨ Serene e cancel a.world.state) :
    IsCalm result ∧ result = a.outcome e ∧ exchanges t = (a.exchange? e).toList ∧
      Heard a.node (announcedBy (a.answer e)) a.world.state.facts w₁.state.facts := by
  unfold loadFrom fetchDocument at h
  obtain ⟨fetched, w₂, t₁, t₂, hfetch, hrest, rfl⟩ := h.of_bind
  obtain ⟨-, hcalmly, hfetched, hexchanges, hheard⟩ := fetch_replied isCalm_readDocument hfetch
    (hcalm.imp_left fun h => (calm_append.1 h).1)
  have houtcome : a.outcome e = fetched >>= fun d => compileDocument d a.hash := by
    rw [hfetched]
    exact (bind_assoc ..).symm
  rw [exchanges_append, hexchanges, houtcome]
  cases fetched with
  | error f =>
    obtain ⟨rfl, rfl, rfl⟩ := hrest.of_done
    exact ⟨isCalm_error (hcalmly f rfl), rfl, List.append_nil _, hheard⟩
  | ok d =>
    obtain ⟨t₃, hdone, rfl⟩ := Op.Ends.of_modify hrest
    obtain ⟨rfl, rfl, rfl⟩ := hdone.of_done
    exact ⟨isCalm_compileDocument d a.hash, rfl, List.append_nil _, hheard⟩

/-! ### Asking in turn -/

/-- How a load ends that had `nodes` to ask, asked some of them, and had failed before: with the
ring of the last one, or with the failures of all. -/
inductive Loads (e : Setting) (nodes : List NodeRef) (failures : List Failure) (asks : List Ask)
    (w : World) : Except Failure Compiled → World → Prop
  | found (before : List Ask) (a : Ask) {ring : Ring} (hasks : asks = before ++ [a])
    (hnodes : asks.map Ask.node <+: nodes) (hbefore : ∀ b ∈ before, ∃ f, b.outcome e = .error f)
    (ha : a.outcome e = .ok ring) :
    Loads e nodes failures asks w (.ok (w.state.install ring).2)
      { w with state := (w.state.install ring).1 }
  | failed (hnodes : asks.map Ask.node = nodes) (hasks : ∀ a ∈ asks, ∃ f, a.outcome e = .error f) :
    Loads e nodes failures asks w
      (.error (Failure.combine (failures ++ asks.filterMap (Ask.failure? e)) .noActiveNodes)) w

theorem Loads.cons {nodes : List NodeRef} {failures : List Failure} {asks : List Ask} {f : Failure}
    {result : Except Failure Compiled} (ha : a.outcome e = .error f)
    (h : Loads e nodes (failures ++ [f]) asks w result w₁) :
    Loads e (a.node :: nodes) failures (a :: asks) w result w₁ := by
  cases h with
  | found before b hasks hnodes hbefore hb =>
    refine .found (a :: before) b (congrArg (a :: ·) hasks) ?_ ?_ hb
    · exact (List.prefix_cons_inj a.node).2 hnodes
    · exact List.forall_mem_cons.2 ⟨⟨f, ha⟩, hbefore⟩
  | failed hnodes hasks =>
    have hfailures : failures ++ [f] ++ asks.filterMap (Ask.failure? e) =
        failures ++ (a :: asks).filterMap (Ask.failure? e) := by
      have hf : a.failure? e = some f := by rw [Ask.failure?, ha]
      rw [List.filterMap_cons_some hf, List.append_assoc, List.singleton_append]
    rw [hfailures]
    exact .failed (congrArg (a.node :: ·) hnodes) (List.forall_mem_cons.2 ⟨⟨f, ha⟩, hasks⟩)

def hashAfter (e : Setting) (hash : String) (asks : List Ask) : String :=
  asks.foldl (fun hash a => (announcedBy (a.answer e)).elim hash Text.lowercase) hash

/-- Asking a node does not change which nodes there are to ask. -/
theorem filter_hashFor {wanted : String} {s t : State} {announced : Option String} {node : NodeRef}
    (h : Heard node announced s.facts t.facts) (hnode : s.hashFor wanted node ≠ "")
    (nodes : List NodeRef) : (nodes.filter fun r => t.hashFor wanted r != "") =
      nodes.filter fun r => s.hashFor wanted r != "" := by
  refine List.filter_congr fun r _ => ?_
  rw [Bool.eq_iff_iff, bne_iff_ne, bne_iff_ne]
  refine not_congr ?_
  unfold State.hashFor at hnode ⊢
  split_ifs at hnode ⊢ with hwanted
  · exact h.holds hnode r
  · exact Iff.rfl

theorem loadFirst_cons (c : Config) (wanted : String) (node : NodeRef) (rest : List NodeRef)
    (failures : List Failure) : loadFirst c wanted (node :: rest) failures = (do
      let hash ← Op.read fun s => s.hashFor wanted node
      if hash = "" then loadFirst c wanted rest failures
      else match ← loadFrom c node hash with
        | .ok ring =>
          let compiled ← Op.update fun s => s.install ring
          return .ok compiled
        | .error f =>
          if f.isCancellation then return .error f
          else loadFirst c wanted rest (failures ++ [f])) := rfl

theorem loadFirst_ends {wanted : String} {nodes : List NodeRef} {failures : List Failure}
    {result : Except Failure Compiled}
    (h : (loadFirst e.config wanted nodes failures).Ends e cancel w result w₁ t)
    (hcalm : Calm t ∨ Serene e cancel w.state) (hnone : w.state.compiled = none) :
    ∃ asks w₂, Asked e cancel w asks w₂ ∧
      (∀ a ∈ asks, a.hash = a.world.state.hashFor wanted a.node ∧ a.hash ≠ "") ∧
      exchanges t = asks.filterMap (Ask.exchange? e) ∧
      w₂.state.currentTopology = hashAfter e w.state.currentTopology asks ∧
      w₂.state.compiled = none ∧
      Loads e (nodes.filter fun r => w.state.hashFor wanted r != "") failures asks w₂
        result w₁ := by
  induction nodes generalizing failures w t with
  | nil =>
    obtain ⟨rfl, rfl, rfl⟩ := h.of_done
    refine ⟨[], w₁, .nil w₁, List.forall_mem_nil _, rfl, rfl, hnone, ?_⟩
    have hfailed : Loads e [] failures [] w₁ _ w₁ := .failed rfl (List.forall_mem_nil _)
    rwa [List.filterMap_nil, List.append_nil] at hfailed
  | cons node rest ih =>
    rw [loadFirst_cons] at h
    obtain ⟨t₁, h₁, rfl⟩ := h.of_read
    replace hcalm := hcalm.imp_left fun h => (calm_cons.1 h).2
    rw [show exchanges (.change w.now w.state w.state :: t₁) = exchanges t₁ from rfl]
    by_cases hskip : w.state.hashFor wanted node = ""
    · rw [if_pos hskip] at h₁
      have hothers : ((node :: rest).filter fun r => w.state.hashFor wanted r != "") =
          rest.filter fun r => w.state.hashFor wanted r != "" :=
        List.filter_cons_of_neg (by rw [hskip]; decide)
      rw [hothers]
      exact ih h₁ hcalm hnone
    · rw [if_neg hskip] at h₁
      have hnext : ((node :: rest).filter fun r => w.state.hashFor wanted r != "") =
          node :: rest.filter fun r => w.state.hashFor wanted r != "" :=
        List.filter_cons_of_pos (bne_iff_ne.2 hskip)
      rw [hnext]
      obtain ⟨loaded, w₂, t₂, t₃, hload, hrest, rfl⟩ := h₁.of_bind
      let a : Ask := ⟨node, w.state.hashFor wanted node, w⟩
      obtain ⟨hcalmly, houtcome, hexchanges, hheard⟩ :=
        loadFrom_ends (a := a) hload (hcalm.imp_left fun h => (calm_append.1 h).1)
      rw [houtcome] at hload
      have hhash : w₂.state.currentTopology = hashAfter e w.state.currentTopology [a] :=
        hheard.inForce
      have hsent : (a.exchange? e).toList = [a].filterMap (Ask.exchange? e) := by
        cases hx : a.exchange? e <;> simp [hx]
      cases loaded with
      | ok ring =>
        obtain ⟨t₄, hdone, rfl⟩ := hrest.of_update
        obtain ⟨rfl, rfl, rfl⟩ := hdone.of_done
        have hasked : Asked e cancel w [a] w₂ := Asked.cons (a := a) hload (.nil w₂)
        refine ⟨[a], w₂, hasked, ?_, ?_, hhash, hheard.unkept hnone, ?_⟩
        · exact List.forall_mem_singleton.2 ⟨rfl, hskip⟩
        · rw [exchanges_append, hexchanges, hsent]
          exact List.append_nil _
        · exact .found [] a rfl ⟨_, rfl⟩ (List.forall_mem_nil _) houtcome.symm
      | error f =>
        have hf : f.isCancellation = false := hcalmly f rfl
        dsimp only at hrest
        rw [if_neg (Bool.eq_false_iff.1 hf)] at hrest
        have hsteady : w.state.Steady w₂.state := hload.within (acts_loadFrom _ _ _)
        obtain ⟨asks, w₃, hasked, hhashes, hexchanged, hafter, hcompiled, hloads⟩ := ih hrest
          (hcalm.imp (fun h => (calm_append.1 h).2) fun h => h.of_hook hsteady.hook)
          (hheard.unkept hnone)
        refine ⟨a :: asks, w₃, Asked.cons (a := a) hload hasked, ?_, ?_, ?_, hcompiled, ?_⟩
        · exact List.forall_mem_cons.2 ⟨⟨rfl, hskip⟩, hhashes⟩
        · rw [exchanges_append, hexchanges, hexchanged, hsent, ← List.filterMap_append]
          rfl
        · rw [hafter, hhash]
          rfl
        · rw [filter_hashFor hheard hskip] at hloads
          exact hloads.cons houtcome.symm

/-! ### The whole load -/

theorem topology_ends {result : Except Failure Compiled}
    (h : (topology e.config).Ends e cancel w result w₁ t) (hnone : w.state.compiled = none)
    (hfree : isPast cancel w.now = false) :
    ∃ t', (loadFirst e.config w.state.currentTopology
        (w.state.candidates w.state.currentTopology) []).Ends e cancel w result w₁ t' ∧
      exchanges t = exchanges t' ∧ (Calm t → Calm t') := by
  unfold topology at h
  obtain ⟨t₁, h₁, rfl⟩ := h.of_read
  rw [hnone] at h₁
  cases h₁ with
  | acquire h₂ =>
    rw [hfree, if_neg Bool.false_ne_true] at h₂
    change (loadLocked e.config >>= fun loaded => Op.unlock >>= fun _ => .done loaded).Ends
      e cancel w result w₁ _ at h₂
    obtain ⟨loaded, w₂, t₂, t₃, hload, hrest, rfl⟩ := h₂.of_bind
    cases hrest with
    | release hdone =>
      obtain ⟨rfl, rfl, rfl⟩ := hdone.of_done
      unfold loadLocked at hload
      obtain ⟨t₄, h₄, rfl⟩ := hload.of_read
      rw [hnone] at h₄
      obtain ⟨t₅, h₅, rfl⟩ := Op.Ends.of_read h₄
      obtain ⟨t₆, h₆, rfl⟩ := h₅.of_read
      rw [List.append_nil]
      refine ⟨t₆, h₆, rfl, fun hcalm => ?_⟩
      simp only [calm_cons] at hcalm
      exact hcalm.2.2.2.2

end Client

theorem State.install_keeps_iff {s : State} {ring : Ring} (hnone : s.compiled = none) :
    (s.install ring).1.compiled = some (s.install ring).2 ↔
      s.currentTopology = "" ∨ s.currentTopology = ring.hash := by
  unfold State.install
  dsimp only
  rw [hnone]
  by_cases hempty : s.currentTopology = ""
  · simp [hempty]
  · simp [hempty]

/-- A ring comes of an answer under the hash that was asked for, in lower case. -/
theorem Ask.hash_of_outcome {a : Ask} {ring : Ring} (hne : a.hash ≠ "")
    (h : a.outcome e = .ok ring) : ring.hash = Text.asciiLower a.hash := by
  obtain ⟨response, d, -, -, -, hd⟩ := Ask.outcome_eq_ok_iff.1 h
  have hagrees : Text.sameIgnoringCase a.hash ring.hash = true := Ring.compile_agrees hne hd
  have hlower : Text.asciiLower ring.hash = ring.hash := by
    rw [Ring.IsCompiled.hash_eq ⟨_, _, _, hd⟩]
    exact Text.asciiLower_hex _
  rw [← hlower]
  exact (beq_iff_eq.1 hagrees).symm

namespace Client

/-- How a load goes that nothing cuts short. The active nodes are asked in turn, those that have the
wanted topology first, each for it or else for its own, and a node that has none is not asked. The
ring is that of the first answer from which one comes, under the hash that was asked for in lower
case, and it is kept if the hash in force after the last answer is that of the ring or empty. If
there is no such answer all nodes have been asked, and the load fails with what each of them has
failed with, in order. -/
theorem topology_asks (e : Setting) (cancel : Option Time) {w : World}
    (hnone : w.state.compiled = none) (hfree : isPast cancel w.now = false) :
    ∃ result w₁ t, (topology e.config).Ends e cancel w result w₁ t ∧
      (Calm t ∨ Serene e cancel w.state → ∃ asks w₂, Asked e cancel w asks w₂ ∧
        exchanges t = asks.filterMap (Ask.exchange? e) ∧
        (∀ a ∈ asks, a.hash = a.world.state.hashFor w.state.currentTopology a.node ∧ a.hash ≠ "") ∧
        asks.map Ask.node <+: w.state.toAsk w.state.currentTopology ∧
        (∀ k, result = .ok k →
          (∃ before a, asks = before ++ [a] ∧ (∀ b ∈ before, ∃ f, b.outcome e = .error f) ∧
            a.outcome e = .ok k.ring ∧ k.ring.hash = Text.asciiLower a.hash) ∧
          (w₁.state.compiled = some k ↔ hashAfter e w.state.currentTopology asks = "" ∨
            hashAfter e w.state.currentTopology asks = k.ring.hash)) ∧
        ∀ f, result = .error f → asks.map Ask.node = w.state.toAsk w.state.currentTopology ∧
          (∀ a ∈ asks, ∃ f, a.outcome e = .error f) ∧
          f = Failure.combine (asks.filterMap (Ask.failure? e)) .noActiveNodes ∧
          w₁.state.compiled = none) := by
  obtain ⟨result, w₁, t, h⟩ := (topology e.config).halts e cancel w
  refine ⟨result, w₁, t, h, fun hcalm => ?_⟩
  obtain ⟨t', hload, hexchanges, hcalm'⟩ := topology_ends h hnone hfree
  obtain ⟨asks, w₂, hasked, hhashes, hexchanged, hafter, hcompiled, hloads⟩ :=
    loadFirst_ends hload (hcalm.imp_left hcalm') hnone
  rw [State.filter_candidates] at hloads
  refine ⟨asks, w₂, hasked, hexchanges.trans hexchanged, hhashes, ?_, ?_, ?_⟩
  · cases hloads with
    | found before a hasks hnodes hbefore ha => exact hnodes
    | failed hnodes hasks => exact hnodes ▸ List.prefix_rfl
  · rintro k rfl
    cases hloads with
    | found before a hasks hnodes hbefore ha =>
      have hne : a.hash ≠ "" := (hhashes a (hasks ▸ List.mem_concat_self)).2
      refine ⟨⟨before, a, hasks, hbefore, ha, Ask.hash_of_outcome hne ha⟩, ?_⟩
      rw [← hafter]
      exact State.install_keeps_iff hcompiled
  · rintro f rfl
    cases hloads with
    | failed hnodes hasks => exact ⟨hnodes, hasks, rfl, hcompiled⟩

def soloDocument : List UInt8 :=
  "\x7b\"nodes\":[\x7b\"id\":\"n\",\"address\":\"[::1]\",\"weight\":1\x7d]\x7d".toUTF8.toList

def soloHash : String := "95d84fc93b9f33dec98ad5df553d193c4ed3cf785d0f62e21f8b90858e001960"

/-- One node cannot be reached, one is busy, one talks nonsense, and all others hand out the
topology but have moved on to another. -/
def mixedCluster : Setting where
  config := {}
  transport _ x := { outcome := answer x.node }
  pick _ := 0
where
  answer (node : String) : Outcome :=
    if node = "a" then .error (.connection "a" "refused")
    else if node = "b" then .ok { status := 503, node }
    else if node = "c" then .ok { status := 200, body := "oops".toUTF8.toList, node }
    else
      let headers : Headers := [(State.topologyHeader, "T2".toUTF8.toList)]
      .ok { status := 200, headers, body := soloDocument, node }

def mixedStart : World where
  state :=
    { nodes := [{ address := "a" }, { address := "b" },
        { address := "c", currentTopology := soloHash }, { address := "d" }]
      pool := { active := [0, 1, 2, 3] }
      currentTopology := soloHash }

theorem topology_asks_in_mixedCluster :
    ∃ k w₁ t asks w₂,
      (topology mixedCluster.config).Ends mixedCluster none mixedStart (.ok k) w₁ t ∧
      Asked mixedCluster none mixedStart asks w₂ ∧ asks.map Ask.node <+: [2, 0, 1, 3] ∧
      (asks.filterMap (Ask.exchange? mixedCluster)).map Exchange.node = ["c", "a", "b", "d"] ∧
      k.ring.hash = soloHash ∧ hashAfter mixedCluster soloHash asks ≠ soloHash ∧
      w₁.state.compiled = none := by
  have hserene : Serene mixedCluster none mixedStart.state := by
    refine ⟨rfl, keepsDeadlines_none, fun sent x => ?_⟩
    change IsCalm (mixedCluster.answer x.node)
    unfold mixedCluster.answer
    split_ifs
    · exact isCalm_error rfl
    all_goals exact isCalm_ok _
  obtain ⟨result, w₁, t, h, hasks⟩ := topology_asks mixedCluster none (w := mixedStart) rfl rfl
  obtain ⟨asks, w₂, hasked, hexchanges, -, hnodes, hfound, -⟩ := hasks (Or.inr hserene)
  have hseen := h.of_run 0 (fun x => (x.1.toOption.map fun k : Compiled => k.ring.hash,
    x.2.sent.map Exchange.node, x.2.state.compiled.isNone))
    (show _ = some (some soloHash, ["d", "b", "a", "c"], true) by decide +kernel)
  simp only [Prod.mk.injEq] at hseen
  obtain ⟨hhash, hsent, hkept⟩ := hseen
  have hnone : w₁.state.compiled = none := Option.isNone_iff_eq_none.1 hkept
  cases result with
  | error f => cases hhash
  | ok k =>
    have hring : k.ring.hash = soloHash := Option.some.inj hhash
    obtain ⟨-, hkeeps⟩ := hfound k rfl
    refine ⟨k, w₁, t, asks, w₂, h, hasked, hnodes, ?_, hring, fun hafter => ?_, hnone⟩
    · rw [← hexchanges]
      rw [h.sent_eq] at hsent
      have hreversed : ((exchanges t).map Exchange.node).reverse = ["d", "b", "a", "c"] := by
        rw [← List.map_reverse, ← hsent]
        exact congrArg _ (List.append_nil _).symm
      exact List.reverse_injective hreversed
    · have hkept' := hkeeps.2 (Or.inr (hafter.trans hring.symm))
      rw [hnone] at hkept'
      cases hkept'

def shoutingStart : World where
  state :=
    { nodes := [{ address := "d", currentTopology := shoutedHash }]
      pool := { active := [0] } }
where
  shoutedHash : String := "95D84FC93B9F33DEC98AD5DF553D193C4ED3CF785D0F62E21F8B90858E001960"

/-- The ring that comes of the answer has its own hash, which is not the one that was asked for. -/
theorem topology_of_shouting :
    ∃ k w₁ t x, (topology mixedCluster.config).Ends mixedCluster none shoutingStart (.ok k) w₁ t ∧
      exchanges t = [x] ∧ x.request.path = documentPath shoutingStart.shoutedHash ∧
      k.ring.hash = soloHash ∧ k.ring.hash ≠ shoutingStart.shoutedHash := by
  have hrun : ((run mixedCluster none 0 (topology mixedCluster.config) shoutingStart).map fun x =>
      (x.1.toOption.map fun k : Compiled => k.ring.hash,
        x.2.sent.map fun x => x.request.path)) =
      some (some soloHash, [documentPath shoutingStart.shoutedHash]) := by
    decide +kernel
  obtain ⟨⟨result, w₁⟩, hresult, hseen⟩ := Option.map_eq_some_iff.1 hrun
  obtain ⟨hhash, hsent⟩ := Prod.mk.inj hseen
  obtain ⟨t, h⟩ := ends_of_run hresult
  cases result with
  | error f => cases hhash
  | ok k =>
    have hring : k.ring.hash = soloHash := Option.some.inj hhash
    dsimp only at hsent
    rw [h.sent_eq] at hsent
    obtain ⟨x, hx, hpath⟩ := List.map_eq_singleton_iff.1 hsent
    refine ⟨k, w₁, t, x, h, ?_, hpath, hring, ?_⟩
    · refine List.reverse_injective (Eq.trans ?_ hx)
      exact (List.append_nil _).symm
    · rw [hring]
      decide

end Client
end MetricRing
