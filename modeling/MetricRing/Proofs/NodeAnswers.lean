import MetricRing.Proofs.Deadlines
import MetricRing.Proofs.Guarantees

/-!
# What nodes answer when nothing disturbs

In a calm run nothing is cut short and no answer reports a cancellation. If moreover the transport
answers each path at each address always in the same way, then what is fetched from a node depends
on the request hook and the node's address alone: not on the time, nor on what was sent before.
-/

namespace MetricRing

variable {α β : Type} {e : Setting} {cancel : Option Time}

/-! ### Calm runs -/

/-- A result that reports no cancellation. -/
def IsCalm (result : Except Failure α) : Prop := ∀ f, result = .error f → f.isCancellation = false

def Mark.IsCalm : Mark → Prop
  | .barred _ _ => False
  | .exchange _ _ (.error _) _ => False
  | .exchange _ _ (.ok answer) _ => MetricRing.IsCalm answer
  | .pause _ (.error _) _ => False
  | _ => True

def Calm (t : List Mark) : Prop := ∀ m ∈ t, m.IsCalm

theorem calm_nil : Calm [] := fun _ hm => absurd hm List.not_mem_nil

theorem calm_cons {m : Mark} {t : List Mark} : Calm (m :: t) ↔ m.IsCalm ∧ Calm t :=
  List.forall_mem_cons

theorem calm_append {t t' : List Mark} : Calm (t ++ t') ↔ Calm t ∧ Calm t' :=
  List.forall_mem_append

theorem isCalm_ok (a : α) : IsCalm (.ok a) := fun _ h => nomatch h

theorem isCalm_error {f : Failure} (h : f.isCancellation = false) :
    IsCalm (.error f : Except Failure α) := by
  intro g hg
  cases hg
  exact h

theorem Op.IsQuiet.calm {op : Op α} {w w₁ : World} {a : α} {t : List Mark} (hop : op.IsQuiet)
    (h : op.Ends e cancel w a w₁ t) : Calm t := by
  induction h with
  | done a w => exact calm_nil
  | act _ ih => exact calm_cons.2 ⟨trivial, ih (hop _)⟩
  | choose _ ih => exact ih (hop _)
  | clock _ ih => exact ih (hop _)
  | barred _ _ _ => exact hop.elim
  | exchange _ _ _ => exact hop.elim
  | pause _ _ _ => exact hop.elim
  | acquire _ ih => exact ih (hop _)
  | release _ ih => exact ih hop
  | failover _ _ _ _ => exact hop.elim

/-! ### Transports without a memory -/

def Setting.Serves (e : Setting) (answers : String → String → Outcome) : Prop :=
  ∀ sent x, (e.transport sent x).outcome = answers x.node x.request.path

structure Undisturbed (cancel : Option Time) (answers : String → String → Outcome) (s : State) :
    Prop where
  uncancelled : cancel = none
  untimed : Client.KeepsDeadlines s.hook
  calm : ∀ address path, IsCalm (answers address path)

/-- Calm, or bound to be. -/
def Peaceful (cancel : Option Time) (answers : String → String → Outcome) (s : State)
    (t : List Mark) : Prop :=
  Calm t ∨ Undisturbed cancel answers s

variable {answers : String → String → Outcome} {s s' : State} {t t' : List Mark}

theorem Peaceful.left (h : Peaceful cancel answers s (t ++ t')) : Peaceful cancel answers s t :=
  h.imp_left fun h => (calm_append.1 h).1

theorem Peaceful.right (h : Peaceful cancel answers s (t ++ t')) (hhook : s'.hook = s.hook) :
    Peaceful cancel answers s' t' :=
  h.imp (fun h => (calm_append.1 h).2) fun h => ⟨h.uncancelled, hhook ▸ h.untimed, h.calm⟩

theorem Peaceful.tail {m : Mark} (h : Peaceful cancel answers s (m :: t))
    (hhook : s'.hook = s.hook) : Peaceful cancel answers s' t :=
  Peaceful.right (t := [m]) h hhook

structure Serene (e : Setting) (cancel : Option Time) (s : State) : Prop where
  uncancelled : cancel = none
  untimed : Client.KeepsDeadlines s.hook
  calm : ∀ sent x, IsCalm (e.transport sent x).outcome

theorem Serene.of_hook (h : Serene e cancel s) (hhook : s'.hook = s.hook) : Serene e cancel s' :=
  ⟨h.uncancelled, hhook ▸ h.untimed, h.calm⟩

theorem Undisturbed.serene (h : Undisturbed cancel answers s) (hserves : e.Serves answers) :
    Serene e cancel s :=
  ⟨h.uncancelled, h.untimed, fun sent x => hserves sent x ▸ h.calm _ _⟩

def World.reply (e : Setting) (node : NodeRef) (r : Request) (w : World) : Outcome :=
  (e.transport w.sent (w.sending node r)).outcome

def World.outgoing (e : Setting) (path : String) (w : World) : Except Failure Request :=
  Client.prepared e.config w.state.hook w.now (Request.get path)

def World.fetched (e : Setting) (node : NodeRef) (path : String) (w : World) : Outcome :=
  match w.outgoing e path with
  | .ok r => w.reply e node r
  | .error f => .error f

theorem World.answer_of_ok {node : NodeRef} {r : Request} {w : World} {answer : Outcome}
    (h : w.answer e cancel node r = .ok answer) : answer = w.reply e node r := by
  unfold World.answer at h
  cases hsettled : (w.settled e cancel node r).1 with
  | error i =>
    rw [hsettled] at h
    cases h
  | ok _ =>
    rw [hsettled] at h
    exact (Except.ok.inj h).symm

theorem World.answer_undisturbed {node : NodeRef} {r : Request} (w : World)
    (hr : r.deadline = none) : w.answer e none node r = .ok (w.reply e node r) := by
  have hsettled : (w.settled e none node r).1 = .ok () := by
    unfold World.settled
    rw [hr]
    rfl
  unfold World.answer
  rw [hsettled]
  rfl

def announcedBy : Outcome → Option String
  | .ok response => State.announced? response.headers
  | .error _ => none

/-- What the answer of a node leaves behind. The announced topology is in force, and a node that had
one has one. -/
structure Heard (node : NodeRef) (announced : Option String) (f g : Facts) : Prop where
  inForce : g.currentTopology = announced.elim f.currentTopology Text.lowercase
  unkept : f.compiled = none → g.compiled = none
  holds : (f.nodes.node node).currentTopology ≠ "" → ∀ r,
    (g.nodes.node r).currentTopology = "" ↔ (f.nodes.node r).currentTopology = ""

theorem heard_nothing (node : NodeRef) (f : Facts) : Heard node none f f :=
  ⟨rfl, id, fun _ _ => Iff.rfl⟩

namespace Client

variable {c : Config} {w w₁ : World} {node : NodeRef} {out : Outcome}

/-! ### One exchange -/

def judged : Outcome → Outcome
  | .error f => .error f
  | .ok response => judge response

theorem isCalm_judged {answer : Outcome} (h : IsCalm answer) : IsCalm (judged answer) := by
  cases answer with
  | error f => exact h
  | ok response =>
    dsimp only [Client.judged, judge]
    split_ifs
    · exact isCalm_ok _
    · exact isCalm_error rfl

def receive (c : Config) (node : NodeRef) (r : Request) (started : Time) (answer : Outcome) :
    Op Outcome := do
  let ended ← Op.now
  noteAnswer c node r (ended - started) answer.isOk
  match answer with
  | .error f => return .error f
  | .ok response =>
    observe node response.headers
    noteResponse c r response
    return judge response

theorem isQuiet_receive (r : Request) (started : Time) (answer : Outcome) :
    (receive c node r started answer).IsQuiet := by
  unfold receive
  apply Op.isQuiet_now.bind
  intro ended
  apply (isQuiet_note _ _ _).bind
  intro _
  cases answer with
  | error f => trivial
  | ok response =>
    apply (isQuiet_observe _ _).bind
    intro _
    exact (isQuiet_note _ _ _).bind fun _ => trivial

theorem note_ends {setting : Option String} {path : String} {event : State → Event} {a : Unit}
    (h : (note setting path event).Ends e cancel w a w₁ t) : w₁.state.facts = w.state.facts := by
  unfold note at h
  split_ifs at h
  · obtain ⟨t', hdone, -⟩ := h.of_act
    obtain ⟨-, rfl, -⟩ := hdone.of_done
    rfl
  · obtain ⟨-, rfl, -⟩ := h.of_done
    rfl

theorem heard_setTopology (node : NodeRef) (s : State) (hash : String) :
    Heard node (some hash) s.facts (s.setTopology hash).facts := by
  unfold State.setTopology
  dsimp only
  split_ifs with hsame
  · exact ⟨hsame, id, fun _ _ => Iff.rfl⟩
  · exact ⟨rfl, fun _ => rfl, fun _ _ => Iff.rfl⟩

theorem heard_announce {node : NodeRef} {s : State} {hash : String} {g : Facts} (hne : hash ≠ "")
    (h : Heard node (some hash)
      (s.updateNode node (·.setCurrentTopology (Text.lowercase hash))).facts g) :
    Heard node (some hash) s.facts g := by
  refine ⟨h.inForce, h.unkept, fun hown => ?_⟩
  have hmade : node < s.nodes.length := by
    by_contra hnot
    exact hown (congrArg Node.currentTopology (s.nodes.node_of_le (Nat.le_of_not_lt hnot)))
  have hlower : Text.lowercase hash ≠ "" := fun he => hne (Text.lowercase_eq_empty_iff.1 he)
  have hholds : ∀ r, ((s.nodes.update node (·.setCurrentTopology (Text.lowercase hash))).node
      r).currentTopology = "" ↔ (s.nodes.node r).currentTopology = "" := by
    intro r
    by_cases hr : node = r
    · subst hr
      rw [s.nodes.node_update_self hmade]
      exact iff_of_false hlower hown
    · rw [s.nodes.node_update_ne hr]
  exact fun r => (h.holds (mt (hholds node).1 hown) r).trans (hholds r)

theorem observe_ends {headers : Headers} {a : Unit}
    (h : (observe node headers).Ends e cancel w a w₁ t) :
    Heard node (State.announced? headers) w.state.facts w₁.state.facts := by
  unfold observe at h
  split at h
  next hnone =>
    obtain ⟨-, rfl, -⟩ := h.of_done
    rw [hnone]
    exact heard_nothing node _
  next hash hsome =>
    rw [hsome]
    obtain ⟨t', h', -⟩ := h.of_read
    dsimp only at h'
    split_ifs at h'
    · obtain ⟨t'', h'', -⟩ := h'.of_modify
      obtain ⟨t₃, hdone, -⟩ := h''.of_act
      obtain ⟨-, rfl, -⟩ := hdone.of_done
      exact heard_announce (announced?_ne_empty hsome) (heard_setTopology node _ hash)
    · obtain ⟨t'', hdone, -⟩ := h'.of_act
      obtain ⟨-, rfl, -⟩ := hdone.of_done
      exact heard_setTopology node _ hash

theorem receive_ends {r : Request} {started : Time} {answer : Outcome}
    (h : (receive e.config node r started answer).Ends e cancel w out w₁ t) :
    out = judged answer ∧ Heard node (announcedBy answer) w.state.facts w₁.state.facts := by
  unfold receive at h
  obtain ⟨ended, w₂, t₁, t₂, hnow, h₁, -⟩ := h.of_bind
  obtain ⟨_, w₃, t₃, t₄, hnote, h₂, -⟩ := h₁.of_bind
  cases hnow with
  | clock hnow =>
    obtain ⟨-, rfl, -⟩ := hnow.of_done
    rw [← note_ends hnote]
    cases answer with
    | error f =>
      obtain ⟨rfl, rfl, -⟩ := h₂.of_done
      exact ⟨rfl, heard_nothing node _⟩
    | ok response =>
      obtain ⟨_, w₄, t₅, t₆, hobserve, h₃, -⟩ := h₂.of_bind
      obtain ⟨_, w₅, t₇, t₈, hdump, h₄, -⟩ := h₃.of_bind
      obtain ⟨rfl, rfl, -⟩ := h₄.of_done
      rw [note_ends hdump]
      exact ⟨rfl, observe_ends hobserve⟩

theorem sendOnce_eq (c : Config) (node : NodeRef) (r : Request) :
    sendOnce c node r = (noteRequest c node r >>= fun _ => Op.clock fun started =>
      Op.exchange node r fun
        | .error i => .done (.error i.failure)
        | .ok answer => receive c node r started answer) := by
  unfold sendOnce
  congr 1

/-- An exchange that is calm, or cannot but be, brings what the transport replies. -/
theorem sendOnce_replied {r : Request} (h : (sendOnce e.config node r).Ends e cancel w out w₁ t)
    (hcalm : Calm t ∨ cancel = none ∧ r.deadline = none ∧
      ∀ sent x, IsCalm (e.transport sent x).outcome) :
    Calm t ∧ IsCalm (w.reply e node r) ∧ out = judged (w.reply e node r) ∧
      exchanges t = [w.sending node r] ∧
      Heard node (announcedBy (w.reply e node r)) w.state.facts w₁.state.facts := by
  rw [sendOnce_eq] at h
  obtain ⟨_, w₂, t₁, t₂, hnote, hsend, rfl⟩ := h.of_bind
  have hnoted : Calm t₁ := (isQuiet_note _ _ _).calm hnote
  have hfacts : w₂.state.facts = w.state.facts := note_ends hnote
  obtain ⟨hnow, hexchanges⟩ := (isQuiet_note _ _ _).ends hnote
  have hsent : w₂.sent = w.sent := by
    rw [hnote.sent_eq, hexchanges]
    rfl
  have hsending : w₂.sending node r = w.sending node r := by
    have hnode : w₂.state.node node = w.state.node node :=
      congrArg (fun f : Facts => f.nodes.node node) hfacts
    rw [World.sending, World.sending, hnow, hnode]
  have hreply : w₂.reply e node r = w.reply e node r := by
    rw [World.reply, World.reply, hsent, hsending]
  rw [calm_append] at hcalm ⊢
  rw [exchanges_append, hexchanges, List.nil_append]
  cases hsend with
  | clock hsend =>
    cases hsend with
    | barred hb _ =>
      rcases hcalm with ⟨-, hcalm⟩ | ⟨rfl, hr, -⟩
      · exact (calm_cons.1 hcalm).1.elim
      · rw [hr] at hb
        cases hb
    | exchange _ hreceive =>
      obtain ⟨hanswer, hmark⟩ : w₂.answer e cancel node r = .ok (w.reply e node r) ∧
          IsCalm (w.reply e node r) := by
        rcases hcalm with ⟨-, hcalm⟩ | ⟨rfl, hr, hcalm⟩
        · have hmark := (calm_cons.1 hcalm).1
          cases hx : w₂.answer e cancel node r with
          | error i =>
            rw [hx] at hmark
            exact hmark.elim
          | ok answer =>
            rw [hx] at hmark
            obtain rfl := (World.answer_of_ok hx).trans hreply
            exact ⟨rfl, hmark⟩
        · exact ⟨hreply ▸ w₂.answer_undisturbed hr, hcalm _ _⟩
      rw [hanswer] at hreceive ⊢
      obtain ⟨rfl, hheard⟩ := receive_ends hreceive
      have hreceived := (isQuiet_receive _ _ _).calm hreceive
      obtain ⟨-, hquiet⟩ := (isQuiet_receive _ _ _).ends hreceive
      rw [show (w₂.after e cancel node r).state = w₂.state from rfl, hfacts] at hheard
      refine ⟨⟨hnoted, calm_cons.2 ⟨hmark, hreceived⟩⟩, hmark, rfl, ?_, hheard⟩
      rw [← hsending]
      exact congrArg (w₂.sending node r :: ·) hquiet

/-! ### Fetching -/

def served (c : Config) (answers : String → String → Outcome) (s : State) (node : NodeRef)
    (path : String) : Outcome :=
  match prepared c s.hook 0 (Request.get path) with
  | .error f => .error f
  | .ok r => judged (answers (s.nodes.address node) r.path)

/-- Without a deadline it does not matter when a request is prepared. -/
theorem prepared_eq (c : Config) (hook : Option RequestHook) (now : Time) (path : String) :
    prepared c hook now (Request.get path) = prepared c hook 0 (Request.get path) := rfl

theorem isCalm_prepared (c : Config) (hook : Option RequestHook) (now : Time) (r : Request) :
    IsCalm (prepared c hook now r) := by
  unfold prepared
  split
  · exact isCalm_ok _
  · split
    · exact isCalm_ok _
    · exact isCalm_error rfl

theorem nodeRequest_replied {path : String}
    (h : (nodeRequest e.config node (Request.get path)).Ends e cancel w out w₁ t)
    (hcalm : Calm t ∨ Serene e cancel w.state) :
    Calm t ∧ IsCalm out ∧ out = judged (w.fetched e node path) ∧
      exchanges t = ((w.outgoing e path).toOption.map (w.sending node)).toList ∧
      Heard node (announcedBy (w.fetched e node path)) w.state.facts w₁.state.facts := by
  unfold nodeRequest at h
  obtain ⟨result, w₂, t₁, t₂, hprepare, hsend, rfl⟩ := h.of_bind
  obtain ⟨hresult, rfl, rfl⟩ := prepare_ends hprepare
  have hprepared : Calm [.change w₂.now w₂.state w₂.state] := calm_cons.2 ⟨trivial, calm_nil⟩
  have houtgoing : w₂.outgoing e path = result := hresult.symm
  unfold World.fetched
  rw [houtgoing]
  cases result with
  | error f =>
    obtain ⟨rfl, rfl, rfl⟩ := hsend.of_done
    have hf := isCalm_prepared _ _ _ _ f hresult.symm
    exact ⟨hprepared, isCalm_error hf, rfl, rfl, heard_nothing _ _⟩
  | ok r =>
    obtain ⟨hsent, hanswer, rfl, hexchanges, hheard⟩ := sendOnce_replied hsend <| hcalm.imp
      (fun h => (calm_append.1 h).2)
      fun h => ⟨h.uncancelled, h.untimed.deadline_eq hresult.symm, h.calm⟩
    exact ⟨calm_append.2 ⟨hprepared, hsent⟩, isCalm_judged hanswer, rfl, hexchanges, hheard⟩

/-- Without a memory the transport lets a node be asked for what it serves. -/
theorem judged_fetched (hserves : e.Serves answers) (node : NodeRef) (path : String) (w : World) :
    judged (w.fetched e node path) = served e.config answers w.state node path := by
  unfold World.fetched World.outgoing served
  rw [prepared_eq]
  cases prepared e.config w.state.hook 0 (Request.get path) with
  | error f => rfl
  | ok r => exact congrArg judged (hserves _ _)

def document? {β : Type} (parse : List UInt8 → Except Failure β) (c : Config)
    (answers : String → String → Outcome) (s : State) (node : NodeRef) (path : String) : Option β :=
  match served c answers s node path with
  | .error _ => none
  | .ok response => (parse response.body).toOption

theorem isCalm_nodeState (body : List UInt8) : IsCalm (NodeState.parse body) := by
  unfold NodeState.parse NodeState.ofValue
  dsimp only
  split
  · split_ifs
    · exact isCalm_error rfl
    · exact isCalm_ok _
  · exact isCalm_error rfl

theorem isCalm_gossipEntry (v : Json.Value) : IsCalm (GossipEntry.ofValue v) := by
  unfold GossipEntry.ofValue GossipEntry.ageField
  dsimp only
  split_ifs
  · exact isCalm_error rfl
  · split
    next f hf =>
      refine isCalm_error ?_
      split at hf
      · cases hf
      · split at hf
        · cases hf
        · cases hf
          rfl
    next => exact isCalm_ok _

theorem isCalm_gossipItems (items : List Json.Value) : IsCalm (Gossip.ofItems items) := by
  induction items with
  | nil => exact isCalm_ok _
  | cons v rest ih =>
    unfold Gossip.ofItems
    split
    next f hf => exact isCalm_error (isCalm_gossipEntry v f hf)
    next =>
      split
      next f hf => exact isCalm_error (ih f hf)
      next => exact isCalm_ok _

theorem isCalm_gossip (body : List UInt8) : IsCalm (Gossip.parse body) := by
  unfold Gossip.parse
  split
  · exact isCalm_gossipItems _
  · exact isCalm_error rfl
  · exact isCalm_error rfl

/-- What is read from the answer of a node, and what it leaves behind. -/
theorem fetch_replied {β : Type} {parse : List UInt8 → Except Failure β} {path : String}
    {result : Except Failure β} (hparse : ∀ body, IsCalm (parse body))
    (h : (nodeRequest e.config node (Request.get path) >>= fun
      | .error f => return .error f
      | .ok response => return parse response.body).Ends e cancel w result w₁ t)
    (hcalm : Calm t ∨ Serene e cancel w.state) :
    Calm t ∧ IsCalm result ∧
      result = (judged (w.fetched e node path) >>= fun response => parse response.body) ∧
      exchanges t = ((w.outgoing e path).toOption.map (w.sending node)).toList ∧
      Heard node (announcedBy (w.fetched e node path)) w.state.facts w₁.state.facts := by
  obtain ⟨out, w₂, t₁, t₂, hrequest, hrest, rfl⟩ := h.of_bind
  obtain ⟨hcalm₁, hout, hanswer, hexchanges, hheard⟩ := nodeRequest_replied hrequest
    (hcalm.imp_left fun h => (calm_append.1 h).1)
  rw [exchanges_append, hexchanges, ← hanswer]
  cases out with
  | error f =>
    obtain ⟨rfl, rfl, rfl⟩ := hrest.of_done
    exact ⟨calm_append.2 ⟨hcalm₁, calm_nil⟩, isCalm_error (hout f rfl), rfl, List.append_nil _,
      hheard⟩
  | ok response =>
    obtain ⟨rfl, rfl, rfl⟩ := hrest.of_done
    exact ⟨calm_append.2 ⟨hcalm₁, calm_nil⟩, hparse _, rfl, List.append_nil _, hheard⟩

/-- In a calm run what is fetched from a node is the document that it serves. -/
theorem fetch_ends {β : Type} {parse : List UInt8 → Except Failure β} {path : String}
    {result : Except Failure β} (hserves : e.Serves answers) (hparse : ∀ body, IsCalm (parse body))
    (h : (nodeRequest e.config node (Request.get path) >>= fun
      | .error f => return .error f
      | .ok response => return parse response.body).Ends e cancel w result w₁ t)
    (hcalm : Peaceful cancel answers w.state t) :
    Calm t ∧ IsCalm result ∧
      result.toOption = document? parse e.config answers w.state node path := by
  obtain ⟨hcalm', hresult, hfetched, -⟩ :=
    fetch_replied hparse h (hcalm.imp_right fun h => h.serene hserves)
  refine ⟨hcalm', hresult, ?_⟩
  rw [hfetched, judged_fetched hserves]
  unfold document?
  cases served e.config answers w.state node path <;> rfl

theorem fetchState_ends {result : Except Failure NodeState} (hserves : e.Serves answers)
    (h : (fetchState e.config node).Ends e cancel w result w₁ t)
    (hcalm : Peaceful cancel answers w.state t) :
    Calm t ∧ IsCalm result ∧
      result.toOption = document? NodeState.parse e.config answers w.state node "/state" :=
  fetch_ends hserves isCalm_nodeState h hcalm

theorem fetchGossip_ends {result : Except Failure (List GossipEntry)} (hserves : e.Serves answers)
    (h : (fetchGossip e.config node).Ends e cancel w result w₁ t)
    (hcalm : Peaceful cancel answers w.state t) :
    Calm t ∧ IsCalm result ∧
      result.toOption = document? Gossip.parse e.config answers w.state node "/gossip/json" :=
  fetch_ends hserves isCalm_gossip h hcalm

end Client
end MetricRing
