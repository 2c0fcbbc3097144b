import MetricRing.Proofs.Obedience
import MetricRing.Run.Timed

/-!
# What operations do before they first wait

`op.Awaits hook now P` says of an operation under a request hook that it changes no facts before it
first waits for anything, and that its result satisfies `P` if it ends without having waited. All
calls that can be cancelled begin like this, except for a health round: if the hook lets no health
request out, the nodes count as not healthy, and nothing has been waited for.
-/

namespace MetricRing

namespace Op

variable {α β : Type} {hook : Option RequestHook} {now : Time} {P : α → Prop} {Q : β → Prop}
  {op : Op α} {f : α → Op β}

def Awaits (hook : Option RequestHook) (now : Time) (P : α → Prop) : Op α → Prop
  | .done a => P a
  | .act f next =>
    ∀ s, s.hook = hook → (f s).facts = s.facts ∧ (f s).hook = hook ∧ (next s).Awaits hook now P
  | .choose n next => ∀ i, (next (i % n)).Awaits hook now P
  | .clock next => (next now).Awaits hook now P
  | .release next => next.Awaits hook now P
  | _ => True

theorem Awaits.bind (h : op.Awaits hook now P) (hf : ∀ a, P a → (f a).Awaits hook now Q) :
    (op >>= f).Awaits hook now Q := by
  change (op.bind f).Awaits hook now Q
  induction op with
  | done a => exact hf a h
  | act g next ih => exact fun s hs => ⟨(h s hs).1, (h s hs).2.1, ih s (h s hs).2.2⟩
  | choose n next ih => exact fun i => ih (i % n) (h i)
  | clock next ih => exact ih now h
  | release next ih => exact ih h
  | _ => trivial

theorem Awaits.imp {Q : α → Prop} (h : op.Awaits hook now P) (hPQ : ∀ a, P a → Q a) :
    op.Awaits hook now Q := by
  induction op with
  | done a => exact hPQ a h
  | act g next ih => exact fun s hs => ⟨(h s hs).1, (h s hs).2.1, ih s (h s hs).2.2⟩
  | choose n next ih => exact fun i => ih (i % n) (h i)
  | clock next ih => exact ih now h
  | release next ih => exact ih h
  | _ => trivial

abbrev Whatever (_ : α) : Prop := True

/-- The operation waits before it ends. -/
abbrev Never (_ : α) : Prop := False

theorem awaits_read {g : State → β} {k : β → Op α} (h : ∀ b, (k b).Awaits hook now P) :
    (Op.read g >>= k).Awaits hook now P := fun s hs => ⟨rfl, hs, h (g s)⟩

theorem awaits_oneOf (candidates : List NodeRef) :
    (Op.oneOf candidates).Awaits hook now Whatever := by
  unfold Op.oneOf
  split_ifs
  · trivial
  · exact fun _ => trivial

end Op

namespace Client

open MetricRing.Topology (Document Member)
open Op (Whatever Never)

variable {α : Type} {c : Config} {hook : Option RequestHook} {now : Time}

def Failed (result : Except Failure α) : Prop := ∃ f, result = .error f

/-- The hook does not keep the request from being sent now. -/
def LetsOut (c : Config) (hook : Option RequestHook) (now : Time) (r : Request) : Prop :=
  ∃ sent, prepared c hook now r = .ok sent

def Withheld (c : Config) (hook : Option RequestHook) (now : Time) (r : Request)
    (result : Except Failure α) : Prop :=
  ¬LetsOut c hook now r ∧ Failed result

/-! ### Requests -/

theorem awaits_note (setting : Option String) (path : String) (event : State → Event) :
    (note setting path event).Awaits hook now Whatever := by
  unfold note
  split_ifs
  · exact fun s hs => ⟨rfl, hs, trivial⟩
  · trivial

theorem awaits_prepare (r : Request) :
    (prepare c r).Awaits hook now fun result => result = prepared c hook now r := by
  rw [prepare_eq]
  exact fun s hs => ⟨rfl, hs, hs ▸ rfl⟩

theorem awaits_sendOnce (node : NodeRef) (r : Request) :
    (sendOnce c node r).Awaits hook now Never := by
  unfold sendOnce
  apply (awaits_note _ _ _).bind
  exact fun _ _ => trivial

theorem awaits_nodeRequest (node : NodeRef) (r : Request) :
    (nodeRequest c node r).Awaits hook now (Withheld c hook now r) := by
  unfold nodeRequest
  apply (awaits_prepare r).bind
  intro result hresult
  cases result with
  | error f =>
    refine ⟨fun hout => ?_, f, rfl⟩
    obtain ⟨sent, hsent⟩ := hout
    cases hsent.symm.trans hresult.symm
  | ok sent => exact (awaits_sendOnce node sent).imp fun _ h => h.elim

theorem awaits_failoverStep (f : Failover) : (failoverStep c f).Awaits hook now Never := by
  unfold failoverStep
  apply Op.awaits_read
  intro address
  exact (awaits_sendOnce _ _).bind fun _ h => h.elim

theorem awaits_selectNode (preferred : Option NodeRef) (attempt : Nat) :
    (selectNode preferred attempt).Awaits hook now Whatever := by
  unfold selectNode
  apply Op.awaits_read
  intro start
  cases start with
  | node r => trivial
  | oneOf rs => exact Op.awaits_oneOf rs

theorem awaits_tryOnce (r : Request) (attempt contacted : Nat) :
    (tryOnce c r attempt contacted).Awaits hook now Whatever := by
  unfold tryOnce
  apply (awaits_selectNode _ _).bind
  intro node _
  cases node <;> trivial

theorem awaits_retry (r : Request) (left attempt contacted : Nat) (last : Failure) :
    (retry c r left attempt contacted last).Awaits hook now Whatever := by
  cases left <;> trivial

theorem awaits_request (r : Request) : (request c r).Awaits hook now Whatever := by
  unfold request
  apply (awaits_prepare r).bind
  intro result _
  cases result with
  | error f => trivial
  | ok r =>
    apply (awaits_tryOnce r 0 0).bind
    rintro ⟨outcome, contacted⟩ _
    cases outcome with
    | ok response => trivial
    | error e =>
      dsimp only
      split_ifs
      · exact awaits_retry ..
      · trivial

/-! ### What nodes report -/

theorem awaits_fetchState (node : NodeRef) :
    (fetchState c node).Awaits hook now (Withheld c hook now (Request.get "/state")) := by
  unfold fetchState
  apply (awaits_nodeRequest node _).bind
  rintro _ ⟨hout, f, rfl⟩
  exact ⟨hout, f, rfl⟩

theorem awaits_fetchGossip (node : NodeRef) :
    (fetchGossip c node).Awaits hook now (Withheld c hook now (Request.get "/gossip/json")) := by
  unfold fetchGossip
  apply (awaits_nodeRequest node _).bind
  rintro _ ⟨hout, f, rfl⟩
  exact ⟨hout, f, rfl⟩

theorem awaits_fetchDocument (node : NodeRef) (hash : String) :
    (fetchDocument c node hash).Awaits hook now Failed := by
  unfold fetchDocument
  apply (awaits_nodeRequest node _).bind
  rintro _ ⟨-, f, rfl⟩
  exact ⟨f, rfl⟩

/-! ### Topologies -/

theorem awaits_topology : (topology c).Awaits hook now Whatever := by
  unfold topology
  apply Op.awaits_read
  intro compiled
  cases compiled <;> trivial

theorem awaits_locate (owner metric : String) :
    (locate c owner metric).Awaits hook now Whatever := by
  unfold locate
  apply awaits_topology.bind
  intro compiled _
  cases compiled <;> trivial

theorem awaits_activeNode (ids : List String) : (activeNode ids).Awaits hook now Whatever := by
  unfold activeNode
  apply Op.awaits_read
  rintro ⟨preferred, active⟩
  cases preferred with
  | some r => trivial
  | none => exact Op.awaits_oneOf active

theorem awaits_preferredNode (owner metric : String) :
    (preferredNode c owner metric).Awaits hook now Whatever := by
  unfold preferredNode
  apply awaits_topology.bind
  intro compiled _
  cases compiled with
  | error f => trivial
  | ok compiled =>
    dsimp only
    split
    · trivial
    · exact (awaits_activeNode _).bind fun _ _ => trivial

theorem awaits_metricRequest (owner metric : String) (r : Request) :
    (metricRequest c owner metric r).Awaits hook now Whatever := by
  unfold metricRequest
  split_ifs
  · exact awaits_request r
  · apply (awaits_preferredNode owner metric).bind
    intro node _
    cases node with
    | ok node => exact awaits_request _
    | error f =>
      dsimp only
      split_ifs
      · trivial
      · exact awaits_request r

/-! ### Discovery -/

theorem awaits_knownHash (node : NodeRef) : (knownHash c node).Awaits hook now Whatever := by
  unfold knownHash
  apply Op.awaits_read
  intro hash
  split_ifs
  · trivial
  · apply (awaits_fetchState node).bind
    rintro _ ⟨-, f, rfl⟩
    trivial

/-- No document comes without having been waited for. -/
theorem awaits_firstDocument (nodes : List NodeRef) (failures : List Failure) :
    (firstDocument c nodes failures).Awaits hook now Failed := by
  induction nodes generalizing failures with
  | nil => exact ⟨_, rfl⟩
  | cons node rest ih =>
    unfold firstDocument
    apply (awaits_knownHash node).bind
    intro hash _
    cases hash with
    | error f =>
      dsimp only
      split_ifs
      · exact ⟨f, rfl⟩
      · exact ih _
    | ok hash =>
      dsimp only
      split_ifs
      · exact ih failures
      · apply (awaits_fetchDocument node hash).bind
        rintro _ ⟨f, rfl⟩
        dsimp only
        split_ifs
        · exact ⟨f, rfl⟩
        · exact ih _

theorem awaits_discover : (discover c).Awaits hook now Whatever := by
  unfold discover
  apply Op.awaits_read
  intro nodes
  apply (awaits_firstDocument nodes []).bind
  rintro _ ⟨f, rfl⟩
  trivial

/-! ### Health -/

def healthRequests : List Request := [Request.get "/state", Request.get "/gossip/json"]

theorem awaits_checkGossip (node : NodeRef) : (checkGossip c node).Awaits hook now fun _ =>
    ¬LetsOut c hook now (Request.get "/gossip/json") := by
  unfold checkGossip
  apply (awaits_fetchGossip node).bind
  rintro _ ⟨hout, f, rfl⟩
  dsimp only
  split_ifs <;> exact hout

theorem awaits_isHealthy (node : NodeRef) : (isHealthy c node).Awaits hook now fun _ =>
    ¬∀ r ∈ healthRequests, LetsOut c hook now r := by
  unfold isHealthy
  apply Op.awaits_read
  intro id
  split_ifs
  · exact (awaits_checkGossip node).imp fun _ hout hall => hout (hall _ (by decide))
  · apply (awaits_fetchState node).bind
    rintro _ ⟨hout, f, rfl⟩
    dsimp only
    split_ifs <;> exact fun hall => hout (hall _ (by decide))

theorem awaits_checkInactive (h : ∀ r ∈ healthRequests, LetsOut c hook now r)
    (nodes : List NodeRef) : (checkInactive c nodes).Awaits hook now Whatever := by
  cases nodes with
  | nil => trivial
  | cons node rest => exact (awaits_isHealthy node).bind fun _ hout => absurd h hout

theorem awaits_checkActive (h : ∀ r ∈ healthRequests, LetsOut c hook now r)
    (nodes : List NodeRef) : (checkActive c nodes).Awaits hook now Whatever := by
  cases nodes with
  | nil => trivial
  | cons node rest => exact (awaits_isHealthy node).bind fun _ hout => absurd h hout

theorem awaits_checkNodes (h : ∀ r ∈ healthRequests, LetsOut c hook now r) :
    (checkNodes c).Awaits hook now Whatever := by
  have hbefore : (discoverBefore c).Awaits hook now Whatever := by
    unfold discoverBefore
    split_ifs
    · exact awaits_discover.bind fun _ _ => trivial
    · trivial
  unfold checkNodes
  apply hbefore.bind
  intro goesOn _
  split_ifs
  · apply Op.awaits_read
    intro inactive
    apply (awaits_checkInactive h inactive).bind
    intro complete _
    split_ifs
    · exact Op.awaits_read fun active => awaits_checkActive h active
    · trivial
  · trivial

end Client
end MetricRing
