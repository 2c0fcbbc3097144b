import MetricRing.Proofs.RequestExchanges
import MetricRing.Proofs.TimedRuns

/-!
# What a run sends and what it is answered

The exchanges of a run are what it adds to all that was sent. A request that succeeds returns what
one of its exchanges was answered.
-/

namespace MetricRing

variable {α : Type} {e : Setting} {cancel : Option Time}

def exchanges (t : List Mark) : List Exchange := t.filterMap Mark.exchange?

theorem exchanges_append (t t' : List Mark) : exchanges (t ++ t') = exchanges t ++ exchanges t' :=
  List.filterMap_append

theorem mem_exchanges {t : List Mark} {x : Exchange} :
    x ∈ exchanges t ↔ ∃ node result ended, .exchange node x result ended ∈ t := by
  rw [exchanges, List.mem_filterMap]
  constructor
  · rintro ⟨m, hm, hx⟩
    cases m with
    | exchange node y result ended =>
      cases hx
      exact ⟨node, result, ended, hm⟩
    | _ => cases hx
  · rintro ⟨node, result, ended, hm⟩
    exact ⟨_, hm, rfl⟩

/-- The exchanges of a run, each with the node it was made with. -/
def contactsIn (t : List Mark) : List Contact := contacts (t.filterMap Mark.label?)

theorem contactsIn_append (t t' : List Mark) :
    contactsIn (t ++ t') = contactsIn t ++ contactsIn t' := by
  rw [contactsIn, List.filterMap_append, contacts_append]
  rfl

theorem requests_contactsIn (t : List Mark) :
    (contactsIn t).map Contact.request = (exchanges t).map Exchange.request := by
  induction t with
  | nil => rfl
  | cons m rest ih =>
    cases m with
    | exchange node x result ended => exact congrArg (x.request :: ·) ih
    | _ => exact ih

theorem contactsIn_eq_nil_iff {t : List Mark} : contactsIn t = [] ↔ exchanges t = [] := by
  rw [← List.map_eq_nil_iff (f := Contact.request), requests_contactsIn, List.map_eq_nil_iff]

def Answered (t : List Mark) (response : Response) : Prop :=
  ∃ node x ended, .exchange node x (.ok (.ok response)) ended ∈ t

theorem Answered.mono {t t' : List Mark} {response : Response} (h : Answered t response)
    (ht : t ⊆ t') : Answered t' response := by
  obtain ⟨node, x, ended, hm⟩ := h
  exact ⟨node, x, ended, ht hm⟩

theorem answered_of_mem_contacts {t : List Mark} {x : Contact} {response : Response}
    (hx : x ∈ contacts (t.filterMap Mark.label?)) (hresult : x.result = .ok (.ok response)) :
    Answered t response := by
  obtain ⟨l, hl, hlx⟩ := List.mem_filterMap.1 hx
  obtain ⟨m, hm, hml⟩ := List.mem_filterMap.1 hl
  cases m with
  | exchange node y result ended =>
    cases hml
    cases hlx
    cases hresult
    exact ⟨node, y, ended, hm⟩
  | pause began result ended =>
    cases hml
    cases hlx
  | _ => cases hml

namespace Op

variable {op : Op α} {w w₁ : World} {a : α} {t : List Mark}

/-- What a run sends are its exchanges, the last one first. -/
theorem Ends.sent_eq (h : op.Ends e cancel w a w₁ t) :
    w₁.sent = (exchanges t).reverse ++ w.sent := by
  induction h with
  | done a w => rfl
  | act _ ih => exact ih
  | choose _ ih => exact ih
  | clock _ ih => exact ih
  | barred _ _ ih => exact ih
  | exchange _ _ ih =>
    rw [ih]
    exact (List.append_assoc _ [_] _).symm.trans (congrArg (· ++ _) List.reverse_cons.symm)
  | pause _ _ ih => exact ih
  | acquire _ ih => exact ih
  | release _ ih => exact ih
  | failover _ _ ihfirst ihrest =>
    rw [ihrest, ihfirst, exchanges_append, List.reverse_append, List.append_assoc]

/-- Where nothing is seen no time passes and nothing is sent. -/
theorem IsQuiet.ends (hop : op.IsQuiet) (h : op.Ends e cancel w a w₁ t) :
    w₁.now = w.now ∧ exchanges t = [] := by
  induction h with
  | done a w => exact ⟨rfl, rfl⟩
  | act _ ih => exact ih (hop _)
  | choose _ ih => exact ih (hop _)
  | clock _ ih => exact ih (hop _)
  | barred _ _ _ => exact hop.elim
  | exchange _ _ _ => exact hop.elim
  | pause _ _ _ => exact hop.elim
  | acquire _ ih => exact ih (hop _)
  | release _ ih => exact ih hop
  | failover _ _ _ _ => exact hop.elim

/-- What is shown whatever others do is seen of a run. -/
theorem Ends.shown {P : List Label → Prop} {Q : List Label → α → Prop}
    (h : op.Ends e cancel w a w₁ t) (hs : ∀ n, op.Shows e.config n P Q []) :
    Q (t.filterMap Mark.label?) a := by
  obtain ⟨n, ht⟩ := h.steps.trace
  exact (hs n n le_rfl _ _ ht).2 a rfl

end Op

namespace Client

variable {r : Request} {w w₁ : World} {response : Response} {t : List Mark}

theorem open_nil (c : Config) : Open c [] := by
  refine ⟨⟨Nat.zero_le _, fun b _ xs hxs => ?_⟩, fun x hx => absurd hx List.not_mem_nil⟩
  rw [List.mem_singleton.1 hxs]
  exact Nat.zero_le _

theorem answered_of_contact {x : Contact} (hx : x ∈ contacts (t.filterMap Mark.label?))
    (h : x.outcome = .ok response) : response.isSuccess = true ∧ Answered t response := by
  obtain ⟨hresult, hsuccess⟩ := Contact.outcome_eq_ok_iff.1 h
  exact ⟨hsuccess, answered_of_mem_contacts hx hresult⟩

theorem request_answered (h : (request e.config r).Ends e cancel w (.ok response) w₁ t) :
    response.isSuccess = true ∧ Answered t response := by
  have hending : Ending e.config (t.filterMap Mark.label?) (.ok response) :=
    h.shown fun n => request_shows e.config n r
  obtain ⟨x, hx, hanswer⟩ := (hending.eq_ok_iff response).1 rfl
  exact answered_of_contact (List.mem_of_getLast? hx) hanswer

/-- A success of a node is the answer to the only exchange with it. -/
theorem nodeRequest_shows (c : Config) (n : Nat) (node : NodeRef) (r : Request) :
    (nodeRequest c node r).Shows c n (InOrder c) (fun t out =>
      ∀ response, out = .ok response → ∃ x ∈ contacts t, x.outcome = .ok response) [] := by
  have ho := open_nil c
  unfold nodeRequest
  apply (prepare_shows c ho.inOrder r).bind
  rintro _ prepared ⟨rfl, -⟩
  cases prepared with
  | error f => exact Op.shows_done ho.inOrder fun response hout => nomatch hout
  | ok r =>
    have hroom : HasRoom c [] := fun _ _ => Nat.zero_le _
    refine (sendOnce_shows ho hroom node r).imp ?_
    rintro t out (⟨x, rfl, rfl⟩ | ⟨-, i, rfl⟩) response hout
    · rw [List.nil_append]
      exact ⟨x, List.mem_singleton.2 rfl, hout⟩
    · cases hout

theorem nodeRequest_answered {node : NodeRef}
    (h : (nodeRequest e.config node r).Ends e cancel w (.ok response) w₁ t) :
    response.isSuccess = true ∧ Answered t response := by
  obtain ⟨x, hx, hanswer⟩ := h.shown (fun n => nodeRequest_shows e.config n node r) response rfl
  exact answered_of_contact hx hanswer

end Client
end MetricRing
