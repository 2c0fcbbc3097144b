import Mathlib.Algebra.Order.BigOperators.Group.List
import Mathlib.Algebra.Order.Group.Nat
import Mathlib.Data.List.Induction
import MetricRing.Proofs.Histories
import MetricRing.Proofs.SoloRuns

/-!
# The exchanges of a request

A request makes attempts with pauses between them, and an attempt turns from node to node. Both go
on only after failures that may be retried, so that the first exchange that ends otherwise decides
the request. `InOrder` is what holds of the history at each moment, `Open` what holds while the
request may still go on, and `Ending` what the result says about the history.
-/

namespace MetricRing

def Contact.outcome (x : Contact) : Outcome :=
  match x.result with
  | .error i => .error i.failure
  | .ok (.error f) => .error f
  | .ok (.ok response) => Client.judge response

def Contact.IsRetried (x : Contact) : Prop := ∃ e, x.outcome = .error e ∧ e.isRetryable = true

theorem Contact.outcome_eq_ok_iff {x : Contact} {response : Response} :
    x.outcome = .ok response ↔ x.result = .ok (.ok response) ∧ response.isSuccess = true := by
  unfold Contact.outcome
  constructor
  · intro h
    split at h
    · cases h
    · cases h
    next answer hresult =>
      unfold Client.judge at h
      split_ifs at h with hs
      cases h
      exact ⟨hresult, hs⟩
  · rintro ⟨hresult, hs⟩
    rw [hresult]
    exact if_pos hs

/-- What a request is sent again after: a failure to exchange anything that may pass, or an answer
that neither is a success nor blames the request. -/
theorem Contact.isRetried_iff {x : Contact} :
    x.IsRetried ↔ (∃ f, x.result = .ok (.error f) ∧ f.isRetryable = true) ∨
      ∃ response, x.result = .ok (.ok response) ∧ response.isSuccess = false ∧
        ¬(400 ≤ response.status ∧ response.status < 500) ∧
        Failure.isFinalMessage (Text.trim response.text) = false := by
  obtain ⟨node, r, result⟩ := x
  unfold Contact.IsRetried Contact.outcome
  rcases result with i | f | response
  · cases i <;> simp [Interrupt.failure, Failure.isRetryable]
  · simp
  · unfold Client.judge
    cases hs : response.isSuccess with
    | true => simp [hs]
    | false =>
      have hrange : (400 ≤ response.status → 500 ≤ response.status) ↔
          response.status < 400 ∨ 500 ≤ response.status := by omega
      simp [hs, Failure.isRetryable, hrange]

/-! ### Attempts -/

structure Attempts where
  earlier : List (List Contact) := []
  latest : List Contact := []

namespace Attempts

def see (a : Attempts) : Label → Attempts
  | .contact x => { a with latest := a.latest ++ [x] }
  | .pause _ => ⟨a.earlier ++ [a.latest], []⟩

def all (a : Attempts) : List (List Contact) := a.earlier ++ [a.latest]

end Attempts

def attempts (t : List Label) : Attempts := t.foldl Attempts.see {}

theorem attempts_concat (t : List Label) (l : Label) :
    attempts (t ++ [l]) = (attempts t).see l := by
  rw [attempts, List.foldl_append]
  rfl

theorem flatten_attempts (t : List Label) : (attempts t).all.flatten = contacts t := by
  induction t using List.reverseRecOn with
  | nil => rfl
  | append_singleton t l ih =>
    rw [attempts_concat, contacts_append, ← ih]
    cases l with
    | contact x => simp [Attempts.see, Attempts.all, contacts, Label.contact?]
    | pause result => simp [Attempts.see, Attempts.all, contacts, Label.contact?]

/-- How an attempt that made these exchanges failed; one that found no node made none. -/
def Blames (xs : List Contact) (e : Failure) : Prop :=
  match xs.getLast? with
  | some x => x.outcome = .error e
  | none => e = .noActiveNodes

/-! ### Histories of requests -/

/-- No more attempts, and in none of them more exchanges, than the configuration allows. -/
structure WithinLimits (c : Config) (t : List Label) : Prop where
  many : (attempts t).earlier.length ≤ c.effectiveRetries
  bounded : ∀ b, c.connectBudget = some b → ∀ xs ∈ (attempts t).all, xs.length ≤ b + 1

structure InOrder (c : Config) (t : List Label) : Prop extends WithinLimits c t where
  retried : ∀ x ∈ (contacts t).dropLast, x.IsRetried

/-- The request may go on: whatever it has tried may be tried again. -/
structure Open (c : Config) (t : List Label) : Prop extends WithinLimits c t where
  retried : ∀ x ∈ contacts t, x.IsRetried

inductive Ending (c : Config) (t : List Label) : Outcome → Prop
  | decided (u : List Label) (x : Contact) (ht : t = u ++ [.contact x])
    (hu : ∀ y ∈ contacts u, y.IsRetried) (hx : ¬x.IsRetried) : Ending c t x.outcome
  | cut (i : Interrupt) (ht : ∀ x ∈ contacts t, x.IsRetried) : Ending c t (.error i.failure)
  | refused (m : String) (ht : t = []) : Ending c t (.error (.hook m))
  | exhausted (e : Failure) (ht : ∀ x ∈ contacts t, x.IsRetried)
    (hn : (attempts t).earlier.length = c.effectiveRetries) (hb : Blames (attempts t).latest e)
    (he : e.isRetryable = true) : Ending c t (.error (.exhausted (contacts t).length e))

inductive AttemptEnding (c : Config) (t : List Label) : Outcome × Nat → Prop
  | answered (u : List Label) (x : Contact) (ht : t = u ++ [.contact x]) (hu : Open c u)
    (h : InOrder c t) : AttemptEnding c t (x.outcome, (contacts t).length)
  | cut (i : Interrupt) (n : Nat) (h : Open c t) : AttemptEnding c t (.error i.failure, n)
  | nobody (h : Open c t) (hl : (attempts t).latest = []) :
    AttemptEnding c t (.error .noActiveNodes, (contacts t).length)

variable {c : Config} {h t : List Label}

theorem contacts_concat (t : List Label) (x : Contact) :
    contacts (t ++ [.contact x]) = contacts t ++ [x] := contacts_append t [.contact x]

theorem contacts_pause (t : List Label) (result : Except Interrupt Unit) :
    contacts (t ++ [.pause result]) = contacts t :=
  (contacts_append t [.pause result]).trans (List.append_nil _)

theorem Open.inOrder (ho : Open c t) : InOrder c t :=
  ⟨ho.toWithinLimits, fun x hx => ho.retried x (List.dropLast_subset _ hx)⟩

def HasRoom (c : Config) (t : List Label) : Prop :=
  ∀ b, c.connectBudget = some b → (attempts t).latest.length ≤ b

theorem Open.contact (ho : Open c t) (hr : HasRoom c t) (x : Contact) :
    InOrder c (t ++ [.contact x]) := by
  refine ⟨⟨?_, ?_⟩, ?_⟩
  · rw [attempts_concat]
    exact ho.many
  · intro b hb xs hxs
    rw [attempts_concat] at hxs
    rcases List.mem_append.1 hxs with hxs | hxs
    · exact ho.bounded b hb xs (List.mem_append_left _ hxs)
    · rw [List.mem_singleton.1 hxs]
      have hlatest := hr b hb
      simp only [Attempts.see, List.length_append, List.length_singleton]
      omega
  · rw [contacts_concat, List.dropLast_concat]
    exact ho.retried

theorem InOrder.isOpen {x : Contact} (hi : InOrder c (t ++ [.contact x])) (hx : x.IsRetried) :
    Open c (t ++ [.contact x]) := by
  refine ⟨hi.toWithinLimits, fun y hy => ?_⟩
  have hretried := hi.retried
  rw [contacts_concat] at hy hretried
  rw [List.dropLast_concat] at hretried
  rcases List.mem_append.1 hy with hy | hy
  · exact hretried y hy
  · exact List.mem_singleton.1 hy ▸ hx

/-- A pause before another attempt. -/
theorem Open.pause (ho : Open c t) (hn : (attempts t).earlier.length < c.effectiveRetries)
    (result : Except Interrupt Unit) : Open c (t ++ [.pause result]) := by
  refine ⟨⟨?_, ?_⟩, ?_⟩
  · rw [attempts_concat]
    simp only [Attempts.see, List.length_append, List.length_singleton]
    omega
  · intro b hb xs hxs
    rw [attempts_concat] at hxs
    rcases List.mem_append.1 hxs with hxs | hxs
    · exact ho.bounded b hb xs hxs
    · rw [List.mem_singleton.1 hxs]
      exact Nat.zero_le _
  · rw [contacts_pause]
    exact ho.retried

/-! ### Endings of attempts -/

def EndsAttempt (c : Config) (h t : List Label) (result : Outcome × Nat) : Prop :=
  (attempts t).earlier = (attempts h).earlier ∧ AttemptEnding c t result

theorem AttemptEnding.inOrder {result : Outcome × Nat} (ha : AttemptEnding c t result) :
    InOrder c t := by
  cases ha with
  | answered u x ht hu h => exact h
  | cut i n h => exact h.inOrder
  | nobody h hl => exact h.inOrder

/-- An attempt that failed for a reason that may pass leaves the request open. -/
theorem AttemptEnding.isOpen {e : Failure} {n : Nat} (ha : AttemptEnding c t (.error e, n))
    (he : e.isRetryable = true) :
    Open c t ∧ Blames (attempts t).latest e ∧ n = (contacts t).length := by
  generalize hresult : ((.error e, n) : Outcome × Nat) = result at ha
  cases ha with
  | answered u x ht hu h =>
    obtain ⟨hout, rfl⟩ := Prod.mk.inj hresult
    subst ht
    refine ⟨h.isOpen ⟨e, hout.symm, he⟩, ?_, rfl⟩
    rw [attempts_concat, Blames, Attempts.see, List.getLast?_concat]
    exact hout.symm
  | cut i k h =>
    obtain ⟨hout, -⟩ := Prod.mk.inj hresult
    cases hout
    cases i <;> cases he
  | nobody h hl =>
    obtain ⟨hout, rfl⟩ := Prod.mk.inj hresult
    cases hout
    refine ⟨h, ?_, rfl⟩
    rw [hl]
    rfl

/-- Any other ending of an attempt is the ending of the request. -/
theorem AttemptEnding.ending {out : Outcome} {n : Nat} (ha : AttemptEnding c t (out, n))
    (hout : ∀ e, out = .error e → e.isRetryable = false) : Ending c t out := by
  generalize hresult : (out, n) = result at ha
  cases ha with
  | answered u x ht hu h =>
    obtain ⟨rfl, -⟩ := Prod.mk.inj hresult
    apply Ending.decided u x ht hu.retried
    rintro ⟨e, he, hr⟩
    exact Bool.false_ne_true ((hout e he).symm.trans hr)
  | cut i k h =>
    obtain ⟨rfl, -⟩ := Prod.mk.inj hresult
    exact .cut i h.retried
  | nobody h hl =>
    obtain ⟨rfl, -⟩ := Prod.mk.inj hresult
    cases hout .noActiveNodes rfl

/-! ### Operations -/

namespace Client

variable {n : Nat}

theorem isQuiet_note (setting : Option String) (path : String) (event : State → Event) :
    (note setting path event).IsQuiet := by
  unfold note
  split_ifs
  · exact Op.isQuiet_modify _
  · trivial

theorem isQuiet_observe (node : NodeRef) (headers : Headers) : (observe node headers).IsQuiet := by
  unfold observe
  split
  · trivial
  · apply (Op.isQuiet_read _).bind
    intro own
    dsimp only
    split_ifs
    · exact (Op.isQuiet_modify _).bind fun _ => Op.isQuiet_modify _
    · exact Op.isQuiet_modify _

theorem isQuiet_oneOf (candidates : List NodeRef) : (Op.oneOf candidates).IsQuiet := by
  unfold Op.oneOf
  split_ifs
  · trivial
  · exact fun _ => trivial

theorem isQuiet_selectNode (preferred : Option NodeRef) (attempt : Nat) :
    (selectNode preferred attempt).IsQuiet := by
  unfold selectNode
  apply (Op.isQuiet_read _).bind
  intro start
  cases start with
  | node r => trivial
  | oneOf rs => exact isQuiet_oneOf rs

/-- Only the request hook keeps a request from being sent. -/
theorem prepare_shows {P : List Label → Prop} (c : Config) (hp : P h) (r : Request) :
    (prepare c r).Shows c n P (fun t out => t = h ∧ ∀ f, out = .error f → ∃ m, f = .hook m) h := by
  unfold prepare
  apply Op.isQuiet_now.shows_bind hp
  intro now
  apply (Op.isQuiet_read State.hook).shows_bind hp
  intro hook
  cases hook with
  | none => exact Op.shows_done hp ⟨rfl, fun f hf => nomatch hf⟩
  | some hook =>
    dsimp only
    split
    · exact Op.shows_done hp ⟨rfl, fun f hf => nomatch hf⟩
    next m _ => exact Op.shows_done hp ⟨rfl, fun f hf => ⟨m, (Except.error.inj hf).symm⟩⟩

def SentOnce (h t : List Label) (out : Outcome) : Prop :=
  (∃ x, t = h ++ [.contact x] ∧ out = x.outcome) ∨ t = h ∧ ∃ i : Interrupt, out = .error i.failure

theorem sendOnce_shows (ho : Open c h) (hr : HasRoom c h) (node : NodeRef) (r : Request) :
    (sendOnce c node r).Shows c n (InOrder c) (SentOnce h) h := by
  unfold sendOnce
  apply (isQuiet_note _ _ _).shows_bind ho.inOrder
  intro _
  apply Op.isQuiet_now.shows_bind ho.inOrder
  intro started
  refine Op.shows_exchange ho.inOrder (fun x _ _ => ?_) fun i => ?_
  · have hx := ho.contact hr x
    have hends {out : Outcome} (hout : out = x.outcome) :
        (Op.done out).Shows c n (InOrder c) (SentOnce h) (h ++ [.contact x]) :=
      Op.shows_done hx (Or.inl ⟨x, rfl, hout⟩)
    obtain ⟨node, r, result⟩ := x
    cases result with
    | error i => exact hends rfl
    | ok answer =>
      apply Op.isQuiet_now.shows_bind hx
      intro ended
      apply (isQuiet_note _ _ _).shows_bind hx
      intro _
      cases answer with
      | error f => exact hends rfl
      | ok response =>
        apply (isQuiet_observe _ response.headers).shows_bind hx
        intro _
        apply (isQuiet_note _ _ _).shows_bind hx
        intro _
        exact hends rfl
  · exact Op.shows_done ho.inOrder (Or.inr ⟨rfl, i, rfl⟩)

/-- The exchanges that a failover may still make keep within the budget of the attempt. -/
def Affords (c : Config) (t : List Label) (budget : Option Nat) : Prop :=
  ∀ b, c.connectBudget = some b → ∃ left, budget = some left ∧ (attempts t).latest.length + left ≤ b

theorem Affords.hasRoom {budget : Option Nat} (ha : Affords c t budget) : HasRoom c t := by
  intro b hb
  obtain ⟨left, -, hleft⟩ := ha b hb
  omega

theorem Affords.spend {budget budget' : Option Nat} (ha : Affords c t budget)
    (hs : spend? budget = some budget') (x : Contact) : Affords c (t ++ [.contact x]) budget' := by
  intro b hb
  obtain ⟨left, rfl, hleft⟩ := ha b hb
  cases left with
  | zero => cases hs
  | succ left =>
    cases hs
    refine ⟨left, rfl, ?_⟩
    rw [attempts_concat]
    simp only [Attempts.see, List.length_append, List.length_singleton]
    omega

theorem isRetryable_of_isConnection {e : Failure} (he : e.isConnection = true) :
    e.isRetryable = true := by
  cases e with
  | connection node cause => rfl
  | _ => cases he

theorem failoverStep_shows (f : Failover) (ho : Open c h) (ha : Affords c h f.budget)
    (hn : f.contacted = (contacts h).length) :
    (failoverStep c f).Shows c n (InOrder c) (EndsAttempt c h) h := by
  induction n using Nat.strong_induction_on generalizing f h with
  | _ n ih =>
    unfold failoverStep
    apply (Op.isQuiet_read _).shows_bind ho.inOrder
    intro address
    apply (sendOnce_shows ho ha.hasRoom f.node f.request).bind
    rintro _ _ (⟨x, rfl, rfl⟩ | ⟨ht, i, rfl⟩)
    · have hx := ho.contact ha.hasRoom x
      have hcount : f.contacted + 1 = (contacts (h ++ [.contact x])).length := by
        rw [contacts_concat, List.length_append, List.length_singleton, hn]
      have hearlier : (attempts (h ++ [.contact x])).earlier = (attempts h).earlier := by
        rw [attempts_concat]
        rfl
      have answered : (Op.done (x.outcome, f.contacted + 1)).Shows c n (InOrder c)
          (EndsAttempt c h) (h ++ [.contact x]) :=
        Op.shows_done hx ⟨hearlier, hcount ▸ .answered h x rfl ho hx⟩
      cases hout : x.outcome with
      | ok response =>
        rw [hout] at answered
        exact answered
      | error e =>
        rw [hout] at answered
        dsimp only
        split_ifs with hconnection
        · exact answered
        · have he : e.isConnection = true := by simpa using hconnection
          have hopen := hx.isOpen ⟨e, hout, isRetryable_of_isConnection he⟩
          cases hspend : spend? f.budget with
          | none => exact answered
          | some budget =>
            apply (Op.isQuiet_read _).shows_bind hx
            intro others
            apply (isQuiet_oneOf others).shows_bind hx
            intro choice
            cases choice with
            | none => exact answered
            | some node =>
              apply Op.shows_failover hx
              intro k hk
              rw [Op.bind_done]
              have hrest := ih k hk
                { request := f.request, node, tried := f.tried ++ [address], budget,
                  contacted := f.contacted + 1 } hopen (ha.spend hspend x) hcount
              have hsame : EndsAttempt c (h ++ [.contact x]) = EndsAttempt c h := by
                unfold EndsAttempt
                rw [hearlier]
              rwa [hsame] at hrest
    · subst ht
      cases i with
      | cancelled => exact Op.shows_done ho.inOrder ⟨rfl, .cut .cancelled _ ho⟩
      | deadline => exact Op.shows_done ho.inOrder ⟨rfl, .cut .deadline _ ho⟩

/-- One attempt, at the beginning of which no exchange has been made for it. -/
theorem tryOnce_shows (r : Request) (attempt : Nat) (ho : Open c h)
    (hl : (attempts h).latest = []) :
    (tryOnce c r attempt (contacts h).length).Shows c n (InOrder c) (EndsAttempt c h) h := by
  unfold tryOnce
  apply (isQuiet_selectNode r.preferred attempt).shows_bind ho.inOrder
  intro node
  cases node with
  | none => exact Op.shows_done ho.inOrder ⟨rfl, .nobody ho hl⟩
  | some node =>
    apply Op.shows_failover ho.inOrder
    intro k _
    rw [Op.bind_done]
    refine failoverStep_shows _ ho (fun b hb => ⟨b, hb, ?_⟩) rfl
    rw [hl]
    exact (Nat.zero_add b).le

theorem retry_shows (r : Request) {left : Nat} (attempt : Nat) {last : Failure} (ho : Open c h)
    (hn : (attempts h).earlier.length + left = c.effectiveRetries)
    (hb : Blames (attempts h).latest last) (hlast : last.isRetryable = true) :
    (retry c r left attempt (contacts h).length last).Shows c n (InOrder c) (Ending c) h := by
  induction left generalizing attempt last h with
  | zero => exact Op.shows_done ho.inOrder (.exhausted last ho.retried hn hb hlast)
  | succ left ih =>
    unfold retry
    apply Op.shows_pause ho.inOrder
    intro result
    have hpaused := ho.pause (by omega) result
    have hcount : (contacts h).length = (contacts (h ++ [.pause result])).length := by
      rw [contacts_pause]
    cases result with
    | error i => exact Op.shows_done hpaused.inOrder (.cut i hpaused.retried)
    | ok _ =>
      rw [hcount]
      have hlatest : (attempts (h ++ [.pause (.ok ())])).latest = [] := by
        rw [attempts_concat]
        rfl
      apply (tryOnce_shows r attempt hpaused hlatest).bind
      rintro t ⟨out, contacted⟩ ⟨hearlier, hend⟩
      cases out with
      | ok response => exact Op.shows_done hend.inOrder (hend.ending fun e he => nomatch he)
      | error e =>
        dsimp only
        split_ifs with he
        · obtain ⟨hopen, hblames, rfl⟩ := hend.isOpen he
          refine ih _ hopen ?_ hblames he
          rw [hearlier, attempts_concat, Attempts.see, List.length_append, List.length_singleton]
          omega
        · refine Op.shows_done hend.inOrder (hend.ending fun e' he' => ?_)
          cases he'
          exact Bool.eq_false_iff.2 he

theorem request_shows (c : Config) (n : Nat) (r : Request) :
    (request c r).Shows c n (InOrder c) (Ending c) [] := by
  have ho : Open c [] := by
    refine ⟨⟨Nat.zero_le _, fun b _ xs hxs => ?_⟩, fun x hx => absurd hx List.not_mem_nil⟩
    rw [List.mem_singleton.1 hxs]
    exact Nat.zero_le _
  unfold request
  apply (prepare_shows c ho.inOrder r).bind
  rintro t prepared ⟨rfl, hrefused⟩
  cases prepared with
  | error f =>
    obtain ⟨m, rfl⟩ := hrefused f rfl
    exact Op.shows_done ho.inOrder (.refused m rfl)
  | ok r =>
    apply (tryOnce_shows r 0 ho rfl).bind
    rintro t ⟨out, contacted⟩ ⟨hearlier, hend⟩
    cases out with
    | ok response => exact Op.shows_done hend.inOrder (hend.ending fun e he => nomatch he)
    | error e =>
      dsimp only
      split_ifs with he
      · obtain ⟨hopen, hblames, rfl⟩ := hend.isOpen he
        refine retry_shows r 1 hopen ?_ hblames he
        rw [hearlier]
        exact Nat.zero_add _
      · refine Op.shows_done hend.inOrder (hend.ending fun e' he' => ?_)
        cases he'
        exact Bool.eq_false_iff.2 he

end Client
/-! ### The whole request -/

theorem InOrder.length_le {b : Nat} (hi : InOrder c t) (hb : c.connectBudget = some b) :
    (contacts t).length ≤ (c.effectiveRetries + 1) * (b + 1) := by
  rw [← flatten_attempts, List.length_flatten]
  have hsum : ((attempts t).all.map List.length).sum ≤
      ((attempts t).all.map List.length).length • (b + 1) := by
    apply List.sum_le_card_nsmul _ _
    intro k hk
    obtain ⟨xs, hxs, rfl⟩ := List.mem_map.1 hk
    exact hi.bounded b hb xs hxs
  refine hsum.trans (Nat.mul_le_mul_right _ ?_)
  rw [List.length_map, Attempts.all, List.length_append, List.length_singleton]
  exact Nat.succ_le_succ hi.many

theorem Ending.eq_ok_iff {out : Outcome} (he : Ending c t out) (response : Response) :
    out = .ok response ↔ ∃ x, (contacts t).getLast? = some x ∧ x.outcome = .ok response := by
  -- A request that is cut short, refused or given up had failures only.
  have failed {e : Failure} (ht : ∀ x ∈ contacts t, x.IsRetried) :
      (.error e : Outcome) = .ok response ↔
        ∃ x, (contacts t).getLast? = some x ∧ x.outcome = .ok response := by
    refine ⟨fun h => (nomatch h), fun ⟨x, hx, hout⟩ => ?_⟩
    obtain ⟨f, hf, -⟩ := ht x (List.mem_of_getLast? hx)
    cases hf.symm.trans hout
  cases he with
  | decided u x ht hu hx =>
    rw [ht, contacts_concat, List.getLast?_concat]
    constructor
    · exact fun h => ⟨x, rfl, h⟩
    · rintro ⟨y, hy, hout⟩
      cases hy
      exact hout
  | cut i ht => exact failed ht
  | refused m ht => exact failed (ht ▸ fun x hx => absurd hx List.not_mem_nil)
  | exhausted e ht hn hb he => exact failed ht

theorem Ending.eq_of_not_retryable {out : Outcome} (he : Ending c t out) {x : Contact}
    (hx : x ∈ contacts t) {e : Failure} (hout : x.outcome = .error e) (hr : e.isRetryable = false) :
    out = .error e := by
  have decided (ht : x.IsRetried) : False := by
    obtain ⟨f, hf, hretry⟩ := ht
    cases hf.symm.trans hout
    exact Bool.false_ne_true (hr.symm.trans hretry)
  cases he with
  | decided u y ht hu hy =>
    rw [ht, contacts_concat] at hx
    rcases List.mem_append.1 hx with hx | hx
    · exact (decided (hu x hx)).elim
    · rw [← List.mem_singleton.1 hx]
      exact hout
  | cut i ht => exact (decided (ht x hx)).elim
  | refused m ht => exact absurd (ht ▸ hx) List.not_mem_nil
  | exhausted e ht hn hb he => exact (decided (ht x hx)).elim

theorem Ending.exhausted_of_ne {out : Outcome} (he : Ending c t out) {n : Nat} {e : Failure}
    (hout : out = .error (.exhausted n e)) (ht : ∀ x ∈ contacts t, x.outcome ≠ out) :
    (attempts t).all.length = c.effectiveRetries + 1 ∧ n = (contacts t).length ∧
      e.isRetryable = true ∧ Blames (attempts t).latest e := by
  cases he with
  | decided u x hu _ _ =>
    refine absurd rfl (ht x ?_)
    rw [hu, contacts_concat]
    exact List.mem_append_right _ (List.mem_singleton.2 rfl)
  | cut i _ => cases i <;> cases hout
  | refused m _ => cases hout
  | exhausted f _ hn hb hf =>
    cases hout
    refine ⟨?_, rfl, hf, hb⟩
    rw [Attempts.all, List.length_append, List.length_singleton, hn]

/-- The exchanges of a request at any moment, and once it has come to its result. Every exchange
but the last failed and may be retried, so that its answer, if it had one, was no success and did
not blame the request; a success is the answer of the last exchange; a failure
that may not be retried is the result; and a request that was given up has made all its attempts,
counts its exchanges, and tells why the last attempt failed. -/
theorem request_exchanges (r : Request) {n : Nat} {op : Op Outcome}
    (ht : (Client.request c r).Trace c n t op) :
    (∀ x ∈ (contacts t).dropLast, (∃ e, x.outcome = .error e ∧ e.isRetryable = true) ∧
        ∀ response, x.result = .ok (.ok response) → response.isSuccess = false ∧
          ¬(400 ≤ response.status ∧ response.status < 500) ∧
          Failure.isFinalMessage (Text.trim response.text) = false) ∧
      (∀ b, c.connectBudget = some b →
        (contacts t).length ≤ (c.effectiveRetries + 1) * (b + 1)) ∧
      ∀ out, op = .done out →
        (∀ response, out = .ok response ↔ ∃ x, (contacts t).getLast? = some x ∧
          x.result = .ok (.ok response) ∧ response.isSuccess = true) ∧
        (∀ x ∈ contacts t, ∀ e, x.outcome = .error e → e.isRetryable = false → out = .error e) ∧
        ∀ k last, out = .error (.exhausted k last) → (∀ x ∈ contacts t, x.outcome ≠ out) →
          (attempts t).all.length = c.effectiveRetries + 1 ∧ k = (contacts t).length ∧
            last.isRetryable = true ∧ Blames (attempts t).latest last := by
  obtain ⟨hi, hend⟩ := Client.request_shows c n r n (Nat.le_refl n) t op ht
  refine ⟨fun x hx => ⟨hi.retried x hx, fun response hresponse => ?_⟩,
    fun b hb => hi.length_le hb, fun out hout => ?_⟩
  · obtain ⟨f, hf, -⟩ | ⟨answer, hanswer, hanswered⟩ := Contact.isRetried_iff.1 (hi.retried x hx)
    · cases hf.symm.trans hresponse
    · cases hanswer.symm.trans hresponse
      exact hanswered
  have he : Ending c t out := hend out hout
  refine ⟨fun response => ?_, fun x hx e => he.eq_of_not_retryable hx,
    fun k last => he.exhausted_of_ne⟩
  simp only [← Contact.outcome_eq_ok_iff]
  exact he.eq_ok_iff response

def busyPair : Setting where
  config := { retries := 1, connectRetries := 1 }
  transport _ x :=
    if x.node = "a" then { outcome := .error (.connection "a" "refused") }
    else { outcome := .ok { status := 503, node := "b" } }
  pick _ := 0

def busyPairStart : World where
  state := { nodes := [{ address := "a" }, { address := "b" }], pool := { active := [0, 1] } }

theorem request_exchanges_in_busyPair :
    ∃ n t last, (Client.request busyPair.config { path := "/" }).Trace busyPair.config n t
        (.done (.error (.exhausted 4 last))) ∧
      (∀ x ∈ (contacts t).dropLast, ∃ e, x.outcome = .error e ∧ e.isRetryable = true) ∧
      (contacts t).length = 4 ∧ (attempts t).all.length = 2 ∧ last.isRetryable = true ∧
      Blames (attempts t).latest last := by
  have hrun : ((run busyPair none 2 (Client.request busyPair.config { path := "/" })
      busyPairStart).map fun x =>
        match x.1 with
        | .error (.exhausted n _) => some n
        | _ => none) = some (some 4) := by
    decide +kernel
  obtain ⟨⟨out, w⟩, hout, hmatch⟩ := Option.map_eq_some_iff.1 hrun
  obtain ⟨t, hsteps, -, hanswered⟩ := run_runs hout
  obtain ⟨n, htrace⟩ := hsteps.trace
  dsimp only at hmatch
  split at hmatch
  next k last =>
    cases hmatch
    -- The transport itself never gives up a request.
    have hgiven : ∀ x ∈ contacts t, x.outcome ≠ .error (.exhausted 4 last) := by
      intro x hx
      rw [Contact.outcome]
      obtain ⟨i, hi⟩ | ⟨sent, y, hy⟩ := hanswered x hx
      · rw [hi]
        cases i <;> simp [Interrupt.failure]
      · rw [hy, busyPair]
        dsimp only
        split_ifs
        · simp
        · simp [Client.judge, Response.isSuccess]
    obtain ⟨hretried, -, hend⟩ := request_exchanges { path := "/" } htrace
    obtain ⟨-, -, hexhausted⟩ := hend _ rfl
    obtain ⟨hall, hcount, hlast, hblames⟩ := hexhausted 4 last rfl hgiven
    exact ⟨n, t, last, htrace, fun x hx => (hretried x hx).1, hcount.symm, hall, hlast, hblames⟩
  next => cases hmatch

end MetricRing
