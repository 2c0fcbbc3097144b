import Mathlib.Algebra.BigOperators.Intervals
import MetricRing.Proofs.Deadlines

/-!
# The pauses of requests

The pause before an attempt doubles from one attempt to the next up to a limit, and is computed
without leaving the words it is computed in. Time passes in exchanges and pauses only, an attempt
makes no pause, and a pause that is not cut short lasts as long as it should. So a request that has
used up its attempts has waited for exactly the pauses between them.
-/

namespace MetricRing

/-! ### How long a pause is -/

namespace RetryPolicy

/-- A power of two in a word of 32 bits; none if it has no room there. -/
def powerInWord? : Nat → Option UInt32
  | 0 => some 1
  | n + 1 => (powerInWord? n).bind fun x => if x.toNat * 2 < UInt32.size then some (x * 2) else none

/-- The pause before an attempt whose number has 64 bits; none if its factor has no room in a
word. -/
def backoffInWords? (p : RetryPolicy) (attempt : UInt64) : Option Span :=
  let before := if attempt = 0 then 0 else attempt - 1
  let doublings := if before ≤ 20 then before else 20
  (powerInWord? doublings.toNat).map fun factor =>
    min (Span.clamp (p.base * factor.toNat)) p.limit

variable (p : RetryPolicy) {attempt later : Nat}

theorem powerInWord?_eq {n : Nat} (hn : n < 32) :
    ∃ x : UInt32, powerInWord? n = some x ∧ x.toNat = 2 ^ n := by
  induction n with
  | zero => exact ⟨1, rfl, rfl⟩
  | succ n ih =>
    obtain ⟨x, hx, hpower⟩ := ih (Nat.lt_of_succ_lt hn)
    have hroom : x.toNat * 2 < UInt32.size := by
      rw [hpower, ← Nat.pow_succ]
      exact Nat.pow_lt_pow_right (by decide) hn
    refine ⟨x * 2, ?_, ?_⟩
    · rw [powerInWord?, hx, Option.bind_some, if_pos hroom]
    · have hproduct : (x * 2).toNat = x.toNat * 2 :=
        (UInt32.toNat_mul x 2).trans (Nat.mod_eq_of_lt hroom)
      rw [hproduct, hpower, Nat.pow_succ]

theorem backoffInWords?_eq (attempt : UInt64) :
    p.backoffInWords? attempt = some (p.backoff attempt.toNat) := by
  have hbefore : (if attempt = 0 then 0 else attempt - 1).toNat = attempt.toNat - 1 := by
    split_ifs with hzero
    · rw [hzero]
      rfl
    · refine UInt64.toNat_sub_of_le _ _ (UInt64.le_iff_toNat_le.2 (Nat.one_le_iff_ne_zero.2 ?_))
      exact fun h => hzero (UInt64.toNat_inj.1 h)
  have hdoublings (before : UInt64) :
      (if before ≤ 20 then before else 20).toNat = min before.toNat maxDoublings := by
    rw [Nat.min_def, apply_ite UInt64.toNat]
    rfl
  obtain ⟨factor, hfactor, hpower⟩ := powerInWord?_eq (n := min (attempt.toNat - 1) maxDoublings)
    (lt_of_le_of_lt (min_le_right _ _) (by decide))
  unfold backoffInWords? backoff
  dsimp only
  rw [hdoublings, hbefore, hfactor, Option.map_some, hpower]
  rfl

theorem backoff_le_limit (attempt : Nat) : p.backoff attempt ≤ p.limit := min_le_right _ _

theorem backoff_mono (h : attempt ≤ later) : p.backoff attempt ≤ p.backoff later := by
  have hdoublings : min (attempt - 1) maxDoublings ≤ min (later - 1) maxDoublings :=
    min_le_min_right _ (Nat.sub_le_sub_right h 1)
  have hproduct := Nat.mul_le_mul_left p.base (Nat.pow_le_pow_right Nat.two_pos hdoublings)
  exact min_le_min_right _ (min_le_min_right _ hproduct)

/-- Where the doublings reach the limit, neither their bound nor the largest span is felt. -/
theorem backoff_eq (hlimit : p.limit ≤ Span.longest) (hreach : p.limit ≤ p.base * 2 ^ 20)
    (attempt : Nat) : p.backoff attempt = min (p.base * 2 ^ (attempt - 1)) p.limit := by
  have hclamped (product : Nat) : min (Span.clamp product) p.limit = min product p.limit := by
    rw [Span.clamp, min_assoc, min_eq_right hlimit]
  change min (Span.clamp (p.base * 2 ^ min (attempt - 1) 20)) p.limit = _
  rw [hclamped]
  rcases Nat.le_total (attempt - 1) 20 with hfew | hmany
  · rw [min_eq_left hfew]
  · have hfurther : p.base * 2 ^ 20 ≤ p.base * 2 ^ (attempt - 1) :=
      Nat.mul_le_mul_left _ (Nat.pow_le_pow_right Nat.two_pos hmany)
    rw [min_eq_right hmany, min_eq_right hreach, min_eq_right (hreach.trans hfurther)]

variable (c : Config)

theorem limit_ofConfig_le_longest : (ofConfig c).limit ≤ Span.longest := by
  change 5000 * 1000000 ≤ Nat.pow 2 64 * 1000000000 - 1
  decide

theorem limit_ofConfig_le : (ofConfig c).limit ≤ (ofConfig c).base * 2 ^ 20 := by
  change 5000 * 1000000 ≤ 50 * 1000000 * 2 ^ 20
  decide

/-- The pause before an attempt in milliseconds, as every configuration has it. -/
def pauseBefore (attempt : Nat) : Time := min (50 * 2 ^ (attempt - 1)) 5000

theorem toMillis_backoff_ofConfig (attempt : Nat) :
    ((ofConfig c).backoff attempt).toMillis = pauseBefore attempt := by
  rw [backoff_eq _ (limit_ofConfig_le_longest c) (limit_ofConfig_le c), pauseBefore, Span.toMillis]
  change min (50 * 1000000 * 2 ^ (attempt - 1)) (5000 * 1000000) / 1000000 = _
  rw [Nat.mul_right_comm, Nat.mul_min_mul_right, Nat.mul_div_cancel _ (by decide)]

end RetryPolicy

/-! ### Where time passes -/

def Mark.exchanging : Mark → Time
  | .exchange _ x _ ended => ended - x.time
  | _ => 0

def Mark.pausing? : Mark → Option Time
  | .pause began _ ended => some (ended - began)
  | _ => none

def timeExchanging (t : List Mark) : Time := (t.map Mark.exchanging).sum

def pauses (t : List Mark) : List Time := t.filterMap Mark.pausing?

theorem timeExchanging_cons (m : Mark) (t : List Mark) :
    timeExchanging (m :: t) = m.exchanging + timeExchanging t := List.sum_cons

theorem timeExchanging_cons_of_idle {m : Mark} (hm : m.exchanging = 0) (t : List Mark) :
    timeExchanging (m :: t) = timeExchanging t := by
  rw [timeExchanging_cons, hm]
  exact Nat.zero_add _

theorem timeExchanging_append (t t' : List Mark) :
    timeExchanging (t ++ t') = timeExchanging t + timeExchanging t' := by
  rw [timeExchanging, List.map_append, List.sum_append]
  rfl

theorem pauses_append (t t' : List Mark) : pauses (t ++ t') = pauses t ++ pauses t' :=
  List.filterMap_append

/-- The pauses of a run are what divides its attempts. -/
theorem length_earlier_attempts (t : List Mark) :
    (attempts (t.filterMap Mark.label?)).earlier.length = (pauses t).length := by
  induction t using List.reverseRecOn with
  | nil => rfl
  | append_singleton t m ih =>
    rw [List.filterMap_append, pauses_append, List.length_append, ← ih]
    cases m with
    | pause began result ended =>
      refine (congrArg (fun a => a.earlier.length) (attempts_concat _ _)).trans ?_
      exact List.length_append
    | exchange node x result ended =>
      exact congrArg (fun a => a.earlier.length) (attempts_concat _ _)
    | _ => exact congrArg (fun t => (attempts t).earlier.length) (List.append_nil _)

variable {α β : Type} {e : Setting} {cancel : Option Time}

namespace Op

variable {op : Op α} {w w₁ : World} {a : α} {t : List Mark}

theorem Ends.answered (h : op.Ends e cancel w a w₁ t) : ∀ x ∈ contactsIn t, x.IsAnswered e := by
  induction h with
  | done a w => exact fun x hx => absurd hx List.not_mem_nil
  | act _ ih => exact ih
  | choose _ ih => exact ih
  | clock _ ih => exact ih
  | barred _ _ ih => exact ih
  | @exchange _ node r next w w₁ a t _ _ ih =>
    intro x hx
    rcases List.mem_cons.1 hx with rfl | hx
    · change (∃ i, w.answer e cancel node r = .error i) ∨
        ∃ sent y, w.answer e cancel node r = .ok (e.transport sent y).outcome
      unfold World.answer
      cases (w.settled e cancel node r).1 with
      | error i => exact Or.inl ⟨i, rfl⟩
      | ok _ => exact Or.inr ⟨_, _, rfl⟩
    · exact ih x hx
  | pause _ _ ih => exact ih
  | acquire _ ih => exact ih
  | release _ ih => exact ih
  | failover _ _ ihfirst ihrest =>
    intro x hx
    rw [contactsIn_append, List.mem_append] at hx
    exact hx.elim (ihfirst x) (ihrest x)

/-- All the time of a run passes in its exchanges and in its pauses. -/
theorem Ends.now_eq (h : op.Ends e cancel w a w₁ t) :
    w₁.now = w.now + timeExchanging t + (pauses t).sum := by
  induction h with
  | done a w => rfl
  | act _ ih =>
    rw [timeExchanging_cons_of_idle rfl]
    exact ih
  | choose _ ih => exact ih
  | clock _ ih => exact ih
  | barred _ _ ih =>
    rw [timeExchanging_cons_of_idle rfl]
    exact ih
  | @exchange _ node r next w w₁ a t _ _ ih =>
    have hstart : w.now + ((w.after e cancel node r).now - w.now) = (w.after e cancel node r).now :=
      Nat.add_sub_cancel' World.now_le_after
    rw [timeExchanging_cons, ← Nat.add_assoc]
    exact ih.trans (congrArg (· + _ + _) hstart.symm)
  | @pause _ deadline delay next w w₁ a t result ended hs _ ih =>
    have hstart : w.now + (ended - w.now) = ended := Nat.add_sub_cancel' (le_of_settle hs)
    have hpauses : (pauses (.pause w.now result ended :: t)).sum =
        ended - w.now + (pauses t).sum := List.sum_cons
    rw [hpauses, timeExchanging_cons_of_idle rfl, Nat.add_right_comm, ← Nat.add_assoc, hstart,
      Nat.add_right_comm]
    exact ih
  | acquire _ ih => exact ih
  | release _ ih => exact ih
  | failover _ _ ihfirst ihrest =>
    rw [ihrest, ihfirst, timeExchanging_append, pauses_append, List.sum_append]
    ac_rfl

def IsBrisk : Op α → Prop
  | .done _ => True
  | .act _ next => ∀ s, (next s).IsBrisk
  | .choose n next => ∀ i, (next (i % n)).IsBrisk
  | .clock next => ∀ now, (next now).IsBrisk
  | .exchange _ _ next => ∀ result, (next result).IsBrisk
  | .pause _ _ _ => False
  | .acquire next => ∀ result, (next result).IsBrisk
  | .release next => next.IsBrisk
  | .failover _ next => ∀ result, (next result).IsBrisk

theorem IsQuiet.isBrisk (h : op.IsQuiet) : op.IsBrisk := by
  induction op with
  | done a => trivial
  | act g next ih => exact fun s => ih s (h s)
  | choose n next ih => exact fun i => ih (i % n) (h i)
  | clock next ih => exact fun now => ih now (h now)
  | exchange node r next ih => exact h.elim
  | pause deadline delay next ih => exact h.elim
  | acquire next ih => exact fun result => ih result (h result)
  | release next ih => exact ih h
  | failover f next ih => exact h.elim

theorem IsBrisk.bind {f : α → Op β} (h : op.IsBrisk) (hf : ∀ a, (f a).IsBrisk) :
    (op >>= f).IsBrisk := by
  change (op.bind f).IsBrisk
  induction op with
  | done a => exact hf a
  | act g next ih => exact fun s => ih s (h s)
  | choose n next ih => exact fun i => ih (i % n) (h i)
  | clock next ih => exact fun now => ih now (h now)
  | exchange node r next ih => exact fun result => ih result (h result)
  | pause deadline delay next ih => exact h.elim
  | acquire next ih => exact fun result => ih result (h result)
  | release next ih => exact ih h
  | failover f next ih => exact fun result => ih result (h result)

end Op

namespace Client

variable {c : Config} {r : Request} {w w₁ : World} {out : Outcome} {t : List Mark}

theorem isBrisk_sendOnce (c : Config) (node : NodeRef) (r : Request) :
    (sendOnce c node r).IsBrisk := by
  unfold sendOnce
  apply (isQuiet_note _ _ _).isBrisk.bind
  intro _ started result
  cases result with
  | error i => trivial
  | ok answer =>
    intro ended
    apply (isQuiet_note _ _ _).isBrisk.bind
    intro _
    cases answer with
    | error f => trivial
    | ok response =>
      apply (isQuiet_observe _ response.headers).isBrisk.bind
      intro _
      apply (isQuiet_note _ _ _).isBrisk.bind
      intro _
      trivial

theorem isBrisk_failoverStep (c : Config) (f : Failover) : (failoverStep c f).IsBrisk := by
  unfold failoverStep
  apply (Op.isQuiet_read _).isBrisk.bind
  intro address
  apply (isBrisk_sendOnce c f.node f.request).bind
  intro outcome
  cases outcome with
  | ok response => trivial
  | error failure =>
    dsimp only
    split_ifs
    · trivial
    · split
      · trivial
      · apply (Op.isQuiet_read _).isBrisk.bind
        intro others
        apply (isQuiet_oneOf others).isBrisk.bind
        intro choice
        cases choice with
        | none => trivial
        | some node => exact fun _ => trivial

theorem isBrisk_tryOnce (c : Config) (r : Request) (attempt contacted : Nat) :
    (tryOnce c r attempt contacted).IsBrisk := by
  unfold tryOnce
  apply (isQuiet_selectNode r.preferred attempt).isBrisk.bind
  intro node
  cases node with
  | none => trivial
  | some node => exact fun _ => trivial

end Client

theorem Op.Ends.pauses_eq_nil {op : Op α} {w w₁ : World} {a : α} {t : List Mark}
    (h : op.Ends e cancel w a w₁ t) (hop : op.IsBrisk) : pauses t = [] := by
  induction h with
  | done a w => rfl
  | act _ ih => exact ih (hop _)
  | choose _ ih => exact ih (hop _)
  | clock _ ih => exact ih (hop _)
  | barred _ _ ih => exact ih (hop _)
  | exchange _ _ ih => exact ih (hop _)
  | pause _ _ _ => exact hop.elim
  | acquire _ ih => exact ih (hop _)
  | release _ ih => exact ih hop
  | failover _ _ ihfirst ihrest =>
    rw [pauses_append, ihfirst (Client.isBrisk_failoverStep _ _), ihrest (hop _)]
    rfl

/-! ### Requests -/

namespace Client

open RetryPolicy (pauseBefore)

variable {r : Request} {w w₁ : World} {out : Outcome} {t : List Mark}

/-- A pause that is not cut short lasts as long as it should. -/
theorem ended_of_settle {deadline : Option Time} {now finish ended : Time}
    (h : settle cancel deadline now finish = (.ok (), ended)) : ended = finish := by
  have uncancelled (h : settle none deadline now finish = (.ok (), ended)) : ended = finish := by
    cases deadline with
    | none => exact (congrArg Prod.snd h).symm
    | some d =>
      rw [settle_none_some] at h
      split_ifs at h
      · cases h
      · exact (congrArg Prod.snd h).symm
  cases cancel with
  | none => exact uncancelled h
  | some n =>
    rw [settle_some] at h
    split_ifs at h
    · cases h
    · exact uncancelled h

theorem wait_ends {deadline : Option Time} {delay : Time} {result : Except Interrupt Unit}
    (h : (Op.wait deadline delay).Ends e cancel w result w₁ t) :
    pauses t = [w₁.now - w.now] ∧ (result = .ok () → w₁.now = w.now + delay) := by
  cases h with
  | pause hs rest =>
    obtain ⟨rfl, rfl, rfl⟩ := rest.of_done
    refine ⟨rfl, ?_⟩
    rintro rfl
    exact ended_of_settle hs

/-- Up to where a request went on, its pauses are those of the policy. -/
theorem retry_pauses {left attempt contacted : Nat} {last : Failure}
    (h : (retry e.config r left attempt contacted last).Ends e cancel w out w₁ t)
    (hout : ∀ i : Interrupt, out ≠ .error i.failure) :
    ∃ k, pauses t = (List.range' attempt k).map pauseBefore := by
  induction left generalizing attempt contacted last w t with
  | zero =>
    obtain ⟨-, -, rfl⟩ := h.of_done
    exact ⟨0, rfl⟩
  | succ left ih =>
    unfold retry at h
    obtain ⟨result, w₂, t₁, t₂, hwait, hrest, rfl⟩ := h.of_bind
    obtain ⟨hpause, hlasts⟩ := wait_ends hwait
    cases result with
    | error i =>
      obtain ⟨rfl, -, -⟩ := hrest.of_done
      exact absurd rfl (hout i)
    | ok _ =>
      rw [hlasts rfl, Nat.add_sub_cancel_left, RetryPolicy.toMillis_backoff_ofConfig] at hpause
      obtain ⟨⟨outcome, n⟩, w₃, t₂, t₃, htry, hrest, rfl⟩ := hrest.of_bind
      -- The attempt makes no pause, so that the others are those of the attempts after it.
      have hbrisk : pauses t₂ = [] := htry.pauses_eq_nil (isBrisk_tryOnce _ _ _ _)
      obtain ⟨k, hk⟩ : ∃ k, pauses t₃ = (List.range' (attempt + 1) k).map pauseBefore := by
        cases outcome with
        | ok response =>
          obtain ⟨-, -, rfl⟩ := hrest.of_done
          exact ⟨0, rfl⟩
        | error failure =>
          dsimp only at hrest
          split_ifs at hrest
          · exact ih hrest
          · obtain ⟨-, -, rfl⟩ := hrest.of_done
            exact ⟨0, rfl⟩
      refine ⟨k + 1, ?_⟩
      rw [pauses_append, pauses_append, hpause, hbrisk, hk, List.range'_succ, List.map_cons]
      rfl

theorem request_pauses (h : (request e.config r).Ends e cancel w out w₁ t)
    (hout : ∀ i : Interrupt, out ≠ .error i.failure) :
    ∃ k, pauses t = (List.range' 1 k).map pauseBefore := by
  unfold request at h
  obtain ⟨prepared, w₂, t₁, t₂, hprepare, hrest, rfl⟩ := h.of_bind
  obtain ⟨-, -, rfl⟩ := prepare_ends hprepare
  cases prepared with
  | error failure =>
    obtain ⟨-, -, rfl⟩ := hrest.of_done
    exact ⟨0, rfl⟩
  | ok sent =>
    obtain ⟨⟨outcome, n⟩, w₃, t₂, t₃, htry, hrest, rfl⟩ := hrest.of_bind
    have hbrisk : pauses t₂ = [] := htry.pauses_eq_nil (isBrisk_tryOnce _ _ _ _)
    obtain ⟨k, hk⟩ : ∃ k, pauses t₃ = (List.range' 1 k).map pauseBefore := by
      cases outcome with
      | ok response =>
        obtain ⟨-, -, rfl⟩ := hrest.of_done
        exact ⟨0, rfl⟩
      | error failure =>
        dsimp only at hrest
        split_ifs at hrest
        · exact retry_pauses hrest hout
        · obtain ⟨-, -, rfl⟩ := hrest.of_done
          exact ⟨0, rfl⟩
    refine ⟨k, ?_⟩
    rw [pauses_append, pauses_append, hbrisk, hk]
    rfl

/-- A request that has used up its attempts has paused between them, and never else. -/
theorem request_pauses_exhausted {n : Nat} {last : Failure}
    (h : (request e.config r).Ends e cancel w (.error (.exhausted n last)) w₁ t)
    (hown : ∀ x ∈ contactsIn t, x.outcome ≠ .error (.exhausted n last)) :
    pauses t = (List.range' 1 e.config.effectiveRetries).map pauseBefore := by
  have hending : Ending e.config (t.filterMap Mark.label?) (.error (.exhausted n last)) :=
    h.shown fun n => request_shows e.config n r
  obtain ⟨hall, -⟩ := hending.exhausted_of_ne rfl hown
  obtain ⟨k, hk⟩ := request_pauses h fun i hi => by cases i <;> cases hi
  rw [Attempts.all, List.length_append, length_earlier_attempts, hk, List.length_map,
    List.length_range', List.length_singleton] at hall
  rw [hk, Nat.succ.inj hall]

theorem sum_pauses (n : Nat) :
    ((List.range' 1 n).map pauseBefore).sum =
      ∑ i ∈ Finset.Icc 1 n, min (50 * 2 ^ (i - 1)) 5000 := by
  induction n with
  | zero => rfl
  | succ n ih =>
    rw [List.range'_concat, List.map_append, List.sum_append, ih,
      Finset.sum_Icc_succ_top (Nat.le_add_left 1 n), Nat.one_mul, Nat.add_comm 1]
    rfl

/-- The pause before an attempt is computed without an overflow, for all 64 bits of the attempt's
number. It is at most the limit, it never gets shorter, and where the doublings reach the limit, as
in every configuration, it is the base doubled for each attempt before, or the limit. So a request
that ends with all its attempts used up has taken exactly the time of its exchanges and these
pauses. -/
theorem request_takes_pauses (e : Setting) (cancel : Option Time) (r : Request) (w : World) :
    (∀ (p : RetryPolicy) (attempt : UInt64),
      p.backoffInWords? attempt = some (p.backoff attempt.toNat) ∧
        p.backoff attempt.toNat ≤ p.limit ∧
        (∀ later : UInt64, attempt ≤ later →
          p.backoff attempt.toNat ≤ p.backoff later.toNat) ∧
        (p.limit ≤ Span.longest → p.limit ≤ p.base * 2 ^ 20 → 1 ≤ attempt →
          p.backoff attempt.toNat = min (p.base * 2 ^ (attempt.toNat - 1)) p.limit)) ∧
      (∀ c, (RetryPolicy.ofConfig c).limit ≤ Span.longest ∧
        (RetryPolicy.ofConfig c).limit ≤ (RetryPolicy.ofConfig c).base * 2 ^ 20) ∧
      ∃ out w₁ t, (request e.config r).Ends e cancel w out w₁ t ∧
        ∀ n last, out = .error (.exhausted n last) → (∀ x ∈ contactsIn t, x.outcome ≠ out) →
          w₁.now = w.now + timeExchanging t +
            ∑ i ∈ Finset.Icc 1 e.config.effectiveRetries, min (50 * 2 ^ (i - 1)) 5000 := by
  refine ⟨fun p attempt => ⟨p.backoffInWords?_eq attempt, p.backoff_le_limit _,
    fun later hlater => p.backoff_mono (UInt64.le_iff_toNat_le.1 hlater),
    fun hlimit hreach _ => p.backoff_eq hlimit hreach _⟩,
    fun c => ⟨RetryPolicy.limit_ofConfig_le_longest c, RetryPolicy.limit_ofConfig_le c⟩, ?_⟩
  obtain ⟨out, w₁, t, h⟩ := Op.halts e cancel (request e.config r) w
  refine ⟨out, w₁, t, h, ?_⟩
  rintro n last rfl hown
  rw [h.now_eq, request_pauses_exhausted h hown, sum_pauses]

/-- Four exchanges and the three pauses between them. -/
theorem request_takes_pauses_in_busyNode :
    ∃ last w₁ t, (request busyNode.config { path := "/" }).Ends busyNode none busyNodeStart
        (.error (.exhausted 4 last)) w₁ t ∧
      (∀ x ∈ contactsIn t, x.outcome ≠ .error (.exhausted 4 last)) ∧
      w₁.now = timeExchanging t + 350 ∧ w₁.now = 430 := by
  obtain ⟨-, -, out, w₁, t, h, htime⟩ :=
    request_takes_pauses busyNode none { path := "/" } busyNodeStart
  have hnow : w₁.now = 430 := h.of_run 1 (fun x => x.2.now) (by decide +kernel)
  have hout := h.of_run 1 (fun x => match x.1 with
    | .ok _ => 0
    | .error (.exhausted n _) => n
    | .error _ => 0) (b := 4) (by decide +kernel)
  dsimp only at hout
  split at hout
  next => cases hout
  next n last =>
    cases hout
    -- The transport answers, so that it gives up no request itself.
    have hown : ∀ x ∈ contactsIn t, x.outcome ≠ .error (.exhausted 4 last) := by
      intro x hx
      rw [Contact.outcome]
      obtain ⟨i, hi⟩ | ⟨sent, y, hy⟩ := h.answered x hx
      · rw [hi]
        cases i <;> simp [Interrupt.failure]
      · rw [hy]
        simp [busyNode, Client.judge, Response.isSuccess]
    have hsum : ∑ i ∈ Finset.Icc 1 busyNode.config.effectiveRetries, min (50 * 2 ^ (i - 1)) 5000 =
        350 := by decide +kernel
    refine ⟨last, w₁, t, h, hown, ?_, hnow⟩
    rw [htime 4 last rfl hown, hsum]
    exact congrArg (· + 350) (Nat.zero_add _)
  next => cases hout

end Client

end MetricRing
