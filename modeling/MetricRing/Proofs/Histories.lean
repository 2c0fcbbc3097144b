import Mathlib.Order.Nat
import Mathlib.Tactic.SplitIfs
import MetricRing.Run.Interleaved

/-!
# Histories of operations

What is seen of an operation joins what was seen before it. `op.Shows c n P Q h` says of an
operation that goes on after the history `h`: within its next `n` steps the history satisfies `P`
at each moment, and at its end, together with the result, `Q`. The state is not looked at, so that
others may do with it what they like. There is one rule for each kind of step, and the rule for
sequences hands the history on.
-/

namespace MetricRing.Op

variable {α β : Type} {c : Config} {n : Nat} {P : List Label → Prop} {Q : List Label → α → Prop}
  {h : List Label} {op : Op α}

def Shows (c : Config) (n : Nat) (P : List Label → Prop) (Q : List Label → α → Prop)
    (h : List Label) (op : Op α) : Prop :=
  ∀ m ≤ n, ∀ t op', op.Trace c m t op' → P (h ++ t) ∧ ∀ a, op' = .done a → Q (h ++ t) a

/-! ### One step -/

theorem Shows.holds (hop : op.Shows c n P Q h) : P h := by
  have hp := (hop 0 (Nat.zero_le n) [] op (.refl op)).1
  rwa [List.append_nil] at hp

theorem Shows.mono {m : Nat} (hop : op.Shows c n P Q h) (hm : m ≤ n) : op.Shows c m P Q h :=
  fun k hk => hop k (Nat.le_trans hk hm)

theorem Shows.imp {R : List Label → α → Prop} (hop : op.Shows c n P Q h)
    (hQR : ∀ t a, Q t a → R t a) : op.Shows c n P R h := fun m hm t op' ht =>
  ⟨(hop m hm t op' ht).1, fun a ha => hQR _ a ((hop m hm t op' ht).2 a ha)⟩

theorem Shows.step {s s₁ : State} {l : Option Label} {op₁ : Op α} (hop : op.Shows c (n + 1) P Q h)
    (first : op.Step c s l s₁ op₁) : op₁.Shows c n P Q (h ++ l.toList) := by
  intro m hm t op' ht
  rw [List.append_assoc]
  exact hop (m + 1) (Nat.succ_le_succ hm) _ op' (.step first ht)

theorem shows_done {a : α} (hp : P h) (hq : Q h a) : (Op.done a).Shows c n P Q h := by
  intro m _ t op' ht
  cases ht with
  | refl =>
    rw [List.append_nil]
    exact ⟨hp, fun b hb => Op.done.inj hb ▸ hq⟩
  | step first rest => cases first

/-- An operation shows what is left of it after a step shows. -/
theorem shows_of_step (hp : P h) (hd : ∀ a, op ≠ .done a)
    (hs : ∀ k < n, ∀ s l s₁ op₁, op.Step c s l s₁ op₁ → op₁.Shows c k P Q (h ++ l.toList)) :
    op.Shows c n P Q h := by
  intro m hm t op' ht
  cases ht with
  | refl =>
    rw [List.append_nil]
    exact ⟨hp, fun a ha => absurd ha (hd a)⟩
  | step first rest =>
    rw [← List.append_assoc]
    exact hs _ hm _ _ _ _ first _ (Nat.le_refl _) _ _ rest

theorem shows_failover {f : Failover} {next : Outcome × Nat → Op α} (hp : P h)
    (hs : ∀ k < n, ((Client.failoverStep c f).bind next).Shows c k P Q h) :
    (Op.failover f next).Shows c n P Q h := by
  refine shows_of_step hp (fun a ha => nomatch ha) fun k hk s l s₁ op₁ first => ?_
  cases first with
  | failover f next =>
    rw [Option.toList_none, List.append_nil]
    exact hs k hk

theorem shows_exchange {node : NodeRef} {r : Request} {next : Except Interrupt Outcome → Op α}
    (hp : P h) (hx : ∀ x : Contact, x.node = node → x.request = r →
      (next x.result).Shows c n P Q (h ++ [.contact x]))
    (hi : ∀ i, (next (.error i)).Shows c n P Q h) : (Op.exchange node r next).Shows c n P Q h := by
  refine shows_of_step hp (fun a ha => nomatch ha) fun k hk s l s₁ op₁ first => ?_
  cases first with
  | exchange x next => exact (hx x rfl rfl).mono (Nat.le_of_lt hk)
  | barred node r i next =>
    rw [Option.toList_none, List.append_nil]
    exact (hi i).mono (Nat.le_of_lt hk)

theorem shows_pause {deadline : Option Time} {delay : Time} {next : Except Interrupt Unit → Op α}
    (hp : P h) (hs : ∀ result, (next result).Shows c n P Q (h ++ [.pause result])) :
    (Op.pause deadline delay next).Shows c n P Q h := by
  refine shows_of_step hp (fun a ha => nomatch ha) fun k hk s l s₁ op₁ first => ?_
  cases first with
  | pause deadline delay result next => exact (hs result).mono (Nat.le_of_lt hk)

/-! ### Sequences -/

/-- A step of a sequence is one of its first part, unless that part has ended. -/
theorem Step.of_bind {f : α → Op β} {s s₁ : State} {l : Option Label} {op₂ : Op β}
    (first : (op.bind f).Step c s l s₁ op₂) :
    (∃ a, op = .done a) ∨ ∃ op₁, op.Step c s l s₁ op₁ ∧ op₂ = op₁.bind f := by
  cases op with
  | done a => exact Or.inl ⟨a, rfl⟩
  | act g next =>
    cases first with
    | act g next => exact Or.inr ⟨_, .act s g _, rfl⟩
  | choose k next =>
    cases first with
    | choose k i next => exact Or.inr ⟨_, .choose s k i _, rfl⟩
  | clock next =>
    cases first with
    | clock now next => exact Or.inr ⟨_, .clock s now _, rfl⟩
  | exchange node r next =>
    cases first with
    | exchange x next => exact Or.inr ⟨_, .exchange s x _, rfl⟩
    | barred node r i next => exact Or.inr ⟨_, .barred s node r i _, rfl⟩
  | pause deadline delay next =>
    cases first with
    | pause deadline delay result next => exact Or.inr ⟨_, .pause s deadline delay result _, rfl⟩
  | acquire next =>
    cases first with
    | acquire result next => exact Or.inr ⟨_, .acquire s result _, rfl⟩
  | release next =>
    cases first with
    | release next => exact Or.inr ⟨_, .release s _, rfl⟩
  | failover g next =>
    cases first with
    | failover g next =>
      refine Or.inr ⟨_, .failover s g _, ?_⟩
      rw [bind_assoc]

theorem Shows.bind {R : List Label → β → Prop} {f : α → Op β} (hop : op.Shows c n P Q h)
    (hf : ∀ t a, Q t a → (f a).Shows c n P R t) : (op >>= f).Shows c n P R h := by
  change (op.bind f).Shows c n P R h
  -- The induction is on the steps; when the first part has ended there is nothing to step over.
  induction n generalizing op h with
  | zero =>
    cases op with
    | done a =>
      have hq := (hop 0 (Nat.le_refl 0) [] _ (.refl _)).2 a rfl
      rw [List.append_nil] at hq
      exact hf h a hq
    | _ =>
      refine shows_of_step hop.holds (fun a ha => nomatch ha) fun k hk => ?_
      exact absurd hk (Nat.not_lt_zero k)
  | succ n ih =>
    by_cases hd : ∃ a, op = .done a
    · obtain ⟨a, rfl⟩ := hd
      have hq := (hop 0 (Nat.zero_le _) [] _ (.refl _)).2 a rfl
      rw [List.append_nil] at hq
      exact hf h a hq
    · refine shows_of_step hop.holds ?_ ?_
      · intro b hb
        cases op with
        | done a => exact hd ⟨a, rfl⟩
        | _ => cases hb
      · intro k hk s l s₁ op₂ first
        obtain ⟨a, ha⟩ | ⟨op₁, first₁, rfl⟩ := first.of_bind
        · exact absurd ⟨a, ha⟩ hd
        · refine (ih (hop.step first₁) fun t a hq => ?_).mono (Nat.le_of_lt_succ hk)
          exact (hf t a hq).mono (Nat.le_succ n)

/-! ### Operations of which nothing is seen -/

def IsQuiet : Op α → Prop
  | .done _ => True
  | .act _ next => ∀ s, (next s).IsQuiet
  | .choose n next => ∀ i, (next (i % n)).IsQuiet
  | .clock next => ∀ now, (next now).IsQuiet
  | .exchange _ _ _ => False
  | .pause _ _ _ => False
  | .acquire next => ∀ result, (next result).IsQuiet
  | .release next => next.IsQuiet
  | .failover _ _ => False

theorem IsQuiet.step {s s₁ : State} {l : Option Label} {op₁ : Op α} (hop : op.IsQuiet)
    (first : op.Step c s l s₁ op₁) : l = none ∧ op₁.IsQuiet := by
  cases first with
  | act f next => exact ⟨rfl, hop s⟩
  | choose n i next => exact ⟨rfl, hop i⟩
  | clock now next => exact ⟨rfl, hop now⟩
  | exchange x next => exact hop.elim
  | barred node r i next => exact hop.elim
  | pause deadline delay result next => exact hop.elim
  | acquire result next => exact ⟨rfl, hop result⟩
  | release next => exact ⟨rfl, hop⟩
  | failover f next => exact hop.elim

theorem IsQuiet.shows (hop : op.IsQuiet) (hp : P h) : op.Shows c n P (fun t _ => t = h) h := by
  induction n using Nat.strong_induction_on generalizing op with
  | _ n ih =>
    by_cases hd : ∃ a, op = .done a
    · obtain ⟨a, rfl⟩ := hd
      exact shows_done hp rfl
    · refine shows_of_step hp (fun a ha => hd ⟨a, ha⟩) fun k hk s l s₁ op₁ first => ?_
      obtain ⟨rfl, hop₁⟩ := hop.step first
      rw [Option.toList_none, List.append_nil]
      exact ih k hk hop₁

/-- What comes after an operation of which nothing is seen comes after the same history. -/
theorem IsQuiet.shows_bind {R : List Label → β → Prop} {f : α → Op β} (hop : op.IsQuiet) (hp : P h)
    (hf : ∀ a, (f a).Shows c n P R h) : (op >>= f).Shows c n P R h :=
  (hop.shows hp).bind fun _ a ht => ht ▸ hf a

theorem IsQuiet.bind {f : α → Op β} (hop : op.IsQuiet) (hf : ∀ a, (f a).IsQuiet) :
    (op >>= f).IsQuiet := by
  change (op.bind f).IsQuiet
  induction op with
  | done a => exact hf a
  | act g next ih => exact fun s => ih s (hop s)
  | choose k next ih => exact fun i => ih (i % k) (hop i)
  | clock next ih => exact fun now => ih now (hop now)
  | exchange node r next ih => exact hop.elim
  | pause deadline delay next ih => exact hop.elim
  | acquire next ih => exact fun result => ih result (hop result)
  | release next ih => exact ih hop
  | failover g next ih => exact hop.elim

theorem isQuiet_read (g : State → β) : (Op.read g).IsQuiet := fun _ => trivial

theorem isQuiet_modify (f : State → State) : (Op.modify f).IsQuiet := fun _ => trivial

theorem isQuiet_now : Op.now.IsQuiet := fun _ => trivial

end MetricRing.Op
