import MetricRing.Proofs.LoadingPhases
import MetricRing.Proofs.TogetherRuns
import MetricRing.Run.Script

/-!
# One load at a time

However many callers of `topology` there are, whoever's turn it is and whoever is cancelled: only
one of them exchanges documents at a time. Who has waited while a ring was installed is served from
it in three turns without any exchange, and who has waited in vain loads. Whatever becomes of a
caller that loads or waits, the lock is free after it or held by one that can go on, and each caller
has only so many turns.
-/

namespace MetricRing

variable {α : Type} {c : Config}

/-! ### Only so many turns -/

/-- What may be left of an operation after one constructor, unless that is a failover. -/
def Op.IsPart (op₁ : Op α) : Op α → Prop
  | .done _ => False
  | .act _ next => ∃ s, next s = op₁
  | .choose _ next => ∃ i, next i = op₁
  | .clock next => ∃ now, next now = op₁
  | .exchange _ _ next => ∃ result, next result = op₁
  | .pause _ _ next => ∃ result, next result = op₁
  | .acquire next => ∃ result, next result = op₁
  | .release next => next = op₁
  | .failover _ _ => False

theorem Op.isPart_wellFounded : WellFounded (Op.IsPart (α := α)) := by
  refine ⟨fun op => ?_⟩
  induction op with
  | done a => exact ⟨_, fun _ h => h.elim⟩
  | act f next ih => exact ⟨_, fun _ ⟨s, hs⟩ => hs ▸ ih s⟩
  | choose n next ih => exact ⟨_, fun _ ⟨i, hi⟩ => hi ▸ ih i⟩
  | clock next ih => exact ⟨_, fun _ ⟨now, hnow⟩ => hnow ▸ ih now⟩
  | exchange node r next ih => exact ⟨_, fun _ ⟨result, h⟩ => h ▸ ih result⟩
  | pause deadline delay next ih => exact ⟨_, fun _ ⟨result, h⟩ => h ▸ ih result⟩
  | acquire next ih => exact ⟨_, fun _ ⟨result, h⟩ => h ▸ ih result⟩
  | release next ih => exact ⟨_, fun _ h => h ▸ ih⟩
  | failover f next ih => exact ⟨_, fun _ h => h.elim⟩

theorem Op.Step.isPart {s s₁ : State} {l : Option Label} {op op₁ : Op α}
    (h : op.Step c s l s₁ op₁) (hop : ∀ f next, op ≠ .failover f next) : op₁.IsPart op := by
  cases h with
  | act f next => exact ⟨s, rfl⟩
  | choose n i next => exact ⟨i % n, rfl⟩
  | clock now next => exact ⟨now, rfl⟩
  | exchange x next => exact ⟨x.result, rfl⟩
  | barred node r i next => exact ⟨.error i, rfl⟩
  | pause deadline delay result next => exact ⟨result, rfl⟩
  | acquire result next => exact ⟨result, rfl⟩
  | release next => rfl
  | failover f next => exact absurd rfl (hop f next)

/-- A caller of `topology` makes no failover and pauses nowhere. -/
theorem Client.Phase.not_rests {holds : Bool} {op : Op (Except Failure Compiled)}
    (h : Client.Phase c holds op) : (∀ f next, op ≠ .failover f next) ∧
      ∀ deadline delay next, op ≠ .pause deadline delay next := by
  cases h with
  | asks =>
    rw [Client.topology_eq]
    exact ⟨nofun, nofun⟩
  | waits => exact ⟨nofun, nofun⟩
  | loads op hplain =>
    cases op with
    | failover _ _ => exact hplain.elim
    | pause _ _ _ => exact hplain.elim
    | _ => exact ⟨nofun, nofun⟩
  | ended result => exact ⟨nofun, nofun⟩

namespace Contest

variable {y z : Contest (Except Failure Compiled)} {t : Turn} {i j : Nat}

/-- In a turn of its own a caller is dropped, or less is left of its operation. -/
theorem Step.caller_cases (h : Step c y t z) (ht : t.caller? = some i) :
    ∃ op, y.callers i = some op ∧ (z.callers i = none ∨
      ∃ op₁, z.callers i = some op₁ ∧ ((∀ f next, op ≠ .failover f next) → op₁.IsPart op)) := by
  cases h with
  | elsewhere s => cases ht
  | goes hi _ hstep =>
    cases ht
    exact ⟨_, hi, Or.inr ⟨_, Function.update_self .., hstep.isPart⟩⟩
  | enters hi _ =>
    cases ht
    exact ⟨_, hi, Or.inr ⟨_, Function.update_self .., fun _ => ⟨_, rfl⟩⟩⟩
  | leaves hi =>
    cases ht
    exact ⟨_, hi, Or.inr ⟨_, Function.update_self .., fun _ => rfl⟩⟩
  | givesUp hi =>
    cases ht
    exact ⟨_, hi, Or.inr ⟨_, Function.update_self .., fun _ => ⟨_, rfl⟩⟩⟩
  | dropped hi =>
    cases ht
    exact ⟨_, hi, Or.inl (Function.update_self ..)⟩

section Endless

variable {run : Nat → Contest (Except Failure Compiled)} {turn : Nat → Turn}

theorem callers_eq_of_rest (hrun : ∀ n, Step c (run n) (turn n) (run (n + 1))) {n m : Nat}
    (hnm : n ≤ m) (hrest : ∀ k, n ≤ k → k < m → (turn k).caller? ≠ some i) :
    (run m).callers i = (run n).callers i := by
  induction m, hnm using Nat.le_induction with
  | base => rfl
  | succ m hnm ih =>
    have hlast := (hrun m).callers_of_ne (hrest m hnm (Nat.lt_succ_self m))
    exact hlast.trans (ih fun k hk hkm => hrest k hk (Nat.lt_succ_of_lt hkm))

/-- A caller that has been dropped has no turn any more. -/
theorem rests_of_none (hrun : ∀ n, Step c (run n) (turn n) (run (n + 1))) {n : Nat}
    (hn : (run n).callers i = none) : ∀ m ≥ n, (turn m).caller? ≠ some i := by
  intro m
  induction m using Nat.strong_induction_on with
  | _ m ih =>
    intro hnm ht
    obtain ⟨op, hop, -⟩ := (hrun m).caller_cases ht
    rw [callers_eq_of_rest hrun hnm fun k hnk hkm => ih k hkm hnk, hn] at hop
    cases hop

/-- The induction is on what is left of the caller, which is less after its next turn. -/
theorem rests_of_some (hrun : ∀ n, Step c (run n) (turn n) (run (n + 1)))
    (h : ∀ n, (run n).Orderly c) {n : Nat} {op : Op (Except Failure Compiled)}
    (hn : (run n).callers i = some op) : ∃ n, ∀ m ≥ n, (turn m).caller? ≠ some i := by
  induction op using Op.isPart_wellFounded.induction generalizing n with
  | _ op ih =>
    by_cases hlater : ∃ m, n ≤ m ∧ (turn m).caller? = some i
    · classical
      -- Until its next turn all is left that was.
      obtain ⟨hnm, ht⟩ := Nat.find_spec hlater
      have hrest : ∀ k, n ≤ k → k < Nat.find hlater → (turn k).caller? ≠ some i :=
        fun k hk hkm hki => Nat.find_min hlater hkm ⟨hk, hki⟩
      have hm := (callers_eq_of_rest hrun hnm hrest).trans hn
      obtain ⟨op', hop', hnone | ⟨op₁, hop₁, hpart⟩⟩ := (hrun _).caller_cases ht
      · exact ⟨_, rests_of_none hrun hnone⟩
      · obtain rfl := Option.some.inj (hm.symm.trans hop')
        exact ih op₁ (hpart ((h _).phase i op hm).not_rests.1) hop₁
    · exact ⟨n, fun m hm ht => hlater ⟨m, hm, ht⟩⟩

/-- Each caller has only so many turns, however long the others go on. -/
theorem eventually_rests (hrun : ∀ n, Step c (run n) (turn n) (run (n + 1)))
    (h : ∀ n, (run n).Orderly c) (i : Nat) : ∃ n, ∀ m ≥ n, (turn m).caller? ≠ some i := by
  cases hcaller : (run 0).callers i with
  | none => exact ⟨0, rests_of_none hrun hcaller⟩
  | some op => exact rests_of_some hrun h hcaller

end Endless

/-! ### Who can go on -/

theorem Orderly.asksOnce (hy : y.Orderly c) : y.AsksOnce c := by
  rintro z ⟨ts, hts⟩ i next hi hholds
  have hphase := (hts.orderly hy).phase i _ hi
  rw [decide_eq_true hholds] at hphase
  cases hphase.eq_awaitTurn.1

theorem Orderly.holder_of_exchanges (hy : y.Orderly c) (hi : y.Exchanges i) :
    y.holder = some i := by
  obtain ⟨node, r, next, hi⟩ := hi
  exact of_decide_eq_true (hy.phase i _ hi).of_exchange

theorem Orderly.eq_awaitTurn (hy : y.Orderly c) (hi : y.Waits i) :
    y.holder ≠ some i ∧ y.callers i = some (Client.awaitTurn c) := by
  obtain ⟨next, hi⟩ := hi
  obtain ⟨hholds, hnext⟩ := (hy.phase i _ hi).eq_awaitTurn
  exact ⟨of_decide_eq_false hholds, hnext ▸ hi⟩

/-- Who holds the lock can go on, or give it back. -/
theorem Orderly.canMove_holder (hy : y.Orderly c) (hi : y.holder = some i) : y.CanMove c i := by
  obtain ⟨op, hop⟩ := hy.present i hi
  have hphase := hy.phase i op hop
  rw [decide_eq_true hi] at hphase
  cases hphase with
  | loads op hfree =>
    rcases hfree.exists_step c y.state with ⟨a, rfl⟩ | ⟨l, s₁, op₁, hstep⟩
    · exact ⟨_, _, .leaves hop, rfl⟩
    · refine ⟨_, _, .goes hop (hfree.isLocking_bind ?_) (hstep.bind _), rfl⟩
      rintro ⟨a, rfl⟩
      cases hstep

theorem Orderly.canMove (hy : y.Orderly c) {op : Op (Except Failure Compiled)}
    (hi : y.callers i = some op) : (∃ result, op = .done result) ∨ y.CanMove c i ∨
      y.Waits i ∧ ∃ j, j ≠ i ∧ y.holder = some j ∧ y.CanMove c j := by
  by_cases hholds : y.holder = some i
  · exact Or.inr (Or.inl (hy.canMove_holder hholds))
  · have hphase := hy.phase i op hi
    rw [decide_eq_false hholds] at hphase
    cases hphase with
    | asks =>
      rw [Client.topology_eq] at hi
      exact Or.inr (Or.inl ⟨_, _, .goes hi rfl (.act _ id _), rfl⟩)
    | waits =>
      cases hholder : y.holder with
      | none => exact Or.inr (Or.inl ⟨_, _, .enters hi hholder, rfl⟩)
      | some j =>
        have hji : j ≠ i := fun hji => hholds (hji ▸ hholder)
        exact Or.inr (Or.inr ⟨⟨_, hi⟩, j, hji, rfl, hy.canMove_holder hholder⟩)
    | ended result => exact Or.inl ⟨result, rfl⟩

/-- A caller that has gone, or has come to its result, leaves the lock free if it held it, and the
others as they were. -/
theorem Orderly.of_end (hy : y.Orderly c) (h : Step c y t z) (ht : t.caller? = some i)
    (hend : z.callers i = none ∨ ∃ result, z.callers i = some (.done result)) :
    z.holder ≠ some i ∧ (y.holder = some i → z.holder = none) ∧
      ∀ j, j ≠ i → z.callers j = y.callers j := by
  have hz := h.orderly hy
  have hleft : z.holder ≠ some i := by
    intro hholds
    rcases hend with hnone | ⟨result, hresult⟩
    · obtain ⟨op, hop⟩ := hz.present i hholds
      exact Option.some_ne_none op (hop.symm.trans hnone)
    · have hphase := hz.phase i _ hresult
      rw [decide_eq_true hholds] at hphase
      generalize hop : Op.done result = op at hphase
      cases hphase with
      | loads op hplain => cases op <;> cases hop
  refine ⟨hleft, fun hholds => ?_, fun j hji => h.callers_of_ne fun hj => hji ?_⟩
  · cases h with
    | elsewhere s => cases ht
    | goes _ _ _ => exact absurd hholds hleft
    | enters _ hfree => exact absurd (hfree.symm.trans hholds) nofun
    | leaves _ => rfl
    | givesUp _ => exact absurd hholds hleft
    | dropped _ =>
      cases ht
      exact if_pos hholds
  · exact Option.some.inj (hj.symm.trans ht)

/-! ### A turn of one's own -/

variable {op : Op (Except Failure Compiled)}

/-- How a caller gets on. -/
theorem Step.own_cases (h : Step c y t z) (ht : t.mover? = some j) (hj : y.callers j = some op) :
    (∃ l s₁ op₁, t = .goes j l ∧ op.Step c y.state l s₁ op₁ ∧ op.isLocking = false ∧
      z.callers j = some op₁) ∨
    (∃ next, t = .enters j ∧ op = .acquire next ∧ z.callers j = some (next (.ok ()))) ∨
    ∃ next, t = .leaves j ∧ op = .release next ∧ z.callers j = some next := by
  cases h with
  | goes hi hop hstep =>
    cases ht
    obtain rfl := Option.some.inj (hj.symm.trans hi)
    exact Or.inl ⟨_, _, _, rfl, hstep, hop, Function.update_self ..⟩
  | enters hi _ =>
    cases ht
    exact Or.inr (Or.inl ⟨_, rfl, Option.some.inj (hj.symm.trans hi), Function.update_self ..⟩)
  | leaves hi =>
    cases ht
    exact Or.inr (Or.inr ⟨_, rfl, Option.some.inj (hj.symm.trans hi), Function.update_self ..⟩)
  | elsewhere _ => cases ht
  | givesUp _ => cases ht
  | dropped _ => cases ht

theorem Step.own_act (h : Step c y t z) (ht : t.mover? = some j) {f : State → State}
    {next : State → Op (Except Failure Compiled)} (hj : y.callers j = some (.act f next)) :
    t = .goes j none ∧ z.callers j = some (next y.state) := by
  rcases h.own_cases ht hj with ⟨_, _, _, rfl, hstep, -, hz⟩ | ⟨_, -, hop, -⟩ | ⟨_, -, hop, -⟩
  · cases hstep
    exact ⟨rfl, hz⟩
  · cases hop
  · cases hop

theorem Step.own_acquire (h : Step c y t z) (ht : t.mover? = some j)
    {next : Except Interrupt Unit → Op (Except Failure Compiled)}
    (hj : y.callers j = some (.acquire next)) :
    t = .enters j ∧ z.callers j = some (next (.ok ())) := by
  rcases h.own_cases ht hj with ⟨_, _, _, -, -, hop, -⟩ | ⟨_, rfl, hop, hz⟩ | ⟨_, -, hop, -⟩
  · cases hop
  · cases hop
    exact ⟨rfl, hz⟩
  · cases hop

theorem Step.own_release (h : Step c y t z) (ht : t.mover? = some j)
    {next : Op (Except Failure Compiled)} (hj : y.callers j = some (.release next)) :
    t = .leaves j ∧ z.callers j = some next := by
  rcases h.own_cases ht hj with ⟨_, _, _, -, -, hop, -⟩ | ⟨_, -, hop, -⟩ | ⟨_, rfl, hop, hz⟩
  · cases hop
  · cases hop
  · cases hop
    exact ⟨rfl, hz⟩

theorem Step.own_done (h : Step c y t z) {result : Except Failure Compiled}
    (hj : y.callers j = some (.done result)) : t.mover? ≠ some j := by
  intro ht
  rcases h.own_cases ht hj with ⟨_, _, _, -, hstep, -, -⟩ | ⟨_, -, hop, -⟩ | ⟨_, -, hop, -⟩
  · cases hstep
  · cases hop
  · cases hop

/-! ### After the wait -/

def Calm (kept : Option Compiled) (j : Nat) (t : Turn) (y : Contest α) : Prop :=
  y.state.compiled = kept ∧ t.cancelled? ≠ some j

def moves (j : Nat) (ts : List Turn) : Nat := ts.countP fun t => t.mover? = some j

def loading (c : Config) (s s' : State) : Op (Except Failure Compiled) :=
  (Client.loadFirst c s.currentTopology (s'.candidates s.currentTopology) []).bind Client.unlockWith

/-- What is left of a caller that has waited, after a number of its turns. A ring that is kept it
returns, and else it loads. -/
inductive Passes (c : Config) : Option Compiled → Nat → Op (Except Failure Compiled) → Prop
  | waits (kept : Option Compiled) : Passes c kept 0 (Client.awaitTurn c)
  | looks (kept : Option Compiled) :
    Passes c kept 1 ((Client.loadLocked c).bind Client.unlockWith)
  | leaves (k : Compiled) : Passes c (some k) 2 (Client.unlockWith (.ok k))
  | ended (k : Compiled) : Passes c (some k) 3 (.done (.ok k))
  | wants : Passes c none 2 (.act id fun s => .act id fun s' => loading c s s')
  | asks (s : State) : Passes c none 3 (.act id fun s' => loading c s s')
  | loads (s s' : State) : Passes c none 4 (loading c s s')
  | further (n : Nat) (op : Op (Except Failure Compiled)) : Passes c none (n + 5) op

variable {kept : Option Compiled} {k : Compiled} {n : Nat} {ts : List Turn}

theorem Passes.le_three (h : Passes c (some k) n op) : n ≤ 3 := by
  cases h <;> decide

theorem Passes.ended_iff (h : Passes c (some k) n op) : op = .done (.ok k) ↔ n = 3 := by
  cases h with
  | waits => exact ⟨nofun, nofun⟩
  | looks => exact ⟨nofun, nofun⟩
  | leaves => exact ⟨nofun, nofun⟩
  | ended => exact ⟨fun _ => rfl, fun _ => rfl⟩

theorem Passes.not_exchanges (h : Passes c (some k) n op) {node : NodeRef} {r : Request}
    {next : Except Interrupt Outcome → Op (Except Failure Compiled)} :
    op ≠ .exchange node r next := by
  cases h <;> exact nofun

theorem Passes.not_done (h : Passes c kept n op) (hn : n < if kept.isSome then 3 else 4)
    (result : Except Failure Compiled) : op ≠ .done result := by
  cases h with
  | ended => exact absurd hn (Nat.lt_irrefl 3)
  | loads => exact absurd hn (Nat.lt_irrefl 4)
  | further n op => exact absurd hn (Nat.not_lt.2 (Nat.le_add_left 4 (n + 1)))
  | _ => exact nofun

/-- A turn of the caller itself brings it on, and is no exchange if a ring is kept. -/
theorem Passes.step (hop : Passes c kept n op) (hj : y.callers j = some op)
    (hk : y.state.compiled = kept) (h : Step c y t z) (ht : t.mover? = some j) :
    (kept ≠ none → ∀ x, t ≠ .goes j (some (.contact x))) ∧
      ∃ op₁, z.callers j = some op₁ ∧ Passes c kept (n + 1) op₁ := by
  have hmoved {op : Op (Except Failure Compiled)} (hj : y.callers j = some op) :
      ∃ op₁, z.callers j = some op₁ := by
    rcases h.own_cases ht hj with ⟨_, _, _, -, -, -, hz⟩ | ⟨_, -, -, hz⟩ | ⟨_, -, -, hz⟩ <;>
      exact ⟨_, hz⟩
  cases hop with
  | waits =>
    obtain ⟨rfl, hz⟩ := h.own_acquire ht hj
    exact ⟨fun _ _ => nofun, _, hz, .looks _⟩
  | looks =>
    rw [Client.loadLocked_eq] at hj
    obtain ⟨rfl, hz⟩ := h.own_act ht hj
    refine ⟨fun _ _ => nofun, _, hz, ?_⟩
    dsimp only
    rw [hk]
    cases kept with
    | none => exact .wants
    | some k => exact .leaves k
  | leaves k =>
    obtain ⟨rfl, hz⟩ := h.own_release ht hj
    exact ⟨fun _ _ => nofun, _, hz, .ended k⟩
  | ended k => exact absurd ht (h.own_done hj)
  | wants =>
    obtain ⟨rfl, hz⟩ := h.own_act ht hj
    exact ⟨fun _ _ => nofun, _, hz, .asks _⟩
  | asks s =>
    obtain ⟨rfl, hz⟩ := h.own_act ht hj
    exact ⟨fun _ _ => nofun, _, hz, .loads s _⟩
  | loads s s' =>
    obtain ⟨op₁, hz⟩ := hmoved hj
    exact ⟨fun hne => absurd rfl hne, op₁, hz, .further 0 op₁⟩
  | further n op =>
    obtain ⟨op₁, hz⟩ := hmoved hj
    exact ⟨fun hne => absurd rfl hne, op₁, hz, .further (n + 1) op₁⟩

theorem moves_concat (j : Nat) (ts : List Turn) (t : Turn) :
    moves j (ts ++ [t]) = moves j ts + if t.mover? = some j then 1 else 0 := by
  rw [moves, List.countP_append, List.countP_singleton]
  simp only [decide_eq_true_eq, moves]

/-- As long as the same ring is kept, or none, a caller that has waited goes its way. -/
theorem Passes.of_runs (hj : y.callers j = some (Client.awaitTurn c))
    (hk : y.state.compiled = kept) (h : Runs c (Calm kept j) y ts z) :
    z.state.compiled = kept ∧ (kept ≠ none → ∀ x, .goes j (some (.contact x)) ∉ ts) ∧
      ∃ op, z.callers j = some op ∧ Passes c kept (moves j ts) op := by
  induction h with
  | refl => exact ⟨hk, fun _ _ => List.not_mem_nil, _, hj, .waits kept⟩
  | @tail z z' ts t _ hstep ht ih =>
    obtain ⟨hkept, hquiet, op, hop, hpasses⟩ := ih
    by_cases hown : t.mover? = some j
    · obtain ⟨hquiet', op₁, hop₁, hpasses₁⟩ := hpasses.step hop hkept hstep hown
      refine ⟨ht.1, fun hne x hx => ?_, op₁, hop₁, ?_⟩
      · rcases List.mem_append.1 hx with hx | hx
        · exact hquiet hne x hx
        · exact hquiet' hne x (List.mem_singleton.1 hx).symm
      · rwa [moves_concat, if_pos hown]
    · have hother : t.caller? ≠ some j := fun hj => hown (Turn.mover?_of_caller? hj ht.2)
      refine ⟨ht.1, fun hne x hx => ?_, op, (hstep.callers_of_ne hother).trans hop, ?_⟩
      · rcases List.mem_append.1 hx with hx | hx
        · exact hquiet hne x hx
        · exact hown (List.mem_singleton.1 hx ▸ rfl)
      · rwa [moves_concat, if_neg hown]

/-- Until the caller has returned the ring, or loads, it can go on or waits for one that can. -/
theorem Passes.canMove (hy : y.Orderly c) (hop : Passes c kept n op) (hj : y.callers j = some op)
    (hn : n < if kept.isSome then 3 else 4) :
    y.CanMove c j ∨ ∃ i, i ≠ j ∧ y.holder = some i ∧ y.CanMove c i := by
  rcases hy.canMove hj with ⟨result, hresult⟩ | hmove | ⟨-, hother⟩
  · exact absurd hresult (hop.not_done hn result)
  · exact Or.inl hmove
  · exact Or.inr hother

/-! ### The next one -/

/-- A caller only looks at the state. -/
theorem Runs.looks {x : Contest (Except Failure Compiled)}
    {next : State → Op (Except Failure Compiled)} (h : Runs c (Calm kept j) x ts y)
    (hk : y.state.compiled = kept) (hj : y.callers j = some (.act id next)) :
    ∃ z, Runs c (Calm kept j) x (ts ++ [.goes j none]) z ∧ z.state = y.state ∧
      z.holder = y.holder ∧ z.callers j = some (next y.state) :=
  ⟨_, h.tail (.goes hj rfl (.act _ id next)) ⟨hk, nofun⟩, rfl, rfl, Function.update_self ..⟩

/-- A caller that waits gets a free lock, and looks for a ring again. -/
theorem enters_next (hj : y.callers j = some (Client.awaitTurn c)) (hfree : y.holder = none)
    (hk : y.state.compiled = kept) :
    ∃ z, Runs c (Calm kept j) y [.enters j, .goes j none] z ∧ z.state = y.state ∧
      z.holder = some j ∧
      z.callers j = some ((Client.loadUnlessKept c kept).bind Client.unlockWith) := by
  have hentered : Runs c (Calm kept j) y [.enters j] _ :=
    (Runs.refl y).tail (.enters hj hfree) ⟨hk, nofun⟩
  have hlocked := Function.update_self j
    (some ((Client.loadLocked c).bind Client.unlockWith)) y.callers
  rw [Client.loadLocked_eq] at hlocked
  obtain ⟨z, hruns, hstate, hholder, hz⟩ := hentered.looks hk hlocked
  exact ⟨z, hruns, hstate, hholder, hk ▸ hz⟩

/-- If no ring is kept it loads. -/
theorem loads_next (hj : y.callers j = some (Client.awaitTurn c)) (hfree : y.holder = none)
    (hnone : y.state.compiled = none) :
    ∃ ts z, Runs c (Calm none j) y ts z ∧ moves j ts = 4 ∧ z.holder = some j ∧
      z.callers j = some (loading c y.state y.state) := by
  obtain ⟨z₁, hruns₁, hstate₁, hholder₁, hj₁⟩ := enters_next hj hfree hnone
  obtain ⟨z₂, hruns₂, hstate₂, hholder₂, hj₂⟩ := hruns₁.looks (hstate₁ ▸ hnone) hj₁
  rw [hstate₁] at hstate₂
  obtain ⟨z₃, hruns₃, -, hholder₃, hj₃⟩ := hruns₂.looks (hstate₂ ▸ hnone) hj₂
  rw [hstate₁, hstate₂] at hj₃
  exact ⟨_, z₃, hruns₃, by simp [moves, Turn.mover?], hholder₃.trans (hholder₂.trans hholder₁), hj₃⟩

/-- If a ring is kept it takes that and gives the lock back. -/
theorem served_next (hj : y.callers j = some (Client.awaitTurn c)) (hfree : y.holder = none)
    (hk : y.state.compiled = some k) :
    ∃ ts z, Runs c (Calm (some k) j) y ts z ∧ moves j ts = 3 := by
  obtain ⟨z, hruns, hstate, -, hleaves⟩ := enters_next hj hfree hk
  refine ⟨_, _, hruns.tail (.leaves hleaves) ⟨?_, nofun⟩, ?_⟩
  · exact hstate ▸ hk
  · simp [moves, Turn.mover?]

/-! ### Single flight -/

/-- What holds however many callers of `topology` there are. -/
structure SingleFlight (c : Config) (y : Contest (Except Failure Compiled)) : Prop where
  /-- One at most exchanges documents. -/
  exclusive : ∀ i j, y.Exchanges i → y.Exchanges j → i = j
  /-- Who waits while a ring is kept and is not cancelled returns that ring in three turns, without
  any exchange. Until then it can go on, or waits for one that can. -/
  served : ∀ (j : Nat) (k : Compiled) (ts : List Turn) (z : Contest (Except Failure Compiled)),
    y.Waits j → y.state.compiled = some k → Runs c (Calm (some k) j) y ts z →
    ¬z.Exchanges j ∧ (∀ x, .goes j (some (.contact x)) ∉ ts) ∧ moves j ts ≤ 3 ∧
      (z.callers j = some (.done (.ok k)) ↔ moves j ts = 3) ∧
      (moves j ts < 3 → z.CanMove c j ∨ ∃ i, i ≠ j ∧ z.holder = some i ∧ z.CanMove c i)
  /-- It can take these turns as soon as nobody holds the lock. -/
  serves : ∀ j k, y.Waits j → y.holder = none → y.state.compiled = some k →
    ∃ ts z, Runs c (Calm (some k) j) y ts z ∧ moves j ts = 3
  /-- Who waits while no ring is kept and is not cancelled loads after four turns. Until then it can
  go on, or waits for one that can. -/
  loads : ∀ (j : Nat) (ts : List Turn) (z : Contest (Except Failure Compiled)),
    y.Waits j → y.state.compiled = none → Runs c (Calm none j) y ts z →
    (moves j ts = 4 → ∃ s s', z.callers j = some (loading c s s')) ∧
      (moves j ts < 4 → z.CanMove c j ∨ ∃ i, i ≠ j ∧ z.holder = some i ∧ z.CanMove c i)
  /-- It can take these turns as soon as nobody holds the lock. -/
  replaces : ∀ j, y.Waits j → y.holder = none → y.state.compiled = none →
    ∃ ts z, Runs c (Calm none j) y ts z ∧ moves j ts = 4 ∧ z.holder = some j ∧
      z.callers j = some (loading c y.state y.state)
  /-- Who comes to its end, by any result or because it is dropped, leaves the lock to the others,
  and these as they are. -/
  leaves : ∀ i t z, Step c y t z → t.caller? = some i →
    (z.callers i = none ∨ ∃ result, z.callers i = some (.done result)) →
    z.holder ≠ some i ∧ (y.holder = some i → z.holder = none) ∧
      ∀ j, j ≠ i → z.callers j = y.callers j
  /-- Who has not come to its end can go on, or waits for one that can. -/
  proceeds : ∀ i op, y.callers i = some op → (∃ result, op = .done result) ∨ y.CanMove c i ∨
    y.Waits i ∧ ∃ j, j ≠ i ∧ y.holder = some j ∧ y.CanMove c j
  /-- Each caller has only so many turns, whatever they are. -/
  ends : ∀ (run : Nat → Contest (Except Failure Compiled)) (turn : Nat → Turn), run 0 = y →
    (∀ n, Step c (run n) (turn n) (run (n + 1))) →
    ∀ i, ∃ n, ∀ m ≥ n, (turn m).caller? ≠ some i

/-- Of any callers of `topology` one at most loads at a time, those that waited are served from its
ring, and when it fails or is cancelled the next one loads. -/
theorem single_flight (hy : Reachable c y) : SingleFlight c y := by
  have horderly := hy.orderly
  refine ⟨fun i j hi hj => ?_, fun j k ts z hj hk hrun => ?_,
    fun j k hj => served_next (horderly.eq_awaitTurn hj).2, fun j ts z hj hnone hrun => ?_,
    fun j hj => loads_next (horderly.eq_awaitTurn hj).2, fun i t z => horderly.of_end,
    fun i op => horderly.canMove, fun run turn hstart hrun => ?_⟩
  · have hholder := horderly.holder_of_exchanges hi
    rw [horderly.holder_of_exchanges hj] at hholder
    exact (Option.some.inj hholder).symm
  · obtain ⟨-, hquiet, op, hop, hpasses⟩ := Passes.of_runs (horderly.eq_awaitTurn hj).2 hk hrun
    have hended : z.callers j = some (.done (.ok k)) ↔ moves j ts = 3 := by
      rw [hop, Option.some.injEq, hpasses.ended_iff]
    refine ⟨?_, hquiet (Option.some_ne_none k), hpasses.le_three, hended,
      hpasses.canMove (hrun.orderly horderly) hop⟩
    rintro ⟨node, r, next, hnext⟩
    exact hpasses.not_exchanges (Option.some.inj (hop.symm.trans hnext))
  · obtain ⟨-, -, op, hop, hpasses⟩ := Passes.of_runs (horderly.eq_awaitTurn hj).2 hnone hrun
    refine ⟨fun hmoves => ?_, hpasses.canMove (hrun.orderly horderly) hop⟩
    rw [hmoves] at hpasses
    cases hpasses with
    | loads s s' => exact ⟨s, s', hop⟩
  · have hall (n : Nat) : (run n).Orderly c := by
      induction n with
      | zero => exact hstart ▸ horderly
      | succ n ih => exact (hrun n).orderly ih
    exact eventually_rests hrun hall

end Contest

/-! ### Two callers at a slow node -/

def Stage.isAsleep : Stage α → Bool
  | .asleep _ _ => true
  | _ => false

/-- A caller of `topology` sleeps in its exchanges only. -/
theorem Mirrors.exchanges {stages : Nat → Option (Stage (Except Failure Compiled))} {s : Shared}
    {y : Contest (Except Failure Compiled)} {i : Nat} (h : Mirrors stages s y) (hy : y.Orderly c)
    (hi : (stages i).any Stage.isAsleep = true) : y.Exchanges i := by
  have hleft := h.callers i
  have hphase := hy.phase i
  unfold Contest.Exchanges
  generalize stages i = found, y.callers i = caller at hi hleft hphase ⊢
  cases hleft with
  | none => cases hi
  | some hop =>
    cases hop with
    | sent wake x next => exact ⟨x.node, x.request, next, rfl⟩
    | paused wake deadline delay result next =>
      exact absurd rfl ((hphase _ rfl).not_rests.2 deadline delay next)
    | _ => cases hi

def slowCluster : Setting where
  config := { servers := ["[::1]:1"] }
  transport := Script.transport
    [{ path := "/state"
       answer := .response 200 [] (bytes ("\x7b\"id\":\"a\",\"current\":" ++
         "\"b819a861a18cac3c160862363b533ebaa503d51505fff49672ffe8c01b6e5255\"\x7d")) none },
     { delay := 50
       answer := .response 200 [] (bytes ("\x7b\"nodes\":[" ++
         "\x7b\"id\":\"a\",\"address\":\"[::1]\",\"apiport\":1,\"weight\":1\x7d," ++
         "\x7b\"id\":\"b\",\"address\":\"[::3]\",\"apiport\":1,\"weight\":1\x7d]\x7d")) none }]
  pick _ := 0
where
  bytes (s : String) : List UInt8 := s.toUTF8.toList

def twoCallers : List (Option Time × Op (Except Failure Compiled)) :=
  List.replicate 2 (none, Client.topology slowCluster.config)

namespace Contest

theorem single_flight_in_slowCluster :
    ∃ x y, Reachable slowCluster.config x ∧ Leads slowCluster.config x y ∧
      x.Exchanges 0 ∧ x.Waits 1 ∧ (∀ i, x.Exchanges i → i = 0) ∧
      ∃ k ts z, y.Waits 1 ∧ y.state.compiled = some k ∧
        Runs slowCluster.config (Calm (some k) 1) y ts z ∧ z.callers 1 = some (.done (.ok k)) ∧
        ∀ x, .goes 1 (some (.contact x)) ∉ ts := by
  have hruns : ((run slowCluster none 1 (Client.bootstrap slowCluster.config) {}).bind fun x =>
      let (cs, s) := settleCallers slowCluster 100 2
        (twoCallers.map fun o => ⟨o.1, .ready o.2⟩) { world := x.2 }
      cs[0]?.map fun first =>
        let s' := (visit slowCluster 100 0 first { s with world := { s.world with now := 50 } }).2.2
        (((stagesOf cs 0).any Stage.isAsleep, (stagesOf cs 1).any Stage.isQueued),
          s'.lock.holder, s'.world.state.compiled.isSome)) =
      some ((true, true), some 1, true) := by
    decide +kernel
  obtain ⟨⟨a, w⟩, -, hlater⟩ := Option.bind_eq_some_iff.1 hruns
  have hstart := mirrors_start twoCallers w
  have hasks : (start w.state (twoCallers.map Prod.snd)).AsksOnce slowCluster.config :=
    (orderly_start _ w.state 2).asksOnce
  have hsettled : Reaches slowCluster.config _
      (stagesOf (settleCallers slowCluster 100 2 _ _).1) _ := hstart.settleCallers hasks
  dsimp only at hlater
  generalize settleCallers slowCluster 100 2 _ _ = settled at hlater hsettled
  obtain ⟨cs, s⟩ := settled
  obtain ⟨x, hx, hmirrors⟩ := hsettled
  obtain ⟨first, hfirst, hknown⟩ := Option.map_eq_some_iff.1 hlater
  simp only [Prod.mk.injEq] at hknown
  obtain ⟨⟨hasleep, hqueued⟩, hholder, hkept⟩ := hknown
  -- The first caller is visited again once its answer has come.
  have hvisited : Reaches slowCluster.config x _ (visit slowCluster 100 0 first _).2.2 :=
    (hmirrors.later 50).visit (congrArg (Option.map Caller.stage) hfirst) (hasks.of_leads hx)
  obtain ⟨y, hy, hmirrors'⟩ := hvisited
  have hqueued' (stage : Stage (Except Failure Compiled)) :
      (Function.update (stagesOf cs) 0 (some stage) 1).any Stage.isQueued = true := by
    rwa [Function.update_of_ne Nat.one_ne_zero]
  obtain ⟨k, hk⟩ := Option.isSome_iff_exists.1 hkept
  rw [← hmirrors'.state] at hk
  have hx' : Reachable slowCluster.config x := ⟨w.state, 2, hx⟩
  have hy' : Reachable slowCluster.config y := ⟨w.state, 2, hx.trans hy⟩
  have hexchanges := hmirrors.exchanges hx'.orderly hasleep
  have hwaits := hmirrors'.waits (hqueued' _)
  have hfree := hmirrors'.holder_eq_none hholder (hqueued' _)
  obtain ⟨ts, z, hz, hmoves⟩ := (single_flight hy').serves 1 k hwaits hfree hk
  obtain ⟨-, hquiet, -, hended, -⟩ := (single_flight hy').served 1 k ts z hwaits hk hz
  exact ⟨x, y, hx', hy, hexchanges, hmirrors.waits hqueued,
    fun i hi => (single_flight hx').exclusive i 0 hi hexchanges, k, ts, z, hwaits, hk, hz,
    hended.2 hmoves, hquiet⟩

end Contest
end MetricRing
