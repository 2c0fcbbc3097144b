import MetricRing.Proofs.Histories
import MetricRing.Run.Contention

/-!
# Phases of a caller

A caller of `topology` asks first, may have to wait for the lock, loads while it holds it, and ends.
It holds the lock in one phase only, and in that phase alone it exchanges anything. This is so
whatever the turns are and whoever is cancelled, so that the lock is never held by a caller that is
not there.
-/

namespace MetricRing

variable {α β : Type} {c : Config}

namespace Op

/-! ### Plain operations -/

/-- An operation that waits neither for the lock nor for a time, and neither gives the lock back nor
makes a failover. -/
def IsPlain : Op α → Prop
  | .done _ => True
  | .act _ next => ∀ s, (next s).IsPlain
  | .choose n next => ∀ i, (next (i % n)).IsPlain
  | .clock next => ∀ now, (next now).IsPlain
  | .exchange _ _ next => ∀ result, (next result).IsPlain
  | .pause _ _ _ => False
  | .acquire _ => False
  | .release _ => False
  | .failover _ _ => False

variable {op : Op α} {s s₁ : State} {l : Option Label}

theorem IsPlain.bind {f : α → Op β} (hop : op.IsPlain) (hf : ∀ a, (f a).IsPlain) :
    (op >>= f).IsPlain := by
  change (op.bind f).IsPlain
  induction op with
  | done a => exact hf a
  | act g next ih => exact fun s => ih s (hop s)
  | choose n next ih => exact fun i => ih (i % n) (hop i)
  | clock next ih => exact fun now => ih now (hop now)
  | exchange node r next ih => exact fun result => ih result (hop result)
  | pause deadline delay next ih => exact hop.elim
  | acquire next ih => exact hop.elim
  | release next ih => exact hop.elim
  | failover f next ih => exact hop.elim

theorem IsPlain.step {op₁ : Op α} (hop : op.IsPlain) (h : op.Step c s l s₁ op₁) :
    op₁.IsPlain := by
  cases h with
  | act f next => exact hop s
  | choose n i next => exact hop i
  | clock now next => exact hop now
  | exchange x next => exact hop x.result
  | barred node r i next => exact hop (.error i)
  | pause deadline delay result next => exact hop.elim
  | acquire result next => exact hop.elim
  | release next => exact hop.elim
  | failover f next => exact hop.elim

/-- Such an operation has ended, or it can make a step. -/
theorem IsPlain.exists_step (c : Config) (hop : op.IsPlain) (s : State) :
    (∃ a, op = .done a) ∨ ∃ l s₁ op₁, op.Step c s l s₁ op₁ := by
  cases op with
  | done a => exact Or.inl ⟨a, rfl⟩
  | act f next => exact Or.inr ⟨_, _, _, .act s f next⟩
  | choose n next => exact Or.inr ⟨_, _, _, .choose s n 0 next⟩
  | clock next => exact Or.inr ⟨_, _, _, .clock s 0 next⟩
  | exchange node r next => exact Or.inr ⟨_, _, _, .barred s node r .cancelled next⟩
  | pause deadline delay next => exact hop.elim
  | acquire next => exact hop.elim
  | release next => exact hop.elim
  | failover f next => exact hop.elim

/-- What follows such an operation decides only when it has ended. -/
theorem IsPlain.isLocking_bind {f : α → Op β} (hop : op.IsPlain) (hd : ¬∃ a, op = .done a) :
    (op.bind f).isLocking = false := by
  cases op with
  | done a => exact absurd ⟨a, rfl⟩ hd
  | acquire next => exact hop.elim
  | release next => exact hop.elim
  | _ => rfl

theorem isPlain_read (g : State → α) : (Op.read g).IsPlain := fun _ => trivial

theorem isPlain_modify (f : State → State) : (Op.modify f).IsPlain := fun _ => trivial

theorem isPlain_update (f : State → State × α) : (Op.update f).IsPlain := fun _ => trivial

theorem isPlain_now : Op.now.IsPlain := fun _ => trivial

theorem isPlain_send (node : NodeRef) (r : Request) : (Op.send node r).IsPlain :=
  fun _ => trivial

end Op

namespace Client

open Op

theorem isPlain_note (setting : Option String) (path : String) (event : State → Event) :
    (note setting path event).IsPlain := by
  unfold note
  split_ifs
  · exact isPlain_modify _
  · trivial

theorem isPlain_prepare (c : Config) (r : Request) : (prepare c r).IsPlain := by
  refine isPlain_now.bind fun now => (isPlain_read _).bind fun hook => ?_
  cases hook with
  | none => trivial
  | some hook =>
    dsimp only
    cases hook (withHint c r now) <;> trivial

theorem isPlain_observe (node : NodeRef) (headers : Headers) :
    (observe node headers).IsPlain := by
  unfold observe
  split
  · trivial
  · refine (isPlain_read _).bind fun own => ?_
    dsimp only
    split_ifs
    · exact (isPlain_modify _).bind fun _ => isPlain_modify _
    · exact isPlain_modify _

theorem isPlain_sendOnce (c : Config) (node : NodeRef) (r : Request) :
    (sendOnce c node r).IsPlain := by
  refine (isPlain_note _ _ _).bind fun _ => isPlain_now.bind fun started =>
    (isPlain_send node r).bind fun sent => ?_
  cases sent with
  | error i => trivial
  | ok answer =>
    refine isPlain_now.bind fun ended => (isPlain_note _ _ _).bind fun _ => ?_
    cases answer with
    | error f => trivial
    | ok response =>
      exact (isPlain_observe node _).bind fun _ => (isPlain_note _ _ _).bind fun _ => trivial

theorem isPlain_fetchDocument (c : Config) (node : NodeRef) (hash : String) :
    (fetchDocument c node hash).IsPlain := by
  refine IsPlain.bind ?_ fun answer => by cases answer <;> trivial
  refine (isPlain_prepare c _).bind fun prepared => ?_
  cases prepared with
  | error f => trivial
  | ok r => exact isPlain_sendOnce c node r

theorem isPlain_loadFrom (c : Config) (node : NodeRef) (hash : String) :
    (loadFrom c node hash).IsPlain := by
  refine (isPlain_fetchDocument c node hash).bind fun fetched => ?_
  cases fetched with
  | error f => trivial
  | ok d => exact (isPlain_modify _).bind fun _ => trivial

theorem isPlain_loadFirst (c : Config) (wanted : String) (nodes : List NodeRef)
    (failures : List Failure) : (loadFirst c wanted nodes failures).IsPlain := by
  induction nodes generalizing failures with
  | nil => trivial
  | cons node rest ih =>
    refine (isPlain_read _).bind fun own => ?_
    dsimp only
    split_ifs
    · exact ih failures
    all_goals
      refine (isPlain_loadFrom c node _).bind fun loaded => ?_
      cases loaded with
      | ok ring => exact (isPlain_update _).bind fun _ => trivial
      | error f =>
        dsimp only
        split_ifs
        · trivial
        · exact ih _

theorem isPlain_loadLocked (c : Config) : (loadLocked c).IsPlain := by
  refine (isPlain_read _).bind fun kept => ?_
  cases kept with
  | some k => trivial
  | none =>
    exact (isPlain_read _).bind fun wanted => (isPlain_read _).bind fun nodes =>
      isPlain_loadFirst c wanted nodes []

/-! ### The phases -/

def unlockWith (result : Except Failure Compiled) : Op (Except Failure Compiled) :=
  .release (.done result)

def awaitTurn (c : Config) : Op (Except Failure Compiled) :=
  .acquire fun
    | .error i => .done (.error i.failure)
    | .ok () => (loadLocked c).bind unlockWith

def askFor (c : Config) : Option Compiled → Op (Except Failure Compiled)
  | some k => .done (.ok k)
  | none => awaitTurn c

theorem topology_eq (c : Config) : topology c = .act id fun s => askFor c s.compiled := by
  refine congrArg (Op.act id) (funext fun s => ?_)
  have hawait : (Op.lock >>= fun result => match result with
      | .error i => pure (.error i.failure)
      | .ok () => loadLocked c >>= fun result => Op.unlock >>= fun _ => pure result) =
      awaitTurn c := by
    refine congrArg Op.acquire (funext fun result => ?_)
    cases result <;> rfl
  cases hk : s.compiled with
  | some k => simp only [Op.bind, hk]; rfl
  | none => simp only [Op.bind, hk]; exact hawait

def loadUnlessKept (c : Config) : Option Compiled → Op (Except Failure Compiled)
  | some k => .done (.ok k)
  | none => .act id fun s => .act id fun t =>
    loadFirst c s.currentTopology (t.candidates s.currentTopology) []

theorem loadLocked_eq (c : Config) :
    loadLocked c = .act id fun s => loadUnlessKept c s.compiled := by
  refine congrArg (Op.act id) (funext fun s => ?_)
  cases hk : s.compiled <;> simp only [Op.bind, hk] <;> rfl

/-- What is left of a caller, by whether it holds the lock. -/
inductive Phase (c : Config) : Bool → Op (Except Failure Compiled) → Prop
  | asks : Phase c false (topology c)
  | waits : Phase c false (awaitTurn c)
  | loads (op : Op (Except Failure Compiled)) (h : op.IsPlain) :
    Phase c true (op.bind unlockWith)
  | ended (result : Except Failure Compiled) : Phase c false (.done result)

variable {holds : Bool} {s s₁ : State} {l : Option Label} {op₁ : Op (Except Failure Compiled)}

theorem Phase.eq_awaitTurn {next : Except Interrupt Unit → Op (Except Failure Compiled)}
    (h : Phase c holds (.acquire next)) : holds = false ∧ .acquire next = awaitTurn c := by
  generalize hop : Op.acquire next = op at h
  cases h with
  | asks =>
    rw [topology_eq] at hop
    cases hop
  | waits => exact ⟨rfl, rfl⟩
  | loads op hfree =>
    cases op with
    | acquire _ => exact hfree.elim
    | _ => cases hop
  | ended result => cases hop

theorem Phase.of_release {next : Op (Except Failure Compiled)} (h : Phase c holds (.release next)) :
    holds = true ∧ ∃ result, next = .done result := by
  generalize hop : Op.release next = op at h
  cases h with
  | asks =>
    rw [topology_eq] at hop
    cases hop
  | waits => cases hop
  | loads op hfree =>
    cases op with
    | done result => exact ⟨rfl, result, Op.release.inj hop⟩
    | release _ => exact hfree.elim
    | _ => cases hop
  | ended result => cases hop

theorem Phase.step {op : Op (Except Failure Compiled)} (h : Phase c holds op)
    (hop : op.isLocking = false) (hstep : op.Step c s l s₁ op₁) : Phase c holds op₁ := by
  cases h with
  | asks =>
    rw [topology_eq] at hstep
    cases hstep
    dsimp only
    cases s.compiled with
    | some k => exact .ended _
    | none => exact .waits
  | waits => cases hop
  | loads op hfree =>
    obtain ⟨a, rfl⟩ | ⟨op₁, hstep₁, rfl⟩ := hstep.of_bind
    · cases hop
    · exact .loads op₁ (hfree.step hstep₁)
  | ended result => cases hstep

/-- Only who holds the lock exchanges anything. -/
theorem Phase.of_exchange {node : NodeRef} {r : Request}
    {next : Except Interrupt Outcome → Op (Except Failure Compiled)}
    (h : Phase c holds (.exchange node r next)) : holds = true := by
  generalize hop : Op.exchange node r next = op at h
  cases h with
  | asks =>
    rw [topology_eq] at hop
    cases hop
  | waits => cases hop
  | loads op hfree => rfl
  | ended result => cases hop

end Client

namespace Contest

open Client (Phase)

variable {x y z : Contest (Except Failure Compiled)} {t : Turn} {ts : List Turn}

/-- Each caller is in the phase that fits the holder of the lock, who is there. -/
structure Orderly (c : Config) (y : Contest (Except Failure Compiled)) : Prop where
  phase : ∀ i op, y.callers i = some op → Phase c (y.holder = some i) op
  present : ∀ i, y.holder = some i → ∃ op, y.callers i = some op

theorem Step.callers_of_ne {α : Type} {y z : Contest α} (h : Step c y t z) {j : Nat}
    (ht : t.caller? ≠ some j) : z.callers j = y.callers j := by
  cases h with
  | elsewhere s => rfl
  | _ => exact Function.update_of_ne (fun hj => ht (congrArg some hj.symm)) _ _

/-- One caller changes, and with it the holder of the lock as far as that caller is concerned. -/
theorem Orderly.update (hy : y.Orderly c) {i : Nat} {s : State}
    {op : Option (Op (Except Failure Compiled))} {holder : Option Nat}
    (hop : ∀ op₁, op = some op₁ → Phase c (holder = some i) op₁)
    (hpresent : holder = some i → op ≠ none)
    (hothers : ∀ j, j ≠ i → (holder = some j ↔ y.holder = some j)) :
    Orderly c ⟨s, Function.update y.callers i op, holder⟩ where
  phase j op₁ hj := by
    dsimp only at hj ⊢
    by_cases hji : j = i
    · subst hji
      rw [Function.update_self] at hj
      exact hop op₁ hj
    · rw [Function.update_of_ne hji] at hj
      simpa only [hothers j hji] using hy.phase j op₁ hj
  present j hj := by
    dsimp only at hj ⊢
    by_cases hji : j = i
    · subst hji
      rw [Function.update_self]
      exact Option.ne_none_iff_exists'.1 (hpresent hj)
    · rw [Function.update_of_ne hji]
      exact hy.present j ((hothers j hji).1 hj)

theorem Step.orderly (h : Step c y t z) (hy : y.Orderly c) : z.Orderly c := by
  cases h with
  | elsewhere s => exact ⟨hy.phase, hy.present⟩
  | @goes i op op₁ l s₁ hi hop hstep =>
    refine hy.update (fun op₂ h₂ => ?_) (fun _ => Option.some_ne_none _) fun j _ => Iff.rfl
    cases h₂
    exact (hy.phase i op hi).step hop hstep
  | @enters i next hi hfree =>
    obtain ⟨-, hnext⟩ := (hy.phase i _ hi).eq_awaitTurn
    refine hy.update (fun op₂ h₂ => ?_) (fun _ => Option.some_ne_none _) fun j hji => ?_
    · cases h₂
      cases hnext
      rw [decide_eq_true rfl]
      exact .loads _ (Client.isPlain_loadLocked c)
    · simp [hfree, Ne.symm hji]
  | @leaves i next hi =>
    obtain ⟨hholds, result, rfl⟩ := (hy.phase i _ hi).of_release
    refine hy.update (fun op₂ h₂ => ?_) (fun h => nomatch h) fun j hji => ?_
    · cases h₂
      exact .ended result
    · simp [of_decide_eq_true hholds, Ne.symm hji]
  | @givesUp i next hi =>
    obtain ⟨hholds, hnext⟩ := (hy.phase i _ hi).eq_awaitTurn
    refine hy.update (fun op₂ h₂ => ?_) (fun _ => Option.some_ne_none _) fun j _ => Iff.rfl
    cases h₂
    cases hnext
    rw [hholds]
    exact .ended _
  | @dropped i op hi =>
    refine hy.update (fun op₂ h₂ => nomatch h₂) (fun h => ?_) fun j hji => ?_
    · split_ifs at h with hholds
      exact absurd h hholds
    · split_ifs with hholds
      · simp [hholds, Ne.symm hji]
      · rfl

theorem Runs.orderly {P : Turn → Contest (Except Failure Compiled) → Prop} (h : Runs c P y ts z)
    (hy : y.Orderly c) : z.Orderly c := by
  induction h with
  | refl => exact hy
  | tail _ hstep _ ih => exact hstep.orderly ih

theorem orderly_start (c : Config) (s : State) (n : Nat) :
    (start s (List.replicate n (Client.topology c))).Orderly c where
  phase i op hi := by
    obtain rfl := List.eq_of_mem_replicate (List.mem_of_getElem? hi)
    exact .asks
  present i hi := nomatch hi

theorem Reachable.orderly (h : Reachable c y) : y.Orderly c := by
  obtain ⟨s, n, ts, hrun⟩ := h
  exact hrun.orderly (orderly_start c s n)

end Contest
end MetricRing
