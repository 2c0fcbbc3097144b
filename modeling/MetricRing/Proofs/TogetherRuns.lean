import Mathlib.Data.List.Nodup
import MetricRing.Proofs.SoloRuns
import MetricRing.Run.Contention
import MetricRing.Run.Together

/-!
# Runs of several operations as turns

What `runTogether` computes is a sequence of turns in the contention for the lock, as long as nobody
asks for the lock who holds it. The queue decides only who gets the lock first, and time only when
an exchange or a pause is over. So whatever holds of all turns holds of these runs.
-/

namespace MetricRing

variable {α : Type} {c : Config} {e : Setting}

/-! ### Sequences of turns -/

namespace Contest

variable {x y z : Contest α}

theorem Leads.refl (c : Config) (y : Contest α) : Leads c y y := ⟨[], .refl y⟩

theorem Leads.tail {t : Turn} (h : Leads c x y) (hstep : Step c y t z) : Leads c x z := by
  obtain ⟨ts, hts⟩ := h
  exact ⟨_, hts.tail hstep trivial⟩

theorem Leads.trans (h : Leads c x y) (h' : Leads c y z) : Leads c x z := by
  obtain ⟨ts, hts⟩ := h'
  induction hts with
  | refl => exact h
  | tail _ hstep _ ih => exact ih.tail hstep

theorem Step.leads {t : Turn} (h : Step c y t z) : Leads c y z := (Leads.refl c y).tail h

def AsksOnce (c : Config) (y : Contest α) : Prop :=
  ∀ z, Leads c y z → ∀ i next, z.callers i = some (.acquire next) → z.holder ≠ some i

theorem AsksOnce.of_leads (h : y.AsksOnce c) (hz : Leads c y z) : z.AsksOnce c :=
  fun z' hz' => h z' (hz.trans hz')

end Contest

/-! ### The lock and its queue -/

/-- A lock whose queue is that of the callers that wait. It may have been handed over to one that
has not noticed yet, and nobody holds it then. -/
structure Lock.Fits (l : Lock) (waits : Nat → Bool) (holder : Option Nat) : Prop where
  queued : ∀ i ∈ l.queue, waits i = true
  nodup : l.queue.Nodup
  apart : ∀ i, l.holder = some i → i ∉ l.queue
  held : ∀ i, holder = some i ↔ l.holder = some i ∧ waits i = false

namespace Lock.Fits

variable {l : Lock} {waits : Nat → Bool} {holder : Option Nat} {i : Nat}

theorem eq_none (h : l.Fits waits holder) (hl : ∀ j, l.holder = some j → waits j = true) :
    holder = none := by
  refine Option.eq_none_iff_forall_ne_some.2 fun j hj => ?_
  obtain ⟨hholder, hwaits⟩ := (h.held j).1 hj
  rw [hl j hholder] at hwaits
  cases hwaits

theorem handOver (h : l.Fits waits holder) : l.handOver.Fits waits none := by
  obtain ⟨lockHolder, queue⟩ := l
  cases queue with
  | nil =>
    exact ⟨fun _ hj => absurd hj List.not_mem_nil, List.nodup_nil, fun _ _ => List.not_mem_nil,
      fun j => ⟨fun hj => (nomatch hj), fun hj => (nomatch hj.1)⟩⟩
  | cons first rest =>
    obtain ⟨hfirst, hrest⟩ := List.nodup_cons.1 h.nodup
    refine ⟨fun j hj => h.queued j (List.mem_cons_of_mem first hj), hrest, fun j hj => ?_,
      fun j => ⟨fun hj => (nomatch hj), fun hj => ?_⟩⟩
    · obtain rfl := Option.some.inj hj
      exact hfirst
    · obtain rfl := Option.some.inj hj.1
      rw [h.queued first List.mem_cons_self] at hj
      cases hj.2

/-- A caller that does not wait takes the lock. -/
theorem take (h : l.Fits (Function.update waits i false) holder) :
    Fits { l with holder := some i } (Function.update waits i false) (some i) where
  queued := h.queued
  nodup := h.nodup
  apart j hj hmem := by
    obtain rfl := Option.some.inj hj
    have hwaits := h.queued i hmem
    rw [Function.update_self] at hwaits
    cases hwaits
  held j := by
    refine ⟨fun hj => ⟨hj, ?_⟩, fun hj => hj.1⟩
    rw [← Option.some.inj hj, Function.update_self]

/-- A caller joins the queue. -/
theorem join (h : l.Fits (Function.update waits i false) holder) {j : Nat}
    (hl : l.holder = some j) (hi : holder ≠ some i) :
    Fits { l with queue := l.queue ++ [i] } (Function.update waits i true) holder := by
  have hnew : i ∉ l.queue := fun hmem => by
    have hwaits := h.queued i hmem
    rw [Function.update_self] at hwaits
    cases hwaits
  have hij : j ≠ i := fun hji => hi ((h.held i).2 ⟨hji ▸ hl, Function.update_self ..⟩)
  refine ⟨fun k hk => ?_, ?_, fun k hk hmem => ?_, fun k => ?_⟩
  · by_cases hki : k = i
    · rw [hki, Function.update_self]
    · rw [Function.update_of_ne hki]
      have hwaits := h.queued k (by simpa [hki] using hk)
      rwa [Function.update_of_ne hki] at hwaits
  · exact List.Nodup.append h.nodup (List.nodup_singleton i) (by simpa using hnew)
  · obtain rfl : j = k := Option.some.inj (hl.symm.trans hk)
    exact h.apart j hl (by simpa [hij] using hmem)
  · rw [h.held k]
    by_cases hki : k = i
    · subst hki
      simp [hl, hij]
    · rw [Function.update_of_ne hki, Function.update_of_ne hki]

/-- A waiting caller to which the lock has been handed over takes it. -/
theorem wake (h : l.Fits waits holder) (hl : l.holder = some i) :
    l.Fits (Function.update waits i false) (some i) where
  queued j hj := by
    have hji : j ≠ i := fun hji => h.apart i hl (hji ▸ hj)
    rw [Function.update_of_ne hji]
    exact h.queued j hj
  nodup := h.nodup
  apart := h.apart
  held j := by
    refine ⟨fun hj => ?_, fun hj => hl ▸ hj.1⟩
    rw [← Option.some.inj hj, Function.update_self]
    exact ⟨hl, rfl⟩

/-- A waiting caller gives up its place. -/
theorem leave (h : l.Fits waits holder) (hi : waits i = true) :
    (l.leave i).Fits (Function.update waits i false) holder := by
  have hothers {j : Nat} (hj : j ∈ l.queue) (hji : j ≠ i) :
      Function.update waits i false j = true := by
    rw [Function.update_of_ne hji]
    exact h.queued j hj
  unfold Lock.leave
  split_ifs with hl
  · have hnone : holder = none := h.eq_none fun j hj => by
      rwa [← Option.some.inj (hl.symm.trans hj)]
    have hwoken := (h.wake hl).handOver
    rwa [hnone]
  · refine ⟨fun j hj => ?_, h.nodup.erase i, fun j hj hmem => ?_, fun j => ?_⟩
    · exact hothers (List.mem_of_mem_erase hj) ((List.Nodup.mem_erase_iff h.nodup).1 hj).1
    · exact h.apart j hj (List.mem_of_mem_erase hmem)
    · rw [h.held j]
      by_cases hji : j = i
      · subst hji
        simp [hl]
      · rw [Function.update_of_ne hji]

end Lock.Fits

/-! ### What the stages stand for -/

def Stage.isQueued : Stage α → Bool
  | .queued _ => true
  | _ => false

/-- What is left of the operation of a caller at a stage. An exchange or a pause that it sleeps
through is still under way. -/
inductive Stage.Left : Stage α → Op α → Prop
  | ready (op : Op α) : Left (.ready op) op
  | sent (wake : Time) (x : Contact) (next : Except Interrupt Outcome → Op α) :
    Left (.asleep wake (next x.result)) (.exchange x.node x.request next)
  | paused (wake : Time) (deadline : Option Time) (delay : Time) (result : Except Interrupt Unit)
    (next : Except Interrupt Unit → Op α) :
    Left (.asleep wake (next result)) (.pause deadline delay next)
  | queued (next : Except Interrupt Unit → Op α) : Left (.queued next) (.acquire next)
  | finished (a : α) : Left (.finished a) (.done a)

structure Mirrors (stages : Nat → Option (Stage α)) (s : Shared) (y : Contest α) : Prop where
  state : y.state = s.world.state
  callers : ∀ i, Option.Rel Stage.Left (stages i) (y.callers i)
  lock : s.lock.Fits (fun i => (stages i).any Stage.isQueued) y.holder

def Reaches (c : Config) (y : Contest α) (stages : Nat → Option (Stage α)) (s : Shared) : Prop :=
  ∃ z, Contest.Leads c y z ∧ Mirrors stages s z

/-- What is reached is where the next ones start from. -/
theorem Reaches.further {y : Contest α} {stages stages₁ : Nat → Option (Stage α)} {s s₁ : Shared}
    (hnext : ∀ {z : Contest α}, Mirrors stages s z → z.AsksOnce c → Reaches c z stages₁ s₁)
    (hy : y.AsksOnce c) (h : Reaches c y stages s) : Reaches c y stages₁ s₁ := by
  obtain ⟨y₁, hy₁, hm₁⟩ := h
  obtain ⟨z, hz, hm⟩ := hnext hm₁ (hy.of_leads hy₁)
  exact ⟨z, hy₁.trans hz, hm⟩

namespace Mirrors

open Contest

variable {stages : Nat → Option (Stage α)} {s : Shared} {y : Contest α} {i : Nat} {stage : Stage α}

theorem reaches (h : Mirrors stages s y) : Reaches c y stages s := ⟨y, .refl c y, h⟩

theorem any_update (stages : Nat → Option (Stage α)) (i : Nat) (stage : Stage α) :
    (fun j => (Function.update stages i (some stage) j).any Stage.isQueued) =
      Function.update (fun j => (stages j).any Stage.isQueued) i stage.isQueued :=
  Function.comp_update (Option.any Stage.isQueued) stages i (some stage)

theorem caller (h : Mirrors (Function.update stages i (some stage)) s y) :
    ∃ op, y.callers i = some op ∧ stage.Left op := by
  have hi := h.callers i
  rw [Function.update_self] at hi
  generalize y.callers i = found at hi
  cases hi with
  | some hleft => exact ⟨_, rfl, hleft⟩

/-- One caller comes to another stage. -/
theorem put (h : Mirrors (Function.update stages i (some stage)) s y) {stage₁ : Stage α}
    {s₁ : Shared} {z : Contest α} {op : Op α} (hop : stage₁.Left op)
    (hcallers : z.callers = Function.update y.callers i (some op))
    (hstate : z.state = s₁.world.state)
    (hlock : s₁.lock.Fits (Function.update (fun j => (stages j).any Stage.isQueued) i
      stage₁.isQueued) z.holder) : Mirrors (Function.update stages i (some stage₁)) s₁ z where
  state := hstate
  callers j := by
    rw [hcallers]
    by_cases hji : j = i
    · subst hji
      rw [Function.update_self, Function.update_self]
      exact .some hop
    · have hj := h.callers j
      rw [Function.update_of_ne hji] at hj ⊢
      rwa [Function.update_of_ne hji]
  lock := by rwa [any_update]

/-- Nothing changes while time passes. -/
theorem later (h : Mirrors stages s y) (now : Time) :
    Mirrors stages { s with world := { s.world with now } } y :=
  ⟨h.state, h.callers, h.lock⟩

/-- A queued caller waits for the lock. -/
theorem waits (h : Mirrors stages s y) (hi : (stages i).any Stage.isQueued = true) :
    y.Waits i := by
  have hleft := h.callers i
  unfold Contest.Waits
  generalize stages i = found, y.callers i = caller at hi hleft ⊢
  cases hleft with
  | none => cases hi
  | some hop =>
    cases hop with
    | queued next => exact ⟨next, rfl⟩
    | _ => cases hi

/-- Nobody holds a lock that has been handed over to a caller that is still queued. -/
theorem holder_eq_none (h : Mirrors stages s y) (hl : s.lock.holder = some i)
    (hi : (stages i).any Stage.isQueued = true) : y.holder = none := by
  refine h.lock.eq_none fun j hj => ?_
  obtain rfl := Option.some.inj (hl.symm.trans hj)
  exact hi

theorem fits (h : Mirrors (Function.update stages i (some stage)) s y) :
    s.lock.Fits (Function.update (fun j => (stages j).any Stage.isQueued) i stage.isQueued)
      y.holder := by
  have hlock := h.lock
  rwa [any_update] at hlock

theorem callers_ready {op : Op α} (h : Mirrors (Function.update stages i (some (.ready op))) s y) :
    y.callers i = some op := by
  obtain ⟨op', hi, hleft⟩ := h.caller
  cases hleft
  exact hi

/-- A caller that does not wait for the lock takes a step. -/
theorem goes (h : Mirrors (Function.update stages i (some stage)) s y)
    (hqueued : stage.isQueued = false) {op op₁ : Op α} (hi : y.callers i = some op)
    (hop : op.isLocking = false) {l : Option Label} {w : World}
    (hstep : op.Step c s.world.state l w.state op₁) :
    Reaches c y (Function.update stages i (some (.ready op₁))) { s with world := w } := by
  rw [← h.state] at hstep
  refine ⟨_, (Step.goes hi hop hstep).leads, h.put (.ready op₁) rfl rfl ?_⟩
  have hfits := h.fits
  rwa [hqueued] at hfits

/-- A caller comes to sleep, or to its end. -/
theorem rests (h : Mirrors (Function.update stages i (some stage)) s y)
    (hqueued : stage.isQueued = false) {op : Op α} (hi : y.callers i = some op) {stage₁ : Stage α}
    (hleft : stage₁.Left op) (hqueued₁ : stage₁.isQueued = false) {w : World}
    (hw : w.state = s.world.state) :
    Mirrors (Function.update stages i (some stage₁)) { s with world := w } y := by
  refine h.put hleft (Function.update_eq_self_iff.2 hi.symm).symm (h.state.trans hw.symm) ?_
  have hfits := h.fits
  rwa [hqueued, ← hqueued₁] at hfits

theorem advance {cancel : Option Time} {fuel : Nat} {op : Op α}
    (h : Mirrors (Function.update stages i (some (.ready op))) s y) (hy : y.AsksOnce e.config) :
    Reaches e.config y
      (Function.update stages i (some (MetricRing.advance e i cancel fuel op s).1))
      (MetricRing.advance e i cancel fuel op s).2 := by
  induction fuel generalizing op s y with
  | zero => exact h.reaches
  | succ fuel ih =>
    have hi := h.callers_ready
    cases op with
    | done a => exact ⟨y, .refl _ y, h.rests rfl hi (.finished a) rfl rfl⟩
    | act f next => exact .further ih hy (h.goes rfl hi rfl (.act _ f next))
    | choose n next => exact .further ih hy (h.goes rfl hi rfl (.choose _ n _ next))
    | clock next => exact .further ih hy (h.goes rfl hi rfl (.clock _ _ next))
    | exchange node r next =>
      unfold MetricRing.advance
      dsimp only
      rcases s.world.exchange_cases e cancel node r with ⟨i, hx⟩ | ⟨result, time, -, hx⟩
      · rw [hx]
        dsimp only
        rw [if_pos rfl]
        exact .further ih hy (h.goes rfl hi rfl (.barred _ node r i next))
      · rw [hx]
        dsimp only
        split_ifs
        · exact .further ih hy (h.goes rfl hi rfl (.exchange _ ⟨node, r, result⟩ next))
        · exact ⟨y, .refl _ y, h.rests rfl hi (.sent time ⟨node, r, result⟩ next) rfl rfl⟩
    | pause deadline delay next =>
      unfold MetricRing.advance
      dsimp only
      split_ifs
      · exact .further ih hy (h.goes rfl hi rfl (.pause _ deadline delay _ next))
      · exact ⟨y, .refl _ y, h.rests rfl hi (.paused _ deadline delay _ next) rfl rfl⟩
    | acquire next =>
      unfold MetricRing.advance
      dsimp only
      split_ifs with hcancel
      · exact .further ih hy ⟨_, (Step.givesUp hi).leads, h.put (.ready _) rfl h.state h.fits⟩
      · cases hholder : s.lock.holder with
        | none =>
          have hnone : y.holder = none :=
            h.fits.eq_none fun j hj => (nomatch hholder.symm.trans hj)
          exact .further ih hy ⟨_, (Step.enters hi hnone).leads,
            h.put (.ready _) rfl h.state h.fits.take⟩
        | some j =>
          have hapart : y.holder ≠ some i := hy y (.refl _ y) i next hi
          have hjoin := h.fits.join hholder hapart
          rw [hholder] at hjoin
          refine ⟨y, .refl _ y, h.put (.queued next) ?_ h.state hjoin⟩
          exact (Function.update_eq_self_iff.2 hi.symm).symm
    | release next =>
      exact .further ih hy ⟨_, (Step.leaves hi).leads, h.put (.ready _) rfl h.state h.fits.handOver⟩
    | failover f next => exact .further ih hy (h.goes rfl hi rfl (.failover _ f next))

theorem visit {caller : Caller α} {fuel : Nat} (h : Mirrors stages s y)
    (hi : stages i = some caller.stage) (hy : y.AsksOnce e.config) :
    Reaches e.config y
      (Function.update stages i (some (MetricRing.visit e fuel i caller s).2.1.stage))
      (MetricRing.visit e fuel i caller s).2.2 := by
  rw [← Function.update_eq_self i stages, hi] at h
  obtain ⟨cancel, stage⟩ := caller
  obtain ⟨op, hop, hleft⟩ := h.caller
  unfold MetricRing.visit
  dsimp only at h hleft ⊢
  cases hleft with
  | ready op => exact h.advance hy
  | finished a => exact h.reaches
  | sent wake x next =>
    dsimp only
    split_ifs
    · exact .further advance hy (h.goes rfl hop rfl (.exchange _ x next))
    · exact h.reaches
  | paused wake deadline delay result next =>
    dsimp only
    split_ifs
    · exact .further advance hy (h.goes rfl hop rfl (.pause _ deadline delay result next))
    · exact h.reaches
  | queued next =>
    have hfits := h.fits
    have hwaits : Function.update (fun j => (stages j).any Stage.isQueued) i true i = true :=
      Function.update_self ..
    dsimp only
    split_ifs with hcancel hholder
    · have hleave := hfits.leave hwaits
      rw [Function.update_idem] at hleave
      exact .further advance hy ⟨_, (Step.givesUp hop).leads, h.put (.ready _) rfl h.state hleave⟩
    · have hnone : y.holder = none :=
        hfits.eq_none fun j hj => Option.some.inj (hholder.symm.trans hj) ▸ hwaits
      have hwake := hfits.wake hholder
      rw [Function.update_idem] at hwake
      exact .further advance hy ⟨_, (Step.enters hop hnone).leads,
        h.put (.ready _) rfl h.state hwake⟩
    · exact h.reaches

end Mirrors

/-! ### Runs -/

def stagesOf (cs : List (Caller α)) (i : Nat) : Option (Stage α) := cs[i]?.map Caller.stage

/-- A list with its entry at one position replaced. -/
theorem stagesOf_append_cons (before rest : List (Caller α)) (caller caller₁ : Caller α) :
    Function.update (stagesOf (before ++ caller :: rest)) before.length (some caller₁.stage) =
      stagesOf ((before ++ [caller₁]) ++ rest) := by
  funext i
  rw [List.append_assoc, List.singleton_append]
  unfold stagesOf
  by_cases hi : i = before.length
  · subst hi
    simp
  · rw [Function.update_of_ne hi]
    rcases Nat.lt_or_gt_of_ne hi with hlt | hgt
    · rw [List.getElem?_append_left hlt, List.getElem?_append_left hlt]
    · obtain ⟨k, hk⟩ := Nat.exists_eq_add_of_lt hgt
      rw [List.getElem?_append_right (by omega), List.getElem?_append_right (by omega),
        show i - before.length = k + 1 by omega, List.getElem?_cons_succ, List.getElem?_cons_succ]

/-- Callers that have results have ended. -/
theorem stagesOf_eq_finished {cs : List (Caller α)} {results : List α}
    (h : cs.mapM Caller.result? = some results) (i : Nat) :
    stagesOf cs i = results[i]?.map Stage.finished := by
  induction cs generalizing results i with
  | nil =>
    cases h
    rfl
  | cons caller rest ih =>
    rw [List.mapM_cons] at h
    obtain ⟨a, ha, hrest⟩ := Option.bind_eq_some_iff.1 h
    obtain ⟨others, hothers, hresults⟩ := Option.bind_eq_some_iff.1 hrest
    obtain rfl := Option.some.inj hresults
    obtain ⟨cancel, stage⟩ := caller
    cases stage with
    | finished b =>
      cases ha
      cases i with
      | zero => rfl
      | succ i => exact ih hothers i
    | _ => cases ha

namespace Mirrors

open Contest

variable {cs : List (Caller α)} {s : Shared} {y : Contest α} {fuel : Nat}

theorem visitAll (before : List (Caller α)) (h : Mirrors (stagesOf (before ++ cs)) s y)
    (hy : y.AsksOnce e.config) :
    Reaches e.config y
      (stagesOf (before ++ (MetricRing.visitAll e fuel before.length cs s).2.1))
      (MetricRing.visitAll e fuel before.length cs s).2.2 := by
  induction cs generalizing before s y with
  | nil => exact h.reaches
  | cons caller rest ih =>
    have hi : stagesOf (before ++ caller :: rest) before.length = some caller.stage := by
      simp [stagesOf]
    have hfirst : Reaches e.config y _ (MetricRing.visit e fuel before.length caller s).2.2 :=
      h.visit hi hy
    refine .further (fun hm hz => ?_) hy hfirst
    rw [stagesOf_append_cons] at hm
    have hrest := ih _ hm hz
    rwa [List.length_append, List.length_singleton, List.append_assoc] at hrest

theorem settleCallers {rounds : Nat} (h : Mirrors (stagesOf cs) s y) (hy : y.AsksOnce e.config) :
    Reaches e.config y (stagesOf (MetricRing.settleCallers e fuel rounds cs s).1)
      (MetricRing.settleCallers e fuel rounds cs s).2 := by
  induction rounds generalizing cs s y with
  | zero => exact h.reaches
  | succ rounds ih =>
    unfold MetricRing.settleCallers
    dsimp only
    split_ifs
    · exact .further ih hy (h.visitAll [] hy)
    · exact h.visitAll [] hy

theorem runCallers {moments : Nat} {results : List α} {w : World}
    (h : Mirrors (stagesOf cs) s y) (hy : y.AsksOnce e.config)
    (hrun : MetricRing.runCallers e fuel moments cs s = some (results, w)) :
    ∃ z, Leads e.config y z ∧ z.state = w.state ∧ ∀ i, z.callers i = results[i]?.map Op.done := by
  induction moments generalizing cs s y with
  | zero => cases hrun
  | succ moments ih =>
    have hsettled : Reaches e.config y (stagesOf (MetricRing.settleCallers e fuel fuel cs s).1)
        (MetricRing.settleCallers e fuel fuel cs s).2 := h.settleCallers hy
    obtain ⟨y₁, hy₁, hm₁⟩ := hsettled
    unfold MetricRing.runCallers at hrun
    dsimp only at hrun
    generalize MetricRing.settleCallers e fuel fuel cs s = settled at hm₁ hrun
    obtain ⟨cs₁, s₁⟩ := settled
    dsimp only at hm₁ hrun
    split at hrun
    next results' hresults =>
      obtain ⟨rfl, rfl⟩ := Prod.mk.inj (Option.some.inj hrun)
      refine ⟨y₁, hy₁, hm₁.state, fun i => ?_⟩
      have hi := hm₁.callers i
      rw [stagesOf_eq_finished hresults] at hi
      generalize y₁.callers i = found at hi ⊢
      cases hresult : results'[i]? with
      | none =>
        rw [hresult] at hi
        cases hi
        rfl
      | some a =>
        rw [hresult] at hi
        cases hi with
        | some hleft =>
          cases hleft
          rfl
    next =>
      split at hrun
      next t _ =>
        obtain ⟨z, hz, hend⟩ := ih (hm₁.later t) (hy.of_leads hy₁) hrun
        exact ⟨z, hy₁.trans hz, hend⟩
      next => cases hrun

end Mirrors

/-- Operations that are yet to begin. -/
theorem mirrors_start (ops : List (Option Time × Op α)) (w : World) :
    Mirrors (stagesOf (ops.map fun o => ⟨o.1, .ready o.2⟩)) { world := w }
      (Contest.start w.state (ops.map Prod.snd)) where
  state := rfl
  callers i := by
    unfold stagesOf Contest.start
    dsimp only
    rw [List.getElem?_map, List.getElem?_map]
    cases ops[i]? with
    | none => exact .none
    | some o => exact .some (.ready o.2)
  lock := by
    refine ⟨fun _ hi => absurd hi List.not_mem_nil, List.nodup_nil, fun _ _ => List.not_mem_nil,
      fun i => ⟨fun hi => (nomatch hi), fun hi => (nomatch hi.1)⟩⟩

/-- A run of several operations is one of those that their turns make. -/
theorem runTogether_leads {ops : List (Option Time × Op α)} {fuel : Nat} {w w₁ : World}
    {results : List α} (hops : (Contest.start w.state (ops.map Prod.snd)).AsksOnce e.config)
    (h : runTogether e fuel ops w = some (results, w₁)) :
    ∃ z, Contest.Leads e.config (Contest.start w.state (ops.map Prod.snd)) z ∧
      z.state = w₁.state ∧ ∀ i, z.callers i = results[i]?.map Op.done :=
  (mirrors_start ops w).runCallers hops h

end MetricRing
