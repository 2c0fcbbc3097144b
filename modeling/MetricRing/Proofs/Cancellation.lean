import MetricRing.Client.Hooks
import MetricRing.Proofs.DirectRuns
import MetricRing.Proofs.FirstWaits

/-!
# Cancellation is a clean cut

A run that is cancelled at some moment does what the run that is never cancelled does before that
moment, and then nothing. The two runs agree until something is to end at the moment or later: it
is then cut short, and the operation obeys. A call that is cancelled from the start does nothing
if its operation changes no facts before it first waits.
-/

namespace MetricRing

variable {α : Type} {e : Setting} {cancel : Option Time}

/-! ### Deeds -/

theorem deeds_cons (m : Mark) (t : List Mark) : deeds (m :: t) = m.deed?.toList ++ deeds t := by
  unfold deeds
  rw [List.filterMap_cons]
  cases m.deed? <;> rfl

theorem deeds_append (t t' : List Mark) : deeds (t ++ t') = deeds t ++ deeds t' :=
  List.filterMap_append

theorem Mark.time_deed? {m : Mark} {x : Deed} (h : m.deed? = some x) : x.time = m.time := by
  cases m with
  | change time s s' =>
    dsimp only [deed?] at h
    split_ifs at h
    cases h
    rfl
  | barred time i => cases h
  | exchange node x result ended =>
    cases h
    rfl
  | pause began result ended => cases h

namespace Op

variable {op : Op α} {w w₁ : World} {a : α} {t : List Mark} {n : Time} {D : Option Time → Prop}
  {K : Interrupt → α → Prop} {P : α → Prop}

/-- Whatever happens in a run begins while the run lasts. -/
theorem Ends.time_mem (h : op.Ends e cancel w a w₁ t) :
    ∀ m ∈ t, w.now ≤ m.time ∧ m.time ≤ w₁.now := by
  induction h with
  | done a w => exact fun m hm => absurd hm List.not_mem_nil
  | act rest ih => exact List.forall_mem_cons.2 ⟨⟨le_rfl, rest.now_le⟩, ih⟩
  | choose _ ih => exact ih
  | clock _ ih => exact ih
  | barred _ rest ih => exact List.forall_mem_cons.2 ⟨⟨le_rfl, rest.now_le⟩, ih⟩
  | exchange _ rest ih =>
    have hafter := World.now_le_after.trans rest.now_le
    exact List.forall_mem_cons.2 ⟨⟨le_rfl, hafter⟩, fun m hm =>
      ⟨World.now_le_after.trans (ih m hm).1, (ih m hm).2⟩⟩
  | pause hs rest ih =>
    have hended := le_of_settle hs
    exact List.forall_mem_cons.2 ⟨⟨le_rfl, hended.trans rest.now_le⟩, fun m hm =>
      ⟨hended.trans (ih m hm).1, (ih m hm).2⟩⟩
  | acquire _ ih => exact ih
  | release _ ih => exact ih
  | failover first rest ihfirst ihrest =>
    intro m hm
    rcases List.mem_append.1 hm with hm | hm
    · exact ⟨(ihfirst m hm).1, (ihfirst m hm).2.trans rest.now_le⟩
    · exact ⟨first.now_le.trans (ihrest m hm).1, (ihrest m hm).2⟩

theorem Ends.time_deed_mem (h : op.Ends e cancel w a w₁ t) {x : Deed} (hx : x ∈ deeds t) :
    w.now ≤ x.time ∧ x.time ≤ w₁.now := by
  obtain ⟨m, hm, hx⟩ := List.mem_filterMap.1 hx
  rw [Mark.time_deed? hx]
  exact h.time_mem m hm

/-- Where nothing is done the facts stay as they are. -/
theorem Ends.facts_eq (h : op.Ends e cancel w a w₁ t) (hd : deeds t = []) :
    w₁.state.facts = w.state.facts := by
  induction h with
  | done a w => rfl
  | act _ ih =>
    rw [deeds_cons, List.append_eq_nil_iff] at hd
    have hfacts := hd.1
    dsimp only [Mark.deed?] at hfacts
    split_ifs at hfacts with hsame
    · exact (ih hd.2).trans hsame.symm
    · cases hfacts
  | choose _ ih => exact ih hd
  | clock _ ih => exact ih hd
  | barred _ _ ih => exact ih hd
  | exchange _ _ _ => cases hd
  | pause _ _ ih => exact ih hd
  | acquire _ ih => exact ih hd
  | release _ ih => exact ih hd
  | failover _ _ ihfirst ihrest =>
    rw [deeds_append, List.append_eq_nil_iff] at hd
    exact (ihrest hd.2).trans (ihfirst hd.1)

/-- What is done before a moment that has come. -/
theorem Ends.filter_deeds_of_le (h : op.Ends e cancel w a w₁ t) (hn : n ≤ w.now) :
    (deeds t).filter (·.time < n) = [] := by
  rw [List.filter_eq_nil_iff]
  intro x hx
  rw [decide_eq_true_eq, Nat.not_lt]
  exact hn.trans (h.time_deed_mem hx).1

theorem Ends.filter_deeds_of_lt (h : op.Ends e cancel w a w₁ t) (hn : w₁.now < n) :
    (deeds t).filter (·.time < n) = deeds t := by
  rw [List.filter_eq_self]
  intro x hx
  rw [decide_eq_true_eq]
  exact (h.time_deed_mem hx).2.trans_lt hn

/-! ### A cancellation that is yet to come -/

/-- How a run that is cancelled at a moment yet to come relates to one that is never cancelled: it
is the same run, or it is over at that moment. -/
def IsCut (e : Setting) (n : Time) (K : Interrupt → α → Prop) (op : Op α) (w : World) (a : α)
    (w₁ : World) (t : List Mark) : Prop :=
  w₁.now < n ∧ op.Ends e (some n) w a w₁ t ∨
    n ≤ w₁.now ∧ ∃ b w₂ t', op.Ends e (some n) w b w₂ t' ∧ K .cancelled b ∧ w₂.now = n ∧
      deeds t' = (deeds t).filter (·.time < n)

/-- Steps that both runs make first. -/
theorem IsCut.after {op' : Op α} {w' : World} {p : List Mark} (h : op'.IsCut e n K w' a w₁ t)
    (hp : ∀ m ∈ p, m.time < n) (hsteps : ∀ {b w₂ t'}, op'.Ends e (some n) w' b w₂ t' →
      op.Ends e (some n) w b w₂ (p ++ t')) : op.IsCut e n K w a w₁ (p ++ t) := by
  obtain ⟨hw, h⟩ | ⟨hw, b, w₂, t', h, hb, hn, hd⟩ := h
  · exact Or.inl ⟨hw, hsteps h⟩
  · refine Or.inr ⟨hw, b, w₂, _, hsteps h, hb, hn, ?_⟩
    rw [deeds_append, deeds_append, List.filter_append, hd, List.append_cancel_right_eq, eq_comm,
      List.filter_eq_self]
    intro x hx
    obtain ⟨m, hm, hx⟩ := List.mem_filterMap.1 hx
    rw [Mark.time_deed? hx]
    exact decide_eq_true (hp m hm)

theorem IsCut.after_mark {op' : Op α} {w' : World} {m : Mark} (h : op'.IsCut e n K w' a w₁ t)
    (hm : m.time < n) (hstep : ∀ {b w₂ t'}, op'.Ends e (some n) w' b w₂ t' →
      op.Ends e (some n) w b w₂ (m :: t')) : op.IsCut e n K w a w₁ (m :: t) :=
  h.after (p := [m]) (fun _ hm' => List.mem_singleton.1 hm' ▸ hm) hstep

theorem barrier?_of_lt {deadline : Option Time} {now : Time} (hn : now < n) :
    barrier? (some n) deadline now = barrier? none deadline now := by
  have hpast : isPast (some n) now = false := decide_eq_false (Nat.not_le.2 hn)
  unfold barrier?
  rw [hpast]
  rfl

theorem settle_of_lt {now : Time} (hn : now < n) (deadline : Option Time) (finish : Time) :
    settle (some n) deadline now finish =
      if n ≤ (settle none deadline now finish).2 then (.error .cancelled, n)
      else settle none deadline now finish := by
  rw [settle_some, Nat.max_eq_right hn.le]

/-- What is begun last before the cut, and what only the other run goes on to do. -/
theorem Ends.isCut_of_quits {op' : Op α} {w' w₂ : World} {m m' : Mark}
    (hrest : op'.Ends e none w' a w₁ t) (hw' : n ≤ w'.now) (hm : m.time < n)
    (hquits : ∃ b, K .cancelled b ∧ op.Ends e (some n) w b w₂ [m']) (hw₂ : w₂.now = n)
    (hm' : m'.deed? = m.deed?) : op.IsCut e n K w a w₁ (m :: t) := by
  obtain ⟨b, hb, h⟩ := hquits
  have hlast : deeds [m'] = m.deed?.toList := by
    rw [deeds_cons, hm']
    exact List.append_nil _
  refine Or.inr ⟨hw'.trans hrest.now_le, b, w₂, _, h, hb, hw₂, ?_⟩
  rw [hlast, deeds_cons, List.filter_append, hrest.filter_deeds_of_le hw', List.append_nil, eq_comm,
    List.filter_eq_self]
  intro x hx
  rw [Mark.time_deed? (Option.mem_toList.1 hx)]
  exact decide_eq_true hm

theorem Ends.isCut (h : op.Ends e none w a w₁ t) (hop : op.Obeys D K) (hn : w.now < n) :
    op.IsCut e n K w a w₁ t := by
  -- The two runs are in step until something of the run would end at the cut or later.
  induction h with
  | done a w => exact Or.inl ⟨hn, .done a w⟩
  | act _ ih => exact (ih (hop _) hn).after_mark hn .act
  | choose _ ih => exact (ih (hop _) hn).after (fun _ hm => absurd hm List.not_mem_nil) .choose
  | clock _ ih => exact (ih (hop _) hn).after (fun _ hm => absurd hm List.not_mem_nil) .clock
  | barred hb _ ih =>
    exact (ih (hop.2.2 _) hn).after_mark hn (.barred ((barrier?_of_lt hn).trans hb))
  | @exchange _ node r next w w₁ a t hb rest ih =>
    have hfree : barrier? (some n) r.deadline w.now = none := (barrier?_of_lt hn).trans hb
    have hsettled : w.settled e (some n) node r =
        if n ≤ (w.settled e none node r).2 then (.error .cancelled, n)
        else w.settled e none node r := settle_of_lt hn _ _
    by_cases hcut : n ≤ (w.settled e none node r).2
    · rw [if_pos hcut] at hsettled
      have hanswer : w.answer e (some n) node r = .error .cancelled := by
        rw [World.answer, hsettled]
        rfl
      have hnow : (w.after e (some n) node r).now = n := by rw [World.after, hsettled]
      obtain ⟨b, hb, hends⟩ := (hop.2.1 .cancelled).ends (e := e) (w.after e (some n) node r)
      refine rest.isCut_of_quits hcut hn ⟨b, hb, .exchange hfree ?_⟩ hnow rfl
      rwa [hanswer]
    · rw [if_neg hcut] at hsettled
      have hanswer : w.answer e (some n) node r = w.answer e none node r := by
        rw [World.answer, hsettled, World.answer]
      have hafter : w.after e (some n) node r = w.after e none node r := by
        rw [World.after, hsettled, World.after]
      refine (ih (hop.2.2 _) (Nat.not_le.1 hcut)).after_mark hn fun {b w₂ t'} hrest => ?_
      rw [← hanswer, ← hafter] at hrest ⊢
      exact .exchange hfree hrest
  | @pause _ deadline delay next w w₁ a t result ended hs rest ih =>
    have hsettled := settle_of_lt hn deadline (w.now + delay)
    rw [hs] at hsettled
    by_cases hcut : n ≤ ended
    · rw [if_pos hcut] at hsettled
      obtain ⟨b, hb, hends⟩ := (hop.2.1 .cancelled).ends (e := e) { w with now := n }
      exact rest.isCut_of_quits hcut hn ⟨b, hb, .pause hsettled hends⟩ rfl rfl
    · rw [if_neg hcut] at hsettled
      exact (ih (hop.2.2 _) (Nat.not_le.1 hcut)).after_mark hn (.pause hsettled)
  | @acquire _ next w w₁ a t rest ih =>
    have hpast : isPast (some n) w.now = false := decide_eq_false (Nat.not_le.2 hn)
    refine (ih (hop.2 _) hn).after (fun _ hm => absurd hm List.not_mem_nil) fun hrest => ?_
    refine .acquire ?_
    rw [hpast]
    exact hrest
  | release _ ih => exact (ih hop hn).after (fun _ hm => absurd hm List.not_mem_nil) .release
  | @failover _ f next w w₁ w₂ result a t t' first rest ihfirst ihrest =>
    obtain ⟨hw, hfirst⟩ | ⟨hw, b, w₃, t₃, hfirst, hb, hn₃, hd⟩ :=
      ihfirst (Client.obeys_failoverStep hop.1) hn
    · have hp : ∀ m ∈ t, m.time < n := fun m hm => (first.time_mem m hm).2.trans_lt hw
      exact (ihrest (hop.2.2 _) hw).after hp (.failover hfirst)
    -- The cut falls into the failover, so nothing that comes after it happens before the cut.
    · obtain ⟨outcome, contacted⟩ := b
      cases hb
      obtain ⟨b, hb, hends⟩ := (hop.2.1 .cancelled contacted).ends (e := e) w₃
      refine Or.inr ⟨hw.trans rest.now_le, b, w₃, _, .failover hfirst hends, hb, hn₃, ?_⟩
      rw [deeds_append, deeds_append, List.filter_append, rest.filter_deeds_of_le hw, hd]
      rfl

/-! ### A cancellation that has come -/

/-- A run that is cancelled when it begins is over at its first wait. -/
theorem Ends.cut_at_once (h : op.Ends e (some n) w a w₁ t) (hn : n ≤ w.now) (hop : op.Obeys D K)
    (hw : op.Awaits w.state.hook w.now P) :
    (K .cancelled a ∨ P a) ∧ w₁.now = w.now ∧ deeds t = [] := by
  have past {w : World} (hn : n ≤ w.now) : isPast (some n) w.now = true := decide_eq_true hn
  induction h with
  | done a w => exact ⟨Or.inr hw, rfl, rfl⟩
  | @act _ f next w w₁ a t _ ih =>
    obtain ⟨hfacts, hhook, hnext⟩ := hw w.state rfl
    obtain ⟨ha, hnow, hd⟩ := ih hn (hop _) (hhook.symm ▸ hnext)
    refine ⟨ha, hnow, ?_⟩
    rw [deeds_cons, hd, Mark.deed?, if_pos hfacts.symm]
    rfl
  | choose _ ih => exact ih hn (hop _) (hw _)
  | clock _ ih => exact ih hn (hop _) hw
  | @barred _ node r next w w₁ a t i hb rest _ =>
    rw [barrier?, if_pos (past hn)] at hb
    cases hb
    obtain ⟨ha, rfl, rfl⟩ := (hop.2.1 .cancelled).of_ends rest
    exact ⟨Or.inl ha, rfl, rfl⟩
  | exchange hfree _ _ =>
    rw [barrier?, if_pos (past hn)] at hfree
    cases hfree
  | @pause _ deadline delay next w w₁ a t result ended hs rest _ =>
    rw [settle_some, Nat.max_eq_left hn, if_pos (le_settle (Nat.le_add_right _ _))] at hs
    cases hs
    obtain ⟨ha, rfl, rfl⟩ := (hop.2.1 .cancelled).of_ends rest
    exact ⟨Or.inl ha, rfl, rfl⟩
  | acquire rest _ =>
    rw [if_pos (past hn)] at rest
    obtain ⟨ha, rfl, rfl⟩ := (hop.1 .cancelled).of_ends rest
    exact ⟨Or.inl ha, rfl, rfl⟩
  | release _ ih => exact ih hn hop hw
  | @failover _ f next w w₁ w₂ result a t t' first rest ihfirst _ =>
    obtain ⟨hresult, hnow, hd⟩ :=
      ihfirst hn (Client.obeys_failoverStep hop.1) (Client.awaits_failoverStep f)
    obtain ⟨outcome, contacted⟩ := result
    obtain hcut | hnever := hresult
    · cases hcut
      obtain ⟨ha, rfl, rfl⟩ := (hop.2.1 .cancelled contacted).of_ends rest
      refine ⟨Or.inl ha, hnow, ?_⟩
      rw [List.append_nil, hd]
    · exact hnever.elim

end Op

/-! ### Calls -/

namespace Call

/-- Calls that take a token by which they can be cancelled. The start of a client, which adds its
seeds first, is left out. -/
def IsCancellable : Call → Prop
  | .discover => True
  | .checkNodes => True
  | .topology => True
  | .locate _ _ => True
  | .preferredNode _ _ => True
  | .request _ => True
  | .nodeRequest _ _ => True
  | .metricRequest _ _ _ => True
  | .isHealthy _ => True
  | .fetchState _ => True
  | .fetchGossip _ => True
  | .fetchDocument _ _ => True
  | _ => False

theorem obeys (c : Config) {k : Call} (hk : k.IsCancellable) :
    ∃ K, (k.op c).Obeys Client.AnyTime K := by
  cases k with
  | discover => exact ⟨_, Client.obeys_discover⟩
  | checkNodes => exact ⟨_, Client.obeys_checkNodes⟩
  | topology => exact ⟨_, Client.obeys_topology⟩
  | locate owner metric => exact ⟨_, Client.obeys_locate owner metric⟩
  | preferredNode owner metric => exact ⟨_, Client.obeys_preferredNode owner metric⟩
  | request r => exact ⟨_, Client.obeys_request r⟩
  | nodeRequest node r => exact ⟨_, Client.obeys_nodeRequest node r⟩
  | metricRequest owner metric r => exact ⟨_, Client.obeys_metricRequest owner metric r⟩
  | isHealthy node => exact ⟨_, Client.obeys_isHealthy node⟩
  | fetchState node => exact ⟨_, Client.obeys_fetchState node⟩
  | fetchGossip node => exact ⟨_, Client.obeys_fetchGossip node⟩
  | fetchDocument node hash => exact ⟨_, Client.obeys_fetchDocument node hash⟩
  | _ => exact hk.elim

theorem awaits (c : Config) {k : Call} (hk : k.IsCancellable) {hook : Option RequestHook}
    {now : Time} (h : k ≠ .checkNodes ∨ ∀ r ∈ Client.healthRequests, Client.LetsOut c hook now r) :
    ∃ P, (k.op c).Awaits hook now P := by
  cases k with
  | discover => exact ⟨_, Client.awaits_discover⟩
  | checkNodes => exact ⟨_, Client.awaits_checkNodes (h.resolve_left fun hne => hne rfl)⟩
  | topology => exact ⟨_, Client.awaits_topology⟩
  | locate owner metric => exact ⟨_, Client.awaits_locate owner metric⟩
  | preferredNode owner metric => exact ⟨_, Client.awaits_preferredNode owner metric⟩
  | request r => exact ⟨_, Client.awaits_request r⟩
  | nodeRequest node r => exact ⟨_, Client.awaits_nodeRequest node r⟩
  | metricRequest owner metric r => exact ⟨_, Client.awaits_metricRequest owner metric r⟩
  | isHealthy node => exact ⟨_, Client.awaits_isHealthy node⟩
  | fetchState node => exact ⟨_, Client.awaits_fetchState node⟩
  | fetchGossip node => exact ⟨_, Client.awaits_fetchGossip node⟩
  | fetchDocument node hash => exact ⟨_, Client.awaits_fetchDocument node hash⟩
  | _ => exact hk.elim

/-- A call that is cancelled at a moment does exactly what the call that is never cancelled does
before that moment, and is over by then. A health round that is cancelled when it begins does so
if the request hook lets the requests out by which it judges the nodes. -/
theorem cancellation_cuts (e : Setting) {k : Call} (hk : k.IsCancellable) (w : World) (n : Time)
    (h : w.now < n ∨ k ≠ .checkNodes ∨
      ∀ r ∈ Client.healthRequests, Client.LetsOut e.config w.state.hook w.now r) :
    ∃ a w₁ t b w₂ t', (k.op e.config).Ends e none w a w₁ t ∧
      (k.op e.config).Ends e (some n) w b w₂ t' ∧
      deeds t' = (deeds t).filter (·.time < n) ∧ w₂.now ≤ max w.now n ∧
      (w₁.now < n → b = a ∧ w₂ = w₁) := by
  obtain ⟨K, hobeys⟩ := obeys e.config hk
  obtain ⟨a, w₁, t, hends⟩ := Op.halts e none (k.op e.config) w
  by_cases hn : w.now < n
  · obtain ⟨hw, hsame⟩ | ⟨hw, b, w₂, t', hcut, -, hnow, hd⟩ := hends.isCut hobeys hn
    · exact ⟨a, w₁, t, a, w₁, t, hends, hsame, (hends.filter_deeds_of_lt hw).symm,
        hw.le.trans (le_max_right _ _), fun _ => ⟨rfl, rfl⟩⟩
    · exact ⟨a, w₁, t, b, w₂, t', hends, hcut, hd, hnow.le.trans (le_max_right _ _),
        fun hlt => absurd hw hlt.not_ge⟩
  · have hn : n ≤ w.now := Nat.le_of_not_lt hn
    obtain ⟨P, hawaits⟩ := awaits e.config hk (h.resolve_left hn.not_gt)
    obtain ⟨b, w₂, t', hcut⟩ := Op.halts e (some n) (k.op e.config) w
    obtain ⟨-, hnow, hd⟩ := hcut.cut_at_once hn hobeys hawaits
    refine ⟨a, w₁, t, b, w₂, t', hends, hcut, ?_, hnow.le.trans (le_max_left _ _), fun hlt => ?_⟩
    · rw [hd, hends.filter_deeds_of_le hn]
    · exact absurd (hn.trans hends.now_le) hlt.not_ge

def slowNode : Setting where
  config := {}
  transport _ _ := { delay := 10, outcome := .error (.timeout "a") }
  pick _ := 0

def slowNodeStart : World where
  state := { nodes := [{ id := "a", address := "a" }], pool := { active := [0] } }

/-- Only the round that is not cancelled finds out about the node. -/
theorem cancellation_cuts_slowNode :
    Call.checkNodes.IsCancellable ∧ slowNodeStart.now < 5 ∧
      ∃ w₁ t w₂ t', (Client.checkNodes slowNode.config).Ends slowNode none slowNodeStart () w₁ t ∧
        (Client.checkNodes slowNode.config).Ends slowNode (some 5) slowNodeStart () w₂ t' ∧
        deeds t' = (deeds t).filter (·.time < 5) ∧ w₂.now ≤ 5 ∧
        w₁.state.pool.active = [] ∧ w₂.state.pool.active = [0] := by
  refine ⟨trivial, by decide, ?_⟩
  obtain ⟨_, w₁, t, _, w₂, t', hfull, hcut, hd, hnow, -⟩ :=
    cancellation_cuts slowNode (k := .checkNodes) trivial slowNodeStart 5 (Or.inl (by decide))
  refine ⟨w₁, t, w₂, t', hfull, hcut, hd, hnow, ?_, ?_⟩
  · exact hfull.of_run 1 (fun x => x.2.state.pool.active) (by decide +kernel)
  · exact hcut.of_run 1 (fun x => x.2.state.pool.active) (by decide +kernel)

def vetoedStart : World where
  state :=
    { nodes := [{ id := "a", address := "a" }], pool := { active := [0] }
      hook := some (RequestHook.onPaths "/gossip" (RequestHook.veto "no gossip"))
      watching := true }

/-- A health round that is cancelled from the start demotes the node nevertheless. -/
theorem checkNodes_not_cut :
    ∃ w₁ t w₂ t', (Client.checkNodes slowNode.config).Ends slowNode none vetoedStart () w₁ t ∧
      (Client.checkNodes slowNode.config).Ends slowNode (some 0) vetoedStart () w₂ t' ∧
      deeds t' ≠ (deeds t).filter (·.time < 0) ∧
      vetoedStart.state.pool.active = [0] ∧ w₂.state.pool.active = [] := by
  obtain ⟨_, w₁, t, hfull⟩ := Op.halts slowNode none (Client.checkNodes slowNode.config) vetoedStart
  obtain ⟨_, w₂, t', hcut⟩ :=
    Op.halts slowNode (some 0) (Client.checkNodes slowNode.config) vetoedStart
  have hactive : w₂.state.pool.active = [] :=
    hcut.of_run 1 (fun x => x.2.state.pool.active) (by decide +kernel)
  refine ⟨w₁, t, w₂, t', hfull, hcut, fun hd => ?_, rfl, hactive⟩
  have hnothing := hd.trans (hfull.filter_deeds_of_le (Nat.zero_le _))
  have hsame := congrArg (·.pool.active) (hcut.facts_eq hnothing)
  cases hactive.symm.trans hsame

end Call
end MetricRing
