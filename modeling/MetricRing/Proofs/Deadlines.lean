import MetricRing.Proofs.DirectRuns
import MetricRing.Proofs.RunExchanges

/-!
# Calls with a deadline

Whatever a request waits for, it waits for under the request's own deadline, and it obeys. So
nothing of it happens after the deadline, and if it is cut short, that is the last thing to happen
and the result says by what: by the cancellation if it has come at the moment of the deadline, and
by the deadline otherwise.
-/

namespace MetricRing

variable {α : Type} {e : Setting} {cancel : Option Time} {start d : Time}

/-- What cuts a wait short that would otherwise last until its deadline. -/
def reason (cancel : Option Time) (deadline : Time) : Interrupt :=
  if isPast cancel deadline then .cancelled else .deadline

/-! ### Moments -/

theorem isPast_mono {now later : Time} (h : now ≤ later) (hp : isPast cancel now = true) :
    isPast cancel later = true := by
  cases cancel with
  | none => cases hp
  | some n => exact decide_eq_true ((of_decide_eq_true hp).trans h)

theorem barrier?_eq_some {now : Time} {i : Interrupt} (h : barrier? cancel (some d) now = some i) :
    i = reason cancel (max now d) := by
  unfold barrier? at h
  unfold reason
  split_ifs at h with hcancel hdeadline
  · cases h
    rw [if_pos (isPast_mono (le_max_left now d) hcancel)]
  · cases h
    rw [Nat.max_eq_left (of_decide_eq_true hdeadline), if_neg hcancel]

theorem barrier?_eq_none {now : Time} (h : barrier? cancel (some d) now = none) : now < d := by
  unfold barrier? at h
  split_ifs at h with hcancel hdeadline
  exact Nat.lt_of_not_le fun hle => hdeadline (decide_eq_true hle)

theorem settle_uncancelled {now finish ended : Time} {result : Except Interrupt Unit}
    (h : settle none (some d) now finish = (result, ended)) (hf : now ≤ finish) :
    ended ≤ max now d ∧ (result = .ok () → ended < d) ∧
      ∀ i, result = .error i → i = .deadline ∧ ended = max now d := by
  rw [settle_none_some] at h
  split_ifs at h with hd
  · cases h
    exact ⟨le_rfl, fun hok => (nomatch hok), fun i hi => ⟨(Except.error.inj hi).symm, rfl⟩⟩
  · cases h
    have hlt : finish < max now d := Nat.lt_of_not_le hd
    exact ⟨hlt.le, fun _ => (lt_max_iff.1 hlt).resolve_left hf.not_gt, fun i hi => nomatch hi⟩

/-- What waits under a deadline is over by then, and comes to its end only before. -/
theorem settle_deadline {now finish ended : Time} {result : Except Interrupt Unit}
    (h : settle cancel (some d) now finish = (result, ended)) (hf : now ≤ finish) :
    ended ≤ max now d ∧ (result = .ok () → ended < d) ∧
      ∀ i, result = .error i → i = reason cancel (max now d) := by
  cases cancel with
  | none =>
    obtain ⟨hend, hok, herror⟩ := settle_uncancelled h hf
    exact ⟨hend, hok, fun i hi => (herror i hi).1⟩
  | some n =>
    generalize hu : settle none (some d) now finish = u
    obtain ⟨hend, hok, herror⟩ := settle_uncancelled hu hf
    rw [settle_some, hu] at h
    split_ifs at h with hn
    · cases h
      have hpast : isPast (some n) (max now d) = true :=
        decide_eq_true (((le_max_right now n).trans hn).trans hend)
      refine ⟨hn.trans hend, fun hok => (nomatch hok), fun i hi => ?_⟩
      rw [reason, if_pos hpast]
      exact (Except.error.inj hi).symm
    · cases h
      refine ⟨hend, hok, fun i hi => ?_⟩
      obtain ⟨rfl, hlast⟩ := herror i hi
      rw [reason, if_neg]
      intro hpast
      exact hn (hlast ▸ max_le (le_max_left now d) (of_decide_eq_true hpast))

/-- While the deadline is met the moment at which all is over stays the same. -/
theorem max_eq_max {now : Time} (hstart : start ≤ now) (hnow : now ≤ max start d) :
    max now d = max start d :=
  le_antisymm (max_le hnow (le_max_right start d)) (max_le_max_right d hstart)

theorem World.after_deadline (e : Setting) (node : NodeRef) {r : Request} {w : World}
    (hr : r.deadline = some d) (hw : w.now < d) :
    (w.after e cancel node r).now ≤ d ∧
      (∀ answer, w.answer e cancel node r = .ok answer → (w.after e cancel node r).now < d) ∧
      ∀ i, w.answer e cancel node r = .error i → i = reason cancel d := by
  unfold after answer settled
  rw [hr]
  generalize hs : settle cancel (some d) w.now _ = s
  obtain ⟨hend, hok, herror⟩ := settle_deadline hs (Nat.le_add_right _ _)
  rw [max_eq_right hw.le] at hend herror
  refine ⟨hend, fun answer hanswer => hok ?_, fun i hi => herror i ?_⟩
  · cases hresult : s.1 with
    | ok _ => rfl
    | error i =>
      rw [hresult] at hanswer
      cases hanswer
  · cases hresult : s.1 with
    | ok _ =>
      rw [hresult] at hi
      cases hi
    | error j =>
      rw [hresult] at hi
      cases hi
      rfl

/-! ### Runs -/

def Mark.Meets (start d : Time) : Mark → Prop
  | .exchange _ x result ended =>
    x.time < d ∧ ended ≤ d ∧ ∀ answer, result = .ok answer → ended < d
  | .pause _ result ended => ended ≤ max start d ∧ (result = .ok () → ended < d)
  | _ => True

def StopsAt (Q : Interrupt → Prop) : List Mark → Prop
  | [] => True
  | m :: t => (∀ i, m.interrupt? = some i → t = [] ∧ Q i) ∧ StopsAt Q t

theorem StopsAt.append {Q Q' : Interrupt → Prop} {t t' : List Mark} (h : StopsAt Q t)
    (hQ : ∀ i, Q i → t' = [] ∧ Q' i) (h' : StopsAt Q' t') : StopsAt Q' (t ++ t') := by
  induction t with
  | nil => exact h'
  | cons m t ih =>
    refine ⟨fun i hi => ?_, ih h.2⟩
    obtain ⟨rfl, hi⟩ := h.1 i hi
    exact hQ i hi

theorem StopsAt.of_mem {Q : Interrupt → Prop} {t : List Mark} (h : StopsAt Q t) {m : Mark}
    (hm : m ∈ t) {i : Interrupt} (hi : m.interrupt? = some i) : t.getLast? = some m ∧ Q i := by
  induction t with
  | nil => exact absurd hm List.not_mem_nil
  | cons m' t ih =>
    rcases List.mem_cons.1 hm with rfl | hm
    · obtain ⟨rfl, hq⟩ := h.1 i hi
      exact ⟨rfl, hq⟩
    · obtain ⟨hlast, hq⟩ := ih h.2 hm
      refine ⟨?_, hq⟩
      rw [List.getLast?_cons, hlast]
      rfl

/-- What happened in a call that began at `start` and was over at `ended` met the deadline. -/
structure InTime (cancel : Option Time) (start d : Time) (K : Interrupt → Prop) (ended : Time)
    (t : List Mark) : Prop where
  ends : ended ≤ max start d
  meets : ∀ m ∈ t, m.Meets start d
  stops : StopsAt (fun i => i = reason cancel (max start d) ∧ K i) t

namespace Op

variable {op : Op α} {w w₁ : World} {a : α} {t : List Mark} {K : Interrupt → α → Prop}

/-- An operation that obeys under one deadline meets it. -/
theorem Ends.inTime (h : op.Ends e cancel w a w₁ t) (hop : op.Obeys (· = some d) K)
    (hstart : start ≤ w.now) (hnow : w.now ≤ max start d) :
    InTime cancel start d (K · a) w₁.now t := by
  -- The bound is the later one of the start and the deadline, and time passes only up to there;
  -- whatever is cut short comes last, since the operation then quits.
  induction h with
  | done a w => exact ⟨hnow, fun m hm => absurd hm List.not_mem_nil, trivial⟩
  | act _ ih =>
    obtain ⟨hend, hmeets, hstops⟩ := ih (hop _) hstart hnow
    exact ⟨hend, List.forall_mem_cons.2 ⟨trivial, hmeets⟩, fun i hi => (nomatch hi), hstops⟩
  | choose _ ih => exact ih (hop _) hstart hnow
  | clock _ ih => exact ih (hop _) hstart hnow
  | @barred _ node r next w w₁ a t i hb rest ih =>
    rw [hop.1] at hb
    have hi := barrier?_eq_some hb
    rw [max_eq_max hstart hnow] at hi
    obtain ⟨ha, rfl, rfl⟩ := (hop.2.1 i).of_ends rest
    refine ⟨hnow, List.forall_mem_singleton.2 trivial, fun j hj => ?_, trivial⟩
    cases hj
    exact ⟨rfl, hi, ha⟩
  | @exchange _ node r next w w₁ a t hb rest ih =>
    have hw : w.now < d := by
      rw [hop.1] at hb
      exact barrier?_eq_none hb
    obtain ⟨hend, hok, herror⟩ := World.after_deadline e node hop.1 hw
    have hlater : start ≤ (w.after e cancel node r).now := hstart.trans World.now_le_after
    obtain ⟨hend', hmeets, hstops⟩ := ih (hop.2.2 _) hlater (hend.trans (le_max_right _ _))
    refine ⟨hend', List.forall_mem_cons.2 ⟨⟨hw, hend, hok⟩, hmeets⟩, fun i hi => ?_, hstops⟩
    have hanswer : w.answer e cancel node r = .error i := by
      cases hx : w.answer e cancel node r with
      | ok answer =>
        rw [hx] at hi
        cases hi
      | error j =>
        rw [hx] at hi
        cases hi
        rfl
    rw [hanswer] at rest
    obtain ⟨ha, -, rfl⟩ := (hop.2.1 i).of_ends rest
    rw [max_eq_right (hstart.trans hw.le)]
    exact ⟨rfl, herror i hanswer, ha⟩
  | @pause _ deadline delay next w w₁ a t result ended hs rest ih =>
    have hlater : start ≤ ended := hstart.trans (le_of_settle hs)
    rw [hop.1] at hs
    obtain ⟨hend, hok, herror⟩ := settle_deadline hs (Nat.le_add_right w.now delay)
    rw [max_eq_max hstart hnow] at hend herror
    obtain ⟨hend', hmeets, hstops⟩ := ih (hop.2.2 _) hlater hend
    refine ⟨hend', List.forall_mem_cons.2 ⟨⟨hend, hok⟩, hmeets⟩, fun i hi => ?_, hstops⟩
    cases result with
    | ok _ => cases hi
    | error j =>
      cases hi
      obtain ⟨ha, -, rfl⟩ := (hop.2.1 i).of_ends rest
      exact ⟨rfl, herror i rfl, ha⟩
  | @acquire _ next w w₁ a t rest ih => exact ih (hop.2 _) hstart hnow
  | release _ ih => exact ih hop hstart hnow
  | @failover _ f next w w₁ w₂ result a t t' first rest ihfirst ihrest =>
    obtain ⟨hend, hmeets, hstops⟩ := ihfirst (Client.obeys_failoverStep hop.1) hstart hnow
    obtain ⟨hend', hmeets', hstops'⟩ := ihrest (hop.2.2 _) (hstart.trans first.now_le) hend
    refine ⟨hend', fun m hm => ?_, hstops.append ?_ hstops'⟩
    · exact (List.mem_append.1 hm).elim (hmeets m) (hmeets' m)
    · rintro i ⟨hi, hcut⟩
      obtain ⟨outcome, contacted⟩ := result
      cases hcut
      obtain ⟨ha, -, rfl⟩ := (hop.2.1 i contacted).of_ends rest
      exact ⟨rfl, hi, ha⟩

end Op

/-! ### Requests -/

namespace Client

variable {r : Request} {w w₁ : World} {out : Outcome} {t : List Mark}

/-- The request is let out with this deadline, if it is let out at all. -/
def Carries (c : Config) (w : World) (r : Request) (d : Time) : Prop :=
  ∀ sent, prepared c w.state.hook w.now r = .ok sent → sent.deadline = some d

def KeepsDeadlines (hook : Option RequestHook) : Prop :=
  ∀ f ∈ hook, ∀ r sent, f r = .ok sent → sent.deadline = r.deadline

theorem keepsDeadlines_none : KeepsDeadlines none := fun _ hf => nomatch hf

theorem deadline_withHint (c : Config) (r : Request) (now : Time) :
    (withHint c r now).deadline = r.deadline := by
  unfold withHint
  split_ifs <;> rfl

theorem KeepsDeadlines.deadline_eq {c : Config} {hook : Option RequestHook} {now : Time}
    {sent : Request} (hk : KeepsDeadlines hook) (hsent : prepared c hook now r = .ok sent) :
    sent.deadline = r.deadline := by
  cases hook with
  | none =>
    cases hsent
    exact deadline_withHint c r now
  | some f =>
    dsimp only [prepared] at hsent
    split at hsent
    next sent' hf =>
      cases hsent
      exact (hk f rfl _ _ hf).trans (deadline_withHint c r now)
    next => cases hsent

theorem KeepsDeadlines.carries {c : Config} (hk : KeepsDeadlines w.state.hook)
    (hr : r.deadline = some d) : Carries c w r d := fun _ hsent => (hk.deadline_eq hsent).trans hr

theorem prepare_ends {result : Except Failure Request}
    (h : (prepare e.config r).Ends e cancel w result w₁ t) :
    result = prepared e.config w.state.hook w.now r ∧ w₁ = w ∧
      t = [.change w.now w.state w.state] := by
  rw [prepare_eq] at h
  cases h with
  | clock h =>
    cases h with
    | act h =>
      obtain ⟨hresult, hw, rfl⟩ := h.of_done
      exact ⟨hresult, hw, rfl⟩

/-- A request that is prepared first meets the deadline that it carries then. -/
theorem inTime_of_prepared {f : Request → Op Outcome} (hr : Carries e.config w r d)
    (hf : ∀ sent, sent.deadline = some d → (f sent).Obeys (· = some d) CutBy)
    (h : (prepare e.config r >>= fun
      | .error failure => return .error failure
      | .ok sent => f sent).Ends e cancel w out w₁ t) :
    InTime cancel w.now d (CutBy · out) w₁.now t := by
  obtain ⟨result, w', t₁, t₂, hprepare, hrest, rfl⟩ := h.of_bind
  obtain ⟨hresult, rfl, rfl⟩ := prepare_ends hprepare
  have hrest : InTime cancel w'.now d (CutBy · out) w₁.now t₂ := by
    cases result with
    | error failure =>
      obtain ⟨-, rfl, rfl⟩ := hrest.of_done
      exact ⟨le_max_left _ _, fun m hm => absurd hm List.not_mem_nil, trivial⟩
    | ok sent => exact hrest.inTime (hf sent (hr sent hresult.symm)) le_rfl (le_max_left _ _)
  exact ⟨hrest.ends, List.forall_mem_cons.2 ⟨trivial, hrest.meets⟩, fun i hi => (nomatch hi),
    hrest.stops⟩

theorem request_inTime (hr : Carries e.config w r d)
    (h : (request e.config r).Ends e cancel w out w₁ t) :
    InTime cancel w.now d (CutBy · out) w₁.now t :=
  inTime_of_prepared (f := sendPrepared e.config) hr (fun _ hsent => obeys_sendPrepared hsent) h

theorem nodeRequest_inTime {node : NodeRef} (hr : Carries e.config w r d)
    (h : (nodeRequest e.config node r).Ends e cancel w out w₁ t) :
    InTime cancel w.now d (CutBy · out) w₁.now t :=
  inTime_of_prepared (f := sendOnce e.config node) hr (fun _ hsent => obeys_sendOnce node hsent) h

/-- A request, to the cluster or to one node, that has a deadline as it goes out, after the hook: no
exchange begins at the deadline or after, and none is answered then; pauses and exchanges under way
are given up at the deadline, and the call returns by then, or at once if the deadline has passed.
A success was answered before the deadline. If anything was cut short, nothing came after it, and
the failure is the cancellation if the call had been cancelled by then, and the deadline
otherwise. -/
theorem requests_meet_deadlines (e : Setting) (cancel : Option Time) {op : Op Outcome}
    (hop : op = request e.config r ∨ ∃ node, op = nodeRequest e.config node r) (w : World)
    (hr : Carries e.config w r d) :
    ∃ out w₁ t, op.Ends e cancel w out w₁ t ∧ w₁.now ≤ max w.now d ∧
      (∀ node x result ended, .exchange node x result ended ∈ t →
        x.time < d ∧ ended ≤ d ∧ ∀ answer, result = .ok answer → ended < d) ∧
      (∀ began result ended, .pause began result ended ∈ t →
        ended ≤ max w.now d ∧ (result = .ok () → ended < d)) ∧
      (∀ response, out = .ok response → response.isSuccess = true ∧
        ∃ node x ended, .exchange node x (.ok (.ok response)) ended ∈ t ∧ ended < d) ∧
      ∀ m ∈ t, ∀ i, m.interrupt? = some i → t.getLast? = some m ∧
        i = (if isPast cancel (max w.now d) then .cancelled else .deadline) ∧
        out = .error i.failure := by
  obtain ⟨out, w₁, t, h⟩ := Op.halts e cancel op w
  obtain ⟨hend, hmeets, hstops⟩ : InTime cancel w.now d (CutBy · out) w₁.now t := by
    obtain rfl | ⟨node, rfl⟩ := hop
    · exact request_inTime hr h
    · exact nodeRequest_inTime hr h
  refine ⟨out, w₁, t, h, hend, fun node x result ended hm => hmeets _ hm,
    fun began result ended hm => hmeets _ hm, fun response hout => ?_, fun m hm i hi => ?_⟩
  · subst hout
    obtain ⟨hsuccess, node, x, ended, hm⟩ : response.isSuccess = true ∧ Answered t response := by
      obtain rfl | ⟨node, rfl⟩ := hop
      · exact request_answered h
      · exact nodeRequest_answered h
    obtain ⟨-, -, hbefore⟩ := hmeets _ hm
    exact ⟨hsuccess, node, x, ended, hm, hbefore _ rfl⟩
  · exact hstops.of_mem hm hi

def busyNode : Setting where
  config := { retries := 3 }
  transport _ _ := { delay := 20, outcome := .ok { status := 503, node := "a" } }
  pick _ := 0

def busyNodeStart : World where
  state := { nodes := [{ id := "a", address := "a" }], pool := { active := [0] } }

/-- The pause before the second attempt is given up, and no exchange follows it. -/
theorem deadline_met_in_busyNode :
    Carries busyNode.config busyNodeStart { path := "/", deadline := some 60 } 60 ∧
      ∃ w₁ t, (request busyNode.config { path := "/", deadline := some 60 }).Ends busyNode none
          busyNodeStart (.error .deadlineExceeded) w₁ t ∧ w₁.now ≤ 60 ∧
        ∀ node x result ended, .exchange node x result ended ∈ t → x.time < 60 := by
  have hr : Carries busyNode.config busyNodeStart { path := "/", deadline := some 60 } 60 :=
    keepsDeadlines_none.carries rfl
  obtain ⟨out, w₁, t, h, hnow, hexchanges, -⟩ :=
    requests_meet_deadlines busyNode none (Or.inl rfl) busyNodeStart hr
  have hout := h.of_run 1 (fun x => match x.1 with
    | .ok _ => false
    | .error .deadlineExceeded => true
    | .error _ => false) (b := true) (by decide +kernel)
  dsimp only at hout
  split at hout
  next => cases hout
  next => exact ⟨hr, w₁, t, h, hnow, fun node x result ended hm => (hexchanges _ _ _ _ hm).1⟩
  next => cases hout

end Client

end MetricRing
