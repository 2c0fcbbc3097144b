import MetricRing.Proofs.Deadlines

/-!
# Requests that concern a metric

Such a call looks for an owner of the metric first, and may load a topology for it, and then makes
a request of its own. Only the request keeps the deadline: the call keeps it if the search does.
-/

namespace MetricRing

variable {e : Setting} {cancel : Option Time} {d : Time}

namespace Client

variable {owner metric : String} {r : Request} {w w₁ : World} {out : Outcome} {t : List Mark}

/-- The request that a call goes on with once it has looked for an owner of the metric. -/
def addressed (c : Config) (owner metric : String) (r : Request) :
    Op (Except Failure Request) := do
  if r.preferred.isSome then return .ok r
  else match ← preferredNode c owner metric with
    | .ok node => return .ok { r with preferred := node }
    | .error f => if f.isCancellation then return .error f else return .ok r

theorem metricRequest_eq (c : Config) (owner metric : String) (r : Request) :
    metricRequest c owner metric r = addressed c owner metric r >>= fun
      | .error f => return .error f
      | .ok r => request c r := by
  unfold metricRequest addressed
  split_ifs
  · rfl
  · change _ = (Op.bind _ _).bind _
    rw [Op.bind_assoc]
    refine congrArg (Op.bind _) (funext fun node => ?_)
    cases node with
    | ok node => rfl
    | error f =>
      dsimp only
      split_ifs <;> rfl

theorem acts_addressed (c : Config) (owner metric : String) (r : Request) :
    (addressed c owner metric r).Acts State.Steady := by
  unfold addressed
  split_ifs
  · trivial
  · apply (acts_preferredNode c owner metric).bind
    intro node
    cases node with
    | ok node => trivial
    | error f =>
      dsimp only
      split_ifs <;> trivial

theorem addressed_deadline {sent : Request}
    (h : (addressed e.config owner metric r).Ends e cancel w (.ok sent) w₁ t) :
    sent.deadline = r.deadline := by
  unfold addressed at h
  split_ifs at h
  · obtain ⟨hsent, -, -⟩ := h.of_done
    cases hsent
    rfl
  · obtain ⟨node, w₂, t₁, t₂, -, hrest, -⟩ := h.of_bind
    cases node with
    | ok node =>
      obtain ⟨hsent, -, -⟩ := hrest.of_done
      cases hsent
      rfl
    | error f =>
      dsimp only at hrest
      split_ifs at hrest
      · cases hrest.of_done.1
      · obtain ⟨hsent, -, -⟩ := hrest.of_done
        cases hsent
        rfl

theorem isQuiet_activeNode (ids : List String) : (activeNode ids).IsQuiet := by
  unfold activeNode
  apply (Op.isQuiet_read _).bind
  rintro ⟨preferred, active⟩
  cases preferred with
  | some r => trivial
  | none => exact isQuiet_oneOf active

/-- With a ring at hand no time passes until the owner is known. -/
theorem preferredNode_ends {compiled : Compiled} (hc : w.state.compiled = some compiled)
    {result : Except Failure (Option NodeRef)}
    (h : (preferredNode e.config owner metric).Ends e cancel w result w₁ t) :
    w₁.now = w.now ∧ exchanges t = [] := by
  unfold preferredNode at h
  obtain ⟨found, w₂, t₁, t₂, htopology, hrest, rfl⟩ := h.of_bind
  unfold topology at htopology
  obtain ⟨t₀, hfound, rfl⟩ := htopology.of_read
  rw [hc] at hfound
  obtain ⟨rfl, rfl, rfl⟩ := hfound.of_done
  dsimp only at hrest
  split at hrest
  · obtain ⟨-, rfl, rfl⟩ := hrest.of_done
    exact ⟨rfl, rfl⟩
  next ids _ =>
    obtain ⟨node, w₃, t₃, t₄, hnode, hlast, rfl⟩ := hrest.of_bind
    obtain ⟨-, rfl, rfl⟩ := hlast.of_done
    rw [List.append_nil, exchanges_append]
    exact (isQuiet_activeNode ids).ends hnode

theorem addressed_ends {found : Except Failure Request}
    (hc : r.preferred.isSome ∨ w.state.compiled.isSome)
    (h : (addressed e.config owner metric r).Ends e cancel w found w₁ t) :
    w₁.now = w.now ∧ exchanges t = [] := by
  unfold addressed at h
  split_ifs at h with hp
  · obtain ⟨-, rfl, rfl⟩ := h.of_done
    exact ⟨rfl, rfl⟩
  · obtain ⟨compiled, hcompiled⟩ := Option.isSome_iff_exists.1 (hc.resolve_left hp)
    obtain ⟨node, w₂, t₁, t₂, hnode, hrest, rfl⟩ := h.of_bind
    obtain ⟨hnow, hnone⟩ := preferredNode_ends hcompiled hnode
    have hquiet : w₁ = w₂ ∧ t₂ = [] := by
      cases node with
      | ok node => exact hrest.of_done.2
      | error f =>
        dsimp only at hrest
        split_ifs at hrest
        · exact hrest.of_done.2
        · exact hrest.of_done.2
    obtain ⟨rfl, rfl⟩ := hquiet
    rw [exchanges_append, hnone]
    exact ⟨hnow, rfl⟩

/-- A request with a deadline that concerns a metric keeps the deadline if and only if the search
for an owner of the metric does, which has no deadline of its own. The search takes no time if the
request names a node or a ring is at hand. -/
theorem metricRequest_deadline_iff (e : Setting) (cancel : Option Time) (owner metric : String)
    (hr : r.deadline = some d) (hk : KeepsDeadlines w.state.hook) :
    ∃ out w₁ t₁ found w₂ t₂,
      (addressed e.config owner metric r).Ends e cancel w found w₁ t₁ ∧
      (metricRequest e.config owner metric r).Ends e cancel w out w₂ (t₁ ++ t₂) ∧
      ((w₂.now ≤ d ∧ ∀ x ∈ exchanges (t₁ ++ t₂), x.time < d) ↔
        w₁.now ≤ d ∧ ∀ x ∈ exchanges t₁, x.time < d) ∧
      (r.preferred.isSome ∨ w.state.compiled.isSome → w₁.now = w.now ∧ exchanges t₁ = []) := by
  obtain ⟨out, w₂, t, h⟩ := Op.halts e cancel (metricRequest e.config owner metric r) w
  have hsplit := h
  rw [metricRequest_eq] at hsplit
  obtain ⟨found, w₁, t₁, t₂, hfound, hrest, rfl⟩ := hsplit.of_bind
  refine ⟨out, w₁, t₁, found, w₂, t₂, hfound, h, ?_, fun hc => addressed_ends hc hfound⟩
  have hkept : w₂.now ≤ max w₁.now d ∧ ∀ x ∈ exchanges t₂, x.time < d := by
    cases found with
    | error f =>
      obtain ⟨-, rfl, rfl⟩ := hrest.of_done
      exact ⟨le_max_left _ _, fun x hx => absurd hx List.not_mem_nil⟩
    | ok sent =>
      have hdeadline : sent.deadline = some d := (addressed_deadline hfound).trans hr
      rw [← (hfound.within (acts_addressed ..)).hook] at hk
      obtain ⟨hend, hmeets, -⟩ := request_inTime (hk.carries hdeadline) hrest
      refine ⟨hend, fun x hx => ?_⟩
      obtain ⟨node, result, ended, hm⟩ := mem_exchanges.1 hx
      exact (hmeets _ hm).1
  constructor
  · rintro ⟨hend, hall⟩
    refine ⟨hrest.now_le.trans hend, fun x hx => hall x ?_⟩
    rw [exchanges_append]
    exact List.mem_append_left _ hx
  · rintro ⟨hend, hall⟩
    refine ⟨hkept.1.trans (max_le hend le_rfl), fun x hx => ?_⟩
    rw [exchanges_append] at hx
    exact (List.mem_append.1 hx).elim (hall x) (hkept.2 x)

def slowPair : Setting where
  config := {}
  transport _ x :=
    if Text.startsWith x.request.path "/topology" then
      { delay := 100, outcome := .ok { status := 503, node := x.node } }
    else { outcome := .ok { status := 200, node := x.node } }
  pick _ := 0

def slowPairStart : World where
  state :=
    { nodes := [{ id := "a", address := "a" }, { id := "b", address := "b" }]
      pool := { active := [0, 1] }, currentTopology := "t" }

/-- With a node of its own a request does not wait for a topology. -/
theorem metricRequest_deadline_in_slowPair :
    ∃ out w₁ t, (metricRequest slowPair.config "o" "m"
        { path := "/", preferred := some 0, deadline := some 50 }).Ends slowPair none slowPairStart
          out w₁ t ∧ w₁.now ≤ 50 ∧ ∀ x ∈ exchanges t, x.time < 50 := by
  obtain ⟨out, w₁, t₁, found, w₂, t₂, -, h, hiff, hsoon⟩ :=
    metricRequest_deadline_iff slowPair none "o" "m" (w := slowPairStart)
      (r := { path := "/", preferred := some 0, deadline := some 50 }) rfl keepsDeadlines_none
  obtain ⟨hnow, hnone⟩ := hsoon (Or.inl rfl)
  refine ⟨out, w₂, _, h, hiff.2 ⟨?_, ?_⟩⟩
  · rw [hnow]
    decide
  · rw [hnone]
    exact fun x hx => absurd hx List.not_mem_nil

/-- The second node is asked for the topology after the deadline. -/
theorem metricRequest_overdue :
    ∃ out w₁ t, (metricRequest slowPair.config "o" "m" { path := "/", deadline := some 50 }).Ends
        slowPair none slowPairStart out w₁ t ∧
      slowPairStart.now ≤ 50 ∧ 50 < w₁.now ∧ ∃ x ∈ exchanges t, 50 ≤ x.time := by
  obtain ⟨out, w₁, t, h⟩ := Op.halts slowPair none
    (metricRequest slowPair.config "o" "m" { path := "/", deadline := some 50 }) slowPairStart
  have hnow : w₁.now = 200 := h.of_run 1 (fun x => x.2.now) (by decide +kernel)
  have hsent : w₁.sent.map (·.time) = [100, 0] :=
    h.of_run 1 (fun x => x.2.sent.map (·.time)) (by decide +kernel)
  have hlast : 100 ∈ w₁.sent.map (·.time) := hsent ▸ by decide
  obtain ⟨x, hx, hx100⟩ := List.mem_map.1 hlast
  rw [h.sent_eq, List.mem_append, List.mem_reverse] at hx
  refine ⟨out, w₁, t, h, by decide, hnow ▸ by decide, x, ?_, hx100 ▸ by decide⟩
  exact hx.resolve_right List.not_mem_nil

end Client
end MetricRing
