import Mathlib.Order.Nat
import Mathlib.Tactic.SplitIfs
import MetricRing.Proofs.Histories
import MetricRing.Proofs.SoloRuns
import MetricRing.Run.Timed

/-!
# Runs in time and what computes them

What `run` computes is what `Op.Ends` relates, and with any fuel from some on it computes it. A run
in time is a sequence of steps, it ends no earlier than it begins, and a run of a sequence is a run
of its first part followed by one of its second part.
-/

namespace MetricRing

variable {α β : Type} {e : Setting} {cancel : Option Time}

/-! ### Moments -/

theorem settle_none_some (d now finish : Time) : settle none (some d) now finish =
    if max now d ≤ finish then (.error .deadline, max now d) else (.ok (), finish) := by
  unfold settle
  dsimp only
  split_ifs <;> rfl

/-- A cancellation comes before all else that happens at its moment. -/
theorem settle_some (n : Time) (deadline : Option Time) (now finish : Time) :
    settle (some n) deadline now finish =
      if max now n ≤ (settle none deadline now finish).2 then (.error .cancelled, max now n)
      else settle none deadline now finish := by
  unfold settle
  dsimp only
  cases deadline with
  | none => split_ifs <;> rfl
  | some d =>
    by_cases hd : max now d ≤ finish
    · simp only [if_pos hd]
      split_ifs <;> rfl
    · simp only [if_neg hd]
      split_ifs <;> rfl

theorem le_settle {deadline : Option Time} {now finish : Time} (h : now ≤ finish) :
    now ≤ (settle cancel deadline now finish).2 := by
  have uncancelled : now ≤ (settle none deadline now finish).2 := by
    cases deadline with
    | none => exact h
    | some d =>
      rw [settle_none_some]
      split_ifs
      · exact Nat.le_max_left now d
      · exact h
  cases cancel with
  | none => exact uncancelled
  | some n =>
    rw [settle_some]
    split_ifs
    · exact Nat.le_max_left now n
    · exact uncancelled

theorem le_of_settle {deadline : Option Time} {now delay ended : Time}
    {result : Except Interrupt Unit}
    (h : settle cancel deadline now (now + delay) = (result, ended)) : now ≤ ended := by
  have hle : now ≤ (settle cancel deadline now (now + delay)).2 := le_settle (Nat.le_add_right _ _)
  rwa [h] at hle

/-! ### Exchanges -/

namespace World

variable {node : NodeRef} {r : Request} {w : World}

theorem exchange_of_barrier {i : Interrupt} (h : barrier? cancel r.deadline w.now = some i) :
    w.exchange e cancel node r = (.error i, w.now, w) := by
  unfold barrier? at h
  unfold exchange
  split_ifs at h ⊢ <;> cases h <;> rfl

theorem exchange_of_free (h : barrier? cancel r.deadline w.now = none) :
    w.exchange e cancel node r = (w.answer e cancel node r, (w.settled e cancel node r).2,
      { w with sent := w.sending node r :: w.sent }) := by
  unfold barrier? at h
  unfold exchange
  split_ifs at h ⊢
  rfl

theorem now_le_after : w.now ≤ (w.after e cancel node r).now := le_settle (Nat.le_add_right _ _)

end World

/-! ### What is computed -/

theorem runWith_ends {unfold : Failover → World → Option ((Outcome × Nat) × World)}
    (hu : ∀ f w r w₁, unfold f w = some (r, w₁) →
      ∃ t, (Client.failoverStep e.config f).Ends e cancel w r w₁ t)
    {op : Op α} {w w₁ : World} {a : α} (h : runWith e cancel unfold op w = some (a, w₁)) :
    ∃ t, op.Ends e cancel w a w₁ t := by
  induction op generalizing w with
  | done b =>
    cases h
    exact ⟨[], .done _ _⟩
  | act f next ih =>
    obtain ⟨t, ht⟩ := ih _ h
    exact ⟨_, .act ht⟩
  | choose n next ih =>
    obtain ⟨t, ht⟩ := ih _ h
    exact ⟨t, .choose ht⟩
  | clock next ih =>
    obtain ⟨t, ht⟩ := ih _ h
    exact ⟨t, .clock ht⟩
  | exchange node r next ih =>
    unfold runWith at h
    cases hb : barrier? cancel r.deadline w.now with
    | some i =>
      rw [World.exchange_of_barrier hb] at h
      obtain ⟨t, ht⟩ := ih _ h
      exact ⟨_, .barred hb ht⟩
    | none =>
      rw [World.exchange_of_free hb] at h
      obtain ⟨t, ht⟩ := ih _ h
      exact ⟨_, .exchange hb ht⟩
  | pause deadline delay next ih =>
    obtain ⟨t, ht⟩ := ih _ h
    exact ⟨_, .pause rfl ht⟩
  | acquire next ih =>
    obtain ⟨t, ht⟩ := ih _ h
    exact ⟨t, .acquire ht⟩
  | release next ih =>
    obtain ⟨t, ht⟩ := ih h
    exact ⟨t, .release ht⟩
  | failover f next ih =>
    unfold runWith at h
    split at h
    next r w₂ hf =>
      obtain ⟨t, ht⟩ := hu f w r w₂ hf
      obtain ⟨t', ht'⟩ := ih _ h
      exact ⟨t ++ t', .failover ht ht'⟩
    next => cases h

theorem unfoldFailover_ends {fuel : Nat} {f : Failover} {w w₁ : World} {r : Outcome × Nat}
    (h : unfoldFailover e cancel fuel f w = some (r, w₁)) :
    ∃ t, (Client.failoverStep e.config f).Ends e cancel w r w₁ t := by
  induction fuel generalizing f w r w₁ with
  | zero => cases h
  | succ fuel ih => exact runWith_ends (fun _ _ _ _ => ih) h

theorem ends_of_run {fuel : Nat} {op : Op α} {w w₁ : World} {a : α}
    (h : run e cancel fuel op w = some (a, w₁)) : ∃ t, op.Ends e cancel w a w₁ t :=
  runWith_ends (fun _ _ _ _ => unfoldFailover_ends) h

/-- A run in time is what is computed with any fuel from some on. -/
theorem Op.Ends.run_eq {op : Op α} {w w₁ : World} {a : α} {t : List Mark}
    (h : op.Ends e cancel w a w₁ t) : ∃ n, ∀ fuel ≥ n, run e cancel fuel op w = some (a, w₁) := by
  induction h with
  | done a w => exact ⟨0, fun _ _ => rfl⟩
  | act _ ih => exact ih
  | choose _ ih => exact ih
  | clock _ ih => exact ih
  | barred hb _ ih =>
    obtain ⟨n, hn⟩ := ih
    refine ⟨n, fun fuel hfuel => ?_⟩
    rw [run, runWith, World.exchange_of_barrier hb]
    exact hn fuel hfuel
  | exchange hb _ ih =>
    obtain ⟨n, hn⟩ := ih
    refine ⟨n, fun fuel hfuel => ?_⟩
    rw [run, runWith, World.exchange_of_free hb]
    exact hn fuel hfuel
  | pause hsettled _ ih =>
    obtain ⟨n, hn⟩ := ih
    refine ⟨n, fun fuel hfuel => ?_⟩
    rw [run, runWith, hsettled]
    exact hn fuel hfuel
  | acquire _ ih => exact ih
  | release _ ih => exact ih
  | failover _ _ ihfirst ihrest =>
    obtain ⟨n, hn⟩ := ihfirst
    obtain ⟨m, hm⟩ := ihrest
    refine ⟨max (n + 1) m, fun fuel hfuel => ?_⟩
    cases fuel with
    | zero => omega
    | succ fuel =>
      have hfirst := hn fuel (by omega)
      rw [run, runWith, unfoldFailover]
      rw [run] at hfirst
      rw [hfirst]
      exact hm (fuel + 1) (by omega)

/-! ### One run -/

namespace Op

variable {op : Op α} {w w₁ w₂ : World} {a : α} {t : List Mark}

theorem Ends.unique {b : α} {t' : List Mark} (h : op.Ends e cancel w a w₁ t)
    (h' : op.Ends e cancel w b w₂ t') : a = b ∧ w₁ = w₂ ∧ t = t' := by
  induction h generalizing w₂ t' with
  | done a w =>
    cases h'
    exact ⟨rfl, rfl, rfl⟩
  | act _ ih =>
    cases h' with
    | act rest =>
      obtain ⟨rfl, rfl, rfl⟩ := ih rest
      exact ⟨rfl, rfl, rfl⟩
  | choose _ ih =>
    cases h' with
    | choose rest => exact ih rest
  | clock _ ih =>
    cases h' with
    | clock rest => exact ih rest
  | barred hb _ ih =>
    cases h' with
    | barred hb' rest =>
      cases hb.symm.trans hb'
      obtain ⟨rfl, rfl, rfl⟩ := ih rest
      exact ⟨rfl, rfl, rfl⟩
    | exchange hb' _ => cases hb.symm.trans hb'
  | exchange hb _ ih =>
    cases h' with
    | barred hb' _ => cases hb.symm.trans hb'
    | exchange _ rest =>
      obtain ⟨rfl, rfl, rfl⟩ := ih rest
      exact ⟨rfl, rfl, rfl⟩
  | pause hs _ ih =>
    cases h' with
    | pause hs' rest =>
      cases hs.symm.trans hs'
      obtain ⟨rfl, rfl, rfl⟩ := ih rest
      exact ⟨rfl, rfl, rfl⟩
  | acquire _ ih =>
    cases h' with
    | acquire rest => exact ih rest
  | release _ ih =>
    cases h' with
    | release rest => exact ih rest
  | failover _ _ ihfirst ihrest =>
    cases h' with
    | failover first rest =>
      obtain ⟨rfl, rfl, rfl⟩ := ihfirst first
      obtain ⟨rfl, rfl, rfl⟩ := ihrest rest
      exact ⟨rfl, rfl, rfl⟩

/-- What a computation finds out about a run. -/
theorem Ends.of_run (h : op.Ends e cancel w a w₁ t) (fuel : Nat) (g : α × World → β) {b : β}
    (hrun : (run e cancel fuel op w).map g = some b) : g (a, w₁) = b := by
  obtain ⟨⟨c, w₂⟩, hrun, hg⟩ := Option.map_eq_some_iff.1 hrun
  obtain ⟨t', ht'⟩ := ends_of_run hrun
  obtain ⟨rfl, rfl, rfl⟩ := h.unique ht'
  exact hg

theorem Ends.of_done {b : α} (h : (Op.done b).Ends e cancel w a w₁ t) :
    a = b ∧ w₁ = w ∧ t = [] := by
  cases h
  exact ⟨rfl, rfl, rfl⟩

theorem Ends.now_le (h : op.Ends e cancel w a w₁ t) : w.now ≤ w₁.now := by
  induction h with
  | done a w => exact le_rfl
  | act _ ih => exact ih
  | choose _ ih => exact ih
  | clock _ ih => exact ih
  | barred _ _ ih => exact ih
  | exchange _ _ ih => exact World.now_le_after.trans ih
  | pause hs _ ih => exact (le_of_settle hs).trans ih
  | acquire _ ih => exact ih
  | release _ ih => exact ih
  | failover _ _ ihfirst ihrest => exact ihfirst.trans ihrest

/-- A run in time as steps, of which its marks are seen. -/
theorem Ends.steps (h : op.Ends e cancel w a w₁ t) :
    op.Steps e.config w.state (t.filterMap Mark.label?) w₁.state (.done a) := by
  induction h with
  | done a w => exact .refl _ _
  | act _ ih => exact .step (.act _ _ _) ih
  | choose _ ih => exact .step (.choose _ _ _ _) ih
  | clock _ ih => exact .step (.clock _ _ _) ih
  | barred _ _ ih => exact .step (.barred _ _ _ _ _) ih
  | exchange _ _ ih => exact .step (.exchange _ ⟨_, _, _⟩ _) ih
  | pause _ _ ih => exact .step (.pause _ _ _ _ _) ih
  | acquire _ ih => exact .step (.acquire _ _ _) ih
  | release _ ih => exact .step (.release _ _) ih
  | failover _ _ ihfirst ihrest =>
    rw [List.filterMap_append]
    exact .step (.failover _ _ _) ((ihfirst.bind _).trans ihrest)

/-! ### Sequences -/

theorem Ends.bind {f : α → Op β} {b : β} {t' : List Mark} (h : op.Ends e cancel w a w₁ t)
    (hf : (f a).Ends e cancel w₁ b w₂ t') : (op >>= f).Ends e cancel w b w₂ (t ++ t') := by
  change (op.bind f).Ends e cancel w b w₂ (t ++ t')
  induction op generalizing w t with
  | done _ =>
    cases h
    exact hf
  | act g next ih =>
    cases h with
    | act rest => exact .act (ih _ rest)
  | choose n next ih =>
    cases h with
    | choose rest => exact .choose (ih _ rest)
  | clock next ih =>
    cases h with
    | clock rest => exact .clock (ih _ rest)
  | exchange node r next ih =>
    cases h with
    | barred hb rest => exact .barred hb (ih _ rest)
    | exchange hb rest => exact .exchange hb (ih _ rest)
  | pause deadline delay next ih =>
    cases h with
    | pause hs rest => exact .pause hs (ih _ rest)
  | acquire next ih =>
    cases h with
    | acquire rest => exact .acquire (ih _ rest)
  | release next ih =>
    cases h with
    | release rest => exact .release (ih rest)
  | failover g next ih =>
    cases h with
    | failover first rest =>
      rw [List.append_assoc]
      exact .failover first (ih _ rest)

theorem Ends.of_bind {f : α → Op β} {b : β} (h : (op >>= f).Ends e cancel w b w₂ t) :
    ∃ a w₁ t₁ t₂, op.Ends e cancel w a w₁ t₁ ∧ (f a).Ends e cancel w₁ b w₂ t₂ ∧ t = t₁ ++ t₂ := by
  change (op.bind f).Ends e cancel w b w₂ t at h
  induction op generalizing w t with
  | done a => exact ⟨a, w, [], t, .done a w, h, rfl⟩
  | act g next ih =>
    cases h with
    | act rest =>
      obtain ⟨a, w₁, t₁, t₂, h₁, h₂, rfl⟩ := ih _ rest
      exact ⟨a, w₁, _, t₂, .act h₁, h₂, rfl⟩
  | choose n next ih =>
    cases h with
    | choose rest =>
      obtain ⟨a, w₁, t₁, t₂, h₁, h₂, rfl⟩ := ih _ rest
      exact ⟨a, w₁, t₁, t₂, .choose h₁, h₂, rfl⟩
  | clock next ih =>
    cases h with
    | clock rest =>
      obtain ⟨a, w₁, t₁, t₂, h₁, h₂, rfl⟩ := ih _ rest
      exact ⟨a, w₁, t₁, t₂, .clock h₁, h₂, rfl⟩
  | exchange node r next ih =>
    cases h with
    | barred hb rest =>
      obtain ⟨a, w₁, t₁, t₂, h₁, h₂, rfl⟩ := ih _ rest
      exact ⟨a, w₁, _, t₂, .barred hb h₁, h₂, rfl⟩
    | exchange hb rest =>
      obtain ⟨a, w₁, t₁, t₂, h₁, h₂, rfl⟩ := ih _ rest
      exact ⟨a, w₁, _, t₂, .exchange hb h₁, h₂, rfl⟩
  | pause deadline delay next ih =>
    cases h with
    | pause hs rest =>
      obtain ⟨a, w₁, t₁, t₂, h₁, h₂, rfl⟩ := ih _ rest
      exact ⟨a, w₁, _, t₂, .pause hs h₁, h₂, rfl⟩
  | acquire next ih =>
    cases h with
    | acquire rest =>
      obtain ⟨a, w₁, t₁, t₂, h₁, h₂, rfl⟩ := ih _ rest
      exact ⟨a, w₁, t₁, t₂, .acquire h₁, h₂, rfl⟩
  | release next ih =>
    cases h with
    | release rest =>
      obtain ⟨a, w₁, t₁, t₂, h₁, h₂, rfl⟩ := ih rest
      exact ⟨a, w₁, t₁, t₂, .release h₁, h₂, rfl⟩
  | failover g next ih =>
    cases h with
    | failover first rest =>
      obtain ⟨a, w₁, t₁, t₂, h₁, h₂, rfl⟩ := ih _ rest
      exact ⟨a, w₁, _, t₂, .failover first h₁, h₂, (List.append_assoc ..).symm⟩

theorem Ends.of_act {f : State → State} {next : State → Op α}
    (h : (Op.act f next).Ends e cancel w a w₁ t) :
    ∃ t', (next w.state).Ends e cancel { w with state := f w.state } a w₁ t' ∧
      t = .change w.now w.state (f w.state) :: t' := by
  cases h with
  | act rest => exact ⟨_, rest, rfl⟩

theorem Ends.of_read {g : State → β} {f : β → Op α}
    (h : (Op.read g >>= f).Ends e cancel w a w₁ t) :
    ∃ t', (f (g w.state)).Ends e cancel w a w₁ t' ∧ t = .change w.now w.state w.state :: t' :=
  Ends.of_act h

theorem Ends.of_modify {g : State → State} {f : Unit → Op α}
    (h : (Op.modify g >>= f).Ends e cancel w a w₁ t) :
    ∃ t', (f ()).Ends e cancel { w with state := g w.state } a w₁ t' ∧
      t = .change w.now w.state (g w.state) :: t' :=
  Ends.of_act h

theorem Ends.of_update {g : State → State × β} {f : β → Op α}
    (h : (Op.update g >>= f).Ends e cancel w a w₁ t) :
    ∃ t', (f (g w.state).2).Ends e cancel { w with state := (g w.state).1 } a w₁ t' ∧
      t = .change w.now w.state (g w.state).1 :: t' :=
  Ends.of_act h

end Op
end MetricRing
