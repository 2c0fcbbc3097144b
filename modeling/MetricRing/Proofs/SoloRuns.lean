import MetricRing.Run.Interleaved
import MetricRing.Run.Solo

/-!
# Runs of one operation as steps

What `run` computes is a sequence of steps: those of a call that nothing else interferes with. Its
exchanges are the requests that the run has sent. So whatever holds of all interleavings holds of
every run.
-/

namespace MetricRing

variable {c : Config} {α β : Type}

namespace Op

/-- An operation steps in the same way whatever follows it. -/
theorem Step.bind {s s₁ : State} {op op₁ : Op α} {l : Option Label} (h : op.Step c s l s₁ op₁)
    (f : α → Op β) : (op.bind f).Step c s l s₁ (op₁.bind f) := by
  cases h with
  | act g next => exact .act s g _
  | choose n i next => exact .choose s n i _
  | clock now next => exact .clock s now _
  | exchange x next => exact .exchange s x _
  | barred node r i next => exact .barred s node r i _
  | pause deadline delay result next => exact .pause s deadline delay result _
  | acquire result next => exact .acquire s result _
  | release next => exact .release s _
  | failover g next =>
    rw [bind_assoc]
    exact .failover s g _

theorem Steps.bind {s s₁ : State} {op op₁ : Op α} {t : List Label} (h : op.Steps c s t s₁ op₁)
    (f : α → Op β) : (op.bind f).Steps c s t s₁ (op₁.bind f) := by
  induction h with
  | refl s op => exact .refl s _
  | step first _ ih => exact .step (first.bind f) ih

theorem Steps.trans {s s₁ s₂ : State} {op op₁ op₂ : Op α} {t t' : List Label}
    (h : op.Steps c s t s₁ op₁) (h' : op₁.Steps c s₁ t' s₂ op₂) :
    op.Steps c s (t ++ t') s₂ op₂ := by
  induction h with
  | refl s op => exact h'
  | step first _ ih =>
    rw [List.append_assoc]
    exact .step first (ih h')

end Op

/-- Others may let the state be. -/
theorem Op.Steps.trace {s s₁ : State} {op op₁ : Op α} {t : List Label}
    (h : op.Steps c s t s₁ op₁) : ∃ n, op.Trace c n t op₁ := by
  induction h with
  | refl s op => exact ⟨0, .refl op⟩
  | step first _ ih =>
    obtain ⟨n, hn⟩ := ih
    exact ⟨n + 1, .step first hn⟩

/-! ### Runs -/

variable {e : Setting} {cancel : Option Time}

def Contact.IsAnswered (e : Setting) (x : Contact) : Prop :=
  (∃ i, x.result = .error i) ∨ ∃ sent y, x.result = .ok (e.transport sent y).outcome

/-- A run of an operation as steps that send what the run sends. -/
def Op.Runs (e : Setting) (op : Op α) (w : World) (a : α) (w₁ : World) : Prop :=
  ∃ t, op.Steps e.config w.state t w₁.state (.done a) ∧
    w₁.sent.map Exchange.request =
      ((contacts t).map Contact.request).reverse ++ w.sent.map Exchange.request ∧
    ∀ x ∈ contacts t, x.IsAnswered e

/-- A step before a run that sends nothing. -/
theorem Op.Runs.after {op op₁ : Op α} {w w₁ w₂ : World} {a : α} {l : Option Label}
    (h : op₁.Runs e w₁ a w₂) (first : op.Step e.config w.state l w₁.state op₁)
    (hl : contacts l.toList = []) (hs : w₁.sent = w.sent) : op.Runs e w a w₂ := by
  obtain ⟨t, ht, hsent, hanswered⟩ := h
  refine ⟨l.toList ++ t, .step first ht, ?_⟩
  rw [contacts_append, hl, List.nil_append, hsent, hs]
  exact ⟨rfl, hanswered⟩

/-- An exchange is cut short before it begins, or its request is sent. -/
theorem World.exchange_cases (e : Setting) (cancel : Option Time) (node : NodeRef) (r : Request)
    (w : World) :
    (∃ i, w.exchange e cancel node r = (.error i, w.now, w)) ∨
      ∃ result time, Contact.IsAnswered e ⟨node, r, result⟩ ∧ w.exchange e cancel node r =
        (result, time, { w with sent := ⟨w.now, (w.state.node node).address, r⟩ :: w.sent }) := by
  unfold World.exchange
  by_cases hc : isPast cancel w.now = true
  · exact Or.inl ⟨.cancelled, if_pos hc⟩
  · by_cases hd : isPast r.deadline w.now = true
    · exact Or.inl ⟨.deadline, by rw [if_neg hc, if_pos hd]⟩
    · right
      rw [if_neg hc, if_neg hd]
      dsimp only
      generalize settle cancel r.deadline w.now _ = ended
      obtain ⟨result, time⟩ := ended
      refine ⟨_, time, ?_, rfl⟩
      cases result with
      | error i => exact Or.inl ⟨i, rfl⟩
      | ok _ => exact Or.inr ⟨w.sent, _, rfl⟩

theorem runWith_runs {unfold : Failover → World → Option ((Outcome × Nat) × World)}
    (hu : ∀ f w r w₁, unfold f w = some (r, w₁) →
      (Client.failoverStep e.config f).Runs e w r w₁)
    {op : Op α} {w w₁ : World} {a : α} (h : runWith e cancel unfold op w = some (a, w₁)) :
    op.Runs e w a w₁ := by
  induction op generalizing w with
  | done b =>
    cases h
    exact ⟨[], .refl _ _, rfl, fun x hx => absurd hx List.not_mem_nil⟩
  | act f next ih => exact (ih _ h).after (.act _ f next) rfl rfl
  | choose n next ih => exact (ih _ h).after (.choose _ n (e.pick w.picks) next) rfl rfl
  | clock next ih => exact (ih _ h).after (.clock _ w.now next) rfl rfl
  | exchange node r next ih =>
    unfold runWith at h
    rcases w.exchange_cases e cancel node r with ⟨i, hx⟩ | ⟨result, time, hanswer, hx⟩
    · rw [hx] at h
      exact (ih _ h).after (.barred _ node r i next) rfl rfl
    · rw [hx] at h
      obtain ⟨t, ht, hsent, hanswered⟩ := ih _ h
      refine ⟨_, .step (.exchange _ ⟨node, r, result⟩ next) ht, ?_, ?_⟩
      · rw [hsent]
        simp [contacts, Label.contact?]
      · intro x hx
        rcases List.mem_cons.1 hx with rfl | hx
        · exact hanswer
        · exact hanswered x hx
  | pause deadline delay next ih =>
    exact (ih _ h).after (.pause _ deadline delay _ next) rfl rfl
  | acquire next ih => exact (ih _ h).after (.acquire _ _ next) rfl rfl
  | release next ih => exact (ih h).after (.release _ next) rfl rfl
  | failover f next ih =>
    unfold runWith at h
    split at h
    next r w₂ hf =>
      obtain ⟨t, ht, hsent, hanswered⟩ := hu f w r w₂ hf
      obtain ⟨t', ht', hsent', hanswered'⟩ := ih _ h
      refine ⟨t ++ t', .step (.failover _ f next) ((ht.bind next).trans ht'), ?_, ?_⟩
      · rw [hsent', hsent, contacts_append, List.map_append, List.reverse_append, List.append_assoc]
      · intro x hx
        rw [contacts_append, List.mem_append] at hx
        rcases hx with hx | hx
        · exact hanswered x hx
        · exact hanswered' x hx
    next => cases h

theorem unfoldFailover_runs {fuel : Nat} {f : Failover} {w w₁ : World} {r : Outcome × Nat}
    (h : unfoldFailover e cancel fuel f w = some (r, w₁)) :
    (Client.failoverStep e.config f).Runs e w r w₁ := by
  induction fuel generalizing f w r w₁ with
  | zero => cases h
  | succ fuel ih => exact runWith_runs (fun _ _ _ _ => ih) h

theorem run_runs {fuel : Nat} {op : Op α} {w w₁ : World} {a : α}
    (h : run e cancel fuel op w = some (a, w₁)) : op.Runs e w a w₁ :=
  runWith_runs (fun _ _ _ _ => unfoldFailover_runs) h

/-! ### Runs within systems -/

namespace System

theorem Steps.of_op {s s₁ : State} {k : Call} {op op₁ : Op k.Result} {t : List Label}
    (h : op.Steps c s t s₁ op₁) (before after : List Task) :
    Steps c ⟨s, before ++ ⟨k, op⟩ :: after⟩ ⟨s₁, before ++ ⟨k, op₁⟩ :: after⟩ := by
  induction h with
  | refl s op => exact Relation.ReflTransGen.refl
  | step first _ ih => exact Relation.ReflTransGen.head (.move before after first) ih

/-- A call that runs alone. -/
theorem Steps.of_run {fuel : Nat} {y : System} {k : Call} {w w₁ : World} {a : k.Result}
    (hw : w.state = y.state) (h : run e cancel fuel (k.op e.config) w = some (a, w₁)) :
    Steps e.config y ⟨w₁.state, y.tasks ++ [⟨k, .done a⟩]⟩ := by
  obtain ⟨t, ht, -⟩ := run_runs h
  rw [hw] at ht
  exact Relation.ReflTransGen.head (.start y k) (Steps.of_op ht y.tasks [])

end System
end MetricRing
