import MetricRing.Run.Interleaved

/-!
# Operations amid others

An operation goes on by itself until it has something to wait for: the answer of a node, the end of
a pause, or the lock. While it waits the other calls of the client have their turn, and the state
may be any other one when the operation goes on. `op.Amid c s vs s₁ op₁` says that `op`, which goes
on in the state `s`, has come to `op₁` in the state `s₁` and has made the visits `vs`.
-/

namespace MetricRing

/-- An exchange, and the state of the client in which it began. -/
structure Visit where
  state : State
  contact : Contact

namespace Visit

/-- Where the node was when the exchange began. -/
def address (v : Visit) : String := v.state.nodes.address v.contact.node

/-- The visit that a step from this state is, if it is one. -/
def made (s : State) (l : Option Label) : List Visit := (contacts l.toList).map (Visit.mk s)

end Visit

namespace Op

variable {α : Type}

/-- Whether an operation has to wait for something next. -/
def waits : Op α → Bool
  | .exchange _ _ _ => true
  | .pause _ _ _ => true
  | .acquire _ => true
  | _ => false

inductive Amid (c : Config) : State → Op α → List Visit → State → Op α → Prop
  | refl (s : State) (op : Op α) : Amid c s op [] s op
  | step {s s₁ s₃ : State} {op op₁ op₂ : Op α} {l : Option Label} {vs : List Visit} (s₂ : State)
    (first : op.Step c s l s₁ op₁) (others : op.waits = false → s₂ = s₁)
    (rest : Amid c s₂ op₁ vs s₃ op₂) : Amid c s op (Visit.made s l ++ vs) s₃ op₂

/-- The others may let the state be. -/
theorem Steps.amid {c : Config} {s s₁ : State} {op op₁ : Op α} {t : List Label}
    (h : op.Steps c s t s₁ op₁) :
    ∃ vs, op.Amid c s vs s₁ op₁ ∧ vs.map Visit.contact = contacts t := by
  induction h with
  | refl s op => exact ⟨[], .refl s op, rfl⟩
  | @step s s₁ s₂ op op₁ op₂ l t first _ ih =>
    obtain ⟨vs, hvs, hcontacts⟩ := ih
    refine ⟨_, .step _ first (fun _ => rfl) hvs, ?_⟩
    rw [List.map_append, hcontacts, contacts_append, Visit.made, List.map_map]
    exact congrArg (· ++ contacts t) (List.map_id _)

end Op
end MetricRing
