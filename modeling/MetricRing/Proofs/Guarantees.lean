import MetricRing.Proofs.CachedRing
import MetricRing.Run.Interleaved

/-!
# What operations guarantee each other

Between two steps of an operation others may change the state. `Op.Keeps R Q op s` says of an
operation that went on last in state `s`: as long as the others stay within `R`, each of its own
steps does too, and a result satisfies `Q`. The relation is reflexive and transitive, so that all
operations may use it both as what they rely on and as what they guarantee. The main statement is
that every call of a client stays within `Changes`.
-/

namespace MetricRing

open MetricRing.Topology (Document Member Ring)

namespace Op

variable {α β : Type} {R : State → State → Prop} {Q : State → α → Prop} {s t : State}

/-- From `s` on, whatever `R` does in between. -/
def Keeps (R : State → State → Prop) (Q : State → α → Prop) : Op α → State → Prop
  | .done a, s => Q s a
  | .act f next, s => ∀ t, R s t → R t (f t) ∧ (next t).Keeps R Q (f t)
  | .choose n next, s => ∀ i, (next (i % n)).Keeps R Q s
  | .clock next, s => ∀ now, (next now).Keeps R Q s
  | .exchange _ _ next, s => ∀ result, (next result).Keeps R Q s
  | .pause _ _ next, s => ∀ result, (next result).Keeps R Q s
  | .acquire next, s => ∀ result, (next result).Keeps R Q s
  | .release next, s => next.Keeps R Q s
  | .failover _ next, s => ∀ result, (next result).Keeps R Q s

abbrev Any (_ : State) (_ : α) : Prop := True

/-- A rely may be weakened to what comes later, if results last until then. -/
theorem Keeps.mono [IsTrans State R] {op : Op α} (h : op.Keeps R Q s) (hst : R s t)
    (hQ : ∀ a, Q s a → Q t a) : op.Keeps R Q t := by
  induction op with
  | done a => exact hQ a h
  | act f next _ => exact fun u hu => h u (IsTrans.trans _ _ _ hst hu)
  | choose n next ih => exact fun i => ih (i % n) (h i)
  | clock next ih => exact fun now => ih now (h now)
  | exchange node r next ih => exact fun result => ih result (h result)
  | pause deadline delay next ih => exact fun result => ih result (h result)
  | acquire next ih => exact fun result => ih result (h result)
  | release next ih => exact ih h
  | failover f next ih => exact fun result => ih result (h result)

theorem Keeps.bind [IsPreorder State R] {P : State → α → Prop} {Q : State → β → Prop} {op : Op α}
    {k : α → Op β} (h : op.Keeps R P s) (hk : ∀ t a, R s t → P t a → (k a).Keeps R Q t) :
    (op >>= k).Keeps R Q s := by
  change (op.bind k).Keeps R Q s
  induction op generalizing s with
  | done a => exact hk s a (refl s) h
  | act f next ih =>
    intro t ht
    obtain ⟨hf, hn⟩ := h t ht
    refine ⟨hf, ih t hn fun u a hu ha => hk u a ?_ ha⟩
    exact IsTrans.trans _ _ _ (IsTrans.trans _ _ _ ht hf) hu
  | choose n next ih => exact fun i => ih (i % n) (h i) hk
  | clock next ih => exact fun now => ih now (h now) hk
  | exchange node r next ih => exact fun result => ih result (h result) hk
  | pause deadline delay next ih => exact fun result => ih result (h result) hk
  | acquire next ih => exact fun result => ih result (h result) hk
  | release next ih => exact ih h hk
  | failover f next ih => exact fun result => ih result (h result) hk

theorem Keeps.imp {P : State → α → Prop} {op : Op α} (h : op.Keeps R P s)
    (hPQ : ∀ t a, P t a → Q t a) : op.Keeps R Q s := by
  induction op generalizing s with
  | done a => exact hPQ s a h
  | act f next ih => exact fun t ht => ⟨(h t ht).1, ih t (h t ht).2⟩
  | choose n next ih => exact fun i => ih (i % n) (h i)
  | clock next ih => exact fun now => ih now (h now)
  | exchange node r next ih => exact fun result => ih result (h result)
  | pause deadline delay next ih => exact fun result => ih result (h result)
  | acquire next ih => exact fun result => ih result (h result)
  | release next ih => exact ih h
  | failover f next ih => exact fun result => ih result (h result)

theorem keeps_read [Std.Refl R] {g : State → β} {k : β → Op α}
    (h : ∀ t, R s t → (k (g t)).Keeps R Q t) : (Op.read g >>= k).Keeps R Q s :=
  fun t ht => ⟨refl t, h t ht⟩

theorem keeps_modify {f : State → State} {k : Unit → Op α}
    (h : ∀ t, R s t → R t (f t) ∧ (k ()).Keeps R Q (f t)) : (Op.modify f >>= k).Keeps R Q s := h

theorem keeps_update {f : State → State × β} {k : β → Op α}
    (h : ∀ t, R s t → R t (f t).1 ∧ (k (f t).2).Keeps R Q (f t).1) :
    (Op.update f >>= k).Keeps R Q s := h

theorem keeps_now {k : Time → Op α} (h : ∀ now, (k now).Keeps R Q s) :
    (Op.now >>= k).Keeps R Q s := h

theorem keeps_send {node : NodeRef} {r : Request} {k : Except Interrupt Outcome → Op α}
    (h : ∀ result, (k result).Keeps R Q s) : (Op.send node r >>= k).Keeps R Q s := h

theorem keeps_wait {deadline : Option Time} {delay : Time} {k : Except Interrupt Unit → Op α}
    (h : ∀ result, (k result).Keeps R Q s) : (Op.wait deadline delay >>= k).Keeps R Q s := h

theorem keeps_lock {k : Except Interrupt Unit → Op α} (h : ∀ result, (k result).Keeps R Q s) :
    (Op.lock >>= k).Keeps R Q s := h

theorem keeps_unlock {k : Unit → Op α} (h : (k ()).Keeps R Q s) : (Op.unlock >>= k).Keeps R Q s := h

theorem keeps_oneOf {candidates : List NodeRef} {Q : State → Option NodeRef → Prop}
    (h : ∀ choice, Q s choice) : (Op.oneOf candidates).Keeps R Q s := by
  unfold Op.oneOf
  split_ifs
  · exact h none
  · exact fun i => h candidates[i % candidates.length]?

end Op

/-! ### Requests -/

namespace Client

variable (c : Config) {given : Ring → Prop} {s : State}

/-- A section that may always run. -/
theorem keeps_section {f : State → State} (h : ∀ t, Change given t (f t)) :
    (Op.modify f).Keeps (Changes given) Op.Any s := fun t _ => ⟨.single (h t), trivial⟩

theorem keeps_note (setting : Option String) (path : String) (event : State → Event) :
    (note setting path event).Keeps (Changes given) Op.Any s := by
  unfold note
  split_ifs
  · exact keeps_section fun t => .record _
  · trivial

theorem announced?_ne_empty {headers : Headers} {hash : String}
    (h : State.announced? headers = some hash) : hash ≠ "" := by
  unfold State.announced? at h
  split at h
  · split_ifs at h with he
    exact Option.some.inj h ▸ he
  · cases h

theorem keeps_observe (node : NodeRef) (headers : Headers) :
    (observe node headers).Keeps (Changes given) Op.Any s := by
  unfold observe
  split
  · trivial
  next hash hannounced =>
    have hne : Text.lowercase hash ≠ "" := fun he =>
      announced?_ne_empty hannounced (Text.lowercase_eq_empty_iff.1 he)
    apply Op.keeps_read
    intro t _
    dsimp only
    split_ifs
    · exact Op.keeps_modify fun u _ =>
        ⟨.single (.announce node _ hne), keeps_section fun v => .setTopology hash⟩
    · exact keeps_section fun v => .setTopology hash

theorem keeps_prepare (r : Request) : (prepare c r).Keeps (Changes given) Op.Any s := by
  unfold prepare
  apply Op.keeps_now
  intro now
  apply Op.keeps_read
  intro t _
  split
  · trivial
  · split <;> trivial

theorem keeps_sendOnce (node : NodeRef) (r : Request) :
    (sendOnce c node r).Keeps (Changes given) Op.Any s := by
  unfold sendOnce
  apply (keeps_note _ _ _).bind
  intro t _ _ _
  apply Op.keeps_now
  intro started
  apply Op.keeps_send
  intro result
  cases result with
  | error i => trivial
  | ok answer =>
    apply Op.keeps_now
    intro ended
    apply (keeps_note _ _ _).bind
    intro u _ _ _
    cases answer with
    | error f => trivial
    | ok response =>
      apply (keeps_observe node response.headers).bind
      intro v _ _ _
      apply (keeps_note _ _ _).bind
      intro _ _ _ _
      trivial

theorem keeps_nodeRequest (node : NodeRef) (r : Request) :
    (nodeRequest c node r).Keeps (Changes given) Op.Any s := by
  unfold nodeRequest
  apply (keeps_prepare c r).bind
  intro t prepared _ _
  cases prepared with
  | error f => trivial
  | ok r => exact keeps_sendOnce c node r

theorem keeps_selectNode (preferred : Option NodeRef) (attempt : Nat) :
    (selectNode preferred attempt).Keeps (Changes given) Op.Any s := by
  unfold selectNode
  apply Op.keeps_read
  intro t _
  split
  · trivial
  · exact Op.keeps_oneOf fun _ => trivial

theorem keeps_failoverStep (f : Failover) :
    (failoverStep c f).Keeps (Changes given) Op.Any s := by
  unfold failoverStep
  apply Op.keeps_read
  intro t _
  apply (keeps_sendOnce c f.node f.request).bind
  intro u outcome _ _
  cases outcome with
  | ok response => trivial
  | error e =>
    dsimp only
    split_ifs
    · trivial
    · split
      · trivial
      · apply Op.keeps_read
        intro v _
        refine Op.Keeps.bind (P := Op.Any) (Op.keeps_oneOf fun _ => trivial) fun w choice _ _ => ?_
        cases choice with
        | none => trivial
        | some node => exact fun _ => trivial

theorem keeps_tryOnce (r : Request) (attempt contacted : Nat) :
    (tryOnce c r attempt contacted).Keeps (Changes given) Op.Any s := by
  unfold tryOnce
  apply (keeps_selectNode r.preferred attempt).bind
  intro t node _ _
  cases node with
  | none => trivial
  | some node => exact fun _ => trivial

theorem keeps_retry (r : Request) (left attempt contacted : Nat) (last : Failure) :
    (retry c r left attempt contacted last).Keeps (Changes given) Op.Any s := by
  induction left generalizing s attempt contacted last with
  | zero => trivial
  | succ left ih =>
    unfold retry
    apply Op.keeps_wait
    intro result
    cases result with
    | error i => trivial
    | ok _ =>
      apply (keeps_tryOnce c r attempt contacted).bind
      intro t result _ _
      obtain ⟨outcome, contacted⟩ := result
      cases outcome with
      | ok response => trivial
      | error e =>
        dsimp only
        split_ifs
        · exact ih ..
        · trivial

theorem keeps_request (r : Request) : (request c r).Keeps (Changes given) Op.Any s := by
  unfold request
  apply (keeps_prepare c r).bind
  intro t prepared _ _
  cases prepared with
  | error f => trivial
  | ok r =>
    apply (keeps_tryOnce c r 0 0).bind
    intro u result _ _
    obtain ⟨outcome, contacted⟩ := result
    cases outcome with
    | ok response => trivial
    | error e =>
      dsimp only
      split_ifs
      · exact keeps_retry ..
      · trivial

end Client
end MetricRing
