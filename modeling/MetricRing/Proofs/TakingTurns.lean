import Mathlib.Data.Finset.Card
import Mathlib.Data.Finset.SDiff
import Mathlib.Data.List.Dedup

/-!
# Lists that take turns

Two lists take turns in giving an entry that has not been given before. If they have the same
entries, all of them are given; if they have none in common, they alternate until the list whose
turn it is has ended.
-/

namespace MetricRing

/-- Up to `n` entries, the first of them from the first list. -/
def turns : Nat → List Nat → List Nat → List Nat → List Nat
  | 0, _, _, _ => []
  | n + 1, xs, ys, before =>
    match xs.find? fun i => i ∉ before with
    | some i => i :: turns n ys xs (before ++ [i])
    | none => []

def alternate : Nat → List Nat → List Nat → List Nat
  | 0, _, _ => []
  | _ + 1, [], _ => []
  | n + 1, x :: xs, ys => x :: alternate n ys xs

variable {xs ys before : List Nat}

/-- Two lists with the same entries give as many as there are. -/
theorem length_turns (n : Nat) {entries : Finset Nat} (hxs : ∀ i, i ∈ xs ↔ i ∈ entries)
    (hys : ∀ i, i ∈ ys ↔ i ∈ entries) :
    (turns n xs ys before).length = min n (entries \ before.toFinset).card := by
  induction n generalizing xs ys before with
  | zero => exact (Nat.zero_min _).symm
  | succ n ih =>
    rw [turns]
    cases hfind : xs.find? fun i => i ∉ before with
    | none =>
      have hgiven : entries \ before.toFinset = ∅ := by
        refine Finset.sdiff_eq_empty_iff_subset.2 fun i hi => List.mem_toFinset.2 ?_
        have hnot := List.find?_eq_none.1 hfind i ((hxs i).2 hi)
        simpa using hnot
      rw [hgiven]
      rfl
    | some i =>
      have hnew : i ∉ before := by simpa using List.find?_some hfind
      have hleft : i ∈ entries \ before.toFinset :=
        Finset.mem_sdiff.2 ⟨(hxs i).1 (List.mem_of_find?_eq_some hfind), by simpa using hnew⟩
      have hgiven : entries \ (before ++ [i]).toFinset = (entries \ before.toFinset).erase i := by
        rw [List.toFinset_append, List.toFinset_cons, List.toFinset_nil, insert_empty_eq,
          Finset.union_comm, ← Finset.insert_eq, Finset.sdiff_insert]
      have hcard := Finset.card_erase_of_mem hleft
      have hpos : 0 < (entries \ before.toFinset).card := Finset.card_pos.2 ⟨i, hleft⟩
      dsimp only
      rw [List.length_cons, ih hys hxs, hgiven, hcard]
      omega

/-- Two lists without a common entry alternate. -/
theorem turns_eq_alternate (n : Nat) (hxs : xs.Nodup) (hys : ys.Nodup) (hxy : xs.Disjoint ys) :
    turns n xs ys before =
      alternate n (xs.filter fun i => i ∉ before) (ys.filter fun i => i ∉ before) := by
  induction n generalizing xs ys before with
  | zero => rfl
  | succ n ih =>
    rw [turns, ← List.head?_filter]
    cases hleft : xs.filter fun i => i ∉ before with
    | nil => rfl
    | cons x rest =>
      have hx : x ∈ xs := List.mem_of_mem_filter (hleft ▸ List.mem_cons_self)
      have hlater (zs : List Nat) : (zs.filter fun i => decide (i ∉ before ++ [x])) =
          (zs.filter fun i => i ∉ before).filter (· != x) := by
        rw [List.filter_filter]
        congr 1
        funext i
        rw [Bool.eq_iff_iff]
        simp [and_comm]
      have hrest : (xs.filter fun i => decide (i ∉ before ++ [x])) = rest := by
        have hnodup : (x :: rest).Nodup := hleft ▸ hxs.filter _
        have hothers : ∀ i ∈ rest, (i != x) = true := fun i hi =>
          bne_iff_ne.2 fun hix => (List.nodup_cons.1 hnodup).1 (hix ▸ hi)
        rw [hlater, hleft, List.filter_cons_of_neg (by simp), List.filter_eq_self.2 hothers]
      have hsame : (ys.filter fun i => decide (i ∉ before ++ [x])) =
          ys.filter fun i => i ∉ before := by
        rw [hlater]
        refine List.filter_eq_self.2 fun i hi => bne_iff_ne.2 fun hix => ?_
        exact hxy hx (hix ▸ List.mem_of_mem_filter hi)
      rw [List.head?_cons, alternate]
      dsimp only
      rw [ih hys hxs hxy.symm, hrest, hsame]

theorem length_alternate (n : Nat) (xs ys : List Nat) :
    (alternate n xs ys).length =
      if xs.length ≤ ys.length then min n (2 * xs.length) else min n (2 * ys.length + 1) := by
  induction n generalizing xs ys with
  | zero =>
    rw [Nat.zero_min, Nat.zero_min, ite_self]
    rfl
  | succ n ih =>
    cases xs with
    | nil =>
      rw [alternate, List.length_nil, if_pos (Nat.zero_le _)]
      omega
    | cons x xs =>
      rw [alternate, List.length_cons, ih, List.length_cons]
      split_ifs <;> omega

/-- Of what two lists give in turn, what is of the one list's kind comes from that list in order. -/
theorem filter_alternate (n : Nat) (p : Nat → Bool) :
    ((∀ i ∈ xs, p i = true) → (∀ i ∈ ys, p i = false) → (alternate n xs ys).filter p <+: xs) ∧
      ((∀ i ∈ xs, p i = false) → (∀ i ∈ ys, p i = true) →
        (alternate n xs ys).filter p <+: ys) := by
  induction n generalizing xs ys with
  | zero => exact ⟨fun _ _ => List.nil_prefix, fun _ _ => List.nil_prefix⟩
  | succ n ih =>
    cases xs with
    | nil => exact ⟨fun _ _ => List.nil_prefix, fun _ _ => List.nil_prefix⟩
    | cons x xs =>
      refine ⟨fun hxs hys => ?_, fun hxs hys => ?_⟩
      · have hrest := ih.2 hys fun i hi => hxs i (List.mem_cons_of_mem x hi)
        rw [alternate, List.filter_cons_of_pos (hxs x List.mem_cons_self)]
        exact (List.prefix_cons_inj x).2 hrest
      · have hx : ¬p x = true := Bool.eq_false_iff.1 (hxs x List.mem_cons_self)
        rw [alternate, List.filter_cons_of_neg hx]
        exact ih.1 hys fun i hi => hxs i (List.mem_cons_of_mem x hi)

/-! ### Each entry once -/

/-- Induction on a list as its duplicates are erased. -/
theorem eraseDups_induction {motive : List Nat → Prop} (nil : motive [])
    (cons : ∀ x xs, motive (xs.filter fun y => !y == x) → motive (x :: xs)) :
    ∀ xs, motive xs
  | [] => nil
  | x :: xs => cons x xs (eraseDups_induction nil cons _)
termination_by xs => xs.length
decreasing_by exact Nat.lt_succ_of_le (List.length_filter_le _ _)

theorem nodup_eraseDups (xs : List Nat) : xs.eraseDups.Nodup := by
  induction xs using eraseDups_induction with
  | nil => exact List.nodup_nil
  | cons x xs ih =>
    rw [List.eraseDups_cons, List.nodup_cons]
    refine ⟨fun hx => ?_, ih⟩
    simpa using (List.mem_filter.1 (List.mem_eraseDups.1 hx)).2

theorem find?_eraseDups (p : Nat → Bool) (xs : List Nat) : xs.eraseDups.find? p = xs.find? p := by
  induction xs using eraseDups_induction with
  | nil => rfl
  | cons x xs ih =>
    rw [List.eraseDups_cons, List.find?_cons, List.find?_cons, ih, List.find?_filter]
    cases hx : p x with
    | true => rfl
    | false =>
      dsimp only
      congr 1
      funext y
      by_cases hy : y = x <;> simp [hy, hx]

theorem eraseDups_map {f : Nat → Nat} {xs : List Nat}
    (hf : ∀ i ∈ xs, ∀ j ∈ xs, f i = f j → i = j) :
    (xs.map f).eraseDups = xs.eraseDups.map f := by
  induction xs using eraseDups_induction with
  | nil => rfl
  | cons x xs ih =>
    have hkeep : (xs.map f).filter (fun y => !y == f x) =
        (xs.filter fun y => !y == x).map f := by
      rw [List.filter_map]
      congr 1
      refine List.filter_congr fun y hy => ?_
      have hyx : f y = f x ↔ y = x :=
        ⟨hf y (List.mem_cons_of_mem x hy) x List.mem_cons_self, congrArg f⟩
      simp [hyx]
    rw [List.map_cons, List.eraseDups_cons, List.eraseDups_cons, List.map_cons, hkeep]
    refine congrArg _ (ih fun i hi j hj => ?_)
    exact hf i (List.mem_cons_of_mem x (List.mem_of_mem_filter hi)) j
      (List.mem_cons_of_mem x (List.mem_of_mem_filter hj))

end MetricRing
