import Mathlib.Data.List.Find
import MetricRing.Gossip
import MetricRing.Pool
import MetricRing.Proofs.RingOrder

/-!
# Which ids match

Ids are written in the lower case of all characters. What looks one up among the nodes or in
gossip folds the ASCII letters alone, and the ring folds all characters again. The two foldings
agree on an id unless it has a capital beyond ASCII. Such an id matches nothing that was written,
not even what it was written as itself, while the ring still finds its member.
-/

namespace MetricRing

namespace Text

/-! ### Folded characters -/

structure IsFolded (c : Char) : Prop where
  lowerChar_eq : lowerChar c = [c]
  not_sigma : c.toNat ≠ 0x3A3

theorem toLower_of_not_capital {c : Char} (h : c.toNat < 0x41 ∨ 0x5A < c.toNat) :
    c.toLower = c := by
  refine dif_neg fun hcapital => ?_
  have hlow : 0x41 ≤ c.toNat := UInt32.le_iff_toNat_le.1 hcapital.1
  have hhigh : c.toNat ≤ 0x5A := UInt32.le_iff_toNat_le.1 hcapital.2
  omega

theorem IsFolded.toLower_eq {c : Char} (h : IsFolded c) : c.toLower = c := by
  rcases Nat.lt_or_ge c.toNat 0x80 with hc | hc
  · have hfolded := h.lowerChar_eq
    rw [lowerChar, if_pos hc] at hfolded
    exact List.singleton_inj.1 hfolded
  · exact toLower_of_not_capital (by omega)

theorem isFolded_toLower {c : Char} (hc : c.toNat < 0x80) : IsFolded c.toLower := by
  have hall : ∀ n < 0x80, lowerChar (Char.ofNat n).toLower = [(Char.ofNat n).toLower] ∧
      (Char.ofNat n).toLower.toNat ≠ 0x3A3 := by decide
  obtain ⟨hlower, hsigma⟩ := hall c.toNat hc
  rw [Char.ofNat_toNat] at hlower hsigma
  exact ⟨hlower, hsigma⟩

def CaseRun.misses (r s : CaseRun) : Bool :=
  Nat.blt (r.apply r.last) s.first || Nat.blt s.last (r.apply r.first) ||
    ((r.step == 2 || r.first == r.last) && s.step == 2 && Nat.blt 0 (r.apply r.first) &&
      (r.apply r.first + s.first) % 2 == 1)

theorem CaseRun.not_contains_apply {r s : CaseRun} (h : r.misses s = true) {c : Nat}
    (hc : r.contains c = true) : s.contains (r.apply c) = false := by
  simp only [misses, Bool.and_eq_true, Bool.or_eq_true, Nat.blt_eq, beq_iff_eq] at h
  simp only [contains, Bool.and_eq_true, decide_eq_true_eq, beq_iff_eq] at hc
  obtain ⟨⟨hfirst, hlast⟩, hstep⟩ := hc
  rw [← Bool.not_eq_true]
  simp only [contains, Bool.and_eq_true, decide_eq_true_eq, beq_iff_eq]
  rintro ⟨⟨hfirst', hlast'⟩, hstep'⟩
  rw [apply] at h hfirst' hlast' hstep'
  rw [apply] at h
  obtain (h | h) | ⟨⟨⟨hr, hs⟩, hpositive⟩, hparity⟩ := h
  · omega
  · omega
  · rw [hs] at hstep'
    rcases hr with hr | hr
    · rw [hr] at hstep
      omega
    · omega

/-- The characters that a folding changes and that no run lists, as runs. -/
def otherRuns : List CaseRun := [⟨0x41, 0x5A, 1, 32⟩, ⟨0x130, 0x130, 1, 0⟩, ⟨0x3A3, 0x3A3, 1, 32⟩]

theorem lowerRuns_misses :
    (lowerRuns.all fun r => (otherRuns ++ lowerRuns).all fun s => r.misses s) = true := by
  decide +kernel

theorem isFolded_of_not_contains {c : Char}
    (h : ∀ s ∈ otherRuns ++ lowerRuns, s.contains c.toNat = false) : IsFolded c := by
  have hother : ¬(0x41 ≤ c.toNat ∧ c.toNat ≤ 0x5A) ∧ c.toNat ≠ 0x130 ∧ c.toNat ≠ 0x3A3 := by
    have hcapitals := h _ (List.mem_cons_self ..)
    have hdotted := h ⟨0x130, 0x130, 1, 0⟩ (List.mem_append_left _ (by simp [otherRuns]))
    have hsigma := h ⟨0x3A3, 0x3A3, 1, 32⟩ (List.mem_append_left _ (by simp [otherRuns]))
    simp [CaseRun.contains] at hcapitals hdotted hsigma
    omega
  refine ⟨?_, hother.2.2⟩
  rw [lowerChar]
  split_ifs with hascii hdotted
  · rw [toLower_of_not_capital (by omega)]
  · exact absurd hdotted hother.2.1
  · rw [List.find?_eq_none.2 fun s hs => by simp [h s (List.mem_append_right _ hs)]]

theorem isFolded_of_mem_lowerChar {c d : Char} (hc : c.toNat ≠ 0x3A3) (hd : d ∈ lowerChar c) :
    IsFolded d := by
  rw [lowerChar] at hd
  split_ifs at hd with hascii hdotted
  · rw [List.mem_singleton.1 hd]
    exact isFolded_toLower hascii
  · have hboth : (['i', Char.ofNat 0x307].all fun d =>
        (otherRuns ++ lowerRuns).all fun s => !s.contains d.toNat) = true := by decide +kernel
    refine isFolded_of_not_contains fun s hs => ?_
    have hmisses := List.all_eq_true.1 (List.all_eq_true.1 hboth d hd) s hs
    exact (Bool.not_eq_true' _).mp hmisses
  · split at hd
    next r hr =>
      rw [List.mem_singleton.1 hd]
      have hmem := List.mem_of_find?_eq_some hr
      have hcontains := List.find?_some hr
      by_cases hvalid : (r.apply c.toNat).isValidChar
      · refine isFolded_of_not_contains fun s hs => ?_
        have htoNat : (Char.ofNat (r.apply c.toNat)).toNat = r.apply c.toNat := by
          rw [Char.ofNat, dif_pos hvalid]
          rfl
        rw [htoNat]
        have hmisses := List.all_eq_true.1 (List.all_eq_true.1 lowerRuns_misses r hmem) s hs
        exact CaseRun.not_contains_apply hmisses hcontains
      · rw [Char.ofNat, dif_neg hvalid]
        exact @isFolded_toLower '\x00' (by decide)
    next hnone =>
      rw [List.mem_singleton.1 hd]
      exact ⟨by rw [lowerChar, if_neg hascii, if_neg hdotted, hnone], hc⟩

/-! ### Folded texts -/

theorem isFolded_of_mem_lowerFrom {before s : List Char} {d : Char} (hd : d ∈ lowerFrom before s) :
    IsFolded d := by
  induction s generalizing before with
  | nil => cases hd
  | cons c rest ih =>
    rw [lowerFrom] at hd
    rcases List.mem_append.1 hd with hd | hd
    · split_ifs at hd with hsigma hfinal
      · rw [List.mem_singleton.1 hd]
        exact isFolded_of_not_contains (by decide +kernel)
      · rw [List.mem_singleton.1 hd]
        exact isFolded_of_not_contains (by decide +kernel)
      · exact isFolded_of_mem_lowerChar hsigma hd
    · exact ih hd

/-- A text whose ASCII letters are folded is in lower case if nothing else is left to fold. -/
theorem lowerFrom_eq_map_toLower {before s : List Char} (h : ∀ c ∈ s, IsFolded c.toLower) :
    lowerFrom before s = s.map Char.toLower := by
  induction s generalizing before with
  | nil => rfl
  | cons c rest ih =>
    have hc := h c (List.mem_cons_self ..)
    have hrest : lowerFrom (c :: before) rest = rest.map Char.toLower :=
      ih fun d hd => h d (List.mem_cons_of_mem _ hd)
    rw [lowerFrom, hrest, List.map_cons]
    by_cases hascii : c.toNat < 0x80
    · rw [if_neg (by omega), lowerChar, if_pos hascii]
      rfl
    · rw [toLower_of_not_capital (by omega)] at hc ⊢
      rw [if_neg hc.not_sigma, hc.lowerChar_eq]
      rfl

theorem asciiLower_lowercase (s : String) : asciiLower (lowercase s) = lowercase s := by
  have hfolded : (lowerFrom [] s.toList).map Char.toLower = lowerFrom [] s.toList :=
    (List.map_congr_left fun c hc => (isFolded_of_mem_lowerFrom hc).toLower_eq).trans
      (List.map_id' _)
  rw [asciiLower, lowercase, String.toList_ofList, hfolded]

/-- Both foldings agree on the text: it has no capital beyond ASCII. -/
def IsPlain (s : String) : Prop := asciiLower s = lowercase s

instance : DecidablePred IsPlain := fun _ => inferInstanceAs (Decidable (_ = _))

theorem isPlain_of_asciiLower_eq {s t : String} (h : asciiLower s = lowercase t) : IsPlain s := by
  have hchars : s.toList.map Char.toLower = lowerFrom [] t.toList := String.ofList_injective h
  rw [IsPlain, lowercase, asciiLower, lowerFrom_eq_map_toLower]
  intro c hc
  exact isFolded_of_mem_lowerFrom (hchars ▸ List.mem_map_of_mem hc)

/-- A text that is not plain is the same as no lower case at all. -/
theorem sameIgnoringCase_lowercase_iff {s t : String} :
    sameIgnoringCase (lowercase s) t = true ↔ lowercase s = lowercase t ∧ IsPlain t := by
  rw [sameIgnoringCase, asciiLower_lowercase, beq_iff_eq]
  constructor
  · intro h
    have ht := isPlain_of_asciiLower_eq h.symm
    exact ⟨h.trans ht, ht⟩
  · rintro ⟨h, ht⟩
    exact h.trans ht.symm

end Text

open Text (lowercase asciiLower IsPlain)

/-! ### Ids -/

/-- Whether a writer can have left this id behind. -/
def IsWritten (id : String) : Prop := ∃ s, id = lowercase s

variable {x y : String}

theorem Node.hasId_iff {n : Node} (hn : IsWritten n.id) (hy : y ≠ "") :
    n.hasId y = true ↔ n.id = lowercase y ∧ IsPlain y := by
  obtain ⟨s, hs⟩ := hn
  rw [hasId, hs, Bool.and_eq_true, Text.sameIgnoringCase_lowercase_iff, bne_iff_ne]
  refine ⟨fun h => h.2, fun h => ⟨?_, h⟩⟩
  rw [h.1, Ne, Text.lowercase_eq_empty_iff]
  exact hy

theorem ne_empty_of_lowercase_eq (hx : x ≠ "") (hxy : lowercase x = lowercase y) : y ≠ "" := by
  rintro rfl
  exact hx (Text.lowercase_eq_empty_iff.1 (hxy.trans (Text.lowercase_eq_empty_iff.2 rfl)))

theorem find?_eq_of_iff {α : Type} {l : List α} {p q : α → Bool} {c : Prop} [Decidable c]
    (h : ∀ a ∈ l, p a = true ↔ q a = true ∧ c) :
    l.find? p = if c then l.find? q else none := by
  split_ifs with hc
  · exact List.find?_congr fun a ha => Bool.eq_iff_iff.2 ((h a ha).trans (and_iff_left hc))
  · exact List.find?_eq_none.2 fun a ha hp => hc ((h a ha).1 hp).2

namespace Pool

variable {d : Directory}

/-- The first node with an id, if `y` is plain, and else none. -/
theorem find?_hasId {l : List NodeRef} (hl : ∀ r ∈ l, IsWritten (d.node r).id) (hy : y ≠ "") :
    (l.find? fun r => (d.node r).hasId y) =
      if IsPlain y then l.find? fun r => (d.node r).id == lowercase y else none :=
  find?_eq_of_iff fun r hr => by rw [Node.hasId_iff (hl r hr) hy, beq_iff_eq]

theorem preferred_cons (p : Pool) (y : String) (rest : List String) :
    p.preferred d (y :: rest) =
      (p.active.find? fun r => (d.node r).hasId y).or (p.preferred d rest) := by
  rw [preferred, List.findSome?_cons]
  cases p.active.find? fun r => (d.node r).hasId y <;> rfl

end Pool

namespace Gossip

open Json

theorem id_of_ofValue {v : Value} {e : GossipEntry} (h : GossipEntry.ofValue v = .ok e) :
    e.id = lowercase (GossipEntry.textOf v "id") := by
  rw [GossipEntry.ofValue] at h
  split_ifs at h
  split at h
  · cases h
  · rw [← Except.ok.inj h]

theorem map_ofValue {items : List Value} {entries : List GossipEntry}
    (h : ofItems items = .ok entries) : items.map GossipEntry.ofValue = entries.map .ok := by
  induction items generalizing entries with
  | nil => exact (Except.ok.inj h) ▸ rfl
  | cons v rest ih =>
    rw [ofItems] at h
    split at h
    · cases h
    next e he =>
      split at h
      · cases h
      next others hothers => rw [← Except.ok.inj h, List.map_cons, List.map_cons, he, ih hothers]

theorem isWritten_of_mem {items : List Value} {entries : List GossipEntry}
    (h : ofItems items = .ok entries) {e : GossipEntry} (he : e ∈ entries) : IsWritten e.id := by
  obtain ⟨v, -, hv⟩ := List.mem_map.1 ((map_ofValue h).symm ▸ List.mem_map_of_mem he)
  exact ⟨_, id_of_ofValue hv⟩

end Gossip

open MetricRing.Topology (Member)
open MetricRing.Topology.Ring (compile compile_eq_ok)

/-- Whoever is given an id `x` is found under every other spelling `y` of it that is plain, among
nodes as among gossip entries, and under no spelling that is not, while the ring finds its first
member of that id under each. -/
theorem ids_found_iff_plain (hx : x ≠ "") (hxy : lowercase x = lowercase y) :
    (∀ (n : Node) (address : String) (report : NodeState), report.identity = x →
      ∀ m ∈ [Node.withId x address, n.setId x, n.applyState report],
        m.hasId y = decide (IsPlain y)) ∧
    (∀ (d : Directory) (p : Pool), (∀ r ∈ p.members, IsWritten (d.node r).id) →
      p.findById d y =
        (if IsPlain y then p.members.find? fun r => (d.node r).id == lowercase x else none) ∧
      ∀ rest, p.preferred d (y :: rest) =
        (if IsPlain y then p.active.find? fun r => (d.node r).id == lowercase x else none).or
          (p.preferred d rest)) ∧
    (∀ (items : List Json.Value) (entries : List GossipEntry), Gossip.ofItems items = .ok entries →
      (∀ v ∈ items, GossipEntry.textOf v "id" = x → ∃ e ∈ entries, e.id = lowercase x) ∧
      Gossip.ageOf entries y =
        (if IsPlain y then entries.find? fun e => e.id == lowercase x else none).map (·.age)) ∧
    ∀ members declared writeCopies ring, compile members declared writeCopies = .ok ring →
      ring.member? y =
        (members.find? fun m => lowercase m.id == lowercase x).map Member.lowered := by
  have hy := ne_empty_of_lowercase_eq hx hxy
  refine ⟨fun n address report hreport m hm => ?_, fun d p hp => ⟨?_, fun rest => ?_⟩,
    fun items entries hitems => ?_, fun members declared writeCopies ring hring => ?_⟩
  · have hid : m.id = lowercase x := by
      simp only [List.mem_cons, List.not_mem_nil, or_false] at hm
      rcases hm with rfl | rfl | rfl
      · rfl
      · rfl
      · rw [← hreport]
        rfl
    rw [Bool.eq_iff_iff, Node.hasId_iff ⟨x, hid⟩ hy, decide_eq_true_iff, hid, hxy]
    exact and_iff_right rfl
  · rw [hxy]
    exact Pool.find?_hasId hp hy
  · rw [hxy, Pool.preferred_cons,
      Pool.find?_hasId (fun r hr => hp r (List.mem_append_left _ hr)) hy]
  · constructor
    · intro v hv hid
      obtain ⟨e, he, hve⟩ := List.mem_map.1 (Gossip.map_ofValue hitems ▸ List.mem_map_of_mem hv)
      exact ⟨e, he, hid ▸ Gossip.id_of_ofValue hve.symm⟩
    · rw [hxy, Gossip.ageOf]
      congr 1
      refine find?_eq_of_iff fun e he => ?_
      obtain ⟨s, hs⟩ := Gossip.isWritten_of_mem hitems he
      rw [hs, Text.sameIgnoringCase_lowercase_iff, beq_iff_eq]
  · have hmembers : ring.members = members.map Member.lowered :=
      congrArg Topology.Ring.members (compile_eq_ok hring)
    rw [Topology.Ring.member?, hmembers, List.find?_map, hxy]
    rfl

/-- The two spellings are one id. The second has a capital of ASCII only, the first another. -/
theorem ids_found_of_accented :
    "ÉA" ≠ "" ∧ lowercase "ÉA" = lowercase "éA" ∧ lowercase "ÉA" = lowercase "ÉA" ∧
      (Node.withId "ÉA" "http://a").hasId "éA" = true ∧
      (Node.withId "ÉA" "http://a").hasId "ÉA" = false := by
  have hne : "ÉA" ≠ "" := by decide
  have hsame : lowercase "ÉA" = lowercase "éA" := by decide +kernel
  have hplain : IsPlain "éA" := by decide +kernel
  have hnot : ¬IsPlain "ÉA" := by decide +kernel
  have hfound := (ids_found_iff_plain hne hsame).1 { address := "http://a" } "http://a"
    ⟨"ÉA", "", "", ""⟩ rfl _ (List.mem_cons_self ..)
  have hlost := (ids_found_iff_plain hne rfl).1 { address := "http://a" } "http://a"
    ⟨"ÉA", "", "", ""⟩ rfl _ (List.mem_cons_self ..)
  exact ⟨hne, hsame, rfl, hfound.trans (decide_eq_true hplain), hlost.trans (decide_eq_false hnot)⟩

/-- Nothing but the ring finds the id `É` under its own spelling. -/
theorem accented_id_found_by_ring_only :
    (Node.withId "É" "http://a").hasId "É" = false ∧
    Pool.findById [Node.withId "É" "http://a"] ⟨[0], []⟩ "É" = none ∧
    Pool.preferred [Node.withId "É" "http://a"] ⟨[0], []⟩ ["É"] = none ∧
    (∃ entries, Gossip.ofItems [.object [("id", .string "É")]] = .ok entries ∧
      (Gossip.ageOf entries "É").isNone = true) ∧
    ∃ ring, compile [{ id := "É", address := "10.0.0.1" }] none 1 = .ok ring ∧
      (ring.member? "É").isSome = true :=
  ⟨by decide +kernel, by decide +kernel, by decide +kernel, ⟨_, rfl, by decide +kernel⟩,
    ⟨_, rfl, by decide +kernel⟩⟩

end MetricRing
