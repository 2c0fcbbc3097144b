import Mathlib.Data.List.Flatten
import MetricRing.Proofs.RingOrder

/-!
# What a digest tells apart

The bytes under a digest carry no lengths. Records of one topology have one width, and no number
of them is as wide as the trailer, so that within one mode the bytes spell out the number of
members, the imprint of each, and the write copies. The slots of a ring depend on the imprints
alone. What compiles under a digest is therefore what the digest was made of, up to a collision
of the hash function.
-/

namespace MetricRing

/-! ### Hexadecimal text -/

namespace Text

theorem hexDigit_inj : ∀ m < 16, ∀ n < 16, hexDigit m = hexDigit n → m = n := by decide

theorem toLower_hexDigit : ∀ n < 16, (hexDigit n).toLower = hexDigit n := by decide

theorem hexByte_injective : Function.Injective hexByte := by
  intro b c h
  obtain ⟨hhigh, hlow, -⟩ : hexDigit (b.toNat / 16) = hexDigit (c.toNat / 16) ∧
      hexDigit (b.toNat % 16) = hexDigit (c.toNat % 16) ∧ True := by
    simpa [hexByte] using h
  have hb := b.toNat_lt
  have hc := c.toNat_lt
  have hquot := hexDigit_inj _ (by omega) _ (by omega) hhigh
  have hrem := hexDigit_inj _ (by omega) _ (by omega) hlow
  exact UInt8.toNat_inj.1 (by omega)

theorem asciiLower_hex (bytes : List UInt8) : asciiLower (hex bytes) = hex bytes := by
  unfold asciiLower hex
  rw [String.toList_ofList, List.map_flatMap]
  congr 1
  refine List.flatMap_congr fun b _ => ?_
  have hb := b.toNat_lt
  simp only [hexByte, List.map_cons, List.map_nil]
  rw [toLower_hexDigit _ (by omega), toLower_hexDigit _ (by omega)]

/-- Digits compare as they stand: they are all in lower case. -/
theorem hex_eq_of_sameIgnoringCase {s : String} {bytes bytes' : List UInt8}
    (h : sameIgnoringCase s (hex bytes) = true) (h' : sameIgnoringCase s (hex bytes') = true) :
    hex bytes = hex bytes' := by
  rw [sameIgnoringCase, beq_iff_eq, asciiLower_hex] at h h'
  exact h.symm.trans h'

end Text

/-! ### Blocks of one width -/

/-- A row of blocks of one width tells its blocks, once their number is known. -/
theorem map_eq_of_flatMap_eq {α β : Type} {f : α → List β} {width : Nat}
    (hf : ∀ a, (f a).length = width) {l l' : List α} (hl : l.length = l'.length)
    (h : l.flatMap f = l'.flatMap f) : l.map f = l'.map f := by
  have hwidths : ∀ l : List α, (l.map f).map List.length = List.replicate l.length width := by
    intro l
    rw [List.map_map, List.eq_replicate_iff]
    exact ⟨by simp, by simpa using fun a _ => hf a⟩
  rw [List.eq_iff_flatten_eq, hwidths, hwidths, hl]
  exact ⟨by rwa [← List.flatMap_def, ← List.flatMap_def], rfl⟩

theorem length_flatMap_of_width {α β : Type} {f : α → List β} {width : Nat}
    (hf : ∀ a, (f a).length = width) (l : List α) : (l.flatMap f).length = l.length * width := by
  rw [List.length_flatMap, List.map_congr_left fun a _ => hf a]
  simp

theorem Text.hex_injective : Function.Injective hex := by
  intro bytes bytes' h
  have hchars : bytes.flatMap hexByte = bytes'.flatMap hexByte := String.ofList_injective h
  have hwidth : ∀ b, (hexByte b).length = 2 := fun _ => rfl
  have hlength := congrArg List.length hchars
  rw [length_flatMap_of_width hwidth, length_flatMap_of_width hwidth] at hlength
  exact List.map_injective_iff.2 hexByte_injective
    (map_eq_of_flatMap_eq hwidth (by omega) hchars)

namespace Topology

/-! ### Records and trailers -/

theorem length_paddedId (id : String) : (paddedId id).length = idWidth := by
  simp only [paddedId, List.length_append, List.length_replicate, List.length_take]
  omega

theorem bigEndian16_injective : Function.Injective bigEndian16 := by
  intro m n h
  obtain ⟨hhigh, hlow⟩ : (m >>> 8).toUInt8 = (n >>> 8).toUInt8 ∧ m.toUInt8 = n.toUInt8 := by
    simpa [bigEndian16] using h
  have hm := m.toNat_lt
  have hn := n.toNat_lt
  rw [← UInt8.toNat_inj] at hhigh hlow
  simp only [UInt16.toNat_toUInt8, UInt16.toNat_shiftRight, UInt16.reduceToNat,
    Nat.shiftRight_eq_div_pow, Nat.reduceMod, Nat.reducePow] at hhigh hlow
  exact UInt16.toNat_inj.1 (by omega)

theorem Side.digestByte_injective : Function.Injective Side.digestByte := by
  intro s t h
  cases s <;> cases t <;> first | rfl | exact absurd h (by decide)

def recordWidth (sided : Bool) : Nat := if sided then 41 else 40

theorem length_digestRecord (sided : Bool) (m : Member) :
    (digestRecord sided m).length = recordWidth sided := by
  cases sided <;> simp [digestRecord, recordWidth, length_paddedId, idWidth, bigEndian16]

theorem length_digestTrailer (writeCopies : UInt8) :
    (digestTrailer writeCopies).length = if writeCopies = nativeWriteCopies then 0 else 39 := by
  unfold digestTrailer
  split_ifs <;> simp

theorem digestTrailer_injective : Function.Injective digestTrailer := by
  intro w w' h
  unfold digestTrailer at h
  split_ifs at h with hw hw' hw'
  · rw [hw, hw']
  · simp at h
  · simp at h
  · simpa using h

theorem length_digestBytes (members : List Member) (sided : Bool) (writeCopies : UInt8) :
    (digestBytes members sided writeCopies).length =
      members.length * recordWidth sided + if writeCopies = nativeWriteCopies then 0 else 39 := by
  rw [digestBytes, List.length_append, length_flatMap_of_width (length_digestRecord sided),
    length_digestTrailer]

/-! ### Imprints -/

/-- What a digest takes in of a member, and what its slots depend on. -/
structure Imprint where
  id : List UInt8
  weight : UInt32
  side : Side
  deriving DecidableEq

def Member.imprint (m : Member) : Imprint := ⟨paddedId m.id, m.weight, m.side⟩

def Member.IsLight (m : Member) : Prop := m.weight.toNat ≤ maxWeight

instance (m : Member) : Decidable m.IsLight := inferInstanceAs (Decidable (_ ≤ _))

/-- A digest that leaves the sides out is for members that have none. -/
def Member.Fits (sided : Bool) (m : Member) : Prop := sided = false → m.side = .none

variable {members members' : List Member} {sided : Bool} {writeCopies writeCopies' : UInt8}

theorem fits_isSided {m : Member} (hm : m ∈ members) : m.Fits (isSided members) := by
  intro hunsided
  have hnone := List.any_eq_false.1 hunsided m hm
  simpa [Side.isDeclared] using hnone

theorem toUInt16_inj {v w : UInt32} (hv : v.toNat ≤ maxWeight) (hw : w.toNat ≤ maxWeight)
    (h : v.toUInt16 = w.toUInt16) : v = w := by
  rw [← UInt16.toNat_inj, UInt32.toNat_toUInt16, UInt32.toNat_toUInt16] at h
  unfold maxWeight at hv hw
  exact UInt32.toNat_inj.1 (by omega)

theorem digestRecord_true (m : Member) :
    digestRecord true m = digestRecord false m ++ [m.side.digestByte] := by
  simp [digestRecord]

theorem digestRecord_false_eq_iff {m n : Member} (hm : m.IsLight) (hn : n.IsLight) :
    digestRecord false m = digestRecord false n ↔
      paddedId m.id = paddedId n.id ∧ m.weight = n.weight := by
  constructor
  · intro h
    obtain ⟨hfront, -⟩ := List.append_inj h (by simp [length_paddedId, bigEndian16])
    obtain ⟨hzeros, hweight⟩ := List.append_inj hfront (by simp [length_paddedId])
    obtain ⟨hid, -⟩ := List.append_inj hzeros (by rw [length_paddedId, length_paddedId])
    exact ⟨hid, toUInt16_inj hm hn (bigEndian16_injective hweight)⟩
  · rintro ⟨hid, hweight⟩
    rw [digestRecord, digestRecord, hid, hweight]
    rfl

theorem digestRecord_eq_iff {m n : Member} (hm : m.IsLight) (hn : n.IsLight) (hms : m.Fits sided)
    (hns : n.Fits sided) : digestRecord sided m = digestRecord sided n ↔ m.imprint = n.imprint := by
  rw [Member.imprint, Member.imprint, Imprint.mk.injEq]
  cases sided with
  | false =>
    rw [digestRecord_false_eq_iff hm hn, hms rfl, hns rfl]
    exact ⟨fun h => ⟨h.1, h.2, rfl⟩, fun h => ⟨h.1, h.2.1⟩⟩
  | true =>
    rw [digestRecord_true, digestRecord_true, List.append_singleton_inj,
      digestRecord_false_eq_iff hm hn, Side.digestByte_injective.eq_iff, and_assoc]

theorem map_digestRecord_eq_iff (hl : ∀ m ∈ members, m.IsLight ∧ m.Fits sided)
    (hl' : ∀ m ∈ members', m.IsLight ∧ m.Fits sided) :
    members.map (digestRecord sided) = members'.map (digestRecord sided) ↔
      members.map Member.imprint = members'.map Member.imprint := by
  induction members generalizing members' with
  | nil => simp
  | cons m rest ih =>
    cases members' with
    | nil => simp
    | cons n rest' =>
      have hm := hl m List.mem_cons_self
      have hn := hl' n List.mem_cons_self
      rw [List.map_cons, List.map_cons, List.map_cons, List.map_cons, List.cons.injEq,
        List.cons.injEq, digestRecord_eq_iff hm.1 hn.1 hm.2 hn.2,
        ih (fun m hm => hl m (List.mem_cons_of_mem _ hm))
          fun m hm => hl' m (List.mem_cons_of_mem _ hm)]

/-- Within one mode the bytes spell out the imprints and the write copies. -/
theorem digestBytes_eq_iff (hl : ∀ m ∈ members, m.IsLight ∧ m.Fits sided)
    (hl' : ∀ m ∈ members', m.IsLight ∧ m.Fits sided) :
    digestBytes members sided writeCopies = digestBytes members' sided writeCopies' ↔
      members.map Member.imprint = members'.map Member.imprint ∧ writeCopies = writeCopies' := by
  constructor
  · intro h
    have hlength := congrArg List.length h
    rw [length_digestBytes, length_digestBytes] at hlength
    -- Neither 40 nor 41 divides the 39 bytes of a trailer.
    have hcount : members.length = members'.length := by
      cases sided <;> simp only [recordWidth, Bool.false_eq_true, if_true, if_false] at hlength <;>
        split_ifs at hlength <;> omega
    have hwidth := length_digestRecord sided
    obtain ⟨hrecords, htrailer⟩ := List.append_inj h
      (by rw [length_flatMap_of_width hwidth, length_flatMap_of_width hwidth, hcount])
    exact ⟨(map_digestRecord_eq_iff hl hl').1 (map_eq_of_flatMap_eq hwidth hcount hrecords),
      digestTrailer_injective htrailer⟩
  · rintro ⟨himprints, rfl⟩
    have hrecords := (map_digestRecord_eq_iff hl hl').2 himprints
    rw [digestBytes, digestBytes, List.flatMap_def, List.flatMap_def, hrecords]

theorem slots_eq_of_imprint {m n : Member} (h : m.imprint = n.imprint) (node : Nat) :
    m.slots node = n.slots node := by
  obtain ⟨hid, hweight, hside⟩ := Imprint.mk.inj h
  simp only [Member.slots, slotLocation, hid, hweight, hside]

theorem slotsFrom_eq_of_imprints (node : Nat)
    (h : members.map Member.imprint = members'.map Member.imprint) :
    slotsFrom node members = slotsFrom node members' := by
  induction members generalizing node members' with
  | nil => rw [List.map_eq_nil_iff.1 h.symm]
  | cons m rest ih =>
    cases members' with
    | nil => cases h
    | cons n rest' =>
      obtain ⟨hm, hrest⟩ := List.cons.inj h
      rw [slotsFrom, slotsFrom, slots_eq_of_imprint hm, ih (node + 1) hrest]

/-! ### Compiling under a declared digest -/

theorem normalized_of_isLight (h : ∀ m ∈ members, m.IsLight) :
    normalized members = .ok (members.map Member.lowered) := by
  induction members with
  | nil => rfl
  | cons m rest ih =>
    have hm : ¬ m.weight.toNat > maxWeight := Nat.not_lt.2 (h m List.mem_cons_self)
    rw [normalized, if_neg hm, ih fun m hm => h m (List.mem_cons_of_mem _ hm), List.map_cons]

theorem isLight_of_normalized {lowered : List Member} (h : normalized members = .ok lowered) :
    ∀ m ∈ members, m.IsLight := by
  induction members generalizing lowered with
  | nil => exact fun _ hm => absurd hm List.not_mem_nil
  | cons m rest ih =>
    unfold normalized at h
    split_ifs at h with hm
    split at h
    next hrest => exact List.forall_mem_cons.2 ⟨Nat.not_lt.1 hm, ih hrest⟩
    next => cases h

theorem isSided_map_lowered (members : List Member) :
    isSided (members.map Member.lowered) = isSided members := by
  rw [isSided, List.any_map]
  rfl

def compiledBytes (members : List Member) (writeCopies : UInt8) : List UInt8 :=
  digestBytes (members.map Member.lowered) (isSided members) writeCopies

def compiledDigest (members : List Member) (writeCopies : UInt8) : String :=
  digest (members.map Member.lowered) (isSided members) writeCopies

def compiledImprints (members : List Member) : List Imprint :=
  (members.map Member.lowered).map Member.imprint

theorem compiledBytes_eq_iff (hl : ∀ m ∈ members, m.IsLight) (hl' : ∀ m ∈ members', m.IsLight)
    (hmode : isSided members = isSided members') (writeCopies writeCopies' : UInt8) :
    compiledBytes members writeCopies = compiledBytes members' writeCopies' ↔
      compiledImprints members = compiledImprints members' ∧ writeCopies = writeCopies' := by
  have hfits : ∀ {l : List Member}, (∀ m ∈ l, m.IsLight) →
      ∀ m ∈ l.map Member.lowered, m.IsLight ∧ m.Fits (isSided l) := by
    intro l hl m hm
    obtain ⟨n, hn, rfl⟩ := List.mem_map.1 hm
    exact ⟨hl n hn, show n.Fits _ from fits_isSided hn⟩
  unfold compiledBytes
  rw [← hmode]
  exact digestBytes_eq_iff (hfits hl) (hmode ▸ hfits hl')

def Collide (bytes bytes' : List UInt8) : Prop :=
  bytes ≠ bytes' ∧ Hash.Sha256.digest bytes = Hash.Sha256.digest bytes'

instance (bytes bytes' : List UInt8) : Decidable (Collide bytes bytes') :=
  inferInstanceAs (Decidable (_ ∧ _))

theorem compiledDigest_ne_empty (members : List Member) (writeCopies : UInt8) :
    compiledDigest members writeCopies ≠ "" := by
  intro h
  have hempty : Hash.Sha256.digest (compiledBytes members writeCopies) = [] :=
    Text.hex_injective h
  simp [Hash.Sha256.digest, Hash.Sha256.State.bytes, Hash.Sha256.bigEndian] at hempty

namespace Ring

variable {declared : String} {r r' : Ring}

theorem compile_declared (hd : declared ≠ "") (hl : ∀ m ∈ members, m.IsLight) :
    compile members (some declared) writeCopies =
      if Text.sameIgnoringCase declared (compiledDigest members writeCopies) then
        .ok (build (members.map Member.lowered) (compiledDigest members writeCopies)
          (isSided members) writeCopies)
      else .error (.integrity declared (compiledDigest members writeCopies)) := by
  simp only [compile, normalized_of_isLight hl, Option.filter_some, bne_iff_ne.2 hd, if_true,
    isSided_map_lowered]
  rfl

/-- Members compile under the digest that compiling computes for them. -/
theorem compile_compiledDigest (writeCopies : UInt8) (hl : ∀ m ∈ members, m.IsLight) :
    compile members (some (compiledDigest members writeCopies)) writeCopies =
      .ok (build (members.map Member.lowered) (compiledDigest members writeCopies)
        (isSided members) writeCopies) :=
  (compile_declared (compiledDigest_ne_empty _ _) hl).trans (if_pos (beq_self_eq_true _))

theorem isLight_of_compile {declared : Option String}
    (h : compile members declared writeCopies = .ok r) : ∀ m ∈ members, m.IsLight := by
  unfold compile at h
  split at h
  · cases h
  next hlowered => exact isLight_of_normalized hlowered

theorem digest_of_compile (hd : declared ≠ "")
    (h : compile members (some declared) writeCopies = .ok r) :
    Text.sameIgnoringCase declared (compiledDigest members writeCopies) = true := by
  rw [compile_declared hd (isLight_of_compile h)] at h
  split_ifs at h with hsame
  exact hsame

/-- A declared digest refuses all bytes but those it was made of, short of a collision. -/
theorem compile_refuses (hd : declared ≠ "")
    (h : compile members (some declared) writeCopies = .ok r) (hl' : ∀ m ∈ members', m.IsLight)
    (hne : compiledBytes members writeCopies ≠ compiledBytes members' writeCopies')
    (hc : ¬ Collide (compiledBytes members writeCopies) (compiledBytes members' writeCopies')) :
    compile members' (some declared) writeCopies' =
      .error (.integrity declared (compiledDigest members' writeCopies')) := by
  rw [compile_declared hd hl']
  refine if_neg fun hsame => hc ⟨hne, ?_⟩
  exact Text.hex_injective (Text.hex_eq_of_sameIgnoringCase (digest_of_compile hd h) hsame)

/-- What compiles under one declared digest has been made of the same bytes. -/
theorem compiledBytes_eq_of_compile (hd : declared ≠ "")
    (h : compile members (some declared) writeCopies = .ok r)
    (h' : compile members' (some declared) writeCopies' = .ok r')
    (hc : ¬ Collide (compiledBytes members writeCopies) (compiledBytes members' writeCopies')) :
    compiledBytes members writeCopies = compiledBytes members' writeCopies' := by
  by_contra hne
  rw [compile_refuses hd h (isLight_of_compile h') hne hc] at h'
  cases h'

theorem slots_eq_of_compile {declared declared' : Option String}
    (h : compile members declared writeCopies = .ok r)
    (h' : compile members' declared' writeCopies' = .ok r')
    (himprints : compiledImprints members = compiledImprints members') : r'.slots = r.slots := by
  rw [compile_eq_ok h, compile_eq_ok h', build, build, slotsFrom_eq_of_imprints 0 himprints]

end Ring

/-- Within one mode the digest determines the ring. The bytes under it are equal just for members
with the same imprints in the same order and the same write copies. So all that compiles under
one declared digest has the same slots and write copies, and whatever else is changed is refused,
unless the hash function collides. -/
theorem digest_determines_ring :
    (∀ {l l' : List Member} {writeCopies writeCopies' : UInt8}, (∀ m ∈ l, m.IsLight) →
      (∀ m ∈ l', m.IsLight) → isSided l = isSided l' →
      (digestBytes l (isSided l) writeCopies = digestBytes l' (isSided l') writeCopies' ↔
        l.map Member.imprint = l'.map Member.imprint ∧ writeCopies = writeCopies')) ∧
    (∀ {members members' : List Member} {declared : String} {writeCopies writeCopies' : UInt8}
        {r : Ring}, declared ≠ "" → Ring.compile members (some declared) writeCopies = .ok r →
      (∀ m ∈ members', m.IsLight) → isSided members = isSided members' →
      ¬ Collide (compiledBytes members writeCopies) (compiledBytes members' writeCopies') →
      (∀ r', Ring.compile members' (some declared) writeCopies' = .ok r' →
        r'.slots = r.slots ∧ r'.writeCopies = r.writeCopies) ∧
      (compiledImprints members ≠ compiledImprints members' ∨ writeCopies ≠ writeCopies' →
        Ring.compile members' (some declared) writeCopies' =
          .error (.integrity declared (compiledDigest members' writeCopies')))) := by
  refine ⟨fun hl hl' hmode => ?_, fun hd h hl' hmode hc => ?_⟩
  · rw [← hmode]
    exact digestBytes_eq_iff (fun m hm => ⟨hl m hm, fits_isSided hm⟩)
      fun m hm => ⟨hl' m hm, hmode ▸ fits_isSided hm⟩
  · have hiff := compiledBytes_eq_iff (Ring.isLight_of_compile h) hl' hmode
    refine ⟨fun r' h' => ?_, fun hchange => ?_⟩
    · obtain ⟨himprints, hcopies⟩ := (hiff ..).1 (Ring.compiledBytes_eq_of_compile hd h h' hc)
      refine ⟨Ring.slots_eq_of_compile h h' himprints, ?_⟩
      rw [Ring.compile_eq_ok h, Ring.compile_eq_ok h', Ring.build, Ring.build, hcopies]
    · refine Ring.compile_refuses hd h hl' (fun hbytes => ?_) hc
      obtain ⟨himprints, hcopies⟩ := (hiff ..).1 hbytes
      exact hchange.elim (fun hne => hne himprints) fun hne => hne hcopies

def pair : List Member :=
  [{ id := "n1", address := "10.0.0.1", weight := 3 },
   { id := "n2", address := "10.0.0.2", weight := 1 }]

theorem digest_determines_ring_reverse :
    digestBytes pair false 2 ≠ digestBytes pair.reverse false 2 ∧
      Ring.compile pair.reverse (some (compiledDigest pair 2)) 2 =
        .error (.integrity (compiledDigest pair 2) (compiledDigest pair.reverse 2)) := by
  have hlight : ∀ m ∈ pair, m.IsLight := by decide
  have hlight' : ∀ m ∈ pair.reverse, m.IsLight := by decide
  constructor
  · intro h
    exact absurd ((digest_determines_ring.1 hlight hlight' rfl).1 h).1 (by decide +kernel)
  · have hcollide : ¬ Collide (compiledBytes pair 2) (compiledBytes pair.reverse 2) := by
      decide +kernel
    exact (digest_determines_ring.2 (compiledDigest_ne_empty pair 2)
      (Ring.compile_compiledDigest 2 hlight) hlight' rfl hcollide).2 (.inl (by decide +kernel))

end Topology
end MetricRing
