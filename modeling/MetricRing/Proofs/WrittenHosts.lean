import Mathlib.Data.List.InsertIdx
import MetricRing.Proofs.UrlTails

/-!
# Written hosts

A host is written in visible characters of ASCII: a domain name, the four numbers of an IPv4
address, or an IPv6 address in brackets. None of its characters ends a host or an authority, and no
colon stands outside the brackets.

A domain name is written label by label. What is read of a label has no characters of ASCII but
those of the label, since Punycode inserts only others, and it is written with these, hyphens,
digits and letters.
-/

namespace MetricRing.Address

namespace Domain

def IsWrittenChar (c : Char) : Prop := c.toNat < 0x80 ∧ isForbidden c = false

instance (c : Char) : Decidable (IsWrittenChar c) := by
  unfold IsWrittenChar
  infer_instance

/-- The characters of ASCII in a text may stand in written names. -/
def IsAllowed (s : List Char) : Prop := ∀ c ∈ s, c.toNat < 0x80 → isForbidden c = false

theorem IsAllowed.of_subset {s t : List Char} (ht : IsAllowed t) (hs : s ⊆ t) : IsAllowed s :=
  fun c hc => ht c (hs hc)

end Domain

open Domain (IsAllowed IsWrittenChar)

/-! ### Punycode -/

namespace Punycode

theorem isWrittenChar_digit {n : Nat} (hn : n < base) : IsWrittenChar (digit n) := by
  decide +revert

theorem isWrittenChar_of_mem_digits {bias place way : Nat} :
    ∀ c ∈ digits bias place way, IsWrittenChar c := by
  fun_induction digits bias place way with
  | case1 place way t hway =>
    exact List.forall_mem_singleton.2
      (isWrittenChar_digit (Nat.lt_trans hway (threshold_lt place bias)))
  | case2 place way t hway ih =>
    have hlt : t < base := threshold_lt place bias
    have hmod := Nat.mod_lt (way - t) (Nat.sub_pos_of_lt hlt)
    exact List.forall_mem_cons.2 ⟨isWrittenChar_digit (by omega), ih⟩

variable {label : List Char}

def Writer.IsPlain (w : Writer) : Prop := ∀ c ∈ w.written, IsWrittenChar c

theorem Writer.IsPlain.pass {w : Writer} (h : w.IsPlain) (basic n : Nat) (c : Char) :
    (w.pass basic n c).IsPlain := by
  unfold Writer.pass
  split_ifs
  · exact h
  · exact List.forall_mem_append.2 ⟨h, isWrittenChar_of_mem_digits⟩
  · exact h

theorem Writer.IsPlain.foldl_pass {w : Writer} (h : w.IsPlain) (basic n : Nat) :
    (label.foldl (Writer.pass basic n) w).IsPlain := by
  induction label generalizing w with
  | nil => exact h
  | cons c label ih => exact ih (h.pass basic n c)

theorem Writer.IsPlain.writeAll {w : Writer} (h : w.IsPlain) (basic : Nat) (ms : List Nat)
    (n : Nat) : (writeAll label basic ms n w).IsPlain := by
  induction ms generalizing n w with
  | nil => exact h
  | cons m ms ih =>
    rw [Punycode.writeAll]
    have hway : Writer.IsPlain { w with way := w.way + (m - n) * (w.done + 1) } := h
    apply ih
    exact hway.foldl_pass basic m

theorem isWrittenChar_of_mem_encode (h : IsAllowed label) :
    ∀ c ∈ encode label, IsWrittenChar c := by
  unfold encode
  have hstart : Writer.IsPlain { done := (label.filter isBasic).length } := fun c hc =>
    absurd hc List.not_mem_nil
  refine List.forall_mem_append.2 ⟨?_, hstart.writeAll _ _ _⟩
  have hbasic : ∀ c ∈ label.filter isBasic, IsWrittenChar c := by
    intro c hc
    obtain ⟨hc, hascii⟩ := List.mem_filter.1 hc
    exact ⟨of_decide_eq_true hascii, h c hc (of_decide_eq_true hascii)⟩
  split_ifs
  · exact fun c hc => absurd hc List.not_mem_nil
  · exact List.forall_mem_append.2 ⟨hbasic, List.forall_mem_singleton.2 (by decide)⟩

theorem isAllowed_of_readAll {n i bias : Nat} {s read : List Char} (hn : firstNumber ≤ n)
    (h : IsAllowed label) (hread : readAll label n i bias s = some read) : IsAllowed read := by
  fun_induction readAll label n i bias s with
  | case1 label => exact Option.some.inj hread ▸ h
  | case2 => cases hread
  | case3 label n i bias c rest way behind _ count number place hvalid ih =>
    -- The numbers only grow, so that what is inserted is beyond ASCII.
    have hnumber : firstNumber ≤ number := Nat.le_add_right_of_le hn
    have hinserted : (Char.ofNat number).toNat = number := by
      rw [Char.ofNat, dif_pos hvalid]
      rfl
    refine ih hnumber (fun d hd hascii => ?_) hread
    obtain rfl | hd := List.eq_or_mem_of_mem_insertIdx hd
    · exact absurd hnumber (Nat.not_le.2 (hinserted ▸ hascii))
    · exact h d hd hascii
  | case4 => cases hread

theorem isAllowed_of_decode? {s read : List Char} (h : IsAllowed s)
    (hread : decode? s = some read) : IsAllowed read := by
  have hbasic : (split s).1 ⊆ s := by
    unfold split
    dsimp only
    split_ifs
    · exact List.nil_subset s
    · exact List.take_subset _ s
  unfold decode? at hread
  dsimp only at hread
  split_ifs at hread
  exact isAllowed_of_readAll le_rfl (h.of_subset hbasic) hread

end Punycode

/-! ### Names in ASCII -/

namespace Label

variable {label : List Char}

theorem isAllowed_of_read? {s : List Char} (h : IsAllowed s) (hread : read? s = some label) :
    IsAllowed label := by
  unfold read? at hread
  split_ifs at hread
  · obtain ⟨l, hl, hread⟩ := Option.bind_eq_some_iff.1 hread
    split_ifs at hread
    cases hread
    exact Punycode.isAllowed_of_decode? (h.of_subset (List.drop_subset _ s)) hl
  · exact Option.some.inj hread ▸ h

theorem isWrittenChar_of_mem_write (h : IsAllowed label) : ∀ c ∈ write label, IsWrittenChar c := by
  unfold write
  split_ifs with hascii
  · intro c hc
    have hc' : c.toNat < 0x80 := of_decide_eq_true (List.all_eq_true.1 hascii c hc)
    exact ⟨hc', h c hc hc'⟩
  · have hopening : ∀ c ∈ opening, IsWrittenChar c := forall_mem_of_all (by decide)
    exact List.forall_mem_append.2 ⟨hopening, Punycode.isWrittenChar_of_mem_encode h⟩

end Label

namespace Domain

theorem subset_of_mem_labels {name label : List Char} (h : label ∈ labels name) :
    label ⊆ name := by
  fun_induction labels name generalizing label with
  | case1 => exact List.mem_singleton.1 h ▸ List.Subset.refl []
  | case2 rest ih =>
    rcases List.mem_cons.1 h with rfl | h
    · exact List.nil_subset _
    · exact List.subset_cons_of_subset '.' (ih h)
  | case3 c rest _ first more hrest ih =>
    rcases List.mem_cons.1 h with rfl | h
    · exact List.cons_subset_cons c (ih (hrest ▸ List.mem_cons_self))
    · exact List.subset_cons_of_subset c (ih (hrest ▸ List.mem_cons_of_mem first h))
  | case4 c rest =>
    rw [List.mem_singleton.1 h]
    exact List.cons_subset_cons c (List.nil_subset rest)

theorem mem_joined {labels : List (List Char)} {c : Char} (hc : c ∈ joined labels) :
    c = '.' ∨ ∃ label ∈ labels, c ∈ label := by
  induction labels with
  | nil => cases hc
  | cons label rest ih =>
    cases rest with
    | nil => exact Or.inr ⟨label, List.mem_cons_self, hc⟩
    | cons next rest =>
      have hc : c ∈ label ++ '.' :: joined (next :: rest) := hc
      rw [List.mem_append, List.mem_cons] at hc
      rcases hc with hc | rfl | hc
      · exact Or.inr ⟨label, List.mem_cons_self, hc⟩
      · exact Or.inl rfl
      · obtain hdot | ⟨l, hl, hcl⟩ := ih hc
        · exact Or.inl hdot
        · exact Or.inr ⟨l, List.mem_cons_of_mem label hl, hcl⟩

theorem mem_of_mapM_eq_some {α β : Type} {f : α → Option β} {l : List α} {r : List β}
    (h : l.mapM f = some r) : ∀ b ∈ r, ∃ a ∈ l, f a = some b := by
  induction l generalizing r with
  | nil =>
    cases h
    exact fun b hb => absurd hb List.not_mem_nil
  | cons a l ih =>
    rw [List.mapM_cons] at h
    obtain ⟨b, hb, h⟩ := Option.bind_eq_some_iff.1 h
    obtain ⟨rest, hrest, h⟩ := Option.bind_eq_some_iff.1 h
    obtain rfl := Option.some.inj h
    refine List.forall_mem_cons.2 ⟨⟨a, List.mem_cons_self, hb⟩, fun b' hb' => ?_⟩
    obtain ⟨a', ha', hf⟩ := ih hrest b' hb'
    exact ⟨a', List.mem_cons_of_mem a ha', hf⟩

theorem isWrittenChar_of_write? {name written : List Char} (h : write? name = some written) :
    ∀ c ∈ written, IsWrittenChar c := by
  unfold write? at h
  obtain ⟨read, hread, h⟩ := Option.bind_eq_some_iff.1 h
  dsimp only at h
  split_ifs at h with hsound
  cases h
  simp only [Bool.and_eq_true, Bool.not_eq_true', List.any_eq_false, Bool.not_eq_true] at hsound
  have hname : IsAllowed name := fun c hc _ => hsound.1.1 c hc
  intro c hc
  obtain rfl | ⟨label, hlabel, hc⟩ := mem_joined hc
  · decide
  · obtain ⟨l, hl, rfl⟩ := List.mem_map.1 hlabel
    obtain ⟨s, hs, hl⟩ := mem_of_mapM_eq_some hread l hl
    exact Label.isWrittenChar_of_mem_write
      (Label.isAllowed_of_read? (hname.of_subset (subset_of_mem_labels hs)) hl) c hc

theorem isWrittenChar_of_toAscii? {name written : List Char} (h : toAscii? name = some written) :
    ∀ c ∈ written, IsWrittenChar c := by
  unfold toAscii? at h
  obtain ⟨common, -, h⟩ := Option.bind_eq_some_iff.1 h
  split_ifs at h
  exact isWrittenChar_of_write? h

end Domain

/-! ### Addresses -/

def digitChars : List Char := "0123456789abcdef".toList

theorem mem_digitChars_of_toDigits {base n : Nat} {c : Char} (hbase : 1 < base) (hmax : base ≤ 16)
    (hc : c ∈ Nat.toDigits base n) : c ∈ digitChars := by
  have hdigit : ∀ d < 16, d.digitChar ∈ digitChars := by decide
  induction n using Nat.base_induction base hbase with
  | single d hd =>
    rw [Nat.toDigits_of_lt_base hd] at hc
    exact List.mem_singleton.1 hc ▸ hdigit d (hd.trans_le hmax)
  | digit n d hd hn ih =>
    rw [← Nat.toDigits_append_toDigits hbase hn hd, List.mem_append,
      Nat.toDigits_of_lt_base hd] at hc
    rcases hc with hc | hc
    · exact ih hc
    · exact List.mem_singleton.1 hc ▸ hdigit d (hd.trans_le hmax)

theorem mem_digitChars_of_toString {n : Nat} {c : Char} (hc : c ∈ (toString n).toList) :
    c ∈ digitChars := by
  rw [Nat.toString_eq_repr, Nat.toList_repr] at hc
  exact mem_digitChars_of_toDigits (by decide) (by decide) hc

theorem Ipv4.mem_text {n : Nat} {c : Char} (hc : c ∈ (text n).toList) :
    c = '.' ∨ ∃ k : Nat, c ∈ (toString k).toList := by
  have hdot : c ∈ ".".toList → c = '.' := List.mem_singleton.1
  simp only [text, String.toList_append, List.mem_append] at hc
  rcases hc with (((((hc | hc) | hc) | hc) | hc) | hc) | hc
  · exact Or.inr ⟨_, hc⟩
  · exact Or.inl (hdot hc)
  · exact Or.inr ⟨_, hc⟩
  · exact Or.inl (hdot hc)
  · exact Or.inr ⟨_, hc⟩
  · exact Or.inl (hdot hc)
  · exact Or.inr ⟨_, hc⟩

namespace Ipv6

theorem mem_joined {groups : List Nat} {c : Char} (hc : c ∈ (joined groups).toList) :
    c = ':' ∨ c ∈ digitChars := by
  induction groups with
  | nil => cases hc
  | cons n rest ih =>
    have hnumber {c : Char} (h : c ∈ (String.ofList (Nat.toDigits 16 n)).toList) :
        c ∈ digitChars := by
      rw [String.toList_ofList] at h
      exact mem_digitChars_of_toDigits (by decide) (by decide) h
    cases rest with
    | nil =>
      rw [joined, List.map_singleton, String.intercalate_singleton] at hc
      exact Or.inr (hnumber hc)
    | cons next rest =>
      rw [joined, List.map_cons, List.map_cons, String.intercalate_cons_cons, String.toList_append,
        String.toList_append, List.mem_append, List.mem_append] at hc
      rcases hc with (hc | hc) | hc
      · exact Or.inr (hnumber hc)
      · exact Or.inl (List.mem_singleton.1 hc)
      · exact ih hc

theorem mem_text {groups : List Nat} {c : Char} (hc : c ∈ (text groups).toList) :
    c = ':' ∨ c ∈ digitChars := by
  unfold text at hc
  dsimp only at hc
  split_ifs at hc
  · exact mem_joined hc
  · rw [String.toList_append, String.toList_append, List.mem_append, List.mem_append] at hc
    rcases hc with (hc | hc) | hc
    · exact mem_joined hc
    · have hcolon : ∀ c ∈ "::".toList, c = ':' := forall_mem_of_all (by decide)
      exact Or.inl (hcolon c hc)
    · exact mem_joined hc

end Ipv6

/-! ### Hosts -/

namespace Url

/-- A character inside an authority that does not end the user information. -/
def IsInside (c : Char) : Prop := IsVisible c ∧ endsAuthority true c = false ∧ c ≠ '@'

instance (c : Char) : Decidable (IsInside c) := by
  unfold IsInside
  infer_instance

/-- A host as it stands before a port. -/
structure IsHost (h : List Char) : Prop where
  ne_nil : h ≠ []
  inside : ∀ c ∈ h, IsInside c
  length : ∀ rest, (∀ c ∈ rest.head?, c = ':') → hostLength false (h ++ rest) = h.length

variable {h rest : List Char}

theorem hostLength_of_port (hrest : ∀ c ∈ rest.head?, c = ':') : hostLength false rest = 0 := by
  cases rest with
  | nil => rfl
  | cons c rest => exact if_pos ⟨hrest c rfl, rfl⟩

theorem hostLength_of_plain (hh : ∀ c ∈ h, c ≠ ':' ∧ c ≠ '[')
    (hrest : ∀ c ∈ rest.head?, c = ':') : hostLength false (h ++ rest) = h.length := by
  induction h with
  | nil => exact hostLength_of_port hrest
  | cons c h ih =>
    obtain ⟨⟨hcolon, hopen⟩, hh⟩ := List.forall_mem_cons.1 hh
    rw [List.cons_append, hostLength, if_neg fun hc => hcolon hc.1, if_neg hopen, ite_self, ih hh,
      List.length_cons]

theorem hostLength_in_brackets (hh : ∀ c ∈ h, c ≠ ']') :
    hostLength true (h ++ ']' :: rest) = h.length + hostLength false rest + 1 := by
  induction h with
  | nil => rw [List.nil_append, hostLength, if_neg nofun, List.length_nil, Nat.zero_add]; rfl
  | cons c h ih =>
    obtain ⟨hclose, hh⟩ := List.forall_mem_cons.1 hh
    rw [List.cons_append, hostLength, if_neg fun hc => absurd hc.2 (by decide), if_neg hclose,
      ite_self, ih hh, List.length_cons]
    omega

theorem hostLength_of_bracketed (hh : ∀ c ∈ h, c ≠ ']') (hrest : ∀ c ∈ rest.head?, c = ':') :
    hostLength false ('[' :: (h ++ ']' :: rest)) = h.length + 2 := by
  rw [hostLength, if_neg fun hc => absurd hc.1 (by decide), if_pos rfl, hostLength_in_brackets hh,
    hostLength_of_port hrest]

theorem ne_of_class {p : Char → Bool} {c d : Char} (hc : p c = false) (hd : p d = true) : c ≠ d :=
  fun heq => Bool.eq_false_iff.1 hc (heq ▸ hd)

/-- Visible characters are inside, if they belong to no class that holds all that ends a part. -/
theorem isInside_of_class {p : Char → Bool} {c : Char} (hc : p c = false)
    (hp : ∀ d ∈ ['/', '?', '#', '\\', '@'], p d = true) (hvisible : IsVisible c) : IsInside c := by
  have hne {d : Char} (hd : d ∈ ['/', '?', '#', '\\', '@']) : c ≠ d := ne_of_class hc (hp d hd)
  refine ⟨hvisible, ?_, hne (by decide)⟩
  rw [endsAuthority, beq_false_of_ne (hne (d := '/') (by decide)),
    beq_false_of_ne (hne (d := '?') (by decide)), beq_false_of_ne (hne (d := '#') (by decide)),
    beq_false_of_ne (hne (d := '\\') (by decide))]
  rfl

theorem isInside_of_isWrittenChar {c : Char} (hc : IsWrittenChar c) :
    IsInside c ∧ c ≠ ':' ∧ c ≠ '[' := by
  obtain ⟨hascii, hallowed⟩ := hc
  have hspace : ¬c.toNat ≤ 0x20 := fun hle => absurd hallowed (by
    rw [Domain.isForbidden, decide_eq_true hle]
    nofun)
  have hdelete : c.toNat ≠ 0x7F := fun heq => absurd hallowed (by
    rw [Domain.isForbidden, heq]
    nofun)
  have hvisible : IsVisible c := by
    unfold IsVisible
    omega
  exact ⟨isInside_of_class hallowed (forall_mem_of_all (by decide)) hvisible,
    ne_of_class hallowed (by decide), ne_of_class hallowed (by decide)⟩

theorem isInside_of_digitChars : ∀ c ∈ digitChars, IsInside c ∧ c ≠ ':' ∧ c ≠ '[' :=
  forall_mem_of_all (by decide)

theorem isHost_of_plain (hne : h ≠ []) (hh : ∀ c ∈ h, IsInside c ∧ c ≠ ':' ∧ c ≠ '[') :
    IsHost h where
  ne_nil := hne
  inside c hc := (hh c hc).1
  length _ := hostLength_of_plain fun c hc => (hh c hc).2

theorem ipv6Host_eq_ok {s : List Char} {name : String} (hs : ipv6Host s = .ok name) :
    ∃ groups, name.toList = '[' :: ((Ipv6.text groups).toList ++ [']']) := by
  unfold ipv6Host at hs
  split at hs
  · split at hs
    · next groups _ =>
      cases hs
      refine ⟨groups, ?_⟩
      rw [String.toList_append, String.toList_append]
      rfl
    · cases hs
  · cases hs

theorem domainHost_eq_ok {s : List Char} {name : String} (hs : domainHost s = .ok name) :
    (∃ n, name = Ipv4.text n) ∨
      ∃ decoded, Domain.toAscii? decoded = some name.toList ∧ name.toList ≠ [] := by
  unfold domainHost at hs
  dsimp only at hs
  split at hs
  · cases hs
  · next written hwritten =>
    split_ifs at hs with hempty
    · split at hs
      · next n _ =>
        cases hs
        exact Or.inl ⟨n, rfl⟩
      · cases hs
    · cases hs
      rw [String.toList_ofList]
      exact Or.inr ⟨_, hwritten, fun hnil => hempty (List.isEmpty_iff.2 hnil)⟩

theorem isHost_of_ipv6Host {s : List Char} {name : String} (hs : ipv6Host s = .ok name) :
    IsHost name.toList := by
  obtain ⟨groups, hname⟩ := ipv6Host_eq_ok hs
  have hgroup : ∀ c ∈ ':' :: digitChars, IsInside c ∧ c ≠ ']' := forall_mem_of_all (by decide)
  have hinside : ∀ c ∈ (Ipv6.text groups).toList, IsInside c ∧ c ≠ ']' := fun c hc =>
    hgroup c (List.mem_cons.2 (Ipv6.mem_text hc))
  rw [hname]
  refine ⟨List.cons_ne_nil _ _, ?_, fun rest hrest => ?_⟩
  · have hclose : ∀ c ∈ [']'], IsInside c := List.forall_mem_singleton.2 (by decide)
    refine List.forall_mem_cons.2 ⟨by decide, List.forall_mem_append.2 ⟨?_, hclose⟩⟩
    exact fun c hc => (hinside c hc).1
  · rw [List.cons_append, List.append_assoc, List.length_cons, List.length_append]
    exact hostLength_of_bracketed (fun c hc => (hinside c hc).2) hrest

theorem isHost_of_domainHost {s : List Char} {name : String} (hs : domainHost s = .ok name) :
    IsHost name.toList := by
  obtain ⟨n, rfl⟩ | ⟨decoded, hwritten, hne⟩ := domainHost_eq_ok hs
  · have hdot : '.' ∈ (Ipv4.text n).toList := by
      simp only [Ipv4.text, String.toList_append, List.mem_append]
      exact Or.inl (Or.inr (List.mem_singleton.2 rfl))
    refine isHost_of_plain (List.ne_nil_of_mem hdot) fun c hc => ?_
    obtain rfl | ⟨k, hk⟩ := Ipv4.mem_text hc
    · decide
    · exact isInside_of_digitChars c (mem_digitChars_of_toString hk)
  · exact isHost_of_plain hne fun c hc =>
      isInside_of_isWrittenChar (Domain.isWrittenChar_of_toAscii? hwritten c hc)

/-- The host of a web URL is written so that it is found again. -/
theorem isHost_of_hostText {s : List Char} {name : String} (hs : hostText true s = .ok name) :
    IsHost name.toList := by
  unfold hostText at hs
  split at hs
  · exact isHost_of_ipv6Host hs
  · exact isHost_of_domainHost hs

end Url

end MetricRing.Address
