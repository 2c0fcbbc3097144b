import Mathlib.Data.List.DropRight
import MetricRing.Address.Normalize

/-!
# The ends of URLs

Path, query and fragment of a URL as they are written: each has its own characters escaped, and no
segment of a path is a dot or a double dot. What is written so is read back as it is, also without
the slashes at its end.
-/

namespace MetricRing.Address

/-- What a list is checked for character by character. -/
theorem forall_mem_of_all {s : List Char} {p : Char → Prop} [DecidablePred p]
    (h : (s.all fun c => decide (p c)) = true) : ∀ c ∈ s, p c :=
  fun c hc => of_decide_eq_true (List.all_eq_true.1 h c hc)

/-! ### Escaped characters -/

def escapeChars : List Char := '%' :: "0123456789ABCDEF".toList

theorem mem_escapeChars_of_percentByte {b : UInt8} {c : Char} (hc : c ∈ percentByte b) :
    c ∈ escapeChars := by
  have hdigit : ∀ n < 16, (Text.hexDigit n).toUpper ∈ escapeChars := by decide
  have hhigh : b.toNat / 16 < 16 := Nat.div_lt_of_lt_mul b.toNat_lt
  have hlow : b.toNat % 16 < 16 := Nat.mod_lt _ (by decide)
  simp only [percentByte, Text.hexByte, List.map_cons, List.map_nil, List.mem_cons,
    List.not_mem_nil, or_false] at hc
  rcases hc with rfl | rfl | rfl
  · decide
  · exact hdigit _ hhigh
  · exact hdigit _ hlow

variable {escaped : Char → Bool} {s : List Char} {c : Char}

theorem mem_percentEncode (hc : c ∈ percentEncode escaped s) :
    c ∈ escapeChars ∨ c ∈ s ∧ escaped c = false := by
  obtain ⟨d, hd, hc⟩ := List.mem_flatMap.1 hc
  split_ifs at hc with he
  · obtain ⟨b, -, hb⟩ := List.mem_flatMap.1 hc
    exact Or.inl (mem_escapeChars_of_percentByte hb)
  · obtain rfl := List.mem_singleton.1 hc
    exact Or.inr ⟨hd, Bool.eq_false_iff.2 he⟩

/-- No character of the text has to be escaped. -/
def IsSpared (escaped : Char → Bool) (s : List Char) : Prop := ∀ c ∈ s, escaped c = false

theorem IsSpared.percentEncode_eq (h : IsSpared escaped s) : percentEncode escaped s = s := by
  induction s with
  | nil => rfl
  | cons c s ih =>
    have hc : ¬escaped c = true := Bool.eq_false_iff.1 (h c List.mem_cons_self)
    have hs : percentEncode escaped s = s := ih fun d hd => h d (List.mem_cons_of_mem c hd)
    exact congrArg₂ List.append (if_neg hc) hs

theorem isSpared_percentEncode (h : IsSpared escaped escapeChars) (s : List Char) :
    IsSpared escaped (percentEncode escaped s) :=
  fun c hc => (mem_percentEncode hc).elim (h c) And.right

theorem isSpared_escapeChars : IsSpared inUserinfo escapeChars ∧ IsSpared inPath escapeChars ∧
    IsSpared inQuery escapeChars ∧ IsSpared inFragment escapeChars :=
  ⟨forall_mem_of_all (by decide), forall_mem_of_all (by decide), forall_mem_of_all (by decide),
    forall_mem_of_all (by decide)⟩

def IsVisible (c : Char) : Prop := 0x21 ≤ c.toNat ∧ c.toNat < 0x7F

instance (c : Char) : Decidable (IsVisible c) := by
  unfold IsVisible
  infer_instance

theorem isVisible_of_spared (hcontrol : isControl c = false) (hspace : (c == ' ') = false) :
    IsVisible c := by
  have hspace' : c.toNat ≠ 0x20 := fun h => by
    rw [show c = ' ' from Char.ext (UInt32.toNat_inj.1 h)] at hspace
    exact absurd hspace (by decide)
  simp only [isControl, Bool.or_eq_false_iff, decide_eq_false_iff_not] at hcontrol
  unfold IsVisible
  omega

theorem isVisible_of_inFragment (h : inFragment c = false) : IsVisible c := by
  simp only [inFragment, Bool.or_eq_false_iff] at h
  exact isVisible_of_spared h.1.1.1.1.1 h.1.1.1.1.2

theorem isVisible_of_inPath (h : inPath c = false) : IsVisible c := by
  simp only [inPath, Bool.or_eq_false_iff] at h
  exact isVisible_of_inFragment h.1.1.1.1

theorem isVisible_of_inUserinfo (h : inUserinfo c = false) : IsVisible c := by
  simp only [inUserinfo, Bool.or_eq_false_iff] at h
  exact isVisible_of_inPath h.1.1.1.1.1.1.1.1.1.1

theorem isVisible_of_inQuery (h : inQuery c = false) : IsVisible c := by
  simp only [inQuery, Bool.or_eq_false_iff] at h
  exact isVisible_of_spared h.1.1.1.1.1.1 h.1.1.1.1.1.2

namespace Url

/-- A run of characters ends where one comes that does not belong to it. -/
theorem span_eq {p : Char → Bool} {s t : List Char} (hs : ∀ c ∈ s, p c = true)
    (ht : ∀ c ∈ t.head?, p c = false) : (s ++ t).takeWhile p = s ∧ (s ++ t).dropWhile p = t := by
  rw [List.takeWhile_append_of_pos hs, List.dropWhile_append_of_pos hs]
  cases t with
  | nil => exact ⟨List.append_nil s, rfl⟩
  | cons c t =>
    have hc : ¬p c = true := Bool.eq_false_iff.1 (ht c rfl)
    rw [List.takeWhile_cons_of_neg hc, List.dropWhile_cons_of_neg hc]
    exact ⟨List.append_nil s, rfl⟩

/-! ### Paths -/

structure IsSegment (d : List Char) : Prop where
  spared : IsSpared inPath d
  unslashed : ∀ c ∈ d, ¬(c = '/' ∨ c = '\\')
  notDot : isDot d = false
  notDoubleDot : isDoubleDot d = false

theorem isSegment_nil : IsSegment [] :=
  ⟨fun c hc => absurd hc List.not_mem_nil, fun c hc => absurd hc List.not_mem_nil, by decide,
    by decide⟩

theorem isSegment_percentEncode {d : List Char} (hd : ∀ c ∈ d, ¬(c = '/' ∨ c = '\\'))
    (hdot : ¬isDot (percentEncode inPath d) = true)
    (hdots : ¬isDoubleDot (percentEncode inPath d) = true) :
    IsSegment (percentEncode inPath d) where
  spared := isSpared_percentEncode isSpared_escapeChars.2.1 d
  unslashed := by
    have hescape : ∀ c ∈ escapeChars, ¬(c = '/' ∨ c = '\\') := forall_mem_of_all (by decide)
    exact fun c hc => (mem_percentEncode hc).elim (hescape c) fun h => hd c h.1
  notDot := Bool.eq_false_iff.2 hdot
  notDoubleDot := Bool.eq_false_iff.2 hdots

theorem subset_parent (ds : List (List Char)) : parent ds ⊆ ds := by
  cases ds with
  | nil => exact List.Subset.refl _
  | cons d ds =>
    rw [parent]
    split_ifs
    · exact List.Subset.refl _
    · exact List.subset_cons_self d ds

theorem isSegment_of_mem_resolve {directories : List (List Char)} {segment : List Char}
    (hdirectories : ∀ d ∈ directories, IsSegment d)
    (hsegment : ∀ c ∈ segment, ¬(c = '/' ∨ c = '\\')) :
    ∀ d ∈ resolve directories segment s, IsSegment d := by
  have hempty {ds : List (List Char)} (hds : ∀ d ∈ ds, IsSegment d) : ∀ d ∈ [] :: ds, IsSegment d :=
    List.forall_mem_cons.2 ⟨isSegment_nil, hds⟩
  have hlast {segment : List Char} (h : ∀ c ∈ segment, ¬(c = '/' ∨ c = '\\')) :
      ∀ c ∈ segment.reverse, ¬(c = '/' ∨ c = '\\') := fun c hc => h c (List.mem_reverse.1 hc)
  induction s generalizing directories segment with
  | nil =>
    intro d hd
    rw [resolve] at hd
    split_ifs at hd with hdots hdot
    · exact hempty (fun d hd => hdirectories d (subset_parent _ hd)) d (List.mem_reverse.1 hd)
    · exact hempty hdirectories d (List.mem_reverse.1 hd)
    · have hname := isSegment_percentEncode (hlast hsegment) hdot hdots
      exact List.forall_mem_cons.2 ⟨hname, hdirectories⟩ d (List.mem_reverse.1 hd)
  | cons c rest ih =>
    rw [resolve]
    dsimp only
    split_ifs with hslash hdots hdot
    · exact ih (fun d hd => hdirectories d (subset_parent _ hd)) fun c hc =>
        absurd hc List.not_mem_nil
    · exact ih hdirectories fun c hc => absurd hc List.not_mem_nil
    · have hname := isSegment_percentEncode (hlast hsegment) hdot hdots
      exact ih (List.forall_mem_cons.2 ⟨hname, hdirectories⟩) fun c hc =>
        absurd hc List.not_mem_nil
    · exact ih hdirectories (List.forall_mem_cons.2 ⟨hslash, hsegment⟩)

theorem resolve_ne_nil (directories : List (List Char)) (segment s : List Char) :
    resolve directories segment s ≠ [] := by
  have hreverse (d : List Char) (ds : List (List Char)) : (d :: ds).reverse ≠ [] :=
    mt List.reverse_eq_nil_iff.1 (List.cons_ne_nil d ds)
  induction s generalizing directories segment with
  | nil =>
    rw [resolve]
    split_ifs
    all_goals exact hreverse _ _
  | cons c rest ih =>
    rw [resolve]
    dsimp only
    split_ifs
    all_goals exact ih _ _

theorem resolve_append {directories : List (List Char)} {d : List Char}
    (hd : ∀ c ∈ d, ¬(c = '/' ∨ c = '\\')) (segment : List Char) :
    resolve directories segment (d ++ s) = resolve directories (d.reverse ++ segment) s := by
  induction d generalizing segment with
  | nil => rfl
  | cons c d ih =>
    obtain ⟨hc, hd⟩ := List.forall_mem_cons.1 hd
    rw [List.cons_append, resolve, if_neg hc, ih hd, List.reverse_cons, List.append_assoc]
    rfl

def slashed (segments : List (List Char)) : List Char := segments.flatMap fun d => '/' :: d

theorem resolve_slashed {directories segments : List (List Char)} {d : List Char}
    (hd : IsSegment d) (hsegments : ∀ d ∈ segments, IsSegment d) :
    resolve directories [] (d ++ slashed segments) = directories.reverse ++ d :: segments := by
  induction segments generalizing directories d with
  | nil =>
    rw [resolve_append hd.unslashed, slashed, List.flatMap_nil, resolve, List.append_nil,
      List.reverse_reverse, hd.spared.percentEncode_eq,
      if_neg (Bool.eq_false_iff.1 hd.notDoubleDot), if_neg (Bool.eq_false_iff.1 hd.notDot),
      List.reverse_cons]
  | cons e segments ih =>
    obtain ⟨he, hsegments⟩ := List.forall_mem_cons.1 hsegments
    have hnext : slashed (e :: segments) = '/' :: (e ++ slashed segments) := List.flatMap_cons
    rw [resolve_append hd.unslashed, hnext, resolve, if_pos (Or.inl rfl), List.append_nil,
      List.reverse_reverse, hd.spared.percentEncode_eq]
    dsimp only
    rw [if_neg (Bool.eq_false_iff.1 hd.notDoubleDot), if_neg (Bool.eq_false_iff.1 hd.notDot),
      ih he hsegments, List.reverse_cons, List.append_assoc]
    rfl

/-! ### Slashes at the end -/

def bare (s : List Char) : List Char := s.rdropWhile (· == '/')

theorem bare_concat (s : List Char) (c : Char) :
    bare (s ++ [c]) = if c = '/' then bare s else s ++ [c] := by
  rw [bare, List.rdropWhile_concat]
  split_ifs with hc hslash hslash
  · rfl
  · exact absurd (eq_of_beq hc) hslash
  · exact absurd (beq_iff_eq.2 hslash) hc
  · rfl

theorem bare_eq_self {s : List Char} (hs : s.getLast? ≠ some '/') : bare s = s := by
  induction s using List.reverseRecOn with
  | nil => rfl
  | append_singleton s c _ =>
    rw [List.getLast?_concat] at hs
    rw [bare_concat, if_neg fun hc => hs (congrArg some hc)]

theorem getLast?_bare (s : List Char) : (bare s).getLast? ≠ some '/' := by
  induction s using List.reverseRecOn with
  | nil => exact nofun
  | append_singleton s c ih =>
    rw [bare_concat]
    split_ifs with hc
    · exact ih
    · rw [List.getLast?_concat]
      exact fun h => hc (Option.some.inj h)

theorem bare_append {s t : List Char} (hs : s.getLast? ≠ some '/') :
    bare (s ++ t) = s ++ bare t := by
  induction t using List.reverseRecOn with
  | nil =>
    rw [List.append_nil, bare_eq_self hs]
    exact (List.append_nil s).symm
  | append_singleton t c ih =>
    rw [← List.append_assoc, bare_concat, bare_concat]
    split_ifs
    · exact ih
    · rw [List.append_assoc]

theorem exists_bare_append (s : List Char) : ∃ slashes, bare s ++ slashes = s :=
  List.rdropWhile_prefix _ s

theorem bare_subset (s : List Char) : bare s ⊆ s := by
  obtain ⟨slashes, hslashes⟩ := exists_bare_append s
  exact fun c hc => hslashes ▸ List.mem_append_left slashes hc

theorem slashed_concat (segments : List (List Char)) (d : List Char) :
    slashed (segments ++ [d]) = slashed segments ++ '/' :: d := by
  rw [slashed, List.flatMap_append, List.flatMap_singleton]
  rfl

/-- Of a path the empty segments at the end go. -/
theorem bare_slashed {segments : List (List Char)} (h : ∀ d ∈ segments, IsSegment d) :
    ∃ segments', (∀ d ∈ segments', IsSegment d) ∧ bare (slashed segments) = slashed segments' := by
  induction segments using List.reverseRecOn with
  | nil => exact ⟨[], h, rfl⟩
  | append_singleton segments d ih =>
    rw [slashed_concat]
    cases hd : d.getLast? with
    | none =>
      rw [List.getLast?_eq_none_iff.1 hd, bare_concat, if_pos rfl]
      exact ih fun d hd => h d (List.mem_append_left _ hd)
    | some c =>
      refine ⟨segments ++ [d], h, ?_⟩
      have hdirectory : IsSegment d := h d (List.mem_append_right _ List.mem_cons_self)
      have hc : c ≠ '/' := fun hslash =>
        hdirectory.unslashed c (List.mem_of_getLast? hd) (Or.inl hslash)
      have hlast : (slashed segments ++ '/' :: d).getLast? = some c := by
        rw [List.getLast?_append, List.getLast?_cons, hd]
        rfl
      rw [slashed_concat]
      exact bare_eq_self fun hslash => hc (Option.some.inj (hlast.symm.trans hslash))

/-! ### Path, query and fragment -/

/-- What is written behind the authority of a URL. -/
structure Tail where
  segments : List (List Char)
  query : Option (List Char) := none
  fragment : Option (List Char) := none

namespace Tail

def queryText (t : Tail) : List Char := (t.query.map ('?' :: ·)).getD []

def fragmentText (t : Tail) : List Char := (t.fragment.map ('#' :: ·)).getD []

def text (t : Tail) : List Char := slashed t.segments ++ (t.queryText ++ t.fragmentText)

structure IsWritten (t : Tail) : Prop where
  segments : ∀ d ∈ t.segments, IsSegment d
  query : ∀ s ∈ t.query, IsSpared inQuery s
  fragment : ∀ s ∈ t.fragment, IsSpared inFragment s

def unrooted (s : List Char) : List Char :=
  if s.head? = some '/' ∨ s.head? = some '\\' then s.tail else s

def read (s : List Char) : Tail where
  segments := resolve [] [] (unrooted (s.takeWhile fun c => !isQueryStart c))
  query := (queryOf (s.dropWhile fun c => !isQueryStart c)).map String.toList
  fragment := (fragmentOf s).map String.toList

theorem pathText_eq (s : List Char) :
    pathText s = String.ofList (slashed (resolve [] [] (unrooted s))) := by
  unfold pathText unrooted
  split
  · rfl
  · rfl
  · next hslash hback =>
    have hroot : ¬(s.head? = some '/' ∨ s.head? = some '\\') := by
      rintro (h | h)
      · obtain ⟨rest, rfl⟩ := List.head?_eq_some_iff.1 h
        exact hslash rest rfl
      · obtain ⟨rest, rfl⟩ := List.head?_eq_some_iff.1 h
        exact hback rest rfl
    rw [if_neg hroot]
    rfl

theorem isWritten_read (s : List Char) : (read s).IsWritten where
  segments := isSegment_of_mem_resolve (fun d hd => absurd hd List.not_mem_nil) fun c hc =>
    absurd hc List.not_mem_nil
  query := by
    intro q hq
    obtain ⟨text, htext, rfl⟩ := Option.map_eq_some_iff.1 hq
    unfold queryOf at htext
    split at htext
    · cases htext
      rw [String.toList_ofList]
      exact isSpared_percentEncode isSpared_escapeChars.2.2.1 _
    · cases htext
  fragment := by
    intro f hf
    obtain ⟨text, htext, rfl⟩ := Option.map_eq_some_iff.1 hf
    unfold fragmentOf at htext
    split at htext
    · cases htext
      rw [String.toList_ofList]
      exact isSpared_percentEncode isSpared_escapeChars.2.2.2 _
    · cases htext

theorem segments_read_ne_nil (s : List Char) : (read s).segments ≠ [] := resolve_ne_nil _ _ _

variable {t : Tail}

theorem inPath_of_mem_slashed {segments : List (List Char)} (h : ∀ d ∈ segments, IsSegment d)
    (hc : c ∈ slashed segments) : inPath c = false := by
  obtain ⟨d, hd, hc⟩ := List.mem_flatMap.1 hc
  rcases List.mem_cons.1 hc with rfl | hc
  · decide
  · exact (h d hd).spared c hc

theorem isQueryStart_of_inPath (h : inPath c = false) : isQueryStart c = false := by
  simp only [inPath, Bool.or_eq_false_iff] at h
  rw [isQueryStart, h.1.1.1.2, h.1.1.2]
  rfl

theorem ne_hash_of_inPath (h : inPath c = false) : (c != '#') = true := by
  simp only [inPath, Bool.or_eq_false_iff] at h
  rw [bne, h.1.1.1.2]
  rfl

theorem ne_hash_of_inQuery (h : inQuery c = false) : (c != '#') = true := by
  simp only [inQuery, Bool.or_eq_false_iff] at h
  rw [bne, h.1.1.1.2]
  rfl

theorem head_fragmentText (t : Tail) : ∀ c ∈ t.fragmentText.head?, c = '#' := by
  unfold fragmentText
  cases t.fragment with
  | none => exact fun c hc => nomatch hc
  | some f => exact fun c hc => (Option.some.inj hc).symm

theorem head_query_fragment (t : Tail) :
    ∀ c ∈ (t.queryText ++ t.fragmentText).head?, isQueryStart c = true := by
  unfold queryText
  cases t.query with
  | none =>
    intro c hc
    rw [t.head_fragmentText c hc]
    rfl
  | some q =>
    rintro c hc
    cases hc
    rfl

theorem path_span (h : t.IsWritten) :
    t.text.takeWhile (fun c => !isQueryStart c) = slashed t.segments ∧
      t.text.dropWhile (fun c => !isQueryStart c) = t.queryText ++ t.fragmentText := by
  apply span_eq
  · intro c hc
    rw [isQueryStart_of_inPath (inPath_of_mem_slashed h.segments hc)]
    rfl
  · intro c hc
    rw [t.head_query_fragment c hc]
    rfl

theorem resolve_unrooted {segments : List (List Char)} (h : ∀ d ∈ segments, IsSegment d)
    (hpath : segments ≠ []) : resolve [] [] (unrooted (slashed segments)) = segments := by
  obtain ⟨d, rest, rfl⟩ := List.exists_cons_of_ne_nil hpath
  obtain ⟨hd, hrest⟩ := List.forall_mem_cons.1 h
  exact resolve_slashed hd hrest

theorem queryOf_text (h : t.IsWritten) :
    queryOf (t.queryText ++ t.fragmentText) = t.query.map String.ofList := by
  have hhead := t.head_fragmentText
  unfold queryText
  cases hq : t.query with
  | none =>
    cases hf : t.fragmentText with
    | nil => rfl
    | cons c rest =>
      rw [hf] at hhead
      obtain rfl := hhead c rfl
      rfl
  | some q =>
    have hspared := h.query q hq
    have hspan := span_eq (p := (· != '#')) (fun c hc => ne_hash_of_inQuery (hspared c hc))
      fun c hc => by rw [hhead c hc]; rfl
    change some (String.ofList (percentEncode inQuery ((q ++ t.fragmentText).takeWhile _))) = _
    rw [hspan.1, hspared.percentEncode_eq]
    rfl

theorem fragmentOf_text (h : t.IsWritten) :
    fragmentOf t.text = t.fragment.map String.ofList := by
  have hbefore : ∀ c ∈ slashed t.segments ++ t.queryText, (c != '#') = true := by
    intro c hc
    rcases List.mem_append.1 hc with hc | hc
    · exact ne_hash_of_inPath (inPath_of_mem_slashed h.segments hc)
    · unfold queryText at hc
      cases hq : t.query with
      | none =>
        rw [hq] at hc
        cases hc
      | some q =>
        rw [hq] at hc
        rcases List.mem_cons.1 hc with rfl | hc
        · rfl
        · exact ne_hash_of_inQuery (h.query q hq c hc)
  have hspan := span_eq hbefore fun c hc => by rw [t.head_fragmentText c hc]; rfl
  unfold fragmentOf
  rw [text, ← List.append_assoc, hspan.2]
  unfold fragmentText
  cases hf : t.fragment with
  | none => rfl
  | some f =>
    change some (String.ofList (percentEncode inFragment f)) = _
    rw [(h.fragment f hf).percentEncode_eq]
    rfl

theorem map_toList_ofList (o : Option (List Char)) :
    (o.map String.ofList).map String.toList = o := by
  cases o with
  | none => rfl
  | some s => exact congrArg some String.toList_ofList

/-- What is written is read back as it is. -/
theorem read_text (h : t.IsWritten) (hpath : t.segments ≠ []) : read t.text = t := by
  obtain ⟨hsegments, hrest⟩ := path_span h
  unfold read
  rw [hsegments, hrest, queryOf_text h, fragmentOf_text h, resolve_unrooted h.segments hpath,
    map_toList_ofList, map_toList_ofList]

theorem isVisible_of_mem_text (h : t.IsWritten) : ∀ c ∈ t.text, IsVisible c := by
  refine List.forall_mem_append.2 ⟨fun c hc => ?_, List.forall_mem_append.2 ⟨?_, ?_⟩⟩
  · exact isVisible_of_inPath (inPath_of_mem_slashed h.segments hc)
  · unfold queryText
    cases hq : t.query with
    | none => exact fun c hc => absurd hc List.not_mem_nil
    | some q =>
      exact List.forall_mem_cons.2 ⟨by decide, fun c hc =>
        isVisible_of_inQuery (h.query q hq c hc)⟩
  · unfold fragmentText
    cases hf : t.fragment with
    | none => exact fun c hc => absurd hc List.not_mem_nil
    | some f =>
      exact List.forall_mem_cons.2 ⟨by decide, fun c hc =>
        isVisible_of_inFragment (h.fragment f hf c hc)⟩

/-- A tail ends the authority before it. -/
theorem head_text (hpath : t.segments ≠ []) :
    ∀ c ∈ t.text.head?, endsAuthority true c = true := by
  obtain ⟨d, segments, hsegments⟩ := List.exists_cons_of_ne_nil hpath
  unfold text
  rw [hsegments]
  rintro c ⟨⟩
  decide

theorem head_bare_text (hpath : t.segments ≠ []) :
    ∀ c ∈ (bare t.text).head?, endsAuthority true c = true := by
  intro c hc
  obtain ⟨rest, hrest⟩ := List.head?_eq_some_iff.1 hc
  obtain ⟨slashes, hslashes⟩ := exists_bare_append t.text
  apply head_text hpath c
  rw [← hslashes, hrest]
  rfl

theorem isSpared_bare {escaped : Char → Bool} {s : List Char} (h : IsSpared escaped s) :
    IsSpared escaped (bare s) :=
  fun c hc => h c (bare_subset s hc)

theorem bare_append_cons {c : Char} (hc : c ≠ '/') (s t : List Char) :
    bare (s ++ c :: t) = s ++ c :: bare t := by
  have hlast : (s ++ [c]).getLast? ≠ some '/' := by
    rw [List.getLast?_concat]
    exact fun h => hc (Option.some.inj h)
  have hbare := bare_append (t := t) hlast
  rwa [List.append_assoc, List.append_assoc] at hbare

/-- Without the slashes at its end a tail is a tail again, or nothing. -/
theorem bare_text (h : t.IsWritten) (hpath : t.segments ≠ []) :
    ∃ t' : Tail, t'.IsWritten ∧ bare t.text = t'.text ∧
      (t'.segments = [] → t'.query = none ∧ t'.fragment = none) := by
  obtain ⟨segments, query, fragment⟩ := t
  cases fragment with
  | some f =>
    refine ⟨⟨segments, query, some (bare f)⟩, ⟨h.segments, h.query, ?_⟩, ?_,
      fun hnone => absurd hnone hpath⟩
    · rintro s ⟨⟩
      exact isSpared_bare (h.fragment f rfl)
    · have hbare := bare_append_cons (by decide : '#' ≠ '/')
        (slashed segments ++ queryText ⟨segments, query, some f⟩) f
      rwa [List.append_assoc, List.append_assoc] at hbare
  | none =>
    cases query with
    | some q =>
      refine ⟨⟨segments, some (bare q), none⟩, ⟨h.segments, ?_, h.fragment⟩, ?_,
        fun hnone => absurd hnone hpath⟩
      · rintro s ⟨⟩
        exact isSpared_bare (h.query q rfl)
      · change bare (slashed segments ++ ('?' :: q ++ [])) =
          slashed segments ++ ('?' :: bare q ++ [])
        rw [List.append_nil, List.append_nil]
        exact bare_append_cons (by decide) (slashed segments) q
    | none =>
      obtain ⟨segments', hsegments, hbare⟩ := bare_slashed h.segments
      refine ⟨⟨segments', none, none⟩, ⟨hsegments, h.query, h.fragment⟩, ?_, fun _ => ⟨rfl, rfl⟩⟩
      change bare (slashed segments ++ []) = slashed segments' ++ []
      rw [List.append_nil, List.append_nil, hbare]

/-- Without the slashes at its end a tail is read as one that differs in these alone. -/
theorem bare_text_read (h : t.IsWritten) (hpath : t.segments ≠ []) :
    bare (read (bare t.text)).text = bare t.text := by
  obtain ⟨t', hwritten, hbare, hnone⟩ := bare_text h hpath
  rw [hbare]
  by_cases hempty : t'.segments = []
  · obtain ⟨hquery, hfragment⟩ := hnone hempty
    have htext : t'.text = [] := by
      rw [text, queryText, fragmentText, hempty, hquery, hfragment]
      rfl
    rw [htext]
    rfl
  · rw [read_text hwritten hempty, ← hbare]
    exact bare_eq_self (getLast?_bare _)

end Tail

end Url

end MetricRing.Address
