import MetricRing.Proofs.WrittenHosts

/-!
# Written URLs

In the text of a web URL its parts can be told apart: user information, host and port are read as
they are written, whatever tail follows. The written form of an address is a web URL without
slashes at its end. It is its own written form, if the host is read as it is written.
-/

namespace MetricRing.Address

namespace Url

/-! ### Ports -/

theorem portValue?_concat (s : List Char) (c : Char) :
    portValue? (s ++ [c]) = (portValue? s).bind fun n =>
      if c.isDigit then
        if n * 10 + (c.toNat - '0'.toNat) ≤ 65535 then some (n * 10 + (c.toNat - '0'.toNat))
        else none
      else none := by
  rw [portValue?, List.foldl_append]
  rfl

theorem portValue?_le {s : List Char} {n : Nat} (h : portValue? s = some n) : n ≤ 65535 := by
  induction s using List.reverseRecOn with
  | nil =>
    cases h
    decide
  | append_singleton s c _ =>
    rw [portValue?_concat] at h
    obtain ⟨m, -, hm⟩ := Option.bind_eq_some_iff.1 h
    split_ifs at hm with hdigit hle
    cases hm
    exact hle

theorem portValue?_toDigits {p : Nat} (hp : p ≤ 65535) :
    portValue? (Nat.toDigits 10 p) = some p := by
  have hten : 1 < 10 := by decide
  have hsingle : ∀ d < 10, portValue? [d.digitChar] = some d := by decide
  have hdigit : ∀ d < 10, d.digitChar.isDigit = true ∧ d.digitChar.toNat - '0'.toNat = d := by
    decide
  induction p using Nat.base_induction 10 hten with
  | single d hd => rw [Nat.toDigits_of_lt_base hd, hsingle d hd]
  | digit n d hd hn ih =>
    obtain ⟨hd', hvalue⟩ := hdigit d hd
    rw [← Nat.toDigits_append_toDigits hten hn hd, Nat.toDigits_of_lt_base hd, portValue?_concat,
      ih (by omega), Option.bind_some, if_pos hd', hvalue, Nat.mul_comm n 10, if_pos hp]

/-- A port that is written, because it is not the one that the scheme has without. -/
def IsPort (scheme : String) (port : Option Nat) : Prop :=
  ∀ p ∈ port, p ≤ 65535 ∧ defaultPort? scheme ≠ some p

def portText (port : Option Nat) : List Char :=
  (port.map fun p => ':' :: (toString p).toList).getD []

variable {scheme : String} {port : Option Nat}

theorem isPort_of_portOf {s : List Char} (h : portOf scheme s = .ok port) :
    IsPort scheme port := by
  unfold portOf at h
  split at h
  · dsimp only at h
    split at h
    · cases h
    · next n hn =>
      split_ifs at h with hdefault
      · cases h
        exact fun p hp => nomatch hp
      · cases h
        rintro p ⟨⟩
        exact ⟨portValue?_le hn, fun heq => hdefault (Or.inr heq)⟩
  · cases h
    exact fun p hp => nomatch hp

theorem portOf_portText (h : IsPort scheme port) : portOf scheme (portText port) = .ok port := by
  cases port with
  | none => rfl
  | some p =>
    obtain ⟨hp, hdefault⟩ := h p rfl
    have hdigit : ∀ c ∈ digitChars, (c != '\\') = true := forall_mem_of_all (by decide)
    have hread : (toString p).toList.takeWhile (· != '\\') = (toString p).toList :=
      List.takeWhile_eq_self_iff.2 fun c hc => hdigit c (mem_digitChars_of_toString hc)
    have hvalue : portValue? (toString p).toList = some p := by
      rw [Nat.toString_eq_repr, Nat.toList_repr]
      exact portValue?_toDigits hp
    have hempty : ¬((toString p).toList.isEmpty ∨ defaultPort? scheme = some p) := by
      rintro (hnil | heq)
      · rw [Nat.toString_eq_repr, Nat.toList_repr, List.isEmpty_iff] at hnil
        exact Nat.toDigits_ne_nil hnil
      · exact hdefault heq
    change portOf scheme (':' :: (toString p).toList) = .ok (some p)
    simp only [portOf, hread, hvalue, if_neg hempty]

theorem head_portText (port : Option Nat) : ∀ c ∈ (portText port).head?, c = ':' := by
  cases port with
  | none => exact fun c hc => nomatch hc
  | some p => exact fun c hc => (Option.some.inj hc).symm

theorem isInside_of_mem_portText (port : Option Nat) : ∀ c ∈ portText port, IsInside c := by
  cases port with
  | none => exact fun c hc => absurd hc List.not_mem_nil
  | some p =>
    exact List.forall_mem_cons.2 ⟨by decide, fun c hc =>
      (isInside_of_digitChars c (mem_digitChars_of_toString hc)).1⟩

/-! ### User information -/

theorem splitAt?_of_not_mem {s : List Char} (hs : '@' ∉ s) : splitAt? s = none := by
  induction s with
  | nil => rfl
  | cons c s ih =>
    rw [List.mem_cons, not_or] at hs
    rw [splitAt?, ih hs.2]
    exact if_neg fun hc => hs.1 hc.symm

theorem splitAt?_append {after : List Char} (before : List Char) (hafter : '@' ∉ after) :
    splitAt? (before ++ '@' :: after) = some (before, after) := by
  induction before with
  | nil =>
    rw [List.nil_append, splitAt?, splitAt?_of_not_mem hafter]
    rfl
  | cons c before ih => rw [List.cons_append, splitAt?, ih]

def credentials (name password : List Char) : List Char :=
  if password.isEmpty then name else name ++ ':' :: password

def IsUserinfo (s : List Char) : Prop :=
  s = [] ∨ ∃ u, s = u ++ ['@'] ∧ (∀ c ∈ u, IsInside c) ∧ userinfoText u = String.ofList s

theorem isInside_of_inUserinfo {c : Char} (hc : inUserinfo c = false) : IsInside c ∧ c ≠ ':' :=
  ⟨isInside_of_class hc (forall_mem_of_all (by decide)) (isVisible_of_inUserinfo hc),
    ne_of_class hc (by decide)⟩

theorem userinfoText_credentials {name password : List Char} (hname : IsSpared inUserinfo name)
    (hpassword : IsSpared inUserinfo password) :
    userinfoText (credentials name password) =
      if (credentials name password).isEmpty then ""
      else String.ofList (credentials name password ++ ['@']) := by
  have hcolon : ∀ c ∈ name, (c != ':') = true := fun c hc =>
    bne_iff_ne.2 (isInside_of_inUserinfo (hname c hc)).2
  have hparts : (credentials name password).takeWhile (· != ':') = name ∧
      ((credentials name password).dropWhile (· != ':')).drop 1 = password := by
    unfold credentials
    split_ifs with hempty
    · rw [List.takeWhile_eq_self_iff.2 hcolon, List.dropWhile_eq_nil_iff.2 hcolon,
        List.isEmpty_iff.1 hempty]
      exact ⟨rfl, rfl⟩
    · have hspan := span_eq (t := ':' :: password) hcolon fun c hc => by
        rw [← Option.some.inj hc]; rfl
      rw [hspan.1, hspan.2]
      exact ⟨rfl, rfl⟩
  unfold userinfoText
  rw [hparts.1, hparts.2, hname.percentEncode_eq, hpassword.percentEncode_eq]
  rfl

theorem isUserinfo_userinfoText (s : List Char) : IsUserinfo (userinfoText s).toList := by
  let name := percentEncode inUserinfo (s.takeWhile (· != ':'))
  let password := percentEncode inUserinfo ((s.dropWhile (· != ':')).drop 1)
  have hname : IsSpared inUserinfo name := isSpared_percentEncode isSpared_escapeChars.1 _
  have hpassword : IsSpared inUserinfo password := isSpared_percentEncode isSpared_escapeChars.1 _
  have hreads : userinfoText s = userinfoText (credentials name password) :=
    (userinfoText_credentials hname hpassword).symm
  have hinside : ∀ c ∈ credentials name password, IsInside c := by
    unfold credentials
    split_ifs
    · exact fun c hc => (isInside_of_inUserinfo (hname c hc)).1
    · refine List.forall_mem_append.2 ⟨?_, List.forall_mem_cons.2 ⟨by decide, ?_⟩⟩
      · exact fun c hc => (isInside_of_inUserinfo (hname c hc)).1
      · exact fun c hc => (isInside_of_inUserinfo (hpassword c hc)).1
  have htext := userinfoText_credentials hname hpassword
  rw [hreads]
  split_ifs at htext with hempty
  · rw [htext]
    exact Or.inl rfl
  · refine Or.inr ⟨credentials name password, ?_, hinside, String.ofList_toList.symm⟩
    rw [htext, String.toList_ofList]

/-! ### Locations -/

def location (u : Url) : List Char := u.userinfo.toList ++ (u.host.toList ++ portText u.port)

/-- A URL whose location can be read again. -/
structure IsLocated (u : Url) : Prop where
  userinfo : IsUserinfo u.userinfo.toList
  host : ∃ s, hostText true s = .ok u.host
  port : IsPort u.scheme u.port

def withTail (u : Url) (t : Tail) : Url :=
  { u with
    path := String.ofList (slashed t.segments)
    query := t.query.map String.ofList
    fragment := t.fragment.map String.ofList }

theorem scheme_withTail (u : Url) (t : Tail) : (u.withTail t).scheme = u.scheme := rfl

theorem host_withTail (u : Url) (t : Tail) : (u.withTail t).host = u.host := rfl

theorem map_ofList_toList (o : Option String) :
    (o.map String.toList).map String.ofList = o := by
  cases o with
  | none => rfl
  | some s => exact congrArg some String.ofList_toList

theorem toList_marked {α : Type} (m : String) (c : Char) (hm : m.toList = [c]) (f : α → String)
    (o : Option α) :
    ((o.map fun x => m ++ f x).getD "").toList = (o.map fun x => c :: (f x).toList).getD [] := by
  cases o with
  | none => rfl
  | some x =>
    change (m ++ f x).toList = c :: (f x).toList
    rw [String.toList_append, hm]
    rfl

def textWith (u : Url) (rest : List Char) : String :=
  String.ofList (u.scheme.toList ++ ("://".toList ++ (u.location ++ rest)))

theorem toList_textWith (u : Url) (rest : List Char) : (u.textWith rest).toList =
    u.scheme.toList ++ ("://".toList ++ (u.location ++ rest)) := String.toList_ofList

theorem text_withTail (u : Url) (t : Tail) : (u.withTail t).text = u.textWith t.text := by
  have hport : ((u.port.map fun p => ":" ++ toString p).getD "").toList = portText u.port :=
    toList_marked ":" ':' rfl toString u.port
  have hquery : (((t.query.map String.ofList).map ("?" ++ ·)).getD "").toList = t.queryText := by
    have hmarked := toList_marked "?" '?' rfl String.ofList t.query
    simp only [String.toList_ofList] at hmarked
    rwa [Option.map_map]
  have hfragment : (((t.fragment.map String.ofList).map ("#" ++ ·)).getD "").toList =
      t.fragmentText := by
    have hmarked := toList_marked "#" '#' rfl String.ofList t.fragment
    simp only [String.toList_ofList] at hmarked
    rwa [Option.map_map]
  apply String.toList_injective
  simp only [withTail, Url.text, textWith, String.toList_append, String.toList_ofList, hport,
    hquery, hfragment, location, Tail.text, List.append_assoc]

variable {u : Url} {rest : List Char}

theorem IsLocated.isHost (h : u.IsLocated) : IsHost u.host.toList :=
  h.host.elim fun _ => isHost_of_hostText

theorem inside_of_mem_location (h : u.IsLocated) :
    ∀ c ∈ u.location, IsVisible c ∧ endsAuthority true c = false := by
  have hinside {c : Char} (hc : IsInside c) : IsVisible c ∧ endsAuthority true c = false :=
    ⟨hc.1, hc.2.1⟩
  refine List.forall_mem_append.2 ⟨?_, List.forall_mem_append.2 ⟨?_, ?_⟩⟩
  · obtain hnone | ⟨v, hv, hv', -⟩ := h.userinfo
    · rw [hnone]
      exact fun c hc => absurd hc List.not_mem_nil
    · rw [hv]
      exact List.forall_mem_append.2 ⟨fun c hc => hinside (hv' c hc),
        List.forall_mem_singleton.2 (by decide)⟩
  · exact fun c hc => hinside (h.isHost.inside c hc)
  · exact fun c hc => hinside (isInside_of_mem_portText u.port c hc)

theorem splitAt?_location (h : u.IsLocated) :
    ((splitAt? u.location).map Prod.snd).getD u.location = u.host.toList ++ portText u.port ∧
      ((splitAt? u.location).map fun s => userinfoText s.1).getD "" = u.userinfo := by
  have hafter : '@' ∉ u.host.toList ++ portText u.port := by
    intro hat
    rcases List.mem_append.1 hat with hat | hat
    · exact (h.isHost.inside _ hat).2.2 rfl
    · exact (isInside_of_mem_portText u.port _ hat).2.2 rfl
  unfold location
  obtain hnone | ⟨v, hv, -, hread⟩ := h.userinfo
  · rw [hnone, List.nil_append, splitAt?_of_not_mem hafter]
    exact ⟨rfl, (String.toList_eq_nil_iff.1 hnone).symm⟩
  · rw [hv, List.append_assoc, List.singleton_append, splitAt?_append v hafter]
    exact ⟨rfl, hread.trans String.ofList_toList⟩

/-- A location is read as it is, apart from the host. -/
theorem withAuthority_location (h : u.IsLocated) (hspecial : isSpecial u.scheme = true)
    (hrest : ∀ c ∈ rest.head?, endsAuthority true c = true) :
    withAuthority u.scheme (u.location ++ rest) =
      (hostText true u.host.toList).map fun name =>
        { u with host := name }.withTail (Tail.read rest) := by
  obtain ⟨hafter, hwritten⟩ := splitAt?_location h
  have hspan : (u.location ++ rest).takeWhile (fun c => !endsAuthority true c) = u.location ∧
      (u.location ++ rest).dropWhile (fun c => !endsAuthority true c) = rest := by
    apply span_eq
    · intro c hc
      rw [(inside_of_mem_location h c hc).2]
      rfl
    · intro c hc
      rw [hrest c hc]
      rfl
  have hlength : hostLength false (u.host.toList ++ portText u.port) = u.host.toList.length :=
    h.isHost.length _ (head_portText u.port)
  have hhost : ¬u.host.toList.isEmpty = true := fun hnil =>
    h.isHost.ne_nil (List.isEmpty_iff.1 hnil)
  unfold withAuthority
  dsimp only
  rw [hspecial, hspan.1, hspan.2, hafter, hwritten, hlength, List.take_left, List.drop_left,
    if_neg fun hnone => hhost hnone.1, portOf_portText h.port]
  cases hostText true u.host.toList with
  | error e => rfl
  | ok name =>
    simp only [withTail, Tail.read, Tail.pathText_eq, map_ofList_toList, Except.map]

/-- What is read of a web URL can be read again from its text, if the host can. -/
theorem isLocated_of_withAuthority {s : List Char} (hspecial : isSpecial scheme = true)
    (h : withAuthority scheme s = .ok u) :
    u.IsLocated ∧ ∃ rest, u.withTail (Tail.read rest) = u := by
  unfold withAuthority at h
  dsimp only at h
  rw [hspecial] at h
  split_ifs at h with hempty
  split at h
  · cases h
  · next name hname =>
    split at h
    · cases h
    · next port hport =>
      cases h
      refine ⟨⟨?_, ⟨_, hname⟩, isPort_of_portOf hport⟩, ?_⟩
      · dsimp only
        cases splitAt? (s.takeWhile fun c => !endsAuthority true c) with
        | none => exact Or.inl rfl
        | some v => exact isUserinfo_userinfoText v.1
      · refine ⟨s.dropWhile fun c => !endsAuthority true c, ?_⟩
        simp only [withTail, Tail.read, Tail.pathText_eq, map_ofList_toList]

/-! ### The whole -/

def IsWeb (scheme : String) : Prop := scheme = "http" ∨ scheme = "https"

theorem IsWeb.isSpecial (h : IsWeb scheme) : isSpecial scheme = true := by
  rcases h with rfl | rfl <;> decide

theorem IsWeb.ne_file (h : IsWeb scheme) : scheme ≠ "file" := by
  rcases h with rfl | rfl <;> decide

theorem dropWhile_eq_self {p : Char → Bool} {s : List Char} (hs : ∀ c ∈ s, p c = false) :
    s.dropWhile p = s :=
  (span_eq (s := []) nofun fun c hc => hs c (List.mem_of_mem_head? hc)).2

theorem clean_eq_self {s : List Char} (hs : ∀ c ∈ s, IsVisible c) : clean s = s := by
  have hlow : ∀ c ∈ s, isLow c = false := fun c hc =>
    decide_eq_false (Nat.not_le.2 (hs c hc).1)
  have hbreak : ∀ c ∈ s, isLineBreak c = false := by
    intro c hc
    have hne {d : Char} (hd : ¬IsVisible d) : c ≠ d := fun heq => hd (heq ▸ hs c hc)
    rw [isLineBreak, beq_false_of_ne (hne (d := '\t') (by decide)),
      beq_false_of_ne (hne (d := '\n') (by decide)), beq_false_of_ne (hne (d := '\r') (by decide))]
    rfl
  rw [clean, dropWhile_eq_self hlow, dropWhile_eq_self fun c hc => hlow c (List.mem_reverse.1 hc),
    List.reverse_reverse]
  exact List.filter_eq_self.2 fun c hc => by rw [hbreak c hc]; rfl

theorem scheme?_web (hweb : IsWeb scheme) (s : List Char) :
    scheme? (scheme.toList ++ ("://".toList ++ s)) = some (scheme, '/' :: '/' :: s) := by
  rcases hweb with rfl | rfl <;> rfl

theorem IsWeb.visible (h : IsWeb scheme) {s : List Char} (hs : ∀ c ∈ s, IsVisible c) :
    ∀ c ∈ scheme.toList ++ ("://".toList ++ s), IsVisible c := by
  have hscheme : ∀ c ∈ scheme.toList, IsVisible c := by
    rcases h with rfl | rfl
    · exact forall_mem_of_all (by decide)
    · exact forall_mem_of_all (by decide)
  have hmark : ∀ c ∈ "://".toList, IsVisible c := forall_mem_of_all (by decide)
  exact List.forall_mem_append.2 ⟨hscheme, List.forall_mem_append.2 ⟨hmark, hs⟩⟩

/-- A web URL is read behind the slashes of its scheme. -/
theorem parse_web {s : List Char} (hweb : IsWeb scheme) (hs : ∀ c ∈ s, IsVisible c)
    (hroot : ∀ c ∈ s.head?, endsAuthority true c = false) :
    parse (String.ofList (scheme.toList ++ ("://".toList ++ s))) = withAuthority scheme s := by
  have hslashes : ('/' :: '/' :: s).dropWhile (fun c => c == '/' || c == '\\') = s := by
    refine (span_eq (s := ['/', '/']) (forall_mem_of_all (by decide)) fun c hc => ?_).2
    have hinside := hroot c hc
    simp only [endsAuthority, Bool.or_eq_false_iff, Bool.true_and] at hinside
    rw [hinside.1.1.1, hinside.2]
    rfl
  unfold parse
  rw [String.toList_ofList, clean_eq_self (hweb.visible hs), scheme?_web hweb]
  dsimp only
  rw [if_neg hweb.ne_file, if_pos hweb.isSpecial, hslashes]

theorem scheme_of_withAuthority {s : List Char} (h : withAuthority scheme s = .ok u) :
    u.scheme = scheme := by
  unfold withAuthority at h
  dsimp only at h
  split_ifs at h
  split at h
  · cases h
  · split at h
    · cases h
    · cases h
      rfl

theorem scheme_of_fileHost {s : List Char} (h : fileHost s = .ok u) : u.scheme = "file" := by
  unfold fileHost at h
  split at h
  · dsimp only at h
    split_ifs at h
    · cases h
      rfl
    · split at h
      · cases h
      · cases h
        rfl
    · cases h
      rfl
  · cases h
    rfl

theorem isLocated_of_parse {s : String} (hweb : IsWeb u.scheme) (h : parse s = .ok u) :
    u.IsLocated ∧ ∃ rest, u.withTail (Tail.read rest) = u := by
  unfold parse at h
  split at h
  · cases h
  · next scheme rest _ =>
    split_ifs at h with hfile hspecial
    · exact absurd (scheme_of_fileHost h) hweb.ne_file
    · exact isLocated_of_withAuthority hspecial h
    · refine absurd hweb.isSpecial ?_
      split at h
      · rwa [scheme_of_withAuthority h]
      · cases h
        exact hspecial

theorem IsLocated.location_ne_nil (h : u.IsLocated) : u.location ≠ [] := fun hnil =>
  h.isHost.ne_nil (List.append_eq_nil_iff.1 (List.append_eq_nil_iff.1 hnil).2).1

/-- A location is found in a text, whatever tail follows. -/
theorem parse_location (h : u.IsLocated) (hweb : IsWeb u.scheme)
    (hvisible : ∀ c ∈ rest, IsVisible c)
    (hrest : ∀ c ∈ rest.head?, endsAuthority true c = true) :
    parse (u.textWith rest) = (hostText true u.host.toList).map fun name =>
      { u with host := name }.withTail (Tail.read rest) := by
  rw [← withAuthority_location h hweb.isSpecial hrest]
  apply parse_web hweb
  · exact List.forall_mem_append.2 ⟨fun c hc => (inside_of_mem_location h c hc).1, hvisible⟩
  · intro c hc
    rw [List.head?_append_of_ne_nil _ h.location_ne_nil] at hc
    exact (inside_of_mem_location h c (List.mem_of_mem_head? hc)).2

/-- A URL that is read back from its text has a host that is read as it is written. -/
theorem hostText_of_parse_text {s : String} (hweb : IsWeb u.scheme) (hparse : parse s = .ok u)
    (hread : parse u.text = .ok u) : hostText true u.host.toList = .ok u.host := by
  obtain ⟨hlocated, rest, htail⟩ := isLocated_of_parse hweb hparse
  let t := Tail.read rest
  have hvisible : ∀ c ∈ t.text, IsVisible c := Tail.isVisible_of_mem_text (Tail.isWritten_read rest)
  have hends : ∀ c ∈ t.text.head?, endsAuthority true c = true :=
    Tail.head_text (Tail.segments_read_ne_nil rest)
  have htext : u.text = u.textWith t.text := by rw [← text_withTail, htail]
  rw [htext, parse_location hlocated hweb hvisible hends] at hread
  cases hname : hostText true u.host.toList with
  | error e =>
    rw [hname] at hread
    cases hread
  | ok name =>
    rw [hname] at hread
    exact congrArg Except.ok (congrArg Url.host (Except.ok.inj hread))

end Url

/-! ### Addresses -/

/-- The URL that an address stands for. -/
def candidate (address : String) : String :=
  let address := Text.trim address
  if Text.contains address "://" then address else "http://" ++ address

theorem normalize_eq_ok_iff {a b : String} : normalize a = .ok b ↔
    ∃ u, Url.parse (candidate a) = .ok u ∧ u.host ≠ "" ∧ Url.IsWeb u.scheme ∧
      dropSlashes u.text = b := by
  unfold normalize candidate Url.IsWeb
  dsimp only
  cases Url.parse (if Text.contains (Text.trim a) "://" then Text.trim a
    else "http://" ++ Text.trim a) with
  | error e => exact ⟨nofun, nofun⟩
  | ok u =>
    constructor
    · intro h
      dsimp only at h
      split_ifs at h with hhost hscheme
      have hweb := (not_and_or.1 hscheme).imp not_not.1 not_not.1
      exact ⟨u, rfl, hhost, hweb, Except.ok.inj h⟩
    · rintro ⟨v, hv, hhost, hscheme, rfl⟩
      cases hv
      dsimp only
      rw [if_neg hhost, if_neg]
      rintro ⟨hhttp, hhttps⟩
      exact hscheme.elim hhttp hhttps

theorem trim_eq_self {s : String} (hs : ∀ c ∈ s.toList, IsVisible c) : Text.trim s = s := by
  have hblank : ∀ c ∈ s.toList, Text.isBlank c = false := by
    intro c hc
    obtain ⟨hlow, hhigh⟩ := hs c hc
    simp only [Text.isBlank, Bool.or_eq_false_iff, Bool.and_eq_false_iff, beq_eq_false_iff_ne,
      decide_eq_false_iff_not]
    omega
  unfold Text.trim Text.trimStartWhile Text.trimEndWhile
  rw [Url.dropWhile_eq_self hblank,
    Url.dropWhile_eq_self fun c hc => hblank c (List.mem_reverse.1 hc), List.reverse_reverse,
    String.ofList_toList]

variable {u : Url}

theorem dropSlashes_text (h : u.IsLocated) (t : Url.Tail) :
    dropSlashes (u.withTail t).text = u.textWith (Url.bare t.text) := by
  have hlast : (u.scheme.toList ++ ("://".toList ++ u.location)).getLast? ≠ some '/' := by
    rw [← List.append_assoc, List.getLast?_append_of_ne_nil _ h.location_ne_nil]
    intro hslash
    have hends := (Url.inside_of_mem_location h _ (List.mem_of_getLast? hslash)).2
    exact absurd hends (by decide)
  have hbare := Url.bare_append (t := t.text) hlast
  rw [List.append_assoc, List.append_assoc, List.append_assoc, List.append_assoc] at hbare
  rw [Url.text_withTail]
  change String.ofList (Url.bare (u.textWith t.text).toList) = _
  rw [Url.textWith, String.toList_ofList, hbare, Url.textWith]

theorem candidate_textWith (h : u.IsLocated) (hweb : Url.IsWeb u.scheme) {rest : List Char}
    (hrest : ∀ c ∈ rest, IsVisible c) : candidate (u.textWith rest) = u.textWith rest := by
  have hvisible : ∀ c ∈ (u.textWith rest).toList, IsVisible c := by
    rw [Url.toList_textWith]
    exact hweb.visible (List.forall_mem_append.2
      ⟨fun c hc => (Url.inside_of_mem_location h c hc).1, hrest⟩)
  have hmarked : Text.contains (u.textWith rest) "://" = true := by
    rw [Text.contains, Url.toList_textWith]
    rcases hweb with hscheme | hscheme
    · rw [hscheme]
      rfl
    · rw [hscheme]
      rfl
  unfold candidate
  rw [trim_eq_self hvisible]
  exact if_pos hmarked

theorem startsWith_textWith (hweb : Url.IsWeb u.scheme) (rest : List Char) :
    Text.startsWith (u.textWith rest) "http://" = true ∨
      Text.startsWith (u.textWith rest) "https://" = true := by
  unfold Text.startsWith
  rw [Url.toList_textWith]
  rcases hweb with hscheme | hscheme
  · rw [hscheme]
    exact Or.inl rfl
  · rw [hscheme]
    exact Or.inr rfl

/-- What is left of a URL is a written form of its own, if the host is read as it is written. -/
theorem normalize_dropSlashes {s : String} (hparse : Url.parse s = .ok u) (hhost : u.host ≠ "")
    (hweb : Url.IsWeb u.scheme) (hread : Url.hostText true u.host.toList = .ok u.host) :
    normalize (dropSlashes u.text) = .ok (dropSlashes u.text) := by
  obtain ⟨hlocated, rest, htail⟩ := Url.isLocated_of_parse hweb hparse
  let t := Url.Tail.read rest
  have hwritten : t.IsWritten := Url.Tail.isWritten_read rest
  have hpath : t.segments ≠ [] := Url.Tail.segments_read_ne_nil rest
  have hvisible : ∀ c ∈ Url.bare t.text, IsVisible c := fun c hc =>
    Url.Tail.isVisible_of_mem_text hwritten c (Url.bare_subset t.text hc)
  have hends : ∀ c ∈ (Url.bare t.text).head?, Url.endsAuthority true c = true :=
    Url.Tail.head_bare_text hpath
  have hform : dropSlashes u.text = u.textWith (Url.bare t.text) := by
    rw [← dropSlashes_text hlocated, htail]
  -- The location is the same, and the tail that is read differs in the slashes at its end alone.
  rw [hform]
  refine normalize_eq_ok_iff.2 ⟨u.withTail (.read (Url.bare t.text)), ?_, ?_, ?_, ?_⟩
  · rw [candidate_textWith hlocated hweb hvisible,
      Url.parse_location hlocated hweb hvisible hends, hread]
    rfl
  · rwa [Url.host_withTail]
  · rwa [Url.scheme_withTail]
  · rw [dropSlashes_text hlocated, Url.Tail.bare_text_read hwritten hpath]

theorem startsWith_dropSlashes {s : String} (hparse : Url.parse s = .ok u)
    (hweb : Url.IsWeb u.scheme) :
    Text.startsWith (dropSlashes u.text) "http://" = true ∨
      Text.startsWith (dropSlashes u.text) "https://" = true := by
  obtain ⟨hlocated, rest, htail⟩ := Url.isLocated_of_parse hweb hparse
  rw [← htail, dropSlashes_text hlocated]
  exact startsWith_textWith hweb _

/-- The written form of an address is a web URL without slashes at its end: the text of the URL
that the address stands for. It is its own written form, if this URL is read back from its text. -/
theorem normalize_canonical {a b : String} (h : normalize a = .ok b) :
    (Text.startsWith b "http://" = true ∨ Text.startsWith b "https://" = true) ∧
      b.toList.getLast? ≠ some '/' ∧
      ∃ u, Url.parse (candidate a) = .ok u ∧ b = dropSlashes u.text ∧
        (Url.parse u.text = .ok u → normalize b = .ok b) := by
  obtain ⟨u, hparse, hhost, hweb, rfl⟩ := normalize_eq_ok_iff.1 h
  refine ⟨startsWith_dropSlashes hparse hweb, ?_, u, hparse, rfl, fun hread => ?_⟩
  · change (String.ofList (Url.bare u.text.toList)).toList.getLast? ≠ some '/'
    rw [String.toList_ofList]
    exact Url.getLast?_bare _
  · exact normalize_dropSlashes hparse hhost hweb (Url.hostText_of_parse_text hweb hparse hread)

def loopback : Url := { scheme := "http", userinfo := "a:b@", host := "[::1]", path := "/y//" }

theorem normalize_canonical_at_loopback :
    let a := "\tHTTP://\\a:b@[0:0::0:1]:080/x/../y//\n"
    let b := "http://a:b@[::1]/y"
    normalize a = .ok b ∧ Text.startsWith b "http://" = true ∧ b.toList.getLast? ≠ some '/' ∧
      normalize b = .ok b := by
  intro a b
  have hparse : Url.parse (candidate a) = .ok loopback := by decide +kernel
  have hread : Url.parse loopback.text = .ok loopback := by decide +kernel
  have h : normalize a = .ok b :=
    normalize_eq_ok_iff.2 ⟨loopback, hparse, by decide, Or.inl rfl, by decide +kernel⟩
  obtain ⟨-, hlast, u, hu, -, hcanonical⟩ := normalize_canonical h
  cases hparse.symm.trans hu
  exact ⟨h, by decide +kernel, hlast, hcanonical hread⟩

end MetricRing.Address
