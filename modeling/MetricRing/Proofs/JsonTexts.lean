import Mathlib.Data.List.TakeWhile
import MetricRing.Json.Printer
import MetricRing.Json.Record

/-!
# Outlines and their texts

An outline is written without blanks, its strings with as few escapes as JSON allows. What is read
back has the same containers and numbers. Only the control characters that have no letter of their
own come back as the units they were written as, and a reader does not see the difference.
-/

namespace MetricRing.Json

/-! ### Writing -/

def byteWritten (b : UInt8) : Input := (escaped (Char.ofNat b.toNat)).map byte

def hexWritten (b : UInt8) : Input := (Text.hexByte b).map byte

def unitWritten (u : Nat) : Input :=
  byte '\\' :: byte 'u' :: (hexWritten (UInt8.ofNat (u / 256)) ++ hexWritten (UInt8.ofNat u))

def Piece.written : Piece → Input
  | .byte b => byteWritten b
  | .unit u => unitWritten u

def stringWritten (s : List Piece) : Input := byte '"' :: (s.flatMap Piece.written ++ [byte '"'])

def decimal (n : Nat) : Input := (Nat.toDigits 10 n).map byte

def signedDecimal (n : Int) : Input :=
  if n < 0 then byte '-' :: decimal n.natAbs else decimal n.natAbs

def Numeral.exponentWritten (n : Numeral) : Input :=
  if n.whole then [] else byte 'e' :: signedDecimal n.exponent

def Numeral.written (n : Numeral) : Input :=
  (if n.negative then [byte '-'] else []) ++ (decimal n.significand ++ n.exponentWritten)

mutual

def Outline.written : Outline → Input
  | .null => ['n', 'u', 'l', 'l'].map byte
  | .bool true => ['t', 'r', 'u', 'e'].map byte
  | .bool false => ['f', 'a', 'l', 's', 'e'].map byte
  | .number n => n.written
  | .string s => stringWritten s
  | .array items => byte '[' :: (itemsWritten items ++ [byte ']'])
  | .object members => byte '\x7b' :: (membersWritten members ++ [byte '\x7d'])

def itemsWritten : List Outline → Input
  | [] => []
  | [item] => item.written
  | item :: next :: rest => item.written ++ byte ',' :: itemsWritten (next :: rest)

def membersWritten : List (List Piece × Outline) → Input
  | [] => []
  | [(key, item)] => stringWritten key ++ byte ':' :: item.written
  | (key, item) :: next :: rest =>
    stringWritten key ++ byte ':' :: (item.written ++ byte ',' :: membersWritten (next :: rest))

end

/-- A byte as it comes back from a text. -/
def Piece.respelled : Piece → Piece
  | .byte b => if b < 0x20 ∧ b ∉ [0x08, 0x09, 0x0A, 0x0C, 0x0D] then .unit b.toNat else .byte b
  | .unit u => .unit u

mutual

def Outline.respelled : Outline → Outline
  | .null => .null
  | .bool b => .bool b
  | .number n => .number n
  | .string s => .string (s.map Piece.respelled)
  | .array items => .array (itemsRespelled items)
  | .object members => .object (membersRespelled members)

def itemsRespelled : List Outline → List Outline
  | [] => []
  | item :: rest => item.respelled :: itemsRespelled rest

def membersRespelled : List (List Piece × Outline) → List (List Piece × Outline)
  | [] => []
  | (key, item) :: rest => (key.map Piece.respelled, item.respelled) :: membersRespelled rest

end

def Piece.IsExact : Piece → Prop
  | .byte _ => True
  | .unit u => u < 0x10000

/-- A number of which no digit is left over. -/
structure Numeral.IsExact (n : Numeral) : Prop where
  significand_le : n.significand ≤ maxWord
  exponent_eq : n.whole = true → n.exponent = 0

inductive Outline.IsExact : Outline → Prop
  | null : IsExact .null
  | bool (b : Bool) : IsExact (.bool b)
  | number {n : Numeral} (h : n.IsExact) : IsExact (.number n)
  | string {s : List Piece} (h : ∀ p ∈ s, p.IsExact) : IsExact (.string s)
  | array {items : List Outline} (h : ∀ item ∈ items, IsExact item) : IsExact (.array items)
  | object {members : List (List Piece × Outline)} (hkeys : ∀ m ∈ members, ∀ p ∈ m.1, p.IsExact)
    (h : ∀ m ∈ members, IsExact m.2) : IsExact (.object members)

/-! ### Strings -/

theorem hexValue?_hexDigit {n : Nat} (hn : n < 16) :
    Text.hexValue? (Char.ofNat (byte (Text.hexDigit n)).toNat) = some n := by
  decide +revert

theorem hexUnit?_hexWritten (a b : UInt8) (rest : Input) :
    hexUnit? (hexWritten a ++ hexWritten b ++ rest) = some (a.toNat * 256 + b.toNat, rest) := by
  have hhigh (c : UInt8) : c.toNat / 16 < 16 := Nat.div_lt_of_lt_mul c.toNat_lt
  have hlow (c : UInt8) : c.toNat % 16 < 16 := Nat.mod_lt _ (by decide)
  simp only [hexWritten, Text.hexByte, List.map_cons, List.map_nil, List.cons_append,
    List.nil_append, hexUnit?, hexValue?_hexDigit (hhigh _), hexValue?_hexDigit (hlow _),
    Option.bind_eq_bind, Option.bind_some, Option.pure_def]
  congr 2
  omega

theorem escape?_unit {u : Nat} (hu : u < 0x10000) (rest : Input) :
    escape? (byte 'u' ::
      (hexWritten (UInt8.ofNat (u / 256)) ++ hexWritten (UInt8.ofNat u) ++ rest)) =
        some (.unit u, rest) := by
  have hhigh : (UInt8.ofNat (u / 256)).toNat = u / 256 :=
    UInt8.toNat_ofNat_of_lt' (Nat.div_lt_of_lt_mul hu)
  have hlow : (UInt8.ofNat u).toNat = u % 256 := UInt8.toNat_ofNat'
  change (hexUnit? _).map _ = _
  rw [hexUnit?_hexWritten, hhigh, hlow, Nat.div_add_mod']
  rfl

theorem toNat_charOfByte (b : UInt8) : (Char.ofNat b.toNat).toNat = b.toNat := by
  rw [Char.ofNat, dif_pos (Or.inl (b.toNat_lt.trans (by decide)))]
  rfl

def IsEscaped (b : UInt8) : Prop := b < 0x20 ∨ b = Json.byte '"' ∨ b = Json.byte '\\'

theorem byteWritten_of_not_isEscaped {b : UInt8} (hb : ¬IsEscaped b) : byteWritten b = [b] := by
  have hbyte : Json.byte (Char.ofNat b.toNat) = b := by
    rw [Json.byte, toNat_charOfByte]
    exact UInt8.ofNat_toNat
  obtain ⟨hprintable, hb⟩ := not_or.1 hb
  obtain ⟨hquote, hslash⟩ := not_or.1 hb
  have hspace : 0x20 ≤ b.toNat := UInt8.le_iff_toNat_le.1 (UInt8.not_lt.1 hprintable)
  have hne {c : Char} (hc : b ≠ Json.byte c) : Char.ofNat b.toNat ≠ c :=
    fun h => hc (hbyte.symm.trans (congrArg Json.byte h))
  rw [byteWritten, escaped, toNat_charOfByte, if_neg (hne hquote), if_neg (hne hslash),
    if_pos hspace, List.map_singleton, hbyte]

theorem byteWritten_ofNat : ∀ n < 0x20, UInt8.ofNat n ∉ [0x08, 0x09, 0x0A, 0x0C, 0x0D] →
    byteWritten (UInt8.ofNat n) = unitWritten n := by
  decide

theorem byteWritten_of_isEscaped {b : UInt8} (hb : IsEscaped b) :
    ∃ s, byteWritten b = Json.byte '\\' :: s ∧
      ∀ rest, escape? (s ++ rest) = some ((Piece.byte b).respelled, rest) := by
  by_cases hunit : b < 0x20 ∧ b ∉ [0x08, 0x09, 0x0A, 0x0C, 0x0D]
  · have hwritten := byteWritten_ofNat b.toNat (UInt8.lt_iff_toNat_lt.1 hunit.1)
    rw [UInt8.ofNat_toNat] at hwritten
    refine ⟨_, hwritten hunit.2, fun rest => ?_⟩
    rw [Piece.respelled, if_pos hunit]
    exact escape?_unit (b.toNat_lt.trans (by decide)) rest
  · rw [Piece.respelled, if_neg hunit]
    have hletter : b ∈ [0x08, 0x09, 0x0A, 0x0C, 0x0D] ∨ b = Json.byte '"' ∨ b = Json.byte '\\' :=
      hb.imp_left fun hcontrol => not_not.1 fun h => hunit ⟨hcontrol, h⟩
    simp only [List.mem_cons, List.not_mem_nil, or_false] at hletter
    rcases hletter with (rfl | rfl | rfl | rfl | rfl) | rfl | rfl <;>
      exact ⟨_, rfl, fun rest => rfl⟩

/-- What is written for a piece is read as one piece. -/
theorem pieces?_written {p : Piece} (hp : p.IsExact) (fuel : Nat) (rest : Input) :
    pieces? (fuel + 1) (p.written ++ rest) =
      (pieces? fuel rest).bind fun (ps, rest) => some (p.respelled :: ps, rest) := by
  cases p with
  | unit u =>
    change (escape? (byte 'u' :: (_ ++ rest))).bind _ = _
    rw [escape?_unit hp]
    rfl
  | byte b =>
    change pieces? (fuel + 1) (byteWritten b ++ rest) = _
    by_cases hb : IsEscaped b
    · obtain ⟨s, hs, hescape⟩ := byteWritten_of_isEscaped hb
      rw [hs]
      change (escape? (s ++ rest)).bind _ = _
      rw [hescape]
      rfl
    · rw [byteWritten_of_not_isEscaped hb]
      obtain ⟨hprintable, hb⟩ := not_or.1 hb
      obtain ⟨hquote, hslash⟩ := not_or.1 hb
      rw [Piece.respelled, if_neg fun h => hprintable h.1, List.singleton_append, pieces?,
        if_neg hquote, if_neg hslash, if_neg hprintable]
      rfl

theorem Piece.length_written_pos (p : Piece) : 0 < p.written.length := by
  cases p with
  | unit u => exact Nat.succ_pos _
  | byte b =>
    change 0 < (byteWritten b).length
    by_cases hb : IsEscaped b
    · obtain ⟨s, hs, -⟩ := byteWritten_of_isEscaped hb
      rw [hs]
      exact Nat.succ_pos _
    · rw [byteWritten_of_not_isEscaped hb]
      exact Nat.one_pos

theorem pieces?_flatMap {s : List Piece} (hs : ∀ p ∈ s, p.IsExact) {fuel : Nat}
    (hfuel : s.length < fuel) (rest : Input) :
    pieces? fuel (s.flatMap Piece.written ++ byte '"' :: rest) =
      some (s.map Piece.respelled, rest) := by
  induction s generalizing fuel with
  | nil =>
    obtain ⟨fuel, rfl⟩ := Nat.exists_eq_succ_of_ne_zero (Nat.ne_zero_of_lt hfuel)
    rfl
  | cons p s ih =>
    obtain ⟨fuel, rfl⟩ := Nat.exists_eq_succ_of_ne_zero (Nat.ne_zero_of_lt hfuel)
    have hrest := ih (fun q hq => hs q (List.mem_cons_of_mem p hq)) (Nat.lt_of_succ_lt_succ hfuel)
    rw [List.flatMap_cons, List.append_assoc, pieces?_written (hs p List.mem_cons_self), hrest]
    rfl

theorem length_le_flatMap_written (s : List Piece) :
    s.length ≤ (s.flatMap Piece.written).length := by
  induction s with
  | nil => exact Nat.zero_le _
  | cons p s ih =>
    rw [List.flatMap_cons, List.length_append, List.length_cons, Nat.add_comm]
    exact Nat.add_le_add p.length_written_pos ih

theorem string?_written {s : List Piece} (hs : ∀ p ∈ s, p.IsExact) (rest : Input) :
    string? (stringWritten s ++ rest) = some (s.map Piece.respelled, rest) := by
  have hwritten : stringWritten s ++ rest =
      byte '"' :: (s.flatMap Piece.written ++ byte '"' :: rest) := by
    rw [stringWritten, List.cons_append, List.append_assoc]
    rfl
  rw [hwritten]
  refine pieces?_flatMap hs (Nat.lt_succ_of_le ?_) rest
  rw [List.length_append]
  exact Nat.le_add_right_of_le (length_le_flatMap_written s)

/-! ### Numbers -/

theorem decimal_of_lt {d : Nat} (hd : d < 10) : decimal d = [byte d.digitChar] := by
  rw [decimal, Nat.toDigits_of_lt_base hd]
  rfl

theorem decimal_append {n d : Nat} (hn : 0 < n) (hd : d < 10) :
    decimal (10 * n + d) = decimal n ++ [byte d.digitChar] := by
  rw [← decimal_of_lt hd, decimal, decimal, decimal, ← List.map_append,
    Nat.toDigits_append_toDigits (by decide) hn hd]

theorem isDigit_digitChar {d : Nat} (hd : d < 10) : isDigit (byte d.digitChar) = true := by
  decide +revert

theorem toNat_digitChar {d : Nat} (hd : d < 10) : (byte d.digitChar).toNat - 0x30 = d := by
  decide +revert

theorem isDigit_of_mem_decimal {n : Nat} {b : UInt8} (hb : b ∈ decimal n) : isDigit b = true := by
  induction n using Nat.base_induction 10 (by decide) with
  | single d hd =>
    rw [decimal_of_lt hd] at hb
    exact List.mem_singleton.1 hb ▸ isDigit_digitChar hd
  | digit n d hd hn ih =>
    rw [decimal_append hn hd, List.mem_append] at hb
    exact hb.elim ih fun h => List.mem_singleton.1 h ▸ isDigit_digitChar hd

/-- Only zero has a leading zero. -/
theorem decimal_eq_cons (n : Nat) : ∃ b s, decimal n = b :: s ∧ (b = byte '0' → n = 0) := by
  induction n using Nat.base_induction 10 (by decide) with
  | single d hd => exact ⟨_, _, decimal_of_lt hd, by decide +revert⟩
  | digit n d hd hn ih =>
    obtain ⟨b, s, hs, hzero⟩ := ih
    refine ⟨b, s ++ [byte d.digitChar], ?_, fun h => absurd (hzero h) hn.ne'⟩
    rw [decimal_append hn hd, hs]
    rfl

theorem decimal_eq_cons_unsigned (n : Nat) :
    ∃ b s, decimal n = b :: s ∧ b ≠ byte '-' ∧ b ≠ byte '+' := by
  obtain ⟨b, s, hs, -⟩ := decimal_eq_cons n
  have hb : isDigit b = true := isDigit_of_mem_decimal (hs ▸ List.mem_cons_self)
  refine ⟨b, s, hs, ?_, ?_⟩
  all_goals
    rintro rfl
    cases hb

theorem digitsValue_decimal (n : Nat) : digitsValue (decimal n) = n := by
  induction n using Nat.base_induction 10 (by decide) with
  | single d hd =>
    rw [decimal_of_lt hd]
    exact (Nat.zero_add _).trans (toNat_digitChar hd)
  | digit n d hd hn ih =>
    rw [decimal_append hn hd, digitsValue, List.foldl_append]
    exact congrArg₂ (10 * · + ·) ih (toNat_digitChar hd)

theorem append_concat {n m : Nat} {s : List UInt8} {b : UInt8} (h : append n s = (m, 0))
    (hroom : 10 * m + (b.toNat - 0x30) ≤ maxWord) :
    append n (s ++ [b]) = (10 * m + (b.toNat - 0x30), 0) := by
  induction s generalizing n with
  | nil =>
    cases h
    exact if_pos hroom
  | cons c s ih =>
    rw [append] at h
    split_ifs at h with hnext
    · rw [List.cons_append, append, if_pos hnext]
      exact ih h
    · cases h

theorem append_decimal {n : Nat} (hn : n ≤ maxWord) : append 0 (decimal n) = (n, 0) := by
  induction n using Nat.base_induction 10 (by decide) with
  | single d hd =>
    rw [decimal_of_lt hd, append, toNat_digitChar hd, Nat.mul_zero, Nat.zero_add, if_pos hn]
    rfl
  | digit n d hd hpos ih =>
    have hshorter : append 0 (decimal n) = (n, 0) := ih (by omega)
    rw [decimal_append hpos hd, append_concat hshorter, toNat_digitChar hd]
    rw [toNat_digitChar hd]
    exact hn

def EndsDigits (rest : Input) : Prop := ∀ b ∈ rest.head?, isDigit b = false

theorem digits?_decimal (n : Nat) {rest : Input} (hrest : EndsDigits rest) :
    digits? (decimal n ++ rest) = some (decimal n, rest) := by
  have hdigits : ∀ b ∈ decimal n, isDigit b = true := fun b => isDigit_of_mem_decimal
  have hends : rest.takeWhile isDigit = [] ∧ rest.dropWhile isDigit = rest := by
    cases rest with
    | nil => exact ⟨rfl, rfl⟩
    | cons b s =>
      have hb := hrest b rfl
      exact ⟨List.takeWhile_cons_of_neg (by rw [hb]; decide),
        List.dropWhile_cons_of_neg (by rw [hb]; decide)⟩
  rw [digits?, List.takeWhile_append_of_pos hdigits, List.dropWhile_append_of_pos hdigits, hends.1,
    hends.2, List.append_nil]
  obtain ⟨b, s, hs, -⟩ := decimal_eq_cons n
  rw [hs]

theorem wholeDigits?_decimal (n : Nat) {rest : Input} (hrest : EndsDigits rest) :
    wholeDigits? (decimal n ++ rest) = some (decimal n, rest) := by
  obtain ⟨b, s, hs, hzero⟩ := decimal_eq_cons n
  rw [wholeDigits?, digits?_decimal n hrest]
  cases s with
  | nil => rw [hs]
  | cons c s =>
    have hb : b ≠ byte '0' := by
      intro h
      rw [hzero h] at hs
      cases hs
    rw [hs]
    exact if_neg hb

/-- What may follow a value. -/
def Closes (rest : Input) : Prop :=
  ∀ b ∈ rest.head?, b = byte ',' ∨ b = byte ']' ∨ b = byte '\x7d'

variable {rest : Input}

theorem Closes.endsDigits (h : Closes rest) : EndsDigits rest := by
  intro b hb
  rcases h b hb with rfl | rfl | rfl <;> rfl

/-- What follows the digits of a number is neither a digit nor a point. -/
theorem head_exponentWritten (n : Numeral) (hrest : Closes rest) :
    ∀ b ∈ (n.exponentWritten ++ rest).head?, isDigit b = false ∧ b ≠ byte '.' := by
  intro b hb
  unfold Numeral.exponentWritten at hb
  split_ifs at hb
  · rcases hrest b hb with rfl | rfl | rfl <;> exact ⟨rfl, by decide⟩
  · cases hb
    exact ⟨rfl, by decide⟩

theorem signed?_signedDecimal (e : Int) (hrest : Closes rest) :
    signed? (signedDecimal e ++ rest) = some (e, rest) := by
  have hdigits := digits?_decimal e.natAbs hrest.endsDigits
  unfold signedDecimal
  split_ifs with he
  · change (digits? (decimal e.natAbs ++ rest)).map _ = _
    rw [hdigits, Option.map_some]
    dsimp only
    rw [digitsValue_decimal]
    congr 2
    omega
  · obtain ⟨b, s, hs, hminus, hplus⟩ := decimal_eq_cons_unsigned e.natAbs
    rw [hs, List.cons_append, signed?, if_neg hminus, if_neg hplus, ← List.cons_append, ← hs,
      hdigits, Option.map_some]
    dsimp only
    rw [digitsValue_decimal]
    congr 2
    omega

theorem exponent?_written (n : Numeral) (hrest : Closes rest) :
    exponent? (n.exponentWritten ++ rest) =
      some (if n.whole then none else some n.exponent, rest) := by
  unfold Numeral.exponentWritten
  split_ifs with hwhole
  · cases rest with
    | nil => rfl
    | cons b s => rcases hrest b rfl with rfl | rfl | rfl <;> rfl
  · change (signed? (signedDecimal n.exponent ++ rest)).map _ = _
    rw [signed?_signedDecimal _ hrest]
    rfl

theorem fraction?_exponentWritten (n : Numeral) (hrest : Closes rest) :
    fraction? (n.exponentWritten ++ rest) = some ([], n.exponentWritten ++ rest) := by
  have hhead := head_exponentWritten n hrest
  cases hs : n.exponentWritten ++ rest with
  | nil => rfl
  | cons b s =>
    rw [hs] at hhead
    exact if_neg (hhead b rfl).2

theorem magnitude?_written {n : Numeral} (hn : n.IsExact) (hrest : Closes rest) :
    magnitude? n.negative (decimal n.significand ++ (n.exponentWritten ++ rest)) =
      some (n, rest) := by
  have hends : EndsDigits (n.exponentWritten ++ rest) := fun b hb =>
    (head_exponentWritten n hrest b hb).1
  have hexponent : (if n.whole then none else some n.exponent).getD 0 = n.exponent := by
    split_ifs with hwhole
    · exact (hn.exponent_eq hwhole).symm
    · rfl
  have hwhole : (if n.whole then none else some n.exponent).isNone = n.whole := by
    cases n.whole <;> rfl
  simp only [magnitude?, wholeDigits?_decimal _ hends, fraction?_exponentWritten n hrest,
    exponent?_written n hrest, append_decimal hn.significand_le, hexponent, hwhole, append,
    Option.bind_eq_bind, Option.bind_some, Option.pure_def, List.length_nil, List.isEmpty_nil,
    Bool.true_and, Nat.sub_zero, Int.natCast_zero, Int.add_zero, Int.sub_zero]

theorem numeral?_written {n : Numeral} (hn : n.IsExact) (hrest : Closes rest) :
    numeral? (n.written ++ rest) = some (n, rest) := by
  have hmagnitude := magnitude?_written hn hrest
  rw [Numeral.written, List.append_assoc, List.append_assoc]
  cases hnegative : n.negative with
  | true =>
    rw [hnegative] at hmagnitude
    exact hmagnitude
  | false =>
    rw [hnegative] at hmagnitude
    obtain ⟨b, s, hs, hminus, -⟩ := decimal_eq_cons_unsigned n.significand
    rw [hs] at hmagnitude ⊢
    exact (if_neg hminus).trans hmagnitude

/-! ### Values -/

theorem skipSpace_cons {b : UInt8} (hb : isSpace b = false) (s : Input) :
    skipSpace (b :: s) = b :: s :=
  List.dropWhile_cons_of_neg (by rw [hb]; decide)

theorem itemsRespelled_eq_map (items : List Outline) :
    itemsRespelled items = items.map Outline.respelled := by
  induction items with
  | nil => rfl
  | cons item rest ih => rw [itemsRespelled, ih, List.map_cons]

def BeginsNumber (b : UInt8) : Prop := b = byte '-' ∨ isDigit b = true

theorem BeginsNumber.ne {b c : UInt8} (hb : BeginsNumber b) (hminus : c ≠ byte '-')
    (hdigit : isDigit c = false) : b ≠ c := by
  rintro rfl
  rcases hb with hb | hb
  · exact hminus hb
  · exact absurd (hdigit.symm.trans hb) (by decide)

theorem BeginsNumber.isSpace_eq {b : UInt8} (hb : BeginsNumber b) : isSpace b = false := by
  have hne {c : UInt8} (hminus : c ≠ byte '-') (hdigit : isDigit c = false) : (b == c) = false :=
    beq_false_of_ne (hb.ne hminus hdigit)
  rw [isSpace, hne (by decide) rfl, hne (by decide) rfl, hne (by decide) rfl, hne (by decide) rfl]
  rfl

theorem Numeral.written_eq_cons (n : Numeral) :
    ∃ b s, n.written = b :: s ∧ BeginsNumber b := by
  unfold Numeral.written
  split_ifs
  · exact ⟨_, _, rfl, Or.inl rfl⟩
  · obtain ⟨b, s, hs, -⟩ := decimal_eq_cons n.significand
    have hb : isDigit b = true := isDigit_of_mem_decimal (hs ▸ List.mem_cons_self)
    refine ⟨b, s ++ n.exponentWritten, ?_, Or.inr hb⟩
    rw [hs]
    rfl

/-- A value begins with a byte that is no blank and closes no array. -/
theorem Outline.written_eq_cons (o : Outline) :
    ∃ b s, o.written = b :: s ∧ isSpace b = false ∧ b ≠ byte ']' := by
  cases o with
  | bool b => cases b <;> exact ⟨_, _, rfl, by decide⟩
  | number n =>
    obtain ⟨b, s, hs, hb⟩ := n.written_eq_cons
    exact ⟨b, s, hs, hb.isSpace_eq, hb.ne (by decide) rfl⟩
  | _ => exact ⟨_, _, rfl, by decide⟩

theorem value?_number {n : Numeral} (hn : n.IsExact) {rest : Input} (hrest : Closes rest)
    (fuel : Nat) : value? (fuel + 1) (n.written ++ rest) = some (.number n, rest) := by
  have hread := numeral?_written hn hrest
  obtain ⟨b, s, hs, hb⟩ := n.written_eq_cons
  have hne {c : UInt8} (hminus : c ≠ byte '-') (hdigit : isDigit c = false) : ¬b = c :=
    hb.ne hminus hdigit
  rw [hs, List.cons_append] at hread
  rw [hs, List.cons_append, value?, skipSpace_cons hb.isSpace_eq]
  dsimp only
  rw [if_neg (hne (by decide) rfl), if_neg (hne (by decide) rfl), if_neg (hne (by decide) rfl),
    if_neg (hne (by decide) rfl), if_neg (hne (by decide) rfl), if_neg (hne (by decide) rfl),
    hread]
  rfl

def Outline.ReadsBack (o : Outline) : Prop :=
  ∀ fuel rest, o.written.length ≤ fuel → Closes rest →
    Json.value? fuel (o.written ++ rest) = some (o.respelled, rest)

theorem items?_written {items : List Outline} (hne : items ≠ [])
    (hitems : ∀ o ∈ items, o.ReadsBack) {fuel : Nat} (hfuel : (itemsWritten items).length < fuel)
    (rest : Input) :
    items? fuel (itemsWritten items ++ byte ']' :: rest) = some (itemsRespelled items, rest) := by
  induction items generalizing fuel with
  | nil => exact absurd rfl hne
  | cons item later ih =>
    obtain ⟨fuel, rfl⟩ := Nat.exists_eq_succ_of_ne_zero (Nat.ne_zero_of_lt hfuel)
    have hitem := hitems item List.mem_cons_self
    cases later with
    | nil =>
      have hread := hitem fuel (byte ']' :: rest) (Nat.le_of_lt_succ hfuel)
        (fun b hb => Or.inr (Or.inl (Option.some.inj hb).symm))
      rw [itemsWritten, items?, hread]
      rfl
    | cons next later =>
      rw [itemsWritten, List.length_append, List.length_cons] at hfuel
      have hshorter : (itemsWritten (next :: later)).length < fuel := by omega
      have hlater := ih (List.cons_ne_nil _ _) (fun o ho => hitems o (List.mem_cons_of_mem _ ho))
        hshorter
      have hread := hitem fuel (byte ',' :: (itemsWritten (next :: later) ++ byte ']' :: rest))
        (by omega) (fun b hb => Or.inl (Option.some.inj hb).symm)
      rw [itemsWritten, List.append_assoc, List.cons_append, items?, hread]
      change (items? fuel (itemsWritten (next :: later) ++ byte ']' :: rest)).bind _ = _
      rw [hlater]
      rfl

theorem members?_written {members : List (List Piece × Outline)} (hne : members ≠ [])
    (hkeys : ∀ m ∈ members, ∀ p ∈ m.1, p.IsExact) (hitems : ∀ m ∈ members, m.2.ReadsBack)
    {fuel : Nat} (hfuel : (membersWritten members).length < fuel) (rest : Input) :
    members? fuel (membersWritten members ++ byte '\x7d' :: rest) =
      some (membersRespelled members, rest) := by
  induction members generalizing fuel with
  | nil => exact absurd rfl hne
  | cons m later ih =>
    obtain ⟨fuel, rfl⟩ := Nat.exists_eq_succ_of_ne_zero (Nat.ne_zero_of_lt hfuel)
    obtain ⟨key, item⟩ := m
    have hkey := string?_written (hkeys (key, item) List.mem_cons_self)
    have hitem : item.ReadsBack := hitems (key, item) List.mem_cons_self
    cases later with
    | nil =>
      rw [membersWritten, List.length_append, List.length_cons] at hfuel
      have hread := hitem fuel (byte '\x7d' :: rest) (by omega)
        (fun b hb => Or.inr (Or.inr (Option.some.inj hb).symm))
      rw [membersWritten, List.append_assoc, List.cons_append, members?]
      change (string? (stringWritten key ++ _)).bind _ = _
      rw [hkey]
      change (Json.value? fuel (item.written ++ _)).bind _ = _
      rw [hread]
      rfl
    | cons next later =>
      rw [membersWritten, List.length_append, List.length_cons, List.length_append,
        List.length_cons] at hfuel
      have hshorter : (membersWritten (next :: later)).length < fuel := by omega
      have hlater := ih (List.cons_ne_nil _ _)
        (fun m hm => hkeys m (List.mem_cons_of_mem _ hm))
        (fun m hm => hitems m (List.mem_cons_of_mem _ hm)) hshorter
      have hread := hitem fuel
        (byte ',' :: (membersWritten (next :: later) ++ byte '\x7d' :: rest))
        (by omega) (fun b hb => Or.inl (Option.some.inj hb).symm)
      rw [membersWritten, List.append_assoc, List.cons_append, List.append_assoc, List.cons_append,
        members?]
      change (string? (stringWritten key ++ _)).bind _ = _
      rw [hkey]
      change (Json.value? fuel (item.written ++ _)).bind _ = _
      rw [hread]
      change (members? fuel (membersWritten (next :: later) ++ byte '\x7d' :: rest)).bind _ = _
      rw [hlater]
      rfl

theorem Outline.readsBack_of_succ {o : Outline}
    (h : ∀ fuel rest, o.written.length ≤ fuel + 1 → Closes rest →
      Json.value? (fuel + 1) (o.written ++ rest) = some (o.respelled, rest)) : o.ReadsBack := by
  intro fuel rest hfuel hrest
  obtain ⟨b, s, hs, -⟩ := o.written_eq_cons
  have hpos : 0 < o.written.length := hs ▸ Nat.succ_pos _
  obtain ⟨fuel, rfl⟩ := Nat.exists_eq_succ_of_ne_zero (Nat.ne_zero_of_lt (hpos.trans_le hfuel))
  exact h fuel rest hfuel hrest

theorem expect?_itemsWritten (item : Outline) (later : List Outline) (rest : Input) :
    expect? ']' (itemsWritten (item :: later) ++ rest) = none := by
  obtain ⟨b, s, hs, hspace, hne⟩ := item.written_eq_cons
  obtain ⟨s', hs'⟩ : ∃ s', itemsWritten (item :: later) = b :: s' := by
    cases later with
    | nil => exact ⟨s, hs⟩
    | cons next later =>
      rw [itemsWritten, hs]
      exact ⟨_, rfl⟩
  rw [hs', List.cons_append, expect?, skipSpace_cons hspace]
  exact if_neg hne

theorem expect?_membersWritten (m : List Piece × Outline) (later : List (List Piece × Outline))
    (rest : Input) : expect? '\x7d' (membersWritten (m :: later) ++ rest) = none := by
  cases later <;> rfl

theorem readsBack_array {items : List Outline} (hitems : ∀ o ∈ items, o.ReadsBack) :
    (Outline.array items).ReadsBack := by
  apply Outline.readsBack_of_succ
  intro fuel rest hfuel _
  cases items with
  | nil => rfl
  | cons item later =>
    rw [Outline.written, List.length_cons, List.length_append] at hfuel
    have hread := items?_written (List.cons_ne_nil item later) hitems (Nat.le_of_succ_le_succ hfuel)
      rest
    rw [Outline.written, List.cons_append, List.append_assoc, List.singleton_append, Json.value?,
      skipSpace_cons (by decide)]
    dsimp only
    rw [if_pos rfl, expect?_itemsWritten, hread]
    rfl

theorem readsBack_object {members : List (List Piece × Outline)}
    (hkeys : ∀ m ∈ members, ∀ p ∈ m.1, p.IsExact) (hitems : ∀ m ∈ members, m.2.ReadsBack) :
    (Outline.object members).ReadsBack := by
  apply Outline.readsBack_of_succ
  intro fuel rest hfuel _
  cases members with
  | nil => rfl
  | cons m later =>
    rw [Outline.written, List.length_cons, List.length_append] at hfuel
    have hread := members?_written (List.cons_ne_nil m later) hkeys hitems
      (Nat.le_of_succ_le_succ hfuel) rest
    rw [Outline.written, List.cons_append, List.append_assoc, List.singleton_append, Json.value?,
      skipSpace_cons (by decide)]
    dsimp only
    rw [if_neg (by decide), if_pos rfl, expect?_membersWritten, hread]
    rfl

theorem Outline.IsExact.readsBack {o : Outline} (h : o.IsExact) : o.ReadsBack := by
  induction h with
  | null => exact Outline.readsBack_of_succ fun _ _ _ _ => rfl
  | bool b => exact Outline.readsBack_of_succ fun _ _ _ _ => by cases b <;> rfl
  | number h => exact Outline.readsBack_of_succ fun fuel _ _ hrest => value?_number h hrest fuel
  | @string s h =>
    apply Outline.readsBack_of_succ
    intro fuel rest _ _
    change (Json.string? (stringWritten s ++ rest)).map _ = _
    rw [string?_written h]
    rfl
  | array _ ih => exact readsBack_array ih
  | object hkeys _ ih => exact readsBack_object hkeys ih

theorem Outline.parse?_written {o : Outline} (h : o.IsExact) :
    Outline.parse? o.written = some o.respelled := by
  have hread := h.readsBack (2 * o.written.length + 2) [] (by omega) (fun b hb => nomatch hb)
  rw [List.append_nil] at hread
  rw [Outline.parse?, hread]
  rfl

/-! ### Reading -/

theorem encode_control : ∀ n < 0x20,
    Text.Utf8.encode (String.singleton (Char.ofNat n)) = [UInt8.ofNat n] := by
  decide +kernel

theorem bytes?_byte (b : UInt8) (s : List Piece) :
    bytes? (.byte b :: s) = (bytes? s).map (b :: ·) := rfl

theorem Piece.respelled_byte_cases (b : UInt8) :
    (Piece.byte b).respelled = .byte b ∨
      (Piece.byte b).respelled = .unit b.toNat ∧ b.toNat < 0x20 := by
  rw [Piece.respelled]
  split_ifs with h
  · exact Or.inr ⟨rfl, UInt8.lt_iff_toNat_lt.1 h.1⟩
  · exact Or.inl rfl

theorem isSurrogate_of_lt : ∀ n < 0x20, isLeadUnit n = false ∧ isTrailUnit n = false := by
  decide

/-- A unit that is a character by itself. -/
theorem bytes?_unit {u : Nat} (hlead : isLeadUnit u = false) (htrail : isTrailUnit u = false)
    (s : List Piece) : bytes? (.unit u :: s) =
      (bytes? s).map (Text.Utf8.encode (String.singleton (Char.ofNat u)) ++ ·) := by
  have hneither : ¬(isLeadUnit u || isTrailUnit u) = true := by
    rw [hlead, htrail]
    decide
  rcases s with - | ⟨b | v, s⟩
  · exact (bytes?.eq_4 u [] (by simp)).trans (if_neg hneither)
  · exact (bytes?.eq_4 u (.byte b :: s) (by simp)).trans (if_neg hneither)
  · rw [bytes?, hlead, htrail]
    rfl

/-- A unit that is no character, and has none beside it to be one with. -/
theorem bytes?_surrogate {u : Nat} (hu : (isLeadUnit u || isTrailUnit u) = true) {s : List Piece}
    (hs : ∀ v s', s = .unit v :: s' → isTrailUnit v = false) : bytes? (.unit u :: s) = none := by
  rcases s with - | ⟨b | v, s⟩
  · exact (bytes?.eq_4 u [] (by simp)).trans (if_pos hu)
  · exact (bytes?.eq_4 u (.byte b :: s) (by simp)).trans (if_pos hu)
  · rw [bytes?, hs v s rfl]
    cases hlead : isLeadUnit u with
    | true => rfl
    | false =>
      rw [hlead, Bool.false_or] at hu
      rw [hu]
      rfl

theorem bytes?_control {n : Nat} (hn : n < 0x20) (s : List Piece) :
    bytes? (.unit n :: s) = (bytes? s).map (UInt8.ofNat n :: ·) := by
  obtain ⟨hlead, htrail⟩ := isSurrogate_of_lt n hn
  rw [bytes?_unit hlead htrail, encode_control n hn]
  rfl

theorem bytes?_respelled (s : List Piece) : bytes? (s.map Piece.respelled) = bytes? s := by
  induction s using bytes?.induct with
  | case1 => rfl
  | case2 b rest ih =>
    rw [List.map_cons, bytes?_byte, ← ih]
    rcases Piece.respelled_byte_cases b with hb | ⟨hb, hcontrol⟩
    · rw [hb, bytes?_byte]
    · rw [hb, bytes?_control hcontrol, UInt8.ofNat_toNat]
  | case3 u v rest hlead htrail ih =>
    change bytes? (.unit u :: .unit v :: rest.map Piece.respelled) = _
    rw [bytes?, if_pos hlead, if_pos htrail, ih, bytes?, if_pos hlead, if_pos htrail]
  | case4 u v rest hlead htrail =>
    change bytes? (.unit u :: .unit v :: rest.map Piece.respelled) = _
    rw [bytes?, if_pos hlead, if_neg htrail, bytes?, if_pos hlead, if_neg htrail]
  | case5 u v rest hlead htrail =>
    change bytes? (.unit u :: .unit v :: rest.map Piece.respelled) = _
    rw [bytes?, if_neg hlead, if_pos htrail, bytes?, if_neg hlead, if_pos htrail]
  | case6 u v rest hlead htrail ih =>
    have hunit := bytes?_unit (Bool.eq_false_iff.2 hlead) (Bool.eq_false_iff.2 htrail)
    change bytes? (.unit u :: (Piece.unit v :: rest).map Piece.respelled) = _
    rw [hunit, hunit, ih]
  | case7 u rest hrest hsurrogate =>
    have hhead : ∀ v s', rest.map Piece.respelled = .unit v :: s' → isTrailUnit v = false := by
      intro v s' h
      rcases rest with - | ⟨b | v', rest⟩
      · cases h
      · obtain ⟨hv, -⟩ := List.cons.inj h
        rcases Piece.respelled_byte_cases b with hb | ⟨hb, hcontrol⟩
        · cases hb.symm.trans hv
        · cases hb.symm.trans hv
          exact (isSurrogate_of_lt _ hcontrol).2
      · exact (hrest v' rest rfl).elim
    rw [bytes?_surrogate hsurrogate fun v s' h => (hrest v s' h).elim]
    exact bytes?_surrogate hsurrogate hhead
  | case8 u rest hrest hsurrogate ih =>
    have hneither := Bool.or_eq_false_iff.1 (Bool.eq_false_iff.2 hsurrogate)
    change bytes? (.unit u :: rest.map Piece.respelled) = _
    rw [bytes?_unit hneither.1 hneither.2, bytes?_unit hneither.1 hneither.2, ih]

theorem text?_respelled (s : List Piece) : text? (s.map Piece.respelled) = text? s := by
  rw [text?, bytes?_respelled, text?]

theorem text?_byte (s : String) : text? ((Text.Utf8.encode s).map .byte) = some s := by
  have hbytes (bytes : List UInt8) : bytes? (bytes.map .byte) = some bytes := by
    induction bytes with
    | nil => rfl
    | cons b rest ih => rw [List.map_cons, bytes?_byte, ih, Option.map_some]
  rw [text?, hbytes]
  exact Text.Utf8.decode?_encode s

end MetricRing.Json
