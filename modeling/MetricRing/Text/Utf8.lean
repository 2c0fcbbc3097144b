/-!
# UTF-8

Texts as bytes. `decode?` accepts well-formed bytes alone. `decode` accepts all bytes and turns
each maximal ill-formed run, cut where the character it began can no longer be completed, into
one replacement character. What was encoded is decoded again.
-/

namespace MetricRing.Text.Utf8

def encode (s : String) : List UInt8 := s.toUTF8.toList

/-- The text that the bytes spell, if they are well formed. -/
def decode? (bytes : List UInt8) : Option String := String.fromUTF8? ⟨bytes.toArray⟩

theorem toList_loop (bytes : ByteArray) (i : Nat) (r : List UInt8) :
    ByteArray.toList.loop bytes i r = r.reverse ++ bytes.data.toList.drop i := by
  fun_induction ByteArray.toList.loop bytes i r with
  | case1 i r hi ih =>
    rw [ih, List.reverse_cons, List.append_assoc]
    have hlength : i < bytes.data.toList.length := hi
    have hget : bytes.get! i = bytes.data.toList[i] := getElem!_pos bytes.data i hi
    rw [List.drop_eq_getElem_cons hlength, hget]
    rfl
  | case2 i r hi =>
    rw [List.drop_eq_nil_of_le, List.append_nil]
    exact Nat.le_of_not_lt hi

theorem encode_eq (s : String) : encode s = s.toByteArray.data.toList :=
  toList_loop s.toByteArray 0 []

theorem decode?_encode (s : String) : decode? (encode s) = some s := by
  have hbytes : (⟨(encode s).toArray⟩ : ByteArray) = s.toByteArray := by
    rw [encode_eq]
  rw [decode?, hbytes, String.fromUTF8?, dif_pos s.isValidUTF8]
  rfl

/-- How many continuation bytes a lead byte asks for, and the range of the first of them. -/
def lead? (b : UInt8) : Option (Nat × UInt8 × UInt8) :=
  if b < 0x80 then some (0, 0x80, 0xBF)
  else if b < 0xC2 then none
  else if b < 0xE0 then some (1, 0x80, 0xBF)
  else if b = 0xE0 then some (2, 0xA0, 0xBF)
  else if b = 0xED then some (2, 0x80, 0x9F)
  else if b < 0xF0 then some (2, 0x80, 0xBF)
  else if b = 0xF0 then some (3, 0x90, 0xBF)
  else if b < 0xF4 then some (3, 0x80, 0xBF)
  else if b = 0xF4 then some (3, 0x80, 0x8F)
  else none

/-- How many of the next `n` bytes continue a character, of which the first lies in `lo … hi`. -/
def continued (n : Nat) (lo hi : UInt8) : List UInt8 → Nat
  | [] => 0
  | b :: rest =>
    match n with
    | 0 => 0
    | n + 1 => if lo ≤ b ∧ b ≤ hi then continued n 0x80 0xBF rest + 1 else 0

def replacement : Char := Char.ofNat 0xFFFD

def codePoint (bytes : List UInt8) : Nat :=
  match bytes with
  | [] => 0
  | [a] => a.toNat
  | a :: rest =>
    rest.foldl (fun n b => n * 64 + b.toNat % 64) (a.toNat % Nat.pow 2 (6 - rest.length))

/-- Reads `fuel` bytes at most; each round takes one character or one ill-formed run. -/
def decodeLossy (fuel : Nat) (bytes : List UInt8) : List Char :=
  match fuel, bytes with
  | 0, _ => []
  | _, [] => []
  | fuel + 1, b :: rest =>
    match lead? b with
    | none => replacement :: decodeLossy fuel rest
    | some (n, lo, hi) =>
      let k := continued n lo hi rest
      let c := if k = n then Char.ofNat (codePoint (b :: rest.take n)) else replacement
      c :: decodeLossy fuel (rest.drop k)

def decode (bytes : List UInt8) : String := String.ofList (decodeLossy bytes.length bytes)

end MetricRing.Text.Utf8
