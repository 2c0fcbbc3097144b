import MetricRing.Decimal.Scaled
import MetricRing.Json.Outline
import MetricRing.Text.Utf8

/-!
# JSON values

The values that free-form documents hold. An object lists its members in the order of their
keys, each key once, and of equal keys in a text the last one counts. Containers may be open
inside one another up to a fixed depth.
-/

namespace MetricRing.Json

inductive Number where
  | integer (n : Int)
  | real (x : Float)

inductive Value where
  | null
  | bool (b : Bool)
  | number (n : Number)
  | string (s : String)
  | array (items : List Value)
  | object (members : List (String × Value))
  deriving Inhabited

def maxDepth : Nat := 127

def isLeadUnit (u : Nat) : Bool := 0xD800 ≤ u && u ≤ 0xDBFF

def isTrailUnit (u : Nat) : Bool := 0xDC00 ≤ u && u ≤ 0xDFFF

/-- The bytes of the pieces; a unit outside the characters pairs with the one after it. -/
def bytes? : List Piece → Option (List UInt8)
  | [] => some []
  | .byte b :: rest => (bytes? rest).map (b :: ·)
  | .unit u :: .unit v :: rest =>
    if isLeadUnit u then
      if isTrailUnit v then
        let c := Char.ofNat (0x10000 + (u - 0xD800) * 0x400 + (v - 0xDC00))
        (bytes? rest).map (Text.Utf8.encode (String.singleton c) ++ ·)
      else none
    else if isTrailUnit u then none
    else (bytes? (.unit v :: rest)).map (Text.Utf8.encode (String.singleton (Char.ofNat u)) ++ ·)
  | .unit u :: rest =>
    if isLeadUnit u || isTrailUnit u then none
    else (bytes? rest).map (Text.Utf8.encode (String.singleton (Char.ofNat u)) ++ ·)

/-- The text that the pieces spell. -/
def text? (pieces : List Piece) : Option String :=
  match bytes? pieces with
  | some bytes => Text.Utf8.decode? bytes
  | none => none

/-- Whether a number has 64 bits, with or without a sign. -/
def fitsWord (n : Int) : Bool := -0x8000000000000000 ≤ n && n < 0x10000000000000000

/-- Whole numbers of 64 bits stay whole; all others are doubles, which must be finite. -/
def Numeral.number? (n : Numeral) : Option Number :=
  let signed : Int := if n.negative then -(n.significand : Int) else n.significand
  if n.whole ∧ n.exponent = 0 ∧ fitsWord signed ∧ ¬(n.negative ∧ n.significand = 0) then
    some (.integer signed)
  else (Decimal.scale? n.significand n.exponent).map fun x => .real (if n.negative then -x else x)

/-- Puts a member into its place, over an earlier one with its key. -/
def putMember (key : String) (value : Value) : List (String × Value) → List (String × Value)
  | [] => [(key, value)]
  | (k, v) :: rest =>
    if key = k then (key, value) :: rest
    else if key < k then (key, value) :: (k, v) :: rest
    else (k, v) :: putMember key value rest

mutual

/-- The value that an outline spells, with room for `depth` containers inside one another. -/
def Outline.value? (depth : Nat) : Outline → Option Value
  | .null => some .null
  | .bool b => some (.bool b)
  | .number n => n.number?.map .number
  | .string s => (text? s).map .string
  | .array items =>
    match depth with
    | 0 => none
    | depth + 1 => (itemValues? depth items).map .array
  | .object members =>
    match depth with
    | 0 => none
    | depth + 1 => (memberValues? depth members []).map .object

def itemValues? (depth : Nat) : List Outline → Option (List Value)
  | [] => some []
  | item :: rest => do
    let value ← item.value? depth
    let values ← itemValues? depth rest
    return value :: values

def memberValues? (depth : Nat) :
    List (List Piece × Outline) → List (String × Value) → Option (List (String × Value))
  | [], members => some members
  | (key, item) :: rest, members => do
    let key ← text? key
    let value ← item.value? depth
    memberValues? depth rest (putMember key value members)

end

namespace Value

def parse? (bytes : List UInt8) : Option Value :=
  match Outline.parse? bytes with
  | some o => o.value? maxDepth
  | none => none

/-- The member of an object with this key. -/
def get? (key : String) : Value → Option Value
  | object members => members.lookup key
  | _ => none

def string? : Value → Option String
  | string s => some s
  | _ => none

def float? : Value → Option Float
  | number (.integer n) => some (Decimal.ofInt n)
  | number (.real x) => some x
  | _ => none

end Value
end MetricRing.Json
