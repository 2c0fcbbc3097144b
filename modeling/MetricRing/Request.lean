import MetricRing.Pool
import MetricRing.Text.Blank

/-!
# Requests and responses

What a client sends to a node and what comes back. Header names are kept in lower case, and a
header may have several values, of which the first counts.
-/

namespace MetricRing

/-- Points in time and spans between them, in milliseconds. -/
abbrev Time := Nat

abbrev Headers := List (String × List UInt8)

namespace Headers

def get? (hs : Headers) (name : String) : Option (List UInt8) := hs.lookup name

def contains (hs : Headers) (name : String) : Bool := (get? hs name).isSome

def remove (hs : Headers) (name : String) : Headers := hs.filter fun h => h.1 != name

/-- Sets a header to one value. -/
def insert (hs : Headers) (name : String) (value : List UInt8) : Headers :=
  remove hs name ++ [(name, value)]

/-- Adds a value to those that a header has. -/
def append (hs : Headers) (name : String) (value : List UInt8) : Headers := hs ++ [(name, value)]

def isVisible (b : UInt8) : Bool := (0x20 ≤ b && b < 0x7F) || b == 0x09

/-- The value of a header, if it is plain text. -/
def text? (hs : Headers) (name : String) : Option String :=
  (get? hs name).bind fun value =>
    if value.all isVisible then some (Text.Utf8.decode value) else none

/-- The characters of header names. -/
def isNameChar (c : Char) : Bool :=
  c.isAlphanum || c == '!' || c == '#' || c == '$' || c == '%' || c == '&' || c == '\'' ||
    c == '*' || c == '+' || c == '-' || c == '.' || c == '^' || c == '_' || c.toNat == 0x60 ||
    c == '|' || c == '~'

/-- The longest name of a header. -/
def maxName : Nat := 65535

/-- The written form of a header name. -/
def name? (s : String) : Option String :=
  if s ≠ "" ∧ s.utf8ByteSize ≤ maxName ∧ s.toList.all isNameChar then some (Text.asciiLower s) else none

/-- Values hold no control characters but the tab. -/
def isValue (value : List UInt8) : Bool := value.all fun b => (0x20 ≤ b && b != 0x7F) || b == 0x09

end Headers

structure Request where
  method : String := "GET"
  path : String
  body : List UInt8 := []
  headers : Headers := []
  preferred : Option NodeRef := none
  deadline : Option Time := none
  deriving DecidableEq, Repr

namespace Request

def get (path : String) : Request := { path }

def bodyText (r : Request) : String := Text.Utf8.decode r.body

end Request

structure Response where
  status : Nat
  headers : Headers := []
  body : List UInt8 := []
  node : String
  deriving DecidableEq, Repr

namespace Response

def isSuccess (r : Response) : Bool := 200 ≤ r.status && r.status < 300

def text (r : Response) : String := Text.Utf8.decode r.body

end Response
end MetricRing
