import MetricRing.Address.Domain
import MetricRing.Address.Ipv6

/-!
# URLs of servers

The URL Standard's reading of an address, up to what tells one server from another: scheme, user
information, host, port, path, query and fragment. Web schemes have a host always; blanks at the
ends and line breaks anywhere are ignored.
-/

namespace MetricRing.Address

inductive UrlError where
  | emptyHost
  | invalidDomain
  | invalidPort
  | invalidIpv4
  | invalidIpv6
  | invalidHostCharacter
  | noScheme
  deriving DecidableEq, Repr

def UrlError.message : UrlError → String
  | .emptyHost => "empty host"
  | .invalidDomain => "invalid international domain name"
  | .invalidPort => "invalid port number"
  | .invalidIpv4 => "invalid IPv4 address"
  | .invalidIpv6 => "invalid IPv6 address"
  | .invalidHostCharacter => "invalid domain character"
  | .noScheme => "relative URL without a base"

/-- A URL; the parts after the host are kept as they are written out. -/
structure Url where
  scheme : String
  userinfo : String := ""
  host : String := ""
  port : Option Nat := none
  path : String := ""
  query : Option String := none
  fragment : Option String := none
  deriving DecidableEq, Repr

namespace Url

def text (u : Url) : String :=
  u.scheme ++ "://" ++ u.userinfo ++ u.host ++
    ((u.port.map fun p => ":" ++ toString p).getD "") ++ u.path ++
    ((u.query.map ("?" ++ ·)).getD "") ++ ((u.fragment.map ("#" ++ ·)).getD "")

/-- The port of a scheme whose URLs all have hosts; none for `file` and for other schemes. -/
def defaultPort? (scheme : String) : Option Nat :=
  if scheme = "http" ∨ scheme = "ws" then some 80
  else if scheme = "https" ∨ scheme = "wss" then some 443
  else if scheme = "ftp" then some 21
  else none

def isSpecial (scheme : String) : Bool := scheme == "file" || (defaultPort? scheme).isSome

/-! ### Input -/

def isLineBreak (c : Char) : Bool := c == '\t' || c == '\n' || c == '\r'

def isLow (c : Char) : Bool := c.toNat ≤ 0x20

def clean (s : List Char) : List Char :=
  (((s.dropWhile isLow).reverse.dropWhile isLow).reverse).filter fun c => !isLineBreak c

def isSchemeChar (c : Char) : Bool := c.isAlphanum || c == '+' || c == '-' || c == '.'

/-- Splits off the scheme and its colon. -/
def scheme? (s : List Char) : Option (String × List Char) :=
  let name := s.takeWhile isSchemeChar
  match s.head?, s.dropWhile isSchemeChar with
  | some c, ':' :: rest =>
    if c.isAlpha then some (String.ofList (name.map Char.toLower), rest) else none
  | _, _ => none

/-! ### Authority -/

def endsAuthority (special : Bool) (c : Char) : Bool :=
  c == '/' || c == '?' || c == '#' || (special && c == '\\')

/-- Splits at the last at sign. -/
def splitAt? (s : List Char) : Option (List Char × List Char) :=
  match s with
  | [] => none
  | c :: rest =>
    match splitAt? rest with
    | some (before, after) => some (c :: before, after)
    | none => if c = '@' then some ([], rest) else none

/-- The user information as written before the host. A colon without password is dropped. -/
def userinfoText (s : List Char) : String :=
  let name := percentEncode inUserinfo (s.takeWhile (· != ':'))
  let password := percentEncode inUserinfo ((s.dropWhile (· != ':')).drop 1)
  let both := if password.isEmpty then name else name ++ ':' :: password
  if both.isEmpty then "" else String.ofList (both ++ ['@'])

/-- How much of the authority is the host: up to a colon outside brackets. -/
def hostLength (bracketed : Bool) : List Char → Nat
  | [] => 0
  | c :: rest =>
    if c = ':' ∧ !bracketed then 0
    else hostLength (if c = '[' then true else if c = ']' then false else bracketed) rest + 1

def ipv6Host (s : List Char) : Except UrlError String :=
  match s.reverse with
  | ']' :: inner =>
    match Ipv6.parse? inner.reverse with
    | some groups => .ok ("[" ++ Ipv6.text groups ++ "]")
    | none => .error .invalidIpv6
  | _ => .error .invalidIpv6

def domainHost (s : List Char) : Except UrlError String :=
  let bytes := percentDecode (Text.Utf8.encode (String.ofList s))
  match Domain.toAscii? (Text.Utf8.decode bytes).toList with
  | none => .error .invalidDomain
  | some name =>
    if name.isEmpty then .error .emptyHost
    else if Ipv4.endsInNumber name then
      match Ipv4.parse? name with
      | some n => .ok (Ipv4.text n)
      | none => .error .invalidIpv4
    else .ok (String.ofList name)

def isForbiddenOpaque (c : Char) : Bool :=
  c.toNat == 0 || isLineBreak c || c == ' ' || c == '#' || c == '/' || c == ':' || c == '<' ||
    c == '>' || c == '?' || c == '@' || c == '[' || c == '\\' || c == ']' || c == '^' || c == '|'

def opaqueHost (s : List Char) : Except UrlError String :=
  if s.any isForbiddenOpaque then .error .invalidHostCharacter
  else .ok (String.ofList (percentEncode isControl s))

def hostText (special : Bool) (s : List Char) : Except UrlError String :=
  match s with
  | '[' :: rest => ipv6Host rest
  | s => if special then domainHost s else opaqueHost s

def portValue? (s : List Char) : Option Nat :=
  s.foldl (fun n c => n.bind fun n =>
    if c.isDigit then
      let n := n * 10 + (c.toNat - '0'.toNat)
      if n ≤ 65535 then some n else none
    else none) (some 0)

/-- What follows the host: nothing, or a colon and a port that may be empty. -/
def portOf (scheme : String) : List Char → Except UrlError (Option Nat)
  | ':' :: rest =>
    let digits := rest.takeWhile (· != '\\')
    match portValue? digits with
    | none => .error .invalidPort
    | some n =>
      if digits.isEmpty ∨ defaultPort? scheme = some n then .ok none else .ok (some n)
  | _ => .ok none

/-! ### Path -/

def isDot (s : List Char) : Bool :=
  let s := String.ofList (s.map Char.toLower)
  s == "." || s == "%2e"

def isDoubleDot (s : List Char) : Bool :=
  let s := String.ofList (s.map Char.toLower)
  s == ".." || s == ".%2e" || s == "%2e." || s == "%2e%2e"

def isDriveLetter : List Char → Bool
  | [a, b] => a.isAlpha && (b == ':' || b == '|')
  | _ => false

/-- Steps up one directory, but not out of a drive. Directories stand last first. -/
def parent : List (List Char) → List (List Char)
  | [] => []
  | d :: ds => if isDriveLetter d then d :: ds else ds

/-- Resolves the dots in a path; `segment` is read backwards, and so are the directories. -/
def resolve (directories : List (List Char)) (segment : List Char) :
    List Char → List (List Char)
  | [] =>
    let last := percentEncode inPath segment.reverse
    if isDoubleDot last then (([] :: parent directories)).reverse
    else if isDot last then ([] :: directories).reverse
    else (last :: directories).reverse
  | c :: rest =>
    if c = '/' ∨ c = '\\' then
      let name := percentEncode inPath segment.reverse
      if isDoubleDot name then resolve (parent directories) [] rest
      else if isDot name then resolve directories [] rest
      else resolve (name :: directories) [] rest
    else resolve directories (c :: segment) rest

/-- The path of a web URL, which starts with a slash always. -/
def pathText (s : List Char) : String :=
  let s := match s with
    | '/' :: rest => rest
    | '\\' :: rest => rest
    | s => s
  String.ofList ((resolve [] [] s).flatMap fun segment => '/' :: segment)

/-! ### The whole -/

def isQueryStart (c : Char) : Bool := c == '?' || c == '#'

def queryOf (s : List Char) : Option String :=
  match s with
  | '?' :: rest => some (String.ofList (percentEncode inQuery (rest.takeWhile (· != '#'))))
  | _ => none

def fragmentOf (s : List Char) : Option String :=
  match s.dropWhile (· != '#') with
  | '#' :: rest => some (String.ofList (percentEncode inFragment rest))
  | _ => none

/-- A URL with an authority; `s` starts behind the slashes. -/
def withAuthority (scheme : String) (s : List Char) : Except UrlError Url :=
  let special := isSpecial scheme
  let authority := s.takeWhile fun c => !endsAuthority special c
  let rest := s.dropWhile fun c => !endsAuthority special c
  let userinfo := splitAt? authority
  let location := (userinfo.map Prod.snd).getD authority
  let written := (userinfo.map fun u => userinfoText u.1).getD ""
  let host := location.take (hostLength false location)
  let afterHost := location.drop (hostLength false location)
  if host.isEmpty ∧ (special ∨ !written.isEmpty ∨ !afterHost.isEmpty ∨
      (userinfo = some ([], []) ∧ !rest.isEmpty)) then .error .emptyHost
  else match hostText special host with
    | .error e => .error e
    | .ok name =>
      match portOf scheme afterHost with
      | .error e => .error e
      | .ok port => .ok
        { scheme
          userinfo := written
          host := name
          port
          path := pathText (rest.takeWhile fun c => !isQueryStart c)
          query := queryOf (rest.dropWhile fun c => !isQueryStart c)
          fragment := fragmentOf rest }

/-- The host of a file URL, which may be missing. -/
def fileHost (s : List Char) : Except UrlError Url :=
  match s with
  | a :: b :: rest =>
    if (a = '/' ∨ a = '\\') ∧ (b = '/' ∨ b = '\\') then
      let host := rest.takeWhile fun c => !endsAuthority true c
      if host.isEmpty ∨ isDriveLetter host then .ok { scheme := "file" }
      else match hostText true host with
        | .error e => .error e
        | .ok name => .ok { scheme := "file", host := if name = "localhost" then "" else name }
    else .ok { scheme := "file" }
  | _ => .ok { scheme := "file" }

/-- Reads a URL. Of schemes other than the web's the parts after the host are of no use. -/
def parse (s : String) : Except UrlError Url :=
  match scheme? (clean s.toList) with
  | none => .error .noScheme
  | some (scheme, rest) =>
    if scheme = "file" then fileHost rest
    else if isSpecial scheme then
      withAuthority scheme (rest.dropWhile fun c => c == '/' || c == '\\')
    else match rest with
      | '/' :: '/' :: rest => withAuthority scheme rest
      | _ => .ok { scheme }

end Url
end MetricRing.Address
