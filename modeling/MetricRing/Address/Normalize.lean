import MetricRing.Address.Url
import MetricRing.Failure
import MetricRing.Text.Blank

/-!
# Server addresses

An address is brought into one written form, by which nodes are compared: a web URL without
slashes at its end. An address without a scheme is taken for plain HTTP.
-/

namespace MetricRing.Address

def invalid (address reason : String) : Failure :=
  .configuration ("Invalid address '" ++ address ++ "': " ++ reason)

def dropSlashes (s : String) : String :=
  String.ofList (Text.trimEndWhile (· == '/') s.toList)

def normalize (address : String) : Except Failure String :=
  let address := Text.trim address
  let candidate := if Text.contains address "://" then address else "http://" ++ address
  match Url.parse candidate with
  | .error e => .error (invalid address e.message)
  | .ok url =>
    if url.host = "" then .error (invalid address "missing host")
    else if url.scheme ≠ "http" ∧ url.scheme ≠ "https" then
      .error (invalid address ("unsupported scheme '" ++ url.scheme ++ "'"))
    else .ok (dropSlashes url.text)

end MetricRing.Address
