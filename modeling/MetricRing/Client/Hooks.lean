import MetricRing.Client.State

/-!
# Request hooks

Hooks that change a request before it is sent, or refuse it.
-/

namespace MetricRing.RequestHook

/-- A hook that leaves the requests for other paths alone. -/
def onPaths (start : String) (hook : RequestHook) : RequestHook := fun r =>
  if Text.startsWith r.path start then hook r else .ok r

def setHeader (name : String) (value : List UInt8) : RequestHook := fun r =>
  match Headers.name? name with
  | none => .error "invalid HTTP header name"
  | some name =>
    if Headers.isValue value then .ok { r with headers := r.headers.insert name value }
    else .error "failed to parse header value"

def removeHeader (name : String) : RequestHook := fun r =>
  .ok { r with headers := r.headers.remove (Text.asciiLower name) }

def setPath (path : String) : RequestHook := fun r => .ok { r with path }

def veto (reason : String) : RequestHook := fun _ => .error reason

end MetricRing.RequestHook
