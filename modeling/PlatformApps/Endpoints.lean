/-
# Endpoints for probes and metrics

A running operator answers requests of its surroundings: whether it is alive and leads, and
what it has counted.
-/

import PlatformApps.Json.Text
import PlatformApps.Metrics
import PlatformApps.Text.Blank

namespace PlatformApps

def operatorVersion : String := "0.1.0"

/-- An answer of the operator's own web server. -/
structure Page where
  status : Nat
  body : String
  deriving DecidableEq, Repr

namespace Endpoints

/-- The path of a request target, without its query. -/
def pathOf (target : String) : String :=
  match Text.cutAt? '?' target.toList with
  | some (path, _) => String.ofList path
  | none => target

def health (leads : Bool) : String :=
  (Json.ofFields [
    ("leader", .bool leads),
    ("status", .str "healthy"),
    ("version", .str operatorVersion)]).render

/-- What there is to read at a path. -/
def content? (leads : Bool) (metrics : Metrics) (path : String) : Option String :=
  if path = "/health" then some (health leads)
  else if path = "/metrics" then some metrics.render
  else none

/-- Answers a request. Pages can only be read. -/
def answer (leads : Bool) (metrics : Metrics) (method target : String) : Page :=
  match content? leads metrics (pathOf target) with
  | none => ⟨404, ""⟩
  | some body =>
    if method = "GET" then ⟨200, body⟩
    else if method = "HEAD" then ⟨200, ""⟩
    else ⟨405, ""⟩

end Endpoints

end PlatformApps
