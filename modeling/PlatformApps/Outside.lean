/-
# The outside world of the operator

What a running operator has around it: an API server, web servers with catalogs, a clock
and chance. Every request of a pass is answered by asking these; the metrics and the
indexes of catalogs are kept by the operator itself.
-/

import PlatformApps.Api.Objects
import PlatformApps.Api.Sources
import PlatformApps.Catalog.Charts
import PlatformApps.Operator
import PlatformApps.Settings

namespace PlatformApps

inductive OutsideRequest where
  | api (request : ApiRequest)
  | download (url : String)
  | now
  | jitter
  | pause (seconds : Rat)

@[reducible]
def OutsideRequest.Reply : OutsideRequest → Type
  | .api _ => ApiReply
  | .download _ => WebReply
  | .now | .jitter => Rat
  | .pause _ => Unit

@[reducible]
def Outside : Interface := ⟨OutsideRequest, OutsideRequest.Reply⟩

/-- What the operator keeps from one pass to the next. -/
structure Keepings where
  metrics : Metrics := {}
  indexes : IndexCache := ∅

namespace Outside

variable {α : Type}

/-- An exchange with the API server. -/
def api (dialogue : Dialogue Api α) : Dialogue Outside α :=
  dialogue.embed OutsideRequest.api fun _ reply => reply

def clock : Clock Outside where
  now := .ask OutsideRequest.now .done
  jitter := .ask OutsideRequest.jitter .done
  pause seconds := .ask (OutsideRequest.pause seconds) .done

/-- Answers a question about catalogs. -/
def catalog (request : CatalogRequest) : Dialogue Outside request.Reply :=
  match request with
  | .storageUrl catalog => api (Api.storageUrl catalog)
  | .download url => .ask (OutsideRequest.download url) .done
  | .now => clock.now
  | .jitter => clock.jitter
  | .pause seconds => clock.pause seconds

/-- Plays a dialogue whose questions are answered outside. -/
def through {I : Interface} (answer : (question : I.Question) → Dialogue Outside (I.Reply question))
    (dialogue : Dialogue I α) : Dialogue Outside α :=
  (dialogue.translate (fun question (_ : Unit) =>
    (answer question).attempt.bind fun outcome => pure (outcome, ())) ()).bind
    fun result => .ofOutcome result.1

/-- Name of a chart, with the indexes kept from then on. -/
def chartName (name app version : String) (keepings : Keepings) :
    Dialogue Outside (Outcome String × Keepings) :=
  (through (I := Catalogs) catalog (Catalogs.chartName Catalogs.usualLifetime Backoff.catalogIndex
    name app version keepings.indexes)).attempt.bind fun
  | .ok (some (outcome, indexes)) => pure (outcome, { keepings with indexes })
  | .ok none => pure (.error .unended, keepings)
  | .error failure => pure (.error failure, keepings)

/-- Changes the finalizers of a cluster. -/
def finalizers (space name : String) (change : FinalizerChange) : Dialogue Api Unit :=
  Api.ignore ((Collection.clusters (some space)).operations name change.toJson Cluster.read?)

/-- An answer that leaves what is kept as it is. -/
def leaving (keepings : Keepings) (dialogue : Dialogue Outside α) :
    Dialogue Outside (Outcome α × Keepings) :=
  dialogue.attempt.bind fun outcome => pure (outcome, keepings)

/-- Answers a request of a pass. -/
def answer (settings : Settings) (request : OperatorRequest) (keepings : Keepings) :
    Dialogue Outside (Outcome request.Reply × Keepings) :=
  match request with
  | .store call => leaving keepings (api (Api.answer call))
  | .components cluster => leaving keepings (api (Release.components <$> Api.releaseOf cluster))
  | .releaseApps cluster => leaving keepings (api (Release.apps <$> Api.releaseOf cluster))
  | .chartName catalog app version => chartName catalog app version keepings
  | .podCidr cluster => pure (cluster.podCidr settings.defaultPodCidr, keepings)
  | .finalizers space name change => leaving keepings (api (finalizers space name change))
  | .metric change => pure (.ok (), { keepings with metrics := keepings.metrics.apply change })
  | .now => leaving keepings clock.now
  | .jitter => leaving keepings clock.jitter
  | .pause seconds => leaving keepings (clock.pause seconds)

/-- Plays a pass in the outside world. -/
def play (settings : Settings) (pass : Dialogue Operator α) (keepings : Keepings) :
    Dialogue Outside (Outcome α × Keepings) :=
  pass.translate (answer settings) keepings

end Outside

end PlatformApps
