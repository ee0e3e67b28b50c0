/-
# Charts in catalogs

The index of a catalog is downloaded from its storage and kept for some time. A failed
look-up or download is never kept.
-/

import PlatformApps.Backoff
import PlatformApps.Catalog.Index
import PlatformApps.Text.Utf8

namespace PlatformApps

/-- An answer of a web server. -/
structure WebReply where
  status : Nat
  body : List UInt8

inductive CatalogRequest where
  /-- Where a catalog is stored. -/
  | storageUrl (catalog : String)
  | download (url : String)
  | now
  | jitter
  | pause (seconds : Rat)

@[reducible]
def CatalogRequest.Reply : CatalogRequest → Type
  | .storageUrl _ => String
  | .download _ => WebReply
  | .now | .jitter => Rat
  | .pause _ => Unit

@[reducible]
def Catalogs : Interface := ⟨CatalogRequest, CatalogRequest.Reply⟩

/-- Indexes by catalog, with the times at which they were fetched. -/
abbrev IndexCache := Table String (Rat × CatalogIndex)

namespace Catalogs

def clock : Clock Catalogs where
  now := .ask CatalogRequest.now .done
  jitter := .ask CatalogRequest.jitter .done
  pause seconds := .ask (CatalogRequest.pause seconds) .done

/-- How long an index is kept, in seconds, if nothing else is said. -/
def usualLifetime : Rat := 600

/-- Address of the index in a storage. -/
def indexUrl (storage : String) : String := Text.trimEnd '/' storage ++ "/index.yaml"

/-- Downloads a document; a refusal by the server is a failure. -/
def body (url : String) : Dialogue Catalogs (List UInt8) :=
  .ask (CatalogRequest.download url) fun
  | .error failure => .fail failure
  | .ok (reply : WebReply) =>
    if 400 ≤ reply.status ∧ reply.status < 600 then
      .fail (.transport s!"{url} answered with status {reply.status}")
    else pure reply.body

/-- Downloads and reads an index. Nothing comes out when the fuel of the repeated download is
used up before it ends. -/
def fetchIndex (backoff : Backoff) (storage : String) :
    Dialogue Catalogs (Option CatalogIndex) := do
  match ← backoff.repeatWithin (backoff.fuel + 1) clock (body (indexUrl storage)) with
  | none => pure none
  | some bytes =>
    match (Text.Utf8.decode? bytes).bind CatalogIndex.reader.read? with
    | some index => pure (some index)
    | none => .fail (.yaml "the index cannot be read")

/-- A new index of a catalog, which is kept. -/
def renew (backoff : Backoff) (catalog : String) (cache : IndexCache) :
    Dialogue Catalogs (Option (CatalogIndex × IndexCache)) := do
  let storage : String ← .ask (CatalogRequest.storageUrl catalog) .done
  match ← fetchIndex backoff storage with
  | none => pure none
  | some index =>
    let fetched ← clock.now
    pure (some (index, cache.insert catalog (fetched, index)))

/-- The index of a catalog: a kept one that is young enough, or a new one. -/
def index (lifetime : Rat) (backoff : Backoff) (catalog : String) (cache : IndexCache) :
    Dialogue Catalogs (Option (CatalogIndex × IndexCache)) := do
  let now ← clock.now
  match (cache.find? catalog).filter fun kept => now - kept.1 < lifetime with
  | some kept => pure (some (kept.2, cache))
  | none => renew backoff catalog cache

/-- Name of the chart for a version of an app, with the indexes kept from now on. -/
def chartName (lifetime : Rat) (backoff : Backoff) (catalog app version : String)
    (cache : IndexCache) : Dialogue Catalogs (Option (Outcome String × IndexCache)) :=
  (index lifetime backoff catalog cache).attempt.bind fun
  | .error failure => pure (some (.error failure, cache))
  | .ok none => pure none
  | .ok (some (index, cache)) =>
    match index.chart? app version with
    | some chart => pure (some (.ok chart, cache))
    | none =>
      pure (some (.error (.notFound "chart" s!"{app}@{version} in catalog {catalog}"), cache))

end Catalogs

end PlatformApps
