/-
# Collections of objects

The objects of a type form a collection at a path of the API server, for each namespace
or for the whole server. The functions here read and change the members of a collection.
-/

import PlatformApps.Api.Exchange
import PlatformApps.Resource.Metadata
import PlatformApps.Text.Blank

namespace PlatformApps

structure Collection where
  apiVersion : String
  plural : String
  /-- The namespace; nothing for objects outside of namespaces, or for those of all. -/
  space : Option String := none
  deriving DecidableEq, Repr

namespace Collection

/-- Where the objects of a group and version are; the oldest group has no name. -/
def root (apiVersion : String) : String :=
  match Text.cutAtLast? '/' apiVersion.toList with
  | none => "/api/" ++ apiVersion
  | some ([], version) => "/api/" ++ String.ofList version
  | some _ => "/apis/" ++ apiVersion

def path (collection : Collection) : String :=
  match collection.space with
  | some space => s!"{root collection.apiVersion}/namespaces/{space}/{collection.plural}"
  | none => s!"{root collection.apiVersion}/{collection.plural}"

def member (collection : Collection) (name : String) : String := collection.path ++ "/" ++ name

/-- The address of requests that may have parameters. -/
def parametric (path : String) : String := path ++ "?"

/-- A member must have a name. -/
def named {α : Type} (name : String) (request : Dialogue Api α) : Dialogue Api α :=
  if name = "" then .fail (.exchange "a name is required") else request

variable {α : Type}

def get (collection : Collection) (name : String) (read : Written → Option α) : Dialogue Api α :=
  named name (Api.exchange .get (collection.member name) [] none read)

/-- A member that may be missing. -/
def get? (collection : Collection) (name : String) (read : Written → Option α) :
    Dialogue Api (Option α) :=
  (collection.get name read).attempt.bind fun
  | .ok value => pure (some value)
  | .error (.api status) =>
    if status.reason = "NotFound" then pure none else .fail (.api status)
  | .error failure => .fail failure

/-- The fields of an object of which some are known by name; all the others must at least
be usable. -/
def knownAndOthers? (known : List String) (written : Written) :
    Option (List (String × Written) × List (String × Json)) := do
  let fields ← written.declared? known
  let others ← Written.fieldsToJson? (fields.filter fun field => !known.contains field.1)
  pure (fields, others)

/-- Some members of a collection, with the mark behind which the next ones are. -/
structure Page (α : Type) where
  members : List α
  next : Option String := none
  /-- The state of the collection that the members are from. -/
  resourceVersion : Option String := none
  deriving Repr

/-- A list document, which must say what its items are, be it nothing. -/
def pageOf? (read : Written → Option α) (written : Written) : Option (Page α) := do
  let (fields, _) ← knownAndOthers? ["metadata", "items"] written
  let about ← Written.defaulted? fields "metadata" [] Written.fields?
  let text (name : String) := Written.optional? about name Written.text?
  let filled (name : String) := (text name).map (·.filter (· != ""))
  let _ ← Written.optional? about "remainingItemCount" Written.int64?
  let _ ← text "selfLink"
  pure {
    next := ← filled "continue"
    resourceVersion := ← filled "resourceVersion"
    members := ← Written.required? fields "items" fun items =>
      if items.isNull then some [] else items.list? read }

private def selection (selector : Option String) : List (String × String) :=
  (selector.map fun text => ("labelSelector", text)).toList

/-- The members, possibly only those that a selector matches. -/
def list (collection : Collection) (selector : Option String) (read : Written → Option α) :
    Dialogue Api (List α) :=
  Page.members <$>
    Api.exchange .get (parametric collection.path) (selection selector) none (pageOf? read)

/-- A page of the members that a selector matches, as large as a watch reads it: the first
one, or the one behind a mark. -/
def page (collection : Collection) (selector mark : Option String) (read : Written → Option α) :
    Dialogue Api (Page α) :=
  let behind := (mark.map fun text => ("continue", text)).toList
  Api.exchange .get (parametric collection.path)
    (selection selector ++ ("limit", "500") :: behind) none (pageOf? read)

/-- Any name of an object of which only the metadata matters. -/
def nameOf? (written : Written) : Option String := do
  let (fields, _) ← knownAndOthers? ["metadata"] written
  let metadata ← Written.defaulted? fields "metadata" {} Metadata.read?
  pure metadata.anyName

/-- Names of the members, in order and without repetitions. -/
def names (collection : Collection) : Dialogue Api (List String) := do
  let found ← collection.list none nameOf?
  pure (Table.ofList (found.map (·, ()))).keys

def create (collection : Collection) (document : Json) (read : Written → Option α) :
    Dialogue Api α :=
  Api.exchange .post (parametric collection.path) [] (some ("application/json", document)) read

def patchAs (contentType : String) (parameters : List (String × String))
    (collection : Collection) (name : String) (patch : Json) (read : Written → Option α) :
    Dialogue Api α :=
  named name (Api.exchange .patch (parametric (collection.member name)) parameters
    (some (contentType, patch)) read)

/-- Applies a merge patch. -/
def mergePatch (collection : Collection) (name : String) (patch : Json)
    (read : Written → Option α) : Dialogue Api α :=
  patchAs "application/merge-patch+json" [] collection name patch read

/-- Applies a list of operations. -/
def operations (collection : Collection) (name : String) (patch : Json)
    (read : Written → Option α) : Dialogue Api α :=
  patchAs "application/json-patch+json" [] collection name patch read

/-- Writes an object as its owner, over whatever others have written. -/
def write (collection : Collection) (owner name : String) (document : Json)
    (read : Written → Option α) : Dialogue Api α :=
  patchAs "application/apply-patch+yaml" [("fieldManager", owner), ("force", "true")] collection
    name document read

/-- Why a deletion did not go through, in one respect. -/
def causeOf? (written : Written) : Option Unit := do
  let fields ← written.record? ["reason", "message", "field"]
  for name in ["reason", "message", "field"] do
    let _ ← Written.defaulted? fields name "" Written.text?

/-- Details of a status. -/
def detailsOf? (written : Written) : Option Unit := do
  let fields ← written.record? ["name", "group", "kind", "uid", "causes", "retryAfterSeconds"]
  for name in ["name", "group", "kind", "uid"] do
    let _ ← Written.defaulted? fields name "" Written.text?
  let _ ← Written.defaulted? fields "causes" [] (Written.list? causeOf?)
  let _ ← Written.defaulted? fields "retryAfterSeconds" 0 (Written.intWithin? 0 4294967295)

/-- The summary of a status, which may be written as the only field of an object. -/
def summaryOf? : Written → Option Unit
  | .str summary | .obj [(summary, .null)] =>
    if summary = "Success" ∨ summary = "Failure" then some () else none
  | _ => none

/-- A status document, which answers some deletions. -/
def statusOf? (written : Written) : Option Unit := do
  let fields ← written.record? ["status", "code", "message", "reason", "details"]
  let _ ← Written.optional? fields "status" summaryOf?
  let _ ← Written.defaulted? fields "code" 0 (Written.intWithin? 0 65535)
  let _ ← Written.defaulted? fields "message" "" Written.text?
  let _ ← Written.defaulted? fields "reason" "" Written.text?
  let _ ← Written.optional? fields "details" detailsOf?

/-- What answers a deletion: a status, or the object on its way out. All of it must be
usable. -/
def deletionOf? (read : Written → Option α) (written : Written) : Option Unit := do
  let document ← written.toJson?
  if document.field? "kind" = some (.str "Status") then statusOf? written
  else
    let _ ← read written

/-- Requests a deletion. -/
def delete (collection : Collection) (name : String) (read : Written → Option α) :
    Dialogue Api Unit :=
  named name (Api.exchange .delete (parametric (collection.member name)) []
    (some ("application/json", .obj [])) (deletionOf? read))

end Collection

end PlatformApps
