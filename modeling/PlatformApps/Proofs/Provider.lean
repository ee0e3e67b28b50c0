/-
# What is known about the infrastructure of a cluster

A provider object may have any shape. `Holds` says what a document has at a place, and every
text fact has a list of places: the first one with a text that is not empty states the fact, and
where there is none the fact is empty. The main statement is that looking up a cluster's
infrastructure fails only as the store fails, or where one of two required texts is missing.
-/

import PlatformApps.Proofs.Dialogue
import PlatformApps.Provider
import PlatformApps.Store.Memory

namespace PlatformApps

namespace Json

/-- A step down into a document. -/
inductive Step where
  | field (name : String)
  /-- To the first item of a list. -/
  | first
  deriving DecidableEq, Repr

/-- The place that the names of fields lead to. -/
def placeOf (names : List String) : List Step := names.map .field

/-- A document has a value at a place. -/
inductive Holds : Json → List Step → Json → Prop where
  | here (document : Json) : Holds document [] document
  | field {fields : List (String × Json)} {name : String} {inner value : Json} {rest : List Step}
      (there : Entries.find? name fields = some inner) (holds : Holds inner rest value) :
      Holds (.obj fields) (.field name :: rest) value
  | first {item value : Json} {items : List Json} {rest : List Step}
      (holds : Holds item rest value) : Holds (.arr (item :: items)) (.first :: rest) value

variable {document value other : Json}

theorem holds_nil_iff : document.Holds [] value ↔ document = value := by
  constructor
  · rintro ⟨⟩
    rfl
  · rintro rfl
    exact .here document

theorem holds_field_iff {name : String} {rest : List Step} :
    document.Holds (.field name :: rest) value ↔
      ∃ inner, document.field? name = some inner ∧ inner.Holds rest value := by
  constructor
  · rintro (_ | ⟨there, holds⟩)
    exact ⟨_, there, holds⟩
  · rintro ⟨inner, there, holds⟩
    cases document with
    | obj fields => exact .field there holds
    | _ => cases there

theorem holds_first_iff {rest : List Step} :
    document.Holds (.first :: rest) value ↔
      ∃ item, document.items?.bind List.head? = some item ∧ item.Holds rest value := by
  constructor
  · rintro (_ | _ | holds)
    exact ⟨_, rfl, holds⟩
  · rintro ⟨item, there, holds⟩
    cases document with
    | arr items =>
        cases items with
        | nil => cases there
        | cons head items =>
            cases there
            exact .first holds
    | _ => cases there

theorem holds_append_iff {way rest : List Step} :
    document.Holds (way ++ rest) value ↔
      ∃ inner, document.Holds way inner ∧ inner.Holds rest value := by
  induction way generalizing document with
  | nil => simp [holds_nil_iff]
  | cons step way ih =>
      cases step with
      | field name =>
          simp only [List.cons_append, holds_field_iff, ih]
          constructor
          · rintro ⟨child, there, inner, holds, inside⟩
            exact ⟨inner, ⟨child, there, holds⟩, inside⟩
          · rintro ⟨inner, ⟨child, there, holds⟩, inside⟩
            exact ⟨child, there, inner, holds, inside⟩
      | first =>
          simp only [List.cons_append, holds_first_iff, ih]
          constructor
          · rintro ⟨child, there, inner, holds, inside⟩
            exact ⟨inner, ⟨child, there, holds⟩, inside⟩
          · rintro ⟨inner, ⟨child, there, holds⟩, inside⟩
            exact ⟨child, there, inner, holds, inside⟩

theorem holds_placeOf_iff {names : List String} :
    document.Holds (placeOf names) value ↔ document.path? names = some value := by
  induction names generalizing document with
  | nil => simp [placeOf, holds_nil_iff, path?]
  | cons name names ih =>
      have rest (inner : Json) :
          inner.Holds (List.map Step.field names) value ↔ inner.path? names = some value := ih
      simp only [placeOf, List.map_cons, holds_field_iff, rest, path?, Option.bind_eq_some_iff]

theorem text?_eq_some_iff {text : String} : document.text? = some text ↔ document = .str text := by
  cases document <;> simp [text?]

/-- A text is at a place. -/
theorem bind_text?_eq_some_iff {found : Option Json} {text : String} :
    found.bind Json.text? = some text ↔ found = some (.str text) := by
  simp [Option.bind_eq_some_iff, text?_eq_some_iff]

/-- What the places of a fact state: the first text that is not empty, or nothing. -/
inductive States (document : Json) : List (List Step) → String → Prop where
  | stated {place : List Step} {places : List (List Step)} {text : String}
      (holds : document.Holds place (.str text)) (filled : text ≠ "") :
      States document (place :: places) text
  | passed {place : List Step} {places : List (List Step)} {text : String}
      (blank : ∀ other, document.Holds place (.str other) → other = "")
      (later : States document places text) : States document (place :: places) text
  | nowhere : States document [] ""

theorem States.eq_empty {places : List (List Step)} {text : String}
    (states : document.States places text)
    (unstated : ∀ place ∈ places, ∀ other, ¬document.Holds place (.str other)) : text = "" := by
  induction states with
  | stated holds filled => exact absurd holds (unstated _ List.mem_cons_self _)
  | passed blank later ih => exact ih fun place inside => unstated place (.tail _ inside)
  | nowhere => rfl

/-- A place where the text, if any, is known states that text. -/
theorem states_of_holds_iff {place : List Step} {found : Option String}
    (known : ∀ text, document.Holds place (.str text) ↔ found = some text)
    {places : List (List Step)} {otherwise : String} (later : document.States places otherwise) :
    document.States (place :: places)
      (if (found.getD "").isEmpty then otherwise else found.getD "") := by
  by_cases empty : found.getD "" = ""
  · rw [if_pos (by simpa using empty)]
    refine .passed (fun text holds => ?_) later
    rw [(known text).mp holds] at empty
    exact empty
  · rw [if_neg (by simpa using empty)]
    refine .stated ((known _).mpr ?_) empty
    cases found with
    | none => exact absurd rfl empty
    | some text => rfl

end Json

open Json

/-- What is known about an infrastructure object as a text. -/
inductive TextFact where
  | networkCidr
  | networkId
  | subnetId
  | externalNetworkId
  | region
  | project
  deriving DecidableEq, Repr

namespace Provider

/-- Where the objects of a provider state a fact. -/
def places : TextFact → Provider → List (List Step)
  | .networkCidr, .azure => [placeOf ["spec", "networkSpec", "vnet", "cidrBlocks"] ++ [.first]]
  | .networkCidr, .aws => [placeOf ["spec", "network", "vpc", "cidrBlock"]]
  | .networkCidr, .openStack => [placeOf ["spec", "nodeCidr"]]
  | .networkId, .azure => [placeOf ["spec", "networkSpec", "vnet", "name"]]
  | .networkId, .aws => [placeOf ["spec", "network", "vpc", "id"]]
  | .networkId, .gcp => [placeOf ["spec", "network", "name"]]
  | .networkId, .openStack => [placeOf ["status", "network", "id"]]
  | .networkId, .cloudDirector => [placeOf ["spec", "ovdcNetwork"]]
  | .subnetId, .openStack => [
    placeOf ["status", "network", "subnets"] ++ .first :: placeOf ["id"],
    placeOf ["status", "network", "subnet", "id"]]
  | .subnetId, .azure => [placeOf ["spec", "networkSpec", "subnets"] ++ .first :: placeOf ["name"]]
  | .externalNetworkId, .openStack => [placeOf ["status", "externalNetwork", "id"]]
  | .region, .azure => [placeOf ["spec", "location"]]
  | .region, .aws | .region, .gcp => [placeOf ["spec", "region"]]
  | .region, .cloudDirector => [placeOf ["spec", "site"]]
  | .project, .gcp => [placeOf ["spec", "project"]]
  | .project, .azure => [placeOf ["spec", "subscriptionID"]]
  | .project, .cloudDirector => [placeOf ["spec", "org"]]
  | _, _ => []

/-- The text by which the objects of a provider say that a cluster is private, and its place. -/
def privateMark? : Provider → Option (List Step × String)
  | .azure => some (placeOf ["spec", "networkSpec", "apiServerLB", "type"], "Internal")
  | .aws => some (placeOf ["metadata", "annotations", "aws.giantswarm.io/vpc-mode"], "private")
  | _ => none

/-- An object does not have a text that objects of its provider must have. -/
inductive Lacks : Provider → Json → String → Prop where
  | project {object : Json}
      (blank : ∀ text, object.Holds (placeOf ["spec", "project"]) (.str text) → text = "") :
      Lacks .gcp object "spec.project"
  | balancer {object : Json}
      (absent : ∀ text, ¬object.Holds (placeOf ["spec", "networkSpec", "apiServerLB", "type"])
        (.str text)) :
      Lacks .azure object "spec.networkSpec.apiServerLB.type"

variable (object : Json)

theorem holds_text_iff (path : List String) {text : String} :
    object.Holds (placeOf path) (.str text) ↔ (object.path? path).bind Json.text? = some text := by
  rw [holds_placeOf_iff, bind_text?_eq_some_iff]

theorem holds_first_text_iff (path inner : List String) {text : String} :
    object.Holds (placeOf path ++ .first :: placeOf inner) (.str text) ↔
      ((firstAt? object path).bind fun item => (item.path? inner).bind Json.text?) =
        some text := by
  have items (item : Json) : item.Holds (placeOf inner) (.str text) ↔
      (item.path? inner).bind Json.text? = some text := holds_text_iff item inner
  simp only [holds_append_iff, holds_first_iff, items, firstAt?, holds_placeOf_iff]
  rw [Option.bind_eq_some_iff]
  constructor
  · rintro ⟨list, there, item, head, inside⟩
    exact ⟨item, by rw [there, Option.bind_some, head], inside⟩
  · rintro ⟨item, head, inside⟩
    obtain ⟨items, found, isFirst⟩ := Option.bind_eq_some_iff.mp head
    obtain ⟨list, there, isList⟩ := Option.bind_eq_some_iff.mp found
    exact ⟨list, there, item, by rw [isList, Option.bind_some, isFirst], inside⟩

/-- The text at a path is what that place states. -/
theorem states_textAt (path : List String) :
    object.States [placeOf path] (textAt object path) := by
  have states := states_of_holds_iff (fun _ => holds_text_iff object path) .nowhere
  split at states
  · rename_i empty
    rwa [← String.isEmpty_iff.mp empty] at states
  · exact states

/-- Where the text of a first item is what a place states. -/
theorem states_firstAt (path inner : List String) {places : List (List Step)} {otherwise : String}
    (later : object.States places otherwise) :
    object.States ((placeOf path ++ .first :: placeOf inner) :: places)
      (if (((firstAt? object path).elim "" fun item => textAt item inner)).isEmpty then otherwise
        else (firstAt? object path).elim "" fun item => textAt item inner) := by
  have states := states_of_holds_iff
    (fun _ => holds_first_text_iff object path inner) later
  have same : ((firstAt? object path).bind fun item =>
      (item.path? inner).bind Json.text?).getD "" =
        (firstAt? object path).elim "" fun item => textAt item inner := by
    cases firstAt? object path <;> rfl
  rwa [same] at states

/-- Where the text of a first item is all that is stated. -/
theorem states_onlyFirstAt (path inner : List String) :
    object.States [placeOf path ++ .first :: placeOf inner]
      ((firstAt? object path).elim "" fun item => textAt item inner) := by
  have states := states_firstAt object path inner .nowhere
  split at states
  · rename_i empty
    rwa [← String.isEmpty_iff.mp empty] at states
  · exact states

theorem states_networkCidr (provider : Provider) :
    object.States (places .networkCidr provider) (provider.networkCidr object) := by
  cases provider with
  | azure =>
      have states := states_onlyFirstAt object ["spec", "networkSpec", "vnet", "cidrBlocks"] []
      rw [networkCidr]
      cases found : firstAt? object ["spec", "networkSpec", "vnet", "cidrBlocks"] <;>
        · rw [found] at states
          exact states
  | aws | openStack => exact states_textAt object _
  | _ => exact .nowhere

theorem states_networkId (provider : Provider) :
    object.States (places .networkId provider) (provider.networkId object) := by
  cases provider with
  | vSphere | unknown => exact .nowhere
  | _ => exact states_textAt object _

theorem states_subnetId (provider : Provider) :
    object.States (places .subnetId provider) (provider.subnetId object) := by
  cases provider with
  | openStack =>
      have states := states_firstAt object ["status", "network", "subnets"] ["id"]
        (states_textAt object ["status", "network", "subnet", "id"])
      rw [subnetId]
      cases found : firstAt? object ["status", "network", "subnets"] <;>
        · rw [found] at states
          exact states
  | azure =>
      have states := states_onlyFirstAt object ["spec", "networkSpec", "subnets"] ["name"]
      rw [subnetId]
      cases found : firstAt? object ["spec", "networkSpec", "subnets"] <;>
        · rw [found] at states
          exact states
  | _ => exact .nowhere

theorem states_externalNetworkId (provider : Provider) :
    object.States (places .externalNetworkId provider) (provider.externalNetworkId object) := by
  cases provider with
  | openStack => exact states_textAt object _
  | _ => exact .nowhere

theorem states_region (provider : Provider) :
    object.States (places .region provider) (provider.region object) := by
  cases provider with
  | openStack | vSphere | unknown => exact .nowhere
  | _ => exact states_textAt object _

variable {object}

theorem lacks_iff {provider : Provider} {field : String} :
    Lacks provider object field ↔
      (provider = .gcp ∧ field = "spec.project" ∧ textAt object ["spec", "project"] = "") ∨
        provider = .azure ∧ field = "spec.networkSpec.apiServerLB.type" ∧
          (object.path? ["spec", "networkSpec", "apiServerLB", "type"]).bind Json.text? = none := by
  constructor
  · rintro (blank | absent)
    · refine .inl ⟨rfl, rfl, ?_⟩
      rw [textAt]
      cases stated : (object.path? ["spec", "project"]).bind Json.text? with
      | none => rfl
      | some text => exact blank text ((holds_text_iff object _).mpr stated)
    · exact .inr ⟨rfl, rfl, Option.eq_none_iff_forall_ne_some.mpr fun text stated =>
        absent text ((holds_text_iff object _).mpr stated)⟩
  · rintro (⟨rfl, rfl, empty⟩ | ⟨rfl, rfl, none⟩)
    · refine .project fun text holds => ?_
      rwa [textAt, (holds_text_iff object _).mp holds] at empty
    · refine .balancer fun text holds => ?_
      rw [(holds_text_iff object _).mp holds] at none
      cases none

/-- The project is stated where it has to be, or it is what the object lacks. -/
theorem project_cases (provider : Provider) (object : Json) :
    (∃ project, provider.project object = .ok project ∧
        object.States (places .project provider) project ∧
        ¬Lacks provider object "spec.project") ∨
      provider.project object = .error (provider.factMissing "spec.project") ∧
        Lacks provider object "spec.project" := by
  cases provider with
  | gcp =>
      rw [project]
      by_cases empty : textAt object ["spec", "project"] = ""
      · exact .inr ⟨if_pos (String.isEmpty_iff.mpr empty), lacks_iff.mpr (.inl ⟨rfl, rfl, empty⟩)⟩
      · refine .inl ⟨_, if_neg (mt String.isEmpty_iff.mp empty), states_textAt object _, ?_⟩
        simp [lacks_iff, empty]
  | azure | cloudDirector =>
      exact .inl ⟨_, rfl, states_textAt object _, by simp [lacks_iff]⟩
  | _ => exact .inl ⟨_, rfl, .nowhere, by simp [lacks_iff]⟩

/-- The object says whether the cluster is private, or it lacks what says it. -/
theorem isPrivate_cases (provider : Provider) (object : Json) :
    (∃ isPrivate, provider.isPrivate object = .ok isPrivate ∧
        (isPrivate = true ↔
          ∃ mark ∈ provider.privateMark?, object.Holds mark.1 (.str mark.2)) ∧
        ¬Lacks provider object "spec.networkSpec.apiServerLB.type") ∨
      provider.isPrivate object =
          .error (provider.factMissing "spec.networkSpec.apiServerLB.type") ∧
        Lacks provider object "spec.networkSpec.apiServerLB.type" := by
  cases provider with
  | azure =>
      rw [isPrivate]
      cases stated : (object.path? ["spec", "networkSpec", "apiServerLB", "type"]).bind
          Json.text? with
      | none => exact .inr ⟨rfl, lacks_iff.mpr (.inr ⟨rfl, rfl, stated⟩)⟩
      | some type =>
          refine .inl ⟨_, rfl, ?_, by simp [lacks_iff, stated]⟩
          simp [privateMark?, holds_text_iff, stated]
  | aws =>
      refine .inl ⟨_, rfl, ?_, by simp [lacks_iff]⟩
      simp only [privateMark?, Option.mem_def, Option.some.injEq, exists_eq_left', holds_text_iff,
        textAt, beq_iff_eq]
      cases (object.path? ["metadata", "annotations", "aws.giantswarm.io/vpc-mode"]).bind
          Json.text? <;> simp
  | _ => exact .inl ⟨_, rfl, by simp [privateMark?], by simp [lacks_iff]⟩

theorem requiresProxy_iff (provider : Provider) :
    provider.requiresProxy = true ↔ provider = .vSphere ∨ provider = .cloudDirector := by
  cases provider <;> decide

end Provider

namespace ProviderFacts

/-- A fact that is a text. -/
def text (facts : ProviderFacts) : TextFact → String
  | .networkCidr => facts.networkCidr
  | .networkId => facts.networkId
  | .subnetId => facts.subnetId
  | .externalNetworkId => facts.externalNetworkId
  | .region => facts.region
  | .project => facts.project

/-- The facts are those that an object of a provider states. What it does not state is empty. -/
structure Describe (facts : ProviderFacts) (provider : Provider) (object : Json) : Prop where
  provider_eq : facts.provider = provider
  object_eq : facts.object = some object
  texts : ∀ fact, object.States (provider.places fact) (facts.text fact)
  unstated : ∀ fact, (∀ place ∈ provider.places fact, ∀ text, ¬object.Holds place (.str text)) →
    facts.text fact = "" := fun fact => (texts fact).eq_empty
  isPrivate : facts.isPrivate = true ↔
    ∃ mark ∈ provider.privateMark?, object.Holds mark.1 (.str mark.2)
  requiresProxy : facts.requiresProxy = true ↔ provider = .vSphere ∨ provider = .cloudDirector

/-- What comes of the answer of a store that is asked for the infrastructure object. -/
inductive Reads (provider : Provider) (reference : ObjectReference) :
    Outcome Json → Outcome ProviderFacts → Prop where
  | missing {failure : Failure} (absent : failure.isNotFound = true) :
      Reads provider reference (.error failure) (.error (.notFound reference.kind reference.name))
  | failed {failure : Failure} (other : failure.isNotFound = false) :
      Reads provider reference (.error failure) (.error failure)
  | incomplete {object : Json} {field : String} (lacks : Provider.Lacks provider object field) :
      Reads provider reference (.ok object)
        (.error (.validation (.factMissing field provider.name)))
  | complete {object : Json} {facts : ProviderFacts}
      (lacksNothing : ∀ field, ¬Provider.Lacks provider object field)
      (describe : facts.Describe provider object) :
      Reads provider reference (.ok object) (.ok facts)

/-- An object states all facts, or it lacks one that it must have. -/
theorem reads_ofObject (provider : Provider) (reference : ObjectReference) (object : Json) :
    Reads provider reference (.ok object) (ofObject provider object) := by
  rw [ofObject]
  rcases provider.project_cases object with
    ⟨project, given, stated, hasProject⟩ | ⟨none, lacks⟩
  · rcases provider.isPrivate_cases object with
      ⟨isPrivate, said, marked, hasBalancer⟩ | ⟨none, lacks⟩
    · rw [given, said]
      refine .complete ?_ {
        provider_eq := rfl
        object_eq := rfl
        texts := ?_
        isPrivate := marked
        requiresProxy := provider.requiresProxy_iff }
      · intro field lacks
        have same := lacks
        cases same with
        | project => exact hasProject lacks
        | balancer => exact hasBalancer lacks
      · rintro (_ | _ | _ | _ | _ | _)
        · exact Provider.states_networkCidr object provider
        · exact Provider.states_networkId object provider
        · exact Provider.states_subnetId object provider
        · exact Provider.states_externalNetworkId object provider
        · exact Provider.states_region object provider
        · exact stated
    · rw [given, none]
      exact .incomplete lacks
  · rw [none]
    exact .incomplete lacks

/-- The question about the infrastructure object that a cluster refers to. -/
def question (cluster : Cluster) (reference : ObjectReference) : StoreCall :=
  .getObject reference.apiVersion reference.kind (reference.namespaceOr cluster.space)
    reference.name

/-- What is made of the answer. -/
def answered (provider : Provider) (reference : ObjectReference) :
    Outcome Json → Outcome ProviderFacts
  | .ok object => ofObject provider object
  | .error failure =>
    .error (if failure.isNotFound then .notFound reference.kind reference.name else failure)

theorem reads_answered (provider : Provider) (reference : ObjectReference)
    (outcome : Outcome Json) :
    Reads provider reference outcome (answered provider reference outcome) := by
  cases outcome with
  | ok object => exact reads_ofObject provider reference object
  | error failure =>
      rw [answered]
      cases absent : failure.isNotFound with
      | true => exact .missing absent
      | false => exact .failed absent

variable {cluster : Cluster}

/-- Where no provider is known, nothing is asked. -/
theorem resolve_of_unknown (unknown : ∀ reference ∈ cluster.spec.infrastructureRef,
    Provider.ofInfrastructureKind reference.kind = .unknown) :
    resolve cluster = .done (.ok {}) := by
  rw [resolve]
  cases referred : cluster.spec.infrastructureRef with
  | none => rfl
  | some reference => exact if_pos (unknown reference referred)

/-- Where the provider is known, the store is asked once. -/
theorem resolve_of_known {reference : ObjectReference}
    (referred : reference ∈ cluster.spec.infrastructureRef)
    (known : Provider.ofInfrastructureKind reference.kind ≠ .unknown) :
    resolve cluster = .ask (question cluster reference) fun outcome =>
      .done (answered (Provider.ofInfrastructureKind reference.kind) reference outcome) := by
  rw [resolve, Option.mem_def.mp referred]
  refine (if_neg known).trans (congrArg (Dialogue.ask (I := Store) _) (funext fun outcome => ?_))
  cases outcome <;> rfl

/-- The in-memory store says that an object it does not have is not found. -/
theorem handle_question_of_missing (cluster : Cluster) {reference : ObjectReference}
    {memory : Memory} (missing : memory.objects.find?
      (reference.kind, (reference.namespaceOr cluster.space, reference.name)) = none) :
    ∃ failure, memory.handle (question cluster reference) = (.error failure, memory) ∧
      failure.isNotFound = true := by
  rw [question, Memory.handle, missing]
  exact ⟨_, rfl, rfl⟩

/-- Looking up the infrastructure of a cluster asks nothing where there is no provider for it,
and has default facts then. Otherwise the object is asked for once. The look-up fails where the
store fails, as not found where the object is missing and with the same failure where it is not,
or where the object of a GCP or Azure cluster lacks the text it must have; else all facts are
those that the object states, whatever its shape. -/
theorem resolve_fails_only_where_needed {σ : Type} (handler : Store.Handler σ)
    (cluster : Cluster) (state : σ) :
    ((∀ reference ∈ cluster.spec.infrastructureRef,
        Provider.ofInfrastructureKind reference.kind = .unknown) →
      (resolve cluster).run handler state = (.ok {}, state) ∧
        (resolve cluster).questions handler state = []) ∧
    ∀ reference ∈ cluster.spec.infrastructureRef,
      Provider.ofInfrastructureKind reference.kind ≠ .unknown →
      (resolve cluster).questions handler state = [question cluster reference] ∧
        ((resolve cluster).run handler state).2 =
          (handler (question cluster reference) state).2 ∧
        Reads (Provider.ofInfrastructureKind reference.kind) reference
          (handler (question cluster reference) state).1
          ((resolve cluster).run handler state).1 ∧
        ∀ memory : Memory, memory.objects.find?
            (reference.kind, (reference.namespaceOr cluster.space, reference.name)) = none →
          (resolve cluster).run Memory.handle memory =
            (.error (.notFound reference.kind reference.name), memory) := by
  constructor
  · intro unknown
    rw [resolve_of_unknown unknown]
    exact ⟨rfl, rfl⟩
  · intro reference referred known
    rw [resolve_of_known referred known]
    refine ⟨rfl, rfl, reads_answered _ reference _, fun memory missing => ?_⟩
    obtain ⟨failure, answer, absent⟩ := handle_question_of_missing cluster missing
    rw [Dialogue.run_ask_of_answer answer, Dialogue.run_done]
    exact congrArg (fun failure => (Except.error failure, memory)) (if_pos absent)

/-- The object of an Azure cluster that has no load balancer yet. -/
def youngReference : ObjectReference where
  apiVersion := "infrastructure.cluster.x-k8s.io/v1beta1"
  kind := "AzureCluster"
  name := "demo0"

def youngCluster : Cluster where
  metadata := { name := some "demo0", namespace_ := some "org-acme" }
  spec := { infrastructureRef := some youngReference }

def youngObject : Json := .obj [("spec", .obj [("networkSpec", .null)])]

def youngMemory : Memory where
  objects := .ofList [(("AzureCluster", ("org-acme", "demo0")), youngObject)]

theorem resolve_fails_only_where_needed_young :
    youngReference ∈ youngCluster.spec.infrastructureRef ∧
      Reads .azure youngReference (.ok youngObject)
        ((resolve youngCluster).run Memory.handle youngMemory).1 ∧
      ((resolve youngCluster).run Memory.handle youngMemory).1 =
        .error (.validation (.factMissing "spec.networkSpec.apiServerLB.type" "azure")) := by
  have referred : youngReference ∈ youngCluster.spec.infrastructureRef := rfl
  have known : Provider.ofInfrastructureKind youngReference.kind ≠ .unknown := by decide
  have given : (Memory.handle (question youngCluster youngReference) youngMemory).1 =
      .ok youngObject := rfl
  have reads := ((resolve_fails_only_where_needed Memory.handle youngCluster youngMemory).2
    youngReference referred known).2.2.1
  rw [given] at reads
  exact ⟨referred, reads, by decide +kernel⟩

end ProviderFacts

end PlatformApps
