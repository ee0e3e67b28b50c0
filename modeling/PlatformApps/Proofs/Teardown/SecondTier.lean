/-
# The name of the second tier

A pass of a teardown learns the name of the second tier's App anew, from the App compiled for
it where there is one and else from the id of the cluster. Both are the same name, so passes
that meet different releases, rules and catalogs look for the same App.
-/

import PlatformApps.Proofs.Manifest.Partition

namespace PlatformApps

variable {σ τ : Type} {handler : Operator.Handler σ} {settings : Settings} {cluster : Cluster}
  {state : σ}

/-- The second tier is named unless the compilation fails in a way that may pass, and its name
is then the usual one. -/
theorem secondTierName_eq_ok_iff {name : String} :
    secondTierName ((compileAsLive settings cluster).run handler state).1 cluster.id = .ok name ↔
      name = secondTierAppName cluster.id ∧
        ∀ failure, ((compileAsLive settings cluster).run handler state).1 = .error failure →
          failure.isNotFound = true ∨ failure.isValidation = true := by
  rw [secondTierName_compileAsLive]
  cases ((compileAsLive settings cluster).run handler state).1 with
  | ok compiled =>
      constructor
      · rintro ⟨⟩
        exact ⟨rfl, fun _ failed => nomatch failed⟩
      · rintro ⟨rfl, _⟩
        rfl
  | error failure =>
      simp only [Except.map, Bool.or_eq_true]
      constructor
      · intro named
        split at named
        · rename_i excused
          cases named
          refine ⟨rfl, fun _ failed => ?_⟩
          cases failed
          exact excused
        · cases named
      · rintro ⟨rfl, excused⟩
        rw [if_pos (excused failure rfl)]

/-- Where the second tier is not named, the compilation has failed with what is reported. -/
theorem secondTierName_eq_error_iff {failure : Failure} :
    secondTierName ((compileAsLive settings cluster).run handler state).1 cluster.id =
        .error failure ↔
      ((compileAsLive settings cluster).run handler state).1 = .error failure ∧
        failure.isNotFound = false ∧ failure.isValidation = false := by
  rw [secondTierName_compileAsLive]
  cases ((compileAsLive settings cluster).run handler state).1 with
  | ok compiled =>
      constructor
      · rintro ⟨⟩
      · rintro ⟨⟨⟩, _⟩
  | error known =>
      simp only [Except.map, ← Bool.or_eq_false_iff]
      constructor
      · intro unnamed
        split at unnamed
        · cases unnamed
        · rename_i lasting
          cases unnamed
          exact ⟨rfl, Bool.eq_false_iff.mpr lasting⟩
      · rintro ⟨⟨⟩, lasting⟩
        rw [lasting, if_neg Bool.false_ne_true]

/-- An App that a compilation finds for the second tier has the usual name. So the second tier
is named unless the compilation fails with something other than that an object does not exist
or an input is not valid; the name is then the usual one, and otherwise the failure is that of
the compilation. Two passes for one cluster that name the second tier give it one name, whatever
rules, releases and catalogs they meet. -/
theorem secondTierName_steady (handler : Operator.Handler σ) (settings : Settings)
    (cluster : Cluster) (state : σ) :
    (∀ compiled app, ((compileAsLive settings cluster).run handler state).1 = .ok compiled →
      compiled.appFor? secondTier = some app → app.name = cluster.id ++ "-chart-operator") ∧
    (∀ name, secondTierName ((compileAsLive settings cluster).run handler state).1 cluster.id =
        .ok name ↔
      name = cluster.id ++ "-chart-operator" ∧
        ∀ failure, ((compileAsLive settings cluster).run handler state).1 = .error failure →
          failure.isNotFound = true ∨ failure.isValidation = true) ∧
    (∀ failure, secondTierName ((compileAsLive settings cluster).run handler state).1 cluster.id =
        .error failure ↔
      ((compileAsLive settings cluster).run handler state).1 = .error failure ∧
        failure.isNotFound = false ∧ failure.isValidation = false) ∧
    ∀ (later : Operator.Handler τ) (laterSettings : Settings) (laterCluster : Cluster)
        (laterState : τ) (name other : String), laterCluster.id = cluster.id →
      secondTierName ((compileAsLive settings cluster).run handler state).1 cluster.id =
        .ok name →
      secondTierName ((compileAsLive laterSettings laterCluster).run later laterState).1
        laterCluster.id = .ok other → other = name := by
  have usual : secondTierAppName cluster.id = cluster.id ++ "-chart-operator" := by
    rw [secondTierAppName, String.append_assoc]
    rfl
  refine ⟨?compiled, ?named, ?unnamed, ?steady⟩
  case compiled =>
    intro compiled app compiles found
    exact (name_of_appFor?_secondTier (Prod.ext compiles rfl) found).trans usual
  case named =>
    intro name
    rw [← usual]
    exact secondTierName_eq_ok_iff
  case unnamed => exact fun failure => secondTierName_eq_error_iff
  case steady =>
    intro later laterSettings laterCluster laterState name other sameId named renamed
    obtain ⟨rfl, _⟩ := secondTierName_eq_ok_iff.mp named
    obtain ⟨rfl, _⟩ := secondTierName_eq_ok_iff.mp renamed
    rw [sameId]

/-- The release has an entry for the second tier. -/
def tiered : Operator.Handler Unit
  | .releaseApps _, state => (.ok (.ofList [(secondTier, ⟨secondTier, "2.18.0", none⟩)]), state)
  | request, state => partlyStocked request state

/-- The release is gone. -/
def releaseless : Operator.Handler Unit
  | .components _, state => (.error (.notFound "Release" "v27.0.0"), state)
  | request, state => partlyStocked request state

/-- The second tier is found in what the release compiles to, and once the release is gone it is
still looked for under that name. -/
theorem secondTierName_steady_releaseless :
    ((compileAsLive {} managedControlPlane).run tiered ()).1.map (fun compiled =>
        (compiled.appFor? secondTier).isSome) = .ok true ∧
      ((compileAsLive {} managedControlPlane).run releaseless ()).1.map (fun _ => ()) =
        .error (.notFound "Release" "v27.0.0") ∧
      ∃ name, secondTierName ((compileAsLive {} managedControlPlane).run tiered ()).1 "demo0" =
          .ok name ∧
        secondTierName ((compileAsLive {} managedControlPlane).run releaseless ()).1 "demo0" =
          .ok name := by
  have found : ((compileAsLive {} managedControlPlane).run tiered ()).1.map (fun compiled =>
      (compiled.appFor? secondTier).isSome) = .ok true := by
    decide +kernel
  have gone : ((compileAsLive {} managedControlPlane).run releaseless ()).1.map (fun _ => ()) =
      .error (.notFound "Release" "v27.0.0") := by
    decide +kernel
  have sameId : managedControlPlane.id = "demo0" := by decide
  obtain ⟨_, named, _, steady⟩ := secondTierName_steady tiered {} managedControlPlane ()
  have first := (named _).mpr ⟨rfl, fun failure failed => by rw [failed] at found; cases found⟩
  have usual : secondTierName ((compileAsLive {} managedControlPlane).run releaseless ()).1
      managedControlPlane.id = .ok (secondTierAppName managedControlPlane.id) := by
    rw [secondTierName_compileAsLive, gone]
    rfl
  have same := steady releaseless {} managedControlPlane () _ _ rfl first usual
  rw [same] at usual
  rw [sameId] at first usual
  exact ⟨found, gone, _, first, usual⟩

end PlatformApps
