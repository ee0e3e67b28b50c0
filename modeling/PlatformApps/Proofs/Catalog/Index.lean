/-
# Which chart of an index an app gets

An app gets a chart that is published in the version asked for, under a name of the app.
The search ends, however, at the first of the two names that lists anything at all. A version
that is published under the shorter name only is therefore missed as soon as the longer name
lists other versions, and found in all other cases.
-/

import PlatformApps.Catalog.Index
import PlatformApps.Proofs.Text

namespace PlatformApps.CatalogIndex

/-- A name of an app without one `-app` at its end. -/
def IsBareName (bare app : String) : Prop :=
  app = bare ++ "-app" ∨ app = bare ∧ ∀ other, app ≠ other ++ "-app"

/-- What an index lists under a name. -/
def listing (index : CatalogIndex) (name : String) : List IndexEntry :=
  (index.entries.find? name).getD []

/-- Is a version of a chart listed under the chart's name, and as one of that chart? -/
def Publishes (index : CatalogIndex) (chart version : String) : Prop :=
  ∃ entry ∈ index.listing chart, entry.name = chart ∧ entry.version = version

instance (index : CatalogIndex) (chart version : String) :
    Decidable (index.Publishes chart version) :=
  inferInstanceAs (Decidable (∃ entry ∈ index.listing chart, _ ∧ _))

/-- The chart of an app is looked for completely: one that is published under a name of the
app is found, under the longer name before the shorter. -/
def FindsPublished (index : CatalogIndex) (bare app version : String) : Prop :=
  ∀ chart, index.chart? app version = some chart ↔
    chart = bare ++ "-app" ∧ index.Publishes (bare ++ "-app") version ∨
      chart = bare ∧ ¬ index.Publishes (bare ++ "-app") version ∧ index.Publishes bare version

/-- The longer name lists other versions, while the version is published under the shorter. -/
def Hides (index : CatalogIndex) (bare version : String) : Prop :=
  index.listing (bare ++ "-app") ≠ [] ∧ ¬ index.Publishes (bare ++ "-app") version ∧
    index.Publishes bare version

instance (index : CatalogIndex) (bare version : String) : Decidable (index.Hides bare version) :=
  inferInstanceAs (Decidable (_ ∧ ¬ index.Publishes (bare ++ "-app") version ∧ _))

variable {index : CatalogIndex} {bare app chart version : String}

theorem IsBareName.withoutEnding?_eq (named : IsBareName bare app) :
    (Text.withoutEnding? "-app" app).getD app = bare := by
  rcases named with rfl | ⟨rfl, apart⟩
  · rw [Text.withoutEnding?_eq_some_iff.mpr rfl, Option.getD_some]
  · have kept : Text.withoutEnding? "-app" app = none := by
      refine Option.eq_none_iff_forall_ne_some.mpr fun other found => ?_
      exact apart other (Text.withoutEnding?_eq_some_iff.mp found)
    rw [kept, Option.getD_none]

theorem candidates_eq (named : IsBareName bare app) : candidates app = [bare ++ "-app", bare] := by
  simp only [candidates, named.withoutEnding?_eq]

theorem listed?_eq (index : CatalogIndex) (name : String) :
    index.listed? name =
      if index.listing name = [] then none else some (name, index.listing name) := by
  rw [listed?, listing]
  rcases index.entries.find? name with _ | ⟨_ | ⟨first, rest⟩⟩ <;> rfl

theorem not_publishes_of_listing_eq_nil (none : index.listing chart = []) :
    ¬ index.Publishes chart version := by
  rintro ⟨entry, inside, -⟩
  rw [none] at inside
  cases inside

/-- Of what is listed under a name, the entry for a version. -/
theorem find?_listing (index : CatalogIndex) (chart version : String) :
    (((index.listing chart).find? fun entry => entry.name == chart && entry.version == version).map
        IndexEntry.name) = if index.Publishes chart version then some chart else none := by
  split
  · rename_i published
    obtain ⟨entry, inside, named, versioned⟩ := published
    have found : ((index.listing chart).find? fun entry =>
        entry.name == chart && entry.version == version).isSome := by
      rw [List.find?_isSome]
      exact ⟨entry, inside, by simp [named, versioned]⟩
    obtain ⟨first, first_eq⟩ := Option.isSome_iff_exists.mp found
    have fits := List.find?_some first_eq
    rw [Bool.and_eq_true, beq_iff_eq] at fits
    rw [first_eq, Option.map_some, fits.1]
  · rename_i unpublished
    rw [Option.map_eq_none_iff, List.find?_eq_none]
    intro entry inside fits
    rw [Bool.and_eq_true, beq_iff_eq, beq_iff_eq] at fits
    exact unpublished ⟨entry, inside, fits.1, fits.2⟩

/-- The search stays with the first name that lists anything. -/
theorem chart?_eq (named : IsBareName bare app) (index : CatalogIndex) (version : String) :
    index.chart? app version =
      if index.listing (bare ++ "-app") = [] then
        if index.Publishes bare version then some bare else none
      else if index.Publishes (bare ++ "-app") version then some (bare ++ "-app") else none := by
  rw [chart?, candidates_eq named, List.findSome?_cons, List.findSome?_cons, List.findSome?_nil,
    listed?_eq, listed?_eq]
  by_cases longer : index.listing (bare ++ "-app") = []
  · rw [if_pos longer, if_pos longer]
    by_cases shorter : index.listing bare = []
    · rw [if_pos shorter, if_neg (not_publishes_of_listing_eq_nil shorter)]
      rfl
    · rw [if_neg shorter, ← find?_listing]
      exact (Option.map_eq_bind (f := IndexEntry.name)).symm
  · rw [if_neg longer, if_neg longer, ← find?_listing]
    exact (Option.map_eq_bind (f := IndexEntry.name)).symm

theorem chart?_eq_some_iff (named : IsBareName bare app) :
    index.chart? app version = some chart ↔
      chart = bare ++ "-app" ∧ index.Publishes (bare ++ "-app") version ∨
        chart = bare ∧ index.listing (bare ++ "-app") = [] ∧ index.Publishes bare version := by
  have chosen (name : String) (published : Prop) [Decidable published] :
      (if published then some name else none) = some chart ↔ chart = name ∧ published := by
    rw [Option.ite_none_right_eq_some, Option.some.injEq, and_comm, eq_comm]
  rw [chart?_eq named]
  by_cases longer : index.listing (bare ++ "-app") = []
  · have unpublished : ¬ index.Publishes (bare ++ "-app") version :=
      not_publishes_of_listing_eq_nil longer
    rw [if_pos longer, chosen]
    simp only [longer, unpublished, and_false, false_or, true_and]
  · rw [if_neg longer, chosen]
    simp only [longer, false_and, and_false, or_false]

/-- The chart of an app is looked for completely, unless versions under its longer name hide
one that is published under the shorter. In any case a chart is found just when it is published
under the longer name, or under the shorter one where the longer lists nothing. An app is found
alike with and without `-app`. -/
theorem finds_published_iff_not_hidden (named : IsBareName bare app) (index : CatalogIndex)
    (version : String) :
    (index.FindsPublished bare app version ↔ ¬ index.Hides bare version) ∧
      (∀ chart, index.chart? app version = some chart ↔
        chart = bare ++ "-app" ∧ index.Publishes (bare ++ "-app") version ∨
          chart = bare ∧ index.listing (bare ++ "-app") = [] ∧ index.Publishes bare version) ∧
      ((∀ other, bare ≠ other ++ "-app") →
        index.chart? (bare ++ "-app") version = index.chart? bare version) := by
  refine ⟨⟨fun complete hides => ?_, fun apart chart => ?_⟩, fun chart => chart?_eq_some_iff named,
    fun apart => ?_⟩
  · obtain ⟨lists, unpublished, published⟩ := hides
    have found := (complete bare).mpr (.inr ⟨rfl, unpublished, published⟩)
    rcases (chart?_eq_some_iff named).mp found with ⟨_, longer⟩ | ⟨_, none, _⟩
    · exact unpublished longer
    · exact lists none
  · rw [chart?_eq_some_iff named]
    refine or_congr_right (and_congr_right fun _ => and_congr_left fun published => ?_)
    constructor
    · exact fun none => not_publishes_of_listing_eq_nil none
    · exact fun unpublished => Decidable.byContradiction fun lists =>
        apart ⟨lists, unpublished, published⟩
  · rw [chart?_eq (.inl rfl), chart?_eq (.inr ⟨rfl, apart⟩)]

/-- An app whose chart moved to the shorter name with its second version. -/
def moved : CatalogIndex where
  entries := .ofList [
    ("coredns-app", [⟨"coredns-app", "1.0.0"⟩]),
    ("coredns", [⟨"coredns", "2.0.0"⟩])]

theorem isBareName_coredns : IsBareName "coredns" "coredns" := by
  refine .inr ⟨rfl, fun other joined => ?_⟩
  have kept : Text.withoutEnding? "-app" "coredns" = none := by decide +kernel
  cases kept.symm.trans (Text.withoutEnding?_eq_some_iff.mpr joined)

/-- The version under the longer name is found. -/
theorem finds_published_iff_not_hidden_moved : IsBareName "coredns" "coredns" ∧
    moved.FindsPublished "coredns" "coredns" "1.0.0" := by
  refine ⟨isBareName_coredns, ?_⟩
  exact (finds_published_iff_not_hidden isBareName_coredns moved "1.0.0").1.mpr (by decide +kernel)

/-- The version that moved is published, but not found. -/
theorem moved_chart_not_found : moved.Publishes "coredns" "2.0.0" ∧
    moved.chart? "coredns" "2.0.0" = none ∧ ¬ moved.FindsPublished "coredns" "coredns" "2.0.0" := by
  have missed : moved.chart? "coredns" "2.0.0" = none := by decide +kernel
  have published : moved.Publishes "coredns" "2.0.0" := by decide +kernel
  have unpublished : ¬ moved.Publishes ("coredns" ++ "-app") "2.0.0" := by decide +kernel
  refine ⟨published, missed, fun complete => ?_⟩
  cases missed.symm.trans ((complete "coredns").mpr (.inr ⟨rfl, unpublished, published⟩))

end PlatformApps.CatalogIndex
