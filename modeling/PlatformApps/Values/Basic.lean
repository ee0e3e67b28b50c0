/-
# Configuration values

Charts are configured by values documents. Names and order of their fields are part of
what the charts rely on. This module holds what all values documents share.
-/

import PlatformApps.Network
import PlatformApps.Provider
import PlatformApps.Settings
import PlatformApps.Yaml.Writer

namespace PlatformApps

/-- Field of config maps and secrets that holds the values. -/
def valuesKey : String := "values"

/-- The provider named in values: that of the cluster, or the configured one where the
cluster's is unknown. -/
def providerName (facts : ProviderFacts) (settings : Settings) : String :=
  if facts.provider = .unknown ∧ settings.provider ≠ "" then settings.provider
  else facts.provider.name

/-- The field of a required nested record. -/
def nested? {α : Type} (fields : List (String × Written)) (name : String) (names : List String)
    (read : List (String × Written) → Option α) : Option α :=
  Written.required? fields name fun written => (written.record? names).bind read

end PlatformApps
