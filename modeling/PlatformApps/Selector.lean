/-
# Label selectors

A selector is a list of requirements that must all hold. `matches` evaluates it on
labels; `render` is the text that the API server evaluates.
-/

import PlatformApps.Resource.Metadata

namespace PlatformApps

inductive Requirement where
  | equals (key value : String)
  | differs (key value : String)
  deriving DecidableEq, Repr

namespace Requirement

/-- An absent label differs from every value. -/
def holds (labels : Labels) : Requirement → Bool
  | .equals key value => labels.find? key == some value
  | .differs key value => labels.find? key != some value

def render : Requirement → String
  | .equals key value => key ++ "=" ++ value
  | .differs key value => key ++ "!=" ++ value

end Requirement

structure Selector where
  requirements : List Requirement
  deriving DecidableEq

namespace Selector

def isMatch (selector : Selector) (labels : Labels) : Bool :=
  selector.requirements.all fun requirement => requirement.holds labels

def render (selector : Selector) : String :=
  ",".intercalate (selector.requirements.map Requirement.render)

end Selector

end PlatformApps
