/-
# Faults

Failures that are put in the way of calls to a store, to see what becomes of a step when
one of its calls fails. A call that fails does not reach the store.
-/

import PlatformApps.Store.Memory

namespace PlatformApps

structure Fault where
  /-- Name of the operation that fails. -/
  operation : String
  /-- What the operation is about; anything if absent. -/
  target : Option String := none
  /-- How many calls are let through first. -/
  skip : Nat := 0
  /-- How many calls fail after that. -/
  times : Nat := 1
  failure : Failure

namespace Fault

def concerns (fault : Fault) (call : StoreCall) : Bool :=
  fault.operation == call.operation && fault.target.all (· == call.target)

/-- The failure that a call meets, if any, and the faults as they are afterwards. Faults
are looked at in their order; one that lets the call through leaves it to the next. -/
def meet (call : StoreCall) : List Fault → Option Failure × List Fault
  | [] => (none, [])
  | fault :: rest =>
    if fault.concerns call && 0 < fault.skip then
      let (failure, rest) := meet call rest
      (failure, { fault with skip := fault.skip - 1 } :: rest)
    else if fault.concerns call && 0 < fault.times then
      (some fault.failure, { fault with times := fault.times - 1 } :: rest)
    else
      let (failure, rest) := meet call rest
      (failure, fault :: rest)

end Fault

end PlatformApps
