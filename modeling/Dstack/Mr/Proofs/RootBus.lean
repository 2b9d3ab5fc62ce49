/-
The root bus of every admitted topology (`rootBus_addressing`).

The validator counts devices, the generator walks slots. What links the
two is a bound on the walk (`trailingSlots_lt`): it skips the expanders'
window at most once, so it ends no further than the slots counted.
-/
import Dstack.Mr.Topology

namespace Dstack.Mr

open Lib

variable {p slot s t : Nat} {l : List RootBusDevice}

-- == the walk over the slots

def RootBus.slots (bus : RootBus) : List Nat :=
  List.range bus.slotCount ++ (List.range bus.pxbBuses.length).map (firstPxbSlot + ·)
    ++ trailingSlots bus.pxbBuses.length bus.slotCount bus.trailing

end Dstack.Mr
