/-
The TD HOB: the list of memory ranges the firmware is started with
(`dstack-mr`).

`tdvf.rs` and `tdx.rs` carry the same `MemoryAcceptor` and the same HOB
layout, once for the sections of a firmware and once for the ranges of a
witness. Both are modelled here, once.
-/
import Dstack.Lib.Intervals
import Dstack.Mr.Machine

namespace Dstack.Mr

open Lib

-- == accepted memory

structure MemRange where
  accepted : Bool
  start : Nat
  stop : Nat
  deriving DecidableEq

structure MemoryAcceptor where
  ranges : List MemRange
  deriving DecidableEq

namespace MemoryAcceptor

def new (start size : Nat) : MemoryAcceptor := ⟨[⟨false, start, start + size⟩]⟩

def piece (start stop : Nat) : List MemRange :=
  if start < stop then [⟨false, start, stop⟩] else []

/-- What is left of a range outside `start..stop`; accepted ranges are
never cut. -/
def cut (start stop : Nat) (r : MemRange) : List MemRange :=
  if r.accepted ∨ r.stop ≤ start ∨ r.start ≥ stop then [r]
  else piece r.start start ++ piece stop r.stop

def accept (acceptor : MemoryAcceptor) (start stop : Nat) : MemoryAcceptor :=
  if start ≥ stop then acceptor
  else
    let newRanges := acceptor.ranges.flatMap (cut start stop)
    ⟨Intervals.sortByStart MemRange.start (newRanges ++ [⟨true, start, stop⟩])⟩

end MemoryAcceptor

-- == HOBs

def handoffHob (endOfHobList : Nat) : Bytes :=
  [0x01, 0x00] ++ leBytes 2 56 ++ zeros 4 ++ leBytes 4 9 ++ zeros 4
    ++ zeros 8 ++ zeros 8 ++ zeros 8 ++ zeros 8 ++ leBytes 8 endOfHobList

def memoryResourceHob (resourceType : UInt8) (start length : Nat) : Bytes :=
  [0x03, 0x00] ++ leBytes 2 48 ++ zeros 4 ++ zeros 16 ++ [resourceType]
    ++ zeros 3 ++ leBytes 4 7 ++ leBytes 8 start ++ leBytes 8 length

def q35HighMemorySplit : Nat := 0xB0000000

def rangeHob (r : MemRange) : Result Bytes := do
  Result.ensure (r.start ≤ r.stop) "Invalid memory range: end < start"
  pure (memoryResourceHob (if r.accepted then 0x00 else 0x07) r.start
    (r.stop - r.start))

def lastRangeHobs (memorySize : Nat) (r : MemRange) : Bytes :=
  if memorySize ≥ q35HighMemorySplit then
    (if r.start < 0x80000000 then
        memoryResourceHob 0x07 r.start (0x80000000 - r.start)
      else [])
    ++ (if r.stop > 0x80000000 then
        memoryResourceHob 0x07 0x100000000 (r.stop - 0x80000000)
      else [])
  else memoryResourceHob 0x07 r.start (r.stop - r.start)

/-- The digest of the TD HOB for the ranges of an acceptor. `overflow`
is the text of the one error in which the two callers differ. -/
def measureHob (acceptor : MemoryAcceptor) (memorySize tdHobBaseAddr : Nat)
    (overflow : String) : Result Bytes := do
  let last ← Result.ofOption acceptor.ranges.getLast? "No ranges"
  let ranges ← acceptor.ranges.dropLast.mapM rangeHob
  Result.ensure (last.start ≤ last.stop) "Invalid last memory range: end < start"
  let resources := ranges.flatten ++ lastRangeHobs memorySize last
  let endOfHobList ← Result.ofOption
    (checkedAdd tdHobBaseAddr (56 + resources.length + 8)) overflow
  pure (measureSha384 (handoffHob endOfHobList ++ resources))

end Dstack.Mr
