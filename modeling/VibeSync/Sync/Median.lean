import VibeSync.Sync.Heartbeat
import VibeSync.Slices

/-! The medians as they run, on a copy of the caller's slice that is sorted in place. A
failed access is a panic. -/

namespace VibeSync.Sync.InPlace
open Slices

/-- The inner loop, which moves the hole down from its position; the index `j` of the source is one below it. -/
def moveHole (m : Memory ℚ) (sorted : Slice) (key : ℚ) : Nat → Option (Memory ℚ)
  | 0 => write m sorted 0 key
  | j + 1 => do
    let below ← read m sorted j
    if below > key then moveHole (← write m sorted (j + 1) below) sorted key j
    else write m sorted (j + 1) key

/-- The rounds of the outer loop that are left from `i` on. -/
def insertionLoop (m : Memory ℚ) (sorted : Slice) (i : Nat) : Nat → Option (Memory ℚ)
  | 0 => some m
  | rounds + 1 => do
    let key ← read m sorted i
    insertionLoop (← moveHole m sorted key i) sorted (i + 1) rounds

def medianFloats (m : Memory ℚ) (vals : Slice) : Option (ℚ × Memory ℚ) :=
  if vals.length = 0 then some (0, m)
  else do
    let (sorted, m) := make m 0 vals.length
    let m ← copy m sorted vals
    let m ← insertionLoop m sorted 1 (sorted.length - 1)
    let mid := sorted.length / 2
    if sorted.length % 2 = 0 then return (((← read m sorted (mid - 1)) + (← read m sorted mid)) / 2, m)
    return (← read m sorted mid, m)

def medianRTT (m : Memory ℚ) (rtts : Slice) : Option (ℚ × Memory ℚ) :=
  if rtts.length = 0 then some (0, m)
  else do
    let (sorted, m) := make m 0 rtts.length
    let m ← copy m sorted rtts
    let m ← insertionLoop m sorted 1 (sorted.length - 1)
    let mid := sorted.length / 2
    if sorted.length % 2 = 0 then return (((← read m sorted (mid - 1)) + (← read m sorted mid)) / 2, m)
    return (← read m sorted mid, m)

end VibeSync.Sync.InPlace
