import VibeSync.Sync.State

/-! Heartbeat estimates of one client and the room-wide drift controller. -/

namespace VibeSync.Sync

structure ClientHeartbeat where
  smoothedRTT : ℚ := 0
  smoothedOffset : ℚ := 0
  driftMs : ℚ := 0
  lastSeen : Time := zeroTime
  prevT1 : Int64 := 0
  prevT2 : Int64 := 0
  prevT3 : Int64 := 0
  hasPrev : Bool := false
  deriving DecidableEq, Repr

namespace ClientHeartbeat

def ewmaAlpha : ℚ := 1 / 4

/-- Subtraction on `int64` followed by the conversion to a float. -/
def span (later earlier : Int64) : ℚ := (later - earlier).toInt

def update (c : ClientHeartbeat) (t1 t2 t3 : Int64) (now : Time) : ClientHeartbeat :=
  if c.hasPrev then
    let measured := span t1 c.prevT1 - span c.prevT3 c.prevT2
    let rtt := if measured < 0 then 0 else measured
    let offset := (span c.prevT2 c.prevT1 + span c.prevT3 t1) / 2
    { c with
      smoothedRTT := if c.smoothedRTT = 0 then rtt else ewmaAlpha * rtt + (1 - ewmaAlpha) * c.smoothedRTT
      smoothedOffset :=
        if c.smoothedRTT = 0 then offset else ewmaAlpha * offset + (1 - ewmaAlpha) * c.smoothedOffset
      prevT1 := t1, prevT2 := t2, prevT3 := t3, lastSeen := now }
  else { c with prevT1 := t1, prevT2 := t2, prevT3 := t3, hasPrev := true, lastSeen := now }

def isAlive (c : ClientHeartbeat) (now : Time) (timeout : Duration) : Bool := now - c.lastSeen < timeout

def clientMediaTimeAt (c : ClientHeartbeat) (clientMediaTimeMs : Int64) : ℚ :=
  clientMediaTimeMs.toInt + c.smoothedOffset

def reset (c : ClientHeartbeat) : ClientHeartbeat :=
  { c with smoothedRTT := 0, smoothedOffset := 0, driftMs := 0, prevT1 := 0, prevT2 := 0, prevT3 := 0, hasPrev := false }

end ClientHeartbeat

/-- The inner loop of the insertion sort, on the sorted part read from its end. -/
def shiftInsert (key : ℚ) : List ℚ → List ℚ
  | [] => [key]
  | x :: rest => if x > key then x :: shiftInsert key rest else key :: x :: rest

def insertionSort (vals : List ℚ) : List ℚ := (vals.foldl (fun sorted key => shiftInsert key sorted) []).reverse

def medianFloats (vals : List ℚ) : ℚ :=
  if vals.length = 0 then 0
  else
    let sorted := insertionSort vals
    let mid := sorted.length / 2
    if sorted.length % 2 = 0 then (sorted.getD (mid - 1) 0 + sorted.getD mid 0) / 2 else sorted.getD mid 0

def maxAbsFloats : List ℚ → ℚ
  | [] => 0
  | first :: rest => rest.foldl (fun max v => if |v| > max then |v| else max) |first|

structure DriftController where
  kp : ℚ := 15 / 100
  ki : ℚ := 2 / 100
  integralClampMs : ℚ := 200
  discontinuityThresholdMs : ℚ := 2000
  integral : ℚ := 0
  deriving DecidableEq, Repr

structure ControllerResult where
  correctionMs : ℚ := 0
  forceSnapshot : Bool := false
  deriving DecidableEq, Repr

namespace DriftController

def clampIntegral (dc : DriftController) (value : ℚ) : ℚ :=
  if value > dc.integralClampMs then dc.integralClampMs
  else if value < -dc.integralClampMs then -dc.integralClampMs
  else value

def correct (dc : DriftController) (medianDriftMs : ℚ) (dt : Duration) (activePeers confidence : Nat) :
    ControllerResult × DriftController :=
  if activePeers < 2 then ({}, dc)
  else if confidence < 30 then ({}, dc)
  else if |medianDriftMs| > dc.discontinuityThresholdMs then ({ forceSnapshot := true }, { dc with integral := 0 })
  else
    let integral := dc.clampIntegral (dc.integral + medianDriftMs * (dt / 1000000000))
    ({ correctionMs := dc.kp * medianDriftMs + dc.ki * integral }, { dc with integral })

def reset (dc : DriftController) : DriftController := { dc with integral := 0 }

end DriftController

end VibeSync.Sync
