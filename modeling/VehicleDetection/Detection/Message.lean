import VehicleDetection.Detection.Json

/-!
# Detection messages

The messages of `vision_msgs` as far as the package fills and reads them, over any type `R` of numbers,
and `to_json_payload` of `detection_sender_node.cpp`.
-/

set_option linter.unusedVariables false

namespace VD
open BStr

structure Header where
  stampSec : Int32
  stampNanosec : UInt32
  frameId : Bytes
deriving DecidableEq

structure Vector3 (R : Type) where
  x : R
  y : R
  z : R
deriving DecidableEq

structure Quaternion (R : Type) where
  x : R
  y : R
  z : R
  w : R
deriving DecidableEq

structure Pose (R : Type) where
  position : Vector3 R
  orientation : Quaternion R
deriving DecidableEq

structure ObjectHypothesisWithPose (R : Type) where
  classId : Bytes
  score : R
  pose : Pose R
deriving DecidableEq

structure BoundingBox3D (R : Type) where
  center : Pose R
  size : Vector3 R
deriving DecidableEq

structure Detection3D (R : Type) where
  header : Header
  results : List (ObjectHypothesisWithPose R)
  bbox : BoundingBox3D R
  id : Bytes
deriving DecidableEq

structure Detection3DArray (R : Type) where
  header : Header
  detections : List (Detection3D R)
deriving DecidableEq

section
variable {R : Type} [LT R] [DecidableLT R]

/-- `std::max` -/
def stdMax (a b : R) : R := if a < b then b else a

/-- `std::min` -/
def stdMin (a b : R) : R := if b < a then b else a

theorem stdMax_eq {L : Type} [LinearOrder L] (a b : L) : stdMax a b = max a b := by
  rw [stdMax, max_def_lt]

theorem stdMin_eq {L : Type} [LinearOrder L] (a b : L) : stdMin a b = min a b := by
  rw [stdMin, min_comm, min_def_lt]

variable [OfScientific R]

/-- one round of the loop of `to_json_payload` -/
def toJsonItem (det : Detection3D R) : DetectionJsonItem R where
  id := det.id
  classLabel := match det.results with
    | [] => []
    | front :: _ => front.classId
  confidence := match det.results with
    | [] => 0.0
    | front :: _ => front.score
  centerX := det.bbox.center.position.x
  centerY := det.bbox.center.position.y
  centerZ := det.bbox.center.position.z
  length := stdMax det.bbox.size.x det.bbox.size.y
  width := stdMin det.bbox.size.x det.bbox.size.y
  height := det.bbox.size.z
  yaw := 0.0

def toJsonPayload (msg : Detection3DArray R) : DetectionJsonPayload R where
  stampSec := msg.header.stampSec
  stampNanosec := msg.header.stampNanosec
  frameId := msg.header.frameId
  detections := msg.detections.map toJsonItem

end

end VD
