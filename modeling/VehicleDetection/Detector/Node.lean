import VehicleDetection.Param.Node
import VehicleDetection.Param.Validation

/-!
# `vehicle_detector_node.cpp`: the parameters

* `declared`                     the declared parameters with their defaults;
* `buildSnapshotFromParameters`  the snapshot at the start;
* `enforceInitialParameters`     the checks at the start;
* `applyParameter`               one entry of a batch, on a copy of the snapshot;
* `checkCandidate`               the checks at run time;
* `onParameterChange`            the callback.

A comparison `a ≥ b` of doubles is the IEEE one: it is false when `a` or `b` is NaN.
-/

set_option linter.unusedVariables false

namespace VD
open BStr

structure RoiBounds where
  minX : Float
  minY : Float
  minZ : Float
  maxX : Float
  maxY : Float
  maxZ : Float
deriving DecidableEq

structure EuclideanClusteringParams where
  tolerance : Float
  minSize : UInt64
  maxSize : UInt64
deriving DecidableEq

/-- `R` as in `DetectionJsonItem` -/
structure VehicleSizeLimits (R : Type := Float) where
  minLength : R
  maxLength : R
  minWidth : R
  maxWidth : R
  minHeight : R
  maxHeight : R
deriving DecidableEq

namespace VehicleDetectorNode

structure Snapshot where
  targetFrameId : Bytes
  voxelLeafSize : Float
  roi : RoiBounds
  groundDistanceThreshold : Float
  clustering : EuclideanClusteringParams
  vehicleLimits : VehicleSizeLimits
deriving DecidableEq

def declared : List Parameter := [
  ("input_points_topic", .string (lit "/input/points")),
  ("raw_detections_topic", .string (lit "/vehicle_detections/raw")),
  ("filtered_points_topic", .string (lit "/debug/points_filtered")),
  ("cluster_markers_topic", .string (lit "/debug/clusters")),
  ("vehicle_markers_topic", .string (lit "/vehicle_markers")),
  ("target_frame_id", .string (lit "map")),
  ("voxel_leaf_size", .double 0.2),
  ("roi_min_x", .double 0.0),
  ("roi_max_x", .double 80.0),
  ("roi_min_y", .double (-30.0)),
  ("roi_max_y", .double 30.0),
  ("roi_min_z", .double (-3.0)),
  ("roi_max_z", .double 3.0),
  ("ground_distance_threshold", .double 0.2),
  ("cluster_tolerance", .double 0.8),
  ("cluster_min_size", .integer 20),
  ("cluster_max_size", .integer 5000),
  ("vehicle_min_length", .double 2.0),
  ("vehicle_max_length", .double 6.0),
  ("vehicle_min_width", .double 1.2),
  ("vehicle_max_width", .double 2.8),
  ("vehicle_min_height", .double 1.0),
  ("vehicle_max_height", .double 3.0)]

def buildSnapshotFromParameters (params : ParameterStore) : Except ParameterError Snapshot := do
  let targetFrameId ← getString params "target_frame_id"
  let voxelLeafSize ← getDouble params "voxel_leaf_size"
  let roiMinX ← getDouble params "roi_min_x"
  let roiMinY ← getDouble params "roi_min_y"
  let roiMinZ ← getDouble params "roi_min_z"
  let roiMaxX ← getDouble params "roi_max_x"
  let roiMaxY ← getDouble params "roi_max_y"
  let roiMaxZ ← getDouble params "roi_max_z"
  let groundDistanceThreshold ← getDouble params "ground_distance_threshold"
  let tolerance ← getDouble params "cluster_tolerance"
  let minSize ← getInt params "cluster_min_size"
  let maxSize ← getInt params "cluster_max_size"
  let minLength ← getDouble params "vehicle_min_length"
  let maxLength ← getDouble params "vehicle_max_length"
  let minWidth ← getDouble params "vehicle_min_width"
  let maxWidth ← getDouble params "vehicle_max_width"
  let minHeight ← getDouble params "vehicle_min_height"
  let maxHeight ← getDouble params "vehicle_max_height"
  return {
    targetFrameId, voxelLeafSize, groundDistanceThreshold
    roi := ⟨roiMinX, roiMinY, roiMinZ, roiMaxX, roiMaxY, roiMaxZ⟩
    clustering := ⟨tolerance, minSize.toUInt64, maxSize.toUInt64⟩
    vehicleLimits := ⟨minLength, maxLength, minWidth, maxWidth, minHeight, maxHeight⟩ }

def enforceInitialParameters (s : Snapshot) : Except Bytes Unit :=
  match firstFailure [
    validateNonEmptyString "target_frame_id" s.targetFrameId,
    validatePositiveDouble "voxel_leaf_size" s.voxelLeafSize,
    validatePositiveDouble "ground_distance_threshold" s.groundDistanceThreshold,
    validatePositiveDouble "cluster_tolerance" s.clustering.tolerance,
    validateIntMin "cluster_min_size" s.clustering.minSize.toInt64 1,
    validateIntMin "cluster_max_size" s.clustering.maxSize.toInt64 s.clustering.minSize.toInt64] with
  | .error reason => .error reason
  | .ok _ =>
    if s.roi.minX ≥ s.roi.maxX ∨ s.roi.minY ≥ s.roi.maxY ∨ s.roi.minZ ≥ s.roi.maxZ then
      .error (lit "ROI bounds must satisfy min_* < max_* on all axes")
    else if s.vehicleLimits.minLength ≥ s.vehicleLimits.maxLength ∨
        s.vehicleLimits.minWidth ≥ s.vehicleLimits.maxWidth ∨
        s.vehicleLimits.minHeight ≥ s.vehicleLimits.maxHeight then
      .error (lit "vehicle size bounds must satisfy min_* < max_* for length/width/height")
    else .ok ()

/-! ## batches -/

def applyParameter (c : Snapshot) (p : Parameter) : Except ParameterError Snapshot :=
  if p.getName = "target_frame_id" then
    p.asString.map fun v => { c with targetFrameId := v }
  else if p.getName = "voxel_leaf_size" then
    p.asDouble.map fun v => { c with voxelLeafSize := v }
  else if p.getName = "roi_min_x" then
    p.asDouble.map fun v => { c with roi.minX := v }
  else if p.getName = "roi_max_x" then
    p.asDouble.map fun v => { c with roi.maxX := v }
  else if p.getName = "roi_min_y" then
    p.asDouble.map fun v => { c with roi.minY := v }
  else if p.getName = "roi_max_y" then
    p.asDouble.map fun v => { c with roi.maxY := v }
  else if p.getName = "roi_min_z" then
    p.asDouble.map fun v => { c with roi.minZ := v }
  else if p.getName = "roi_max_z" then
    p.asDouble.map fun v => { c with roi.maxZ := v }
  else if p.getName = "ground_distance_threshold" then
    p.asDouble.map fun v => { c with groundDistanceThreshold := v }
  else if p.getName = "cluster_tolerance" then
    p.asDouble.map fun v => { c with clustering.tolerance := v }
  else if p.getName = "cluster_min_size" then
    p.asInt.map fun v => { c with clustering.minSize := v.toUInt64 }
  else if p.getName = "cluster_max_size" then
    p.asInt.map fun v => { c with clustering.maxSize := v.toUInt64 }
  else if p.getName = "vehicle_min_length" then
    p.asDouble.map fun v => { c with vehicleLimits.minLength := v }
  else if p.getName = "vehicle_max_length" then
    p.asDouble.map fun v => { c with vehicleLimits.maxLength := v }
  else if p.getName = "vehicle_min_width" then
    p.asDouble.map fun v => { c with vehicleLimits.minWidth := v }
  else if p.getName = "vehicle_max_width" then
    p.asDouble.map fun v => { c with vehicleLimits.maxWidth := v }
  else if p.getName = "vehicle_min_height" then
    p.asDouble.map fun v => { c with vehicleLimits.minHeight := v }
  else if p.getName = "vehicle_max_height" then
    p.asDouble.map fun v => { c with vehicleLimits.maxHeight := v }
  else .ok c

/-- the checks of `on_parameter_change` -/
def checkCandidate (candidate : Snapshot) : Except Bytes Unit :=
  match firstFailure [
    validateNonEmptyString "target_frame_id" candidate.targetFrameId,
    validatePositiveDouble "voxel_leaf_size" candidate.voxelLeafSize,
    validatePositiveDouble "ground_distance_threshold" candidate.groundDistanceThreshold,
    validatePositiveDouble "cluster_tolerance" candidate.clustering.tolerance,
    validateIntMin "cluster_min_size" candidate.clustering.minSize.toInt64 1,
    validateIntMin "cluster_max_size" candidate.clustering.maxSize.toInt64
      candidate.clustering.minSize.toInt64] with
  | .error reason => .error reason
  | .ok _ =>
    if candidate.roi.minX ≥ candidate.roi.maxX ∨ candidate.roi.minY ≥ candidate.roi.maxY ∨
        candidate.roi.minZ ≥ candidate.roi.maxZ then
      .error (lit "ROI bounds must satisfy min_* < max_* on all axes")
    else if candidate.vehicleLimits.minLength ≥ candidate.vehicleLimits.maxLength ∨
        candidate.vehicleLimits.minWidth ≥ candidate.vehicleLimits.maxWidth ∨
        candidate.vehicleLimits.minHeight ≥ candidate.vehicleLimits.maxHeight then
      .error (lit "vehicle size bounds must satisfy min_* < max_* for length/width/height")
    else .ok ()

def onParameterChange (snapshot : Snapshot) (params : List Parameter) :
    Except ParameterError (SetParametersResult × Snapshot) :=
  (params.foldlM applyParameter snapshot).map fun candidate =>
    match checkCandidate candidate with
    | .error reason => ({ successful := false, reason := reason }, snapshot)
    | .ok _ => ({}, candidate)

/-! ## the node -/

abbrev Node := ParameterNode Snapshot

/-- the constructor -/
def start (others overrides : ParameterStore) : Except ParameterError (Except Bytes Node) :=
  startNode declared buildSnapshotFromParameters enforceInitialParameters
    (fun params snapshot => ⟨params, snapshot⟩) others overrides

def step (node : Node) (batch : List Parameter) : Node :=
  (setParametersAtomically onParameterChange node batch).2

def run (node : Node) (batches : List (List Parameter)) : Node := batches.foldl step node

end VehicleDetectorNode

end VD
