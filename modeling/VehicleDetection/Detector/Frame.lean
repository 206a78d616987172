import VehicleDetection.Detector.Cloud
import VehicleDetection.Detector.Filters

/-!
# `on_cloud` of `vehicle_detector_node.cpp`: a whole frame

From the cloud that arrives to the four messages that are published.  The transforms, the point cloud
library and the conversions of messages are given for each frame; what is only printed is left out.

* `onCloud`         the callback; `none`: the frame is skipped;
* `onCloud_none`    when it is;
* `Framed`          what the four messages of a frame have to do with each other;
* `onCloud_framed`  every frame is such.
-/

set_option linter.unusedVariables false

namespace VD
open BStr VehicleDetectorNode

/-- a `PointCloud2`; `D` is what it has besides the header -/
structure CloudMessage (D : Type) where
  header : Header
  data : D

/-- What a frame finds outside; `T` are the transforms. A transform is looked up by the target frame and by
the header of the cloud, for the frame and the time there. -/
structure Outside (D T : Type) where
  pcl : Pcl
  fromROSMsg : CloudMessage D → PointCloudXYZ
  toROSMsg : PointCloudXYZ → D
  lookupTransform : Bytes → Header → Except Bytes T
  doTransform : CloudMessage D → T → CloudMessage D

/-- in the order in which they are published -/
structure Publications (D : Type) where
  filtered : CloudMessage D
  clusterMarkers : List (Marker Float32 Float)
  detections : Detection3DArray Float
  vehicleMarkers : List (Marker Float32 Float)

namespace VehicleDetectorNode
variable {D T : Type} (out : Outside D T) (snap : Snapshot)

/-- the cloud in the target frame, but for the name of the frame -/
def transformed (msg : CloudMessage D) : Option (CloudMessage D) :=
  if msg.header.frameId = snap.targetFrameId then some msg
  else match out.lookupTransform snap.targetFrameId msg.header with
    | .error _ => none
    | .ok tf => some (out.doTransform msg tf)

/-- the points that are clustered -/
def forClustering (msg : CloudMessage D) : PointCloudXYZ :=
  let downsampled := out.pcl.voxelDownsample (some (out.fromROSMsg msg)) snap.voxelLeafSize
  let cropped := out.pcl.cropRoi (some downsampled) snap.roi
  (out.pcl.removeGroundPlane (some cropped) snap.groundDistanceThreshold snap.clustering.minSize).nonGround

def publishFrame (header : Header) (cloud : PointCloudXYZ) : Publications D :=
  let clusters := extractClusters out.pcl.components (some cloud) snap.clustering
  let detected := detectVehicles Double.widen Double.infinity header cloud clusters snap.vehicleLimits
  { filtered := ⟨header, out.toROSMsg cloud⟩
    clusterMarkers := publishClusterMarkers Double.widen Double.infinity header cloud clusters
    detections := detected.array
    vehicleMarkers := detected.vehicleMarkers }

/-- the name of the target frame is set in any case -/
def inTargetFrame (msg : CloudMessage D) : CloudMessage D :=
  { msg with header := { msg.header with frameId := snap.targetFrameId } }

def onCloud (msg : CloudMessage D) : Option (Publications D) :=
  (transformed out snap msg).map fun msg =>
    let msg := inTargetFrame snap msg
    publishFrame out snap msg.header (forClustering out snap msg)

/-- A frame is skipped when its cloud is in another frame and there is no transform. -/
theorem onCloud_none (msg : CloudMessage D) : onCloud out snap msg = none ↔
    msg.header.frameId ≠ snap.targetFrameId ∧
      ∃ what, out.lookupTransform snap.targetFrameId msg.header = .error what := by
  rw [onCloud, Option.map_eq_none_iff, transformed]
  split
  · rename_i he
    exact iff_of_false (fun h => by cases h) fun h => h.1 he
  · rename_i hne
    cases hl : out.lookupTransform snap.targetFrameId msg.header with
    | error what => exact iff_of_true rfl ⟨hne, what, rfl⟩
    | ok tf => exact iff_of_false (fun h => by cases h) fun ⟨_, _, h⟩ => by cases h

/-- no point that is clustered is outside the region -/
theorem forClustering_inside (hp : out.pcl.Documented) (msg : CloudMessage D) :
    ∀ p ∈ forClustering out snap msg, Inside snap.roi.castMin snap.roi.castMax p := by
  intro p hm
  unfold forClustering at hm
  dsimp only at hm
  have hinside := Pcl.cropRoi_inside hp
    (some (out.pcl.voxelDownsample (some (out.fromROSMsg msg)) snap.voxelLeafSize)) snap.roi
  generalize out.pcl.cropRoi _ snap.roi = cropped at hm hinside
  obtain ⟨hperm, -⟩ := Pcl.removeGroundPlane_partition hp cropped snap.groundDistanceThreshold
    snap.clustering.minSize
  exact hinside p (hperm.subset (List.mem_append_right _ hm))

/-! ## what is published -/

/-- the box of a cluster of this cloud, with a size and in the region that the snapshot allows -/
structure BoxOf (cloud : PointCloudXYZ) (cluster : PointIndices) (box : AxisAlignedBox Float) : Prop where
  hull : box = computeAabb64 cloud cluster
  minSize : (castInt snap.clustering.minSize).toInt ≤ cluster.indices.length
  maxSize : cluster.indices.length ≤ (castInt snap.clustering.maxSize).toInt
  within : box.Within snap.roi.castMin snap.roi.castMax

/-- the marker of the frame before is removed, and one is made for each box -/
def BoxMarkers (header : Header) (ns : Bytes) (r g b a : Float32) (boxes : List (AxisAlignedBox Float))
    (markers : List (Marker Float32 Float)) : Prop :=
  markers = deleteAll header ns :: boxes.mapIdx fun i box => makeBoxMarker header ns (i + 1) box r g b a

/-- One header, in the target frame; each marker and each detection belongs to a cluster of the filtered
cloud, the detections to those that pass the size check, in their order and numbered from 1. -/
structure Framed (header : Header) (cloud : PointCloudXYZ) (clusters : List PointIndices)
    (boxes : List (AxisAlignedBox Float)) (p : Publications D) : Prop where
  frame : header.frameId = snap.targetFrameId
  filtered : p.filtered = ⟨header, out.toROSMsg cloud⟩
  inside : ∀ q ∈ cloud, Inside snap.roi.castMin snap.roi.castMax q
  hulls : List.Forall₂ (BoxOf snap cloud) clusters boxes
  clusterMarkers : BoxMarkers header (lit "clusters") 0.2 0.6 1.0 0.4 boxes p.clusterMarkers
  detections : p.detections = ⟨header, (boxes.filter fun box =>
    isPassengerVehicle (computeBoxDimensions box) snap.vehicleLimits).mapIdx fun i box =>
      makeDetection header (i + 1) box⟩
  vehicleMarkers : BoxMarkers header (lit "vehicles") 0.1 1.0 0.1 0.7 (boxes.filter fun box =>
    isPassengerVehicle (computeBoxDimensions box) snap.vehicleLimits) p.vehicleMarkers

theorem mapIdx_map {A B C : Type} (f : Nat → B → C) (g : A → B) (l : List A) :
    (l.map g).mapIdx f = l.mapIdx fun i a => f i (g a) := by
  refine List.ext_getElem? fun i => ?_
  rw [List.getElem?_mapIdx, List.getElem?_map, List.getElem?_mapIdx, Option.map_map]
  rfl

theorem publishFrame_framed {header : Header} (hframe : header.frameId = snap.targetFrameId)
    {cloud : PointCloudXYZ} (hinside : ∀ q ∈ cloud, Inside snap.roi.castMin snap.roi.castMax q) :
    Framed out snap header cloud (extractClusters out.pcl.components (some cloud) snap.clustering)
      ((extractClusters out.pcl.components (some cloud) snap.clustering).map (computeAabb64 cloud))
      (publishFrame out snap header cloud) := by
  have hvehicles : ∀ clusters, (clusters.map (computeAabb64 cloud)).filter (fun box =>
      isPassengerVehicle (computeBoxDimensions box) snap.vehicleLimits)
      = (vehicles Double.widen Double.infinity cloud clusters snap.vehicleLimits).map (computeAabb64 cloud) :=
    fun clusters => List.filter_map
  refine ⟨hframe, rfl, hinside, ?_, ?_, ?_, ?_⟩
  · rw [List.forall₂_map_right_iff, List.forall₂_same]
    intro c hc
    have hsizes : (castInt snap.clustering.minSize).toInt ≤ c.indices.length ∧
        c.indices.length ≤ (castInt snap.clustering.maxSize).toInt := by
      change c ∈ (if cloud.isEmpty then [] else _) at hc
      split at hc
      · cases hc
      · obtain ⟨-, hsizes⟩ := List.mem_filter.mp hc
        rw [Bool.and_eq_true, decide_eq_true_iff, decide_eq_true_iff] at hsizes
        exact hsizes
    exact ⟨rfl, hsizes.1, hsizes.2, computeAabb64_within hinside c⟩
  · show publishClusterMarkers Double.widen Double.infinity header cloud _ = _
    rw [publishClusterMarkers_eq, mapIdx_map]
    rfl
  · show (detectVehicles Double.widen Double.infinity header cloud _ snap.vehicleLimits).array = _
    rw [detectVehicles_eq, hvehicles, mapIdx_map]
    rfl
  · show (detectVehicles Double.widen Double.infinity header cloud _ snap.vehicleLimits).vehicleMarkers = _
    rw [detectVehicles_eq, hvehicles, mapIdx_map]
    rfl

/-- **A frame.** -/
theorem onCloud_framed (hp : out.pcl.Documented) (msg : CloudMessage D) (p : Publications D)
    (h : onCloud out snap msg = some p) : ∃ m, transformed out snap msg = some m ∧
    ∃ clusters boxes, Framed out snap (inTargetFrame snap m).header (forClustering out snap (inTargetFrame snap m))
      clusters boxes p := by
  obtain ⟨m, hm, rfl⟩ := Option.map_eq_some_iff.mp h
  exact ⟨m, hm, _, _, publishFrame_framed out snap rfl (forClustering_inside out snap hp _)⟩

end VehicleDetectorNode

end VD
