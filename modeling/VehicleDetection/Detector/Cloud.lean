import VehicleDetection.Detector.Boxes

/-!
# `on_cloud` of `vehicle_detector_node.cpp`

What `on_cloud` publishes for the clusters of one cloud.  One loop numbers the clusters that pass the size
check and fills the detections and the markers.

* `detectVehicle`, `detectVehicles`   one round of the loop, and the loop;
* `publishClusterMarkers`             the markers of all clusters;
* `detectVehicles_eq`                 the loop on the list of the clusters that pass;
* `detectVehicles_reported`           what arrives in the JSON payload and in the markers.

The counter `detection_id` is an `int` that stays below the number of clusters; it is an integer here.
-/

set_option linter.unusedVariables false
set_option linter.unusedSectionVars false

namespace VD
open BStr

inductive MarkerType where
  | arrow
  | cube
deriving DecidableEq

inductive MarkerAction where
  | add
  | deleteAll
deriving DecidableEq

structure ColorRGBA (S : Type) where
  r : S
  g : S
  b : S
  a : S
deriving DecidableEq

structure Marker (S R : Type) where
  header : Header
  ns : Bytes
  id : Int
  type : MarkerType
  action : MarkerAction
  pose : Pose R
  scale : Vector3 R
  color : ColorRGBA S
  lifetime : Int
deriving DecidableEq

namespace VehicleDetectorNode
section
variable {S R : Type} [OfScientific S] [OfScientific R]

def kMvpDetectionConfidence : R := 0.8

def kMvpDetectionClass : Bytes := lit "car"

/-- the orientation that a pose has from the start -/
def noRotation : Quaternion R := ⟨0.0, 0.0, 0.0, 1.0⟩

/-- the marker that removes those of the frame before -/
def deleteAll (header : Header) (ns : Bytes) : Marker S R where
  header := header
  ns := ns
  id := 0
  type := .arrow
  action := .deleteAll
  pose := ⟨⟨0.0, 0.0, 0.0⟩, noRotation⟩
  scale := ⟨0.0, 0.0, 0.0⟩
  color := ⟨0.0, 0.0, 0.0, 0.0⟩
  lifetime := 0

variable [Sub R] [Add R] [Mul R] [LT R] [DecidableLT R] [LE R] [DecidableLE R] [Neg R]

def boxCentre (box : AxisAlignedBox R) : Vector3 R := ⟨box.cx, box.cy, box.cz⟩

def makeBoxMarker (header : Header) (ns : Bytes) (id : Int) (box : AxisAlignedBox R) (r g b a : S) :
    Marker S R where
  header := header
  ns := ns
  id := id
  type := .cube
  action := .add
  pose := ⟨boxCentre box, noRotation⟩
  scale := ⟨stdMax box.dx 0.05, stdMax box.dy 0.05, stdMax box.dz 0.05⟩
  color := ⟨r, g, b, a⟩
  lifetime := 0

/-- the detection that `on_cloud` makes of a box -/
def makeDetection (header : Header) (id : Int) (box : AxisAlignedBox R) : Detection3D R where
  header := header
  results := [⟨kMvpDetectionClass, kMvpDetectionConfidence, ⟨boxCentre box, noRotation⟩⟩]
  bbox := ⟨⟨boxCentre box, noRotation⟩, ⟨box.dx, box.dy, box.dz⟩⟩
  id := decimalInt id

/-- what the loop has filled so far -/
structure Detected (S R : Type) where
  detectionId : Int
  array : Detection3DArray R
  vehicleMarkers : List (Marker S R)
deriving DecidableEq

variable (widen : S → R) (infinity : R) (header : Header) (cloud : List (PointXYZ S))

def vehicleMarker (id : Int) (box : AxisAlignedBox R) : Marker S R :=
  makeBoxMarker header (lit "vehicles") id box 0.1 1.0 0.1 0.7

def detectVehicle (limits : VehicleSizeLimits R) (d : Detected S R) (cluster : PointIndices) :
    Detected S R :=
  let box := computeAabb widen infinity cloud cluster
  let dim := computeBoxDimensions box
  if !isPassengerVehicle dim limits then d
  else
    let detectionId := d.detectionId + 1
    { detectionId := detectionId
      array := { d.array with
        detections := d.array.detections ++ [makeDetection header detectionId box] }
      vehicleMarkers := d.vehicleMarkers ++ [vehicleMarker header detectionId box] }

def detectVehicles (clusters : List PointIndices) (limits : VehicleSizeLimits R) : Detected S R :=
  clusters.foldl (detectVehicle widen infinity header cloud limits)
    ⟨0, ⟨header, []⟩, [deleteAll header (lit "vehicles")]⟩

/-- one round of the loop of `publish_cluster_markers` -/
def clusterMarker (m : Int × List (Marker S R)) (cluster : PointIndices) : Int × List (Marker S R) :=
  let id := m.1 + 1
  let box := computeAabb widen infinity cloud cluster
  (id, m.2 ++ [makeBoxMarker header (lit "clusters") id box 0.2 0.6 1.0 0.4])

def publishClusterMarkers (clusters : List PointIndices) : List (Marker S R) :=
  (clusters.foldl (clusterMarker widen infinity header cloud)
    (0, [deleteAll header (lit "clusters")])).2

/-! ## the loops -/

/-- the clusters that pass the size check -/
def vehicles (clusters : List PointIndices) (limits : VehicleSizeLimits R) : List PointIndices :=
  clusters.filter fun c =>
    isPassengerVehicle (computeBoxDimensions (computeAabb widen infinity cloud c)) limits

/-- The loop numbers the clusters that pass, and only these. -/
theorem detectVehicles_eq (clusters : List PointIndices) (limits : VehicleSizeLimits R) :
    detectVehicles widen infinity header cloud clusters limits
      = ⟨(vehicles widen infinity cloud clusters limits).length,
         ⟨header, (vehicles widen infinity cloud clusters limits).mapIdx fun i c =>
            makeDetection header (i + 1) (computeAabb widen infinity cloud c)⟩,
         deleteAll header (lit "vehicles") ::
           (vehicles widen infinity cloud clusters limits).mapIdx fun i c =>
            vehicleMarker header (i + 1) (computeAabb widen infinity cloud c)⟩ := by
  induction clusters using List.reverseRecOn with
  | nil => rfl
  | append_singleton clusters c ih =>
    rw [detectVehicles] at ih ⊢
    rw [List.foldl_concat, ih, detectVehicle, vehicles, vehicles, List.filter_append]
    cases hc : isPassengerVehicle (computeBoxDimensions (computeAabb widen infinity cloud c)) limits with
    | false => simp [hc]
    | true => simp [hc, List.mapIdx_append]

theorem publishClusterMarkers_eq (clusters : List PointIndices) :
    publishClusterMarkers widen infinity header cloud clusters
      = deleteAll header (lit "clusters") :: clusters.mapIdx fun i c =>
          makeBoxMarker header (lit "clusters") (i + 1) (computeAabb widen infinity cloud c)
            0.2 0.6 1.0 0.4 := by
  have h : clusters.foldl (clusterMarker widen infinity header cloud)
      (0, [deleteAll header (lit "clusters")])
      = ((clusters.length : Int), deleteAll header (lit "clusters") :: clusters.mapIdx fun i c =>
          makeBoxMarker header (lit "clusters") (i + 1) (computeAabb widen infinity cloud c)
            0.2 0.6 1.0 0.4) := by
    induction clusters using List.reverseRecOn with
    | nil => rfl
    | append_singleton clusters c ih =>
      rw [List.foldl_concat, ih, clusterMarker]
      simp [List.mapIdx_append]
  rw [publishClusterMarkers, h]

end

/-! ## exact arithmetic -/

/-- `v` is the centre of the box -/
def IsCentre (v : Vector3 EReal) (box : AxisAlignedBox ℝ) : Prop :=
  v.x = ((box.minX + box.maxX) / 2 : ℝ) ∧ v.y = ((box.minY + box.maxY) / 2 : ℝ) ∧
    v.z = ((box.minZ + box.maxZ) / 2 : ℝ)

/-- the item carries the number, the centre and the dimensions of the box, and these lie in the limits -/
structure ItemOf (limits : VehicleSizeLimits EReal) (box : AxisAlignedBox ℝ) (n : Nat)
    (item : DetectionJsonItem EReal) : Prop where
  id : item.id = decimal n
  centre : IsCentre ⟨item.centerX, item.centerY, item.centerZ⟩ box
  dimensions : ⟨item.length, item.width, item.height⟩ = box.dimensions
  ordered : item.width ≤ item.length
  accepted : isPassengerVehicle ⟨item.length, item.width, item.height⟩ limits = true
  within : Within limits ⟨item.length, item.width, item.height⟩

/-- the marker carries the number and the centre of the box -/
structure MarkerOf (header : Header) (box : AxisAlignedBox ℝ) (n : Nat) (m : Marker ℝ EReal) : Prop where
  header : m.header = header
  ns : m.ns = lit "vehicles"
  action : m.action = .add
  id : m.id = n
  centre : IsCentre m.pose.position box

theorem boxCentre_toEReal (box : AxisAlignedBox ℝ) : IsCentre (boxCentre box.toEReal) box := by
  have half (a b : ℝ) : ((0.5 * (a + b) : ℝ) : EReal) = ((a + b) / 2 : ℝ) :=
    congrArg Real.toEReal (by ring)
  exact ⟨half _ _, half _ _, half _ _⟩

theorem decimalInt_natCast (n : Nat) : decimalInt n = decimal n := by
  simp [decimalInt]

theorem dimensions_ordered (box : AxisAlignedBox ℝ) : box.dimensions.width ≤ box.dimensions.length :=
  EReal.coe_le_coe_iff.mpr min_le_max

/-- what `to_json_payload` makes of the detection of a real box -/
theorem toJsonItem_makeDetection (header : Header) (n : Nat) {box : AxisAlignedBox ℝ}
    {limits : VehicleSizeLimits EReal} (h : Within limits box.dimensions) :
    ItemOf limits box n (toJsonItem (makeDetection header n box.toEReal)) := by
  have hdim : (⟨(toJsonItem (makeDetection header n box.toEReal)).length,
      (toJsonItem (makeDetection header n box.toEReal)).width,
      (toJsonItem (makeDetection header n box.toEReal)).height⟩ : VehicleBoxDimensions EReal)
        = box.dimensions := computeBoxDimensions_toEReal box
  refine ⟨decimalInt_natCast n, boxCentre_toEReal box, hdim, ?_, ?_, ?_⟩
  · have := dimensions_ordered box
    rwa [← hdim] at this
  · rw [hdim]
    exact (isPassengerVehicle_iff _ _).mpr h
  · rw [hdim]
    exact h

theorem markerOf_vehicleMarker (header : Header) (n : Nat) (box : AxisAlignedBox ℝ) :
    MarkerOf header box n (vehicleMarker header n box.toEReal) :=
  ⟨rfl, rfl, rfl, rfl, boxCentre_toEReal box⟩

/-- a list numbered from `n` and its image, element by element -/
theorem forall₂_mapIdx {α β : Type} {P : α × Nat → β → Prop} {f : Nat → α → β} (l : List α) (n : Nat)
    (h : ∀ a ∈ l, ∀ i, P (a, n + i) (f i a)) : List.Forall₂ P (l.zipIdx n) (l.mapIdx f) := by
  induction l generalizing n f with
  | nil => exact .nil
  | cons a l ih =>
    rw [List.zipIdx_cons, List.mapIdx_cons]
    refine .cons (h a List.mem_cons_self 0) (ih (n + 1) fun b hb i => ?_)
    rw [Nat.add_assoc, Nat.add_comm 1 i]
    exact h b (List.mem_cons_of_mem _ hb) (i + 1)

open Classical in
/-- the clusters whose boxes have their dimensions in the limits -/
noncomputable def fitting (clusters : List PointIndices) (limits : VehicleSizeLimits EReal)
    (box : PointIndices → AxisAlignedBox ℝ) : List PointIndices :=
  clusters.filter fun c => Within limits (box c).dimensions

/-- Every cluster that fits has its item and its marker, in order and with the numbers from 1 on; there is
nothing else than the marker in front. -/
structure Reported (header : Header) (clusters : List PointIndices) (limits : VehicleSizeLimits EReal)
    (box : PointIndices → AxisAlignedBox ℝ) (d : Detected ℝ EReal) : Prop where
  items : List.Forall₂ (fun kept item => ItemOf limits (box kept.1) kept.2 item)
    ((fitting clusters limits box).zipIdx 1) (toJsonPayload d.array).detections
  markers : ∃ boxes, d.vehicleMarkers = deleteAll header (lit "vehicles") :: boxes ∧
    List.Forall₂ (fun kept m => MarkerOf header (box kept.1) kept.2 m)
      ((fitting clusters limits box).zipIdx 1) boxes

open Classical in
/-- where the boxes are the ones the loop computes, it keeps the clusters that fit -/
theorem vehicles_eq_fitting {cloud : List (PointXYZ ℝ)} {clusters : List PointIndices}
    {box : PointIndices → AxisAlignedBox ℝ} (limits : VehicleSizeLimits EReal)
    (h : ∀ c ∈ clusters, computeAabb Real.toEReal ⊤ cloud c = (box c).toEReal) :
    vehicles Real.toEReal ⊤ cloud clusters limits = fitting clusters limits box := by
  refine List.filter_congr fun c hc => ?_
  rw [h c hc, computeBoxDimensions_toEReal, Bool.eq_iff_iff, isPassengerVehicle_iff, decide_eq_true_iff]

open Classical in
theorem mem_fitting {clusters : List PointIndices} {limits : VehicleSizeLimits EReal}
    {box : PointIndices → AxisAlignedBox ℝ} {c : PointIndices} (h : c ∈ fitting clusters limits box) :
    c ∈ clusters ∧ Within limits (box c).dimensions :=
  ⟨List.mem_of_mem_filter h, of_decide_eq_true (List.mem_filter.mp h).2⟩

theorem pointsAt_ne_nil {S : Type} {cloud : List (PointXYZ S)} {indices : PointIndices} {idx : Int32}
    (h : idx ∈ indices.indices) (hneg : 0 ≤ idx.toInt) (hlen : idx.toInt < cloud.length) :
    pointsAt cloud indices ≠ [] := by
  have hlt : idx.toInt.toNat < cloud.length := by omega
  refine List.ne_nil_of_mem (a := cloud[idx.toInt.toNat]) (List.mem_filterMap.mpr ⟨idx, h, ?_⟩)
  rw [pointAt, if_neg (not_lt.mpr hneg), List.getElem?_eq_getElem hlt]

/-- For clusters with a valid index each, the detections are the clusters whose tight boxes fit, and the items
and the markers made of them agree with these boxes. -/
theorem detectVehicles_reported (header : Header) (cloud : List (PointXYZ ℝ))
    (clusters : List PointIndices) (limits : VehicleSizeLimits EReal)
    (h : ∀ c ∈ clusters, ∃ idx ∈ c.indices, 0 ≤ idx.toInt ∧ idx.toInt < cloud.length) :
    ∃ box : PointIndices → AxisAlignedBox ℝ,
      (∀ c ∈ clusters, Tight (pointsAt cloud c) (box c) ∧
        computeBoxDimensions (computeAabb Real.toEReal ⊤ cloud c) = (box c).dimensions) ∧
      Reported header clusters limits box
        (detectVehicles Real.toEReal ⊤ header cloud clusters limits) := by
  have hbox : ∀ c, ∃ b, c ∈ clusters → Tight (pointsAt cloud c) b ∧
      computeAabb Real.toEReal ⊤ cloud c = b.toEReal := by
    intro c
    by_cases hc : c ∈ clusters
    · obtain ⟨idx, hidx, hneg, hlen⟩ := h c hc
      obtain ⟨b, hb⟩ := computeAabb_tight cloud c (pointsAt_ne_nil hidx hneg hlen)
      exact ⟨b, fun _ => hb⟩
    · exact ⟨⟨0, 0, 0, 0, 0, 0⟩, fun hc' => absurd hc' hc⟩
  choose box hbox using hbox
  have hcomputed : ∀ c ∈ clusters, computeAabb Real.toEReal ⊤ cloud c = (box c).toEReal :=
    fun c hc => (hbox c hc).2
  refine ⟨box, fun c hc => ⟨(hbox c hc).1, ?_⟩, ?_, ?_⟩
  · rw [hcomputed c hc, computeBoxDimensions_toEReal]
  · rw [detectVehicles_eq, vehicles_eq_fitting limits hcomputed, toJsonPayload,
      List.forall₂_map_right_iff]
    refine forall₂_mapIdx _ 1 fun c hc i => ?_
    obtain ⟨hc, hw⟩ := mem_fitting hc
    rw [hcomputed c hc, Nat.add_comm]
    exact toJsonItem_makeDetection header (i + 1) hw
  · rw [detectVehicles_eq, vehicles_eq_fitting limits hcomputed]
    refine ⟨_, rfl, forall₂_mapIdx _ 1 fun c hc i => ?_⟩
    rw [hcomputed c (mem_fitting hc).1, Nat.add_comm]
    exact markerOf_vehicleMarker header (i + 1) (box c)

/-- two clusters, one of them with an index outside the cloud and its points the other way round -/
theorem detectVehicles_reported_two :
    ∃ box : PointIndices → AxisAlignedBox ℝ,
      (∀ c ∈ [⟨[0, 1]⟩, ⟨[2, 1, -1, 7]⟩],
        Tight (pointsAt [⟨0, 0, 0⟩, ⟨4, 2, 1.5⟩, ⟨5, 6, 0⟩] c) (box c) ∧
        computeBoxDimensions (computeAabb Real.toEReal ⊤ [⟨0, 0, 0⟩, ⟨4, 2, 1.5⟩, ⟨5, 6, 0⟩] c) =
          (box c).dimensions) ∧
      Reported ⟨0, 0, lit "map"⟩ [⟨[0, 1]⟩, ⟨[2, 1, -1, 7]⟩] ⟨2, 6, 1, 3, 1, 3⟩ box
        (detectVehicles Real.toEReal ⊤ ⟨0, 0, lit "map"⟩ [⟨0, 0, 0⟩, ⟨4, 2, 1.5⟩, ⟨5, 6, 0⟩]
          [⟨[0, 1]⟩, ⟨[2, 1, -1, 7]⟩] ⟨2, 6, 1, 3, 1, 3⟩) := by
  refine detectVehicles_reported _ _ _ _ fun c hc => ⟨1, ?_, by decide, by decide⟩
  rcases List.mem_pair.mp hc with rfl | rfl
  · decide
  · decide

end VehicleDetectorNode
end VD
