import VehicleDetection.Base.Extrema
import VehicleDetection.Detection.Message
import VehicleDetection.Detector.Node

/-!
# Boxes around clusters

`compute_aabb`, `compute_box_dimensions` and `is_passenger_vehicle` of `point_cloud_processing.cpp`, over a
type `S` for `float` and a type `R` for `double`.

* `computeAabb_eq`      the loop keeps six extrema of the points at the valid indices;
* `Tight`               the box of exact arithmetic: it touches the points on each side;
* `computeAabb_tight`   on real coordinates the loop computes it;
* `isPassengerVehicle_iff`  the check, on a real box.
-/

set_option linter.unusedVariables false
set_option linter.unusedSectionVars false

namespace VD
open BStr

structure PointXYZ (S : Type) where
  x : S
  y : S
  z : S
deriving DecidableEq

/-- `pcl::PointIndices` as far as it is read -/
structure PointIndices where
  indices : List Int32
deriving DecidableEq

structure AxisAlignedBox (R : Type) where
  minX : R
  minY : R
  minZ : R
  maxX : R
  maxY : R
  maxZ : R
deriving DecidableEq

namespace AxisAlignedBox
variable {R : Type} [Sub R] [Add R] [Mul R] [OfScientific R] (b : AxisAlignedBox R)

def dx : R := b.maxX - b.minX
def dy : R := b.maxY - b.minY
def dz : R := b.maxZ - b.minZ
def cx : R := 0.5 * (b.minX + b.maxX)
def cy : R := 0.5 * (b.minY + b.maxY)
def cz : R := 0.5 * (b.minZ + b.maxZ)

end AxisAlignedBox

structure VehicleBoxDimensions (R : Type) where
  length : R
  width : R
  height : R
deriving DecidableEq

section
variable {R : Type} [LT R] [DecidableLT R]

def computeBoxDimensions [Sub R] (box : AxisAlignedBox R) : VehicleBoxDimensions R where
  length := stdMax box.dx box.dy
  width := stdMin box.dx box.dy
  height := box.dz

def isPassengerVehicle [LE R] [DecidableLE R] (dim : VehicleBoxDimensions R)
    (limits : VehicleSizeLimits R) : Bool :=
  dim.length ≥ limits.minLength && dim.length ≤ limits.maxLength &&
    dim.width ≥ limits.minWidth && dim.width ≤ limits.maxWidth &&
    dim.height ≥ limits.minHeight && dim.height ≤ limits.maxHeight

/-! ## the loop of `compute_aabb` -/

variable {S : Type}

/-- the point of the cloud that one round of the loop reads -/
def pointAt (cloud : List (PointXYZ S)) (idx : Int32) : Option (PointXYZ S) :=
  if idx.toInt < 0 then none else cloud[idx.toInt.toNat]?

/-- what the loop does with a point; `widen` is `static_cast<double>` -/
def AxisAlignedBox.extend (widen : S → R) (box : AxisAlignedBox R) (p : PointXYZ S) : AxisAlignedBox R where
  minX := stdMin box.minX (widen p.x)
  minY := stdMin box.minY (widen p.y)
  minZ := stdMin box.minZ (widen p.z)
  maxX := stdMax box.maxX (widen p.x)
  maxY := stdMax box.maxY (widen p.y)
  maxZ := stdMax box.maxZ (widen p.z)

variable [Neg R] (widen : S → R) (infinity : R)

def computeAabb (cloud : List (PointXYZ S)) (indices : PointIndices) : AxisAlignedBox R :=
  indices.indices.foldl
    (fun box idx =>
      match pointAt cloud idx with
      | none => box
      | some p => box.extend widen p)
    ⟨infinity, infinity, infinity, -infinity, -infinity, -infinity⟩

/-- the points at the valid indices, in the order of the loop -/
def pointsAt (cloud : List (PointXYZ S)) (indices : PointIndices) : List (PointXYZ S) :=
  indices.indices.filterMap (pointAt cloud)

theorem foldl_pointAt (cloud : List (PointXYZ S)) (indices : List Int32) (box : AxisAlignedBox R) :
    indices.foldl (fun box idx =>
        match pointAt cloud idx with
        | none => box
        | some p => box.extend widen p) box
      = (indices.filterMap (pointAt cloud)).foldl (AxisAlignedBox.extend widen) box := by
  induction indices generalizing box with
  | nil => rfl
  | cons idx indices ih =>
    rw [List.foldl_cons, List.filterMap_cons, ih]
    cases pointAt cloud idx with
    | none => rfl
    | some p => rfl

theorem foldl_extend (points : List (PointXYZ S)) (box : AxisAlignedBox R) :
    points.foldl (AxisAlignedBox.extend widen) box
      = ⟨Extrema.least box.minX (points.map (widen ·.x)),
         Extrema.least box.minY (points.map (widen ·.y)),
         Extrema.least box.minZ (points.map (widen ·.z)),
         Extrema.greatest box.maxX (points.map (widen ·.x)),
         Extrema.greatest box.maxY (points.map (widen ·.y)),
         Extrema.greatest box.maxZ (points.map (widen ·.z))⟩ := by
  induction points generalizing box with
  | nil => rfl
  | cons p points ih =>
    rw [List.foldl_cons, ih]
    rfl

/-- The loop keeps, on each axis, the least and the greatest of its start and of the points it reads. -/
theorem computeAabb_eq (cloud : List (PointXYZ S)) (indices : PointIndices) :
    computeAabb widen infinity cloud indices
      = ⟨Extrema.least infinity ((pointsAt cloud indices).map (widen ·.x)),
         Extrema.least infinity ((pointsAt cloud indices).map (widen ·.y)),
         Extrema.least infinity ((pointsAt cloud indices).map (widen ·.z)),
         Extrema.greatest (-infinity) ((pointsAt cloud indices).map (widen ·.x)),
         Extrema.greatest (-infinity) ((pointsAt cloud indices).map (widen ·.y)),
         Extrema.greatest (-infinity) ((pointsAt cloud indices).map (widen ·.z))⟩ := by
  rw [computeAabb, foldl_pointAt, foldl_extend]
  rfl

end

/-! ## exact arithmetic -/

noncomputable instance literalEReal : OfScientific EReal where
  ofScientific m s e := ((OfScientific.ofScientific m s e : ℝ) : EReal)

/-- the six sides are exact coordinates of points, and all points lie between them -/
structure Tight (points : List (PointXYZ ℝ)) (b : AxisAlignedBox ℝ) : Prop where
  minX : IsLeast {a | a ∈ points.map (·.x)} b.minX
  minY : IsLeast {a | a ∈ points.map (·.y)} b.minY
  minZ : IsLeast {a | a ∈ points.map (·.z)} b.minZ
  maxX : IsGreatest {a | a ∈ points.map (·.x)} b.maxX
  maxY : IsGreatest {a | a ∈ points.map (·.y)} b.maxY
  maxZ : IsGreatest {a | a ∈ points.map (·.z)} b.maxZ

/-- exact coordinates among the values of a `double` -/
noncomputable def AxisAlignedBox.toEReal (b : AxisAlignedBox ℝ) : AxisAlignedBox EReal :=
  ⟨b.minX, b.minY, b.minZ, b.maxX, b.maxY, b.maxZ⟩

section
variable (b : AxisAlignedBox ℝ)

@[simp] theorem toEReal_dx : b.toEReal.dx = (b.dx : ℝ) := rfl
@[simp] theorem toEReal_dy : b.toEReal.dy = (b.dy : ℝ) := rfl
@[simp] theorem toEReal_dz : b.toEReal.dz = (b.dz : ℝ) := rfl
@[simp] theorem toEReal_cx : b.toEReal.cx = (b.cx : ℝ) := rfl
@[simp] theorem toEReal_cy : b.toEReal.cy = (b.cy : ℝ) := rfl
@[simp] theorem toEReal_cz : b.toEReal.cz = (b.cz : ℝ) := rfl

end

theorem least_axis (f : PointXYZ ℝ → ℝ) {points : List (PointXYZ ℝ)} (h : points ≠ []) :
    ∃ r : ℝ, Extrema.least (⊤ : EReal) (points.map (fun p => (f p : EReal))) = r ∧
      IsLeast {a | a ∈ points.map f} r := by
  have hne : points.map f ≠ [] := by simpa using h
  obtain ⟨r, hr, hl⟩ := Extrema.least_of_le EReal.coe_strictMono (fun a => le_top) hne
  exact ⟨r, by rw [← hr, List.map_map]; rfl, hl⟩

theorem greatest_axis (f : PointXYZ ℝ → ℝ) {points : List (PointXYZ ℝ)} (h : points ≠ []) :
    ∃ r : ℝ, Extrema.greatest (-⊤ : EReal) (points.map (fun p => (f p : EReal))) = r ∧
      IsGreatest {a | a ∈ points.map f} r := by
  have hne : points.map f ≠ [] := by simpa using h
  obtain ⟨r, hr, hg⟩ := Extrema.greatest_of_ge EReal.coe_strictMono (m := -⊤) (fun a => bot_le) hne
  exact ⟨r, by rw [← hr, List.map_map]; rfl, hg⟩

/-- On finite coordinates the loop computes the tight box of the points at the valid indices. -/
theorem computeAabb_tight (cloud : List (PointXYZ ℝ)) (indices : PointIndices)
    (h : pointsAt cloud indices ≠ []) :
    ∃ b, Tight (pointsAt cloud indices) b ∧
      computeAabb Real.toEReal ⊤ cloud indices = b.toEReal := by
  obtain ⟨x, hx, hminX⟩ := least_axis (·.x) h
  obtain ⟨y, hy, hminY⟩ := least_axis (·.y) h
  obtain ⟨z, hz, hminZ⟩ := least_axis (·.z) h
  obtain ⟨x', hx', hmaxX⟩ := greatest_axis (·.x) h
  obtain ⟨y', hy', hmaxY⟩ := greatest_axis (·.y) h
  obtain ⟨z', hz', hmaxZ⟩ := greatest_axis (·.z) h
  refine ⟨⟨x, y, z, x', y', z'⟩, ⟨hminX, hminY, hminZ, hmaxX, hmaxY, hmaxZ⟩, ?_⟩
  rw [computeAabb_eq, hx, hy, hz, hx', hy', hz']
  rfl

/-- the larger side first -/
noncomputable def AxisAlignedBox.dimensions (b : AxisAlignedBox ℝ) : VehicleBoxDimensions EReal :=
  ⟨(max b.dx b.dy : ℝ), (min b.dx b.dy : ℝ), b.dz⟩

/-- the three dimensions lie in the limits -/
def Within (limits : VehicleSizeLimits EReal) (dim : VehicleBoxDimensions EReal) : Prop :=
  dim.length ∈ Set.Icc limits.minLength limits.maxLength ∧
    dim.width ∈ Set.Icc limits.minWidth limits.maxWidth ∧
      dim.height ∈ Set.Icc limits.minHeight limits.maxHeight

theorem computeBoxDimensions_toEReal (b : AxisAlignedBox ℝ) :
    computeBoxDimensions b.toEReal = b.dimensions := by
  rw [computeBoxDimensions, AxisAlignedBox.dimensions, stdMax_eq, stdMin_eq, toEReal_dx, toEReal_dy,
    toEReal_dz, EReal.coe_strictMono.monotone.map_max, EReal.coe_strictMono.monotone.map_min]

theorem isPassengerVehicle_iff (dim : VehicleBoxDimensions EReal) (limits : VehicleSizeLimits EReal) :
    isPassengerVehicle dim limits = true ↔ Within limits dim := by
  simp only [isPassengerVehicle, Within, Bool.and_eq_true, decide_eq_true_eq, ge_iff_le, Set.mem_Icc,
    and_assoc]

end VD
