/-
# The data of the plugin

The areaDetector array that the plugin receives, the Arrow containers that it builds, and
the calls into the two libraries that it relies on.

Pixel values are kept as bit patterns, so that a buffer can be read as elements of any
type; the C++ type of a value decides only which patterns compare equal to zero.
-/
import Mathlib

namespace ADPluginArrow

/-! ### C++ scalars -/

/-- The scalar types that occur as template arguments or as array elements. -/
inductive CType where
  | int8_t | uint8_t | int16_t | uint16_t | int32_t | uint32_t | int64_t | uint64_t
  | float | double
deriving DecidableEq, Repr

namespace CType

/-- The size of the type in bytes. -/
def size : CType → ℕ
  | int8_t | uint8_t => 1
  | int16_t | uint16_t => 2
  | int32_t | uint32_t | float => 4
  | int64_t | uint64_t | double => 8

/-- The size of the type in bits. -/
def width (t : CType) : ℕ := 8 * t.size

/-- Whether zero has a sign. -/
def isFloating : CType → Bool
  | float | double => true
  | _ => false

lemma size_pos (t : CType) : 0 < t.size := by
  cases t <;> simp [size]

end CType

/-- A value of a scalar type, as its bit pattern. -/
@[ext] structure Value (t : CType) where
  bits : BitVec t.width
deriving DecidableEq, Repr

/-- What the conversion needs of a pixel type: a value-initialised element and the
comparison with zero. -/
class CScalar (P : Type) where
  zero : P
  isZero : P → Bool
  isZero_zero : isZero zero = true

/-- `value == 0`: the sign of a floating-point zero does not count. -/
def Value.isZero {t : CType} (v : Value t) : Bool :=
  if t.isFloating then v.bits.toNat % 2 ^ (t.width - 1) == 0 else v.bits == 0

instance (t : CType) : CScalar (Value t) where
  zero := ⟨0⟩
  isZero := Value.isZero
  isZero_zero := by
    unfold Value.isZero
    split <;> simp

/-! ### areaDetector arrays -/

/-- `NDDataType_t`.  An out-of-range value of the enumeration is `other`. -/
inductive NDDataType where
  | NDInt8 | NDUInt8 | NDInt16 | NDUInt16 | NDInt32 | NDUInt32 | NDInt64 | NDUInt64
  | NDFloat32 | NDFloat64
  | other (value : ℤ)
deriving DecidableEq, Repr

/-- The type of the elements of an array. -/
def NDDataType.ctype : NDDataType → Option CType
  | NDInt8 => some .int8_t
  | NDUInt8 => some .uint8_t
  | NDInt16 => some .int16_t
  | NDUInt16 => some .uint16_t
  | NDInt32 => some .int32_t
  | NDUInt32 => some .uint32_t
  | NDInt64 => some .int64_t
  | NDUInt64 => some .uint64_t
  | NDFloat32 => some .float
  | NDFloat64 => some .double
  | other _ => none

/-- `NDColorMode_t`.  The modes that the plugin does not name are `other`. -/
inductive NDColorMode where
  | NDColorModeMono
  | NDColorModeRGB1
  | other (value : ℤ)
deriving DecidableEq, Repr

/-- `epicsTimeStamp`. -/
structure EpicsTimeStamp where
  secPastEpoch : BitVec 32
  nsec : BitVec 32
deriving DecidableEq, Repr

/-- The part of an `NDArray` that the plugin reads.  The dimensions and the colour mode
attribute are only read by `getInfo`. -/
structure NDArray where
  uniqueId : BitVec 32
  timeStamp : BitVec 64
  epicsTS : EpicsTimeStamp
  dims : List (BitVec 64)
  colorModeAttribute : Option NDColorMode
  dataType : NDDataType
  pData : List (BitVec 8)
deriving DecidableEq, Repr

/-- The part of an `NDArrayInfo` that the plugin reads, and the number of elements. -/
structure NDArrayInfo where
  nElements : BitVec 64
  colorMode : NDColorMode
  xSize : BitVec 64
  ySize : BitVec 64
deriving DecidableEq, Repr

/-- A byte string as a number, the first byte lowest. -/
def littleEndian (bytes : List (BitVec 8)) : ℕ :=
  bytes.foldr (fun b acc => b.toNat + 256 * acc) 0

/-- `static_cast<PT*>(pData)`: the buffer as elements of a type.  Only the elements that
lie inside the buffer are present. -/
def elementsAs (t : CType) (bytes : List (BitVec 8)) : List (Value t) :=
  (List.range (bytes.length / t.size)).map fun k =>
    ⟨BitVec.ofNat t.width (littleEndian ((bytes.drop (k * t.size)).take t.size))⟩

@[simp] lemma length_elementsAs (t : CType) (bytes : List (BitVec 8)) :
    (elementsAs t bytes).length = bytes.length / t.size := by
  simp [elementsAs]

/-! ### Arrow containers -/

/-- `arrow::Type::type`, as far as the plugin uses it. -/
inductive ArrowType where
  | INT8 | UINT8 | INT16 | UINT16 | INT32 | UINT32 | INT64 | UINT64 | FLOAT | DOUBLE
deriving DecidableEq, Repr

/-- The C type of the elements of an Arrow array. -/
def ArrowType.ctype : ArrowType → CType
  | INT8 => .int8_t
  | UINT8 => .uint8_t
  | INT16 => .int16_t
  | UINT16 => .uint16_t
  | INT32 => .int32_t
  | UINT32 => .uint32_t
  | INT64 => .int64_t
  | UINT64 => .uint64_t
  | FLOAT => .float
  | DOUBLE => .double

/-- An `arrow::Array`. -/
structure Column where
  type : ArrowType
  values : List (BitVec type.ctype.width)
deriving DecidableEq, Repr

namespace Column

/-- The bit patterns of a column. -/
def cells (c : Column) : List ℕ := c.values.map BitVec.toNat

/-- The length of a column. -/
def length (c : Column) : ℕ := c.values.length

@[simp] lemma length_cells (c : Column) : c.cells.length = c.length := by
  simp [cells, length]

end Column

/-- An `arrow::Field`. -/
structure Field where
  name : String
  type : ArrowType
deriving DecidableEq, Repr

/-- An `arrow::Schema`. -/
structure Schema where
  fields : List Field
deriving DecidableEq, Repr

/-- An `arrow::Table`, as `Table::Make` leaves it: nothing relates the columns to the
schema. -/
structure Table where
  schema : Schema
  columns : List Column
deriving DecidableEq, Repr

/-- `arrow::Status`. -/
inductive Status where
  | OK
  | error (code : ℕ) (message : String)
deriving DecidableEq, Repr

/-- The pure calls into areaDetector and Arrow, with what the plugin relies on. -/
structure Library where
  /-- `NDArray::getInfo`. -/
  getInfo : NDArray → NDArrayInfo
  /-- `Schema::GetFieldByName`, null where there is no such field. -/
  GetFieldByName : Schema → String → Option Field
  GetFieldByName_of_mem : ∀ (s : Schema) (f : Field), (s.fields.map Field.name).Nodup →
    f ∈ s.fields → GetFieldByName s f.name = some f
  GetFieldByName_of_absent : ∀ (s : Schema) (name : String),
    (∀ f ∈ s.fields, f.name ≠ name) → GetFieldByName s name = none
  /-- `MakeArrayFromScalar`, which is assumed to succeed. -/
  MakeArrayFromScalar : (t : ArrowType) → BitVec t.ctype.width → ℕ → Column
  MakeArrayFromScalar_eq : ∀ (t : ArrowType) (v : BitVec t.ctype.width) (n : ℕ),
    MakeArrayFromScalar t v n = ⟨t, List.replicate n v⟩

/-- What `getInfo` reports for arrays of up to three dimensions: the channels of an RGB1
array are its first dimension. -/
def infoOfDims (A : NDArray) : NDArrayInfo :=
  let mode := A.colorModeAttribute.getD .NDColorModeMono
  let extents : BitVec 64 × BitVec 64 :=
    match A.dims, mode with
    | [_, x, y], .NDColorModeRGB1 => (x, y)
    | x :: y :: _, _ => (x, y)
    | [x], _ => (x, 0)
    | [], _ => (0, 0)
  ⟨A.dims.foldl (· * ·) 1, mode, extents.1, extents.2⟩

/-- A library with the documented behaviour. -/
def Library.reference : Library where
  getInfo := infoOfDims
  GetFieldByName s name := s.fields.find? fun f => f.name == name
  GetFieldByName_of_mem := by
    rintro ⟨fields⟩ f hnodup hmem
    induction fields with
    | nil => exact absurd hmem (by simp)
    | cons g fields ih =>
      rw [List.map_cons, List.nodup_cons] at hnodup
      rcases List.mem_cons.mp hmem with rfl | hmem
      · simp
      · have hne : g.name ≠ f.name := fun heq => hnodup.1 (heq ▸ List.mem_map_of_mem hmem)
        rw [List.find?_cons_of_neg (by simpa using hne)]
        exact ih hnodup.2 hmem
  GetFieldByName_of_absent := by
    rintro ⟨fields⟩ name h
    exact List.find?_eq_none.mpr fun f hf => by simpa using h f hf
  MakeArrayFromScalar t v n := ⟨t, List.replicate n v⟩
  MakeArrayFromScalar_eq _ _ _ := rfl

/-- A Mono array of a single pixel. -/
def pixelOfType (dataType : NDDataType) (pData : List (BitVec 8)) : NDArray where
  uniqueId := 1
  timeStamp := 0
  epicsTS := ⟨0, 0⟩
  dims := [1, 1]
  colorModeAttribute := none
  dataType := dataType
  pData := pData

lemma getInfo_pixelOfType (dataType : NDDataType) (pData : List (BitVec 8)) :
    Library.reference.getInfo (pixelOfType dataType pData) = ⟨1, .NDColorModeMono, 1, 1⟩ := rfl

end ADPluginArrow
