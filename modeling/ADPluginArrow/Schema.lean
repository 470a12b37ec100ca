/-
# The schema of a file

`createSchema` derives the columns of a file from the data type, the colour mode and the
extents of the array that the file is opened for.

The main result is `createSchema_eq_ok_iff`, which says when there is a schema and what it
is; the rest of the development only uses the schema through it and through the lookups of
`GetFieldByName`.
-/
import ADPluginArrow.Data

namespace ADPluginArrow

/-! ### The code -/

/-- `getArrowDataType`; an error is the text of the exception. -/
def getArrowDataType : NDDataType → Except String ArrowType
  | .NDInt8 => .ok .INT8
  | .NDUInt8 => .ok .UINT8
  | .NDInt16 => .ok .INT16
  | .NDUInt16 => .ok .UINT16
  | .NDInt32 => .ok .INT32
  | .NDUInt32 => .ok .UINT32
  | .NDInt64 => .ok .INT64
  | .NDUInt64 => .ok .UINT64
  | .NDFloat32 => .ok .FLOAT
  | .NDFloat64 => .ok .DOUBLE
  | .other _ => .error "Unsupported NDDataType_t for Arrow field creation"

/-- The types of the coordinate columns, which are the types that the template parameter
`CT` takes. -/
inductive CoordType where
  | uint8_t | uint16_t | uint32_t
deriving DecidableEq, Repr

namespace CoordType

/-- The coordinate type as a scalar type. -/
def ctype : CoordType → CType
  | uint8_t => .uint8_t
  | uint16_t => .uint16_t
  | uint32_t => .uint32_t

/-- The width of the coordinate type. -/
def width (ct : CoordType) : ℕ := ct.ctype.width

/-- The Arrow type of a coordinate column. -/
def arrowType : CoordType → ArrowType
  | uint8_t => .UINT8
  | uint16_t => .UINT16
  | uint32_t => .UINT32

/-- The number of values of the coordinate type. -/
lemma two_pow_width (ct : CoordType) :
    2 ^ ct.width = match ct with
      | uint8_t => 256
      | uint16_t => 65536
      | uint32_t => 4294967296 := by
  cases ct <;> rfl

end CoordType

/-- `std::numeric_limits<uint16_t>::max()`. -/
def uint16Max : ℤ := 65535

/-- `std::numeric_limits<uint8_t>::max()`. -/
def uint8Max : ℤ := 255

/-- The choice of the coordinate type in `createSchema`. -/
def coordDataType (xSize ySize : ℤ) : CoordType :=
  if xSize > uint16Max ∨ ySize > uint16Max then .uint32_t
  else if xSize > uint8Max ∨ ySize > uint8Max then .uint16_t
  else .uint8_t

/-- `createSchema`, whose extents are of type `int`. -/
def createSchema (dataType : NDDataType) (colorMode : NDColorMode) (xSize ySize : ℤ) :
    Except String Schema := do
  let pixelDataType ← getArrowDataType dataType
  let coordDataType := (coordDataType xSize ySize).arrowType
  let fields : List Field := [⟨"X", coordDataType⟩, ⟨"Y", coordDataType⟩]
  let fields ←
    match colorMode with
    | .NDColorModeMono => .ok (fields ++ [⟨"Intensity", pixelDataType⟩])
    | .NDColorModeRGB1 =>
      .ok (fields ++ [⟨"R", pixelDataType⟩, ⟨"G", pixelDataType⟩, ⟨"B", pixelDataType⟩])
    | .other _ => .error "Only Mono and RGB1 color modes are supported!"
  return ⟨fields ++ [⟨"NDArrayUniqueId", .INT32⟩, ⟨"NDArrayTimestamp", .DOUBLE⟩,
    ⟨"NDArrayEpicsTSSec", .UINT32⟩, ⟨"NDArrayEpicsTSnSec", .UINT32⟩]⟩

/-- The conversion of a `size_t` to `int`. -/
def toInt (size : BitVec 64) : ℤ := (size.setWidth 32).toInt

/-! ### The columns of a schema -/

/-- The names of the channel columns of a colour mode. -/
def channelNames : NDColorMode → List String
  | .NDColorModeMono => ["Intensity"]
  | .NDColorModeRGB1 => ["R", "G", "B"]
  | .other _ => []

/-- The number of channels that the conversion assumes. -/
def channelCount (colorMode : NDColorMode) : ℕ :=
  if colorMode = .NDColorModeMono then 1 else 3

/-- The modes for which there is a schema. -/
def NDColorMode.Supported (colorMode : NDColorMode) : Prop :=
  colorMode = .NDColorModeMono ∨ colorMode = .NDColorModeRGB1

instance (colorMode : NDColorMode) : Decidable colorMode.Supported :=
  inferInstanceAs (Decidable (_ ∨ _))

lemma length_channelNames {colorMode : NDColorMode} (h : colorMode.Supported) :
    (channelNames colorMode).length = channelCount colorMode := by
  rcases h with rfl | rfl <;> rfl

/-- The Arrow type of a pixel type. -/
def CType.arrowType : CType → ArrowType
  | int8_t => .INT8
  | uint8_t => .UINT8
  | int16_t => .INT16
  | uint16_t => .UINT16
  | int32_t => .INT32
  | uint32_t => .UINT32
  | int64_t => .INT64
  | uint64_t => .UINT64
  | float => .FLOAT
  | double => .DOUBLE

/-- The schema over a coordinate type, a pixel type and the names of the channels. -/
def schemaOf (ct : CoordType) (t : CType) (channels : List String) : Schema :=
  ⟨[⟨"X", ct.arrowType⟩, ⟨"Y", ct.arrowType⟩] ++ channels.map (fun name => ⟨name, t.arrowType⟩) ++
    [⟨"NDArrayUniqueId", .INT32⟩, ⟨"NDArrayTimestamp", .DOUBLE⟩,
      ⟨"NDArrayEpicsTSSec", .UINT32⟩, ⟨"NDArrayEpicsTSnSec", .UINT32⟩]⟩

@[simp] lemma CType.ctype_arrowType (t : CType) : t.arrowType.ctype = t := by
  cases t <;> rfl

@[simp] lemma CoordType.ctype_arrowType (ct : CoordType) : ct.arrowType.ctype = ct.ctype := by
  cases ct <;> rfl

/-- The Arrow type of a data type is the one of its elements. -/
lemma getArrowDataType_eq_ok_iff {dataType : NDDataType} {a : ArrowType} :
    getArrowDataType dataType = .ok a ↔ ∃ t, dataType.ctype = some t ∧ a = t.arrowType := by
  cases dataType <;> simp [getArrowDataType, NDDataType.ctype, CType.arrowType, eq_comm]

/-- There is a schema exactly for a known data type and a supported colour mode. -/
theorem createSchema_eq_ok_iff {dataType : NDDataType} {colorMode : NDColorMode}
    {xSize ySize : ℤ} {schema : Schema} :
    createSchema dataType colorMode xSize ySize = .ok schema ↔
      ∃ t, dataType.ctype = some t ∧ colorMode.Supported ∧
        schema = schemaOf (coordDataType xSize ySize) t (channelNames colorMode) := by
  constructor
  · intro h
    cases hp : getArrowDataType dataType with
    | error e =>
      rw [createSchema, hp] at h
      exact absurd h (by simp [bind, Except.bind])
    | ok a =>
      obtain ⟨t, ht, rfl⟩ := getArrowDataType_eq_ok_iff.mp hp
      rw [createSchema, hp] at h
      cases colorMode with
      | NDColorModeMono => exact ⟨t, ht, Or.inl rfl, (Except.ok.inj h).symm⟩
      | NDColorModeRGB1 => exact ⟨t, ht, Or.inr rfl, (Except.ok.inj h).symm⟩
      | other v => exact absurd h (by simp [bind, Except.bind])
  · rintro ⟨t, ht, hmode, rfl⟩
    have hp : getArrowDataType dataType = .ok t.arrowType :=
      getArrowDataType_eq_ok_iff.mpr ⟨t, ht, rfl⟩
    rw [createSchema, hp]
    rcases hmode with rfl | rfl <;> rfl

/-- Otherwise the exception names what is missing, the data type before the colour mode. -/
lemma createSchema_total (dataType : NDDataType) (colorMode : NDColorMode) (xSize ySize : ℤ) :
    createSchema dataType colorMode xSize ySize =
      match dataType.ctype with
      | none => .error "Unsupported NDDataType_t for Arrow field creation"
      | some t =>
        if colorMode.Supported then
          .ok (schemaOf (coordDataType xSize ySize) t (channelNames colorMode))
        else .error "Only Mono and RGB1 color modes are supported!" := by
  cases ht : dataType.ctype with
  | none =>
    have hp : getArrowDataType dataType
        = .error "Unsupported NDDataType_t for Arrow field creation" := by
      cases dataType <;> first | rfl | exact absurd ht (by simp [NDDataType.ctype])
    rw [createSchema, hp]
    rfl
  | some t =>
    split_ifs with hmode
    · exact createSchema_eq_ok_iff.mpr ⟨t, ht, hmode, rfl⟩
    · rw [createSchema, getArrowDataType_eq_ok_iff.mpr ⟨t, ht, rfl⟩]
      cases colorMode with
      | NDColorModeMono => exact absurd (Or.inl rfl) hmode
      | NDColorModeRGB1 => exact absurd (Or.inr rfl) hmode
      | other value => rfl

/-! ### Lookups -/

section Lookup

variable (L : Library) (ct : CoordType) (t : CType)

lemma nodup_names {colorMode : NDColorMode} :
    ((schemaOf ct t (channelNames colorMode)).fields.map Field.name).Nodup := by
  cases colorMode <;> simp [schemaOf, channelNames]

lemma GetFieldByName_X {colorMode : NDColorMode} :
    L.GetFieldByName (schemaOf ct t (channelNames colorMode)) "X" = some ⟨"X", ct.arrowType⟩ :=
  L.GetFieldByName_of_mem _ ⟨"X", ct.arrowType⟩ (nodup_names ct t) (by simp [schemaOf])

/-- The column that carries the pixel type of a supported mode. -/
def pixelColumnName (colorMode : NDColorMode) : String :=
  if colorMode = .NDColorModeMono then "Intensity" else "R"

lemma GetFieldByName_pixel {colorMode : NDColorMode} (h : colorMode.Supported) :
    L.GetFieldByName (schemaOf ct t (channelNames colorMode)) (pixelColumnName colorMode)
      = some ⟨pixelColumnName colorMode, t.arrowType⟩ := by
  refine L.GetFieldByName_of_mem _ ⟨pixelColumnName colorMode, t.arrowType⟩ (nodup_names ct t) ?_
  rcases h with rfl | rfl <;> simp [schemaOf, channelNames, pixelColumnName]

/-- The schema of one supported mode lacks the pixel column of a mode that differs from it
in being Mono. -/
lemma GetFieldByName_pixel_of_ne {mode mode' : NDColorMode} (h : mode.Supported)
    (hne : ¬ (mode' = .NDColorModeMono ↔ mode = .NDColorModeMono)) :
    L.GetFieldByName (schemaOf ct t (channelNames mode)) (pixelColumnName mode') = none := by
  refine L.GetFieldByName_of_absent _ _ ?_
  rcases h with rfl | rfl
  · have hmode : mode' ≠ .NDColorModeMono := by simpa using hne
    simp [schemaOf, channelNames, pixelColumnName, hmode]
  · have hmode : mode' = .NDColorModeMono := by simpa using hne
    simp [schemaOf, channelNames, pixelColumnName, hmode]

end Lookup

end ADPluginArrow
