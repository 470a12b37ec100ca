/-
# The table of an array

`createArrowTableFromNDArray` converts the buffer of an array and assembles the columns of
the table.  What the columns hold is stated through `Column.view`, the type and the bit
patterns of a column: the columns of a table are the columns of an image
(`createArrowTable_eq_ok`), with the extents as the coordinate type sees them.
-/
import ADPluginArrow.Convert
import ADPluginArrow.Schema

namespace ADPluginArrow

open CLang

/-- How a method of the plugin ends.  An `asynError` carries what the method logs. -/
inductive Outcome where
  | asynSuccess
  | asynError (log : Option String)
  | throws (what : String)
  | terminates
  | undefined (fault : Fault)
deriving DecidableEq, Repr

/-! ### The code -/

/-- The Arrow array over a vector of coordinates. -/
def CoordType.array : (ct : CoordType) → List (BitVec ct.width) → Column
  | .uint8_t, vs => ⟨.UINT8, vs⟩
  | .uint16_t, vs => ⟨.UINT16, vs⟩
  | .uint32_t, vs => ⟨.UINT32, vs⟩

/-- The chain of tests on the pixel type, which selects the Arrow array over a vector of
pixel values. -/
def pixelArray : (PT : CType) → Except Outcome (List (Value PT) → Column)
  | .uint8_t => .ok fun vs => ⟨.UINT8, vs.map Value.bits⟩
  -- the second test of the source is for `uint8_t` again, so `int8_t` has no branch
  | .int16_t => .ok fun vs => ⟨.INT16, vs.map Value.bits⟩
  | .uint16_t => .ok fun vs => ⟨.UINT16, vs.map Value.bits⟩
  | .int32_t => .ok fun vs => ⟨.INT32, vs.map Value.bits⟩
  | .float => .ok fun vs => ⟨.FLOAT, vs.map Value.bits⟩
  | .double => .ok fun vs => ⟨.DOUBLE, vs.map Value.bits⟩
  | _ => .error (.throws "Unsupported pixel type for Arrow table creation")

/-- A table, and the buffer positions that were read to build it. -/
structure Built where
  table : Table
  reads : List ℕ
deriving DecidableEq, Repr

/-- The columns that `createArrowTableFromNDArray` pushes: the coordinates, the channels and
the attributes of the array. -/
def assembleColumns (L : Library) (CT : CoordType) {PT : CType} {n : ℕ}
    (array : List (Value PT) → Column) (pArray : NDArray)
    (img : VectorizedImg CT.width n (Value PT)) : List Column :=
  [CT.array img.xCoords, CT.array img.yCoords] ++
    (List.finRange n).map (fun c => array (img.pixelChannels c)) ++
    [L.MakeArrayFromScalar .INT32 pArray.uniqueId img.nRows,
      L.MakeArrayFromScalar .DOUBLE pArray.timeStamp img.nRows,
      L.MakeArrayFromScalar .UINT32 pArray.epicsTS.secPastEpoch img.nRows,
      L.MakeArrayFromScalar .UINT32 pArray.epicsTS.nsec img.nRows]

/-- `createArrowTableFromNDArray<CT, PT>(pArray, info, schema)`. -/
def createArrowTableFromNDArray (L : Library) (CT : CoordType) (PT : CType) (pArray : NDArray)
    (info : NDArrayInfo) (schema : Schema) : Except Outcome Built :=
  match convertScan (w := CT.width) (channelCount info.colorMode) (elementsAs PT pArray.pData)
    (info.ySize.setWidth CT.width) (info.xSize.setWidth CT.width) with
  | .error fault => .error (.undefined fault)
  | .ok scan => do
    let array ← pixelArray PT
    return ⟨⟨schema, assembleColumns L CT array pArray scan.reshapedData⟩, scan.reads⟩

/-! ### What a column holds -/

/-- The type and the bit patterns of a column. -/
def Column.view (c : Column) : ArrowType × List ℕ := (c.type, c.cells)

lemma CoordType.view_array (ct : CoordType) (vs : List (BitVec ct.width)) :
    (ct.array vs).view = (ct.arrowType, vs.map BitVec.toNat) := by
  cases ct <;> rfl

/-- The pixel types that a table can hold: those with a branch in the chain. -/
def CType.Tabulated (t : CType) : Prop := ∃ f, pixelArray t = .ok f

instance (t : CType) : Decidable t.Tabulated :=
  match h : pixelArray t with
  | .ok f => isTrue ⟨f, h⟩
  | .error _ => isFalse fun ⟨f, hf⟩ => by rw [h] at hf; exact absurd hf (by simp)

lemma view_pixelArray {t : CType} {f : List (Value t) → Column} (h : pixelArray t = .ok f)
    (vs : List (Value t)) : (f vs).view = (t.arrowType, vs.map fun v => v.bits.toNat) := by
  cases t <;> simp only [pixelArray, Except.ok.injEq, reduceCtorEq] at h <;> subst h <;>
    exact congrArg (Prod.mk _) List.map_map

lemma pixelArray_eq_error {t : CType} (h : ¬ t.Tabulated) :
    pixelArray t = .error (.throws "Unsupported pixel type for Arrow table creation") := by
  cases t <;> first | rfl | exact absurd ⟨_, rfl⟩ h

/-- The cells of an array that are not zero in every channel, for its buffer read as
elements of type `t`. -/
def hotCells (t : CType) (n : ℕ) (A : NDArray) (rows cols : ℕ) :
    List (Coo.Entry (Fin n → Value t)) :=
  Coo.encode blank (pixel n (elementsAs t A.pData) cols) rows cols

/-- The columns that describe the cells `hot` of an array: its coordinates, its channels,
and the attributes of the array repeated for every cell. -/
def imageColumns (ct : CoordType) (t : CType) {n : ℕ} (A : NDArray)
    (hot : List (Coo.Entry (Fin n → Value t))) : List (ArrowType × List ℕ) :=
  [(ct.arrowType, hot.map Coo.Entry.col), (ct.arrowType, hot.map Coo.Entry.row)] ++
    (List.finRange n).map (fun c => (t.arrowType, hot.map fun e => (e.val c).bits.toNat)) ++
    [(.INT32, List.replicate hot.length A.uniqueId.toNat),
      (.DOUBLE, List.replicate hot.length A.timeStamp.toNat),
      (.UINT32, List.replicate hot.length A.epicsTS.secPastEpoch.toNat),
      (.UINT32, List.replicate hot.length A.epicsTS.nsec.toNat)]

/-- Every column of an image has one value for each cell. -/
lemma length_of_mem_imageColumns {ct : CoordType} {t : CType} {n : ℕ} {A : NDArray}
    {hot : List (Coo.Entry (Fin n → Value t))} {p : ArrowType × List ℕ}
    (h : p ∈ imageColumns ct t A hot) : p.2.length = hot.length := by
  simp only [imageColumns, List.mem_append, List.mem_cons, List.mem_map, List.not_mem_nil,
    or_false] at h
  rcases h with ((rfl | rfl) | ⟨c, -, rfl⟩) | rfl | rfl | rfl | rfl <;> simp

/-- The types of the columns of an image are those of the schema over the same types. -/
lemma types_imageColumns (ct : CoordType) (t : CType) {n : ℕ} (A : NDArray)
    (hot : List (Coo.Entry (Fin n → Value t))) (names : List String) (hn : names.length = n) :
    (imageColumns ct t A hot).map Prod.fst = (schemaOf ct t names).fields.map Field.type := by
  subst hn
  simp [imageColumns, schemaOf, Function.comp_def]

/-- Assembling the vectors that a list of cells fills gives the columns of these cells,
where the coordinate type holds their positions. -/
lemma view_assembleColumns (L : Library) {ct : CoordType} {t : CType} {n : ℕ}
    {array : List (Value t) → Column} (harray : pixelArray t = .ok array) (A : NDArray)
    {hot : List (Coo.Entry (Fin n → Value t))} (hcol : ∀ e ∈ hot, e.col < 2 ^ ct.width)
    (hrow : ∀ e ∈ hot, e.row < 2 ^ ct.width) :
    (assembleColumns L ct array A (ofEntries ct.width n hot)).map Column.view
      = imageColumns ct t A hot := by
  have hx : (hot.map fun e => BitVec.ofNat ct.width e.col).map BitVec.toNat
      = hot.map Coo.Entry.col := by
    rw [List.map_map]
    refine List.map_congr_left fun e he => ?_
    exact (BitVec.toNat_ofNat _ _).trans (Nat.mod_eq_of_lt (hcol e he))
  have hy : (hot.map fun e => BitVec.ofNat ct.width e.row).map BitVec.toNat
      = hot.map Coo.Entry.row := by
    rw [List.map_map]
    refine List.map_congr_left fun e he => ?_
    exact (BitVec.toNat_ofNat _ _).trans (Nat.mod_eq_of_lt (hrow e he))
  have hmeta : ∀ (a : ArrowType) (v : BitVec a.ctype.width) (k : ℕ),
      (L.MakeArrayFromScalar a v k).view = (a, List.replicate k v.toNat) := by
    intro a v k
    rw [L.MakeArrayFromScalar_eq]
    simp [Column.view, Column.cells]
  have hchan : ∀ c : Fin n, (array (hot.map fun e => e.val c)).view
      = (t.arrowType, hot.map fun e => (e.val c).bits.toNat) := by
    intro c
    rw [view_pixelArray harray, List.map_map]
    rfl
  simp only [assembleColumns, imageColumns, ofEntries, List.map_append, List.map_cons,
    List.map_nil, List.map_map, Function.comp_def, CoordType.view_array, hchan]
  rw [List.map_map] at hx hy
  rw [← hx, ← hy]
  have h1 := hmeta .INT32 A.uniqueId hot.length
  have h2 := hmeta .DOUBLE A.timeStamp hot.length
  have h3 := hmeta .UINT32 A.epicsTS.secPastEpoch hot.length
  have h4 := hmeta .UINT32 A.epicsTS.nsec hot.length
  rw [h1, h2, h3, h4]
  rfl

/-! ### What the table holds -/

section Create

variable {L : Library} {CT : CoordType} {PT : CType} {A : NDArray} {info : NDArrayInfo}
  {schema : Schema}

/-- The number of rows of an array that the conversion sees. -/
def seenRows (CT : CoordType) (info : NDArrayInfo) : ℕ := (info.ySize.setWidth CT.width).toNat

/-- The number of columns of an array that the conversion sees. -/
def seenCols (CT : CoordType) (info : NDArrayInfo) : ℕ := (info.xSize.setWidth CT.width).toNat

/-- The number of elements that the conversion reads. -/
def seenElements (CT : CoordType) (info : NDArrayInfo) : ℕ :=
  seenRows CT info * seenCols CT info * channelCount info.colorMode

lemma convertScan_seen (hbound : seenElements CT info ≤ (Rank.ofWidth CT.width).bound)
    (hdata : seenElements CT info ≤ A.pData.length / PT.size) :
    convertScan (channelCount info.colorMode) (elementsAs PT A.pData)
      (info.ySize.setWidth CT.width) (info.xSize.setWidth CT.width) = .ok
      ⟨ofEntries CT.width _ (hotCells PT (channelCount info.colorMode) A (seenRows CT info)
        (seenCols CT info)), List.range (seenElements CT info)⟩ :=
  convertScan_eq hbound (by rw [length_elementsAs]; exact hdata)

/-- Without overflow and inside the buffer, the table of a type with a branch in the chain
describes the cells of the array, and the conversion reads the elements in order. -/
theorem createArrowTable_eq_ok (hPT : PT.Tabulated)
    (hbound : seenElements CT info ≤ (Rank.ofWidth CT.width).bound)
    (hdata : seenElements CT info ≤ A.pData.length / PT.size) :
    ∃ columns, createArrowTableFromNDArray L CT PT A info schema
        = .ok ⟨⟨schema, columns⟩, List.range (seenElements CT info)⟩ ∧
      columns.map Column.view = imageColumns CT PT A
        (hotCells PT (channelCount info.colorMode) A (seenRows CT info) (seenCols CT info)) := by
  obtain ⟨array, harray⟩ := hPT
  rw [createArrowTableFromNDArray, convertScan_seen hbound hdata, harray]
  refine ⟨_, rfl, view_assembleColumns L harray A ?_ ?_⟩
  · intro e he
    exact (Coo.mem_encode.mp he).2.1.trans (BitVec.isLt _)
  · intro e he
    exact (Coo.mem_encode.mp he).1.trans (BitVec.isLt _)

end Create

end ADPluginArrow
