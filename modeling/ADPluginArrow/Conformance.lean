/-
# The arrays of a file

What happens to an array that is written to the file opened for it.  `openFile` accepts more
element types than `writeFile` can write; `writeFile_accepted_iff` says which ones are
written.  A table that is handed over agrees with the schema of the file
(`writeFile_conforms`).
-/
import ADPluginArrow.Written

namespace ADPluginArrow

/-! ### The element types that are written -/

/-- With every Arrow call successful, `writeFile` builds a table, hands it to the writer of
the file format, and succeeds. -/
def WrittenAs (L : Library) (fileFormat : NDArrowFileFormat) (self : NDFileArrow)
    (A : NDArray) : Prop :=
  ∃ s built, self.outfile = some s ∧ buildTable L self.schema A = .ok built ∧
    selectedCall fileFormat s built.table ∈ (writeFile L fileFormat.value .ok self A).calls ∧
    (writeFile L fileFormat.value .ok self A).outcome = .asynSuccess

section

variable {L : Library} {opened : Except Status Stream} {self : NDFileArrow} {fileName : String}
  {openMode : NDFileOpenMode} {A : NDArray}

/-- The other element types end `writeFile` before anything is handed over. -/
lemma writeFile_refused {fileFormat : ℤ} {reply : Replies} {t : CType}
    (hopen : (openFile L opened self fileName openMode A).outcome = .asynSuccess)
    (hsized : Sized L A) (ht : A.dataType.ctype = some t) (htab : ¬ t.Tabulated) :
    writeFile L fileFormat reply (openFile L opened self fileName openMode A).self A
      = ⟨if t.Switched then .throws "Unsupported pixel type for Arrow table creation"
          else .asynError (some "Unknown pixel data type in Arrow schema!"),
        (openFile L opened self fileName openMode A).self, []⟩ := by
  obtain ⟨t', s, ht', hmode, -, heq⟩ := openFile_inv hopen
  obtain rfl : t' = t := Option.some.inj (ht'.symm.trans ht)
  have hbuilt : buildTable L (some (schemaFor (L.getInfo A) t')) A = _ :=
    buildTable_not_tabulated hmode Iff.rfl (hsized.fits ht) htab
  rw [heq, writeFile_of_error hbuilt]

/-- The element types with a branch in the chain are written in every file format. -/
lemma writtenAs_of_tabulated {t : CType}
    (hopen : (openFile L opened self fileName openMode A).outcome = .asynSuccess)
    (hsized : Sized L A) (ht : A.dataType.ctype = some t) (htab : t.Tabulated)
    (fileFormat : NDArrowFileFormat) :
    WrittenAs L fileFormat (openFile L opened self fileName openMode A).self A := by
  obtain ⟨t', s, ht', hmode, -, heq⟩ := openFile_inv hopen
  obtain rfl : t' = t := Option.some.inj (ht'.symm.trans ht)
  obtain ⟨columns, hbuilt, -⟩ := buildTable_fits hmode Iff.rfl (hsized.fits ht) htab
  have hbuilt : buildTable L (some (schemaFor (L.getInfo A) t')) A = _ := hbuilt
  rw [heq, WrittenAs, writeFile_of_ok hbuilt]
  exact ⟨s, _, rfl, hbuilt, (writeTable_ok fileFormat).2, (writeTable_ok fileFormat).1⟩

/-- **Which accepted arrays are written.**  An array for which a file has been opened is
written in every file format exactly if its data type is one of six; the other four known
types have a schema but no table. -/
theorem writeFile_accepted_iff
    (hopen : (openFile L opened self fileName openMode A).outcome = .asynSuccess)
    (hsized : Sized L A) :
    (∀ fileFormat,
      WrittenAs L fileFormat (openFile L opened self fileName openMode A).self A) ↔
      A.dataType ∈ ([.NDUInt8, .NDInt16, .NDUInt16, .NDInt32, .NDFloat32,
        .NDFloat64] : List NDDataType) := by
  obtain ⟨t, s, ht, hmode, -, heq⟩ := openFile_inv hopen
  rw [heq, ← tabulated_iff ht]
  constructor
  · intro h
    obtain ⟨s', built, -, hbuilt, -, -⟩ := h .PARQUET
    exact (buildTable_inv hmode Iff.rfl (hsized.fits ht) hbuilt).1
  · intro htab fileFormat
    exact heq ▸ writtenAs_of_tabulated hopen hsized ht htab fileFormat

end

lemma sized_pixelOfType {dataType : NDDataType} {pData : List (BitVec 8)}
    (h : ∀ t, dataType.ctype = some t → pData.length = t.size) :
    Sized Library.reference (pixelOfType dataType pData) where
  x_lt := by rw [getInfo_pixelOfType]; decide
  y_lt := by rw [getInfo_pixelOfType]; decide
  elements_le := by rw [getInfo_pixelOfType]; decide
  length_eq t ht := by
    have hone : imageElements ⟨1, .NDColorModeMono, 1, 1⟩ = 1 := rfl
    rw [getInfo_pixelOfType, hone, Nat.one_mul]
    exact h t ht

lemma sized_uint8 (value : BitVec 8) : Sized Library.reference (pixelOfType .NDUInt8 [value]) :=
  sized_pixelOfType (by simp [NDDataType.ctype, CType.size])

lemma openFile_uint8 (value : BitVec 8) (stream : Stream) (self : NDFileArrow)
    (fileName : String) :
    (openFile Library.reference (.ok stream) self fileName .NDFileModeWrite
      (pixelOfType .NDUInt8 [value])).outcome = .asynSuccess := by
  rw [openFile_eq (t := .uint8_t) rfl (Or.inl rfl)]

lemma openedFor_uint8 (value : BitVec 8) (stream : Stream) (fileName : String) :
    OpenedFor Library.reference (openFile Library.reference (.ok stream) {} fileName
      .NDFileModeWrite (pixelOfType .NDUInt8 [value])).self (pixelOfType .NDUInt8 [value]) :=
  ⟨.ok stream, {}, fileName, .NDFileModeWrite, openFile_uint8 value stream {} fileName, rfl⟩

/-- A pixel of type `uint8_t` is written in every file format. -/
lemma writtenAs_uint8 (value : BitVec 8) (stream : Stream) (fileName : String)
    (fileFormat : NDArrowFileFormat) :
    WrittenAs Library.reference fileFormat (openFile Library.reference (.ok stream) {} fileName
      .NDFileModeWrite (pixelOfType .NDUInt8 [value])).self (pixelOfType .NDUInt8 [value]) :=
  writtenAs_of_tabulated (openFile_uint8 value stream {} fileName) (sized_uint8 value) rfl
    (by decide) fileFormat

/-- An image of two rows and three columns, two of whose pixels are zero in every channel. -/
def colorImage : NDArray where
  uniqueId := 12
  timeStamp := 4607182418800017408
  epicsTS := ⟨1000, 250⟩
  dims := [3, 3, 2]
  colorModeAttribute := some .NDColorModeRGB1
  dataType := .NDUInt16
  pData :=
    [7, 0, 0, 0, 9, 0] ++ [0, 0, 0, 0, 0, 0] ++ [0, 0, 1, 2, 0, 0] ++
      ([0, 0, 0, 0, 0, 0] ++ [255, 255, 1, 0, 2, 0] ++ [0, 0, 0, 0, 4, 0])

lemma getInfo_colorImage :
    Library.reference.getInfo colorImage = ⟨18, .NDColorModeRGB1, 3, 2⟩ := rfl

lemma sized_colorImage : Sized Library.reference colorImage where
  x_lt := by rw [getInfo_colorImage]; decide
  y_lt := by rw [getInfo_colorImage]; decide
  elements_le := by rw [getInfo_colorImage]; decide
  length_eq t ht := by
    obtain rfl : CType.uint16_t = t := Option.some.inj ht
    rfl

lemma openFile_colorImage (stream : Stream) (self : NDFileArrow) (fileName : String) :
    (openFile Library.reference (.ok stream) self fileName .NDFileModeWrite
      colorImage).outcome = .asynSuccess := by
  rw [openFile_eq (t := .uint16_t) rfl (Or.inr rfl)]

lemma writtenAs_colorImage (stream : Stream) (self : NDFileArrow) (fileName : String)
    (fileFormat : NDArrowFileFormat) :
    WrittenAs Library.reference fileFormat (openFile Library.reference (.ok stream) self fileName
      .NDFileModeWrite colorImage).self colorImage :=
  writtenAs_of_tabulated (openFile_colorImage stream self fileName) sized_colorImage rfl
    (by decide) fileFormat

theorem writeFile_accepted_uint8 :
    (∀ fileFormat, WrittenAs Library.reference fileFormat
      (openFile Library.reference (.ok 0) {} "dot" .NDFileModeWrite
        (pixelOfType .NDUInt8 [7])).self (pixelOfType .NDUInt8 [7])) ↔
      NDDataType.NDUInt8 ∈ ([.NDUInt8, .NDInt16, .NDUInt16, .NDInt32, .NDFloat32,
        .NDFloat64] : List NDDataType) :=
  writeFile_accepted_iff (openFile_uint8 7 0 {} "dot") (sized_uint8 7)

/-- A pixel of type `int8_t` makes `writeFile` throw, after a file has been opened for it. -/
theorem writeFile_int8_throws :
    Sized Library.reference (pixelOfType .NDInt8 [7]) ∧
      (openFile Library.reference (.ok 0) {} "dot" .NDFileModeWrite
        (pixelOfType .NDInt8 [7])).outcome = .asynSuccess ∧
      (writeFile Library.reference NDArrowFileFormat.PARQUET.value .ok
        (openFile Library.reference (.ok 0) {} "dot" .NDFileModeWrite
          (pixelOfType .NDInt8 [7])).self (pixelOfType .NDInt8 [7])).outcome
        = .throws "Unsupported pixel type for Arrow table creation" := by
  have hsized : Sized Library.reference (pixelOfType .NDInt8 [7]) := sized_pixelOfType (by decide)
  refine ⟨hsized, by decide, ?_⟩
  rw [writeFile_refused (by decide) hsized rfl (by decide)]
  rfl

/-- A pixel of type `uint32_t` makes it fail. -/
theorem writeFile_uint32_fails :
    Sized Library.reference (pixelOfType .NDUInt32 [7, 0, 0, 0]) ∧
      (openFile Library.reference (.ok 0) {} "dot" .NDFileModeWrite
        (pixelOfType .NDUInt32 [7, 0, 0, 0])).outcome = .asynSuccess ∧
      (writeFile Library.reference NDArrowFileFormat.PARQUET.value .ok
        (openFile Library.reference (.ok 0) {} "dot" .NDFileModeWrite
          (pixelOfType .NDUInt32 [7, 0, 0, 0])).self (pixelOfType .NDUInt32 [7, 0, 0, 0])).outcome
        = .asynError (some "Unknown pixel data type in Arrow schema!") := by
  have hsized : Sized Library.reference (pixelOfType .NDUInt32 [7, 0, 0, 0]) :=
    sized_pixelOfType (by decide)
  refine ⟨hsized, by decide, ?_⟩
  rw [writeFile_refused (by decide) hsized rfl (by decide)]
  rfl

/-! ### Agreement with the schema -/

/-- The number of pixels of an array with a channel that is not zero. -/
def nonzeroPixels (L : Library) (t : CType) (A : NDArray) : ℕ :=
  (List.range (L.getInfo A).ySize.toNat ×ˢ List.range (L.getInfo A).xSize.toNat).countP fun p =>
    (List.finRange (channelCount (L.getInfo A).colorMode)).any fun c =>
      !CScalar.isZero (pixel _ (elementsAs t A.pData) (L.getInfo A).xSize.toNat p.1 p.2 c)

lemma length_hotPixels (L : Library) (t : CType) (A : NDArray) :
    (hotPixels L t A).length = nonzeroPixels L t A := by
  rw [hotPixels, hotCells, Coo.length_encode, nonzeroPixels]
  refine List.countP_congr fun p _ => ?_
  simp [blank]

/-- A table agrees with a schema: one column for each field, of the type of the field, and
all columns of the length that the array calls for, read as elements of the array's own
type. -/
structure Conforms (L : Library) (schema : Schema) (t : CType) (A : NDArray) (T : Table) :
    Prop where
  schema_eq : T.schema = schema
  width_eq : T.columns.length = schema.fields.length
  types_eq : T.columns.map Column.type = schema.fields.map Field.type
  length_eq : ∀ column ∈ T.columns, column.length = nonzeroPixels L t A
  read_as : ∃ ct reads, buildTable L (some schema) A
      = createArrowTableFromNDArray L ct t A (L.getInfo A) schema ∧
    createArrowTableFromNDArray L ct t A (L.getInfo A) schema = .ok ⟨T, reads⟩

/-- Columns that describe an array have the types of the schema over the same types, and one
value for each pixel that is not zero. -/
lemma Represents.conform {L : Library} {ct : CoordType} {t : CType} {A : NDArray}
    {columns : List Column} (h : Represents L ct t A columns)
    (hmode : (L.getInfo A).colorMode.Supported) :
    columns.map Column.type
        = (schemaOf ct t (channelNames (L.getInfo A).colorMode)).fields.map Field.type ∧
      ∀ column ∈ columns, column.length = nonzeroPixels L t A := by
  constructor
  · have htypes := congrArg (List.map Prod.fst) h
    rw [List.map_map, types_imageColumns _ _ _ _ _ (length_channelNames hmode)] at htypes
    exact htypes
  · intro column hcolumn
    have hview : column.view ∈ imageColumns ct t A (hotPixels L t A) :=
      h ▸ List.mem_map_of_mem hcolumn
    have hlength := length_of_mem_imageColumns hview
    rwa [Column.view, Column.length_cells, length_hotPixels] at hlength

/-- **A table that is handed over agrees with its schema.** -/
theorem writeFile_conforms {L : Library} {opened : Except Status Stream} {self : NDFileArrow}
    {fileName : String} {openMode : NDFileOpenMode} {A : NDArray} {fileFormat : ℤ}
    {reply : Replies} {sink : Stream} {T : Table}
    (hopen : (openFile L opened self fileName openMode A).outcome = .asynSuccess)
    (hsized : Sized L A)
    (hT : (sink, T) ∈ handedOver (writeFile L fileFormat reply
      (openFile L opened self fileName openMode A).self A).calls) :
    ∃ schema t, (openFile L opened self fileName openMode A).self.schema = some schema ∧
      A.dataType.ctype = some t ∧ Conforms L schema t A T := by
  obtain ⟨t, s, ht, hmode, -, heq⟩ := openFile_inv hopen
  rw [heq] at hT ⊢
  obtain ⟨built, hbuilt, hp⟩ := mem_handedOver_writeFile rfl hT
  obtain ⟨htab, columns, rfl, hview⟩ := buildTable_inv hmode Iff.rfl (hsized.fits ht) hbuilt
  obtain ⟨-, rfl⟩ := Prod.mk.inj hp
  obtain ⟨htypes, hlength⟩ := hview.conform hmode
  have hcreate := buildTable_own (L := L) (t := t) hmode
  rw [if_pos htab.switched] at hcreate
  have hwidth := congrArg List.length htypes
  rw [List.length_map, List.length_map] at hwidth
  exact ⟨_, t, rfl, ht, rfl, hwidth, htypes, hlength, _, _, hcreate, hcreate.symm.trans hbuilt⟩

/-- All columns of the table of the image have four rows. -/
theorem writeFile_conforms_colorImage :
    ∃ T schema t, (openFile Library.reference (.ok 0) {} "spots" .NDFileModeWrite
        colorImage).self.schema = some schema ∧
      NDDataType.NDUInt16.ctype = some t ∧ Conforms Library.reference schema t colorImage T ∧
      ∀ column ∈ T.columns, column.length = 4 := by
  obtain ⟨s, -, hself, -, -, hsuccess⟩ := writtenAs_colorImage 0 {} "spots" .PARQUET
  obtain ⟨built, -, hhanded⟩ := writeFile_success hself hsuccess
  have hT : (s, built.table) ∈ handedOver _ := hhanded ▸ List.mem_singleton.mpr rfl
  obtain ⟨schema, t, hschema, ht, hconforms⟩ :=
    writeFile_conforms (openFile_colorImage 0 {} "spots") sized_colorImage hT
  obtain rfl : CType.uint16_t = t := Option.some.inj ht
  have hfour : nonzeroPixels Library.reference .uint16_t colorImage = 4 := by decide
  exact ⟨built.table, schema, _, hschema, ht, hconforms,
    fun column hcolumn => hfour ▸ hconforms.length_eq column hcolumn⟩

end ADPluginArrow
