/-
# The plugin object

The two members of `NDFileArrow` that outlive a call, and its three file methods as
functions of the object, of the arguments, and of what the Arrow calls report.  A method
returns how it ends, the object that it leaves, and the Arrow calls that it has made.

`openFile_inv` and `buildTable_eq` are the specifications that the rest of the development
uses: what a successful `openFile` leaves behind, and what `writeFile` makes of an array
under the schema of a file.
-/
import ADPluginArrow.Table

namespace ADPluginArrow

/-! ### The Arrow calls -/

/-- An `arrow::io::FileOutputStream`, by its identity. -/
abbrev Stream := ℕ

/-- The two writers that are made, written to and closed. -/
inductive WriterKind where
  | ipc | csv
deriving DecidableEq, Repr

/-- A call to Arrow with an effect outside the plugin. -/
inductive ArrowCall where
  | Open (fileName : String)
  | parquetWriteTable (sink : Stream) (table : Table) (chunkSize : ℕ)
  | MakeWriter (kind : WriterKind) (sink : Stream) (schema : Schema)
  | WriteTable (kind : WriterKind) (sink : Stream) (table : Table)
  | CloseWriter (kind : WriterKind) (sink : Stream)
  | Close (stream : Stream)
deriving DecidableEq, Repr

/-- The table that a call hands to a format writer, and the stream below the writer. -/
def ArrowCall.handed : ArrowCall → Option (Stream × Table)
  | parquetWriteTable sink table _ => some (sink, table)
  | WriteTable _ sink table => some (sink, table)
  | _ => none

/-- The stream that a call works on.  Opening a file makes a new one. -/
def ArrowCall.stream : ArrowCall → Option Stream
  | Open _ => none
  | parquetWriteTable sink _ _ => some sink
  | MakeWriter _ sink _ => some sink
  | WriteTable _ sink _ => some sink
  | CloseWriter _ sink => some sink
  | Close stream => some stream

/-- What the Arrow calls of one `writeFile` report. -/
structure Replies where
  parquetWriteTable : Status
  makeWriter : Status
  writeTable : Status
  closeWriter : Status
deriving DecidableEq, Repr

/-- Every call succeeds. -/
def Replies.ok : Replies := ⟨.OK, .OK, .OK, .OK⟩

/-! ### The code -/

/-- The members of the plugin object. -/
structure NDFileArrow where
  schema : Option Schema := none
  outfile : Option Stream := none
deriving DecidableEq, Repr

/-- What a method does. -/
structure Effect where
  outcome : Outcome
  self : NDFileArrow
  calls : List ArrowCall
deriving DecidableEq, Repr

/-- The bits of an `NDFileOpenMode_t`. -/
structure NDFileOpenMode where
  read : Bool
  write : Bool
  append : Bool
  multiple : Bool
deriving DecidableEq, Repr

/-- `NDFileModeWrite`. -/
def NDFileOpenMode.NDFileModeWrite : NDFileOpenMode := ⟨false, true, false, false⟩

/-- `NDFileArrow::openFile`.  `opened` is what `FileOutputStream::Open` returns. -/
def openFile (L : Library) (opened : Except Status Stream) (self : NDFileArrow)
    (fileName : String) (openMode : NDFileOpenMode) (pArray : NDArray) : Effect :=
  if openMode.read then ⟨.asynError none, self, []⟩
  else if openMode.append then ⟨.asynError none, self, []⟩
  else
    let arrayInfo := L.getInfo pArray
    match createSchema pArray.dataType arrayInfo.colorMode (toInt arrayInfo.xSize)
      (toInt arrayInfo.ySize) with
    | .error what => ⟨.throws what, self, []⟩
    | .ok schema =>
      match opened with
      -- `ValueOrDie` on an error, after the schema has been replaced
      | .error _ => ⟨.terminates, { self with schema := some schema }, [.Open fileName]⟩
      | .ok stream => ⟨.asynSuccess, ⟨some schema, some stream⟩, [.Open fileName]⟩

/-- `this->schema->GetFieldByName(name)->type()->id()`. -/
def fieldType (L : Library) (schema : Schema) (name : String) : Except Outcome ArrowType :=
  match L.GetFieldByName schema name with
  | none => .error (.undefined .nullPointer)
  | some field => .ok field.type

/-- The switch on the pixel type, of which the source has one copy for every coordinate
type. -/
def pixelSwitch (L : Library) (CT : CoordType) (pixelType : ArrowType) (pArray : NDArray)
    (arrayInfo : NDArrayInfo) (schema : Schema) : Except Outcome Built :=
  match pixelType with
  | .INT8 => createArrowTableFromNDArray L CT .int8_t pArray arrayInfo schema
  | .UINT8 => createArrowTableFromNDArray L CT .uint8_t pArray arrayInfo schema
  | .INT16 => createArrowTableFromNDArray L CT .int16_t pArray arrayInfo schema
  | .UINT16 => createArrowTableFromNDArray L CT .uint16_t pArray arrayInfo schema
  | .INT32 => createArrowTableFromNDArray L CT .int32_t pArray arrayInfo schema
  | .FLOAT => createArrowTableFromNDArray L CT .float pArray arrayInfo schema
  | .DOUBLE => createArrowTableFromNDArray L CT .double pArray arrayInfo schema
  | _ => .error (.asynError (some "Unknown pixel data type in Arrow schema!"))

/-- The first part of `writeFile`: the table of an array under the schema of the file. -/
def buildTable (L : Library) (schema : Option Schema) (pArray : NDArray) :
    Except Outcome Built :=
  match schema with
  | none => .error (.undefined .nullPointer)
  | some schema => do
    let arrayInfo := L.getInfo pArray
    let coordDataType ← fieldType L schema "X"
    let pixelType ←
      (if arrayInfo.colorMode = .NDColorModeMono then fieldType L schema "Intensity"
        else fieldType L schema "R")
    match coordDataType with
    | .UINT32 => pixelSwitch L .uint32_t pixelType pArray arrayInfo schema
    | .UINT16 => pixelSwitch L .uint16_t pixelType pArray arrayInfo schema
    | .UINT8 => pixelSwitch L .uint8_t pixelType pArray arrayInfo schema
    | _ => .error (.asynError (some "Unknown coordinate data type in Arrow schema!"))

/-- `NDArrowFileFormat`. -/
inductive NDArrowFileFormat where
  | PARQUET | CSV | IPC
deriving DecidableEq, Repr

/-- The value of a file format in the parameter `ARROW_FILE_FORMAT`. -/
def NDArrowFileFormat.value : NDArrowFileFormat → ℤ
  | PARQUET => 0
  | CSV => 1
  | IPC => 2

/-- The test of the status at the end of `writeFile`. -/
def checkStatus : Status → Outcome
  | .OK => .asynSuccess
  | .error _ _ => .asynError (some "Failed to write Arrow table to file!")

/-- Making, writing to and closing a writer.  `ValueOrDie` ends the process where the
writer cannot be made, and the writer is closed only after a successful write. -/
def writeWith (kind : WriterKind) (reply : Replies) (outfile : Option Stream) (table : Table) :
    List ArrowCall × Outcome :=
  match outfile with
  | none => ([], .undefined .nullPointer)
  | some sink =>
    if reply.makeWriter ≠ .OK then ([.MakeWriter kind sink table.schema], .terminates)
    else if reply.writeTable = .OK then
      ([.MakeWriter kind sink table.schema, .WriteTable kind sink table,
        .CloseWriter kind sink], checkStatus reply.closeWriter)
    else
      ([.MakeWriter kind sink table.schema, .WriteTable kind sink table],
        checkStatus reply.writeTable)

/-- The second part of `writeFile`: the table goes to the writer of the file format. -/
def writeTable (fileFormat : ℤ) (reply : Replies) (outfile : Option Stream) (table : Table) :
    List ArrowCall × Outcome :=
  if fileFormat = NDArrowFileFormat.PARQUET.value then
    match outfile with
    | none => ([], .undefined .nullPointer)
    | some sink =>
      ([.parquetWriteTable sink table 2048], checkStatus reply.parquetWriteTable)
  else if fileFormat = NDArrowFileFormat.IPC.value then writeWith .ipc reply outfile table
  else if fileFormat = NDArrowFileFormat.CSV.value then writeWith .csv reply outfile table
  else ([], .asynError (some "Unsupported Arrow file format for writing!"))

/-- `NDFileArrow::writeFile`, with the value of the file format parameter. -/
def writeFile (L : Library) (fileFormat : ℤ) (reply : Replies) (self : NDFileArrow)
    (pArray : NDArray) : Effect :=
  match buildTable L self.schema pArray with
  | .error outcome => ⟨outcome, self, []⟩
  | .ok built =>
    let written := writeTable fileFormat reply self.outfile built.table
    ⟨written.2, self, written.1⟩

/-- `NDFileArrow::readFile`, which leaves its argument alone. -/
def readFile (self : NDFileArrow) : Effect := ⟨.asynSuccess, self, []⟩

/-- `NDFileArrow::closeFile`.  `closed` is what `FileOutputStream::Close` returns. -/
def closeFile (closed : Status) (self : NDFileArrow) : Effect :=
  match self.outfile with
  | none => ⟨.asynSuccess, self, []⟩
  | some stream =>
    match closed with
    | .OK => ⟨.asynSuccess, { self with outfile := none }, [.Close stream]⟩
    | .error _ message =>
      ⟨.asynError (some ("Failed to close Arrow output file: " ++ message)), self,
        [.Close stream]⟩

/-! ### Opening a file -/

/-- The coordinate type that `openFile` selects for an array. -/
def coordTypeOf (info : NDArrayInfo) : CoordType :=
  coordDataType (toInt info.xSize) (toInt info.ySize)

/-- The schema of an array whose elements are of type `t`. -/
def schemaFor (info : NDArrayInfo) (t : CType) : Schema :=
  schemaOf (coordTypeOf info) t (channelNames info.colorMode)

/-- What a successful `openFile` says about its arguments and leaves behind. -/
theorem openFile_inv {L : Library} {opened : Except Status Stream} {self : NDFileArrow}
    {fileName : String} {openMode : NDFileOpenMode} {A : NDArray}
    (h : (openFile L opened self fileName openMode A).outcome = .asynSuccess) :
    ∃ t s, A.dataType.ctype = some t ∧ (L.getInfo A).colorMode.Supported ∧ opened = .ok s ∧
      openFile L opened self fileName openMode A
        = ⟨.asynSuccess, ⟨some (schemaFor (L.getInfo A) t), some s⟩, [.Open fileName]⟩ := by
  have hread : openMode.read = false := by
    by_contra hr
    rw [Bool.not_eq_false] at hr
    simp [openFile, hr] at h
  have happend : openMode.append = false := by
    by_contra ha
    rw [Bool.not_eq_false] at ha
    simp [openFile, hread, ha] at h
  simp only [openFile, hread, happend, Bool.false_eq_true, if_false] at h ⊢
  cases hs : createSchema A.dataType (L.getInfo A).colorMode (toInt (L.getInfo A).xSize)
      (toInt (L.getInfo A).ySize) with
  | error what =>
    rw [hs] at h
    exact absurd h (by simp)
  | ok schema =>
    obtain ⟨t, ht, hmode, rfl⟩ := createSchema_eq_ok_iff.mp hs
    rw [hs] at h
    cases opened with
    | error status => exact absurd h (by simp)
    | ok s => exact ⟨t, s, ht, hmode, rfl, rfl⟩

lemma openFile_refused {L : Library} {opened : Except Status Stream} {self : NDFileArrow}
    {fileName : String} {openMode : NDFileOpenMode} {A : NDArray}
    (h : openMode.read = true ∨ openMode.append = true) :
    openFile L opened self fileName openMode A = ⟨.asynError none, self, []⟩ := by
  rw [openFile]
  split_ifs with hread happend
  · rfl
  · rfl
  · exact absurd h (not_or.mpr ⟨hread, happend⟩)

lemma openFile_accepted {L : Library} {s : Stream} {self : NDFileArrow} {fileName : String}
    {openMode : NDFileOpenMode} {A : NDArray} {t : CType}
    (hopenMode : ¬ (openMode.read = true ∨ openMode.append = true))
    (ht : A.dataType.ctype = some t) (hmode : (L.getInfo A).colorMode.Supported) :
    openFile L (.ok s) self fileName openMode A
      = ⟨.asynSuccess, ⟨some (schemaFor (L.getInfo A) t), some s⟩, [.Open fileName]⟩ := by
  obtain ⟨hread, happend⟩ := not_or.mp hopenMode
  have hs : createSchema A.dataType (L.getInfo A).colorMode (toInt (L.getInfo A).xSize)
      (toInt (L.getInfo A).ySize) = .ok (schemaFor (L.getInfo A) t) :=
    createSchema_eq_ok_iff.mpr ⟨t, ht, hmode, rfl⟩
  simp [openFile, hread, happend, hs]

lemma openFile_eq {L : Library} {s : Stream} {self : NDFileArrow} {fileName : String}
    {A : NDArray} {t : CType} (ht : A.dataType.ctype = some t)
    (hmode : (L.getInfo A).colorMode.Supported) :
    openFile L (.ok s) self fileName .NDFileModeWrite A
      = ⟨.asynSuccess, ⟨some (schemaFor (L.getInfo A) t), some s⟩, [.Open fileName]⟩ :=
  openFile_accepted (by decide) ht hmode

/-- The object is one on which opening a file for the array has succeeded. -/
def OpenedFor (L : Library) (self : NDFileArrow) (A : NDArray) : Prop :=
  ∃ opened before fileName openMode,
    (openFile L opened before fileName openMode A).outcome = .asynSuccess ∧
      self = (openFile L opened before fileName openMode A).self

lemma OpenedFor.inv {L : Library} {self : NDFileArrow} {A : NDArray} (h : OpenedFor L self A) :
    ∃ t s, A.dataType.ctype = some t ∧ (L.getInfo A).colorMode.Supported ∧
      self = ⟨some (schemaFor (L.getInfo A) t), some s⟩ := by
  obtain ⟨opened, before, fileName, openMode, hopen, rfl⟩ := h
  obtain ⟨t, s, ht, hmode, -, heq⟩ := openFile_inv hopen
  exact ⟨t, s, ht, hmode, congrArg Effect.self heq⟩

/-! ### Building the table -/

/-- The element types that the switches of `writeFile` have a case for. -/
def CType.Switched (t : CType) : Prop := t ≠ .uint32_t ∧ t ≠ .int64_t ∧ t ≠ .uint64_t

instance (t : CType) : Decidable t.Switched := inferInstanceAs (Decidable (_ ∧ _))

lemma pixelSwitch_eq {L : Library} {CT : CoordType} {t : CType} {A : NDArray}
    {info : NDArrayInfo} {schema : Schema} :
    pixelSwitch L CT t.arrowType A info schema =
      if t.Switched then createArrowTableFromNDArray L CT t A info schema
      else .error (.asynError (some "Unknown pixel data type in Arrow schema!")) := by
  cases t <;> rfl

/-- The lookup of the pixel column for one colour mode, in the schema of another. -/
lemma fieldType_pixel (L : Library) (ct : CoordType) (t : CType) {mode mode' : NDColorMode}
    (h : mode.Supported) :
    (if mode' = .NDColorModeMono then
        fieldType L (schemaOf ct t (channelNames mode)) "Intensity"
      else fieldType L (schemaOf ct t (channelNames mode)) "R")
      = if (mode' = .NDColorModeMono ↔ mode = .NDColorModeMono) then .ok t.arrowType
        else .error (.undefined .nullPointer) := by
  have hname : (if mode' = .NDColorModeMono then
        fieldType L (schemaOf ct t (channelNames mode)) "Intensity"
      else fieldType L (schemaOf ct t (channelNames mode)) "R")
      = fieldType L (schemaOf ct t (channelNames mode)) (pixelColumnName mode') := by
    rw [pixelColumnName]
    split <;> rfl
  rw [hname, fieldType]
  split_ifs with hsame
  · have heq : pixelColumnName mode' = pixelColumnName mode := by
      simp only [pixelColumnName, hsame]
    rw [heq, GetFieldByName_pixel L ct t h]
  · rw [GetFieldByName_pixel_of_ne L ct t h hsame]

/-- What `writeFile` makes of an array under the schema that `openFile` has derived from
an array with elements of type `t` and the colour mode `mode`. -/
theorem buildTable_eq {L : Library} {ct : CoordType} {t : CType} {mode : NDColorMode}
    {B : NDArray} (hmode : mode.Supported) :
    buildTable L (some (schemaOf ct t (channelNames mode))) B =
      if ((L.getInfo B).colorMode = .NDColorModeMono ↔ mode = .NDColorModeMono) then
        if t.Switched then
          createArrowTableFromNDArray L ct t B (L.getInfo B) (schemaOf ct t (channelNames mode))
        else .error (.asynError (some "Unknown pixel data type in Arrow schema!"))
      else .error (.undefined .nullPointer) := by
  have hX : fieldType L (schemaOf ct t (channelNames mode)) "X" = .ok ct.arrowType := by
    rw [fieldType, GetFieldByName_X]
  rw [buildTable]
  simp only [hX, fieldType_pixel L ct t hmode]
  split
  · rw [← pixelSwitch_eq]
    cases ct <;> rfl
  · rfl

lemma buildTable_own {L : Library} {A : NDArray} {t : CType}
    (hmode : (L.getInfo A).colorMode.Supported) :
    buildTable L (some (schemaFor (L.getInfo A) t)) A =
      if t.Switched then
        createArrowTableFromNDArray L (coordTypeOf (L.getInfo A)) t A (L.getInfo A)
          (schemaFor (L.getInfo A) t)
      else .error (.asynError (some "Unknown pixel data type in Arrow schema!")) :=
  (buildTable_eq hmode).trans (if_pos Iff.rfl)

end ADPluginArrow
