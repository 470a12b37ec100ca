/-
# Writing an array

What `writeFile` does under the schema of an open file: which tables are built, which calls
hand a table over, and to which stream.

* `buildTable_fits` is the table of an array whose element type has a branch everywhere and
  whose extents the coordinate type of the file represents; `buildTable_inv` says that there
  is no other table.
* `mem_handedOver_writeFile` and `writeFile_success` say which table goes to which stream.
-/
import ADPluginArrow.Canonical

namespace ADPluginArrow

open CLang

/-! ### The writers -/

/-- The call that hands a table to the writer of a file format. -/
def selectedCall (fileFormat : NDArrowFileFormat) (sink : Stream) (table : Table) : ArrowCall :=
  match fileFormat with
  | .PARQUET => .parquetWriteTable sink table 2048
  | .CSV => .WriteTable .csv sink table
  | .IPC => .WriteTable .ipc sink table

section Writers

variable {fileFormat : ℤ} {reply : Replies} {sink : Stream} {table : Table}

/-- The tables that a list of calls hands over, with the streams that they go to. -/
def handedOver (calls : List ArrowCall) : List (Stream × Table) := calls.filterMap ArrowCall.handed

/-- How the writers end: the table is handed over to the stream, or nothing is handed over
and the method fails or, where no writer can be made, the process ends. -/
def Delivered (reply : Replies) (sink : Stream) (table : Table)
    (written : List ArrowCall × Outcome) : Prop :=
  written.2 ≠ .undefined .nullPointer ∧
    ((handedOver written.1 = [] ∧
        ((∃ log, written.2 = .asynError log) ∨ reply.makeWriter ≠ .OK ∧ written.2 = .terminates)) ∨
      handedOver written.1 = [(sink, table)])

lemma checkStatus_ne_undefined {status : Status} {fault : Fault} :
    checkStatus status ≠ .undefined fault := by
  cases status <;> simp [checkStatus]

/-- A writer that is made takes the table. -/
lemma writeWith_delivered (kind : WriterKind) (reply : Replies) (sink : Stream) (table : Table) :
    Delivered reply sink table (writeWith kind reply (some sink) table) := by
  by_cases hmake : reply.makeWriter = .OK
  · by_cases hwrite : reply.writeTable = .OK
    · have heq : writeWith kind reply (some sink) table
          = ([.MakeWriter kind sink table.schema, .WriteTable kind sink table,
            .CloseWriter kind sink], checkStatus reply.closeWriter) := by
        simp [writeWith, hmake, hwrite]
      rw [heq]
      exact ⟨checkStatus_ne_undefined, Or.inr rfl⟩
    · have heq : writeWith kind reply (some sink) table
          = ([.MakeWriter kind sink table.schema, .WriteTable kind sink table],
            checkStatus reply.writeTable) := by
        simp [writeWith, hmake, hwrite]
      rw [heq]
      exact ⟨checkStatus_ne_undefined, Or.inr rfl⟩
  · -- `ValueOrDie` on the error of the writer
    have heq : writeWith kind reply (some sink) table
        = ([.MakeWriter kind sink table.schema], .terminates) := by
      simp [writeWith, hmake]
    rw [heq]
    exact ⟨by simp, Or.inl ⟨rfl, Or.inr ⟨hmake, rfl⟩⟩⟩

lemma writeTable_delivered (fileFormat : ℤ) (reply : Replies) (sink : Stream) (table : Table) :
    Delivered reply sink table (writeTable fileFormat reply (some sink) table) := by
  rw [writeTable]
  split_ifs
  · exact ⟨checkStatus_ne_undefined, Or.inr rfl⟩
  · exact writeWith_delivered .ipc reply sink table
  · exact writeWith_delivered .csv reply sink table
  · exact ⟨by simp, Or.inl ⟨rfl, Or.inl ⟨_, rfl⟩⟩⟩

/-- How a writer that is made, written to and closed ends does not depend on the table, nor
does whether the table is handed over. -/
lemma writeWith_same (kind : WriterKind) (reply : Replies) (sink sink' : Stream)
    (table table' : Table) :
    (writeWith kind reply (some sink') table').2 = (writeWith kind reply (some sink) table).2 ∧
      (handedOver (writeWith kind reply (some sink) table).1 = [] ∧
          handedOver (writeWith kind reply (some sink') table').1 = [] ∨
        handedOver (writeWith kind reply (some sink) table).1 = [(sink, table)] ∧
          handedOver (writeWith kind reply (some sink') table').1 = [(sink', table')]) := by
  simp only [writeWith]
  split_ifs
  · exact ⟨rfl, Or.inl ⟨rfl, rfl⟩⟩
  · exact ⟨rfl, Or.inr ⟨rfl, rfl⟩⟩
  · exact ⟨rfl, Or.inr ⟨rfl, rfl⟩⟩

lemma writeTable_same (fileFormat : ℤ) (reply : Replies) (sink sink' : Stream)
    (table table' : Table) :
    (writeTable fileFormat reply (some sink') table').2
        = (writeTable fileFormat reply (some sink) table).2 ∧
      (handedOver (writeTable fileFormat reply (some sink) table).1 = [] ∧
          handedOver (writeTable fileFormat reply (some sink') table').1 = [] ∨
        handedOver (writeTable fileFormat reply (some sink) table).1 = [(sink, table)] ∧
          handedOver (writeTable fileFormat reply (some sink') table').1 = [(sink', table')]) := by
  simp only [writeTable]
  split_ifs
  · exact ⟨rfl, Or.inr ⟨rfl, rfl⟩⟩
  · exact writeWith_same .ipc reply sink sink' table table'
  · exact writeWith_same .csv reply sink sink' table table'
  · exact ⟨rfl, Or.inl ⟨rfl, rfl⟩⟩

lemma mem_handedOver_writeTable {p : Stream × Table}
    (h : p ∈ handedOver (writeTable fileFormat reply (some sink) table).1) : p = (sink, table) := by
  rcases (writeTable_delivered fileFormat reply sink table).2 with ⟨hnone, -⟩ | hone
  · exact absurd (hnone ▸ h) (by simp)
  · exact List.mem_singleton.mp (hone ▸ h)

lemma handedOver_of_writeTable_success
    (h : (writeTable fileFormat reply (some sink) table).2 = .asynSuccess) :
    handedOver (writeTable fileFormat reply (some sink) table).1 = [(sink, table)] := by
  rcases (writeTable_delivered fileFormat reply sink table).2 with
    ⟨-, ⟨log, hlog⟩ | ⟨-, hend⟩⟩ | hone
  · exact absurd (h.symm.trans hlog) (by simp)
  · exact absurd (h.symm.trans hend) (by simp)
  · exact hone

lemma writeTable_ok (fileFormat : NDArrowFileFormat) :
    (writeTable fileFormat.value .ok (some sink) table).2 = .asynSuccess ∧
      selectedCall fileFormat sink table
        ∈ (writeTable fileFormat.value .ok (some sink) table).1 := by
  cases fileFormat
  · exact ⟨rfl, List.mem_singleton.mpr rfl⟩
  · exact ⟨rfl, List.mem_cons_of_mem _ (List.mem_cons_self ..)⟩
  · exact ⟨rfl, List.mem_cons_of_mem _ (List.mem_cons_self ..)⟩

end Writers

/-! ### The types that are written -/

lemma CType.Tabulated.switched {t : CType} (h : t.Tabulated) : t.Switched := by
  obtain ⟨f, hf⟩ := h
  refine ⟨?_, ?_, ?_⟩ <;> rintro rfl <;> exact absurd hf (by simp [pixelArray])

/-- The only type with a case in the switches and no branch in the chain. -/
lemma CType.eq_int8_of_switched {t : CType} (hs : t.Switched) (ht : ¬ t.Tabulated) :
    t = .int8_t := by
  cases t <;> first | rfl | exact absurd (by decide) ht | exact absurd hs (by decide)

lemma CType.Switched.tabulated_iff {t : CType} (hs : t.Switched) : t.Tabulated ↔ t ≠ .int8_t := by
  constructor
  · rintro htab rfl
    exact absurd htab (by decide)
  · intro hne
    by_contra htab
    exact hne (CType.eq_int8_of_switched hs htab)

/-- The data types whose elements have a branch in the chain of tests on the pixel type. -/
lemma tabulated_iff {dataType : NDDataType} {t : CType} (h : dataType.ctype = some t) :
    t.Tabulated ↔ dataType ∈ ([.NDUInt8, .NDInt16, .NDUInt16, .NDInt32, .NDFloat32,
      .NDFloat64] : List NDDataType) := by
  cases dataType <;> simp only [NDDataType.ctype, Option.some.injEq, reduceCtorEq] at h <;>
    subst h <;> decide

lemma not_switched_iff {dataType : NDDataType} {t : CType} (h : dataType.ctype = some t) :
    ¬ t.Switched ↔ dataType ∈ ([.NDUInt32, .NDInt64, .NDUInt64] : List NDDataType) := by
  cases dataType <;> simp only [NDDataType.ctype, Option.some.injEq, reduceCtorEq] at h <;>
    subst h <;> decide

lemma eq_int8_iff {dataType : NDDataType} {t : CType} (h : dataType.ctype = some t) :
    t = .int8_t ↔ dataType = .NDInt8 := by
  cases dataType <;> simp only [NDDataType.ctype, Option.some.injEq, reduceCtorEq] at h <;>
    subst h <;> decide

/-! ### The table of an array under the schema of a file -/

/-- The cells of an array that are not zero in every channel. -/
abbrev hotPixels (L : Library) (t : CType) (A : NDArray) :
    List (Coo.Entry (Fin (channelCount (L.getInfo A).colorMode) → Value t)) :=
  hotCells t _ A (L.getInfo A).ySize.toNat (L.getInfo A).xSize.toNat

/-- The columns describe an array whose elements are of type `t`, over a coordinate type.  The
channels of a pixel are read next to each other: this is about Mono and RGB1 arrays. -/
def Represents (L : Library) (ct : CoordType) (t : CType) (A : NDArray)
    (columns : List Column) : Prop :=
  columns.map Column.view = imageColumns ct t A (hotPixels L t A)

/-- An array that a coordinate type represents, whose buffer holds at least its elements. -/
structure Fits (L : Library) (ct : CoordType) (t : CType) (A : NDArray) : Prop where
  x_lt : (L.getInfo A).xSize.toNat < 2 ^ ct.width
  y_lt : (L.getInfo A).ySize.toNat < 2 ^ ct.width
  elements_le : imageElements (L.getInfo A) ≤ 2 ^ 31
  le_length : imageElements (L.getInfo A) ≤ A.pData.length / t.size

lemma Sized.fits {L : Library} {A : NDArray} {t : CType} (h : Sized L A)
    (ht : A.dataType.ctype = some t) : Fits L (coordTypeOf (L.getInfo A)) t A :=
  ⟨h.narrowest.x_lt, h.narrowest.y_lt, h.elements_le, (h.elements_eq ht).ge⟩

section Build

variable {L : Library} {ct : CoordType} {t : CType} {mode : NDColorMode} {B : NDArray}

/-- The conversion ends `writeFile` by a fault or by an exception, never with a status. -/
lemma createArrowTable_eq_error {info : NDArrayInfo} {schema : Schema} {outcome : Outcome}
    (h : createArrowTableFromNDArray L ct t B info schema = .error outcome) :
    (∃ fault, outcome = .undefined fault) ∨ ∃ what, outcome = .throws what := by
  rw [createArrowTableFromNDArray] at h
  split at h
  · rename_i fault _
    exact Or.inl ⟨fault, (Except.error.inj h).symm⟩
  · by_cases ht : t.Tabulated
    · obtain ⟨array, harray⟩ := ht
      rw [harray] at h
      exact absurd h (by simp [bind, Except.bind, pure, Except.pure])
    · rw [pixelArray_eq_error ht] at h
      exact Or.inr ⟨_, (Except.error.inj h).symm⟩

lemma createArrowTable_ne_asynError {info : NDArrayInfo} {schema : Schema} {log : Option String} :
    createArrowTableFromNDArray L ct t B info schema ≠ .error (.asynError log) := by
  intro h
  rcases createArrowTable_eq_error h with ⟨fault, hfault⟩ | ⟨what, hwhat⟩
  · exact absurd hfault (by simp)
  · exact absurd hwhat (by simp)

lemma createArrowTable_of_fault {info : NDArrayInfo} {schema : Schema} {fault : Fault}
    (h : convertScan (w := ct.width) (channelCount info.colorMode) (elementsAs t B.pData)
      (info.ySize.setWidth ct.width) (info.xSize.setWidth ct.width) = .error fault) :
    createArrowTableFromNDArray L ct t B info schema = .error (.undefined fault) := by
  rw [createArrowTableFromNDArray, h]

lemma tabulated_of_createArrowTable {info : NDArrayInfo} {schema : Schema} {built : Built}
    (h : createArrowTableFromNDArray L ct t B info schema = .ok built) : t.Tabulated := by
  by_contra ht
  rw [createArrowTableFromNDArray] at h
  split at h
  · exact absurd h (by simp)
  · rw [pixelArray_eq_error ht] at h
    exact absurd h (by simp [bind, Except.bind])

lemma createArrowTable_fits (hfits : Fits L ct t B) (schema : Schema) :
    createArrowTableFromNDArray L ct t B (L.getInfo B) schema
        = .error (.throws "Unsupported pixel type for Arrow table creation") ∧ ¬ t.Tabulated ∨
      ∃ columns, createArrowTableFromNDArray L ct t B (L.getInfo B) schema
          = .ok ⟨⟨schema, columns⟩, List.range (imageElements (L.getInfo B))⟩ ∧
        Represents L ct t B columns ∧ t.Tabulated := by
  have hseen := seenElements_eq hfits.x_lt hfits.y_lt
  have hbound : seenElements ct (L.getInfo B) ≤ (Rank.ofWidth ct.width).bound :=
    hseen ▸ hfits.elements_le.trans (Rank.two_pow_31_le_bound _)
  have hdata : seenElements ct (L.getInfo B) ≤ B.pData.length / t.size := hseen ▸ hfits.le_length
  by_cases ht : t.Tabulated
  · right
    have htable : ∃ columns, createArrowTableFromNDArray L ct t B (L.getInfo B) schema = _ ∧ _ :=
      createArrowTable_eq_ok ht hbound hdata
    obtain ⟨columns, heq, hview⟩ := htable
    rw [seenRows_eq_iff.mpr hfits.y_lt, seenCols_eq_iff.mpr hfits.x_lt] at hview
    exact ⟨columns, hseen ▸ heq, hview, ht⟩
  · left
    rw [createArrowTableFromNDArray, convertScan_seen hbound hdata, pixelArray_eq_error ht]
    exact ⟨rfl, ht⟩

/-- The table of an array that fits the file and has its pixel column. -/
lemma buildTable_fits (hmode : mode.Supported)
    (hmono : (L.getInfo B).colorMode = .NDColorModeMono ↔ mode = .NDColorModeMono)
    (hfits : Fits L ct t B) (ht : t.Tabulated) :
    ∃ columns, buildTable L (some (schemaOf ct t (channelNames mode))) B
        = .ok ⟨⟨schemaOf ct t (channelNames mode), columns⟩,
          List.range (imageElements (L.getInfo B))⟩ ∧ Represents L ct t B columns := by
  rw [buildTable_eq hmode, if_pos hmono, if_pos ht.switched]
  rcases createArrowTable_fits hfits (schemaOf ct t (channelNames mode)) with
    ⟨-, hnot⟩ | ⟨columns, heq, hview, -⟩
  · exact absurd ht hnot
  · exact ⟨columns, heq, hview⟩

lemma buildTable_not_tabulated (hmode : mode.Supported)
    (hmono : (L.getInfo B).colorMode = .NDColorModeMono ↔ mode = .NDColorModeMono)
    (hfits : Fits L ct t B) (ht : ¬ t.Tabulated) :
    buildTable L (some (schemaOf ct t (channelNames mode))) B = .error
      (if t.Switched then .throws "Unsupported pixel type for Arrow table creation"
        else .asynError (some "Unknown pixel data type in Arrow schema!")) := by
  rw [buildTable_eq hmode, if_pos hmono]
  split_ifs
  · rcases createArrowTable_fits hfits (schemaOf ct t (channelNames mode)) with
      ⟨heq, -⟩ | ⟨-, -, -, htab⟩
    · exact heq
    · exact absurd htab ht
  · rfl

/-- Every table of an array that fits the file is of this kind. -/
theorem buildTable_inv (hmode : mode.Supported)
    (hmono : (L.getInfo B).colorMode = .NDColorModeMono ↔ mode = .NDColorModeMono)
    (hfits : Fits L ct t B) {built : Built}
    (h : buildTable L (some (schemaOf ct t (channelNames mode))) B = .ok built) :
    t.Tabulated ∧ ∃ columns, built = ⟨⟨schemaOf ct t (channelNames mode), columns⟩,
      List.range (imageElements (L.getInfo B))⟩ ∧ Represents L ct t B columns := by
  by_cases ht : t.Tabulated
  · obtain ⟨columns, heq, hview⟩ := buildTable_fits hmode hmono hfits ht
    rw [h] at heq
    exact ⟨ht, columns, Except.ok.inj heq, hview⟩
  · rw [buildTable_not_tabulated hmode hmono hfits ht] at h
    exact absurd h (by simp)

end Build

/-! ### Writing -/

section Write

variable {L : Library} {fileFormat : ℤ} {reply : Replies} {self : NDFileArrow} {A : NDArray}

lemma writeFile_of_error {schema : Option Schema} {outfile : Option Stream} {outcome : Outcome}
    (h : buildTable L schema A = .error outcome) :
    writeFile L fileFormat reply ⟨schema, outfile⟩ A = ⟨outcome, ⟨schema, outfile⟩, []⟩ := by
  rw [writeFile, h]

lemma writeFile_of_ok {schema : Option Schema} {outfile : Option Stream} {built : Built}
    (h : buildTable L schema A = .ok built) :
    writeFile L fileFormat reply ⟨schema, outfile⟩ A
      = ⟨(writeTable fileFormat reply outfile built.table).2, ⟨schema, outfile⟩,
        (writeTable fileFormat reply outfile built.table).1⟩ := by
  rw [writeFile, h]

lemma writeFile_self (L : Library) (fileFormat : ℤ) (reply : Replies) (self : NDFileArrow)
    (A : NDArray) : (writeFile L fileFormat reply self A).self = self := by
  rw [writeFile]
  split <;> rfl

lemma mem_handedOver_writeFile {s : Stream} {p : Stream × Table} (hself : self.outfile = some s)
    (h : p ∈ handedOver (writeFile L fileFormat reply self A).calls) :
    ∃ built, buildTable L self.schema A = .ok built ∧ p = (s, built.table) := by
  cases hbuilt : buildTable L self.schema A with
  | error outcome =>
    rw [writeFile_of_error hbuilt] at h
    exact absurd h (by simp [handedOver])
  | ok built =>
    rw [writeFile_of_ok hbuilt, hself] at h
    exact ⟨built, rfl, mem_handedOver_writeTable h⟩

lemma buildTable_ne_error_success (schema : Option Schema) :
    buildTable L schema A ≠ .error .asynSuccess := by
  have hcreate : ∀ (CT : CoordType) (PT : CType) (info : NDArrayInfo) (schema : Schema),
      createArrowTableFromNDArray L CT PT A info schema ≠ .error .asynSuccess := by
    intro CT PT info schema h
    rcases createArrowTable_eq_error h with ⟨fault, hfault⟩ | ⟨what, hwhat⟩
    · exact absurd hfault (by simp)
    · exact absurd hwhat (by simp)
  have hswitch : ∀ (CT : CoordType) (pixelType : ArrowType) (info : NDArrayInfo)
      (schema : Schema), pixelSwitch L CT pixelType A info schema ≠ .error .asynSuccess := by
    intro CT pixelType info schema
    cases pixelType <;> first | exact hcreate _ _ _ _ | simp [pixelSwitch]
  have hfield : ∀ (schema : Schema) (name : String),
      fieldType L schema name ≠ .error .asynSuccess := by
    intro schema name
    rw [fieldType]
    split <;> simp
  cases schema with
  | none => simp [buildTable]
  | some schema =>
    refine bind_ne_error (hfield schema "X") fun coordDataType =>
      bind_ne_error ?_ fun pixelType => ?_
    · split
      · exact hfield schema "Intensity"
      · exact hfield schema "R"
    · cases coordDataType <;> first | exact hswitch _ _ _ _ | simp

/-- A successful `writeFile` has built a table and handed over exactly this one. -/
lemma writeFile_success {s : Stream} (hself : self.outfile = some s)
    (h : (writeFile L fileFormat reply self A).outcome = .asynSuccess) :
    ∃ built, buildTable L self.schema A = .ok built ∧
      handedOver (writeFile L fileFormat reply self A).calls = [(s, built.table)] := by
  cases hbuilt : buildTable L self.schema A with
  | error outcome =>
    rw [writeFile_of_error hbuilt] at h
    obtain rfl : outcome = .asynSuccess := h
    exact absurd hbuilt (buildTable_ne_error_success _)
  | ok built =>
    rw [writeFile_of_ok hbuilt, hself] at h ⊢
    exact ⟨built, rfl, handedOver_of_writeTable_success h⟩

end Write

end ADPluginArrow
