/-
# The status of a call

A caller of `openFile` and `writeFile` learns from an `asynStatus` whether the call has done
its work.  But a failure can also leave these methods as an exception, or end the process:
`ValueOrDie` does so where a file cannot be opened or a writer cannot be made, and a read
outside the buffer is undefined.

* `openFile_atomic_iff` says when `openFile` does all of its work or none of it, and reports
  which.
* `writeFile_truthful_iff` says when the status of `writeFile` tells the truth.
-/
import ADPluginArrow.Conformance

namespace ADPluginArrow

open CLang

/-! ### Opening a file -/

section Opening

variable {L : Library} {opened : Except Status Stream} {self : NDFileArrow} {fileName : String}
  {openMode : NDFileOpenMode} {A : NDArray}

/-- `openFile` succeeds with the schema of the array and the stream that was opened, or fails
and leaves the object as it was. -/
def OpensAtomically (L : Library) (opened : Except Status Stream) (self : NDFileArrow)
    (fileName : String) (openMode : NDFileOpenMode) (A : NDArray) : Prop :=
  ((openFile L opened self fileName openMode A).outcome = .asynSuccess ∧
      ∃ schema s, createSchema A.dataType (L.getInfo A).colorMode (toInt (L.getInfo A).xSize)
          (toInt (L.getInfo A).ySize) = .ok schema ∧ opened = .ok s ∧
        (openFile L opened self fileName openMode A).self = ⟨some schema, some s⟩) ∨
    (∃ log, (openFile L opened self fileName openMode A).outcome = .asynError log) ∧
      (openFile L opened self fileName openMode A).self = self

lemma openFile_ne_asynError (hopenMode : ¬ (openMode.read = true ∨ openMode.append = true))
    (log : Option String) :
    (openFile L opened self fileName openMode A).outcome ≠ .asynError log := by
  obtain ⟨hread, happend⟩ := not_or.mp hopenMode
  simp only [openFile, if_neg hread, if_neg happend]
  split
  · simp
  · cases opened <;> simp

/-- **When `openFile` is atomic.**  Whatever the object holds, `openFile` succeeds completely
or fails without an effect exactly if the mode is refused, or if there is a schema for the
array and the file can be opened. -/
theorem openFile_atomic_iff :
    OpensAtomically L opened self fileName openMode A ↔
      (openMode.read = true ∨ openMode.append = true) ∨
        (∃ t, A.dataType.ctype = some t) ∧ (L.getInfo A).colorMode.Supported ∧
          ∃ s, opened = .ok s := by
  constructor
  · rintro (⟨hsuccess, -⟩ | ⟨⟨log, hlog⟩, -⟩)
    · obtain ⟨t, s, ht, hmode, hs, -⟩ := openFile_inv hsuccess
      exact Or.inr ⟨⟨t, ht⟩, hmode, s, hs⟩
    · by_contra hnot
      exact openFile_ne_asynError (not_or.mp hnot).1 log hlog
  · intro h
    by_cases hopenMode : openMode.read = true ∨ openMode.append = true
    · rw [OpensAtomically, openFile_refused hopenMode]
      exact Or.inr ⟨⟨none, rfl⟩, rfl⟩
    · obtain ⟨⟨t, ht⟩, hmode, s, rfl⟩ := h.resolve_left hopenMode
      rw [OpensAtomically, openFile_accepted hopenMode ht hmode]
      exact Or.inl ⟨rfl, _, s, createSchema_eq_ok_iff.mpr ⟨t, ht, hmode, rfl⟩, rfl, rfl⟩

/-- A path that cannot be opened ends the process, after the schema has been replaced. -/
theorem openFile_unwritable :
    (openFile Library.reference (.error (.error 5 "No such file or directory")) {} "/missing/a"
        .NDFileModeWrite (pixelOfType .NDUInt8 [7])).outcome = .terminates ∧
      ¬ OpensAtomically Library.reference (.error (.error 5 "No such file or directory")) {}
        "/missing/a" .NDFileModeWrite (pixelOfType .NDUInt8 [7]) := by
  have hend : (openFile Library.reference (.error (.error 5 "No such file or directory")) {}
      "/missing/a" .NDFileModeWrite (pixelOfType .NDUInt8 [7])).outcome = .terminates := by
    decide
  refine ⟨hend, ?_⟩
  rintro (⟨hsuccess, -⟩ | ⟨⟨log, hlog⟩, -⟩)
  · exact absurd (hend.symm.trans hsuccess) (by simp)
  · exact absurd (hend.symm.trans hlog) (by simp)

end Opening

/-! ### Writing an array -/

/-- The calls by which a table is written in a file format. -/
def formatCalls (fileFormat : NDArrowFileFormat) (sink : Stream) (table : Table) :
    List ArrowCall :=
  match fileFormat with
  | .PARQUET => [.parquetWriteTable sink table 2048]
  | .CSV => [.MakeWriter .csv sink table.schema, .WriteTable .csv sink table,
      .CloseWriter .csv sink]
  | .IPC => [.MakeWriter .ipc sink table.schema, .WriteTable .ipc sink table,
      .CloseWriter .ipc sink]

/-- Each of these calls reports success. -/
def AllOK (fileFormat : NDArrowFileFormat) (reply : Replies) : Prop :=
  match fileFormat with
  | .PARQUET => reply.parquetWriteTable = .OK
  | .CSV | .IPC => reply.makeWriter = .OK ∧ reply.writeTable = .OK ∧ reply.closeWriter = .OK

/-- `writeFile` returns with a status, which is success exactly if a table has been built, the
file format is a known one, and every call of this format has been made and has succeeded; and
the object is left as it was. -/
structure Truthful (L : Library) (fileFormat : ℤ) (reply : Replies) (self : NDFileArrow)
    (A : NDArray) : Prop where
  returns : (writeFile L fileFormat reply self A).outcome = .asynSuccess ∨
    ∃ log, (writeFile L fileFormat reply self A).outcome = .asynError log
  success_iff : (writeFile L fileFormat reply self A).outcome = .asynSuccess ↔
    ∃ format sink built, format.value = fileFormat ∧ self.outfile = some sink ∧
      buildTable L self.schema A = .ok built ∧
      (writeFile L fileFormat reply self A).calls = formatCalls format sink built.table ∧
      AllOK format reply
  self_eq : (writeFile L fileFormat reply self A).self = self

section Writers

variable {fileFormat : ℤ} {reply : Replies} {sink : Stream} {table : Table}

lemma checkStatus_eq_success_iff {status : Status} :
    checkStatus status = .asynSuccess ↔ status = .OK := by
  cases status <;> simp [checkStatus]

lemma checkStatus_returns (status : Status) :
    checkStatus status = .asynSuccess ∨ ∃ log, checkStatus status = .asynError log := by
  cases status with
  | OK => exact Or.inl rfl
  | error code message => exact Or.inr ⟨_, rfl⟩

/-- Making, writing to and closing a writer succeeds exactly if the three calls do. -/
lemma writeWith_success_iff {kind : WriterKind} :
    (writeWith kind reply (some sink) table).2 = .asynSuccess ↔
      (writeWith kind reply (some sink) table).1 = [.MakeWriter kind sink table.schema,
        .WriteTable kind sink table, .CloseWriter kind sink] ∧
      reply.makeWriter = .OK ∧ reply.writeTable = .OK ∧ reply.closeWriter = .OK := by
  simp only [writeWith]
  split_ifs with hmake hwrite
  · simp [hmake]
  · simp [hwrite, not_not.mp hmake, checkStatus_eq_success_iff]
  · simp [hwrite, checkStatus_eq_success_iff]

lemma writeWith_returns_iff {kind : WriterKind} :
    ((writeWith kind reply (some sink) table).2 = .asynSuccess ∨
      ∃ log, (writeWith kind reply (some sink) table).2 = .asynError log) ↔
      reply.makeWriter = .OK := by
  simp only [writeWith]
  split_ifs with hmake hwrite
  · simp [hmake]
  · exact iff_of_true (checkStatus_returns _) (not_not.mp hmake)
  · exact iff_of_true (checkStatus_returns _) (not_not.mp hmake)

lemma writeTable_of_allOK {format : NDArrowFileFormat} (hok : AllOK format reply) :
    (writeTable format.value reply (some sink) table).2 = .asynSuccess := by
  cases format with
  | PARQUET => exact checkStatus_eq_success_iff.mpr hok
  | CSV | IPC =>
    obtain ⟨hmake, hwrite, hclose⟩ := hok
    simp [writeTable, writeWith, NDArrowFileFormat.value, hmake, hwrite, hclose, checkStatus]

/-- The writer of the file format succeeds exactly if each of its calls is made and does. -/
lemma writeTable_success_iff :
    (writeTable fileFormat reply (some sink) table).2 = .asynSuccess ↔
      ∃ format : NDArrowFileFormat, format.value = fileFormat ∧
        (writeTable fileFormat reply (some sink) table).1 = formatCalls format sink table ∧
        AllOK format reply := by
  constructor
  · intro h
    rw [writeTable] at h ⊢
    split_ifs at h ⊢ with hparquet hipc hcsv
    · exact ⟨.PARQUET, hparquet.symm, rfl, checkStatus_eq_success_iff.mp h⟩
    · exact ⟨.IPC, hipc.symm, writeWith_success_iff.mp h⟩
    · exact ⟨.CSV, hcsv.symm, writeWith_success_iff.mp h⟩
  · rintro ⟨format, rfl, -, hok⟩
    exact writeTable_of_allOK hok

/-- It ends with a status unless its writer cannot be made. -/
lemma writeTable_returns_iff :
    ((writeTable fileFormat reply (some sink) table).2 = .asynSuccess ∨
      ∃ log, (writeTable fileFormat reply (some sink) table).2 = .asynError log) ↔
      (fileFormat = NDArrowFileFormat.CSV.value ∨ fileFormat = NDArrowFileFormat.IPC.value →
        reply.makeWriter = .OK) := by
  rw [writeTable]
  split_ifs with hparquet hipc hcsv
  · -- the value of one format is not the value of another
    refine iff_of_true (checkStatus_returns _) ?_
    rintro (h | h) <;> exact absurd (hparquet.symm.trans h) (by decide)
  · rw [writeWith_returns_iff]
    exact ⟨fun hmake _ => hmake, fun h => h (Or.inr hipc)⟩
  · rw [writeWith_returns_iff]
    exact ⟨fun hmake _ => hmake, fun h => h (Or.inl hcsv)⟩
  · refine iff_of_true (Or.inr ⟨_, rfl⟩) ?_
    rintro (h | h)
    · exact absurd h hcsv
    · exact absurd h hipc

end Writers

/-! ### When the status tells the truth -/

/-- The buffer of an array covers the scan of the conversion. -/
def Scannable (L : Library) (A : NDArray) : Prop :=
  ∀ t, A.dataType.ctype = some t →
    Covers (Rank.ofWidth (coordTypeOf (L.getInfo A)).width)
      (seenElements (coordTypeOf (L.getInfo A)) (L.getInfo A)) (A.pData.length / t.size)

section Truthful

variable {L : Library} {fileFormat : ℤ} {reply : Replies} {self : NDFileArrow} {A : NDArray}

/-- A table is created for a type with a branch in the chain, from a buffer that covers the
scan. -/
lemma exists_createArrowTable_iff {CT : CoordType} {t : CType} {info : NDArrayInfo}
    {schema : Schema} :
    (∃ built, createArrowTableFromNDArray L CT t A info schema = .ok built) ↔
      t.Tabulated ∧ Covers (Rank.ofWidth CT.width) (seenElements CT info)
        (A.pData.length / t.size) := by
  have hscan : (∃ scan, convertScan (channelCount info.colorMode) (elementsAs t A.pData)
      (info.ySize.setWidth CT.width) (info.xSize.setWidth CT.width) = .ok scan) ↔ _ :=
    convertScan_ok_iff
  rw [length_elementsAs] at hscan
  rw [seenElements, seenRows, seenCols, ← hscan]
  constructor
  · rintro ⟨built, h⟩
    refine ⟨tabulated_of_createArrowTable h, ?_⟩
    rw [createArrowTableFromNDArray] at h
    split at h
    · exact absurd h (by simp)
    · rename_i scan hscan
      exact ⟨scan, hscan⟩
  · rintro ⟨⟨array, harray⟩, scan, hscan⟩
    rw [createArrowTableFromNDArray, hscan, harray]
    exact ⟨_, rfl⟩

/-- Among the types with a case in the switches, `writeFile` builds a table for all but
`int8_t`, where the buffer covers the scan. -/
lemma exists_buildTable_iff {t : CType} (ht : A.dataType.ctype = some t)
    (hmode : (L.getInfo A).colorMode.Supported) (hs : t.Switched) :
    (∃ built, buildTable L (some (schemaFor (L.getInfo A) t)) A = .ok built) ↔
      t ≠ .int8_t ∧ Scannable L A := by
  rw [buildTable_own hmode, if_pos hs, exists_createArrowTable_iff, hs.tabulated_iff]
  refine and_congr_right fun _ => ⟨?_, fun h => h t ht⟩
  rintro h t' ht'
  obtain rfl : t = t' := Option.some.inj (ht.symm.trans ht')
  exact h

lemma truthful_of_error {outcome : Outcome}
    (hbuild : buildTable L self.schema A = .error outcome) :
    Truthful L fileFormat reply self A ↔ ∃ log, outcome = .asynError log := by
  have hwrite : writeFile L fileFormat reply self A = ⟨outcome, self, []⟩ :=
    writeFile_of_error hbuild
  constructor
  · rintro ⟨hreturns, -, -⟩
    rw [hwrite] at hreturns
    rcases hreturns with hsuccess | hlog
    · exact absurd (hbuild.trans (congrArg Except.error hsuccess)) (buildTable_ne_error_success _)
    · exact hlog
  · rintro ⟨log, rfl⟩
    refine ⟨?_, ?_, writeFile_self ..⟩
    · rw [hwrite]
      exact Or.inr ⟨log, rfl⟩
    · refine iff_of_false (by simp [hwrite]) ?_
      rintro ⟨-, -, built, -, -, hbuilt, -⟩
      exact absurd (hbuild.symm.trans hbuilt) (by simp)

/-- Where a table is built, the status tells the truth unless the writer cannot be made. -/
lemma truthful_of_built {schema : Option Schema} {s : Stream} {built : Built}
    (hbuild : buildTable L schema A = .ok built) :
    Truthful L fileFormat reply ⟨schema, some s⟩ A ↔
      (fileFormat = NDArrowFileFormat.CSV.value ∨ fileFormat = NDArrowFileFormat.IPC.value →
        reply.makeWriter = .OK) := by
  have hwrite : writeFile L fileFormat reply ⟨schema, some s⟩ A = _ := writeFile_of_ok hbuild
  have hiff : ((writeTable fileFormat reply (some s) built.table).2 = .asynSuccess ∨
      ∃ log, (writeTable fileFormat reply (some s) built.table).2 = .asynError log) ↔ _ :=
    writeTable_returns_iff
  rw [← hiff]
  constructor
  · rintro ⟨hreturns, -, -⟩
    rwa [hwrite] at hreturns
  · intro hreturns
    refine ⟨?_, ?_, writeFile_self ..⟩
    · rwa [hwrite]
    · rw [hwrite]
      refine writeTable_success_iff.trans ?_
      constructor
      · rintro ⟨format, hformat, hcalls, hok⟩
        exact ⟨format, s, built, hformat, rfl, hbuild, hcalls, hok⟩
      · rintro ⟨format, sink, built', hformat, hsink, hbuilt, hcalls, hok⟩
        obtain rfl : s = sink := Option.some.inj hsink
        obtain rfl : built = built' := Except.ok.inj (hbuild.symm.trans hbuilt)
        exact ⟨format, hformat, hcalls, hok⟩

/-- **When the status of `writeFile` tells the truth.**  For the array that the file was opened
for: where the switches refuse the type; and otherwise where the type has a table, the buffer
covers the scan, and the writer of the file format can be made. -/
theorem writeFile_truthful_iff (h : OpenedFor L self A) :
    Truthful L fileFormat reply self A ↔
      A.dataType ∈ ([.NDUInt32, .NDInt64, .NDUInt64] : List NDDataType) ∨
        A.dataType ≠ .NDInt8 ∧ Scannable L A ∧
          (fileFormat = NDArrowFileFormat.CSV.value ∨ fileFormat = NDArrowFileFormat.IPC.value →
            reply.makeWriter = .OK) := by
  obtain ⟨t, s, ht, hmode, rfl⟩ := h.inv
  have hbuild := buildTable_own (L := L) (t := t) hmode
  rw [← not_switched_iff ht, ne_eq, ← eq_int8_iff ht]
  by_cases hs : t.Switched
  · rw [if_pos hs] at hbuild
    rw [or_iff_right (not_not.mpr hs), ← and_assoc, ← ne_eq, ← exists_buildTable_iff ht hmode hs]
    cases hbuilt : buildTable L (some (schemaFor (L.getInfo A) t)) A with
    | ok built =>
      rw [truthful_of_built hbuilt]
      exact (and_iff_right ⟨built, rfl⟩).symm
    | error outcome =>
      -- a conversion that fails does not end with a status
      rw [truthful_of_error hbuilt]
      refine iff_of_false ?_ (by simp)
      rintro ⟨log, rfl⟩
      exact createArrowTable_ne_asynError (hbuild.symm.trans hbuilt)
  · rw [if_neg hs] at hbuild
    rw [truthful_of_error hbuild]
    exact iff_of_true ⟨_, rfl⟩ (Or.inl hs)

end Truthful

/-- The status of writing the image tells the truth, also where closing the writer fails. -/
theorem writeFile_truthful_colorImage :
    Truthful Library.reference NDArrowFileFormat.IPC.value
      ⟨.OK, .OK, .OK, .error 5 "Input/output error"⟩
      (openFile Library.reference (.ok 0) {} "spots" .NDFileModeWrite colorImage).self
      colorImage := by
  have hscannable : Scannable Library.reference colorImage := by
    intro t ht
    obtain rfl : CType.uint16_t = t := Option.some.inj ht
    exact ⟨by decide, by decide⟩
  have hopened : OpenedFor Library.reference
      (openFile Library.reference (.ok 0) {} "spots" .NDFileModeWrite colorImage).self colorImage :=
    ⟨.ok 0, {}, "spots", .NDFileModeWrite, openFile_colorImage 0 {} "spots", rfl⟩
  exact (writeFile_truthful_iff hopened).mpr (Or.inr ⟨by decide, hscannable, fun _ => rfl⟩)

/-- A writer that cannot be made ends the process. -/
theorem writeFile_noWriter :
    OpenedFor Library.reference (openFile Library.reference (.ok 0) {} "dot" .NDFileModeWrite
        (pixelOfType .NDUInt8 [7])).self (pixelOfType .NDUInt8 [7]) ∧
      (writeFile Library.reference NDArrowFileFormat.CSV.value
        ⟨.OK, .error 1 "Out of memory", .OK, .OK⟩
        (openFile Library.reference (.ok 0) {} "dot" .NDFileModeWrite
          (pixelOfType .NDUInt8 [7])).self (pixelOfType .NDUInt8 [7])).outcome = .terminates ∧
      ¬ Truthful Library.reference NDArrowFileFormat.CSV.value
        ⟨.OK, .error 1 "Out of memory", .OK, .OK⟩
        (openFile Library.reference (.ok 0) {} "dot" .NDFileModeWrite
          (pixelOfType .NDUInt8 [7])).self (pixelOfType .NDUInt8 [7]) := by
  obtain ⟨s, built, hself, hbuild, -, -⟩ := writtenAs_uint8 7 0 "dot" .CSV
  have hend : (writeFile Library.reference NDArrowFileFormat.CSV.value
      ⟨.OK, .error 1 "Out of memory", .OK, .OK⟩
      (openFile Library.reference (.ok 0) {} "dot" .NDFileModeWrite
        (pixelOfType .NDUInt8 [7])).self (pixelOfType .NDUInt8 [7])).outcome = .terminates := by
    simp only [writeFile, hbuild, hself]
    rfl
  refine ⟨openedFor_uint8 7 0 "dot", hend, ?_⟩
  rintro ⟨hsuccess | ⟨log, hlog⟩, -, -⟩
  · exact absurd (hend.symm.trans hsuccess) (by simp)
  · exact absurd (hend.symm.trans hlog) (by simp)

end ADPluginArrow
