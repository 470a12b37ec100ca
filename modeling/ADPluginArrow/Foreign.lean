/-
# Writing another array

The schema belongs to the array that the file was opened for, while `writeFile` takes the
colour mode and the extents from the array that it is given, and compares neither with the
schema.  Threads that overlap do write other arrays to a file (see `Threads`);
`writeFile_receivesOnly` says which ones the file receives as they are.
-/
import ADPluginArrow.Shape

namespace ADPluginArrow

/-- Writing an array to an open file never looks a missing field up, and either fails without
handing anything over, or hands one table over: the table of this array, in its own type, with
its own extents and channels, which has the columns of its schema and decodes to the array.
(Where no writer can be made, the process ends instead.) -/
def ReceivesOnly (L : Library) (self : NDFileArrow) (B : NDArray) : Prop :=
  ∀ fileFormat reply,
    (writeFile L fileFormat reply self B).outcome ≠ .undefined .nullPointer ∧
    ((handedOver (writeFile L fileFormat reply self B).calls = [] ∧
        ((∃ log, (writeFile L fileFormat reply self B).outcome = .asynError log) ∨
          reply.makeWriter ≠ .OK ∧
            (writeFile L fileFormat reply self B).outcome = .terminates)) ∨
      ∃ s ct t T, self.outfile = some s ∧ self.schema = some T.schema ∧
        handedOver (writeFile L fileFormat reply self B).calls = [(s, T)] ∧
        B.dataType.ctype = some t ∧ (L.getInfo B).colorMode.Supported ∧
        Represents L ct t B T.columns ∧
        T.columns.map Column.type = T.schema.fields.map Field.type ∧ Decodes L t B T)

/-! ### Arrays that the file can receive -/

section

variable {L : Library} {A B : NDArray} {t : CType} {s : Stream}

lemma receivesOnly_of_tabulated (hmode : (L.getInfo A).colorMode.Supported)
    (hsame : (L.getInfo B).colorMode = (L.getInfo A).colorMode)
    (ht : B.dataType.ctype = some t) (hfits : Fits L (coordTypeOf (L.getInfo A)) t B)
    (htab : t.Tabulated) : ReceivesOnly L ⟨some (schemaFor (L.getInfo A) t), some s⟩ B := by
  obtain ⟨columns, hbuild, hview⟩ := buildTable_fits hmode (by rw [hsame]) hfits htab
  have hbuild : buildTable L (some (schemaFor (L.getInfo A) t)) B = _ := hbuild
  intro fileFormat reply
  rw [writeFile_of_ok hbuild]
  obtain ⟨hnull, hcases⟩ := writeTable_delivered fileFormat reply s
    ⟨schemaFor (L.getInfo A) t, columns⟩
  refine ⟨hnull, hcases.imp_right fun hone => ?_⟩
  -- the schema of `A` has the channels of `B`, of the same type
  have hmodeB : (L.getInfo B).colorMode.Supported := hsame ▸ hmode
  have htypes := (hview.conform hmodeB).1
  rw [hsame] at htypes
  exact ⟨s, _, t, _, rfl, rfl, hone, ht, hmodeB, hview, htypes,
    hview.decodes hmodeB (by rw [hsame]; rfl)⟩

/-- A file whose type the switches refuse receives nothing. -/
lemma receivesOnly_of_not_switched (hmode : (L.getInfo A).colorMode.Supported)
    (hmono : (L.getInfo B).colorMode = .NDColorModeMono ↔
      (L.getInfo A).colorMode = .NDColorModeMono) (hs : ¬ t.Switched) :
    ReceivesOnly L ⟨some (schemaFor (L.getInfo A) t), some s⟩ B := by
  have hbuild : buildTable L (some (schemaFor (L.getInfo A) t)) B = _ := buildTable_eq hmode
  rw [if_pos hmono, if_neg hs] at hbuild
  intro fileFormat reply
  rw [writeFile_of_error hbuild]
  exact ⟨by simp, Or.inl ⟨rfl, Or.inl ⟨_, rfl⟩⟩⟩

end

/-- **Which other arrays a file receives as they are.**  If the switches refuse the type of the
file, it receives nothing, as long as the array is Mono where the array of the file is.  Otherwise
it receives the arrays of the expected size that have the colour mode and the data type of the
array that it was opened for, and extents that the coordinate type of the file represents. -/
theorem writeFile_receivesOnly {L : Library} {opened : Except Status Stream}
    {self : NDFileArrow} {fileName : String} {openMode : NDFileOpenMode} {A B : NDArray}
    (hopen : (openFile L opened self fileName openMode A).outcome = .asynSuccess)
    (hB : A.dataType ∈ ([.NDUInt32, .NDInt64, .NDUInt64] : List NDDataType) ∧
        ((L.getInfo B).colorMode = .NDColorModeMono ↔
          (L.getInfo A).colorMode = .NDColorModeMono) ∨
      Sized L B ∧ (L.getInfo B).colorMode = (L.getInfo A).colorMode ∧
        B.dataType = A.dataType ∧ A.dataType ≠ .NDInt8 ∧
        (L.getInfo B).xSize.toNat < 2 ^ (coordTypeOf (L.getInfo A)).width ∧
        (L.getInfo B).ySize.toNat < 2 ^ (coordTypeOf (L.getInfo A)).width) :
    ReceivesOnly L (openFile L opened self fileName openMode A).self B := by
  obtain ⟨t, s, ht, hmode, -, heq⟩ := openFile_inv hopen
  rw [heq]
  rcases hB with ⟨hrefused, hmono⟩ | ⟨hsized, hsame, htype, hint8, hx, hy⟩
  · exact receivesOnly_of_not_switched hmode hmono ((not_switched_iff ht).mpr hrefused)
  · by_cases hs : t.Switched
    · have htB : B.dataType.ctype = some t := htype ▸ ht
      have htab : t.Tabulated :=
        hs.tabulated_iff.mpr fun heq => hint8 ((eq_int8_iff ht).mp heq)
      exact receivesOnly_of_tabulated hmode hsame htB
        ⟨hx, hy, hsized.elements_le, (hsized.elements_eq htB).ge⟩ htab
    · exact receivesOnly_of_not_switched hmode (by rw [hsame]) hs

/-- The file of a single pixel receives the image of the same type. -/
theorem writeFile_receivesOnly_colorImage :
    ReceivesOnly Library.reference (openFile Library.reference (.ok 0) {} "dot" .NDFileModeWrite
      { colorImage with dims := [3, 1, 1], pData := [1, 0, 2, 0, 3, 0] }).self colorImage := by
  have hopen : (openFile Library.reference (.ok 0) {} "dot" .NDFileModeWrite
      { colorImage with dims := [3, 1, 1], pData := [1, 0, 2, 0, 3, 0] }).outcome
      = .asynSuccess := by rw [openFile_eq (t := .uint16_t) rfl (Or.inr rfl)]
  exact writeFile_receivesOnly hopen
    (Or.inr ⟨sized_colorImage, rfl, rfl, by decide, by decide, by decide⟩)

/-- A single RGB1 pixel. -/
def colorPixel : NDArray where
  uniqueId := 2
  timeStamp := 0
  epicsTS := ⟨0, 0⟩
  dims := [3, 1, 1]
  colorModeAttribute := some .NDColorModeRGB1
  dataType := .NDUInt8
  pData := [1, 2, 3]

/-- Written to the file of a Mono array, it makes `writeFile` look up the missing field `R`. -/
theorem writeFile_colorPixel :
    (openFile Library.reference (.ok 0) {} "dot" .NDFileModeWrite
        (pixelOfType .NDUInt8 [7])).outcome = .asynSuccess ∧
      Sized Library.reference colorPixel ∧
      ¬ ReceivesOnly Library.reference (openFile Library.reference (.ok 0) {} "dot"
        .NDFileModeWrite (pixelOfType .NDUInt8 [7])).self colorPixel := by
  have hopen : openFile Library.reference (.ok 0) {} "dot" .NDFileModeWrite
      (pixelOfType .NDUInt8 [7]) = _ := openFile_eq (t := .uint8_t) rfl (Or.inl rfl)
  have hbuild : buildTable Library.reference
      (some (schemaFor (Library.reference.getInfo (pixelOfType .NDUInt8 [7])) .uint8_t))
      colorPixel = .error (.undefined .nullPointer) :=
    (buildTable_eq (Or.inl rfl)).trans (if_neg (by decide))
  refine ⟨by decide, ⟨by decide, by decide, by decide, by decide⟩, ?_⟩
  intro h
  refine (h NDArrowFileFormat.PARQUET.value .ok).1 ?_
  rw [hopen, writeFile]
  simp only [hbuild]

end ADPluginArrow
