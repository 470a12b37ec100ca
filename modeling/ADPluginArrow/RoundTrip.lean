/-
# Decoding a file

A table is decoded by the names of its columns: each of its rows is stored, into an image of
zeros, at the pixel that the columns `X` and `Y` name.  `openFile_writeFile_decodes` says that
the table of a written array decodes to the array.
-/
import ADPluginArrow.Conformance

namespace ADPluginArrow

/-! ### Decoding -/

namespace Table

/-- The values of the column of a given name. -/
def column (T : Table) (name : String) : List ℕ :=
  (((T.schema.fields.map Field.name).zip (T.columns.map Column.cells)).lookup name).getD []

/-- The rows of a table: the pixel that `X` and `Y` name, with the values of the channels. -/
def rows (T : Table) (channels : List String) : List (Coo.Entry (List ℕ)) :=
  (List.range (T.column "X").length).map fun k =>
    ⟨(T.column "Y").getD k 0, (T.column "X").getD k 0,
      (channels.map T.column).map fun values => values.getD k 0⟩

/-- The image of a table: its rows stored, one after the other, in an image of zeros. -/
def image (T : Table) (channels : List String) : ℕ → ℕ → List ℕ :=
  Coo.scatter (List.replicate channels.length 0) (T.rows channels)

end Table

/-- The bit patterns of the channels of a pixel. -/
def channelBits {t : CType} {n : ℕ} (p : Fin n → Value t) : List ℕ :=
  (List.finRange n).map fun c => (p c).bits.toNat

/-- The channels of a pixel of an array, read as elements of type `t`. -/
abbrev pixelOf (L : Library) (t : CType) (A : NDArray) (i j : ℕ) :
    Fin (channelCount (L.getInfo A).colorMode) → Value t :=
  pixel _ (elementsAs t A.pData) (L.getInfo A).xSize.toNat i j

/-- A table decodes to an array: stored into an image of zeros, its rows, all of which lie inside
the extents of the array and have different positions, give the channels of every pixel of the
array, and zeros where all of its channels compare equal to zero; only such pixels are left out,
and every row carries the attributes of the array. -/
structure Decodes (L : Library) (t : CType) (A : NDArray) (T : Table) : Prop where
  inside : ∀ e ∈ T.rows (channelNames (L.getInfo A).colorMode),
    e.row < (L.getInfo A).ySize.toNat ∧ e.col < (L.getInfo A).xSize.toNat
  restored : ∀ i < (L.getInfo A).ySize.toNat, ∀ j < (L.getInfo A).xSize.toNat,
    (∃ c, CScalar.isZero (pixelOf L t A i j c) = false) →
      T.image (channelNames (L.getInfo A).colorMode) i j = channelBits (pixelOf L t A i j)
  zero : ∀ i < (L.getInfo A).ySize.toNat, ∀ j < (L.getInfo A).xSize.toNat,
    (∀ c, CScalar.isZero (pixelOf L t A i j c) = true) →
      T.image (channelNames (L.getInfo A).colorMode) i j
        = List.replicate (channelCount (L.getInfo A).colorMode) 0
  left_out : ∀ i < (L.getInfo A).ySize.toNat, ∀ j < (L.getInfo A).xSize.toNat,
    (∀ e ∈ T.rows (channelNames (L.getInfo A).colorMode), ¬ (e.row = i ∧ e.col = j)) →
      ∀ c, CScalar.isZero (pixelOf L t A i j c) = true
  distinct : (T.rows (channelNames (L.getInfo A).colorMode)).Pairwise
    fun e e' => ¬ (e.row = e'.row ∧ e.col = e'.col)
  aligned : ∀ name ∈ "Y" :: channelNames (L.getInfo A).colorMode,
    (T.column name).length = (T.rows (channelNames (L.getInfo A).colorMode)).length
  attributes : ["NDArrayUniqueId", "NDArrayTimestamp", "NDArrayEpicsTSSec",
      "NDArrayEpicsTSnSec"].map T.column
    = [A.uniqueId.toNat, A.timeStamp.toNat, A.epicsTS.secPastEpoch.toNat,
      A.epicsTS.nsec.toNat].map
        (List.replicate (T.rows (channelNames (L.getInfo A).colorMode)).length)

/-! ### The columns by name -/

/-- Looking all the names of a zip up returns its values in order. -/
lemma map_lookup_zip {β : Type} {names : List String} {values : List β} (hnodup : names.Nodup)
    (hlength : names.length = values.length) :
    names.map (fun name => (names.zip values).lookup name) = values.map some := by
  induction names generalizing values with
  | nil => simp [List.length_eq_zero_iff.mp hlength.symm]
  | cons name names ih =>
    cases values with
    | nil => exact absurd hlength (by simp)
    | cons value values =>
      obtain ⟨hname, hnodup⟩ := List.nodup_cons.mp hnodup
      rw [List.map_cons, List.map_cons, ← ih hnodup (by simpa using hlength), List.zip_cons_cons,
        List.lookup_cons_self]
      refine congrArg (some value :: ·) (List.map_congr_left fun other hother => ?_)
      have hne : other ≠ name := fun h => hname (h ▸ hother)
      rw [List.lookup_cons, beq_eq_false_iff_ne.mpr hne]

lemma map_column_names {T : Table} (hnodup : (T.schema.fields.map Field.name).Nodup)
    (hlength : T.columns.length = T.schema.fields.length) :
    (T.schema.fields.map Field.name).map T.column = T.columns.map Column.cells := by
  have hlength' : (T.schema.fields.map Field.name).length
      = (T.columns.map Column.cells).length := by simp [hlength]
  calc
    (T.schema.fields.map Field.name).map T.column
      = ((T.schema.fields.map Field.name).map fun name =>
          ((T.schema.fields.map Field.name).zip (T.columns.map Column.cells)).lookup name).map
            (fun values => values.getD []) := by
      simp only [List.map_map]
      rfl
    _ = ((T.columns.map Column.cells).map some).map fun values => values.getD [] := by
      rw [map_lookup_zip hnodup hlength']
    _ = T.columns.map Column.cells := by simp [Function.comp_def]

section Columns

variable {L : Library} {ct : CoordType} {t : CType} {A : NDArray} {columns : List Column}

/-- The columns of the table of an array, by their names. -/
lemma column_of_represents (hmode : (L.getInfo A).colorMode.Supported)
    (h : Represents L ct t A columns) {T : Table}
    (hT : T = ⟨schemaOf ct t (channelNames (L.getInfo A).colorMode), columns⟩) :
    ["X", "Y"].map T.column
        = [(hotPixels L t A).map Coo.Entry.col, (hotPixels L t A).map Coo.Entry.row] ∧
      (channelNames (L.getInfo A).colorMode).map T.column
        = (List.finRange _).map (fun c => (hotPixels L t A).map fun e => (e.val c).bits.toNat) ∧
      ["NDArrayUniqueId", "NDArrayTimestamp", "NDArrayEpicsTSSec",
          "NDArrayEpicsTSnSec"].map T.column
        = [A.uniqueId.toNat, A.timeStamp.toNat, A.epicsTS.secPastEpoch.toNat,
          A.epicsTS.nsec.toNat].map (List.replicate (hotPixels L t A).length) := by
  have hnames : (channelNames (L.getInfo A).colorMode).length
      = channelCount (L.getInfo A).colorMode := length_channelNames hmode
  have hwidth : columns.length
      = (schemaOf ct t (channelNames (L.getInfo A).colorMode)).fields.length := by
    have htypes := congrArg List.length (h.conform hmode).1
    rwa [List.length_map, List.length_map] at htypes
  have hcells : columns.map Column.cells
      = (imageColumns ct t A (hotPixels L t A)).map Prod.snd := by
    rw [← h, List.map_map]
    rfl
  subst hT
  have hall := map_column_names (T := ⟨_, columns⟩) (nodup_names ct t) hwidth
  rw [hcells] at hall
  -- both sides are the coordinates, the channels and the attributes, in this order
  simp only [imageColumns, List.map_append, List.map_map] at hall
  obtain ⟨hfront, hattributes⟩ := List.append_inj' hall rfl
  obtain ⟨hcoords, hchannels⟩ := List.append_inj hfront rfl
  exact ⟨hcoords, hchannels, hattributes⟩

lemma rows_of_represents (hmode : (L.getInfo A).colorMode.Supported)
    (h : Represents L ct t A columns) {T : Table}
    (hT : T = ⟨schemaOf ct t (channelNames (L.getInfo A).colorMode), columns⟩) :
    T.rows (channelNames (L.getInfo A).colorMode)
      = (hotPixels L t A).map (Coo.Entry.map channelBits) := by
  obtain ⟨hcoords, hchannels, -⟩ := column_of_represents hmode h hT
  obtain ⟨hX, hcoords⟩ := List.cons_eq_cons.mp hcoords
  obtain ⟨hY, -⟩ := List.cons_eq_cons.mp hcoords
  rw [Table.rows, hX, hY, hchannels]
  refine List.ext_getElem (by simp) fun k _ hk => ?_
  have hk : k < (hotPixels L t A).length := by simpa using hk
  simp [channelBits, Coo.Entry.map, List.getElem?_eq_getElem hk]

lemma channelBits_zero (n : ℕ) :
    channelBits (fun _ : Fin n => (CScalar.zero : Value t)) = List.replicate n 0 := by
  rw [channelBits, List.map_const', List.length_finRange]
  rfl

/-- The image of the table of an array, where the pixels that are left out are zero. -/
lemma image_of_represents (hmode : (L.getInfo A).colorMode.Supported)
    (h : Represents L ct t A columns) {T : Table}
    (hT : T = ⟨schemaOf ct t (channelNames (L.getInfo A).colorMode), columns⟩) {i j : ℕ}
    (hi : i < (L.getInfo A).ySize.toNat) (hj : j < (L.getInfo A).xSize.toNat) :
    T.image (channelNames (L.getInfo A).colorMode) i j
      = channelBits (if blank (pixelOf L t A i j) then fun _ => CScalar.zero
          else pixelOf L t A i j) := by
  rw [Table.image, rows_of_represents hmode h hT, length_channelNames hmode,
    ← channelBits_zero (t := t), Coo.scatter_map, hotPixels, hotCells, Coo.scatter_encode hi hj]

lemma Represents.decodes (hmode : (L.getInfo A).colorMode.Supported)
    (h : Represents L ct t A columns) {T : Table}
    (hT : T = ⟨schemaOf ct t (channelNames (L.getInfo A).colorMode), columns⟩) :
    Decodes L t A T := by
  have hrows := rows_of_represents hmode h hT
  have hlength : (T.rows (channelNames (L.getInfo A).colorMode)).length
      = (hotPixels L t A).length := by rw [hrows, List.length_map]
  obtain ⟨hcoords, hchannels, hattributes⟩ := column_of_represents hmode h hT
  refine ⟨?_, ?_, ?_, ?_, ?_, ?_, ?_⟩
  · intro e he
    obtain ⟨e', he', rfl⟩ := List.mem_map.mp (hrows ▸ he)
    obtain ⟨hi, hj, -, -⟩ := Coo.mem_encode.mp he'
    exact ⟨hi, hj⟩
  · intro i hi j hj hlit
    rw [image_of_represents hmode h hT hi hj, blank_eq_false_iff.mpr hlit]
    rfl
  · intro i hi j hj hzero
    rw [image_of_represents hmode h hT hi hj, if_pos (blank_eq_true_iff.mpr hzero),
      channelBits_zero]
  · -- a pixel with a non-zero channel is one of the hot pixels
    intro i hi j hj hnone
    by_contra hnot
    have hblank : blank (pixelOf L t A i j) = false :=
      blank_eq_false_iff.mpr (by simpa using hnot)
    have hmem : ⟨i, j, pixelOf L t A i j⟩ ∈ hotPixels L t A :=
      Coo.mem_encode.mpr ⟨hi, hj, rfl, hblank⟩
    exact hnone _ (hrows ▸ List.mem_map_of_mem hmem) ⟨rfl, rfl⟩
  · have hcanonical : Coo.Canonical blank _ _ (hotPixels L t A) := Coo.encode_canonical
    rw [hrows, List.pairwise_map]
    refine hcanonical.sorted.imp ?_
    intro e e' hlt heq
    exact absurd (Coo.Entry.pos_eq_iff.mpr heq) (ne_of_lt hlt)
  · intro name hname
    have hcolumn : T.column name ∈ (hotPixels L t A).map Coo.Entry.row ::
        (List.finRange _).map (fun c => (hotPixels L t A).map fun e => (e.val c).bits.toNat) := by
      rw [← hchannels, ← (List.cons_eq_cons.mp (List.cons_eq_cons.mp hcoords).2).1]
      exact List.mem_map_of_mem (f := T.column) hname
    rw [hlength]
    rcases List.mem_cons.mp hcolumn with hY | hchannel
    · rw [hY, List.length_map]
    · obtain ⟨c, -, hc⟩ := List.mem_map.mp hchannel
      rw [← hc, List.length_map]
  · rw [hattributes, hlength]

end Columns

/-! ### The round trip -/

/-- Where opening a file for an array and writing the array to it both succeed, the table that is
handed over represents the array. -/
lemma exists_handedOver_represents {L : Library} {opened : Except Status Stream}
    {self : NDFileArrow} {fileName : String} {openMode : NDFileOpenMode} {A : NDArray}
    {fileFormat : ℤ} {reply : Replies} (hsized : Sized L A)
    (hopen : (openFile L opened self fileName openMode A).outcome = .asynSuccess)
    (hwrite : (writeFile L fileFormat reply
      (openFile L opened self fileName openMode A).self A).outcome = .asynSuccess) :
    ∃ s t columns, opened = .ok s ∧ A.dataType.ctype = some t ∧
      (L.getInfo A).colorMode.Supported ∧ Represents L (coordTypeOf (L.getInfo A)) t A columns ∧
      handedOver (writeFile L fileFormat reply
        (openFile L opened self fileName openMode A).self A).calls
          = [(s, ⟨schemaOf (coordTypeOf (L.getInfo A)) t
            (channelNames (L.getInfo A).colorMode), columns⟩)] := by
  obtain ⟨t, s, ht, hmode, hs, heq⟩ := openFile_inv hopen
  rw [heq] at hwrite ⊢
  obtain ⟨built, hbuilt, hhanded⟩ := writeFile_success rfl hwrite
  obtain ⟨-, columns, rfl, hview⟩ := buildTable_inv hmode Iff.rfl (hsized.fits ht) hbuilt
  exact ⟨s, t, columns, hs, ht, hmode, hview, hhanded⟩

/-- **The round trip.**  Where opening a file for an array and writing the array to it both
succeed, exactly one table is handed over, to the stream of the file, and it decodes to the
array. -/
theorem openFile_writeFile_decodes {L : Library} {opened : Except Status Stream}
    {self : NDFileArrow} {fileName : String} {openMode : NDFileOpenMode} {A : NDArray}
    {fileFormat : ℤ} {reply : Replies} (hsized : Sized L A)
    (hopen : (openFile L opened self fileName openMode A).outcome = .asynSuccess)
    (hwrite : (writeFile L fileFormat reply
      (openFile L opened self fileName openMode A).self A).outcome = .asynSuccess) :
    ∃ s t T, opened = .ok s ∧ A.dataType.ctype = some t ∧
      handedOver (writeFile L fileFormat reply
        (openFile L opened self fileName openMode A).self A).calls = [(s, T)] ∧
      Decodes L t A T := by
  obtain ⟨s, t, columns, hs, ht, hmode, hview, hhanded⟩ :=
    exists_handedOver_represents hsized hopen hwrite
  exact ⟨s, t, _, hs, ht, hhanded, hview.decodes hmode rfl⟩

/-- The image is restored from its four rows. -/
theorem openFile_writeFile_decodes_colorImage :
    ∃ s t T, (Except.ok 0 : Except Status Stream) = .ok s ∧
      NDDataType.NDUInt16.ctype = some t ∧
      handedOver (writeFile Library.reference NDArrowFileFormat.CSV.value .ok
        (openFile Library.reference (.ok 0) {} "spots" .NDFileModeWrite colorImage).self
          colorImage).calls = [(s, T)] ∧
      Decodes Library.reference t colorImage T ∧
      T.image ["R", "G", "B"] 0 1 = [0, 0, 0] ∧ T.image ["R", "G", "B"] 1 1 = [65535, 1, 2] := by
  obtain ⟨-, -, -, -, -, hsuccess⟩ := writtenAs_colorImage 0 {} "spots" .CSV
  obtain ⟨s, t, T, hs, ht, hhanded, hdecodes⟩ :=
    openFile_writeFile_decodes sized_colorImage (openFile_colorImage 0 {} "spots") hsuccess
  refine ⟨s, t, T, hs, ht, hhanded, hdecodes, ?_, ?_⟩
  · obtain rfl : CType.uint16_t = t := Option.some.inj ht
    exact hdecodes.zero 0 (by decide) 1 (by decide) (by decide)
  · obtain rfl : CType.uint16_t = t := Option.some.inj ht
    exact hdecodes.restored 1 (by decide) 1 (by decide) (by decide)

end ADPluginArrow
