/-
# Padding an image

An image that is enlarged by pixels of value zero keeps its sparse representation, although
the conversion scans it with another stride and possibly over another coordinate type.

* `convertImgToVectors_padded` compares the two scans, through the coordinate form of the two
  images.
* `writeFile_padded` compares the files of an array and of its enlargement: only the types of
  the coordinate columns may differ.
* `padding_unseen` puts the two together.
-/
import ADPluginArrow.Conformance

namespace ADPluginArrow

open CLang

variable {w w' n : ℕ} {P : Type}

/-! ### Enlarged images -/

/-- The second buffer holds the image of the first one, enlarged by pixels that are zero in
every channel. -/
structure PaddedTo [CScalar P] (n : ℕ) (data data' : List P) (rows cols rows' cols' : ℕ) :
    Prop where
  length_eq : data.length = rows * cols * n
  length_eq' : data'.length = rows' * cols' * n
  rows_le : rows ≤ rows'
  cols_le : cols ≤ cols'
  kept : ∀ i < rows, ∀ j < cols, pixel n data' cols' i j = pixel n data cols i j
  added : ∀ i < rows', ∀ j < cols', rows ≤ i ∨ cols ≤ j →
    ∀ c, CScalar.isZero (pixel n data' cols' i j c) = true

/-- Two tuples, over possibly different coordinate types, with the same rows. -/
structure SameRows (v : VectorizedImg w n P) (v' : VectorizedImg w' n P) : Prop where
  nRows_eq : v'.nRows = v.nRows
  xCoords_eq : v'.xCoords.map BitVec.toNat = v.xCoords.map BitVec.toNat
  yCoords_eq : v'.yCoords.map BitVec.toNat = v.yCoords.map BitVec.toNat
  pixelChannels_eq : v'.pixelChannels = v.pixelChannels

/-- The vectors that a list of cells fills, over two types that both represent its
positions. -/
lemma sameRows_ofEntries {l : List (Coo.Entry (Fin n → P))}
    (h : ∀ e ∈ l, e.row < 2 ^ w ∧ e.col < 2 ^ w)
    (h' : ∀ e ∈ l, e.row < 2 ^ w' ∧ e.col < 2 ^ w') :
    SameRows (ofEntries w n l) (ofEntries w' n l) where
  nRows_eq := rfl
  xCoords_eq := by
    rw [ofEntries, ofEntries, List.map_map, List.map_map]
    refine List.map_congr_left fun e he => ?_
    simp [Nat.mod_eq_of_lt (h e he).2, Nat.mod_eq_of_lt (h' e he).2]
  yCoords_eq := by
    rw [ofEntries, ofEntries, List.map_map, List.map_map]
    refine List.map_congr_left fun e he => ?_
    simp [Nat.mod_eq_of_lt (h e he).1, Nat.mod_eq_of_lt (h' e he).1]
  pixelChannels_eq := rfl

namespace PaddedTo

variable [CScalar P] {data data' : List P} {rows cols rows' cols' : ℕ}

lemma elements_le (h : PaddedTo n data data' rows cols rows' cols') :
    rows * cols * n ≤ rows' * cols' * n :=
  Nat.mul_le_mul_right n (Nat.mul_le_mul h.rows_le h.cols_le)

lemma encode_eq (h : PaddedTo n data data' rows cols rows' cols') :
    Coo.encode blank (pixel n data' cols') rows' cols'
      = Coo.encode blank (pixel n data cols) rows cols := by
  refine Coo.encode_pad h.rows_le h.cols_le h.kept ?_
  intro i hi j hj hout
  exact blank_eq_true_iff.mpr (h.added i hi j hj hout)

end PaddedTo

/-- The conversions of an image and of its enlargement find the same rows. -/
theorem convertImgToVectors_padded [CScalar P] {data data' : List P} {rows cols : BitVec w}
    {rows' cols' : BitVec w'}
    (h : PaddedTo n data data' rows.toNat cols.toNat rows'.toNat cols'.toNat)
    (hsize : rows'.toNat * cols'.toNat * n ≤ 2 ^ 31) :
    ∃ v v', convertImgToVectors data rows cols n = .ok v ∧
      convertImgToVectors data' rows' cols' n = .ok v' ∧ SameRows v v' := by
  have hbound := (h.elements_le.trans hsize).trans (Rank.two_pow_31_le_bound (Rank.ofWidth w))
  have hbound' := hsize.trans (Rank.two_pow_31_le_bound (Rank.ofWidth w'))
  refine ⟨_, _, convertImgToVectors_eq hbound h.length_eq.ge,
    convertImgToVectors_eq hbound' h.length_eq'.ge, ?_⟩
  rw [h.encode_eq]
  refine sameRows_ofEntries ?_ ?_
  · intro e he
    obtain ⟨hi, hj, -⟩ := Coo.mem_encode.mp he
    exact ⟨hi.trans rows.isLt, hj.trans cols.isLt⟩
  · -- the cells of the image lie inside its enlargement
    intro e he
    obtain ⟨hi, hj, -⟩ := Coo.mem_encode.mp he
    exact ⟨(hi.trans_le h.rows_le).trans rows'.isLt, (hj.trans_le h.cols_le).trans cols'.isLt⟩

/-! ### Enlarged arrays -/

/-- An array and its enlargement by pixels that are zero. -/
structure PaddedArray (L : Library) (A B : NDArray) : Prop where
  dataType_eq : B.dataType = A.dataType
  colorMode_eq : (L.getInfo B).colorMode = (L.getInfo A).colorMode
  uniqueId_eq : B.uniqueId = A.uniqueId
  timeStamp_eq : B.timeStamp = A.timeStamp
  epicsTS_eq : B.epicsTS = A.epicsTS
  padded : ∀ t, A.dataType.ctype = some t →
    PaddedTo (channelCount (L.getInfo A).colorMode) (elementsAs t A.pData) (elementsAs t B.pData)
      (L.getInfo A).ySize.toNat (L.getInfo A).xSize.toNat (L.getInfo B).ySize.toNat
      (L.getInfo B).xSize.toNat

/-- Two tables with the same columns, but for the types of the coordinates. -/
structure SameValues (ct ct' : CoordType) (T T' : Table) : Prop where
  names_eq : T'.schema.fields.map Field.name = T.schema.fields.map Field.name
  cells_eq : T'.columns.map Column.cells = T.columns.map Column.cells
  types_eq : ∃ types, T.columns.map Column.type = [ct.arrowType, ct.arrowType] ++ types ∧
    T'.columns.map Column.type = [ct'.arrowType, ct'.arrowType] ++ types

/-- The columns that describe an image depend on the coordinate type in the types of the
coordinates only. -/
lemma imageColumns_padded {t : CType} {A B : NDArray} {n n' : ℕ} (hn : n' = n)
    {rows cols rows' cols' : ℕ} (ct ct' : CoordType) (huniqueId : B.uniqueId = A.uniqueId)
    (htimeStamp : B.timeStamp = A.timeStamp) (hepicsTS : B.epicsTS = A.epicsTS)
    (h : PaddedTo n (elementsAs t A.pData) (elementsAs t B.pData) rows cols rows' cols') :
    (imageColumns ct' t B (hotCells t n' B rows' cols')).map Prod.snd
        = (imageColumns ct t A (hotCells t n A rows cols)).map Prod.snd ∧
      ∃ types, (imageColumns ct t A (hotCells t n A rows cols)).map Prod.fst
          = [ct.arrowType, ct.arrowType] ++ types ∧
        (imageColumns ct' t B (hotCells t n' B rows' cols')).map Prod.fst
          = [ct'.arrowType, ct'.arrowType] ++ types := by
  subst hn
  have hcells : hotCells t n' B rows' cols' = hotCells t n' A rows cols := h.encode_eq
  rw [hcells]
  constructor
  · simp [imageColumns, huniqueId, htimeStamp, hepicsTS]
  · refine ⟨_, rfl, ?_⟩
    simp [imageColumns]

section Files

variable {L : Library} {A B : NDArray} {t : CType}

lemma PaddedArray.sameValues (h : PaddedArray L A B) (ht : A.dataType.ctype = some t)
    {ct ct' : CoordType} {columns columns' : List Column}
    (hA : Represents L ct t A columns) (hB : Represents L ct' t B columns') :
    SameValues ct ct' ⟨schemaOf ct t (channelNames (L.getInfo A).colorMode), columns⟩
      ⟨schemaOf ct' t (channelNames (L.getInfo B).colorMode), columns'⟩ := by
  have hcount : channelCount (L.getInfo B).colorMode = channelCount (L.getInfo A).colorMode :=
    congrArg channelCount h.colorMode_eq
  obtain ⟨hcells, types, htypes, htypes'⟩ := imageColumns_padded hcount ct ct' h.uniqueId_eq
    h.timeStamp_eq h.epicsTS_eq (h.padded t ht)
  rw [Represents] at hA hB
  refine ⟨?_, ?_, types, ?_, ?_⟩
  · simp [schemaOf, h.colorMode_eq]
  · rw [← hA, ← hB, List.map_map, List.map_map] at hcells
    exact hcells
  · rw [← hA, List.map_map] at htypes
    exact htypes
  · rw [← hB, List.map_map] at htypes'
    exact htypes'

/-- An image has the smaller extents, so that it fits the coordinate type of its own file. -/
lemma PaddedArray.fits (h : PaddedArray L A B) (hsized : Sized L B)
    (ht : A.dataType.ctype = some t) : Fits L (coordTypeOf (L.getInfo A)) t A := by
  have hpad := h.padded t ht
  have hnarrow : Narrowest (L.getInfo A) (coordTypeOf (L.getInfo A)) :=
    narrowest_coordTypeOf_iff.mpr
      (Or.inl ⟨hpad.cols_le.trans_lt hsized.x_lt, hpad.rows_le.trans_lt hsized.y_lt⟩)
  have hle : imageElements (L.getInfo A) ≤ imageElements (L.getInfo B) := by
    rw [imageElements, imageElements, h.colorMode_eq]
    exact Nat.mul_le_mul_right _ (Nat.mul_le_mul hpad.cols_le hpad.rows_le)
  have hlength := hpad.length_eq
  rw [length_elementsAs] at hlength
  refine ⟨hnarrow.x_lt, hnarrow.y_lt, hle.trans hsized.elements_le, ?_⟩
  rw [hlength, imageElements, Nat.mul_comm (L.getInfo A).xSize.toNat]

/-- The same tables are written for an array and for its enlargement, each to its own file. -/
theorem writeFile_padded {self self' : NDFileArrow} (hA : OpenedFor L self A)
    (hB : OpenedFor L self' B) (hsized : Sized L B) (h : PaddedArray L A B) (fileFormat : ℤ)
    (reply : Replies) :
    (writeFile L fileFormat reply self' B).outcome = (writeFile L fileFormat reply self A).outcome ∧
      List.Forall₂ (fun p p' => SameValues (coordTypeOf (L.getInfo A)) (coordTypeOf (L.getInfo B))
          p.2 p'.2)
        (handedOver (writeFile L fileFormat reply self A).calls)
        (handedOver (writeFile L fileFormat reply self' B).calls) := by
  obtain ⟨t, s, ht, hmode, rfl⟩ := hA.inv
  obtain ⟨t', s', ht', hmode', rfl⟩ := hB.inv
  obtain rfl : t = t' := by
    rw [h.dataType_eq, ht] at ht'
    exact Option.some.inj ht'
  have hfits := h.fits hsized ht
  have hfits' := hsized.fits ht'
  by_cases htab : t.Tabulated
  · obtain ⟨columns, hbuild, hview⟩ := buildTable_fits hmode Iff.rfl hfits htab
    obtain ⟨columns', hbuild', hview'⟩ := buildTable_fits hmode' Iff.rfl hfits' htab
    have hsame := h.sameValues ht hview hview'
    rw [schemaFor, schemaFor, writeFile_of_ok hbuild, writeFile_of_ok hbuild']
    obtain ⟨houtcome, hcases⟩ := writeTable_same fileFormat reply s s'
      ⟨schemaOf (coordTypeOf (L.getInfo A)) t (channelNames (L.getInfo A).colorMode), columns⟩
      ⟨schemaOf (coordTypeOf (L.getInfo B)) t (channelNames (L.getInfo B).colorMode), columns'⟩
    refine ⟨houtcome, ?_⟩
    rcases hcases with ⟨hnone, hnone'⟩ | ⟨hone, hone'⟩
    · rw [hnone, hnone']
      exact List.Forall₂.nil
    · rw [hone, hone']
      exact List.Forall₂.cons hsame List.Forall₂.nil
  · -- without a table, both end in the same way
    have hbuild := buildTable_not_tabulated hmode Iff.rfl hfits htab
    have hbuild' := buildTable_not_tabulated hmode' Iff.rfl hfits' htab
    rw [schemaFor, schemaFor, writeFile_of_error hbuild, writeFile_of_error hbuild']
    exact ⟨rfl, List.Forall₂.nil⟩

end Files

/-- **Padding is not seen.**  The conversion of an image and the conversion of an enlargement
of it by zero pixels, over any coordinate types that represent the extents, find the same
rows; and the files of an array and of its enlargement receive the same tables, but for the
types of the coordinate columns. -/
theorem padding_unseen (L : Library) (P : Type) [CScalar P] :
    (∀ (ct ct' : CoordType) (rows cols : BitVec ct.width) (rows' cols' : BitVec ct'.width) (n : ℕ)
      (data data' : List P),
      PaddedTo n data data' rows.toNat cols.toNat rows'.toNat cols'.toNat →
      rows'.toNat * cols'.toNat * n ≤ 2 ^ 31 →
      ∃ v v', convertImgToVectors data rows cols n = .ok v ∧
        convertImgToVectors data' rows' cols' n = .ok v' ∧ SameRows v v') ∧
    ∀ (A B : NDArray) (self self' : NDFileArrow), OpenedFor L self A → OpenedFor L self' B →
      Sized L B → PaddedArray L A B → ∀ (fileFormat : ℤ) (reply : Replies),
      (writeFile L fileFormat reply self' B).outcome
          = (writeFile L fileFormat reply self A).outcome ∧
        List.Forall₂ (fun p p' => SameValues (coordTypeOf (L.getInfo A))
            (coordTypeOf (L.getInfo B)) p.2 p'.2)
          (handedOver (writeFile L fileFormat reply self A).calls)
          (handedOver (writeFile L fileFormat reply self' B).calls) := by
  constructor
  · intro ct ct' rows cols rows' cols' n data data' h hsize
    exact convertImgToVectors_padded h hsize
  · intro A B self self' hA hB hsized h fileFormat reply
    exact writeFile_padded hA hB hsized h fileFormat reply

/-- A pixel with a second one of value zero beside it. -/
def paddedPixel : NDArray := { pixelOfType .NDUInt8 [7, 0] with dims := [2, 1] }

theorem padding_unseen_pixel :
    (∃ v v', convertImgToVectors [(⟨7⟩ : Value .uint8_t)] (1 : BitVec 8) 1 1 = .ok v ∧
      convertImgToVectors [(⟨7⟩ : Value .uint8_t), ⟨0⟩] (1 : BitVec 16) 2 1 = .ok v' ∧
      SameRows v v') ∧
    (writeFile Library.reference NDArrowFileFormat.IPC.value .ok
        (openFile Library.reference (.ok 1) {} "padded" .NDFileModeWrite paddedPixel).self
        paddedPixel).outcome
      = (writeFile Library.reference NDArrowFileFormat.IPC.value .ok
        (openFile Library.reference (.ok 0) {} "dot" .NDFileModeWrite
          (pixelOfType .NDUInt8 [7])).self (pixelOfType .NDUInt8 [7])).outcome := by
  have hopen := openedFor_uint8 7 0 "dot"
  have hopen' : OpenedFor Library.reference (openFile Library.reference (.ok 1) {} "padded"
      .NDFileModeWrite paddedPixel).self paddedPixel := ⟨_, _, _, _, by decide, rfl⟩
  have hsized : Sized Library.reference paddedPixel :=
    ⟨by decide, by decide, by decide, by decide⟩
  have hpad : PaddedTo 1 [(⟨7⟩ : Value .uint8_t)] [⟨7⟩, ⟨0⟩] 1 1 1 2 :=
    ⟨rfl, rfl, by decide, by decide, by decide, by decide⟩
  have harray : PaddedArray Library.reference (pixelOfType .NDUInt8 [7]) paddedPixel := by
    refine ⟨rfl, rfl, rfl, rfl, rfl, ?_⟩
    rintro t ⟨rfl⟩
    exact hpad
  exact ⟨(padding_unseen Library.reference (Value .uint8_t)).1 .uint8_t .uint16_t 1 1 1 2 1 _ _ hpad
      (by decide),
    ((padding_unseen Library.reference (Value .uint8_t)).2 _ _ _ _ hopen hopen' hsized harray
      _ _).1⟩

end ADPluginArrow
