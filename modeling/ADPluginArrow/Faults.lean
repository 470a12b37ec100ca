/-
# Every conversion

`convertScan_eq` is about the images whose positions are representable and inside the buffer.
This file is about all the others, too: `convertImgToVectors_total` says, for every image, every
buffer and every coordinate type, which fault the conversion commits, or what it collects.

A conversion in `int` stops at the end of the buffer or at the largest `int`, whichever comes
first.  A conversion in `unsigned int` has no largest position: it starts again at the beginning
of the buffer, and collects the elements that it finds there once more.

The second part carries this over to the table of an array under the schema of any file.
-/
import ADPluginArrow.Conformance

namespace ADPluginArrow

open CLang

variable {w n : ℕ} {P : Type} [CScalar P]

/-! ### The positions that are read -/

/-- The position at which an element is read, in the type of the index. -/
def position (r : Rank) (cols n i j c : ℕ) : ℕ := r.wrap (RowMajor.flat cols n i j c)

lemma eq_position_of_pixelIndex {r : Rank} {i cols j c k : ℕ}
    (h : pixelIndex r i cols j n c = some k) : k = position r cols n i j c := by
  cases r with
  | int => exact pixelIndex_int h
  | unsignedInt =>
    rw [pixelIndex_unsignedInt] at h
    exact (Option.some.inj h).symm

omit [CScalar P] in
lemma readsAt_position {r : Rank} {data : List P} {rows cols : ℕ}
    (h : Covers r (rows * cols * n) data.length) {i j c : ℕ} (hi : i < rows) (hj : j < cols)
    (hc : c < n) : ReadsAt n r data cols (position r cols n) i j c := by
  obtain ⟨k, hk, hindex⟩ := covers_iff.mp h i hi j hj c hc
  obtain rfl := eq_position_of_pixelIndex hindex
  exact ⟨hindex, hk⟩

lemma range_map_wrap (r : Rank) (rows cols n : ℕ) :
    (List.range (rows * cols * n)).map r.wrap = (List.range rows).flatMap fun i =>
      (List.range cols).flatMap fun j => (List.range n).map fun c => position r cols n i j c := by
  simp only [RowMajor.range_eq_flatMap, List.map_flatMap, List.map_map, position, Function.comp_def]

/-! ### Faults -/

/-- The fault of a scan over `total` positions of a buffer of `length` elements, if it commits
one. -/
def scanFault : Rank → ℕ → ℕ → Option Fault
  | .int, total, length =>
    if total ≤ 2 ^ 31 ∧ total ≤ length then none
    else if length < 2 ^ 31 then some .outOfBounds
    else some .signedOverflow
  | .unsignedInt, total, length =>
    if min total (2 ^ 32) ≤ length then none else some .outOfBounds

lemma scanFault_eq_none_iff {r : Rank} {total length : ℕ} :
    scanFault r total length = none ↔ Covers r total length := by
  cases r <;> rw [scanFault] <;> split_ifs with h
  · exact iff_of_true rfl h
  · exact iff_of_false (by simp) h
  · exact iff_of_false (by simp) h
  · exact iff_of_true rfl h
  · exact iff_of_false (by simp) h

lemma readChannel_error {r : Rank} {data : List P} {cols i j : ℕ} {s : PixelRead n P} {c : Fin n}
    {fault : Fault} (h : readChannel r data cols i j s c = .error fault) :
    pixelIndex r i cols j n c = none ∧ fault = .signedOverflow ∨
      ∃ k, pixelIndex r i cols j n c = some k ∧ data.length ≤ k ∧ fault = .outOfBounds := by
  rw [readChannel] at h
  split at h
  · rename_i hindex
    exact Or.inl ⟨hindex, (Except.error.inj h).symm⟩
  · rename_i k hindex
    split at h
    · rename_i hnone
      exact Or.inr ⟨k, hindex, List.getElem?_eq_none_iff.mp hnone, (Except.error.inj h).symm⟩
    · exact absurd h (by simp)

lemma exists_index_of_scanPixel {data : List P} {cols i j : BitVec w} {s s' : Scan w n P}
    (h : scanPixel data cols i j s = .ok s') (c : Fin n) :
    ∃ k < data.length, pixelIndex (Rank.ofWidth w) i.toNat cols.toNat j.toNat n c = some k := by
  rw [scanPixel] at h
  cases hread : readPixel n (Rank.ofWidth w) data cols.toNat i.toNat j.toNat with
  | error e =>
    rw [hread] at h
    exact absurd h (by simp [bind, Except.bind])
  | ok p =>
    obtain ⟨before, after, hchannel⟩ := exists_ok_of_foldlM_ok hread c (List.mem_finRange c)
    exact exists_readChannel_ok_iff.mp ⟨after, hchannel⟩

/-- The iterations before one that is reached have found their elements. -/
lemma Reached.before {data : List P} {rows cols i j : BitVec w} {c : Fin n}
    (h : Reached data rows cols i j c) {i' j' c' : ℕ} (hj' : j' < cols.toNat) (hc' : c' < n)
    (hlt : RowMajor.flat cols.toNat n i' j' c' < RowMajor.flat cols.toNat n i.toNat j.toNat c) :
    ∃ k < data.length, pixelIndex (Rank.ofWidth w) i' cols.toNat j' n c' = some k := by
  obtain ⟨-, hj, ⟨above, left, habove, hleft⟩, before, hbefore⟩ := h
  have hj : j.toNat < cols.toNat := BitVec.lt_def.mp hj
  -- the iteration lies in a row above, to the left, or before it in the same pixel
  have hcases : i' < i.toNat ∨ i' = i.toNat ∧ (j' < j.toNat ∨ j' = j.toNat ∧ c' < c) := by
    by_contra hnot
    have hge : (i.toNat < i' ∨ i.toNat = i' ∧ (j.toNat < j' ∨ j.toNat = j' ∧ c < c')) ∨
        i' = i.toNat ∧ j' = j.toNat ∧ c' = c := by omega
    rcases hge with hgt | ⟨rfl, rfl, rfl⟩
    · exact absurd hlt (RowMajor.flat_lt_flat hj c.isLt hgt).not_gt
    · exact absurd hlt (lt_irrefl _)
  rcases hcases with hi | ⟨rfl, hj'' | ⟨rfl, hc⟩⟩
  · exact covers_iff.mp (convertScan_ok_iff.mp ⟨above, habove⟩) i' hi j' hj' c' hc'
  · have hofNat : (BitVec.ofNat w j').toNat = j' := Nat.mod_eq_of_lt (hj'.trans cols.isLt)
    obtain ⟨s, s', hpixel⟩ := exists_ok_of_forUpto hleft (BitVec.ofNat w j')
      (by rwa [BitVec.lt_def, hofNat])
    have hindex := exists_index_of_scanPixel hpixel ⟨c', hc'⟩
    rwa [hofNat] at hindex
  · have hmem : (⟨c', hc'⟩ : Fin n) ∈ (List.finRange n).take c := by
      rw [List.mem_take_iff_getElem]
      exact ⟨c', by simp [hc], by simp⟩
    obtain ⟨s, s', hchannel⟩ := exists_ok_of_foldlM_ok hbefore _ hmem
    exact exists_readChannel_ok_iff.mp ⟨s', hchannel⟩

/-- The fault of a conversion that fails: it stops at the end of the buffer unless the largest
`int` comes first. -/
lemma scanFault_of_error {data : List P} {rows cols : BitVec w} {fault : Fault}
    (h : convertScan n data rows cols = .error fault) :
    scanFault (Rank.ofWidth w) (rows.toNat * cols.toNat * n) data.length = some fault := by
  have hnot : ¬ Covers (Rank.ofWidth w) (rows.toNat * cols.toNat * n) data.length := by
    intro hcovers
    obtain ⟨scan, hscan⟩ := convertScan_ok_iff.mpr hcovers
    exact absurd (h.symm.trans hscan) (by simp)
  obtain ⟨i, j, c, before, hreached, hchannel⟩ := exists_readChannel_error h
  have hi := BitVec.lt_def.mp hreached.row_lt
  have hj := BitVec.lt_def.mp hreached.col_lt
  have htotal := RowMajor.flat_lt hi hj c.isLt
  have hprior : ∀ i' j' c', j' < cols.toNat → c' < n →
      RowMajor.flat cols.toNat n i' j' c' < RowMajor.flat cols.toNat n i.toNat j.toNat c →
      ∃ k < data.length, pixelIndex (Rank.ofWidth w) i' cols.toNat j' n c' = some k :=
    fun i' j' c' hj' hc' hlt => hreached.before hj' hc' hlt
  generalize Rank.ofWidth w = r at hnot hchannel hprior ⊢
  cases r with
  | int =>
    refine (if_neg hnot).trans ?_
    rcases readChannel_error hchannel with ⟨hnone, rfl⟩ | ⟨k, hindex, hlength, rfl⟩
    · -- had the buffer ended before, its end would have been noticed before
      refine if_neg fun hlt => ?_
      have hover : ¬ RowMajor.flat cols.toNat n i.toNat j.toNat c < Rank.int.bound := by
        intro hbound
        rw [pixelIndex_eq c.pos hbound] at hnone
        exact absurd hnone (by simp)
      have hend : data.length < RowMajor.flat cols.toNat n i.toNat j.toNat c :=
        hlt.trans_le (not_lt.mp hover)
      obtain ⟨i', j', c', -, hj', hc', hflat⟩ := RowMajor.exists_flat (hend.trans htotal)
      obtain ⟨k, hk, hindex⟩ := hprior i' j' c' hj' hc' (hflat ▸ hend)
      rw [pixelIndex_int hindex, hflat] at hk
      exact lt_irrefl _ hk
    · exact if_pos (hlength.trans_lt (pixelIndex_lt hindex))
  | unsignedInt =>
    refine (if_neg hnot).trans ?_
    rcases readChannel_error hchannel with ⟨hnone, -⟩ | ⟨k, -, -, rfl⟩
    · rw [pixelIndex_unsignedInt] at hnone
      exact absurd hnone (by simp)
    · rfl

/-- Every scan commits the fault that `scanFault` names; where there is none, it reads the positions
of the elements in order, in the type of the index, and collects the coordinate form of the image
that it finds there. -/
lemma convertScan_total (data : List P) (rows cols : BitVec w) :
    convertScan n data rows cols =
      match scanFault (Rank.ofWidth w) (rows.toNat * cols.toNat * n) data.length with
      | some fault => .error fault
      | none => .ok
        ⟨ofEntries w n (Coo.encode blank
            (pixelAt n data (position (Rank.ofWidth w) cols.toNat n)) rows.toNat cols.toNat),
          (List.range (rows.toNat * cols.toNat * n)).map (Rank.ofWidth w).wrap⟩ := by
  cases hscan : convertScan n data rows cols with
  | error fault => rw [scanFault_of_error hscan]
  | ok scan =>
    have hcovers := convertScan_ok_iff.mp ⟨scan, hscan⟩
    rw [scanFault_eq_none_iff.mpr hcovers, range_map_wrap, ← hscan]
    exact convertScan_at fun i hi j hj c hc => readsAt_position hcovers hi hj hc

/-- **Every conversion.**  The conversion of an image of any size, over any coordinate type, of a
buffer of any length commits the fault that `scanFault` names; where there is none, it is the
coordinate form of the image whose elements are those at their positions in the type of the
index. -/
theorem convertImgToVectors_total (data : List P) (rows cols : BitVec w) :
    convertImgToVectors data rows cols n =
      match scanFault (Rank.ofWidth w) (rows.toNat * cols.toNat * n) data.length with
      | some fault => .error fault
      | none => .ok (ofEntries w n (Coo.encode blank
          (pixelAt n data (position (Rank.ofWidth w) cols.toNat n)) rows.toNat cols.toNat)) := by
  rw [convertImgToVectors, convertScan_total]
  cases scanFault (Rank.ofWidth w) (rows.toNat * cols.toNat * n) data.length <;> rfl

/-! ### The table of any array in any file -/

/-- The cells of an array that the conversion over a coordinate type collects. -/
def seenCells (L : Library) (ct : CoordType) (t : CType) (A : NDArray) :
    List (Coo.Entry (Fin (channelCount (L.getInfo A).colorMode) → Value t)) :=
  Coo.encode blank
    (pixelAt _ (elementsAs t A.pData)
      (position (Rank.ofWidth ct.width) (seenCols ct (L.getInfo A))
        (channelCount (L.getInfo A).colorMode)))
    (seenRows ct (L.getInfo A)) (seenCols ct (L.getInfo A))

/-- How `writeFile` fails to build the table of an array `A` in a file that was opened for an
array `B` with elements of type `t`, if it does. -/
def tableFailure (L : Library) (B : NDArray) (t : CType) (A : NDArray) : Option Outcome :=
  if ¬ ((L.getInfo A).colorMode = .NDColorModeMono ↔
      (L.getInfo B).colorMode = .NDColorModeMono) then
    some (.undefined .nullPointer)
  else if ¬ t.Switched then
    some (.asynError (some "Unknown pixel data type in Arrow schema!"))
  else
    match scanFault (Rank.ofWidth (coordTypeOf (L.getInfo B)).width)
      (seenElements (coordTypeOf (L.getInfo B)) (L.getInfo A)) (A.pData.length / t.size) with
    | some fault => some (.undefined fault)
    | none =>
      if t = .int8_t then some (.throws "Unsupported pixel type for Arrow table creation")
      else none

section Build

variable {L : Library} {ct : CoordType} {t : CType} {A B : NDArray}

lemma createArrowTable_of_scanFault {fault : Fault}
    (h : scanFault (Rank.ofWidth ct.width) (seenElements ct (L.getInfo A))
      (A.pData.length / t.size) = some fault) (schema : Schema) :
    createArrowTableFromNDArray L ct t A (L.getInfo A) schema = .error (.undefined fault) := by
  refine createArrowTable_of_fault ?_
  rw [convertScan_total, length_elementsAs]
  rw [seenElements, seenRows, seenCols] at h
  rw [h]

/-- A conversion without a fault describes the cells that it has collected, unless the type of
the pixels has no branch in the chain. -/
lemma createArrowTable_of_no_fault
    (h : scanFault (Rank.ofWidth ct.width) (seenElements ct (L.getInfo A))
      (A.pData.length / t.size) = none) (schema : Schema) :
    createArrowTableFromNDArray L ct t A (L.getInfo A) schema
        = .error (.throws "Unsupported pixel type for Arrow table creation") ∧ ¬ t.Tabulated ∨
      t.Tabulated ∧ ∃ columns,
        createArrowTableFromNDArray L ct t A (L.getInfo A) schema = .ok ⟨⟨schema, columns⟩,
          (List.range (seenElements ct (L.getInfo A))).map (Rank.ofWidth ct.width).wrap⟩ ∧
        columns.map Column.view = imageColumns ct t A (seenCells L ct t A) := by
  have hscan := convertScan_total (n := channelCount (L.getInfo A).colorMode)
    (elementsAs t A.pData) ((L.getInfo A).ySize.setWidth ct.width)
    ((L.getInfo A).xSize.setWidth ct.width)
  rw [length_elementsAs] at hscan
  rw [seenElements, seenRows, seenCols] at h
  rw [h] at hscan
  rw [createArrowTableFromNDArray, hscan]
  by_cases ht : t.Tabulated
  · obtain ⟨array, harray⟩ := ht
    rw [harray]
    refine Or.inr ⟨⟨array, harray⟩, _, rfl, view_assembleColumns L harray A ?_ ?_⟩
    · intro e he
      exact (Coo.mem_encode.mp he).2.1.trans (BitVec.isLt _)
    · intro e he
      exact (Coo.mem_encode.mp he).1.trans (BitVec.isLt _)
  · rw [pixelArray_eq_error ht]
    exact Or.inl ⟨rfl, ht⟩

lemma buildTable_total (hmode : (L.getInfo B).colorMode.Supported) :
    match tableFailure L B t A with
    | some outcome => buildTable L (some (schemaFor (L.getInfo B) t)) A = .error outcome
    | none => ∃ columns, buildTable L (some (schemaFor (L.getInfo B) t)) A
        = .ok ⟨⟨schemaFor (L.getInfo B) t, columns⟩,
          (List.range (seenElements (coordTypeOf (L.getInfo B)) (L.getInfo A))).map
            (Rank.ofWidth (coordTypeOf (L.getInfo B)).width).wrap⟩ ∧
      columns.map Column.view = imageColumns (coordTypeOf (L.getInfo B)) t A
        (seenCells L (coordTypeOf (L.getInfo B)) t A) := by
  have hbuild : buildTable L (some (schemaFor (L.getInfo B) t)) A = _ := buildTable_eq hmode
  rw [hbuild, tableFailure]
  by_cases hmono : (L.getInfo A).colorMode = .NDColorModeMono ↔
      (L.getInfo B).colorMode = .NDColorModeMono
  · rw [if_pos hmono, if_neg (not_not.mpr hmono)]
    by_cases hs : t.Switched
    · rw [if_pos hs, if_neg (not_not.mpr hs)]
      cases hfault : scanFault (Rank.ofWidth (coordTypeOf (L.getInfo B)).width)
          (seenElements (coordTypeOf (L.getInfo B)) (L.getInfo A)) (A.pData.length / t.size) with
      | some fault => exact createArrowTable_of_scanFault hfault _
      | none =>
        -- the conversion succeeds, and the chain decides
        rcases createArrowTable_of_no_fault hfault (schemaFor (L.getInfo B) t) with
          ⟨herror, htab⟩ | ⟨htab, hok⟩
        · rw [if_pos (CType.eq_int8_of_switched hs htab)]
          exact herror
        · rw [if_neg (hs.tabulated_iff.mp htab)]
          exact hok
    · rw [if_neg hs, if_pos hs]
  · rw [if_neg hmono, if_pos hmono]

end Build

/-- **The table of any array in any file.**  In a file that was opened for an array `B`, the table
of any array `A`, whatever its data type, extents and buffer, fails as `tableFailure` says; where
it does not, its columns hold the cells that the conversion collects from `A` under the coordinate
type and the pixel type of `B`, with the attributes of `A`. -/
theorem openedFor_buildTable {L : Library} {self : NDFileArrow} {B : NDArray}
    (h : OpenedFor L self B) (A : NDArray) :
    ∃ t schema, B.dataType.ctype = some t ∧ self.schema = some schema ∧
      match tableFailure L B t A with
      | some outcome => buildTable L self.schema A = .error outcome
      | none => ∃ columns, buildTable L self.schema A = .ok ⟨⟨schema, columns⟩,
            (List.range (seenElements (coordTypeOf (L.getInfo B)) (L.getInfo A))).map
              (Rank.ofWidth (coordTypeOf (L.getInfo B)).width).wrap⟩ ∧
        columns.map Column.view = imageColumns (coordTypeOf (L.getInfo B)) t A
          (seenCells L (coordTypeOf (L.getInfo B)) t A) := by
  obtain ⟨t, s, ht, hmode, rfl⟩ := h.inv
  exact ⟨t, schemaFor (L.getInfo B) t, ht, rfl, buildTable_total hmode⟩

/-- A row of 256 pixels. -/
def rowOf256 : NDArray := { pixelOfType .NDUInt8 (List.replicate 256 7) with dims := [256, 1] }

/-- In a file that was opened for a single pixel, the extent of the row is seen as zero. -/
theorem openedFor_buildTable_row :
    ∃ built, buildTable Library.reference (openFile Library.reference (.ok 0) {} "dot"
        .NDFileModeWrite (pixelOfType .NDUInt8 [7])).self.schema rowOf256 = .ok built ∧
      built.reads = [] := by
  obtain ⟨t, schema, ht, -, htable⟩ := openedFor_buildTable (openedFor_uint8 7 0 "dot") rowOf256
  obtain rfl : CType.uint8_t = t := Option.some.inj ht
  have hct : coordTypeOf (Library.reference.getInfo (pixelOfType .NDUInt8 [7])) = .uint8_t := rfl
  have hseen : seenElements .uint8_t (Library.reference.getInfo rowOf256) = 0 := rfl
  have hnone : tableFailure Library.reference (pixelOfType .NDUInt8 [7]) .uint8_t rowOf256
      = none := by
    have hcovers : scanFault (Rank.ofWidth CoordType.uint8_t.width) 0
        (rowOf256.pData.length / CType.uint8_t.size) = none :=
      scanFault_eq_none_iff.mpr ⟨Nat.zero_le _, Nat.zero_le _⟩
    have hmono : (Library.reference.getInfo rowOf256).colorMode = .NDColorModeMono ↔
        (Library.reference.getInfo (pixelOfType .NDUInt8 [7])).colorMode = .NDColorModeMono :=
      iff_of_true rfl rfl
    rw [tableFailure, if_neg (not_not.mpr hmono), if_neg (by decide), hct, hseen, hcovers]
    rfl
  rw [hnone] at htable
  obtain ⟨columns, hbuild, -⟩ := htable
  exact ⟨_, hbuild, congrArg (fun k => (List.range k).map (Rank.ofWidth 8).wrap) hseen⟩

end ADPluginArrow
