/-
# The shape of an array

The conversion takes the number of elements from the extents and the colour mode, while the
buffer has the length that the dimensions give.  Nothing compares the two:
`writeFile_shapeChecked_iff` says for which arrays the elements that are read are exactly the
elements of the buffer, and any other shape is refused.
-/
import ADPluginArrow.RoundTrip

namespace ADPluginArrow

open CLang

/-- The elements that the extents and the colour mode promise are those of the buffer. -/
def ShapeAgrees (info : NDArrayInfo) : Prop := imageElements info = info.nElements.toNat

instance (info : NDArrayInfo) : Decidable (ShapeAgrees info) := inferInstanceAs (Decidable (_ = _))

/-- `nElements` is the length of the buffer, and at most `2 ^ 31`. -/
structure Buffered (L : Library) (A : NDArray) : Prop where
  elements_le : (L.getInfo A).nElements.toNat ≤ 2 ^ 31
  length_eq : ∀ t, A.dataType.ctype = some t →
    A.pData.length = (L.getInfo A).nElements.toNat * t.size

/-- A `writeFile` that succeeds has read every element of the buffer once and nothing else;
an array whose shape does not agree with its buffer is refused. -/
def ShapeChecked (L : Library) (self : NDFileArrow) (A : NDArray) : Prop :=
  ∀ fileFormat reply,
    ((writeFile L fileFormat reply self A).outcome = .asynSuccess →
      ShapeAgrees (L.getInfo A) ∧ ∃ built, buildTable L self.schema A = .ok built ∧
        built.reads.Nodup ∧ ∀ k, k ∈ built.reads ↔ k < (L.getInfo A).nElements.toNat) ∧
    (¬ ShapeAgrees (L.getInfo A) →
      ∃ log, (writeFile L fileFormat reply self A).outcome = .asynError log)

/-! ### What is read -/

lemma seenElements_eq_zero {ct : CoordType} {info : NDArrayInfo} (h : imageElements info = 0) :
    seenElements ct info = 0 := by
  have hzero : ∀ x : BitVec 64, x.toNat = 0 → (x.setWidth ct.width).toNat = 0 := by
    intro x hx
    rw [BitVec.toNat_setWidth, hx, Nat.zero_mod]
  rw [imageElements, Nat.mul_eq_zero, Nat.mul_eq_zero] at h
  rw [seenElements, seenRows, seenCols]
  rcases h with (hx | hy) | hn
  · rw [hzero _ hx, Nat.mul_zero, Nat.zero_mul]
  · rw [hzero _ hy, Nat.zero_mul, Nat.zero_mul]
  · rw [hn, Nat.mul_zero]

lemma channelCount_pos (mode : NDColorMode) : 0 < channelCount mode := by
  rw [channelCount]
  split <;> decide

/-- Among at most `2 ^ 31` elements, an extent of `2 ^ 31` leaves no room for another one. -/
lemma extent_large {a b n : ℕ} (ha : 2 ^ 31 ≤ a) (hn : 0 < n) (hpos : a * b * n ≠ 0)
    (hle : a * b * n ≤ 2 ^ 31) : a = 2 ^ 31 ∧ b = 1 := by
  have hb : 0 < b := Nat.pos_of_ne_zero (by rintro rfl; simp at hpos)
  have hab : a * b ≤ a * b * n := Nat.le_mul_of_pos_right _ hn
  have hb1 : 2 ^ 31 * b ≤ a * b := Nat.mul_le_mul_right b ha
  have hb : b = 1 := by omega
  subst hb
  omega

/-- An image of at most `2 ^ 31` elements with an extent of `2 ^ 31` is a single row or a
single column, and the type that is selected for it reduces the extent to zero. -/
lemma seenElements_of_large {info : NDArrayInfo} (hle : imageElements info ≤ 2 ^ 31)
    (hpos : imageElements info ≠ 0)
    (hlarge : ¬ (info.xSize.toNat < 2 ^ 31 ∧ info.ySize.toNat < 2 ^ 31)) :
    seenElements (coordTypeOf info) info = 0 := by
  have hn := channelCount_pos info.colorMode
  rw [imageElements] at hle hpos
  have hextents : info.xSize.toNat = 2 ^ 31 ∧ info.ySize.toNat = 1 ∨
      info.ySize.toNat = 2 ^ 31 ∧ info.xSize.toNat = 1 := by
    by_cases hx : 2 ^ 31 ≤ info.xSize.toNat
    · exact Or.inl (extent_large hx hn hpos hle)
    · rw [Nat.mul_comm info.xSize.toNat] at hle hpos
      exact Or.inr (extent_large (by omega) hn hpos hle)
  -- as an `int`, an extent of `2 ^ 31` is negative
  have hsmall : ∀ (v : BitVec 64) (k : ℕ), v.toNat = 2 ^ 31 ∨ v.toNat = 1 → 1 ≤ k →
      ¬ toInt v > (k : ℤ) := by
    intro v k hv hk hgt
    rw [toInt_gt_iff] at hgt
    rcases hv with hv | hv <;> rw [hv] at hgt <;> omega
  have htype : coordTypeOf info = .uint8_t := by
    have hx : info.xSize.toNat = 2 ^ 31 ∨ info.xSize.toNat = 1 := by omega
    have hy : info.ySize.toNat = 2 ^ 31 ∨ info.ySize.toNat = 1 := by omega
    rw [coordTypeOf, coordDataType, if_neg, if_neg]
    · exact not_or.mpr ⟨hsmall _ 255 hx (by decide), hsmall _ 255 hy (by decide)⟩
    · exact not_or.mpr ⟨hsmall _ 65535 hx (by decide), hsmall _ 65535 hy (by decide)⟩
  rw [htype, seenElements, seenRows, seenCols, BitVec.toNat_setWidth, BitVec.toNat_setWidth]
  rcases hextents with ⟨hx, -⟩ | ⟨hy, -⟩
  · rw [hx]
    show _ * 0 * _ = 0
    simp
  · rw [hy]
    show 0 * _ * _ = 0
    simp

/-! ### Which arrays are checked -/

section

variable {L : Library} {A : NDArray} {t : CType} {s : Stream}

/-- A conversion that is run does not end with a status, unless the table is written. -/
lemma shapeAgrees_of_checked (hmode : (L.getInfo A).colorMode.Supported) (hs : t.Switched)
    (h : ShapeChecked L ⟨some (schemaFor (L.getInfo A) t), some s⟩ A) :
    ShapeAgrees (L.getInfo A) := by
  by_contra hnot
  obtain ⟨log, hlog⟩ := (h NDArrowFileFormat.PARQUET.value .ok).2 hnot
  have hbuild := buildTable_own (L := L) (t := t) hmode
  rw [if_pos hs] at hbuild
  cases hbuilt : buildTable L (some (schemaFor (L.getInfo A) t)) A with
  | error outcome =>
    rw [writeFile_of_error hbuilt] at hlog
    obtain rfl : outcome = .asynError log := hlog
    exact absurd (hbuild.symm.trans hbuilt) createArrowTable_ne_asynError
  | ok built =>
    rw [writeFile_of_ok hbuilt] at hlog
    have hsuccess : (writeTable _ .ok (some s) built.table).2 = .asynSuccess :=
      (writeTable_ok .PARQUET).1
    exact absurd (hsuccess.symm.trans hlog) (by simp)

lemma buildTable_shapeAgrees (hbuffer : Buffered L A) (ht : A.dataType.ctype = some t)
    (hmode : (L.getInfo A).colorMode.Supported) (htab : t.Tabulated)
    (hagree : ShapeAgrees (L.getInfo A))
    (hle : seenElements (coordTypeOf (L.getInfo A)) (L.getInfo A)
      ≤ imageElements (L.getInfo A)) :
    ∃ columns, buildTable L (some (schemaFor (L.getInfo A) t)) A
      = .ok ⟨⟨schemaFor (L.getInfo A) t, columns⟩,
        List.range (seenElements (coordTypeOf (L.getInfo A)) (L.getInfo A))⟩ := by
  rw [hagree] at hle
  have hbound := (hle.trans hbuffer.elements_le).trans
    (Rank.two_pow_31_le_bound (Rank.ofWidth (coordTypeOf (L.getInfo A)).width))
  have hdata : seenElements (coordTypeOf (L.getInfo A)) (L.getInfo A)
      ≤ A.pData.length / t.size := by
    rwa [hbuffer.length_eq t ht, Nat.mul_div_cancel _ t.size_pos]
  have hcreate : ∃ columns, createArrowTableFromNDArray L (coordTypeOf (L.getInfo A)) t A
      (L.getInfo A) (schemaFor (L.getInfo A) t) = _ ∧ _ := createArrowTable_eq_ok htab hbound hdata
  obtain ⟨columns, heq, -⟩ := hcreate
  rw [buildTable_own hmode, if_pos htab.switched]
  exact ⟨columns, heq⟩

/-- A checked array of a written type has no extent of `2 ^ 31` or more. -/
lemma extents_of_checked (hbuffer : Buffered L A) (ht : A.dataType.ctype = some t)
    (hmode : (L.getInfo A).colorMode.Supported) (htab : t.Tabulated)
    (hagree : ShapeAgrees (L.getInfo A)) (hpos : (L.getInfo A).nElements.toNat ≠ 0)
    (h : ShapeChecked L ⟨some (schemaFor (L.getInfo A) t), some s⟩ A) :
    (L.getInfo A).xSize.toNat < 2 ^ 31 ∧ (L.getInfo A).ySize.toNat < 2 ^ 31 := by
  by_contra hlarge
  have hcount : imageElements (L.getInfo A) = (L.getInfo A).nElements.toNat := hagree
  have hle := hbuffer.elements_le
  rw [← hcount] at hpos hle
  have hseen := seenElements_of_large hle hpos hlarge
  obtain ⟨columns, hbuild⟩ := buildTable_shapeAgrees hbuffer ht hmode htab hagree
    (hseen ▸ Nat.zero_le _)
  have hsuccess : (writeFile L NDArrowFileFormat.PARQUET.value .ok
      ⟨some (schemaFor (L.getInfo A) t), some s⟩ A).outcome = .asynSuccess := by
    rw [writeFile_of_ok hbuild]
    rfl
  obtain ⟨-, built, hbuilt, -, hreads⟩ := (h _ _).1 hsuccess
  obtain rfl := Except.ok.inj (hbuild.symm.trans hbuilt)
  -- nothing is read, although there is a first element
  have hfirst := (hreads 0).mpr (by omega)
  rw [hseen] at hfirst
  exact absurd hfirst (by simp)

/-- An array whose shape agrees, and that is empty or has extents below `2 ^ 31`, is read
element by element. -/
lemma checked_of_extents (hbuffer : Buffered L A) (ht : A.dataType.ctype = some t)
    (hmode : (L.getInfo A).colorMode.Supported) (htab : t.Tabulated)
    (hagree : ShapeAgrees (L.getInfo A))
    (hextents : (L.getInfo A).nElements.toNat = 0 ∨
      (L.getInfo A).xSize.toNat < 2 ^ 31 ∧ (L.getInfo A).ySize.toNat < 2 ^ 31) :
    ShapeChecked L ⟨some (schemaFor (L.getInfo A) t), some s⟩ A := by
  have hcount : imageElements (L.getInfo A) = (L.getInfo A).nElements.toNat := hagree
  have hseen : seenElements (coordTypeOf (L.getInfo A)) (L.getInfo A)
      = imageElements (L.getInfo A) := by
    rcases hextents with hzero | ⟨hx, hy⟩
    · have hzero := hcount.trans hzero
      rw [hzero, seenElements_eq_zero hzero]
    · have hnarrow := narrowest_coordTypeOf_iff.mpr (Or.inl ⟨hx, hy⟩)
      exact seenElements_eq hnarrow.x_lt hnarrow.y_lt
  obtain ⟨columns, hbuild⟩ := buildTable_shapeAgrees hbuffer ht hmode htab hagree hseen.le
  intro fileFormat reply
  refine ⟨fun _ => ⟨hagree, _, hbuild, List.nodup_range, fun k => ?_⟩,
    fun hnot => absurd hagree hnot⟩
  rw [List.mem_range, hseen, hcount]

/-- An array of the one type that the chain of tests lacks is never written, so that only its
shape matters. -/
lemma checked_of_not_tabulated (hmode : (L.getInfo A).colorMode.Supported) (hs : t.Switched)
    (htab : ¬ t.Tabulated) (hagree : ShapeAgrees (L.getInfo A)) :
    ShapeChecked L ⟨some (schemaFor (L.getInfo A) t), some s⟩ A := by
  have hbuild := buildTable_own (L := L) (t := t) hmode
  rw [if_pos hs] at hbuild
  intro fileFormat reply
  refine ⟨fun hsuccess => ?_, fun hnot => absurd hagree hnot⟩
  obtain ⟨built, hbuilt, -⟩ := writeFile_success rfl hsuccess
  exact absurd (tabulated_of_createArrowTable (hbuild.symm.trans hbuilt)) htab

lemma checked_of_not_switched (hmode : (L.getInfo A).colorMode.Supported) (hs : ¬ t.Switched) :
    ShapeChecked L ⟨some (schemaFor (L.getInfo A) t), some s⟩ A := by
  have hbuild := buildTable_own (L := L) (t := t) hmode
  rw [if_neg hs] at hbuild
  intro fileFormat reply
  have herror : (writeFile L fileFormat reply ⟨some (schemaFor (L.getInfo A) t), some s⟩
      A).outcome = .asynError (some "Unknown pixel data type in Arrow schema!") := by
    rw [writeFile_of_error hbuild]
  exact ⟨fun hsuccess => absurd (hsuccess.symm.trans herror) (by simp), fun _ => ⟨_, herror⟩⟩

/-- **Which arrays are read exactly.**  For an array for which a file has been opened, every
successful write reads each element of the buffer once and nothing else, and every other
shape is refused, exactly if the type is one that the switches refuse, or the shape agrees
with the buffer and is not mistaken for another one. -/
theorem writeFile_shapeChecked_iff {opened : Except Status Stream} {self : NDFileArrow}
    {fileName : String} {openMode : NDFileOpenMode} (hbuffer : Buffered L A)
    (hopen : (openFile L opened self fileName openMode A).outcome = .asynSuccess) :
    ShapeChecked L (openFile L opened self fileName openMode A).self A ↔
      A.dataType ∈ ([.NDUInt32, .NDInt64, .NDUInt64] : List NDDataType) ∨
        ShapeAgrees (L.getInfo A) ∧
          (A.dataType = .NDInt8 ∨ (L.getInfo A).nElements.toNat = 0 ∨
            (L.getInfo A).xSize.toNat < 2 ^ 31 ∧ (L.getInfo A).ySize.toNat < 2 ^ 31) := by
  obtain ⟨t, s, ht, hmode, -, heq⟩ := openFile_inv hopen
  rw [heq, ← not_switched_iff ht, ← eq_int8_iff ht]
  by_cases hs : t.Switched
  · by_cases htab : t.Tabulated
    · constructor
      · intro h
        have hagree := shapeAgrees_of_checked hmode hs h
        refine Or.inr ⟨hagree, Or.inr ?_⟩
        by_cases hpos : (L.getInfo A).nElements.toNat = 0
        · exact Or.inl hpos
        · exact Or.inr (extents_of_checked hbuffer ht hmode htab hagree hpos h)
      · rintro (hnot | ⟨hagree, rfl | hextents⟩)
        · exact absurd hs hnot
        · exact absurd htab (by decide)
        · exact checked_of_extents hbuffer ht hmode htab hagree hextents
    · -- `int8_t`, whose arrays are not written but end in an exception
      constructor
      · intro h
        exact Or.inr ⟨shapeAgrees_of_checked hmode hs h,
          Or.inl (CType.eq_int8_of_switched hs htab)⟩
      · rintro (hnot | ⟨hagree, -⟩)
        · exact absurd hs hnot
        · exact checked_of_not_tabulated hmode hs htab hagree
  · exact ⟨fun _ => Or.inl hs, fun _ => checked_of_not_switched hmode hs⟩

end

/-- Writing the image reads each of the 18 elements of its buffer. -/
theorem writeFile_shapeChecked_colorImage :
    ShapeAgrees (Library.reference.getInfo colorImage) ∧
      ShapeChecked Library.reference
        (openFile Library.reference (.ok 0) {} "spots" .NDFileModeWrite colorImage).self
        colorImage := by
  have hbuffer : Buffered Library.reference colorImage := ⟨by decide, by decide⟩
  have hagree : ShapeAgrees (Library.reference.getInfo colorImage) := by decide
  exact ⟨hagree, (writeFile_shapeChecked_iff hbuffer (openFile_colorImage 0 {} "spots")).mpr
    (Or.inr ⟨hagree, Or.inr (Or.inr ⟨by decide, by decide⟩)⟩)⟩

/-- A two-dimensional array with the colour mode of a three-dimensional one. -/
def taggedArray : NDArray where
  uniqueId := 1
  timeStamp := 0
  epicsTS := ⟨0, 0⟩
  dims := [1, 1]
  colorModeAttribute := some .NDColorModeRGB1
  dataType := .NDUInt8
  pData := [7]

/-- Its write reads beyond the end of the buffer. -/
theorem writeFile_taggedArray :
    Buffered Library.reference taggedArray ∧
      (openFile Library.reference (.ok 0) {} "tagged" .NDFileModeWrite taggedArray).outcome
        = .asynSuccess ∧
      (writeFile Library.reference NDArrowFileFormat.PARQUET.value .ok
        (openFile Library.reference (.ok 0) {} "tagged" .NDFileModeWrite taggedArray).self
        taggedArray).outcome = .undefined .outOfBounds ∧
      ¬ ShapeChecked Library.reference
        (openFile Library.reference (.ok 0) {} "tagged" .NDFileModeWrite taggedArray).self
        taggedArray := by
  have hopen : openFile Library.reference (.ok 0) {} "tagged" .NDFileModeWrite taggedArray = _ :=
    openFile_eq (t := .uint8_t) rfl (Or.inr rfl)
  have hscan : convertScan 3 (elementsAs .uint8_t taggedArray.pData) (1 : BitVec 8) 1
      = .error .outOfBounds := by
    simp only [convertScan, forPixels, forUpto_zero]
    rfl
  have hbuild : buildTable Library.reference (some (schemaFor (infoOfDims taggedArray) .uint8_t))
      taggedArray = .error (.undefined .outOfBounds) := by
    have hbuild : buildTable Library.reference
        (some (schemaFor (infoOfDims taggedArray) .uint8_t)) taggedArray = _ :=
      buildTable_own (Or.inr rfl)
    rw [hbuild, if_pos (by decide)]
    exact createArrowTable_of_fault hscan
  have hwrite : (writeFile Library.reference NDArrowFileFormat.PARQUET.value .ok
      ⟨some (schemaFor (infoOfDims taggedArray) .uint8_t), some 0⟩ taggedArray).outcome
      = .undefined .outOfBounds := by
    rw [writeFile_of_error hbuild]
  rw [hopen]
  refine ⟨⟨by decide, by decide⟩, rfl, hwrite, ?_⟩
  intro h
  obtain ⟨log, hlog⟩ := (h NDArrowFileFormat.PARQUET.value .ok).2 (by decide)
  exact absurd (hwrite.symm.trans hlog) (by simp)

end ADPluginArrow
