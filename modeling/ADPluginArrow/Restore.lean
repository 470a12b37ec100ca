/-
# Restoring the buffer

The plugin reads the bytes of a buffer as elements and writes the elements that it finds.  Putting
the bytes of a decoded image together again gives a buffer.

* `openFile_writeFile_restores` says when it is the buffer of the array: exactly if no pixel that is
  left out has a zero with a sign, and so always for integers.
* `openFile_writeFile_recovers` is about a reader that has nothing but the table and the extents of
  the image.  It also needs a row to find the attributes of the array in.
-/
import ADPluginArrow.RoundTrip
import ADPluginArrow.Lib.Words

namespace ADPluginArrow

open Words

/-- The buffer of the image of a table: the bytes of the elements, in the order of the buffer. -/
def Table.buffer (T : Table) (t : CType) (channels : List String) (rows cols : ℕ) :
    List (BitVec 8) :=
  (List.range rows).flatMap fun i => (List.range cols).flatMap fun j =>
    (T.image channels i j).flatMap (toWord 8 t.size)

/-- A pixel whose channels compare equal to zero consists of zeros without a sign. -/
def Unsigned (L : Library) (t : CType) (A : NDArray) : Prop :=
  ∀ i < (L.getInfo A).ySize.toNat, ∀ j < (L.getInfo A).xSize.toNat,
    blank (pixelOf L t A i j) = true → ∀ c, (pixelOf L t A i j c).bits = 0

/-! ### Elements and bytes -/

lemma littleEndian_eq (bytes : List (BitVec 8)) : littleEndian bytes = value bytes := by
  rw [value, Nat.ofDigits_eq_foldr, List.foldr_map]
  rfl

lemma CType.two_pow_width (t : CType) : 2 ^ t.width = (2 ^ 8) ^ t.size := by
  rw [width, pow_mul]

/-- The bytes of the elements of a buffer, one after the other, are the buffer. -/
lemma flatMap_elementsAs {t : CType} {bytes : List (BitVec 8)} {n : ℕ}
    (h : bytes.length = n * t.size) :
    (elementsAs t bytes).flatMap (fun v => toWord 8 t.size v.bits.toNat) = bytes := by
  have hcount : bytes.length / t.size = n := by rw [h, Nat.mul_div_cancel _ t.size_pos]
  rw [elementsAs, hcount, List.flatMap_map]
  refine Eq.trans ?_ (flatMap_word h)
  refine List.flatMap_congr fun k hk => ?_
  have hlength : (word t.size bytes k).length = t.size := length_word h (List.mem_range.mp hk)
  have hlt : littleEndian (word t.size bytes k) < 2 ^ t.width := by
    have hvalue := value_lt (Nat.succ_pos 7) (word t.size bytes k)
    rwa [hlength, ← t.two_pow_width, ← littleEndian_eq] at hvalue
  have hbits : (BitVec.ofNat t.width (littleEndian (word t.size bytes k))).toNat
      = value (word t.size bytes k) := by
    rw [BitVec.toNat_ofNat, Nat.mod_eq_of_lt hlt, littleEndian_eq]
  show toWord 8 t.size (BitVec.ofNat t.width (littleEndian (word t.size bytes k))).toNat = _
  rw [hbits]
  exact (congrArg (fun m => toWord 8 m _) hlength.symm).trans (toWord_value (Nat.succ_pos 7) _)

/-- The bytes of the elements of an array, pixel by pixel, are its buffer. -/
lemma flatMap_pixelOf {L : Library} {t : CType} {A : NDArray}
    (h : A.pData.length = imageElements (L.getInfo A) * t.size) :
    ((List.range (L.getInfo A).ySize.toNat).flatMap fun i =>
      (List.range (L.getInfo A).xSize.toNat).flatMap fun j =>
        (channelBits (pixelOf L t A i j)).flatMap (toWord 8 t.size)) = A.pData := by
  have hlength : (elementsAs t A.pData).length = (L.getInfo A).ySize.toNat
      * (L.getInfo A).xSize.toNat * channelCount (L.getInfo A).colorMode := by
    rw [length_elementsAs, h, Nat.mul_div_cancel _ t.size_pos, imageElements,
      Nat.mul_comm (L.getInfo A).ySize.toNat]
  have helements : elementsAs t A.pData = (List.range ((L.getInfo A).ySize.toNat
      * (L.getInfo A).xSize.toNat * channelCount (L.getInfo A).colorMode)).map
        fun k => (elementsAs t A.pData).getD k CScalar.zero := by
    refine List.ext_getElem (by simp [hlength]) fun k hk _ => ?_
    simp [List.getElem?_eq_getElem hk]
  refine Eq.trans ?_ (flatMap_elementsAs h)
  rw [helements, RowMajor.range_eq_flatMap]
  simp only [List.map_flatMap, List.flatMap_assoc, List.map_map]
  refine List.flatMap_congr fun i _ => List.flatMap_congr fun j _ => ?_
  rw [channelBits, ← List.map_coe_finRange_eq_range, List.flatMap_map, List.map_map,
    List.flatMap_map]
  rfl

/-! ### The buffer of a table -/

section Channels

variable {t : CType} {n : ℕ}

lemma bits_lt (v : Value t) : v.bits.toNat < (2 ^ 8) ^ t.size := t.two_pow_width ▸ v.bits.isLt

lemma flatMap_channelBits (p : Fin n → Value t) :
    (channelBits p).flatMap (toWord 8 t.size)
      = (List.finRange n).flatMap fun c => toWord 8 t.size (p c).bits.toNat :=
  List.flatMap_map ..

lemma length_channelBytes (p q : Fin n → Value t) :
    ((channelBits p).flatMap (toWord 8 t.size)).length
      = ((channelBits q).flatMap (toWord 8 t.size)).length := by
  rw [flatMap_channelBits, flatMap_channelBits]
  refine length_flatMap_congr fun c _ => ?_
  rw [length_toWord (Nat.succ_pos 7) (bits_lt _), length_toWord (Nat.succ_pos 7) (bits_lt _)]

lemma channelBytes_inj {p q : Fin n → Value t} :
    (channelBits p).flatMap (toWord 8 t.size) = (channelBits q).flatMap (toWord 8 t.size) ↔
      p = q := by
  constructor
  · intro h
    rw [flatMap_channelBits, flatMap_channelBits, flatMap_eq_flatMap_iff] at h
    · ext c : 1
      have hword := congrArg value (h c (List.mem_finRange c))
      rw [value_toWord (Nat.succ_pos 7), value_toWord (Nat.succ_pos 7)] at hword
      exact Value.ext (BitVec.eq_of_toNat_eq hword)
    · intro c _
      rw [length_toWord (Nat.succ_pos 7) (bits_lt _), length_toWord (Nat.succ_pos 7) (bits_lt _)]
  · rintro rfl
    rfl

end Channels

section Buffer

variable {L : Library} {ct : CoordType} {t : CType} {A : NDArray} {columns : List Column}

/-- The buffer of the table of an array is the one of the array exactly if no pixel that is left
out has a zero with a sign. -/
lemma buffer_eq_iff (hmode : (L.getInfo A).colorMode.Supported)
    (h : Represents L ct t A columns) {T : Table}
    (hT : T = ⟨schemaOf ct t (channelNames (L.getInfo A).colorMode), columns⟩)
    (hlength : A.pData.length = imageElements (L.getInfo A) * t.size) :
    T.buffer t (channelNames (L.getInfo A).colorMode) (L.getInfo A).ySize.toNat
        (L.getInfo A).xSize.toNat = A.pData ↔ Unsigned L t A := by
  have himage : ∀ i ∈ List.range (L.getInfo A).ySize.toNat,
      ∀ j ∈ List.range (L.getInfo A).xSize.toNat, _ := fun i hi j hj =>
    image_of_represents hmode h hT (List.mem_range.mp hi) (List.mem_range.mp hj)
  -- pixel by pixel, both buffers have the same lengths
  have hpixel : ∀ i ∈ List.range (L.getInfo A).ySize.toNat,
      ∀ j ∈ List.range (L.getInfo A).xSize.toNat,
      ((T.image (channelNames (L.getInfo A).colorMode) i j).flatMap (toWord 8 t.size)).length
        = ((channelBits (pixelOf L t A i j)).flatMap (toWord 8 t.size)).length := by
    intro i hi j hj
    rw [himage i hi j hj]
    exact length_channelBytes _ _
  refine (Eq.congr_right (flatMap_pixelOf hlength)).symm.trans ?_
  refine (flatMap_eq_flatMap_iff fun i hi => length_flatMap_congr (hpixel i hi)).trans ?_
  refine forall_congr' fun i => (imp_congr_left List.mem_range).trans ?_
  refine forall_congr' fun hi => ?_
  refine (flatMap_eq_flatMap_iff (hpixel i (List.mem_range.mpr hi))).trans ?_
  refine forall_congr' fun j => (imp_congr_left List.mem_range).trans ?_
  refine forall_congr' fun hj => ?_
  rw [himage i (List.mem_range.mpr hi) j (List.mem_range.mpr hj), channelBytes_inj]
  by_cases hblank : blank (pixelOf L t A i j) = true
  · rw [if_pos hblank, imp_iff_right hblank, funext_iff]
    exact forall_congr' fun c => ⟨fun heq => heq ▸ rfl, fun heq => Value.ext heq.symm⟩
  · rw [if_neg hblank]
    exact iff_of_true rfl fun h => absurd h hblank

/-- The zero of an integer type has no sign. -/
lemma unsigned_of_integer (h : t.isFloating = false) : Unsigned L t A := by
  intro i _ j _ hblank c
  have hzero : (pixelOf L t A i j c).isZero = true := blank_eq_true_iff.mp hblank c
  simpa [Value.isZero, h] using hzero

end Buffer

/-- **The buffer.**  Where opening a file for an array and writing the array to it both succeed, the
bytes of the decoded table are the buffer of the array exactly if no pixel that is left out has a
zero with a sign, and so for all arrays of integers. -/
theorem openFile_writeFile_restores {L : Library} {opened : Except Status Stream}
    {self : NDFileArrow} {fileName : String} {openMode : NDFileOpenMode} {A : NDArray}
    {fileFormat : ℤ} {reply : Replies} (hsized : Sized L A)
    (hopen : (openFile L opened self fileName openMode A).outcome = .asynSuccess)
    (hwrite : (writeFile L fileFormat reply
      (openFile L opened self fileName openMode A).self A).outcome = .asynSuccess) :
    ∃ s t T, opened = .ok s ∧ A.dataType.ctype = some t ∧
      handedOver (writeFile L fileFormat reply
        (openFile L opened self fileName openMode A).self A).calls = [(s, T)] ∧
      (T.buffer t (channelNames (L.getInfo A).colorMode) (L.getInfo A).ySize.toNat
        (L.getInfo A).xSize.toNat = A.pData ↔ Unsigned L t A) ∧
      (t.isFloating = false →
        T.buffer t (channelNames (L.getInfo A).colorMode) (L.getInfo A).ySize.toNat
          (L.getInfo A).xSize.toNat = A.pData) := by
  obtain ⟨s, t, columns, hs, ht, hmode, hview, hhanded⟩ :=
    exists_handedOver_represents hsized hopen hwrite
  have hbuffer := buffer_eq_iff hmode hview rfl (hsized.length_eq t ht)
  exact ⟨s, t, _, hs, ht, hhanded, hbuffer,
    fun hinteger => hbuffer.mpr (unsigned_of_integer hinteger)⟩

/-- The bytes of the image come back, those of the pixels that are left out among them. -/
theorem openFile_writeFile_restores_colorImage : ∃ T,
    handedOver (writeFile Library.reference NDArrowFileFormat.CSV.value .ok
      (openFile Library.reference (.ok 0) {} "spots" .NDFileModeWrite colorImage).self
        colorImage).calls = [(0, T)] ∧
      T.buffer .uint16_t ["R", "G", "B"] 2 3 = colorImage.pData := by
  obtain ⟨-, -, -, -, -, hsuccess⟩ := writtenAs_colorImage 0 {} "spots" .CSV
  obtain ⟨s, t, T, hs, ht, hhanded, -, hbuffer⟩ :=
    openFile_writeFile_restores sized_colorImage (openFile_colorImage 0 {} "spots") hsuccess
  obtain rfl := Except.ok.inj hs
  obtain rfl : CType.uint16_t = t := Option.some.inj ht
  exact ⟨T, hhanded, hbuffer rfl⟩

/-- The negative zero of a `float` is left out, and is not restored. -/
example : ¬ Unsigned Library.reference .float (pixelOfType .NDFloat32 [0, 0, 0, 128]) := by
  intro h
  exact absurd (h 0 (by decide) 0 (by decide) (by decide) ⟨0, by decide⟩) (by decide)

/-! ### A reader -/

/-- What a reader tells from a table: the type of the elements, the colour mode, the buffer, and
the attributes, if there is a row that has them. -/
structure Recovered where
  type : CType
  colorMode : NDColorMode
  pData : List (BitVec 8)
  attributes : Option (List ℕ)
deriving DecidableEq, Repr

/-- A reader that has nothing but the table and the extents of the image.  The third column is the
one of the first channel. -/
def Table.recover (T : Table) (rows cols : ℕ) : Option Recovered :=
  T.schema.fields[2]?.map fun field =>
    let colorMode : NDColorMode :=
      if field.name = "Intensity" then .NDColorModeMono else .NDColorModeRGB1
    { type := field.type.ctype
      colorMode := colorMode
      pData := T.buffer field.type.ctype (channelNames colorMode) rows cols
      attributes := (["NDArrayUniqueId", "NDArrayTimestamp", "NDArrayEpicsTSSec",
        "NDArrayEpicsTSnSec"].map T.column).mapM List.head? }

/-- Some pixel of an array has a channel that is not zero. -/
def Lit (L : Library) (t : CType) (A : NDArray) : Prop :=
  ∃ i < (L.getInfo A).ySize.toNat, ∃ j < (L.getInfo A).xSize.toNat, ∃ c,
    CScalar.isZero (pixelOf L t A i j c) = false

section Recover

variable {L : Library} {ct : CoordType} {t : CType} {A : NDArray} {columns : List Column}

lemma hotPixels_ne_nil_iff : hotPixels L t A ≠ [] ↔ Lit L t A := by
  constructor
  · intro hne
    obtain ⟨e, he⟩ := List.exists_mem_of_ne_nil _ hne
    obtain ⟨hi, hj, hval, hblank⟩ := Coo.mem_encode.mp he
    rw [hval] at hblank
    exact ⟨e.row, hi, e.col, hj, blank_eq_false_iff.mp hblank⟩
  · rintro ⟨i, hi, j, hj, hlit⟩
    have hmem : ⟨i, j, pixelOf L t A i j⟩ ∈ hotPixels L t A :=
      Coo.mem_encode.mpr ⟨hi, hj, rfl, blank_eq_false_iff.mpr hlit⟩
    exact List.ne_nil_of_mem hmem

/-- A value that is written to every row can be read where there is a row. -/
lemma mapM_head_replicate {α : Type} (values : List α) (n : ℕ) :
    (values.map (List.replicate n)).mapM List.head? = if n = 0 ∧ values ≠ [] then none
      else some values := by
  induction values with
  | nil => simp
  | cons value values ih =>
    cases n with
    | zero => simp
    | succ n =>
      rw [List.map_cons, List.mapM_cons, ih]
      simp [List.replicate_succ]

lemma recover_of_represents (hmode : (L.getInfo A).colorMode.Supported)
    (h : Represents L ct t A columns) {T : Table}
    (hT : T = ⟨schemaOf ct t (channelNames (L.getInfo A).colorMode), columns⟩) (rows cols : ℕ) :
    T.recover rows cols = some ⟨t, (L.getInfo A).colorMode,
      T.buffer t (channelNames (L.getInfo A).colorMode) rows cols,
      if hotPixels L t A = [] then none
      else some [A.uniqueId.toNat, A.timeStamp.toNat, A.epicsTS.secPastEpoch.toNat,
        A.epicsTS.nsec.toNat]⟩ := by
  have hattributes := (column_of_represents hmode h hT).2.2
  have hfield : ∃ name, T.schema.fields[2]? = some ⟨name, t.arrowType⟩ ∧
      (if name = "Intensity" then NDColorMode.NDColorModeMono else .NDColorModeRGB1)
        = (L.getInfo A).colorMode := by
    rw [hT]
    rcases hmode with hmono | hrgb
    · rw [hmono]
      exact ⟨"Intensity", rfl, rfl⟩
    · rw [hrgb]
      exact ⟨"R", rfl, rfl⟩
  obtain ⟨name, hname, hcolor⟩ := hfield
  rw [Table.recover, hname, Option.map_some, hattributes, mapM_head_replicate]
  simp only [hcolor, CType.ctype_arrowType, List.length_eq_zero_iff]
  simp

end Recover

/-- **What a reader can recover.**  Where opening a file for an array and writing the array to it
both succeed, a reader that has nothing but the table and the extents recovers the type of the
elements, the colour mode, the buffer and the attributes of the array exactly if no pixel that is
left out has a zero with a sign, and some pixel is not left out. -/
theorem openFile_writeFile_recovers {L : Library} {opened : Except Status Stream}
    {self : NDFileArrow} {fileName : String} {openMode : NDFileOpenMode} {A : NDArray}
    {fileFormat : ℤ} {reply : Replies} (hsized : Sized L A)
    (hopen : (openFile L opened self fileName openMode A).outcome = .asynSuccess)
    (hwrite : (writeFile L fileFormat reply
      (openFile L opened self fileName openMode A).self A).outcome = .asynSuccess) :
    ∃ s t T, opened = .ok s ∧ A.dataType.ctype = some t ∧
      handedOver (writeFile L fileFormat reply
        (openFile L opened self fileName openMode A).self A).calls = [(s, T)] ∧
      (T.recover (L.getInfo A).ySize.toNat (L.getInfo A).xSize.toNat
          = some ⟨t, (L.getInfo A).colorMode, A.pData, some [A.uniqueId.toNat, A.timeStamp.toNat,
            A.epicsTS.secPastEpoch.toNat, A.epicsTS.nsec.toNat]⟩ ↔
        Unsigned L t A ∧ Lit L t A) := by
  obtain ⟨s, t, columns, hs, ht, hmode, hview, hhanded⟩ :=
    exists_handedOver_represents hsized hopen hwrite
  refine ⟨s, t, _, hs, ht, hhanded, ?_⟩
  rw [recover_of_represents hmode hview rfl, Option.some.injEq, Recovered.mk.injEq,
    ← hotPixels_ne_nil_iff]
  have hbuffer := buffer_eq_iff hmode hview rfl (hsized.length_eq t ht)
  constructor
  · rintro ⟨-, -, hpData, hattributes⟩
    refine ⟨hbuffer.mp hpData, fun hnil => ?_⟩
    rw [if_pos hnil] at hattributes
    exact absurd hattributes (by simp)
  · rintro ⟨hunsigned, hlit⟩
    exact ⟨rfl, rfl, hbuffer.mpr hunsigned, if_neg hlit⟩

theorem openFile_writeFile_recovers_colorImage : ∃ T,
    handedOver (writeFile Library.reference NDArrowFileFormat.CSV.value .ok
      (openFile Library.reference (.ok 0) {} "spots" .NDFileModeWrite colorImage).self
        colorImage).calls = [(0, T)] ∧
      T.recover 2 3 = some ⟨.uint16_t, .NDColorModeRGB1, colorImage.pData,
        some [12, 4607182418800017408, 1000, 250]⟩ := by
  obtain ⟨-, -, -, -, -, hsuccess⟩ := writtenAs_colorImage 0 {} "spots" .CSV
  obtain ⟨s, t, T, hs, ht, hhanded, hrecover⟩ :=
    openFile_writeFile_recovers sized_colorImage (openFile_colorImage 0 {} "spots") hsuccess
  obtain rfl := Except.ok.inj hs
  obtain rfl : CType.uint16_t = t := Option.some.inj ht
  refine ⟨T, hhanded, hrecover.mpr ⟨unsigned_of_integer rfl, ?_⟩⟩
  exact ⟨0, by decide, 0, by decide, ⟨0, by decide⟩, by decide⟩

end ADPluginArrow
