/-
# The element index of the conversion

The index `(i * cols + j) * nChannels + c` is computed in the type that C++ gives the
expression, while each of its three factors is only bounded by its own type.
`indexing_exact_iff` says up to which size of the image every iteration that the conversion
reaches computes the mathematical index: up to the number of values of the index type.

An iteration is reached if the part of the scan before it succeeds, which is stated through
the loops of the conversion themselves, run up to that iteration.  A conversion only fails in
an iteration that it reaches (`exists_readChannel_error`), and `convertScan_ok_iff` says which
conversions fail in none.
-/
import ADPluginArrow.Extents

namespace ADPluginArrow

open CLang

variable {w n : ℕ} {P : Type} [CScalar P]

/-! ### Iterations -/

/-- The conversion of an image reaches the iteration for channel `c` of pixel `(i, j)`: the
rows above it, the pixels to the left of it and the channels before it are scanned without a
fault. -/
structure Reached (data : List P) (rows cols i j : BitVec w) (c : Fin n) : Prop where
  row_lt : i < rows
  col_lt : j < cols
  pixels : ∃ above left, convertScan n data i cols = .ok above ∧
    forUpto j (fun j => scanPixel data cols i j) 0 above = .ok left
  channels : ∃ before, ((List.finRange n).take c).foldlM
    (readChannel (Rank.ofWidth w) data cols.toNat i.toNat j.toNat)
    ⟨fun _ => CScalar.zero, true, []⟩ = .ok before

/-- Every intermediate value of the index is its mathematical value, and the index lies
inside a buffer of `length` elements. -/
structure ExactIndex (r : Rank) (length i cols j n c : ℕ) : Prop where
  row : r.mul i cols = some (i * cols)
  cell : r.add (i * cols) j = some (i * cols + j)
  element : r.mul (i * cols + j) n = some ((i * cols + j) * n)
  index : pixelIndex r i cols j n c = some (i * cols * n + j * n + c)
  inside : i * cols * n + j * n + c < length

lemma flat_eq (cols n i j c : ℕ) : RowMajor.flat cols n i j c = i * cols * n + j * n + c := by
  rw [RowMajor.flat, Nat.add_mul]

lemma exactIndex_of_flat_lt {r : Rank} {length i cols j c : ℕ} (hn : 0 < n)
    (hbound : RowMajor.flat cols n i j c < r.bound)
    (hdata : RowMajor.flat cols n i j c < length) : ExactIndex r length i cols j n c := by
  have hidx := pixelIndex_eq hn hbound
  have hcell : i * cols + j ≤ (i * cols + j) * n := Nat.le_mul_of_pos_right _ hn
  rw [flat_eq] at hidx hdata
  rw [RowMajor.flat] at hbound
  refine ⟨?_, ?_, ?_, hidx, hdata⟩
  · exact Rank.norm_eq_self_iff.mpr (by omega)
  · exact Rank.norm_eq_self_iff.mpr (by omega)
  · exact Rank.norm_eq_self_iff.mpr (by omega)

lemma exists_readChannel_ok_iff {r : Rank} {data : List P} {cols i j : ℕ} {s : PixelRead n P}
    {c : Fin n} :
    (∃ s', readChannel r data cols i j s c = .ok s') ↔
      ∃ k < data.length, pixelIndex r i cols j n c = some k := by
  rw [readChannel]
  constructor
  · rintro ⟨s', h⟩
    split at h
    · exact absurd h (by simp)
    · rename_i k hindex
      split at h
      · exact absurd h (by simp)
      · rename_i value hvalue
        exact ⟨k, (List.getElem?_eq_some_iff.mp hvalue).1, hindex⟩
  · rintro ⟨k, hk, hindex⟩
    simp only [hindex, List.getElem?_eq_getElem hk]
    exact ⟨_, rfl⟩

/-- A conversion that fails does so in the loop over the channels of a pixel that it
reaches. -/
lemma exists_readChannel_error {data : List P} {rows cols : BitVec w} {fault : Fault}
    (h : convertScan n data rows cols = .error fault) :
    ∃ (i j : BitVec w) (c : Fin n) (before : PixelRead n P), Reached data rows cols i j c ∧
      readChannel (Rank.ofWidth w) data cols.toNat i.toNat j.toNat before c = .error fault := by
  obtain ⟨i, hi, above, habove, hrow⟩ := exists_error_of_forUpto h
  obtain ⟨j, hj, left, hleft, hpixel⟩ := exists_error_of_forUpto hrow
  -- the rest of the body cannot fail
  have hread : readPixel n (Rank.ofWidth w) data cols.toNat i.toNat j.toNat = .error fault := by
    rw [scanPixel] at hpixel
    cases hread : readPixel n (Rank.ofWidth w) data cols.toNat i.toNat j.toNat with
    | error e =>
      rw [hread] at hpixel
      exact congrArg Except.error (Except.error.inj hpixel)
    | ok p =>
      rw [hread] at hpixel
      by_cases hzero : p.allZeros = true <;>
        exact absurd hpixel (by simp [bind, Except.bind, pure, Except.pure, hzero])
  obtain ⟨k, hk, before, hbefore, hchannel⟩ := exists_error_of_foldlM_error hread
  rw [List.length_finRange] at hk
  rw [List.getElem_finRange] at hchannel
  exact ⟨i, j, ⟨k, hk⟩, before, ⟨hi, hj, ⟨above, left, habove, hleft⟩, ⟨before, hbefore⟩⟩,
    hchannel⟩

lemma exists_readChannel_ok {data : List P} {rows cols : BitVec w} {scan : Scan w n P}
    (h : convertScan n data rows cols = .ok scan) {i j : BitVec w} (hi : i < rows) (hj : j < cols)
    (c : Fin n) :
    ∃ before after : PixelRead n P,
      readChannel (Rank.ofWidth w) data cols.toNat i.toNat j.toNat before c = .ok after := by
  obtain ⟨above, below, hrow⟩ := exists_ok_of_forUpto h i hi
  obtain ⟨left, right, hpixel⟩ := exists_ok_of_forUpto hrow j hj
  rw [scanPixel] at hpixel
  cases hread : readPixel n (Rank.ofWidth w) data cols.toNat i.toNat j.toNat with
  | error e =>
    rw [hread] at hpixel
    exact absurd hpixel (by simp [bind, Except.bind])
  | ok p => exact exists_ok_of_foldlM_ok hread c (List.mem_finRange c)

/-! ### Conversions that succeed -/

lemma pixelIndex_int {i cols j c k : ℕ} (h : pixelIndex .int i cols j n c = some k) :
    k = RowMajor.flat cols n i j c := by
  simp only [pixelIndex, Option.bind_eq_bind, Option.bind_eq_some_iff] at h
  obtain ⟨a, ha, b, hb, d, hd, hk⟩ := h
  rw [Rank.eq_of_norm_int hk, Rank.eq_of_norm_int hd, Rank.eq_of_norm_int hb,
    Rank.eq_of_norm_int ha, RowMajor.flat]

lemma pixelIndex_unsignedInt (i cols j c : ℕ) :
    pixelIndex .unsignedInt i cols j n c = some (RowMajor.flat cols n i j c % 2 ^ 32) := by
  simp [pixelIndex, Rank.mul, Rank.add, Rank.norm, RowMajor.flat, Nat.add_mod, Nat.mul_mod]

/-- A buffer of `length` elements covers a scan over `total` positions: in `int`, the
positions are representable and inside the buffer; in `unsigned int` they wrap around, so that
only the first `2 ^ 32` elements need to be there. -/
def Covers (r : Rank) (total length : ℕ) : Prop :=
  match r with
  | .int => total ≤ 2 ^ 31 ∧ total ≤ length
  | .unsignedInt => min total (2 ^ 32) ≤ length

/-- A buffer covers the scan of an image if every index is computed and inside the buffer. -/
lemma covers_iff {r : Rank} {rows cols length : ℕ} :
    Covers r (rows * cols * n) length ↔ ∀ i < rows, ∀ j < cols, ∀ c < n,
      ∃ k < length, pixelIndex r i cols j n c = some k := by
  constructor
  · intro h i hi j hj c hc
    have hlt := RowMajor.flat_lt hi hj hc
    cases r with
    | int =>
      obtain ⟨hbound, hlength⟩ := h
      exact ⟨_, hlt.trans_le hlength,
        pixelIndex_eq (Nat.zero_lt_of_lt hc) (hlt.trans_le hbound)⟩
    | unsignedInt =>
      refine ⟨_, ?_, pixelIndex_unsignedInt i cols j c⟩
      have hmod : RowMajor.flat cols n i j c % 2 ^ 32 < min (rows * cols * n) (2 ^ 32) :=
        lt_min ((Nat.mod_le _ _).trans_lt hlt) (Nat.mod_lt _ (by norm_num))
      exact hmod.trans_le h
  · intro h
    by_contra hnot
    cases r with
    | int =>
      -- the last element is read
      have hlast : rows * cols * n - 1 < rows * cols * n := by
        simp only [Covers] at hnot
        omega
      obtain ⟨i, j, c, hi, hj, hc, hflat⟩ := RowMajor.exists_flat hlast
      obtain ⟨k, hk, hindex⟩ := h i hi j hj c hc
      have hlt := pixelIndex_lt hindex
      rw [pixelIndex_int hindex, hflat] at hk hlt
      simp only [Covers, Rank.bound] at hnot hlt
      omega
    | unsignedInt =>
      -- the first position behind the buffer is read
      have hlt : length < min (rows * cols * n) (2 ^ 32) := not_le.mp hnot
      obtain ⟨i, j, c, hi, hj, hc, hflat⟩ := RowMajor.exists_flat (hlt.trans_le (min_le_left _ _))
      obtain ⟨k, hk, hindex⟩ := h i hi j hj c hc
      rw [pixelIndex_unsignedInt, hflat,
        Nat.mod_eq_of_lt (hlt.trans_le (min_le_right _ _))] at hindex
      exact absurd (Option.some.inj hindex) (ne_of_gt hk)

/-- **A conversion succeeds if and only if the buffer covers the scan of the image.** -/
theorem convertScan_ok_iff {data : List P} {rows cols : BitVec w} :
    (∃ scan, convertScan n data rows cols = .ok scan) ↔
      Covers (Rank.ofWidth w) (rows.toNat * cols.toNat * n) data.length := by
  rw [covers_iff]
  constructor
  · rintro ⟨scan, h⟩ i hi j hj c hc
    have hi' : (BitVec.ofNat w i).toNat = i := Nat.mod_eq_of_lt (hi.trans rows.isLt)
    have hj' : (BitVec.ofNat w j).toNat = j := Nat.mod_eq_of_lt (hj.trans cols.isLt)
    have hrow : BitVec.ofNat w i < rows := by rwa [BitVec.lt_def, hi']
    have hcol : BitVec.ofNat w j < cols := by rwa [BitVec.lt_def, hj']
    obtain ⟨before, after, hchannel⟩ := exists_readChannel_ok h hrow hcol ⟨c, hc⟩
    rw [hi', hj'] at hchannel
    exact exists_readChannel_ok_iff.mp ⟨after, hchannel⟩
  · intro h
    cases hscan : convertScan n data rows cols with
    | ok scan => exact ⟨scan, rfl⟩
    | error fault =>
      obtain ⟨i, j, c, before, hreached, hchannel⟩ := exists_readChannel_error hscan
      have hindex := h i.toNat (BitVec.lt_def.mp hreached.row_lt) j.toNat
        (BitVec.lt_def.mp hreached.col_lt) c c.isLt
      obtain ⟨after, hok⟩ := (exists_readChannel_ok_iff (s := before)).mpr hindex
      exact absurd (hchannel.symm.trans hok) (by simp)

/-! ### The first position that the index type lacks -/

/-- The conversion reaches the iteration whose position is the number of values of the index
type: the positions before it are all exact. -/
lemma reached_of_flat_eq_bound {data : List P} {rows cols i j : BitVec w} {c : Fin n}
    (hdata : data.length = rows.toNat * cols.toNat * n) (hi : i < rows) (hj : j < cols)
    (hflat : RowMajor.flat cols.toNat n i.toNat j.toNat c = (Rank.ofWidth w).bound) :
    Reached data rows cols i j c := by
  have hi' : i.toNat < rows.toNat := BitVec.lt_def.mp hi
  have hj' : j.toNat < cols.toNat := BitVec.lt_def.mp hj
  have hle : (Rank.ofWidth w).bound ≤ data.length := by
    rw [hdata, ← hflat]
    exact (RowMajor.flat_lt hi' hj' c.isLt).le
  -- the positions of the rows above end before the bound
  have hrows : i.toNat * cols.toNat * n ≤ (Rank.ofWidth w).bound := by
    rw [← hflat, flat_eq]
    omega
  have habove : convertScan n data i cols = _ := convertScan_eq hrows (hrows.trans hle)
  -- so do those of the pixels to the left
  have hleft : ∀ j' < j.toNat, ∀ c' < n,
      RowMajor.flat cols.toNat n i.toNat j' c' < (Rank.ofWidth w).bound := by
    intro j' hj'' c' hc'
    rw [← hflat]
    exact RowMajor.flat_lt_flat (hj''.trans hj') hc' (Or.inr ⟨rfl, Or.inl hj''⟩)
  have hpixels := scanRow_eq (k := j) i.isLt hleft
    (fun j' hj'' c' hc' => (hleft j' hj'' c' hc').trans_le hle)
  -- and those of the channels before
  have hbefore : ∀ c' ∈ (List.finRange n).take c,
      RowMajor.flat cols.toNat n i.toNat j.toNat (c' : ℕ) < (Rank.ofWidth w).bound := by
    intro c' hc'
    rw [List.mem_take_iff_getElem] at hc'
    obtain ⟨k, hk, rfl⟩ := hc'
    rw [← hflat]
    exact RowMajor.flat_lt_flat hj' (Fin.isLt _) (Or.inr ⟨rfl, Or.inr ⟨rfl, by simp; omega⟩⟩)
  have hchannels := foldlM_readChannel hbefore (fun c' hc' => (hbefore c' hc').trans_le hle)
    ⟨fun _ => CScalar.zero, true, []⟩
  rw [BitVec.ofNat_toNat, BitVec.setWidth_eq] at hpixels
  exact ⟨hi, hj, ⟨_, _, habove, hpixels _ _⟩, ⟨_, hchannels⟩⟩

omit [CScalar P] in
lemma not_exactIndex_of_flat_eq_bound {r : Rank} {length i cols j c : ℕ}
    (hflat : RowMajor.flat cols n i j c = r.bound) : ¬ ExactIndex r length i cols j n c := by
  intro hexact
  have hlt := pixelIndex_lt hexact.index
  rw [← flat_eq, hflat] at hlt
  exact lt_irrefl _ hlt

/-- A conversion of more elements than the index type has values reaches an iteration whose
index is not exact. -/
lemma exists_reached_not_exact {data : List P} {rows cols : BitVec w}
    (hdata : data.length = rows.toNat * cols.toNat * n)
    (hlarge : (Rank.ofWidth w).bound < rows.toNat * cols.toNat * n) :
    ∃ (i j : BitVec w) (c : Fin n), Reached data rows cols i j c ∧
      ¬ ExactIndex (Rank.ofWidth w) data.length i.toNat cols.toNat j.toNat n c := by
  obtain ⟨i, j, c, hi, hj, hc, hflat⟩ := RowMajor.exists_flat hlarge
  have hi' : (BitVec.ofNat w i).toNat = i := Nat.mod_eq_of_lt (hi.trans rows.isLt)
  have hj' : (BitVec.ofNat w j).toNat = j := Nat.mod_eq_of_lt (hj.trans cols.isLt)
  refine ⟨BitVec.ofNat w i, BitVec.ofNat w j, ⟨c, hc⟩, ?_, ?_⟩
  · refine reached_of_flat_eq_bound hdata ?_ ?_ ?_
    · rwa [BitVec.lt_def, hi']
    · rwa [BitVec.lt_def, hj']
    · rwa [hi', hj']
  · refine not_exactIndex_of_flat_eq_bound ?_
    rwa [hi', hj']

/-! ### The supported sizes -/

/-- The number of elements up to which the index over a coordinate type is exact. -/
def indexLimit : CoordType → ℕ
  | .uint8_t | .uint16_t => 2 ^ 31
  | .uint32_t => 2 ^ 32

lemma bound_ofWidth (ct : CoordType) : (Rank.ofWidth ct.width).bound = indexLimit ct := by
  cases ct <;> rfl

/-- **The index is exact up to its own type.**  For buffers of the size of the image, every
iteration that the conversion reaches computes its own position without overflow or
wrap-around, exactly if the image has no more elements than the index type has values. -/
theorem indexing_exact_iff (ct : CoordType) (rows cols : BitVec ct.width) (n : ℕ) :
    (∀ data : List P, data.length = rows.toNat * cols.toNat * n →
      ∀ (i j : BitVec ct.width) (c : Fin n), Reached data rows cols i j c →
        ExactIndex (Rank.ofWidth ct.width) data.length i.toNat cols.toNat j.toNat n c) ↔
      rows.toNat * cols.toNat * n ≤ indexLimit ct := by
  rw [← bound_ofWidth]
  constructor
  · intro hexact
    by_contra hlarge
    have hdata : (List.replicate (rows.toNat * cols.toNat * n) (CScalar.zero : P)).length
        = rows.toNat * cols.toNat * n := List.length_replicate
    obtain ⟨i, j, c, hreached, hnot⟩ := exists_reached_not_exact hdata (not_le.mp hlarge)
    exact hnot (hexact _ hdata i j c hreached)
  · intro hle data hdata i j c hreached
    have hlt := RowMajor.flat_lt (BitVec.lt_def.mp hreached.row_lt)
      (BitVec.lt_def.mp hreached.col_lt) c.isLt
    exact exactIndex_of_flat_lt c.pos (hlt.trans_le hle) (hlt.trans_eq hdata.symm)

/-- An image of 90000 by 90000 pixels wraps around in `unsigned int`. -/
theorem indexing_90000 :
    ∃ (i j : BitVec CoordType.uint32_t.width) (c : Fin 1),
      Reached (List.replicate 8100000000 (⟨0⟩ : Value .double)) (90000 : BitVec 32) 90000 i j c ∧
      ¬ ExactIndex (Rank.ofWidth 32) 8100000000 i.toNat 90000 j.toNat 1 c := by
  have hdata : (List.replicate 8100000000 (⟨0⟩ : Value .double)).length
      = (90000 : BitVec 32).toNat * (90000 : BitVec 32).toNat * 1 := List.length_replicate
  have hlarge : (Rank.ofWidth 32).bound
      < (90000 : BitVec 32).toNat * (90000 : BitVec 32).toNat * 1 := by decide
  obtain ⟨i, j, c, hreached, hnot⟩ := exists_reached_not_exact hdata hlarge
  rw [List.length_replicate] at hnot
  exact ⟨i, j, c, hreached, hnot⟩

end ADPluginArrow
