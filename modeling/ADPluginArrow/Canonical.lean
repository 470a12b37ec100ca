/-
# The sparse representation of an image

The tuples that the conversion returns are the coordinate lists in normal form, spread over
parallel vectors.  `convertImgToVectors_canonical` says that the conversion has exactly the
canonical tuples for its results: each of its results is canonical, it gives every canonical tuple
back from the image of the tuple, and two canonical tuples of the same image are equal.
-/
import ADPluginArrow.Index

namespace ADPluginArrow

open CLang

variable {w n : ℕ} {P : Type} [CScalar P]

namespace VectorizedImg

/-! ### Canonical tuples -/

/-- The vectors have the length that the tuple counts, the coordinates are strictly
increasing row by row and lie inside the image, and no row of the tuple is zero in every
channel. -/
structure Canonical (v : VectorizedImg w n P) (rows cols : ℕ) : Prop where
  length_xCoords : v.xCoords.length = v.nRows
  length_yCoords : v.yCoords.length = v.nRows
  length_pixelChannels : ∀ c, (v.pixelChannels c).length = v.nRows
  sorted : (v.yCoords.zip v.xCoords).Pairwise fun a b => a.1 < b.1 ∨ a.1 = b.1 ∧ a.2 < b.2
  x_lt : ∀ x ∈ v.xCoords, x.toNat < cols
  y_lt : ∀ y ∈ v.yCoords, y.toNat < rows
  not_blank : ∀ k < v.nRows, ∃ c value, (v.pixelChannels c)[k]? = some value ∧
    CScalar.isZero value = false

/-- The rows of a tuple as the cells of a coordinate list. -/
def entries (v : VectorizedImg w n P) : List (Coo.Entry (Fin n → P)) :=
  (List.range v.nRows).map fun k =>
    ⟨(v.yCoords.getD k 0).toNat, (v.xCoords.getD k 0).toNat,
      fun c => (v.pixelChannels c).getD k CScalar.zero⟩

/-- The image of a tuple: its rows stored at their pixels in an image of zeros. -/
def scatter (v : VectorizedImg w n P) (rows cols : ℕ) : List P :=
  Coo.store cols v.entries (List.replicate (rows * cols * n) CScalar.zero)

@[simp] lemma length_scatter (v : VectorizedImg w n P) (rows cols : ℕ) :
    (v.scatter rows cols).length = rows * cols * n := by
  simp [scatter]

/-! ### Tuples and coordinate lists -/

omit [CScalar P] in
/-- The order of the coordinates in the vectors is the order of the positions. -/
lemma lex_ofNat_iff {a b : Coo.Entry (Fin n → P)} (har : a.row < 2 ^ w) (hac : a.col < 2 ^ w)
    (hbr : b.row < 2 ^ w) (hbc : b.col < 2 ^ w) :
    (BitVec.ofNat w a.row < BitVec.ofNat w b.row ∨
      BitVec.ofNat w a.row = BitVec.ofNat w b.row ∧ BitVec.ofNat w a.col < BitVec.ofNat w b.col) ↔
      a.pos < b.pos := by
  rw [Coo.Entry.pos_lt_iff, BitVec.lt_def, BitVec.lt_def, ← BitVec.toNat_inj]
  simp only [BitVec.toNat_ofNat, Nat.mod_eq_of_lt har, Nat.mod_eq_of_lt hac,
    Nat.mod_eq_of_lt hbr, Nat.mod_eq_of_lt hbc]

/-- The vectors that a canonical coordinate list fills are a canonical tuple. -/
lemma canonical_ofEntries {l : List (Coo.Entry (Fin n → P))} {rows cols : BitVec w}
    (h : Coo.Canonical blank rows.toNat cols.toNat l) :
    (ofEntries w n l).Canonical rows.toNat cols.toNat where
  length_xCoords := by simp [ofEntries]
  length_yCoords := by simp [ofEntries]
  length_pixelChannels c := by simp [ofEntries]
  sorted := by
    show ((l.map fun e => BitVec.ofNat w e.row).zip
      (l.map fun e => BitVec.ofNat w e.col)).Pairwise _
    rw [List.zip_map', List.pairwise_map]
    refine h.sorted.imp_of_mem ?_
    intro a b ha hb hlt
    exact (lex_ofNat_iff ((h.row_lt a ha).trans rows.isLt) ((h.col_lt a ha).trans cols.isLt)
      ((h.row_lt b hb).trans rows.isLt) ((h.col_lt b hb).trans cols.isLt)).mpr hlt
  x_lt := by
    intro x hx
    obtain ⟨e, he, rfl⟩ := List.mem_map.mp hx
    exact (Nat.mod_le _ _).trans_lt (h.col_lt e he)
  y_lt := by
    intro y hy
    obtain ⟨e, he, rfl⟩ := List.mem_map.mp hy
    exact (Nat.mod_le _ _).trans_lt (h.row_lt e he)
  not_blank := by
    intro k hk
    have hblank := h.not_blank l[k] (List.getElem_mem hk)
    obtain ⟨c, hc⟩ : ∃ c, CScalar.isZero (l[k].val c) = false := by
      by_contra hall
      have hb : blank l[k].val = true := by
        refine blank_eq_true_iff.mpr fun c => ?_
        by_contra hc
        exact hall ⟨c, by simpa using hc⟩
      exact absurd (hb.symm.trans hblank) (by decide)
    refine ⟨c, l[k].val c, ?_, hc⟩
    show (l.map fun e => e.val c)[k]? = _
    rw [List.getElem?_map, List.getElem?_eq_getElem hk]
    rfl

/-- A tuple whose vectors have the length that it counts is filled by its own rows. -/
lemma ofEntries_entries {v : VectorizedImg w n P} (hx : v.xCoords.length = v.nRows)
    (hy : v.yCoords.length = v.nRows) (hch : ∀ c, (v.pixelChannels c).length = v.nRows) :
    ofEntries w n v.entries = v := by
  have hget : ∀ {α : Type} (l : List α) (d : α), l.length = v.nRows →
      (List.range v.nRows).map (fun k => l.getD k d) = l := by
    intro α l d hl
    refine List.ext_getElem (by simp [hl]) fun k _ hk => ?_
    rw [List.getElem_map, List.getElem_range, List.getD_eq_getElem _ _ hk]
  ext1
  · simp [ofEntries, entries]
  · simpa [ofEntries, entries, Function.comp_def] using hget v.xCoords 0 hx
  · simpa [ofEntries, entries, Function.comp_def] using hget v.yCoords 0 hy
  · funext c
    simpa [ofEntries, entries, Function.comp_def] using
      hget (v.pixelChannels c) CScalar.zero (hch c)

/-- The rows of a canonical tuple are a canonical coordinate list. -/
lemma Canonical.entries {v : VectorizedImg w n P} {rows cols : ℕ} (h : v.Canonical rows cols) :
    Coo.Canonical blank rows cols v.entries := by
  have hmem : ∀ e ∈ v.entries, ∃ k < v.nRows,
      e = ⟨(v.yCoords.getD k 0).toNat, (v.xCoords.getD k 0).toNat,
        fun c => (v.pixelChannels c).getD k CScalar.zero⟩ := by
    intro e he
    obtain ⟨k, hk, rfl⟩ := List.mem_map.mp he
    exact ⟨k, List.mem_range.mp hk, rfl⟩
  refine ⟨?_, ?_, ?_, ?_⟩
  · have hzip : v.yCoords.zip v.xCoords
        = v.entries.map fun e => (BitVec.ofNat w e.row, BitVec.ofNat w e.col) := by
      have hv := ofEntries_entries h.length_xCoords h.length_yCoords h.length_pixelChannels
      exact (congrArg (fun v => v.yCoords.zip v.xCoords) hv).symm.trans List.zip_map'
    have hsorted := h.sorted
    rw [hzip, List.pairwise_map] at hsorted
    refine hsorted.imp_of_mem ?_
    intro a b ha hb hlt
    obtain ⟨k, -, rfl⟩ := hmem a ha
    obtain ⟨k', -, rfl⟩ := hmem b hb
    exact (lex_ofNat_iff (BitVec.isLt _) (BitVec.isLt _) (BitVec.isLt _) (BitVec.isLt _)).mp hlt
  · intro e he
    obtain ⟨k, hk, rfl⟩ := hmem e he
    have hky : k < v.yCoords.length := h.length_yCoords ▸ hk
    show (v.yCoords.getD k 0).toNat < rows
    rw [List.getD_eq_getElem _ _ hky]
    exact h.y_lt _ (List.getElem_mem hky)
  · intro e he
    obtain ⟨k, hk, rfl⟩ := hmem e he
    have hkx : k < v.xCoords.length := h.length_xCoords ▸ hk
    show (v.xCoords.getD k 0).toNat < cols
    rw [List.getD_eq_getElem _ _ hkx]
    exact h.x_lt _ (List.getElem_mem hkx)
  · intro e he
    obtain ⟨k, hk, rfl⟩ := hmem e he
    obtain ⟨c, value, hvalue, hnot⟩ := h.not_blank k hk
    refine blank_eq_false_iff.mpr ⟨c, ?_⟩
    show CScalar.isZero ((v.pixelChannels c).getD k CScalar.zero) = false
    rw [List.getD_eq_getElem?_getD, hvalue, Option.getD_some, hnot]

lemma pixel_scatter {v : VectorizedImg w n P} {rows cols i j : ℕ} (h : v.Canonical rows cols)
    (hi : i < rows) (hj : j < cols) :
    pixel n (v.scatter rows cols) cols i j = Coo.scatter (fun _ => CScalar.zero) v.entries i j := by
  funext c
  exact Coo.getD_store h.entries.col_lt hi hj c

end VectorizedImg

/-! ### The conversion -/

lemma convertImgToVectors_eq {data : List P} {rows cols : BitVec w}
    (hbound : rows.toNat * cols.toNat * n ≤ (Rank.ofWidth w).bound)
    (hdata : rows.toNat * cols.toNat * n ≤ data.length) :
    convertImgToVectors data rows cols n
      = .ok (ofEntries w n (Coo.encode blank (pixel n data cols.toNat) rows.toNat cols.toNat)) := by
  rw [convertImgToVectors, convertScan_eq hbound hdata]
  rfl

/-- Converting the image of a canonical tuple gives the tuple back. -/
lemma convertImgToVectors_scatter {v : VectorizedImg w n P} {rows cols : BitVec w}
    (hbound : rows.toNat * cols.toNat * n ≤ (Rank.ofWidth w).bound)
    (h : v.Canonical rows.toNat cols.toNat) :
    convertImgToVectors (v.scatter rows.toNat cols.toNat) rows cols n = .ok v := by
  have hblank : blank (fun _ : Fin n => (CScalar.zero : P)) = true := blank_zero
  have henc : Coo.encode blank (pixel n (v.scatter rows.toNat cols.toNat) cols.toNat)
      rows.toNat cols.toNat = v.entries := by
    rw [Coo.encode_congr fun i hi j hj => VectorizedImg.pixel_scatter h hi hj]
    exact Coo.encode_scatter hblank h.entries
  rw [convertImgToVectors_eq hbound (by simp), henc,
    VectorizedImg.ofEntries_entries h.length_xCoords h.length_yCoords h.length_pixelChannels]

/-- **The conversion takes the images onto the canonical tuples.**  The result for an image is
canonical; every canonical tuple is the result for its image; and two canonical tuples of the
same image are equal.  (Images that differ in the values that compare equal to zero have the same
result.) -/
theorem convertImgToVectors_canonical (ct : CoordType) (rows cols : BitVec ct.width) (n : ℕ)
    (hsize : rows.toNat * cols.toNat * n ≤ 2 ^ 31) :
    (∀ data : List P, data.length = rows.toNat * cols.toNat * n →
      ∃ v, convertImgToVectors data rows cols n = .ok v ∧ v.Canonical rows.toNat cols.toNat) ∧
    (∀ v : VectorizedImg ct.width n P, v.Canonical rows.toNat cols.toNat →
      convertImgToVectors (v.scatter rows.toNat cols.toNat) rows cols n = .ok v) ∧
    ∀ v v' : VectorizedImg ct.width n P, v.Canonical rows.toNat cols.toNat →
      v'.Canonical rows.toNat cols.toNat →
      v.scatter rows.toNat cols.toNat = v'.scatter rows.toNat cols.toNat → v = v' := by
  have hbound := hsize.trans (Rank.two_pow_31_le_bound (Rank.ofWidth ct.width))
  refine ⟨?_, ?_, ?_⟩
  · intro data hdata
    exact ⟨_, convertImgToVectors_eq hbound hdata.ge,
      VectorizedImg.canonical_ofEntries Coo.encode_canonical⟩
  · intro v h
    exact convertImgToVectors_scatter hbound h
  · intro v v' h h' himg
    have heq := convertImgToVectors_scatter hbound h
    rw [himg, convertImgToVectors_scatter hbound h'] at heq
    exact (Except.ok.inj heq).symm

/-- A tuple of three rows, for an image of two rows and three columns. -/
def threeRows : VectorizedImg 8 2 (Value .uint8_t) where
  nRows := 3
  xCoords := [0, 2, 1]
  yCoords := [0, 0, 1]
  pixelChannels c := if c.val = 0 then [⟨7⟩, ⟨0⟩, ⟨5⟩] else [⟨0⟩, ⟨9⟩, ⟨5⟩]

lemma canonical_threeRows : threeRows.Canonical 2 3 where
  length_xCoords := rfl
  length_yCoords := rfl
  length_pixelChannels := by decide
  sorted := by decide
  x_lt := by decide
  y_lt := by decide
  not_blank := by
    intro k hk
    have hk : k < 3 := hk
    interval_cases k
    · exact ⟨⟨0, by decide⟩, ⟨7⟩, rfl, rfl⟩
    · exact ⟨⟨1, by decide⟩, ⟨9⟩, rfl, rfl⟩
    · exact ⟨⟨0, by decide⟩, ⟨5⟩, rfl, rfl⟩

/-- The tuple is the one of its image, three pixels of which are zero, and no other canonical tuple
has this image; the result for another image is canonical, too. -/
theorem convertImgToVectors_canonical_threeRows :
    (∃ v, convertImgToVectors (elementsAs .uint8_t [0, 0, 1, 2, 0, 0, 0, 3, 0, 0, 4, 0])
        (2 : BitVec 8) 3 2 = .ok v ∧ v.Canonical 2 3) ∧
      threeRows.scatter 2 3 = elementsAs .uint8_t [7, 0, 0, 0, 0, 9, 0, 0, 5, 5, 0, 0] ∧
      convertImgToVectors (elementsAs .uint8_t [7, 0, 0, 0, 0, 9, 0, 0, 5, 5, 0, 0])
        (2 : BitVec 8) 3 2 = .ok threeRows ∧
      ∀ v : VectorizedImg 8 2 (Value .uint8_t), v.Canonical 2 3 →
        v.scatter 2 3 = threeRows.scatter 2 3 → v = threeRows := by
  obtain ⟨hinto, honto, hunique⟩ := convertImgToVectors_canonical (P := Value .uint8_t) .uint8_t
    2 3 2 (by decide)
  have hscatter : threeRows.scatter 2 3
      = elementsAs .uint8_t [7, 0, 0, 0, 0, 9, 0, 0, 5, 5, 0, 0] := by decide
  refine ⟨hinto _ (by decide), hscatter, hscatter ▸ honto threeRows canonical_threeRows, ?_⟩
  exact fun v hv himage => hunique v threeRows hv canonical_threeRows himage

end ADPluginArrow
