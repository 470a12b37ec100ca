/-
# Composed images

How the conversion of an image follows from the conversions of other images.

* `convertImgToVectors_width` is about one buffer of any length under two coordinate types: the rows
  are the same, or the fault is, unless one of them computes the index in `int` and the other one
  does not, for more than `2 ^ 31` elements.
* `convertImgToVectors_stack` is about two images, one above the other: their tuples follow each
  other, and the rows of the second one are counted from the end of the first one.
* `convertImgToVectors_select` is about some of the channels of an image, in any order: the tuple of
  these channels has the rows of the tuple of the image that are not zero in them.  A channel of
  an RGB1 image is converted as a Mono image in this way.
-/
import ADPluginArrow.Faults

namespace ADPluginArrow

open CLang

variable {w m n : ℕ} {P : Type} [CScalar P] {data data' : List P} {rows rows' cols : BitVec w}

/-- The rows of the tuple of a coordinate list whose coordinates are representable. -/
lemma VectorizedImg.entries_ofEntries {l : List (Coo.Entry (Fin n → P))}
    (h : Coo.Canonical blank rows.toNat cols.toNat l) : (ofEntries w n l).entries = l := by
  refine List.ext_getElem (by simp [entries, ofEntries]) fun k _ hk => ?_
  have hrow := (h.row_lt l[k] (List.getElem_mem hk)).trans rows.isLt
  have hcol := (h.col_lt l[k] (List.getElem_mem hk)).trans cols.isLt
  simp [entries, ofEntries, List.getElem?_eq_getElem hk, Nat.mod_eq_of_lt hrow,
    Nat.mod_eq_of_lt hcol]

/-- The conversion of an image that is inside its buffer, and the rows of its result. -/
lemma exists_convertImgToVectors_entries (n : ℕ) (data : List P) (rows cols : BitVec w)
    (hbound : rows.toNat * cols.toNat * n ≤ (Rank.ofWidth w).bound)
    (hdata : rows.toNat * cols.toNat * n ≤ data.length) :
    ∃ v, convertImgToVectors data rows cols n = .ok v ∧
      v.entries = Coo.encode blank (pixel n data cols.toNat) rows.toNat cols.toNat :=
  ⟨_, convertImgToVectors_eq hbound hdata, VectorizedImg.entries_ofEntries Coo.encode_canonical⟩

/-! ### Two coordinate types -/

/-- Up to `2 ^ 31` elements, the only fault is the end of the buffer. -/
lemma scanFault_of_le {r : Rank} {total length : ℕ} (h : total ≤ 2 ^ 31) :
    scanFault r total length = if total ≤ length then none else some .outOfBounds := by
  cases r with
  | int =>
    rw [scanFault]
    split_ifs <;> first | rfl | omega
  | unsignedInt => rw [scanFault, min_eq_left (by omega)]

/-- Up to `2 ^ 31` elements, every element is read at its own position. -/
lemma position_of_le {r : Rank} {rows cols i j c : ℕ} (h : rows * cols * n ≤ 2 ^ 31) (hi : i < rows)
    (hj : j < cols) (hc : c < n) : position r cols n i j c = RowMajor.flat cols n i j c := by
  have hlt := RowMajor.flat_lt hi hj hc
  cases r with
  | int => rfl
  | unsignedInt => exact Nat.mod_eq_of_lt (by omega)

/-- The rows of any conversion. -/
lemma entries_convertImgToVectors (n : ℕ) (data : List P) (rows cols : BitVec w) :
    VectorizedImg.entries <$> convertImgToVectors data rows cols n =
      match scanFault (Rank.ofWidth w) (rows.toNat * cols.toNat * n) data.length with
      | some fault => .error fault
      | none => .ok (Coo.encode blank
          (pixelAt n data (position (Rank.ofWidth w) cols.toNat n)) rows.toNat cols.toNat) := by
  rw [convertImgToVectors, convertScan_total]
  cases scanFault (Rank.ofWidth w) (rows.toNat * cols.toNat * n) data.length with
  | some fault => rfl
  | none => exact congrArg Except.ok (VectorizedImg.entries_ofEntries Coo.encode_canonical)

/-- **Coordinate types.**  Two coordinate types that represent the extents of an image give the same
rows or the same fault, whatever the length of the buffer, if both compute the index in the same
type or there are at most `2 ^ 31` elements; and they give rows where these are in the buffer. -/
theorem convertImgToVectors_width {w' : ℕ} {height width : BitVec w'}
    (hrows : height.toNat = rows.toNat) (hcols : width.toNat = cols.toNat)
    (hrank : Rank.ofWidth w' = Rank.ofWidth w ∨ rows.toNat * cols.toNat * n ≤ 2 ^ 31) :
    VectorizedImg.entries <$> convertImgToVectors data height width n
        = VectorizedImg.entries <$> convertImgToVectors data rows cols n ∧
      (rows.toNat * cols.toNat * n ≤ 2 ^ 31 → rows.toNat * cols.toNat * n ≤ data.length →
        ∃ v v', convertImgToVectors data rows cols n = .ok v ∧
          convertImgToVectors data height width n = .ok v' ∧ v'.entries = v.entries) := by
  constructor
  · rw [entries_convertImgToVectors, entries_convertImgToVectors, hrows, hcols]
    rcases hrank with hrank | hbound
    · rw [hrank]
    · have hsame : Coo.encode blank
          (pixelAt n data (position (Rank.ofWidth w') cols.toNat n)) rows.toNat cols.toNat
          = Coo.encode blank
            (pixelAt n data (position (Rank.ofWidth w) cols.toNat n)) rows.toNat cols.toNat := by
        refine Coo.encode_congr fun i hi j hj => funext fun c => ?_
        rw [pixelAt, pixelAt, position_of_le hbound hi hj c.isLt,
          position_of_le hbound hi hj c.isLt]
      rw [scanFault_of_le hbound, scanFault_of_le hbound, hsame]
  · intro hbound hdata
    obtain ⟨v, hv, hentries⟩ := exists_convertImgToVectors_entries n data rows cols
      (hbound.trans (Rank.two_pow_31_le_bound _)) hdata
    obtain ⟨v', hv', hentries'⟩ := exists_convertImgToVectors_entries n data height width
      (hrows ▸ hcols ▸ hbound.trans (Rank.two_pow_31_le_bound _)) (hrows ▸ hcols ▸ hdata)
    exact ⟨v, v', hv, hv', by rw [hentries, hentries', hrows, hcols]⟩

/-- Two rows of two pixels, followed by elements that do not belong to the image, under the
narrowest and the widest type. -/
theorem convertImgToVectors_width_rows : ∃ v v',
    convertImgToVectors (elementsAs .uint8_t [7, 0, 0, 9, 1, 1]) (2 : BitVec 8) 2 1 = .ok v ∧
      convertImgToVectors (elementsAs .uint8_t [7, 0, 0, 9, 1, 1]) (2 : BitVec 32) 2 1 = .ok v' ∧
      v'.entries = v.entries := by
  refine (convertImgToVectors_width (P := Value .uint8_t) ?_ ?_ (Or.inr ?_)).2 ?_ ?_
  all_goals decide

/-! ### One image above another one -/

lemma flat_add_row (rows cols n i j c : ℕ) :
    RowMajor.flat cols n (rows + i) j c = rows * cols * n + RowMajor.flat cols n i j c := by
  simp only [RowMajor.flat]
  ring

/-- **Images above each other.**  The conversion of an image whose upper rows are one image and
whose lower rows are another one gives the rows of the first tuple, and then those of the second
one, moved down. -/
theorem convertImgToVectors_stack {total : BitVec w}
    (htotal : total.toNat = rows.toNat + rows'.toNat)
    (hbound : total.toNat * cols.toNat * n ≤ (Rank.ofWidth w).bound)
    (hdata : data.length = rows.toNat * cols.toNat * n)
    (hdata' : rows'.toNat * cols.toNat * n ≤ data'.length) :
    ∃ v v' v'', convertImgToVectors data rows cols n = .ok v ∧
      convertImgToVectors data' rows' cols n = .ok v' ∧
      convertImgToVectors (data ++ data') total cols n = .ok v'' ∧
      v''.entries = v.entries ++ v'.entries.map (Coo.Entry.shift rows.toNat) := by
  have hsum : total.toNat * cols.toNat * n
      = rows.toNat * cols.toNat * n + rows'.toNat * cols.toNat * n := by
    rw [htotal]
    ring
  obtain ⟨v, hv, hentries⟩ :=
    exists_convertImgToVectors_entries n data rows cols (by omega) hdata.ge
  obtain ⟨v', hv', hentries'⟩ :=
    exists_convertImgToVectors_entries n data' rows' cols (by omega) hdata'
  obtain ⟨v'', hv'', hentries''⟩ :=
    exists_convertImgToVectors_entries n (data ++ data') total cols hbound
      (by rw [List.length_append]; omega)
  refine ⟨v, v', v'', hv, hv', hv'', ?_⟩
  have hupper : ∀ i < rows.toNat, ∀ j < cols.toNat,
      pixel n (data ++ data') cols.toNat i j = pixel n data cols.toNat i j := by
    intro i hi j hj
    ext c : 1
    exact List.getD_append _ _ _ _ (hdata ▸ RowMajor.flat_lt hi hj c.isLt)
  have hlower : ∀ i < rows'.toNat, ∀ j < cols.toNat,
      pixel n (data ++ data') cols.toNat (rows.toNat + i) j = pixel n data' cols.toNat i j := by
    intro i _ j _
    ext c : 1
    have hle : data.length ≤ RowMajor.flat cols.toNat n (rows.toNat + i) j c := by
      rw [hdata, flat_add_row]
      exact Nat.le_add_right _ _
    refine (List.getD_append_right _ _ _ _ hle).trans ?_
    rw [hdata, flat_add_row, Nat.add_sub_cancel_left]
    rfl
  rw [hentries, hentries', hentries'', htotal, Coo.encode_stack, Coo.encode_congr hupper,
    Coo.encode_congr hlower]

theorem convertImgToVectors_stack_two : ∃ v v' v'',
    convertImgToVectors [(⟨7⟩ : Value .uint8_t)] (1 : BitVec 8) 1 1 = .ok v ∧
      convertImgToVectors [(⟨9⟩ : Value .uint8_t)] (1 : BitVec 8) 1 1 = .ok v' ∧
      convertImgToVectors [(⟨7⟩ : Value .uint8_t), ⟨9⟩] (2 : BitVec 8) 1 1 = .ok v'' ∧
      v''.entries = v.entries ++ v'.entries.map (Coo.Entry.shift 1) :=
  convertImgToVectors_stack (by decide) (by decide) rfl (by decide)

/-! ### Some of the channels of an image -/

/-- **Channels of an image.**  The conversion of an image whose channels are some of the channels
of another image, in any order and any number of times, gives the rows of the other tuple that are
not zero in these channels. -/
theorem convertImgToVectors_select (f : Fin m → Fin n)
    (hbound : rows.toNat * cols.toNat * n ≤ (Rank.ofWidth w).bound)
    (hbound' : rows.toNat * cols.toNat * m ≤ (Rank.ofWidth w).bound)
    (hdata : rows.toNat * cols.toNat * n ≤ data.length)
    (hdata' : rows.toNat * cols.toNat * m ≤ data'.length)
    (hselect : ∀ i < rows.toNat, ∀ j < cols.toNat, ∀ c,
      pixel m data' cols.toNat i j c = pixel n data cols.toNat i j (f c)) :
    ∃ v v', convertImgToVectors data rows cols n = .ok v ∧
      convertImgToVectors data' rows cols m = .ok v' ∧
      v'.entries = (v.entries.map (Coo.Entry.map fun p => p ∘ f)).filter fun e => !blank e.val := by
  obtain ⟨v, hv, hentries⟩ := exists_convertImgToVectors_entries n data rows cols hbound hdata
  obtain ⟨v', hv', hentries'⟩ :=
    exists_convertImgToVectors_entries m data' rows cols hbound' hdata'
  refine ⟨v, v', hv, hv', ?_⟩
  have hblank : ∀ p : Fin n → P, blank p = true → blank (p ∘ f) = true := by
    intro p hp
    exact blank_eq_true_iff.mpr fun c => blank_eq_true_iff.mp hp (f c)
  rw [hentries, hentries', ← Coo.encode_map hblank]
  exact Coo.encode_congr fun i hi j hj => funext (hselect i hi j hj)

theorem convertImgToVectors_select_green : ∃ v v',
    convertImgToVectors [(⟨1⟩ : Value .uint8_t), ⟨2⟩, ⟨3⟩] (1 : BitVec 8) 1 3 = .ok v ∧
      convertImgToVectors [(⟨2⟩ : Value .uint8_t)] (1 : BitVec 8) 1 1 = .ok v' ∧
      v'.entries =
        (v.entries.map (Coo.Entry.map fun p => p ∘ fun _ : Fin 1 => Fin.ofNat 3 1)).filter
          fun e => !blank e.val := by
  refine convertImgToVectors_select _ (by decide) (by decide) (by decide) (by decide) ?_
  decide

end ADPluginArrow
