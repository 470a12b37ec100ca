/-
# The conversion of an image to vectors

`convertImgToVectors` scans an image row by row and collects the coordinates and the
channel values of the pixels that are not zero in every channel.  The model keeps the
machine arithmetic of the source: the loop counters have the width of the coordinate type,
the buffer index is computed in the type that C++ promotes its operands to, and a read
outside the buffer is undefined.

The main result is `convertScan_eq`: while the buffer holds every element and its size is
representable in the type of the index, the conversion is the coordinate form of the image,
and it reads the elements `0, 1, …` of the buffer in order.
-/
import ADPluginArrow.Data
import ADPluginArrow.Lib.CountedLoop
import ADPluginArrow.Lib.Coo

namespace ADPluginArrow

open CLang

/-- The undefined operations that the plugin can run into. -/
inductive Fault where
  | signedOverflow
  | outOfBounds
  | nullPointer
deriving DecidableEq, Repr

/-- `vectorizedImg<CT, PT>`: the number of hot pixels, their coordinates, and one vector of
values for each channel. -/
@[ext] structure VectorizedImg (w n : ℕ) (P : Type) where
  nRows : ℕ
  xCoords : List (BitVec w)
  yCoords : List (BitVec w)
  pixelChannels : Fin n → List P

variable {w n : ℕ} {P : Type} [CScalar P]

/-! ### The code -/

/-- `(i * cols + j) * nChannels + c`, each operation in the type of the expression. -/
def pixelIndex (r : Rank) (i cols j nChannels c : ℕ) : Option ℕ := do
  let a ← r.mul i cols
  let b ← r.add a j
  let d ← r.mul b nChannels
  r.add d c

/-- What the loop over the channels of a pixel computes, and the buffer positions that it
has read. -/
structure PixelRead (n : ℕ) (P : Type) where
  channelValues : Fin n → P
  allZeros : Bool
  reads : List ℕ

/-- One iteration of the loop over the channels of pixel `(i, j)`. -/
def readChannel (r : Rank) (data : List P) (cols i j : ℕ) (s : PixelRead n P) (c : Fin n) :
    Except Fault (PixelRead n P) :=
  match pixelIndex r i cols j n c with
  | none => .error .signedOverflow
  | some k =>
    match data[k]? with
    | none => .error .outOfBounds
    | some value => .ok
        { channelValues := Function.update s.channelValues c value
          allZeros := if CScalar.isZero value then s.allZeros else false
          reads := s.reads ++ [k] }

/-- The loop over the channels of pixel `(i, j)`. -/
def readPixel (n : ℕ) (r : Rank) (data : List P) (cols i j : ℕ) :
    Except Fault (PixelRead n P) :=
  (List.finRange n).foldlM (readChannel r data cols i j) ⟨fun _ => CScalar.zero, true, []⟩

/-- The second loop over the channels, which appends the values of a hot pixel. -/
def pushChannels (channels : Fin n → List P) (channelValues : Fin n → P) : Fin n → List P :=
  (List.finRange n).foldl
    (fun chs c => Function.update chs c (chs c ++ [channelValues c])) channels

/-- The state of the scan: the vectors collected so far and the buffer positions read. -/
structure Scan (w n : ℕ) (P : Type) where
  reshapedData : VectorizedImg w n P
  reads : List ℕ

/-- The body of the two outer loops. -/
def scanPixel (data : List P) (cols i j : BitVec w) (s : Scan w n P) :
    Except Fault (Scan w n P) := do
  let p ← readPixel n (Rank.ofWidth w) data cols.toNat i.toNat j.toNat
  if p.allZeros then
    return { s with reads := s.reads ++ p.reads }
  else
    return {
      reshapedData :=
        { nRows := s.reshapedData.nRows + 1
          xCoords := s.reshapedData.xCoords ++ [j]
          yCoords := s.reshapedData.yCoords ++ [i]
          pixelChannels := pushChannels s.reshapedData.pixelChannels p.channelValues }
      reads := s.reads ++ p.reads }

/-- The two nested loops over the pixels of an image. -/
def forPixels {m : Type → Type} [Monad m] {σ : Type} (rows cols : BitVec w)
    (body : BitVec w → BitVec w → σ → m σ) (s : σ) : m σ :=
  forUpto rows (fun i => forUpto cols (fun j => body i j) 0) 0 s

/-- The scan of `convertImgToVectors`, together with the positions that it reads. -/
def convertScan (n : ℕ) (data : List P) (rows cols : BitVec w) :
    Except Fault (Scan w n P) :=
  forPixels rows cols (scanPixel data cols) ⟨⟨0, [], [], fun _ => []⟩, []⟩

/-- `convertImgToVectors<CT, PT>(data, rows, cols, nChannels)`. -/
def convertImgToVectors (data : List P) (rows cols : BitVec w) (nChannels : ℕ) :
    Except Fault (VectorizedImg w nChannels P) :=
  Scan.reshapedData <$> convertScan nChannels data rows cols

/-! ### The index -/

/-- Where the mathematical position is representable, every intermediate value is, and the
computed index is that position. -/
lemma pixelIndex_eq {r : Rank} {i cols j c : ℕ} (hn : 0 < n)
    (h : RowMajor.flat cols n i j c < r.bound) :
    pixelIndex r i cols j n c = some (RowMajor.flat cols n i j c) := by
  rw [RowMajor.flat] at h
  have hcell : i * cols + j ≤ (i * cols + j) * n := Nat.le_mul_of_pos_right _ hn
  have h1 : r.mul i cols = some (i * cols) := Rank.norm_eq_self_iff.mpr (by omega)
  have h2 : r.add (i * cols) j = some (i * cols + j) := Rank.norm_eq_self_iff.mpr (by omega)
  have h3 : r.mul (i * cols + j) n = some ((i * cols + j) * n) :=
    Rank.norm_eq_self_iff.mpr (by omega)
  have h4 : r.add ((i * cols + j) * n) c = some ((i * cols + j) * n + c) :=
    Rank.norm_eq_self_iff.mpr h
  simp [pixelIndex, h1, h2, h3, h4, RowMajor.flat]

lemma pixelIndex_lt {r : Rank} {i cols j c k : ℕ} (h : pixelIndex r i cols j n c = some k) :
    k < r.bound := by
  simp only [pixelIndex, Option.bind_eq_bind, Option.bind_eq_some_iff] at h
  obtain ⟨_, -, _, -, _, -, hk⟩ := h
  exact Rank.norm_lt_bound hk

/-! ### The channels of a pixel -/

/-- The value of every channel of a pixel. -/
def pixel (n : ℕ) (data : List P) (cols i j : ℕ) (c : Fin n) : P :=
  data.getD (RowMajor.flat cols n i j c) CScalar.zero

/-- All channel values compare equal to zero. -/
def blank (p : Fin n → P) : Bool := (List.finRange n).all fun c => CScalar.isZero (p c)

lemma blank_eq_true_iff {p : Fin n → P} : blank p = true ↔ ∀ c, CScalar.isZero (p c) = true := by
  simp [blank]

lemma blank_eq_false_iff {p : Fin n → P} : blank p = false ↔ ∃ c, CScalar.isZero (p c) = false := by
  simp [blank]

lemma blank_zero : blank (fun _ : Fin n => (CScalar.zero : P)) = true :=
  blank_eq_true_iff.mpr fun _ => CScalar.isZero_zero

/-- The value of every channel of a pixel, where `pos` says at which position of the buffer each
element is read. -/
def pixelAt (n : ℕ) (data : List P) (pos : ℕ → ℕ → ℕ → ℕ) (i j : ℕ) (c : Fin n) : P :=
  data.getD (pos i j c) CScalar.zero

omit [CScalar P] in
/-- Element `(i, j, c)` of an image is read at position `pos i j c`, which lies inside the
buffer. -/
def ReadsAt (n : ℕ) (r : Rank) (data : List P) (cols : ℕ) (pos : ℕ → ℕ → ℕ → ℕ) (i j c : ℕ) :
    Prop :=
  pixelIndex r i cols j n c = some (pos i j c) ∧ pos i j c < data.length

omit [CScalar P] in
lemma readsAt_flat {r : Rank} {data : List P} {cols i j c : ℕ} (hn : 0 < n)
    (hbound : RowMajor.flat cols n i j c < r.bound)
    (hdata : RowMajor.flat cols n i j c < data.length) :
    ReadsAt n r data cols (RowMajor.flat cols n) i j c :=
  ⟨pixelIndex_eq hn hbound, hdata⟩

lemma foldlM_readChannel_at {r : Rank} {data : List P} {pos : ℕ → ℕ → ℕ → ℕ} {cols i j : ℕ}
    {l : List (Fin n)} (h : ∀ c ∈ l, ReadsAt n r data cols pos i j (c : ℕ)) (s : PixelRead n P) :
    l.foldlM (readChannel r data cols i j) s = .ok
      { channelValues := fun c => if c ∈ l then pixelAt n data pos i j c else s.channelValues c
        allZeros := s.allZeros && l.all fun c => CScalar.isZero (pixelAt n data pos i j c)
        reads := s.reads ++ l.map fun c : Fin n => pos i j (c : ℕ) } := by
  induction l generalizing s with
  | nil => simp [pure, Except.pure]
  | cons c l ih =>
    obtain ⟨hidx, hlt⟩ := h c (by simp)
    have hget : data[pos i j c]? = some (pixelAt n data pos i j c) := by
      rw [pixelAt, List.getD_eq_getElem _ _ hlt]
      exact List.getElem?_eq_getElem hlt
    have hstep : readChannel r data cols i j s c = .ok
        { channelValues := Function.update s.channelValues c (pixelAt n data pos i j c)
          allZeros := if CScalar.isZero (pixelAt n data pos i j c) then s.allZeros else false
          reads := s.reads ++ [pos i j c] } := by
      simp only [readChannel, hidx, hget]
    rw [List.foldlM_cons, hstep]
    refine (ih (fun c hc => h c (by simp [hc])) _).trans ?_
    congr 2
    · funext c'
      by_cases hc : c' = c
      · subst hc
        simp
      · simp [hc]
    · by_cases hz : CScalar.isZero (pixelAt n data pos i j c) = true <;> simp [hz]
    · simp

lemma foldlM_readChannel {r : Rank} {data : List P} {cols i j : ℕ} {l : List (Fin n)}
    (hbound : ∀ c ∈ l, RowMajor.flat cols n i j (c : ℕ) < r.bound)
    (hdata : ∀ c ∈ l, RowMajor.flat cols n i j (c : ℕ) < data.length) (s : PixelRead n P) :
    l.foldlM (readChannel r data cols i j) s = .ok
      { channelValues := fun c => if c ∈ l then pixel n data cols i j c else s.channelValues c
        allZeros := s.allZeros && l.all fun c => CScalar.isZero (pixel n data cols i j c)
        reads := s.reads ++ l.map fun c : Fin n => RowMajor.flat cols n i j (c : ℕ) } :=
  foldlM_readChannel_at (fun c hc => readsAt_flat c.pos (hbound c hc) (hdata c hc)) s

lemma readPixel_at {r : Rank} {data : List P} {pos : ℕ → ℕ → ℕ → ℕ} {cols i j : ℕ}
    (h : ∀ c < n, ReadsAt n r data cols pos i j c) :
    readPixel n r data cols i j = .ok
      { channelValues := pixelAt n data pos i j
        allZeros := blank (pixelAt n data pos i j)
        reads := (List.range n).map fun c => pos i j c } := by
  have hreads : (List.finRange n).map (fun c : Fin n => pos i j (c : ℕ))
      = (List.range n).map fun c => pos i j c := by
    rw [← List.map_coe_finRange_eq_range, List.map_map]
    rfl
  rw [readPixel, foldlM_readChannel_at (fun c _ => h c c.isLt), hreads]
  simp [blank]

omit [CScalar P] in
lemma pushChannels_eq (channels : Fin n → List P) (values : Fin n → P) :
    pushChannels channels values = fun c => channels c ++ [values c] := by
  have key : ∀ l : List (Fin n), l.Nodup → ∀ chs : Fin n → List P,
      l.foldl (fun chs c => Function.update chs c (chs c ++ [values c])) chs
        = fun c => if c ∈ l then chs c ++ [values c] else chs c := by
    intro l hl
    induction l with
    | nil => simp
    | cons c l ih =>
      obtain ⟨hc, hl⟩ := List.nodup_cons.mp hl
      intro chs
      rw [List.foldl_cons, ih hl]
      funext c'
      by_cases hcc : c' = c
      · subst hcc
        simp [hc]
      · simp [hcc]
  rw [pushChannels, key _ (List.nodup_finRange n)]
  simp

/-! ### The whole scan -/

/-- The vectors that a list of cells fills, one cell after the other. -/
def ofEntries (w n : ℕ) (l : List (Coo.Entry (Fin n → P))) : VectorizedImg w n P where
  nRows := l.length
  xCoords := l.map fun e => BitVec.ofNat w e.col
  yCoords := l.map fun e => BitVec.ofNat w e.row
  pixelChannels c := l.map fun e => e.val c

/-- The cell that the visit of a pixel contributes. -/
def keep (i j : ℕ) (p : Fin n → P) : List (Coo.Entry (Fin n → P)) :=
  if blank p then [] else [⟨i, j, p⟩]

/-- One iteration of the two outer loops appends the cell of its pixel, if it is hot, and
reads the elements of its pixel. -/
lemma scanPixel_at {data : List P} {cols : BitVec w} {pos : ℕ → ℕ → ℕ → ℕ} {i j : ℕ}
    (hi : i < 2 ^ w) (hj : j < 2 ^ w)
    (h : ∀ c < n, ReadsAt n (Rank.ofWidth w) data cols.toNat pos i j c)
    (l : List (Coo.Entry (Fin n → P))) (reads : List ℕ) :
    scanPixel data cols (BitVec.ofNat w i) (BitVec.ofNat w j) ⟨ofEntries w n l, reads⟩ = .ok
      ⟨ofEntries w n (l ++ keep i j (pixelAt n data pos i j)),
        reads ++ (List.range n).map fun c => pos i j c⟩ := by
  have hi' : (BitVec.ofNat w i).toNat = i := by
    rw [BitVec.toNat_ofNat, Nat.mod_eq_of_lt hi]
  have hj' : (BitVec.ofNat w j).toNat = j := by
    rw [BitVec.toNat_ofNat, Nat.mod_eq_of_lt hj]
  rw [scanPixel, hi', hj', readPixel_at h]
  by_cases hb : blank (pixelAt n data pos i j) = true
  · simp [bind, Except.bind, pure, Except.pure, hb, keep]
  · simp [bind, Except.bind, pure, Except.pure, hb, keep, pushChannels_eq, ofEntries]

/-- A part of a row appends the cells of its pixels and reads their elements. -/
lemma scanRow_at {data : List P} {cols k : BitVec w} {pos : ℕ → ℕ → ℕ → ℕ} {i : ℕ}
    (hi : i < 2 ^ w)
    (h : ∀ j < k.toNat, ∀ c < n, ReadsAt n (Rank.ofWidth w) data cols.toNat pos i j c)
    (l : List (Coo.Entry (Fin n → P))) (reads : List ℕ) :
    forUpto k (fun j => scanPixel data cols (BitVec.ofNat w i) j) 0 ⟨ofEntries w n l, reads⟩ = .ok
      ⟨ofEntries w n (l ++ (List.range k.toNat).flatMap fun j =>
          keep i j (pixelAt n data pos i j)),
        reads ++ (List.range k.toNat).flatMap fun j =>
          (List.range n).map fun c => pos i j c⟩ := by
  rw [forUpto_zero]
  refine foldlM_append (fun l reads => (⟨ofEntries w n l, reads⟩ : Scan w n P)) l reads ?_
  intro l reads j hj
  have hj := List.mem_range.mp hj
  exact scanPixel_at hi (hj.trans k.isLt) (h j hj) l reads

lemma scanRow_eq {data : List P} {cols k : BitVec w} {i : ℕ} (hi : i < 2 ^ w)
    (hbound : ∀ j < k.toNat, ∀ c < n,
      RowMajor.flat cols.toNat n i j c < (Rank.ofWidth w).bound)
    (hdata : ∀ j < k.toNat, ∀ c < n, RowMajor.flat cols.toNat n i j c < data.length)
    (l : List (Coo.Entry (Fin n → P))) (reads : List ℕ) :
    forUpto k (fun j => scanPixel data cols (BitVec.ofNat w i) j) 0 ⟨ofEntries w n l, reads⟩ = .ok
      ⟨ofEntries w n (l ++ (List.range k.toNat).flatMap fun j =>
          keep i j (pixel n data cols.toNat i j)),
        reads ++ (List.range k.toNat).flatMap fun j =>
          (List.range n).map fun c => RowMajor.flat cols.toNat n i j c⟩ :=
  scanRow_at hi (fun j hj c hc =>
    readsAt_flat (Nat.zero_lt_of_lt hc) (hbound j hj c hc) (hdata j hj c hc)) l reads

/-- A scan whose elements are all read collects the cells that are not blank in row-major
order. -/
theorem convertScan_at {data : List P} {rows cols : BitVec w} {pos : ℕ → ℕ → ℕ → ℕ}
    (h : ∀ i < rows.toNat, ∀ j < cols.toNat, ∀ c < n,
      ReadsAt n (Rank.ofWidth w) data cols.toNat pos i j c) :
    convertScan n data rows cols = .ok
      ⟨ofEntries w n (Coo.encode blank (pixelAt n data pos) rows.toNat cols.toNat),
        (List.range rows.toNat).flatMap fun i => (List.range cols.toNat).flatMap fun j =>
          (List.range n).map fun c => pos i j c⟩ := by
  rw [convertScan, forPixels, forUpto_zero, Coo.encode_eq_flatMap]
  refine foldlM_append (fun l reads => (⟨ofEntries w n l, reads⟩ : Scan w n P)) [] [] ?_
  intro l reads i hi
  have hi := List.mem_range.mp hi
  exact scanRow_at (hi.trans rows.isLt) (h i hi) l reads

/-- **The conversion is the coordinate form of the image.**  While the buffer holds every
element of the image and the positions of the elements are representable in the type of the
index, the scan succeeds, collects the cells that are not blank in row-major order, and
reads the elements of the image in order. -/
theorem convertScan_eq {data : List P} {rows cols : BitVec w}
    (hbound : rows.toNat * cols.toNat * n ≤ (Rank.ofWidth w).bound)
    (hdata : rows.toNat * cols.toNat * n ≤ data.length) :
    convertScan n data rows cols = .ok
      ⟨ofEntries w n (Coo.encode blank (pixel n data cols.toNat) rows.toNat cols.toNat),
        List.range (rows.toNat * cols.toNat * n)⟩ := by
  rw [RowMajor.range_eq_flatMap]
  refine convertScan_at fun i hi j hj c hc => readsAt_flat (Nat.zero_lt_of_lt hc) ?_ ?_
  · exact (RowMajor.flat_lt hi hj hc).trans_le hbound
  · exact (RowMajor.flat_lt hi hj hc).trans_le hdata

end ADPluginArrow
