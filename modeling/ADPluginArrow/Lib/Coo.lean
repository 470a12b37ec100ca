/-
# Coordinate lists

The coordinate form of a sparse image: the cells that are not blank, each with its row and
its column, in row-major order.  The file is about arbitrary cell values; a cell of several
channels is a value of a function type.

* `encode` scans a dense image and keeps the cells that are not blank.
* `scatter` writes the cells of a list into a blank image.
* `Canonical` is the normal form: strictly increasing positions, inside the image, no blank
  cell.

The main results are `encode_canonical`, `scatter_encode` and `encode_scatter`: encoding is
a bijection between images (up to the value of blank cells) and canonical lists.  A
canonical list is determined by its cells (`Canonical.eq_of_mem_iff`), which is how two
scans of different shapes are compared (`encode_pad`).

The first section is the arithmetic of row-major buffers.
-/
import Mathlib

/-! ### Row-major buffers -/

namespace RowMajor

/-- The position of element `(i, j, c)` in a row-major buffer with `cols` columns and `n`
adjacent channels. -/
def flat (cols n i j c : ℕ) : ℕ := (i * cols + j) * n + c

variable {rows cols n i j c : ℕ}

lemma cell_lt (hi : i < rows) (hj : j < cols) : i * cols + j < rows * cols := by
  calc
    i * cols + j < i * cols + cols := by omega
    _ = (i + 1) * cols := by ring
    _ ≤ rows * cols := Nat.mul_le_mul_right cols hi

lemma flat_lt (hi : i < rows) (hj : j < cols) (hc : c < n) :
    flat cols n i j c < rows * cols * n :=
  cell_lt (cell_lt hi hj) hc

/-- The elements before a given one lie at smaller positions. -/
lemma flat_lt_flat {i' j' c' : ℕ} (hj' : j' < cols) (hc' : c' < n)
    (h : i' < i ∨ i' = i ∧ (j' < j ∨ j' = j ∧ c' < c)) :
    flat cols n i' j' c' < flat cols n i j c := by
  have hcell : i' * cols + j' < i * cols + j ∨ i' * cols + j' = i * cols + j ∧ c' < c := by
    rcases h with hi | ⟨rfl, hj | ⟨rfl, hc⟩⟩
    · exact Or.inl (lt_of_lt_of_le (cell_lt hi hj') (by omega))
    · exact Or.inl (by omega)
    · exact Or.inr ⟨rfl, hc⟩
  rcases hcell with hlt | ⟨heq, hc⟩
  · exact lt_of_lt_of_le (cell_lt hlt hc') (by simp [flat])
  · simp [flat, heq, hc]

/-- Different elements lie at different positions. -/
lemma flat_inj {i' j' c' : ℕ} (hj : j < cols) (hj' : j' < cols) (hc : c < n) (hc' : c' < n)
    (h : flat cols n i' j' c' = flat cols n i j c) : i' = i ∧ j' = j ∧ c' = c := by
  by_contra hne
  have hlt : (i' < i ∨ i' = i ∧ (j' < j ∨ j' = j ∧ c' < c)) ∨
      (i < i' ∨ i = i' ∧ (j < j' ∨ j = j' ∧ c < c')) := by omega
  rcases hlt with hlt | hlt
  · exact absurd h (flat_lt_flat hj' hc' hlt).ne
  · exact absurd h.symm (flat_lt_flat hj hc hlt).ne

/-- Every position of the buffer is the position of an element. -/
lemma exists_flat {k : ℕ} (hk : k < rows * cols * n) :
    ∃ i j c, i < rows ∧ j < cols ∧ c < n ∧ flat cols n i j c = k := by
  have hn : 0 < n := Nat.pos_of_ne_zero (by rintro rfl; simp at hk)
  have hcols : 0 < cols := Nat.pos_of_ne_zero (by rintro rfl; simp at hk)
  have hcell : k / n < rows * cols := Nat.div_lt_of_lt_mul (by rwa [Nat.mul_comm n])
  refine ⟨k / n / cols, k / n % cols, k % n, ?_, Nat.mod_lt _ hcols, Nat.mod_lt _ hn, ?_⟩
  · exact Nat.div_lt_of_lt_mul (by rwa [Nat.mul_comm cols])
  · rw [flat, Nat.div_add_mod', Nat.div_add_mod']

lemma range_mul (a b : ℕ) :
    List.range (a * b) = (List.range a).flatMap fun i => (List.range b).map fun j => i * b + j := by
  induction a with
  | zero => simp
  | succ a ih =>
    rw [List.range_succ, List.flatMap_append, ← ih, Nat.succ_mul, List.range_add]
    simp

/-- The elements of a buffer, counted row by row and cell by cell, are its positions in
order. -/
lemma range_eq_flatMap (rows cols n : ℕ) :
    List.range (rows * cols * n) = (List.range rows).flatMap fun i =>
      (List.range cols).flatMap fun j => (List.range n).map fun c => flat cols n i j c := by
  rw [range_mul, range_mul, List.flatMap_assoc]
  simp only [List.flatMap_map, flat]

section Store

variable {V : Type*} {n : ℕ}

/-- Writes the channels of cell `(i, j)` into a buffer. -/
def storeCell (cols : ℕ) (buf : List V) (i j : ℕ) (val : Fin n → V) : List V :=
  (List.finRange n).foldl (fun buf (c : Fin n) => buf.set (flat cols n i j c) (val c)) buf

lemma length_foldl_set {ι : Type*} (pos : ι → ℕ) (val : ι → V) (l : List ι) (buf : List V) :
    (l.foldl (fun buf c => buf.set (pos c) (val c)) buf).length = buf.length := by
  induction l generalizing buf with
  | nil => rfl
  | cons c l ih => rw [List.foldl_cons, ih, List.length_set]

/-- Writes to different positions leave the other positions and are found afterwards. -/
lemma foldl_set_spec {ι : Type*} {pos : ι → ℕ} (hpos : Function.Injective pos) (val : ι → V)
    (l : List ι) (buf : List V) :
    (∀ k, (∀ c ∈ l, pos c ≠ k) →
        (l.foldl (fun buf c => buf.set (pos c) (val c)) buf)[k]? = buf[k]?) ∧
      ∀ c ∈ l, pos c < buf.length →
        (l.foldl (fun buf c => buf.set (pos c) (val c)) buf)[pos c]? = some (val c) := by
  induction l using List.reverseRecOn with
  | nil => simp
  | append_singleton l c ih =>
    obtain ⟨hother, hfound⟩ := ih
    have hlen := length_foldl_set pos val l buf
    simp only [List.foldl_append, List.foldl_cons, List.foldl_nil]
    constructor
    · intro k hk
      rw [List.getElem?_set_ne (hk c (by simp))]
      exact hother k fun c' hc' => hk c' (by simp [hc'])
    · intro c' hc' hlt
      by_cases heq : pos c = pos c'
      · rw [hpos heq, List.getElem?_set_self (hlen ▸ hlt)]
      · rw [List.getElem?_set_ne heq]
        refine hfound c' ?_ hlt
        rcases List.mem_append.mp hc' with hc' | hc'
        · exact hc'
        · exact absurd (congrArg pos (List.mem_singleton.mp hc')).symm heq

@[simp] lemma length_storeCell (cols : ℕ) (buf : List V) (i j : ℕ) (val : Fin n → V) :
    (storeCell cols buf i j val).length = buf.length :=
  length_foldl_set _ val (List.finRange n) buf

/-- Storing a cell changes this cell and no other. -/
lemma getD_storeCell {cols i j i' j' : ℕ} {buf : List V} {val : Fin n → V} {c : Fin n} (z : V)
    (hj : j < cols) (hj' : j' < cols) (hlen : flat cols n i' j' c < buf.length) :
    (storeCell cols buf i j val).getD (flat cols n i' j' c) z
      = if i' = i ∧ j' = j then val c else buf.getD (flat cols n i' j' c) z := by
  have hpos : Function.Injective fun c : Fin n => flat cols n i j (c : ℕ) :=
    fun c c' h => Fin.ext (flat_inj hj hj c'.isLt c.isLt h).2.2
  obtain ⟨hother, hfound⟩ := foldl_set_spec hpos val (List.finRange n) buf
  rw [List.getD_eq_getElem?_getD, List.getD_eq_getElem?_getD, storeCell]
  split_ifs with h
  · obtain ⟨rfl, rfl⟩ := h
    rw [hfound c (List.mem_finRange c) hlen, Option.getD_some]
  · rw [hother (flat cols n i' j' c)]
    intro c' _ heq
    obtain ⟨hi, hj, -⟩ := flat_inj hj' hj c.isLt c'.isLt heq
    exact h ⟨hi.symm, hj.symm⟩

end Store

end RowMajor

namespace Coo

variable {V : Type*}

/-- A stored cell. -/
@[ext] structure Entry (V : Type*) where
  row : ℕ
  col : ℕ
  val : V
deriving DecidableEq, Repr

/-- The position of a stored cell, ordered row-major. -/
def Entry.pos (e : Entry V) : ℕ ×ₗ ℕ := toLex (e.row, e.col)

lemma Entry.pos_lt_iff {a b : Entry V} :
    a.pos < b.pos ↔ a.row < b.row ∨ a.row = b.row ∧ a.col < b.col := by
  simp [Entry.pos, Prod.Lex.toLex_lt_toLex]

lemma Entry.pos_eq_iff {a b : Entry V} : a.pos = b.pos ↔ a.row = b.row ∧ a.col = b.col := by
  simp [Entry.pos]

/-- The same position, with a value computed from the value of the cell. -/
def Entry.map {W : Type*} (f : V → W) (e : Entry V) : Entry W := ⟨e.row, e.col, f e.val⟩

/-- The cells of an image, in row-major order. -/
def cells (dense : ℕ → ℕ → V) (rows cols : ℕ) : List (Entry V) :=
  (List.range rows ×ˢ List.range cols).map fun p => ⟨p.1, p.2, dense p.1 p.2⟩

/-- The coordinate form of an image: its cells that are not blank. -/
def encode (blank : V → Bool) (dense : ℕ → ℕ → V) (rows cols : ℕ) : List (Entry V) :=
  (cells dense rows cols).filter fun e => !blank e.val

/-- The image that a list of cells describes, over the background `zero`. -/
def scatter (zero : V) (l : List (Entry V)) : ℕ → ℕ → V :=
  l.foldl (fun img e i j => if i = e.row ∧ j = e.col then e.val else img i j) fun _ _ => zero

/-- The normal form of a coordinate list. -/
structure Canonical (blank : V → Bool) (rows cols : ℕ) (l : List (Entry V)) : Prop where
  sorted : l.Pairwise fun a b => a.pos < b.pos
  row_lt : ∀ e ∈ l, e.row < rows
  col_lt : ∀ e ∈ l, e.col < cols
  not_blank : ∀ e ∈ l, blank e.val = false

variable {blank : V → Bool} {dense : ℕ → ℕ → V} {rows cols : ℕ} {l : List (Entry V)}

/-! ### Encoding -/

lemma mem_cells {e : Entry V} :
    e ∈ cells dense rows cols ↔ e.row < rows ∧ e.col < cols ∧ e.val = dense e.row e.col := by
  simp only [cells, List.mem_map, Prod.exists, List.mem_product, List.mem_range]
  constructor
  · rintro ⟨i, j, ⟨hi, hj⟩, rfl⟩
    exact ⟨hi, hj, rfl⟩
  · rintro ⟨hi, hj, hval⟩
    exact ⟨e.row, e.col, ⟨hi, hj⟩, by rw [← hval]⟩

lemma mem_encode {e : Entry V} :
    e ∈ encode blank dense rows cols ↔
      e.row < rows ∧ e.col < cols ∧ e.val = dense e.row e.col ∧ blank e.val = false := by
  simp only [encode, List.mem_filter, mem_cells, Bool.not_eq_true', and_assoc]

lemma cells_sorted : (cells dense rows cols).Pairwise fun a b => a.pos < b.pos := by
  rw [cells, List.pairwise_map]
  simp only [SProd.sprod, List.product, Entry.pos_lt_iff]
  rw [List.pairwise_flatMap]
  constructor
  · intro i _
    rw [List.pairwise_map]
    exact List.pairwise_lt_range.imp fun h => Or.inr ⟨rfl, h⟩
  · refine List.pairwise_lt_range.imp ?_
    intro i i' hlt p hp p' hp'
    obtain ⟨j, -, rfl⟩ := List.mem_map.mp hp
    obtain ⟨j', -, rfl⟩ := List.mem_map.mp hp'
    exact Or.inl hlt

/-- The coordinate form, collected row by row and cell by cell. -/
lemma encode_eq_flatMap :
    encode blank dense rows cols = (List.range rows).flatMap fun i =>
      (List.range cols).flatMap fun j =>
        if blank (dense i j) then [] else [⟨i, j, dense i j⟩] := by
  have hrow : ∀ i (l : List ℕ),
      ((l.map fun j => (⟨i, j, dense i j⟩ : Entry V)).filter fun e => !blank e.val)
        = l.flatMap fun j => if blank (dense i j) then [] else [⟨i, j, dense i j⟩] := by
    intro i l
    induction l with
    | nil => rfl
    | cons j l ih =>
      rw [List.map_cons, List.filter_cons, List.flatMap_cons, ih]
      by_cases hb : blank (dense i j) = true <;> simp [hb]
  simp only [encode, cells, SProd.sprod, List.product, List.map_flatMap, List.filter_flatMap,
    List.map_map]
  congr 1
  funext i
  exact hrow i _

/-- The coordinate form has one cell for every position that is not blank. -/
lemma length_encode : (encode blank dense rows cols).length
    = (List.range rows ×ˢ List.range cols).countP fun p => !blank (dense p.1 p.2) := by
  rw [encode, cells, List.filter_map, List.length_map, List.countP_eq_length_filter]
  rfl

/-- The coordinate form depends on the cells of the image only. -/
lemma encode_congr {dense' : ℕ → ℕ → V}
    (h : ∀ i < rows, ∀ j < cols, dense i j = dense' i j) :
    encode blank dense rows cols = encode blank dense' rows cols := by
  refine congrArg (List.filter _) (List.map_congr_left ?_)
  rintro ⟨i, j⟩ hp
  obtain ⟨hi, hj⟩ := List.mem_product.mp hp
  rw [h i (List.mem_range.mp hi) j (List.mem_range.mp hj)]

/-- The coordinate form of an image is in normal form. -/
theorem encode_canonical : Canonical blank rows cols (encode blank dense rows cols) where
  sorted := cells_sorted.filter _
  row_lt _ he := (mem_encode.mp he).1
  col_lt _ he := (mem_encode.mp he).2.1
  not_blank _ he := (mem_encode.mp he).2.2.2

namespace Canonical

/-- Two cells of a canonical list at the same position are the same cell. -/
lemma eq_of_pos (h : Canonical blank rows cols l) {a b : Entry V} (ha : a ∈ l) (hb : b ∈ l)
    (hrow : a.row = b.row) (hcol : a.col = b.col) : a = b := by
  have hsymm : Std.Symm fun a b : Entry V => a.pos ≠ b.pos := ⟨fun _ _ h => h.symm⟩
  have hne : l.Pairwise fun a b => a.pos ≠ b.pos := h.sorted.imp fun hlt => ne_of_lt hlt
  by_contra hab
  exact hne.forall ha hb hab (Entry.pos_eq_iff.mpr ⟨hrow, hcol⟩)

/-- A canonical list is determined by the cells in it. -/
theorem eq_of_mem_iff {rows' cols' : ℕ} {l' : List (Entry V)}
    (h : Canonical blank rows cols l) (h' : Canonical blank rows' cols' l')
    (hmem : ∀ e, e ∈ l ↔ e ∈ l') : l = l' := by
  have : Std.Irrefl fun a b : Entry V => a.pos < b.pos := ⟨fun a => lt_irrefl a.pos⟩
  have : Std.Antisymm fun a b : Entry V => a.pos < b.pos :=
    ⟨fun _ _ hab hba => absurd hab (lt_asymm hba)⟩
  exact h.sorted.eq_of_mem_iff h'.sorted hmem

end Canonical

/-- Cells that are added around an image, all of them blank, leave its coordinate form as it
is. -/
theorem encode_pad {rows' cols' : ℕ} {dense' : ℕ → ℕ → V} (hrows : rows ≤ rows')
    (hcols : cols ≤ cols') (hkept : ∀ i < rows, ∀ j < cols, dense' i j = dense i j)
    (hadded : ∀ i < rows', ∀ j < cols', rows ≤ i ∨ cols ≤ j → blank (dense' i j) = true) :
    encode blank dense' rows' cols' = encode blank dense rows cols := by
  refine encode_canonical.eq_of_mem_iff encode_canonical fun e => ?_
  rw [mem_encode, mem_encode]
  constructor
  · rintro ⟨hi, hj, hval, hnot⟩
    -- a cell that is not blank is not an added one
    have hold : e.row < rows ∧ e.col < cols := by
      by_contra hout
      have hblank := hadded e.row hi e.col hj (by omega)
      rw [← hval, hnot] at hblank
      exact absurd hblank (by simp)
    exact ⟨hold.1, hold.2, hval.trans (hkept _ hold.1 _ hold.2), hnot⟩
  · rintro ⟨hi, hj, hval, hnot⟩
    exact ⟨hi.trans_le hrows, hj.trans_le hcols, hval.trans (hkept _ hi _ hj).symm, hnot⟩

/-- The same cell in an image that has `rows` more rows above it. -/
def Entry.shift (rows : ℕ) (e : Entry V) : Entry V := ⟨rows + e.row, e.col, e.val⟩

/-- The coordinate form of two images, one above the other. -/
theorem encode_stack (rows rows' : ℕ) :
    encode blank dense (rows + rows') cols = encode blank dense rows cols ++
      (encode blank (fun i j => dense (rows + i) j) rows' cols).map (Entry.shift rows) := by
  have hshift : ∀ i j, (if blank (dense (rows + i) j) then [] else
      [(⟨i, j, dense (rows + i) j⟩ : Entry V)]).map (Entry.shift rows)
        = if blank (dense (rows + i) j) then [] else [⟨rows + i, j, dense (rows + i) j⟩] := by
    intro i j
    split_ifs <;> rfl
  simp only [encode_eq_flatMap, List.range_add, List.flatMap_append, List.flatMap_map,
    List.map_flatMap, hshift]

/-- The coordinate form of an image whose cells are computed from those of another one, where
blank cells stay blank. -/
theorem encode_map {W : Type*} {blank' : W → Bool} {f : V → W}
    (hblank : ∀ v, blank v = true → blank' (f v) = true) :
    encode blank' (fun i j => f (dense i j)) rows cols
      = ((encode blank dense rows cols).map (Entry.map f)).filter fun e => !blank' e.val := by
  have hcells : cells (fun i j => f (dense i j)) rows cols
      = (cells dense rows cols).map (Entry.map f) := by
    rw [cells, cells, List.map_map]
    rfl
  rw [encode, encode, hcells, List.filter_map, List.filter_map, List.filter_filter]
  refine congrArg (List.map _) (List.filter_congr fun e _ => ?_)
  show (!blank' (f e.val)) = ((!blank' (f e.val)) && !blank e.val)
  cases hv : blank e.val with
  | true => rw [hblank e.val hv]; rfl
  | false => exact (Bool.and_true _).symm

/-! ### Scattering -/

lemma scatter_append_singleton (zero : V) (l : List (Entry V)) (e : Entry V) (i j : ℕ) :
    scatter zero (l ++ [e]) i j
      = if i = e.row ∧ j = e.col then e.val else scatter zero l i j := by
  simp [scatter]

/-- Scattering commutes with a map of the values. -/
lemma scatter_map {W : Type*} (f : V → W) (zero : V) (l : List (Entry V)) (i j : ℕ) :
    scatter (f zero) (l.map (Entry.map f)) i j = f (scatter zero l i j) := by
  induction l using List.reverseRecOn with
  | nil => rfl
  | append_singleton l e ih =>
    rw [List.map_append, List.map_singleton, scatter_append_singleton, scatter_append_singleton, ih]
    split_ifs with h h' h'
    · rfl
    · exact absurd h h'
    · exact absurd h' h
    · rfl

/-- A position that no cell of the list has is left blank. -/
lemma scatter_of_forall_ne {zero : V} {i j : ℕ} (h : ∀ e ∈ l, ¬ (i = e.row ∧ j = e.col)) :
    scatter zero l i j = zero := by
  induction l using List.reverseRecOn with
  | nil => rfl
  | append_singleton l e ih =>
    rw [scatter_append_singleton, if_neg (h e (by simp))]
    exact ih fun e' he' => h e' (by simp [he'])

/-- A cell of a list without repeated positions is found at its position. -/
lemma scatter_of_mem {zero : V} (hinj : ∀ a ∈ l, ∀ b ∈ l, a.row = b.row → a.col = b.col → a = b)
    {e : Entry V} (he : e ∈ l) : scatter zero l e.row e.col = e.val := by
  induction l using List.reverseRecOn with
  | nil => exact absurd he (by simp)
  | append_singleton l e' ih =>
    rw [scatter_append_singleton]
    split
    · rename_i hpos
      rw [hinj e he e' (by simp) hpos.1 hpos.2]
    · rename_i hpos
      have hel : e ∈ l := by
        rcases List.mem_append.mp he with hel | hel
        · exact hel
        · rw [List.mem_singleton.mp hel] at hpos
          exact absurd ⟨rfl, rfl⟩ hpos
      exact ih (fun a ha b hb => hinj a (by simp [ha]) b (by simp [hb])) hel

/-- Scattering the coordinate form of an image restores every cell that is not blank. -/
theorem scatter_encode {zero : V} {i j : ℕ} (hi : i < rows) (hj : j < cols) :
    scatter zero (encode blank dense rows cols) i j
      = if blank (dense i j) then zero else dense i j := by
  split
  · rename_i hblank
    refine scatter_of_forall_ne ?_
    rintro e he ⟨rfl, rfl⟩
    obtain ⟨-, -, hval, hnot⟩ := mem_encode.mp he
    rw [hval, hblank] at hnot
    exact absurd hnot (by simp)
  · rename_i hblank
    have he : (⟨i, j, dense i j⟩ : Entry V) ∈ encode blank dense rows cols :=
      mem_encode.mpr ⟨hi, hj, rfl, by simpa using hblank⟩
    exact scatter_of_mem (fun a ha b hb => encode_canonical.eq_of_pos ha hb) he

/-- Encoding the image of a canonical list gives the list back. -/
theorem encode_scatter {zero : V} (hzero : blank zero = true) (h : Canonical blank rows cols l) :
    encode blank (scatter zero l) rows cols = l := by
  have hinj : ∀ a ∈ l, ∀ b ∈ l, a.row = b.row → a.col = b.col → a = b :=
    fun a ha b hb => h.eq_of_pos ha hb
  refine encode_canonical.eq_of_mem_iff h fun e => ?_
  rw [mem_encode]
  constructor
  · rintro ⟨-, -, hval, hnot⟩
    by_contra hel
    by_cases hpos : ∃ e' ∈ l, e.row = e'.row ∧ e.col = e'.col
    · obtain ⟨e', he', hrow, hcol⟩ := hpos
      have hval' : e.val = e'.val := by
        rw [hval, hrow, hcol]
        exact scatter_of_mem hinj he'
      exact hel (Entry.ext hrow hcol hval' ▸ he')
    · have hz : scatter zero l e.row e.col = zero :=
        scatter_of_forall_ne fun e' he' heq => hpos ⟨e', he', heq⟩
      rw [hval, hz, hzero] at hnot
      exact absurd hnot (by simp)
  · intro he
    exact ⟨h.row_lt e he, h.col_lt e he, (scatter_of_mem hinj he).symm, h.not_blank e he⟩

/-! ### Buffers -/

section Buffer

variable {n : ℕ}

/-- Writes the cells of a list into a row-major buffer. -/
def store (cols : ℕ) (l : List (Entry (Fin n → V))) (buf : List V) : List V :=
  l.foldl (fun buf e => RowMajor.storeCell cols buf e.row e.col e.val) buf

lemma store_append_singleton (cols : ℕ) (l : List (Entry (Fin n → V))) (e : Entry (Fin n → V))
    (buf : List V) : store cols (l ++ [e]) buf
      = RowMajor.storeCell cols (store cols l buf) e.row e.col e.val := by
  simp [store]

@[simp] lemma length_store (cols : ℕ) (l : List (Entry (Fin n → V))) (buf : List V) :
    (store cols l buf).length = buf.length := by
  induction l using List.reverseRecOn with
  | nil => rfl
  | append_singleton l e ih => rw [store_append_singleton, RowMajor.length_storeCell, ih]

/-- A blank buffer into which a list of cells is written holds the image of the list. -/
theorem getD_store {zero : V} {l : List (Entry (Fin n → V))} (hcol : ∀ e ∈ l, e.col < cols)
    {i j : ℕ} (hi : i < rows) (hj : j < cols) (c : Fin n) :
    (store cols l (List.replicate (rows * cols * n) zero)).getD (RowMajor.flat cols n i j c) zero
      = scatter (fun _ => zero) l i j c := by
  have hflat := RowMajor.flat_lt hi hj c.isLt
  induction l using List.reverseRecOn with
  | nil => simp [store, scatter]
  | append_singleton l e ih =>
    rw [store_append_singleton, scatter_append_singleton,
      RowMajor.getD_storeCell zero (hcol e (by simp)) hj (by simpa using hflat),
      ih fun e' he' => hcol e' (by simp [he'])]
    split <;> rfl

end Buffer

end Coo
