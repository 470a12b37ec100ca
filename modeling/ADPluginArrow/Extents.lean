/-
# The extents of an array

The extents that `getInfo` reports are narrowed twice: to `int`, where `createSchema`
selects the coordinate type, and to that type, where the conversion receives its loop
bounds.  `narrowest_coordTypeOf_iff` says for which extents the two agree; the extents below
`2 ^ 31`, which the rest of the development is about, are among them.
-/
import ADPluginArrow.Plugin

namespace ADPluginArrow

open CLang

/-! ### The two narrowings -/

lemma toInt_eq (x : BitVec 64) :
    toInt x = if x.toNat % 2 ^ 32 < 2 ^ 31 then (x.toNat % 2 ^ 32 : ℤ)
      else (x.toNat % 2 ^ 32 : ℤ) - 2 ^ 32 := by
  rw [toInt, BitVec.toInt_eq_toNat_cond, BitVec.toNat_setWidth]
  split_ifs <;> omega

/-- The loop bounds are the extents where the coordinate type can represent them. -/
lemma seenRows_eq_iff {ct : CoordType} {info : NDArrayInfo} :
    seenRows ct info = info.ySize.toNat ↔ info.ySize.toNat < 2 ^ ct.width := by
  rw [seenRows, BitVec.toNat_setWidth]
  exact ⟨fun h => h ▸ Nat.mod_lt _ (Nat.two_pow_pos _), Nat.mod_eq_of_lt⟩

lemma seenCols_eq_iff {ct : CoordType} {info : NDArrayInfo} :
    seenCols ct info = info.xSize.toNat ↔ info.xSize.toNat < 2 ^ ct.width := by
  rw [seenCols, BitVec.toNat_setWidth]
  exact ⟨fun h => h ▸ Nat.mod_lt _ (Nat.two_pow_pos _), Nat.mod_eq_of_lt⟩

/-- The extents for which the two narrowings agree: below `2 ^ 31` both, or an extent of
`2 ^ 31` or more beside one that selects the widest type. -/
def IntExtents (x y : ℕ) : Prop :=
  (x < 2 ^ 31 ∧ y < 2 ^ 31) ∨
    (x < 2 ^ 32 ∧ y < 2 ^ 32 ∧ (65535 < x ∧ x < 2 ^ 31 ∨ 65535 < y ∧ y < 2 ^ 31))

instance (x y : ℕ) : Decidable (IntExtents x y) := inferInstanceAs (Decidable (_ ∨ _))

/-- A coordinate type represents both extents, and no narrower one does. -/
structure Narrowest (info : NDArrayInfo) (ct : CoordType) : Prop where
  x_lt : info.xSize.toNat < 2 ^ ct.width
  y_lt : info.ySize.toNat < 2 ^ ct.width
  narrowest : ∀ ct' : CoordType, info.xSize.toNat < 2 ^ ct'.width →
    info.ySize.toNat < 2 ^ ct'.width → ct.width ≤ ct'.width

/-- A coordinate type is the narrowest if it represents both extents and the next narrower
type fails to. -/
lemma narrowest_iff {info : NDArrayInfo} {ct : CoordType} :
    Narrowest info ct ↔ info.xSize.toNat < 2 ^ ct.width ∧ info.ySize.toNat < 2 ^ ct.width ∧
      match ct with
      | .uint8_t => True
      | .uint16_t => 255 < info.xSize.toNat ∨ 255 < info.ySize.toNat
      | .uint32_t => 65535 < info.xSize.toNat ∨ 65535 < info.ySize.toNat := by
  have h8 : CoordType.uint8_t.width = 8 := rfl
  have h16 : CoordType.uint16_t.width = 16 := rfl
  have h32 : CoordType.uint32_t.width = 32 := rfl
  constructor
  · rintro ⟨hx, hy, hmin⟩
    refine ⟨hx, hy, ?_⟩
    cases ct with
    | uint8_t => trivial
    | uint16_t =>
      have := hmin .uint8_t
      rw [h8, h16] at this
      show 255 < _ ∨ 255 < _
      omega
    | uint32_t =>
      have := hmin .uint16_t
      rw [h16, h32] at this
      show 65535 < _ ∨ 65535 < _
      omega
  · rintro ⟨hx, hy, hmin⟩
    refine ⟨hx, hy, fun ct' hx' hy' => ?_⟩
    cases ct <;> cases ct' <;> simp only [h8, h16, h32] at hx' hy' hmin ⊢ <;> omega

lemma toInt_gt_iff {x : BitVec 64} {k : ℕ} :
    toInt x > (k : ℤ) ↔ k < x.toNat % 2 ^ 32 ∧ x.toNat % 2 ^ 32 < 2 ^ 31 := by
  rw [toInt_eq]
  split_ifs <;> omega

/-- The type that `createSchema` selects is the right one exactly for the extents where the
two narrowings agree. -/
lemma narrowest_coordTypeOf_iff {info : NDArrayInfo} :
    Narrowest info (coordTypeOf info) ↔ IntExtents info.xSize.toNat info.ySize.toNat := by
  have hx16 : toInt info.xSize > uint16Max ↔ _ := toInt_gt_iff (k := 65535)
  have hy16 : toInt info.ySize > uint16Max ↔ _ := toInt_gt_iff (k := 65535)
  have hx8 : toInt info.xSize > uint8Max ↔ _ := toInt_gt_iff (k := 255)
  have hy8 : toInt info.ySize > uint8Max ↔ _ := toInt_gt_iff (k := 255)
  have hx : info.xSize.toNat < 2 ^ 32 → info.xSize.toNat % 2 ^ 32 = info.xSize.toNat :=
    Nat.mod_eq_of_lt
  have hy : info.ySize.toNat < 2 ^ 32 → info.ySize.toNat % 2 ^ 32 = info.ySize.toNat :=
    Nat.mod_eq_of_lt
  rw [narrowest_iff, coordTypeOf, coordDataType, CoordType.two_pow_width, IntExtents]
  simp only [hx16, hy16, hx8, hy8]
  split_ifs <;> simp only [and_true] <;> omega

/-! ### Arrays of the expected size -/

/-- The number of elements of an image, as its extents and its channels give it. -/
def imageElements (info : NDArrayInfo) : ℕ :=
  info.xSize.toNat * info.ySize.toNat * channelCount info.colorMode

/-- The extents are representable in `int`, the buffer holds exactly the elements of the
image, and these are at most `2 ^ 31`. -/
structure Sized (L : Library) (A : NDArray) : Prop where
  x_lt : (L.getInfo A).xSize.toNat < 2 ^ 31
  y_lt : (L.getInfo A).ySize.toNat < 2 ^ 31
  elements_le : imageElements (L.getInfo A) ≤ 2 ^ 31
  length_eq : ∀ t, A.dataType.ctype = some t →
    A.pData.length = imageElements (L.getInfo A) * t.size

lemma seenElements_eq {ct : CoordType} {info : NDArrayInfo}
    (hx : info.xSize.toNat < 2 ^ ct.width) (hy : info.ySize.toNat < 2 ^ ct.width) :
    seenElements ct info = imageElements info := by
  rw [seenElements, seenRows_eq_iff.mpr hy, seenCols_eq_iff.mpr hx, imageElements,
    Nat.mul_comm info.ySize.toNat]

namespace Sized

variable {L : Library} {A : NDArray}

lemma narrowest (h : Sized L A) : Narrowest (L.getInfo A) (coordTypeOf (L.getInfo A)) :=
  narrowest_coordTypeOf_iff.mpr (Or.inl ⟨h.x_lt, h.y_lt⟩)

lemma elements_eq (h : Sized L A) {t : CType} (ht : A.dataType.ctype = some t) :
    A.pData.length / t.size = imageElements (L.getInfo A) := by
  rw [h.length_eq t ht, Nat.mul_div_cancel _ t.size_pos]

end Sized

end ADPluginArrow
