/-
# Words

A list of symbols is read as a sequence of words of the same length, and a word of bit vectors as
a number, the first symbol lowest.

* `flatMap_word`: the words of a list, one after the other, are the list.
* `flatMap_eq_flatMap_iff`: two sequences of words of the same lengths are equal as lists of symbols
  exactly if their words are.
* `toWord_value` and `value_toWord`: words and numbers determine each other.
-/
import Mathlib

namespace Words

variable {α β : Type*}

/-! ### Words of a list -/

/-- Word number `k` of a list, of length `w`. -/
def word (w : ℕ) (l : List α) (k : ℕ) : List α := (l.drop (k * w)).take w

lemma length_word {w n k : ℕ} {l : List α} (h : l.length = n * w) (hk : k < n) :
    (word w l k).length = w := by
  have hle : (k + 1) * w ≤ n * w := Nat.mul_le_mul_right w hk
  rw [Nat.succ_mul] at hle
  rw [word, List.length_take, List.length_drop, h]
  omega

/-- The words of a list, one after the other. -/
lemma flatMap_word {w n : ℕ} {l : List α} (h : l.length = n * w) :
    (List.range n).flatMap (word w l) = l := by
  induction n generalizing l with
  | zero => simpa [eq_comm] using h
  | succ n ih =>
    have hdrop : (l.drop w).length = n * w := by
      rw [List.length_drop, h, Nat.succ_mul, Nat.add_sub_cancel]
    have hword : ∀ k, word w l (k + 1) = word w (l.drop w) k := by
      intro k
      rw [word, word, List.drop_drop, Nat.succ_mul, Nat.add_comm]
    calc
      (List.range (n + 1)).flatMap (word w l)
        = word w l 0 ++ (List.range n).flatMap fun k => word w l (k + 1) := by
        rw [List.range_succ_eq_map, List.flatMap_cons, List.flatMap_map]
      _ = l.take w ++ l.drop w := by
        simp only [hword, ih hdrop]
        rw [word, Nat.zero_mul, List.drop_zero]
      _ = l := List.take_append_drop w l

lemma length_flatMap_congr {f g : α → List β} {as : List α}
    (hlength : ∀ a ∈ as, (f a).length = (g a).length) :
    (as.flatMap f).length = (as.flatMap g).length := by
  rw [List.length_flatMap, List.length_flatMap, List.map_congr_left hlength]

/-- Words of the same lengths, one after the other. -/
theorem flatMap_eq_flatMap_iff {f g : α → List β} {as : List α}
    (hlength : ∀ a ∈ as, (f a).length = (g a).length) :
    as.flatMap f = as.flatMap g ↔ ∀ a ∈ as, f a = g a := by
  induction as with
  | nil => simp
  | cons a as ih =>
    have ih := ih fun b hb => hlength b (List.mem_cons_of_mem _ hb)
    rw [List.flatMap_cons, List.flatMap_cons, List.forall_mem_cons, ← ih]
    constructor
    · exact fun h => List.append_inj h (hlength a (List.mem_cons_self ..))
    · rintro ⟨ha, has⟩
      rw [ha, has]

/-! ### Words as numbers -/

section Value

variable {w : ℕ}

/-- The number of a word, whose first symbol is the lowest. -/
def value (bs : List (BitVec w)) : ℕ := Nat.ofDigits (2 ^ w) (bs.map BitVec.toNat)

/-- The word of a given length that has a number. -/
def toWord (w length x : ℕ) : List (BitVec w) :=
  (Nat.digitsAppend (2 ^ w) length x).map (BitVec.ofNat w)

lemma digits_map_toNat (bs : List (BitVec w)) :
    bs.map BitVec.toNat
      ∈ {L : List ℕ | L.length = bs.length ∧ ∀ x ∈ L, x < 2 ^ w} := by
  refine ⟨List.length_map .., ?_⟩
  intro x hx
  obtain ⟨b, -, rfl⟩ := List.mem_map.mp hx
  exact b.isLt

lemma value_lt (hw : 0 < w) (bs : List (BitVec w)) : value bs < (2 ^ w) ^ bs.length :=
  Nat.mapsTo_ofDigits (Nat.one_lt_two_pow hw.ne') bs.length (digits_map_toNat bs)

/-- A word is determined by its length and its number. -/
theorem toWord_value (hw : 0 < w) (bs : List (BitVec w)) : toWord w bs.length (value bs) = bs := by
  have hinv := (Nat.setInvOn_digitsAppend_ofDigits (Nat.one_lt_two_pow hw.ne') bs.length).1
    (digits_map_toNat bs)
  rw [toWord, value, hinv, List.map_map]
  have hid : BitVec.ofNat w ∘ BitVec.toNat = id := by
    ext b : 1
    simp
  rw [hid, List.map_id]

lemma length_toWord (hw : 0 < w) {length x : ℕ} (hx : x < (2 ^ w) ^ length) :
    (toWord w length x).length = length := by
  rw [toWord, List.length_map, Nat.length_digitsAppend (Nat.one_lt_two_pow hw.ne') length hx]

/-- A number is determined by its word. -/
theorem value_toWord (hw : 0 < w) (length x : ℕ) : value (toWord w length x) = x := by
  have hb := Nat.one_lt_two_pow hw.ne'
  have hdigits : ((Nat.digitsAppend (2 ^ w) length x).map (BitVec.ofNat w)).map BitVec.toNat
      = Nat.digitsAppend (2 ^ w) length x := by
    rw [List.map_map]
    refine (List.map_congr_left fun d hd => ?_).trans (List.map_id _)
    exact Nat.mod_eq_of_lt (Nat.lt_of_mem_digitsAppend hb length d hd)
  rw [value, toWord, hdigits, Nat.digitsAppend, Nat.ofDigits_append_replicate_zero,
    Nat.ofDigits_digits]

end Value

end Words
