/-
# Counted loops and promoted arithmetic of C++

Two facts of the language that a program over fixed-width counters relies on.

* `for (T i = 0; i < n; ++i)` over an unsigned counter type runs its body on `0, …, n - 1`
  and stops: the counter cannot wrap before it reaches a bound of its own type.  The loop
  is `forUpto`, and `forUpto_eq_foldlM` turns it into a monadic fold over a range.
* An arithmetic expression over operands narrower than `int` is evaluated in `int`, where
  an unrepresentable result is undefined; over operands of the width of `int` it is
  evaluated modulo `2 ^ 32`.  `Rank` is the type of the evaluation.
-/
import Mathlib

namespace CLang

/-! ### Loops over an unsigned counter -/

section ForUpto

variable {m : Type → Type} [Monad m] {σ : Type} {w : ℕ}

/-- Incrementing a counter that is below a bound of its own type does not wrap. -/
lemma toNat_add_one_of_lt {i n : BitVec w} (h : i < n) : (i + 1).toNat = i.toNat + 1 := by
  have hi : i.toNat < n.toNat := BitVec.lt_def.mp h
  have hn : n.toNat < 2 ^ w := n.isLt
  have h1 : (1 : BitVec w).toNat = 1 % 2 ^ w := BitVec.toNat_ofNat 1 w
  rw [BitVec.toNat_add, h1, Nat.add_mod_mod, Nat.mod_eq_of_lt (by omega)]

/-- The loop `for (; i < n; ++i) body`, entered with the counter at `i`. -/
def forUpto (n : BitVec w) (body : BitVec w → σ → m σ) (i : BitVec w) (s : σ) : m σ :=
  if h : i < n then body i s >>= forUpto n body (i + 1) else pure s
termination_by n.toNat - i.toNat
decreasing_by
  have hi : i.toNat < n.toNat := BitVec.lt_def.mp h
  rw [toNat_add_one_of_lt h]
  omega

/-- A counted loop is the fold of its body over the counter values from the entry value
up to the bound. -/
theorem forUpto_eq_foldlM (n : BitVec w) (body : BitVec w → σ → m σ) (i : BitVec w) (s : σ) :
    forUpto n body i s
      = (List.range' i.toNat (n.toNat - i.toNat)).foldlM
          (fun s k => body (BitVec.ofNat w k) s) s := by
  induction hk : n.toNat - i.toNat generalizing i s with
  | zero =>
    have hnot : ¬ i < n := by
      rw [BitVec.lt_def]
      omega
    rw [forUpto, dif_neg hnot]
    rfl
  | succ k ih =>
    have hlt : i < n := by
      rw [BitVec.lt_def]
      omega
    have hsucc := toNat_add_one_of_lt hlt
    rw [forUpto, dif_pos hlt, List.range'_succ, List.foldlM_cons, BitVec.ofNat_toNat,
      BitVec.setWidth_eq]
    congr 1
    funext s'
    rw [ih (i + 1) s' (by omega), hsucc]

/-- The loop as the source writes it, with the counter starting at zero. -/
theorem forUpto_zero (n : BitVec w) (body : BitVec w → σ → m σ) (s : σ) :
    forUpto n body 0 s
      = (List.range n.toNat).foldlM (fun s k => body (BitVec.ofNat w k) s) s := by
  rw [forUpto_eq_foldlM, List.range_eq_range']
  simp

end ForUpto

/-! ### Computations that may fail -/

section Except

/-- A sequence fails with an error only if one of its parts does. -/
lemma bind_ne_error {ε α β : Type} {x : Except ε α} {f : α → Except ε β} {e : ε}
    (hx : x ≠ .error e) (hf : ∀ a, f a ≠ .error e) : x >>= f ≠ .error e := by
  cases x with
  | error e' => exact fun h => hx (congrArg Except.error (Except.error.inj h))
  | ok a => exact hf a

variable {ε σ α : Type} {f : σ → α → Except ε σ}

/-- A fold that fails does so at one of its steps: the steps before it succeed, and the
error is the error of that step. -/
lemma exists_error_of_foldlM_error {l : List α} {s : σ} {e : ε} (h : l.foldlM f s = .error e) :
    ∃ (k : ℕ) (hk : k < l.length) (s' : σ),
      (l.take k).foldlM f s = .ok s' ∧ f s' l[k] = .error e := by
  induction l generalizing s with
  | nil => exact absurd h (by simp [pure, Except.pure])
  | cons a l ih =>
    rw [List.foldlM_cons] at h
    cases hfa : f s a with
    | error e' =>
      rw [hfa] at h
      have he : e' = e := by simpa [bind, Except.bind] using h
      exact ⟨0, by simp, s, rfl, he ▸ hfa⟩
    | ok s₁ =>
      rw [hfa] at h
      obtain ⟨k, hk, s', hok, herr⟩ := ih h
      refine ⟨k + 1, by simpa using hk, s', ?_, by simpa using herr⟩
      rw [List.take_succ_cons, List.foldlM_cons, hfa]
      exact hok

/-- A counted loop that fails does so in one of its iterations, and the loop up to that
iteration succeeds. -/
lemma exists_error_of_forUpto {w : ℕ} {n : BitVec w} {body : BitVec w → σ → Except ε σ} {s : σ}
    {e : ε} (h : forUpto n body 0 s = .error e) :
    ∃ i < n, ∃ s', forUpto i body 0 s = .ok s' ∧ body i s' = .error e := by
  rw [forUpto_zero] at h
  obtain ⟨k, hk, s', hok, herr⟩ := exists_error_of_foldlM_error h
  rw [List.length_range] at hk
  have hk' : (BitVec.ofNat w k).toNat = k := Nat.mod_eq_of_lt (hk.trans n.isLt)
  refine ⟨BitVec.ofNat w k, by rwa [BitVec.lt_def, hk'], s', ?_, by simpa using herr⟩
  rw [forUpto_zero, hk']
  rwa [List.take_range, Nat.min_eq_left hk.le] at hok

/-- A fold that succeeds does so at each of its steps. -/
lemma exists_ok_of_foldlM_ok {l : List α} {s s' : σ} (h : l.foldlM f s = .ok s') :
    ∀ a ∈ l, ∃ s₁ s₂, f s₁ a = .ok s₂ := by
  induction l generalizing s with
  | nil => simp
  | cons a l ih =>
    rw [List.foldlM_cons] at h
    cases hfa : f s a with
    | error e =>
      rw [hfa] at h
      exact absurd h (by simp [bind, Except.bind])
    | ok s₁ =>
      rw [hfa] at h
      intro b hb
      rcases List.mem_cons.mp hb with rfl | hb
      · exact ⟨s, s₁, hfa⟩
      · exact ih h b hb

/-- So does a counted loop. -/
lemma exists_ok_of_forUpto {w : ℕ} {n : BitVec w} {body : BitVec w → σ → Except ε σ} {s s' : σ}
    (h : forUpto n body 0 s = .ok s') : ∀ i < n, ∃ s₁ s₂, body i s₁ = .ok s₂ := by
  rw [forUpto_zero] at h
  intro i hi
  obtain ⟨s₁, s₂, hok⟩ :=
    exists_ok_of_foldlM_ok h i.toNat (List.mem_range.mpr (BitVec.lt_def.mp hi))
  rw [BitVec.ofNat_toNat, BitVec.setWidth_eq] at hok
  exact ⟨s₁, s₂, hok⟩

/-- A fold whose steps succeed and only append to two logs appends, to each, what all its
steps append. -/
lemma foldlM_append {β γ : Type} (mk : List β → List γ → σ) {u : α → List β}
    {v : α → List γ} {l : List α} (x : List β) (y : List γ)
    (h : ∀ x y, ∀ a ∈ l, f (mk x y) a = .ok (mk (x ++ u a) (y ++ v a))) :
    l.foldlM f (mk x y) = .ok (mk (x ++ l.flatMap u) (y ++ l.flatMap v)) := by
  induction l generalizing x y with
  | nil => simp [pure, Except.pure]
  | cons a l ih =>
    rw [List.foldlM_cons, h x y a (by simp)]
    refine (ih _ _ fun x y b hb => h x y b (by simp [hb])).trans ?_
    simp

end Except

/-! ### The type of an arithmetic expression -/

/-- The type in which an expression over unsigned operands of some width and non-negative
`int` operands is evaluated. -/
inductive Rank where
  | int
  | unsignedInt
deriving DecidableEq, Repr

namespace Rank

/-- Operands narrower than `int` are promoted to `int`; operands as wide as `int` make
the other operands unsigned. -/
def ofWidth (w : ℕ) : Rank := if w < 32 then .int else .unsignedInt

/-- The least natural number that the type cannot represent. -/
def bound : Rank → ℕ
  | .int => 2 ^ 31
  | .unsignedInt => 2 ^ 32

/-- The value of an operation whose exact result is the natural number `z`: a signed
overflow has none, an unsigned result is reduced. -/
def norm : Rank → ℕ → Option ℕ
  | .int, z => if z < 2 ^ 31 then some z else none
  | .unsignedInt, z => some (z % 2 ^ 32)

/-- The value that a natural number takes in the type, where it takes one. -/
def wrap : Rank → ℕ → ℕ
  | .int, z => z
  | .unsignedInt, z => z % 2 ^ 32

/-- Addition in the type. -/
def add (r : Rank) (a b : ℕ) : Option ℕ := r.norm (a + b)

/-- Multiplication in the type. -/
def mul (r : Rank) (a b : ℕ) : Option ℕ := r.norm (a * b)

lemma norm_lt_bound {r : Rank} {z v : ℕ} (h : r.norm z = some v) : v < r.bound := by
  cases r with
  | int =>
    simp only [norm] at h
    split at h
    · rename_i hz
      rw [← Option.some.inj h]
      exact hz
    · exact absurd h (by simp)
  | unsignedInt =>
    rw [← Option.some.inj h]
    exact Nat.mod_lt _ (by norm_num)

/-- An operation is exact if and only if its result is representable. -/
lemma norm_eq_self_iff {r : Rank} {z : ℕ} : r.norm z = some z ↔ z < r.bound := by
  refine ⟨norm_lt_bound, fun h => ?_⟩
  cases r with
  | int => exact if_pos h
  | unsignedInt => exact congrArg some (Nat.mod_eq_of_lt h)

/-- In `int`, a result that there is, is exact. -/
lemma eq_of_norm_int {z v : ℕ} (h : norm .int z = some v) : v = z := by
  simp only [norm] at h
  split at h
  · exact (Option.some.inj h).symm
  · exact absurd h (by simp)

lemma two_pow_31_le_bound (r : Rank) : 2 ^ 31 ≤ r.bound := by
  cases r <;> simp [bound]

end Rank

end CLang
