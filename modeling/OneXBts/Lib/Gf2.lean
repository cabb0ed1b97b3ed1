import Mathlib.Tactic

/-!
Linear maps on bit vectors, given by their rows.

`combine n rows x` is the sum of the rows that the low `n` bits of `x` select. A linear map is the combination of its values
on the unit vectors (`map_combine`, `combine_units`), and the product of matrices is the composition of their maps
(`combine_product`); so a register is jumped by the powers of its matrix that are powers of two (`jump_eq_iterate`). Where
the register runs through the unit vectors, one vector says what any number of steps does (`UnitRegister.power_eq`).
-/

namespace OneXBts.Lib

variable {w : ℕ}

def combine (rows : ℕ → BitVec w) (x : BitVec w) : ℕ → BitVec w
  | 0 => 0
  | n + 1 => if x.getLsbD n then combine rows x n ^^^ rows n else combine rows x n

def Additive (f : BitVec w → BitVec w) : Prop := ∀ x y, f (x ^^^ y) = f x ^^^ f y

def Below (n : ℕ) (x : BitVec w) : Prop := ∀ i, n ≤ i → x.getLsbD i = false

section Combine

variable {f : BitVec w → BitVec w} {rows : ℕ → BitVec w} {x : BitVec w} {n : ℕ}

lemma Additive.map_zero (hf : Additive f) : f 0 = 0 := by
  have h := hf 0 0
  rwa [BitVec.xor_self, BitVec.xor_self] at h

lemma Additive.map_combine (hf : Additive f) (rows : ℕ → BitVec w) (x : BitVec w) (n : ℕ) :
    f (combine rows x n) = combine (fun i => f (rows i)) x n := by
  induction n with
  | zero => exact hf.map_zero
  | succ n ih =>
    rw [combine, combine]
    split_ifs
    · rw [hf, ih]
    · exact ih

lemma combine_congr (h : ∀ i < n, rows i = rows' i) : combine rows x n = combine rows' x n := by
  induction n with
  | zero => rfl
  | succ n ih => rw [combine, combine, ih fun i hi => h i (Nat.lt_succ_of_lt hi), h n (Nat.lt_succ_self n)]

lemma additive_combine (rows : ℕ → BitVec w) (n : ℕ) : Additive fun x => combine rows x n := by
  intro x y
  induction n <;> grind [combine, BitVec.xor_assoc]

lemma combine_units (hn : n ≤ w) (i : ℕ) :
    (combine (fun i => BitVec.twoPow w i) x n).getLsbD i = (decide (i < n) && x.getLsbD i) := by
  induction n <;> grind [combine]

lemma combine_units_of_below (hn : n ≤ w) (hx : Below n x) : combine (fun i => BitVec.twoPow w i) x n = x := by
  refine BitVec.eq_of_getLsbD_eq fun i _ => ?_
  rw [combine_units hn]
  by_cases hi : i < n
  · rw [decide_eq_true hi, Bool.true_and]
  · rw [hx i (by omega), Bool.and_false]

/-- **A linear map is given by its values on the unit vectors.** -/
theorem Additive.eq_combine (hf : Additive f) (hn : n ≤ w) (hr : ∀ i < n, rows i = f (BitVec.twoPow w i))
    (hx : Below n x) : combine rows x n = f x := by
  rw [combine_congr hr, ← hf.map_combine, combine_units_of_below hn hx]

lemma combine_product (a b : ℕ → BitVec w) (x : BitVec w) (n : ℕ) :
    combine (fun i => combine b (a i) n) x n = combine b (combine a x n) n :=
  ((additive_combine b n).map_combine a x n).symm

end Combine

/-! ### Jumps -/

/-- Apply the powers that the binary digits of `delta` name, the lowest first. -/
def jump {α : Type} (power : ℕ → α → α) (delta index : ℕ) (x : α) : α :=
  if delta = 0 then x
  else jump power (delta / 2) (index + 1) (if delta % 2 = 1 then power index x else x)
termination_by delta
decreasing_by omega

/-- **A jump is as many steps**, if each power is the steps of its power of two, on the values that the steps keep. -/
theorem jump_eq_iterate {α : Type} {step : α → α} {P : α → Prop} {power : ℕ → α → α} (hs : ∀ x, P x → P (step x))
    (hp : ∀ i x, P x → power i x = step^[2 ^ i] x) (delta index : ℕ) {x : α} (hx : P x) :
    jump power delta index x = step^[delta * 2 ^ index] x := by
  have hst : ∀ n x, P x → P (step^[n] x) := by
    intro n
    induction n with
    | zero => exact fun x hx => hx
    | succ n ih => exact fun x hx => ih _ (hs x hx)
  induction delta using Nat.strong_induction_on generalizing index x with
  | _ delta ih =>
    rw [jump]
    split_ifs with hz hodd
    · rw [hz, Nat.zero_mul]
      rfl
    · rw [hp index x hx, ih _ (by omega) _ (hst _ x hx), ← Function.iterate_add_apply]
      congr 1
      obtain ⟨m, rfl⟩ : ∃ m, delta = 2 * m + 1 := ⟨delta / 2, by omega⟩
      rw [show (2 * m + 1) / 2 = m by omega]
      ring
    · rw [ih _ (by omega) _ hx]
      congr 1
      obtain ⟨m, rfl⟩ : ∃ m, delta = 2 * m := ⟨delta / 2, by omega⟩
      rw [show 2 * m / 2 = m by omega]
      ring

/-! ### Registers that one vector generates -/

/-- The register `f` of `n` bits runs through the unit vectors, from the first. -/
structure UnitRegister (f : BitVec w → BitVec w) (n : ℕ) : Prop where
  additive : Additive f
  below : ∀ x, Below n (f x)
  one : Below n (1 : BitVec w)
  unit : ∀ i < n, f^[i] 1 = BitVec.twoPow w i

/-- The sum of the iterates of `a` that `m` bits of `x`, from bit `i`, select. -/
def times (f : BitVec w → BitVec w) (a x : BitVec w) : ℕ → ℕ → BitVec w
  | _, 0 => 0
  | i, m + 1 => (if x.getLsbD i then a else 0) ^^^ f (times f a x (i + 1) m)

/-- The vector after `2 ^ i` steps. -/
def square (f : BitVec w → BitVec w) (n : ℕ) : ℕ → BitVec w
  | 0 => f 1
  | i + 1 => times f (square f n i) (square f n i) 0 n

/-- The vector after as many steps as the low `i` bits of `k` say. -/
def power (f : BitVec w → BitVec w) (n k : ℕ) : ℕ → BitVec w
  | 0 => 1
  | i + 1 => if k.testBit i then times f (square f n i) (power f n k i) 0 n else power f n k i

section UnitRegister

variable {f : BitVec w → BitVec w} {n : ℕ} {x : BitVec w}

lemma Additive.iterate (hf : Additive f) (k : ℕ) : Additive f^[k] := by
  induction k with
  | zero => exact fun x y => rfl
  | succ k ih =>
    intro x y
    rw [Function.iterate_succ_apply, hf, ih]
    rfl

lemma Additive.times_iterate (hf : Additive f) (a x : BitVec w) (k i m : ℕ) :
    times f (f^[k] a) x i m = f^[k] (times f a x i m) := by
  induction m generalizing i with
  | zero => exact ((hf.iterate k).map_zero).symm
  | succ m ih =>
    rw [times, times, ih, hf.iterate k, ← Function.iterate_succ_apply' f, Function.iterate_succ_apply]
    split_ifs
    · rfl
    · rw [(hf.iterate k).map_zero]

section

variable (hf : UnitRegister f n)
include hf

lemma UnitRegister.below_iterate (k : ℕ) : Below n (f^[k] 1) := by
  cases k with
  | zero => exact hf.one
  | succ =>
    rw [Function.iterate_succ_apply']
    exact hf.below _

/-- The bits of the sum of the unit vectors that `x` selects. -/
lemma UnitRegister.getLsbD_times (j : ℕ) (hi : i + m ≤ n) :
    (f^[i] (times f 1 x i m)).getLsbD j = (decide (i ≤ j ∧ j < i + m) && x.getLsbD j) := by
  induction m generalizing i with
  | zero =>
    rw [times, (hf.additive.iterate i).map_zero]
    simp
  | succ m ih =>
    have hu : (f^[i] (if x.getLsbD i then 1 else 0)).getLsbD j = (decide (i = j) && x.getLsbD j) := by
      split_ifs with hx
      · rw [hf.unit i (by omega), BitVec.getLsbD_twoPow, decide_eq_true (BitVec.lt_of_getLsbD hx), Bool.true_and]
        by_cases hj : i = j
        · subst hj
          rw [hx, Bool.and_true]
        · simp [hj]
      · rw [(hf.additive.iterate i).map_zero]
        by_cases hj : i = j
        · subst hj
          simp [hx]
        · simp [hj]
    rw [times, hf.additive.iterate i, BitVec.getLsbD_xor, hu, ← Function.iterate_succ_apply, ih (by omega)]
    by_cases hj : i = j
    · subst hj
      simp
    rw [decide_eq_false hj, Bool.false_and, Bool.false_xor]
    congr 2
    simp only [eq_iff_iff]
    omega

/-- **A product of the vectors after some steps is the vector after all of them.** -/
theorem UnitRegister.times_eq (hx : Below n x) (k : ℕ) : times f (f^[k] 1) x 0 n = f^[k] x := by
  rw [hf.additive.times_iterate]
  congr 1
  refine BitVec.eq_of_getLsbD_eq fun j _ => ?_
  rw [← Function.iterate_zero_apply f (times f 1 x 0 n), hf.getLsbD_times j (by omega)]
  by_cases hj : j < n
  · simp [hj]
  · rw [hx j (by omega), Bool.and_false]

lemma UnitRegister.square_eq (i : ℕ) : square f n i = f^[2 ^ i] 1 := by
  induction i with
  | zero => rfl
  | succ i ih => rw [square, ih, hf.times_eq (hf.below_iterate _), ← Function.iterate_add_apply, pow_succ, Nat.mul_two]

lemma UnitRegister.power_eq (k i : ℕ) : power f n k i = f^[k % 2 ^ i] 1 := by
  induction i with
  | zero => rw [pow_zero, Nat.mod_one]; rfl
  | succ i ih =>
    rw [power, Nat.mod_pow_succ, ← Nat.toNat_testBit]
    split_ifs with hb
    · rw [ih, hf.square_eq, hf.times_eq (hf.below_iterate _), ← Function.iterate_add_apply, hb, Bool.toNat_true, Nat.mul_one,
        Nat.add_comm]
    · rw [ih, Bool.eq_false_of_not_eq_true hb]
      rfl

end

end UnitRegister

/-! ### Periods -/

section Periods

variable {α : Type} {f : α → α} {x y : α} {n : ℕ}

open Function Function

/-- The period is `n` if it is a period and none of its quotients by a prime is. -/
lemma minimalPeriod_eq_of_primes (hp : f^[n] x = x) (hq : ∀ q, q.Prime → q ∣ n → f^[n / q] x ≠ x) :
    minimalPeriod f x = n := by
  obtain ⟨d, hd⟩ := IsPeriodicPt.minimalPeriod_dvd (f := f) hp
  by_contra hne
  have h1 : d ≠ 1 := by
    rintro rfl
    exact hne (by omega)
  obtain ⟨c, hc⟩ := d.minFac_dvd
  have hprime := Nat.minFac_prime h1
  refine hq d.minFac hprime (hd ▸ (d.minFac_dvd.mul_left _)) ?_
  have hn : n / d.minFac = minimalPeriod f x * c := by
    rw [hd]
    nth_rewrite 1 [hc]
    rw [Nat.mul_left_comm, Nat.mul_div_cancel_left _ hprime.pos]
  rw [hn]
  exact (isPeriodicPt_minimalPeriod f x).mul_const c

/-- A point whose period is the number of all points reaches each of them. -/
lemma exists_iterate_eq {s : Finset α} (hs : ∀ k, f^[k] x ∈ s) (hc : s.card ≤ minimalPeriod f x) (hy : y ∈ s) :
    ∃ k, f^[k] x = y := by
  classical
  have hsub : (Finset.range (minimalPeriod f x)).image (f^[·] x) ⊆ s := by
    intro z hz
    obtain ⟨k, -, rfl⟩ := Finset.mem_image.1 hz
    exact hs k
  have hinj : Set.InjOn (f^[·] x) (Finset.range (minimalPeriod f x)) := by
    rw [Finset.coe_range]
    exact iterate_injOn_Iio_minimalPeriod
  have heq := Finset.eq_of_subset_of_card_le hsub (by rwa [Finset.card_image_of_injOn hinj, Finset.card_range])
  rw [← heq] at hy
  obtain ⟨k, -, hk⟩ := Finset.mem_image.1 hy
  exact ⟨k, hk⟩

end Periods

end OneXBts.Lib
