import Mathlib.FieldTheory.Finite.Basic
import OneXBts.Lib.BigEndian

/-!
The primality test for the modulus of a key exchange (`key_exchange.rs`): trial division, then forty rounds of Miller–Rabin.
The octets that a round draws are an argument.
-/

namespace OneXBts.Hlr

open Lib

def MILLER_RABIN_ROUNDS : ℕ := 40
def SMALL_PRIMES : List ℕ := [2, 3, 5, 7, 11, 13, 17, 19, 23, 29, 31, 37]
def OCTET_BITS : ℕ := 8

def randomBits (bits : ℕ) (drawn : ℕ → UInt8) : ℕ :=
  let octets := (bits + (OCTET_BITS - 1)) / OCTET_BITS
  let bytes := (List.range octets).map drawn
  let excess := octets * OCTET_BITS - bits
  natOfOctets (bytes.modify 0 fun first => first &&& (0xff >>> excess.toUInt8))

/-- The number that a round draws. -/
def witness (n : ℕ) (drawn : ℕ → UInt8) : ℕ := randomBits n.size drawn % (n - 3) + 2

/-- Squaring `x` so many times gives `n - 1` at some time. -/
def squaresTo (n : ℕ) : ℕ → ℕ → Bool
  | 0, _ => false
  | count + 1, x => x ^ 2 % n = n - 1 || squaresTo n count (x ^ 2 % n)

def isProbablePrime (n : ℕ) (drawn : ℕ → ℕ → UInt8) : Bool :=
  if n < 2 then false
  else
    match SMALL_PRIMES.findSome? fun small =>
      if n = small then some true else if n % small = 0 then some false else none with
    | some result => result
    | none =>
      let s := padicValNat 2 (n - 1)
      let d := (n - 1) >>> s
      (List.range MILLER_RABIN_ROUNDS).all fun round =>
        let x := witness n (drawn round) ^ d % n
        x = 1 || x = n - 1 || squaresTo n (s - 1) x

/-- With `n - 1 = d * 2 ^ s` and `d` odd: `a ^ d` is one, or becomes minus one by at most `s - 1` squarings. -/
def StrongLiar (n a : ℕ) : Prop :=
  ∃ d s, n - 1 = d * 2 ^ s ∧ d % 2 = 1 ∧ (a ^ d % n = 1 ∨ ∃ r < s, a ^ (d * 2 ^ r) % n = n - 1)

lemma squaresTo_iff (n count x : ℕ) :
    squaresTo n count x = true ↔ ∃ r < count, x ^ 2 ^ (r + 1) % n = n - 1 := by
  induction count generalizing x with
  | zero => simp [squaresTo]
  | succ count ih =>
    have hsq : ∀ r, (x ^ 2 % n) ^ 2 ^ (r + 1) % n = x ^ 2 ^ (r + 1 + 1) % n := by
      intro r
      rw [← Nat.pow_mod, ← pow_mul, ← pow_succ']
    rw [squaresTo, Bool.or_eq_true, decide_eq_true_iff, ih, Nat.exists_lt_succ_left]
    simp only [hsq, zero_add, pow_one]

/-- Square roots of one, again and again. -/
lemma eq_one_or_neg_one {R : Type} [CommRing R] [NoZeroDivisors R] {x : R} (h : x ^ 2 ^ s = 1) :
    x = 1 ∨ ∃ r < s, x ^ 2 ^ r = -1 := by
  induction s with
  | zero => exact .inl (by simpa using h)
  | succ s ih =>
    rw [pow_succ, pow_mul, sq_eq_one_iff] at h
    obtain h | h := h
    · exact (ih h).imp_right fun ⟨r, hr, hx⟩ => ⟨r, by omega, hx⟩
    · exact .inr ⟨s, by omega, h⟩

section Rounds

variable {n a d s : ℕ}

lemma round_iff : (a ^ d % n = 1 || a ^ d % n = n - 1 || squaresTo n s (a ^ d % n)) = true ↔
    a ^ d % n = 1 ∨ ∃ r < s + 1, a ^ (d * 2 ^ r) % n = n - 1 := by
  have hpow : ∀ r, (a ^ d % n) ^ 2 ^ r % n = a ^ (d * 2 ^ r) % n := by
    intro r
    rw [← Nat.pow_mod, ← pow_mul]
  rw [Nat.exists_lt_succ_left, Bool.or_eq_true, Bool.or_eq_true, squaresTo_iff]
  simp only [decide_eq_true_iff, hpow, or_assoc, pow_zero, mul_one]

/-- The Miller–Rabin theorem for one base. -/
lemma strong_of_prime (hn : n.Prime) (ha : ¬ n ∣ a) (hds : n - 1 = d * 2 ^ s) :
    a ^ d % n = 1 ∨ ∃ r < s, a ^ (d * 2 ^ r) % n = n - 1 := by
  have : Fact n.Prime := ⟨hn⟩
  have hpos := hn.two_le
  have hone : ((a : ZMod n) ^ d) ^ 2 ^ s = 1 := by
    rw [← pow_mul, ← hds]
    exact ZMod.pow_card_sub_one_eq_one fun h => ha ((ZMod.natCast_eq_zero_iff a n).1 h)
  have hneg : (-1 : ZMod n) = ((n - 1 : ℕ) : ZMod n) := by
    rw [Nat.cast_sub (by omega), ZMod.natCast_self, Nat.cast_one, zero_sub]
  refine (eq_one_or_neg_one hone).imp (fun h => ?_) fun ⟨r, hr, h⟩ => ⟨r, hr, ?_⟩
  · rw [← Nat.mod_eq_of_lt (show 1 < n by omega), ← ZMod.natCast_eq_natCast_iff']
    exact_mod_cast h
  · rw [← Nat.mod_eq_of_lt (show n - 1 < n by omega), ← ZMod.natCast_eq_natCast_iff', ← hneg, ← h, pow_mul]
    push_cast
    rfl

end Rounds

/-- **The test never rejects a prime, and accepts another number only on forty strong liars.** -/
theorem isProbablePrime_spec (n : ℕ) (drawn : ℕ → ℕ → UInt8) :
    (n.Prime → isProbablePrime n drawn = true) ∧
    (¬ n.Prime → isProbablePrime n drawn = true → ∀ round < 40,
      2 ≤ witness n (drawn round) ∧ witness n (drawn round) ≤ n - 2 ∧ StrongLiar n (witness n (drawn round))) := by
  unfold isProbablePrime
  by_cases hn : n < 2
  · rw [if_pos hn]
    exact ⟨fun h => absurd h.two_le (by omega), by simp⟩
  rw [if_neg hn]
  split
  · rename_i result hre
    obtain ⟨small, hsm, hre⟩ := List.exists_of_findSome?_eq_some hre
    have hp : ∀ small ∈ SMALL_PRIMES, small.Prime := by
      simp only [SMALL_PRIMES, List.forall_mem_cons]
      norm_num
    split_ifs at hre with he hd
    · cases hre
      exact ⟨fun _ => rfl, fun hnot => absurd (he ▸ hp small hsm) hnot⟩
    · cases hre
      refine ⟨fun h => absurd ((Nat.prime_dvd_prime_iff_eq (hp small hsm) h).1 (Nat.dvd_of_mod_eq_zero hd)).symm he, by simp⟩
  · rename_i hnone
    have hsmall := List.findSome?_eq_none_iff.1 hnone
    have h2 : n % 2 = 1 := by
      have := hsmall 2 (by simp [SMALL_PRIMES])
      split_ifs at this
      omega
    have h3 : n ≠ 3 := by
      have := hsmall 3 (by simp [SMALL_PRIMES])
      split_ifs at this
      assumption
    have hd : (n - 1) >>> padicValNat 2 (n - 1) = (n - 1).divMaxPow 2 := by
      rw [Nat.shiftRight_eq_div_pow]
      exact Nat.div_eq_of_eq_mul_left (by positivity) (Nat.divMaxPow_mul_pow_padicValNat 2 _).symm
    have hds := (Nat.divMaxPow_mul_pow_padicValNat 2 (n - 1)).symm
    have hodd : (n - 1).divMaxPow 2 % 2 = 1 := by
      have := Nat.not_dvd_divMaxPow one_lt_two (show n - 1 ≠ 0 by omega)
      omega
    dsimp only
    rw [hd]
    generalize padicValNat 2 (n - 1) = s at *
    generalize (n - 1).divMaxPow 2 = d at *
    obtain ⟨s, rfl⟩ : ∃ t, s = t + 1 := by
      cases s with
      | zero => omega
      | succ t => exact ⟨t, rfl⟩
    have ha : ∀ draws, 2 ≤ witness n draws ∧ witness n draws ≤ n - 2 := by
      intro draws
      have := Nat.mod_lt (randomBits n.size draws) (show 0 < n - 3 by omega)
      unfold witness
      omega
    simp only [List.all_eq_true, List.mem_range, Nat.add_sub_cancel, round_iff]
    refine ⟨fun h round _ => strong_of_prime h ?_ hds, fun _ h round hr => ?_⟩
    · have := ha (drawn round)
      exact Nat.not_dvd_of_pos_of_lt (by omega) (by omega)
    · exact ⟨(ha _).1, (ha _).2, d, s + 1, hds, hodd, h round hr⟩

/-- Sixty-one is prime. -/
theorem isProbablePrime_sixtyOne : isProbablePrime 61 (fun _ _ => 0) = true := (isProbablePrime_spec 61 _).1 (by norm_num)

end OneXBts.Hlr
