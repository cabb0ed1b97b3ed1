import OneXBts.Common.LongCodePrivacy
import OneXBts.Lib.Gf2

/-!
The long code generator (`long_code.rs`): a register of 42 bits, whose output is the parity of the bits that a mask selects.

The register is stepped chip by chip, or moved with the powers of its matrix. Stepping takes the mask of a new frame when the
frame begins, a jump takes the mask of the chip that it ends at. The register is linear, and the chip at a position is made
with the register that far on and the mask of that position (`generateSequence_eq`). Its period is full
(`minimalPeriod_advanceState`).
-/

namespace OneXBts.Common

open Lib List Function Nat LongCodePrivacy

def privacyFrameChips : ℕ := 24576

structure LongCodeGenerator where
  state : BitVec 64
  mask : BitVec 64
  chipPosition : ℕ := 0
  privacy : Option LongCodePrivacy := none
  deriving DecidableEq, Repr

namespace LongCodeGenerator

/-! ### The code -/

def refreshPrivacyMask (g : LongCodeGenerator) : LongCodeGenerator :=
  match g.privacy with
  | none => g
  | some privacy => { g with mask := privacy.maskAt g.chipPosition }

def countOnes (x : BitVec 64) : ℕ := (List.range 64).countP fun i => x.getLsbD i

def parity (state mask : BitVec 64) : UInt8 := UInt8.ofNat (countOnes (state &&& mask) % 2)

def peekOutput (g : LongCodeGenerator) : UInt8 := parity g.state g.mask

def advanceTaps : BitVec 64 :=
  1 <<< 1 ||| 1 <<< 2 ||| 1 <<< 3 ||| 1 <<< 5 ||| 1 <<< 6 ||| 1 <<< 7 ||| 1 <<< 10 ||| 1 <<< 16 ||| 1 <<< 17 |||
    1 <<< 18 ||| 1 <<< 19 ||| 1 <<< 21 ||| 1 <<< 22 ||| 1 <<< 25 ||| 1 <<< 26 ||| 1 <<< 27 ||| 1 <<< 31 ||| 1 <<< 33 |||
    1 <<< 35

def advanceState (state : BitVec 64) : BitVec 64 :=
  let feedback := (state >>> 41) &&& 1
  let state := ((state <<< 1) ||| feedback) &&& 0x3FFFFFFFFFF
  if feedback = 1 then state ^^^ advanceTaps else state

def nextChip (g : LongCodeGenerator) : LongCodeGenerator × UInt8 :=
  let g := if g.privacy.isSome ∧ g.chipPosition % privacyFrameChips = 0 then g.refreshPrivacyMask else g
  ({ g with state := advanceState g.state, chipPosition := (g.chipPosition + 1) % 2 ^ 64 }, g.peekOutput)

def generateSequence (g : LongCodeGenerator) : ℕ → LongCodeGenerator × List UInt8
  | 0 => (g, [])
  | numChips + 1 =>
    let (g, chip) := g.nextChip
    let (g, chips) := generateSequence g numChips
    (g, chip :: chips)

def getTMatrix : List (BitVec 64) :=
  (List.range 42).map fun i =>
    let nextRow : BitVec 64 := if i < 41 then 1 <<< (i + 1) else 0
    if i = 41 then
      [1, 2, 3, 5, 6, 7, 10, 16, 17, 18, 19, 21, 22, 25, 26, 27, 31, 33, 35].foldl (fun row bit => row ||| 1 <<< bit)
        (nextRow ||| 1)
    else nextRow

def applyMatrix (matrix : List (BitVec 64)) (state : BitVec 64) : BitVec 64 :=
  (List.range 42).foldl (fun newState i => if (state >>> i) &&& 1 = 1 then newState ^^^ matrix.getD i 0 else newState) 0

def multiplyMatrices (a b : List (BitVec 64)) : List (BitVec 64) :=
  (List.range 42).map fun i =>
    (List.range 42).foldl (fun row j => if (a.getD i 0 >>> j) &&& 1 = 1 then row ^^^ b.getD j 0 else row) 0

/-- The table of the matrix to the powers of two. It has 64 entries, one for each bit of a number of chips. -/
def tMatrixPowers : ℕ → List (BitVec 64)
  | 0 => getTMatrix
  | i + 1 => multiplyMatrices (tMatrixPowers i) (tMatrixPowers i)

def advanceChips (g : LongCodeGenerator) (numChips : ℕ) : LongCodeGenerator :=
  let g := { g with chipPosition := min (g.chipPosition + numChips) (2 ^ 64 - 1) }
  let g := g.refreshPrivacyMask
  if numChips ≥ 64 then { g with state := jump (fun i => applyMatrix (tMatrixPowers i)) numChips 0 g.state }
  else { g with state := advanceState^[numChips] g.state }

/-! ### The register is linear -/

section Register

variable {x : BitVec 64}

lemma shiftRight_and_one (x : BitVec 64) (i : ℕ) : (x >>> i) &&& 1 = if x.getLsbD i then 1 else 0 := by grind

lemma shiftRight_and_one_eq_one (x : BitVec 64) (i : ℕ) : (x >>> i) &&& 1 = 1 ↔ x.getLsbD i = true := by
  rw [shiftRight_and_one]
  simp

lemma foldl_rows (rows : ℕ → BitVec 64) (x : BitVec 64) (n : ℕ) :
    (List.range n).foldl (fun acc i => if (x >>> i) &&& 1 = 1 then acc ^^^ rows i else acc) 0 = combine rows x n := by
  induction n <;> grind [range_succ, shiftRight_and_one_eq_one, Lib.combine]

lemma applyMatrix_eq (matrix : List (BitVec 64)) (x : BitVec 64) :
    applyMatrix matrix x = combine (fun i => matrix.getD i 0) x 42 := foldl_rows _ x 42

lemma applyMatrix_multiplyMatrices (a b : List (BitVec 64)) (x : BitVec 64) :
    applyMatrix (multiplyMatrices a b) x = applyMatrix b (applyMatrix a x) := by
  have hr : ∀ i < 42, (multiplyMatrices a b).getD i 0 = combine (fun j => b.getD j 0) (a.getD i 0) 42 := by
    intro i hi
    rw [← foldl_rows, multiplyMatrices, List.getD_eq_getElem?_getD, List.getElem?_map, List.getElem?_range hi]
    rfl
  rw [applyMatrix_eq, applyMatrix_eq, applyMatrix_eq, combine_congr hr, combine_product]

lemma advanceState_eq (x : BitVec 64) :
    advanceState x = ((x <<< 1) &&& (0x3FFFFFFFFFF : BitVec 64)) ^^^ (if x.getLsbD 41 then 1 ^^^ advanceTaps else 0) := by
  unfold advanceState
  dsimp only
  rw [shiftRight_and_one]
  cases x.getLsbD 41 with
  | false => simp
  | true =>
    -- the lowest bit of a shifted state is clear
    grind

lemma additive_advanceState : Additive advanceState := by
  intro x y
  rw [advanceState_eq, advanceState_eq, advanceState_eq, BitVec.getLsbD_xor]
  have hs : ((x ^^^ y) <<< 1) &&& (0x3FFFFFFFFFF : BitVec 64) =
      ((x <<< 1) &&& (0x3FFFFFFFFFF : BitVec 64)) ^^^ ((y <<< 1) &&& (0x3FFFFFFFFFF : BitVec 64)) := by grind
  grind

lemma below_of_lt (hx : x.toNat < 2 ^ 42) : Below 42 x := fun i hi =>
  testBit_lt_two_pow (hx.trans_le (Nat.pow_le_pow_right (by decide) hi))

lemma below_advanceState (x : BitVec 64) : Below 42 (advanceState x) := by
  intro i hi
  have hm : (0x3FFFFFFFFFF : BitVec 64).getLsbD i = false := below_of_lt (by decide) i hi
  have ht : (if x.getLsbD 41 then 1 ^^^ advanceTaps else 0 : BitVec 64).getLsbD i = false := by
    split_ifs
    all_goals exact below_of_lt (by decide) i hi
  rw [advanceState_eq, BitVec.getLsbD_xor, BitVec.getLsbD_and, hm, ht, Bool.and_false]
  rfl

lemma applyMatrix_getTMatrix (hx : Below 42 x) : applyMatrix getTMatrix x = advanceState x := by
  have hr : ∀ i < 42, getTMatrix.getD i 0 = advanceState (BitVec.twoPow 64 i) := by decide +kernel
  rw [applyMatrix_eq]
  exact additive_advanceState.eq_combine (by decide) hr hx

lemma applyMatrix_tMatrixPowers (i : ℕ) (hx : Below 42 x) :
    applyMatrix (tMatrixPowers i) x = advanceState^[2 ^ i] x := by
  induction i generalizing x with
  | zero => exact applyMatrix_getTMatrix hx
  | succ i ih =>
    have hb : Below 42 (advanceState^[2 ^ i] x) := by
      obtain ⟨n, hn⟩ : ∃ n, 2 ^ i = n + 1 := ⟨2 ^ i - 1, by have := Nat.two_pow_pos i; omega⟩
      rw [hn, iterate_succ_apply']
      exact below_advanceState _
    rw [tMatrixPowers, applyMatrix_multiplyMatrices, ih hx, ih hb, ← iterate_add_apply, ← Nat.two_mul, pow_succ']

/-- **The jump of the register.** -/
theorem jump_tMatrixPowers (hx : Below 42 x) (n : ℕ) :
    jump (fun i => applyMatrix (tMatrixPowers i)) n 0 x = advanceState^[n] x := by
  rw [jump_eq_iterate (fun x _ => below_advanceState x) (fun i x hx => applyMatrix_tMatrixPowers i hx) n 0 hx, pow_zero,
    Nat.mul_one]

/-! ### The period -/

lemma unitRegister_advanceState : UnitRegister advanceState 42 where
  additive := additive_advanceState
  below := below_advanceState
  one := below_of_lt (by decide)
  unit := by decide +kernel

lemma iterate_one {k : ℕ} (hk : k < 2 ^ 42) : advanceState^[k] 1 = power advanceState 42 k 42 := by
  rw [unitRegister_advanceState.power_eq, mod_eq_of_lt hk]

/-- The cofactors of the order are the steps to look at: the feedback polynomial is primitive. -/
lemma minimalPeriod_one : minimalPeriod advanceState 1 = 2 ^ 42 - 1 := by
  refine minimalPeriod_eq_of_primes ?_ fun q hq hd => ?_
  · rw [iterate_one (by norm_num)]
    decide +kernel
  have hfactors : 2 ^ 42 - 1 = 3 ^ 2 * 7 ^ 2 * 43 * 127 * 337 * 5419 := by norm_num
  rw [hfactors] at hd
  have hprime : ∀ {p : ℕ}, p.Prime → q ∣ p → q = p := fun hp => (Nat.prime_dvd_prime_iff_eq hq hp).1
  rw [iterate_one ((Nat.div_le_self _ _).trans_lt (by norm_num))]
  simp only [hq.dvd_mul] at hd
  rcases hd with ((((h | h) | h) | h) | h) | h
  · rw [hprime (by norm_num) (hq.dvd_of_dvd_pow h)]
    decide +kernel
  · rw [hprime (by norm_num) (hq.dvd_of_dvd_pow h)]
    decide +kernel
  · rw [hprime (by norm_num) h]
    decide +kernel
  · rw [hprime (by norm_num) h]
    decide +kernel
  · rw [hprime (by norm_num) h]
    decide +kernel
  · rw [hprime (by norm_num) h]
    decide +kernel

/-- A state of the full period does not come to zero, where the register stays. -/
lemma iterate_ne_zero (hp : minimalPeriod advanceState x = 2 ^ 42 - 1) (k : ℕ) : advanceState^[k] x ≠ 0 := by
  intro hz
  have hx : x ∈ periodicPts advanceState := minimalPeriod_pos_iff_mem_periodicPts.1 (by rw [hp]; norm_num)
  have hk := minimalPeriod_apply_iterate hx k
  rw [hz, hp, minimalPeriod_eq_one_iff_isFixedPt.2 additive_advanceState.map_zero] at hk
  norm_num at hk

/-- Every state is on the orbit of the first unit vector, which has as many states as there are. -/
lemma minimalPeriod_advanceState (hx : x.toNat < 2 ^ 42) (h0 : x ≠ 0) :
    minimalPeriod advanceState x = 2 ^ 42 - 1 := by
  have hmem : ∀ y : BitVec 64, y.toNat < 2 ^ 42 → y ≠ 0 → y ∈ (Finset.Ico 1 (2 ^ 42)).image (BitVec.ofNat 64) := by
    intro y hy hne
    refine Finset.mem_image.2 ⟨y.toNat, Finset.mem_Ico.2 ⟨?_, hy⟩, by simp⟩
    exact Nat.pos_of_ne_zero fun h => hne (BitVec.eq_of_toNat_eq h)
  have hcard : ((Finset.Ico 1 (2 ^ 42)).image (BitVec.ofNat 64)).card ≤ minimalPeriod advanceState 1 := by
    rw [minimalPeriod_one]
    exact Finset.card_image_le.trans_eq (card_Ico _ _)
  have horbit : ∀ k, advanceState^[k] 1 ∈ (Finset.Ico 1 (2 ^ 42)).image (BitVec.ofNat 64) := fun k =>
    hmem _ (lt_pow_two_of_testBit _ (unitRegister_advanceState.below_iterate k)) (iterate_ne_zero minimalPeriod_one k)
  obtain ⟨k, rfl⟩ := exists_iterate_eq horbit hcard (hmem x hx h0)
  have h1 : (1 : BitVec 64) ∈ periodicPts advanceState :=
    minimalPeriod_pos_iff_mem_periodicPts.1 (by rw [minimalPeriod_one]; norm_num)
  rw [minimalPeriod_apply_iterate h1, minimalPeriod_one]

/-- **The long code has full period.** From a state that is not zero the register goes through `2 ^ 42 - 1` states, all
different, and comes back; it never comes to zero. -/
theorem advanceState_full_period (x : BitVec 64) (hx : x.toNat < 2 ^ 42) (h0 : x ≠ 0) :
    (∀ i < 2 ^ 42 - 1, ∀ j < 2 ^ 42 - 1, advanceState^[i] x = advanceState^[j] x → i = j) ∧
      advanceState^[2 ^ 42 - 1] x = x ∧ ∀ k, advanceState^[k] x ≠ 0 := by
  have hp := minimalPeriod_advanceState hx h0
  refine ⟨fun i hi j hj heq => ?_, ?_, iterate_ne_zero hp⟩
  · exact iterate_injOn_Iio_minimalPeriod (hp ▸ hi) (hp ▸ hj) heq
  · rw [← hp]
    exact iterate_minimalPeriod

theorem advanceState_full_period_one :
    (1 : BitVec 64) ≠ 0 ∧ advanceState^[2 ^ 42 - 1] (1 : BitVec 64) = 1 ∧ ∀ k, advanceState^[k] (1 : BitVec 64) ≠ 0 :=
  ⟨by decide, (advanceState_full_period 1 (by decide) (by decide)).2⟩

end Register

/-! ### Sequences of chips -/

def maskOf (g : LongCodeGenerator) (chip : ℕ) : BitVec 64 :=
  match g.privacy with
  | none => g.mask
  | some privacy => privacy.maskAt chip

/-- All the transitions are at the beginning of a frame. -/
def AtFrames (g : LongCodeGenerator) : Prop :=
  ∀ privacy ∈ g.privacy, ∀ t ∈ privacy.accepted, privacyFrameChips ∣ t.actionChip

/-- The mask is that of the position, unless it is taken there before the next chip. -/
def Current (g : LongCodeGenerator) : Prop :=
  g.chipPosition % privacyFrameChips ≠ 0 → g.mask = g.maskOf g.chipPosition

section Chips

variable {g : LongCodeGenerator}

lemma maskOf_succ (hf : g.AtFrames) (hin : (chip + 1) % privacyFrameChips ≠ 0) :
    g.maskOf (chip + 1) = g.maskOf chip := by
  unfold maskOf
  cases hp : g.privacy with
  | none => rfl
  | some privacy =>
    have hfi : privacy.accepted.reverse.find? (·.actionChip ≤ chip + 1) =
        privacy.accepted.reverse.find? (·.actionChip ≤ chip) := by
      refine List.find?_congr fun t ht => decide_eq_decide.2 ⟨fun hle => ?_, fun hle => hle.trans (le_succ _)⟩
      refine le_of_lt_succ (lt_of_le_of_ne hle fun heq => hin ?_)
      have hdvd := hf privacy hp t (mem_reverse.1 ht)
      rw [heq] at hdvd
      exact mod_eq_zero_of_dvd hdvd
    dsimp only
    rw [maskAt, maskAt, isPrivateAt, isPrivateAt, hfi]

lemma refreshPrivacyMask_eq (g : LongCodeGenerator) :
    g.refreshPrivacyMask = { g with mask := g.maskOf g.chipPosition } := by
  grind [cases LongCodeGenerator, LongCodeGenerator.refreshPrivacyMask, LongCodeGenerator.maskOf]

lemma nextChip_eq (hc : g.Current) (hpos : g.chipPosition + 1 < 2 ^ 64) :
    g.nextChip = ({ g with
      state := advanceState g.state
      mask := g.maskOf g.chipPosition
      chipPosition := g.chipPosition + 1 }, parity g.state (g.maskOf g.chipPosition)) := by
  have hm : (if g.privacy.isSome ∧ g.chipPosition % privacyFrameChips = 0 then g.refreshPrivacyMask else g) =
      { g with mask := g.maskOf g.chipPosition } := by
    grind [cases LongCodeGenerator, LongCodeGenerator.refreshPrivacyMask, LongCodeGenerator.maskOf,
      LongCodeGenerator.Current]
  unfold nextChip
  dsimp only
  rw [hm, mod_eq_of_lt hpos]
  rfl

/-- **A sequence of chips**: each is made with the register that many steps on and the mask of its position. -/
theorem generateSequence_eq (hf : g.AtFrames) (hc : g.Current) (n : ℕ) (hpos : g.chipPosition + n < 2 ^ 64) :
    (g.generateSequence n).2 =
      (List.range n).map (fun j => parity (advanceState^[j] g.state) (g.maskOf (g.chipPosition + j))) ∧
    (g.generateSequence n).1 = { g with
      state := advanceState^[n] g.state
      mask := if n = 0 then g.mask else g.maskOf (g.chipPosition + n - 1)
      chipPosition := g.chipPosition + n } := by
  induction n generalizing g with
  | zero => exact ⟨rfl, rfl⟩
  | succ n ih =>
    have hne := nextChip_eq hc (by omega)
    generalize hg' : ({ g with
      state := advanceState g.state
      mask := g.maskOf g.chipPosition
      chipPosition := g.chipPosition + 1 } : LongCodeGenerator) = g' at hne
    have hm : ∀ chip, g'.maskOf chip = g.maskOf chip := by
      intro chip
      subst hg'
      unfold maskOf
      cases g.privacy <;> rfl
    have hf' : g'.AtFrames := by
      subst hg'
      exact hf
    have hp : g'.chipPosition = g.chipPosition + 1 := by
      subst hg'
      rfl
    have hc' : g'.Current := by
      intro hin
      rw [hm, hp] at *
      rw [maskOf_succ hf hin]
      subst hg'
      rfl
    obtain ⟨ihchips, ihstate⟩ := ih hf' hc' (by omega)
    rw [generateSequence, hne]
    dsimp only
    rw [ihchips, ihstate]
    simp only [hm]
    subst hg'
    refine ⟨?_, ?_⟩
    · rw [range_succ_eq_map, map_cons, map_map]
      refine congrArg₂ List.cons rfl (map_congr_left fun j _ => ?_)
      rw [comp_apply, iterate_succ_apply, show g.chipPosition + 1 + j = g.chipPosition + (j + 1) by omega]
    rw [iterate_succ_apply, if_neg (succ_ne_zero n), show g.chipPosition + 1 + n = g.chipPosition + (n + 1) by
      omega]
    by_cases hn : n = 0
    · subst hn
      rfl
    · rw [if_neg hn]

lemma advanceChips_eq (hs : Below 42 g.state) (n : ℕ) (hpos : g.chipPosition + n < 2 ^ 64) :
    g.advanceChips n = { g with
      state := advanceState^[n] g.state
      mask := g.maskOf (g.chipPosition + n)
      chipPosition := g.chipPosition + n } := by
  have hsat : min (g.chipPosition + n) (2 ^ 64 - 1) = g.chipPosition + n := min_eq_left (by omega)
  have hr : ({ g with chipPosition := g.chipPosition + n } : LongCodeGenerator).refreshPrivacyMask =
      { g with mask := g.maskOf (g.chipPosition + n), chipPosition := g.chipPosition + n } := by
    rw [refreshPrivacyMask_eq]
    rfl
  unfold advanceChips
  dsimp only
  grind [jump_tMatrixPowers]

end Chips

/-- **The register tells the chip, modulo the period**: two jumps from one place lead to one register just if their
lengths differ by periods. -/
theorem advanceChips_state_eq_iff (g : LongCodeGenerator) (hs : g.state.toNat < 2 ^ 42) (h0 : g.state ≠ 0) (n m : ℕ)
    (hn : g.chipPosition + n < 2 ^ 64) (hm : g.chipPosition + m < 2 ^ 64) :
    (g.advanceChips n).state = (g.advanceChips m).state ↔ n ≡ m [MOD 2 ^ 42 - 1] := by
  have hp := minimalPeriod_advanceState hs h0
  have hpos : 0 < minimalPeriod advanceState g.state := by rw [hp]; decide
  rw [advanceChips_eq (below_of_lt hs) n hn, advanceChips_eq (below_of_lt hs) m hm, ← hp]
  change advanceState^[n] g.state = advanceState^[m] g.state ↔ _
  rw [← iterate_mod_minimalPeriod_eq, ← @iterate_mod_minimalPeriod_eq _ _ _ m]
  exact ⟨fun h => iterate_injOn_Iio_minimalPeriod (mod_lt n hpos) (mod_lt m hpos) h, fun h => by rw [h]⟩

theorem advanceChips_state_eq_iff_period :
    (advanceChips ⟨1, 1, 0, none⟩ (2 ^ 42)).state = (advanceChips ⟨1, 1, 0, none⟩ 1).state :=
  (advanceChips_state_eq_iff ⟨1, 1, 0, none⟩ (by decide) (by decide) _ _ (by decide) (by decide)).2 (by decide)

/-- **A jump is as many steps.** For a generator whose transitions are at frames and whose mask is current, a jump of `n`
chips and then `k` chips are the last `k` of `n + k` chips; the register and the position are the same at the end, and so
is the mask, unless `k` is 0 and the jump ends at the beginning of a frame, where it has already taken the mask that the
next chip takes. -/
theorem jump_eq_stepping (g : LongCodeGenerator) (hstate : g.state.toNat < 2 ^ 42) (hframes : g.AtFrames)
    (hcurrent : g.Current) (n k : ℕ) (hpos : g.chipPosition + n + k < 2 ^ 64) :
    ((g.advanceChips n).generateSequence k).2 = (g.generateSequence (n + k)).2.drop n ∧
    ((g.advanceChips n).generateSequence k).1.state = (g.generateSequence (n + k)).1.state ∧
    ((g.advanceChips n).generateSequence k).1.chipPosition = (g.generateSequence (n + k)).1.chipPosition ∧
    (0 < k ∨ (g.chipPosition + n) % privacyFrameChips ≠ 0 ∨ g.privacy = none →
      ((g.advanceChips n).generateSequence k).1.mask = (g.generateSequence (n + k)).1.mask) := by
  have hj := advanceChips_eq (below_of_lt hstate) n (by omega : g.chipPosition + n < 2 ^ 64)
  generalize hg' : g.advanceChips n = g' at hj
  have hm : ∀ chip, g'.maskOf chip = g.maskOf chip := by
    intro chip
    rw [hj]
    unfold maskOf
    cases g.privacy <;> rfl
  have hframes' : g'.AtFrames := by
    rw [hj]
    exact hframes
  have hp : g'.chipPosition = g.chipPosition + n := by rw [hj]
  have hcurrent' : g'.Current := by
    intro _
    rw [hm, hp, hj]
  obtain ⟨hc, hend⟩ := generateSequence_eq hframes' hcurrent' k (by omega)
  obtain ⟨hc', hend'⟩ := generateSequence_eq hframes hcurrent (n + k) (by omega)
  have hs : g'.state = advanceState^[n] g.state := by rw [hj]
  refine ⟨?_, ?_, ?_, ?_⟩
  · rw [hc, hc', range_add, map_append, drop_left' (by simp), map_map]
    refine map_congr_left fun j _ => ?_
    rw [comp_apply, hs, hp, hm, ← iterate_add_apply, Nat.add_comm j n, Nat.add_assoc]
  · rw [hend, hend']
    rw [hs, ← iterate_add_apply, Nat.add_comm]
  · rw [hend, hend']
    rw [hp, Nat.add_assoc]
  intro hca
  rw [hend, hend']
  by_cases hk : k = 0
  · -- the mask of the position before the end of the jump is that of its end
    have hin : (g.chipPosition + n) % privacyFrameChips ≠ 0 ∨ g.privacy = none := hca.resolve_left (by omega)
    have hma : g'.mask = g.maskOf (g.chipPosition + n) := by rw [hj]
    have hn : g.privacy = none → ∀ chip, g.maskOf chip = g.mask := by
      intro hn chip
      rw [maskOf, hn]
    rw [if_pos hk, hma, hk, Nat.add_zero]
    rcases hin with hin | hpr
    · cases n with
      | zero => exact (hcurrent hin).symm
      | succ => exact maskOf_succ hframes hin
    rw [hn hpr]
    split_ifs
    · rfl
    · rw [hn hpr]
  · rw [if_neg hk, if_neg (by omega), hm, hp, Nat.add_assoc]

def beforeTransition : LongCodeGenerator where
  state := 1 <<< 41
  mask := 0
  chipPosition := 24575
  privacy := some { publicMask := 0, privateMask := 1, accepted := [⟨24576, true⟩] }

lemma atFrames_beforeTransition : beforeTransition.AtFrames := by
  rintro privacy ⟨⟩ t ht
  rw [mem_singleton.1 ht]
  decide

/-- A jump over the transition, by way of the matrix. -/
theorem jump_eq_stepping_transition :
    ((beforeTransition.advanceChips 100).generateSequence 3).2 = (beforeTransition.generateSequence 103).2.drop 100 ∧
    ((beforeTransition.advanceChips 100).generateSequence 3).1.mask = (beforeTransition.generateSequence 103).1.mask := by
  obtain ⟨hc, -, -, hm⟩ := jump_eq_stepping beforeTransition (by decide) atFrames_beforeTransition
    (fun _ => by decide) 100 3 (by decide)
  exact ⟨hc, hm (by decide)⟩

/-- A generator whose mask was set to another one after the privacy was. -/
def otherMask : LongCodeGenerator := { beforeTransition with state := 1, mask := 6, chipPosition := 1 }

/-- A step keeps a mask that was set, and a jump does not. And where a jump ends at a transition, its mask is not that of
stepping until the next chip. -/
theorem jump_takes_other_mask :
    ((otherMask.advanceChips 1).generateSequence 1).2 ≠ (otherMask.generateSequence 2).2.drop 1 ∧
    ((beforeTransition.advanceChips 1).generateSequence 0).1.mask ≠ (beforeTransition.generateSequence 1).1.mask := by
  decide

end LongCodeGenerator

end OneXBts.Common
