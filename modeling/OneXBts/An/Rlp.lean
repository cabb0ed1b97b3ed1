import OneXBts.Lib.Resequencer

/-!
Sequence numbers of the HRPD default packet stream (`rlp.rs`): octets modulo `2 ^ 22`, in 32 bits. `seq` is the number of
an unbounded position.
-/

namespace OneXBts.An.Rlp

open Lib Nat

def sequenceModulus : UInt32 := (1 : UInt32) <<< 22
def sequenceMask : UInt32 := sequenceModulus - 1
def sequenceHalf : UInt32 := sequenceModulus / 2

def next (sequence : UInt32) : UInt32 := (sequence + 1) &&& sequenceMask

def distance (src dst : UInt32) : UInt32 := (dst - src) &&& sequenceMask

/-- `left` is greater when it is less than half the numbers ahead of `right`. -/
def cmp (left right : UInt32) : Ordering :=
  let delta := distance right left
  if delta = 0 then .eq
  else if delta < sequenceHalf then .gt
  else .lt

/-- The number of sequence numbers, and half of it. -/
abbrev modulus : ℕ := 2 ^ 22
abbrev half : ℕ := 2 ^ 21

lemma modulus_eq : modulus = 2 * half := rfl

lemma half_lt_modulus : half < modulus := by decide

def seq (n : ℕ) : UInt32 := UInt32.ofNat (n % modulus)

lemma toNat_seq (n : ℕ) : (seq n).toNat = n % modulus := by
  have : n % modulus < UInt32.size := (mod_lt n (by decide)).trans (by decide)
  rw [seq, UInt32.toNat_ofNat_of_lt' this]

lemma and_sequenceMask (s : UInt32) : s &&& sequenceMask = seq s.toNat := by
  apply UInt32.toNat_inj.1
  rw [toNat_seq, UInt32.toNat_and, show sequenceMask.toNat = 2 ^ 22 - 1 by decide, and_two_pow_sub_one_eq_mod]

lemma seq_eq_seq {a b : ℕ} : seq a = seq b ↔ a % modulus = b % modulus := by
  rw [← UInt32.toNat_inj, toNat_seq, toNat_seq]

lemma seq_cyclic : Cyclic modulus seq := fun _ _ => seq_eq_seq

@[simp] lemma seq_mod_size (n : ℕ) : seq (n % 2 ^ 32) = seq n := seq_eq_seq.2 (mod_mod_of_dvd n (by decide))

lemma seq_toNat_seq (n : ℕ) : seq (seq n).toNat = seq n := seq_eq_seq.2 (by rw [toNat_seq, mod_mod])

lemma seq_add_modulus (n : ℕ) : seq (n + modulus) = seq n := seq_eq_seq.2 (add_mod_right n modulus)

lemma next_seq (n : ℕ) : next (seq n) = seq (n + 1) := by
  rw [next, and_sequenceMask, UInt32.toNat_add, toNat_seq, seq_mod_size]
  exact seq_eq_seq.2 (mod_add_mod n modulus 1)

lemma label_seq (n offset : ℕ) : (seq n + UInt32.ofNat offset) &&& sequenceMask = seq (n + offset) := by
  rw [and_sequenceMask, UInt32.toNat_add, toNat_seq, UInt32.toNat_ofNat', seq_mod_size]
  refine seq_eq_seq.2 ?_
  grind

lemma toNat_distance_seq (n : ℕ) {d : ℕ} (hd : d < modulus) : (distance (seq n) (seq (n + d))).toNat = d := by
  rw [distance, and_sequenceMask, toNat_seq, UInt32.toNat_sub, toNat_seq, toNat_seq]
  grind

lemma exists_ahead (base : ℕ) {s : UInt32} (hs : s.toNat < modulus) : ∃ e < modulus, s = seq (base + e) := by
  obtain ⟨h1, h2, h3⟩ := numberOf_spec base hs
  refine ⟨numberOf modulus base s.toNat - base, by omega, ?_⟩
  rw [Nat.add_sub_cancel' h1]
  apply UInt32.toNat_inj.1
  rw [toNat_seq, h3]

lemma toNat_seq_lt (n : ℕ) : (seq n).toNat < modulus := by
  rw [toNat_seq]
  exact mod_lt _ (by decide)

lemma cmp_seq (base : ℕ) {e : ℕ} (he : e < modulus) :
    cmp (seq (base + e)) (seq base) = if e = 0 then .eq else if e < half then .gt else .lt := by
  have hd := toNat_distance_seq base he
  have hz : distance (seq base) (seq (base + e)) = 0 ↔ e = 0 := by
    rw [← UInt32.toNat_inj, hd]
    rfl
  have hlt : distance (seq base) (seq (base + e)) < sequenceHalf ↔ e < half := by
    rw [UInt32.lt_iff_toNat_lt, hd]
    rfl
  simp only [cmp, hz, hlt]

lemma cmp_seq_end (base : ℕ) {e len : ℕ} (he : e < half) (hlen : len ≤ half) :
    cmp (seq (base + e)) (seq (base + len)) = if e = len then .eq else if len < e then .gt else .lt := by
  have hm := modulus_eq
  rcases Nat.lt_or_ge e len with hlt | hge
  · -- the number is more than half ahead of the end
    have heq : seq (base + e) = seq (base + len + (modulus + e - len)) := by
      rw [show base + len + (modulus + e - len) = base + e + modulus by omega, seq_add_modulus]
    rw [heq, cmp_seq _ (by omega), if_neg (by omega), if_neg (by omega), if_neg (by omega), if_neg (by omega)]
  · have heq : base + e = base + len + (e - len) := by omega
    rw [heq, cmp_seq _ (by omega)]
    grind

end OneXBts.An.Rlp
