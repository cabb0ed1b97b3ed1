import Mathlib.Tactic

/-!
Eight flags in an octet.

The flags are set and asked for with a shifted one, and a range of them is cleared one after the other, as code does it.
Here they are a predicate on numbers, and each operation has one lemma that says which numbers it changes.
-/

namespace OneXBts.Lib

def flagged (flags : UInt8) (b : ℕ) : Bool := flags.toBitVec.getLsbD b

def clearFlags (flags : UInt8) (lo hi : ℕ) : UInt8 :=
  (List.range' lo (hi - lo)).foldl (fun flags b => flags &&& ~~~(1 <<< UInt8.ofNat b)) flags

section Flags

variable {flags k : UInt8} {b : ℕ}

@[simp] lemma flagged_zero (b : ℕ) : flagged 0 b = false := by simp [flagged]

lemma flagged_bit (hk : k.toNat < 8) : flagged (1 <<< k) b = decide (b = k.toNat) := by
  have hmod : k.toBitVec.toNat % 8 = k.toNat := Nat.mod_eq_of_lt hk
  rw [flagged, UInt8.toBitVec_shiftLeft, BitVec.shiftLeft_eq', BitVec.toNat_umod, show (8 : BitVec 8).toNat = 8 from rfl,
    BitVec.getLsbD_shiftLeft, Bool.eq_iff_iff]
  simp only [UInt8.toBitVec_one, BitVec.getLsbD_one, Bool.and_eq_true, decide_eq_true_eq, Bool.not_eq_true',
    decide_eq_false_iff_not]
  omega

lemma flagged_or_bit (hk : k.toNat < 8) :
    flagged (flags ||| 1 <<< k) b = (flagged flags b || decide (b = k.toNat)) := by
  rw [← flagged_bit hk]
  simp [flagged]

lemma flagged_and_not_bit (hk : k.toNat < 8) (hb : b < 8) :
    flagged (flags &&& ~~~(1 <<< k)) b = (flagged flags b && !decide (b = k.toNat)) := by
  rw [← flagged_bit hk]
  simp [flagged, hb]

lemma and_bit_ne_zero (hk : k.toNat < 8) : flags &&& 1 <<< k ≠ 0 ↔ flagged flags k.toNat = true := by
  have hbit : ∀ b, flagged (flags &&& 1 <<< k) b = (flagged flags b && decide (b = k.toNat)) := by
    intro b
    rw [← flagged_bit hk]
    simp [flagged]
  constructor
  · intro hne
    by_contra hc
    apply hne
    apply UInt8.toBitVec_inj.1
    apply BitVec.eq_of_getLsbD_eq
    intro b _
    have h := hbit b
    by_cases hb : b = k.toNat
    · rw [hb, Bool.eq_false_iff.2 hc] at h
      rw [hb]
      exact h.trans (by simp)
    · rw [decide_eq_false hb] at h
      exact h.trans (by simp)
  grind [flagged_zero]

lemma flagged_clearFlags (hhi : hi ≤ 8) (hb : b < 8) :
    flagged (clearFlags flags lo hi) b = (flagged flags b && !(decide (lo ≤ b) && decide (b < hi))) := by
  -- by induction on the length of the range, from its end
  obtain ⟨len, hlen⟩ : ∃ len, hi - lo = len := ⟨_, rfl⟩
  have hc : ∀ len, lo + len ≤ 8 ∨ len = 0 → flagged ((List.range' lo len).foldl
      (fun flags b => flags &&& ~~~(1 <<< UInt8.ofNat b)) flags) b =
        (flagged flags b && !(decide (lo ≤ b) && decide (b < lo + len))) := by
    intro len
    induction len with
    | zero => grind
    | succ len =>
      intro hle
      have hl : (UInt8.ofNat (lo + len)).toNat = lo + len := UInt8.toNat_ofNat_of_lt (by
        rw [show UInt8.size = 256 from rfl]
        omega)
      rw [List.range'_concat, List.foldl_append, List.foldl_cons, List.foldl_nil, Nat.one_mul,
        flagged_and_not_bit (by omega) hb]
      grind
  rw [clearFlags, hlen, hc len (by omega)]
  grind

end Flags

end OneXBts.Lib
