import OneXBts.Lib.BitField

/-!
Slotted paging (`paging.rs`): the slots a mobile monitors, and its address IMSI_S. Chip counts are numbers without a bound.
-/

namespace OneXBts.Common.Paging

open Lib List

/-! ### Slots -/

def slotNumFromChips (chipCursor chipRateHz : ℕ) : ℕ := chipCursor / (chipRateHz / 50) / 4 % 2048

/-- A mobile with this PGSLOT monitors the slot with this number. -/
def monitors (pgslot slotCycleIndex slotNum : ℕ) : Bool :=
  let cycle := min (16 * 2 ^ slotCycleIndex) 65535
  (((slotNum : ℤ) - pgslot) % 2048).toNat % cycle = 0

def isAssignedSlot (chipCursor pgslot slotCycleIndex chipRateHz : ℕ) : Bool :=
  monitors pgslot slotCycleIndex (slotNumFromChips chipCursor chipRateHz)

def nextAssignedSlotChip (currentChip pgslot slotCycleIndex chipRateHz : ℕ) : ℕ :=
  let chipsPer20ms := chipRateHz / 50
  let slotChips := chipsPer20ms * 4
  let currentSlotStart := currentChip / slotChips * slotChips
  let currentSlotNum := currentSlotStart / chipsPer20ms / 4 % 2048
  match (range 2048).find? fun offset => monitors pgslot slotCycleIndex ((currentSlotNum + offset) % 2048) &&
      decide (currentChip ≤ currentSlotStart + offset * slotChips) with
  | some offset => currentSlotStart + offset * slotChips
  | none => currentSlotStart + 2048 * slotChips

section Slots

variable {c pgslot index rate : ℕ} (hr : 50 ≤ rate)
include hr

lemma slotNum_mul (k : ℕ) : k * (rate / 50 * 4) / (rate / 50) / 4 = k := by
  have hm : 0 < rate / 50 := Nat.div_pos hr (by decide)
  rw [Nat.div_div_eq_div_mul, Nat.mul_div_cancel _ (by omega)]

lemma isAssignedSlot_mul (k : ℕ) :
    isAssignedSlot (k * (rate / 50 * 4)) pgslot index rate = monitors pgslot index (k % 2048) := by
  rw [isAssignedSlot, slotNumFromChips, slotNum_mul hr]

lemma nextAssignedSlotChip_eq : nextAssignedSlotChip c pgslot index rate =
    (c / (rate / 50 * 4) + (((range 2048).find? fun k => monitors pgslot index ((c / (rate / 50 * 4) + k) % 2048) &&
      decide (c ≤ (c / (rate / 50 * 4) + k) * (rate / 50 * 4))).getD 2048)) * (rate / 50 * 4) := by
  unfold nextAssignedSlotChip
  simp only [slotNum_mul hr, Nat.mod_add_mod, ← Nat.add_mul]
  split <;> rename_i h <;> rw [h] <;> rfl

omit hr in
/-- Of any 2048 slots one is monitored. -/
lemma exists_monitors (pgslot index q : ℕ) : ∃ k < 2048, monitors pgslot index ((q + k) % 2048) = true := by
  have hlt := Int.emod_lt_of_pos ((pgslot : ℤ) - q) (show 0 < 2048 by decide)
  have hnn := Int.emod_nonneg ((pgslot : ℤ) - q) (show (2048 : ℤ) ≠ 0 by decide)
  refine ⟨(((pgslot : ℤ) - q) % 2048).toNat, by omega, ?_⟩
  have hz : ((((q + (((pgslot : ℤ) - q) % 2048).toNat) % 2048 : ℕ) : ℤ) - pgslot) % 2048 = 0 := by omega
  rw [monitors, hz, Int.toNat_zero, Nat.zero_mod]
  rfl

omit hr in
/-- The search: the offset it ends with is monitored and not behind the chip, and those before it are not both. -/
lemma search_spec (pgslot index : ℕ) {q l : ℕ} (hlt : c < (q + 1) * l) : ∃ k, ((range 2048).find? fun k =>
      monitors pgslot index ((q + k) % 2048) && decide (c ≤ (q + k) * l)).getD 2048 = k ∧
    monitors pgslot index ((q + k) % 2048) = true ∧ c ≤ (q + k) * l ∧
    ∀ j < k, c ≤ (q + j) * l → monitors pgslot index ((q + j) % 2048) = false := by
  cases h : (range 2048).find? fun k => monitors pgslot index ((q + k) % 2048) && decide (c ≤ (q + k) * l) with
  | some k =>
    obtain ⟨hk, -, hj⟩ := find?_range_eq_some.1 h
    rw [Bool.and_eq_true, decide_eq_true_iff] at hk
    refine ⟨k, rfl, hk.1, hk.2, fun j hlt hle => ?_⟩
    simpa [hle] using hj j hlt
  | none =>
    have hnone : ∀ k < 2048, c ≤ (q + k) * l → monitors pgslot index ((q + k) % 2048) = false := by
      intro k hk hle
      simpa [hle] using find?_range_eq_none.1 h k hk
    have hle : ∀ k, 0 < k → c ≤ (q + k) * l := fun k hk => hlt.le.trans (Nat.mul_le_mul_right l (by omega))
    refine ⟨2048, rfl, ?_, hle 2048 (by decide), hnone⟩
    -- only the current slot can be monitored, and it has the number of the one that is 2048 slots ahead
    obtain ⟨k, hk, hm⟩ := exists_monitors pgslot index q
    rcases Nat.eq_zero_or_pos k with rfl | hpos
    · rwa [Nat.add_mod_right]
    · rw [hnone k hk (hle k hpos)] at hm
      cases hm

/-- **The next paging slot is the earliest one.** -/
theorem nextAssignedSlotChip_earliest :
    rate / 50 * 4 ∣ nextAssignedSlotChip c pgslot index rate ∧ c ≤ nextAssignedSlotChip c pgslot index rate ∧
    isAssignedSlot (nextAssignedSlotChip c pgslot index rate) pgslot index rate = true ∧
    ∀ s, rate / 50 * 4 ∣ s → c ≤ s → s < nextAssignedSlotChip c pgslot index rate →
      isAssignedSlot s pgslot index rate = false := by
  have hl : 0 < rate / 50 * 4 := Nat.mul_pos (Nat.div_pos hr (by decide)) (by decide)
  have hq := Nat.div_mul_le_self c (rate / 50 * 4)
  have hlt : c < (c / (rate / 50 * 4) + 1) * (rate / 50 * 4) := by
    rw [Nat.add_mul, Nat.one_mul]
    exact Nat.lt_div_mul_add hl
  rw [nextAssignedSlotChip_eq hr]
  obtain ⟨k, hk, hmon, hle, hbe⟩ := search_spec pgslot index hlt
  rw [hk]
  refine ⟨Nat.dvd_mul_left _ _, hle, by rw [isAssignedSlot_mul hr, hmon], ?_⟩
  rintro s ⟨j, rfl⟩ hs hslt
  rw [Nat.mul_comm] at hs hslt ⊢
  obtain ⟨i, rfl⟩ := Nat.exists_eq_add_of_le (Nat.le_of_mul_le_mul_right (hq.trans hs) hl)
  rw [isAssignedSlot_mul hr]
  exact hbe i (by have := Nat.lt_of_mul_lt_mul_right hslt; omega) hs

omit hr in
/-- A mobile that monitors slot 5 of the longest cycle, at the second chip of that slot. -/
theorem nextAssignedSlotChip_cycle : nextAssignedSlotChip (5 * 98304 + 1) 5 7 1228800 = 2053 * 98304 ∧
    isAssignedSlot (nextAssignedSlotChip (5 * 98304 + 1) 5 7 1228800) 5 7 1228800 = true :=
  ⟨by decide +kernel, (nextAssignedSlotChip_earliest (by decide)).2.2.1⟩

end Slots

/-! ### IMSI_S -/

/-- The value of a digit in a group of three: zero counts as ten. -/
def digitValue (d : ℕ) : ℕ := if d = 0 then 10 else d

def encodeThreeDigits (d1 d2 d3 : ℕ) : ℕ := 100 * digitValue d1 + 10 * digitValue d2 + digitValue d3 - 111

def encodeBcdDigit (d : ℕ) : ℕ := if d = 0 then 0b1010 else d

def toDigit (v : ℕ) : Option ℕ := if 1 ≤ v ∧ v ≤ 9 then some v else if v = 10 then some 0 else none

def decodeThreeDigitField (encoded : ℕ) : Option (ℕ × ℕ × ℕ) :=
  if encoded > 999 then none
  else
    let s := encoded + 111
    let d1 := (s - 11) / 100
    let r := s - 100 * d1
    let d2 := (r - 1) / 10
    let d3 := r - 10 * d2
    (toDigit d1).bind fun d1 => (toDigit d2).bind fun d2 => (toDigit d3).map fun d3 => (d1, d2, d3)

/-- The decimal digits among the octets of a text. -/
def digitsOf (text : Bytes) : List ℕ :=
  text.filterMap fun b => if 48 ≤ b.toNat ∧ b.toNat ≤ 57 then some (b.toNat - 48) else none

def textOf (digits : List ℕ) : Bytes := digits.map fun d => UInt8.ofNat (48 + d)

def padded (digits : List ℕ) : List ℕ := replicate (15 - digits.length) 0 ++ digits

/-- IMSI_S1 and IMSI_S2. The last ten of the fifteen digits are always there. -/
def imsiSFromImsi (imsi : Bytes) : Option (ℕ × ℕ) :=
  let digits := digitsOf imsi
  if digits = [] ∨ digits.length > 15 then none
  else
    match (padded digits).drop 5 with
    | [a1, a2, a3, b1, b2, b3, t, c1, c2, c3] =>
      some ((encodeThreeDigits b1 b2 b3 <<< 14) ||| (encodeBcdDigit t <<< 10) ||| encodeThreeDigits c1 c2 c3,
        encodeThreeDigits a1 a2 a3)
    | _ => none

def imsiSToDigitsChecked (imsiMS1 imsiMS2 : ℕ) : Option Bytes :=
  let mid := (imsiMS1 >>> 10) &&& 0xF
  (decodeThreeDigitField imsiMS2).bind fun a =>
    (decodeThreeDigitField ((imsiMS1 >>> 14) &&& 0x3FF)).bind fun b =>
      if mid > 9 ∧ mid ≠ 0b1010 then none
      else
        (decodeThreeDigitField (imsiMS1 &&& 0x3FF)).map fun c =>
          textOf [a.1, a.2.1, a.2.2, b.1, b.2.1, b.2.2, if mid = 0b1010 then 0 else mid, c.1, c.2.1, c.2.2]

section Imsi

lemma digitValue_spec (h : d < 10) : 1 ≤ digitValue d ∧ digitValue d ≤ 10 ∧ toDigit (digitValue d) = some d := by
  revert d
  decide

lemma toDigit_some (h : toDigit v = some d) : d < 10 ∧ digitValue d = v := by
  unfold toDigit at h
  split_ifs at h with h1 h2 <;> cases h
  · exact ⟨by omega, if_neg (by omega)⟩
  · exact ⟨by decide, h2.symm⟩

lemma decode_encode (ha : a < 10) (hb : b < 10) (hc : c < 10) : encodeThreeDigits a b c < 1000 ∧
    decodeThreeDigitField (encodeThreeDigits a b c) = some (a, b, c) := by
  obtain ⟨ha1, ha2, ha⟩ := digitValue_spec ha
  obtain ⟨hb1, hb2, hb⟩ := digitValue_spec hb
  obtain ⟨hc1, hc2, hc⟩ := digitValue_spec hc
  unfold encodeThreeDigits
  generalize digitValue a = x at *
  generalize digitValue b = y at *
  generalize digitValue c = z at *
  have hs : 100 * x + 10 * y + z - 111 + 111 = 100 * x + 10 * y + z := by omega
  have h1 : (100 * x + 10 * y + z - 11) / 100 = x := by omega
  have h2 : (100 * x + 10 * y + z - 100 * x - 1) / 10 = y := by omega
  have h3 : 100 * x + 10 * y + z - 100 * x - 10 * y = z := by omega
  refine ⟨by omega, ?_⟩
  rw [decodeThreeDigitField, if_neg (by omega)]
  simp only [hs, h1, h2, h3, ha, hb, hc, Option.bind_some, Option.map_some]

lemma decode_some (h : decodeThreeDigitField e = some d) :
    encodeThreeDigits d.1 d.2.1 d.2.2 = e ∧ d.1 < 10 ∧ d.2.1 < 10 ∧ d.2.2 < 10 ∧ e < 1000 := by
  unfold decodeThreeDigitField at h
  split_ifs at h with he
  obtain ⟨a, ha, h⟩ := Option.bind_eq_some_iff.1 h
  obtain ⟨b, hb, h⟩ := Option.bind_eq_some_iff.1 h
  obtain ⟨c, hc, rfl⟩ := Option.map_eq_some_iff.1 h
  obtain ⟨ha1, ha⟩ := toDigit_some ha
  obtain ⟨hb1, hb⟩ := toDigit_some hb
  obtain ⟨hc1, hc⟩ := toDigit_some hc
  refine ⟨?_, ha1, hb1, hc1, by omega⟩
  rw [encodeThreeDigits, ha, hb, hc]
  omega
lemma digitsOf_textOf (h : ∀ d ∈ ds, d < 10) : digitsOf (textOf ds) = ds := by
  have hone : ∀ d < 10, (if 48 ≤ (UInt8.ofNat (48 + d)).toNat ∧ (UInt8.ofNat (48 + d)).toNat ≤ 57 then
      some ((UInt8.ofNat (48 + d)).toNat - 48) else none) = some d := by decide
  induction ds with
  | nil => rfl
  | cons d ds ih =>
    obtain ⟨hd, hds⟩ := forall_mem_cons.1 h
    have hcons : digitsOf (textOf (d :: ds)) = d :: digitsOf (textOf ds) := filterMap_cons_some (hone d hd)
    rw [hcons, ih hds]

lemma digitsOf_lt (imsi : Bytes) : ∀ d ∈ digitsOf imsi, d < 10 := by
  intro d hd
  obtain ⟨b, -, hb⟩ := mem_filterMap.1 hd
  split_ifs at hb
  cases hb
  omega

lemma fields_eq (hm : m < 16) (hl : l < 1000) : ((u <<< 14) ||| (m <<< 10) ||| l) = u * 16384 + m * 1024 + l := by
  rw [Nat.or_assoc, ← Nat.shiftLeft_add_eq_or_of_lt (by omega : l < 2 ^ 10), Nat.shiftLeft_eq m,
    ← Nat.shiftLeft_add_eq_or_of_lt (by omega), Nat.shiftLeft_eq]
  omega

lemma fields_read (x : ℕ) : (x >>> 14) &&& 0x3FF = x / 16384 % 1024 ∧ (x >>> 10) &&& 0xF = x / 1024 % 16 ∧
    x &&& 0x3FF = x % 1024 := by
  refine ⟨?_, ?_, Nat.and_two_pow_sub_one_eq_mod x 10⟩
  · rw [Nat.shiftRight_eq_div_pow]
    exact Nat.and_two_pow_sub_one_eq_mod _ 10
  · rw [Nat.shiftRight_eq_div_pow]
    exact Nat.and_two_pow_sub_one_eq_mod _ 4

/-- **IMSI_S is encoded and read back**, and what is read is encoded back just if the digit of the thousands is not the
code zero, which is read like the code ten. -/
theorem imsiS_inverse (imsi : Bytes) :
    (digitsOf imsi ≠ [] → (digitsOf imsi).length ≤ 15 → ∃ s1 s2, imsiSFromImsi imsi = some (s1, s2) ∧
      imsiSToDigitsChecked s1 s2 = some (textOf ((padded (digitsOf imsi)).drop 5))) ∧
    ∀ s1 < 2 ^ 24, ∀ s2 < 2 ^ 10, ∀ d, imsiSToDigitsChecked s1 s2 = some d →
      (imsiSFromImsi d = some (s1, s2) ↔ (s1 >>> 10) &&& 0xF ≠ 0) := by
  constructor
  · intro hne hle
    have hlen : ((padded (digitsOf imsi)).drop 5).length = 10 := by
      simp [padded]
      omega
    have hlt : ∀ d ∈ (padded (digitsOf imsi)).drop 5, d < 10 := by
      intro d hd
      rcases mem_append.1 (mem_of_mem_drop hd) with hd | hd
      · rw [eq_of_mem_replicate hd]
        decide
      · exact digitsOf_lt imsi d hd
    unfold imsiSFromImsi
    dsimp only
    rw [if_neg (by simp [hne]; omega)]
    generalize (padded (digitsOf imsi)).drop 5 = ds at *
    match ds, hlen, hlt with
    | [a1, a2, a3, b1, b2, b3, t, c1, c2, c3], _, hlt =>
      simp only [forall_mem_cons] at hlt
      obtain ⟨h1, h2, h3, h4, h5, h6, ht, h7, h8, h9, -⟩ := hlt
      obtain ⟨-, ha⟩ := decode_encode h1 h2 h3
      obtain ⟨hu, hb⟩ := decode_encode h4 h5 h6
      obtain ⟨hl, hc⟩ := decode_encode h7 h8 h9
      have hm : encodeBcdDigit t ≤ 10 ∧ (if encodeBcdDigit t = 10 then 0 else encodeBcdDigit t) = t := by
        unfold encodeBcdDigit
        split_ifs <;> omega
      refine ⟨_, _, rfl, ?_⟩
      rw [fields_eq (by omega) hl, imsiSToDigitsChecked, (fields_read _).1, (fields_read _).2.1, (fields_read _).2.2]
      generalize encodeThreeDigits b1 b2 b3 = u at *
      generalize encodeThreeDigits c1 c2 c3 = l at *
      generalize encodeBcdDigit t = m at *
      have e1 : (u * 16384 + m * 1024 + l) / 16384 % 1024 = u := by omega
      have e2 : (u * 16384 + m * 1024 + l) / 1024 % 16 = m := by omega
      have e3 : (u * 16384 + m * 1024 + l) % 1024 = l := by omega
      simp only [e1, e2, e3, ha, hb, hc, Option.bind_some, Option.map_some]
      rw [if_neg (by omega), hm.2]
  · intro s1 h1 s2 h2 d h
    rw [imsiSToDigitsChecked, (fields_read _).1, (fields_read _).2.1, (fields_read _).2.2] at h
    rw [(fields_read _).2.1]
    obtain ⟨a, ha, h⟩ := Option.bind_eq_some_iff.1 h
    obtain ⟨b, hb, h⟩ := Option.bind_eq_some_iff.1 h
    by_cases hm : s1 / 1024 % 16 > 9 ∧ s1 / 1024 % 16 ≠ 0b1010
    · rw [if_pos hm] at h
      exact absurd h (by simp)
    rw [if_neg hm] at h
    obtain ⟨c, hc, rfl⟩ := Option.map_eq_some_iff.1 h
    obtain ⟨ea, ha1, ha2, ha3, -⟩ := decode_some ha
    obtain ⟨eb, hb1, hb2, hb3, -⟩ := decode_some hb
    obtain ⟨ec, hc1, hc2, hc3, hl⟩ := decode_some hc
    have hmid : encodeBcdDigit (if s1 / 1024 % 16 = 0b1010 then 0 else s1 / 1024 % 16) =
        if s1 / 1024 % 16 = 0 then 10 else s1 / 1024 % 16 := by
      unfold encodeBcdDigit
      split_ifs <;> omega
    rw [imsiSFromImsi, digitsOf_textOf]
    · change some (_, _) = some (s1, s2) ↔ _
      rw [ea, eb, ec, hmid, fields_eq (by split_ifs <;> omega) hl, Option.some_inj, Prod.mk.injEq]
      split_ifs <;> omega
    · simp only [forall_mem_cons]
      refine ⟨ha1, ha2, ha3, hb1, hb2, hb3, ?_, hc1, hc2, hc3, by simp⟩
      split_ifs <;> omega

theorem imsiS_inverse_zero : imsiSFromImsi (textOf [1, 1, 1, 1, 1, 1, 0, 1, 1, 1]) = some (10240, 0) :=
  ((imsiS_inverse []).2 10240 (by decide) 0 (by decide) _ (by decide)).2 (by decide)

/-- Two identities that are read as the same number. -/
theorem imsiS_ambiguous : imsiSToDigitsChecked 0 0 = some (textOf [1, 1, 1, 1, 1, 1, 0, 1, 1, 1]) ∧
    imsiSToDigitsChecked 10240 0 = imsiSToDigitsChecked 0 0 ∧
    imsiSFromImsi (textOf [1, 1, 1, 1, 1, 1, 0, 1, 1, 1]) ≠ some (0, 0) := by decide

end Imsi

end OneXBts.Common.Paging
