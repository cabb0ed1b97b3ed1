import Mathlib.Data.Nat.Digits.Lemmas
import OneXBts.Lib.BitField

/-!
Numbers of two octets, of four and of any size, most significant octet first.

Whether a number is taken apart by shifts and masks and put together by shifts and ors, or read and
written as a run of octets, the octets are the digits of the number to base 256 (`toNat_be16`,
`toNat_be32`); both directions are read off that.
-/

namespace OneXBts.Lib

open Nat

def be16 (a b : UInt8) : UInt16 := (a.toUInt16 <<< 8) ||| b.toUInt16

def be32 (a b c d : UInt8) : UInt32 :=
  (a.toUInt32 <<< 24) ||| (b.toUInt32 <<< 16) ||| (c.toUInt32 <<< 8) ||| d.toUInt32

def octets16 (v : UInt16) : Bytes := [(v >>> 8).toUInt8, v.toUInt8]

def octets32 (v : UInt32) : Bytes := [(v >>> 24).toUInt8, (v >>> 16).toUInt8, (v >>> 8).toUInt8, v.toUInt8]

@[simp] lemma length_octets16 (v : UInt16) : (octets16 v).length = 2 := rfl
@[simp] lemma length_octets32 (v : UInt32) : (octets32 v).length = 4 := rfl

/-! ### Two octets -/

lemma toNat_be16 (a b : UInt8) : (be16 a b).toNat = 256 * a.toNat + b.toNat := by
  have ha := a.toNat_lt
  have hb := b.toNat_lt
  unfold be16
  rw [UInt16.toNat_or, UInt16.toNat_shiftLeft, UInt8.toNat_toUInt16, UInt8.toNat_toUInt16]
  rw [show (8 : UInt16).toNat % 16 = 8 by decide, mod_eq_of_lt (by omega), ← shiftLeft_add_eq_or_of_lt (by omega)]
  omega

lemma toNat_high16 (v : UInt16) : (v >>> 8).toUInt8.toNat = v.toNat / 256 := by
  have hv := v.toNat_lt
  rw [UInt16.toNat_toUInt8, UInt16.toNat_shiftRight, show (8 : UInt16).toNat % 16 = 8 by decide]
  omega

lemma toNat_low16 (v : UInt16) : v.toUInt8.toNat = v.toNat % 256 := UInt16.toNat_toUInt8 v

lemma toUInt8_mask (v : UInt16) : (v &&& 0xFF).toUInt8 = v.toUInt8 := by
  apply UInt8.toNat_inj.mp
  rw [toNat_low16, toNat_low16, UInt16.toNat_and]
  rw [show (0xFF : UInt16).toNat = 2 ^ 8 - 1 by decide, and_two_pow_sub_one_eq_mod]
  omega

@[simp] lemma be16_octets (v : UInt16) : be16 (v >>> 8).toUInt8 v.toUInt8 = v := by
  apply UInt16.toNat_inj.mp
  rw [toNat_be16, toNat_high16, toNat_low16]
  omega

@[simp] lemma octets16_be16 (a b : UInt8) : octets16 (be16 a b) = [a, b] := by
  have hb := b.toNat_lt
  have h1 : (be16 a b >>> 8).toUInt8 = a := by
    apply UInt8.toNat_inj.mp
    rw [toNat_high16, toNat_be16]
    omega
  have h2 : (be16 a b).toUInt8 = b := by
    apply UInt8.toNat_inj.mp
    rw [toNat_low16, toNat_be16]
    omega
  rw [octets16, h1, h2]

/-! ### Four octets -/

lemma toNat_be32 (a b c d : UInt8) :
    (be32 a b c d).toNat = 2 ^ 24 * a.toNat + 2 ^ 16 * b.toNat + 2 ^ 8 * c.toNat + d.toNat := by
  have hb := b.toNat_lt
  have hc := c.toNat_lt
  have hd := d.toNat_lt
  have shift : ∀ (x : UInt8) (k : UInt32), k.toNat ≤ 24 → (x.toUInt32 <<< k).toNat = x.toNat * 2 ^ k.toNat := by
    intro x k hk
    have hx := x.toNat_lt
    rw [UInt32.toNat_shiftLeft, UInt8.toNat_toUInt32, mod_eq_of_lt (show k.toNat < 32 by omega),
      shiftLeft_eq, mod_eq_of_lt]
    calc x.toNat * 2 ^ k.toNat ≤ x.toNat * 2 ^ 24 :=
          Nat.mul_le_mul_left _ (Nat.pow_le_pow_right (by omega) hk)
      _ < 2 ^ 32 := by omega
  have join : ∀ (x y k : ℕ), y < 2 ^ k → x * 2 ^ k ||| y = x * 2 ^ k + y := by
    intro x y k hy
    rw [← shiftLeft_eq, shiftLeft_add_eq_or_of_lt hy]
  unfold be32
  rw [UInt32.toNat_or, UInt32.toNat_or, UInt32.toNat_or, shift a 24 (by decide), shift b 16 (by decide),
    shift c 8 (by decide), UInt8.toNat_toUInt32]
  rw [show (24 : UInt32).toNat = 24 by decide, show (16 : UInt32).toNat = 16 by decide,
    show (8 : UInt32).toNat = 8 by decide]
  rw [join a.toNat (b.toNat * 2 ^ 16) 24 (by omega),
    show a.toNat * 2 ^ 24 + b.toNat * 2 ^ 16 = (a.toNat * 2 ^ 8 + b.toNat) * 2 ^ 16 by ring,
    join _ (c.toNat * 2 ^ 8) 16 (by omega),
    show (a.toNat * 2 ^ 8 + b.toNat) * 2 ^ 16 + c.toNat * 2 ^ 8
      = ((a.toNat * 2 ^ 8 + b.toNat) * 2 ^ 8 + c.toNat) * 2 ^ 8 by ring,
    join _ d.toNat 8 (by omega)]
  ring

lemma toNat_octet32 (v k : UInt32) (hk : k.toNat < 32) :
    (v >>> k).toUInt8.toNat = v.toNat / 2 ^ k.toNat % 256 := by
  rw [UInt32.toNat_toUInt8, UInt32.toNat_shiftRight, mod_eq_of_lt hk, shiftRight_eq_div_pow]

lemma octets32_eq (v : UInt32) : ∃ a b c d : UInt8, octets32 v = [a, b, c, d] ∧
    a.toNat = v.toNat / 2 ^ 24 % 256 ∧ b.toNat = v.toNat / 2 ^ 16 % 256 ∧
    c.toNat = v.toNat / 2 ^ 8 % 256 ∧ d.toNat = v.toNat % 256 :=
  ⟨_, _, _, _, rfl, toNat_octet32 v 24 (by decide), toNat_octet32 v 16 (by decide),
    toNat_octet32 v 8 (by decide), UInt32.toNat_toUInt8 v⟩

@[simp] lemma be32_octets (v : UInt32) :
    be32 (v >>> 24).toUInt8 (v >>> 16).toUInt8 (v >>> 8).toUInt8 v.toUInt8 = v := by
  have hv := v.toNat_lt
  obtain ⟨a, b, c, d, hoct, ha, hb, hc, hd⟩ := octets32_eq v
  obtain ⟨rfl, rfl, rfl, rfl⟩ := hoct
  apply UInt32.toNat_inj.mp
  rw [toNat_be32, hc, hd]
  omega

@[simp] lemma octets32_be32 (a b c d : UInt8) : octets32 (be32 a b c d) = [a, b, c, d] := by
  have ha := a.toNat_lt
  have hb := b.toNat_lt
  have hc := c.toNat_lt
  have hd := d.toNat_lt
  obtain ⟨a', b', c', d', hoct, ha', hb', hc', hd'⟩ := octets32_eq (be32 a b c d)
  rw [toNat_be32] at ha' hb' hc' hd'
  rw [hoct, UInt8.toNat_inj.mp (show a'.toNat = a.toNat by omega),
    UInt8.toNat_inj.mp (show b'.toNat = b.toNat by omega),
    UInt8.toNat_inj.mp (show c'.toNat = c.toNat by omega),
    UInt8.toNat_inj.mp (show d'.toNat = d.toNat by omega)]

/-! ### Octets determine the number -/

lemma octets16_append_inj :
    octets16 a ++ s = octets16 b ++ t ↔ a = b ∧ s = t := by grind [octets16, be16_octets]

lemma octets32_append_inj :
    octets32 a ++ s = octets32 b ++ t ↔ a = b ∧ s = t := by grind [octets32, be32_octets]

lemma octets16_inj : octets16 a = octets16 b ↔ a = b := by
  simpa using octets16_append_inj (a := a) (b := b) (s := []) (t := [])

lemma octets32_inj : octets32 a = octets32 b ↔ a = b := by
  simpa using octets32_append_inj (a := a) (b := b) (s := []) (t := [])

/-! ### Numbers inside an array of octets -/

section Arrays

variable {ε : Type}

def readU16 (data : Bytes) (off : ℕ) : Outcome ε UInt16 := do
  let a ← index data off
  let b ← index data (off + 1)
  return be16 a b

def readU32 (data : Bytes) (off : ℕ) : Outcome ε UInt32 := do
  let a ← index data off
  let b ← index data (off + 1)
  let c ← index data (off + 2)
  let d ← index data (off + 3)
  return be32 a b c d

/-- Write a run of octets at `off`: a `copy_from_slice` into a range of that length. -/
def writeAt (data : Bytes) (off : ℕ) (v : Bytes) : Outcome ε Bytes :=
  if off + v.length ≤ data.length then .ok (data.take off ++ (v ++ data.drop (off + v.length)))
  else .panic

variable {data pre post : Bytes} {off : ℕ}

lemma index_append (k : ℕ) : (index (pre ++ post) (pre.length + k) : Outcome ε UInt8) = index post k := by
  unfold index
  rw [List.getElem?_append_right (by omega), Nat.add_sub_cancel_left]

lemma index_at (h : data = pre ++ b :: post) (hoff : off = pre.length) :
    (index data off : Outcome ε UInt8) = .ok b := by
  subst h hoff
  exact index_append 0

lemma readU16_at (h : data = pre ++ (octets16 v ++ post)) (hoff : off = pre.length) :
    (readU16 data off : Outcome ε UInt16) = .ok v := by
  subst h hoff
  simp [index, octets16, readU16]

lemma readU32_at (h : data = pre ++ (octets32 v ++ post)) (hoff : off = pre.length) :
    (readU32 data off : Outcome ε UInt32) = .ok v := by
  subst h hoff
  simp [index, octets32, readU32]

lemma writeAt_at (h : data = pre ++ (old ++ post)) (hoff : off = pre.length)
    (hlen : v.length = old.length) (hnew : pre ++ (v ++ post) = new) :
    (writeAt data off v : Outcome ε Bytes) = .ok new := by grind [writeAt]

lemma setAt_at (h : data = pre ++ a :: post) (hoff : off = pre.length)
    (hnew : pre ++ b :: post = new) : (Outcome.setAt data off b : Outcome ε Bytes) = .ok new := by
  subst h hoff hnew
  grind [Outcome.setAt]

end Arrays

/-! ### Taking a number off the front -/

lemma exists_octet (h : n + 1 ≤ l.length) : ∃ v rest, l = v :: rest ∧ n ≤ rest.length := by
  match l, h with
  | a :: rest, h => exact ⟨a, rest, rfl, by simpa using h⟩

lemma exists_octets16 (h : n + 2 ≤ l.length) : ∃ v rest, l = octets16 v ++ rest ∧ n ≤ rest.length := by
  match l, h with
  | a :: b :: rest, h => exact ⟨be16 a b, rest, by rw [octets16_be16]; rfl, by simpa using h⟩

lemma exists_octets32 (h : n + 4 ≤ l.length) : ∃ v rest, l = octets32 v ++ rest ∧ n ≤ rest.length := by
  match l, h with
  | a :: b :: c :: d :: rest, h => exact ⟨be32 a b c d, rest, by rw [octets32_be32]; rfl, by simpa using h⟩

/-! ### Numbers of any size -/

def natOfOctets (bytes : Bytes) : ℕ := bytes.foldl (fun v b => 256 * v + b.toNat) 0

/-- The octets of a number, as few as it takes; zero takes one. -/
def octetsOfNat (v : ℕ) : Bytes :=
  if v = 0 then [0] else ((Nat.digits 256 v).map UInt8.ofNat).reverse

lemma natOfOctets_replicate_append (n : ℕ) (bytes : Bytes) :
    natOfOctets (List.replicate n 0 ++ bytes) = natOfOctets bytes := by induction n <;> grind [natOfOctets]

lemma natOfOctets_reverse_map (digits : List ℕ) (h : ∀ d ∈ digits, d < 256) :
    natOfOctets (digits.map UInt8.ofNat).reverse = ofDigits 256 digits := by
  induction digits with
  | nil => rfl
  | cons => grind [ofDigits_cons, UInt8.toNat_ofNat', List.mem_cons_self, natOfOctets]

@[simp] lemma natOfOctets_octetsOfNat (v : ℕ) : natOfOctets (octetsOfNat v) = v := by
  unfold octetsOfNat
  split_ifs with hv
  · rw [hv]
    rfl
  · rw [natOfOctets_reverse_map _ fun d hd => digits_lt_base (by decide) hd, ofDigits_digits]

lemma length_octetsOfNat_le (hn : 0 < n) (hv : v < 256 ^ n) :
    (octetsOfNat v).length ≤ n := by
  unfold octetsOfNat
  split_ifs with h0
  · exact hn
  · rw [List.length_reverse, List.length_map]
    exact (digits_length_le_iff (by decide) v).mpr hv

lemma lt_length_octetsOfNat (hv : 256 ^ n ≤ v) : n < (octetsOfNat v).length := by
  grind [octetsOfNat, digits_length_le_iff]

end OneXBts.Lib
