import OneXBts.Lib.BigEndian

/-!
A-key generation over the air by Diffie–Hellman (`key_exchange.rs`).

For A_KEY_P_REV 2 the modulus and the generator go out with the offer; for 3 both sides know them. What is sent is padded to
the width of the revision, so that the two sides cut the A-key out of the same octets (`key_exchange_agrees`). The secrets
and random parameters are arguments; `f0`, which only revision 3 uses, is a variable.
-/

namespace OneXBts.Hlr

open Lib

/-- 2G A-key over a modulus and a generator of the base station's choice. -/
def A_KEY_P_REV_2G : UInt8 := 0b00000010

/-- 2G A-key and 3G root key over the fixed group. -/
def A_KEY_P_REV_2G_3G : UInt8 := 0b00000011

def P_2G_OCTETS : ℕ := 64
def P_FIXED_GROUP_OCTETS : ℕ := 128
def G_FIXED_GROUP : ℕ := 2
def A_KEY_OCTETS : ℕ := 8
def RAND_SEED_OCTETS : ℕ := 16

def F0_TYPE_IDENTIFIER : UInt8 := 0x41
def A_KEY_FAMILY_KEY : Bytes := [0x41, 0x48, 0x41, 0x47]

/-- The words of the fixed prime, most significant first. -/
def P_FIXED_GROUP : List UInt32 := [
  0xFFFFFFFF, 0xFFFFFFFF, 0xC90FDAA2, 0x2168C234, 0xC4C6628B, 0x80DC1CD1, 0x29024E08, 0x8A67CC74,
  0x020BBEA6, 0x3B139B22, 0x514A0879, 0x8E3404DD, 0xEF9519B3, 0xCD3A431B, 0x302B0A6D, 0xF25F1437,
  0x4FE1356D, 0x6D51C245, 0xE485B576, 0x625E7EC6, 0xF44C42E9, 0xA637ED6B, 0x0BFF5CB6, 0xF406B7ED,
  0xEE386BFB, 0x5A899FA5, 0xAE9F2411, 0x7C4B1FE6, 0x49286651, 0xECE65381, 0xFFFFFFFF, 0xFFFFFFFF]

def fixedGroupPrime : ℕ := P_FIXED_GROUP.foldl (fun v word => 2 ^ 32 * v + word.toNat) 0

/-- The octets of a number with zeros in front up to the width; a number that is too large keeps all
its octets. -/
def fixedWidth (value octets : ℕ) : Bytes :=
  List.replicate (octets - (octetsOfNat value).length) 0 ++ octetsOfNat value

/-- The base station side of one key exchange. -/
structure KeyExchange where
  aKeyPRev : UInt8
  p : ℕ
  g : ℕ
  y : ℕ
deriving Repr, DecidableEq

/-- What is sent to the mobile in the MS Key Request and the Key Generation Request. -/
structure KeyExchangeOffer where
  aKeyPRev : UInt8
  /-- PARAM_P and PARAM_G, for `A_KEY_P_REV_2G` only. -/
  params : Option (Bytes × Bytes)
  bsResult : Bytes
deriving Repr, DecidableEq

namespace KeyExchange

/-- The exchange with the secret `y`; `p` and `g` are the random parameters that are drawn for
`A_KEY_P_REV_2G`. -/
def new (aKeyPRev : UInt8) (p g y : ℕ) : Except String KeyExchange :=
  if aKeyPRev = A_KEY_P_REV_2G then .ok ⟨aKeyPRev, p, g, y⟩
  else if aKeyPRev = A_KEY_P_REV_2G_3G then .ok ⟨aKeyPRev, fixedGroupPrime, G_FIXED_GROUP, y⟩
  else .error s!"A_KEY_P_REV {aKeyPRev} is not supported"

def resultOctets (e : KeyExchange) : ℕ :=
  if e.aKeyPRev = A_KEY_P_REV_2G then P_2G_OCTETS else P_FIXED_GROUP_OCTETS

def offer (e : KeyExchange) : KeyExchangeOffer where
  aKeyPRev := e.aKeyPRev
  params := if e.aKeyPRev = A_KEY_P_REV_2G then some (fixedWidth e.p P_2G_OCTETS, octetsOfNat e.g) else none
  bsResult := fixedWidth (e.g ^ e.y % e.p) e.resultOctets

end KeyExchange

section Derivation

variable (f0 : Bytes → UInt8 → Bytes → UInt64 → Bytes)

/-- How both sides cut the A-key out of the octets `k` of the common secret, which are never fewer
than the slices take. -/
def aKeyOf (aKeyPRev : UInt8) (k : Bytes) : Bytes :=
  if aKeyPRev = A_KEY_P_REV_2G then k.drop (k.length - A_KEY_OCTETS)
  else f0 (k.drop (k.length - RAND_SEED_OCTETS)) F0_TYPE_IDENTIFIER A_KEY_FAMILY_KEY 0

def KeyExchange.aKey (e : KeyExchange) (msResult : Bytes) : Except String Bytes :=
  let v := natOfOctets msResult
  if v ≤ 1 ∨ v ≥ e.p - 1 then .error "MS_RESULT is outside 1 < MS_RESULT < P-1"
  else .ok (aKeyOf f0 e.aKeyPRev (fixedWidth (v ^ e.y % e.p) e.resultOctets))

def mobileStationGroup (offer : KeyExchangeOffer) : Except String (ℕ × ℕ × ℕ) :=
  match offer.params with
  | some (p, g) =>
    if offer.aKeyPRev = A_KEY_P_REV_2G then .ok (natOfOctets p, natOfOctets g, P_2G_OCTETS)
    else .error s!"unsupported key exchange A_KEY_P_REV {offer.aKeyPRev}"
  | none =>
    if offer.aKeyPRev = A_KEY_P_REV_2G_3G then .ok (fixedGroupPrime, G_FIXED_GROUP, P_FIXED_GROUP_OCTETS)
    else .error s!"unsupported key exchange A_KEY_P_REV {offer.aKeyPRev}"

/-- The mobile station side with the secret `x`: the A-key and the MS_RESULT to send. -/
def mobileStationKeyExchange (offer : KeyExchangeOffer) (x : ℕ) : Except String (Bytes × Bytes) := do
  let (p, g, octets) ← mobileStationGroup offer
  let msResult := fixedWidth (g ^ x % p) octets
  let k := fixedWidth (natOfOctets offer.bsResult ^ x % p) octets
  return (aKeyOf f0 offer.aKeyPRev k, msResult)

end Derivation

/-! ### Octets of a fixed width -/

@[simp] lemma natOfOctets_fixedWidth (value octets : ℕ) :
    natOfOctets (fixedWidth value octets) = value := by
  rw [fixedWidth, natOfOctets_replicate_append, natOfOctets_octetsOfNat]

lemma length_fixedWidth (hpos : 0 < octets) (hv : value < 256 ^ octets) :
    (fixedWidth value octets).length = octets := by
  have hle := length_octetsOfNat_le hpos hv
  rw [fixedWidth, List.length_append, List.length_replicate]
  omega

lemma length_fixedWidth_mod (hpos : 0 < octets) (hp : 0 < p)
    (hw : p < 256 ^ octets) (v : ℕ) : (fixedWidth (v % p) octets).length = octets :=
  length_fixedWidth hpos ((Nat.mod_lt v hp).trans hw)

/-! ### The exchange -/

namespace KeyExchange

/-- The modulus is positive and fits the width of the revision, and for the fixed group it is the
fixed prime. This is what `new` makes. -/
structure Valid (e : KeyExchange) : Prop where
  pos : 0 < e.p
  width : e.p < 256 ^ e.resultOctets
  group : e.aKeyPRev = A_KEY_P_REV_2G ∨
    (e.aKeyPRev = A_KEY_P_REV_2G_3G ∧ e.p = fixedGroupPrime ∧ e.g = G_FIXED_GROUP)

lemma resultOctets_pos (e : KeyExchange) : 0 < e.resultOctets := by
  unfold resultOctets
  split_ifs <;> decide

lemma valid_new (hrev : rev = A_KEY_P_REV_2G ∨ rev = A_KEY_P_REV_2G_3G) {p : ℕ}
    (hpos : 0 < p) (hw : p < 2 ^ 512) (g y : ℕ) : ∃ e, new rev p g y = .ok e ∧ e.Valid := by
  obtain rfl | rfl := hrev
  · have hpow : 2 ^ 512 = 256 ^ P_2G_OCTETS := by decide +kernel
    exact ⟨⟨A_KEY_P_REV_2G, p, g, y⟩, rfl, hpos, lt_of_lt_of_eq hw hpow, .inl rfl⟩
  have hp : 0 < fixedGroupPrime ∧ fixedGroupPrime < 256 ^ P_FIXED_GROUP_OCTETS := by decide +kernel
  exact ⟨⟨A_KEY_P_REV_2G_3G, fixedGroupPrime, G_FIXED_GROUP, y⟩, rfl, hp.1, hp.2, .inr ⟨rfl, rfl, rfl⟩⟩

variable {e : KeyExchange}

lemma Valid.mobileStationGroup_offer (h : e.Valid) :
    mobileStationGroup e.offer = .ok (e.p, e.g, e.resultOctets) := by
  obtain hrev | ⟨hrev, hp, hg⟩ := h.group
  · simp [mobileStationGroup, offer, resultOctets, hrev]
  · simp [mobileStationGroup, offer, resultOctets, hrev, hp, hg, A_KEY_P_REV_2G, A_KEY_P_REV_2G_3G]

lemma Valid.mobileStationKeyExchange_offer (f0 : Bytes → UInt8 → Bytes → UInt64 → Bytes)
    (h : e.Valid) (x : ℕ) : mobileStationKeyExchange f0 e.offer x =
      .ok (aKeyOf f0 e.aKeyPRev (fixedWidth ((e.g ^ e.y % e.p) ^ x % e.p) e.resultOctets),
        fixedWidth (e.g ^ x % e.p) e.resultOctets) := by
  rw [mobileStationKeyExchange, h.mobileStationGroup_offer]
  have hbs : natOfOctets e.offer.bsResult = e.g ^ e.y % e.p := natOfOctets_fixedWidth _ _
  simp only [hbs]
  rfl

lemma secret_comm (e : KeyExchange) (x : ℕ) :
    (e.g ^ x % e.p) ^ e.y % e.p = (e.g ^ e.y % e.p) ^ x % e.p := by
  rw [← Nat.pow_mod, ← Nat.pow_mod, ← pow_mul, ← pow_mul, Nat.mul_comm]

end KeyExchange

/-- Both sides of the exchange derive the same A-key. For either revision, any modulus that fits the
revision's width, any generator and any two secrets, the mobile answers the offer, and the base
station rejects the answer exactly when it is trivial and otherwise derives the mobile's key. The
modulus and the two results always have the width of the revision; a generator of 160 bits takes
twenty octets. -/
theorem key_exchange_agrees (f0 : Bytes → UInt8 → Bytes → UInt64 → Bytes) {rev : UInt8}
    (hrev : rev = A_KEY_P_REV_2G ∨ rev = A_KEY_P_REV_2G_3G) {p : ℕ} (hpos : 0 < p)
    (hwidth : p < 2 ^ 512) (g y x : ℕ) :
    ∃ e k msResult, KeyExchange.new rev p g y = .ok e ∧ mobileStationKeyExchange f0 e.offer x = .ok (k, msResult) ∧
      ((∃ message, e.aKey f0 msResult = .error message) ↔ e.g ^ x % e.p ≤ 1 ∨ e.p - 1 ≤ e.g ^ x % e.p) ∧
      (e.aKey f0 msResult = .ok k ↔ ¬(e.g ^ x % e.p ≤ 1 ∨ e.p - 1 ≤ e.g ^ x % e.p)) ∧
      e.offer.bsResult.length = e.resultOctets ∧ msResult.length = e.resultOctets ∧
      ∀ paramP paramG, e.offer.params = some (paramP, paramG) → paramP.length = e.resultOctets ∧
        (2 ^ 159 ≤ e.g → e.g < 2 ^ 160 → paramG.length = 20) := by
  obtain ⟨e, hnew, hv⟩ := KeyExchange.valid_new hrev hpos hwidth g y
  have ho := e.resultOctets_pos
  refine ⟨e, _, _, hnew, hv.mobileStationKeyExchange_offer f0 x, ?_, ?_, length_fixedWidth_mod ho hv.pos hv.width _,
    length_fixedWidth_mod ho hv.pos hv.width _, ?_⟩
  · rw [KeyExchange.aKey, natOfOctets_fixedWidth]
    split_ifs with ht
    · exact iff_of_true ⟨_, rfl⟩ ht
    · exact iff_of_false (by simp) ht
  · rw [KeyExchange.aKey, natOfOctets_fixedWidth]
    split_ifs with ht
    · exact iff_of_false (by simp) (not_not_intro ht)
    · rw [e.secret_comm]
      exact iff_of_true rfl ht
  · intro paramP paramG hp
    unfold KeyExchange.offer at hp
    split_ifs at hp with h2g
    · obtain ⟨rfl, rfl⟩ := Prod.mk.inj (Option.some.inj hp)
      have hres : e.resultOctets = P_2G_OCTETS := if_pos h2g
      refine ⟨?_, fun hlow hh => ?_⟩
      · rw [hres]
        exact length_fixedWidth (by decide) (hres ▸ hv.width)
      have hle : (octetsOfNat e.g).length ≤ 20 :=
        length_octetsOfNat_le (by decide) (lt_of_lt_of_eq hh (by decide +kernel))
      have hlt : 19 < (octetsOfNat e.g).length := lt_length_octetsOfNat (le_trans (by decide +kernel) hlow)
      omega

/-- A small exchange: secrets 5 and 3, generator 2, and a modulus of the full width. -/
theorem key_exchange_agrees_small :
    ∃ e k msResult, KeyExchange.new A_KEY_P_REV_2G (2 ^ 511 + 1) 2 5 = .ok e ∧
      mobileStationKeyExchange (fun seed _ _ _ => seed) e.offer 3 = .ok (k, msResult) ∧
      e.aKey (fun seed _ _ _ => seed) msResult = .ok k := by
  obtain ⟨e, k, msResult, hnew, hm, -, hkey, -⟩ :=
    key_exchange_agrees (fun seed _ _ _ => seed) (.inl rfl) (p := 2 ^ 511 + 1) (by decide +kernel)
      (by decide +kernel) 2 5 3
  refine ⟨e, k, msResult, hnew, hm, hkey.mpr ?_⟩
  cases hnew
  decide +kernel

end OneXBts.Hlr
