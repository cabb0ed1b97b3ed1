import OneXBts.Lib.BigEndian
import OneXBts.Packet.PppFraming

/-!
Framing of PPP packets (`ppp/framing.rs`), and that the deframer takes the frames apart again.

The check sequence runs the register into its residue whatever the content is (`fcs16_withFcs`); an escaped content holds no
flag and is unescaped to itself (`unescape_escapeAccm`); and the fields that were left out are told from those that were not
by the parity of their octets (`parseContent`), with the exception of the reserved protocol number `0x00FF`.
-/

namespace OneXBts.Packet.Ppp

open Lib List

/-- Protocol number of LCP (`lcp::LCP_PROTOCOL`). -/
def lcpProtocol : UInt16 := 0xC021

/-! ### Framing -/

/-- A byte that has to be escaped: flag and escape always, a control byte when its bit in the ACCM is
set. -/
def needsEscapeAccm (b : UInt8) (accm : UInt32) : Bool :=
  if b = flag ∨ b = escape then true
  else if b < 0x20 then (accm >>> b.toUInt32) &&& 1 ≠ 0
  else false

structure FrameOptions where
  txAccm : UInt32 := 0xFFFFFFFF
  acfc : Bool := false
  pfc : Bool := false
  deriving DecidableEq, Repr

/-- Address and control, omitted under ACFC unless the packet is LCP. -/
def addressControl (packet : PppPacket) (opts : FrameOptions) : Bytes :=
  if !opts.acfc || packet.protocol == lcpProtocol then [address, control] else []

/-- The protocol number: one octet under PFC for an odd number below 256 that is not LCP's. -/
def protocolField (packet : PppPacket) (opts : FrameOptions) : Bytes :=
  if opts.pfc && packet.protocol != lcpProtocol && packet.protocol >>> 8 == 0
      && packet.protocol &&& 0x01 != 0 then [packet.protocol.toUInt8]
  else [(packet.protocol >>> 8).toUInt8, (packet.protocol &&& 0xFF).toUInt8]

def withFcs (content : Bytes) : Bytes :=
  let fcs := fcs16 content ^^^ fcs16Init
  content ++ [(fcs &&& 0xFF).toUInt8, (fcs >>> 8).toUInt8]

def frameContent (packet : PppPacket) (opts : FrameOptions) : Bytes :=
  withFcs (addressControl packet opts ++ protocolField packet opts ++ packet.payload)

def escapeAccm (accm : UInt32) (content : Bytes) : Bytes :=
  content.flatMap fun b => if needsEscapeAccm b accm then [escape, b ^^^ 0x20] else [b]

/-- What stands between the two flags of a frame. LCP always goes out under the default ACCM. -/
def frameBody (packet : PppPacket) (opts : FrameOptions) : Bytes :=
  escapeAccm (if packet.protocol == lcpProtocol then 0xFFFFFFFF else opts.txAccm) (frameContent packet opts)

def frameWithOptions (packet : PppPacket) (opts : FrameOptions) : Bytes := flag :: frameBody packet opts ++ [flag]

def frame (packet : PppPacket) : Bytes := frameWithOptions packet {}

/-! ### The residue of the check sequence -/

section Residue

lemma getElem_mask (i : ℕ) (hi : i < 16) : (255#16)[i] = decide (i < 8) := by revert hi; revert i; decide

lemma getElem_ones (i : ℕ) (hi : i < 16) : (65535#16)[i] = true := by revert hi; revert i; decide

lemma toUInt16_toUInt8 (x : UInt16) : x.toUInt8.toUInt16 = x &&& 0xFF := by
  apply UInt16.toNat_inj.mp
  exact (Nat.and_two_pow_sub_one_eq_mod _ 8).symm

variable (fcs t : UInt16)

lemma index_low : (fcs ^^^ ((fcs ^^^ fcs16Init) &&& 0xFF).toUInt8.toUInt16) &&& 0xFF = 0xFF := by
  rw [toUInt16_toUInt8, fcs16Init]
  apply UInt16.toBitVec_inj.mp
  ext i hi
  by_cases h : i < 8 <;> simp [h, getElem_mask, getElem_ones]

lemma index_high :
    ((fcs >>> 8) ^^^ t ^^^ ((fcs ^^^ fcs16Init) >>> 8).toUInt8.toUInt16) &&& 0xFF = (t ^^^ 0xFF) &&& 0xFF := by
  rw [toUInt16_toUInt8, fcs16Init]
  apply UInt16.toBitVec_inj.mp
  ext i hi
  by_cases h : i < 8
  · simp [h, getElem_mask, getElem_ones, show 8 + i < 16 ↔ i < 8 by omega]
    cases fcs.toBitVec[8 + i] <;> simp
  · simp [h, getElem_mask]

lemma shift_twice : ((fcs >>> 8) ^^^ t) >>> 8 = t >>> 8 := by
  apply UInt16.toBitVec_inj.mp
  ext i hi
  simp [BitVec.getLsbD_of_ge _ (8 + (8 + i)) (by omega : 16 ≤ 8 + (8 + i))]

end Residue

/-- **The residue.** A content followed by its complemented check sequence runs the register into
`fcs16Good`, whatever the content is. -/
theorem fcs16_withFcs (content : Bytes) : fcs16 (withFcs content) = fcs16Good := by
  have h1 : fcs16Table (0xFF : UInt16).toNat = 0x0F78 := by decide +kernel
  have h2 : fcs16Table (((0x0F78 : UInt16) ^^^ 0xFF) &&& 0xFF).toNat = 0xF0B7 := by decide +kernel
  unfold withFcs
  rw [fcs16, foldl_append]
  change List.foldl _ (fcs16 content) _ = _
  simp only [foldl_cons]
  rw [index_low, index_high, shift_twice]
  decide

/-! ### Escaping -/

lemma xor_mask_twice (b : UInt8) : b ^^^ 0x20 ^^^ 0x20 = b := by
  rw [UInt8.xor_assoc, UInt8.xor_self, UInt8.xor_zero]

lemma xor_mask_ne (h : needsEscapeAccm b accm = true) :
    b ^^^ 0x20 ≠ flag := by
  unfold needsEscapeAccm at h
  split_ifs at h with hb hlt
  · rcases hb with rfl | rfl <;> decide
  intro hf
  have hb' : b = flag ^^^ 0x20 := by rw [← hf, xor_mask_twice]
  subst hb'
  exact absurd hlt (by decide)

lemma needsEscapeAccm_flag (accm : UInt32) : needsEscapeAccm flag accm = true := by simp [needsEscapeAccm]

lemma ne_escape (h : ¬ needsEscapeAccm b accm = true) : b ≠ escape := by
  rintro rfl
  exact h (by simp [needsEscapeAccm])

lemma flag_not_mem_escapeAccm (accm : UInt32) (content : Bytes) : flag ∉ escapeAccm accm content := by
  unfold escapeAccm
  rw [mem_flatMap]
  rintro ⟨b, -, hb⟩
  split_ifs at hb with h
  · rcases mem_pair.1 hb with hb | hb
    · exact absurd hb (by decide)
    · exact xor_mask_ne h hb.symm
  · obtain rfl := mem_singleton.1 hb
    exact h (needsEscapeAccm_flag accm)

lemma unescape_cons (hb : b ≠ escape) (rest : Bytes) :
    unescape (b :: rest) = (unescape rest).map (b :: ·) := by
  cases rest with
  | nil | cons => simp [unescape, hb]

lemma unescape_escapeAccm (accm : UInt32) (content : Bytes) :
    unescape (escapeAccm accm content) = some content := by
  induction content with
  | nil => rfl
  | cons _ content ih =>
    unfold escapeAccm at ih ⊢
    grind [unescape, xor_mask_twice, unescape_cons, ne_escape]

lemma escapeAccm_ne_nil (accm : UInt32) (h : content ≠ []) :
    escapeAccm accm content ≠ [] := by
  cases content with
  | nil => exact absurd rfl h
  | cons =>
    unfold escapeAccm
    rw [flatMap_cons]
    split_ifs <;> simp

/-! ### The fields of a frame -/

/-- The protocol numbers of RFC 1661: even high octet, odd low octet. -/
def PppPacket.ValidProtocol (packet : PppPacket) : Prop :=
  packet.protocol.toNat / 256 % 2 = 0 ∧ packet.protocol.toNat % 2 = 1

instance (packet : PppPacket) : Decidable packet.ValidProtocol := inferInstanceAs (Decidable (_ ∧ _))

/-- The packet whose compressed protocol number and first octet read as address and control. -/
def PppPacket.ReadsAsHeader (packet : PppPacket) (opts : FrameOptions) : Prop :=
  opts.acfc = true ∧ opts.pfc = true ∧ packet.protocol = 0x00FF ∧ packet.payload.head? = some control

instance (packet : PppPacket) (opts : FrameOptions) : Decidable (packet.ReadsAsHeader opts) :=
  inferInstanceAs (Decidable (_ ∧ _))

lemma and_one_ne_zero {b : UInt8} : b &&& 1 ≠ 0 ↔ b.toNat % 2 = 1 := by
  rw [Ne, ← UInt8.toNat_inj, UInt8.toNat_and, show (1 : UInt8).toNat = 2 ^ 1 - 1 by decide,
    Nat.and_two_pow_sub_one_eq_mod, show (0 : UInt8).toNat = 0 by decide]
  omega

lemma protocolField_cases (h : packet.ValidProtocol) (opts : FrameOptions) :
    (opts.pfc = true ∧ ∃ b : UInt8, protocolField packet opts = [b] ∧ b.toNat % 2 = 1 ∧
        b.toUInt16 = packet.protocol) ∨
      ∃ b c : UInt8, protocolField packet opts = [b, c] ∧ b.toNat % 2 = 0 ∧ be16 b c = packet.protocol := by
  unfold protocolField
  split_ifs with hone
  · simp only [Bool.and_eq_true, beq_iff_eq] at hone
    obtain ⟨⟨⟨hpfc, -⟩, hh⟩, -⟩ := hone
    have hh' := toNat_high16 packet.protocol
    rw [hh] at hh'
    have hlt : packet.protocol.toNat < 256 := by
      have : (0 : UInt16).toUInt8.toNat = 0 := by decide
      omega
    have hlow : packet.protocol.toUInt8.toNat = packet.protocol.toNat := by
      rw [toNat_low16]
      omega
    refine .inl ⟨hpfc, _, rfl, by rw [hlow]; exact h.2, ?_⟩
    apply UInt16.toNat_inj.mp
    rw [UInt8.toNat_toUInt16, hlow]
  · refine .inr ⟨_, _, rfl, by rw [toNat_high16]; exact h.1, ?_⟩
    rw [toUInt8_mask, be16_octets]

lemma splitProtocol_protocolField {packet : PppPacket} (h : packet.ValidProtocol) (opts : FrameOptions) :
    splitProtocol (protocolField packet opts ++ packet.payload) = some packet := by
  rcases protocolField_cases h opts with ⟨-, b, hf, hodd, hb⟩ | ⟨b, c, hf, he, hbc⟩
  · rw [hf, singleton_append]
    simp only [splitProtocol]
    rw [if_pos (and_one_ne_zero.2 hodd), hb]
  have hz : ¬ b &&& 1 ≠ 0 := by rw [and_one_ne_zero]; omega
  rw [hf, cons_append]
  simp only [splitProtocol]
  rw [if_neg hz]
  change some (⟨be16 b c, packet.payload⟩ : PppPacket) = some packet
  rw [hbc]

lemma take_withFcs (content : Bytes) :
    (withFcs content).take ((withFcs content).length - 2) = content := by simp [withFcs]

lemma stripHeader_full (content : Bytes) :
    stripHeader (withFcs ([address, control] ++ content)) = content := by
  unfold stripHeader
  rw [if_pos ⟨rfl, rfl⟩, take_withFcs]
  rfl

lemma stripHeader_compressed (h : packet.ValidProtocol)
    (ha : opts.acfc = true) (hr : ¬ packet.ReadsAsHeader opts)
    (hlen : 5 ≤ (withFcs (protocolField packet opts ++ packet.payload)).length) :
    stripHeader (withFcs (protocolField packet opts ++ packet.payload)) =
      protocolField packet opts ++ packet.payload := by
  unfold stripHeader
  rw [if_neg, take_withFcs]
  rintro ⟨hfi, hs⟩
  rcases protocolField_cases h opts with ⟨hpfc, b, hf, -, hb⟩ | ⟨b, c, hf, he, -⟩
  · rw [hf] at hfi hs hlen
    obtain rfl : b = address := by simpa [withFcs] using hfi
    -- a frame of five octets has a payload, whose first octet is the one in doubt
    cases hp : packet.payload with
    | nil => rw [hp] at hlen; simp [withFcs] at hlen
    | cons =>
      rw [hp] at hs
      refine hr ⟨ha, hpfc, hb.symm, ?_⟩
      rw [hp]
      simpa [withFcs] using hs
  · rw [hf] at hfi
    obtain rfl : b = address := by simpa [withFcs] using hfi
    exact absurd he (by decide)

/-- **A frame body is parsed to its packet.** -/
theorem parseFrame_frameBody (h : packet.ValidProtocol)
    (hlen : 5 ≤ (frameContent packet opts).length) (hr : ¬ packet.ReadsAsHeader opts) :
    parseFrame (frameBody packet opts) = some packet := by
  have hs : stripHeader (frameContent packet opts) = protocolField packet opts ++ packet.payload := by
    grind [frameContent, addressControl, stripHeader_full, stripHeader_compressed]
  grind [parseFrame, frameBody, unescape_escapeAccm, frameContent, fcs16_withFcs, splitProtocol_protocolField]

/-! ### A stream of frames -/

lemma feedStep_frame (hf : flag ∉ body) (hne : body ≠ []) (k : ℕ) (rest : Bytes) :
    feedStep (replicate (k + 1) flag ++ (body ++ flag :: rest)) = .more (parseFrame body) (flag :: rest) := by
  obtain ⟨b, body, rfl⟩ := exists_cons_of_ne_nil hne
  have hb : b ≠ flag := fun h => hf (by simp [h])
  have hs : (replicate (k + 1) flag ++ (b :: body ++ flag :: rest)).findIdx? (· == flag) = some 0 := by
    simp [List.findIdx?_cons]
  have hfr : (replicate (k + 1) flag ++ (b :: body ++ flag :: rest)).findIdx? (· != flag) = some (k + 1) := by
    rw [List.findIdx?_append]
    have hn : (replicate (k + 1) flag).findIdx? (· != flag) = none := by simp
    simp [List.findIdx?_cons, hb]
  have hpos : (b :: body ++ flag :: rest).findIdx? (· == flag) = some (b :: body).length := by
    rw [List.findIdx?_append]
    have hn : (b :: body).findIdx? (· == flag) = none := by grind
    rw [hn]
    simp [List.findIdx?_cons]
  have hdr : (replicate (k + 1) flag ++ (b :: body ++ flag :: rest)).drop (k + 1) =
      b :: body ++ flag :: rest := drop_left' (by simp)
  unfold feedStep
  rw [hs]
  dsimp only
  rw [drop_zero, hfr]
  dsimp only
  rw [hdr, hpos]
  dsimp only
  rw [take_left' rfl, ← drop_drop, hdr, drop_left' rfl]

lemma feedStep_flags (k : ℕ) : feedStep (replicate k flag) = .halt (replicate k flag) := by
  cases k <;> grind [feedStep]

lemma frameBody_ne_nil (packet : PppPacket) (opts : FrameOptions) : frameBody packet opts ≠ [] := by
  apply escapeAccm_ne_nil
  simp [frameContent, withFcs]

lemma loop_frames (pkts : List PppPacket)
    (hp : ∀ p ∈ pkts, parseFrame (frameBody p opts) = some p) : ∀ k, ∃ fuel rest,
    feedScanner.loop fuel (replicate k flag ++ (pkts.map (frameWithOptions · opts)).flatten) =
      some (pkts, rest) := by
  induction pkts with
  | nil =>
    intro k
    refine ⟨1, replicate k flag, Scanner.loop_halt ?_ 0⟩
    rw [map_nil, flatten_nil, append_nil]
    exact feedStep_flags k
  | cons p pkts ih =>
    intro k
    -- the closing flag of the first frame is the flag before the others
    obtain ⟨fuel, rest, hl⟩ := ih (fun q hq => hp q (mem_cons_of_mem _ hq)) 1
    have hbuf : replicate k flag ++ ((p :: pkts).map (frameWithOptions · opts)).flatten =
        replicate (k + 1) flag ++
          (frameBody p opts ++ flag :: (pkts.map (frameWithOptions · opts)).flatten) := by
      simp [frameWithOptions, replicate_succ']
    have hs : feedScanner.step (replicate k flag ++ ((p :: pkts).map (frameWithOptions · opts)).flatten) =
          .more (some p) (replicate 1 flag ++ (pkts.map (frameWithOptions · opts)).flatten) := by
      rw [hbuf, ← hp p mem_cons_self]
      exact feedStep_frame (flag_not_mem_escapeAccm _ _) (frameBody_ne_nil p opts) k _
    refine ⟨fuel + 1, rest, ?_⟩
    rw [Scanner.loop_more hs, hl]
    rfl

/-- **Framing round trip.** The frames of packets with valid protocol numbers, whatever the options, are
deframed to exactly these packets: the check sequence always leaves the good residue, no body holds a
flag, and no two frames merge. A frame has at least five octets, and no packet's compressed protocol
number and first octet read as address and control. -/
theorem framing_round_trip (opts : FrameOptions) (packets : List PppPacket)
    (hvalid : ∀ p ∈ packets, p.ValidProtocol) (hlen : ∀ p ∈ packets, 5 ≤ (frameContent p opts).length)
    (hread : ∀ p ∈ packets, ¬ p.ReadsAsHeader opts) :
    (∀ p ∈ packets, fcs16 (frameContent p opts) = fcs16Good ∧
      frameWithOptions p opts = flag :: frameBody p opts ++ [flag] ∧ flag ∉ frameBody p opts) ∧
    ∃ d, HdlcDeframer.feed {} (packets.map (frameWithOptions · opts)).flatten = some (packets, d) := by
  refine ⟨?_, ?_⟩
  · intro p _
    exact ⟨fcs16_withFcs _, rfl, flag_not_mem_escapeAccm _ _⟩
  have hp : ∀ p ∈ packets, parseFrame (frameBody p opts) = some p := by grind [parseFrame_frameBody]
  obtain ⟨fuel, rest, hl⟩ := loop_frames packets hp 0
  have hf : feedScanner.feed [] (packets.map (frameWithOptions · opts)).flatten =
      some (packets, rest) := Scanner.feed_eq_some fuel hl
  refine ⟨⟨rest⟩, ?_⟩
  change (feedScanner.feed [] _).map _ = _
  rw [hf]
  rfl

/-- Everything compressed and only flag and escape escaped: an LCP packet, then one whose payload holds
both of them. -/
theorem framing_round_trip_compressed :
    (∀ p ∈ [(⟨lcpProtocol, [1]⟩ : PppPacket), ⟨0x0021, [0x7E, 0x7D, 0x03]⟩],
      p.ValidProtocol ∧ 5 ≤ (frameContent p ⟨0, true, true⟩).length ∧ ¬ p.ReadsAsHeader ⟨0, true, true⟩) ∧
    ∃ d, HdlcDeframer.feed {} ([(⟨lcpProtocol, [1]⟩ : PppPacket), ⟨0x0021, [0x7E, 0x7D, 0x03]⟩].map
      (frameWithOptions · ⟨0, true, true⟩)).flatten =
        some ([⟨lcpProtocol, [1]⟩, ⟨0x0021, [0x7E, 0x7D, 0x03]⟩], d) := by
  have hall : ∀ p ∈ [(⟨lcpProtocol, [1]⟩ : PppPacket), ⟨0x0021, [0x7E, 0x7D, 0x03]⟩],
      p.ValidProtocol ∧ 5 ≤ (frameContent p ⟨0, true, true⟩).length ∧ ¬ p.ReadsAsHeader ⟨0, true, true⟩ := by
    decide +kernel
  refine ⟨hall, (framing_round_trip ⟨0, true, true⟩ _ (fun p hp => (hall p hp).1)
    (fun p hp => (hall p hp).2.1) (fun p hp => (hall p hp).2.2)).2⟩

/-- The reserved number: under ACFC and PFC the packet `0x00FF` with the payload `03 21 05` goes out as
`FF 03 21 05`, and comes back as the packet `0x0021` with the payload `05`. -/
theorem framing_reads_header :
    (⟨0x00FF, [3, 0x21, 5]⟩ : PppPacket).ValidProtocol ∧
    5 ≤ (frameContent ⟨0x00FF, [3, 0x21, 5]⟩ ⟨0, true, true⟩).length ∧
    ∃ d, HdlcDeframer.feed {} (frameWithOptions ⟨0x00FF, [3, 0x21, 5]⟩ ⟨0, true, true⟩) =
      some ([⟨0x0021, [5]⟩], d) :=
  ⟨by decide, by decide +kernel, ⟨[flag]⟩, by decide +kernel⟩

end OneXBts.Packet.Ppp
