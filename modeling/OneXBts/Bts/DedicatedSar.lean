import OneXBts.Bts.LacPdu

/-!
Segmentation on the dedicated channel (`lac/mod.rs`) and its reassembly (`receiver/access.rs`).

A PDU gets a length octet and a CRC and is cut into blocks with a start bit each. The reader takes the length from the first
octet. The length is taken modulo 256: a PDU of up to 252 octets comes back (`feed_sarFragmentFtchPduDsch`), a longer one
does not.
-/

namespace OneXBts.Bts.Lac

open Lib Common List

/-! ### Segmentation -/

def crc16Ccitt (data : Bits) : UInt16 :=
  data.foldl (fun (register : UInt16) bit =>
    if (register >>> 15) &&& 1 ^^^ (bit.toUInt16 &&& 1) = 1 then (register <<< 1) ^^^ 0x1021 else register <<< 1)
    0xFFFF ^^^ 0xFFFF

inductive FtchMuxRateSet where
  | one | two
  deriving DecidableEq

namespace FtchMuxRateSet

def signalingBits : FtchMuxRateSet → ℕ
  | one => 168
  | two => 262

def muxHeader : FtchMuxRateSet → Bits
  | one => writeU64 1 1 ++ writeU64 0 1 ++ writeU64 0b11 2
  | two => writeU64 1 1 ++ writeU64 0b0011 4

def sarDataPerFrame (rateSet : FtchMuxRateSet) : ℕ := rateSet.signalingBits - 1

end FtchMuxRateSet

/-- The length of the message as it is written: an octet. -/
def msgLengthOctets (pdu : Bits) : ℕ := (8 + pdu.length + 16 + 7) / 8 % 256

def sarData (pdu : Bits) : Bits :=
  let crcScope := writeU64 (msgLengthOctets pdu) 8 ++ pdu
  crcScope ++ writeU64 (crc16Ccitt crcScope).toNat 16

def signalingBlock (rateSet : FtchMuxRateSet) (isFirst : Bool) (chunk : Bits) : Bits :=
  let signaling := writeU64 isFirst.toNat 1 ++ chunk.flatMap fun bit => writeU64 bit.toNat 1
  signaling ++ writeU64 0 (rateSet.signalingBits - signaling.length)

def muxFrames (rateSet : FtchMuxRateSet) : Bool → List Bits → List Bits
  | _, [] => []
  | isFirst, chunk :: chunks =>
    (rateSet.muxHeader ++ signalingBlock rateSet isFirst chunk) :: muxFrames rateSet false chunks

def sarFragmentFtchPduDschForRateSet (rateSet : FtchMuxRateSet) (pdu : Bits) : List Bits :=
  muxFrames rateSet true (chunks rateSet.sarDataPerFrame (sarData pdu))

def sarFragmentFtchPduDsch (pdu : Bits) : List Bits := sarFragmentFtchPduDschForRateSet .one pdu

def sarFragmentFtchPduDschRc2 (pdu : Bits) : List Bits := sarFragmentFtchPduDschForRateSet .two pdu

def assembleFDschPdu (wireMsgType : UInt8) (sduBody : Bits) (ackSeq msgSeq : UInt8) (ackReq : Bool) : Bits :=
  let pdu := writeU64 wireMsgType.toNat 8 ++ writeU64 ackSeq.toNat 3 ++ writeU64 msgSeq.toNat 3 ++
    writeU64 ackReq.toNat 1 ++ writeU64 0 2 ++ sduBody
  if pdu.length % 8 ≠ 0 then pdu ++ writeU64 0 (8 - pdu.length % 8) else pdu

/-! ### Reassembly -/

structure AccessFrame where
  data : Bits
  crcValid : Bool
  msgLengthOctets : ℕ
  deriving DecidableEq

structure DedicatedFrameReader where
  data : Bits
  msgLengthOctets : ℕ
  deriving DecidableEq

namespace DedicatedFrameReader

def new : DedicatedFrameReader := ⟨[], 0⟩

def frame (data : Bits) (octets : ℕ) : AccessFrame where
  data := (data.take (octets * 8 - 16)).drop 8
  crcValid := readU64 ((data.take (octets * 8)).drop (octets * 8 - 16)) = (crc16Ccitt (data.take (octets * 8 - 16))).toNat
  msgLengthOctets := octets

/-- Take the length from the data; a length below 3 makes the caller reset. -/
def readMsgLength (reader : DedicatedFrameReader) : Option DedicatedFrameReader :=
  if 8 ≤ reader.data.length then
    if readU64 (reader.data.take 8) < 3 then none
    else some { reader with msgLengthOctets := readU64 (reader.data.take 8) }
  else some reader

/-- The end of `process`. A length of 1 or 2 octets, which is never kept, would be a slice out of range. -/
def complete (reader : DedicatedFrameReader) : Option (DedicatedFrameReader × Option AccessFrame) :=
  if reader.msgLengthOctets = 0 then some (reader, none)
  else if reader.data.length < reader.msgLengthOctets * 8 then some (reader, none)
  else if reader.msgLengthOctets < 3 then none
  else some (new, some (frame reader.data reader.msgLengthOctets))

def advance (reader : DedicatedFrameReader) : Option (DedicatedFrameReader × Option AccessFrame) :=
  match if reader.msgLengthOctets = 0 then reader.readMsgLength else some reader with
  | none => some (new, none)
  | some reader => reader.complete

def process (reader : DedicatedFrameReader) (fragment : Bits) : Option (DedicatedFrameReader × Option AccessFrame) :=
  match fragment with
  | [] => some (reader, none)
  | som :: rest =>
    if som.toNat % 2 = 1 then
      match readMsgLength ⟨rest, 0⟩ with
      | none => some (new, none)
      | some reader => reader.advance
    else if reader.data = [] then some (reader, none)
    else advance { reader with data := reader.data ++ rest }

def feed : DedicatedFrameReader → List Bits → Option (DedicatedFrameReader × List AccessFrame)
  | reader, [] => some (reader, [])
  | reader, fragment :: fragments =>
    (reader.process fragment).bind fun done =>
      (feed done.1 fragments).map fun rest => (rest.1, done.2.toList ++ rest.2)

end DedicatedFrameReader

/-! ### What the reader does with the blocks -/

section Reader

open DedicatedFrameReader

variable {rs : FtchMuxRateSet} {rest : Bits} {octets : ℕ}

def fragments (rateSet : FtchMuxRateSet) (frames : List Bits) : List Bits :=
  frames.map fun frame => frame.drop rateSet.muxHeader.length

lemma fragments_muxFrames (rs : FtchMuxRateSet) (isFirst : Bool) (chunk : Bits) (chunks : List Bits) :
    fragments rs (muxFrames rs isFirst (chunk :: chunks)) =
      signalingBlock rs isFirst chunk :: fragments rs (muxFrames rs false chunks) := by
  rw [muxFrames, fragments, map_cons, drop_left' rfl]
  rfl

def padding (rateSet : FtchMuxRateSet) (chunk : Bits) : Bits := writeU64 0 (rateSet.signalingBits - (1 + chunk.length))

lemma flatMap_writeU64 (hb : IsBits bits) : (bits.flatMap fun bit => writeU64 bit.toNat 1) = bits := by
  induction bits with
  | nil => rfl
  | cons b bits ih =>
    rw [flatMap_cons, ih fun c hc => hb c (mem_cons_of_mem _ hc)]
    rcases hb b mem_cons_self with rfl | rfl <;> rfl

lemma signalingBlock_eq (hb : IsBits chunk) (isFirst : Bool) :
    signalingBlock rs isFirst chunk = UInt8.ofNat isFirst.toNat :: (chunk ++ padding rs chunk) := by
  rw [signalingBlock, flatMap_writeU64 hb]
  cases isFirst <;> simp [padding, writeU64, msb, bitAt, Nat.add_comm]

lemma feed_new_continuations (cs : List Bits) (hb : ∀ c ∈ cs, IsBits c) :
    feed new (fragments rs (muxFrames rs false cs)) = some (new, []) := by
  induction cs with
  | nil => rfl
  | cons chunk =>
    have hp : new.process (signalingBlock rs false chunk) = some (new, none) := by rfl
    grind [fragments_muxFrames, feed]

lemma frame_append (h : octets * 8 ≤ a.length) (b : Bits) : frame (a ++ b) octets = frame a octets := by
  grind [frame]

/-- **A message in the making.** The reader has some of the message and its length; from then on the blocks complete it
once, at the one that has its last bit. -/
theorem complete_then_feed (rs : FtchMuxRateSet) (data : Bits) (h3 : 3 ≤ octets) (hbi : IsBits rest)
    (hsh : data.length < octets * 8) (hl : octets * 8 ≤ (data ++ rest).length) :
    ((complete ⟨data ++ (rest.take rs.sarDataPerFrame ++ padding rs (rest.take rs.sarDataPerFrame)),
        octets⟩).bind fun done =>
      (feed done.1 (fragments rs (muxFrames rs false
        (chunks rs.sarDataPerFrame (rest.drop rs.sarDataPerFrame))))).map
          fun rest => (rest.1, done.2.toList ++ rest.2)) = some (new, [frame (data ++ rest) octets]) := by
  have hpos : 0 < rs.sarDataPerFrame := by cases rs <;> decide
  induction hn : rest.length using Nat.strong_induction_on generalizing data rest with
  | _ _ ih =>
    subst hn
    set m := rs.sarDataPerFrame with hm
    have hs : data ++ rest = data ++ rest.take m ++ rest.drop m := by rw [append_assoc, take_append_drop]
    have hch : ∀ c ∈ chunks m (rest.drop m), IsBits c := fun c hc b hb =>
      hbi b (mem_of_mem_drop ((chunks_spec hpos hc).2.2 b hb))
    by_cases hdo : octets * 8 ≤ (data ++ rest.take m).length
    · -- the last bit is in this block; what follows is padding
      have hco : complete ⟨data ++ (rest.take m ++ padding rs (rest.take m)), octets⟩ =
          some (new, some (frame (data ++ rest) octets)) := by
        rw [← append_assoc, complete, if_neg (by dsimp only; omega),
          if_neg (by dsimp only; rw [length_append]; omega), if_neg (by dsimp only; omega), frame_append hdo,
          hs, frame_append hdo]
      rw [hco, Option.bind_some]
      rw [feed_new_continuations _ hch]
      rfl
    · -- the block is full, and there are more
      have hlen : m < rest.length := by grind [take_of_length_le]
      have hf : padding rs (rest.take m) = [] := by
        rw [padding, length_take, min_eq_left hlen.le]
        cases rs <;> rfl
      have hco : complete ⟨data ++ (rest.take m ++ padding rs (rest.take m)), octets⟩ =
          some (⟨data ++ rest.take m, octets⟩, none) := by
        rw [hf, append_nil, complete, if_neg (by dsimp only; omega), if_pos (by dsimp only; omega)]
      have hne : rest.drop m ≠ [] := by simpa using hlen
      have hda : data ++ rest.take m ≠ [] := by grind
      have hdr : IsBits (rest.drop m) := fun b hb => hbi b (mem_of_mem_drop hb)
      have hp : process ⟨data ++ rest.take m, octets⟩ (signalingBlock rs false ((rest.drop m).take m)) =
          complete ⟨data ++ rest.take m ++ ((rest.drop m).take m ++ padding rs ((rest.drop m).take m)), octets⟩ := by
        rw [signalingBlock_eq fun b hb => hdr b (mem_of_mem_take hb), process, if_neg (by decide),
          if_neg hda, advance, if_neg (by dsimp only; omega)]
      have ih' := ih (rest.drop m).length (by rw [length_drop]; omega) (data ++ rest.take m) hdr (by omega)
        (by rw [← hs]; exact hl) rfl
      rw [hco, Option.bind_some]
      rw [chunks_of_ne_nil hpos hne, fragments_muxFrames, feed, hp, ih', ← hs]
      rfl

end Reader

/-! ### The round trip -/

section RoundTrip

open DedicatedFrameReader

variable {pdu : Bits} {n : ℕ}

lemma isBits_sarData (hb : IsBits pdu) : IsBits (sarData pdu) :=
  ((isBits_writeU64 (by decide)).append hb).append (isBits_writeU64 (by decide))

lemma length_sarData (pdu : Bits) : (sarData pdu).length = 8 + pdu.length + 16 := by
  simp [sarData, writeU64_of_le, Nat.add_assoc]

lemma msgLengthOctets_eq (hlen : pdu.length = 8 * n) : msgLengthOctets pdu = (n + 3) % 256 := by
  unfold msgLengthOctets
  omega

lemma readU64_sarData (hlen : pdu.length = 8 * n) : readU64 ((sarData pdu).take 8) = (n + 3) % 256 := by
  rw [sarData, append_assoc, take_left' (by simp [writeU64_of_le]), writeU64_of_le (by decide), readU64_msb,
    msgLengthOctets_eq hlen]
  exact Nat.mod_mod _ _

lemma feed_sarFragment (rs : FtchMuxRateSet) (reader : DedicatedFrameReader) (hbi : IsBits pdu)
    (hlen : pdu.length = 8 * n) :
    feed reader (fragments rs (sarFragmentFtchPduDschForRateSet rs pdu)) =
      some (new, if (n + 3) % 256 < 3 then [] else [frame (sarData pdu) ((n + 3) % 256)]) := by
  have hpos : 0 < rs.sarDataPerFrame := by cases rs <;> decide
  have h8 : 8 ≤ rs.sarDataPerFrame := by cases rs <;> decide
  have hsar := length_sarData pdu
  have hne : sarData pdu ≠ [] := by
    intro h
    rw [h, length_nil] at hsar
    omega
  have hs := isBits_sarData hbi
  set first := (sarData pdu).take rs.sarDataPerFrame with hf
  have hfi : IsBits first := fun b hb => hs b (mem_of_mem_take hb)
  have hfir : 8 ≤ first.length := by rw [hf, length_take]; omega
  have hl : readU64 ((first ++ padding rs first).take 8) = (n + 3) % 256 := by
    rw [take_append_of_le_length hfir, take_take, min_eq_left h8, readU64_sarData hlen]
  have hr : ∀ c ∈ chunks rs.sarDataPerFrame ((sarData pdu).drop rs.sarDataPerFrame), IsBits c :=
    fun c hc b hb => hs b (mem_of_mem_drop ((chunks_spec hpos hc).2.2 b hb))
  have h8' : 8 ≤ (first ++ padding rs first).length := by rw [length_append]; omega
  rw [sarFragmentFtchPduDschForRateSet, chunks_of_ne_nil hpos hne, fragments_muxFrames, ← hf, feed,
    signalingBlock_eq hfi, process, if_pos (by decide), readMsgLength, if_pos h8', hl]
  by_cases hsh : (n + 3) % 256 < 3
  · grind [feed_new_continuations]
  rw [if_neg hsh, if_neg hsh]
  dsimp only
  rw [advance, if_neg (by dsimp only; omega)]
  have ht := complete_then_feed rs [] (by omega : 3 ≤ (n + 3) % 256) hs
    (by rw [length_nil]; omega) (by rw [nil_append]; omega)
  exact ht

lemma frame_sarData (hlen : pdu.length = 8 * n) (hf : n + 3 < 256) :
    frame (sarData pdu) (n + 3) = ⟨pdu, true, n + 3⟩ := by
  have hs : (writeU64 (msgLengthOctets pdu) 8 ++ pdu).length = (n + 3) * 8 - 16 := by
    simp [writeU64_of_le]
    omega
  have hcrc : ∀ crc : UInt16, readU64 (writeU64 crc.toNat 16) = crc.toNat := by simp [writeU64_of_le, readU64_msb]
  unfold frame sarData
  rw [take_left' hs, take_of_length_le (by simp [writeU64_of_le]; omega), drop_left' hs,
    drop_left' (by simp [writeU64_of_le]), hcrc]
  simp

/-- **The round trip.** The fragments of a PDU of whole octets, for either rate set and in any state of the reader, give
exactly one frame, with a valid CRC and the PDU as its data, exactly if the message is at most 255 octets long with its
length and CRC. -/
theorem feed_sarFragmentFtchPduDsch (rateSet : FtchMuxRateSet) (reader : DedicatedFrameReader) (hbits : IsBits pdu)
    (hlen : pdu.length = 8 * n) :
    (∃ reader' received, feed reader (fragments rateSet (sarFragmentFtchPduDschForRateSet rateSet pdu)) =
      some (reader', [received]) ∧ received.crcValid ∧ received.data = pdu) ↔ n + 3 ≤ 255 := by
  rw [feed_sarFragment rateSet reader hbits hlen]
  constructor
  · rintro ⟨reader', received, hf, -, hda⟩
    split_ifs at hf with hs
    · simp at hf
    -- a shorter message than was sent
    simp only [Option.some.injEq, Prod.mk.injEq, List.cons.injEq, and_true] at hf
    have hl := congrArg List.length (hf.2 ▸ hda)
    simp only [frame, length_drop, length_take, length_sarData] at hl
    omega
  · intro hfi
    have hmod : (n + 3) % 256 = n + 3 := Nat.mod_eq_of_lt (by omega)
    refine ⟨new, ⟨pdu, true, n + 3⟩, ?_, rfl, rfl⟩
    rw [hmod, if_neg (by omega), frame_sarData hlen (by omega)]

/-- Two octets, to a reader in the middle of something else. -/
theorem feed_sarFragmentFtchPduDsch_two_octets :
    ∃ reader' received, feed ⟨[1, 0, 1], 9⟩
        (fragments .two (sarFragmentFtchPduDschRc2 (octetBits [0x12, 0x34]))) = some (reader', [received]) ∧
      received.crcValid ∧ received.data = octetBits [0x12, 0x34] :=
  (feed_sarFragmentFtchPduDsch (n := 2) .two _ (by decide) rfl).2 (by decide)

/-- Of 253 octets of zeros the length is written as 0, and the reader finds nothing. -/
theorem feed_sarFragmentFtchPduDsch_253_octets :
    feed new (fragments .one (sarFragmentFtchPduDsch (blank (8 * 253)))) = some (new, []) ∧
    feed new (fragments .two (sarFragmentFtchPduDschRc2 (blank (8 * 253)))) = some (new, []) := by decide +kernel

end RoundTrip

end OneXBts.Bts.Lac
