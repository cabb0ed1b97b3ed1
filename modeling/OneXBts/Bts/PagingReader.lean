import OneXBts.Bts.LacPdu

/-!
Reading the paging channel (`receiver/paging.rs`).

The reader finds the end of a message only from the length in its first octet, and takes what follows as the next one if that
begins with a length that can be one; zeros cannot. So it follows the bits of whole capsules (`process_halfFrame`): it has
the frames of those that are complete, and the part of the last one that has come.
-/

namespace OneXBts.Bts.Lac

open Lib Common List

structure PagingFrame where
  data : Bits
  crcValid : Bool
  deriving DecidableEq

inductive PagingChannelRate where
  | rate4800 | rate9600
  deriving DecidableEq

structure PagingFrameReader where
  data : Bits := []
  messageLength : ℕ := 0
  inMessage : Bool := false
  dataRate : PagingChannelRate
  completedFrames : List PagingFrame := []
  deriving DecidableEq

namespace PagingFrameReader

def minMsgLengthOctets : ℕ := 5

def maxMsgLengthBits : ℕ := 576

def newWithRate (dataRate : PagingChannelRate) : PagingFrameReader := { dataRate := dataRate }

def new : PagingFrameReader := newWithRate .rate9600

def halfFrameBits (reader : PagingFrameReader) : ℕ :=
  match reader.dataRate with
  | .rate4800 => 48
  | .rate9600 => 96

def takeCompletedFrame (reader : PagingFrameReader) : PagingFrameReader × Option PagingFrame :=
  ({ reader with completedFrames := reader.completedFrames.tail }, reader.completedFrames.head?)

def reset (reader : PagingFrameReader) : PagingFrameReader :=
  { reader with data := [], messageLength := 0, inMessage := false }

/-- The octet in front, here not reduced to the low bits. -/
def msgLengthOctets (bits : Bits) : ℕ := ((bits.take 8).foldl (fun (acc : UInt8) b => (acc <<< 1) ||| b) 0).toNat

def parseMsgLengthBits (bits : Bits) : Option ℕ :=
  if bits.length < 8 then none
  else if msgLengthOctets bits < minMsgLengthOctets ∨ maxMsgLengthBits < msgLengthOctets bits * 8 then none
  else some (msgLengthOctets bits * 8)

def resume (reader : PagingFrameReader) (data : Bits) : PagingFrameReader :=
  match parseMsgLengthBits data with
  | some messageLength => { reader with data := data, messageLength := messageLength, inMessage := true }
  | none => reader.reset

def frame (data : Bits) (messageLength : ℕ) : PagingFrame where
  data := (data.take (messageLength - 30)).drop 8
  crcValid := BitVec.ofNat 32 (readU64 ((data.take messageLength).drop (messageLength - 30))) =
    crc30 (data.take (messageLength - 30))

/-- The loop of `extract_completed_frames`, with a bound on its iterations. A length below 38, which is never kept, would
be a slice out of range. -/
def extractLoop : ℕ → PagingFrameReader → Option PagingFrameReader
  | 0, _ => none
  | fuel + 1, reader =>
    if reader.inMessage ∧ reader.messageLength ≤ reader.data.length then
      if reader.messageLength < 38 then none
      else
        let completed := frame reader.data reader.messageLength
        let reader := { reader with completedFrames := reader.completedFrames ++ [completed] }
        if completed.crcValid then extractLoop fuel (reader.resume (reader.data.drop reader.messageLength))
        else some reader.reset
    else some reader

def extractCompletedFrames (reader : PagingFrameReader) : Option PagingFrameReader :=
  extractLoop (reader.data.length + 1) reader

def process (reader : PagingFrameReader) (halfFrame : Bits) : Option (PagingFrameReader × Option PagingFrame) :=
  if halfFrame.length ≠ reader.halfFrameBits then none
  else
    match halfFrame with
    | [] => none
    | sci :: rest =>
      if sci.toNat % 2 = 1 then (reader.resume rest).extractCompletedFrames.map takeCompletedFrame
      else if !reader.inMessage then some (reader, none)
      else (extractCompletedFrames { reader with data := reader.data ++ rest }).map takeCompletedFrame

def feed : PagingFrameReader → List Bits → Option (PagingFrameReader × List PagingFrame)
  | reader, [] => some (reader, [])
  | reader, halfFrame :: halfFrames =>
    (reader.process halfFrame).bind fun done =>
      (feed done.1 halfFrames).map fun rest => (rest.1, done.2.toList ++ rest.2)

def feedAndDrain (reader : PagingFrameReader) (halfFrames : List Bits) : Option (List PagingFrame) :=
  (reader.feed halfFrames).map fun done => done.2 ++ done.1.completedFrames

end PagingFrameReader

/-! ### Capsules -/

def capsule (pdu : Bits) : Bits :=
  let scope := writeU64 ((8 + pdu.length + 30 + 7) / 8) 8 ++ pdu
  scope ++ writeU64 (crc30 scope).toNat 30

def unwrap (bits : Bits) : Bits := (bits.take (bits.length - 30)).drop 8

/-- Capsules of whole octets that the reader takes. -/
def IsCapsule (bits : Bits) : Prop :=
  ∃ pdu, bits = capsule pdu ∧ 8 ∣ bits.length ∧ bits.length ≤ PagingFrameReader.maxMsgLengthBits

lemma length_capsule (pdu : Bits) : (capsule pdu).length = pdu.length + 38 := by
  simp [capsule, writeU64_of_le]
  omega

lemma unwrap_capsule (pdu : Bits) : unwrap (capsule pdu) = pdu := by
  have hs : (writeU64 ((8 + pdu.length + 30 + 7) / 8) 8 ++ pdu).length = (capsule pdu).length - 30 := by
    rw [length_capsule]
    simp [writeU64_of_le]
    omega
  rw [unwrap, ← hs, capsule, take_left, drop_left' (by simp [writeU64_of_le])]

lemma IsCapsule.capsule_unwrap (h : IsCapsule bits) : capsule (unwrap bits) = bits := by
  obtain ⟨pdu, rfl, -⟩ := h
  rw [unwrap_capsule]

lemma crc30_lt (data : Bits) : (crc30 data).toNat < 2 ^ 30 := by
  unfold crc30
  exact Nat.xor_lt_two_pow (lt_of_le_of_lt Nat.and_le_right (by decide)) (by decide)

namespace PagingFrameReader

section Capsules

lemma msgLengthOctets_msb (h : n < 256) (rest : Bits) : msgLengthOctets (msb 8 n ++ rest) = n := by
  have hall : ∀ n < 256, ((msb 8 n).foldl (fun (acc : UInt8) b => (acc <<< 1) ||| b) 0).toNat = n := by decide +kernel
  rw [msgLengthOctets, take_left' (length_msb 8 n), hall n h]

lemma parseMsgLengthBits_msb (h : n < 256) (rest : Bits) : parseMsgLengthBits (msb 8 n ++ rest) =
    if n < minMsgLengthOctets ∨ maxMsgLengthBits < n * 8 then none else some (n * 8) := by
  unfold parseMsgLengthBits
  rw [if_neg (by simp), msgLengthOctets_msb h]

lemma parseMsgLengthBits_capsule (bits more rest : Bits) (h : IsCapsule (bits ++ more)) (h8 : 8 ≤ bits.length) :
    parseMsgLengthBits (bits ++ rest) = some (bits ++ more).length := by
  obtain ⟨pdu, hc, hw, hmax⟩ := h
  have hl := length_capsule pdu
  rw [← hc] at hl
  have hmax' : (bits ++ more).length ≤ 576 := hmax
  set octets := (8 + pdu.length + 30 + 7) / 8 with ho
  have heq : octets * 8 = (bits ++ more).length := by omega
  have hlt : octets < 256 := by omega
  -- the first octet is that of the capsule
  have hf : bits = msb 8 octets ++ bits.drop 8 := by
    have hp : (bits ++ more).take 8 = bits.take 8 := take_append_of_le_length h8
    have ht : bits.take 8 = msb 8 octets := by
      rw [← hp, hc, capsule, append_assoc, take_left' (by simp [writeU64_of_le]), writeU64_of_le (by decide)]
    rw [← ht, take_append_drop]
  have hmin : ¬(octets < minMsgLengthOctets ∨ maxMsgLengthBits < octets * 8) := by
    unfold minMsgLengthOctets maxMsgLengthBits
    omega
  rw [← heq, hf, append_assoc, parseMsgLengthBits_msb hlt, if_neg hmin]

lemma parseMsgLengthBits_blank (n : ℕ) : parseMsgLengthBits (blank n) = none := by
  unfold parseMsgLengthBits
  split_ifs with hs hl
  · rfl
  · rfl
  refine absurd (.inl ?_) hl
  have ht : (blank n).take 8 = blank 8 := by grind [blank]
  rw [msgLengthOctets, ht]
  decide

lemma frame_capsule (pdu rest : Bits) : frame (capsule pdu ++ rest) (capsule pdu).length = ⟨pdu, true⟩ := by
  set scope := writeU64 ((8 + pdu.length + 30 + 7) / 8) 8 ++ pdu with hs
  have hc : capsule pdu = scope ++ writeU64 (crc30 scope).toNat 30 := rfl
  have hlen : scope.length = (capsule pdu).length - 30 := by
    rw [length_capsule, hs]
    simp [writeU64_of_le]
    omega
  have hr : readU64 (writeU64 (crc30 scope).toNat 30) = (crc30 scope).toNat := by
    rw [writeU64_of_le (by decide), readU64_msb, Nat.mod_eq_of_lt (crc30_lt scope)]
  have hda : (capsule pdu ++ rest).take ((capsule pdu).length - 30) = scope := by
    rw [← hlen, hc, append_assoc scope, take_left]
  have hcrc : ((capsule pdu ++ rest).take (capsule pdu).length).drop ((capsule pdu).length - 30) =
      writeU64 (crc30 scope).toNat 30 := by rw [take_left, ← hlen, hc, drop_left]
  unfold frame
  rw [hda, hcrc, hr, drop_left' (by simp [writeU64_of_le])]
  simp

end Capsules

/-! ### Extraction -/

section Extraction

variable {reader : PagingFrameReader} {tail : Bits}

/-- The data do not end a message that they begin. -/
def Open (data : Bits) : Prop := ∀ messageLength ∈ parseMsgLengthBits data, data.length < messageLength

lemma open_blank (n : ℕ) : Open (blank n) := by
  intro messageLength hl
  rw [parseMsgLengthBits_blank] at hl
  cases hl

/-- The part of a capsule that has come: none of it, or at least the octet with the length. -/
def IsPart (sent : Bits) : Prop := sent = [] ∨ 8 ≤ sent.length ∧ ∃ more, more ≠ [] ∧ IsCapsule (sent ++ more)

lemma IsPart.open (h : IsPart sent) : Open sent := by
  rcases h with rfl | ⟨h8, more, hm, hc⟩
  · exact open_blank 0
  · intro messageLength hl
    have hp := parseMsgLengthBits_capsule sent more [] hc h8
    grind [length_pos_of_ne_nil]

lemma resume_blank (reader : PagingFrameReader) (n : ℕ) : reader.resume (blank n) = reader.reset := by
  rw [resume, parseMsgLengthBits_blank]

lemma extractLoop_open (ho : Open tail) (fuel : ℕ) :
    extractLoop (fuel + 1) (reader.resume tail) = some (reader.resume tail) := by
  rw [extractLoop, if_neg]
  rintro ⟨hin, hle⟩
  unfold resume at hin hle
  split at hin
  · rename_i messageLength hp
    rw [hp] at hle
    exact absurd (ho messageLength hp) (Nat.not_lt.2 hle)
  · cases hin

def wholeFrame (c : Bits) : PagingFrame := ⟨unwrap c, true⟩

lemma extractLoop_capsule (hc : IsCapsule c) (rest : Bits) (fuel : ℕ) :
    extractLoop (fuel + 1) (reader.resume (c ++ rest)) =
      extractLoop fuel (resume { reader with completedFrames := reader.completedFrames ++ [wholeFrame c] } rest) := by
  have hl : 38 ≤ c.length := by
    obtain ⟨pdu, rfl, -⟩ := hc
    rw [length_capsule]
    omega
  have hp : parseMsgLengthBits (c ++ rest) = some c.length := by
    have hp := parseMsgLengthBits_capsule c [] rest (by rwa [append_nil]) (by omega)
    rwa [append_nil] at hp
  have hf : frame (c ++ rest) c.length = wholeFrame c := by
    obtain ⟨pdu, rfl, -⟩ := hc
    rw [frame_capsule, wholeFrame, unwrap_capsule]
  rw [resume, hp, extractLoop, if_pos ⟨rfl, by simp⟩, if_neg (by dsimp only; omega)]
  rw [hf, if_pos (show (wholeFrame c).crcValid = true from rfl), drop_left]
  -- what was there before resuming does not matter
  cases parseMsgLengthBits rest <;> rfl

/-- **Whole capsules are extracted one after the other.** -/
theorem extractLoop_capsules (cs : List Bits) (hc : ∀ c ∈ cs, IsCapsule c) (ho : Open tail) (fuel : ℕ)
    (hf : cs.length < fuel) (reader : PagingFrameReader) :
    extractLoop fuel (reader.resume (cs.flatten ++ tail)) =
      some (resume { reader with completedFrames := reader.completedFrames ++ cs.map wholeFrame } tail) := by
  induction cs generalizing fuel reader with
  | nil =>
    obtain ⟨fuel, rfl⟩ : ∃ k, fuel = k + 1 := ⟨fuel - 1, by omega⟩
    rw [map_nil, append_nil]
    exact extractLoop_open ho fuel
  | cons =>
    obtain ⟨fuel, rfl⟩ : ∃ k, fuel = k + 1 := ⟨fuel - 1, by rw [length_cons] at hf; omega⟩
    grind [extractLoop_capsule]

lemma resume_resume (reader : PagingFrameReader) (data data' : Bits) :
    (reader.resume data).resume data' = reader.resume data' := by
  unfold resume
  cases parseMsgLengthBits data <;> cases parseMsgLengthBits data' <;> rfl

lemma extractCompletedFrames_capsules (cs : List Bits) (hca : ∀ c ∈ cs, IsCapsule c) (ho : Open tail)
    (reader : PagingFrameReader) : (reader.resume (cs.flatten ++ tail)).extractCompletedFrames =
      some (resume { reader with completedFrames := reader.completedFrames ++ cs.map wholeFrame } tail) := by
  refine extractLoop_capsules cs hca ho _ (Nat.lt_succ_of_le ?_) reader
  cases cs with
  | nil => exact Nat.zero_le _
  | cons c cs =>
    -- then the data are kept, and a capsule has bits
    have hpos : ∀ c' ∈ c :: cs, 8 ≤ c'.length := by
      intro c' hc'
      obtain ⟨pdu, rfl, -⟩ := hca c' hc'
      rw [length_capsule]
      omega
    have hp := parseMsgLengthBits_capsule c [] (cs.flatten ++ tail)
      (by rw [append_nil]; exact hca c mem_cons_self) (hpos c mem_cons_self)
    rw [flatten_cons, append_assoc, resume, hp]
    have hf : cs.length ≤ cs.flatten.length := by
      clear hp hca
      induction cs <;> grind
    grind

end Extraction

/-! ### A half-frame -/

section HalfFrame

variable {sent sent' out : Bits} {cs : List Bits} {reader : PagingFrameReader}

lemma dataRate_resume (reader : PagingFrameReader) (data : Bits) : (reader.resume data).dataRate = reader.dataRate := by
  unfold resume
  cases parseMsgLengthBits data <;> rfl

/-- **The reader follows the bits.** It has a part of a capsule, and the half-frame has its rest, whole capsules and a
part of one, and zeros unless it is full; it begins with a start bit if the reader had no part. Then the reader has the
frames of all that is complete, and the new part. -/
theorem process_halfFrame (hr : reader.dataRate = .rate9600) (hp : IsPart sent) (hp' : IsPart sent')
    (hc : ∀ c ∈ cs, IsCapsule c) (hb : sent ++ out = cs.flatten ++ sent') (hro : out.length ≤ 95)
    (hf : sent' ≠ [] → out.length = 95) :
    (reader.resume sent).process ((if sent = [] then 1 else 0) :: (out ++ blank (95 - out.length))) =
      some (takeCompletedFrame
        (resume { reader with completedFrames := reader.completedFrames ++ cs.map wholeFrame } sent')) := by
  set zeros := blank (95 - out.length) with hz
  -- what comes after the whole capsules
  have ht : Open (sent' ++ zeros) ∧ ∀ r : PagingFrameReader, r.resume (sent' ++ zeros) = r.resume sent' := by
    by_cases hnil : sent' = []
    · subst hnil
      exact ⟨open_blank _, fun r => (resume_blank r _).trans (resume_blank r 0).symm⟩
    · rw [hz, hf hnil, blank_zero, append_nil]
      exact ⟨hp'.open, fun r => rfl⟩
  have he := extractCompletedFrames_capsules cs hc ht.1 reader
  rw [ht.2, ← append_assoc, ← hb, append_assoc] at he
  have hl : ((if sent = [] then 1 else 0 : UInt8) :: (out ++ zeros)).length = (reader.resume sent).halfFrameBits := by
    grind [halfFrameBits, dataRate_resume, length_blank]
  rw [process, if_neg (not_not.2 hl)]
  by_cases hnil : sent = []
  · subst hnil
    rw [nil_append] at he
    rw [resume_resume, he]
    rfl
  · obtain ⟨h8, more, -, hca⟩ := hp.resolve_left hnil
    have hpa := fun rest => parseMsgLengthBits_capsule sent more rest hca h8
    have hs := hpa []
    rw [append_nil] at hs
    rw [if_neg (by simp [hnil])]
    grind [resume]

lemma process_idle (hr : reader.dataRate = .rate9600) :
    (reader.resume []).process (blank 96) = some (reader.resume [], none) := by
  have hl : (0 :: blank 95).length = (reader.resume []).halfFrameBits := by
    rw [halfFrameBits, dataRate_resume, hr, length_cons, length_blank]
  change process _ (0 :: blank 95) = _
  rw [process, if_neg (not_not.2 hl)]
  rfl

end HalfFrame

end PagingFrameReader

end OneXBts.Bts.Lac
