import OneXBts.Lib.BitField
import OneXBts.Lib.Scanner

/-!
Deframing of the HDLC-like framing of PPP (`ppp/framing.rs`).

One iteration of `feed` drops what comes before the first flag, skips a run of flags, and looks for the flag that closes the
frame; it stays in the buffer, where it opens the next frame. The iteration is a `Scanner`, so that the packets do not depend
on how the stream is cut (`deframing_chunks`).
-/

namespace OneXBts.Packet.Ppp

open Lib List Scanner

def flag : UInt8 := 0x7E

/-- HDLC escape byte: the next byte is XOR'd with 0x20. -/
def escape : UInt8 := 0x7D

def address : UInt8 := 0xFF

def control : UInt8 := 0x03

/-! ### The check sequence -/

/-- The table of the check sequence: eight shifts of the index. -/
def fcs16Table (i : ℕ) : UInt16 := fcsShift^[8] (UInt16.ofNat i)

def fcs16Init : UInt16 := 0xFFFF

/-- The residue over a content that ends in its check sequence. -/
def fcs16Good : UInt16 := 0xF0B8

def fcs16 (data : Bytes) : UInt16 :=
  data.foldl (fun fcs b => (fcs >>> 8) ^^^ fcs16Table ((fcs ^^^ b.toUInt16) &&& 0xFF).toNat) fcs16Init

/-! ### A frame -/

structure PppPacket where
  protocol : UInt16
  payload : Bytes
  deriving DecidableEq, Repr

/-- Replace an escape and the byte after it by that byte XOR'd with 0x20; `none` when the byte is
missing. -/
def unescape : Bytes → Option Bytes
  | [] => some []
  | [b] => if b = escape then none else some [b]
  | b :: c :: rest =>
    if b = escape then (unescape rest).map ((c ^^^ 0x20) :: ·)
    else (unescape (c :: rest)).map (b :: ·)

/-- Strip address and control, when they are there, and the check sequence. -/
def stripHeader (unescaped : Bytes) : Bytes :=
  if unescaped[0]? = some address ∧ unescaped[1]? = some control then (unescaped.take (unescaped.length - 2)).drop 2
  else unescaped.take (unescaped.length - 2)

/-- Protocol number of one byte when its low bit is set, of two bytes otherwise. -/
def splitProtocol : Bytes → Option PppPacket
  | [] => none
  | b :: rest =>
    if b &&& 0x01 ≠ 0 then some ⟨b.toUInt16, rest⟩
    else
      match rest with
      | [] => none
      | c :: info => some ⟨(b.toUInt16 <<< 8) ||| c.toUInt16, info⟩

def parseFrame (rawFrame : Bytes) : Option PppPacket := do
  let unescaped ← unescape rawFrame
  if unescaped.length < 5 then none
  else if fcs16 unescaped ≠ fcs16Good then none
  else splitProtocol (stripHeader unescaped)

/-! ### One iteration -/

def feedStep (buf : Bytes) : Scan UInt8 PppPacket :=
  match buf.findIdx? (· == flag) with
  -- no flag at all: everything is discarded
  | none => .halt []
  | some start =>
    let buf := buf.drop start
    match buf.findIdx? (· != flag) with
    -- only flags: wait for more data
    | none => .halt buf
    | some frameStart =>
      match (buf.drop frameStart).findIdx? (· == flag) with
      -- no closing flag yet
      | none => .halt buf
      | some pos => .more (parseFrame ((buf.drop frameStart).take pos)) (buf.drop (frameStart + pos))

lemma feedStep_skip (h : junk.findIdx? (· == flag) = none) (buf : Bytes) :
    feedStep (junk ++ buf) = feedStep buf := by
  unfold feedStep
  rw [List.findIdx?_append, h, Option.none_or]
  cases hf : buf.findIdx? (· == flag) with
  | none => rfl
  | some start =>
    have hdr : (junk ++ buf).drop (start + junk.length) = buf.drop start := by
      rw [Nat.add_comm, drop_append, drop_of_length_le (Nat.le_add_right _ _), nil_append, Nat.add_sub_cancel_left]
    simp only [Option.map_some, hdr]

lemma findIdx?_take_none {buf : Bytes} {i : ℕ} (h : buf.findIdx? p = some i) :
    (buf.take i).findIdx? p = none := by grind [List.findIdx?_eq_some_iff_getElem, mem_take_iff_getElem]

lemma feedStep_drop {start : ℕ} (h : buf.findIdx? (· == flag) = some start)
    (tail : Bytes) : feedStep (buf ++ tail) = feedStep (buf.drop start ++ tail) := by
  conv_lhs => rw [← take_append_drop start buf, append_assoc]
  exact feedStep_skip (findIdx?_take_none h) _

lemma findIdx?_append_some (h : buf.findIdx? p = some i)
    (tail : Bytes) : (buf ++ tail).findIdx? p = some i := by rw [List.findIdx?_append, h, Option.some_or]

lemma findIdx?_le {buf : Bytes} {i : ℕ} (h : buf.findIdx? p = some i) :
    i ≤ buf.length := by
  obtain ⟨hlt, -⟩ := List.findIdx?_eq_some_iff_getElem.1 h
  omega

lemma feedStep_more (h : feedStep buf = .more item rest) :
    ∃ start frameStart pos, buf.findIdx? (· == flag) = some start ∧
      (buf.drop start).findIdx? (· != flag) = some frameStart ∧
      ((buf.drop start).drop frameStart).findIdx? (· == flag) = some pos ∧
      item = parseFrame (((buf.drop start).drop frameStart).take pos) ∧
      rest = (buf.drop start).drop (frameStart + pos) := by
  unfold feedStep at h
  split at h <;> grind

lemma frameStart_pos {buf : Bytes} {start frameStart : ℕ} (hs : buf.findIdx? (· == flag) = some start)
    (hf : (buf.drop start).findIdx? (· != flag) = some frameStart) : 0 < frameStart := by
  obtain ⟨hlt, hfl, -⟩ := List.findIdx?_eq_some_iff_getElem.1 hs
  obtain ⟨hlt', ho, -⟩ := List.findIdx?_eq_some_iff_getElem.1 hf
  grind

def feedScanner : Scanner UInt8 PppPacket where
  step := feedStep
  shrink := by
    intro buf rest item h
    obtain ⟨start, frameStart, pos, hstart, hframe, -, -, rfl⟩ := feedStep_more h
    have hpos := frameStart_pos hstart hframe
    have hle := findIdx?_le hframe
    rw [List.length_drop] at hle
    rw [List.length_drop, List.length_drop]
    obtain ⟨hlt, -⟩ := List.findIdx?_eq_some_iff_getElem.1 hstart
    omega
  more_append := by
    intro buf rest item h tail
    obtain ⟨start, frameStart, pos, hstart, hframe, hpos, rfl, rfl⟩ := feedStep_more h
    have h1 : (buf ++ tail).drop start = buf.drop start ++ tail :=
      List.drop_append_of_le_length (findIdx?_le hstart)
    have h2 : (buf.drop start ++ tail).drop frameStart = (buf.drop start).drop frameStart ++ tail :=
      List.drop_append_of_le_length (findIdx?_le hframe)
    have hle := findIdx?_le hpos
    have h3 : (buf.drop start ++ tail).drop (frameStart + pos) =
        (buf.drop start).drop (frameStart + pos) ++ tail := by
      refine List.drop_append_of_le_length ?_
      have := findIdx?_le hframe
      rw [List.length_drop] at hle
      omega
    unfold feedStep
    rw [findIdx?_append_some hstart]
    dsimp only
    rw [h1, findIdx?_append_some hframe]
    dsimp only
    rw [h2, findIdx?_append_some hpos]
    dsimp only
    rw [h3, List.take_append_of_le_length hle]
  halt_append := by
    intro buf rest h tail
    unfold feedStep at h
    split at h
    · rename_i hnone
      cases h
      exact feedStep_skip hnone tail
    rename_i start hstart
    dsimp only at h
    -- in both remaining cases what comes before the flag is dropped
    have hdrop := feedStep_drop hstart tail
    split at h
    · cases h
      exact hdrop
    split at h
    · cases h
      exact hdrop
    · cases h

/-! ### The deframer -/

structure HdlcDeframer where
  buf : Bytes := []
  deriving DecidableEq, Repr

namespace HdlcDeframer

/-- The loop of `feed`: at most `fuel` iterations, `none` when it is still going. -/
def feedLoop (fuel : ℕ) (buf : Bytes) : Option (List PppPacket × Bytes) := feedScanner.loop fuel buf

def feed (d : HdlcDeframer) (data : Bytes) : Option (List PppPacket × HdlcDeframer) :=
  (feedLoop ((d.buf ++ data).length + 1) (d.buf ++ data)).map fun r => (r.1, ⟨r.2⟩)

def feedChunks : HdlcDeframer → List Bytes → Option (List PppPacket × HdlcDeframer)
  | d, [] => some ([], d)
  | d, chunk :: chunks => do
    let r ← d.feed chunk
    let r' ← feedChunks r.2 chunks
    return (r.1 ++ r'.1, r'.2)

lemma feedChunks_eq (chunks : List Bytes) : ∀ d : HdlcDeframer, d.feedChunks chunks =
    (feedScanner.feedAll d.buf chunks).map fun r => (r.1, ⟨r.2⟩) := by
  induction chunks with
  | nil => intro d; rfl
  | cons chunk =>
    intro d
    have hf : d.feed chunk = (feedScanner.feed d.buf chunk).map fun r => (r.1, ⟨r.2⟩) := rfl
    rw [feedChunks, feedAll, hf]
    grind

/-- **Deframing does not depend on the chunks.** The loop of `feed` ends on every buffer. Whatever a
deframer was fed before, feeding it chunks one by one gives the packets of feeding them at once, in
order, and leaves the same buffer. -/
theorem deframing_chunks (earlier chunks : List Bytes) :
    (∀ (buf : Bytes) (fuel : ℕ), buf.length < fuel → ∃ r, ∀ fuel' ≥ fuel, feedLoop fuel' buf = some r) ∧
    ∃ before d, feedChunks {} earlier = some (before, d) ∧ ∃ packets d', d.feedChunks chunks = some (packets, d') ∧
        d.feed chunks.flatten = some (packets, d') := by
  refine ⟨?_, ?_⟩
  · intro buf fuel hf
    obtain ⟨r, hr⟩ := loop_some (S := feedScanner) fuel hf
    exact ⟨r, fun fuel' hle => loop_mono hr hle⟩
  have hnew : feedScanner.step [] = .halt [] := rfl
  obtain ⟨r, hr⟩ := loop_some (S := feedScanner) (([] ++ earlier.flatten).length + 1)
    (Nat.lt_succ_self _)
  have hrest := step_rest _ hr
  obtain ⟨r', hr'⟩ := loop_some (S := feedScanner) ((r.2 ++ chunks.flatten).length + 1)
    (Nat.lt_succ_self _)
  have hw : feedScanner.feed r.2 chunks.flatten = some r' := hr'
  refine ⟨r.1, ⟨r.2⟩, ?_, r'.1, ⟨r'.2⟩, ?_, ?_⟩
  · grind [feedChunks_eq, feedAll_eq, Lib.Scanner.feed]
  · rw [feedChunks_eq, feedAll_eq chunks hrest, hw]
    rfl
  have hfe : feed ⟨r.2⟩ chunks.flatten = (feedScanner.feed r.2 chunks.flatten).map fun r => (r.1, ⟨r.2⟩) := rfl
  rw [hfe, hw]
  rfl

/-- A frame cut inside an escape, after garbage and before the start of the next one. -/
example : feedChunks {} [[1, 0x7E, 0xFF, 0x7D], [0x23, 0xC0, 0x21], [5, 0x3C, 0x78, 0x7E, 9]] =
    some ([⟨0xC021, [5]⟩], ⟨[0x7E, 9]⟩) := by decide +kernel

end HdlcDeframer

end OneXBts.Packet.Ppp
