import OneXBts.Packet.VjHeader

/-!
What a compressed packet says.

`Change` is the content of a compressed packet without its octets: which fields have changed and by how
much, or one of the two frequent cases. The decompressor reads a change back from its octets and applies it
to the header that it has saved (`rebuildHeader_eq`).
-/

namespace OneXBts.Packet.Vj

open Lib Packet.Ppp
open Outcome (ok_bind)

/-! ### Values -/

lemma decodeValue_long (v : UInt16) (rest : Bytes) :
    decodeValue (0 :: (octets16 v ++ rest)) = .ok (v, rest) := by simp [decodeValue, octets16]

lemma toUInt16_toUInt8_of_lt {v : UInt16} (h : v.toNat < 256) : v.toUInt8.toUInt16 = v := by
  apply UInt16.toNat_inj.mp
  rw [UInt8.toNat_toUInt16, toNat_low16, Nat.mod_eq_of_lt h]

lemma decodeValue_short {v : UInt16} (h0 : v ≠ 0) (h : v.toNat < 256) (rest : Bytes) :
    decodeValue (v.toUInt8 :: rest) = .ok (v, rest) := by
  unfold decodeValue
  have hne : v.toUInt8 ≠ 0 := by
    intro hz
    apply h0
    rw [← toUInt16_toUInt8_of_lt h, hz]
    rfl
  simp only [if_neg hne, toUInt16_toUInt8_of_lt h]

lemma lt_256_of_not_ge {v : UInt16} (h : ¬ v ≥ 256) : v.toNat < 256 := by
  have := UInt16.lt_iff_toNat_lt.1 (UInt16.not_le.1 h)
  simpa using this

lemma decodeValue_encodeNonzero (h0 : v ≠ 0) (rest : Bytes) :
    decodeValue (encodeNonzero v ++ rest) = .ok (v, rest) := by
  unfold encodeNonzero
  split_ifs with h
  · exact decodeValue_long v rest
  · exact decodeValue_short h0 (lt_256_of_not_ge h) rest

lemma decodeValue_encodeZeroAllowed (v : UInt16) (rest : Bytes) :
    decodeValue (encodeZeroAllowed v ++ rest) = .ok (v, rest) := by
  unfold encodeZeroAllowed
  split_ifs with h
  · exact decodeValue_long v rest
  · rw [not_or] at h
    exact decodeValue_short h.1 (lt_256_of_not_ge h.2) rest

/-! ### Changes -/

/-- The changes of the TCP fields. A difference of 0 is one that is not sent. -/
inductive Coding where
  /-- Sequence and acknowledgement number have moved on by the data of the last packet. -/
  | echo
  /-- The sequence number has moved on by the data of the last packet. -/
  | bulk
  | fields (urgent : Option UInt16) (window ack seq : UInt16)
  deriving DecidableEq, Repr

def bitIf (present : Bool) (bit : UInt8) : UInt8 := if present then bit else 0

def fieldBits (u w a s : Bool) : UInt8 := ((bitIf u newU ||| bitIf w newW) ||| bitIf a newA) ||| bitIf s newS

namespace Coding

def bits : Coding → UInt8
  | .echo => specialI
  | .bulk => specialD
  | .fields urgent window ack seq => fieldBits urgent.isSome (window ≠ 0) (ack ≠ 0) (seq ≠ 0)

def differenceBytes (v : UInt16) : Bytes := if v ≠ 0 then encodeNonzero v else []

def bytes : Coding → Bytes
  | .echo => []
  | .bulk => []
  | .fields urgent window ack seq =>
    urgent.elim [] encodeZeroAllowed ++ (differenceBytes window ++ (differenceBytes ack ++ differenceBytes seq))

def IsSpecial : Coding → Prop
  | .echo => True
  | .bulk => True
  | .fields .. => False

instance : DecidablePred IsSpecial
  | .echo => .isTrue trivial
  | .bulk => .isTrue trivial
  | .fields .. => .isFalse id

/-- The bits of the fields do not read as one of the two frequent cases. -/
def Proper (c : Coding) : Prop := c.IsSpecial ∨ (c.bits ≠ specialI ∧ c.bits ≠ specialD)

end Coding

/-- The octet in front of a compressed packet: the bits of the fields, of the IP identification and of
PSH. -/
def maskOf (b : UInt8) (i p : Bool) : UInt8 :=
  let m := if i then b ||| newI else b
  if p then m ||| tcpPushBit else m

structure Change where
  coding : Coding
  /-- Difference of the IP identification, sent unless it is 1. -/
  ipId : UInt16
  push : Bool

namespace Change

def mask (c : Change) : UInt8 := maskOf c.coding.bits (c.ipId ≠ 1) c.push

def bytes (c : Change) : Bytes := c.coding.bytes ++ (if c.ipId ≠ 1 then encodeZeroAllowed c.ipId else [])

end Change

/-! ### The bits of a mask -/

lemma exists_fieldBits (c : Coding) : ∃ u w a s, c.bits = fieldBits u w a s := by
  cases c with
  | echo => exact ⟨true, true, false, true, by decide⟩
  | bulk => exact ⟨true, true, true, true, by decide⟩
  | fields => exact ⟨_, _, _, _, rfl⟩

section MaskBits

variable (u w a s i p : Bool)

lemma maskOf_specials : maskOf (fieldBits u w a s) i p &&& specialsMask = fieldBits u w a s := by
  revert u w a s i p; decide

lemma maskOf_newU : maskOf (fieldBits u w a s) i p &&& newU ≠ 0 ↔ u = true := by revert u w a s i p; decide

lemma maskOf_newW : maskOf (fieldBits u w a s) i p &&& newW ≠ 0 ↔ w = true := by revert u w a s i p; decide

lemma maskOf_newA : maskOf (fieldBits u w a s) i p &&& newA ≠ 0 ↔ a = true := by revert u w a s i p; decide

lemma maskOf_newS : maskOf (fieldBits u w a s) i p &&& newS ≠ 0 ↔ s = true := by revert u w a s i p; decide

lemma maskOf_newI : maskOf (fieldBits u w a s) i p &&& newI ≠ 0 ↔ i = true := by revert u w a s i p; decide

lemma maskOf_push : maskOf (fieldBits u w a s) i p &&& tcpPushBit ≠ 0 ↔ p = true := by revert u w a s i p; decide

lemma maskOf_newC : maskOf (fieldBits u w a s) i p &&& newC = 0 ∧
    (maskOf (fieldBits u w a s) i p ||| newC) &&& newC ≠ 0 ∧
    (maskOf (fieldBits u w a s) i p ||| newC) &&& ~~~newC = maskOf (fieldBits u w a s) i p := by
  revert u w a s i p; decide

lemma fieldBits_eq_SA : fieldBits u w a s = newS ||| newA ↔ u = false ∧ w = false ∧ a = true ∧ s = true := by
  revert u w a s; decide

lemma fieldBits_eq_S : fieldBits u w a s = newS ↔ u = false ∧ w = false ∧ a = false ∧ s = true := by
  revert u w a s; decide

end MaskBits

/-! ### Applying a change -/

def withPush (p : Bool) (flags : UInt8) : UInt8 := if p then flags ||| tcpPush else flags &&& ~~~tcpPush

def withUrg (u : Bool) (flags : UInt8) : UInt8 := if u then flags ||| tcpUrg else flags &&& ~~~tcpUrg

def Conn.dataLen (x : Conn) (v : Vars) : UInt32 := UInt32.ofNat (v.totalLen.toNat - x.len)

/-- The changes of the TCP fields. The two frequent cases leave URG as it is. -/
def Coding.apply (x : Conn) (v : Vars) : Coding → Vars
  | .echo => (v.setAck (v.ack + x.dataLen v)).setSeq (v.seq + x.dataLen v)
  | .bulk => v.setSeq (v.seq + x.dataLen v)
  | .fields urgent window ack seq =>
    (((v.setFlags (withUrg urgent.isSome v.flags)).setUrgent (urgent.getD v.urgent)).setWindow
      (v.window + window)).setAck (v.ack + ack.toUInt32) |>.setSeq (v.seq + seq.toUInt32)

/-- The checksum of an IP header, which is taken with 0 in its place. -/
def Conn.rightSum (x : Conn) (v : Vars) : UInt16 := checksum16 [x.ipBytes (v.setIpSum 0)]

/-- The header that a change makes of a saved one, with the checksum and the data of the packet. -/
def Change.apply (c : Change) (x : Conn) (v : Vars) (tcpSum : UInt16) (d : Bytes) : Vars :=
  let v := c.coding.apply x ((v.setTcpSum tcpSum).setFlags (withPush c.push v.flags))
  let v := (v.setIpId (v.ipId + c.ipId)).setTotalLen (UInt16.ofNat (x.len + d.length))
  v.setIpSum (x.rightSum v)

section Apply

variable (x : Conn) (v : Vars)

lemma readChange_difference {g : UInt16 → Vars} {n : UInt16}
    (ha : apply (x.header v) n = .ok (x.header (g n))) (hz : g 0 = v) (rest : Bytes) :
    readChange (decide (n ≠ 0)) apply (x.header v, Coding.differenceBytes n ++ rest) =
      .ok (x.header (g n), rest) := by
  by_cases hn : n = 0
  · subst hn
    simp [readChange, Coding.differenceBytes, hz]
  · simp [readChange, Coding.differenceBytes, hn, decodeValue_encodeNonzero hn, ha]

lemma readChange_value (ha : apply (x.header v) n = .ok (x.header w)) (rest : Bytes) :
    readChange true apply (x.header v, encodeZeroAllowed n ++ rest) = .ok (x.header w, rest) := by
  simp [readChange, decodeValue_encodeZeroAllowed, ha]

lemma readChange_window (n : UInt16) (rest : Bytes) :
    readChange (decide (n ≠ 0)) (fun h n => addU16 h (x.tcp + 14) n)
      (x.header v, Coding.differenceBytes n ++ rest) =
      .ok (x.header (v.setWindow (v.window + n)), rest) :=
  readChange_difference x v (g := fun n => v.setWindow (v.window + n)) (x.add_window v n)
    (by ext <;> simp) rest

lemma readChange_ack (n : UInt16) (rest : Bytes) :
    readChange (decide (n ≠ 0)) (fun h n => addU32 h (x.tcp + 8) n.toUInt32)
      (x.header v, Coding.differenceBytes n ++ rest) =
      .ok (x.header (v.setAck (v.ack + n.toUInt32)), rest) :=
  readChange_difference x v (g := fun n => v.setAck (v.ack + n.toUInt32)) (x.add_ack v n.toUInt32)
    (by ext <;> simp) rest

lemma readChange_seq (n : UInt16) (rest : Bytes) :
    readChange (decide (n ≠ 0)) (fun h n => addU32 h (x.tcp + 4) n.toUInt32)
      (x.header v, Coding.differenceBytes n ++ rest) =
      .ok (x.header (v.setSeq (v.seq + n.toUInt32)), rest) :=
  readChange_difference x v (g := fun n => v.setSeq (v.seq + n.toUInt32)) (x.add_seq v n.toUInt32)
    (by ext <;> simp) rest

lemma applyUrgent_eq (urgent : Option UInt16) (h : changes &&& newU ≠ 0 ↔ urgent.isSome = true) (rest : Bytes) :
    applyUrgent x.tcp changes (x.header v, urgent.elim [] encodeZeroAllowed ++ rest) =
      .ok (x.header ((v.setFlags (withUrg urgent.isSome v.flags)).setUrgent (urgent.getD v.urgent)), rest) := by
  unfold applyUrgent
  cases urgent with
  | none =>
    rw [if_neg (by simpa using h)]
    simp only [Conn.modify_flags]
    rfl
  | some n =>
    rw [if_pos (by simpa using h)]
    simp only [Conn.modify_flags, ok_bind]
    exact readChange_value x _ (x.write_urgent (v.setFlags (v.flags ||| tcpUrg)) n) rest

lemma applyChanges_eq {c : Coding} (hc : c.Proper) (i p : Bool) (rest : Bytes) :
    applyChanges x.len x.tcp (maskOf c.bits i p) (x.header v, c.bytes ++ rest) =
      .ok (x.header (c.apply x v), rest) := by
  have ht := x.read_totalLen v [] (ε := VjError)
  rw [← x.saved] at ht
  obtain ⟨u, w, a, s, hb⟩ := exists_fieldBits c
  have hs : maskOf c.bits i p &&& specialsMask = c.bits := by rw [hb, maskOf_specials]
  unfold applyChanges
  rw [hs]
  cases c with
  | echo =>
    simp only [ht, ok_bind, Conn.add_ack, Conn.add_seq]
    rfl
  | bulk =>
    simp only [ht, Conn.add_seq]
    rfl
  | fields urgent =>
    obtain ⟨hI, hD⟩ := hc.resolve_left id
    rw [if_neg hI, if_neg hD]
    simp only [Coding.bits, Coding.bytes, List.append_assoc]
    rw [applyUrgent_eq x v urgent (maskOf_newU _ _ _ _ _ _), ok_bind]
    simp only [maskOf_newW, maskOf_newA, maskOf_newS, decide_eq_true_eq]
    rw [readChange_window, ok_bind, readChange_ack, ok_bind, readChange_seq]
    rfl

lemma applyIpId_eq (n : UInt16) (h : changes &&& newI ≠ 0 ↔ n ≠ 1) (rest : Bytes) :
    applyIpId changes (x.header v, (if n ≠ 1 then encodeZeroAllowed n else []) ++ rest) =
      .ok (x.header (v.setIpId (v.ipId + n)), rest) := by
  unfold applyIpId
  by_cases hn : n = 1
  · rw [if_neg (by rw [h]; simp [hn]), x.add_ipId, hn]
    rfl
  · rw [if_pos (h.2 hn), if_pos hn]
    exact readChange_value x v (x.add_ipId v n) rest

lemma finishHeader_eq (h : x.len + d.length ≤ 65535) :
    finishHeader x.len x.tcp (x.header v, d) =
      .ok (x.header ((v.setTotalLen (UInt16.ofNat (x.len + d.length))).setIpSum
        (x.rightSum (v.setTotalLen (UInt16.ofNat (x.len + d.length))))), d) := by
  have hok : Outcome.failIf (x.len + d.length > 65535) VjError.malformed = .ok () := by simpa using h
  unfold finishHeader
  dsimp only
  rw [hok, ok_bind, x.write_totalLen, ok_bind, Conn.clear_ipSum, x.slice_ip, ok_bind, x.write_ipSum]
  rfl

/-- **Rebuilding a header**: the decompressor reads the change back and applies it to its header. -/
theorem rebuildHeader_eq {c : Change} (hc : c.coding.Proper) (sum : UInt16) {d : Bytes}
    (h : x.len + d.length ≤ 65535) :
    rebuildHeader (x.header v) c.mask (octets16 sum ++ (c.bytes ++ d)) = .ok (x.header (c.apply x v sum d), d) := by
  have hf : (index (x.header v) 0 : Outcome VjError UInt8) = .ok x.first := rfl
  obtain ⟨u, w, a, s, hb⟩ := exists_fieldBits c.coding
  have hp : c.mask &&& tcpPushBit ≠ 0 ↔ c.push = true := by
    rw [Change.mask, hb]
    exact maskOf_push _ _ _ _ _ _
  have hid : c.mask &&& newI ≠ 0 ↔ c.ipId ≠ 1 := by rw [Change.mask, hb, maskOf_newI, decide_eq_true_eq]
  have hfl (flags : UInt8) : (if c.mask &&& tcpPushBit ≠ 0 then flags ||| tcpPush else flags &&& ~~~tcpPush) =
      withPush c.push flags := by simp only [hp, withPush]
  simp only [octets16, List.cons_append, List.nil_append, rebuildHeader, hf, ok_bind, x.first_len, x.length_header]
  rw [show [(sum >>> 8).toUInt8, sum.toUInt8] = octets16 sum from rfl, x.write_tcpSum, ok_bind,
    x.modify_flags, ok_bind]
  simp only [hfl, Change.bytes, List.append_assoc]
  rw [Change.mask, applyChanges_eq x _ hc, ok_bind, ← Change.mask, applyIpId_eq x _ _ hid, ok_bind,
    finishHeader_eq x _ h]
  rfl

end Apply

end OneXBts.Packet.Vj
