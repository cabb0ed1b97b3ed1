import OneXBts.Packet.Vj

/-!
The fields of a TCP/IP header.

`Conn` is what the packets of a connection share, with the two length fields right by construction, and `Vars` what a
compressed packet can change; `Conn.header x v` are the octets. A packet that parses is a header followed by data
(`exists_header`); on a header every read of the source is a field, and every write an update of `Vars`.
-/

namespace OneXBts.Packet.Vj

open Lib Packet.Ppp List TcpHeaderState
open Outcome (ok_bind failIf_eq_ok bind_ne_panic failIf_ne_panic)

/-- What the headers of a connection have in common. -/
structure Conn where
  /-- Version and header length. -/
  first : UInt8
  tos : UInt8
  fragment : UInt16
  ttl : UInt8
  protocol : UInt8
  source : UInt32
  dest : UInt32
  ipOptions : Bytes
  sourcePort : UInt16
  destPort : UInt16
  /-- Header length and reserved bits. -/
  offset : UInt8
  tcpOptions : Bytes
  ip_len : (first &&& 0x0f).toNat * 4 = 20 + ipOptions.length
  tcp_len : (offset >>> 4).toNat * 4 = 20 + tcpOptions.length

@[ext] structure Vars where
  totalLen : UInt16
  ipId : UInt16
  ipSum : UInt16
  seq : UInt32
  ack : UInt32
  flags : UInt8
  window : UInt16
  tcpSum : UInt16
  urgent : UInt16
  deriving DecidableEq, Repr

namespace Vars

variable (v : Vars)

@[simps] def setTotalLen (n : UInt16) : Vars := { v with totalLen := n }
@[simps] def setIpId (n : UInt16) : Vars := { v with ipId := n }
@[simps] def setIpSum (n : UInt16) : Vars := { v with ipSum := n }
@[simps] def setSeq (n : UInt32) : Vars := { v with seq := n }
@[simps] def setAck (n : UInt32) : Vars := { v with ack := n }
@[simps] def setFlags (n : UInt8) : Vars := { v with flags := n }
@[simps] def setWindow (n : UInt16) : Vars := { v with window := n }
@[simps] def setTcpSum (n : UInt16) : Vars := { v with tcpSum := n }
@[simps] def setUrgent (n : UInt16) : Vars := { v with urgent := n }

end Vars

namespace Conn

def tcp (x : Conn) : ℕ := 20 + x.ipOptions.length

def len (x : Conn) : ℕ := x.tcp + 20 + x.tcpOptions.length

def beforeSum (x : Conn) (v : Vars) : Bytes :=
  x.first :: x.tos :: (octets16 v.totalLen ++ (octets16 v.ipId ++ (octets16 x.fragment ++ [x.ttl, x.protocol])))

def ipBytes (x : Conn) (v : Vars) : Bytes :=
  x.first :: x.tos :: (octets16 v.totalLen ++ (octets16 v.ipId ++ (octets16 x.fragment ++
    x.ttl :: x.protocol :: (octets16 v.ipSum ++ (octets32 x.source ++ (octets32 x.dest ++ x.ipOptions))))))

def beforeOffset (x : Conn) (v : Vars) : Bytes :=
  octets16 x.sourcePort ++ (octets16 x.destPort ++ (octets32 v.seq ++ octets32 v.ack))

def tcpBytes (x : Conn) (v : Vars) : Bytes :=
  octets16 x.sourcePort ++ (octets16 x.destPort ++ (octets32 v.seq ++ (octets32 v.ack ++
    x.offset :: v.flags :: (octets16 v.window ++ (octets16 v.tcpSum ++ (octets16 v.urgent ++ x.tcpOptions))))))

def header (x : Conn) (v : Vars) : Bytes := x.ipBytes v ++ x.tcpBytes v

variable (x : Conn) (v : Vars)

@[simp] lemma length_ipBytes : (x.ipBytes v).length = x.tcp := by
  simp [ipBytes, tcp]
  omega

lemma length_beforeOffset : (x.beforeOffset v).length = 12 := rfl

@[simp] lemma length_header : (x.header v).length = x.len := by
  simp [header, tcpBytes, len]
  omega

lemma len_ge : x.tcp + 20 ≤ x.len := Nat.le_add_right _ _

lemma first_len : (x.first &&& 0x0f).toNat * 4 = x.tcp := x.ip_len

lemma split_tcp (h : x.tcpBytes v = pre ++ post) (d : Bytes) :
    x.header v ++ d = (x.ipBytes v ++ pre) ++ (post ++ d) := by
  rw [header, h]
  simp only [append_assoc]

/-! ### Reads

The rest `d` is the data after the header; a saved header has none. -/

section Reads

variable {ε : Type} (d : Bytes)

lemma saved : x.header v = x.header v ++ [] := (append_nil _).symm

lemma index_first : (index (x.header v ++ d) 0 : Outcome ε UInt8) = .ok x.first := rfl

lemma index_protocol : (index (x.header v ++ d) 9 : Outcome ε UInt8) = .ok x.protocol := rfl

lemma read_totalLen : (readU16 (x.header v ++ d) 2 : Outcome ε UInt16) = .ok v.totalLen :=
  readU16_at (show _ = [x.first, x.tos] ++ (octets16 v.totalLen ++ _) from rfl) rfl

lemma read_ipId : (readU16 (x.header v ++ d) 4 : Outcome ε UInt16) = .ok v.ipId :=
  readU16_at (show _ = (x.first :: x.tos :: octets16 v.totalLen) ++ (octets16 v.ipId ++ _) from rfl) rfl

lemma read_fragment : (readU16 (x.header v ++ d) 6 : Outcome ε UInt16) = .ok x.fragment :=
  readU16_at (show _ = (x.first :: x.tos :: (octets16 v.totalLen ++ octets16 v.ipId)) ++
    (octets16 x.fragment ++ _) from rfl) rfl

lemma read_ipSum : (readU16 (x.header v ++ d) 10 : Outcome ε UInt16) = .ok v.ipSum :=
  readU16_at (show _ = x.beforeSum v ++ (octets16 v.ipSum ++ _) from rfl) rfl

lemma read_seq : (readU32 (x.header v ++ d) (x.tcp + 4) : Outcome ε UInt32) = .ok v.seq :=
  readU32_at (x.split_tcp v (show _ = (octets16 x.sourcePort ++ octets16 x.destPort) ++
    (octets32 v.seq ++ _) from rfl) d) (by simp)

lemma read_ack : (readU32 (x.header v ++ d) (x.tcp + 8) : Outcome ε UInt32) = .ok v.ack :=
  readU32_at (x.split_tcp v (show _ = (octets16 x.sourcePort ++ (octets16 x.destPort ++ octets32 v.seq)) ++
    (octets32 v.ack ++ _) from rfl) d) (by simp)

lemma index_offset : (index (x.header v ++ d) (x.tcp + 12) : Outcome ε UInt8) = .ok x.offset :=
  index_at (x.split_tcp v (show _ = x.beforeOffset v ++ x.offset :: _ from rfl) d)
    (by simp [length_beforeOffset])

lemma index_flags : (index (x.header v ++ d) (x.tcp + 13) : Outcome ε UInt8) = .ok v.flags :=
  index_at (x.split_tcp v (show _ = (x.beforeOffset v ++ [x.offset]) ++ v.flags :: _ from rfl) d)
    (by simp [length_beforeOffset])

lemma read_window : (readU16 (x.header v ++ d) (x.tcp + 14) : Outcome ε UInt16) = .ok v.window :=
  readU16_at (x.split_tcp v (show _ = (x.beforeOffset v ++ [x.offset, v.flags]) ++
    (octets16 v.window ++ _) from rfl) d) (by simp [length_beforeOffset])

lemma read_urgent : (readU16 (x.header v ++ d) (x.tcp + 18) : Outcome ε UInt16) = .ok v.urgent :=
  readU16_at (x.split_tcp v (show _ = (x.beforeOffset v ++ x.offset :: v.flags ::
    (octets16 v.window ++ octets16 v.tcpSum)) ++ (octets16 v.urgent ++ _) from rfl) d)
    (by simp [length_beforeOffset])

end Reads

/-! ### Ranges -/

lemma getRange_at (h : data = pre ++ (mid ++ post)) (ha : a = pre.length) (hb : b = pre.length + mid.length) :
    getRange data a b = some mid := by grind [getRange]

section Ranges

variable {ε : Type} (d : Bytes)

lemma getRange_addresses : getRange (x.header v ++ d) 12 20 = some (octets32 x.source ++ octets32 x.dest) :=
  getRange_at (show _ = (x.first :: x.tos :: (octets16 v.totalLen ++ (octets16 v.ipId ++
    (octets16 x.fragment ++ x.ttl :: x.protocol :: octets16 v.ipSum)))) ++ _ from rfl) rfl rfl

lemma getRange_ports : getRange (x.header v ++ d) x.tcp (x.tcp + 4) =
    some (octets16 x.sourcePort ++ octets16 x.destPort) :=
  getRange_at (x.split_tcp v (show _ = [] ++ ((octets16 x.sourcePort ++ octets16 x.destPort) ++ _) from rfl) d)
    (by simp) (by simp)

lemma getRange_first : getRange (x.header v ++ d) 0 2 = some [x.first, x.tos] :=
  getRange_at (show _ = [] ++ _ from rfl) rfl rfl

lemma getRange_fragment : getRange (x.header v ++ d) 6 10 = some (octets16 x.fragment ++ [x.ttl, x.protocol]) :=
  getRange_at (show _ = (x.first :: x.tos :: (octets16 v.totalLen ++ octets16 v.ipId)) ++ _ from rfl) rfl rfl

lemma getRange_ipOptions : getRange (x.header v ++ d) 20 x.tcp = some x.ipOptions :=
  getRange_at (show _ = (x.first :: x.tos :: (octets16 v.totalLen ++ (octets16 v.ipId ++
    (octets16 x.fragment ++ x.ttl :: x.protocol :: (octets16 v.ipSum ++ (octets32 x.source ++
    octets32 x.dest)))))) ++ _ by rw [header, append_assoc]; rfl) rfl rfl

lemma getRange_tcpOptions : getRange (x.header v ++ d) (x.tcp + 20) x.len = some x.tcpOptions :=
  getRange_at (x.split_tcp v (show _ = (x.beforeOffset v ++ x.offset :: v.flags :: (octets16 v.window ++
    (octets16 v.tcpSum ++ octets16 v.urgent))) ++ x.tcpOptions from rfl) d)
    (by simp [length_beforeOffset]) (by simp [length_beforeOffset, len])

lemma getRange_tcpSum : getRange (x.header v ++ d) (x.tcp + 16) (x.tcp + 18) = some (octets16 v.tcpSum) :=
  getRange_at (x.split_tcp v (show _ = (x.beforeOffset v ++ x.offset :: v.flags :: octets16 v.window) ++
    (octets16 v.tcpSum ++ _) from rfl) d) (by simp [length_beforeOffset]) (by simp [length_beforeOffset])

lemma getRange_data (hn : n = x.len + d.length) :
    getRange (x.header v ++ d) x.len n = some d :=
  getRange_at (show _ = x.header v ++ (d ++ []) by rw [append_nil]) (by simp) (by simpa using hn)

lemma slice_header : (slice (x.header v ++ d) x.len : Outcome ε Bytes) = .ok (x.header v) := by
  rw [slice_ok (by simp), take_left' (length_header x v)]

lemma slice_ip : (slice (x.header v) x.tcp : Outcome ε Bytes) = .ok (x.ipBytes v) := by
  grind [slice_ok, header, length_ipBytes]

end Ranges

/-! ### Writes to a saved header -/

section Writes

variable {ε : Type}

lemma write_totalLen (n : UInt16) :
    (writeAt (x.header v) 2 (octets16 n) : Outcome ε Bytes) = .ok (x.header (v.setTotalLen n)) :=
  writeAt_at (show _ = [x.first, x.tos] ++ (octets16 v.totalLen ++ _) from rfl) rfl rfl rfl

lemma write_ipId (n : UInt16) :
    (writeAt (x.header v) 4 (octets16 n) : Outcome ε Bytes) = .ok (x.header (v.setIpId n)) :=
  writeAt_at (show _ = (x.first :: x.tos :: octets16 v.totalLen) ++ (octets16 v.ipId ++ _) from rfl)
    rfl rfl rfl

lemma write_ipSum (n : UInt16) :
    (writeAt (x.header v) 10 (octets16 n) : Outcome ε Bytes) = .ok (x.header (v.setIpSum n)) :=
  writeAt_at (show _ = x.beforeSum v ++ (octets16 v.ipSum ++ _) from rfl) rfl rfl rfl

lemma clear_ipSum {β : Type} (k : Bytes → Outcome ε β) : (do
    let h ← Outcome.setAt (x.header v) 10 0
    let h ← Outcome.setAt h 11 0
    k h) = k (x.header (v.setIpSum 0)) := by
  have h1 : (Outcome.setAt (x.header v) 10 0 : Outcome ε Bytes) =
      .ok (x.beforeSum v ++ 0 :: v.ipSum.toUInt8 :: (octets32 x.source ++ (octets32 x.dest ++ x.ipOptions)
        ++ x.tcpBytes v)) :=
    setAt_at (show _ = x.beforeSum v ++ (v.ipSum >>> 8).toUInt8 :: _ from rfl) rfl rfl
  have h2 : (Outcome.setAt (x.beforeSum v ++ 0 :: v.ipSum.toUInt8 :: (octets32 x.source ++ (octets32 x.dest ++
      x.ipOptions) ++ x.tcpBytes v)) 11 0 : Outcome ε Bytes) = .ok (x.header (v.setIpSum 0)) := by
    refine setAt_at (show _ = (x.beforeSum v ++ [0]) ++ v.ipSum.toUInt8 :: _ from rfl) rfl ?_
    have hz : octets16 0 = [0, 0] := by decide
    simp [header, ipBytes, beforeSum, tcpBytes, hz]
  rw [h1, ok_bind, h2, ok_bind]

lemma split_saved (h : x.tcpBytes v = pre ++ post) :
    x.header v = (x.ipBytes v ++ pre) ++ post := by rw [header, h, append_assoc]

lemma write_seq (n : UInt32) :
    (writeAt (x.header v) (x.tcp + 4) (octets32 n) : Outcome ε Bytes) = .ok (x.header (v.setSeq n)) :=
  writeAt_at (x.split_saved v (show _ = (octets16 x.sourcePort ++ octets16 x.destPort) ++
    (octets32 v.seq ++ _) from rfl)) (by simp) rfl (append_assoc _ _ _)

lemma write_ack (n : UInt32) :
    (writeAt (x.header v) (x.tcp + 8) (octets32 n) : Outcome ε Bytes) = .ok (x.header (v.setAck n)) :=
  writeAt_at (x.split_saved v (show _ = (octets16 x.sourcePort ++ (octets16 x.destPort ++ octets32 v.seq)) ++
    (octets32 v.ack ++ _) from rfl)) (by simp) rfl (append_assoc _ _ _)

lemma write_window (n : UInt16) :
    (writeAt (x.header v) (x.tcp + 14) (octets16 n) : Outcome ε Bytes) = .ok (x.header (v.setWindow n)) :=
  writeAt_at (x.split_saved v (show _ = (x.beforeOffset v ++ [x.offset, v.flags]) ++
    (octets16 v.window ++ _) from rfl)) (by simp [length_beforeOffset]) rfl (append_assoc _ _ _)

lemma write_tcpSum (n : UInt16) :
    (writeAt (x.header v) (x.tcp + 16) (octets16 n) : Outcome ε Bytes) = .ok (x.header (v.setTcpSum n)) :=
  writeAt_at (x.split_saved v (show _ = (x.beforeOffset v ++ x.offset :: v.flags :: octets16 v.window) ++
    (octets16 v.tcpSum ++ _) from rfl)) (by simp [length_beforeOffset]) rfl (append_assoc _ _ _)

lemma write_urgent (n : UInt16) :
    (writeAt (x.header v) (x.tcp + 18) (octets16 n) : Outcome ε Bytes) = .ok (x.header (v.setUrgent n)) :=
  writeAt_at (x.split_saved v (show _ = (x.beforeOffset v ++ x.offset :: v.flags ::
    (octets16 v.window ++ octets16 v.tcpSum)) ++ (octets16 v.urgent ++ _) from rfl))
    (by simp [length_beforeOffset]) rfl (append_assoc _ _ _)

lemma modify_flags (g : UInt8 → UInt8) : (modifyAt (x.header v) (x.tcp + 13) g : Outcome ε Bytes) =
    .ok (x.header (v.setFlags (g v.flags))) := by
  unfold modifyAt
  rw [x.saved, x.index_flags, ok_bind, append_nil]
  exact setAt_at (x.split_saved v (show _ = (x.beforeOffset v ++ [x.offset]) ++ v.flags :: _ from rfl))
    (by simp [length_beforeOffset]) (append_assoc _ _ _)

lemma add_ipId (n : UInt16) :
    (addU16 (x.header v) 4 n : Outcome ε Bytes) = .ok (x.header (v.setIpId (v.ipId + n))) := by
  rw [addU16, x.saved, x.read_ipId, ok_bind, append_nil, write_ipId]

lemma add_window (n : UInt16) : (addU16 (x.header v) (x.tcp + 14) n : Outcome ε Bytes) =
    .ok (x.header (v.setWindow (v.window + n))) := by
  rw [addU16, x.saved, x.read_window, ok_bind, append_nil, write_window]

lemma add_seq (n : UInt32) :
    (addU32 (x.header v) (x.tcp + 4) n : Outcome ε Bytes) = .ok (x.header (v.setSeq (v.seq + n))) := by
  rw [addU32, x.saved, x.read_seq, ok_bind, append_nil, write_seq]

lemma add_ack (n : UInt32) :
    (addU32 (x.header v) (x.tcp + 8) n : Outcome ε Bytes) = .ok (x.header (v.setAck (v.ack + n))) := by
  rw [addU32, x.saved, x.read_ack, ok_bind, append_nil, write_ack]

end Writes

end Conn

/-! ### Parsing -/

lemma exists_ip (h : 20 ≤ l.length) :
    ∃ first tos totalLen ipId fragment ttl protocol ipSum source dest rest,
      l = first :: tos :: (octets16 totalLen ++ (octets16 ipId ++ (octets16 fragment ++
        ttl :: protocol :: (octets16 ipSum ++ (octets32 source ++ (octets32 dest ++ rest)))))) := by
  obtain ⟨first, l, rfl, h19⟩ := exists_octet h
  obtain ⟨tos, l, rfl, h18⟩ := exists_octet h19
  obtain ⟨totalLen, l, rfl, h16⟩ := exists_octets16 h18
  obtain ⟨ipId, l, rfl, h14⟩ := exists_octets16 h16
  obtain ⟨fragment, l, rfl, h12⟩ := exists_octets16 h14
  obtain ⟨ttl, l, rfl, h11⟩ := exists_octet h12
  obtain ⟨protocol, l, rfl, h10⟩ := exists_octet h11
  obtain ⟨ipSum, l, rfl, h8⟩ := exists_octets16 h10
  obtain ⟨source, l, rfl, h4⟩ := exists_octets32 h8
  obtain ⟨dest, l, rfl, -⟩ := exists_octets32 h4
  exact ⟨_, _, _, _, _, _, _, _, _, _, _, rfl⟩

lemma exists_tcp (h : 20 ≤ l.length) :
    ∃ sourcePort destPort seq ack offset flags window tcpSum urgent rest,
      l = octets16 sourcePort ++ (octets16 destPort ++ (octets32 seq ++ (octets32 ack ++
        offset :: flags :: (octets16 window ++ (octets16 tcpSum ++ (octets16 urgent ++ rest)))))) := by
  obtain ⟨sourcePort, l, rfl, h18⟩ := exists_octets16 h
  obtain ⟨destPort, l, rfl, h16⟩ := exists_octets16 h18
  obtain ⟨seq, l, rfl, h12⟩ := exists_octets32 h16
  obtain ⟨ack, l, rfl, h8⟩ := exists_octets32 h12
  obtain ⟨offset, l, rfl, h7⟩ := exists_octet h8
  obtain ⟨flags, l, rfl, h6⟩ := exists_octet h7
  obtain ⟨window, l, rfl, h4⟩ := exists_octets16 h6
  obtain ⟨tcpSum, l, rfl, h2⟩ := exists_octets16 h4
  obtain ⟨urgent, l, rfl, -⟩ := exists_octets16 h2
  exact ⟨_, _, _, _, _, _, _, _, _, _, rfl⟩

lemma parse_inv (h : ParsedTcpPacket.parse pkt = .ok p) :
    ∃ (first protocol offset : UInt8) (total : UInt16) (ipLen tcpLen : ℕ),
      (index pkt 0 : Outcome Unit UInt8) = .ok first ∧ ipLen = (first &&& 0x0f).toNat * 4 ∧
      20 ≤ ipLen ∧ (readU16 pkt 2 : Outcome Unit UInt16) = .ok total ∧
      ipLen + 20 ≤ total.toNat ∧ total.toNat ≤ pkt.length ∧
      (index pkt 9 : Outcome Unit UInt8) = .ok protocol ∧ protocol = ipprotoTcp ∧
      (index pkt (ipLen + 12) : Outcome Unit UInt8) = .ok offset ∧ tcpLen = (offset >>> 4).toNat * 4 ∧
      20 ≤ tcpLen ∧ ipLen + tcpLen ≤ total.toNat ∧
      p = ⟨pkt, total.toNat, ipLen, ipLen, ipLen + tcpLen⟩ := by
  obtain ⟨_, -, h⟩ := Outcome.bind_eq_ok.1 h
  obtain ⟨first, hf, h⟩ := Outcome.bind_eq_ok.1 h
  obtain ⟨_, -, h⟩ := Outcome.bind_eq_ok.1 h
  obtain ⟨_, hip, h⟩ := Outcome.bind_eq_ok.1 h
  obtain ⟨total, ht, h⟩ := Outcome.bind_eq_ok.1 h
  obtain ⟨_, hlen, h⟩ := Outcome.bind_eq_ok.1 h
  obtain ⟨protocol, hp, h⟩ := Outcome.bind_eq_ok.1 h
  obtain ⟨_, htcp, h⟩ := Outcome.bind_eq_ok.1 h
  obtain ⟨offset, ho, h⟩ := Outcome.bind_eq_ok.1 h
  obtain ⟨_, hoff, h⟩ := Outcome.bind_eq_ok.1 h
  rw [failIf_eq_ok] at hip hlen htcp hoff
  cases h
  push Not at hip hlen htcp hoff
  exact ⟨first, protocol, offset, total, _, _, hf, rfl, hip.1, ht, hlen.1, hlen.2, hp, htcp,
    ho, rfl, hoff.1, hoff.2, rfl⟩

lemma parse_ne_panic (pkt : Bytes) : ParsedTcpPacket.parse pkt ≠ .panic := by
  refine bind_ne_panic failIf_ne_panic fun _ h40 => ?_
  rw [failIf_eq_ok] at h40
  refine bind_ne_panic (index_ne_panic (by omega)) fun first _ => ?_
  refine bind_ne_panic failIf_ne_panic fun _ _ => ?_
  refine bind_ne_panic failIf_ne_panic fun _ hip => ?_
  refine bind_ne_panic ?_ fun total _ => ?_
  · refine bind_ne_panic (index_ne_panic (by omega)) fun _ _ => ?_
    exact bind_ne_panic (index_ne_panic (by omega)) fun _ _ => by simp
  refine bind_ne_panic failIf_ne_panic fun _ ht => ?_
  rw [failIf_eq_ok] at ht
  refine bind_ne_panic (index_ne_panic (by omega)) fun protocol _ => ?_
  refine bind_ne_panic failIf_ne_panic fun _ _ => ?_
  refine bind_ne_panic (index_ne_panic (by omega)) fun offset _ => ?_
  exact bind_ne_panic failIf_ne_panic fun _ _ => by simp

def Conn.parsed (x : Conn) (v : Vars) (d : Bytes) : ParsedTcpPacket :=
  ⟨x.header v ++ d, v.totalLen.toNat, x.tcp, x.tcp, x.len⟩

/-- **A packet that parses is the octets of a header, and data.** -/
theorem exists_header (h : ParsedTcpPacket.parse pkt = .ok p) :
    ∃ (x : Conn) (v : Vars) (d : Bytes), pkt = x.header v ++ d ∧ x.protocol = ipprotoTcp ∧
      x.len ≤ v.totalLen.toNat ∧ v.totalLen.toNat ≤ pkt.length ∧ p = x.parsed v d := by
  obtain ⟨first, protocol, offset, total, ipLen, tcpLen, hf, hip, hip20, ht, hlen, ht', hp,
    htcp, ho, htc, htcp20, hb, rfl⟩ := parse_inv h
  obtain ⟨first', tos, totalLen, ipId, fragment, ttl, protocol', ipSum, source, dest, rest, rfl⟩ :=
    exists_ip (show 20 ≤ pkt.length by omega)
  obtain rfl : first' = first := Outcome.ok.inj hf
  have hrest : (octets16 totalLen ++ (octets16 ipId ++ (octets16 fragment ++ ttl :: protocol' ::
      (octets16 ipSum ++ (octets32 source ++ (octets32 dest ++ rest)))))).length = 18 + rest.length := by
    simp; omega
  rw [length_cons, length_cons, hrest] at ht'
  -- the options are what lies between the fixed part and the offset of the TCP header
  obtain ⟨ipOptions, rest, rfl, hopt⟩ : ∃ o r, rest = o ++ r ∧ o.length = ipLen - 20 :=
    ⟨rest.take (ipLen - 20), rest.drop (ipLen - 20), (take_append_drop _ _).symm, by simp; omega⟩
  rw [length_append] at ht'
  obtain ⟨sourcePort, destPort, seq, ack, offset', flags, window, tcpSum, urgent, rest, rfl⟩ :=
    exists_tcp (show 20 ≤ rest.length by omega)
  obtain rfl : offset = offset' := by
    have := ho.symm.trans (index_at (show _ = (first' :: tos :: (octets16 totalLen ++ (octets16 ipId ++
      (octets16 fragment ++ ttl :: protocol' :: (octets16 ipSum ++ (octets32 source ++ (octets32 dest ++
      (ipOptions ++ (octets16 sourcePort ++ (octets16 destPort ++ (octets32 seq ++ octets32 ack))))))))))) ++
      offset' :: _ by simp; rfl) (by simp; omega))
    exact Outcome.ok.inj this
  -- and so are the options of TCP
  obtain ⟨tcpOptions, d, rfl, hto⟩ : ∃ o r, rest = o ++ r ∧ o.length = tcpLen - 20 := by
    refine ⟨rest.take (tcpLen - 20), rest.drop (tcpLen - 20), (take_append_drop _ _).symm, ?_⟩
    simp at ht' ⊢
    omega
  let x : Conn := ⟨first', tos, fragment, ttl, protocol', source, dest, ipOptions, sourcePort, destPort, offset,
    tcpOptions, by omega, by omega⟩
  let v : Vars := ⟨totalLen, ipId, ipSum, seq, ack, flags, window, tcpSum, urgent⟩
  have hpa : first' :: tos :: (octets16 totalLen ++ (octets16 ipId ++ (octets16 fragment ++
      ttl :: protocol' :: (octets16 ipSum ++ (octets32 source ++ (octets32 dest ++ (ipOptions ++
      (octets16 sourcePort ++ (octets16 destPort ++ (octets32 seq ++ (octets32 ack ++ offset :: flags ::
      (octets16 window ++ (octets16 tcpSum ++ (octets16 urgent ++ (tcpOptions ++ d))))))))))))))) =
      x.header v ++ d := by simp [Conn.header, Conn.ipBytes, Conn.tcpBytes, x, v]
  rw [hpa] at hf ht hp ho ⊢
  have hx : x.tcp = ipLen := by simp only [Conn.tcp, x]; omega
  have hxl : x.len = ipLen + tcpLen := by simp only [Conn.len, hx, x]; omega
  obtain rfl : total = totalLen := Outcome.ok.inj (ht.symm.trans (x.read_totalLen v d))
  refine ⟨x, v, d, rfl, ?_, ?_, ?_, ?_⟩
  · rw [← Outcome.ok.inj (hp.symm.trans (x.index_protocol v d)), htcp]
  · rw [hxl]
    exact hb
  · change total.toNat ≤ _
    simp at ht' ⊢
    omega
  · rw [Conn.parsed, hx, hxl]

/-! ### Comparing a packet with a saved header -/

def Conn.SameFlow (x y : Conn) : Prop :=
  (x.source = y.source ∧ x.dest = y.dest) ∧ x.sourcePort = y.sourcePort ∧ x.destPort = y.destPort

instance (x y : Conn) : Decidable (x.SameFlow y) := inferInstanceAs (Decidable (_ ∧ _))

section Compare

variable {ε : Type} (x y : Conn) (v w : Vars) (d : Bytes)

lemma range_eq (h : TcpHeaderState.getRange data a b = some r) :
    (TcpHeaderState.range data a b : Outcome ε Bytes) = .ok r := by rw [TcpHeaderState.range, h]

lemma sameFlow_eq : (mk (x.header v)).sameFlow (y.parsed w d) = (.ok (decide (x.SameFlow y)) : Outcome ε Bool) := by
  rw [x.saved]
  simp only [sameFlow, Conn.parsed, x.index_first, ok_bind, x.first_len, Conn.getRange_addresses,
    Conn.getRange_ports, Outcome.pure_eq, Outcome.ok.injEq]
  rw [Bool.eq_iff_iff]
  simp only [Bool.and_eq_true, beq_iff_eq, Option.some.injEq, octets32_append_inj, octets16_append_inj,
    octets16_inj, octets32_inj]
  exact decide_eq_true_iff.symm

/-- **What a compressed packet cannot say**: a packet of the same flow that passes the comparison belongs to
the same conn, in the sense that only `Vars` can differ. -/
theorem stableHeaderMatches_spec : ∃ b, (mk (x.header v)).stableHeaderMatches (y.parsed w d) =
    (.ok b : Outcome ε Bool) ∧ (b = true → x.SameFlow y → x = y) := by
  rw [x.saved]
  simp only [stableHeaderMatches, Conn.parsed, x.index_first, ok_bind, x.first_len, length_append,
    x.length_header, length_nil, Nat.add_zero, range_eq (Conn.getRange_first _ _ _), range_eq (Conn.getRange_fragment _ _ _),
    Conn.index_offset, range_eq (Conn.getRange_ipOptions _ _ _), range_eq (Conn.getRange_tcpOptions _ _ _)]
  split_ifs with h1 h2 h3 h4 h5
  all_goals refine ⟨_, rfl, ?_⟩
  all_goals simp only [Bool.false_eq_true, false_implies, beq_iff_eq]
  intro h6 hfl
  push Not at h2 h3 h4 h5
  simp only [List.cons.injEq, and_true, octets16_append_inj] at h2 h3
  obtain ⟨⟨h7, h8⟩, h9, h10⟩ := hfl
  cases x
  cases y
  simp_all

end Compare

end OneXBts.Packet.Vj
