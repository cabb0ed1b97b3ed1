import OneXBts.Packet.VjChoice

/-!
Van Jacobson compression, end to end.

The saved headers of the two ends are the same after every packet (`Sync`), as long as no packet goes out in one of the two
frequent cases while the header saved for it has URG set: their encoding does not clear the flag. `lossless_iff` says that
this is the only way in which a packet is not restored.
-/

namespace OneXBts.Packet.Vj

open Lib Packet.Ppp List VjState TcpHeaderState
open Outcome (ok_bind result_ok)

/-! ### Runs -/

def compressAll : VjState → List Bytes → Outcome Empty (List PppPacket × VjState)
  | s, [] => return ([], s)
  | s, packet :: packets => do
    let (out, s) ← s.compressIpPacket packet
    let (outs, s) ← compressAll s packets
    return (out :: outs, s)

def decompressAll : VjState → List PppPacket → Outcome Empty (List (Except VjError Bytes) × VjState)
  | s, [] => return ([], s)
  | s, packet :: packets => do
    let (out, s) ← s.decompressPacket packet.protocol packet.payload
    let (outs, s) ← decompressAll s packets
    return (out :: outs, s)

/-- An IP packet as long as its total length says, with the right header checksum: the checksum of the header
with 0 in the checksum field. -/
def IpOk (packet : Bytes) : Prop :=
  ∃ (first : UInt8) (total sum : UInt16), (index packet 0 : Outcome Empty UInt8) = .ok first ∧
    (readU16 packet 2 : Outcome Empty UInt16) = .ok total ∧ (readU16 packet 10 : Outcome Empty UInt16) = .ok sum ∧
    total.toNat = packet.length ∧
    sum = checksum16 [((packet.take ((first &&& 0x0f).toNat * 4)).set 10 0).set 11 0]

def TcpHeaderState.urg (s : TcpHeaderState) : Bool :=
  match (index s.header 0 : Outcome Empty UInt8) with
  | .ok first =>
    match (index s.header ((first &&& 0x0f).toNat * 4 + 13) : Outcome Empty UInt8) with
    | .ok flags => flags &&& tcpUrg ≠ 0
    | _ => false
  | _ => false

namespace VjState

def sentCompressed (s : VjState) (packet : Bytes) : Option (TcpHeaderState × PppPacket) :=
  match ParsedTcpPacket.parse packet with
  | .ok parsed =>
    match (isCompressibleTcp parsed : Outcome Empty Bool), s.findTxSlot parsed with
    | .ok true, .ok (some slot) =>
      match s.txStates[slot.toNat]? with
      | some (some state) =>
        match buildCompressedPacket parsed state with
        | .ok compressed => some (state, compressed)
        | _ => none
      | _ => none
    | _, _ => none
  | _ => none

/-- A packet is sent as SPECIAL_I or SPECIAL_D while the header saved for it has URG. -/
def losesUrg (s : VjState) (packet : Bytes) : Bool :=
  match s.sentCompressed packet with
  | some (state, ⟨_, changes :: _⟩) =>
    (changes &&& specialsMask == specialI || changes &&& specialsMask == specialD) && state.urg
  | _ => false

def keepsUrg : VjState → List Bytes → Bool
  | _, [] => true
  | s, packet :: packets => !s.losesUrg packet &&
    match s.compressIpPacket packet with
    | .ok (_, s) => keepsUrg s packets
    | _ => false

end VjState

/-! ### What the parser and the comparison see -/

section Facts

variable (x : Conn) (v : Vars) (d : Bytes)

lemma set_ipSum : ((x.ipBytes v).set 10 0).set 11 0 = x.ipBytes (v.setIpSum 0) := by
  simp [octets16, Conn.ipBytes, Vars.setIpSum_ipSum]

lemma IpOk.header (h : IpOk (x.header v ++ d)) :
    v.totalLen.toNat = x.len + d.length ∧ v.ipSum = x.rightSum v := by
  obtain ⟨first, total, sum, hf, ht, hsum, hlen, hr⟩ := h
  obtain rfl : first = x.first := Outcome.ok.inj (hf.symm.trans (x.index_first v d))
  obtain rfl : total = v.totalLen := Outcome.ok.inj (ht.symm.trans (x.read_totalLen v d))
  obtain rfl : sum = v.ipSum := Outcome.ok.inj (hsum.symm.trans (x.read_ipSum v d))
  refine ⟨by simpa using hlen, ?_⟩
  rwa [x.first_len, Conn.header, append_assoc, take_left' (x.length_ipBytes v), set_ipSum] at hr

lemma urg_header : (mk (x.header v)).urg = decide (v.flags &&& tcpUrg ≠ 0) := by
  rw [x.saved]
  simp only [urg, x.index_first, x.first_len, x.index_flags]

lemma isCompressibleTcp_ok : ∃ b, (isCompressibleTcp (x.parsed v d) : Outcome Empty Bool) = .ok b := by
  unfold isCompressibleTcp Conn.parsed
  simp only [x.read_fragment, ok_bind, x.index_flags]
  split_ifs
  · exact ⟨_, rfl⟩
  · exact ⟨_, rfl⟩

lemma fromPacket_eq {ε : Type} :
    (fromPacket (x.parsed v d) : Outcome ε TcpHeaderState) = .ok ⟨x.header v⟩ := by
  rw [fromPacket, Conn.parsed, x.slice_header]
  rfl

end Facts

/-! ### Slots -/

/-- Every saved header is the octets of a header. -/
def HeadersOk (states : List (Option TcpHeaderState)) : Prop :=
  ∀ (i : ℕ) (s : TcpHeaderState), states[i]? = some (some s) → ∃ (x : Conn) (v : Vars), s = ⟨x.header v⟩

lemma HeadersOk.set (h : HeadersOk states) (i : ℕ) (x : Conn) (v : Vars) :
    HeadersOk (states.set i (some ⟨x.header v⟩)) := by
  intro j s hs
  by_cases hij : i = j
  · grind
  · rw [List.getElem?_set_ne hij] at hs
    exact h j s hs

lemma findSlot_cases (hst : HeadersOk states) (y : Conn) (w : Vars)
    (d : Bytes) : ∀ {lru : List UInt8}, (∀ slot ∈ lru, slot.toNat < states.length) →
    findSlot states (y.parsed w d) lru = .ok none ∨
    ∃ slot ∈ lru, ∃ (x : Conn) (v : Vars), states[slot.toNat]? = some (some ⟨x.header v⟩) ∧ x.SameFlow y ∧
      findSlot states (y.parsed w d) lru = .ok (some slot) := by
  intro lru
  induction lru with
  | nil => exact fun _ => .inl rfl
  | cons slot lru ih =>
    intro hlru
    have ih := ih fun s hs => hlru s (mem_cons_of_mem _ hs)
    have hlt := hlru slot mem_cons_self
    -- the cases of the rest of the list, for a slot that is passed over
    have hrest (h : findSlot states (y.parsed w d) (slot :: lru) = findSlot states (y.parsed w d) lru) :
        findSlot states (y.parsed w d) (slot :: lru) = .ok none ∨
        ∃ slot' ∈ slot :: lru, ∃ (x : Conn) (v : Vars), states[slot'.toNat]? = some (some ⟨x.header v⟩) ∧
          x.SameFlow y ∧ findSlot states (y.parsed w d) (slot :: lru) = .ok (some slot') := by grind
    cases hget : states.get ⟨slot.toNat, hlt⟩ with
    | none =>
      have hat : states[slot.toNat]? = some none := by rw [List.getElem?_eq_getElem hlt, ← hget]; rfl
      refine hrest ?_
      rw [findSlot, Outcome.getAt, hat]
      rfl
    | some s =>
      have hat : states[slot.toNat]? = some (some s) := by rw [List.getElem?_eq_getElem hlt, ← hget]; rfl
      obtain ⟨x, v, rfl⟩ := hst _ _ hat
      by_cases hf : x.SameFlow y
      · refine .inr ⟨slot, mem_cons_self, x, v, hat, hf, ?_⟩
        rw [findSlot, Outcome.getAt, hat]
        simp only [ok_bind, sameFlow_eq, hf]
        rfl
      grind [findSlot, Outcome.getAt, ok_bind, sameFlow_eq]

/-! ### The two ends in step -/

/-- The decompressor holds what the compressor holds. -/
structure Sync (o : VjCompressionOptions) (tx rx : VjState) : Prop where
  txOptions : tx.txOptions = some o
  rxOptions : rx.rxOptions = some o
  states : rx.rxStates = tx.txStates
  length : tx.txStates.length = o.slotCount
  headers : HeadersOk tx.txStates
  lru : ∀ slot ∈ tx.txLru, slot ≤ o.maxSlotId
  last : rx.lastRecv = tx.lastXmit
  toss : tx.lastXmit.isSome → rx.toss = false

lemma slot_lt {o : VjCompressionOptions} {slot : UInt8} (h : slot ≤ o.maxSlotId) :
    slot.toNat < o.slotCount := by
  have := UInt8.le_iff_toNat_le.1 h
  unfold VjCompressionOptions.slotCount
  omega

lemma sync_configure (o : VjCompressionOptions) (tx rx : VjState) (rxOptions txOptions : Option VjCompressionOptions) :
    Sync o (tx.configure (some o) rxOptions) (rx.configure txOptions (some o)) where
  txOptions := rfl
  rxOptions := rfl
  states := rfl
  length := length_replicate
  headers := by
    intro i s hs
    have := mem_of_getElem? hs
    exact absurd (eq_of_mem_replicate this) (by simp)
  lru := by
    intro slot hsl
    obtain ⟨n, hn, rfl⟩ := mem_map.1 hsl
    rw [mem_range, VjCompressionOptions.slotCount] at hn
    have hmax := o.maxSlotId.toNat_lt
    rw [UInt8.le_iff_toNat_le, UInt8.toNat_ofNat_of_lt' (show n < 256 by omega)]
    omega
  last := rfl
  toss := by intro h; cases h

structure Saved (o : VjCompressionOptions) (tx : VjState) (slot : UInt8) (x : Conn) (v : Vars) (tx' : VjState) :
    Prop where
  txOptions : tx'.txOptions = tx.txOptions
  states : tx'.txStates = tx.txStates.set slot.toNat (some ⟨x.header v⟩)
  last : tx'.lastXmit = some slot
  lru : ∀ s ∈ tx'.txLru, s ≤ o.maxSlotId

lemma Sync.saved (h : Sync o tx rx) (hs : Saved o tx slot x v tx') :
    Sync o tx' { rx with
      rxStates := rx.rxStates.set slot.toNat (some ⟨x.header v⟩), lastRecv := some slot, toss := false } where
  txOptions := hs.txOptions.trans h.txOptions
  rxOptions := h.rxOptions
  states := by rw [hs.states, h.states]
  length := by rw [hs.states, length_set, h.length]
  headers := by rw [hs.states]; exact h.headers.set _ x v
  lru := hs.lru
  last := hs.last.symm
  toss := fun _ => rfl

section Step

variable {o : VjCompressionOptions} {tx : VjState} {packet : Bytes}

lemma markTxMru_lru (h : ∀ slot ∈ tx.txLru, slot ≤ o.maxSlotId) (hsl : slot ∈ tx.txLru) :
    ∀ s ∈ (tx.markTxMru slot).txLru, s ≤ o.maxSlotId := by
  intro s hs
  obtain rfl | hs := mem_cons.1 hs <;> grind

lemma saveTx_eq (x : Conn) (v : Vars) (d : Bytes) {s : VjState} {slot : UInt8}
    (hs : slot.toNat < s.txStates.length) : s.saveTx slot (x.parsed v d) =
      .ok { s with txStates := s.txStates.set slot.toNat (some ⟨x.header v⟩) } := by
  rw [saveTx, fromPacket_eq, ok_bind, Outcome.setAt, if_pos hs]
  rfl

lemma uncompressedTcpPacket_eq {x : Conn} {v : Vars} {d : Bytes} (hlen : v.totalLen.toNat = x.len + d.length)
    (s : VjState) (slot : UInt8) : s.uncompressedTcpPacket slot (x.parsed v d) =
      .ok (⟨pppVjUncompressedTcp, (x.header v ++ d).set 9 slot⟩, { s with lastXmit := some slot }) := by
  have hall : (slice (x.header v ++ d) v.totalLen.toNat : Outcome Empty Bytes) = .ok (x.header v ++ d) := by
    rw [slice_ok (by simp [hlen]), take_of_length_le (by simp [hlen])]
  have h9 : 9 < (x.header v ++ d).length := by
    have := x.len_ge
    simp
    omega
  rw [uncompressedTcpPacket, Conn.parsed, hall]
  rfl

/-- **What the compressor does with a packet**: it sends the packet as it is, or in full with a slot, or
compressed. Only the last can lose an URG. -/
inductive Sent (o : VjCompressionOptions) (tx : VjState) (packet : Bytes) : Prop
  | plain (hsent : tx.compressIpPacket packet = .ok (ipPpp packet, tx)) (hurg : tx.losesUrg packet = false)
  | full (x : Conn) (v : Vars) (d : Bytes) (slot : UInt8) (tx' : VjState) (hpacket : packet = x.header v ++ d)
      (hparse : ParsedTcpPacket.parse packet = .ok (x.parsed v d)) (hprotocol : x.protocol = ipprotoTcp)
      (hslot : slot ≤ o.maxSlotId) (hsaved : Saved o tx slot x v tx')
      (hsent : tx.compressIpPacket packet = .ok (⟨pppVjUncompressedTcp, packet.set 9 slot⟩, tx'))
      (hurg : tx.losesUrg packet = false)
  | compressed (x : Conn) (v w : Vars) (d : Bytes) (slot : UInt8) (tx' : VjState) (c : Change) (payload : Bytes)
      (hpacket : packet = x.header w ++ d) (hlen : w.totalLen.toNat = x.len + d.length)
      (hstate : tx.txStates[slot.toNat]? = some (some ⟨x.header v⟩))
      (hproper : c.coding.Proper)
      (happly : c.apply x v w.tcpSum d =
        w.setFlags (if c.coding.IsSpecial then w.flags ||| (v.flags &&& tcpUrg) else w.flags))
      (hspecial : c.coding.IsSpecial → w.flags &&& tcpUrg = 0)
      (hslot : slot ≤ o.maxSlotId) (hsaved : Saved o tx slot x w tx')
      (hpayload : payload = (c.mask ||| newC) :: slot :: (octets16 w.tcpSum ++ (c.bytes ++ d)) ∨
        payload = c.mask :: (octets16 w.tcpSum ++ (c.bytes ++ d)) ∧ tx.lastXmit = some slot)
      (hsent : tx.compressIpPacket packet = .ok (⟨pppVjCompressedTcp, payload⟩, tx'))
      (hurg : tx.losesUrg packet = decide (c.coding.IsSpecial ∧ v.flags &&& tcpUrg ≠ 0))

lemma isSpecial_iff {c : Change} (h : c.coding.Proper) :
    (c.mask &&& specialsMask = specialI ∨ c.mask &&& specialsMask = specialD) ↔ c.coding.IsSpecial := by
  obtain ⟨u, w, a, s, hb⟩ := exists_fieldBits c.coding
  have hm : c.mask &&& specialsMask = c.coding.bits := by rw [Change.mask, hb, maskOf_specials]
  rw [hm]
  constructor
  · intro hs
    exact h.resolve_right fun hne => hs.elim hne.1 hne.2
  intro hs
  cases hc : c.coding with
  | echo => exact .inl rfl
  | bulk => exact .inr rfl
  | fields => rw [hc] at hs; exact hs.elim

lemma lru_lt {rx : VjState} (h : Sync o tx rx) : ∀ slot ∈ tx.txLru, slot.toNat < tx.txStates.length := by
  intro slot hs
  rw [h.length]
  exact slot_lt (h.lru slot hs)

lemma sent_full {rx : VjState} (h : Sync o tx rx) {x : Conn} {v : Vars} {d : Bytes}
    (hp : ParsedTcpPacket.parse (x.header v ++ d) = .ok (x.parsed v d)) (hpr : x.protocol = ipprotoTcp)
    (hlen : v.totalLen.toNat = x.len + d.length) {slot : UInt8} (hs : slot ∈ tx.txLru)
    (hse : tx.compressIpPacket (x.header v ++ d) = (do
      let s ← (tx.markTxMru slot).saveTx slot (x.parsed v d)
      s.uncompressedTcpPacket slot (x.parsed v d)))
    (hurg : tx.losesUrg (x.header v ++ d) = false) : Sent o tx (x.header v ++ d) := by
  rw [saveTx_eq x v d (s := tx.markTxMru slot) (lru_lt h slot hs), ok_bind, uncompressedTcpPacket_eq hlen]
    at hse
  refine .full x v d slot _ rfl hp hpr (h.lru slot hs) ?_ hse hurg
  exact ⟨rfl, rfl, rfl, markTxMru_lru h.lru hs⟩

lemma sent_cases {rx : VjState} (h : Sync o tx rx) (hok : IpOk packet) : Sent o tx packet := by
  cases hp : ParsedTcpPacket.parse packet with
  | panic => exact absurd hp (parse_ne_panic packet)
  | err =>
    refine .plain ?_ ?_
    · simp [compressIpPacket, h.txOptions, hp]
    · simp [losesUrg, sentCompressed, hp]
  | ok =>
    obtain ⟨y, w, d, rfl, hpr, -, -, rfl⟩ := exists_header hp
    obtain ⟨hlen, hsum⟩ := hok.header
    obtain ⟨b, hb⟩ := isCompressibleTcp_ok y w d
    cases b with
    | false =>
      refine .plain ?_ ?_
      · simp [compressIpPacket, h.txOptions, hp, hb]
      · simp [losesUrg, sentCompressed, hp, hb]
    | true =>
      obtain hf | ⟨slot, hs, x, v, hst, hfl, hf⟩ := findSlot_cases h.headers y w d (lru_lt h)
      · -- a flow without a slot takes the least recently used one
        have hf' : tx.findTxSlot (y.parsed w d) = .ok none := hf
        have hurg : tx.losesUrg (y.header w ++ d) = false := by simp [losesUrg, sentCompressed, hp, hf']
        cases hl : tx.txLru.getLast? with
        | none =>
          refine .plain ?_ hurg
          simp [compressIpPacket, h.txOptions, hp, hb, hf', allocateTxSlot, hl]
        | some =>
          refine sent_full h hp hpr hlen (mem_of_getLast? hl) ?_ hurg
          simp [compressIpPacket, h.txOptions, hp, hb, hf', allocateTxSlot, hl]
      · have hf' : tx.findTxSlot (y.parsed w d) = .ok (some slot) := hf
        have hget : (Outcome.getAt (tx.markTxMru slot).txStates slot.toNat : Outcome Empty _) =
            .ok (some ⟨x.header v⟩) := by
          rw [Outcome.getAt, show (tx.markTxMru slot).txStates = tx.txStates from rfl, hst]
        obtain hbu | ⟨rfl, c, hch, hid, hpu, hbu⟩ := buildCompressedPacket_cases x v w d hfl hlen
        · refine sent_full h hp hpr hlen hs ?_ ?_
          · simp [compressIpPacket, h.txOptions, hp, hb, hf', hget, hbu]
          · simp [losesUrg, sentCompressed, hp, hb, hf', hst, hbu]
        have ha := apply_chosen x v w d hch hid hpu hlen hsum
        have hsp : c.coding.IsSpecial → w.flags &&& tcpUrg = 0 := by
          intro hc
          obtain heq | ⟨hurg, -⟩ := hch.coding
          · rw [heq] at hc
            exact hc.elim
          · exact hurg
        have hurg : tx.losesUrg (x.header w ++ d) = decide (c.coding.IsSpecial ∧ v.flags &&& tcpUrg ≠ 0) := by
          simp only [losesUrg, sentCompressed, hp, hb, hf', hst, hbu, urg_header]
          rw [Bool.eq_iff_iff]
          simp only [Bool.and_eq_true, Bool.or_eq_true, beq_iff_eq, isSpecial_iff hch.proper, decide_eq_true_eq]
        by_cases hnew : !o.compSlotId || tx.lastXmit != some slot
        · have hse : tx.compressIpPacket (x.header w ++ d) =
              .ok (⟨pppVjCompressedTcp, (c.mask ||| newC) :: slot :: (octets16 w.tcpSum ++ (c.bytes ++ d))⟩,
                { tx.markTxMru slot with
                  txStates := tx.txStates.set slot.toNat (some ⟨x.header w⟩), lastXmit := some slot }) := by
            simp only [compressIpPacket, h.txOptions, hp, result_ok, ok_bind, hb,
              hf', hget, hbu, show (tx.markTxMru slot).lastXmit = tx.lastXmit from rfl, hnew, if_true]
            exact congrArg (· >>= _) (saveTx_eq x w d (s := { tx.markTxMru slot with lastXmit := some slot })
              (lru_lt h slot hs))
          refine .compressed x v w d slot _ c _ rfl hlen hst hch.proper ha hsp (h.lru slot hs)
            ?_ (.inl rfl) hse hurg
          exact ⟨rfl, rfl, rfl, markTxMru_lru h.lru hs⟩
        · have hl : tx.lastXmit = some slot := by simp_all
          have hse : tx.compressIpPacket (x.header w ++ d) =
              .ok (⟨pppVjCompressedTcp, c.mask :: (octets16 w.tcpSum ++ (c.bytes ++ d))⟩,
                { tx.markTxMru slot with txStates := tx.txStates.set slot.toNat (some ⟨x.header w⟩) }) := by
            simp only [compressIpPacket, h.txOptions, hp, result_ok, ok_bind, hb,
              hf', hget, hbu, show (tx.markTxMru slot).lastXmit = tx.lastXmit from rfl, hnew]
            exact congrArg (· >>= _) (saveTx_eq x w d (s := tx.markTxMru slot) (lru_lt h slot hs))
          refine .compressed x v w d slot _ c _ rfl hlen hst hch.proper ha hsp (h.lru slot hs)
            ?_ (.inr ⟨rfl, hl⟩) hse hurg
          exact ⟨rfl, rfl, hl, markTxMru_lru h.lru hs⟩

/-! ### What the decompressor does -/

lemma getElem_protocol (x : Conn) (v : Vars) (d : Bytes) (slot : UInt8) :
    ((x.header v ++ d).set 9 slot)[9]? = some slot ∧
    (((x.header v ++ d).set 9 slot).set 9 x.protocol) = x.header v ++ d := ⟨rfl, rfl⟩

lemma decompress_full {rx : VjState} (h : Sync o tx rx) {x : Conn} {v : Vars} {d : Bytes}
    (hp : ParsedTcpPacket.parse (x.header v ++ d) = .ok (x.parsed v d)) (hpr : x.protocol = ipprotoTcp)
    {slot : UInt8} (hs : slot ≤ o.maxSlotId) :
    rx.decompressPacket pppVjUncompressedTcp ((x.header v ++ d).set 9 slot) = .ok (.ok (x.header v ++ d), { rx with
      rxStates := rx.rxStates.set slot.toNat (some ⟨x.header v⟩), lastRecv := some slot, toss := false }) := by
  obtain ⟨h9, hset⟩ := getElem_protocol x v d slot
  have hlt : slot.toNat < rx.rxStates.length := by
    rw [h.states, h.length]
    exact slot_lt hs
  rw [decompressPacket]
  unfold decompressUncompressedTcp
  rw [hpr] at hset
  simp only [h.rxOptions, h9, if_neg (UInt8.not_lt.2 hs), hset, hp, result_ok, ok_bind,
    fromPacket_eq, Outcome.setAt, hlt]
  rfl

lemma selectSlot_eq {rx : VjState} (h : Sync o tx rx) {c : Change} {slot : UInt8} (hs : slot ≤ o.maxSlotId)
    {rest payload : Bytes} (hp : payload = (c.mask ||| newC) :: slot :: rest ∨
      payload = c.mask :: rest ∧ tx.lastXmit = some slot) :
    ∃ changes rest', payload = changes :: rest' ∧ rx.selectSlot o changes rest' =
      .ok (c.mask, rest, { rx with lastRecv := some slot, toss := false }) := by
  obtain ⟨u, w, a, s, hb⟩ := exists_fieldBits c.coding
  obtain ⟨hf, hset, hc⟩ := maskOf_newC u w a s (c.ipId ≠ 1) c.push
  rw [← hb] at hf hset hc
  obtain rfl | ⟨rfl, hl⟩ := hp
  · grind [selectSlot, Change.mask]
  refine ⟨_, _, rfl, ?_⟩
  have ht : rx.toss = false := h.toss (by rw [hl]; rfl)
  have hr : rx.lastRecv = some slot := h.last.trans hl
  unfold selectSlot
  rw [Change.mask, if_neg (not_not.2 hf), ht, if_neg Bool.false_ne_true, ← hr, ← ht]

lemma decompress_compressed {rx : VjState} (h : Sync o tx rx) {x : Conn} {c : Change}
    (hp : c.coding.Proper) {sum : UInt16} (hlen : x.len + d.length ≤ 65535) {slot : UInt8}
    (hs : slot ≤ o.maxSlotId) (hst : tx.txStates[slot.toNat]? = some (some ⟨x.header v⟩)) {payload : Bytes}
    (hpa : payload = (c.mask ||| newC) :: slot :: (octets16 sum ++ (c.bytes ++ d)) ∨
      payload = c.mask :: (octets16 sum ++ (c.bytes ++ d)) ∧ tx.lastXmit = some slot) :
    rx.decompressPacket pppVjCompressedTcp payload = .ok (.ok (x.header (c.apply x v sum d) ++ d), { rx with
        rxStates := rx.rxStates.set slot.toNat (some ⟨x.header (c.apply x v sum d)⟩)
        lastRecv := some slot
        toss := false }) := by
  obtain ⟨changes, rest, rfl, hse⟩ := selectSlot_eq h hs hpa
  have hlt : slot.toNat < rx.rxStates.length := by
    rw [h.states, h.length]
    exact slot_lt hs
  have hget : (Outcome.getAt rx.rxStates slot.toNat : Outcome Empty _) = .ok (some ⟨x.header v⟩) := by
    rw [Outcome.getAt, h.states, hst]
  rw [decompressPacket]
  unfold decompressCompressedTcp
  simp only [h.rxOptions, hse, hget, ok_bind, rebuildHeader_eq x v hp sum hlen, Outcome.setAt, hlt]
  rfl

/-- **One packet**: it comes out as it was and the two ends stay in step, unless it loses an URG, and then it
comes out changed. -/
theorem step_cases (h : Sync o tx rx) (hok : IpOk packet) :
    ∃ out tx' restored rx', tx.compressIpPacket packet = .ok (out, tx') ∧
      rx.decompressPacket out.protocol out.payload = .ok (.ok restored, rx') ∧
      (∃ rx'', Sync o tx' rx'') ∧ (tx.losesUrg packet = false → restored = packet ∧ Sync o tx' rx') ∧
      (tx.losesUrg packet = true → restored ≠ packet) := by
  cases sent_cases h hok with
  | plain hs hurg =>
    exact ⟨_, _, packet, rx, hs, rfl, ⟨rx, h⟩, fun _ => ⟨rfl, h⟩, fun hl => absurd (hurg.symm.trans hl) (by decide)⟩
  | full x v d slot tx' hp hpa hpr hsl hsa hs hurg =>
    subst hp
    exact ⟨_, _, _, _, hs, decompress_full h hpa hpr hsl, ⟨_, h.saved hsa⟩,
      fun _ => ⟨rfl, h.saved hsa⟩, fun hl => absurd (hurg.symm.trans hl) (by decide)⟩
  | compressed x v w d slot tx' c payload hp hlen hst hpro ha hsp hsl hsa hpay hs
      hurg =>
    subst hp
    have hsh : x.len + d.length ≤ 65535 := by
      have := w.totalLen.toNat_lt
      omega
    have hr := decompress_compressed h hpro hsh hsl hst hpay
    rw [ha] at hr
    refine ⟨_, _, _, _, hs, hr, ⟨_, h.saved hsa⟩, fun hl => ?_, fun hl heq => ?_⟩
    · have hf : (if c.coding.IsSpecial then w.flags ||| (v.flags &&& tcpUrg) else w.flags) = w.flags := by grind
      rw [hf]
      exact ⟨rfl, h.saved hsa⟩
    · rw [hurg, decide_eq_true_eq] at hl
      rw [if_pos hl.1] at heq
      -- the flags can be read off the packet
      have hre := x.index_flags (ε := Empty) (w.setFlags (w.flags ||| (v.flags &&& tcpUrg))) d
      rw [heq, x.index_flags] at hre
      exact hl.2 ((or_and_tcpUrg_eq (hsp hl.1)).1 (Outcome.ok.inj hre).symm)

end Step

/-! ### Whole sequences -/

lemma decompressAll_cons
    (h : rx.decompressPacket packet.protocol packet.payload = .ok (r, rx')) (pkts : List PppPacket) :
    decompressAll rx (packet :: pkts) = do
      let (rs, s) ← decompressAll rx' pkts
      return (r :: rs, s) := by
  rw [decompressAll, h]
  rfl

lemma runs_iff (pkts : List Bytes) : ∀ {tx rx : VjState}, Sync o tx rx →
    (∀ packet ∈ pkts, IpOk packet) → ∃ outs tx', compressAll tx pkts = .ok (outs, tx') ∧
      ((∃ rx', decompressAll rx outs = .ok (pkts.map .ok, rx')) ↔ tx.keepsUrg pkts = true) := by
  induction pkts with
  | nil => exact fun _ _ => ⟨[], _, rfl, fun _ => rfl, fun _ => ⟨_, rfl⟩⟩
  | cons packet pkts ih =>
    intro tx rx h hok
    obtain ⟨out, tx', restored, rx', hs, hr, ⟨rx'', hsy⟩, hk, hlo⟩ := step_cases h (hok packet mem_cons_self)
    have hok' : ∀ p ∈ pkts, IpOk p := fun p hp => hok p (mem_cons_of_mem _ hp)
    cases hl : tx.losesUrg packet with
    | false =>
      obtain ⟨rfl, hsy'⟩ := hk hl
      obtain ⟨outs, tx'', ho, hiff⟩ := ih hsy' hok'
      refine ⟨out :: outs, tx'', ?_, ?_⟩
      · simp [compressAll, hs, ho]
      rw [keepsUrg, hl, hs, Bool.not_false, Bool.true_and, ← hiff, decompressAll_cons hr]
      simp [Outcome.bind_eq_ok]
    | true =>
      obtain ⟨outs, tx'', ho, -⟩ := ih hsy hok'
      refine ⟨out :: outs, tx'', ?_, ?_⟩
      · simp [compressAll, hs, ho]
      rw [keepsUrg, hl]
      refine iff_of_false ?_ Bool.false_ne_true
      rintro ⟨rx₁, hall⟩
      rw [decompressAll_cons hr] at hall
      obtain ⟨⟨results, rx₂⟩, -, hall⟩ := Outcome.bind_eq_ok.1 hall
      cases hall
      exact hlo hl rfl

/-- **Van Jacobson compression is lossless but for URG.** For all options, both ends fresh from `configure` with
whatever they had before and whatever the other direction uses, and every sequence of IP packets of the right
length and header checksum: compressing them never panics, and the decompressor returns exactly the packets if
and only if no packet is sent as SPECIAL_I or SPECIAL_D while the header saved for its slot has URG set. -/
theorem lossless_iff (o : VjCompressionOptions) (tx rx : VjState) (txOther rxOther : Option VjCompressionOptions)
    (packets : List Bytes) (hok : ∀ packet ∈ packets, IpOk packet) :
    ∃ outs tx', compressAll (tx.configure (some o) rxOther) packets = .ok (outs, tx') ∧
      ((∃ rx', decompressAll (rx.configure txOther (some o)) outs = .ok (packets.map .ok, rx')) ↔
        (tx.configure (some o) rxOther).keepsUrg packets = true) :=
  runs_iff packets (sync_configure o tx rx rxOther txOther) hok

def segment (seq : UInt32) (ipId : UInt16) (flags : UInt8) (data : Bytes) : Bytes :=
  let x : Conn := ⟨0x45, 0, 0, 64, ipprotoTcp, 0x0A000001, 0x0A000002, [], 1234, 80, 0x50, [], rfl, rfl⟩
  let v : Vars := ⟨UInt16.ofNat (40 + data.length), ipId, 0, seq, 200, flags, 4096, 0x1234, 0⟩
  x.header (v.setIpSum (x.rightSum v)) ++ data

/-- Three packets of a connection: in full, as SPECIAL_D, and with URG. -/
theorem lossless_iff_two_segments :
    ∃ outs tx', compressAll (VjState.configure {} (some {}) none)
        [segment 100 1 tcpAck [1], segment 101 2 (tcpAck ||| tcpPush) [2, 3], segment 103 5 (tcpAck ||| tcpUrg) []] =
          .ok (outs, tx') ∧
      ∃ rx', decompressAll (VjState.configure {} none (some {})) outs =
        .ok ([segment 100 1 tcpAck [1], segment 101 2 (tcpAck ||| tcpPush) [2, 3],
          segment 103 5 (tcpAck ||| tcpUrg) []].map .ok, rx') := by
  obtain ⟨outs, tx', hs, hiff⟩ := lossless_iff {} {} {} none none
    [segment 100 1 tcpAck [1], segment 101 2 (tcpAck ||| tcpPush) [2, 3], segment 103 5 (tcpAck ||| tcpUrg) []] (by
      intro p hp
      simp only [mem_cons, not_mem_nil, or_false] at hp
      obtain rfl | rfl | rfl := hp
      all_goals exact ⟨_, _, _, rfl, rfl, rfl, by decide +kernel, by decide +kernel⟩)
  exact ⟨outs, tx', hs, hiff.2 (by decide +kernel)⟩

/-- A packet with URG, and the next one without it: the second is sent as SPECIAL_D and comes out with URG. -/
theorem urg_is_lost :
    (∀ packet ∈ [segment 100 1 (tcpAck ||| tcpUrg) [1], segment 101 2 tcpAck [2]], IpOk packet) ∧
    ∃ outs tx', compressAll (VjState.configure {} (some {}) none)
        [segment 100 1 (tcpAck ||| tcpUrg) [1], segment 101 2 tcpAck [2]] = .ok (outs, tx') ∧
      ∃ rx', decompressAll (VjState.configure {} none (some {})) outs =
        .ok ([.ok (segment 100 1 (tcpAck ||| tcpUrg) [1]), .ok (segment 101 2 (tcpAck ||| tcpUrg) [2])], rx') := by
  refine ⟨?_, _, _, rfl, _, rfl⟩
  intro p hp
  simp only [mem_cons, not_mem_nil, or_false] at hp
  obtain rfl | rfl := hp
  all_goals exact ⟨_, _, _, rfl, rfl, rfl, by decide +kernel, by decide +kernel⟩

end OneXBts.Packet.Vj
