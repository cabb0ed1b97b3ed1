import OneXBts.An.Rlp

/-!
The receiver of the HRPD default packet stream (`DefaultPacketRlpReceiver` in `air.rs`).

What lies between `vN`, the next octet to deliver, and `vR`, the next one not seen, is in `resequencing` or missing, with
its deadline in `nakAbortAt`. The hash maps are functions, times are milliseconds. A loop that moves `vN` has as many
passes as `vN` is behind; it ends within them (`Represents.deliverContiguous`, `Represents.expire`).
-/

namespace OneXBts.An.Air

open Lib An.Rlp

def defaultPacketRlpAbort : ℕ := 500

structure HrpdDefaultPacketRlpNakRequest where
  firstErased : UInt32
  windowLen : UInt16
  deriving DecidableEq, Repr

structure DefaultPacketRlpReceiveOutcome where
  delivered : List UInt8 := []
  nakRequests : List HrpdDefaultPacketRlpNakRequest := []
  duplicateOctets : ℕ := 0
  reorderedOctets : ℕ := 0
  abortedOctets : ℕ := 0
  deriving DecidableEq, Repr

structure DefaultPacketRlpReceiver where
  vR : UInt32 := 0
  vN : UInt32 := 0
  resequencing : UInt32 → Option UInt8 := fun _ => none
  nakAbortAt : UInt32 → Option ℕ := fun _ => none

namespace DefaultPacketRlpReceiver

def reset : DefaultPacketRlpReceiver := {}

def deliverLoop : ℕ → DefaultPacketRlpReceiver → DefaultPacketRlpReceiver × List UInt8
  | 0, r => (r, [])
  | fuel + 1, r =>
    if r.vN = r.vR then (r, [])
    else
      match r.resequencing r.vN with
      | none => (r, [])
      | some octet =>
        let (r', rest) := deliverLoop fuel
          { r with
            resequencing := Function.update r.resequencing r.vN none
            nakAbortAt := Function.update r.nakAbortAt r.vN none
            vN := Rlp.next r.vN }
        (r', octet :: rest)

def deliverContiguous (r : DefaultPacketRlpReceiver) : DefaultPacketRlpReceiver × List UInt8 :=
  deliverLoop (Rlp.distance r.vN r.vR).toNat r

/-- Deliver what is there, give up what is overdue, and stop at what is still waited for. The octets delivered and
the number given up are returned. -/
def expireLoop (now : ℕ) : ℕ → DefaultPacketRlpReceiver → DefaultPacketRlpReceiver × List UInt8 × ℕ
  | 0, r => (r, [], 0)
  | fuel + 1, r =>
    if r.vN = r.vR then (r, [], 0)
    else if (r.resequencing r.vN).isSome then
      let (r, delivered) := r.deliverContiguous
      let (r, rest, aborted) := expireLoop now fuel r
      (r, delivered ++ rest, aborted)
    else
      match r.nakAbortAt r.vN with
      | none => (r, [], 0)
      | some deadline =>
        if deadline > now then (r, [], 0)
        else
          let (r, rest, aborted) := expireLoop now fuel
            { r with
              nakAbortAt := Function.update r.nakAbortAt r.vN none
              vN := Rlp.next r.vN }
          (r, rest, aborted + 1)

def expire (r : DefaultPacketRlpReceiver) (now : ℕ) :
    DefaultPacketRlpReceiver × DefaultPacketRlpReceiveOutcome :=
  let (r, delivered, aborted) := expireLoop now (Rlp.distance r.vN r.vR).toNat r
  (r, { delivered := delivered, abortedOctets := aborted })

/-- Give a number of octets a deadline unless they have one; also the sequence number after them. -/
def recordWindow (abortAt : ℕ) : ℕ → DefaultPacketRlpReceiver → UInt32 → DefaultPacketRlpReceiver × UInt32
  | 0, r, sequence => (r, sequence)
  | n + 1, r, sequence =>
    recordWindow abortAt n
      { r with nakAbortAt := Function.update r.nakAbortAt sequence ((r.nakAbortAt sequence).or (some abortAt)) }
      (Rlp.next sequence)

def recordLoop (abortAt : ℕ) : ℕ → DefaultPacketRlpReceiver → UInt32 → ℕ →
    DefaultPacketRlpReceiver × List HrpdDefaultPacketRlpNakRequest
  | 0, r, _, _ => (r, [])
  | fuel + 1, r, sequence, remaining =>
    if remaining = 0 then (r, [])
    else
      let windowLen := min remaining 65535
      let (r, sequence') := recordWindow abortAt windowLen r sequence
      let (r, requests) := recordLoop abortAt fuel r sequence' (remaining - windowLen)
      (r, ⟨sequence, UInt16.ofNat windowLen⟩ :: requests)

def recordMissingRange (r : DefaultPacketRlpReceiver) (first : UInt32) (len abortAt : ℕ) :
    DefaultPacketRlpReceiver × List HrpdDefaultPacketRlpNakRequest :=
  recordLoop abortAt len r first len

def ingestHeld (x : UInt32) (octet : UInt8) (r : DefaultPacketRlpReceiver)
    (outcome : DefaultPacketRlpReceiveOutcome) : DefaultPacketRlpReceiver × DefaultPacketRlpReceiveOutcome :=
  let r' := { r with resequencing := Function.update r.resequencing x (some octet) }
  if (r.resequencing x).isSome then (r', { outcome with duplicateOctets := outcome.duplicateOctets + 1 })
  else
    let r' := { r' with nakAbortAt := Function.update r'.nakAbortAt x none }
    let outcome := { outcome with reorderedOctets := outcome.reorderedOctets + 1 }
    if x = r'.vN then
      let (r', delivered) := r'.deliverContiguous
      (r', { outcome with delivered := outcome.delivered ++ delivered })
    else (r', outcome)

def ingestNext (x : UInt32) (octet : UInt8) (r : DefaultPacketRlpReceiver)
    (outcome : DefaultPacketRlpReceiveOutcome) : DefaultPacketRlpReceiver × DefaultPacketRlpReceiveOutcome :=
  let r' := { r with vR := Rlp.next r.vR }
  if x = r'.vN then ({ r' with vN := Rlp.next r'.vN }, { outcome with delivered := outcome.delivered ++ [octet] })
  else
    ({ r' with resequencing := Function.update r'.resequencing x (some octet) },
      { outcome with reorderedOctets := outcome.reorderedOctets + 1 })

def ingestAhead (now : ℕ) (x : UInt32) (octet : UInt8) (r : DefaultPacketRlpReceiver)
    (outcome : DefaultPacketRlpReceiveOutcome) : DefaultPacketRlpReceiver × DefaultPacketRlpReceiveOutcome :=
  let missing := (Rlp.distance r.vR x).toNat
  let (r', requests) := r.recordMissingRange r.vR missing (now + defaultPacketRlpAbort)
  ({ r' with
      resequencing := Function.update r'.resequencing x (some octet)
      vR := Rlp.next x },
    { outcome with
      nakRequests := outcome.nakRequests ++ requests
      reorderedOctets := outcome.reorderedOctets + 1 })

def ingestOctet (now : ℕ) (x : UInt32) (octet : UInt8) (r : DefaultPacketRlpReceiver)
    (outcome : DefaultPacketRlpReceiveOutcome) : DefaultPacketRlpReceiver × DefaultPacketRlpReceiveOutcome :=
  match Rlp.cmp x r.vN with
  | .lt => (r, { outcome with duplicateOctets := outcome.duplicateOctets + 1 })
  | _ =>
    match Rlp.cmp x r.vR with
    | .lt => ingestHeld x octet r outcome
    | .eq => ingestNext x octet r outcome
    | .gt => ingestAhead now x octet r outcome

def ingestOctets (now : ℕ) (sequence : UInt32) : ℕ → List UInt8 → DefaultPacketRlpReceiver →
    DefaultPacketRlpReceiveOutcome → DefaultPacketRlpReceiver × DefaultPacketRlpReceiveOutcome
  | _, [], r, outcome => (r, outcome)
  | offset, octet :: payload, r, outcome =>
    let (r, outcome) := ingestOctet now ((sequence + UInt32.ofNat offset) &&& sequenceMask) octet r outcome
    ingestOctets now sequence (offset + 1) payload r outcome

def ingest (r : DefaultPacketRlpReceiver) (sequence : UInt32) (payload : List UInt8) (now : ℕ) :
    DefaultPacketRlpReceiver × DefaultPacketRlpReceiveOutcome :=
  let (r, outcome) := r.expire now
  ingestOctets now sequence 0 payload r outcome

end DefaultPacketRlpReceiver

end OneXBts.An.Air
