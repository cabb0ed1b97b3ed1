import OneXBts.Packet.PppAutomaton

/-!
What the flags of a negotiation mean.

`History` records what has gone over the wire: the last request of the peer with the answer to it, and our last request that
was acknowledged. `Automaton.Agreed` says that the two flags tell the truth about it, with a property of each request that
the session keeps up. The rules below say what each move of the automaton does to it.
-/

namespace OneXBts.Packet.Ppp

open Lib

/-! ### What has gone over the wire -/

structure History where
  /-- The last Configure-Request of the peer, with the code of the answer. -/
  evaluated : Option (Bytes × Option UInt8) := none
  /-- The last Configure-Request of the peer that was answered with a Configure-Ack. -/
  acknowledged : Option Bytes := none
  /-- Our last Configure-Request that the peer acknowledged. -/
  ours : Option Bytes := none
  deriving DecidableEq, Repr

namespace History

def answer (replies : List PppPacket) : Option UInt8 := replies.getLast?.bind fun p => p.payload.head?

def recordRequest (h : History) (data : Bytes) (answer : Option UInt8) : History :=
  { h with
    evaluated := some (data, answer)
    acknowledged := if answer = some configureAck then some data else h.acknowledged }

def record (h : History) (a : Automaton) (ppp : PppPacket) (replies : List PppPacket) : History :=
  match ControlPacket.parse ppp.payload with
  | none => h
  | some p =>
    if p.code = configureRequest then h.recordRequest p.data (answer replies)
    else if p.code = configureAck ∧ a.acks p then { h with ours := some p.data }
    else h

end History

/-! ### The agreement -/

namespace Automaton

lemma maybeRetransmit_cases (stopped : List ControlState) (a : Automaton) :
    (a.maybeRetransmit stopped).2.state = .closed ∧ (a.maybeRetransmit stopped).2.weAcked = false ∧
      (a.maybeRetransmit stopped).2.peerAcked = false ∨
    (a.maybeRetransmit stopped).2.state = a.state ∧ (a.maybeRetransmit stopped).2.weAcked = a.weAcked ∧
      (a.maybeRetransmit stopped).2.peerAcked = a.peerAcked ∧
      (a.maybeRetransmit stopped).2.lastAckedPeerRequestData = a.lastAckedPeerRequestData := by
  unfold maybeRetransmit
  grind

lemma updateState_opened {a : Automaton} (h : a.state = .opened → a.weAcked = true ∧ a.peerAcked = true)
    (ho : a.updateState.state = .opened) : a.weAcked = true ∧ a.peerAcked = true := by
  unfold updateState at ho
  grind

/-- The flags tell the truth. `P` is what holds of the acknowledged request of the peer, `Q` of ours. -/
structure Agreed (a : Automaton) (h : History) (P Q : Bytes → Prop) : Prop where
  opened : a.state = .opened → a.weAcked = true ∧ a.peerAcked = true
  peer : a.weAcked = true → h.evaluated = some (a.lastAckedPeerRequestData, some configureAck) ∧
    h.acknowledged = some a.lastAckedPeerRequestData ∧ P a.lastAckedPeerRequestData
  ours : a.peerAcked = true → ∃ data, h.ours = some data ∧ Q data

section Rules

variable {a : Automaton} {h : History} {P Q P' Q' : Bytes → Prop}

lemma agreed_of_flags (hs : a.state ≠ .opened) (hwe : a.weAcked = false) (hpe : a.peerAcked = false) :
    a.Agreed h P Q :=
  ⟨fun ho => absurd ho hs, fun hw => by simp [hwe] at hw, fun hp => by simp [hpe] at hp⟩

section

variable (ha : a.Agreed h P Q)
include ha

/-- **In Opened** both requests are there. -/
theorem Agreed.of_opened (ho : a.state = .opened) :
    ∃ peer ours, h.evaluated = some (peer, some configureAck) ∧ h.acknowledged = some peer ∧
      h.ours = some ours ∧ P peer ∧ Q ours := by grind [cases Automaton.Agreed]

lemma Agreed.updateState : a.updateState.Agreed h P Q := ⟨updateState_opened ha.opened, ha.peer, ha.ours⟩

lemma Agreed.allocId : a.allocId.2.Agreed h P Q := ⟨ha.opened, ha.peer, ha.ours⟩

lemma Agreed.sendConfigureRequest (data : Bytes) :
    (a.sendConfigureRequest data).2.Agreed h P Q :=
  ⟨fun ho => absurd ho (by simp [Automaton.sendConfigureRequest]), ha.peer, ha.ours⟩

lemma Agreed.maybeRetransmit (stopped : List ControlState) :
    (a.maybeRetransmit stopped).2.Agreed h P Q := by
  obtain ⟨hs, hwe, hp⟩ | ⟨hs, hwe, hp,
    hda⟩ := a.maybeRetransmit_cases stopped <;> grind [cases Automaton.Agreed, intro Automaton.Agreed]

lemma Agreed.resend (data : Bytes) :
    ({ a with peerAcked := false }.sendConfigureRequest data).2.updateState.Agreed h P Q' :=
  Agreed.updateState ⟨fun ho => absurd ho (by simp [Automaton.sendConfigureRequest]), ha.peer,
    fun hp => absurd hp Bool.false_ne_true⟩

lemma Agreed.duplicate :
    a.Agreed (h.recordRequest a.lastAckedPeerRequestData (some configureAck)) P Q :=
  ⟨ha.opened, fun hw => ⟨rfl, rfl, (ha.peer hw).2.2⟩, ha.ours⟩

lemma Agreed.ackPeer (hP : P' data) (hQ : ∀ d, Q d → Q' d) :
    (a.ackPeer data).updateState.Agreed (h.recordRequest data (some configureAck)) P' Q' := by
  refine Agreed.updateState ⟨fun ho => ⟨rfl, (ha.opened ho).2⟩, fun _ => ⟨rfl, rfl, hP⟩, fun hp => ?_⟩
  obtain ⟨ours, hou, hq⟩ := ha.ours hp
  exact ⟨ours, hou, hQ ours hq⟩

lemma Agreed.refuse (hwe : a.weAcked = false) (data : Bytes) (answer : Option UInt8) :
    a.updateState.Agreed (h.recordRequest data answer) P' Q :=
  Agreed.updateState ⟨ha.opened, fun hw => absurd (hwe.symm.trans hw) Bool.false_ne_true, ha.ours⟩

lemma Agreed.unack (hs : a.state ≠ .opened) (data : Bytes) (answer : Option UInt8) :
    ({ a with weAcked := false } : Automaton).updateState.Agreed (h.recordRequest data answer) P' Q :=
  Agreed.updateState ⟨fun ho => absurd ho hs, fun hw => absurd hw Bool.false_ne_true, ha.ours⟩

lemma Agreed.ackOurs (hP : ∀ d, P d → P' d) (hQ : Q' data) (ticks : UInt16) :
    ({ a with peerAcked := true, restartTicksRemaining := ticks } : Automaton).updateState.Agreed
      { h with ours := some data } P' Q' := by
  refine Agreed.updateState ⟨fun ho => ⟨(ha.opened ho).1, rfl⟩, fun hw => ?_, fun _ => ⟨data, rfl, hQ⟩⟩
  obtain ⟨h1, h2, h3⟩ := ha.peer hw
  exact ⟨h1, h2, hP _ h3⟩

end

end Rules

end Automaton

end OneXBts.Packet.Ppp
