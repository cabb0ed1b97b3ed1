import OneXBts.Bts.Lac

/-!
What a failed send leaves behind.

A PDU is pending already, a number is reserved for it, or there is none left (`reserveMsgSeq_cases`). When it then cannot be
assembled, the number stays reserved; when there is none left, the tracker that was taken out of the state is lost.
-/

namespace OneXBts.Bts.Lac

open Lib MsgSeqTracker

/-! ### Reserving a number -/

lemma firstFree_eq_some (h : firstFree barred tries start = some seq) : barred seq = false := by
  induction tries generalizing start with
  | zero => cases h
  | succ =>
    unfold firstFree at h
    grind

/-- A new number is neither that of a pending PDU of the class nor in cooldown. -/
structure Reserved (retained : PendingDirectedPduTracker) (tracker : MsgSeqTracker) (now : ℕ)
    (pduKey : PendingDirectedPduKey) (seq : Fin 8) : Prop where
  absent : ∀ entry ∈ retained.entries, entry.key ≠ pduKey
  free : ∀ entry ∈ retained.entries, entry.numbered pduKey.addr pduKey.ackReq seq = false
  rested : MsgSeqTracker.inCooldown (tracker.counters (MsgSeqTracker.key pduKey.addr pduKey.ackReq)) now seq = false

/-- **The three ways of reserving a number.** -/
theorem reserveMsgSeq_cases (pend : PendingDirectedPduTracker) (trk : MsgSeqTracker) (now : ℕ)
    (pduKey : PendingDirectedPduKey) :
    (∃ entry ∈ (pend.retainUnexpired now).entries, entry.key = pduKey ∧
      pend.reserveMsgSeq trk now pduKey = (pend.retainUnexpired now, .ok (entry.msgSeq, trk))) ∨
    (∃ seq, Reserved (pend.retainUnexpired now) trk now pduKey seq ∧ pend.reserveMsgSeq trk now pduKey =
        ({ entries := (pend.retainUnexpired now).entries ++ [{ key := pduKey, msgSeq := seq }] },
          .ok (seq, trk.advance (key pduKey.addr pduKey.ackReq) seq))) ∨
    ((∀ entry ∈ (pend.retainUnexpired now).entries, entry.key ≠ pduKey) ∧
      pend.reserveMsgSeq trk now pduKey = (pend.retainUnexpired now, .error .exhausted)) := by
  unfold PendingDirectedPduTracker.reserveMsgSeq
  dsimp only
  generalize pend.retainUnexpired now = retained
  cases hf : retained.entries.find? (·.key = pduKey) with
  | some => grind
  | none =>
    have ha : ∀ entry ∈ retained.entries, entry.key ≠ pduKey := by simpa using List.find?_eq_none.1 hf
    dsimp only
    unfold nextSeqExcluding
    dsimp only
    cases hfr : firstFree (fun seq =>
        retained.entries.any (PendingDirectedPdu.numbered pduKey.addr pduKey.ackReq seq) ||
          inCooldown (trk.counters (key pduKey.addr pduKey.ackReq)) now seq) 8
        (trk.counters (key pduKey.addr pduKey.ackReq)).nextSeq with
    | none => exact .inr (.inr ⟨ha, rfl⟩)
    | some seq =>
      obtain ⟨hp, hr⟩ := Bool.or_eq_false_iff.1 (firstFree_eq_some hfr)
      refine .inr (.inl ⟨seq, ⟨ha, fun entry he => ?_, hr⟩, rfl⟩)
      grind

/-! ### Sending -/

def AlreadyPending (state : State) (now : ℕ) (req : DirectedSduRequest) : Prop :=
  ∃ entry ∈ (state.pendingDirectedPdus.retainUnexpired now).entries, entry.key = req.pduKey

lemma assemblePdu_ne_exhausted (dsch : DataRequest → Option Bits) (req : DataRequest) :
    assemblePdu dsch req ≠ .err .exhausted := by
  have ha : (utilityAssembleFCsch req).bind (sarEncapsulatePdu req) ≠ .error .exhausted := by
    grind [utilityAssembleFCsch, Except.bind, sarEncapsulatePdu]
  grind [assemblePdu]

structure Completes (dsch : DataRequest → Option Bits) (state : State) (request : DataRequest)
    (result : State × Outcome LacError ArqHandle) : Prop where
  state : result.1 = (state.sendMessage dsch request).1
  error : ∀ e, result.2 = .err e → e ≠ .exhausted

/-- **The three ways of sending.** -/
theorem sendDirectedSdu_cases (dsch : DataRequest → Option Bits) (state : State) (now : ℕ) (req : DirectedSduRequest) :
    (∃ entry ∈ (state.pendingDirectedPdus.retainUnexpired now).entries, entry.key = req.pduKey ∧
      Completes dsch { state with pendingDirectedPdus := state.pendingDirectedPdus.retainUnexpired now }
        (req.dataRequest entry.msgSeq) (state.sendDirectedSdu dsch now req)) ∨
    (∃ seq, Reserved (state.pendingDirectedPdus.retainUnexpired now) state.pagingMsgSeqTracker now req.pduKey seq ∧
      Completes dsch { state with
          pendingDirectedPdus :=
            ⟨(state.pendingDirectedPdus.retainUnexpired now).entries ++ [{ key := req.pduKey, msgSeq := seq }]⟩
          pagingMsgSeqTracker := state.pagingMsgSeqTracker.advance (key req.address req.ackReq) seq }
        (req.dataRequest seq) (state.sendDirectedSdu dsch now req)) ∨
    (¬AlreadyPending state now req ∧ state.sendDirectedSdu dsch now req = ({ state with
          pendingDirectedPdus := state.pendingDirectedPdus.retainUnexpired now
          pagingMsgSeqTracker := {} }, .err .exhausted)) := by
  -- once there is a number, the result is that of queueing
  have hc : ∀ (state : State) (seq : Fin 8) (ha : ArqHandle), Completes dsch state (req.dataRequest seq)
      ((state.sendMessage dsch (req.dataRequest seq)).1,
        (state.sendMessage dsch (req.dataRequest seq)).2.bind fun () => .ok ha) := by
    intro state seq ha
    grind [assemblePdu_ne_exhausted, intro Completes, State.sendMessage, Lib.Outcome.bind]
  unfold State.sendDirectedSdu
  dsimp only
  rcases reserveMsgSeq_cases state.pendingDirectedPdus state.pagingMsgSeqTracker now req.pduKey with
    ⟨entry, he, hkey, hr⟩ | ⟨seq, hre, hr⟩ | ⟨hab, hr⟩
  · rw [hr]
    exact .inl ⟨entry, he, hkey, hc _ _ _⟩
  · rw [hr]
    exact .inr (.inl ⟨seq, hre, hc _ _ _⟩)
  rw [hr]
  refine .inr (.inr ⟨?_, rfl⟩)
  rintro ⟨entry, he, hkey⟩
  exact hab entry he hkey

def orderTo (esn : UInt32) (i : ℕ) : DirectedSduRequest where
  sdu := OneXBts.Common.writeU64 i 8
  address := .esn esn
  messageId := .order

end OneXBts.Bts.Lac
