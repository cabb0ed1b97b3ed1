import OneXBts.Packet.Rlp3ReceiverSpec
import OneXBts.Packet.Rlp3FramesRoundTrip

/-!
The receive window over whole runs of a session.

Nothing stops `L_V(R)` from running a full circle ahead of `L_V(N)`. As long as no new frame laps (`NoLap`), the session keeps
a window (`window_run`). `L_V(N)` is then the end of the window or still asked for, provided a retransmission of it never
meets a hole that was given up (`NoHole`): `deliver_contiguous` stops there, and nothing is left that would move it.
-/

namespace OneXBts.Packet.Rlp3

open Lib Receiver

namespace Receiver

variable {r : Receiver} {N R : ℕ}

def distance (r : Receiver) : ℕ := (r.lVR + seqModulus - r.lVN) % seqModulus

lemma distance_eq (h : r.InWindow N R) : r.distance = R - N := Window.dist_eq h

/-- The frame does not bring `L_V(R)` round to `L_V(N)`. -/
def FitsWindow (r : Receiver) (seq8 : UInt8) : Prop := r.distance + r.offset seq8 < seqModulus - 1

lemma lap_of_fitsWindow (h : r.InWindow N R) (hfit : r.FitsWindow seq8) :
    R + r.offset seq8 + 1 < N + seqModulus := by
  unfold FitsWindow at hfit
  rw [distance_eq h] at hfit
  omega

/-- When a retransmission of `L_V(N)` arrives, the first number of the window after it whose slot is
empty is on the NAK list. -/
def FirstHoleAsked (r : Receiver) (seq8 : UInt8) : Prop :=
  ∀ e ∈ r.nakList.find? fun e => vR8 e.lSeq == seq8, e.lSeq = r.lVN →
    ∀ k < r.distance, 0 < k →
      (∀ j < k, 0 < j → r.reseqBuffer ((r.lVN + j) % seqModulus) ≠ none) →
      r.reseqBuffer ((r.lVN + k) % seqModulus) = none →
      r.onNakList ((r.lVN + k) % seqModulus) = true

/-! ### One data frame -/

lemma receiveSduOn_window (policy : NakPolicy) (h : r.InWindow N R) (sdu : Sdu)
    (hfit : sdu.rexmit = false → r.FitsWindow sdu.seq8) :
    ∃ N' R', (Rlp3Session.receiveSduOn policy r sdu).1.InWindow N' R' := by
  obtain ⟨rexmit, seq8, data⟩ := sdu
  cases rexmit with
  | false =>
    have hlap := lap_of_fitsWindow h (hfit rfl)
    by_cases hw : N = R ∧ r.offset seq8 = 0
    · obtain ⟨rfl, hoff⟩ := hw
      exact ⟨_, _, (receiveNewData_inOrder policy h hoff data).1⟩
    · exact ⟨_, _, (receiveNewData_store policy h data hw hlap).inWindow⟩
  | true =>
    change ∃ N' R', (r.receiveRexmitData seq8 data).1.InWindow N' R'
    cases hf : r.nakList.find? (fun e => vR8 e.lSeq == seq8) with
    | none =>
      rw [receiveRexmitData_none data hf]
      exact ⟨N, R, h⟩
    | some =>
      obtain ⟨n, -, -, -, -, -, -, hwin, heq⟩ := receiveRexmitData_some h data hf
      rw [heq]
      split
      · obtain ⟨k, -, hdel, hwin', -⟩ := deliverContiguous_spec hwin
        rw [flushDeliveryEvents_fst, hdel]
        exact ⟨_, _, hwin'⟩
      · exact ⟨N, R, hwin⟩

end Receiver

namespace Rlp3Session

/-- No new data frame of the call laps the window. -/
def NoLap (s : Rlp3Session) (op : Op) : Prop := ∀ a ∈ s.arrival op, a.2.rexmit = false → a.1.FitsWindow a.2.seq8

/-- No retransmission of the call meets a hole that was given up. -/
def NoHole (s : Rlp3Session) (op : Op) : Prop := ∀ a ∈ s.arrival op, a.2.rexmit = true → a.1.FirstHoleAsked a.2.seq8

instance (s : Rlp3Session) (op : Op) : Decidable (s.NoLap op) :=
  inferInstanceAs (Decidable (∀ a ∈ s.arrival op, a.2.rexmit = false →
    a.1.distance + a.1.offset a.2.seq8 < seqModulus - 1))

instance (r : Receiver) (seq8 : UInt8) : Decidable (r.FirstHoleAsked seq8) := by
  unfold Receiver.FirstHoleAsked; infer_instance

instance (s : Rlp3Session) (op : Op) : Decidable (s.NoHole op) :=
  inferInstanceAs (Decidable (∀ a ∈ s.arrival op, a.2.rexmit = true →
    a.1.FirstHoleAsked a.2.seq8))

variable {s s' : Rlp3Session} {N R : ℕ}

lemma NoLap.fitsWindow (h : s.NoLap op)
    (ha : s.arrival op = some (r, sdu)) : sdu.rexmit = false → r.FitsWindow sdu.seq8 := by
  have := h (r, sdu) ha
  exact this

lemma NoHole.firstHoleAsked (h : s.NoHole op)
    (ha : s.arrival op = some (r, sdu)) : sdu.rexmit = true → r.FirstHoleAsked sdu.seq8 := by
  have := h (r, sdu) ha
  exact this

lemma ensureInitialized_window (h : ∃ N R, s.toReceiver.InWindow N R) :
    ∃ N R, s.ensureInitialized.toReceiver.InWindow N R := by
  unfold ensureInitialized
  split
  · exact ⟨0, 0, inWindow_new⟩
  · exact h

lemma ticked_window (h : ∃ N R, s.toReceiver.InWindow N R) :
    ∃ N R, s.ticked.toReceiver.InWindow N R := by
  obtain ⟨N, R, h⟩ := ensureInitialized_window h
  obtain ⟨k, hk⟩ := tickNakTimers_spec s.ensureInitialized.policy h
  exact ⟨_, _, hk.inWindow⟩

lemma arrival_receiver (h : s.arrival op = some a) :
    a.1 = s.ticked.toReceiver := by
  cases op with
  | receiveFrame => grind [arrival, Option.map_eq_some_iff]
  | _ => cases h

/-- **One call keeps the window.** -/
theorem step_window (h : ∃ N R, s.toReceiver.InWindow N R)
    (hlap : s.NoLap op) (hs : s.step op = some (s', out)) :
    ∃ N R, s'.toReceiver.InWindow N R := by
  cases step_receiver hs with
  | keep _ _ _ hr | pop _ _ _ hr | take _ _ _ _ hr => rw [hr]; exact h
  | reset _ _ hr => rw [hr]; exact ⟨0, 0, inWindow_new⟩
  | tick _ _ hr => rw [hr]; exact ticked_window h
  | sdu ha _ hr =>
    obtain ⟨N, R, hw⟩ := ticked_window h
    rw [hr]
    exact receiveSduOn_window _ hw _ (hlap.fitsWindow ha)

lemma window_run {config : Rlp3Config} {log : List (Op × Out)}
    (hrun : Run (guarded step NoLap) (new config) s log) : ∃ N R, s.toReceiver.InWindow N R :=
  hrun.inv (fun s _ => ∃ N R, s.toReceiver.InWindow N R) ⟨0, 0, inWindow_new⟩
    fun _ _ _ _ _ h hs => step_window h hs.1 hs.2

/-! ### Writing into the window -/

/-- A new frame is delivered at once only when nothing is missing, and is stored only in an empty
slot. -/
def NewDataSafe (r : Receiver) (seq8 : UInt8) : Prop :=
  (r.newDataCase (r.computeLSeq seq8) = .inOrder → r.nakList = []) ∧
  (r.newDataCase (r.computeLSeq seq8) = .expected ∨ r.newDataCase (r.computeLSeq seq8) = .gap →
    r.reseqBuffer (r.computeLSeq seq8) = none)

lemma newDataSafe_of_window (h : r.InWindow N R) (hfit : r.FitsWindow seq8) : NewDataSafe r seq8 := by
  have hlap := lap_of_fitsWindow h hfit
  unfold NewDataSafe
  rw [computeLSeq_eq h, newDataCase_eq h (offset_lt r seq8)]
  refine ⟨?_, fun _ => h.empty _ (by omega) (by omega)⟩
  intro hc
  have hNR : N = R := by grind
  subst hNR
  exact List.map_eq_nil_iff.1 (Window.missing_eq_nil h)

/-- **The receive window does not lap.** In every run whose new frames keep
`L_V(R) - L_V(N) + (SEQ - L_V(R)) mod 256` below 4095, a new frame is stored only in an empty slot and
is delivered at once only when nothing is missing. -/
theorem receive_window_never_laps (config : Rlp3Config) {s : Rlp3Session} {log : List (Op × Out)}
    {op : Op} {r : Receiver} {sdu : Sdu} (hrun : Run (guarded step NoLap) (new config) s log)
    (hop : s.NoLap op) (harr : s.arrival op = some (r, sdu)) (hnew : sdu.rexmit = false) :
    NewDataSafe r sdu.seq8 := by
  obtain ⟨N, R, hw⟩ := ticked_window (window_run hrun)
  obtain rfl : r = s.ticked.toReceiver := arrival_receiver harr
  exact newDataSafe_of_window hw (hop.fitsWindow harr hnew)

def gapOp : Op := .received .odd (.data 2 false [2])

/-- At a frame that leaves a gap, after the SYNC exchange and one frame in order. -/
theorem receive_window_never_laps_gap : ∃ s log r, Run (guarded step NoLap) (new {}) s log ∧
    s.arrival gapOp = some (r, ⟨false, 2, [2]⟩) ∧ r.newDataCase (r.computeLSeq 2) = .gap ∧ NewDataSafe r 2 := by
  obtain ⟨s, log, hrun, hop, harr⟩ := exists_run step NoLap (new {})
    [.received .odd (.control 0 .sync true false), .received .odd (.data 0 false [0])]
    (fun s _ => s.NoLap gapOp ∧ (s.arrival gapOp).any (fun a =>
      decide (a.2 = ⟨false, 2, [2]⟩ ∧ a.1.newDataCase (a.1.computeLSeq 2) = .gap)) = true)
    (by decide +kernel)
  obtain ⟨⟨r, sdu⟩, ha, hsdu⟩ := (Option.any_eq_true _ _).1 harr
  obtain ⟨rfl, hc⟩ := of_decide_eq_true hsdu
  have hs := receive_window_never_laps {} hrun hop ha rfl
  exact ⟨s, log, r, hrun, ha, hc, hs⟩

/-! ### A run that laps -/

/-- Frame 0 is missing and the NAK for it was never sent; the frames before `n` have arrived. -/
structure Lapping (s : Rlp3Session) (n : ℕ) : Prop where
  config : s.config = {}
  state : s.state = .dataTransfer
  lVN : s.lVN = 0
  lVR : s.lVR = n % seqModulus
  nakList : ∃ timer, s.nakList = [⟨0, 1, timer⟩]
  pendingControls : s.pendingControls = [.nak 0 0 (.gap [⟨0, 0⟩])]

lemma Lapping.ticked (h : Lapping s n) : Lapping s.ticked n := by
  obtain ⟨timer, hnak⟩ := h.nakList
  have hens : s.ensureInitialized = s := by unfold ensureInitialized; rw [h.state]; rfl
  have hp : s.toReceiver.pendingNakRanges = [⟨0, 0⟩] := by
    unfold Receiver.pendingNakRanges; rw [h.pendingControls]; rfl
  have he : ∃ t, s.toReceiver.tickedNaks s.policy = [(⟨0, 1, t⟩, .wait)] := by
    unfold Receiver.tickedNaks
    rw [hnak, hp]
    simp only [List.map_cons, Receiver.tickEntry]
    split
    · exact ⟨_, rfl⟩
    · exact ⟨_, rfl⟩
  obtain ⟨t, ht⟩ := he
  have ha : (s.toReceiver.tickNakTimers s.policy).1 = { s.toReceiver with nakList := [⟨0, 1, t⟩] } := by
    unfold Receiver.tickNakTimers Receiver.expiredSeqs Receiver.naksToSend
    rw [ht]
    rfl
  have heq : s.ticked = { s with toReceiver := { s.toReceiver with nakList := [⟨0, 1, t⟩] } } := by
    unfold Rlp3Session.ticked
    rw [hens, ← ha]
    rfl
  rw [heq]
  exact ⟨h.config, h.state, h.lVN, h.lVR, ⟨t, rfl⟩, h.pendingControls⟩

def lapFrame (n : ℕ) : Bits := formatA .odd (dataInfo (vR8 n) false [7])

lemma decode_lapFrame (n : ℕ) :
    decodeRlp3Frame (lapFrame n) .odd = .ok (.data (vR8 n) false [7]) := decode_dataInfo (by decide)

lemma Lapping.offset (h : Lapping s n) : s.toReceiver.computeLSeq (vR8 n) = n % seqModulus := by
  have : vR8 n = vR8 s.lVR := by
    rw [h.lVR]
    apply UInt8.toNat_inj.1
    simp [vR8_toNat, seqModulus]
  unfold computeLSeq
  rw [this, h.lVR]
  simp

lemma lapFrame_ne_nil (n : ℕ) : lapFrame n ≠ [] := by
  intro h0
  have hlen : (lapFrame n).length = MuxOption.odd.frameBits := length_formatA (dataInfo_fits (by decide))
  rw [h0] at hlen
  cases hlen

lemma Lapping.receive (h : Lapping s n) :
    s.arrival (.receiveFrame (lapFrame n) .full) = some (s.ticked.toReceiver, ⟨false, vR8 n, [7]⟩) ∧
    ∃ out, s.step (.receiveFrame (lapFrame n) .full) = some ({ s.ticked with
      toReceiver := (s.ticked.toReceiver.receiveNewData s.ticked.policy (vR8 n) [7]).1 }, out) := by
  have hdec : decodeRlp3Frame (lapFrame n) s.config.muxOption = .ok (.data (vR8 n) false [7]) := by
    rw [h.config]; exact decode_lapFrame n
  obtain ⟨harr, hrec⟩ := receiveFrame_sdu h.state (lapFrame_ne_nil n) hdec rfl
  simp only [step, hrec]
  exact ⟨harr, _, rfl⟩

lemma Lapping.next (h : Lapping s n) (hn : n % seqModulus ≠ 0) :
    ∃ s' out, s.step (.receiveFrame (lapFrame n) .full) = some (s', out) ∧ Lapping s' (n + 1) := by
  obtain ⟨-, out, hs⟩ := h.receive
  refine ⟨_, out, hs, ?_⟩
  have ht := h.ticked
  have hc : s.ticked.toReceiver.newDataCase (n % seqModulus) = .expected := by
    unfold newDataCase
    rw [ht.lVR, ht.lVN, if_neg (fun h0 => hn h0.2), if_pos ⟨rfl, hn⟩]
  have heq : (s.ticked.toReceiver.receiveNewData s.ticked.policy (vR8 n) [7]).1 = { s.ticked.toReceiver with
        reseqBuffer := Function.update s.ticked.reseqBuffer (n % seqModulus) (some [7])
        lVR := (s.ticked.lVR + 1) % seqModulus } := by
    unfold receiveNewData
    rw [ht.offset, hc]
    rfl
  rw [heq]
  exact ⟨ht.config, ht.state, ht.lVN, by simp only [ht.lVR, mod_succ], ht.nakList, ht.pendingControls⟩

lemma exists_lapping (k : ℕ) : k + 2 ≤ seqModulus →
    ∃ s log, Run (steps step) (new {}) s log ∧ Lapping s (k + 2) := by
  induction k with
  | zero =>
    intro _
    obtain ⟨s, log, hrun, h1, h2, h3, h4, h5, h6⟩ := exists_run step (fun _ _ => True) (new {})
      [.received .odd (.control 0 .sync true false), .received .odd (.data 1 false [7])]
      (fun s _ => s.config = {} ∧ s.state = .dataTransfer ∧ s.lVN = 0 ∧ s.lVR = 2 ∧
        s.nakList = [⟨0, 1, 9⟩] ∧ s.pendingControls = [.nak 0 0 (.gap [⟨0, 0⟩])])
      (by decide +kernel)
    exact ⟨s, log, hrun, h1, h2, h3, h4, ⟨9, h5⟩, h6⟩
  | succ k ih =>
    intro hk
    obtain ⟨s, log, hrun, h⟩ := ih (by omega)
    obtain ⟨s', out, hs, h'⟩ := h.next (by simp only [seqModulus] at *; omega)
    exact ⟨s', _, hrun.snoc ⟨trivial, hs⟩, h'⟩

/-- With frame 0 lost and the 4095 frames after it received, `L_V(R)` has come round to `L_V(N)`: the
next frame is delivered at once although frame 0 is still missing. -/
theorem receive_window_laps : ∃ s log r sdu, Run (steps step) (new {}) s log ∧
    s.arrival (.receiveFrame (lapFrame 4096) .full) = some (r, sdu) ∧ sdu.rexmit = false ∧
      ¬ NewDataSafe r sdu.seq8 := by
  obtain ⟨s, log, hrun, h⟩ := exists_lapping 4094 (by decide)
  obtain ⟨harr, -⟩ := h.receive
  refine ⟨s, log, _, _, hrun, harr, rfl, ?_⟩
  have ht := h.ticked
  have hc : s.ticked.toReceiver.newDataCase (4096 % seqModulus) = .inOrder := by
    unfold newDataCase
    rw [ht.lVR, ht.lVN]
    rfl
  intro hs
  obtain ⟨timer, hnak⟩ := ht.nakList
  have hnil := hs.1 (by rw [ht.offset]; exact hc)
  rw [hnak] at hnil
  cases hnil

end Rlp3Session

end OneXBts.Packet.Rlp3
