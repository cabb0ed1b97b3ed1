import OneXBts.Packet.Rlp3Window

/-!
The receiver does not wait for a frame it no longer asks for: `L_V(N)` is `L_V(R)` or is on the NAK list.

A frame period that gives up on a number sweeps on to the next one still asked for, but a retransmission of `L_V(N)` goes
through `deliver_contiguous`, which stops at any empty slot. So the invariant is kept exactly when that slot was not given up
before (`NoHole`); `receiver_wedges` is the run in which it was.
-/

namespace OneXBts.Packet.Rlp3

open Lib Receiver

namespace Receiver

variable {r : Receiver} {N R : ℕ}

/-- The window, with a lower end that is its upper end or is asked for. -/
structure Awaiting (r : Receiver) (N R : ℕ) : Prop where
  window : r.InWindow N R
  asked : N = R ∨ N % seqModulus ∈ r.missing

lemma awaiting_new : ({} : Receiver).Awaiting 0 0 := ⟨inWindow_new, .inl rfl⟩

lemma tickNakTimers_awaiting (policy : NakPolicy) (h : r.Awaiting N R) :
    ∃ N', (r.tickNakTimers policy).1.Awaiting N' R := by
  obtain ⟨k, hk⟩ := tickNakTimers_spec policy h.window
  refine ⟨N + k, hk.inWindow, ?_⟩
  by_cases hexp : r.expiredSeqs policy = []
  · rw [hk.still hexp, hk.missing, hexp]
    simpa using h.asked
  · exact hk.stopped hexp

lemma receiveNewData_awaiting (policy : NakPolicy) (h : r.Awaiting N R)
    (data : Bytes) (hfit : r.FitsWindow seq8) :
    ∃ N' R', (r.receiveNewData policy seq8 data).1.Awaiting N' R' := by
  have hlap := lap_of_fitsWindow h.window hfit
  by_cases hw : N = R ∧ r.offset seq8 = 0
  · obtain ⟨rfl, hoff⟩ := hw
    exact ⟨_, _, (receiveNewData_inOrder policy h.window hoff data).1, .inl rfl⟩
  have hs := receiveNewData_store policy h.window data hw hlap
  refine ⟨N, _, hs.inWindow, .inr ?_⟩
  rw [hs.missing, List.mem_append]
  rcases h.asked with rfl | hmem
  · -- the window was empty, so `N` is the first number skipped
    refine .inr (List.mem_map.2 ⟨0, List.mem_range.2 ?_, rfl⟩)
    exact Nat.pos_of_ne_zero fun h0 => hw ⟨rfl, h0⟩
  · exact .inl hmem

lemma receiveRexmitData_awaiting (h : r.Awaiting N R) (data : Bytes) (hh : r.FirstHoleAsked seq8) :
    ∃ N', (r.receiveRexmitData seq8 data).1.Awaiting N' R := by
  cases hf : r.nakList.find? (fun e => vR8 e.lSeq == seq8) with
  | none =>
    rw [receiveRexmitData_none data hf]
    exact ⟨N, h⟩
  | some entry =>
    obtain ⟨n, h1, h2, hn, -, hno, -, hwin, heq⟩ := receiveRexmitData_some h.window data hf
    have hlt := h.window.lt
    have hm : ∀ n', N ≤ n' → n' < R → n' ≠ n → n' % seqModulus ∈ r.missing →
        n' % seqModulus ∈ (r.filled (n % seqModulus) data).missing := by grind [missing_filled]
    rw [heq]
    by_cases hnN : n = N
    · subst hnN
      obtain ⟨k, hk, hdel, hwin', hhe, hs⟩ := deliverContiguous_spec hwin
      rw [if_pos rfl, flushDeliveryEvents_fst, hdel]
      refine ⟨n + k, hwin', ?_⟩
      by_cases hend : n + k = R
      · exact .inl hend
      -- delivery stopped below `R`: the slot was empty before, and it is the first such
      have hkp : 0 < k := by
        rcases Nat.eq_zero_or_pos k with rfl | hpos
        · simp [filled] at hs
        · exact hpos
      have hsl : ∀ j, 0 < j → j ≤ k → (r.filled (n % seqModulus) data).reseqBuffer ((n + j) % seqModulus) =
            r.reseqBuffer ((n + j) % seqModulus) := by
        intro j hj hjk
        refine Function.update_of_ne ?_ _ _
        grind
      have hlVN : ∀ j, (r.lVN + j) % seqModulus = (n + j) % seqModulus := by
        intro j
        rw [h.window.lo_eq, Nat.mod_add_mod]
      have ha := hh entry hf (by rw [hn, h.window.lo_eq]) k
        (by rw [distance_eq h.window]; omega) hkp
        (by
          intro j hjk hj
          rw [hlVN, ← hsl j hj (by omega)]
          exact hhe (n + j) (by omega) (by omega))
        (by rw [hlVN, ← hsl k hkp (le_refl k)]; exact hs)
      rw [hlVN, onNakList_iff] at ha
      exact .inr (hm (n + k) (by omega) (by omega) (by omega) ha)
    · rw [if_neg hnN]
      refine ⟨N, hwin, .inr ?_⟩
      grind [cases Receiver.Awaiting]

end Receiver

namespace Rlp3Session

variable {s s' : Rlp3Session}

def Steady (s : Rlp3Session) (op : Op) : Prop := s.NoLap op ∧ s.NoHole op

instance (s : Rlp3Session) (op : Op) : Decidable (s.Steady op) :=
  inferInstanceAs (Decidable (s.NoLap op ∧ s.NoHole op))

lemma ticked_awaiting (h : ∃ N R, s.toReceiver.Awaiting N R) :
    ∃ N R, s.ticked.toReceiver.Awaiting N R := by
  have hens : ∃ N R, s.ensureInitialized.toReceiver.Awaiting N R := by
    unfold ensureInitialized
    split
    · exact ⟨0, 0, awaiting_new⟩
    · exact h
  obtain ⟨N, R, h⟩ := hens
  obtain ⟨N', h'⟩ := tickNakTimers_awaiting s.ensureInitialized.policy h
  exact ⟨N', R, h'⟩

/-- **One call keeps `L_V(N)` asked for.** -/
theorem step_awaiting (h : ∃ N R, s.toReceiver.Awaiting N R)
    (hop : s.Steady op) (hs : s.step op = some (s', out)) :
    ∃ N R, s'.toReceiver.Awaiting N R := by
  cases step_receiver hs with
  | keep _ _ _ hr => rw [hr]; exact h
  | reset _ _ hr => rw [hr]; exact ⟨0, 0, awaiting_new⟩
  | pop _ _ _ hr | take _ _ _ _ hr =>
    obtain ⟨N, R, h⟩ := h
    rw [hr]
    exact ⟨N, R, h.window, h.asked⟩
  | tick _ _ hr => rw [hr]; exact ticked_awaiting h
  | @sdu sdu ha _ hr _ _ =>
    obtain ⟨N, R, hw⟩ := ticked_awaiting h
    rw [hr]
    obtain ⟨rexmit, seq8, data⟩ := sdu
    cases rexmit with
    | false => exact receiveNewData_awaiting _ hw data (hop.1.fitsWindow ha rfl)
    | true =>
      obtain ⟨N', h'⟩ := receiveRexmitData_awaiting hw data (hop.2.firstHoleAsked ha rfl)
      exact ⟨N', R, h'⟩

lemma awaiting_run {config : Rlp3Config} {log : List (Op × Out)}
    (hrun : Run (guarded step Steady) (new config) s log) : ∃ N R, s.toReceiver.Awaiting N R :=
  hrun.inv (fun s _ => ∃ N R, s.toReceiver.Awaiting N R) ⟨0, 0, awaiting_new⟩
    fun _ _ _ _ _ h hs => step_awaiting h hs.1 hs.2

/-- **The receiver never wedges.** In every run whose new frames do not lap the window and whose
retransmissions of `L_V(N)` do not meet a hole that was given up, `L_V(N)` is `L_V(R)` or is on the
NAK list; with an empty NAK list nothing waits in the resequencing buffer and `L_V(N)` is `L_V(R)`. -/
theorem receiver_never_wedges (config : Rlp3Config) {s : Rlp3Session} {log : List (Op × Out)}
    (hrun : Run (guarded step Steady) (new config) s log) :
    (s.lVN = s.lVR ∨ s.onNakList s.lVN = true) ∧
    (s.nakList = [] → (∀ l < seqModulus, s.reseqBuffer l = none) ∧ s.lVN = s.lVR) := by
  obtain ⟨N, R, hw, ha⟩ := awaiting_run hrun
  refine ⟨?_, ?_⟩
  · rcases ha with hend | hmem
    · exact .inl (hw.lo_eq_hi_iff.2 hend)
    · refine .inr ((onNakList_iff _ _).2 ?_)
      rw [hw.lo_eq]
      exact hmem
  · intro hnil
    have hm : s.toReceiver.missing = [] := by unfold missing; rw [hnil]; rfl
    obtain rfl : N = R := by grind
    exact ⟨fun l hl => Window.buf_eq_none hw hl, hw.lo_eq_hi_iff.2 rfl⟩

def recoveryRun : List Op :=
  [.received .odd (.control 0 .sync true false), .received .odd (.data 1 false [1]), .nextFrame .full,
    .blank, .received .odd (.data 0 true [0]), .received .odd (.data 3 false [3])]

theorem receiver_never_wedges_recovery : ∃ s log, Run (guarded step Steady) (new {}) s log ∧ s.lVN = 2 ∧ s.lVR = 4 ∧
      (s.lVN = s.lVR ∨ s.onNakList s.lVN = true) := by
  obtain ⟨s, log, hrun, h1, h2⟩ := exists_run step Steady (new {}) recoveryRun
    (fun s _ => s.lVN = 2 ∧ s.lVR = 4) (by decide +kernel)
  exact ⟨s, log, hrun, h1, h2, (receiver_never_wedges {} hrun).1⟩

/-- Frames 0 and 2 are lost. The NAK for 2 is sent and runs out of rounds; the one for 0 is still
queued. Then frame 0 arrives again. -/
def wedgeRun : List Op :=
  [.received .odd (.control 0 .sync true false), .received .odd (.data 1 false [1]),
    .received .odd (.data 3 false [3]), .nextFrame .full, .blank, .blank, .blank,
    .received .odd (.data 0 true [0])]

/-- The receiver waits for frame 2, which it gave up before: nothing is on the NAK list, and frame 3
stays in the buffer. -/
theorem receiver_wedges : ∃ s log,
    Run (steps step) (new { nakRoundsFwd := 1, rlpDelay := 1 }) s log ∧ s.state = .dataTransfer ∧
      s.lVN = 2 ∧ s.lVR = 4 ∧ s.nakList = [] ∧ s.reseqBuffer 3 = some [3] :=
  exists_run step (fun _ _ => True) (new { nakRoundsFwd := 1, rlpDelay := 1 }) wedgeRun _
    (by decide +kernel)

end Rlp3Session

end OneXBts.Packet.Rlp3
