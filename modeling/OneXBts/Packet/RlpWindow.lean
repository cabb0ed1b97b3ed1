import OneXBts.Packet.RlpSession

/-!
The receive window of an RLP Type 1 session, with `N` and `R` the unbounded numbers behind `V(N)` and `V(R)`.

Numbers are told apart by their octets as long as `R ≤ N + 128`. The session resets itself when a data frame takes the window
beyond that, with two exceptions: an idle frame moves `V(R)` without the check, and a data frame that takes the window to
256 numbers makes `V(R)` meet `V(N)`. `Admissible` excludes the two, and `receive_window` keeps the window in every other run.
-/

namespace OneXBts.Packet.Rlp

open Lib Function

/-! ### Comparison in a window -/

lemma seqCompare_mod (h1 : b ≤ a + 128) (h2 : a < b + 128) :
    seqCompare (a % seqModulus) (b % seqModulus) = if a = b then .equal else if b < a then .greater else .less := by
  unfold seqCompare
  simp only [seqModulus]
  split_ifs <;> first | rfl | (omega)

lemma seqLt_mod (h1 : b ≤ a + 128) (h2 : a < b + 128) :
    seqLt (a % seqModulus) (b % seqModulus) = decide (a < b) := by
  unfold seqLt
  rw [seqCompare_mod h1 h2]
  grind

lemma seqGt_mod (h1 : b ≤ a + 128) (h2 : a < b + 128) :
    seqGt (a % seqModulus) (b % seqModulus) = decide (b < a) := by
  unfold seqGt
  grind [seqCompare_mod]

namespace RlpSession

variable {s s' : RlpSession} {N R : ℕ}

/-- The receiver is at work on the frames of `[N, R)`. -/
structure InWindow (s : RlpSession) (N R : ℕ) : Prop where
  window : Window seqModulus N R s.vN s.vR s.reseqBuffer []
  bound : R ≤ N + 128
  next : s.reseqBuffer s.vN = none
  /-- The numbers start late enough for every octet to be one of the 256 numbers around `R`. -/
  base : 128 ≤ N

def distance (s : RlpSession) : ℕ := (s.vR + seqModulus - s.vN) % seqModulus

def ahead (s : RlpSession) (seq : UInt8) : ℕ := (seq.toNat + seqModulus - s.vR) % seqModulus

lemma InWindow.distance_eq (h : s.InWindow N R) : s.distance = R - N := h.window.dist_eq

lemma inWindow_fresh (hN : s.vN = 0) (hR : s.vR = 0) (hbuf : s.reseqBuffer = fun _ => none) :
    s.InWindow 256 256 := by
  refine ⟨?_, by omega, by rw [hbuf], by omega⟩
  rw [hN, hR, hbuf]
  exact Window.init (by decide) 256

lemma initializeSession_inWindow (s : RlpSession) : s.initializeSession.InWindow 256 256 :=
  inWindow_fresh rfl rfl rfl

lemma InWindow.congr (h : s.InWindow N R) (hN : s'.vN = s.vN) (hR : s'.vR = s.vR)
    (hbuf : s'.reseqBuffer = s.reseqBuffer) : s'.InWindow N R := by
  obtain ⟨hw, hb, hn, hba⟩ := h
  refine ⟨?_, hb, ?_, hba⟩ <;> grind

/-! ### The parts of a call -/

lemma handOver_fields (s : RlpSession) : s.handOver.1.vN = s.vN ∧ s.handOver.1.vR = s.vR ∧
    s.handOver.1.reseqBuffer = s.reseqBuffer := by
  unfold handOver takeReceivedData
  split <;> exact ⟨rfl, rfl, rfl⟩

lemma InWindow.handOver (h : s.InWindow N R) : s.handOver.1.InWindow N R := by
  obtain ⟨h1, h2, h3⟩ := s.handOver_fields
  exact h.congr h1 h2 h3

lemma queueNak_fields (s : RlpSession) (seq : ℕ) : (s.queueNak seq).vN = s.vN ∧
    (s.queueNak seq).vR = s.vR ∧ (s.queueNak seq).reseqBuffer = s.reseqBuffer := by
  unfold queueNak
  split <;> exact ⟨rfl, rfl, rfl⟩

lemma queueNaks_fields (s : RlpSession) (first last : ℕ) :
    (s.queueNaksForMissingRange first last).vN = s.vN ∧
    (s.queueNaksForMissingRange first last).vR = s.vR ∧
    (s.queueNaksForMissingRange first last).reseqBuffer = s.reseqBuffer := by
  unfold queueNaksForMissingRange
  generalize seqsUpTo seqModulus last seqModulus first = seqs
  induction seqs generalizing s with
  | nil => exact ⟨rfl, rfl, rfl⟩
  | cons seq =>
    obtain ⟨h1, h2, h3⟩ := s.queueNak_fields seq
    grind

lemma deliverContiguous_inWindow (hw : Window seqModulus N R s.vN s.vR s.reseqBuffer [])
    (hb : R ≤ N + 128) (hba : 128 ≤ N) :
    ∃ k, N + k ≤ R ∧ s.deliverContiguous.InWindow (N + k) R := by
  obtain ⟨k, hk, heq, -, hs⟩ := hw.sweep_held
  have hdel : s.deliverContiguous.vN = (N + k) % seqModulus ∧ s.deliverContiguous.vR = s.vR ∧
      s.deliverContiguous.reseqBuffer = cleared seqModulus N k s.reseqBuffer := by
    unfold deliverContiguous
    rw [heq]
    exact ⟨rfl, rfl, rfl⟩
  obtain ⟨hN, hR, hbuf⟩ := hdel
  refine ⟨k, hk, ?_, by omega, ?_, by omega⟩
  · rw [hN, hbuf]
    exact hw.swept hk (by simp)
  · rw [hN, hbuf, cleared, hs, ite_self]

lemma overflows_eq (hN : s.vN = N % seqModulus) (hR : s.vR = R % seqModulus) (hb : 128 ≤ N)
    (hle : N ≤ R) (hlt : R < N + seqModulus) : s.overflows = decide (N + 128 < R) := by
  have hs : (s.vR + seqModulus - 128) % seqModulus = (R - 128) % seqModulus := by
    simp only [seqModulus] at *
    omega
  simp only [seqModulus] at hlt
  unfold overflows
  rw [hs, hN, seqGt_mod (by omega) (by omega)]
  simp only [decide_eq_decide]
  omega

lemma checked_inWindow (hw : Window seqModulus N R s.vN s.vR s.reseqBuffer [])
    (hn : s.reseqBuffer s.vN = none) (hb : 128 ≤ N) : ∃ N' R',
    (if s.overflows then (s.initializeSession, none) else s.handOver).1.InWindow N' R' := by
  rw [overflows_eq hw.lo_eq hw.hi_eq hb hw.le hw.lt]
  split
  · exact ⟨256, 256, s.initializeSession_inWindow⟩
  · rename_i hf
    have hwin : s.InWindow N R := ⟨hw, by simpa using hf, hn, hb⟩
    exact ⟨N, R, hwin.handOver⟩

/-! ### Data frames -/

section

variable (h : s.InWindow N R)
include h

lemma InWindow.number (seq : UInt8) : ∃ n, seq.toNat = n % seqModulus ∧
    R ≤ n + 128 ∧ n < R + 128 ∧ (R < n → s.ahead seq = n - R) := by
  have hlt : seq.toNat < seqModulus := seq.toNat_lt
  obtain ⟨n, h1, h2, h3⟩ : ∃ n, R - 128 ≤ n ∧ n < R - 128 + seqModulus ∧ n % seqModulus = seq.toNat :=
    ⟨_, numberOf_spec (R - 128) hlt⟩
  have hle := h.window.le
  have hb := h.base
  refine ⟨n, h3.symm, by omega, ?_, ?_⟩
  · simp only [seqModulus] at h2 ⊢
    omega
  unfold ahead
  rw [h.window.hi_eq]
  simp only [seqModulus] at *
  omega

lemma receiveExpected_inWindow (data : Bytes) :
    ∃ N' R', (s.receiveExpected s.vR data).1.InWindow N' R' := by
  have hbo := h.bound
  have hb := h.base
  have hmod : s.vR = R % seqModulus := h.window.hi_eq
  unfold receiveExpected
  split
  · rename_i heq
    obtain rfl : N = R := h.window.lo_eq_hi_iff.1 heq.symm
    obtain ⟨k, -, hdel⟩ := deliverContiguous_inWindow (s := { s with
      vR := (s.vR + 1) % seqModulus
      vN := (s.vN + 1) % seqModulus
      rxBuffer := s.rxBuffer ++ data }) (h.window.advance (by decide)) (by omega) (by omega)
    exact ⟨_, _, hdel.handOver⟩
  · rename_i hne
    have hs := (h.window.store 0 (by simp only [seqModulus]; omega) data).sublist
      (List.nil_sublist _)
    simp only [Nat.add_zero] at hs
    rw [← mod_succ, ← hmod] at hs
    refine checked_inWindow hs ?_ hb
    dsimp only
    rw [update_of_ne (fun heq => hne heq.symm), h.next]

lemma receiveBeyond_inWindow (hgt : R < n) (hlap : n + 1 < N + seqModulus)
    (data : Bytes) : ∃ N' R', (s.receiveBeyond (n % seqModulus) data).1.InWindow N' R' := by
  have hle := h.window.le
  unfold receiveBeyond
  dsimp only
  obtain ⟨h1, -, h3⟩ := queueNaks_fields { s with
    reseqBuffer := update s.reseqBuffer (n % seqModulus) (some data) } s.vN
    ((n % seqModulus + seqModulus - 1) % seqModulus)
  have hs := (h.window.store (n - R) (by omega) data).sublist (List.nil_sublist _)
  rw [show R + (n - R) = n by omega, ← mod_succ] at hs
  refine checked_inWindow (N := N) (R := n + 1) ?_ ?_ h.base
  · rw [h1, h3]
    exact hs
  dsimp only
  rw [h1, h3]
  dsimp only
  rw [update_of_ne, h.next]
  rw [h.window.lo_eq]
  grind

lemma receiveLate_inWindow (hlt : n < R) (hge : R ≤ n + 128)
    (data : Bytes) : ∃ N' R', (s.receiveLate (n % seqModulus) data).1.InWindow N' R' := by
  have hb := h.bound
  have hle := h.window.le
  have hdup : seqLt (n % seqModulus) s.vN = decide (n < N) := by
    rw [h.window.lo_eq]
    exact seqLt_mod (by omega) (by omega)
  unfold receiveLate
  rw [hdup]
  split
  · exact ⟨N, R, h⟩
  rename_i hnew
  rw [decide_eq_true_eq, not_lt] at hnew
  split
  · have hh := h.window.hold hnew hlt data (List.Sublist.refl _) (by simp)
    dsimp only
    split
    · obtain ⟨k, -, hdel⟩ := deliverContiguous_inWindow (s := { s with
        reseqBuffer := update s.reseqBuffer (n % seqModulus) (some data)
        nakOutstanding := update s.nakOutstanding (n % seqModulus) false })
        hh hb h.base
      exact ⟨_, _, hdel.handOver⟩
    · rename_i hne
      refine ⟨N, R, InWindow.handOver ⟨hh, hb, ?_, h.base⟩⟩
      dsimp only
      rw [update_of_ne (Ne.symm hne), h.next]
  · exact ⟨N, R, h.handOver⟩

lemma receiveData_inWindow (data : Bytes)
    (hok : ¬ (s.distance = 128 ∧ s.ahead seq = 127)) :
    ∃ N' R', (s.receiveData seq data).1.InWindow N' R' := by
  obtain ⟨n, hn, h1, h2, ha⟩ := h.number seq
  have hb := h.bound
  rw [h.distance_eq] at hok
  have hs : InWindow { s with nakOutstanding := update s.nakOutstanding seq.toNat false } N R := h.congr rfl rfl rfl
  have hcmp : seqCompare seq.toNat s.vR = if n = R then .equal else if R < n then .greater else .less := by
    rw [hn, h.window.hi_eq]
    exact seqCompare_mod h1 h2
  unfold receiveData
  dsimp only
  rw [hcmp]
  split_ifs with heq hgt
  · have hseq : seq.toNat = s.vR := by rw [hn, heq, h.window.hi_eq]
    have := receiveExpected_inWindow hs data
    rw [hseq] at this ⊢
    exact this
  · rw [hn] at hs ⊢
    exact receiveBeyond_inWindow hs hgt (by simp only [seqModulus]; omega) data
  · rw [hn] at hs ⊢
    exact receiveLate_inWindow hs (by omega) h1 data

lemma updateVrForIdle_inWindow
    (hok : s.ahead seq ≤ 127 → s.distance + s.ahead seq ≤ 128) :
    ∃ N' R', (s.updateVrForIdle seq).InWindow N' R' := by
  obtain ⟨n, hn, h1, h2, ha⟩ := h.number seq
  have hle := h.window.le
  have hgt : seqGt seq.toNat s.vR = decide (R < n) := by
    rw [hn, h.window.hi_eq]
    exact seqGt_mod h1 h2
  unfold updateVrForIdle
  rw [hgt]
  split
  · rename_i hgt
    have hgt := of_decide_eq_true hgt
    have hoff := ha hgt
    have hfit := hok (by omega)
    rw [h.distance_eq, hoff] at hfit
    obtain ⟨h1, -, h3⟩ := s.queueNaks_fields s.vN ((seq.toNat + seqModulus - 1) % seqModulus)
    refine ⟨N, n, ?_, by omega, ?_, h.base⟩
    · have hr := h.window.raise (n - R) (by simp only [seqModulus]; omega)
      grind
    · rw [h1, h3, h.next]
  · exact ⟨N, R, h⟩

end

/-! ### Frames -/

def dataSeq (s : RlpSession) : RlpFrame → Option UInt8
  | .data seq data => if data = [] then none else some seq
  | .dataFormatB seq _ => some seq
  | .segmented seq .last _ => if s.segmentAssembly.any (fun a => a.seq == seq) then some seq else none
  | _ => none

def idleSeq : RlpFrame → Option UInt8
  | .data seq data => if data = [] then some seq else none
  | .idle seq => some seq
  | _ => none

/-- The frame takes the window neither past 128 numbers unnoticed nor to exactly 256. -/
structure Fits (s : RlpSession) (frame : RlpFrame) : Prop where
  idle : ∀ seq ∈ idleSeq frame, s.ahead seq ≤ 127 → s.distance + s.ahead seq ≤ 128
  data : ∀ seq ∈ s.dataSeq frame, ¬ (s.distance = 128 ∧ s.ahead seq = 127)

lemma retransmit_inWindow (seqs : List ℕ) : ∀ {s : RlpSession}, s.InWindow N R →
    ∃ N' R', (s.retransmit seqs).InWindow N' R' := by
  induction seqs with
  | nil => intro s h; exact ⟨N, R, h⟩
  | cons _ _ ih =>
    intro s h
    unfold retransmit
    split
    · exact ⟨256, 256, s.initializeSession_inWindow⟩
    · exact ih (h.congr rfl rfl rfl)

section

variable (h : s.InWindow N R)
include h

lemma receiveSegmented_inWindow
    (hok : ∀ x ∈ s.dataSeq (.segmented seq segmentType data), ¬ (s.distance = 128 ∧ s.ahead x = 127)) :
    ∃ N' R', (s.receiveSegmented seq segmentType data).1.InWindow N' R' := by
  cases segmentType with
  | intersegmentFill => exact ⟨N, R, h⟩
  | first => exact ⟨N, R, h.congr rfl rfl rfl⟩
  | second =>
    unfold receiveSegmented
    dsimp only
    split
    · exact ⟨N, R, h⟩
    · split <;> exact ⟨N, R, h.congr rfl rfl rfl⟩
  | last =>
    unfold receiveSegmented
    dsimp only
    split
    · exact ⟨N, R, h⟩
    rename_i assembly ha
    split
    · exact ⟨N, R, h.congr rfl rfl rfl⟩
    rename_i hseq
    have hn : InWindow { s with segmentAssembly := none } N R := h.congr rfl rfl rfl
    refine receiveData_inWindow hn _ (hok seq ?_)
    simp [dataSeq, ha, hseq]

lemma processDataFrame_inWindow (hok : s.Fits frame) :
    ∃ N' R', (s.processDataFrame frame).1.InWindow N' R' := by
  obtain ⟨hid, hda⟩ := hok
  unfold processDataFrame
  split
  · rename_i seq data
    split
    · rename_i hnil
      exact updateVrForIdle_inWindow h (hid seq (by simp [idleSeq, hnil]))
    · rename_i hne
      exact receiveData_inWindow h data (hda seq (by simp [dataSeq, hne]))
  · rename_i seq data
    exact receiveData_inWindow h data (hda seq rfl)
  · rename_i seq
    exact updateVrForIdle_inWindow h (hid seq rfl)
  · exact retransmit_inWindow _ h
  · exact ⟨N, R, h⟩
  · exact receiveSegmented_inWindow h hda

lemma ensureInitialized_inWindow :
    ∃ N' R', s.ensureInitialized.InWindow N' R' := by
  unfold ensureInitialized
  split
  · exact ⟨256, 256, s.initializeSession_inWindow⟩
  · exact ⟨N, R, h⟩

lemma receiveFrame_inWindow
    (hok : ∀ f ∈ frame, s.Fits f) : ∃ N' R', (s.receiveFrame frame).1.InWindow N' R' := by
  obtain ⟨N₁, R₁, hin⟩ := ensureInitialized_inWindow h
  unfold receiveFrame
  cases frame with
  | none =>
    dsimp only
    split
    · exact ⟨256, 256, s.initializeSession_inWindow⟩
    · exact ⟨N₁, R₁, hin.congr rfl rfl rfl⟩
  | some frame =>
    have hf := hok frame rfl
    by_cases hun : s.state = .uninitialized
    · -- a session just initialized waits for the peer's SYNC
      rw [ensureInitialized, if_pos hun] at hin ⊢
      refine ⟨N₁, R₁, ?_⟩
      change (receiveInSync _ frame).1.InWindow N₁ R₁
      unfold receiveInSync
      split <;> exact hin.congr rfl rfl rfl
    rw [ensureInitialized, if_neg hun]
    have hc : InWindow { s with consecutiveErasures := 0 } N R := h.congr rfl rfl rfl
    -- the first frame of the data transfer is handled like any other
    have he : ∃ N' R', ((enterDataTransfer { s with consecutiveErasures := 0 }).processDataFrame
        frame).1.InWindow N' R' := by
      have he : (enterDataTransfer { s with consecutiveErasures := 0 }).InWindow N R := h.congr rfl rfl rfl
      exact processDataFrame_inWindow he ⟨hf.idle, hf.data⟩
    dsimp only
    split
    · exact ⟨N, R, hc⟩
    · unfold receiveInSync
      split <;> exact ⟨N, R, h.congr rfl rfl rfl⟩
    · unfold receiveInSyncAck
      split
      any_goals exact ⟨N, R, h.congr rfl rfl rfl⟩
      · exact he
    · unfold receiveInAck
      split
      · exact ⟨N, R, h.congr rfl rfl rfl⟩
      · exact ⟨256, 256, s.initializeSession_inWindow⟩
      · exact he
    · split
      · exact ⟨256, 256, s.initializeSession_inWindow⟩
      · exact processDataFrame_inWindow hc ⟨hf.idle, hf.data⟩

end

lemma buildDataFrame_fields (s : RlpSession) (mux : RlpMuxOption) :
    (s.buildDataFrame mux).1.vN = s.vN ∧ (s.buildDataFrame mux).1.vR = s.vR ∧
    (s.buildDataFrame mux).1.reseqBuffer = s.reseqBuffer := by
  unfold buildDataFrame sendNew
  split
  · exact ⟨rfl, rfl, rfl⟩
  split
  · exact ⟨rfl, rfl, rfl⟩
  dsimp only
  split_ifs <;> exact ⟨rfl, rfl, rfl⟩

lemma nextFrameForMux_inWindow (h : s.InWindow N R) (mux : RlpMuxOption) :
    ∃ N' R', (s.nextFrameForMux mux).1.InWindow N' R' := by
  obtain ⟨N₁, R₁, hin⟩ := ensureInitialized_inWindow h
  have hb : ∀ {t : RlpSession}, t.InWindow N₁ R₁ → (t.buildDataFrame mux).1.InWindow N₁ R₁ := by
    intro t ht
    obtain ⟨h1, h2, h3⟩ := t.buildDataFrame_fields mux
    exact ht.congr h1 h2 h3
  refine ⟨N₁, R₁, ?_⟩
  unfold nextFrameForMux
  dsimp only
  split
  · exact hin
  · exact hin.congr rfl rfl rfl
  · exact hin.congr rfl rfl rfl
  · split
    · exact hb (hin.congr rfl rfl rfl)
    · exact hin.congr rfl rfl rfl
  · exact hb hin

/-! ### Runs -/

structure WindowKept (s : RlpSession) : Prop where
  distance : s.distance ≤ 128
  /-- What is held lies in the window. -/
  held : ∀ i < seqModulus, s.reseqBuffer i ≠ none →
    (i + seqModulus - s.vN) % seqModulus < s.distance
  next : s.reseqBuffer s.vN = none
  /-- Octets are told apart: of the 256 numbers around `R = N + distance`, the comparison with `V(R)` tells
  the expected one, the new ones and the old ones, and among the old ones the comparison with `V(N)`
  tells the duplicates. -/
  classify : ∀ N n, N % seqModulus = s.vN → N + s.distance ≤ n + 128 → n < N + s.distance + 128 →
    (seqCompare (n % seqModulus) s.vR = .equal ↔ n = N + s.distance) ∧
    (seqCompare (n % seqModulus) s.vR = .greater ↔ N + s.distance < n) ∧
    (n < N + s.distance → (seqLt (n % seqModulus) s.vN = true ↔ n < N))

lemma InWindow.kept (h : s.InWindow N R) : s.WindowKept := by
  have hdi := h.distance_eq
  have hle := h.window.le
  have hb := h.bound
  refine ⟨by omega, ?_, h.next, ?_⟩
  · intro i hi hh
    obtain ⟨h1, h2, h3⟩ := numberOf_spec N hi
    have hin : numberOf seqModulus N i < R := by
      by_contra hge
      exact hh (h3 ▸ h.window.empty _ (by omega) h2)
    rw [h.window.lo_eq]
    unfold numberOf at h1 hin
    omega
  · intro M n hM h1 h2
    have hR : s.vR = (M + s.distance) % seqModulus := by
      have hlt := h.window.hi_lt
      unfold RlpSession.distance
      simp only [seqModulus] at *
      omega
    grind [seqCompare_mod, seqLt_mod]

/-- The call brings in no frame that the window cannot take. -/
def Admissible (s : RlpSession) : Op → Prop
  | .receiveFrame (some frame) => s.Fits frame
  | _ => True

lemma call_inWindow (h : s.InWindow N R) (hok : s.Admissible op) :
    ∃ N' R', (s.call op).1.InWindow N' R' := by
  cases op with
  | initializeSession => exact ⟨256, 256, s.initializeSession_inWindow⟩
  | enqueueData | takeReceivedData => exact ⟨N, R, h.congr rfl rfl rfl⟩
  | receiveFrame =>
    refine receiveFrame_inWindow h ?_
    rintro f ⟨rfl⟩
    exact hok
  | nextFrameForMux mux => exact nextFrameForMux_inWindow h mux

/-- **The receive window of Type 1.** In every run whose frames the window can take, the window spans at
most 128 numbers, holds what has arrived, and numbers are told apart by their octets. -/
theorem receive_window {log : List (Op × Out)} (hrun : Run (guarded step Admissible) {} s log) :
    s.WindowKept := by
  have hinv : ∃ N R, s.InWindow N R := by
    refine hrun.inv (fun s _ => ∃ N R, s.InWindow N R) ⟨256, 256, inWindow_fresh rfl rfl rfl⟩ ?_
    rintro s op s' out log ⟨N, R, h⟩ ⟨hok, hst⟩
    have hs' : (s.call op).1 = s' := congrArg Prod.fst (Option.some.inj hst)
    rw [← hs']
    exact call_inWindow h hok
  obtain ⟨N, R, h⟩ := hinv
  exact h.kept

instance (s : RlpSession) (op : Op) : Decidable (s.Admissible op) :=
  match op with
  | .receiveFrame (some frame) => decidable_of_iff
      ((idleSeq frame).all (fun seq => decide (s.ahead seq ≤ 127 → s.distance + s.ahead seq ≤ 128)) ∧
        (s.dataSeq frame).all fun seq => decide (¬ (s.distance = 128 ∧ s.ahead seq = 127)))
      (by
        simp only [Option.all_eq_true, decide_eq_true_eq]
        exact ⟨fun h => ⟨h.1, h.2⟩, fun h => ⟨h.idle, h.data⟩⟩)
  | .receiveFrame none | .initializeSession | .enqueueData _ | .takeReceivedData
  | .nextFrameForMux _ => .isTrue trivial

def afterSync (frames : List RlpFrame) : List Op :=
  (.receiveFrame (some (syncFrame 0))) :: frames.map fun f => .receiveFrame (some f)

/-- Frames 1 to 127 are lost and frame 128 arrives: the window is as wide as it can be. -/
theorem receive_window_gap : ∃ s log, Run (guarded step Admissible) {} s log ∧
    s.state = .dataTransfer ∧ s.distance = 128 ∧ s.WindowKept := by
  obtain ⟨s, log, hrun, hst, hdi⟩ := exists_run step Admissible {}
    (afterSync [.data 0 [0], .idle 128, .data 128 [1]])
    (fun s _ => s.state = .dataTransfer ∧ s.distance = 128) (by decide +kernel)
  exact ⟨s, log, hrun, hst, hdi, receive_window hrun⟩

/-- Two idle frames take the window to 254 numbers; two data frames, the second 127 numbers beyond
`V(R)`, make `V(R)` meet `V(N)` with two frames held. -/
theorem receive_window_lost :
    (∃ s log, Run (steps step) {} s log ∧ s.state = .dataTransfer ∧ s.distance = 254 ∧ ¬ s.WindowKept) ∧
    ∃ s log, Run (steps step) {} s log ∧ s.state = .dataTransfer ∧ s.vN = s.vR ∧
      s.reseqBuffer 127 ≠ none ∧ s.reseqBuffer 255 ≠ none ∧ ¬ s.WindowKept := by
  constructor
  · obtain ⟨s, log, hrun, hst, hdi⟩ := exists_run step (fun _ _ => True) {}
      (afterSync [.idle 127, .idle 254])
      (fun s _ => s.state = .dataTransfer ∧ s.distance = 254) (by decide +kernel)
    exact ⟨s, log, hrun, hst, hdi, fun h => absurd h.distance (by omega)⟩
  · obtain ⟨s, log, hrun, hst, hN, h127, h255⟩ := exists_run step (fun _ _ => True) {}
      (afterSync [.data 127 [1], .data 255 [2]])
      (fun s _ => s.state = .dataTransfer ∧ (s.vN = 0 ∧ s.vR = 0) ∧ s.reseqBuffer 127 ≠ none ∧
        s.reseqBuffer 255 ≠ none) (by decide +kernel)
    refine ⟨s, log, hrun, hst, by rw [hN.1, hN.2], h127, h255, fun h => ?_⟩
    have := h.held 127 (by decide) h127
    simp [RlpSession.distance, hN] at this

end RlpSession

end OneXBts.Packet.Rlp
