import OneXBts.Packet.Rlp3Steps

/-!
What each function of the receiver does, told by the window of unbounded frame numbers `[N, R)` (`Receiver.InWindow`).

A sweep moves `N` up and takes out what is held there (`sweptTo`). A frame period is a choice of entries that give up, and a
sweep when there are any. A new frame is `R + off`, `off < 256`: the window grows by it and by the numbers it skips. A
retransmission fills the slot of an entry of the NAK list.
-/

namespace OneXBts.Packet.Rlp3.Receiver

open Lib List Function Window RlpEvent

variable {r : Receiver} {N R : ℕ}

def missing (r : Receiver) : List ℕ := r.nakList.map NakEntry.lSeq

lemma onNakList_iff (r : Receiver) (l : ℕ) : r.onNakList l = true ↔ l ∈ r.missing := by simp [onNakList, missing]

def InWindow (r : Receiver) (N R : ℕ) : Prop := Window seqModulus N R r.lVN r.lVR r.reseqBuffer r.missing

lemma inWindow_new : ({} : Receiver).InWindow 0 0 := init (by decide) 0

/-! ### Sweeps -/

def held (r : Receiver) (N k : ℕ) : Bytes :=
  ((List.range' N k).filterMap fun n => r.reseqBuffer (n % seqModulus)).flatten

def sweptTo (r : Receiver) (N k : ℕ) : Receiver :=
  { r with
    lVN := (N + k) % seqModulus
    reseqBuffer := cleared seqModulus N k r.reseqBuffer
    rxBuffer := r.rxBuffer ++ r.held N k }

lemma deliverContiguous_spec (h : r.InWindow N R) : ∃ k, N + k ≤ R ∧
    r.deliverContiguous = r.sweptTo N k ∧ (r.sweptTo N k).InWindow (N + k) R ∧
    (∀ n, N ≤ n → n < N + k → r.reseqBuffer (n % seqModulus) ≠ none) ∧
    r.reseqBuffer ((N + k) % seqModulus) = none := by
  obtain ⟨k, hk, heq, hh, hs⟩ := sweep_held h
  refine ⟨k, hk, ?_, ?_, hh, hs⟩
  · unfold deliverContiguous
    rw [heq]
    rfl
  · exact swept h hk fun n h1 h2 => h.not_missing_of_some (hh n h1 h2)

lemma advanceLVNPastGaps_spec (h : r.InWindow N R) : ∃ k, N + k ≤ R ∧
    r.advanceLVNPastGaps = r.sweptTo N k ∧ (r.sweptTo N k).InWindow (N + k) R ∧
    (∀ n, N ≤ n → n < N + k → n % seqModulus ∉ r.missing) ∧
    (N + k = R ∨ (N + k) % seqModulus ∈ r.missing) := by
  obtain ⟨k, hk, heq, hp, hs⟩ := sweep_skip h
    (fun l slot => l == r.lVR || slot.isNone && r.onNakList l) (by simp [onNakList_iff])
  refine ⟨k, hk, ?_, swept h hk hp, hp, hs⟩
  unfold advanceLVNPastGaps
  rw [heq]
  rfl

lemma flushDeliveryEvents_fst (r : Receiver) :
    r.flushDeliveryEvents.1 = { r with rxBuffer := [] } := by
  grind [flushDeliveryEvents, cases Packet.Rlp3.Receiver]

lemma delivered_flush (r : Receiver) : deliveredBy r.flushDeliveryEvents.2 = r.rxBuffer := by
  grind [flushDeliveryEvents, deliveredBy, delivered]

lemma abandoned_flush (r : Receiver) : abandonedBy r.flushDeliveryEvents.2 = [] := by
  unfold flushDeliveryEvents
  split <;> rfl

/-! ### A frame period -/

lemma tickEntry_lSeq (policy : NakPolicy) (pend : List NakGapEntry) (e : NakEntry) :
    (tickEntry policy pend e).1.lSeq = e.lSeq := by
  unfold tickEntry
  dsimp only
  split
  · rfl
  split
  · rfl
  split <;> rfl

lemma lSeq_tickedNaks (policy : NakPolicy) (r : Receiver) :
    ((r.tickedNaks policy).map Prod.fst).map NakEntry.lSeq = r.missing := by
  simp only [tickedNaks, map_map]
  exact map_congr_left fun e _ => tickEntry_lSeq policy _ e

lemma expiredSeqs_sublist (policy : NakPolicy) (r : Receiver) :
    List.Sublist (r.expiredSeqs policy) r.missing := by
  rw [← lSeq_tickedNaks policy r]
  unfold expiredSeqs
  induction r.tickedNaks policy <;> grind

lemma queueGrouped_frame (grouped : List (ℕ × List ℕ)) : ∀ r : Receiver,
    ∃ pend, r.queueGrouped grouped = { r with pendingControls := pend } := by
  have copies : ∀ (es : List NakGapEntry) (n : ℕ) (r : Receiver),
      ∃ pend, (fun r : Receiver => r.queueNakEntries es)^[n] r = { r with pendingControls := pend } := by
    intro es n
    induction n with
    | zero => intro r; exact ⟨_, rfl⟩
    | succ n ih =>
      intro r
      obtain ⟨pend, hp⟩ := ih (r.queueNakEntries es)
      exact ⟨pend, by rw [iterate_succ_apply, hp]; rfl⟩
  induction grouped with
  | nil => intro r; exact ⟨_, rfl⟩
  | cons g grouped ih =>
    intro r
    obtain ⟨p1, h1⟩ := copies (coalescedNakEntries g.2) g.1 r
    obtain ⟨p2, h2⟩ := ih { r with pendingControls := p1 }
    grind [Receiver.queueGrouped]

/-- The receiver once the entries have been ticked and before any sweep. -/
def aged (policy : NakPolicy) (r : Receiver) : Receiver :=
  let r' := ({ r with nakList := (r.tickedNaks policy).map Prod.fst }).queueGrouped
    ((r.naksToSend policy).foldl addToGroup [])
  { r' with nakList := r'.nakList.filter fun e => !(r.expiredSeqs policy).contains e.lSeq }

lemma tickNakTimers_eq (policy : NakPolicy) (r : Receiver) : r.tickNakTimers policy =
    if r.expiredSeqs policy = [] then (r.aged policy, [])
    else ((r.aged policy).advanceLVNPastGaps.flushDeliveryEvents.1,
      ((r.expiredSeqs policy).map fun seq => nakAbandoned seq seq) ++
        (r.aged policy).advanceLVNPastGaps.flushDeliveryEvents.2) := by grind [tickNakTimers, aged]

lemma aged_frame (policy : NakPolicy) (r : Receiver) :
    (r.aged policy).lVN = r.lVN ∧ (r.aged policy).lVR = r.lVR ∧
      (r.aged policy).rxBuffer = r.rxBuffer ∧ (r.aged policy).reseqBuffer = r.reseqBuffer ∧
      (r.aged policy).missing = r.missing.filter fun l => !(r.expiredSeqs policy).contains l := by
  obtain ⟨pend, hp⟩ := queueGrouped_frame ((r.naksToSend policy).foldl addToGroup [])
    { r with nakList := (r.tickedNaks policy).map Prod.fst }
  unfold aged missing
  rw [hp]
  refine ⟨rfl, rfl, rfl, rfl, ?_⟩
  rw [← show _ = r.nakList.map NakEntry.lSeq from lSeq_tickedNaks policy r]
  exact (filter_map (f := NakEntry.lSeq) (p := fun l => !(r.expiredSeqs policy).contains l)).symm

lemma abandonedBy_map (seqs : List ℕ) :
    abandonedBy (seqs.map fun seq => nakAbandoned seq seq) = seqs := by
  induction seqs with
  | nil => rfl
  | cons _ seqs ih => simp only [abandonedBy, map_cons, flatMap_cons] at ih ⊢; rw [ih]; rfl

lemma deliveredBy_map (seqs : List ℕ) :
    deliveredBy (seqs.map fun seq => nakAbandoned seq seq) = [] := by
  induction seqs with
  | nil => rfl
  | cons _ seqs ih => simp only [deliveredBy, map_cons, flatMap_cons] at ih ⊢; rw [ih]; rfl

/-- What a frame period does: some numbers are given up, and when there are any, `N` moves over what
is held or no longer missing. -/
structure TickSpec (policy : NakPolicy) (r : Receiver) (N R k : ℕ) : Prop where
  inWindow : (r.tickNakTimers policy).1.InWindow (N + k) R
  le : N + k ≤ R
  lVR : (r.tickNakTimers policy).1.lVR = r.lVR
  missing : (r.tickNakTimers policy).1.missing =
    r.missing.filter fun l => !(r.expiredSeqs policy).contains l
  reseqBuffer : (r.tickNakTimers policy).1.reseqBuffer = cleared seqModulus N k r.reseqBuffer
  delivered : deliveredBy (r.tickNakTimers policy).2 ++ (r.tickNakTimers policy).1.rxBuffer =
    r.rxBuffer ++ r.held N k
  flushed : r.rxBuffer = [] → (r.tickNakTimers policy).1.rxBuffer = []
  abandoned : abandonedBy (r.tickNakTimers policy).2 = r.expiredSeqs policy
  /-- `N` moves over nothing that is still missing. -/
  passed : ∀ n, N ≤ n → n < N + k → n % seqModulus ∉ (r.tickNakTimers policy).1.missing
  /-- Without a number given up, nothing moves. -/
  still : r.expiredSeqs policy = [] → k = 0
  /-- With one, `N` stops at `R` or at a missing number. -/
  stopped : r.expiredSeqs policy ≠ [] →
    N + k = R ∨ (N + k) % seqModulus ∈ (r.tickNakTimers policy).1.missing

lemma held_zero (r : Receiver) (N : ℕ) : r.held N 0 = [] := rfl

/-- **A frame period keeps the window.** -/
theorem tickNakTimers_spec (policy : NakPolicy) (h : r.InWindow N R) :
    ∃ k, TickSpec policy r N R k := by
  obtain ⟨hN, hR, hrx, hbuf, hm⟩ := aged_frame policy r
  have hsub : List.Sublist (r.aged policy).missing r.missing := by rw [hm]; exact filter_sublist
  have ha : (r.aged policy).InWindow N R := by
    unfold InWindow
    rw [hN, hR, hbuf]
    exact sublist h hsub
  by_cases hexp : r.expiredSeqs policy = []
  · have heq : r.tickNakTimers policy = (r.aged policy, []) := by rw [tickNakTimers_eq, if_pos hexp]
    refine ⟨0, ?_, h.le, ?_, ?_, ?_, ?_, ?_, ?_, ?_, fun _ => rfl, fun hne => absurd hexp hne⟩
    all_goals rw [heq]
    · exact ha
    · exact hR
    · exact hm
    · rw [hbuf, cleared_zero]
    · rw [held_zero, hrx]; simp
    · exact fun hnil => hrx.trans hnil
    · rw [hexp]; rfl
    · omega
  · obtain ⟨k, hk, hadv, hwin, hp, hs⟩ := advanceLVNPastGaps_spec ha
    have heq : r.tickNakTimers policy = ({ (r.aged policy).sweptTo N k with rxBuffer := [] },
        ((r.expiredSeqs policy).map fun seq => nakAbandoned seq seq) ++
          (r.aged policy).advanceLVNPastGaps.flushDeliveryEvents.2) := by
      rw [tickNakTimers_eq, if_neg hexp, flushDeliveryEvents_fst, hadv]
    have hh : (r.aged policy).held N k = r.held N k := by unfold held; rw [hbuf]
    refine ⟨k, ?_, hk, ?_, ?_, ?_, ?_, ?_, ?_, ?_, fun he => absurd he hexp, fun _ => ?_⟩
    all_goals rw [heq]
    · exact hwin
    · exact hR
    · exact hm
    · change cleared seqModulus N k (r.aged policy).reseqBuffer = _
      rw [hbuf]
    · rw [deliveredBy_append, deliveredBy_map, delivered_flush, hadv]
      simp only [sweptTo, hrx, hh, nil_append, append_nil]
    · exact fun _ => rfl
    · rw [abandonedBy_append, abandonedBy_map, abandoned_flush, append_nil]
    · exact hp
    · exact hs

/-! ### New data -/

lemma vR8_toNat (l : ℕ) : (vR8 l).toNat = l % 256 := by simp [vR8]

/-- How far a new frame is ahead of `L_V(R)`, as far as its octet tells. -/
def offset (r : Receiver) (seq8 : UInt8) : ℕ := (seq8 - vR8 r.lVR).toNat

lemma offset_lt (r : Receiver) (seq8 : UInt8) : r.offset seq8 < 256 := by
  have := (seq8 - vR8 r.lVR).toNat_lt
  exact this

lemma computeLSeq_eq (h : r.InWindow N R) (seq8 : UInt8) :
    r.computeLSeq seq8 = (R + r.offset seq8) % seqModulus := by
  unfold computeLSeq offset
  rw [h.hi_eq, Nat.mod_add_mod]

lemma offset_mod (h : r.InWindow N R) (seq8 : UInt8) :
    (R + r.offset seq8) % 256 = seq8.toNat := by
  have hR : r.lVR = R % 4096 := h.hi_eq
  have hlt : seq8.toNat < 256 := by simpa using seq8.toNat_lt
  unfold offset
  rw [UInt8.toNat_sub, vR8_toNat]
  omega

lemma newDataCase_eq (h : r.InWindow N R) (hoff : off < 256) :
    r.newDataCase ((R + off) % seqModulus) =
      if N = R ∧ off = 0 then .inOrder else if off = 0 then .expected else .gap := by
  have hR : r.lVR = R % 4096 := h.hi_eq
  have hs : (R + off) % 4096 = r.lVR ↔ off = 0 := by rw [hR]; omega
  have hNR : r.lVR = r.lVN ↔ N = R := by rw [eq_comm, h.lo_eq_hi_iff]
  unfold newDataCase
  by_cases h0 : off = 0
  · grind
  · have hgt : seq12Gt ((R + off) % 4096) r.lVR = true := by grind [Packet.Rlp3.seq12Gt]
    grind

lemma seqsBefore_eq : ∀ (fuel R off : ℕ), off ≤ fuel → off < seqModulus →
    seqsBefore ((R + off) % seqModulus) fuel (R % seqModulus) =
      (List.range off).map fun j => (R + j) % seqModulus := by
  intro fuel
  induction fuel with
  | zero =>
    intro R off h _
    obtain rfl : off = 0 := by omega
    rfl
  | succ fuel ih =>
    intro R off h hlt
    unfold seqsBefore
    cases off with
    | zero => simp
    | succ off =>
      have hne : R % seqModulus ≠ (R + (off + 1)) % seqModulus := by
        simp only [seqModulus] at *
        omega
      have hrec := ih (R + 1) off (by omega) (by omega)
      rw [show R + 1 + off = R + (off + 1) by omega] at hrec
      rw [if_neg hne, mod_succ, hrec, range_succ_eq_map, map_cons, map_map]
      congr 1
      refine map_congr_left fun j _ => ?_
      grind

lemma foldl_addNakEntry_frame (timer : ℕ) (seqs : List ℕ) : ∀ r : Receiver,
    ∃ naks, seqs.foldl (addNakEntry timer) r = { r with nakList := naks } := by
  induction seqs with
  | nil => intro r; exact ⟨_, rfl⟩
  | cons a seqs ih =>
    intro r
    unfold addNakEntry
    rw [foldl_cons]
    split
    · exact ih r
    · obtain ⟨naks, hn⟩ := ih { r with nakList := r.nakList ++ [⟨a, 1, timer⟩] }
      exact ⟨naks, hn⟩

lemma foldl_addNakEntry_missing (timer : ℕ) (seqs : List ℕ) : ∀ r : Receiver, (r.missing ++ seqs).Nodup →
    (seqs.foldl (addNakEntry timer) r).missing = r.missing ++ seqs := by
  induction seqs with
  | nil => simp
  | cons a seqs ih =>
    intro r h
    have hnot : r.onNakList a = false := by
      rw [Bool.eq_false_iff, ne_eq, onNakList_iff]
      intro hmem
      exact (nodup_append.1 h).2.2 a hmem a (by simp) rfl
    have hadd : addNakEntry timer r a = { r with nakList := r.nakList ++ [⟨a, 1, timer⟩] } := by
      unfold addNakEntry
      rw [hnot]
      rfl
    have hm : (addNakEntry timer r a).missing = r.missing ++ [a] := by rw [hadd]; simp [missing]
    rw [foldl_cons, ih, hm, append_assoc]
    · rfl
    · rw [hm, append_assoc]; exact h

lemma receiveNewData_inOrder (policy : NakPolicy) (h : r.InWindow R R)
    (hoff : r.offset seq8 = 0) (data : Bytes) :
    (r.receiveNewData policy seq8 data).1.InWindow (R + 1) (R + 1) ∧
    deliveredBy (r.receiveNewData policy seq8 data).2 = r.rxBuffer ++ data ∧
    (r.receiveNewData policy seq8 data).1.rxBuffer = [] ∧
    abandonedBy (r.receiveNewData policy seq8 data).2 = [] := by
  have hwin : ({ r with
      lVR := (r.lVR + 1) % seqModulus
      lVN := (r.lVN + 1) % seqModulus
      rxBuffer := r.rxBuffer ++ data } : Receiver).InWindow (R + 1) (R + 1) :=
    advance h (by decide)
  obtain ⟨k, hk, hdel, -⟩ := deliverContiguous_spec hwin
  obtain rfl : k = 0 := by omega
  unfold receiveNewData
  rw [computeLSeq_eq h, newDataCase_eq h (offset_lt r seq8), if_pos ⟨rfl, hoff⟩, newDataBranch]
  rw [flushDeliveryEvents_fst, delivered_flush, abandoned_flush, hdel]
  refine ⟨?_, ?_, rfl, rfl⟩
  · unfold InWindow sweptTo
    rw [← hwin.lo_eq]
    exact hwin
  · simp [sweptTo, held_zero]

/-- What a new frame does when it cannot be delivered at once. -/
structure StoreSpec (policy : NakPolicy) (r : Receiver) (seq8 : UInt8) (data : Bytes) (N R : ℕ) :
    Prop where
  inWindow : (r.receiveNewData policy seq8 data).1.InWindow N (R + r.offset seq8 + 1)
  missing : (r.receiveNewData policy seq8 data).1.missing =
    r.missing ++ (List.range (r.offset seq8)).map fun j => (R + j) % seqModulus
  reseqBuffer : (r.receiveNewData policy seq8 data).1.reseqBuffer =
    Function.update r.reseqBuffer ((R + r.offset seq8) % seqModulus) (some data)
  lVN : (r.receiveNewData policy seq8 data).1.lVN = r.lVN
  rxBuffer : (r.receiveNewData policy seq8 data).1.rxBuffer = r.rxBuffer
  delivered : deliveredBy (r.receiveNewData policy seq8 data).2 = []
  abandoned : abandonedBy (r.receiveNewData policy seq8 data).2 = []

lemma sendNak_quiet (seqs : List ℕ) :
    deliveredBy (seqs.map fun s => sendNak s s) = [] ∧ abandonedBy (seqs.map fun s => sendNak s s) = [] := by
  induction seqs with
  | nil => exact ⟨rfl, rfl⟩
  | cons _ seqs ih => exact ih

lemma receiveNewData_store (policy : NakPolicy) (h : r.InWindow N R) (data : Bytes)
    (hw : ¬ (N = R ∧ r.offset seq8 = 0)) (hlap : R + r.offset seq8 + 1 < N + seqModulus) :
    StoreSpec policy r seq8 data N R := by
  have hs := store h (r.offset seq8) hlap data
  have hlt := offset_lt r seq8
  have hc := newDataCase_eq h hlt
  rw [if_neg hw] at hc
  by_cases h0 : r.offset seq8 = 0
  · -- the expected frame: no number is skipped
    have heq : r.receiveNewData policy seq8 data = ({ r with
        reseqBuffer := update r.reseqBuffer ((R + r.offset seq8) % seqModulus) (some data)
        lVR := (r.lVR + 1) % seqModulus }, []) := by
      unfold receiveNewData
      rw [computeLSeq_eq h, hc, if_pos h0, newDataBranch]
    have hm : r.missing ++ (List.range (r.offset seq8)).map (fun j => (R + j) % seqModulus) =
        r.missing := by rw [h0]; simp
    rw [hm] at hs
    have hR : (r.lVR + 1) % seqModulus = (R + r.offset seq8 + 1) % seqModulus := by rw [h.hi_eq, mod_succ, h0]
    refine ⟨?_, ?_, ?_, ?_, ?_, ?_, ?_⟩ <;> rw [heq]
    · rw [hR]
      exact hs
    · exact hm.symm
    · rfl
    · rfl
  · have hse := seqsBefore_eq seqModulus R (r.offset seq8) (by simp only [seqModulus]; omega)
      (by simp only [seqModulus]; omega)
    rw [← h.hi_eq] at hse
    obtain ⟨naks, hn⟩ := foldl_addNakEntry_frame policy.timer
      ((List.range (r.offset seq8)).map fun j => (R + j) % seqModulus) r
    have hm := foldl_addNakEntry_missing policy.timer _ r hs.nodup
    have heq : (r.receiveNewData policy seq8 data).1 = { r with
        reseqBuffer := update r.reseqBuffer ((R + r.offset seq8) % seqModulus) (some data)
        lVR := ((R + r.offset seq8) % seqModulus + 1) % seqModulus
        nakList := naks
        pendingControls := (r.receiveNewData policy seq8 data).1.pendingControls } := by
      unfold receiveNewData
      rw [computeLSeq_eq h, hc, if_neg h0, newDataBranch, hse, hn]
      rfl
    have hev : (r.receiveNewData policy seq8 data).2 =
        ((List.range (r.offset seq8)).map fun j => (R + j) % seqModulus).map
          fun s => sendNak s s := by
      unfold receiveNewData
      rw [computeLSeq_eq h, hc, if_neg h0, newDataBranch, hse]
    have hm' : (r.receiveNewData policy seq8 data).1.missing =
        r.missing ++ (List.range (r.offset seq8)).map fun j => (R + j) % seqModulus := by
      rw [← hm, hn, heq]
      rfl
    refine ⟨?_, hm', by rw [heq], by rw [heq], by rw [heq], ?_, ?_⟩
    · unfold InWindow
      rw [hm', heq, mod_succ]
      exact hs
    · rw [hev]; exact (sendNak_quiet _).1
    · rw [hev]; exact (sendNak_quiet _).2

/-! ### Retransmissions -/

def filled (r : Receiver) (l : ℕ) (data : Bytes) : Receiver :=
  { r.removeNak l with reseqBuffer := Function.update r.reseqBuffer l (some data) }

lemma missing_filled (r : Receiver) (l : ℕ) (data : Bytes) :
    (r.filled l data).missing = r.missing.filter (· ≠ l) := by
  unfold missing
  rw [filter_map]
  rfl

lemma receiveRexmitData_some (h : r.InWindow N R) (data : Bytes)
    (hf : r.nakList.find? (fun e => vR8 e.lSeq == seq8) = some entry) :
    ∃ n, N ≤ n ∧ n < R ∧ entry.lSeq = n % seqModulus ∧ n % 256 = seq8.toNat ∧
      r.reseqBuffer (n % seqModulus) = none ∧ n % seqModulus ∈ r.missing ∧
      (r.filled (n % seqModulus) data).InWindow N R ∧
      r.receiveRexmitData seq8 data =
        if n = N then (r.filled (n % seqModulus) data).deliverContiguous.flushDeliveryEvents
        else (r.filled (n % seqModulus) data, []) := by
  have hmem : entry.lSeq ∈ r.missing := mem_map_of_mem (List.mem_of_find?_eq_some hf)
  have hseq : vR8 entry.lSeq = seq8 := by simpa using List.find?_some hf
  obtain ⟨n, h1, h2, hn, hno⟩ := h.missing_mem _ hmem
  have hsub : List.Sublist (r.missing.filter (· ≠ entry.lSeq)) r.missing := filter_sublist
  have hwin : (r.filled entry.lSeq data).InWindow N R := by
    have := fill h hmem data hsub (by simp)
    rwa [← missing_filled r entry.lSeq data] at this
  have hN : entry.lSeq = r.lVN ↔ n = N := by
    have hlt := h.lt
    rw [hn, h.lo_eq]
    grind
  refine ⟨n, h1, h2, hn, ?_, hn ▸ hno, hn ▸ hmem, hn ▸ hwin, ?_⟩
  · have := congrArg UInt8.toNat hseq
    rw [vR8_toNat, hn] at this
    simp only [seqModulus] at this
    omega
  · unfold receiveRexmitData
    rw [hf, ← hn]
    dsimp only
    rw [if_pos (show (r.removeNak entry.lSeq).reseqBuffer entry.lSeq = none from hno)]
    by_cases heq : n = N
    · rw [if_pos (show entry.lSeq = (r.removeNak entry.lSeq).lVN from hN.2 heq), if_pos heq]
      rfl
    · rw [if_neg (show ¬ entry.lSeq = (r.removeNak entry.lSeq).lVN from fun he => heq (hN.1 he)), if_neg heq]
      rfl

lemma receiveRexmitData_none (data : Bytes)
    (hf : r.nakList.find? (fun e => vR8 e.lSeq == seq8) = none) :
    r.receiveRexmitData seq8 data = (r, []) := by
  unfold receiveRexmitData
  rw [hf]

end OneXBts.Packet.Rlp3.Receiver
