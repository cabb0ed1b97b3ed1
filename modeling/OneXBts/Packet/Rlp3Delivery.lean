import OneXBts.Packet.Rlp3Window

/-!
Delivery across a lossy link.

Frame `n` of the peer carries `payload n` and shows the low octet of `n`. `inOrder payload gone N` is what the upper layer
should have got when the receiver is done with the frames below `N`: their payloads in order, without the frames given up.
`Receiver.Tracks` ties the receiver to it.
-/

namespace OneXBts.Packet.Rlp3

open Lib List Function Rlp3Session

/-- The payloads of the frames of `[N, N + k)` that were not given up. -/
def stretch (payload : ℕ → Bytes) (gone : List ℕ) (N k : ℕ) : Bytes :=
  ((List.range' N k).filter fun n => n ∉ gone).flatMap payload

/-- The payloads of the frames below `N` that were not given up. -/
def inOrder (payload : ℕ → Bytes) (gone : List ℕ) (N : ℕ) : Bytes :=
  ((List.range N).filter fun n => n ∉ gone).flatMap payload

section

variable {payload : ℕ → Bytes} {gone : List ℕ}

lemma inOrder_append (hf : ∀ n ∈ fresh, N ≤ n) (k : ℕ) :
    inOrder payload (gone ++ fresh) (N + k) = inOrder payload gone N ++ stretch payload (gone ++ fresh) N k := by
  have hb : (List.range N).filter (fun n => n ∉ gone ++ fresh) = (List.range N).filter fun n => n ∉ gone := by
    refine filter_congr ?_
    grind
  have hr : List.range (N + k) = List.range N ++ range' N k := by
    rw [range_eq_range', range_eq_range', ← List.range'_append_1, Nat.zero_add]
  grind [inOrder, stretch]

lemma inOrder_add (N k : ℕ) :
    inOrder payload gone (N + k) = inOrder payload gone N ++ stretch payload gone N k := by
  have h : inOrder payload (gone ++ []) (N + k) = _ := inOrder_append (by simp) k
  rwa [append_nil] at h

lemma stretch_one (h : N ∉ gone) : stretch payload gone N 1 = payload N := by simp [stretch, h]

end

namespace Receiver

variable {r r' : Receiver} {payload : ℕ → Bytes} {gone : List ℕ} {N R : ℕ}

/-- The receiver is at work on the frames of `[N, R)`, and the frames of `gone` were given up. -/
structure Tracks (r : Receiver) (payload : ℕ → Bytes) (gone : List ℕ) (N R : ℕ) : Prop where
  window : r.InWindow N R
  /-- A slot holds its own frame. -/
  content : ∀ n, N ≤ n → n < R → ∀ d ∈ r.reseqBuffer (n % seqModulus), d = payload n ∧ n ∉ gone
  /-- What is not held is asked for or given up, and not both. -/
  covered : ∀ n, N ≤ n → n < R → r.reseqBuffer (n % seqModulus) = none →
    (n % seqModulus ∈ r.missing ↔ n ∉ gone)
  gone_lt : ∀ n ∈ gone, n < R
  /-- Nothing is left behind between two calls. -/
  flushed : r.rxBuffer = []

lemma tracks_new : ({} : Receiver).Tracks payload [] 0 0 where
  window := inWindow_new
  content := by intros; omega
  covered := by intros; omega
  gone_lt := by simp
  flushed := rfl

lemma Tracks.held_eq (h : r.Tracks payload gone N R) (hk : N + k ≤ R)
    (hp : ∀ n, N ≤ n → n < N + k → n % seqModulus ∉ r.missing) :
    r.held N k = stretch payload gone N k := by
  unfold held stretch
  rw [flatMap_def, ← filterMap_eq_map, filterMap_filter]
  congr 1
  refine filterMap_congr ?_
  intro n hn
  rw [List.mem_range'_1] at hn
  cases hs : r.reseqBuffer (n % seqModulus) with
  | none =>
    have hg : n ∈ gone := by
      by_contra hnot
      exact hp n hn.1 hn.2 ((h.covered n hn.1 (by omega) hs).2 hnot)
    simp [hg]
  | some d =>
    obtain ⟨rfl, hnot⟩ := h.content n hn.1 (by omega) d hs
    simp [hnot]

lemma Tracks.swept (h : r.Tracks payload gone N R) (hwin : r'.InWindow (N + k) R)
    (hbuf : r'.reseqBuffer = cleared seqModulus N k r.reseqBuffer) (hm : r'.missing = r.missing)
    (hrx : r'.rxBuffer = []) : r'.Tracks payload gone (N + k) R := by
  have hs : ∀ n, N + k ≤ n → n < R → r'.reseqBuffer (n % seqModulus) = r.reseqBuffer (n % seqModulus) := by
    intro n h1 h2
    rw [hbuf]
    exact h.window.cleared_rest h1 h2
  refine ⟨hwin, ?_, ?_, h.gone_lt, hrx⟩
  · intro n h1 h2
    rw [hs n h1 h2]
    exact h.content n (by omega) h2
  · intro n h1 h2
    rw [hs n h1 h2, hm]
    exact h.covered n (by omega) h2

/-! ### A frame period -/

def expiredNumbers (policy : NakPolicy) (r : Receiver) (N : ℕ) : List ℕ :=
  (r.expiredSeqs policy).map (numberOf seqModulus N)

lemma mem_expired (policy : NakPolicy) (h : r.InWindow N R) :
    n ∈ r.expiredNumbers policy N ↔ N ≤ n ∧ n < R ∧ n % seqModulus ∈ r.expiredSeqs policy := by
  have hlt := h.lt
  unfold expiredNumbers
  constructor
  · intro hn
    obtain ⟨x, hx, rfl⟩ := mem_map.1 hn
    have hmem := (expiredSeqs_sublist policy r).subset hx
    obtain ⟨n', h1, h2, rfl, -⟩ := h.missing_mem x hmem
    obtain ⟨h3, h4, h5⟩ := numberOf_spec N (h.missing_lt hmem)
    rw [mod_inj_window (N := N) h3 h4 h1 (by omega) h5]
    exact ⟨h1, h2, hx⟩
  grind [numberOf_spec]

lemma map_expired (policy : NakPolicy) (h : r.InWindow N R) :
    (r.expiredNumbers policy N).map (· % seqModulus) = r.expiredSeqs policy := by
  unfold expiredNumbers
  rw [map_map]
  conv_rhs => rw [← map_id (r.expiredSeqs policy)]
  refine map_congr_left ?_
  intro x hx
  exact (numberOf_spec N (h.missing_lt ((expiredSeqs_sublist policy r).subset hx))).2.2

lemma Tracks.tick (policy : NakPolicy) (h : r.Tracks payload gone N R) : ∃ k,
    (r.tickNakTimers policy).1.Tracks payload (gone ++ r.expiredNumbers policy N) (N + k) R ∧
    inOrder payload (gone ++ r.expiredNumbers policy N) (N + k) =
      inOrder payload gone N ++ deliveredBy (r.tickNakTimers policy).2 ∧
    (r.expiredNumbers policy N).map (· % seqModulus) = abandonedBy (r.tickNakTimers policy).2 := by
  obtain ⟨k, hk⟩ := tickNakTimers_spec policy h.window
  obtain ⟨hN, hR, hrx, hbuf, hm⟩ := aged_frame policy r
  -- first the entries are dropped, then `N` moves
  have ha : (r.aged policy).Tracks payload (gone ++ r.expiredNumbers policy N) N R := by
    have hsub : List.Sublist (r.aged policy).missing r.missing := by rw [hm]; exact filter_sublist
    refine ⟨?_, ?_, ?_, ?_, by rw [hrx, h.flushed]⟩
    · unfold InWindow
      rw [hN, hR, hbuf]
      exact h.window.sublist hsub
    · intro n h1 h2 d hd
      rw [hbuf] at hd
      obtain ⟨heq, hnot⟩ := h.content n h1 h2 d hd
      refine ⟨heq, ?_⟩
      rw [mem_append, mem_expired policy h.window]
      rintro (hg | ⟨-, -, hexp⟩)
      · exact hnot hg
      · exact h.window.not_missing_of_some (by rw [hd]; simp)
          ((expiredSeqs_sublist policy r).subset hexp)
    · intro n h1 h2 hno
      rw [hbuf] at hno
      have hcov := h.covered n h1 h2 hno
      rw [hm, mem_filter, mem_append, mem_expired policy h.window, hcov]
      simp only [contains_eq_mem, Bool.not_eq_true', decide_eq_false_iff_not]
      tauto
    · intro n hn
      rcases mem_append.1 hn with hn | hn
      · exact h.gone_lt n hn
      · exact ((mem_expired policy h.window).1 hn).2.1
  have hh : (r.aged policy).held N k = r.held N k := by unfold held; rw [hbuf]
  have hdel := hk.delivered
  rw [hk.flushed h.flushed, h.flushed, append_nil, nil_append] at hdel
  refine ⟨k, ?_, ?_, ?_⟩
  · refine ha.swept hk.inWindow ?_ ?_ (hk.flushed h.flushed)
    · rw [hk.reseqBuffer, hbuf]
    · rw [hk.missing, hm]
  · rw [inOrder_append (fun n hn => ((mem_expired policy h.window).1 hn).1), hdel, ← hh]
    rw [ha.held_eq hk.le ?_]
    intro n h1 h2
    rw [hm, ← hk.missing]
    exact hk.passed n h1 h2
  · rw [map_expired policy h.window, hk.abandoned]

/-! ### Data frames -/

lemma offset_eq (h : r.InWindow N R) (h1 : R ≤ n) (h2 : n < R + 256) :
    r.offset (vR8 n) = n - R := by grind [offset_mod, vR8_toNat, offset_lt]

lemma Tracks.newData (policy : NakPolicy) (h : r.Tracks payload gone N R) (h1 : R ≤ n)
    (h2 : n < R + 256) (hdi : R ≤ N + 256) : ∃ k,
    (r.receiveNewData policy (vR8 n) (payload n)).1.Tracks payload gone (N + k) (n + 1) ∧
    inOrder payload gone (N + k) = inOrder payload gone N ++
      deliveredBy (r.receiveNewData policy (vR8 n) (payload n)).2 ∧
    abandonedBy (r.receiveNewData policy (vR8 n) (payload n)).2 = [] := by
  have hoff := offset_eq h.window h1 h2
  have hle := h.window.le
  by_cases hw : N = R ∧ r.offset (vR8 n) = 0
  · obtain ⟨rfl, h0⟩ := hw
    obtain rfl : n = N := by omega
    obtain ⟨hwin, hdel, hrx, hab⟩ := receiveNewData_inOrder policy h.window h0 (payload n)
    have hnot : n ∉ gone := fun hmem => by have := h.gone_lt n hmem; omega
    refine ⟨1, ⟨hwin, ?_, ?_, ?_, hrx⟩, ?_, hab⟩
    · omega
    · omega
    · intro n' hn'
      have := h.gone_lt n' hn'
      omega
    · rw [inOrder_add, stretch_one hnot, hdel, h.flushed, nil_append]
  · have hs := receiveNewData_store policy h.window (payload n) hw
      (by simp only [seqModulus]; omega)
    have hwin := hs.inWindow
    have hm := hs.missing
    have hbuf := hs.reseqBuffer
    rw [hoff, show R + (n - R) = n by omega] at hwin hbuf
    rw [hoff] at hm
    have hlt : n + 1 < N + seqModulus := hwin.lt
    refine ⟨0, ⟨hwin, ?_, ?_, ?_, hs.rxBuffer.trans h.flushed⟩, ?_, hs.abandoned⟩
    · intro n' h1' h2' d hd
      rw [hbuf] at hd
      by_cases hn : n' = n
      · subst hn
        rw [update_self] at hd
        cases hd
        exact ⟨rfl, fun hmem => by have := h.gone_lt n' hmem; omega⟩
      · rw [update_of_ne (fun heq => hn (mod_inj_window (N := N) h1' (by omega) (by omega) (by omega) heq))] at hd
        by_cases hR : n' < R
        · exact h.content n' h1' hR d hd
        · rw [h.window.empty n' (by omega) (by omega)] at hd
          cases hd
    · intro n' h1' h2' hno
      have hn : n' ≠ n := by
        rintro rfl
        rw [hbuf, update_self] at hno
        cases hno
      rw [hbuf, update_of_ne (fun heq => hn
        (mod_inj_window (N := N) h1' (by omega) (by omega) (by omega) heq))] at hno
      rw [hm, mem_append]
      by_cases hR : n' < R
      · grind [cases Receiver.Tracks]
      -- a number that the frame skips
      refine iff_of_true (.inr (mem_map.2 ⟨n' - R, mem_range.2 (by omega), ?_⟩)) ?_
      · rw [show R + (n' - R) = n' by omega]
      · intro hmem
        have := h.gone_lt n' hmem
        omega
    · intro n' hn'
      have := h.gone_lt n' hn'
      omega
    · rw [hs.delivered, append_nil, Nat.add_zero]

lemma Tracks.filled (h : r.Tracks payload gone N R) (h1 : N ≤ n) (h2 : n < R)
    (hmem : n % seqModulus ∈ r.missing) (hno : r.reseqBuffer (n % seqModulus) = none)
    (hwin : (r.filled (n % seqModulus) (payload n)).InWindow N R) :
    (r.filled (n % seqModulus) (payload n)).Tracks payload gone N R := by
  have hlt := h.window.lt
  have hne : ∀ n', N ≤ n' → n' < R → n' ≠ n → n' % seqModulus ≠ n % seqModulus := by grind
  refine ⟨hwin, ?_, ?_, h.gone_lt, h.flushed⟩
  · intro n' h1' h2' d hd
    by_cases hn : n' = n
    · subst hn
      simp only [Receiver.filled, update_self] at hd
      cases hd
      exact ⟨rfl, (h.covered n' h1 h2 hno).1 hmem⟩
    · simp only [Receiver.filled, update_of_ne (hne n' h1' h2' hn)] at hd
      exact h.content n' h1' h2' d hd
  · intro n' h1' h2' hno'
    have hn : n' ≠ n := by
      rintro rfl
      simp [Receiver.filled] at hno'
    simp only [Receiver.filled, update_of_ne (hne n' h1' h2' hn)] at hno'
    rw [missing_filled, ← h.covered n' h1' h2' hno']
    simp [hne n' h1' h2' hn]

lemma Tracks.rexmitData (h : r.Tracks payload gone N R) (h1 : n < R) (h2 : R ≤ n + 256)
    (hdi : R ≤ N + 256) : ∃ k,
    (r.receiveRexmitData (vR8 n) (payload n)).1.Tracks payload gone (N + k) R ∧
    inOrder payload gone (N + k) = inOrder payload gone N ++
      deliveredBy (r.receiveRexmitData (vR8 n) (payload n)).2 ∧
    abandonedBy (r.receiveRexmitData (vR8 n) (payload n)).2 = [] := by
  cases hfi : r.nakList.find? (fun e => vR8 e.lSeq == vR8 n) with
  | none =>
    rw [receiveRexmitData_none _ hfi]
    exact ⟨0, h, by simp, rfl⟩
  | some =>
    obtain ⟨n', h1', h2', -, hmod, hn, hmem, hwin, heq⟩ := receiveRexmitData_some h.window (payload n) hfi
    -- the entry that was found and the frame are among the 256 numbers below `R`
    obtain rfl : n' = n := mod_inj_window (N := R - 256) (by omega) (by omega) (by omega) (by omega) hmod
    have hf := h.filled h1' h2' hmem hn hwin
    rw [heq]
    by_cases hN : n' = N
    · obtain ⟨k, hk, hdel, hwin', hh, -⟩ := deliverContiguous_spec hwin
      have hp : ∀ l, N ≤ l → l < N + k → l % seqModulus ∉ (r.filled (n' % seqModulus) (payload n')).missing :=
        fun l hl1 hl2 => hwin.not_missing_of_some (hh l hl1 hl2)
      rw [if_pos hN, flushDeliveryEvents_fst, delivered_flush, abandoned_flush, hdel]
      refine ⟨k, hf.swept hwin' rfl rfl rfl, ?_, rfl⟩
      rw [inOrder_add, ← hf.held_eq hk hp]
      simp only [sweptTo, hf.flushed, nil_append]
    · rw [if_neg hN]
      exact ⟨0, hf, by simp, rfl⟩

end Receiver

/-! ### Before the data transfer -/

namespace Rlp3Session

variable {s s' : Rlp3Session}

/-- A session that has not reached the data transfer has an untouched receiver. -/
def Untouched (s : Rlp3Session) : Prop := s.state ≠ .dataTransfer → s.toReceiver = {}

lemma ensureInitialized_receiver (h : s.Untouched) :
    s.ensureInitialized.toReceiver = s.toReceiver := by
  unfold ensureInitialized
  split
  · rename_i hun
    rw [h (by rw [hun]; simp)]
    rfl
  · rfl

lemma ticked_untouched (h : s.Untouched) (hst : s.state ≠ .dataTransfer) :
    s.ticked.toReceiver = {} ∧ s.ensureInitialized.tickNakTimers.2 = [] := by
  have hr : s.ensureInitialized.toReceiver = {} := (ensureInitialized_receiver h).trans (h hst)
  unfold ticked tickNakTimers
  rw [hr]
  exact ⟨rfl, rfl⟩

lemma step_untouched (h : s.Untouched) (hstep : s.step op = some (s', out)) : s'.Untouched := by
  intro hne
  cases step_receiver hstep with
  | keep _ hst _ hr => rw [hr]; exact h fun hs => hne (hst hs)
  | reset _ _ hr => exact hr
  | pop _ hst _ hr => rw [hr, h fun hs => hne (hst hs)]; rfl
  | take _ hst _ _ hr => rw [hr, h fun hs => hne (hst hs)]
  | tick _ hst hr => rw [hr]; exact (ticked_untouched h fun hs => hne (hst hs)).1
  | sdu _ hst => exact absurd hst hne

lemma untouched_run {config : Rlp3Config} {log : List (Op × Out)}
    (hrun : Run (steps step) (new config) s log) : s.Untouched :=
  hrun.inv (fun s _ => s.Untouched) (fun _ => rfl) fun _ _ _ _ _ h hs => step_untouched h hs.2

end Rlp3Session

/-! ### The link -/

structure Link where
  session : Rlp3Session
  high : ℕ

namespace Link

/-- A call that brings in frame `n` of the peer, if it brings in a data frame at all. -/
def step (t : Link) (i : Op × ℕ) : Option (Link × Out) :=
  (t.session.step i.1).map fun x =>
    (⟨x.1, if (t.session.arrival i.1).any (fun a => !a.2.rexmit) then i.2 + 1 else t.high⟩, x.2)

/-- What the link may do. A data frame is frame `n` of the peer, a new one at most 255 numbers ahead of
`L_V(R)` and a copy one of the 256 before it; the window spans at most 256 numbers, and the session is
not reset. -/
structure Admissible (payload : ℕ → Bytes) (t : Link) (i : Op × ℕ) : Prop where
  distance : t.session.toReceiver.distance ≤ 256
  frame : ∀ a ∈ t.session.arrival i.1, a.2.seq8 = vR8 i.2 ∧ a.2.data = payload i.2 ∧
    if a.2.rexmit then i.2 < t.high ∧ t.high ≤ i.2 + 256 else t.high ≤ i.2 ∧ i.2 < t.high + 256
  noReset : t.session.state = .dataTransfer →
    ∀ x ∈ t.session.step i.1, x.1.state = .dataTransfer

def delivered (log : List ((Op × ℕ) × Out)) : Bytes := log.flatMap fun x => x.2.delivered

def abandoned (log : List ((Op × ℕ) × Out)) : List ℕ := log.flatMap fun x => x.2.abandoned

/-- Before the data transfer the receiver is untouched; from then on it tracks the peer's frames. -/
structure Delivers (payload : ℕ → Bytes) (t : Link) (log : List ((Op × ℕ) × Out)) (N : ℕ)
    (gone : List ℕ) : Prop where
  handshake : t.session.state ≠ .dataTransfer → t.session.toReceiver = {} ∧ t.high = 0
  tracks : t.session.toReceiver.Tracks payload gone N t.high
  reported : gone.map (· % seqModulus) = abandoned log
  delivered : Link.delivered log = inOrder payload gone N

variable {payload : ℕ → Bytes} {t t' : Link} {i : Op × ℕ} {out : Out}
  {log : List ((Op × ℕ) × Out)} {N : ℕ} {gone : List ℕ}

section

variable (h : Delivers payload t log N gone)
include h

lemma Delivers.extend (k : ℕ) (fresh : List ℕ)
    (hst : t'.session.state ≠ .dataTransfer → t'.session.toReceiver = {} ∧ t'.high = 0)
    (htr : t'.session.toReceiver.Tracks payload (gone ++ fresh) (N + k) t'.high)
    (hin : inOrder payload (gone ++ fresh) (N + k) = inOrder payload gone N ++ out.delivered)
    (hf : fresh.map (· % seqModulus) = out.abandoned) :
    ∃ N' gone', Delivers payload t' (log ++ [(i, out)]) N' gone' := by
  refine ⟨N + k, gone ++ fresh, hst, htr, ?_, ?_⟩
  · simp only [Link.abandoned, flatMap_append, flatMap_singleton, map_append, hf]
    rw [h.reported, Link.abandoned]
  · simp only [Link.delivered, flatMap_append, flatMap_singleton, hin]
    rw [← h.delivered, Link.delivered]

lemma Delivers.quiet (hq : out.Quiet)
    (hst : t'.session.state ≠ .dataTransfer → t'.session.toReceiver = {} ∧ t'.high = 0)
    (htr : t'.session.toReceiver.Tracks payload gone N t'.high) :
    ∃ N' gone', Delivers payload t' (log ++ [(i, out)]) N' gone' := by
  refine h.extend 0 [] hst (by simpa using htr) ?_ hq.2.symm
  rw [hq.1, append_nil, append_nil, Nat.add_zero]

lemma Delivers.ensureInitialized :
    t.session.ensureInitialized.toReceiver = t.session.toReceiver :=
  ensureInitialized_receiver fun hst => (h.handshake hst).1

lemma Delivers.ticked_handshake
    (hst : t.session.state ≠ .dataTransfer) :
    t.session.ticked.toReceiver = {} ∧ t.session.ensureInitialized.tickNakTimers.2 = [] :=
  ticked_untouched (fun hst => (h.handshake hst).1) hst

lemma Delivers.ticked : ∃ k fresh, t.session.ticked.toReceiver.Tracks payload (gone ++ fresh) (N + k) t.high ∧
    inOrder payload (gone ++ fresh) (N + k) = inOrder payload gone N ++
      deliveredBy t.session.ensureInitialized.tickNakTimers.2 ∧
    fresh.map (· % seqModulus) = abandonedBy t.session.ensureInitialized.tickNakTimers.2 := by
  have htr := h.tracks
  rw [← h.ensureInitialized] at htr
  obtain ⟨k, ht⟩ := htr.tick t.session.ensureInitialized.policy
  exact ⟨k, _, ht⟩

lemma Delivers.data (hadm : t.Admissible payload i)
    (ha : t.session.arrival i.1 = some (t.session.ticked.toReceiver, sdu)) :
    ∃ k fresh, (receiveSduOn t.session.ticked.policy t.session.ticked.toReceiver
        sdu).1.Tracks payload (gone ++ fresh) (N + k) (if !sdu.rexmit then i.2 + 1 else t.high) ∧
      inOrder payload (gone ++ fresh) (N + k) = inOrder payload gone N ++
        (deliveredBy t.session.ensureInitialized.tickNakTimers.2 ++
          deliveredBy (receiveSduOn t.session.ticked.policy t.session.ticked.toReceiver sdu).2) ∧
      fresh.map (· % seqModulus) = abandonedBy t.session.ensureInitialized.tickNakTimers.2 ++
        abandonedBy (receiveSduOn t.session.ticked.policy t.session.ticked.toReceiver sdu).2 := by
  obtain ⟨k, fresh, htr, hin, hf⟩ := h.ticked
  have hdi : t.high ≤ N + k + 256 := by
    have := hadm.distance
    rw [Receiver.distance_eq h.tracks.window] at this
    omega
  obtain ⟨rexmit, seq8, data⟩ := sdu
  obtain ⟨rfl, rfl, hr⟩ := hadm.frame _ ha
  cases rexmit with
  | false =>
    obtain ⟨k', htr', hin', hab⟩ := htr.newData t.session.ticked.policy hr.1 hr.2 hdi
    refine ⟨k + k', fresh, ?_, ?_, ?_⟩
    · rw [← Nat.add_assoc]; exact htr'
    · rw [← Nat.add_assoc, hin', hin, append_assoc]; rfl
    · change _ = _ ++ abandonedBy (Receiver.receiveNewData _ _ _ _).2
      rw [hf, hab, append_nil]
  | true =>
    obtain ⟨k', htr', hin', hab⟩ := htr.rexmitData hr.1 hr.2 hdi
    refine ⟨k + k', fresh, ?_, ?_, ?_⟩
    · rw [← Nat.add_assoc]; exact htr'
    · rw [← Nat.add_assoc, hin', hin, append_assoc]; rfl
    · change _ = _ ++ abandonedBy (Receiver.receiveRexmitData _ _ _).2
      rw [hf, hab, append_nil]

/-- **One call keeps the deliveries in order.** -/
theorem step_delivers (hadm : t.Admissible payload i)
    (hstep : t.step i = some (t', out)) :
    ∃ N' gone', Delivers payload t' (log ++ [(i, out)]) N' gone' := by
  obtain ⟨⟨s', out'⟩, hs, hx⟩ := Option.map_eq_some_iff.1 hstep
  cases hx
  -- without a data frame the number stays, and only a reset leaves the data transfer
  have hk : t.session.arrival i.1 = none →
      (if (t.session.arrival i.1).any (fun a => !a.2.rexmit) then i.2 + 1 else t.high) = t.high := by
    intro ha
    rw [ha]
    rfl
  have hl : s'.state ≠ .dataTransfer → t.session.state ≠ .dataTransfer := fun hne hst => hne (hadm.noReset hst _ hs)
  cases step_receiver hs with
  | keep ha _ hq hr =>
    refine h.quiet hq ?_ ?_ <;> dsimp only <;> rw [hk ha, hr]
    · exact fun hne => h.handshake (hl hne)
    · exact h.tracks
  | reset ha hst hr hout =>
    obtain ⟨he, hz⟩ := h.handshake (hl hst)
    obtain ⟨-, hev⟩ := h.ticked_handshake (hl hst)
    have hq : out'.Quiet := by
      rcases hout with hq | ⟨hd, hb⟩
      · exact hq
      · rw [hev] at hd hb
        exact ⟨hd, hb⟩
    refine h.quiet hq ?_ ?_ <;> dsimp only <;> rw [hk ha, hr]
    · exact fun _ => ⟨rfl, hz⟩
    · rw [← he]; exact h.tracks
  | pop ha _ hq hr =>
    refine h.quiet hq ?_ ?_ <;> dsimp only <;> rw [hk ha, hr]
    · grind [cases Link.Delivers]
    · exact ⟨h.tracks.window, h.tracks.content, h.tracks.covered, h.tracks.gone_lt, h.tracks.flushed⟩
  | take ha _ hd hb hr =>
    have hsa : s'.toReceiver = t.session.toReceiver := by rw [hr, ← h.tracks.flushed]
    refine h.quiet ⟨hd.trans h.tracks.flushed, hb⟩ ?_ ?_ <;> dsimp only <;> rw [hk ha, hsa]
    · exact fun hne => h.handshake (hl hne)
    · exact h.tracks
  | tick ha _ hr hd hb =>
    obtain ⟨k, fresh, htr, hin, hf⟩ := h.ticked
    refine h.extend k fresh ?_ ?_ (by rw [hin, hd]) (by rw [hf, hb])
    all_goals rw [hk ha, hr]
    · intro hne
      exact ⟨(h.ticked_handshake (hl hne)).1, (h.handshake (hl hne)).2⟩
    · exact htr
  | sdu ha hst hr hd hb =>
    obtain ⟨k, fresh, htr, hin, hf⟩ := h.data hadm ha
    refine h.extend k fresh (fun hne => absurd hst hne) ?_
      (by rw [hin, hd]) (by rw [hf, hb])
    rw [ha, hr]
    exact htr

end

/-- **In-order delivery across a lossy link.** From any session on its way into the data transfer, in
every run of the link: what was handed up is the payloads of the frames below `L_V(N)`, each once and
in order, without those that were reported as abandoned. -/
theorem in_order_delivery (payload : ℕ → Bytes) (config : Rlp3Config) {s₀ : Rlp3Session}
    {log₀ : List (Op × Out)} {t : Link} {log : List ((Op × ℕ) × Out)}
    (hreach : Run (steps Rlp3Session.step) (.new config) s₀ log₀) (hst : s₀.state ≠ .dataTransfer)
    (hrun : Run (guarded step (Admissible payload)) ⟨s₀, 0⟩ t log) :
    ∃ N gone, N ≤ t.high ∧ t.high < N + seqModulus ∧ t.session.lVN = N % seqModulus ∧
      t.session.lVR = t.high % seqModulus ∧ gone.map (· % seqModulus) = abandoned log ∧
      delivered log = inOrder payload gone N := by
  have he := untouched_run hreach hst
  have hinv : ∃ N gone, Delivers payload t log N gone := by
    refine hrun.inv (fun t log => ∃ N gone, Delivers payload t log N gone) ?_ ?_
    · refine ⟨0, [], fun _ => ⟨he, rfl⟩, ?_, rfl, rfl⟩
      rw [he]
      exact Receiver.tracks_new
    · rintro t i t' out log ⟨N, gone, h⟩ ⟨hadm, hs⟩
      exact step_delivers h hadm hs
  obtain ⟨N, gone, h⟩ := hinv
  exact ⟨N, gone, h.tracks.window.le, h.tracks.window.lt, h.tracks.window.lo_eq,
    h.tracks.window.hi_eq, h.reported, h.delivered⟩

instance (payload : ℕ → Bytes) (t : Link) (i : Op × ℕ) : Decidable (t.Admissible payload i) :=
  decidable_of_iff (t.session.toReceiver.distance ≤ 256 ∧
    (∀ a ∈ t.session.arrival i.1, a.2.seq8 = vR8 i.2 ∧ a.2.data = payload i.2 ∧
      if a.2.rexmit then i.2 < t.high ∧ t.high ≤ i.2 + 256
      else t.high ≤ i.2 ∧ i.2 < t.high + 256) ∧
    (t.session.state = .dataTransfer → ∀ x ∈ t.session.step i.1, x.1.state = .dataTransfer))
    ⟨fun h => ⟨h.1, h.2.1, h.2.2⟩, fun h => ⟨h.distance, h.frame, h.noReset⟩⟩

def lowOctet (n : ℕ) : Bytes := [vR8 n]

/-- After the SYNC exchange frames 1 and 3 are lost; 1 comes again, 3 is given up. -/
def lossyRun : List (Op × ℕ) :=
  [(.received .odd (.control 0 .sync true false), 0), (.received .odd (.data 0 false [0]), 0),
    (.received .odd (.data 2 false [2]), 2), (.nextFrame .full, 0),
    (.received .odd (.data 1 true [1]), 1), (.received .odd (.data 4 false [4]), 4),
    (.nextFrame .full, 0), (.blank, 0), (.blank, 0), (.blank, 0)]

theorem in_order_delivery_lossy : ∃ t log,
    Run (guarded step (Admissible lowOctet)) ⟨.new { nakRoundsFwd := 1, rlpDelay := 1 }, 0⟩ t log ∧
      t.session.lVN = 5 ∧ abandoned log = [3] ∧ delivered log = [0, 1, 2, 4] ∧
      ∃ N gone, t.session.lVN = N % seqModulus ∧ gone.map (· % seqModulus) = abandoned log ∧
        delivered log = inOrder lowOctet gone N := by
  obtain ⟨t, log, hrun, h1, h2, h3⟩ := exists_run step (Admissible lowOctet)
    ⟨.new { nakRoundsFwd := 1, rlpDelay := 1 }, 0⟩ lossyRun
    (fun t log => t.session.lVN = 5 ∧ abandoned log = [3] ∧ delivered log = [0, 1, 2, 4])
    (by decide +kernel)
  obtain ⟨N, gone, -, -, hN, -, hg, hdel⟩ :=
    in_order_delivery lowOctet { nakRoundsFwd := 1, rlpDelay := 1 } .nil (by decide) hrun
  exact ⟨t, log, hrun, h1, h2, h3, N, gone, hN, hg, hdel⟩

end Link

end OneXBts.Packet.Rlp3
