import OneXBts.Packet.Rlp3ReceiverSpec
import OneXBts.Packet.Rlp3FramesRoundTrip

/-!
The NAKs that wait to be sent.

While a NAK of one to four gaps waits, each retransmission that arrives is cut out of its gaps, and a number inside a gap
leaves two behind. As long as no cut leaves more than four gaps in a frame, every frame of the queue can be sent and is read
back (`pending_naks_sendable`); `pending_nak_unsendable` is a run that leaves seven.
-/

namespace OneXBts.Packet.Rlp3

open Lib NakGapEntry

/-! ### Gaps -/

namespace NakGapEntry

variable {e : NakGapEntry}

def span (e : NakGapEntry) : ℕ := (e.last + seqModulus - e.first) % seqModulus

lemma seqs_eq (h : gapCodec.InRange e) : e.seqs = seqsFrom seqModulus e.first (e.span + 1) := by
  have hr : e.first < 4096 ∧ e.last < 4096 := h
  have hf : e.first % seqModulus = e.first := Nat.mod_eq_of_lt hr.1
  have hl : (e.first + e.span) % seqModulus = e.last := by
    simp only [span, seqModulus]
    omega
  have := seqsUpTo_eq (m := seqModulus) seqModulus e.first e.span (Nat.mod_lt _ (by decide)) (le_refl _)
  rw [hf, hl] at this
  exact this

/-- The gaps left when a number is cut out: one if it is not there, else one for each end it is not. -/
def pieces (e : NakGapEntry) (x : ℕ) : ℕ :=
  if seqInClosedRange x e.first e.last then (if x = e.first then 0 else 1) + (if x = e.last then 0 else 1)
  else 1

lemma seqInClosedRange_iff (h : gapCodec.InRange e) (hx : x < seqModulus) :
    seqInClosedRange x e.first e.last = true ↔ (x + seqModulus - e.first) % seqModulus ≤ e.span := by
  have hr : e.first < 4096 ∧ e.last < 4096 := h
  unfold seqInClosedRange span
  simp only [seqModulus] at *
  split <;> rw [decide_eq_true_eq] <;> omega

end NakGapEntry

namespace Receiver

/-! ### Coalescing -/

lemma foldl_coalesce_forall (p : ℕ → Prop) (seqs : List ℕ) : ∀ es : List NakGapEntry,
    (∀ e ∈ es, p e.first ∧ p e.last) → (∀ x ∈ seqs, p x) →
    ∀ e ∈ seqs.foldl coalesce es, p e.first ∧ p e.last := by
  induction seqs with
  | nil => intro es h _; exact h
  | cons x seqs ih =>
    intro es h hs
    have hx := hs x (by simp)
    refine ih (coalesce es x) ?_ fun y hy => hs y (by simp [hy])
    intro e he
    unfold coalesce at he
    split at he
    · rename_i entry hl
      have hen := h entry (List.mem_of_getLast? hl)
      split at he
      · grind [List.mem_of_mem_dropLast]
      grind
    · obtain rfl := List.mem_singleton.1 he
      exact ⟨hx, hx⟩

lemma coalesced_forall {p : ℕ → Prop} {seqs : List ℕ} (h : ∀ x ∈ seqs, p x) :
    ∀ e ∈ coalescedNakEntries seqs, p e.first ∧ p e.last :=
  foldl_coalesce_forall p seqs [] (by simp) h

lemma foldl_coalesce_seqsFrom (es : List NakGapEntry) (a k : ℕ)
    (h : ∀ e ∈ es.getLast?, (e.last + 1) % seqModulus ≠ a % seqModulus) :
    (seqsFrom seqModulus a (k + 1)).foldl coalesce es =
      es ++ [⟨a % seqModulus, (a + k) % seqModulus⟩] := by
  induction k with
  | zero =>
    change coalesce es (a % seqModulus) = _
    unfold coalesce
    split
    · rename_i e he
      rw [if_neg (h e he)]
      rfl
    rename_i he
    rw [List.getLast?_eq_none_iff] at he
    rw [he]
    rfl
  | succ k ih =>
    rw [seqsFrom_succ, List.foldl_append, ih, List.foldl_cons, List.foldl_nil, coalesce,
      List.getLast?_append_of_ne_nil _ (by simp), List.getLast?_singleton]
    dsimp only
    rw [if_pos (by rw [mod_succ]; rfl), List.dropLast_concat]

lemma filter_seqsFrom (hi : i ≤ d) (hd : d < seqModulus) :
    (seqsFrom seqModulus a (d + 1)).filter (· ≠ (a + i) % seqModulus) =
      seqsFrom seqModulus a i ++ seqsFrom seqModulus (a + i + 1) (d - i) := by
  have hne : ∀ j, j ≤ d → j ≠ i → (a + j) % seqModulus ≠ (a + i) % seqModulus := by grind
  have hs : ∀ b k, (∀ j < k, (b + j) % seqModulus ≠ (a + i) % seqModulus) →
      (seqsFrom seqModulus b k).filter (· ≠ (a + i) % seqModulus) = seqsFrom seqModulus b k := by
    intro b k h
    refine List.filter_eq_self.2 ?_
    intro x hx
    obtain ⟨j, hj, rfl⟩ := mem_seqsFrom.1 hx
    rw [decide_eq_true_eq]
    exact h j hj
  rw [show d + 1 = i + (1 + (d - i)) by omega, seqsFrom_add, Nat.add_comm 1, seqsFrom_cons,
    List.filter_append, List.filter_cons_of_neg (by simp)]
  grind

lemma length_coalesced_cut (hi : i ≤ d) (hd : d < seqModulus) :
    (coalescedNakEntries (seqsFrom seqModulus a i ++ seqsFrom seqModulus (a + i + 1) (d - i))).length =
      (if i = 0 then 0 else 1) + if i = d then 0 else 1 := by
  unfold coalescedNakEntries
  rw [List.foldl_append]
  obtain rfl | ⟨i, rfl⟩ : i = 0 ∨ ∃ j, i = j + 1 := by cases i <;> simp
  · obtain rfl | ⟨k, hk⟩ : d = 0 ∨ ∃ k, d - 0 = k + 1 := by rcases d with - | d <;> grind
    · rfl
    · rw [hk, if_pos rfl, if_neg (by omega)]
      exact congrArg List.length (foldl_coalesce_seqsFrom [] (a + 0 + 1) k (by simp))
  · rw [foldl_coalesce_seqsFrom [] a i (by simp), List.nil_append, if_neg (by omega)]
    by_cases hl : i + 1 = d
    · rw [if_pos hl, hl, Nat.sub_self]
      rfl
    obtain ⟨k, hk⟩ : ∃ k, d - (i + 1) = k + 1 := ⟨d - (i + 1) - 1, by omega⟩
    rw [hk, foldl_coalesce_seqsFrom, if_neg hl]
    · rfl
    -- the number after the first gap is the one cut out, not the start of the second
    · grind

/-- **What a cut leaves of a gap.** -/
theorem length_cut (h : gapCodec.InRange e) (hx : x < seqModulus) :
    (coalescedNakEntries (e.seqs.filter (· ≠ x))).length = e.pieces x := by
  have hr : e.first < 4096 ∧ e.last < 4096 := h
  have hs : e.span < seqModulus := Nat.mod_lt _ (by decide)
  have hiff := seqInClosedRange_iff h hx
  rw [seqs_eq h]
  unfold pieces
  by_cases hin : seqInClosedRange x e.first e.last = true
  · obtain ⟨i, hi⟩ : ∃ i, i = (x + seqModulus - e.first) % seqModulus := ⟨_, rfl⟩
    rw [hiff, ← hi] at hin
    have hxi : x = (e.first + i) % seqModulus := by
      simp only [seqModulus] at *
      omega
    have hf : x = e.first ↔ i = 0 := by simp only [seqModulus] at *; omega
    have hl : x = e.last ↔ i = e.span := by
      unfold span at *
      simp only [seqModulus] at *
      omega
    rw [if_pos (hiff.2 (hi ▸ hin)), hxi, filter_seqsFrom hin hs, length_coalesced_cut hin hs, ← hxi]
    simp only [hf, hl]
  · rw [if_neg hin, List.filter_eq_self.2]
    · exact congrArg List.length (foldl_coalesce_seqsFrom [] e.first e.span (by simp))
    · intro y hy
      obtain ⟨j, hj, rfl⟩ := mem_seqsFrom.1 hy
      grind

lemma length_nakEntriesWithoutSeq (hx : x < seqModulus) (h : ∀ e ∈ es, gapCodec.InRange e) :
    (nakEntriesWithoutSeq es x).length = (es.map fun e => e.pieces x).sum := by
  unfold nakEntriesWithoutSeq
  rw [List.length_flatMap]
  congr 1
  exact List.map_congr_left fun e he => length_cut (h e he) hx

lemma nakEntriesWithoutSeq_inRange (x : ℕ) (h : ∀ e ∈ es, gapCodec.InRange e) :
    ∀ e ∈ nakEntriesWithoutSeq es x, gapCodec.InRange e := by
  intro e he
  obtain ⟨e', he', hmem⟩ := List.mem_flatMap.1 he
  refine coalesced_forall (p := (· < 4096)) ?_ e hmem
  grind [seqs_eq, mem_seqsFrom]

end Receiver

/-! ### The frames of the queue -/

def Rlp3Frame.gaps : Rlp3Frame → List NakGapEntry
  | nak _ _ (.gap entries) => entries
  | _ => []

/-- A NAK of gaps whose numbers have twelve bits. -/
inductive Rlp3Frame.GapNak : Rlp3Frame → Prop
  | mk {seq : UInt8} {seqHi : ℕ} {entries : List NakGapEntry} (hhi : seqHi < 16) (hne : entries ≠ [])
    (hr : ∀ e ∈ entries, gapCodec.InRange e) : GapNak (.nak seq seqHi (.gap entries))

def Rlp3Frame.Sendable (f : Rlp3Frame) : Prop := f.GapNak ∧ f.gaps.length ≤ 4

lemma Rlp3Frame.Sendable.encode (h : f.Sendable) (mux : MuxOption) :
    ∃ bits, f.encode mux = .ok bits ∧ decodeRlp3Frame bits mux = .ok f := by
  obtain ⟨⟨hhi, hne, hr⟩, hlen⟩ := h
  rename_i seq seqHi es
  have hlen : es.length ≤ 4 := hlen
  have hwf : (Rlp3Frame.nak seq seqHi (.gap es)).WellFormed mux := ⟨hhi, List.length_pos_iff.2 hne, hlen, hr⟩
  have hfit : (Rlp3Frame.nak seq seqHi (.gap es)).Fits mux := by
    change alignToOctet (20 + (2 + es.length * 24)) + 16 ≤ mux.infoBits
    unfold alignToOctet
    cases mux <;> simp only [MuxOption.infoBits, MuxOption.frameBits, MuxOption.typeBits] <;> omega
  grind [encode_of_fits]

/-! ### The receiver keeps its queue in order -/

namespace Receiver

/-- All numbers have twelve bits, and the frames of the queue have a property. -/
structure Queues (P : Rlp3Frame → Prop) (r : Receiver) : Prop where
  lVN_lt : r.lVN < seqModulus
  lVR_lt : r.lVR < seqModulus
  missing_lt : ∀ x ∈ r.missing, x < seqModulus
  pending : ∀ f ∈ r.pendingControls, P f

section

variable {P : Rlp3Frame → Prop} {r : Receiver}

lemma queues_new : Queues P {} := ⟨by decide, by decide, by simp [missing], by simp⟩

lemma Queues.queueNakEntries (hP : ∀ f, f.Sendable → P f) (h : r.Queues P)
    (hr : ∀ e ∈ es, gapCodec.InRange e) :
    (r.queueNakEntries es).Queues P := by
  refine ⟨h.lVN_lt, h.lVR_lt, h.missing_lt, ?_⟩
  intro f hf
  rcases List.mem_append.1 hf with hf | hf
  · exact h.pending f hf
  obtain ⟨chunk, hc, rfl⟩ := List.mem_map.1 hf
  obtain ⟨hne, hlen, hmem⟩ := chunks_spec (by decide) hc
  refine hP _ ⟨⟨?_, hne, fun e he => hr e (hmem e he)⟩, hlen⟩
  have := h.lVN_lt
  simp only [seqModulus] at this
  omega

/-! #### A frame period -/

lemma Queues.queueGrouped (hP : ∀ f, f.Sendable → P f) (grouped : List (ℕ × List ℕ)) :
    ∀ {r : Receiver}, r.Queues P → (∀ g ∈ grouped, ∀ x ∈ g.2, x < seqModulus) →
    (r.queueGrouped grouped).Queues P := by
  have copies : ∀ (es : List NakGapEntry) (n : ℕ), (∀ e ∈ es, gapCodec.InRange e) →
      ∀ {r : Receiver}, r.Queues P →
      ((fun r : Receiver => r.queueNakEntries es)^[n] r).Queues P := by
    intro es n hr
    induction n with
    | zero => intro r h; exact h
    | succ n ih => intro r h; exact ih (h.queueNakEntries hP hr)
  induction grouped with
  | nil => intro r h _; exact h
  | cons g grouped ih =>
    intro r h hg
    exact ih (copies _ g.1 (coalesced_forall (hg g (by simp))) h)
      fun g' hg' => hg g' (by simp [hg'])

lemma addToGroup_forall {p : ℕ → Prop} (grouped : List (ℕ × List ℕ)) {nak : ℕ × ℕ} (hnak : p nak.2)
    (h : ∀ g ∈ grouped, ∀ x ∈ g.2, p x) : ∀ g ∈ addToGroup grouped nak, ∀ x ∈ g.2, p x := by
  induction grouped with
  | nil =>
    intro g hg x hx
    obtain rfl := List.mem_singleton.1 hg
    obtain rfl := List.mem_singleton.1 hx
    exact hnak
  | cons g grouped ih =>
    obtain ⟨count, seqs⟩ := g
    have hh := h (count, seqs) (by simp)
    have ht := fun g hg => h g (List.mem_cons_of_mem (count, seqs) hg)
    intro g hg x hx
    unfold addToGroup at hg
    split at hg
    · grind
    · rcases List.mem_cons.1 hg with rfl | hg
      · exact hh x hx
      · exact ih ht g hg x hx

lemma foldl_addToGroup_forall {p : ℕ → Prop} (naks : List (ℕ × ℕ)) :
    ∀ grouped : List (ℕ × List ℕ), (∀ nak ∈ naks, p nak.2) → (∀ g ∈ grouped, ∀ x ∈ g.2, p x) →
    ∀ g ∈ naks.foldl addToGroup grouped, ∀ x ∈ g.2, p x := by
  induction naks with
  | nil => intro grouped _ h; exact h
  | cons nak naks ih =>
    intro grouped hna h
    exact ih _ (fun n hn => hna n (by simp [hn])) (addToGroup_forall grouped (hna nak (by simp)) h)

lemma naksToSend_mem (policy : NakPolicy) (r : Receiver) :
    ∀ nak ∈ r.naksToSend policy, nak.2 ∈ r.missing := by
  intro nak hnak
  obtain ⟨⟨e, action⟩, hmem, hs⟩ := List.mem_filterMap.1 hnak
  rw [← lSeq_tickedNaks policy r]
  grind

lemma Queues.aged (hP : ∀ f, f.Sendable → P f) (policy : NakPolicy) (h : r.Queues P) :
    (r.aged policy).Queues P := by
  have hg := foldl_addToGroup_forall (p := (· < seqModulus)) (r.naksToSend policy) []
    (fun nak hnak => h.missing_lt _ (naksToSend_mem policy r nak hnak)) (by simp)
  have hm : ({ r with nakList := (r.tickedNaks policy).map Prod.fst } : Receiver).Queues P :=
    ⟨h.lVN_lt, h.lVR_lt, by unfold missing; rw [lSeq_tickedNaks]; exact h.missing_lt, h.pending⟩
  have hq := hm.queueGrouped hP _ hg
  refine ⟨hq.lVN_lt, hq.lVR_lt, ?_, hq.pending⟩
  rw [(aged_frame policy r).2.2.2.2]
  exact fun x hx => h.missing_lt x (List.mem_filter.1 hx).1

lemma Queues.advanceLVNPastGaps (h : r.Queues P) : r.advanceLVNPastGaps.Queues P := by
  have hlt := sweep_lt (fun l slot => l == r.lVR || slot.isNone && r.onNakList l) seqModulus
    r.reseqBuffer h.lVN_lt
  exact ⟨hlt, h.lVR_lt, h.missing_lt, h.pending⟩

lemma Queues.deliverContiguous (h : r.Queues P) : r.deliverContiguous.Queues P := by
  have hlt := sweep_lt (fun _ slot => slot.isNone) seqModulus r.reseqBuffer h.lVN_lt
  exact ⟨hlt, h.lVR_lt, h.missing_lt, h.pending⟩

lemma Queues.flush (h : r.Queues P) : r.flushDeliveryEvents.1.Queues P := by
  rw [flushDeliveryEvents_fst]
  exact ⟨h.lVN_lt, h.lVR_lt, h.missing_lt, h.pending⟩

lemma Queues.tickNakTimers (hP : ∀ f, f.Sendable → P f) (policy : NakPolicy) (h : r.Queues P) :
    (r.tickNakTimers policy).1.Queues P := by
  have ha := h.aged hP policy
  rw [tickNakTimers_eq]
  split
  · exact ha
  · exact ha.advanceLVNPastGaps.flush

/-! #### Data frames -/

lemma seqsBefore_lt (stop fuel : ℕ) : ∀ {a : ℕ}, a < seqModulus → ∀ x ∈ seqsBefore stop fuel a, x < seqModulus := by
  induction fuel <;> grind [seqsBefore]

lemma addNakEntry_queues (hx : x < seqModulus) (h : r.Queues P) :
    (addNakEntry timer r x).Queues P := by
  grind [addNakEntry, missing, cases Receiver.Queues, intro Receiver.Queues]

lemma foldl_addNakEntry_queues (timer : ℕ) (seqs : List ℕ) (hs : ∀ x ∈ seqs, x < seqModulus) :
    ∀ {r : Receiver}, r.Queues P → (seqs.foldl (addNakEntry timer) r).Queues P := by
  induction seqs with
  | nil => intro r h; exact h
  | cons => grind [addNakEntry_queues]

lemma newDataCase_computeLSeq (h : r.lVR < seqModulus) (seq8 : UInt8) :
    r.newDataCase (r.computeLSeq seq8) = .inOrder ∨ r.newDataCase (r.computeLSeq seq8) = .expected ∨
      r.newDataCase (r.computeLSeq seq8) = .gap := by
  have hoff := offset_lt r seq8
  have hseq : r.computeLSeq seq8 = (r.lVR + r.offset seq8) % 4096 := rfl
  have hgt : r.computeLSeq seq8 ≠ r.lVR → seq12Gt (r.computeLSeq seq8) r.lVR = true := by
    intro hne
    unfold seq12Gt
    grind
  unfold newDataCase
  grind

lemma Queues.receiveNewData (hP : ∀ f, f.Sendable → P f) (policy : NakPolicy) (h : r.Queues P)
    (seq8 : UInt8) (data : Bytes) : (r.receiveNewData policy seq8 data).1.Queues P := by
  have hpos : 0 < seqModulus := by decide
  unfold Receiver.receiveNewData
  rcases newDataCase_computeLSeq h.lVR_lt seq8 with hc | hc | hc <;>
    rw [hc]
  · have hm : Queues P { r with
        lVR := (r.lVR + 1) % seqModulus
        lVN := (r.lVN + 1) % seqModulus
        rxBuffer := r.rxBuffer ++ data } :=
      ⟨Nat.mod_lt _ hpos, Nat.mod_lt _ hpos, h.missing_lt, h.pending⟩
    exact hm.deliverContiguous.flush
  · exact ⟨h.lVN_lt, Nat.mod_lt _ hpos, h.missing_lt, h.pending⟩
  have ha := foldl_addNakEntry_queues policy.timer _
    (seqsBefore_lt (r.computeLSeq seq8) seqModulus h.lVR_lt) h
  have hr : ∀ e ∈ [(⟨r.lVR, (r.computeLSeq seq8 + seqModulus - 1) % seqModulus⟩ : NakGapEntry)],
      gapCodec.InRange e := by
    intro e he
    obtain rfl := List.mem_singleton.1 he
    exact ⟨h.lVR_lt, Nat.mod_lt _ hpos⟩
  have hq := ha.queueNakEntries hP hr
  exact ⟨hq.lVN_lt, Nat.mod_lt _ hpos, hq.missing_lt, hq.pending⟩

lemma Queues.receiveRexmitData (h : r.Queues P) (seq8 : UInt8) (data : Bytes)
    (hcut : ∀ entry ∈ r.nakList.find? fun e => vR8 e.lSeq == seq8,
      ∀ f ∈ r.pendingControls, ∀ f' ∈ withoutSeq entry.lSeq f, P f') :
    (r.receiveRexmitData seq8 data).1.Queues P := by
  unfold Receiver.receiveRexmitData
  split
  · exact h
  rename_i entry hfi
  have hr : (r.removeNak entry.lSeq).Queues P := by
    refine ⟨h.lVN_lt, h.lVR_lt, ?_, ?_⟩
    · intro x hx
      obtain ⟨e, he, rfl⟩ := List.mem_map.1 hx
      exact h.missing_lt _ (List.mem_map_of_mem (List.mem_filter.1 he).1)
    · intro f hf
      obtain ⟨f', hf', hso⟩ := List.mem_filterMap.1 hf
      exact hcut entry hfi f' hf' f hso
  have hs : Queues P { r.removeNak entry.lSeq with
      reseqBuffer := Function.update (r.removeNak entry.lSeq).reseqBuffer entry.lSeq (some data) } :=
    ⟨hr.lVN_lt, hr.lVR_lt, hr.missing_lt, hr.pending⟩
  dsimp only
  split
  · split
    · exact hs.deliverContiguous.flush
    · exact hs
  · exact hr

/-! #### Cuts -/

lemma withoutSeq_gapNak (h : f.GapNak) (hf : f' ∈ withoutSeq x f) :
    f'.GapNak := by
  obtain ⟨hhi, hne, hr⟩ := h
  unfold withoutSeq at hf
  dsimp only at hf
  split at hf
  · split at hf
    · cases hf
    · rename_i hcut
      cases hf
      exact ⟨hhi, hcut, nakEntriesWithoutSeq_inRange x hr⟩
  · cases hf
    exact ⟨hhi, hne, hr⟩

lemma withoutSeq_sendable (hx : x < seqModulus) (h : f.Sendable)
    (hcut : inRanges f.gaps x = true → (f.gaps.map fun e => e.pieces x).sum ≤ 4)
    (hf : f' ∈ withoutSeq x f) : f'.Sendable := by
  refine ⟨withoutSeq_gapNak h.1 hf, ?_⟩
  obtain ⟨⟨-, -, hr⟩, hlen⟩ := h
  rename_i seq seqHi es
  unfold withoutSeq at hf
  dsimp only at hf
  split at hf
  · rename_i hin
    split at hf
    · cases hf
    cases hf
    change (nakEntriesWithoutSeq es x).length ≤ 4
    rw [length_nakEntriesWithoutSeq hx hr]
    exact hcut hin
  · cases hf
    exact hlen

end

end Receiver

/-! ### Runs -/

namespace Rlp3Session

variable {s s' : Rlp3Session} {P : Rlp3Frame → Prop}

lemma ticked_queues (hP : ∀ f, f.Sendable → P f) (h : s.toReceiver.Queues P) :
    s.ticked.toReceiver.Queues P := by
  have hens : s.ensureInitialized.toReceiver.Queues P := by
    unfold ensureInitialized
    split
    · exact Receiver.queues_new
    · exact h
  exact hens.tickNakTimers hP s.ensureInitialized.policy

/-- **One call keeps the queue in order**, if cutting out the retransmission that arrives does. -/
theorem step_queues (hP : ∀ f, f.Sendable → P f) (h : s.toReceiver.Queues P)
    (hcut : ∀ a ∈ s.arrival op, a.2.rexmit = true → a.1.Queues P →
      ∀ entry ∈ a.1.nakList.find? fun e => vR8 e.lSeq == a.2.seq8,
        ∀ f ∈ a.1.pendingControls, ∀ f' ∈ Receiver.withoutSeq entry.lSeq f, P f')
    (hs : s.step op = some (s', out)) : s'.toReceiver.Queues P := by
  cases step_receiver hs with
  | keep _ _ _ hr => rw [hr]; exact h
  | reset _ _ hr => rw [hr]; exact Receiver.queues_new
  | pop _ _ _ hr =>
    rw [hr]
    exact ⟨h.lVN_lt, h.lVR_lt, h.missing_lt, fun f hf => h.pending f (List.mem_of_mem_dropLast hf)⟩
  | take _ _ _ _ hr => rw [hr]; exact ⟨h.lVN_lt, h.lVR_lt, h.missing_lt, h.pending⟩
  | tick _ _ hr => rw [hr]; exact ticked_queues hP h
  | @sdu sdu ha _ hr _ _ =>
    have ht := ticked_queues hP h
    have hcut' := hcut _ ha
    obtain ⟨rexmit, seq8, data⟩ := sdu
    rw [hr]
    cases rexmit with
    | false => exact ht.receiveNewData hP _ seq8 data
    | true => exact ht.receiveRexmitData seq8 data (hcut' rfl ht)

/-- Cutting out the retransmission that a call brings in leaves at most four gaps in every queued
NAK. -/
def CutsFit (s : Rlp3Session) (op : Op) : Prop :=
  ∀ a ∈ s.arrival op, a.2.rexmit = true →
    ∀ entry ∈ a.1.nakList.find? fun e => vR8 e.lSeq == a.2.seq8,
      ∀ f ∈ a.1.pendingControls, Receiver.inRanges f.gaps entry.lSeq = true →
        (f.gaps.map fun e => e.pieces entry.lSeq).sum ≤ 4

instance (s : Rlp3Session) (op : Op) : Decidable (s.CutsFit op) :=
  inferInstanceAs (Decidable (∀ a ∈ s.arrival op, a.2.rexmit = true →
    ∀ entry ∈ a.1.nakList.find? fun e => vR8 e.lSeq == a.2.seq8,
      ∀ f ∈ a.1.pendingControls, Receiver.inRanges f.gaps entry.lSeq = true →
        (f.gaps.map fun e => e.pieces entry.lSeq).sum ≤ 4))

/-- **Every queued NAK can be sent.** In every run whose retransmissions leave at most four gaps in
each NAK they are cut out of, a frame of the queue is a NAK of one to four gaps, it is encoded, and
decoding what is sent gives it back. -/
theorem pending_naks_sendable (config : Rlp3Config) {s : Rlp3Session} {log : List (Op × Out)}
    (hrun : Run (guarded step CutsFit) (new config) s log) : ∀ f ∈ s.pendingControls,
    (∃ seq seqHi entries, f = .nak seq seqHi (.gap entries) ∧ 1 ≤ entries.length ∧ entries.length ≤ 4) ∧
    ∃ bits, f.encode s.config.muxOption = .ok bits ∧ decodeRlp3Frame bits s.config.muxOption = .ok f := by
  have hinv : s.toReceiver.Queues Rlp3Frame.Sendable := by
    refine hrun.inv (fun s _ => s.toReceiver.Queues Rlp3Frame.Sendable) Receiver.queues_new ?_
    intro s op s' out log h hs
    refine step_queues (fun f hf => hf) h ?_ hs.2
    intro a ha hr hq entry hfi f hf f' hf'
    have hlt := hq.missing_lt _ (List.mem_map_of_mem (List.mem_of_find?_eq_some hfi))
    exact Receiver.withoutSeq_sendable hlt (hq.pending f hf) (hs.1 a ha hr entry hfi f hf) hf'
  intro f hf
  have hse := hinv.pending f hf
  refine ⟨?_, hse.encode s.config.muxOption⟩
  obtain ⟨⟨-, hne, -⟩, hlen⟩ := hse
  exact ⟨_, _, _, rfl, List.length_pos_iff.2 hne, hlen⟩

/-- Frames 0 to 15 are lost and asked for in one NAK. It is sent, frames 3, 7 and 11 arrive again, and
after its time the next round asks for the rest: four gaps. -/
def roundTwoRun : List Op :=
  [.received .odd (.control 0 .sync true false), .received .odd (.data 16 false [16]),
    .nextFrame .full, .received .odd (.data 3 true [3]), .received .odd (.data 7 true [7]),
    .received .odd (.data 11 true [11])] ++ List.replicate 6 .blank

/-- Frame 0 arrives while the NAK waits: its first gap shrinks. -/
theorem pending_naks_sendable_shrunk : ∃ s log, Run (guarded step CutsFit) (new {}) s log ∧
    .nak 0 0 (.gap [⟨1, 2⟩, ⟨4, 6⟩, ⟨8, 10⟩, ⟨12, 15⟩]) ∈ s.pendingControls ∧
    ∃ bits, (Rlp3Frame.nak 0 0 (.gap [⟨1, 2⟩, ⟨4, 6⟩, ⟨8, 10⟩, ⟨12, 15⟩])).encode
      s.config.muxOption = .ok bits := by
  obtain ⟨s, log, hrun, hmem⟩ := exists_run step CutsFit (new {})
    (roundTwoRun ++ [.received .odd (.data 0 true [0])])
    (fun s _ => .nak 0 0 (.gap [⟨1, 2⟩, ⟨4, 6⟩, ⟨8, 10⟩, ⟨12, 15⟩]) ∈ s.pendingControls)
    (by decide +kernel)
  obtain ⟨bits, henc, -⟩ := (pending_naks_sendable {} hrun _ hmem).2
  exact ⟨s, log, hrun, hmem, bits, henc⟩

/-- Frames 1, 5 and 9 arrive while the NAK waits: each cut splits a gap, and seven gaps do not fit into
a frame. Encoding the NAK panics, and so does the call that would send it. -/
theorem pending_nak_unsendable : ∃ s log, Run (steps step) (new {}) s log ∧
    (∃ f ∈ s.pendingControls, f.gaps.length = 7 ∧ f.encode s.config.muxOption = .panic) ∧
      s.step (.nextFrame .full) = none := by
  obtain ⟨s, log, hrun, hf, hn⟩ := exists_run step (fun _ _ => True) (new {})
    (roundTwoRun ++ [.received .odd (.data 1 true [1]), .received .odd (.data 5 true [5]),
      .received .odd (.data 9 true [9])])
    (fun s _ => (∃ f ∈ s.pendingControls, f.gaps.length = 7 ∧
      f.encode s.config.muxOption = .panic) ∧ (s.step (.nextFrame .full)).isNone = true)
    (by decide +kernel)
  exact ⟨s, log, hrun, hf, Option.isNone_iff_eq_none.1 hn⟩

end Rlp3Session

end OneXBts.Packet.Rlp3
