import OneXBts.An.A8Forward
import OneXBts.Lib.Runs

/-!
The numbering of the forward stream.

`rlpSeq` moves only when a packet is sent; a packet that is held or fails puts its chunks back, and they are numbered again.
So the chunks taken and those left make up the queue at every point. `flush_rule` says once what a flush does.
-/

namespace OneXBts.An.A8

open Lib An.Rlp An.Air HrpdAnA8Session List

/-! ### Segments -/

def firstSent (segments : List HrpdA8QueuedRlpSegment) : List HrpdA8QueuedRlpSegment :=
  segments.filter fun segment => !segment.retransmission

def octetsOf (segments : List HrpdA8QueuedRlpSegment) : List UInt8 := segments.flatMap (·.octets)

/-- The sequence numbers are consecutive from a position on. -/
def Consecutive : ℕ → List HrpdA8QueuedRlpSegment → Prop
  | _, [] => True
  | n, segment :: segments => segment.sequence = seq n ∧ Consecutive (n + segment.octets.length) segments

section Segments

variable {segments more : List HrpdA8QueuedRlpSegment} {n : ℕ}

lemma octetsOf_append (segments more : List HrpdA8QueuedRlpSegment) :
    octetsOf (segments ++ more) = octetsOf segments ++ octetsOf more := flatMap_append

lemma firstSent_append (segments more : List HrpdA8QueuedRlpSegment) :
    firstSent (segments ++ more) = firstSent segments ++ firstSent more := filter_append ..

lemma consecutive_append : Consecutive n (segments ++ more) ↔
    Consecutive n segments ∧ Consecutive (n + (octetsOf segments).length) more := by
  induction segments generalizing n <;> grind [Consecutive, octetsOf]

lemma newOctets_eq (segments : List HrpdA8QueuedRlpSegment) :
    newOctets segments = UInt32.ofNat (octetsOf (firstSent segments)).length := by
  change (((firstSent segments).map fun seg => UInt32.ofNat seg.octets.length)).sum = _
  induction firstSent segments with
  | nil => rfl
  | cons seg segments ih =>
    rw [map_cons, sum_cons, ih, ← UInt32.ofNat_add,
      show octetsOf (seg :: segments) = seg.octets ++ octetsOf segments from rfl, length_append]

lemma after_newOctets (hs : s = seq n) (segments : List HrpdA8QueuedRlpSegment) :
    (s + newOctets segments) &&& sequenceMask = seq (n + (octetsOf (firstSent segments)).length) := by
  rw [hs, newOctets_eq, label_seq]

end Segments

/-! ### The queue of downlink octets -/

lemma flatten_appendDownlink (pend : List (List UInt8)) (payload : List UInt8) :
    (appendDownlink pend payload).flatten = pend.flatten ++ payload := by
  have hmax : 0 < forwardMaxStreamOctets := by decide
  unfold appendDownlink
  rcases eq_nil_or_concat pend with rfl | ⟨init, tail, rfl⟩
  · exact flatten_chunks hmax payload
  · rw [concat_eq_append, List.getLast?_concat, dropLast_concat]
    grind [flatten_chunks, take_append_drop]

section Queues

variable {s s' : HrpdAnA8Session} {segments segments' : List HrpdA8QueuedRlpSegment} {reps : List Repair}

structure SameRlp (s s' : HrpdAnA8Session) : Prop where
  rlpSeq : s'.rlpSeq = s.rlpSeq
  rlpHistory : s'.rlpHistory = s.rlpHistory
  pendingDownlink : s'.pendingDownlink = s.pendingDownlink
  pendingRetransmit : s'.pendingRetransmit = s.pendingRetransmit
  pendingRetransmitRequests : s'.pendingRetransmitRequests = s.pendingRetransmitRequests

section

variable (s : HrpdAnA8Session)

lemma SameRlp.refl : SameRlp s s := ⟨rfl, rfl, rfl, rfl, rfl⟩

lemma sameRlp_holdAt (ho : Option ℕ) :
    SameRlp s { s with pendingDownlinkPartialHoldAt := ho } := ⟨rfl, rfl, rfl, rfl, rfl⟩

lemma sameRlp_shouldDefer (segments : List HrpdA8QueuedRlpSegment) (maxSegments now later : ℕ) :
    SameRlp s (s.shouldDeferPartialNewPacket segments maxSegments now later).1 := by
  unfold shouldDeferPartialNewPacket
  dsimp only
  split
  · exact SameRlp.refl s
  · exact sameRlp_holdAt s _

lemma nextRetransmission_frame :
    s.nextRetransmission.1.rlpSeq = s.rlpSeq ∧ s.nextRetransmission.1.rlpHistory = s.rlpHistory ∧
      s.nextRetransmission.1.pendingDownlink = s.pendingDownlink := by
  unfold nextRetransmission
  split <;> exact ⟨rfl, rfl, rfl⟩

end

def newSegment (s : HrpdAnA8Session) (segments : List HrpdA8QueuedRlpSegment) (chunk : List UInt8) :
    HrpdA8QueuedRlpSegment := ⟨(s.rlpSeq + newOctets segments) &&& sequenceMask, chunk, false⟩

lemma gather_cases (hg : gather (room + 1) s segments = (s', segments', reps)) :
    ∃ repairs', reps = s.nextRetransmission.2.2 ++ repairs' ∧
      ((∃ seg : HrpdRlpRetransmitSegment, gather room s.nextRetransmission.1
          (segments ++ [⟨seg.sequence, seg.octets, true⟩]) = (s', segments', repairs')) ∨
      (s' = s.nextRetransmission.1 ∧ segments' = segments ∧ repairs' = []) ∨
      ∃ chunk rest, s.pendingDownlink = chunk :: rest ∧
        gather room { s.nextRetransmission.1 with pendingDownlink := rest } (segments ++ [newSegment s segments chunk]) =
          (s', segments', repairs')) := by
  obtain ⟨hseq, -, hdo⟩ := nextRetransmission_frame s
  grind [HrpdAnA8Session.gather, newSegment]

/-- **A packet is gathered**: the new segments are numbered from `rlpSeq` on, and together with what is left they are
the queue. -/
theorem gather_spec (hg : gather room s segments = (s', segments', reps)) (hseq : s.rlpSeq = seq n)
    (hc : Consecutive n (firstSent segments)) :
    s'.rlpSeq = s.rlpSeq ∧ s'.rlpHistory = s.rlpHistory ∧ Consecutive n (firstSent segments') ∧
      (firstSent segments').map (·.octets) ++ s'.pendingDownlink =
        (firstSent segments).map (·.octets) ++ s.pendingDownlink := by
  induction room generalizing s segments reps with
  | zero =>
    cases hg
    exact ⟨rfl, rfl, hc, rfl⟩
  | succ room ih =>
    obtain ⟨hseq', hh', hdo'⟩ := nextRetransmission_frame s
    obtain ⟨repairs', -, ⟨seg, hrest⟩ | ⟨rfl, rfl, -⟩ | ⟨chunk, rest, hp, hrest⟩⟩ := gather_cases hg
    · grind [firstSent]
    · exact ⟨hseq', hh', hc, by rw [hdo']⟩
    have hm : firstSent (segments ++ [newSegment s segments chunk]) =
        firstSent segments ++ [newSegment s segments chunk] := firstSent_append ..
    have hn : Consecutive n (firstSent (segments ++ [newSegment s segments chunk])) := by
      rw [hm, consecutive_append]
      exact ⟨hc, after_newOctets hseq segments, trivial⟩
    obtain ⟨h1, h2, h3, h4⟩ := ih hrest (hseq'.trans hseq) hn
    refine ⟨h1.trans hseq', h2.trans hh', h3, ?_⟩
    rw [h4, hm, map_append, append_assoc, hp]
    rfl

lemma restoreRlpSegments_spec (s : HrpdAnA8Session) (segments : List HrpdA8QueuedRlpSegment) :
    (s.restoreRlpSegments segments).rlpSeq = s.rlpSeq ∧
    (s.restoreRlpSegments segments).rlpHistory = s.rlpHistory ∧
    (s.restoreRlpSegments segments).pendingDownlink = (firstSent segments).map (·.octets) ++ s.pendingDownlink ∧
    (s.restoreRlpSegments segments).pendingRetransmitRequests = s.pendingRetransmitRequests := by
  induction segments <;> grind [HrpdAnA8Session.restoreRlpSegments, firstSent]

def afterSending (s : HrpdAnA8Session) (segments : List HrpdA8QueuedRlpSegment) : HrpdAnA8Session :=
  { s.recordNew segments with rlpSeq := (s.rlpSeq + newOctets segments) &&& sequenceMask }

lemma recordNew_frame (s : HrpdAnA8Session) (segments : List HrpdA8QueuedRlpSegment) :
    (s.recordNew segments).rlpSeq = s.rlpSeq ∧ (s.recordNew segments).pendingDownlink = s.pendingDownlink ∧
      (s.recordNew segments).pendingRetransmitRequests = s.pendingRetransmitRequests := by
  have hr : ∀ (s : HrpdAnA8Session) (seg : HrpdA8QueuedRlpSegment),
      ∃ hist, (if seg.retransmission then s else s.recordRlpHistory seg.sequence seg.octets) =
        { s with rlpHistory := hist } := by
    intro s seg
    split_ifs
    · exact ⟨s.rlpHistory, rfl⟩
    · exact ⟨_, rfl⟩
  unfold recordNew
  induction segments generalizing s with
  | nil => exact ⟨rfl, rfl, rfl⟩
  | cons seg segments ih =>
    obtain ⟨hist, heq⟩ := hr s seg
    rw [foldl_cons, heq]
    exact ih _

lemma queueSegments_cases
    (hq : s.queueDefaultPacketRlpSegments build senderOpen segments physicalBits = (s', status)) :
    (s' = s ∧ status = .skipped) ∨ (s' = s ∧ status = .closed ∧ senderOpen = false) ∨
      ∃ pkt, s' = s.recordNew segments ∧ status = .queued ⟨segments, pkt⟩ := by
  grind [queueDefaultPacketRlpSegments]

end Queues

/-! ### Flushes -/

section Flushes

variable {build : Builder} {s s' : HrpdAnA8Session} {reps : List Repair}

lemma sameRlp_finishFlush (s : HrpdAnA8Session) : SameRlp s s.finishFlush := by
  unfold finishFlush
  split_ifs
  · exact sameRlp_holdAt s none
  · exact SameRlp.refl s

lemma flushPacket_cases (hp : s.flushPacket build senderOpen now later = (s', reps, result)) :
    (s' = s ∧ reps = [] ∧ result = .stopped true) ∨
    ∃ room s1 s2 segments, gather room s [] = (s1, segments, reps) ∧ SameRlp s1 s2 ∧
      ((s' = s2.restoreRlpSegments segments ∧ result = .stopped true) ∨
        (s' = s2 ∧ result = .stopped false ∧ senderOpen = false) ∨
        ∃ pkt, s' = afterSending s2 segments ∧ result = .sent ⟨segments, pkt⟩) := by
  unfold flushPacket at hp
  cases hr : s.liveForwardRate with
  | none =>
    rw [hr] at hp
    cases hp
    exact .inl ⟨rfl, rfl, rfl⟩
  | some rate =>
    obtain ⟨drc, physicalBits⟩ := rate
    rw [hr] at hp
    dsimp only at hp
    generalize defaultFtcRlpSegmentsPerPacket physicalBits s.forwardTrafficMacSubtype = room at hp
    rcases hg : gather room s [] with ⟨s1, segments, repairs'⟩
    rw [hg] at hp
    dsimp only at hp
    have hs := sameRlp_shouldDefer s1 segments room now later
    rcases hde : s1.shouldDeferPartialNewPacket segments room now later with ⟨s2, defer⟩
    rw [hde] at hs hp
    dsimp only at hs hp
    split_ifs at hp
    · grind
    rcases hq : s2.queueDefaultPacketRlpSegments build senderOpen segments physicalBits with ⟨s3, status⟩
    rw [hq] at hp
    rcases queueSegments_cases hq with ⟨rfl, rfl⟩ | ⟨rfl, rfl, hc⟩ | ⟨pkt, rfl, rfl⟩
    all_goals cases hp
    · exact .inr ⟨room, s1, _, segments, hg, hs, .inl ⟨rfl, rfl⟩⟩
    · grind
    · refine .inr ⟨room, s1, s2, segments, hg, hs, .inr (.inr ⟨pkt, ?_, rfl⟩)⟩
      rw [afterSending, (recordNew_frame s2 segments).1]

end Flushes

/-- **What a flush does.** Nothing to the stream; or it gathers a packet that is held or cannot be built, and puts it
back; or one that is lost because the channel is closed; or one that is sent, and goes on. -/
theorem flush_rule (build : Builder) (around : Surroundings)
    (P : HrpdAnA8Session → HrpdAnA8Session → List Transmission → List Repair → Prop)
    (idle : ∀ s s', SameRlp s s' → P s s' [] [])
    (held : ∀ s s1 s2 room segments reps, gather room s [] = (s1, segments, reps) → SameRlp s1 s2 →
      P s (s2.restoreRlpSegments segments) [] reps)
    (lost : ∀ s s1 s2 room segments reps, around.senderOpen = false → gather room s [] = (s1, segments, reps) →
      SameRlp s1 s2 → P s s2 [] reps)
    (sent : ∀ s s1 s2 room segments reps s' pkt sends repairs',
      gather room s [] = (s1, segments, reps) → SameRlp s1 s2 →
      P (afterSending s2 segments) s' sends repairs' →
      P s s' (⟨segments, pkt⟩ :: sends) (reps ++ repairs'))
    (s : HrpdAnA8Session) :
    P s (flushDownlink build around s).1 (flushDownlink build around s).2.transmissions
      (flushDownlink build around s).2.repairs := by
  -- the loop, by induction on the packets that may still be sent
  have hl : ∀ left s, P s (flushLoop build around left s).1 (flushLoop build around left s).2.transmissions
      (flushLoop build around left s).2.repairs := by
    intro left
    induction left with
    | zero =>
      intro s
      exact idle s _ (sameRlp_finishFlush s)
    | succ left =>
      intro s
      rw [flushLoop]
      split_ifs with he
      · exact idle s _ (sameRlp_finishFlush s)
      rcases hp : s.flushPacket build around.senderOpen (around.readings left).1 (around.readings left).2 with
        ⟨s', reps, result⟩
      rcases flushPacket_cases hp with
        ⟨rfl, rfl, rfl⟩ | ⟨room, s1, s2, segments, hg, hs, hc⟩
      · exact idle _ _ (SameRlp.refl _)
      grind
  unfold flushDownlink
  split_ifs
  any_goals exact idle s s (SameRlp.refl s)
  · exact hl _ s

/-! ### Runs -/

inductive Op where
  | enqueue (payload : List UInt8)
  | nak (requests : List HrpdDefaultPacketRlpNakRequest)
  | flush (around : Surroundings)
  | control (others : HrpdAnA8Session)

structure Output where
  transmissions : List Transmission := []
  repairs : List Repair := []
  deriving DecidableEq

def withControl (s others : HrpdAnA8Session) : HrpdAnA8Session :=
  { others with
    rlpSeq := s.rlpSeq
    pendingDownlink := s.pendingDownlink
    rlpHistory := s.rlpHistory
    pendingRetransmit := s.pendingRetransmit
    pendingRetransmitRequests := s.pendingRetransmitRequests }

def step (build : Builder) (s : HrpdAnA8Session) : Op → Option (HrpdAnA8Session × Output)
  | .enqueue payload => some (s.enqueueDownlinkPayload payload, {})
  | .nak requests => some ((s.queueRlpNakRetransmissions requests).1,
      { repairs := (s.queueRlpNakRetransmissions requests).2 })
  | .flush around => some ((s.flushDownlink build around).1,
      { transmissions := (s.flushDownlink build around).2.transmissions
        repairs := (s.flushDownlink build around).2.repairs })
  | .control others => some (withControl s others, {})

/-- Octets are enqueued while the packet flow is open, and the channel to the sender is open. -/
def FlowOpen (s : HrpdAnA8Session) : Op → Prop
  | .enqueue _ => s.defaultPacketFlowOpen = true
  | .nak _ => True
  | .flush around => around.senderOpen = true
  | .control _ => True

instance (s : HrpdAnA8Session) (op : Op) : Decidable (FlowOpen s op) :=
  match op with
  | .enqueue _ => inferInstanceAs (Decidable (s.defaultPacketFlowOpen = true))
  | .nak _ => .isTrue trivial
  | .flush around => inferInstanceAs (Decidable (around.senderOpen = true))
  | .control _ => .isTrue trivial

def Op.enqueued : Op → List UInt8
  | enqueue payload => payload
  | _ => []

def Output.firstSegments (o : Output) : List HrpdA8QueuedRlpSegment :=
  o.transmissions.flatMap fun transmission => firstSent transmission.segments

section Runs

variable {s s' : HrpdAnA8Session} {n : ℕ}

/-- What is sent for the first time is numbered from `n` on, and with what is left it is the queue. -/
structure Numbered (n : ℕ) (s s' : HrpdAnA8Session) (sent : List HrpdA8QueuedRlpSegment) : Prop where
  consecutive : Consecutive n sent
  rlpSeq : s'.rlpSeq = seq (n + (octetsOf sent).length)
  octets : octetsOf sent ++ s'.pendingDownlink.flatten = s.pendingDownlink.flatten

lemma afterSending_frame (s : HrpdAnA8Session) (segments : List HrpdA8QueuedRlpSegment) :
    (afterSending s segments).rlpSeq = (s.rlpSeq + newOctets segments) &&& sequenceMask ∧
    (afterSending s segments).pendingDownlink = s.pendingDownlink ∧
    (afterSending s segments).pendingRetransmitRequests = s.pendingRetransmitRequests :=
  ⟨rfl, (recordNew_frame s segments).2.1, (recordNew_frame s segments).2.2⟩

/-- **A flush** with the channel open. -/
theorem numbered_flush (build : Builder) (hop : around.senderOpen = true) (hseq : s.rlpSeq = seq n) :
    Numbered n s (s.flushDownlink build around).1
      ((s.flushDownlink build around).2.transmissions.flatMap fun t => firstSent t.segments) := by
  refine flush_rule build around (fun s s' sends _ => ∀ n, s.rlpSeq = seq n →
    Numbered n s s' (sends.flatMap fun t => firstSent t.segments)) ?_ ?_ ?_ ?_ s n hseq
  · intro s s' hs n hseq
    exact ⟨trivial, by rw [hs.rlpSeq, hseq]; rfl, by rw [hs.pendingDownlink]; rfl⟩
  · intro s s1 s2 room segments reps hg hs n hseq
    obtain ⟨h1, -, -, h4⟩ := gather_spec hg hseq trivial
    obtain ⟨r1, -, r3, -⟩ := restoreRlpSegments_spec s2 segments
    refine ⟨trivial, ?_, ?_⟩
    · rw [r1, hs.rlpSeq, h1, hseq]
      rfl
    · rw [r3, hs.pendingDownlink, h4]
      rfl
  · grind
  intro s s1 s2 room segments reps s' pkt sends repairs' hg hs ih n hseq
  obtain ⟨h1, -, h3, h4⟩ := gather_spec hg hseq trivial
  obtain ⟨a1, a2, -⟩ := afterSending_frame s2 segments
  rw [after_newOctets ((hs.rlpSeq.trans h1).trans hseq)] at a1
  obtain ⟨hc, hseq', ho⟩ := ih _ a1
  rw [a2, hs.pendingDownlink] at ho
  refine ⟨?_, ?_, ?_⟩
  · rw [flatMap_cons, consecutive_append]
    exact ⟨h3, hc⟩
  · rw [hseq', flatMap_cons, octetsOf_append, length_append, Nat.add_assoc]
  grind [octetsOf, firstSent]

/-- **A call**: the octets that it enqueues go to the end of the queue. -/
theorem numbered_step (build : Builder) (hseq : s.rlpSeq = seq n) (ho : FlowOpen s op)
    (hs : step build s op = some (s', o)) :
    Consecutive n o.firstSegments ∧ s'.rlpSeq = seq (n + (octetsOf o.firstSegments).length) ∧
      octetsOf o.firstSegments ++ s'.pendingDownlink.flatten = s.pendingDownlink.flatten ++ op.enqueued := by
  cases op with
  | enqueue payload =>
    cases hs
    have hc : s.enqueueDownlinkPayload payload = { s with
          pendingDownlinkPartialHoldAt := none
          pendingDownlink := appendDownlink s.pendingDownlink payload } := by
      rw [enqueueDownlinkPayload, show s.defaultPacketFlowOpen = true from ho]
      rfl
    rw [hc]
    exact ⟨trivial, hseq, flatten_appendDownlink s.pendingDownlink payload⟩
  | nak | control =>
    cases hs
    exact ⟨trivial, hseq, (append_nil _).symm⟩
  | flush =>
    cases hs
    obtain ⟨h1, h2, h3⟩ := numbered_flush build ho hseq
    exact ⟨h1, h2, h3.trans (append_nil _).symm⟩

end Runs

/-- **Forward numbering.** From a reset of the stream, for every builder of packets and every sequence of calls, with
the packet flow open when octets are enqueued and the channel to the sender open, and with any change of the DRC and
of everything else in between: the segments that are sent for the first time have consecutive sequence numbers from 0
on, and their octets and those still waiting are the octets that waited at the reset and those enqueued since. -/
theorem forward_numbering (build : Builder) (s₀ : HrpdAnA8Session) {s : HrpdAnA8Session} {log : List (Op × Output)}
    (hrun : Run (guarded (step build) FlowOpen) s₀.resetDefaultPacketRlp s log) :
    Consecutive 0 (log.flatMap fun e => e.2.firstSegments) ∧
    octetsOf (log.flatMap fun e => e.2.firstSegments) ++ s.pendingDownlink.flatten =
      s₀.pendingDownlink.flatten ++ log.flatMap fun e => e.1.enqueued := by
  have h : Consecutive 0 (log.flatMap fun e => e.2.firstSegments) ∧
      s.rlpSeq = seq (0 + (octetsOf (log.flatMap fun e => e.2.firstSegments)).length) ∧
      octetsOf (log.flatMap fun e => e.2.firstSegments) ++ s.pendingDownlink.flatten =
        s₀.pendingDownlink.flatten ++ log.flatMap fun e => e.1.enqueued := by
    refine hrun.inv (fun s log => Consecutive 0 (log.flatMap fun e => e.2.firstSegments) ∧
      s.rlpSeq = seq (0 + (octetsOf (log.flatMap fun e => e.2.firstSegments)).length) ∧
      octetsOf (log.flatMap fun e => e.2.firstSegments) ++ s.pendingDownlink.flatten =
        s₀.pendingDownlink.flatten ++ log.flatMap fun e => e.1.enqueued)
      ⟨trivial, rfl, (append_nil _).symm⟩ ?_
    rintro s op s' o log ⟨hc, hseq, ho⟩ ⟨hop, hs⟩
    grind [numbered_step, consecutive_append, octetsOf_append]
  exact ⟨h.1, h.2.2⟩

def openSession : HrpdAnA8Session where
  macIndex := 5
  trafficOpen := true
  sessionConfigurationComplete := true
  trafficConfigurationComplete := true
  defaultPacketFlowOpen := true
  pendingDownlink := [[9]]

def pickyBuilder : Builder := fun _ segments _ _ => if segments.any (·.2.length = 3) then none else some []

/-- The first packet cannot be built, more octets arrive, and then it is sent; a NAK has its second octet repeated. -/
theorem forward_numbering_skipped :
    ∃ s log, Run (guarded (step pickyBuilder) FlowOpen) openSession.resetDefaultPacketRlp s log ∧
      (log.flatMap fun e => e.2.firstSegments) = [⟨0, [9, 1, 2, 3], false⟩, ⟨4, [4], false⟩] ∧
      octetsOf (log.flatMap fun e => e.2.firstSegments) ++ s.pendingDownlink.flatten = [9, 1, 2, 3, 4, 5] := by
  obtain ⟨s, log, hrun, hs, he⟩ := exists_run (step pickyBuilder) FlowOpen openSession.resetDefaultPacketRlp
    [.enqueue [1, 2], .flush {}, .enqueue [3], .flush {}, .nak [⟨1, 1⟩], .enqueue [4], .flush {}, .enqueue [5]]
    (fun s log => (log.flatMap fun e => e.2.firstSegments) = [⟨0, [9, 1, 2, 3], false⟩, ⟨4, [4], false⟩] ∧
      (log.flatMap fun e => e.1.enqueued) = [1, 2, 3, 4, 5]) (by decide +kernel)
  obtain ⟨-, ho⟩ := forward_numbering pickyBuilder openSession hrun
  refine ⟨s, log, hrun, hs, ?_⟩
  rw [ho, he]
  rfl

end OneXBts.An.A8
