import OneXBts.Bts.LacInterleaving
import OneXBts.Bts.LacShape

/-!
Segmentation on the paging channel, end to end.

The reader always has exactly the part of the PDU in front that was sent, and finds the end of each PDU where it was written
(`Received`); and no PDU is lost or sent twice (`Balanced`). Both are kept by every move, of whichever thread, as long as no
call of the MAC returns an error.
-/

namespace OneXBts.Bts.Lac

open Lib Common PagingFrameReader List EncapsulatedPdu

/-! ### The balance of a run -/

def Note.queued? : Note → Option DataRequest
  | .queued request => some request
  | _ => none

def Note.handed? : Note → Option Bits
  | .handed data => some data
  | _ => none

def Note.isFailed : Note → Bool
  | .failed _ => true
  | _ => false

def Move.supply : Move → List (Option DataRequest)
  | .available supply _ => supply
  | _ => []

def queuedIn (log : List (Move × Note)) : List DataRequest :=
  (log.filterMap fun entry => entry.2.queued?).filter fun request => request.mcsb.channel = .fPch

def suppliedIn (log : List (Move × Note)) : List (Option DataRequest) := log.flatMap fun entry => entry.1.supply

def CancelledIn (log : List (Move × Note)) : Prop := Move.cancel ∈ log.map Prod.fst

/-- The half-frames that went to the MAC; without data it sends zeros. -/
def halfFramesIn (log : List (Move × Note)) : List Bits :=
  (log.filterMap fun entry => entry.2.handed?).map fun data => if data = [] then blank 96 else data

/-- **The balance.** Every message that was queued or supplied was cancelled or completed, or is queued, with the bits of
it that were not sent. -/
def Balanced (dsch : DataRequest → Option Bits) (log : List (Move × Note)) (sent : Bits) (queue : List EncapsulatedPdu)
    (completed : List Item) : Prop :=
  ∃ queued supplied cancelled : List EncapsulatedPdu, queued.map (·.message) = queuedIn log ∧
    (∀ pdu ∈ queued ++ supplied, assemblePdu dsch pdu.message = .ok pdu) ∧
    (∀ pdu ∈ supplied, some pdu.message ∈ suppliedIn log) ∧
    (∀ pdu ∈ cancelled, pdu.isCancelableFutureGeneralPage = true ∧ CancelledIn log) ∧
    ((queued ++ supplied).map EncapsulatedPdu.item).Perm
      (cancelled.map EncapsulatedPdu.item ++ (completed ++ whole sent queue))

section Log

variable {dsch : DataRequest → Option Bits} {log : List (Move × Note)} {i : Move} {o : Note} {sent sent' : Bits}
  {queue queue' queued fed gone : List EncapsulatedPdu} {completed done : List Item}

lemma suppliedIn_snoc (log : List (Move × Note)) (i : Move) (o : Note) :
    suppliedIn (log ++ [(i, o)]) = suppliedIn log ++ i.supply := by simp [suppliedIn]

lemma CancelledIn.snoc (h : CancelledIn log) (i : Move) (o : Note) : CancelledIn (log ++ [(i, o)]) := by
  grind [CancelledIn]

variable (queued fed gone done) in
lemma Balanced.step (h : Balanced dsch log sent queue completed)
    (hq : queuedIn (log ++ [(i, o)]) = queuedIn log ++ queued.map (·.message))
    (ha : ∀ pdu ∈ queued ++ fed, assemblePdu dsch pdu.message = .ok pdu)
    (hs : ∀ pdu ∈ fed, some pdu.message ∈ suppliedIn (log ++ [(i, o)]))
    (hca : ∀ pdu ∈ gone, pdu.isCancelableFutureGeneralPage = true ∧ CancelledIn (log ++ [(i, o)]))
    (hp : (whole sent queue ++ (queued ++ fed).map item).Perm (gone.map item ++ (done ++ whole sent' queue'))) :
    Balanced dsch (log ++ [(i, o)]) sent' queue' (completed ++ done) := by
  obtain ⟨queued₀, supplied₀, cancelled₀, hqueued₀, hassembled₀, hsupplied₀, hcancelled₀, hperm₀⟩ := h
  refine ⟨queued₀ ++ queued, supplied₀ ++ fed, cancelled₀ ++ gone, ?_, ?_, ?_, ?_, ?_⟩
  · rw [map_append, hqueued₀, hq]
  · grind
  · grind [suppliedIn_snoc]
  · grind [CancelledIn.snoc]
  refine List.perm_iff_count.2 fun item => ?_
  have hcount₀ := hperm₀.count_eq item
  have hc := hp.count_eq item
  simp only [map_append, count_append] at hcount₀ hc ⊢
  omega

lemma Balanced.kept (h : Balanced dsch log sent queue completed) (hq : queuedIn (log ++ [(i, o)]) = queuedIn log) :
    Balanced dsch (log ++ [(i, o)]) sent queue completed := by
  rw [← append_nil completed]
  exact h.step [] [] [] [] (by simp [hq]) (by simp) (by simp) (by simp) (by simp)

end Log

/-! ### What the reader has -/

/-- The half-frames have the bits of these PDUs in order, all of each, and then those of a part of one. -/
def Emitted (halfFrames : List Bits) (completed : List Item) (sent : Bits) : Prop :=
  ∃ halves : List (UInt8 × Bits), halfFrames = halves.map (halfFrame 96) ∧ (∀ half ∈ halves, half.2.length ≤ 95) ∧
    (halves.map Prod.snd).flatten = (completed.map Prod.snd).flatten ++ sent

/-- The reader that is fed with the half-frames has returned, or has ready, the frames of the PDUs, and has the part. -/
def Received (halfFrames : List Bits) (completed : List Item) (sent : Bits) : Prop :=
  Emitted halfFrames completed sent ∧ (∀ item ∈ completed, IsCapsule item.2) ∧
  ∃ (reader : PagingFrameReader) (returned : List PagingFrame),
    PagingFrameReader.new.feed halfFrames = some (reader.resume sent, returned) ∧
    reader.dataRate = .rate9600 ∧ returned ++ reader.completedFrames = completed.map fun item => wholeFrame item.2

section Received

variable {halfFrames : List Bits} {completed done : List Item} {sent sent' out : Bits}

lemma received_nil : Received [] [] [] :=
  ⟨⟨[], rfl, by simp, rfl⟩, by simp, PagingFrameReader.new, [], rfl, rfl, rfl⟩

lemma Emitted.snoc (h : Emitted halfFrames completed sent) (hr : half.2.length ≤ 95)
    (hb : sent ++ half.2 = (done.map Prod.snd).flatten ++ sent') :
    Emitted (halfFrames ++ [halfFrame 96 half]) (completed ++ done) sent' := by
  obtain ⟨ha, rfl, hall, hf⟩ := h
  exact ⟨ha ++ [half], by simp, by grind, by simp [hf, hb]⟩

lemma feed_snoc (reader : PagingFrameReader) (halfFrames : List Bits) (halfFrame : Bits) :
    reader.feed (halfFrames ++ [halfFrame]) = (reader.feed halfFrames).bind fun before =>
      (before.1.process halfFrame).map fun done => (done.1, before.2 ++ done.2.toList) := by
  induction halfFrames generalizing reader with
  | nil =>
    simp only [nil_append, feed, Option.bind_some]
    cases reader.process halfFrame <;> simp
  | cons head halfFrames ih =>
    simp only [cons_append, feed, ih]
    cases reader.process head with
    | none => rfl
    | some done =>
      cases hf : done.1.feed halfFrames with
      | none => simp [hf]
      | some => simp [hf, Function.comp_def]

lemma completedFrames_resume (reader : PagingFrameReader) (data : Bits) :
    (reader.resume data).completedFrames = reader.completedFrames := by
  unfold resume
  cases parseMsgLengthBits data <;> rfl

lemma Received.halfFrame (h : Received halfFrames completed sent) (hp : IsPart sent) (hp' : IsPart sent')
    (hc : ∀ item ∈ done, IsCapsule item.2) (hb : sent ++ out = (done.map Prod.snd).flatten ++ sent')
    (hr : out.length ≤ 95) (hf : sent' ≠ [] → out.length = 95) :
    Received (halfFrames ++ [halfFrame 96 (if sent = [] then 1 else 0, out)]) (completed ++ done) sent' := by
  obtain ⟨he, hcapsules₀, reader, returned, hfe, hra, hfr⟩ := h
  refine ⟨he.snoc hr hb, by grind, ?_⟩
  have hpr := process_halfFrame hra hp hp' (by grind) hb hr hf
  set reader' : PagingFrameReader :=
    { reader with completedFrames := reader.completedFrames ++ (done.map Prod.snd).map wholeFrame } with hre'
  refine ⟨{ reader' with completedFrames := reader'.completedFrames.tail },
    returned ++ reader'.completedFrames.head?.toList, ?_, hra, ?_⟩
  · rw [feed_snoc, hfe]
    change (process _ (_ :: (_ ++ blank (95 - _)))).map _ = _
    rw [hpr]
    unfold resume
    cases parseMsgLengthBits sent' <;> rfl
  · have hh : reader'.completedFrames.head?.toList ++ reader'.completedFrames.tail = reader'.completedFrames := by
      cases reader'.completedFrames <;> rfl
    rw [append_assoc, hh, ← append_assoc, hfr]
    simp

lemma Received.idle (h : Received halfFrames completed []) : Received (halfFrames ++ [blank 96]) completed [] := by
  obtain ⟨he, hc, reader, returned, hf, hr, hfr⟩ := h
  have he' : Emitted (halfFrames ++ [Lac.halfFrame 96 (0, [])]) (completed ++ []) [] := by
    apply he.snoc
    · simp
    · rfl
  rw [append_nil] at he'
  refine ⟨he', hc, ?_⟩
  grind [feed_snoc, process_idle]

end Received

/-! ### The invariant -/

/-- A half-frame in the making: what the reader had before it, and what was sent in it. -/
structure InHand (dsch : DataRequest → Option Bits) (log : List (Move × Note)) (b : Building) (completed₀ : List Item)
    (sent₀ : Bits) (completed : List Item) (emitted sent : Bits) : Prop where
  received : Received (halfFramesIn log) completed₀ sent₀
  part : IsPart sent₀
  shape : Shape sent (b.queue ++ b.state.messageQueue .fPch)
  held : sent ≠ [] → b.queue ≠ []
  balanced : Balanced dsch log sent (b.queue ++ b.state.messageQueue .fPch) (completed₀ ++ completed)
  bits : sent₀ ++ emitted = (completed.map Prod.snd).flatten ++ sent
  capsules : ∀ item ∈ completed, IsCapsule item.2
  room : emitted.length + b.remainingPayloadBits = 95
  supply : b.supply ⊆ suppliedIn log

/-- In the loop, nothing was sent yet, or a start bit and PDUs to their end. -/
def Opened (b : Building) (sent₀ : Bits) (completed : List Item) (emitted sent : Bits) : Prop :=
  8 ≤ b.remainingPayloadBits ∧
    (b.fragment = [] ∧ b.firstMcsb = none ∧ emitted = [] ∧ completed = [] ∧ sent = sent₀ ∨
      b.fragment = (if sent₀ = [] then 1 else 0) :: emitted ∧ b.firstMcsb.isSome = true ∧ sent = [])

/-- Behind the loop, nothing was sent and nothing was to be continued; or the half-frame is full if a PDU is. -/
def Closed (b : Building) (sent₀ : Bits) (completed : List Item) (emitted sent : Bits) : Prop :=
  b.firstMcsb = none ∧ emitted = [] ∧ completed = [] ∧ sent₀ = [] ∧ sent = [] ∨
    b.fragment = (if sent₀ = [] then 1 else 0) :: emitted ∧ b.firstMcsb.isSome = true ∧
      (sent ≠ [] → b.remainingPayloadBits = 0)

def Tracked (dsch : DataRequest → Option Bits) (log : List (Move × Note)) : Phase → Prop
  | .resting state => ∃ completed sent, Received (halfFramesIn log) completed sent ∧
      Shape sent (state.messageQueue .fPch) ∧ Balanced dsch log sent (state.messageQueue .fPch) completed
  | .filling b _ => ∃ completed₀ sent₀ completed emitted sent, InHand dsch log b completed₀ sent₀ completed emitted sent ∧
      Opened b sent₀ completed emitted sent
  | .filled b => ∃ completed₀ sent₀ completed emitted sent, InHand dsch log b completed₀ sent₀ completed emitted sent ∧
      Closed b sent₀ completed emitted sent

/-- **The invariant.** -/
structure Inv (dsch : DataRequest → Option Bits) (phase : Phase) (log : List (Move × Note)) : Prop where
  tracked : Tracked dsch log phase
  asked : phase.state.cancelFutureGeneralPages = true → CancelledIn log
  fits : ∀ answer ∈ suppliedIn log, ∀ request ∈ answer, Fits dsch request

section Moves

variable {dsch : DataRequest → Option Bits} {phase : Phase} {log : List (Move × Note)} {i : Move} {o : Note}

lemma halfFramesIn_snoc (log : List (Move × Note)) (i : Move) (h : o.handed? = none) :
    halfFramesIn (log ++ [(i, o)]) = halfFramesIn log := by simp [halfFramesIn, h]

lemma queuedIn_snoc (log : List (Move × Note)) (i : Move) (h : o.queued? = none) :
    queuedIn (log ++ [(i, o)]) = queuedIn log := by simp [queuedIn, h]

lemma Tracked.withState (h : Tracked dsch log phase) (hh : o.handed? = none)
    (hl : ∀ front sent completed, Shape sent (front ++ phase.state.messageQueue .fPch) →
      Balanced dsch log sent (front ++ phase.state.messageQueue .fPch) completed →
      Shape sent (front ++ state.messageQueue .fPch) ∧
        Balanced dsch (log ++ [(i, o)]) sent (front ++ state.messageQueue .fPch) completed) :
    Tracked dsch (log ++ [(i, o)]) (phase.withState state) := by
  have hinH : ∀ {b completed₀ sent₀ completed out sent}, phase.state = b.state →
      InHand dsch log b completed₀ sent₀ completed out sent →
      InHand dsch (log ++ [(i, o)]) { b with state := state } completed₀ sent₀ completed out sent := by
    intro b completed₀ sent₀ completed out sent hst hin
    rw [hst] at hl
    obtain ⟨hs, hb⟩ := hl b.queue sent _ hin.shape hin.balanced
    grind [halfFramesIn_snoc, suppliedIn_snoc, cases InHand, intro InHand]
  cases phase with
  | resting =>
    obtain ⟨completed, sent, hr, hs, hb⟩ := h
    obtain ⟨hs', hb'⟩ := hl [] sent completed hs hb
    refine ⟨completed, sent, ?_, hs', hb'⟩
    rw [halfFramesIn_snoc log i hh]
    exact hr
  | filling =>
    obtain ⟨completed₀, sent₀, completed, out, sent, hin, ho⟩ := h
    exact ⟨completed₀, sent₀, completed, out, sent, hinH rfl hin, ho⟩
  | filled =>
    obtain ⟨completed₀, sent₀, completed, out, sent, hin, hc⟩ := h
    exact ⟨completed₀, sent₀, completed, out, sent, hinH rfl hin, hc⟩

@[simp] lemma Phase.state_withState (phase : Phase) (state : State) : (phase.withState state).state = state := by
  cases phase <;> rfl

lemma head_append {front live live' : List EncapsulatedPdu}
    (h : ∀ pdu ∈ live.head?, pdu.frameStartSent = true → live'.head? = some pdu) :
    ∀ pdu ∈ (front ++ live).head?, pdu.frameStartSent = true → (front ++ live').head? = some pdu := by
  intro pdu hpdu hs
  cases front <;> grind

lemma Shape.fronts (h : Shape sent queue)
    (hf : ∀ front ∈ queue.head?, front.frameStartSent = true → queue'.head? = some front) (hs : sent ≠ []) :
    ∃ front rest rest', queue = front :: rest ∧ queue' = front :: rest' := by
  obtain ⟨front, rest, rfl, hst⟩ := h.held hs
  obtain ⟨rest', hq'⟩ := List.head?_eq_some_iff.1 (hf front rfl hst)
  exact ⟨front, rest, rest', rfl, hq'⟩

lemma Inv.next (h : Inv dsch phase log) (ht : Tracked dsch (log ++ [(i, o)]) phase')
    (ha : phase'.state.cancelFutureGeneralPages = true → phase.state.cancelFutureGeneralPages = true)
    (hs : i.supply = []) : Inv dsch phase' (log ++ [(i, o)]) :=
  ⟨ht, fun hf => (h.asked (ha hf)).snoc i o, by simpa [suppliedIn_snoc, hs] using h.fits⟩

lemma Inv.same (h : Inv dsch phase log) (hs : SameLive phase.state state) (hsu : i.supply = [])
    (hq : o.queued? = none) (hh : o.handed? = none) :
    Inv dsch (phase.withState state) (log ++ [(i, o)]) := by
  refine h.next (h.tracked.withState hh fun front sent completed hsh hb => ?_) ?_ hsu
  · rw [hs.1]
    exact ⟨hsh, hb.kept (queuedIn_snoc log i hq)⟩
  · rw [Phase.state_withState, hs.2]
    exact id

lemma Inv.queue {state : State} (h : Inv dsch phase log)
    (hq : Queues dsch request phase.state state) (hfi : request.mcsb.channel = .fPch → Fits dsch request)
    (hsu : i.supply = []) : Inv dsch (phase.withState state) (log ++ [(i, .queued request)]) := by
  obtain ⟨pdu, ha, hfl, hl⟩ := hq
  refine h.next (h.tracked.withState rfl fun front sent completed hs hb => ?_) ?_ hsu
  · by_cases hc : request.mcsb.channel = .fPch
    · rw [hl, if_pos hc]
      have hf : ∀ p ∈ (front ++ phase.state.messageQueue .fPch).head?, p.frameStartSent = true →
          (front ++ State.enqueue (phase.state.messageQueue .fPch) pdu).head? = some p :=
        head_append fun p => enqueue_started
      have hp : (front ++ phase.state.messageQueue .fPch ++ [pdu]).Perm
          ([] ++ (front ++ State.enqueue (phase.state.messageQueue .fPch) pdu)) := by
        rw [append_assoc]
        exact (enqueue_perm _ pdu).append_left front
      refine ⟨hs.rearrange hp hf (by simpa using (hfi hc).fresh ha), ?_⟩
      rw [← append_nil completed]
      refine hb.step [pdu] [] [] [] ?_ ?_ (by simp) (by simp) (whole_perm hp (hs.fronts hf))
      · simp [queuedIn, Note.queued?, hc, (assemblePdu_ok ha).1]
      · grind [assemblePdu_ok]
    · -- the message is for another channel
      rw [hl, if_neg hc]
      exact ⟨hs, hb.kept (by simp [queuedIn, Note.queued?, hc])⟩
  · rw [Phase.state_withState, hfl]
    exact id

lemma Inv.cancel (h : Inv dsch phase log) :
    Inv dsch (phase.withState (Layer2Lac.cancelFutureGeneralPages phase.state).1) (log ++ [(.cancel, .nothing)]) := by
  have ha : CancelledIn (log ++ [(.cancel, .nothing)]) := by simp [CancelledIn]
  refine ⟨h.tracked.withState rfl fun front sent completed hs hb => ?_, fun _ => ha, ?_⟩
  · set live := phase.state.messageQueue .fPch with hl
    have hl' : (Layer2Lac.cancelFutureGeneralPages phase.state).1.messageQueue .fPch =
        live.filter fun pdu => !pdu.isCancelableFutureGeneralPage := by
      simp [Layer2Lac.cancelFutureGeneralPages, hl]
    rw [hl']
    have hf : ∀ p ∈ (front ++ live).head?, p.frameStartSent = true →
        (front ++ live.filter fun pdu => !pdu.isCancelableFutureGeneralPage).head? = some p :=
      head_append fun p => cancel_started
    have hp : (front ++ live ++ []).Perm (live.filter isCancelableFutureGeneralPage ++
        (front ++ live.filter fun pdu : EncapsulatedPdu => !pdu.isCancelableFutureGeneralPage)) := by
      grind [filter_append_perm]
    refine ⟨hs.rearrange hp hf fun _ hn => absurd hn not_mem_nil, ?_⟩
    rw [← append_nil completed]
    refine hb.step [] [] (live.filter isCancelableFutureGeneralPage) [] ?_ (by simp) (by simp) ?_ ?_
    · rw [queuedIn_snoc log .cancel rfl, map_nil, append_nil]
    · intro pdu hpdu
      exact ⟨(List.mem_filter.1 hpdu).2, ha⟩
    · exact whole_perm hp (hs.fronts hf)
  · rw [suppliedIn_snoc]
    simpa [Move.supply] using h.fits

lemma Inv.available (h : Inv dsch (.resting state) log) (hsi : indication.maxSize = 96)
    (hf : ∀ answer ∈ supply, ∀ request ∈ answer, Fits dsch request)
    (hin : (Phase.takeOut state supply indication.maxSize).injectSlotFirstGpm dsch indication.chipCursor = (b, .ok ())) :
    Inv dsch (.filling b indication) (log ++ [(.available supply indication, .nothing)]) := by
  obtain ⟨completed, sent, hre, hs, hb⟩ := h.tracked
  obtain ⟨fed, hq⟩ := quiet_injectSlotFirstGpm dsch indication.chipCursor
    (Phase.takeOut state supply indication.maxSize)
  rw [hin] at hq
  have hsu := suppliedIn_snoc log (.available supply indication) .nothing
  have hl : b.queue ++ b.state.messageQueue .fPch = b.queue := by
    rw [hq.queues.1]
    simp [Phase.takeOut]
  have ha : ∀ pdu ∈ fed, assemblePdu dsch pdu.message = .ok pdu ∧ some pdu.message ∈ supply := by
    intro pdu hpdu
    obtain ⟨request, hreq, has⟩ := hq.supplied pdu hpdu
    rw [(assemblePdu_ok has).1]
    exact ⟨has, hreq⟩
  have hfr : ∀ pdu ∈ fed, Fresh pdu := fun pdu hpdu => (hf _ (ha pdu hpdu).2 _ rfl).fresh (ha pdu hpdu).1
  have hs' : Shape sent b.queue := hs.rearrange hq.perm hq.front hfr
  have hr : b.remainingPayloadBits = 95 := by
    rw [hq.remaining]
    simp [Phase.takeOut, hsi]
  refine ⟨⟨completed, sent, [], [], sent, ⟨?_, hs.isPart, by rwa [hl], ?_, ?_, by simp, by simp, ?_, ?_⟩, ?_,
    .inl ⟨hq.fragment, hq.firstMcsb, rfl, rfl, rfl⟩⟩, fun hfl => (h.asked (hq.flag hfl)).snoc _ _, ?_⟩
  · rw [halfFramesIn_snoc log _ rfl]
    exact hre
  · intro hse hnil
    obtain ⟨front, rest, hqu, -⟩ := hs'.held hse
    simp [hnil] at hqu
  · rw [hl]
    refine hb.step [] fed [] [] ?_ (fun pdu hpdu => (ha pdu hpdu).1) ?_ (by simp)
      (whole_perm hq.perm (hs.fronts hq.front))
    · rw [queuedIn_snoc log _ rfl, map_nil, append_nil]
    · grind [Move.supply]
  · simp [hr]
  · rw [hsu]
    exact List.Subset.trans hq.supply (subset_append_right _ _)
  · simp [hr]
  · rw [hsu]
    exact fun answer han => (List.mem_append.1 han).elim (h.fits answer) (hf answer)

lemma InHand.iterate
    (h : InHand dsch log b completed₀ sent₀ completed out sent) (hf : Flow dsch sent b sent' b' l)
    (hsh : Shape sent' b'.queue) (hc : ∀ item ∈ l.completed, IsCapsule item.2)
    (hq : SameQueues b.state b'.state) (hro : l.emitted.length + b'.remainingPayloadBits = b.remainingPayloadBits)
    (ha : b.state.cancelFutureGeneralPages = true → CancelledIn log) (now : ℕ) :
    InHand dsch (log ++ [(.iterate now, .nothing)]) b' completed₀ sent₀ (completed ++ l.completed) (out ++ l.emitted)
      sent' := by
  obtain ⟨hshape₀, hl⟩ := h.shape.of_append h.held
  have hroom₀ := h.room
  have hs : suppliedIn (log ++ [(.iterate now, .nothing)]) = suppliedIn log := by
    rw [suppliedIn_snoc]
    exact append_nil _
  refine ⟨?_, h.part, ?_, ?_, ?_, ?_, ?_, ?_, ?_⟩
  · rw [halfFramesIn_snoc log _ rfl]
    exact h.received
  · rw [hq.1]
    exact hsh.append hl
  · intro hse hnil
    obtain ⟨front, rest, hqu, -⟩ := hf.held hse
    simp [hnil] at hqu
  · rw [hq.1, ← append_assoc]
    refine h.balanced.step [] l.supplied l.cancelled l.completed ?_ ?_ ?_ ?_ ?_
    · rw [queuedIn_snoc log _ rfl, map_nil, append_nil]
    · grind [assemblePdu_ok, cases Flow]
    · intro pdu hpdu
      obtain ⟨request, hr, has⟩ := hf.supplied pdu hpdu
      rw [(assemblePdu_ok has).1, hs]
      exact h.supply hr
    · intro pdu hpdu
      exact ⟨(hf.cancelled pdu hpdu).2, (ha (hf.cancelled pdu hpdu).1).snoc _ _⟩
    -- what is in the state is the same before and after
    rw [whole_append hshape₀.held, whole_append hf.held, nil_append]
    refine List.perm_iff_count.2 fun item => ?_
    have hco := hf.conserved.count_eq item
    simp only [count_append] at hco ⊢
    omega
  · rw [← append_assoc, h.bits, append_assoc, hf.bits]
    simp
  · exact fun item hit => (List.mem_append.1 hit).elim (h.capsules item) (hc item)
  · rw [length_append]
    omega
  · rw [hs]
    exact List.Subset.trans hf.supply h.supply

lemma Inv.iterate (h : Inv dsch (.filling b indication) log)
    (hit : b.iterate dsch now indication.systemTime indication.chipCursor = (b', ending)) :
    (ending = .again → Inv dsch (.filling b' indication) (log ++ [(.iterate now, .nothing)])) ∧
    (ending = .done → Inv dsch (.filled b') (log ++ [(.iterate now, .nothing)])) := by
  obtain ⟨completed₀, sent₀, completed, out, sent, hin, hro, ho⟩ := h.tracked
  obtain ⟨hs, -⟩ := hin.shape.of_append hin.held
  have hq := Building.sameQueues_iterate dsch now indication.systemTime indication.chipCursor hit
  have hk : ending = .again ∨ ending = .done → ∃ sent' completed' emitted',
      InHand dsch (log ++ [(.iterate now, .nothing)]) b' completed₀ sent₀ completed' emitted' sent' ∧
      (b'.state.cancelFutureGeneralPages = true → b.state.cancelFutureGeneralPages = true) ∧
      (ending = .again → Opened b' sent₀ completed' emitted' sent') ∧ Closed b' sent₀ completed' emitted' sent' := by
    intro hok
    obtain ⟨sent', l, hf, hs', hc, hends⟩ := shape_iterate hs hro
      (fun answer han => h.fits answer (hin.supply han)) hit hok
    rcases hends with ⟨rfl, rfl, he, hco, hfr, hfi, hr⟩ | ⟨hfr, hfi, hr, ha, hfu⟩
    · -- nothing was sent
      have hin' := hin.iterate hf hs' hc hq (by rw [he, hr]; simp) h.asked now
      rw [he, hco, append_nil, append_nil] at hin'
      refine ⟨[], completed, out, hin', hf.flag, fun _ => ⟨by omega, ?_⟩, ?_⟩
      · rw [hfr, hfi]
        exact ho
      · grind [Closed]
    · have hin' := hin.iterate hf hs' hc hq hr h.asked now
      have hst : b'.fragment = (if sent₀ = [] then 1 else 0) :: (out ++ l.emitted) ∧
          b'.firstMcsb.isSome = true := by grind
      exact ⟨sent', _, _, hin', hf.flag, fun hen => ⟨(ha hen).2, .inr ⟨hst.1, hst.2, (ha hen).1⟩⟩,
        .inr ⟨hst.1, hst.2, hfu⟩⟩
  constructor
  · intro ha
    obtain ⟨sent', completed', emitted', hin', has, ho', -⟩ := hk (.inl ha)
    exact h.next ⟨completed₀, sent₀, completed', emitted', sent', hin', ho' ha⟩ has rfl
  · intro hdo
    obtain ⟨sent', completed', emitted', hin', has, -, hcl⟩ := hk (.inr hdo)
    exact h.next ⟨completed₀, sent₀, completed', emitted', sent', hin', hcl⟩ has rfl

lemma Inv.putBack (h : Inv dsch (.filled b) log)
    (hput : Phase.putBack (.filled b) = some (phase', o)) : Inv dsch phase' (log ++ [(.putBack, o)]) := by
  obtain ⟨completed₀, sent₀, completed, out, sent, hin, hc⟩ := h.tracked
  obtain ⟨rfl, rfl⟩ := Prod.mk.inj (Option.some.inj hput)
  have hr := hin.room
  have hh : halfFramesIn (log ++ [(.putBack, .handed (Phase.data b))]) =
      halfFramesIn log ++ [if Phase.data b = [] then blank 96 else Phase.data b] := by
    simp [halfFramesIn, Note.handed?]
  refine h.next ⟨completed₀ ++ completed, sent, ?_, ?_, ?_⟩ id rfl
  · rw [hh]
    rcases hc with ⟨hn, rfl, rfl, rfl, rfl⟩ | ⟨hf, hs, hfu⟩
    · have hda : Phase.data b = [] := by simp [Phase.data, hn]
      rw [hda, append_nil]
      exact hin.received.idle
    have hda : Phase.data b = halfFrame 96 (if sent₀ = [] then 1 else 0, out) := by
      have hpad : b.remainingPayloadBits = 96 - 1 - out.length := by omega
      rw [Phase.data, if_pos hs, hf, writeU64_zero, hpad]
      rfl
    rw [if_neg (by simp [hda, halfFrame]), hda]
    exact hin.received.halfFrame hin.part hin.shape.isPart hin.capsules hin.bits (by omega) (by grind)
  · dsimp only
    exact hin.shape
  · dsimp only
    rw [Function.update_self]
    exact hin.balanced.kept (queuedIn_snoc log _ rfl)

end Moves

/-! ### Runs -/

/-- The half-frames have 96 bits, and what is to be sent on the paging channel fits. -/
def Whole (dsch : DataRequest → Option Bits) (_ : Phase) : Move → Prop
  | .send request => request.mcsb.channel = .fPch → Fits dsch request
  | .sendDirected _ req => req.channel = .fPch → ∀ msgSeq, Fits dsch (req.dataRequest msgSeq)
  | .available supply indication => indication.maxSize = 96 ∧ ∀ answer ∈ supply, ∀ request ∈ answer, Fits dsch request
  | _ => True

instance (dsch : DataRequest → Option Bits) (phase : Phase) (i : Move) : Decidable (Whole dsch phase i) := by
  unfold Whole
  cases i <;> infer_instance

section Runs

variable {dsch : DataRequest → Option Bits} {phase phase' : Phase} {log : List (Move × Note)} {i : Move} {o : Note}

lemma inv_new : Inv dsch (.resting State.new) [] := by
  refine ⟨⟨[], [], received_nil, .inl ⟨rfl, fun _ hn => absurd hn not_mem_nil⟩, [], [], [], rfl, ?_, ?_, ?_,
    .refl _⟩, fun hf => (by cases hf), ?_⟩
  all_goals simp [suppliedIn]

/-- **One move**, of any thread. -/
theorem Inv.move (h : Inv dsch phase log) (hw : Whole dsch phase i) (hok : o.isFailed = false)
    (hm : Lac.move dsch phase i = some (phase', o)) : Inv dsch phase' (log ++ [(i, o)]) := by
  cases i with
  | send request =>
    unfold Lac.move Phase.send at hm
    dsimp only at hm
    generalize hs : phase.state.sendMessage dsch request = result at hm
    obtain ⟨state, r⟩ := result
    rcases sendMessage_queues hs with ⟨rfl, hq⟩ | ⟨hne, hsa⟩
    · cases hm
      exact h.queue hq hw rfl
    · cases r <;> cases hm
      · exact absurd rfl hne
      · exact h.same hsa rfl rfl rfl
  | sendDirected now req =>
    unfold Lac.move Phase.sendDirected at hm
    dsimp only at hm
    generalize hs : phase.state.sendDirectedSdu dsch now req = result at hm
    obtain ⟨state, r⟩ := result
    rcases sendDirectedSdu_queues hs with ⟨ha, msgSeq, rfl, hr, hq⟩ | ⟨hne, hsa⟩
    · cases hm
      rw [hr]
      exact h.queue hq (fun hc => hw hc msgSeq) rfl
    · cases r <;> cases hm
      · exact absurd rfl (hne _)
      · exact h.same hsa rfl rfl rfl
  | cancel =>
    cases hm
    exact h.cancel
  | available =>
    unfold Lac.move at hm
    cases phase with
    | resting =>
      dsimp only [Phase.available] at hm
      split_ifs at hm
      split at hm <;> cases hm
      · exact h.available hw.1 hw.2 (by assumption)
      · cases hok
    | _ => cases hm
  | iterate =>
    unfold Lac.move at hm
    cases phase with
    | filling =>
      dsimp only [Phase.iterate] at hm
      split at hm <;> cases hm
      · exact (h.iterate (by assumption)).1 rfl
      · exact (h.iterate (by assumption)).2 rfl
      · cases hok
    | _ => cases hm
  | putBack =>
    cases phase with
    | filled => exact h.putBack hm
    | _ => cases hm

/-- **A run**, without an error of a call of the MAC. -/
theorem inv_run (hrun : Run (guarded (Lac.move dsch) (Whole dsch)) (.resting State.new) phase log)
    (hok : ∀ entry ∈ log, entry.2.isFailed = false) : Inv dsch phase log := by
  induction hrun with
  | nil => exact inv_new
  | snoc _ hs ih =>
    have hb := ih fun entry he => hok entry (mem_append_left _ he)
    exact hb.move hs.1 (hok _ (mem_append_right _ mem_cons_self)) hs.2

end Runs

/-- **Segmentation is lossless.** The half-frames have the bits of PDUs one after the other, in the order in which these
started: all the bits of some, and then those of a part of the one in front. These PDUs are those that were queued or
supplied and neither were cancelled nor are still queued with bits that were not sent. And from the half-frames the reader
has exactly those that were sent to the last bit, in order, with a valid CRC. -/
def Lossless (dsch : DataRequest → Option Bits) (state : State) (log : List (Move × Note)) : Prop :=
  ∃ (completed : List Item) (sent : Bits) (frames : List PagingFrame),
    Emitted (halfFramesIn log) completed sent ∧ Balanced dsch log sent (state.messageQueue .fPch) completed ∧
    (∀ pdu ∈ state.messageQueue .fPch, pdu.ePdu ≠ []) ∧
    PagingFrameReader.new.feedAndDrain (halfFramesIn log) = some frames ∧ (∀ frame ∈ frames, frame.crcValid = true) ∧
    frames.map (fun frame => capsule frame.data) = completed.map Prod.snd

/-- In every run with capsules of at most 72 whole octets in which no call of the MAC returns an error. -/
theorem lossless_run (dsch : DataRequest → Option Bits) {state : State} {log : List (Move × Note)}
    (hrun : Run (guarded (move dsch) (Whole dsch)) (.resting State.new) (.resting state) log)
    (hok : ∀ entry ∈ log, entry.2.isFailed = false) : Lossless dsch state log := by
  obtain ⟨completed, sent, ⟨he, hc, reader, returned, hf, -, hfr⟩, hs, hb⟩ := (inv_run hrun hok).tracked
  refine ⟨completed, sent, completed.map fun item => wholeFrame item.2, he, hb, hs.unsent, ?_, ?_, ?_⟩
  · rw [feedAndDrain, hf, Option.map_some, completedFrames_resume, hfr]
  · intro frame hfra
    obtain ⟨item, -, rfl⟩ := List.mem_map.1 hfra
    rfl
  · rw [map_map]
    refine map_congr_left fun item hit => ?_
    exact (hc item hit).capsule_unwrap

def overhead : DataRequest where
  sdu := blank 112
  mcsb := { channel := .fPch, messageId := .systemParameters, lengthBits := 112 }

def numbered (msgSeq : UInt8) : DataRequest where
  sdu := blank 8
  mcsb := { channel := .fPch, messageId := .order, lengthBits := 8, address := some (.esn 2), msgSeq := msgSeq }

def futurePage : DataRequest where
  sdu := blank 24
  mcsb := { channel := .fPch, messageId := .generalPage, lengthBits := 24, requestedTxTime := some 1000 }

def halfFrameAt (k : ℕ) : AvailabilityIndication where
  maxSize := 96
  systemTime := 0
  chipCursor := fpchHalfFrameChips * k

def Phase.isResting : Phase → Bool
  | .resting _ => true
  | _ => false

/-- A message takes two half-frames. Meanwhile an order and a general page are sent, of which the page is cancelled while
the queue is taken out. -/
def disturbed : List Move :=
  [.send overhead, .available [] (halfFrameAt 0), .send futurePage, .iterate 0, .putBack, .send (numbered 1),
    .available [] (halfFrameAt 1), .cancel, .iterate 0, .iterate 0, .putBack, .available [] (halfFrameAt 2), .iterate 0,
    .iterate 0, .putBack]

theorem lossless_run_disturbed :
    ∃ state log, Run (guarded (move fun _ => none) (Whole fun _ => none)) (.resting State.new) (.resting state) log ∧
      log.map Prod.fst = disturbed ∧ Lossless (fun _ => none) state log ∧
      (PagingFrameReader.new.feedAndDrain (halfFramesIn log)).map List.length = some 2 := by
  obtain ⟨phase, log, hrun, hm, hok, hr, hf⟩ := exists_run (move fun _ => none) (Whole fun _ => none)
    (.resting State.new) disturbed (fun phase log => log.map Prod.fst = disturbed ∧
      (∀ entry ∈ log, entry.2.isFailed = false) ∧ phase.isResting = true ∧
      (PagingFrameReader.new.feedAndDrain (halfFramesIn log)).map List.length = some 2) (by decide +kernel)
  cases phase with
  | resting state => exact ⟨state, log, hrun, hm, lossless_run _ hrun hok, hf⟩
  | filling => cases hr
  | filled => cases hr

/-- An order with a MSG_SEQ of 9 follows a message that was sent in part. It is assembled, but it cannot be marked. -/
def unmarkable : List Move :=
  [.send overhead, .available [] (halfFrameAt 0), .iterate 0, .putBack, .send (numbered 9),
    .available [] (halfFrameAt 1), .iterate 0, .iterate 0, .available [] (halfFrameAt 2), .iterate 0, .putBack]

/-- No assembly fails, but the rest of the message is lost with the half-frame; of the next one, which is idle, the reader
makes a frame with an invalid CRC. -/
theorem not_lossless_unmarkable :
    ∃ phase log, Run (guarded (move fun _ => none) (Whole fun _ => none)) (.resting State.new) phase log ∧
      log.map Prod.fst = unmarkable ∧ log.map Prod.snd = [.queued overhead, .nothing, .nothing,
        .handed (1 :: (capsule (writeU64 1 8 ++ blank 114)).take 95), .queued (numbered 9), .nothing, .nothing,
        .failed (.msgSeqTooLarge 9), .nothing, .nothing, .handed []] ∧
      (PagingFrameReader.new.feedAndDrain (halfFramesIn log)).map (fun frames => frames.map (·.crcValid)) = some [false] :=
  exists_run (move fun _ => none) (Whole fun _ => none) (.resting State.new) unmarkable
    (fun _ log => log.map Prod.fst = unmarkable ∧ log.map Prod.snd = [.queued overhead, .nothing, .nothing,
        .handed (1 :: (capsule (writeU64 1 8 ++ blank 114)).take 95), .queued (numbered 9), .nothing, .nothing,
        .failed (.msgSeqTooLarge 9), .nothing, .nothing, .handed []] ∧
      (PagingFrameReader.new.feedAndDrain (halfFramesIn log)).map (fun frames => frames.map (·.crcValid)) = some [false])
    (by decide +kernel)

end OneXBts.Bts.Lac
