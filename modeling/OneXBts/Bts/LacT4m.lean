import OneXBts.Bts.LacArq
import OneXBts.Bts.LacFrame
import OneXBts.Lib.Runs

/-!
The reuse of MSG_SEQ on the paging channel.

A number is chosen when an SDU is sent and rests for T4m from when its PDU was last started; in between the entry of the PDU
keeps it from others. So every directed PDU that waits has an entry (`Sound.carried`), the tracker knows of every start
(`Sound.recorded`), and an entry has the number of another start only after T4m (`Sound.apart`), as long as the tracker is
not lost, no entry of a waiting PDU is dropped and the supplier has no directed PDUs.
-/

namespace OneXBts.Bts.Lac

open Lib Common List MsgSeqTracker

/-! ### What started -/

def DataRequest.pduKey (r : DataRequest) : Option PendingDirectedPduKey :=
  r.mcsb.address.map fun addr =>
    { addr := addr, messageId := r.mcsb.messageId, ackSeq := r.mcsb.ackSeq, ackReq := r.mcsb.ackReq,
      validAck := r.mcsb.validAck, sduBits := r.sdu }

structure Start where
  time : ℕ
  request : DataRequest
  deriving DecidableEq

/-- The address, the class and the number are the same. -/
def SameNumber (r r' : DataRequest) : Prop :=
  r.mcsb.address = r'.mcsb.address ∧ r.mcsb.ackReq = r'.mcsb.ackReq ∧ r.mcsb.msgSeq = r'.mcsb.msgSeq

instance (r r' : DataRequest) : Decidable (SameNumber r r') := by unfold SameNumber; infer_instance

/-- Two starts with one number are of one PDU, or T4m lies between them. -/
def Apart (x y : Start) : Prop :=
  SameNumber x.request y.request → x.request.pduKey = y.request.pduKey ∨ x.time + t4m ≤ y.time

instance (x y : Start) : Decidable (Apart x y) := by unfold Apart; infer_instance

/-! ### The numbers that are held -/

def PendingDirectedPdu.held (entry : PendingDirectedPdu) : PendingDirectedPduKey × Fin 8 := (entry.key, entry.msgSeq)

def held (pending : PendingDirectedPduTracker) : List (PendingDirectedPduKey × Fin 8) :=
  pending.entries.map PendingDirectedPdu.held

/-- A request is for the PDU, with the number that it holds. -/
def Carries (p : PendingDirectedPduKey × Fin 8) (r : DataRequest) : Prop :=
  r.pduKey = some p.1 ∧ r.mcsb.msgSeq.toNat = p.2.val

def Numbers (p : PendingDirectedPduKey × Fin 8) (r : DataRequest) : Prop :=
  r.mcsb.address = some p.1.addr ∧ r.mcsb.ackReq = p.1.ackReq ∧ r.mcsb.msgSeq.toNat = p.2.val

instance (p : PendingDirectedPduKey × Fin 8) (r : DataRequest) : Decidable (Carries p r) := by
  unfold Carries; infer_instance

lemma Carries.numbers (h : Carries p r) : Numbers p r := by
  obtain ⟨addr, ha, hkey⟩ := Option.map_eq_some_iff.1 h.1
  refine ⟨?_, ?_, h.2⟩
  · rw [ha, ← hkey]
  · rw [← hkey]

lemma Numbers.of_sameNumber (h : Numbers p r') (hs : SameNumber r r') : Numbers p r :=
  ⟨hs.1.trans h.1, hs.2.1.trans h.2.1, by rw [hs.2.2]; exact h.2.2⟩

lemma held_markTransmitted (pending : PendingDirectedPduTracker) (addr : MsAddress) (ackReq : Bool) (msgSeq : Fin 8)
    (now : ℕ) : held (pending.markTransmitted addr ackReq msgSeq now) = held pending := by
  unfold PendingDirectedPduTracker.markTransmitted held
  split
  · refine ext_getElem? fun i => ?_
    grind [PendingDirectedPdu.held]
  · rfl

lemma lastTransmitted_markTransmitted (trk : MsgSeqTracker) (addr : MsAddress) (ackReq : Bool) (msgSeq : Fin 8)
    (now : ℕ) (k : TrackerKey) (seq : Fin 8) :
    ((trk.markTransmitted addr ackReq msgSeq now).counters k).seqLastTransmitted seq =
      if k = key addr ackReq ∧ seq = msgSeq then some now
      else (trk.counters k).seqLastTransmitted seq := by
  unfold markTransmitted
  by_cases hk : k = key addr ackReq
  · subst hk
    by_cases hseq : seq = msgSeq
    · simp [hseq]
    · simp [hseq]
  · simp [hk]

lemma lastTransmitted_advance (trk : MsgSeqTracker) (k k' : TrackerKey) (seq : Fin 8) :
    ((trk.advance k seq).counters k').seqLastTransmitted = (trk.counters k').seqLastTransmitted := by
  unfold advance
  by_cases hk : k' = k
  · subst hk
    simp
  · simp [hk]

lemma markDirectedPduTransmitted_eq {state : State} {r : DataRequest} {p : PendingDirectedPduKey × Fin 8}
    (hc : r.mcsb.channel = .fPch) (hn : Numbers p r) :
    state.markDirectedPduTransmitted now r.mcsb = .ok { state with
      pagingMsgSeqTracker := state.pagingMsgSeqTracker.markTransmitted p.1.addr p.1.ackReq p.2 now
      pendingDirectedPdus := state.pendingDirectedPdus.markTransmitted p.1.addr p.1.ackReq p.2 now } := by
  obtain ⟨ha, hack, hseq⟩ := hn
  grind [State.markDirectedPduTransmitted]

/-! ### The invariant -/

/-- The starts so far, the trackers and the PDUs that wait, at a time. -/
structure Sound (now : ℕ) (starts : List Start) (tracker : MsgSeqTracker) (pending : PendingDirectedPduTracker)
    (waits : List DataRequest) : Prop where
  carried : ∀ r ∈ waits, r.mcsb.channel = .fPch ∧ ∃ p ∈ held pending, Carries p r
  distinct : ∀ p ∈ held pending, ∀ q ∈ held pending, p.1.addr = q.1.addr → p.1.ackReq = q.1.ackReq → p.2 = q.2 → p = q
  recorded : ∀ x ∈ starts, ∀ p, Numbers p x.request →
    ∃ t, (tracker.counters (MsgSeqTracker.key p.1.addr p.1.ackReq)).seqLastTransmitted p.2 = some t ∧ x.time ≤ t
  past : ∀ x ∈ starts, x.time ≤ now
  apart : ∀ x ∈ starts, ∀ p ∈ held pending, Numbers p x.request →
    x.request.pduKey = some p.1 ∨ x.time + t4m ≤ now
  pairwise : starts.Pairwise Apart

namespace Sound

variable {now : ℕ} {starts : List Start} {trk : MsgSeqTracker} {pending : PendingDirectedPduTracker}
  {waits : List DataRequest}

lemma init : Sound 0 [] {} {} [] := by constructor <;> simp [held]

section

variable (h : Sound now starts trk pending waits)
include h

lemma later (hle : now ≤ now') :
    Sound now' starts trk pending waits where
  carried := h.carried
  distinct := h.distinct
  recorded := h.recorded
  past x hx := (h.past x hx).trans hle
  apart x hx p hp hn := (h.apart x hx p hp hn).imp_right fun hrest => hrest.trans hle
  pairwise := h.pairwise

lemma fewer (hsub : waits' ⊆ waits) :
    Sound now starts trk pending waits' :=
  { h with carried := fun r hr => h.carried r (hsub hr) }

/-- **A PDU that waits starts.** The entry it has is the only one with its number, so whatever else started with the
number did so T4m ago. -/
theorem start (hp : p ∈ held pending) (hc : Carries p r) :
    Sound now (starts ++ [⟨now, r⟩]) (trk.markTransmitted p.1.addr p.1.ackReq p.2 now)
      (pending.markTransmitted p.1.addr p.1.ackReq p.2 now) waits where
  carried := by rw [held_markTransmitted]; exact h.carried
  distinct := by rw [held_markTransmitted]; exact h.distinct
  recorded := by
    intro x hx q hn
    rw [lastTransmitted_markTransmitted]
    split_ifs with hm
    · grind [cases Sound]
    rcases mem_append.1 hx with hx | hx
    · exact h.recorded x hx q hn
    -- the number of the PDU itself has just been marked
    rw [mem_singleton.1 hx] at hn
    obtain ⟨ha, hack, hseq⟩ := hn
    obtain ⟨ha', hack', hseq'⟩ := hc.numbers
    refine absurd ⟨?_, Fin.ext (hseq.symm.trans hseq')⟩ hm
    rw [Option.some.inj (ha.symm.trans ha'), ← hack, hack']
  past := by grind [cases Sound]
  apart := by grind [held_markTransmitted, cases Sound, Numbers, DataRequest.pduKey, Carries]
  pairwise := by
    refine pairwise_append.2 ⟨h.pairwise, pairwise_singleton _ _, fun x hx y hy hs => ?_⟩
    rw [mem_singleton.1 hy] at hs ⊢
    rcases h.apart x hx p hp (hc.numbers.of_sameNumber hs) with hkey | hrest
    · exact .inl (hkey.trans hc.1.symm)
    · exact .inr hrest

lemma drop (hsub : held pending' ⊆ held pending)
    (hk : ∀ r ∈ waits, ∀ p ∈ held pending, Carries p r → p ∈ held pending') :
    Sound now starts trk pending' waits where
  carried := by grind [cases Sound]
  distinct p hp q hq := h.distinct p (hsub hp) q (hsub hq)
  recorded := h.recorded
  past := h.past
  apart x hx p hp := h.apart x hx p (hsub hp)
  pairwise := h.pairwise

/-- **A number is reserved.** It is neither held nor in cooldown, so whatever started with it did so T4m ago. -/
theorem reserve (hr : Reserved pending trk now pduKey seq) :
    Sound now starts (trk.advance (key pduKey.addr pduKey.ackReq) seq)
      ⟨pending.entries ++ [{ key := pduKey, msgSeq := seq }]⟩ waits := by
  have hh : held ⟨pending.entries ++ [{ key := pduKey, msgSeq := seq }]⟩ = held pending ++ [(pduKey, seq)] := by
    simp [held, PendingDirectedPdu.held]
  have hf : ∀ p ∈ held pending, p.1.addr = pduKey.addr → p.1.ackReq = pduKey.ackReq → p.2 ≠ seq := by
    intro p hp ha hack hseq
    obtain ⟨entry, he, rfl⟩ := mem_map.1 hp
    have hnu : entry.numbered pduKey.addr pduKey.ackReq seq = true := decide_eq_true ⟨ha, hack, hseq⟩
    exact Bool.eq_false_iff.1 (hr.free entry he) hnu
  constructor
  · grind [cases Sound]
  · grind [cases Sound]
  · intro x hx p hn
    rw [lastTransmitted_advance]
    exact h.recorded x hx p hn
  · exact h.past
  · rw [hh]
    intro x hx p hp hn
    rcases mem_append.1 hp with hp | hp
    · exact h.apart x hx p hp hn
    · rw [mem_singleton.1 hp] at hn ⊢
      obtain ⟨t, ht, hle⟩ := h.recorded x hx (pduKey, seq) hn
      grind [inCooldown, cases Sound, cases Reserved]
  · exact h.pairwise

end

/-- **What a frame keeps.** The PDUs that it started join the others. -/
theorem evolves {b b' : Building} (he : Evolves now b b') : ∀ {starts : List Start},
    Sound now starts b.state.pagingMsgSeqTracker b.state.pendingDirectedPdus (waiting b.queue) →
    ∃ new, b'.started = b.started ++ new ∧ Sound now (starts ++ new.map (Start.mk now))
      b'.state.pagingMsgSeqTracker b'.state.pendingDirectedPdus (waiting b'.queue) := by
  induction he with
  | keep hk =>
    intro starts h
    refine ⟨[], by simp [hk.started], ?_⟩
    rw [hk.tracker, hk.pending, map_nil, append_nil]
    exact h.fewer hk.waiting
  | @start b b' r marked hone =>
    intro starts h
    obtain ⟨hch, p, hp, hc⟩ := h.carried r hone.waits
    have hm := hone.mark
    rw [markDirectedPduTransmitted_eq hch hc.numbers] at hm
    cases hm
    refine ⟨[r], hone.started, ?_⟩
    rw [hone.tracker, hone.pending]
    exact (h.start hp hc).fewer hone.waiting
  | trans => grind

lemma join (h : Sound now starts trk pending waits)
    (hc : r.mcsb.channel = .fPch) (hp : p ∈ held pending) (hca : Carries p r) :
    Sound now starts trk pending (r :: waits) :=
  { h with
    carried := by
      rintro r' (_ | ⟨_, hr'⟩)
      · exact ⟨hc, p, hp, hca⟩
      · exact h.carried r' hr' }

end Sound

/-! ### The calls -/

/-- A call, with the time at which it is made. -/
inductive Call where
  | send (now : ℕ) (req : DirectedSduRequest)
  | acknowledge (now : ℕ) (addr : MsAddress) (msgSeq : UInt8)
  | frame (now : ℕ) (supply : List (Option DataRequest)) (indication : AvailabilityIndication)
  deriving DecidableEq

def Call.now : Call → ℕ
  | .send now _ => now
  | .acknowledge now _ _ => now
  | .frame now _ _ => now

structure Timed where
  lac : State := {}
  clock : ℕ := 0

/-- A call is not made before the last one; what it puts out is the directed PDUs that start. -/
def call (dsch : DataRequest → Option Bits) (s : Timed) (c : Call) : Option (Timed × List Start) :=
  if c.now < s.clock then none
  else
    match c with
    | .send now req =>
      match s.lac.sendDirectedSdu dsch now req with
      | (_, .panic) => none
      | (lac, _) => some ({ lac := lac, clock := now }, [])
    | .acknowledge now addr msgSeq => some ({ lac := (s.lac.acknowledgePdu now addr msgSeq).1, clock := now }, [])
    | .frame now supply indication =>
      match s.lac.handleAvailabilityIndication dsch now supply indication with
      | (_, _, .panic) => none
      | (lac, started, _) => some ({ lac := lac, clock := now }, started.map (Start.mk now))

def startsOf (log : List (Call × List Start)) : List Start := log.flatMap (·.2)

def NoneWaits (lac : State) (dropped : PendingDirectedPdu → Bool) : Prop :=
  ∀ entry ∈ lac.pendingDirectedPdus.entries, dropped entry = true →
    ∀ r ∈ waiting (lac.messageQueue .fPch), ¬Carries entry.held r

instance (lac : State) (dropped : PendingDirectedPdu → Bool) : Decidable (NoneWaits lac dropped) := by
  unfold NoneWaits; infer_instance

/-- There is a number for what is sent, an entry is dropped, expired or acknowledged, only if its PDU does not wait, and
the supplier has no directed PDU. -/
def Careful (dsch : DataRequest → Option Bits) (s : Timed) : Call → Prop
  | .send now req => (s.lac.sendDirectedSdu dsch now req).2 ≠ .err .exhausted ∧
      NoneWaits s.lac fun entry => !entry.unexpired now
  | .acknowledge now addr msgSeq => NoneWaits s.lac fun entry =>
      !entry.unexpired now || decide (entry.key.addr = addr ∧ entry.msgSeq.val = msgSeq.toNat)
  | .frame _ supply _ => Unaddressed supply

instance (dsch : DataRequest → Option Bits) (s : Timed) (c : Call) : Decidable (Careful dsch s c) := by
  cases c <;> unfold Careful <;> infer_instance

def SoundAt (now : ℕ) (starts : List Start) (lac : State) : Prop :=
  Sound now starts lac.pagingMsgSeqTracker lac.pendingDirectedPdus (waiting (lac.messageQueue .fPch))

lemma SoundAt.drop (h : SoundAt now starts lac) (hn : NoneWaits lac dropped) :
    Sound now starts lac.pagingMsgSeqTracker
      ⟨lac.pendingDirectedPdus.entries.filter fun entry => !dropped entry⟩ (waiting (lac.messageQueue .fPch)) := by
  refine Sound.drop h ?_ ?_
  · exact map_subset _ (filter_subset_self _)
  intro r hr p hp hc
  obtain ⟨entry, he, rfl⟩ := mem_map.1 hp
  refine mem_map.2 ⟨entry, mem_filter.2 ⟨he, ?_⟩, rfl⟩
  cases hdr : dropped entry with
  | true => exact absurd hc (hn entry he hdr r hr)
  | false => rfl

lemma waiting_enqueue :
    waiting (State.enqueue queue pdu) ⊆ pdu.message :: waiting queue := by grind [waiting, State.enqueue]

lemma SoundAt.sendMessage (h : SoundAt now starts lac) (dsch : DataRequest → Option Bits)
    (hp : p ∈ held lac.pendingDirectedPdus) (hca : Carries p r) :
    SoundAt now starts (lac.sendMessage dsch r).1 := by
  unfold State.sendMessage
  cases ha : assemblePdu dsch r with
  | err => exact h
  | panic => exact h
  | ok =>
    unfold SoundAt
    dsimp only
    by_cases hc : r.mcsb.channel = .fPch
    · refine (Sound.join h hc hp hca).fewer ?_
      grind [assemblePdu_ok, waiting_enqueue]
    · rw [Function.update_of_ne (Ne.symm hc)]
      exact h

lemma carries_dataRequest (req : DirectedSduRequest) (seq : Fin 8) :
    Carries (req.pduKey, seq) (req.dataRequest seq) := by
  refine ⟨rfl, ?_⟩
  change (UInt8.ofNat seq.val).toNat = seq.val
  simp only [UInt8.toNat_ofNat']
  omega

/-- **Sending.** -/
theorem SoundAt.send (h : SoundAt now starts lac) (dsch : DataRequest → Option Bits)
    (hn : (lac.sendDirectedSdu dsch now req).2 ≠ .err .exhausted)
    (hno : NoneWaits lac fun entry => !entry.unexpired now) :
    SoundAt now starts (lac.sendDirectedSdu dsch now req).1 := by
  have hr : SoundAt now starts
      { lac with pendingDirectedPdus := lac.pendingDirectedPdus.retainUnexpired now } := by
    have hdr := h.drop hno
    simp only [Bool.not_not] at hdr
    exact hdr
  rcases sendDirectedSdu_cases dsch lac now req with ⟨entry, he, hkey, hs⟩ | ⟨seq, hre, hs⟩ | ⟨-, hf⟩
  · rw [hs.state]
    refine hr.sendMessage dsch (mem_map.2 ⟨entry, he, rfl⟩) ?_
    grind [PendingDirectedPdu.held, carries_dataRequest]
  · rw [hs.state]
    have hen : SoundAt now starts { lac with
        pendingDirectedPdus :=
          ⟨(lac.pendingDirectedPdus.retainUnexpired now).entries ++ [{ key := req.pduKey, msgSeq := seq }]⟩
        pagingMsgSeqTracker := lac.pagingMsgSeqTracker.advance (key req.address req.ackReq) seq } :=
      Sound.reserve hr hre
    refine hen.sendMessage dsch ?_ (carries_dataRequest req seq)
    exact mem_map.2 ⟨{ key := req.pduKey, msgSeq := seq }, by simp, rfl⟩
  · exact absurd (congrArg Prod.snd hf) hn

/-- **Acknowledging.** -/
theorem SoundAt.acknowledge (h : SoundAt now starts lac) (hn : NoneWaits lac fun entry =>
      !entry.unexpired now || decide (entry.key.addr = addr ∧ entry.msgSeq.val = msgSeq.toNat)) :
    SoundAt now starts (lac.acknowledgePdu now addr msgSeq).1 := by
  have he : (lac.acknowledgePdu now addr msgSeq).1.pendingDirectedPdus =
      ⟨lac.pendingDirectedPdus.entries.filter fun entry =>
        !(!entry.unexpired now || decide (entry.key.addr = addr ∧ entry.msgSeq.val = msgSeq.toNat))⟩ := by
    simp only [State.acknowledgePdu, PendingDirectedPduTracker.acknowledge, PendingDirectedPduTracker.retainUnexpired,
      filter_filter]
    congr 2
    funext entry
    cases entry.unexpired now <;> simp
  unfold SoundAt
  rw [he]
  exact h.drop hn

/-- **A frame.** -/
theorem SoundAt.frame (h : SoundAt now starts lac) (dsch : DataRequest → Option Bits)
     (hs : Unaddressed supply)
    (heq : lac.handleAvailabilityIndication dsch now supply indication = (lac', started, outcome)) :
    SoundAt now (starts ++ started.map (Start.mk now)) lac' := by
  unfold State.handleAvailabilityIndication at heq
  split_ifs at heq
  · cases heq
    rw [map_nil, append_nil]
    exact h
  dsimp only at heq
  generalize hb : ({ state := _, queue := _, supply := supply, remainingPayloadBits := 0 } : Building) = b at heq
  have hbu := (Building.kept_evolves dsch now).frame indication.systemTime indication.chipCursor
    indication.maxSize b (by rw [← hb]; exact hs)
  have hbe : Sound now starts b.state.pagingMsgSeqTracker b.state.pendingDirectedPdus (waiting b.queue) := by
    rw [← hb]
    exact h
  have he : b.state.messageQueue .fPch = [] := by
    rw [← hb]
    exact Function.update_self ChannelType.fPch [] lac.messageQueue
  have hn : b.started = [] := by rw [← hb]
  obtain ⟨new, hnew, ha⟩ := Sound.evolves hbu hbe
  have ht := (congrFun hbu.settles.messageQueue .fPch).trans he
  rw [hn] at hnew
  -- after an error or a panic, the queue is empty
  split at heq
  all_goals
    rename_i b' _ hb'
    rw [hb'] at hnew ha ht
    cases heq
    rw [hnew]
    unfold SoundAt
    dsimp only at ht ⊢
  · rw [ht, append_nil]
    exact ha
  all_goals
    rw [ht]
    exact ha.fewer (nil_subset _)

/-- **MSG_SEQ and T4m.** In a run in which there always is a number, an entry is dropped only when its PDU does not wait,
and the supplier has no directed PDU, two starts with one number are of one PDU or T4m apart. -/
theorem starts_apart (dsch : DataRequest → Option Bits) {s : Timed} {log : List (Call × List Start)}
    (hrun : Run (guarded (call dsch) (Careful dsch)) {} s log) : (startsOf log).Pairwise Apart := by
  have hinv : SoundAt s.clock (startsOf log) s.lac := by
    have hin : SoundAt 0 [] {} := Sound.init
    refine hrun.inv (fun (s : Timed) log => SoundAt s.clock (startsOf log) s.lac) hin ?_
    rintro s c s' o log h ⟨hc, hs⟩
    have hlog : startsOf (log ++ [(c, o)]) = startsOf log ++ o := by simp [startsOf]
    rw [hlog]
    unfold call at hs
    split_ifs at hs with hcl
    have hnow : SoundAt c.now (startsOf log) s.lac := Sound.later h (not_lt.1 hcl)
    cases c with
    | send now =>
      change SoundAt now _ _ at hnow
      have hse := SoundAt.send hnow dsch hc.1 hc.2
      grind
    | acknowledge =>
      cases hs
      rw [append_nil]
      exact hnow.acknowledge hc
    | frame =>
      dsimp only at hs
      split at hs
      · cases hs
      · rename_i hres
        cases hs
        exact hnow.frame dsch hc hres
  exact hinv.pairwise

/-! ### Runs -/

def frameAt (now : ℕ) (supply : List (Option DataRequest)) : Call :=
  .frame now supply { maxSize := 192, systemTime := 0, chipCursor := fpchHalfFrameChips }

def ordersAt (now : ℕ) (esn : UInt32) (n : ℕ) : List Call :=
  (List.range n).map fun i => .send now (orderTo esn (i + 1))

/-- Eight more orders to mobile 2, three seconds after the first: the last of them has the number of the first. -/
theorem starts_apart_reused :
    ∃ s log, Run (guarded (call fun _ => none) (Careful fun _ => none)) {} s log ∧
      ((startsOf log).map fun x => (x.time, x.request.mcsb.msgSeq)) = (0, 0) ::
        [1, 2, 3, 4, 5, 6, 7, 0].map (Prod.mk 3000000000) ∧
      (startsOf log).Pairwise Apart := by
  obtain ⟨s, log, hrun, hs⟩ := exists_run (call fun _ => none) (Careful fun _ => none) {}
    ([.send 0 (orderTo 2 0), frameAt 0 []] ++ ordersAt 3000000000 2 8 ++ replicate 5 (frameAt 3000000000 []))
    (fun _ log => ((startsOf log).map fun x => (x.time, x.request.mcsb.msgSeq)) = (0, 0) ::
      [1, 2, 3, 4, 5, 6, 7, 0].map (Prod.mk 3000000000)) (by decide +kernel)
  exact ⟨s, log, hrun, hs, starts_apart _ hrun⟩

/-- An order to mobile 2 starts and is acknowledged. Of nine orders to mobile 1 the last has no number, and the tracker is
lost. The next order to mobile 2 has the number of the first. -/
def trackerLost : List Call :=
  [.send 0 (orderTo 2 0), frameAt 0 [], .acknowledge 1 (.esn 2) 0] ++ ordersAt 1 1 9 ++
    [.send 2 { orderTo 2 1 with txDeadline := some 0 }, frameAt 3 []]

/-- An order is acknowledged before it starts, so that its number is free while it waits. -/
def acknowledgedWaiting : List Call :=
  [.send 0 (orderTo 2 0), .acknowledge 1 (.esn 2) 0] ++ ordersAt 2 2 8 ++ (List.range 5).map fun i => frameAt (3 + i) []

def suppliedOrders : List Call :=
  (List.range 9).map fun i => frameAt i [some ((orderTo 2 i).dataRequest ⟨i % 8, Nat.mod_lt i (Nat.succ_pos 7)⟩)]

/-- Different PDUs start with one number within T4m when these calls are made. -/
def Violates (calls : List Call) : Prop :=
  ∃ s log, Run (steps (call fun _ => none)) { lac := State.new } s log ∧ log.map (·.1) = calls ∧
    ¬(startsOf log).Pairwise Apart

lemma violates_of_exec (h : (exec (call fun _ => none) (fun _ _ => True) { lac := State.new } calls).any (fun x =>
      decide (x.2.map (·.1) = calls ∧ ¬(startsOf x.2).Pairwise Apart)) = true) : Violates calls :=
  exists_run (call fun _ => none) (fun _ _ => True) { lac := State.new } calls
    (fun _ log => log.map (·.1) = calls ∧ ¬(startsOf log).Pairwise Apart) h

theorem starts_not_apart : Violates trackerLost ∧ Violates acknowledgedWaiting ∧ Violates suppliedOrders := by
  refine ⟨violates_of_exec ?_, violates_of_exec ?_, violates_of_exec ?_⟩
  all_goals decide +kernel

end OneXBts.Bts.Lac
