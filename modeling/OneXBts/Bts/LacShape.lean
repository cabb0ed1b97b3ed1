import OneXBts.Bts.LacEmission
import OneXBts.Bts.PagingReader

/-!
The queue of the paging channel between half-frames.

A PDU that has started stays in front until its last bit went out, whatever is queued, supplied or cancelled; the others
are in whole capsules (`Shape`). A half-frame begins with a start bit exactly if no PDU was sent in part before it, and it is
full if one is afterwards (`shape_iterate`).
-/

namespace OneXBts.Bts.Lac

open Lib Common PagingFrameReader List

/-! ### Capsules -/

def Fresh (pdu : EncapsulatedPdu) : Prop := pdu.frameStartSent = false ∧ IsCapsule pdu.ePdu

def assembled? (dsch : DataRequest → Option Bits) (request : DataRequest) : Option EncapsulatedPdu :=
  match assemblePdu dsch request with
  | .ok pdu => some pdu
  | _ => none

/-- The PDU of the message is not for the dedicated channel, and its capsule is of at most 72 whole octets. -/
def Fits (dsch : DataRequest → Option Bits) (request : DataRequest) : Prop :=
  request.mcsb.channel ≠ .fTch ∧
    ∀ pdu ∈ assembled? dsch request, 8 ∣ pdu.ePdu.length ∧ pdu.ePdu.length ≤ maxMsgLengthBits

instance (dsch : DataRequest → Option Bits) (request : DataRequest) : Decidable (Fits dsch request) := by
  unfold Fits; infer_instance

lemma sarEncapsulatePdu_capsule (h : sarEncapsulatePdu request bits = .ok pdu) : pdu.ePdu = capsule bits := by
  unfold sarEncapsulatePdu at h
  dsimp only at h
  split_ifs at h
  cases h
  rfl

lemma parseMsgLengthBits_encapsulated (h : sarEncapsulatePdu request bits = .ok pdu) :
    parseMsgLengthBits pdu.ePdu =
      if maxMsgLengthBits < (bits.length + 45) / 8 * 8 then none else some ((bits.length + 45) / 8 * 8) := by
  have ho : (8 + bits.length + 30 + 7) / 8 < 256 := by
    by_contra hge
    unfold sarEncapsulatePdu at h
    rw [if_pos (by omega : (8 + bits.length + 30 + 7) / 8 > 255)] at h
    split at h <;> cases h
  have hmin : ¬(bits.length + 45) / 8 < minMsgLengthOctets := by
    unfold minMsgLengthOctets
    omega
  rw [sarEncapsulatePdu_capsule h, capsule, append_assoc, writeU64_of_le (by decide), parseMsgLengthBits_msb ho,
    show 8 + bits.length + 30 + 7 = bits.length + 45 by omega]
  simp only [hmin, false_or]

/-- **The reader takes the length of a capsule as it was written exactly up to 72 octets.** The transmitter goes on to
255. -/
theorem parse_encapsulated_iff {pdu : EncapsulatedPdu} (hlen : bits.length % 8 = 2)
    (h : sarEncapsulatePdu request bits = .ok pdu) :
    parseMsgLengthBits pdu.ePdu = some pdu.ePdu.length ↔ bits.length ≤ 538 := by
  have hl : pdu.ePdu.length = (bits.length + 45) / 8 * 8 := by
    rw [sarEncapsulatePdu_capsule h, length_capsule]
    omega
  rw [parseMsgLengthBits_encapsulated h, hl]
  unfold maxMsgLengthBits
  split
  · exact iff_of_false (by simp) (by omega)
  · exact iff_of_true rfl (by omega)

def pageRequest : DataRequest := ⟨[], { channel := .fPch, messageId := .generalPage, lengthBits := 0 }⟩

theorem parse_encapsulated_iff_short : ∃ pdu, sarEncapsulatePdu pageRequest [0, 0] = .ok pdu ∧
    (parseMsgLengthBits pdu.ePdu = some pdu.ePdu.length ↔ ([0, 0] : Bits).length ≤ 538) :=
  ⟨_, rfl, parse_encapsulated_iff rfl (show sarEncapsulatePdu pageRequest [0, 0] = .ok _ from rfl)⟩

/-- A capsule of 73 octets is sent and refused. -/
theorem parse_encapsulated_none : ∃ pdu, (blank 546).length % 8 = 2 ∧
    sarEncapsulatePdu pageRequest (blank 546) = .ok pdu ∧ parseMsgLengthBits pdu.ePdu = none := by
  have h : ∃ pdu, sarEncapsulatePdu pageRequest (blank 546) = .ok pdu := by simp [sarEncapsulatePdu, pageRequest]
  obtain ⟨pdu, h⟩ := h
  refine ⟨pdu, by simp, h, ?_⟩
  rw [parseMsgLengthBits_encapsulated h, if_pos (by simp [maxMsgLengthBits])]

lemma Fits.fresh (hf : Fits dsch request) (h : assemblePdu dsch request = .ok pdu) : Fresh pdu := by
  have ha : pdu ∈ assembled? dsch request := by
    unfold assembled?
    rw [h]
    rfl
  have hc : (utilityAssembleFCsch request).bind (sarEncapsulatePdu request) = .ok pdu →
      ∃ bits, pdu.ePdu = capsule bits := by
    cases utilityAssembleFCsch request with
    | error => intro hbi; cases hbi
    | ok bits => exact fun hb => ⟨bits, sarEncapsulatePdu_capsule hb⟩
  have hca : ∃ bits, pdu.ePdu = capsule bits := by
    unfold assemblePdu at h
    split at h
    · split at h
      · cases h
        exact hc ‹_›
      · cases h
    · split at h
      · cases h
        exact hc ‹_›
      · cases h
    · exact absurd ‹_› hf.1
    · cases h
  obtain ⟨bits, hb⟩ := hca
  exact ⟨(assemblePdu_ok h).2, bits, hb, hf.2 pdu ha⟩

/-! ### The shape of the queue -/

/-- No PDU was sent in part and all are fresh; or the one in front was, the others are fresh. -/
def Shape (sent : Bits) (queue : List EncapsulatedPdu) : Prop :=
  sent = [] ∧ (∀ pdu ∈ queue, Fresh pdu) ∨
  ∃ front rest, queue = front :: rest ∧ front.frameStartSent = true ∧ 8 ≤ sent.length ∧ front.ePdu ≠ [] ∧
    IsCapsule (sent ++ front.ePdu) ∧ ∀ pdu ∈ rest, Fresh pdu

section Shape

variable {sent : Bits} {queue queue' live added removed : List EncapsulatedPdu}

lemma Fresh.ne_nil (h : Fresh pdu) : pdu.ePdu ≠ [] := by
  obtain ⟨-, bits, hc, -⟩ := h
  intro hnil
  have hl := length_capsule bits
  rw [← hc, hnil, length_nil] at hl
  omega

section

variable (h : Shape sent queue)
include h

lemma Shape.isPart : IsPart sent := by
  rcases h with ⟨hnil, -⟩ | ⟨front, rest, -, -, h8, hne, hc, -⟩
  · exact .inl hnil
  · exact .inr ⟨h8, front.ePdu, hne, hc⟩

lemma Shape.held : Held sent queue := by
  intro hs
  rcases h with ⟨hnil, -⟩ | ⟨front, rest, hq, hst, -⟩
  · exact absurd hnil hs
  · exact ⟨front, rest, hq, hst⟩

lemma Shape.unsent : ∀ pdu ∈ queue, pdu.ePdu ≠ [] := by
  intro pdu hpdu
  rcases h with ⟨-, hf⟩ | ⟨front, rest, rfl, -, -, hne, -, hf⟩
  · exact (hf pdu hpdu).ne_nil
  · rcases mem_cons.1 hpdu with rfl | hpdu
    · exact hne
    · exact (hf pdu hpdu).ne_nil

lemma Shape.unstarted (hf : ∀ front ∈ queue.head?, front.frameStartSent = false) :
    sent = [] := by
  rcases h with ⟨hnil, -⟩ | ⟨front, rest, rfl, hs, -⟩
  · exact hnil
  · rw [hf front rfl] at hs
    cases hs

lemma Shape.rearrange (hp : (queue ++ added).Perm (removed ++ queue'))
    (hfr : ∀ front ∈ queue.head?, front.frameStartSent = true → queue'.head? = some front)
    (ha : ∀ pdu ∈ added, Fresh pdu) : Shape sent queue' := by
  rcases h with ⟨hnil, hf⟩ | ⟨front, rest, rfl, hs, h8, hne, hc, hf⟩
  · refine .inl ⟨hnil, fun pdu hpdu => ?_⟩
    rcases mem_append.1 (hp.symm.subset (mem_append_right _ hpdu)) with hold | hnew
    · exact hf pdu hold
    · exact ha pdu hnew
  · obtain ⟨rest', rfl⟩ := List.head?_eq_some_iff.1 (hfr front rfl hs)
    refine .inr ⟨front, rest', rfl, hs, h8, hne, hc, fun pdu hpdu => ?_⟩
    have hrest : (rest ++ added).Perm (removed ++ rest') := (hp.trans perm_middle).cons_inv
    rcases mem_append.1 (hrest.symm.subset (mem_append_right _ hpdu)) with hold | hnew
    · exact hf pdu hold
    · exact ha pdu hnew

lemma Shape.append (hl : ∀ pdu ∈ live, Fresh pdu) : Shape sent (queue ++ live) := by
  rcases h with ⟨hnil, hf⟩ | ⟨front, rest, rfl, hs, h8, hne, hc, hf⟩
  · exact .inl ⟨hnil, fun pdu hpdu => (mem_append.1 hpdu).elim (hf pdu) (hl pdu)⟩
  · exact .inr ⟨front, rest ++ live, rfl, hs, h8, hne, hc,
      fun pdu hpdu => (mem_append.1 hpdu).elim (hf pdu) (hl pdu)⟩

end

lemma Shape.of_append (h : Shape sent (queue ++ live)) (hh : sent ≠ [] → queue ≠ []) :
    Shape sent queue ∧ ∀ pdu ∈ live, Fresh pdu := by
  rcases h with ⟨hnil, hf⟩ | ⟨front, rest, hq, hs, h8, hne, hc, hf⟩
  · exact ⟨.inl ⟨hnil, fun pdu hpdu => hf pdu (mem_append_left _ hpdu)⟩,
      fun pdu hpdu => hf pdu (mem_append_right _ hpdu)⟩
  have hse : sent ≠ [] := by
    rintro rfl
    exact absurd h8 (by decide)
  cases queue with
  | nil => exact absurd rfl (hh hse)
  | cons head tail =>
    obtain ⟨rfl, rfl⟩ := List.cons.inj hq
    exact ⟨.inr ⟨head, tail, rfl, hs, h8, hne, hc, fun pdu hpdu => hf pdu (mem_append_left _ hpdu)⟩,
      fun pdu hpdu => hf pdu (mem_append_right _ hpdu)⟩

lemma whole_append (h : Held sent queue) (live : List EncapsulatedPdu) :
    whole sent (queue ++ live) = whole sent queue ++ live.map EncapsulatedPdu.item := by
  cases queue with
  | nil =>
    have hnil : sent = [] := by
      by_contra hs
      obtain ⟨front, rest, hq, -⟩ := h hs
      cases hq
    rw [hnil, whole_nil]
    rfl
  | cons => simp [whole]

lemma Shape.drain (h : Shape sent b.queue) (hdr : Drains b b' front rest ending) (hr : 8 ≤ b.remainingPayloadBits) :
    (front.frameStartSent = true ↔ sent ≠ []) ∧ IsCapsule (sent ++ front.ePdu) ∧
    Shape (if front.ePdu.length ≤ b.remainingPayloadBits then [] else sent ++ front.ePdu.take b.remainingPayloadBits)
      b'.queue := by
  have hfa : (front.frameStartSent = true ↔ sent ≠ []) ∧ IsCapsule (sent ++ front.ePdu) ∧ ∀ pdu ∈ rest, Fresh pdu := by
    rw [hdr.queue] at h
    rcases h with ⟨rfl, hf⟩ | ⟨front', rest', hq, hs, h8, -, hc, hf⟩
    · have hfr := hf front mem_cons_self
      refine ⟨by simp [hfr.1], hfr.2, fun pdu hpdu => hf pdu (mem_cons_of_mem _ hpdu)⟩
    obtain ⟨rfl, rfl⟩ := List.cons.inj hq
    refine ⟨iff_of_true hs ?_, hc, hf⟩
    rintro rfl
    exact absurd h8 (by decide)
  obtain ⟨hst, hc, hf⟩ := hfa
  refine ⟨hst, hc, ?_⟩
  rw [hdr.left]
  by_cases hfi : front.ePdu.length ≤ b.remainingPayloadBits
  · rw [if_pos hfi, if_pos hfi]
    exact .inl ⟨rfl, hf⟩
  rw [if_neg hfi, if_neg hfi]
  refine .inr ⟨_, rest, rfl, rfl, ?_, ?_, ?_, hf⟩
  · rw [length_append, length_take]
    omega
  · intro hnil
    have hl := congrArg List.length hnil
    rw [length_drop, length_nil] at hl
    omega
  · rw [append_assoc, take_append_drop]
    exact hc

end Shape

/-! ### Sending -/

section Live

variable {queue : List EncapsulatedPdu} {pdu : EncapsulatedPdu}

lemma enqueue_perm (queue : List EncapsulatedPdu) (pdu : EncapsulatedPdu) :
    (queue ++ [pdu]).Perm (State.enqueue queue pdu) := by
  unfold State.enqueue
  split_ifs
  · refine .trans ?_ perm_middle.symm
    rw [take_append_drop]
    exact perm_append_comm
  · exact .refl _

lemma enqueue_started (hf : front ∈ queue.head?) (hs : front.frameStartSent = true) :
    (State.enqueue queue pdu).head? = some front := by
  obtain ⟨rest, rfl⟩ := List.head?_eq_some_iff.1 hf
  unfold State.enqueue
  split_ifs
  · simp [findIdx_cons, hs]
  · rfl

end Live

/-- A message is queued: on the paging channel if it is for it. -/
def Queues (dsch : DataRequest → Option Bits) (request : DataRequest) (state state' : State) : Prop :=
  ∃ pdu, assemblePdu dsch request = .ok pdu ∧ state'.cancelFutureGeneralPages = state.cancelFutureGeneralPages ∧
    state'.messageQueue .fPch = if request.mcsb.channel = .fPch then State.enqueue (state.messageQueue .fPch) pdu
      else state.messageQueue .fPch

/-- The queue of the paging channel is as it was. -/
def SameLive (state state' : State) : Prop :=
  state'.messageQueue .fPch = state.messageQueue .fPch ∧
    state'.cancelFutureGeneralPages = state.cancelFutureGeneralPages

section Sending

variable {dsch : DataRequest → Option Bits} {state state' : State}

lemma sendMessage_queues (h : state.sendMessage dsch request = (state', r)) :
    r = .ok () ∧ Queues dsch request state state' ∨ r ≠ .ok () ∧ SameLive state state' := by
  unfold State.sendMessage at h
  split at h
  all_goals obtain ⟨rfl, rfl⟩ := Prod.mk.inj h
  any_goals exact .inr ⟨by simp, rfl, rfl⟩
  · rename_i pdu ha
    refine .inl ⟨rfl, pdu, ha, rfl, ?_⟩
    dsimp only
    split_ifs with hc
    · rw [hc, Function.update_self]
    · rw [Function.update_of_ne (Ne.symm hc)]

lemma sendDirectedSdu_queues (h : state.sendDirectedSdu dsch now req = (state', r)) :
    (∃ ha msgSeq, r = .ok ha ∧ (⟨req.sdu, ha.mcsb⟩ : DataRequest) = req.dataRequest msgSeq ∧
      Queues dsch (req.dataRequest msgSeq) state state') ∨ (∀ ha, r ≠ .ok ha) ∧ SameLive state state' := by
  unfold State.sendDirectedSdu at h
  dsimp only at h
  split at h
  · obtain ⟨rfl, rfl⟩ := Prod.mk.inj h
    exact .inr ⟨by simp, rfl, rfl⟩
  rename_i pending msgSeq tracker hr
  generalize hs : State.sendMessage _ _ _ = sent at h
  obtain ⟨state₁, r₁⟩ := sent
  obtain ⟨rfl, rfl⟩ := Prod.mk.inj h
  rcases sendMessage_queues hs with ⟨rfl, hq⟩ | ⟨hne, hsa⟩
  · exact .inl ⟨_, msgSeq, rfl, rfl, hq⟩
  refine .inr ⟨?_, hsa⟩
  cases r₁ with
  | ok => exact absurd rfl hne
  | err | panic => simp [Outcome.bind]

end Sending

/-! ### An iteration -/

lemma shape_iterate
     (hs : Shape sent b.queue) (hr : 8 ≤ b.remainingPayloadBits)
    (hsu : ∀ answer ∈ b.supply, ∀ request ∈ answer, Fits dsch request)
    (h : b.iterate dsch now time chip = (b', ending)) (hok : ending = .again ∨ ending = .done) :
    ∃ sent' l, Flow dsch sent b sent' b' l ∧ Shape sent' b'.queue ∧ (∀ item ∈ l.completed, IsCapsule item.2) ∧
      (sent = [] ∧ sent' = [] ∧ l.emitted = [] ∧ l.completed = [] ∧ b'.fragment = b.fragment ∧
          b'.firstMcsb = b.firstMcsb ∧ b'.remainingPayloadBits = b.remainingPayloadBits ∨
        b'.fragment = (if b.fragment = [] then [if sent = [] then 1 else 0] else b.fragment) ++ l.emitted ∧
          ((b.fragment ≠ [] → b.firstMcsb.isSome = true) → b'.firstMcsb.isSome = true) ∧
          l.emitted.length + b'.remainingPayloadBits = b.remainingPayloadBits ∧
          (ending = .again → sent' = [] ∧ 8 ≤ b'.remainingPayloadBits) ∧
          (sent' ≠ [] → b'.remainingPayloadBits = 0)) := by
  have hf : ∀ {b₁ : Building} {gone fed}, Quiet dsch b b₁ gone fed → ∀ pdu ∈ fed, Fresh pdu := by
    intro b₁ gone fed hq pdu hpdu
    obtain ⟨request, hre, ha⟩ := hq.supplied pdu hpdu
    exact (hsu _ hre request rfl).fresh ha
  rcases Building.iterate_cases dsch now time chip h with ⟨hfa, -⟩ | ⟨-, hfr, _, _, hq⟩ |
    ⟨b₁, _, _, front, rest, hq, hdr⟩
  · rcases hok with rfl | rfl
    all_goals
      rcases hfa with ⟨e, he⟩ | he
      · cases he
      · cases he
  · have hnil := hs.unstarted hfr
    subst hnil
    exact ⟨[], _, .of_quiet hs.held hq, hs.rearrange hq.perm hq.front (hf hq), fun _ hn => absurd hn not_mem_nil,
      .inl ⟨rfl, rfl, rfl, rfl, hq.fragment, hq.firstMcsb, hq.remaining⟩⟩
  · have hshape₁ := hs.rearrange hq.perm hq.front (hf hq)
    rw [← hq.remaining] at hr
    obtain ⟨hst, hc, hs'⟩ := hshape₁.drain hdr hr
    obtain ⟨sent', l, hfl, hco, hem, rfl⟩ := Flow.of_drains dsch hdr sent
    have hrem := hdr.remaining
    have hen := hdr.ending
    refine ⟨_, _, (Flow.of_quiet hs.held hq).trans hfl, hs', ?_, .inr ⟨?_, ?_, ?_, ?_, ?_⟩⟩
    · intro item hit
      rw [hco item hit]
      exact hc
    · rw [hdr.fragment, hq.fragment]
      congr 1
      · have hbit : (if front.frameStartSent then 0 else 1 : UInt8) = if sent = [] then 1 else 0 := by
          by_cases hnil : sent = []
          · rw [if_neg fun hsta => hst.1 hsta hnil, if_pos hnil]
          · rw [if_pos (hst.2 hnil), if_neg hnil]
        rw [hbit]
      · exact hem.symm
    · intro hso
      rw [hdr.firstMcsb, hq.fragment, hq.firstMcsb]
      split_ifs with hnil
      · rfl
      · exact hso hnil
    · change ([] ++ l.emitted).length + _ = _
      rw [nil_append, hem, ← hq.remaining, length_take]
      omega
    · intro hag
      rw [hag] at hen
      split_ifs at hen with hstop
      rw [if_pos (by omega)]
      exact ⟨rfl, by omega⟩
    · intro hp
      split_ifs at hp with hfi
      · exact absurd rfl hp
      · omega

end OneXBts.Bts.Lac
