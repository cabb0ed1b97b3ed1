import OneXBts.Bts.LacFrame

/-!
What an iteration of the loop does to the queue of the paging channel.

It rearranges the queue, and then drains the PDU in front or does not (`iterate_cases`). Rearranging moves no bit and leaves
a PDU that has started in front (`Quiet`); draining takes as many bits as there is room for (`Drains`).
-/

namespace OneXBts.Bts.Lac

open Lib Common List

/-! ### Rearranging -/

def SameQueues (state state' : State) : Prop :=
  state'.messageQueue = state.messageQueue ∧ state'.fpchQueueCheckedOut = state.fpchQueueCheckedOut

lemma SameQueues.trans (h : SameQueues state state') (h' : SameQueues state' state'') :
    SameQueues state state'' := ⟨h'.1.trans h.1, h'.2.trans h.2⟩

/-- The queue is rearranged: PDUs are cancelled and supplied, and one that has started stays in front. -/
structure Quiet (dsch : DataRequest → Option Bits) (b b' : Building) (cancelled supplied : List EncapsulatedPdu) :
    Prop where
  perm : (b.queue ++ supplied).Perm (cancelled ++ b'.queue)
  front : ∀ front ∈ b.queue.head?, front.frameStartSent = true → b'.queue.head? = some front
  cancelled : ∀ pdu ∈ cancelled, b.state.cancelFutureGeneralPages = true ∧ pdu.isCancelableFutureGeneralPage = true
  supplied : ∀ pdu ∈ supplied, ∃ request, some request ∈ b.supply ∧ assemblePdu dsch request = .ok pdu
  supply : b'.supply ⊆ b.supply
  flag : b'.state.cancelFutureGeneralPages = true → b.state.cancelFutureGeneralPages = true
  queues : SameQueues b.state b'.state
  fragment : b'.fragment = b.fragment
  remaining : b'.remainingPayloadBits = b.remainingPayloadBits
  firstMcsb : b'.firstMcsb = b.firstMcsb

section Quiet

variable {dsch : DataRequest → Option Bits} {b b' b'' : Building}
  {cancelled supplied cancelled' supplied' : List EncapsulatedPdu}

lemma Quiet.trans (h : Quiet dsch b b' cancelled supplied) (h' : Quiet dsch b' b'' cancelled' supplied') :
    Quiet dsch b b'' (cancelled ++ cancelled') (supplied ++ supplied') where
  perm := by grind [cases Quiet]
  front front hf hs := h'.front front (h.front front hf hs) hs
  cancelled pdu hpdu := by grind [cases Quiet]
  supplied pdu hpdu := by grind [cases Quiet]
  supply := List.Subset.trans h'.supply h.supply
  flag hfl := h.flag (h'.flag hfl)
  queues := h.queues.trans h'.queues
  fragment := h'.fragment.trans h.fragment
  remaining := h'.remaining.trans h.remaining
  firstMcsb := h'.firstMcsb.trans h.firstMcsb

lemma quiet_supplied (hp : (b.queue ++ supplied).Perm queue)
    (hf : ∀ front ∈ b.queue.head?, front.frameStartSent = true → queue.head? = some front)
    (hs : ∀ pdu ∈ supplied, ∃ req, some req ∈ b.supply ∧ assemblePdu dsch req = .ok pdu)
    (hsu : supply ⊆ b.supply) : Quiet dsch b { b with queue := queue, supply := supply } [] supplied where
  perm := hp
  front := hf
  cancelled _ hn := absurd hn not_mem_nil
  supplied := hs
  supply := hsu
  flag := id
  queues := ⟨rfl, rfl⟩
  fragment := rfl
  remaining := rfl
  firstMcsb := rfl

lemma quiet_reordered (hp : b.queue.Perm queue)
    (hf : ∀ front ∈ b.queue.head?, front.frameStartSent = true → queue.head? = some front) :
    Quiet dsch b { b with queue := queue } [] [] :=
  quiet_supplied (by rwa [append_nil]) hf (fun _ hn => absurd hn not_mem_nil) (List.Subset.refl _)

lemma Quiet.refl (dsch : DataRequest → Option Bits) (b : Building) : Quiet dsch b b [] [] :=
  quiet_reordered (.refl _) fun _ hf _ => hf

lemma quiet_supply (hs : supply ⊆ b.supply) :
    Quiet dsch b { b with supply := supply } [] [] :=
  quiet_supplied (by rw [append_nil]) (fun _ hf _ => hf) (fun _ hn => absurd hn not_mem_nil) hs

lemma reprioritizeFpchQueue_started (time : CdmaSystemTime)
    (hf : front ∈ queue.head?) (hs : front.frameStartSent = true) :
    (reprioritizeFpchQueue queue time).head? = some front := by
  unfold reprioritizeFpchQueue
  grind

lemma quiet_reprioritized (dsch : DataRequest → Option Bits) (time : CdmaSystemTime) (b : Building) :
    Quiet dsch b { b with queue := reprioritizeFpchQueue b.queue time } [] [] :=
  quiet_reordered (reprioritizeFpchQueue_perm b.queue time).symm
    fun _ => reprioritizeFpchQueue_started time

lemma quiet_prioritize (dsch : DataRequest → Option Bits) (time : CdmaSystemTime) (chip : ℕ)
    (b : Building) : Quiet dsch b (b.prioritize time chip) [] [] := by
  unfold Building.prioritize
  split_ifs
  · exact .refl dsch b
  · exact quiet_reprioritized dsch time b

lemma cancel_started {queue : List EncapsulatedPdu} {front : EncapsulatedPdu} (hf : front ∈ queue.head?)
    (hs : front.frameStartSent = true) :
    (queue.filter fun pdu => !pdu.isCancelableFutureGeneralPage).head? = some front := by
  obtain ⟨rest, rfl⟩ := List.head?_eq_some_iff.1 hf
  grind [EncapsulatedPdu.isCancelableFutureGeneralPage]

section

variable (dsch : DataRequest → Option Bits)

lemma quiet_cancelFuturePages (b : Building) :
    ∃ cancelled, Quiet dsch b b.cancelFuturePages cancelled [] := by
  unfold Building.cancelFuturePages
  split_ifs with hf
  · refine ⟨b.queue.filter (·.isCancelableFutureGeneralPage), ?_, fun _ => cancel_started, ?_,
      fun _ hn => absurd hn not_mem_nil, List.Subset.refl _, fun _ => hf, ⟨rfl, rfl⟩,
      rfl, rfl, rfl⟩ <;> grind [filter_append_perm]
  · exact ⟨[], .refl dsch b⟩

lemma quiet_refill (chip : ℕ) (b : Building) :
    ∃ supplied, Quiet dsch b (b.refill dsch chip).1 [] supplied := by
  have hs := Building.nextPagingPduForFragment_spec dsch chip b.supply
  unfold Building.refill
  split
  all_goals rename_i hn; rw [hn] at hs
  · rename_i pdu
    refine ⟨[pdu], quiet_supplied (.refl _) ?_ ?_ hs.1⟩
    · intro front hf _
      rw [List.head?_append, hf]
      rfl
    grind
  all_goals exact ⟨[], quiet_supply hs.1⟩

lemma quiet_injectSlotFirstGpm (chip : ℕ) (b : Building) :
    ∃ supplied, Quiet dsch b (b.injectSlotFirstGpm dsch chip).1 [] supplied := by
  unfold Building.injectSlotFirstGpm
  split_ifs with hs
  · exact ⟨[], .refl dsch b⟩
  split
  · exact ⟨[], .refl dsch b⟩
  · rename_i supply hb
    exact ⟨[], quiet_supply (by simp [hb])⟩
  rename_i req supply hb
  have ht : supply ⊆ b.supply := by simp [hb]
  split
  any_goals exact ⟨[], quiet_supply ht⟩
  · rename_i pdu hpdu
    refine ⟨[pdu], quiet_supplied perm_append_comm ?_ ?_ ht⟩
    · -- then nothing would have been supplied
      intro front hf hst
      refine absurd ?_ hs
      rw [Option.mem_def.1 hf]
      simp [hst]
    grind

end

end Quiet

/-! ### Draining -/

/-- The PDU in front is drained as far as there is room. -/
structure Drains (b b' : Building) (front : EncapsulatedPdu) (rest : List EncapsulatedPdu) (ending : Ending) : Prop where
  queue : b.queue = front :: rest
  left : b'.queue = if front.ePdu.length ≤ b.remainingPayloadBits then rest
    else { front with frameStartSent := true, ePdu := front.ePdu.drop b.remainingPayloadBits } :: rest
  fragment : b'.fragment = (if b.fragment = [] then [if front.frameStartSent then 0 else 1] else b.fragment) ++
    front.ePdu.take b.remainingPayloadBits
  remaining : b'.remainingPayloadBits = b.remainingPayloadBits - front.ePdu.length
  firstMcsb : b'.firstMcsb = if b.fragment = [] then some front.message.mcsb else b.firstMcsb
  supply : b'.supply = b.supply
  flag : b'.state.cancelFutureGeneralPages = b.state.cancelFutureGeneralPages
  queues : SameQueues b.state b'.state
  ending : ending = if b'.remainingPayloadBits < 8 ∨ b.remainingPayloadBits < front.ePdu.length then .done else .again

lemma State.markDirectedPduTransmitted_same (h : state.markDirectedPduTransmitted now mcsb = .ok marked) :
    SameQueues state marked ∧ marked.cancelFutureGeneralPages = state.cancelFutureGeneralPages := by
  grind [SameQueues, State.markDirectedPduTransmitted]

namespace Building

variable (dsch : DataRequest → Option Bits) (now : ℕ) (time : CdmaSystemTime) (chip : ℕ)

lemma drain_drains {b b' : Building} {rest : List EncapsulatedPdu} {state : State}
    {ending : Ending} (h : b.drain front rest state = (b', ending)) :
    b'.queue = (if front.ePdu.length ≤ b.remainingPayloadBits then rest
      else { front with frameStartSent := true, ePdu := front.ePdu.drop b.remainingPayloadBits } :: rest) ∧
    b'.fragment = b.fragment ++ front.ePdu.take b.remainingPayloadBits ∧
    b'.remainingPayloadBits = b.remainingPayloadBits - front.ePdu.length ∧
    b'.firstMcsb = b.firstMcsb ∧ b'.supply = b.supply ∧ b'.state = state ∧
    ending = if b'.remainingPayloadBits < 8 ∨ b.remainingPayloadBits < front.ePdu.length then .done else .again := by
  have ht : front.ePdu.take (min b.remainingPayloadBits front.ePdu.length) = front.ePdu.take b.remainingPayloadBits := by
    rw [← take_take, take_length]
  have hdo : ((front.ePdu.drop (min b.remainingPayloadBits front.ePdu.length)).length == 0) =
      decide (front.ePdu.length ≤ b.remainingPayloadBits) := by grind
  have hdr : ¬front.ePdu.length ≤ b.remainingPayloadBits →
      front.ePdu.drop (min b.remainingPayloadBits front.ePdu.length) = front.ePdu.drop b.remainingPayloadBits := by
    intro hm
    rw [min_eq_left (by omega)]
  unfold drain at h
  dsimp only at h
  rw [hdo, ht] at h
  have he : (b.remainingPayloadBits - min b.remainingPayloadBits front.ePdu.length = 0 ∨
      (!decide (front.ePdu.length ≤ b.remainingPayloadBits)) = true ∨
      b.remainingPayloadBits - min b.remainingPayloadBits front.ePdu.length < 8) ↔
      (b.remainingPayloadBits - front.ePdu.length < 8 ∨ b.remainingPayloadBits < front.ePdu.length) := by
    rw [Bool.not_eq_true', decide_eq_false_iff_not]
    omega
  have hr : b.remainingPayloadBits - min b.remainingPayloadBits front.ePdu.length =
      b.remainingPayloadBits - front.ePdu.length := by omega
  grind

lemma transmit_cases {b b' : Building} {rest : List EncapsulatedPdu} {ending : Ending}
    (hq : b.queue = front :: rest) (h : b.transmit now front rest = (b', ending)) :
    ((∃ e, ending = .failed e) ∧ SameQueues b.state b'.state) ∨ Drains b b' front rest ending := by
  unfold transmit at h
  dsimp only at h
  generalize hb₁ : (if b.fragment.length = 0 then _ else b : Building) = b₁ at h
  have hsa : b₁.state = b.state ∧ b₁.supply = b.supply ∧ b₁.remainingPayloadBits = b.remainingPayloadBits := by
    rw [← hb₁]
    split_ifs <;> exact ⟨rfl, rfl, rfl⟩
  obtain ⟨hs, hsu, hre⟩ := hsa
  have he : b.fragment.length = 0 ↔ b.fragment = [] := length_eq_zero_iff
  have hf : b₁.fragment = if b.fragment = [] then [if front.frameStartSent then 0 else 1] else b.fragment := by
    rw [← hb₁]
    by_cases hnil : b.fragment = []
    · rw [if_pos (he.2 hnil), if_pos hnil]
      cases front.frameStartSent <;> rfl
    · rw [if_neg (fun hz => hnil (he.1 hz)), if_neg hnil]
  have hfi : b₁.firstMcsb = if b.fragment = [] then some front.message.mcsb else b.firstMcsb := by grind
  split at h
  · rename_i e hm
    obtain ⟨rfl, rfl⟩ := Prod.mk.inj h
    exact .inl ⟨⟨e, rfl⟩, by rw [hs]; exact ⟨rfl, rfl⟩⟩
  rename_i state hm
  right
  have hma : SameQueues b.state state ∧ state.cancelFutureGeneralPages = b.state.cancelFutureGeneralPages := by
    rw [hs] at hm
    split_ifs at hm
    · cases hm
      exact ⟨⟨rfl, rfl⟩, rfl⟩
    · exact State.markDirectedPduTransmitted_same hm
  obtain ⟨hl, hw, hr, hmc, hsu', hs', hen⟩ := drain_drains h
  rw [hre] at hl hw hr hen
  exact ⟨hq, hl, hw.trans (by rw [hf]), hr, hmc.trans hfi, hsu'.trans hsu,
    by rw [hs', hma.2], hs' ▸ hma.1, hen⟩

/-! ### One iteration -/

/-- An iteration drains nothing and the loop does not fail; then no PDU in front has started. -/
def Rests (b b' : Building) (ending : Ending) : Prop :=
  (ending = .again ∨ ending = .done) ∧ (∀ front ∈ b.queue.head?, front.frameStartSent = false) ∧
    ∃ cancelled supplied, Quiet dsch b b' cancelled supplied

/-- An iteration ends with an error or a panic. -/
def Fails (b b' : Building) (ending : Ending) : Prop :=
  ((∃ e, ending = .failed e) ∨ ending = .panicked) ∧ SameQueues b.state b'.state

lemma serve_cases (h : b.serve dsch now time chip = (b', ending)) :
    Fails b b' ending ∨ Rests dsch b b' ending ∨ ∃ front rest, Drains b b' front rest ending := by
  unfold serve at h
  split at h
  · obtain ⟨rfl, rfl⟩ := Prod.mk.inj h
    exact .inl ⟨.inr rfl, rfl, rfl⟩
  rename_i front rest hq
  split_ifs at h with he ho
  · have hu : ∀ f ∈ b.queue.head?, f.frameStartSent = false := by grind [EncapsulatedPdu.isEarly]
    obtain ⟨supplied, hr⟩ := quiet_refill dsch chip b
    split at h
    all_goals rename_i b₁ hb₁; rw [hb₁] at hr; obtain ⟨rfl, rfl⟩ := Prod.mk.inj h
    · exact .inr (.inl ⟨.inl rfl, hu, _, _, hr.trans (quiet_reprioritized dsch time b₁)⟩)
    · exact .inr (.inl ⟨.inr rfl, hu, _, _, hr⟩)
    · exact .inl ⟨.inl ⟨_, rfl⟩, hr.queues⟩
    · exact .inl ⟨.inr rfl, hr.queues⟩
  · obtain ⟨rfl, rfl⟩ := Prod.mk.inj h
    refine .inr (.inl ⟨.inr rfl, ?_, [], [], .refl dsch b⟩)
    grind
  · rcases transmit_cases now hq h with ⟨hf, hqu⟩ | hdr
    · exact .inl ⟨.inl hf, hqu⟩
    · exact .inr (.inr ⟨front, rest, hdr⟩)

/-- **What an iteration does.** It fails, it only rearranges the queue, or it rearranges it and drains the front. -/
theorem iterate_cases (h : b.iterate dsch now time chip = (b', ending)) :
    Fails b b' ending ∨ Rests dsch b b' ending ∨
      ∃ b₁ cancelled supplied front rest, Quiet dsch b b₁ cancelled supplied ∧ Drains b₁ b' front rest ending := by
  -- a PDU in front that has started would be drained
  have ha : ∀ {b₁ : Building} {cancelled supplied}, Quiet dsch b b₁ cancelled supplied →
      b₁.serve dsch now time chip = (b', ending) → Fails b b' ending ∨ Rests dsch b b' ending ∨
        ∃ b₁ cancelled supplied front rest, Quiet dsch b b₁ cancelled supplied ∧ Drains b₁ b' front rest ending := by
    intro b₁ cancelled supplied hq hs
    rcases serve_cases dsch now time chip hs with ⟨hfa, hqu⟩ | ⟨he, hfr, _, _, hq'⟩ | ⟨front, rest, hdr⟩
    · exact .inl ⟨hfa, hq.queues.trans hqu⟩
    · refine .inr (.inl ⟨he, fun front hmem => ?_, _, _, hq.trans hq'⟩)
      grind [cases Quiet]
    · exact .inr (.inr ⟨b₁, _, _, front, rest, hq, hdr⟩)
  obtain ⟨cancelled, hc⟩ := quiet_cancelFuturePages dsch b
  have hf := hc.trans (quiet_prioritize dsch time chip b.cancelFuturePages)
  unfold iterate at h
  dsimp only at h
  generalize b.cancelFuturePages.prioritize time chip = b₁ at h hf
  split_ifs at h with hem
  · obtain ⟨supplied, hr⟩ := quiet_refill dsch chip b₁
    split at h
    all_goals rename_i b₂ hb₂; rw [hb₂] at hr
    · exact ha ((hf.trans hr).trans (quiet_prioritize dsch time chip b₂)) h
    · obtain ⟨rfl, rfl⟩ := Prod.mk.inj h
      refine .inr (.inl ⟨.inr rfl, fun front hmem => ?_, _, _, hf.trans hr⟩)
      grind [cases Quiet]
    · obtain ⟨rfl, rfl⟩ := Prod.mk.inj h
      exact .inl ⟨.inl ⟨_, rfl⟩, (hf.trans hr).queues⟩
    · obtain ⟨rfl, rfl⟩ := Prod.mk.inj h
      exact .inl ⟨.inr rfl, (hf.trans hr).queues⟩
  · exact ha hf h

lemma sameQueues_iterate {b b' : Building} {ending : Ending}
    (h : b.iterate dsch now time chip = (b', ending)) : SameQueues b.state b'.state := by
  rcases iterate_cases dsch now time chip h with ⟨-, hqu⟩ | ⟨-, -, _, _, hq⟩ | ⟨b₁, _, _, _, _, hq, hdr⟩
  · exact hqu
  · exact hq.queues
  · exact hq.queues.trans hdr.queues

end Building

end OneXBts.Bts.Lac
