import OneXBts.Bts.LacPaging

/-!
What building a frame can do to the queue and the trackers.

A directed PDU *waits* while it is in the queue and has not started. The loop is a sequence of two kinds of moves
(`Evolves`): no PDU joins those that wait, or one that waits starts and is marked in the trackers. It ends within the number
of iterations it is given.
-/

namespace OneXBts.Bts.Lac

open Lib Common

/-! ### The PDUs that wait -/

/-- The directed PDUs of a queue that have not started. -/
def waiting (queue : List EncapsulatedPdu) : List DataRequest :=
  (queue.filter fun pdu => !pdu.frameStartSent && pdu.message.mcsb.address.isSome).map (·.message)

lemma mem_waiting :
    r ∈ waiting queue ↔ ∃ pdu ∈ queue, pdu.frameStartSent = false ∧ pdu.message.mcsb.address.isSome ∧ pdu.message = r := by
  simp [waiting, and_assoc]

lemma waiting_subset (h : queue' ⊆ queue) : waiting queue' ⊆ waiting queue := by grind [mem_waiting]

@[simp] lemma waiting_append (queue queue' : List EncapsulatedPdu) :
    waiting (queue ++ queue') = waiting queue ++ waiting queue' := by simp [waiting]

def Unaddressed (supply : List (Option DataRequest)) : Prop :=
  ∀ request ∈ supply, (request.bind (·.mcsb.address)) = none

instance (supply : List (Option DataRequest)) : Decidable (Unaddressed supply) := by unfold Unaddressed; infer_instance

lemma Unaddressed.subset (h : Unaddressed supply) (hsub : supply' ⊆ supply) : Unaddressed supply' :=
  fun req hr => h req (hsub hr)

lemma assemblePdu_ok
    (h : assemblePdu dsch req = .ok pdu) : pdu.message = req ∧ pdu.frameStartSent = false := by
  have he : ∀ bits, sarEncapsulatePdu req bits = .ok pdu →
      pdu.message = req ∧ pdu.frameStartSent = false := by
    intro bits hbi
    grind [sarEncapsulatePdu]
  have hc : (utilityAssembleFCsch req).bind (sarEncapsulatePdu req) = .ok pdu →
      pdu.message = req ∧ pdu.frameStartSent = false := by
    cases utilityAssembleFCsch req with
    | error => intro hb; cases hb
    | ok bits => exact he bits
  unfold assemblePdu at h
  repeat split at h
  all_goals grind

lemma waiting_supplied (hs : Unaddressed supply) (hr : some req ∈ supply)
    (hpdu : assemblePdu dsch req = .ok pdu) : waiting [pdu] = [] := by
  have hn : pdu.message.mcsb.address = none := by
    rw [(assemblePdu_ok hpdu).1]
    exact hs _ hr
  simp [waiting, hn]

/-! ### Reordering -/

lemma reprioritizeFpchQueue_perm (queue : List EncapsulatedPdu) (time : CdmaSystemTime) :
    (reprioritizeFpchQueue queue time).Perm queue := by
  unfold reprioritizeFpchQueue
  grind [List.getElem_cons_eraseIdx_perm]

/-! ### Marking -/

lemma State.markDirectedPduTransmitted_unaddressed {state : State} {now : ℕ} {mcsb : MessageControlStatusBlock}
    (h : mcsb.address = none) : state.markDirectedPduTransmitted now mcsb = .ok state := by
  unfold State.markDirectedPduTransmitted
  split
  · rfl
  · rw [h]

lemma State.markDirectedPduTransmitted_messageQueue {state marked : State} {now : ℕ}
    {mcsb : MessageControlStatusBlock} (h : state.markDirectedPduTransmitted now mcsb = .ok marked) :
    marked.messageQueue = state.messageQueue := by grind [State.markDirectedPduTransmitted]

/-! ### The moves -/

structure Settles (b b' : Building) : Prop where
  waiting : waiting b'.queue ⊆ waiting b.queue
  supply : b'.supply ⊆ b.supply
  messageQueue : b'.state.messageQueue = b.state.messageQueue

/-- The trackers and what started are the same. -/
structure Keeps (b b' : Building) : Prop extends Settles b b' where
  tracker : b'.state.pagingMsgSeqTracker = b.state.pagingMsgSeqTracker
  pending : b'.state.pendingDirectedPdus = b.state.pendingDirectedPdus
  started : b'.started = b.started

structure StartsOne (now : ℕ) (r : DataRequest) (marked : State) (b b' : Building) : Prop extends Settles b b' where
  waits : r ∈ Lac.waiting b.queue
  mark : b.state.markDirectedPduTransmitted now r.mcsb = .ok marked
  tracker : b'.state.pagingMsgSeqTracker = marked.pagingMsgSeqTracker
  pending : b'.state.pendingDirectedPdus = marked.pendingDirectedPdus
  started : b'.started = b.started ++ [r]

inductive Evolves (now : ℕ) : Building → Building → Prop
  | keep {b b' : Building} : Keeps b b' → Evolves now b b'
  | start {b b' : Building} {r : DataRequest} {marked : State} : StartsOne now r marked b b' → Evolves now b b'
  | trans {b b' b'' : Building} : Evolves now b b' → Evolves now b' b'' → Evolves now b b''

lemma Keeps.refl (b : Building) : Keeps b b := ⟨⟨List.Subset.refl _, List.Subset.refl _, rfl⟩, rfl, rfl, rfl⟩

lemma Evolves.settles (h : Evolves now b b') : Settles b b' := by
  induction h with
  | keep h | start h => exact h.toSettles
  | trans => grind [cases Settles, intro Settles]

namespace Building

variable (dsch : DataRequest → Option Bits) (now : ℕ) (time : CdmaSystemTime) (chip : ℕ)

lemma keeps_supplied {queue : List EncapsulatedPdu} {supply : List (Option DataRequest)}
    (hw : Lac.waiting queue ⊆ Lac.waiting b.queue) (hs : supply ⊆ b.supply) :
    Keeps b { b with queue := queue, supply := supply } :=
  ⟨⟨hw, hs, rfl⟩, rfl, rfl, rfl⟩

lemma keeps_reordered {queue : List EncapsulatedPdu} (h : queue ⊆ b.queue) :
    Keeps b { b with queue := queue } :=
  keeps_supplied (waiting_subset h) (List.Subset.refl _)

lemma keeps_reprioritized (b : Building) :
    Keeps b { b with queue := reprioritizeFpchQueue b.queue time } :=
  keeps_reordered (reprioritizeFpchQueue_perm b.queue time).subset

lemma keeps_cancelFuturePages (b : Building) : Keeps b b.cancelFuturePages := by
  unfold cancelFuturePages
  split_ifs
  · exact ⟨⟨waiting_subset (List.filter_subset_self _), List.Subset.refl _, rfl⟩, rfl, rfl, rfl⟩
  · exact .refl b

lemma keeps_prioritize (b : Building) : Keeps b (b.prioritize time chip) := by
  unfold prioritize
  split_ifs
  · exact .refl b
  · exact keeps_reprioritized time b

lemma keeps_injectSlotFirstGpm (b : Building) (hs : Unaddressed b.supply) :
    Keeps b (b.injectSlotFirstGpm dsch chip).1 := by
  unfold injectSlotFirstGpm
  split_ifs
  · exact .refl b
  split
  · exact .refl b
  · rename_i supply hb
    exact keeps_supplied (List.Subset.refl _) (by simp [hb])
  rename_i req supply hb
  have ht : supply ⊆ b.supply := by simp [hb]
  split
  any_goals exact keeps_supplied (List.Subset.refl _) ht
  · rename_i pdu hpdu
    refine keeps_supplied ?_ ht
    have hn := waiting_supplied hs (by simp [hb]) hpdu
    grind [Lac.waiting]

lemma nextPagingPduForFragment_spec (supply : List (Option DataRequest)) :
    (nextPagingPduForFragment dsch chip supply).1 ⊆ supply ∧
    ∀ pdu, (nextPagingPduForFragment dsch chip supply).2 = .ok (some pdu) →
      (nextPagingPduForFragment dsch chip supply).1.length < supply.length ∧
      ∃ req, some req ∈ supply ∧ assemblePdu dsch req = .ok pdu := by
  induction supply with
  | nil => exact ⟨List.Subset.refl _, fun pdu h => nomatch h⟩
  | cons head =>
    cases head with
    | none => exact ⟨List.subset_cons_self _ _, fun pdu h => nomatch h⟩
    | some req =>
      unfold nextPagingPduForFragment
      split_ifs
      · grind
      · cases ha : assemblePdu dsch req <;> grind [Lib.Outcome.bind]

lemma keeps_refill (b : Building) (hsu : Unaddressed b.supply) : Keeps b (b.refill dsch chip).1 := by
  have hs := nextPagingPduForFragment_spec dsch chip b.supply
  unfold refill
  split
  all_goals rename_i supply hn; rw [hn] at hs
  · refine keeps_supplied ?_ hs.1
    obtain ⟨-, req, hr, hpdu⟩ := hs.2 _ rfl
    rw [waiting_append, waiting_supplied hsu hr hpdu, List.append_nil]
    exact List.Subset.refl _
  all_goals exact keeps_supplied (List.Subset.refl _) hs.1

/-- **Draining the front.** If it starts and is directed, it is one that waits. -/
theorem evolves_transmit {b : Building} {front : EncapsulatedPdu} {rest : List EncapsulatedPdu}
    (hq : b.queue = front :: rest) : Evolves now b (b.transmit now front rest).1 := by
  -- what is left of the front has started
  have hrest : ∀ ePdu (encapsulatedDone : Bool), Lac.waiting (if encapsulatedDone then rest else
      { front with frameStartSent := true, ePdu := ePdu } :: rest) ⊆ Lac.waiting b.queue := by
    intro ePdu encapsulatedDone
    have hsub : Lac.waiting rest ⊆ Lac.waiting b.queue := waiting_subset (by simp [hq])
    grind [Lac.waiting]
  unfold transmit
  dsimp only
  -- the first bit of the fragment does not matter here
  generalize hb₁ : (if b.fragment.length = 0 then _ else b : Building) = b₁
  have hsa : b₁.state = b.state ∧ b₁.supply = b.supply ∧ b₁.started = b.started ∧ b₁.queue = b.queue := by
    rw [← hb₁]
    split_ifs <;> exact ⟨rfl, rfl, rfl, rfl⟩
  obtain ⟨hs, hsu, hst, hqueue₁⟩ := hsa
  split
  · exact .keep ⟨⟨by simp [hqueue₁], by simp [hsu], by rw [hs]⟩, by rw [hs], by rw [hs], hst⟩
  rename_i state hm
  unfold drain
  rw [apply_ite Prod.fst, ite_self]
  cases hse : front.frameStartSent with
  | true =>
    rw [hse] at hm
    cases hm
    exact .keep ⟨⟨hrest _ _, by simp [hsu], by rw [hs]⟩, by rw [hs], by rw [hs], by simp [hst]⟩
  | false =>
    rw [hse, hs] at hm
    cases ha : front.message.mcsb.address with
    | none =>
      rw [State.markDirectedPduTransmitted_unaddressed ha] at hm
      cases hm
      exact .keep ⟨⟨hrest _ _, by simp [hsu], rfl⟩, rfl, rfl, by simp [hst]⟩
    | some =>
      have hw : front.message ∈ Lac.waiting b.queue := mem_waiting.2 ⟨front, by simp [hq], hse, by simp [ha], rfl⟩
      exact .start ⟨⟨hrest _ _, by simp [hsu], State.markDirectedPduTransmitted_messageQueue hm⟩, hw, hm,
        rfl, rfl, by simp [hst]⟩

lemma evolves_serve (hs : Unaddressed b.supply) :
    Evolves now b (b.serve dsch now time chip).1 := by
  unfold serve
  split
  · exact .keep (.refl b)
  rename_i front rest hq
  split_ifs
  · have hr := keeps_refill dsch chip b hs
    split
    all_goals rename_i b' hb'; rw [hb'] at hr
    · exact .trans (.keep hr) (.keep (keeps_reprioritized time b'))
    all_goals exact .keep hr
  · exact .keep (.refl b)
  · exact evolves_transmit now hq

/-- **One iteration.** -/
theorem evolves_iterate (hs : Unaddressed b.supply) :
    Evolves now b (b.iterate dsch now time chip).1 := by
  have hf : Evolves now b (b.cancelFuturePages.prioritize time chip) :=
    .trans (.keep (keeps_cancelFuturePages b)) (.keep (keeps_prioritize time chip _))
  unfold iterate
  dsimp only
  generalize b.cancelFuturePages.prioritize time chip = b₁ at hf ⊢
  have hsupply₁ : Unaddressed b₁.supply := hs.subset hf.settles.supply
  split_ifs
  · have hr := keeps_refill dsch chip b₁ hsupply₁
    split
    all_goals rename_i b₂ hb₂; rw [hb₂] at hr
    · have hp := keeps_prioritize time chip b₂
      have hse := evolves_serve dsch now time chip
        ((hsupply₁.subset hr.supply).subset hp.supply)
      exact .trans hf (.trans (.keep hr) (.trans (.keep hp) hse))
    all_goals exact .trans hf (.keep hr)
  · exact .trans hf (evolves_serve dsch now time chip hsupply₁)

/-! ### The loop ends -/

/-- A relation that holds across the preparations for a half-frame and across each iteration of the loop. -/
structure Kept (R : Building → Building → Prop) : Prop where
  refl : ∀ b, R b b
  trans : ∀ {b b' b''}, R b b' → R b' b'' → R b b''
  clear : ∀ b n, R b { b with fragment := [], remainingPayloadBits := n, firstMcsb := none }
  inject : ∀ b chip, R b (b.injectSlotFirstGpm dsch chip).1
  iterate : ∀ b time chip, R b (b.iterate dsch now time chip).1

section Kept

variable {dsch now} {R : Building → Building → Prop} (hk : Kept dsch now R)
include hk

lemma Kept.loop (fuel : ℕ) (b : Building) : R b (b.loop dsch now time chip fuel).1 := by
  induction fuel generalizing b with
  | zero => exact hk.refl b
  | succ fuel ih =>
    have hit := hk.iterate b time chip
    unfold Building.loop
    split
    · rename_i b' hb'
      rw [hb'] at hit
      exact hk.trans hit (ih b')
    · rename_i b' ending _ hb'
      rw [hb'] at hit
      exact hit

lemma Kept.fragment (maxSize : ℕ) (b : Building) : R b (b.buildPagingFragmentRequest dsch now maxSize time chip).1 := by
  unfold buildPagingFragmentRequest
  split_ifs
  · exact hk.refl b
  dsimp only
  have hin := hk.trans (hk.clear b (maxSize - 1)) (hk.inject _ chip)
  split
  all_goals rename_i b₁ hb₁; rw [hb₁] at hin
  · exact hin
  · exact hin
  · have hl := hk.trans hin (hk.loop time chip (b₁.measure + 1) b₁)
    grind

lemma Kept.halfFrames (ha : List ℕ) (b : Building) (frame : Bits)
    (firstMcsb firstAddressedMcsb : Option MessageControlStatusBlock) :
    R b (b.buildHalfFrames dsch now time chip ha frame firstMcsb firstAddressedMcsb).1 := by
  induction ha generalizing b frame firstMcsb firstAddressedMcsb with
  | nil => exact hk.refl b
  | cons hal ha ih =>
    unfold buildHalfFrames
    dsimp only
    have hh := hk.fragment (if hal = 0 then time else
        systemTimeFromChips (min (chip + fpchHalfFrameChips * hal) (2 ^ 64 - 1)))
      (min (chip + fpchHalfFrameChips * hal) (2 ^ 64 - 1)) fpchHalfFrameBits9600 b
    split
    all_goals rename_i hb'; rw [hb'] at hh
    any_goals exact hk.trans hh (ih _ _ _ _)
    · exact hh
    · exact hh

/-- **The rule for a frame.** -/
theorem Kept.frame (maxSize : ℕ) (b : Building) : R b (b.buildPagingFrameRequest dsch now maxSize time chip).1 := by
  unfold buildPagingFrameRequest
  split_ifs
  · exact hk.fragment time chip maxSize b
  · exact hk.refl b
  · exact hk.halfFrames time chip _ b _ _ _

end Kept

/-- A frame is a sequence of moves. -/
lemma kept_evolves : Kept dsch now fun b b' => Unaddressed b.supply → Evolves now b b' where
  refl b _ := .keep (.refl b)
  trans h h' hs := .trans (h hs) (h' (hs.subset (h hs).settles.supply))
  clear _ _ _ := .keep ⟨⟨List.Subset.refl _, List.Subset.refl _, rfl⟩, rfl, rfl, rfl⟩
  inject b chip hs := .keep (keeps_injectSlotFirstGpm dsch chip b hs)
  iterate _ time chip hs := evolves_iterate dsch now time chip hs

end Building

end OneXBts.Bts.Lac
