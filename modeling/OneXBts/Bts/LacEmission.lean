import OneXBts.Bts.LacArq
import OneXBts.Bts.LacDraining

/-!
What becomes of the PDUs of the paging channel queue while a frame is built.

The bits that go out are those of the PDUs in the order in which they start, each in one piece. A `Ledger` has the PDUs
cancelled, supplied and completed and the bits that went out, and `Flow` says that it balances for every frame built
without an error. After an error the queue, which was taken out of the state, is gone.
-/

namespace OneXBts.Bts.Lac

open Lib Common List

/-! ### The balance -/

abbrev Item := DataRequest × Bits

def EncapsulatedPdu.item (pdu : EncapsulatedPdu) : Item := (pdu.message, pdu.ePdu)

def whole (sent : Bits) : List EncapsulatedPdu → List Item
  | [] => []
  | front :: rest => (front.message, sent ++ front.ePdu) :: rest.map EncapsulatedPdu.item

lemma whole_nil (queue : List EncapsulatedPdu) : whole [] queue = queue.map EncapsulatedPdu.item := by
  cases queue <;> rfl

lemma whole_perm (hp : (queue ++ added).Perm (removed ++ queue'))
    (hf : sent ≠ [] → ∃ front rest rest', queue = front :: rest ∧ queue' = front :: rest') :
    (whole sent queue ++ added.map EncapsulatedPdu.item).Perm
      (removed.map EncapsulatedPdu.item ++ whole sent queue') := by
  by_cases hs : sent = []
  · subst hs
    rw [whole_nil, whole_nil, ← map_append, ← map_append]
    exact hp.map _
  obtain ⟨front, rest, rest', rfl, rfl⟩ := hf hs
  rw [cons_append] at hp
  have hrest : (rest ++ added).Perm (removed ++ rest') := (hp.trans perm_middle).cons_inv
  rw [whole, whole, cons_append, ← map_append]
  grind

/-- A PDU that was sent in part is in front, and has started. -/
def Held (sent : Bits) (queue : List EncapsulatedPdu) : Prop :=
  sent ≠ [] → ∃ front rest, queue = front :: rest ∧ front.frameStartSent = true

/-- The PDUs that were cancelled and supplied, those that were sent to their last bit, and the bits that were sent. -/
structure Ledger where
  cancelled : List EncapsulatedPdu
  supplied : List EncapsulatedPdu
  completed : List Item
  emitted : Bits

def Ledger.append (l l' : Ledger) : Ledger :=
  ⟨l.cancelled ++ l'.cancelled, l.supplied ++ l'.supplied, l.completed ++ l'.completed, l.emitted ++ l'.emitted⟩

/-- **The balance.** The bits that were sent are those of the completed PDUs in order and then of the one in front; and
every PDU that was queued or supplied was cancelled or completed, or is queued with the bits of it that were not sent. -/
structure Flow (dsch : DataRequest → Option Bits) (sent : Bits) (b : Building) (sent' : Bits) (b' : Building) (l : Ledger) :
    Prop where
  held : Held sent' b'.queue
  bits : sent ++ l.emitted = (l.completed.map Prod.snd).flatten ++ sent'
  conserved : (whole sent b.queue ++ l.supplied.map EncapsulatedPdu.item).Perm
    (l.cancelled.map EncapsulatedPdu.item ++ (l.completed ++ whole sent' b'.queue))
  cancelled : ∀ pdu ∈ l.cancelled, b.state.cancelFutureGeneralPages = true ∧ pdu.isCancelableFutureGeneralPage = true
  supplied : ∀ pdu ∈ l.supplied, ∃ request, some request ∈ b.supply ∧ assemblePdu dsch request = .ok pdu
  supply : b'.supply ⊆ b.supply
  flag : b'.state.cancelFutureGeneralPages = true → b.state.cancelFutureGeneralPages = true

section Flow

variable {dsch : DataRequest → Option Bits} {sent sent' sent'' : Bits} {b b' b'' : Building} {l l' : Ledger}
  {cancelled supplied : List EncapsulatedPdu}

lemma Flow.trans (h : Flow dsch sent b sent' b' l) (h' : Flow dsch sent' b' sent'' b'' l') :
    Flow dsch sent b sent'' b'' (l.append l') where
  held := h'.held
  bits := by
    calc sent ++ (l.emitted ++ l'.emitted) = (sent ++ l.emitted) ++ l'.emitted := (append_assoc ..).symm
      _ = (l.completed.map Prod.snd).flatten ++ (sent' ++ l'.emitted) := by rw [h.bits, append_assoc]
      _ = _ := by rw [h'.bits]; simp [Ledger.append]
  conserved := by
    refine List.perm_iff_count.2 fun item => ?_
    have hc := h.conserved.count_eq item
    have hc' := h'.conserved.count_eq item
    grind [Ledger.append]
  cancelled pdu hpdu := by grind [cases Flow, Ledger.append]
  supplied pdu hpdu := by grind [cases Flow, Ledger.append]
  supply := List.Subset.trans h'.supply h.supply
  flag hf := h.flag (h'.flag hf)

lemma Flow.of_quiet (hh : Held sent b.queue) (h : Quiet dsch b b' cancelled supplied) :
    Flow dsch sent b sent b' ⟨cancelled, supplied, [], []⟩ := by
  -- one that was sent in part stays in front
  have hf : sent ≠ [] → ∃ front rest rest', b.queue = front :: rest ∧ b'.queue = front :: rest' ∧
      front.frameStartSent = true := by
    intro hs
    obtain ⟨front, rest, hq, hst⟩ := hh hs
    obtain ⟨rest', hq'⟩ := List.head?_eq_some_iff.1 (h.front front (by rw [hq]; rfl) hst)
    exact ⟨front, rest, rest', hq, hq', hst⟩
  refine ⟨fun hs => ?_, by simp, ?_, h.cancelled, h.supplied, h.supply, h.flag⟩
  · grind
  · refine whole_perm h.perm fun hs => ?_
    grind

variable (dsch) in
lemma Flow.of_drains (h : Drains b b' front rest ending) (sent : Bits) :
    ∃ sent' l, Flow dsch sent b sent' b' l ∧ (∀ item ∈ l.completed, item = (front.message, sent ++ front.ePdu)) ∧
      l.emitted = front.ePdu.take b.remainingPayloadBits ∧
      sent' = if front.ePdu.length ≤ b.remainingPayloadBits then [] else sent ++ front.ePdu.take b.remainingPayloadBits := by
  have hl := h.left
  by_cases hf : front.ePdu.length ≤ b.remainingPayloadBits
  · rw [if_pos hf] at hl
    refine ⟨[], ⟨[], [], [(front.message, sent ++ front.ePdu)], front.ePdu⟩, ⟨fun hne => absurd rfl hne, by simp, ?_,
      fun _ hn => absurd hn not_mem_nil, fun _ hn => absurd hn not_mem_nil,
      by rw [h.supply]; exact List.Subset.refl _, fun hfl => h.flag ▸ hfl⟩, fun item => List.mem_singleton.1,
      (take_of_length_le hf).symm, (if_pos hf).symm⟩
    rw [h.queue, hl, whole, whole_nil]
    simp
  · rw [if_neg hf] at hl
    refine ⟨sent ++ front.ePdu.take b.remainingPayloadBits, ⟨[], [], [], front.ePdu.take b.remainingPayloadBits⟩,
      ⟨fun _ => ⟨_, _, hl, rfl⟩, rfl, ?_, fun _ hn => absurd hn not_mem_nil,
        fun _ hn => absurd hn not_mem_nil, by rw [h.supply]; exact List.Subset.refl _,
        fun hfl => h.flag ▸ hfl⟩, fun _ hn => absurd hn not_mem_nil, rfl, (if_neg hf).symm⟩
    rw [h.queue, hl, whole, whole]
    simp

lemma Flow.refl (hh : Held sent b.queue) : Flow dsch sent b sent b ⟨[], [], [], []⟩ := .of_quiet hh (.refl dsch b)

end Flow

/-! ### A half-frame -/

def halfFrame (size : ℕ) (half : UInt8 × Bits) : Bits := half.1 :: (half.2 ++ blank (size - 1 - half.2.length))

structure Filled (size : ℕ) (b : Building) (emitted : Bits) : Prop where
  room : emitted.length + b.remainingPayloadBits = size - 1
  shape : b.fragment = [] ∧ b.firstMcsb = none ∧ emitted = [] ∨
    (∃ sci, b.fragment = sci :: emitted) ∧ b.firstMcsb.isSome = true

section Filled

variable {dsch : DataRequest → Option Bits} {size : ℕ} {b b' : Building} {emitted : Bits}

lemma Filled.rest (h : Filled size b emitted) (hq : Quiet dsch b b' cancelled supplied) : Filled size b' emitted := by
  constructor
  · rw [hq.remaining]
    exact h.room
  · rw [hq.fragment, hq.firstMcsb]
    exact h.shape

lemma Filled.drain {rest : List EncapsulatedPdu} {ending : Ending}
    (h : Filled size b emitted) (hdr : Drains b b' front rest ending) :
    Filled size b' (emitted ++ front.ePdu.take b.remainingPayloadBits) := by
  constructor
  · have hr := h.room
    rw [hdr.remaining, length_append, length_take]
    omega
  grind [cases Filled, cases Drains]

end Filled

namespace Building

variable (dsch : DataRequest → Option Bits) (now : ℕ) (time : CdmaSystemTime) (chip : ℕ)

end Building

/-! ### A frame -/

/-- The data of a frame are half-frames of some size, and these are the bits of PDUs in them. -/
def Frames (size : ℕ) (data emitted : Bits) : Prop :=
  ∃ halves : List (UInt8 × Bits), (∀ half ∈ halves, half.2.length ≤ size - 1) ∧ data = halves.flatMap (halfFrame size) ∧
    emitted = halves.flatMap Prod.snd

lemma Frames.nil (size : ℕ) : Frames size [] [] := ⟨[], fun _ hn => absurd hn not_mem_nil, rfl, rfl⟩

lemma Frames.cons (sci : UInt8) (hf : emitted.length ≤ size - 1)
    (h : Frames size data emitted') : Frames size (halfFrame size (sci, emitted) ++ data) (emitted ++ emitted') := by
  obtain ⟨ha, hall, rfl, rfl⟩ := h
  refine ⟨(sci, emitted) :: ha, ?_, rfl, rfl⟩
  rintro half (_ | ⟨_, hh⟩)
  · exact hf
  · exact hall half hh

namespace Building

variable (dsch : DataRequest → Option Bits) (now : ℕ) (time : CdmaSystemTime) (chip : ℕ)

end Building

/-! ### The queue after a call -/

def handed : Outcome LacError MacDataRequest → Bits
  | .ok request => request.data
  | _ => []

end OneXBts.Bts.Lac
