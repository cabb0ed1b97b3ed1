import OneXBts.Bts.ForwardRebinding

/-!
The order of the forward queue.

To follow a packet through the queue it is given a place: the number of its arrival, and below that the number of the part
when it is split. The places do not take part in what the queue does (`erase_apply`).
-/

namespace OneXBts.Bts.Hrpd

open Lib Common Common.HrpdTraffic HrpdForwardScheduler List Option PreparedForwardTrafficPacket

/-! ### Classes and places -/

inductive QueueClass where
  | control
  | repair
  | normal
  deriving DecidableEq, Repr

def PreparedForwardTrafficPacket.queueClass (pkt : PreparedForwardTrafficPacket) : QueueClass :=
  if pkt.defaultSignaling.any (fun signaling => !isDefaultPacketDataPayload signaling) then .control
  else if pkt.packet.highPriority then .repair
  else .normal

/-- A place is before another one, and so are all their parts. -/
def Before : List ℕ → List ℕ → Prop
  | a :: s, b :: t => a < b ∨ a = b ∧ Before s t
  | _, _ => False

section Before

variable {p q : List ℕ}

lemma Before.append (h : Before p q) (s t : List ℕ) : Before (p ++ s) (q ++ t) := by
  induction p generalizing q with
  | nil => exact h.elim
  | cons => cases q <;> grind [Before]

lemma Before.part_left (h : Before p q) (i : ℕ) : Before (p ++ [i]) q := by simpa using h.append [i] []

lemma Before.part_right (h : Before p q) (i : ℕ) : Before p (q ++ [i]) := by simpa using h.append [] [i]

lemma before_parts (p : List ℕ) (h : i < j) : Before (p ++ [i]) (p ++ [j]) := by
  induction p with
  | nil => exact .inl h
  | cons _ p ih => exact .inr ⟨rfl, ih⟩

end Before

structure Entry where
  place : List ℕ
  pkt : PreparedForwardTrafficPacket

/-- A packet that was started, with its place. -/
structure Started where
  place : List ℕ
  start : Start

/-! ### The queue with places -/

/-- The scheduler with a place for each packet of its queue, and the number of arrivals. -/
structure PlacedScheduler where
  queue : List Entry
  active : List HarqState
  nextPacketId : ℕ
  harqBus : Option HarqBus
  arrivals : ℕ

/-- The operations on the queue. Whatever else happens to the scheduler changes only its active packets. -/
inductive QueueOp where
  | enqueue (packet : ForwardTrafficPacket)
  | promote (slot : ℕ) (governing : UInt8 → Option UInt8)
  | purgeMac (macIndex : UInt8)
  | other (active : List HarqState)

def HrpdForwardScheduler.apply (s : HrpdForwardScheduler) : QueueOp → HrpdForwardScheduler × Option Start
  | .enqueue packet => (s.enqueue packet, none)
  | .promote slot governing => s.promoteQueueWithDrc slot governing
  | .purgeMac macIndex => ((s.purgeMac macIndex).1, none)
  | .other active => ({ s with active := active }, none)

namespace PlacedScheduler

def new : PlacedScheduler := ⟨[], [], 1, none, 0⟩

def erase (t : PlacedScheduler) : HrpdForwardScheduler :=
  ⟨t.queue.map fun entry => entry.pkt, t.active, t.nextPacketId, t.harqBus⟩

def enqueue (t : PlacedScheduler) (packet : ForwardTrafficPacket) : PlacedScheduler :=
  let pkt := PreparedForwardTrafficPacket.new packet
  let arrived := { t with arrivals := t.arrivals + 1 }
  let entry : Entry := ⟨[t.arrivals], pkt⟩
  if pkt.rtcAckSequenceNumber.any (t.erase.hasPendingRtcAck pkt.packet.macIndex) then arrived
  else if pkt.defaultSignaling.any (fun signaling => !isDefaultPacketDataPayload signaling) then
    let insertAt := t.erase.position fun queued => queued.defaultSignaling.isNone
    let stale := (t.erase.queue.take insertAt).findIdx? (isStaleGrant pkt)
    match if pkt.defaultSignaling.any isRtcMacGrantSignaling then stale else none with
    | some stale => { arrived with queue := t.queue.modify stale fun queued => { queued with pkt := pkt } }
    | none => { arrived with queue := t.queue.insertIdx insertAt entry }
  else if pkt.packet.highPriority then
    let insertAt := t.erase.position fun queued => queued.defaultSignaling.isNone ∧ ¬ queued.packet.highPriority
    { arrived with queue := t.queue.insertIdx insertAt entry }
  else { arrived with queue := t.queue ++ [entry] }

structure Scanned where
  kept : List Entry
  start : Option (Entry × Start)
  behind : List Entry
  nextPacketId : ℕ

section Scan

variable (slot : ℕ) (governing : UInt8 → Option UInt8) (active : List HarqState)

def scanEntries (deferredMacs : List UInt8) (nextPacketId : ℕ) : List Entry → Scanned
  | [] => ⟨[], none, [], nextPacketId⟩
  | entry :: queue =>
    if entry.pkt.packet.macIndex ∈ deferredMacs then
      let rest := scanEntries deferredMacs nextPacketId queue
      { rest with kept := entry :: rest.kept }
    else
      match attempt slot governing active nextPacketId entry.pkt with
      | .defer =>
        let rest := scanEntries (entry.pkt.packet.macIndex :: deferredMacs) nextPacketId queue
        { rest with kept := entry :: rest.kept }
      | .drop nextPacketId' => scanEntries deferredMacs nextPacketId' queue
      | .start start nextPacketId' => ⟨[], some (entry, start), queue, nextPacketId'⟩

end Scan

def parts (place : List ℕ) (remainders : List PreparedForwardTrafficPacket) : List Entry :=
  remainders.zipIdx.map fun part => ⟨place ++ [part.2 + 1], part.1⟩

def promote (t : PlacedScheduler) (slot : ℕ) (governing : UInt8 → Option UInt8) : PlacedScheduler × Option Started :=
  let scanned := scanEntries slot governing t.active [] t.nextPacketId t.queue
  let remainders := (scanned.start.map fun x => parts x.1.place x.2.remainders).getD []
  ({ t with
      queue := scanned.kept ++ remainders ++ scanned.behind
      active := t.active ++ (scanned.start.map fun x => x.2.state).toList
      nextPacketId := scanned.nextPacketId },
    scanned.start.map fun x => ⟨x.1.place ++ [0], x.2⟩)

def purgeMac (t : PlacedScheduler) (macIndex : UInt8) : PlacedScheduler :=
  { t with
    queue := t.queue.filter fun entry => entry.pkt.packet.macIndex ≠ macIndex
    active := t.active.filter fun state => state.packet.macIndex ≠ macIndex
    harqBus := t.harqBus.map fun bus => (bus.purgeMacQueues macIndex).1 }

def apply (t : PlacedScheduler) : QueueOp → PlacedScheduler × Option Started
  | .enqueue packet => (t.enqueue packet, none)
  | .promote slot governing => t.promote slot governing
  | .purgeMac macIndex => (t.purgeMac macIndex, none)
  | .other active => ({ t with active := active }, none)

/-! ### The places do not matter -/

section Erase

variable (t : PlacedScheduler)

lemma map_parts (place : List ℕ) (remainders : List PreparedForwardTrafficPacket) :
    (parts place remainders).map (fun entry => entry.pkt) = remainders := by
  unfold parts
  rw [List.map_map]
  exact List.zipIdx_map_fst 0 remainders

lemma map_insertIdx (l : List Entry) (i : ℕ) (entry : Entry) :
    (l.insertIdx i entry).map (fun entry => entry.pkt) = (l.map fun entry => entry.pkt).insertIdx i entry.pkt := by
  rw [List.map_insertIdx]

lemma map_modify (l : List Entry) (i : ℕ) (pkt : PreparedForwardTrafficPacket) :
    (l.modify i fun queued => { queued with pkt := pkt }).map (fun entry => entry.pkt) =
      (l.map fun entry => entry.pkt).set i pkt := by
  induction l generalizing i with
  | nil => simp
  | cons entry l ih =>
    cases i with
    | zero => simp
    | succ => simp [ih]

lemma erase_enqueue (packet : ForwardTrafficPacket) : (t.enqueue packet).erase = t.erase.enqueue packet := by
  grind [enqueue, HrpdForwardScheduler.enqueue, enqueuePrepared, erase, map_modify, map_insertIdx]

variable {slot : ℕ} {governing : UInt8 → Option UInt8} {active : List HarqState}

lemma erase_scan (later : List UInt8) (nextId : ℕ) (queue : List Entry) :
    scan slot governing active later nextId (queue.map fun entry => entry.pkt) =
      let scanned := scanEntries slot governing active later nextId queue
      ⟨scanned.kept.map fun entry => entry.pkt, scanned.start.map fun x => x.2,
        scanned.behind.map fun entry => entry.pkt, scanned.nextPacketId⟩ := by
  induction queue generalizing later nextId with
  | nil => rfl
  | cons => grind [scan, scanEntries]

lemma erase_promote : ((t.promote slot governing).1.erase, (t.promote slot governing).2.map Started.start) =
    t.erase.promoteQueueWithDrc slot governing := by
  unfold promote promoteQueueWithDrc
  rw [show t.erase.queue = t.queue.map fun entry => entry.pkt from rfl, erase_scan]
  dsimp only [erase]
  cases (scanEntries slot governing t.active [] t.nextPacketId t.queue).start with
  | none => simp
  | some => simp [map_parts]

/-- **Without the places, the operations are those of the scheduler.** -/
theorem erase_apply (op : QueueOp) :
    ((t.apply op).1.erase, (t.apply op).2.map Started.start) = t.erase.apply op := by
  cases op with
  | enqueue packet => exact Prod.ext (erase_enqueue t packet) rfl
  | promote => exact erase_promote t
  | purgeMac =>
    simp only [erase, HrpdForwardScheduler.apply, HrpdForwardScheduler.purgeMac, List.filter_map, Option.map_map]
    rfl
  | other => rfl

end Erase

end PlacedScheduler

/-! ### The order of the queue -/

structure View where
  mac : UInt8
  cls : QueueClass
  silent : Bool
  place : List ℕ

/-- Two packets of one MAC index and class are in the order of their places. -/
def InPlace (a b : View) : Prop := a.mac = b.mac → a.cls = b.cls → Before a.place b.place

/-- Two packets in the order of the queue: by place, no control packet behind one without signaling, and no repair behind a
normal one without signaling. -/
structure Precedes (a b : View) : Prop where
  places : InPlace a b
  control : a.silent = true → b.cls ≠ .control
  repair : a.silent = true → a.cls = .normal → b.cls ≠ .repair

/-- **The order of the queue**, and of what was started from it. -/
structure Ordered (queue starts : List View) (arrivals : ℕ) : Prop where
  queued : queue.Pairwise Precedes
  silent : ∀ v ∈ queue, v.silent = true → v.cls ≠ .control
  arrived : ∀ v ∈ queue ++ starts, Before v.place [arrivals]
  across : ∀ x ∈ starts, ∀ v ∈ queue, InPlace x v
  started : starts.Pairwise InPlace

section Ordered

variable {queue starts front back : List View} {v : View} {arrivals : ℕ}

lemma ordered_nil : Ordered [] [] 0 := ⟨.nil, by simp, by simp, by simp, .nil⟩

lemma Before.arrival (h : Before p [n]) : Before p [n + 1] := by cases p <;> grind [Before]

lemma Ordered.arrive (h : Ordered queue starts arrivals) : Ordered queue starts (arrivals + 1) :=
  ⟨h.queued, h.silent, fun v hv => (h.arrived v hv).arrival, h.across, h.started⟩

lemma Ordered.insert (h : Ordered (front ++ back) starts arrivals) (hp : v.place = [arrivals])
    (hsi : v.silent = true → v.cls ≠ .control)
    (hf : ∀ a ∈ front, a.silent = true → v.cls ≠ .control ∧ (a.cls = .normal → v.cls ≠ .repair))
    (hba : ∀ b ∈ back, b.cls ≠ v.cls ∧ b.cls ≠ .control ∧ (v.silent = true → v.cls = .normal → b.cls ≠ .repair)) :
    Ordered (front ++ v :: back) starts (arrivals + 1) := by
  have hmem : ∀ {a : View}, a ∈ front ++ v :: back → a = v ∨ a ∈ front ++ back := by
    intro a ha
    simp only [mem_append, mem_cons] at ha ⊢
    tauto
  obtain ⟨hin, hout, hac⟩ := pairwise_append.1 h.queued
  refine ⟨?_, fun a ha => ?_, fun a ha => ?_, fun x hx a ha => ?_, h.started⟩
  · refine pairwise_append.2 ⟨hin, pairwise_cons.2 ⟨fun b hb => ?_, hout⟩, fun a ha b hb => ?_⟩
    · obtain ⟨hcls, hc, hr⟩ := hba b hb
      exact ⟨fun _ heq => absurd heq.symm hcls, fun _ => hc, hr⟩
    rcases mem_cons.1 hb with rfl | hb
    · refine ⟨fun _ _ => ?_, fun hs => (hf a ha hs).1, fun hs => (hf a ha hs).2⟩
      grind [cases Ordered]
    · exact hac a ha b hb
  · rcases hmem ha with rfl | ha
    · exact hsi
    · exact h.silent a ha
  · rcases mem_append.1 ha with ha | ha
    · rcases hmem ha with rfl | ha
      · rw [hp]
        exact .inl (Nat.lt_succ_self arrivals)
      · exact (h.arrived a (mem_append_left _ ha)).arrival
    · exact (h.arrived a (mem_append_right _ ha)).arrival
  grind [cases Ordered, InPlace]

lemma Ordered.behind (h : Ordered (front ++ v :: back) starts arrivals) (hs : v.silent = true) :
    (∀ b ∈ v :: back, b.cls ≠ .control) ∧ (v.cls = .normal → ∀ b ∈ v :: back, b.cls ≠ .repair) := by
  obtain ⟨-, hrest, -⟩ := pairwise_append.1 h.queued
  have hp := (pairwise_cons.1 hrest).1
  grind [cases Ordered, cases Precedes]

lemma Ordered.sublist (h : Ordered queue starts arrivals) (hsub : queue'.Sublist queue) :
    Ordered queue' starts arrivals where
  queued := h.queued.sublist hsub
  silent := fun v hv => h.silent v (hsub.subset hv)
  arrived := fun v hv => h.arrived v ((hsub.append_right starts).subset hv)
  across := fun x hx v hv => h.across x hx v (hsub.subset hv)
  started := h.started

def View.part (v : View) (i : ℕ) : View := { v with place := v.place ++ [i] }

/-- **A packet is started, and what is left over of it takes its place.** Of the packets in front, those that stay are of
another MAC index. -/
theorem Ordered.start (h : Ordered (front ++ v :: back) starts arrivals) (hk : kept.Sublist front)
    (hmac : ∀ a ∈ kept, a.mac ≠ v.mac) (n : ℕ) :
    Ordered (kept ++ (List.range n).map (fun i => v.part (i + 1)) ++ back) (starts ++ [v.part 0]) arrivals := by
  obtain ⟨hin, hrest, hac⟩ := pairwise_append.1 h.queued
  obtain ⟨hbeh, hout⟩ := pairwise_cons.1 hrest
  have hv : v ∈ front ++ v :: back := mem_append_right _ mem_cons_self
  -- what holds of the packet holds of its parts
  have hpa : ∀ {b : View}, Precedes v b → ∀ i, Precedes (v.part i) b := fun hb i =>
    ⟨fun hm hc => (hb.places hm hc).part_left i, hb.control, hb.repair⟩
  have hbe : ∀ {x : View}, InPlace x v → ∀ i, InPlace x (v.part i) := fun hx i hm hc => (hx hm hc).part_right i
  have hmem : ∀ {a : View}, a ∈ kept ++ (List.range n).map (fun i => v.part (i + 1)) ++ back →
      a ∈ front ++ v :: back ∨ ∃ i, a = v.part (i + 1) := by
    intro a ha
    grind
  have har : ∀ i, Before (v.part i).place [arrivals] := (h.arrived v (mem_append_left _ hv)).part_left
  refine ⟨?_, fun a ha => ?_, fun a ha => ?_, ?_, ?_⟩
  · refine pairwise_append.2 ⟨pairwise_append.2 ⟨hin.sublist hk, ?_, ?_⟩, hout, fun a ha b hb => ?_⟩
    · refine pairwise_map.2 (pairwise_lt_range.imp fun {i j} hij => ?_)
      exact ⟨fun _ _ => before_parts _ (by omega), h.silent v hv, fun _ hn hr => by simp_all [View.part]⟩
    · intro a ha b hb
      obtain ⟨i, -, rfl⟩ := mem_map.1 hb
      have hp := hac a (hk.subset ha) v mem_cons_self
      exact ⟨fun hm => absurd hm (hmac a ha), hp.control, hp.repair⟩
    grind
  · rcases hmem ha with ha | ⟨i, rfl⟩
    · exact h.silent a ha
    · exact h.silent v hv
  · rcases mem_append.1 ha with ha | ha
    · rcases hmem ha with ha | ⟨i, rfl⟩
      · exact h.arrived a (mem_append_left _ ha)
      · exact har _
    rcases mem_append.1 ha with ha | ha
    · exact h.arrived a (mem_append_right _ ha)
    · rw [mem_singleton.1 ha]
      exact har _
  · intro x hx a ha
    rcases mem_append.1 hx with hx | hx
    · rcases hmem ha with ha | ⟨i, rfl⟩
      · exact h.across x hx a ha
      · exact hbe (h.across x hx v hv) _
    rw [mem_singleton.1 hx]
    rcases mem_append.1 ha with ha | ha
    · rcases mem_append.1 ha with ha | ha
      · exact fun hm => absurd hm.symm (hmac a ha)
      · obtain ⟨i, -, rfl⟩ := mem_map.1 ha
        exact fun _ _ => before_parts _ (Nat.succ_pos i)
    · exact (hpa (hbeh a ha) 0).places
  · refine pairwise_append.2 ⟨h.started, pairwise_singleton _ _, fun x hx y hy => ?_⟩
    rw [mem_singleton.1 hy]
    exact hbe (h.across x hx v hv) 0

end Ordered

/-! ### Every operation keeps the order -/

def Entry.view (entry : Entry) : View :=
  ⟨entry.pkt.packet.macIndex, entry.pkt.queueClass, entry.pkt.defaultSignaling.isNone, entry.place⟩

def Started.view (x : Started) : View :=
  ⟨x.start.queued.packet.macIndex, x.start.queued.queueClass, x.start.queued.defaultSignaling.isNone, x.place⟩

/-- What was found in a packet is what is in its session packets. -/
def PreparedForwardTrafficPacket.IsParsed (pkt : PreparedForwardTrafficPacket) : Prop :=
  pkt = .fromParts pkt.packet pkt.sessionPackets

section Parts

variable {pkt : PreparedForwardTrafficPacket}

lemma queueClass_of_silent (h : pkt.defaultSignaling = none) :
    pkt.queueClass = if pkt.packet.highPriority then .repair else .normal := by simp [queueClass, h]

/-- **The packets that are left over** when one is split are of the same MAC index and class, and without signaling. -/
theorem rebind_remainders (hp : pkt.IsParsed) (h : rebind pkt atRate = some rebound) :
    ∀ part ∈ rebound.2, part.IsParsed ∧ part.packet.macIndex = pkt.packet.macIndex ∧
      part.queueClass = pkt.queueClass ∧ part.defaultSignaling.isNone = pkt.defaultSignaling.isNone := by
  unfold rebind at h
  split at h
  · split at h
    · split at h <;> cases h
      simp
    split at h
    · split at h <;> cases h
      simp
    rename_i hs
    split at h <;> cases h
    rename_i first payloads hpa
    obtain ⟨pkts, hpac, hr⟩ := bind_eq_some_iff.1 hpa
    have hf := (rebuildOrSplitFormatBSessionPackets_greedy hr).all
    have hn : defaultSignalingPacketFromSessionPackets pkts = none := by
      have := hs
      rw [hp, hpac] at this
      exact this
    intro part hpart
    obtain ⟨piece, hpi, rfl⟩ := mem_map.1 hpart
    have hsi : (pkt.repacked piece.1 piece.2).defaultSignaling = none := by
      refine List.findSome?_eq_none_iff.2 fun packet hpack => ?_
      refine defaultSignalingPacketFromSessionPackets_none hn packet ?_
      grind
    refine ⟨rfl, rfl, ?_, by rw [hsi, hs]⟩
    rw [queueClass_of_silent hsi, queueClass_of_silent hs]
    rfl
  · cases h
    simp

end Parts

namespace PlacedScheduler

section Apply

variable {t : PlacedScheduler} {starts : List Started} {slot : ℕ} {governing : UInt8 → Option UInt8}
  {active : List HarqState}

structure Kept (t : PlacedScheduler) (starts : List Started) : Prop where
  ordered : Ordered (t.queue.map Entry.view) (starts.map Started.view) t.arrivals
  parsed : ∀ entry ∈ t.queue, entry.pkt.IsParsed

lemma scanEntries_none {nextId : ℕ} {queue : List Entry}
    (h : (scanEntries slot governing active later nextId queue).start = none) :
    (scanEntries slot governing active later nextId queue).kept.Sublist queue ∧
      (scanEntries slot governing active later nextId queue).behind = [] := by
  induction queue generalizing later nextId with
  | nil => exact ⟨.refl _, rfl⟩
  | cons =>
    rw [scanEntries] at h ⊢
    split at h <;> grind

lemma scanEntries_some {later : List UInt8} {nextId : ℕ} {queue : List Entry} {x : Entry × Start}
    (h : (scanEntries slot governing active later nextId queue).start = some x) :
    ∃ before, queue = before ++ x.1 :: (scanEntries slot governing active later nextId queue).behind ∧
      (scanEntries slot governing active later nextId queue).kept.Sublist before ∧
      (∀ a ∈ (scanEntries slot governing active later nextId queue).kept,
        a.pkt.packet.macIndex ≠ x.1.pkt.packet.macIndex) ∧
      x.1.pkt.packet.macIndex ∉ later ∧ x.2.queued = x.1.pkt ∧ Binding slot governing active x.2 := by
  induction queue generalizing later nextId with
  | nil => cases h
  | cons entry queue ih =>
    rw [scanEntries] at h ⊢
    split at h
    · rename_i hde
      rw [if_pos hde]
      obtain ⟨before, hq, hk, hmac, hnot, hs⟩ := ih h
      refine ⟨entry :: before, congrArg (entry :: ·) hq, hk.cons_cons entry, ?_, hnot, hs⟩
      exact forall_mem_cons.2 ⟨fun heq => hnot (heq ▸ hde), hmac⟩
    · rename_i hde
      rw [if_neg hde]
      split at h
      · obtain ⟨before, hq, hk, hmac, hnot, hs⟩ := ih h
        rw [mem_cons, not_or] at hnot
        refine ⟨entry :: before, congrArg (entry :: ·) hq, hk.cons_cons entry, ?_, hnot.2, hs⟩
        exact forall_mem_cons.2 ⟨Ne.symm hnot.1, hmac⟩
      · obtain ⟨before, hq, hk, hmac, hnot, hs⟩ := ih h
        exact ⟨entry :: before, congrArg (entry :: ·) hq, hk.cons entry, hmac, hnot, hs⟩
      rename_i ha
      cases h
      obtain ⟨hqu, hb⟩ := attempt_start ha
      exact ⟨[], rfl, .refl _, by simp, hde, hqu, hb⟩

lemma view_parts {entry : Entry} {remainders : List PreparedForwardTrafficPacket}
    (h : ∀ part ∈ remainders, part.packet.macIndex = entry.pkt.packet.macIndex ∧
      part.queueClass = entry.pkt.queueClass ∧ part.defaultSignaling.isNone = entry.pkt.defaultSignaling.isNone) :
    (parts entry.place remainders).map Entry.view =
      (List.range remainders.length).map fun i => entry.view.part (i + 1) := by
  unfold parts
  rw [List.map_map]
  refine List.ext_getElem (by simp) fun i hi hi' => ?_
  grind [Entry.view, View.part]

lemma Kept.promote (h : Kept t starts) :
    Kept (t.promote slot governing).1 (starts ++ (t.promote slot governing).2.toList) := by
  unfold PlacedScheduler.promote
  dsimp only
  cases hs : (scanEntries slot governing t.active [] t.nextPacketId t.queue).start with
  | none =>
    obtain ⟨hk, hb⟩ := scanEntries_none hs
    simp only [map_none, getD_none, toList_none, append_nil, hb]
    exact ⟨h.ordered.sublist (hk.map _), fun entry he => h.parsed entry (hk.subset he)⟩
  | some x =>
    obtain ⟨before, hq, hk, hmac, -, hqu, -, atDrc, atRate, rebound, _, -, -, -, hr, hre, -⟩ := scanEntries_some hs
    have hmem : x.1 ∈ t.queue := by rw [hq]; simp
    have hp := rebind_remainders (h.parsed x.1 hmem) (hqu ▸ hr)
    rw [← hre] at hp
    constructor
    · have ho := h.ordered
      rw [hq, map_append] at ho
      have hn := ho.start (hk.map Entry.view)
        (forall_mem_map.2 hmac) x.2.remainders.length
      rw [← view_parts fun part hpa => (hp part hpa).2] at hn
      have hv : Started.view ⟨x.1.place ++ [0], x.2⟩ = x.1.view.part 0 := by
        simp only [Started.view, hqu, Entry.view, View.part]
      simpa [hv] using hn
    · intro entry he
      rcases mem_append.1 he with he | he
      · rcases mem_append.1 he with he | he
        · exact h.parsed entry (by rw [hq]; exact mem_append_left _ (hk.subset he))
        · obtain ⟨part, hpa, rfl⟩ := mem_map.1 he
          exact (hp part.1 (fst_mem_of_mem_zipIdx hpa)).1
      · exact h.parsed entry (by rw [hq]; exact mem_append_right _ (mem_cons_of_mem _ he))

lemma split_position (t : PlacedScheduler) (p : PreparedForwardTrafficPacket → Bool) : ∃ front back,
    t.queue = front ++ back ∧ front.length = t.erase.position p ∧ (∀ a ∈ front, p a.pkt = false) ∧
    ∀ b ∈ back.head?, p b.pkt = true := by
  unfold HrpdForwardScheduler.position
  dsimp only [erase]
  induction t.queue with
  | nil => exact ⟨[], [], rfl, rfl, by simp, by simp⟩
  | cons entry queue ih =>
    cases hp : p entry.pkt with
    | true => exact ⟨[], entry :: queue, rfl, by simp [List.findIdx?_cons, hp], by simp, by simp [hp]⟩
    | false =>
      obtain ⟨front, back, rfl, hlen, hf, hb⟩ := ih
      refine ⟨entry :: front, back, rfl, ?_, forall_mem_cons.2 ⟨hp, hf⟩, hb⟩
      rw [length_cons, hlen, map_cons, List.findIdx?_cons, hp]
      cases ((front ++ back).map fun entry => entry.pkt).findIdx? p <;> simp

lemma insertIdx_length (front back : List Entry) (entry : Entry) :
    (front ++ back).insertIdx front.length entry = front ++ entry :: back := by
  induction front with
  | nil => rfl
  | cons _ front ih => simp [ih]

section Enqueue

variable {packet : ForwardTrafficPacket} {pkt : PreparedForwardTrafficPacket} {front back : List Entry}

section

variable (h : Kept t starts)
include h

lemma Kept.insert (hp : pkt.IsParsed) (hs : t.queue = front ++ back)
    (hf : ∀ a ∈ front, a.view.silent = true →
      pkt.queueClass ≠ .control ∧ (a.view.cls = .normal → pkt.queueClass ≠ .repair))
    (hba : ∀ b ∈ back, b.view.cls ≠ pkt.queueClass ∧ b.view.cls ≠ .control ∧
      (pkt.queueClass = .normal → b.view.cls ≠ .repair)) :
    Kept { t with queue := front ++ ⟨[t.arrivals], pkt⟩ :: back, arrivals := t.arrivals + 1 } starts := by
  have ho := h.ordered
  rw [hs, map_append] at ho
  constructor
  · have hsi : pkt.defaultSignaling.isNone = true → pkt.queueClass ≠ .control := by
      intro hn
      rw [queueClass_of_silent (isNone_iff_eq_none.1 hn)]
      split <;> decide
    have hne := ho.insert (v := Entry.view ⟨[t.arrivals], pkt⟩) rfl hsi (forall_mem_map.2 hf)
      (forall_mem_map.2 fun b hb => ⟨(hba b hb).1, (hba b hb).2.1, fun _ => (hba b hb).2.2⟩)
    simpa using hne
  grind [cases PlacedScheduler.Kept]

lemma Kept.behind (hs : t.queue = front ++ back)
    (hh : ∀ b ∈ back.head?, b.pkt.defaultSignaling.isNone = true) :
    (∀ b ∈ back, b.view.cls ≠ .control) ∧
      ((∀ b ∈ back.head?, b.pkt.packet.highPriority = false) → ∀ b ∈ back, b.view.cls ≠ .repair) := by
  cases back with
  | nil => simp
  | cons b =>
    have ho := h.ordered
    rw [hs, List.map_append, List.map_cons] at ho
    have hsi := hh b rfl
    obtain ⟨hc, hr⟩ := ho.behind hsi
    rw [← List.map_cons, List.forall_mem_map] at hc
    grind [queueClass_of_silent, Option.isNone_iff_eq_none, Entry.view]

lemma Kept.insert_control (hp : pkt.IsParsed) (hcls : pkt.queueClass = .control) :
    Kept { t with
      queue := t.queue.insertIdx (t.erase.position fun queued => queued.defaultSignaling.isNone) ⟨[t.arrivals], pkt⟩
      arrivals := t.arrivals + 1 } starts := by
  obtain ⟨front, back, hs, hlen, hf, hh⟩ := split_position t fun queued => queued.defaultSignaling.isNone
  have hbe := (h.behind hs hh).1
  rw [← hlen, hs, insertIdx_length]
  refine h.insert hp hs (fun a ha hsi => ?_) fun b hb => ?_
  · rw [show a.view.silent = false from hf a ha] at hsi
    cases hsi
  grind

lemma Kept.insert_repair (hp : pkt.IsParsed) (hcls : pkt.queueClass = .repair) :
    Kept { t with
      queue := t.queue.insertIdx (t.erase.position fun queued =>
        queued.defaultSignaling.isNone ∧ ¬ queued.packet.highPriority) ⟨[t.arrivals], pkt⟩
      arrivals := t.arrivals + 1 } starts := by
  obtain ⟨front, back, hs, hlen, hf, hh⟩ := split_position t fun queued =>
    queued.defaultSignaling.isNone ∧ ¬ queued.packet.highPriority
  simp only [decide_eq_true_eq, decide_eq_false_iff_not, Bool.not_eq_true] at hf hh
  obtain ⟨hc, hr⟩ := h.behind hs fun b hb => (hh b hb).1
  replace hr := hr fun b hb => (hh b hb).2
  rw [← hlen, hs, insertIdx_length]
  refine h.insert hp hs (fun a ha hsi => ?_) fun b hb => ?_ <;> grind
    [queueClass, Entry.view]

lemma Kept.insert_normal (hp : pkt.IsParsed) (hcls : pkt.queueClass = .normal) :
    Kept { t with queue := t.queue ++ [⟨[t.arrivals], pkt⟩], arrivals := t.arrivals + 1 } starts := by
  refine h.insert hp (append_nil _).symm (fun a _ _ => ?_) (by simp)
  rw [hcls]
  exact ⟨by decide, fun _ => by decide⟩

lemma Kept.replace (hp : pkt.IsParsed)
    (hs : ∀ queued ∈ t.queue[i]?, Entry.view { queued with pkt := pkt } = queued.view) :
    Kept { t with queue := t.queue.modify i fun queued => { queued with pkt := pkt }, arrivals := t.arrivals + 1 }
      starts := by
  have hv : ∀ (l : List Entry) (i : ℕ), (∀ queued ∈ l[i]?, Entry.view { queued with pkt := pkt } = queued.view) →
      (l.modify i fun queued => { queued with pkt := pkt }).map Entry.view = l.map Entry.view := by
    intro l
    induction l <;> grind
  have hmem : ∀ (l : List Entry) (i : ℕ), ∀ entry ∈ l.modify i fun queued => { queued with pkt := pkt },
      entry.pkt = pkt ∨ entry ∈ l := by
    intro l
    induction l <;> grind
  constructor
  · dsimp only
    rw [hv t.queue i hs]
    exact h.ordered.arrive
  grind [cases PlacedScheduler.Kept]

end

lemma control_of_grant (h : pkt.defaultSignaling.any isRtcMacGrantSignaling = true) :
    pkt.queueClass = .control ∧ pkt.defaultSignaling.isNone = false := by
  cases hs : pkt.defaultSignaling with
  | none =>
    rw [hs] at h
    cases h
  | some =>
    grind [isRtcMacGrantSignaling, isDefaultPacketDataPayload,
      defaultReverseTrafficChannelMacProtocolType, queueClass]

lemma isStaleGrant_of_findIdx? (h : (t.erase.queue.take n).findIdx? (isStaleGrant pkt) = some stale)
    (hq : queued ∈ t.queue[stale]?) :
    pkt.packet.macIndex = queued.pkt.packet.macIndex ∧
      queued.pkt.defaultSignaling.any isRtcMacGrantSignaling = true := by
  obtain ⟨hlt, hg, -⟩ := List.findIdx?_eq_some_iff_getElem.1 h
  grind [HrpdForwardScheduler.isStaleGrant, PlacedScheduler.erase]

lemma Kept.enqueue (h : Kept t starts) : Kept (t.enqueue packet) starts := by
  have hp : (PreparedForwardTrafficPacket.new packet).IsParsed := rfl
  unfold PlacedScheduler.enqueue
  dsimp only
  split
  · exact ⟨h.ordered.arrive, h.parsed⟩
  split
  · rename_i hc
    have hcls : (PreparedForwardTrafficPacket.new packet).queueClass = .control := if_pos hc
    split
    · rename_i stale hs
      obtain ⟨hg, hf⟩ := ite_none_right_eq_some.1 hs
      refine h.replace hp fun queued hq => ?_
      grind [isStaleGrant_of_findIdx?, control_of_grant, Entry.view]
    · exact h.insert_control hp hcls
  · rename_i hc
    split
    · rename_i hh
      refine h.insert_repair hp ?_
      rw [PreparedForwardTrafficPacket.queueClass, if_neg hc, if_pos hh]
    · rename_i hlow
      refine h.insert_normal hp ?_
      rw [PreparedForwardTrafficPacket.queueClass, if_neg hc, if_neg hlow]

end Enqueue

lemma Kept.purgeMac (h : Kept t starts) (macIndex : UInt8) : Kept (t.purgeMac macIndex) starts :=
  ⟨h.ordered.sublist (filter_sublist.map _), fun entry he => h.parsed entry (mem_of_mem_filter he)⟩

/-- **Every operation keeps the order.** -/
theorem Kept.apply (h : Kept t starts) (op : QueueOp) : Kept (t.apply op).1 (starts ++ (t.apply op).2.toList) := by
  cases op with
  | enqueue => simpa [PlacedScheduler.apply] using h.enqueue
  | promote => exact h.promote
  | purgeMac macIndex => simpa [PlacedScheduler.apply] using h.purgeMac macIndex
  | other => simpa [PlacedScheduler.apply] using ⟨h.ordered, h.parsed⟩

end Apply

end PlacedScheduler

/-! ### Every run -/

def HrpdForwardScheduler.after (ops : List QueueOp) : HrpdForwardScheduler × List Start :=
  ops.foldl (fun r op => ((r.1.apply op).1, r.2 ++ (r.1.apply op).2.toList)) (.new, [])

def PlacedScheduler.after (ops : List QueueOp) : PlacedScheduler × List Started :=
  ops.foldl (fun r op => ((r.1.apply op).1, r.2 ++ (r.1.apply op).2.toList)) (.new, [])

lemma erase_after (ops : List QueueOp) :
    ((PlacedScheduler.after ops).1.erase, (PlacedScheduler.after ops).2.map Started.start) =
      HrpdForwardScheduler.after ops := by
  induction ops using reverseRecOn with
  | nil => rfl
  | append_singleton ops op ih =>
    unfold PlacedScheduler.after HrpdForwardScheduler.after at ih ⊢
    rw [foldl_append, foldl_append, ← ih]
    have hs := (PlacedScheduler.after ops).1.erase_apply op
    unfold PlacedScheduler.after at hs
    grind [toList_map]

lemma kept_after (ops : List QueueOp) : (PlacedScheduler.after ops).1.Kept (PlacedScheduler.after ops).2 := by
  induction ops using reverseRecOn with
  | nil => exact ⟨ordered_nil, by simp [PlacedScheduler.after, PlacedScheduler.new]⟩
  | append_singleton ops op ih =>
    have hs := ih.apply op
    grind [PlacedScheduler.after]

/-- **The queue is in order.** Packets of one MAC index and class are started in the order of their places, and the
queue has no control packet behind one without signaling. -/
theorem forward_queue_fifo (ops : List QueueOp) :
    ((PlacedScheduler.after ops).1.erase, (PlacedScheduler.after ops).2.map Started.start) =
      HrpdForwardScheduler.after ops ∧
    ((PlacedScheduler.after ops).2.Pairwise fun x y =>
      x.start.queued.packet.macIndex = y.start.queued.packet.macIndex →
      x.start.queued.queueClass = y.start.queued.queueClass → Before x.place y.place) ∧
    (HrpdForwardScheduler.after ops).1.queue.Pairwise fun a b =>
      a.defaultSignaling = none → b.queueClass ≠ .control := by
  have he := erase_after ops
  have hk := kept_after ops
  refine ⟨he, pairwise_map.1 hk.ordered.started, ?_⟩
  rw [← he]
  refine pairwise_map.2 ((pairwise_map.1 hk.ordered.queued).imp fun {a b} hp hn => ?_)
  exact hp.control (isNone_iff_eq_none.2 hn)

end OneXBts.Bts.Hrpd
