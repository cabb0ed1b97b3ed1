import Mathlib.Data.List.DropRight
import OneXBts.An.A8Numbering

/-!
The repair of what a NAK asks for.

The history is the end of the stream (`historyOf`): a number is found in it exactly when it is one of the last `2 ^ 20`.
A range is repaired in pieces, some later, when the history has moved on (`Job`); it ends when it is covered, or at the
first number that is not in the history when its turn comes.
-/

namespace OneXBts.An.A8

open Lib An.Rlp An.Air HrpdAnA8Session List Option

/-! ### The history -/

/-- The history when a stream of octets has been sent. -/
def historyOf (sent : List UInt8) : List HrpdRlpHistoryOctet := (label (seq 0) sent).rtake rlpHistoryMaxOctets

lemma length_label (x : UInt32) (octets : List UInt8) : (label x octets).length = octets.length := by
  induction octets generalizing x with
  | nil => rfl
  | cons _ octets ih => exact congrArg (· + 1) (ih _)

lemma label_append (n : ℕ) (octets more : List UInt8) :
    label (seq n) (octets ++ more) = label (seq n) octets ++ label (seq (n + octets.length)) more := by
  induction octets generalizing n with
  | nil => rfl
  | cons _ octets ih =>
    rw [cons_append, label, label, next_seq, ih, length_cons, cons_append,
      show n + 1 + octets.length = n + (octets.length + 1) by omega]

lemma getElem?_label (n i : ℕ) (octets : List UInt8) :
    (label (seq n) octets)[i]? = octets[i]?.map fun octet => ⟨seq (n + i), octet⟩ := by
  induction octets generalizing n i with
  | nil => rfl
  | cons octet octets ih =>
    cases i with
    | zero => rfl
    | succ => rw [label, next_seq, List.getElem?_cons_succ, ih, Nat.add_right_comm]; rfl

lemma rtake_rtake_append {α : Type} (l more : List α) (n : ℕ) : (l.rtake n ++ more).rtake n = (l ++ more).rtake n := by
  unfold rtake
  rw [length_append, length_append, drop_append, drop_append, drop_drop, length_drop]
  congr 2 <;> omega

lemma historyOf_eq (sent : List UInt8) :
    historyOf sent = label (seq (sent.length - rlpHistoryMaxOctets)) (sent.drop (sent.length - rlpHistoryMaxOctets)) := by
  have hs := label_append 0 (sent.take (sent.length - rlpHistoryMaxOctets))
    (sent.drop (sent.length - rlpHistoryMaxOctets))
  have hlen : (sent.take (sent.length - rlpHistoryMaxOctets)).length = sent.length - rlpHistoryMaxOctets :=
    length_take_of_le (Nat.sub_le _ _)
  rw [take_append_drop, hlen, Nat.zero_add] at hs
  grind [historyOf, rtake, length_label]

lemma historyOf_nil : historyOf [] = [] := rtake_nil _

lemma record_historyOf {s : HrpdAnA8Session} {sent : List UInt8} (hs : s.rlpHistory = historyOf sent) {x : UInt32}
    (hx : x = seq sent.length) (octets : List UInt8) :
    (s.recordRlpHistory x octets).rlpHistory = historyOf (sent ++ octets) := by
  have hm : x &&& sequenceMask = seq sent.length := by rw [hx, and_sequenceMask, seq_toNat_seq]
  rw [recordRlpHistory, ← rtake, hs, hm, historyOf, rtake_rtake_append, historyOf, label_append, Nat.zero_add]

lemma recordNew_historyOf {s : HrpdAnA8Session} {sent : List UInt8} (hs : s.rlpHistory = historyOf sent)
    {segments : List HrpdA8QueuedRlpSegment} (hc : Consecutive sent.length (firstSent segments)) :
    (s.recordNew segments).rlpHistory = historyOf (sent ++ octetsOf (firstSent segments)) := by
  unfold recordNew
  induction segments generalizing s sent with
  | nil => rw [foldl_nil, hs]; simp [firstSent, octetsOf]
  | cons seg segments ih =>
    rw [foldl_cons]
    cases hre : seg.retransmission with
    | true => grind [firstSent]
    | false =>
      have hf : firstSent (seg :: segments) = seg :: firstSent segments := by simp [firstSent, hre]
      rw [hf] at hc ⊢
      rw [if_neg (by decide)]
      have hr := record_historyOf hs hc.1 seg.octets
      rw [ih hr (by rw [length_append]; exact hc.2), append_assoc]
      rfl

/-! ### Looking octets up -/

/-- The octet was the last one to be sent under a sequence number. -/
def LastUnder (sent : List UInt8) (x : UInt32) (octet : UInt8) : Prop :=
  ∃ p, sent[p]? = some octet ∧ seq p = x ∧ ∀ q, p < q → q < sent.length → seq q ≠ x

lemma rlpHistoryOctet_label (he : e < modulus) (octets : List UInt8) :
    rlpHistoryOctet (label (seq base) octets) (seq (base + e)) = octets[e]? := by
  unfold rlpHistoryOctet
  cases octets with
  | nil => rfl
  | cons octet octets =>
    have hdi : ((seq (base + e) - seq base) &&& sequenceMask).toNat = e := toNat_distance_seq base he
    have hen := getElem?_label base e (octet :: octets)
    rw [and_sequenceMask, seq_toNat_seq]
    rw [label] at hen ⊢
    dsimp only
    rw [hdi, hen]
    cases (octet :: octets)[e]? with
    | none => rfl
    | some => exact if_pos rfl

/-- **A sequence number is found when it is in the history**, and what is found is what was last sent under it. -/
theorem rlpHistoryOctet_spec (sent : List UInt8) (n : ℕ) :
    (∀ octet, rlpHistoryOctet (historyOf sent) (seq n) = some octet →
      ⟨seq n, octet⟩ ∈ historyOf sent ∧ LastUnder sent (seq n) octet) ∧
    (rlpHistoryOctet (historyOf sent) (seq n) = none → ∀ entry ∈ historyOf sent, entry.sequence ≠ seq n) := by
  have hmax : rlpHistoryMaxOctets < modulus := by decide
  obtain ⟨e, he, hn⟩ := exists_ahead (sent.length - rlpHistoryMaxOctets) (toNat_seq_lt n)
  rw [hn, historyOf_eq, rlpHistoryOctet_label he, List.getElem?_drop]
  constructor
  · intro octet ho
    constructor
    · refine mem_of_getElem? (i := e) ?_
      rw [getElem?_label, List.getElem?_drop, ho]
      rfl
    refine ⟨_, ho, rfl, fun q hq hq' heq => ?_⟩
    have := mod_inj_window (m := modulus) (N := sent.length - rlpHistoryMaxOctets) (by omega) (by omega) (by omega)
      (by omega) (seq_eq_seq.1 heq)
    omega
  · rintro hno entry hen heq
    obtain ⟨i, hi⟩ := mem_iff_getElem?.1 hen
    rw [getElem?_label, List.getElem?_drop] at hi
    obtain ⟨octet, ho, rfl⟩ := map_eq_some_iff.1 hi
    have hlt : sent.length - rlpHistoryMaxOctets + i < sent.length := (List.getElem?_eq_some_iff.1 ho).1
    have := mod_inj_window (m := modulus) (N := sent.length - rlpHistoryMaxOctets) (by omega) (by omega) (by omega)
      (by omega) (seq_eq_seq.1 heq)
    rw [show i = e by omega, hno] at ho
    cases ho

/-! ### Ranges -/

def repeated (segment : HrpdRlpRetransmitSegment) : HrpdA8QueuedRlpSegment :=
  ⟨segment.sequence, segment.octets, true⟩

def HrpdAnA8Session.Repair.pieces (repair : Repair) : List HrpdA8QueuedRlpSegment := repair.segments.map repeated

def HrpdAnA8Session.Repair.covered (repair : Repair) : ℕ := (octetsOf repair.pieces).length

/-- Pieces of 1 to 120 octets, one after the other from a position on, with the octets of a history. -/
structure Pieces (history : List HrpdRlpHistoryOctet) (a : ℕ) (pieces : List HrpdA8QueuedRlpSegment) : Prop where
  consecutive : Consecutive a pieces
  size : ∀ piece ∈ pieces, 1 ≤ piece.octets.length ∧ piece.octets.length ≤ 120
  found : ∀ piece ∈ pieces, ∀ entry ∈ label piece.sequence piece.octets,
    rlpHistoryOctet history entry.sequence = some entry.octet

/-- What one repair does for the `len` numbers from `a` on: it covers some of them, and leaves the rest for later, or
there is no rest, or it ends at a number that is not in the history. -/
structure Repairs (history : List HrpdRlpHistoryOctet) (a len : ℕ) (repair : Repair) : Prop where
  same : repair.history = history
  pieces : Pieces history a repair.pieces
  rest : (∃ k, 0 < k ∧ repair.covered + k = len ∧
      repair.deferred = some ⟨seq (a + repair.covered), UInt16.ofNat k⟩) ∨
    repair.deferred = none ∧ (repair.covered = len ∨
      repair.covered ≤ len ∧ rlpHistoryOctet history (seq (a + repair.covered)) = none)

section Ranges

variable {hist : List HrpdRlpHistoryOctet} {a len : ℕ}

lemma mem_label (he : entry ∈ label (seq a) octets) :
    ∃ i, octets[i]? = some entry.octet ∧ entry.sequence = seq (a + i) := by
  obtain ⟨i, hi⟩ := mem_iff_getElem?.1 he
  rw [getElem?_label] at hi
  obtain ⟨octet, ho, rfl⟩ := map_eq_some_iff.1 hi
  exact ⟨i, ho, rfl⟩

lemma collect_spec (hist : List HrpdRlpHistoryOctet) (room a left : ℕ) :
    let found := collect hist room (seq a) left
    found.octets.length ≤ room ∧
    (∀ i octet, found.octets[i]? = some octet → rlpHistoryOctet hist (seq (a + i)) = some octet) ∧
    found.sequence = seq (a + found.octets.length) ∧
    (found.remaining = 0 ∧ found.octets.length ≤ left ∧
        rlpHistoryOctet hist (seq (a + found.octets.length)) = none ∨
      found.octets.length + found.remaining = left ∧ (found.remaining = 0 ∨ found.octets.length = room)) := by
  induction room generalizing a left with
  | zero => exact ⟨le_rfl, by simp [collect], rfl, .inr ⟨Nat.zero_add _, .inr rfl⟩⟩
  | succ room ih =>
    cases left with
    | zero => exact ⟨Nat.zero_le _, by simp [collect], rfl, .inr ⟨rfl, .inl rfl⟩⟩
    | succ left =>
      cases ho : rlpHistoryOctet hist (seq a) with
      | none => grind [HrpdAnA8Session.collect]
      | some octet =>
        obtain ⟨h1, h2, h3, h4⟩ := ih (a + 1) left
        generalize hf : collect hist room (seq (a + 1)) left = found at h1 h2 h3 h4
        have hc : collect hist (room + 1) (seq a) (left + 1) = { found with octets := octet :: found.octets } := by
          rw [collect, ho, next_seq, hf]
        grind

lemma pieces_collect (hist : List HrpdRlpHistoryOctet) (a left : ℕ) (rest : List HrpdA8QueuedRlpSegment)
    (hne : (collect hist forwardMaxStreamOctets (seq a) left).octets ≠ [])
    (hrest : Pieces hist (a + (collect hist forwardMaxStreamOctets (seq a) left).octets.length) rest) :
    Pieces hist a
      (⟨seq a, (collect hist forwardMaxStreamOctets (seq a) left).octets, true⟩ :: rest) := by
  obtain ⟨h1, h2, -⟩ := collect_spec hist forwardMaxStreamOctets a left
  refine ⟨⟨rfl, hrest.consecutive⟩, ?_, ?_⟩
  · grind [cases Pieces, forwardMaxStreamOctets]
  rintro piece (_ | ⟨_, hp⟩) entry he
  · obtain ⟨i, hi, hseq⟩ := mem_label he
    rw [hseq]
    exact h2 i _ hi
  · exact hrest.found piece hp entry he

lemma pieces_nil (hist : List HrpdRlpHistoryOctet) (a : ℕ) : Pieces hist a [] := ⟨trivial, by simp, by simp⟩

lemma deferred_eq (hk : k ≤ 65535) (x : UInt32) : deferred x k = ⟨x, UInt16.ofNat k⟩ := by
  rw [deferred, min_eq_left hk]

lemma repairs_queueRange (budget : ℕ) (hlen : len ≤ 65535) :
    Repairs hist a len (queueRange hist budget (seq a) len) := by
  induction budget generalizing a len with
  | zero =>
    cases len with
    | zero => exact ⟨rfl, pieces_nil hist a, .inr ⟨rfl, .inl rfl⟩⟩
    | succ len =>
      refine ⟨rfl, pieces_nil hist a, .inl ⟨len + 1, Nat.succ_pos _, Nat.zero_add _, ?_⟩⟩
      exact congrArg some (deferred_eq hlen _)
  | succ budget ih =>
    cases len with
    | zero => exact ⟨rfl, pieces_nil hist a, .inr ⟨rfl, .inl rfl⟩⟩
    | succ len =>
      obtain ⟨-, -, h3, h4⟩ := collect_spec hist forwardMaxStreamOctets a (len + 1)
      have hp := pieces_collect hist a (len + 1)
      rw [queueRange]
      generalize collect hist forwardMaxStreamOctets (seq a) (len + 1) = found at h3 h4 hp
      dsimp only
      split_ifs with hnil
      · -- nothing was found: the range ends at its first number
        rw [hnil] at h4
        refine ⟨rfl, pieces_nil hist a, .inr ⟨rfl, ?_⟩⟩
        rcases h4 with ⟨-, h5, h6⟩ | ⟨h5, h6 | h6⟩
        · exact .inr ⟨Nat.zero_le _, h6⟩
        · rw [length_nil] at h5
          omega
        · exact absurd h6 (by decide)
      · have hle : found.remaining ≤ 65535 := by omega
        obtain ⟨i1, i2, i3⟩ := ih (a := a + found.octets.length) hle
        rw [← h3] at i1 i2 i3
        generalize queueRange hist budget found.sequence found.remaining = rest at i1 i2 i3
        have hc : ∀ repair : Repair, repair.segments = ⟨seq a, found.octets⟩ :: rest.segments →
            repair.covered = found.octets.length + rest.covered := by
          intro repair hs
          rw [Repair.covered, Repair.pieces, hs]
          exact length_append
        refine ⟨rfl, hp _ hnil i2, ?_⟩
        rw [hc _ rfl, ← Nat.add_assoc]
        grind

lemma repairs_materializeRange (hlen : len ≤ 65535) :
    Repairs hist a len (materializeRange hist ⟨seq a, UInt16.ofNat len⟩) := by
  have hm : seq a &&& sequenceMask = seq a := by rw [and_sequenceMask, seq_toNat_seq]
  have hnat : (UInt16.ofNat len).toNat = len := UInt16.toNat_ofNat_of_lt (Nat.lt_of_le_of_lt hlen (by decide))
  obtain ⟨-, -, h3, h4⟩ := collect_spec hist forwardMaxStreamOctets a len
  have hp := pieces_collect hist a len []
  unfold materializeRange
  dsimp only
  rw [hm, hnat]
  generalize collect hist forwardMaxStreamOctets (seq a) len = found at h3 h4 hp
  have hc : ∀ repair : Repair, repair.segments = (if found.octets = [] then [] else [⟨seq a, found.octets⟩]) →
        repair.covered = found.octets.length := by
    intro repair hs
    rw [Repair.covered, Repair.pieces, hs]
    split_ifs with hnil
    · rw [hnil]
      rfl
    · exact congrArg List.length (append_nil _)
  refine ⟨rfl, ?_, ?_⟩
  · by_cases hnil : found.octets = []
    · rw [if_pos hnil]
      exact pieces_nil hist a
    · rw [if_neg hnil]
      exact hp hnil (pieces_nil hist _)
  · grind [deferred_eq]

end Ranges

/-! ### Jobs -/

structure Job where
  request : HrpdDefaultPacketRlpNakRequest
  repairs : List Repair
  deriving DecidableEq

def Job.rest (job : Job) : Option HrpdRlpRetransmitRequest := job.repairs.getLast?.bind Repair.deferred

def Job.pieces (job : Job) : List HrpdA8QueuedRlpSegment := job.repairs.flatMap Repair.pieces

def Job.covered (job : Job) : ℕ := (octetsOf job.pieces).length

/-- The repair was looked up in the history of a part of the stream, and its octets are in that history and are the last
that were sent under their numbers. -/
def TrueTo (sent : List UInt8) (repair : Repair) : Prop :=
  ∃ before, before <+: sent ∧ repair.history = historyOf before ∧
    ∀ piece ∈ repair.pieces, ∀ entry ∈ label piece.sequence piece.octets,
      entry ∈ repair.history ∧ LastUnder before entry.sequence entry.octet

/-- **A range is repaired exactly**: in pieces of 1 to 120 octets with the numbers of the range one after the other, each
octet being true to the history that it was looked up in. The rest of the range is left for later, or it is covered, or
its next number is not in the history that was looked up last. -/
structure Exact (sent : List UInt8) (job : Job) : Prop where
  consecutive : Consecutive job.request.firstErased.toNat job.pieces
  size : ∀ piece ∈ job.pieces, 1 ≤ piece.octets.length ∧ piece.octets.length ≤ 120
  trueTo : ∀ repair ∈ job.repairs, TrueTo sent repair
  waiting : ∀ rest, job.rest = some rest → ∃ k, 0 < k ∧ job.covered + k = job.request.windowLen.toNat ∧
    rest = ⟨seq (job.request.firstErased.toNat + job.covered), UInt16.ofNat k⟩
  ended : job.rest = none → job.covered = job.request.windowLen.toNat ∨
    job.covered ≤ job.request.windowLen.toNat ∧ ∃ repair, job.repairs.getLast? = some repair ∧
      ∀ entry ∈ repair.history, entry.sequence ≠ seq (job.request.firstErased.toNat + job.covered)

def Job.extend (job : Job) (repair : Repair) : Job := { job with repairs := job.repairs ++ [repair] }

section Jobs

variable {sent : List UInt8} {job : Job} {repair : Repair}

lemma Job.rest_extend (job : Job) (repair : Repair) : (job.extend repair).rest = repair.deferred := by
  rw [Job.rest, Job.extend, List.getLast?_concat, bind_some]

lemma Job.pieces_extend (job : Job) (repair : Repair) : (job.extend repair).pieces = job.pieces ++ repair.pieces := by
  grind [Job.pieces, Job.extend]

lemma Job.covered_extend (job : Job) (repair : Repair) :
    (job.extend repair).covered = job.covered + repair.covered := by
  rw [Job.covered, Job.pieces_extend, octetsOf_append, length_append, Job.covered, Repair.covered]

lemma TrueTo.mono (h : TrueTo sent repair) : TrueTo (sent ++ more) repair := by
  obtain ⟨before, hb, h⟩ := h
  exact ⟨before, hb.trans (prefix_append _ _), h⟩

lemma Exact.mono (h : Exact sent job) : Exact (sent ++ more) job :=
  { h with trueTo := fun repair hr => (h.trueTo repair hr).mono }

lemma exists_seq (hc : Consecutive a pieces) (hp : piece ∈ pieces) : ∃ b, piece.sequence = seq b := by
  induction pieces generalizing a <;> grind [Consecutive]

lemma Repairs.trueTo (h : Repairs (historyOf sent) a len repair) : TrueTo sent repair := by
  refine ⟨sent, prefix_rfl, h.same, ?_⟩
  intro piece hp entry he
  have hf := h.pieces.found piece hp entry he
  obtain ⟨b, hb⟩ := exists_seq h.pieces.consecutive hp
  rw [hb] at he
  obtain ⟨i, -, hseq⟩ := mem_label he
  rw [hseq] at hf
  obtain ⟨hmem, hl⟩ := (rlpHistoryOctet_spec sent (b + i)).1 _ hf
  rw [← hseq] at hmem hl
  rw [h.same]
  exact ⟨hmem, hl⟩

/-- **A range goes on**: where the pieces so far end, the next repair begins. -/
theorem exact_extend (job : Job) (hc : Consecutive job.request.firstErased.toNat job.pieces)
    (hs : ∀ piece ∈ job.pieces, 1 ≤ piece.octets.length ∧ piece.octets.length ≤ 120)
    (ht : ∀ repair ∈ job.repairs, TrueTo sent repair) (hk : job.covered + k = job.request.windowLen.toNat)
    (hr : Repairs (historyOf sent) (job.request.firstErased.toNat + job.covered) k repair) :
    Exact sent (job.extend repair) := by
  have hl : (job.extend repair).repairs.getLast? = some repair := List.getLast?_concat
  constructor
  · rw [Job.pieces_extend]
    exact consecutive_append.2 ⟨hc, hr.pieces.consecutive⟩
  · rw [Job.pieces_extend]
    intro piece hp
    exact (mem_append.1 hp).elim (hs piece) (hr.pieces.size piece)
  · intro repair' hmem
    rcases mem_append.1 hmem with hmem | hmem
    · exact ht repair' hmem
    · rw [mem_singleton.1 hmem]
      exact hr.trueTo
  · intro rest hrest
    grind [Job.covered_extend, cases Repairs, Job.extend, Job.rest]
  intro hrest
  rw [Job.rest_extend] at hrest
  rw [Job.covered_extend]
  rcases hr.rest with ⟨k', -, -, hdef⟩ | ⟨-, hall | ⟨hle, hn⟩⟩
  · rw [hrest] at hdef
    cases hdef
  · exact .inl (by omega : _ = job.request.windowLen.toNat)
  refine .inr ⟨hk ▸ Nat.add_le_add_left hle _, repair, hl, ?_⟩
  rw [hr.same]
  rw [Nat.add_assoc] at hn
  exact (rlpHistoryOctet_spec sent _).2 hn

lemma exact_queueRange (sent : List UInt8) (req : HrpdDefaultPacketRlpNakRequest) (budget : ℕ) :
    Exact sent ⟨req, [queueRange (historyOf sent) budget (req.firstErased &&& sequenceMask)
      req.windowLen.toNat]⟩ := by
  refine exact_extend ⟨req, []⟩ trivial (by simp [Job.pieces]) (by simp) (Nat.zero_add _) ?_
  rw [and_sequenceMask]
  exact repairs_queueRange budget (Nat.le_of_lt_succ (UInt16.toNat_lt req.windowLen))

lemma exact_materializeRange (h : Exact sent job) (hrest : job.rest = some rest) :
    Exact sent (job.extend (materializeRange (historyOf sent) rest)) := by
  obtain ⟨k, hpos, hsum, rfl⟩ := h.waiting rest hrest
  grind [UInt16.toNat_lt, exact_extend, repairs_materializeRange, cases Exact]

end Jobs

/-! ### Serving what was left for later -/

def serve (repair : Repair) : List Job → List Job
  | [] => []
  | job :: jobs => if job.rest.isSome then job.extend repair :: jobs else job :: serve repair jobs

/-- Ranges are served from the front of the queue, in one history: the first one is passed over, and what is left of it
stays in front. -/
inductive Serves (history : List HrpdRlpHistoryOctet) :
    List HrpdRlpRetransmitRequest → List Repair → List HrpdRlpRetransmitRequest → Prop
  | nil (requests) : Serves history requests [] requests
  | cons {request requests repairs requests'} :
      Serves history ((materializeRange history request).deferred.toList ++ requests) repairs requests' →
      Serves history (request :: requests) (materializeRange history request :: repairs) requests'

section Serving

variable {hist : List HrpdRlpHistoryOctet} {requests requests' requests'' : List HrpdRlpRetransmitRequest}
  {reps repairs' : List Repair}

lemma Serves.append (h : Serves hist requests reps requests') (h' : Serves hist requests' repairs' requests'') :
    Serves hist requests (reps ++ repairs') requests'' := by
  induction h with
  | nil => exact h'
  | cons _ ih => exact .cons (ih h')

lemma serves_materializeLoop (hist : List HrpdRlpHistoryOctet) (fuel : ℕ) (requests : List HrpdRlpRetransmitRequest) :
    Serves hist requests (materializeLoop hist fuel requests).2.2 (materializeLoop hist fuel requests).2.1 := by
  induction fuel generalizing requests with
  | zero => exact .nil _
  | succ fuel ih =>
    cases requests with
    | nil => exact .nil _
    | cons =>
      rw [materializeLoop]
      split
      · exact .cons (.nil _)
      · exact .cons (ih _)

lemma materializeLoop_segments (hist : List HrpdRlpHistoryOctet) (fuel : ℕ)
    (requests : List HrpdRlpRetransmitRequest) :
    (materializeLoop hist fuel requests).1.toList =
      (materializeLoop hist fuel requests).2.2.flatMap Repair.segments := by
  induction fuel generalizing requests with
  | zero => rfl
  | succ =>
    cases requests with
    | nil => rfl
    | cons =>
      rw [materializeLoop]
      grind [HrpdAnA8Session.materializeRange]

lemma serves_nextRetransmission (s : HrpdAnA8Session) :
    Serves s.rlpHistory s.pendingRetransmitRequests s.nextRetransmission.2.2
      s.nextRetransmission.1.pendingRetransmitRequests := by
  unfold nextRetransmission
  split
  · exact .nil _
  · exact serves_materializeLoop s.rlpHistory _ _

lemma serves_gather (hg : gather room s segments = (s', segments', reps)) :
    Serves s.rlpHistory s.pendingRetransmitRequests reps s'.pendingRetransmitRequests := by
  induction room generalizing s segments reps with
  | zero =>
    cases hg
    exact .nil _
  | succ room ih =>
    have hs := serves_nextRetransmission s
    have hh := (nextRetransmission_frame s).2.1
    obtain ⟨repairs', rfl, ⟨seg, hrest⟩ | ⟨rfl, -, rfl⟩ | ⟨chunk, rest, -, hrest⟩⟩ := gather_cases hg
    any_goals
      have hm := ih hrest
      rw [hh] at hm
      exact hs.append hm
    · exact hs.append (.nil _)

lemma serve_spec (hj : ∀ job ∈ jobs, Exact sent job) (hrest : jobs.filterMap Job.rest = req :: requests) :
    (∀ job ∈ serve (materializeRange (historyOf sent) req) jobs, Exact sent job) ∧
    (serve (materializeRange (historyOf sent) req) jobs).filterMap Job.rest =
      (materializeRange (historyOf sent) req).deferred.toList ++ requests ∧
    (serve (materializeRange (historyOf sent) req) jobs).map Job.request = jobs.map Job.request := by
  induction jobs with
  | nil => cases hrest
  | cons job =>
    rw [serve]
    cases hjob : job.rest with
    | none => grind
    | some rest =>
      rw [filterMap_cons_some hjob, List.cons.injEq] at hrest
      obtain ⟨rfl, rfl⟩ := hrest
      rw [if_pos isSome_some]
      refine ⟨?_, ?_, rfl⟩
      · rw [forall_mem_cons]
        grind [exact_materializeRange]
      · rw [filterMap_cons, Job.rest_extend]
        cases (materializeRange (historyOf sent) rest).deferred <;> rfl

lemma serves_spec (hs : Serves (historyOf sent) requests reps requests')
    (hj : ∀ job ∈ jobs, Exact sent job) (hrest : jobs.filterMap Job.rest = requests) :
    (∀ job ∈ reps.foldl (fun jobs repair => serve repair jobs) jobs, Exact sent job) ∧
    (reps.foldl (fun jobs repair => serve repair jobs) jobs).filterMap Job.rest = requests' ∧
    (reps.foldl (fun jobs repair => serve repair jobs) jobs).map Job.request = jobs.map Job.request := by
  induction hs generalizing jobs with
  | nil => exact ⟨hj, hrest, rfl⟩
  | cons _ ih =>
    obtain ⟨h1, h2, h3⟩ := serve_spec hj hrest
    rw [← h3]
    exact ih h1 h2

end Serving

/-! ### Runs -/

structure Repaired where
  session : HrpdAnA8Session
  sent : List UInt8 := []
  jobs : List Job := []

def newJobs (requests : List HrpdDefaultPacketRlpNakRequest) (repairs : List Repair) : List Job :=
  List.zipWith (fun request repair => ⟨request, [repair]⟩) requests repairs

def jobsAfter (jobs : List Job) (repairs : List Repair) : Op → List Job
  | .nak requests => jobs ++ newJobs requests repairs
  | _ => repairs.foldl (fun jobs repair => serve repair jobs) jobs

def repairStep (build : Builder) (t : Repaired) (op : Op) : Option (Repaired × Output) :=
  (step build t.session op).map fun (session, o) =>
    ({ session := session
       sent := t.sent ++ octetsOf o.firstSegments
       jobs := jobsAfter t.jobs o.repairs op }, o)

def Op.asked : Op → List HrpdDefaultPacketRlpNakRequest
  | nak requests => requests
  | _ => []

/-- The history is that of the stream, the ranges are repaired exactly, and what is left of them is what waits. -/
structure Repairing (s : HrpdAnA8Session) (sent : List UInt8) (jobs : List Job) : Prop where
  rlpSeq : s.rlpSeq = seq sent.length
  rlpHistory : s.rlpHistory = historyOf sent
  exactly : ∀ job ∈ jobs, Exact sent job
  rest : jobs.filterMap Job.rest = s.pendingRetransmitRequests

section Runs

variable {s s' : HrpdAnA8Session} {sent : List UInt8} {jobs : List Job}

lemma Repairing.same (h : Repairing s sent jobs) (hseq : s'.rlpSeq = s.rlpSeq) (hh : s'.rlpHistory = s.rlpHistory)
    (hrest : s'.pendingRetransmitRequests = s.pendingRetransmitRequests) : Repairing s' sent jobs :=
  ⟨hseq.trans h.rlpSeq, hh.trans h.rlpHistory, h.exactly, h.rest.trans hrest.symm⟩

lemma Repairing.gather (h : Repairing s sent jobs) (hg : gather room s [] = (s', segments, reps)) :
    Repairing s' sent (reps.foldl (fun jobs repair => serve repair jobs) jobs) ∧
      (reps.foldl (fun jobs repair => serve repair jobs) jobs).map Job.request = jobs.map Job.request ∧
      Consecutive sent.length (firstSent segments) := by
  have hs := serves_gather hg
  rw [h.rlpHistory] at hs
  obtain ⟨h1, h2, h3⟩ := serves_spec hs h.exactly h.rest
  obtain ⟨g1, g2, g3, -⟩ := gather_spec hg h.rlpSeq trivial
  exact ⟨⟨g1.trans h.rlpSeq, g2.trans h.rlpHistory, h1, h2⟩, h3, g3⟩

lemma Repairing.afterSending (h : Repairing s sent jobs) (hc : Consecutive sent.length (firstSent segments)) :
    Repairing (afterSending s segments) (sent ++ octetsOf (firstSent segments)) jobs := by
  obtain ⟨a1, -, a3⟩ := afterSending_frame s segments
  rw [after_newOctets h.rlpSeq, ← length_append] at a1
  exact ⟨a1, recordNew_historyOf h.rlpHistory hc, fun job hjob => (h.exactly job hjob).mono, h.rest.trans a3.symm⟩

/-- **A flush.** -/
theorem Repairing.flush (build : Builder) (around : Surroundings) (h : Repairing s sent jobs) :
    Repairing (s.flushDownlink build around).1
      (sent ++ octetsOf ((s.flushDownlink build around).2.transmissions.flatMap fun t => firstSent t.segments))
      ((s.flushDownlink build around).2.repairs.foldl (fun jobs repair => serve repair jobs) jobs) ∧
    ((s.flushDownlink build around).2.repairs.foldl (fun jobs repair => serve repair jobs) jobs).map Job.request =
      jobs.map Job.request := by
  refine flush_rule build around (fun s s' sends reps => ∀ sent jobs, Repairing s sent jobs →
    Repairing s' (sent ++ octetsOf (sends.flatMap fun t => firstSent t.segments))
      (reps.foldl (fun jobs repair => serve repair jobs) jobs) ∧
    (reps.foldl (fun jobs repair => serve repair jobs) jobs).map Job.request = jobs.map Job.request)
    ?_ ?_ ?_ ?_ s sent jobs h
  · intro s s' hs sent jobs h
    rw [flatMap_nil, octetsOf, flatMap_nil, append_nil]
    exact ⟨h.same hs.rlpSeq hs.rlpHistory hs.pendingRetransmitRequests, rfl⟩
  · intro s s1 s2 room segments reps hg hs sent jobs h
    obtain ⟨h1, h2, -⟩ := h.gather hg
    obtain ⟨r1, r2, -, r4⟩ := restoreRlpSegments_spec s2 segments
    rw [flatMap_nil, octetsOf, flatMap_nil, append_nil]
    exact ⟨h1.same (r1.trans hs.rlpSeq) (r2.trans hs.rlpHistory) (r4.trans hs.pendingRetransmitRequests), h2⟩
  · intro s s1 s2 room segments reps _ hg hs sent jobs h
    obtain ⟨h1, h2, -⟩ := h.gather hg
    rw [flatMap_nil, octetsOf, flatMap_nil, append_nil]
    exact ⟨h1.same hs.rlpSeq hs.rlpHistory hs.pendingRetransmitRequests, h2⟩
  · intro s s1 s2 room segments reps s' packet sends repairs' hg hs ih sent jobs h
    obtain ⟨h1, h2, h3⟩ := h.gather hg
    have hse := (h1.same hs.rlpSeq hs.rlpHistory hs.pendingRetransmitRequests).afterSending h3
    grind [octetsOf_append]

/-- **A NAK.** -/
theorem newJobs_spec (sent : List UInt8) (queued : ℕ) (requests : List HrpdDefaultPacketRlpNakRequest) :
    (∀ job ∈ newJobs requests (queueRanges (historyOf sent) queued requests), Exact sent job) ∧
    (newJobs requests (queueRanges (historyOf sent) queued requests)).filterMap Job.rest =
      (queueRanges (historyOf sent) queued requests).filterMap Repair.deferred ∧
    (newJobs requests (queueRanges (historyOf sent) queued requests)).map Job.request = requests := by
  induction requests generalizing queued with
  | nil => exact ⟨by simp [newJobs], rfl, rfl⟩
  | cons req =>
    rw [queueRanges, newJobs, zipWith_cons_cons]
    have hf := exact_queueRange sent req (rlpRetransmitMaterializeBudget - queued)
    grind [Job.rest, newJobs]

/-- **A call.** -/
theorem repairing_step (build : Builder) (h : Repairing s sent jobs) (hs : step build s op = some (s', o)) :
    Repairing s' (sent ++ octetsOf o.firstSegments) (jobsAfter jobs o.repairs op) ∧
      (jobsAfter jobs o.repairs op).map Job.request = jobs.map Job.request ++ op.asked := by
  have hn : ∀ reps, sent ++ octetsOf (Output.firstSegments { repairs := reps }) = sent := fun _ => append_nil sent
  cases op with
  | enqueue =>
    cases hs
    rw [hn]
    refine ⟨?_, (append_nil _).symm⟩
    unfold enqueueDownlinkPayload
    split_ifs
    · exact h
    · exact h.same rfl rfl rfl
  | nak requests =>
    cases hs
    obtain ⟨h1, h2, h3⟩ := newJobs_spec sent 0 requests
    have hr : (s.queueRlpNakRetransmissions requests).2 = queueRanges (historyOf sent) 0 requests :=
      congrArg (queueRanges · 0 requests) h.rlpHistory
    have hw : (s.queueRlpNakRetransmissions requests).1.pendingRetransmitRequests =
        s.pendingRetransmitRequests ++ (queueRanges (historyOf sent) 0 requests).filterMap Repair.deferred :=
      congrArg (fun hist => s.pendingRetransmitRequests ++
        (queueRanges hist 0 requests).filterMap Repair.deferred) h.rlpHistory
    rw [hn, jobsAfter, hr, map_append, h3]
    refine ⟨⟨h.rlpSeq, h.rlpHistory, ?_, ?_⟩, rfl⟩ <;> grind [cases Repairing]
  | flush around =>
    cases hs
    obtain ⟨h1, h2⟩ := h.flush build around
    exact ⟨h1, h2.trans (append_nil _).symm⟩
  | control =>
    cases hs
    rw [hn]
    exact ⟨h.same rfl rfl rfl, (append_nil _).symm⟩

lemma sequences_label (n : ℕ) (octets : List UInt8) :
    (label (seq n) octets).map (·.sequence) = (range' n octets.length).map seq := by
  induction octets generalizing n with
  | nil => rfl
  | cons _ octets ih => rw [label, next_seq, map_cons, ih, length_cons, List.range'_succ, map_cons]

lemma Repairing.history (h : Repairing s sent jobs) : s.rlpHistory.length ≤ 2 ^ 20 ∧
    ∃ base, s.rlpHistory.map (·.sequence) = (range' base s.rlpHistory.length).map seq ∧
      s.rlpSeq = seq (base + s.rlpHistory.length) := by
  have hlen : (historyOf sent).length = sent.length - (sent.length - rlpHistoryMaxOctets) := by
    rw [historyOf_eq, length_label, length_drop]
  have hs : (historyOf sent).map (·.sequence) =
      (range' (sent.length - rlpHistoryMaxOctets) (historyOf sent).length).map seq := by
    rw [hlen, historyOf_eq, sequences_label, length_drop]
  grind [cases Repairing, rlpHistoryMaxOctets]

end Runs

/-- **NAK repair is exact.** From a reset of the stream, for every builder of packets and every sequence of calls: the
history has at most `2 ^ 20` consecutive sequence numbers up to `rlpSeq`; what a NAK queues at once and what is
materialized later are the segments of repairs; and for each range that was asked for, in the order of the NAKs, what
was done for it so far is exact with respect to the octets that were sent, the rest of those that are not done with
being what waits. -/
theorem nak_repair_exact (build : Builder) (s₀ : HrpdAnA8Session) {t : Repaired} {log : List (Op × Output)}
    (hrun : Run (steps (repairStep build)) { session := s₀.resetDefaultPacketRlp } t log) :
    (t.session.rlpHistory.length ≤ 2 ^ 20 ∧
      ∃ base, t.session.rlpHistory.map (·.sequence) = (List.range' base t.session.rlpHistory.length).map seq ∧
        t.session.rlpSeq = seq (base + t.session.rlpHistory.length)) ∧
    (∀ requests, (t.session.queueRlpNakRetransmissions requests).1.pendingRetransmit =
      t.session.pendingRetransmit ++ (t.session.queueRlpNakRetransmissions requests).2.flatMap Repair.segments) ∧
    t.session.materializeNextRlpRetransmission.2.1.toList =
      t.session.materializeNextRlpRetransmission.2.2.flatMap Repair.segments ∧
    t.sent = octetsOf (log.flatMap fun e => e.2.firstSegments) ∧
    t.jobs.map Job.request = (log.flatMap fun e => e.1.asked) ∧
    (∀ job ∈ t.jobs, Exact t.sent job) ∧
    t.jobs.filterMap Job.rest = t.session.pendingRetransmitRequests := by
  have h : Repairing t.session t.sent t.jobs ∧ t.sent = octetsOf (log.flatMap fun e => e.2.firstSegments) ∧
      t.jobs.map Job.request = log.flatMap fun e => e.1.asked := by
    refine hrun.inv (fun t log => Repairing t.session t.sent t.jobs ∧
      t.sent = octetsOf (log.flatMap fun e => e.2.firstSegments) ∧
      t.jobs.map Job.request = log.flatMap fun e => e.1.asked) ⟨⟨rfl, historyOf_nil.symm, by simp, rfl⟩, rfl, rfl⟩ ?_
    rintro t op t' o log ⟨hrep, hs, ha⟩ hst
    obtain ⟨⟨session, o'⟩, hc, heq⟩ := map_eq_some_iff.1 hst.2
    grind [repairing_step, octetsOf_append]
  obtain ⟨hrep, hs, ha⟩ := h
  exact ⟨hrep.history, fun _ => rfl, materializeLoop_segments _ _ _, hs, ha, hrep.exactly, hrep.rest⟩

/-- Of 18 ranges two are left for later. The next flush covers the first of them, and the second one, which goes on
after the end of the history, as far as the history goes. -/
theorem nak_repair_exact_deferred :
    ∃ t log, Run (steps (repairStep pickyBuilder)) { session := openSession.resetDefaultPacketRlp } t log ∧
      t.sent = [9, 1] ∧ t.session.pendingRetransmitRequests = [] ∧ t.jobs.length = 18 ∧
      (∀ job ∈ t.jobs, Exact t.sent job) ∧
      (t.jobs.drop 16).map (fun job => job.pieces.map (·.octets)) = [[[9]], [[1]]] := by
  obtain ⟨t, log, hrun, hs, hrest, hlen, hp⟩ := exists_run (repairStep pickyBuilder) (fun _ _ => True)
    { session := openSession.resetDefaultPacketRlp }
    [.enqueue [1], .flush {}, .nak (replicate 17 ⟨0, 1⟩ ++ [⟨1, 5⟩]), .flush {}, .flush {}]
    (fun t _ => t.sent = [9, 1] ∧ t.session.pendingRetransmitRequests = [] ∧ t.jobs.length = 18 ∧
      (t.jobs.drop 16).map (fun job => job.pieces.map (·.octets)) = [[[9]], [[1]]]) (by decide +kernel)
  obtain ⟨-, -, -, -, -, he, -⟩ := nak_repair_exact pickyBuilder openSession hrun
  exact ⟨t, log, hrun, hs, hrest, hlen, he, hp⟩

end OneXBts.An.A8
