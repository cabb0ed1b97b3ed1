import OneXBts.Packet.Lcp
import OneXBts.Packet.PppAgreement

/-!
What an open link has agreed on.

`peerAcked` always tells the truth. `weAcked` stays set when a request of the peer is rejected, or answered with a suggestion,
after one that was acknowledged; and the options of an earlier acknowledged request stay when a later one does not mention
them. `opened_on_last_request` excludes these two, and `opened_on_earlier_request` shows them.
-/

namespace OneXBts.Packet.Lcp

open Lib Packet.Ppp NegotiatedOptions LcpSession

/-! ### What a request asks for -/

structure Requested where
  accm : UInt32
  pfc : Bool
  acfc : Bool
  deriving DecidableEq, Repr

def accmValue (opt : ControlOption) : Option UInt32 := if opt.optType = optAccm then u32Of opt.data else none

def lastAccm (opts : List ControlOption) : Option UInt32 := (opts.filterMap accmValue).getLast?

def hasOption (optType : UInt8) (opts : List ControlOption) : Bool := opts.any (·.optType == optType)

/-- The framing options of a request, with the defaults for those it omits. -/
def requested (data : Bytes) : Requested :=
  let opts := parseOptions data
  ⟨(lastAccm opts).getD 0xFFFFFFFF, hasOption optPfc opts, hasOption optAcfc opts⟩

namespace NegotiatedOptions

def ofPeer (n : NegotiatedOptions) : Requested := ⟨n.txAccm, n.peerSendsPfc, n.peerSendsAcfc⟩

def ofUs (n : NegotiatedOptions) : Requested := ⟨n.rxAccm, n.weSendPfc, n.weSendAcfc⟩

end NegotiatedOptions

lemma lastAccm_cons (opt : ControlOption) (opts : List ControlOption) (d : UInt32) :
    (lastAccm (opt :: opts)).getD d = (lastAccm opts).getD ((accmValue opt).getD d) := by grind [lastAccm]

lemma ofPeer_recordPeerOption (n : NegotiatedOptions) (opt : ControlOption) :
    (recordPeerOption n opt).ofPeer = ⟨(accmValue opt).getD n.txAccm, n.peerSendsPfc || opt.optType == optPfc,
      n.peerSendsAcfc || opt.optType == optAcfc⟩ ∧ (recordPeerOption n opt).ofUs = n.ofUs := by
  unfold recordPeerOption accmValue
  split_ifs with h1 h2 h3
  · cases hv : u32Of opt.data <;>
      simp [ofPeer, ofUs, h1, show optAccm ≠ optPfc by decide,
        show optAccm ≠ optAcfc by decide]
  · simp [ofPeer, ofUs, h2, show optPfc ≠ optAcfc by decide]
  · simp [ofPeer, ofUs, h3, show optAcfc ≠ optPfc by decide]
  · simp [ofPeer, h2, h3]

/-- **Recording a request of the peer** adds its options to those that are there. -/
theorem ofPeer_record (opts : List ControlOption) : ∀ n : NegotiatedOptions,
    (opts.foldl recordPeerOption n).ofPeer = ⟨(lastAccm opts).getD n.txAccm,
      n.peerSendsPfc || hasOption optPfc opts, n.peerSendsAcfc || hasOption optAcfc opts⟩ ∧
    (opts.foldl recordPeerOption n).ofUs = n.ofUs := by
  induction opts with
  | nil => simp [ofPeer, lastAccm, hasOption]
  | cons opt opts ih =>
    intro n
    obtain ⟨hp, hus⟩ := ih (recordPeerOption n opt)
    obtain ⟨hp', hus'⟩ := ofPeer_recordPeerOption n opt
    rw [ofPeer, Requested.mk.injEq] at hp'
    rw [List.foldl_cons, hp, hus, hus', lastAccm_cons, hp'.1, hp'.2.1, hp'.2.2]
    simp [hasOption, Bool.or_assoc]

lemma ofUs_recordOurOption (n : NegotiatedOptions × Bool) (opt : ControlOption) :
    (recordOurOption n opt).1.ofUs = ⟨(accmValue opt).getD n.1.rxAccm, n.1.weSendPfc || opt.optType == optPfc,
      n.1.weSendAcfc || opt.optType == optAcfc⟩ ∧ (recordOurOption n opt).1.ofPeer = n.1.ofPeer := by
  unfold recordOurOption accmValue
  split_ifs with h1 h2 h3 h4 h5
  · cases hv : u32Of opt.data <;>
      simp [ofPeer, ofUs, h1, show optAccm ≠ optPfc by decide,
        show optAccm ≠ optAcfc by decide]
  · simp [ofUs, h2, show optMagicNumber ≠ optPfc by decide,
      show optMagicNumber ≠ optAcfc by decide]
  · simp [ofUs, h2, show optMagicNumber ≠ optPfc by decide,
      show optMagicNumber ≠ optAcfc by decide]
  · simp [ofPeer, ofUs, h4, show optPfc ≠ optAcfc by decide]
  · simp [ofPeer, ofUs, h5, show optAcfc ≠ optPfc by decide]
  · simp [ofUs, h4, h5]

lemma ofUs_record (opts : List ControlOption) : ∀ n : NegotiatedOptions × Bool,
    (opts.foldl recordOurOption n).1.ofUs = ⟨(lastAccm opts).getD n.1.rxAccm,
      n.1.weSendPfc || hasOption optPfc opts, n.1.weSendAcfc || hasOption optAcfc opts⟩ ∧
    (opts.foldl recordOurOption n).1.ofPeer = n.1.ofPeer := by
  induction opts with
  | nil => simp [ofUs, lastAccm, hasOption]
  | cons opt opts ih =>
    intro n
    obtain ⟨hus, hp⟩ := ih (recordOurOption n opt)
    obtain ⟨hus', hp'⟩ := ofUs_recordOurOption n opt
    rw [ofUs, Requested.mk.injEq] at hus'
    rw [List.foldl_cons, hus, hp, hp', lastAccm_cons, hus'.1, hus'.2.1, hus'.2.2]
    simp [hasOption, Bool.or_assoc]

/-- **Our acknowledged request** replaces what came from an earlier one. -/
theorem negotiated_applyPeerAck (s : LcpSession) (data : Bytes) :
    (s.applyPeerAckToOurOptions (parseOptions data)).negotiated.ofUs = requested data ∧
    (s.applyPeerAckToOurOptions (parseOptions data)).negotiated.ofPeer = s.negotiated.ofPeer := by
  obtain ⟨hus, hp⟩ := ofUs_record (parseOptions data)
    ({ s.negotiated with rxAccm := 0xFFFFFFFF, weSendPfc := false, weSendAcfc := false }, s.magicNegotiated)
  refine ⟨?_, hp⟩
  rw [applyPeerAckToOurOptions, hus]
  simp [requested]

/-! ### The condition -/

/-- A request is acknowledged: no option is rejected or answered with another value. -/
def Accepts (magic : UInt32) (data : Bytes) : Prop :=
  rejectOpts magic (parseOptions data) = [] ∧ nakOpts magic (parseOptions data) = []

instance (magic : UInt32) (data : Bytes) : Decidable (Accepts magic data) := inferInstanceAs (Decidable (_ ∧ _))

/-- A request mentions every option of the peer that is not at its default. -/
def Covers (n : NegotiatedOptions) (data : Bytes) : Prop :=
  ((lastAccm (parseOptions data)).isSome ∨ n.txAccm = 0xFFFFFFFF) ∧
  (hasOption optPfc (parseOptions data) ∨ n.peerSendsPfc = false) ∧
  (hasOption optAcfc (parseOptions data) ∨ n.peerSendsAcfc = false)

instance (n : NegotiatedOptions) (data : Bytes) : Decidable (Covers n data) :=
  inferInstanceAs (Decidable (_ ∧ _ ∧ _))

lemma ofPeer_of_covers (h : Covers n data) :
    ((parseOptions data).foldl recordPeerOption n).ofPeer = requested data := by
  obtain ⟨ha, hpfc, hac⟩ := h
  grind [ofPeer_record, requested, Option.isSome_iff_exists]

/-! ### Sessions with what has gone over the wire -/

inductive Call where
  | start
  | maybeRetransmitConfigureRequest
  | receive (p : PppPacket)

structure Traced where
  session : LcpSession
  history : History := {}

def step (t : Traced) : Call → Option (Traced × List PppPacket)
  | .start =>
    let (p, s) := t.session.start
    some ({ t with session := s }, [p])
  | .maybeRetransmitConfigureRequest =>
    let (p, s) := t.session.maybeRetransmitConfigureRequest
    some ({ t with session := s }, p.toList)
  | .receive p =>
    let (replies, s) := t.session.receive p
    some (⟨s, t.history.record t.session.toAutomaton p replies⟩, replies)

/-- A request of the peer outside Opened: when it is acknowledged it mentions every option that is not at its
default, and when it is not, no earlier one is. -/
def RequestOk (s : LcpSession) (data : Bytes) : Prop :=
  s.state ≠ .opened → if Accepts s.ourMagic data then Covers s.negotiated data else s.weAcked = false

instance (s : LcpSession) (data : Bytes) : Decidable (RequestOk s data) := inferInstanceAs (Decidable (_ → _))

def Admissible (t : Traced) : Call → Prop
  | .receive p => ∀ lcp ∈ ControlPacket.parse p.payload, lcp.code = configureRequest → RequestOk t.session lcp.data
  | _ => True

instance (t : Traced) (c : Call) : Decidable (Admissible t c) :=
  match c with
  | .start => .isTrue trivial
  | .maybeRetransmitConfigureRequest => .isTrue trivial
  | .receive p => inferInstanceAs (Decidable (∀ lcp ∈ ControlPacket.parse p.payload, _))

/-! ### The invariant -/

/-- The flags tell the truth, and the negotiated options are those of the two acknowledged requests. -/
def Agreed (s : LcpSession) (h : History) : Prop :=
  s.toAutomaton.Agreed h (fun data => s.negotiated.ofPeer = requested data)
    (fun data => s.negotiated.ofUs = requested data)

section Kept

variable {s : LcpSession} {h : History}

/-- **An answered request.** Either it is acknowledged, and then its options are what is negotiated, or no request
of the peer is. -/
theorem Agreed.answer (ha : Agreed s h) (lcp : ControlPacket)
    (hok : if Accepts s.ourMagic lcp.data then Covers s.negotiated lcp.data else s.weAcked = false) :
    Agreed (s.answerConfigureRequest lcp).2
      (h.recordRequest lcp.data ((s.answerConfigureRequest lcp).1.payload.head?)) := by
  unfold answerConfigureRequest
  dsimp only
  split_ifs at hok with hac
  · rw [if_neg (not_not.2 hac.1), if_neg (not_not.2 hac.2)]
    exact Automaton.Agreed.ackPeer ha (ofPeer_of_covers hok) fun _ hus => (ofPeer_record _ _).2.trans hus
  split_ifs with hr hn
  any_goals exact Automaton.Agreed.refuse ha hok _ _
  · exact absurd ⟨not_not.1 hr, not_not.1 hn⟩ hac

lemma agreed_restart : Agreed s.restart.2 h :=
  Automaton.agreed_of_flags (by simp [restart, start, sendConfigureRequest, Automaton.sendConfigureRequest]) rfl rfl

section

variable (ha : Agreed s h)
include ha

lemma Agreed.receiveConfigureRequest (lcp : ControlPacket) (hok : RequestOk s lcp.data) :
    Agreed (s.receiveConfigureRequest lcp).2
      (h.recordRequest lcp.data (History.answer (s.receiveConfigureRequest lcp).1)) := by
  unfold LcpSession.receiveConfigureRequest
  split_ifs with hdup ho
  · rw [hdup.2]
    exact Automaton.Agreed.duplicate ha
  · -- a restart: nothing is acknowledged and everything is at its default
    refine agreed_restart.answer lcp ?_
    split_ifs
    · exact ⟨.inr rfl, .inr rfl, .inr rfl⟩
    · rfl
  · exact ha.answer lcp (hok ho)

lemma Agreed.receiveConfigureAck (hac : s.acks lcp = true) :
    Agreed (s.receiveConfigureAck lcp).2 { h with ours := some lcp.data } := by
  obtain ⟨hus, hpe⟩ := negotiated_applyPeerAck s lcp.data
  unfold LcpSession.receiveConfigureAck
  rw [hac]
  exact Automaton.Agreed.ackOurs ha (fun _ hp => hpe.trans hp) hus _

lemma Agreed.receiveConfigureNak (lcp : ControlPacket) :
    Agreed (s.receiveConfigureNak lcp).2 h := by
  unfold LcpSession.receiveConfigureNak
  split_ifs
  · exact ha
  · exact Automaton.Agreed.resend ha _

lemma Agreed.receiveConfigureReject (lcp : ControlPacket) :
    Agreed (s.receiveConfigureReject lcp).2 h := by
  unfold LcpSession.receiveConfigureReject
  split_ifs
  · exact ha
  · exact Automaton.Agreed.resend ha _

/-- **One packet of the peer.** -/
theorem Agreed.receive (p : PppPacket)
    (hok : ∀ lcp ∈ ControlPacket.parse p.payload, lcp.code = configureRequest → RequestOk s lcp.data) :
    Agreed (s.receive p).2 (h.record s.toAutomaton p (s.receive p).1) := by
  unfold LcpSession.receive History.record
  cases hp : ControlPacket.parse p.payload with
  | none => exact ha
  | some lcp =>
    have hok := hok lcp hp
    dsimp only
    by_cases hr : lcp.code = configureRequest
    · rw [if_pos hr, if_pos hr]
      exact ha.receiveConfigureRequest lcp (hok hr)
    rw [if_neg hr, if_neg hr]
    by_cases hack : lcp.code = configureAck
    · rw [if_pos hack]
      by_cases hac : s.acks lcp = true
      · rw [if_pos ⟨hack, hac⟩]
        exact ha.receiveConfigureAck hac
      grind [LcpSession.receiveConfigureAck]
    rw [if_neg hack, if_neg (show ¬ (lcp.code = configureAck ∧ s.acks lcp = true) from fun hc => hack hc.1)]
    split_ifs
    · exact ha.receiveConfigureNak lcp
    · exact ha.receiveConfigureReject lcp
    · exact ha
    · -- the echo counters are not part of the agreement
      unfold LcpSession.receiveEchoReply
      split_ifs
      · exact ha
      · exact ha
    · exact Automaton.agreed_of_flags (by simp [LcpSession.receiveTerminateRequest]) rfl rfl
    · exact ha
    · exact ha
    · exact Automaton.Agreed.allocId ha

end

end Kept

/-! ### Runs -/

lemma Agreed.step (ha : Agreed t.session t.history) (hok : Admissible t c)
    (hs : step t c = some (t', replies)) : Agreed t'.session t'.history := by
  cases c with
  | start =>
    cases hs
    exact Automaton.Agreed.sendConfigureRequest ha _
  | maybeRetransmitConfigureRequest =>
    cases hs
    exact Automaton.Agreed.maybeRetransmit ha _
  | receive p =>
    cases hs
    exact ha.receive p hok

/-- **LCP opens on the last request of each side.** For every magic number and every run from a new session in
which each request of the peer meets the condition: when the state is Opened, the last request of the peer was
answered with a Configure-Ack, and the negotiated options are those that this request and our acknowledged one
ask for, with the defaults for what they omit. -/
theorem opened_on_last_request {magic : UInt32} {t : Traced} {log : List (Call × List PppPacket)}
    (hrun : Run (guarded step Admissible) { session := LcpSession.new magic } t log)
    (hopened : t.session.state = .opened) :
    ∃ peer ours, t.history.evaluated = some (peer, some configureAck) ∧ t.history.acknowledged = some peer ∧
      t.history.ours = some ours ∧ t.session.negotiated.ofPeer = requested peer ∧
      t.session.negotiated.ofUs = requested ours := by
  have ha : Agreed t.session t.history := by
    refine hrun.inv (fun t _ => Agreed t.session t.history)
      (Automaton.agreed_of_flags (by simp [new]) rfl rfl) ?_
    intro t c t' replies log ha hs
    exact ha.step hs.1 hs.2
  exact Automaton.Agreed.of_opened ha hopened

def peerPacket (code identifier : UInt8) (data : Bytes) : PppPacket := ppp ⟨code, identifier, data⟩

def firstRequest : Bytes := serializeOptions (LcpSession.new 1).ourRequestOptions

/-- We start, the peer acknowledges, sends an option that is rejected, and then a request with PFC. -/
theorem opened_on_last_request_retried : ∃ t log,
    Run (guarded step Admissible) { session := LcpSession.new 1 } t log ∧
    t.session.state = .opened ∧ ∃ peer ours, t.history.evaluated = some (peer, some configureAck) ∧
      t.history.acknowledged = some peer ∧ t.history.ours = some ours ∧
      t.session.negotiated.ofPeer = requested peer ∧ t.session.negotiated.ofUs = requested ours := by
  obtain ⟨t, log, hrun, ho⟩ := exists_run step Admissible { session := new 1 }
    [.start, .receive (peerPacket configureAck 1 firstRequest),
      .receive (peerPacket configureRequest 1 (serializeOptions [⟨99, []⟩, ⟨optPfc, []⟩])),
      .receive (peerPacket configureRequest 2 (serializeOptions [⟨optPfc, []⟩]))]
    (fun t _ => t.session.state = .opened) (by decide +kernel)
  exact ⟨t, log, hrun, ho, opened_on_last_request hrun ho⟩

/-- The link opens although the last request of the peer was rejected, and it opens with an option of an earlier
request that the last one does not have. -/
theorem opened_on_earlier_request :
    (∃ t log, Run (steps step) { session := LcpSession.new 1 } t log ∧ t.session.state = .opened ∧
      t.history.evaluated = some (serializeOptions [⟨99, []⟩], some configureReject)) ∧
    ∃ t log, Run (steps step) { session := LcpSession.new 1 } t log ∧ t.session.state = .opened ∧
      t.history.evaluated = some ([], some configureAck) ∧ requested [] = ⟨0xFFFFFFFF, false, false⟩ ∧
      t.session.negotiated.ofPeer = ⟨0xFFFFFFFF, true, false⟩ := by
  refine ⟨?_, ?_⟩
  · exact exists_run step (fun _ _ => True) { session := new 1 }
      [.start, .receive (peerPacket configureRequest 1 []),
        .receive (peerPacket configureRequest 2 (serializeOptions [⟨99, []⟩])),
        .receive (peerPacket configureAck 1 firstRequest)]
      (fun t _ => t.session.state = .opened ∧
        t.history.evaluated = some (serializeOptions [⟨99, []⟩], some configureReject)) (by decide +kernel)
  · exact exists_run step (fun _ _ => True) { session := new 1 }
      [.start, .receive (peerPacket configureRequest 1 (serializeOptions [⟨optPfc, []⟩])),
        .receive (peerPacket configureRequest 2 []), .receive (peerPacket configureAck 1 firstRequest)]
      (fun t _ => t.session.state = .opened ∧ t.history.evaluated = some ([], some configureAck) ∧
        requested [] = ⟨0xFFFFFFFF, false, false⟩ ∧ t.session.negotiated.ofPeer = ⟨0xFFFFFFFF, true, false⟩)
      (by decide +kernel)

end OneXBts.Packet.Lcp
