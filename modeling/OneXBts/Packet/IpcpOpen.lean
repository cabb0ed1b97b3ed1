import OneXBts.Packet.Ipcp
import OneXBts.Packet.PppAgreement

/-!
What an open IPCP has agreed on.

By the rules of `PppAgreement`, an acknowledged request of the peer has the configured addresses. A request that is rejected
clears the flag of an earlier Configure-Ack; one that is answered with a Configure-Nak does not, and then IPCP can open on it
(`opened_after_nak`).
-/

namespace OneXBts.Packet.Ipcp

open Lib Packet.Ppp Packet.Vj List

/-! ### Requests and their answers -/

/-- Every address in a request is the configured one. -/
def AddressesOk (config : IpcpConfig) (data : Bytes) : Prop :=
  ∀ opt ∈ parseOptions data, ∀ ip ∈ assigned config opt.optType, bytesToIp opt.data = some ip

/-- A request with an IP-Address option that is not the configured one. -/
def WrongAddress (config : IpcpConfig) (data : Bytes) : Prop :=
  ∃ opt ∈ parseOptions data, opt.optType = optIpAddress ∧ bytesToIp opt.data ≠ some config.peerIp

lemma assigned_ipAddress (config : IpcpConfig) : assigned config optIpAddress = some config.peerIp := rfl

lemma WrongAddress.not_ok (h : WrongAddress config data) :
    ¬ AddressesOk config data := by
  obtain ⟨opt, hopt, ht, hne⟩ := h
  intro hok
  exact hne (hok opt hopt config.peerIp (by rw [ht]; rfl))

lemma mem_peerNaks {config : IpcpConfig} {opts : List ControlOption} {opt : ControlOption} (hopt : opt ∈ opts)
    {ip : UInt32} (hip : assigned config opt.optType = some ip) (hne : bytesToIp opt.data ≠ some ip) :
    (⟨opt.optType, ipToBytes ip⟩ : ControlOption) ∈ opts.filterMap (peerNak config) := by grind [peerNak]

/-- **An acknowledged request has the configured addresses.** -/
theorem addressesOk_of_acked {s : IpcpSession} {data : Bytes} (hr : s.rejectsOf (parseOptions data) = [])
    (hn : s.naksOf (parseOptions data) = []) : AddressesOk s.config data := by
  intro opt hopt ip hip
  by_contra hne
  have hmem := mem_peerNaks hopt hip hne
  cases hc : s.converts ⟨opt.optType, ipToBytes ip⟩ with
  | true =>
    -- Max-Failure: the option itself would be rejected
    obtain ⟨o, ho⟩ := Option.isSome_iff_exists.1
      (List.find?_isSome.2 ⟨opt, hopt, by simp⟩ : ((parseOptions data).find? fun o => o.optType = opt.optType).isSome)
    have hin : o ∈ s.rejectsOf (parseOptions data) := by
      refine mem_append_right _ (mem_filterMap.2 ⟨_, mem_filter.2 ⟨hmem, hc⟩, ho⟩)
    rw [hr] at hin
    cases hin
  | false =>
    have hin : (⟨opt.optType, ipToBytes ip⟩ : ControlOption) ∈ s.naksOf (parseOptions data) :=
      mem_append_left _ (mem_filter.2 ⟨hmem, by rw [hc]; rfl⟩)
    rw [hn] at hin
    cases hin

section SimpleIp

variable {s : IpcpSession}

section

variable (hs : s.config.mobileIpEnabled = false)
include hs

lemma converts_ipAddress
    (h : opt.optType = optIpAddress) : s.converts opt = false := by simp [IpcpSession.converts, h, hs]

lemma naksOf_ne_nil {data : Bytes} (h : WrongAddress s.config data) :
    s.naksOf (parseOptions data) ≠ [] := by
  obtain ⟨opt, hopt, ht, hne⟩ := h
  have hip : assigned s.config opt.optType = some s.config.peerIp := by rw [ht]; rfl
  have hc : s.converts ⟨opt.optType, ipToBytes s.config.peerIp⟩ = false := converts_ipAddress hs ht
  refine ne_nil_of_mem (mem_append_left _ (mem_filter.2 ⟨mem_peerNaks hopt hip hne, ?_⟩))
  rw [hc]
  rfl

lemma rejectsOf_ipAddress
    (h : opt ∈ s.rejectsOf opts) : opt.optType ≠ optIpAddress := by
  intro ht
  obtain h | h := mem_append.1 h <;> grind [isRejected, assigned_ipAddress, converts_ipAddress]

end

end SimpleIp

/-- The session as it evaluates a request: in Opened a changed request restarts the negotiation first. -/
def evaluating (s : IpcpSession) : IpcpSession := if s.state = .opened then s.restart.2 else s

lemma answer_receiveConfigureRequest (hnew : ¬ (s.state = .opened ∧ ipcp.data = s.lastAckedPeerRequestData)) :
    History.answer (s.receiveConfigureRequest ipcp).1 =
      ((evaluating s).answerConfigureRequest ipcp).1.payload.head? := by
  unfold IpcpSession.receiveConfigureRequest evaluating
  split_ifs
  · rfl
  · rfl

lemma answer_code (s : IpcpSession) (ipcp : ControlPacket) :
    (s.answerConfigureRequest ipcp).1.payload.head? =
      some (if s.rejectsOf (parseOptions ipcp.data) ≠ [] then configureReject
        else if s.naksOf (parseOptions ipcp.data) = [] then configureAck else configureNak) := by
  unfold IpcpSession.answerConfigureRequest
  dsimp only
  split_ifs
  · rfl
  · rfl
  · rfl

/-! ### Sessions with what has gone over the wire -/

inductive Call where
  | start
  | maybeRetransmitConfigureRequest
  | receive (p : PppPacket)

structure Traced where
  session : IpcpSession
  history : History := {}

def step (t : Traced) : Call → Option (Traced × List PppPacket)
  | .start =>
    let (p, s) := t.session.start
    some ({ t with session := s }, [p])
  | .maybeRetransmitConfigureRequest =>
    let (p, s) := t.session.maybeRetransmitConfigureRequest
    some ({ t with session := s }, p.toList)
  | .receive p =>
    let (replies, s) := t.session.receive p
    some (⟨s, t.history.record t.session.toAutomaton p replies⟩, replies)

/-- A request of the peer outside Opened is answered with a Configure-Nak only when no earlier one is
acknowledged. -/
def RequestOk (s : IpcpSession) (data : Bytes) : Prop :=
  s.state ≠ .opened → s.rejectsOf (parseOptions data) = [] → s.naksOf (parseOptions data) ≠ [] → s.weAcked = false

instance (s : IpcpSession) (data : Bytes) : Decidable (RequestOk s data) := inferInstanceAs (Decidable (_ → _))

def Admissible (t : Traced) : Call → Prop
  | .receive p => ∀ ipcp ∈ ControlPacket.parse p.payload, ipcp.code = configureRequest → RequestOk t.session ipcp.data
  | _ => True

instance (t : Traced) (c : Call) : Decidable (Admissible t c) :=
  match c with
  | .start => .isTrue trivial
  | .maybeRetransmitConfigureRequest => .isTrue trivial
  | .receive p => inferInstanceAs (Decidable (∀ ipcp ∈ ControlPacket.parse p.payload, _))

/-! ### The invariant -/

/-- The flags tell the truth, and the addresses and the compression options are those of the two acknowledged
requests. Without `vj` nothing is said about the compression option of the peer, which a Configure-Nak clears. -/
def Agreed (config : IpcpConfig) (vj : Bool) (s : IpcpSession) (h : History) : Prop :=
  s.config = config ∧ s.toAutomaton.Agreed h
    (fun data => AddressesOk config data ∧ (vj = true → s.peerVj = parseVjOption data))
    (fun data => s.localVj = parseVjOption data)

/-- What holds in every run: the flags tell the truth about some history, in which a request that is answered with a
Configure-Nak need not be recorded. -/
def Sound (config : IpcpConfig) (s : IpcpSession) : Prop := ∃ h, Agreed config false s h

section Kept

variable {config : IpcpConfig} {vj : Bool} {s : IpcpSession} {h : History}

/-- **An answered request.** A Configure-Nak needs that no earlier request is acknowledged. -/
theorem Agreed.answer (ha : Agreed config vj s h) (hs : s.state ≠ .opened) (ipcp : ControlPacket)
    (hok : s.rejectsOf (parseOptions ipcp.data) = [] → s.naksOf (parseOptions ipcp.data) ≠ [] → s.weAcked = false) :
    Agreed config vj (s.answerConfigureRequest ipcp).2
      (h.recordRequest ipcp.data ((s.answerConfigureRequest ipcp).1.payload.head?)) := by
  obtain ⟨hc, ha⟩ := ha
  unfold IpcpSession.answerConfigureRequest
  dsimp only
  split_ifs with hr hn
  · exact ⟨hc, ha.unack hs _ _⟩
  · refine ⟨hc, ha.ackPeer ⟨?_, fun _ => rfl⟩ fun _ hq => hq⟩
    rw [← hc]
    exact addressesOk_of_acked (not_not.1 hr) hn
  · exact ⟨hc, ha.refuse (hok (not_not.1 hr) hn) _ _⟩

lemma Sound.answer (hs : Sound config s) (hst : s.state ≠ .opened) (ipcp : ControlPacket) :
    Sound config (s.answerConfigureRequest ipcp).2 := by
  obtain ⟨h, ha⟩ := hs
  by_cases hok : s.rejectsOf (parseOptions ipcp.data) = [] → s.naksOf (parseOptions ipcp.data) ≠ [] →
      s.weAcked = false
  · exact ⟨_, ha.answer hst ipcp hok⟩
  push Not at hok
  obtain ⟨hr, hn, -⟩ := hok
  obtain ⟨hc, ha⟩ := ha
  refine ⟨h, ?_⟩
  rw [IpcpSession.answerConfigureRequest]
  simp only [hr, if_neg hn]
  exact ⟨hc, Automaton.Agreed.updateState
    ⟨ha.opened, fun hw => ⟨(ha.peer hw).1, (ha.peer hw).2.1, (ha.peer hw).2.2.1, nofun⟩, ha.ours⟩⟩

lemma state_restart (s : IpcpSession) : s.restart.2.state ≠ .opened := by
  simp [IpcpSession.restart, IpcpSession.start, IpcpSession.sendConfigureRequest, Automaton.sendConfigureRequest]

lemma agreed_restart (hc : s.config = config) : Agreed config vj s.restart.2 h :=
  ⟨hc, Automaton.agreed_of_flags (state_restart s) rfl rfl⟩

lemma Agreed.receiveConfigureRequest (ha : Agreed config vj s h) (ipcp : ControlPacket)
    (hok : RequestOk s ipcp.data) : Agreed config vj (s.receiveConfigureRequest ipcp).2
      (h.recordRequest ipcp.data (History.answer (s.receiveConfigureRequest ipcp).1)) := by
  unfold IpcpSession.receiveConfigureRequest
  split_ifs with hdup ho
  · rw [hdup.2]
    exact ⟨ha.1, ha.2.duplicate⟩
  · exact (agreed_restart ha.1).answer (state_restart s) ipcp fun _ _ => rfl
  · exact ha.answer ho ipcp (hok ho)

lemma Sound.receiveConfigureRequest (hs : Sound config s) (ipcp : ControlPacket) :
    Sound config (s.receiveConfigureRequest ipcp).2 := by
  unfold IpcpSession.receiveConfigureRequest
  split_ifs with hdup ho
  · exact hs
  · obtain ⟨h, ha⟩ := hs
    exact Sound.answer ⟨h, agreed_restart ha.1⟩ (state_restart s) ipcp
  · exact hs.answer ho ipcp

lemma Agreed.receiveConfigureAck (ha : Agreed config vj s h) (hac : s.acks ipcp = true) :
    Agreed config vj (s.receiveConfigureAck ipcp).2 { h with ours := some ipcp.data } := by
  unfold IpcpSession.receiveConfigureAck
  rw [hac]
  refine ⟨ha.1, ha.2.ackOurs (fun _ hp => hp) ?_ _⟩
  rfl

lemma Agreed.adoptVj (ha : Agreed config vj s h) (opt : ControlOption) : Agreed config vj (s.adoptVj opt) h := by
  unfold IpcpSession.adoptVj
  split_ifs
  · cases VjCompressionOptions.fromIpcpData opt.data <;> exact ha
  · exact ha

lemma Agreed.dropOption (ha : Agreed config vj s h) (opt : ControlOption) :
    Agreed config vj (s.dropOption opt) h := by
  unfold IpcpSession.dropOption
  split_ifs <;> exact ha

lemma Agreed.foldl
    (hf : ∀ {s : IpcpSession} (opt : ControlOption), Agreed config vj s h → Agreed config vj (f s opt) h)
    (ha : Agreed config vj s h) (opts : List ControlOption) : Agreed config vj (opts.foldl f s) h := by
  induction opts generalizing s <;> grind

section

variable (ha : Agreed config vj s h)
include ha

lemma Agreed.receiveConfigureNak (ipcp : ControlPacket) :
    Agreed config vj (s.receiveConfigureNak ipcp).2 h := by
  unfold IpcpSession.receiveConfigureNak
  split_ifs
  · exact ha
  · have hs := Agreed.foldl (fun opt ha => ha.adoptVj opt) ha (parseOptions ipcp.data)
    exact ⟨hs.1, hs.2.resend _⟩

lemma Agreed.receiveConfigureReject (ipcp : ControlPacket) :
    Agreed config vj (s.receiveConfigureReject ipcp).2 h := by
  unfold IpcpSession.receiveConfigureReject
  split_ifs
  · exact ha
  · have hs := Agreed.foldl (fun opt ha => ha.dropOption opt) ha (parseOptions ipcp.data)
    exact ⟨hs.1, hs.2.resend _⟩

lemma Agreed.receive_other (p : PppPacket)
    (ho : ∀ ipcp ∈ ControlPacket.parse p.payload, ipcp.code ≠ configureRequest) :
    Agreed config vj (s.receive p).2 (h.record s.toAutomaton p (s.receive p).1) := by
  unfold IpcpSession.receive History.record
  cases hp : ControlPacket.parse p.payload with
  | none => exact ha
  | some ipcp =>
    have hr := ho ipcp hp
    dsimp only
    rw [if_neg hr, if_neg hr]
    by_cases hack : ipcp.code = configureAck
    · rw [if_pos hack]
      by_cases hac : s.acks ipcp = true
      · rw [if_pos ⟨hack, hac⟩]
        exact ha.receiveConfigureAck hac
      grind [IpcpSession.receiveConfigureAck]
    rw [if_neg hack, if_neg (show ¬ (ipcp.code = configureAck ∧ s.acks ipcp = true) from fun hc => hack hc.1)]
    split_ifs
    · exact ha.receiveConfigureNak ipcp
    · exact ha.receiveConfigureReject ipcp
    · exact ⟨ha.1, Automaton.agreed_of_flags (by simp [IpcpSession.receiveTerminateRequest]) rfl rfl⟩
    · exact ⟨ha.1, Automaton.agreed_of_flags (by simp [IpcpSession.receiveTerminateAck]) rfl rfl⟩
    · exact ha
    · exact ⟨ha.1, ha.2.allocId⟩

/-- **One packet of the peer.** -/
theorem Agreed.receive (p : PppPacket)
    (hok : ∀ ipcp ∈ ControlPacket.parse p.payload, ipcp.code = configureRequest → RequestOk s ipcp.data) :
    Agreed config vj (s.receive p).2 (h.record s.toAutomaton p (s.receive p).1) := by
  by_cases ho : ∀ ipcp ∈ ControlPacket.parse p.payload, ipcp.code ≠ configureRequest
  · exact ha.receive_other p ho
  push Not at ho
  obtain ⟨ipcp, hp, hc⟩ := ho
  have hp' : ControlPacket.parse p.payload = some ipcp := hp
  simp only [IpcpSession.receive, History.record, hp', if_pos hc]
  exact ha.receiveConfigureRequest ipcp (hok ipcp hp hc)

end

lemma Sound.receive (hs : Sound config s) (p : PppPacket) : Sound config (s.receive p).2 := by
  by_cases ho : ∀ ipcp ∈ ControlPacket.parse p.payload, ipcp.code ≠ configureRequest
  · obtain ⟨h, ha⟩ := hs
    exact ⟨_, ha.receive_other p ho⟩
  push Not at ho
  obtain ⟨ipcp, hp, hc⟩ := ho
  have hp' : ControlPacket.parse p.payload = some ipcp := hp
  simp only [IpcpSession.receive, hp', if_pos hc]
  exact hs.receiveConfigureRequest ipcp

end Kept

/-! ### Runs -/

section Runs

variable {config : IpcpConfig} {t t' : Traced} {c : Call} {replies : List PppPacket}

lemma Agreed.step (ha : Agreed config true t.session t.history) (hok : Admissible t c)
    (hs : step t c = some (t', replies)) : Agreed config true t'.session t'.history := by
  cases c with
  | start =>
    cases hs
    exact ⟨ha.1, ha.2.sendConfigureRequest _⟩
  | maybeRetransmitConfigureRequest =>
    cases hs
    exact ⟨ha.1, ha.2.maybeRetransmit _⟩
  | receive p =>
    cases hs
    exact ha.receive p hok

lemma Sound.step (hs : Sound config t.session) (hst : step t c = some (t', replies)) :
    Sound config t'.session := by
  cases c with
  | start =>
    cases hst
    obtain ⟨h, ha⟩ := hs
    exact ⟨h, ha.1, ha.2.sendConfigureRequest _⟩
  | maybeRetransmitConfigureRequest =>
    cases hst
    obtain ⟨h, ha⟩ := hs
    exact ⟨h, ha.1, ha.2.maybeRetransmit _⟩
  | receive p =>
    cases hst
    exact hs.receive p

lemma agreed_new (config : IpcpConfig) (vj : Bool) (h : History) : Agreed config vj (IpcpSession.new config) h :=
  ⟨rfl, Automaton.agreed_of_flags (by simp [IpcpSession.new]) rfl rfl⟩

end Runs

/-- **A wrong address is never acknowledged.** The request is answered with a Configure-Nak, or with a Configure-Reject
of other options in it. -/
theorem Sound.wrong_address (hs : Sound config s)
    (hsi : config.mobileIpEnabled = false) (hw : WrongAddress config ipcp.data) :
    History.answer (s.receiveConfigureRequest ipcp).1 ≠ some configureAck ∧
    ((evaluating s).rejectsOf (parseOptions ipcp.data) = [] →
      History.answer (s.receiveConfigureRequest ipcp).1 = some configureNak) ∧
    ∀ opt ∈ (evaluating s).rejectsOf (parseOptions ipcp.data), opt.optType ≠ optIpAddress := by
  obtain ⟨h, hc, ha⟩ := hs
  have hnew : ¬ (s.state = .opened ∧ ipcp.data = s.lastAckedPeerRequestData) := by
    rintro ⟨ho, hda⟩
    obtain ⟨-, -, hok, -⟩ := ha.peer (ha.opened ho).1
    rw [← hda] at hok
    exact hw.not_ok hok
  have hc' : (evaluating s).config = config := by
    unfold evaluating
    split_ifs
    · exact hc
    · exact hc
  have hsi' : (evaluating s).config.mobileIpEnabled = false := by rw [hc', hsi]
  have hn := naksOf_ne_nil hsi' (hc'.symm ▸ hw)
  rw [answer_receiveConfigureRequest hnew, answer_code, if_neg hn]
  grind [rejectsOf_ipAddress, Packet.Ppp.configureReject, Packet.Ppp.configureNak, Packet.Ppp.configureAck]

/-- **IPCP opens on an agreed address.** For every configuration: (1) in every run from a new session in which no
request of the peer is answered with a Configure-Nak while an earlier one is acknowledged, Opened means that the last
request of the peer was acknowledged, that every address in it is the configured one, and that the two compression
options are those of that request and of our acknowledged one. (2) In every run, without Mobile IP, a request with a
wrong IP-Address option is not acknowledged; it is answered with a Configure-Nak unless another option of it is
rejected, and the IP-Address option itself is never rejected. -/
theorem opened_on_agreed_address (config : IpcpConfig) :
    (∀ t log, Run (guarded step Admissible) { session := IpcpSession.new config } t log →
      t.session.state = .opened →
      ∃ peer ours, t.history.evaluated = some (peer, some configureAck) ∧ t.history.acknowledged = some peer ∧
        t.history.ours = some ours ∧ AddressesOk config peer ∧ t.session.peerVj = parseVjOption peer ∧
        t.session.localVj = parseVjOption ours) ∧
    (config.mobileIpEnabled = false → ∀ t log, Run (steps step) { session := IpcpSession.new config } t log →
      ∀ (p : PppPacket) (ipcp : ControlPacket), ControlPacket.parse p.payload = some ipcp →
      ipcp.code = configureRequest → WrongAddress config ipcp.data →
      History.answer (t.session.receive p).1 ≠ some configureAck ∧
      ((evaluating t.session).rejectsOf (parseOptions ipcp.data) = [] →
        History.answer (t.session.receive p).1 = some configureNak) ∧
      ∀ opt ∈ (evaluating t.session).rejectsOf (parseOptions ipcp.data), opt.optType ≠ optIpAddress) := by
  refine ⟨fun t log hrun ho => ?_, fun hsi t log hrun p ipcp hp hc hw => ?_⟩
  · have ha : Agreed config true t.session t.history := by
      refine hrun.inv (fun t _ => Agreed config true t.session t.history) (agreed_new config true {}) ?_
      intro t c t' replies log ha hst
      exact ha.step hst.1 hst.2
    obtain ⟨peer, ours, he, hack, hou, ⟨had, hpe⟩, hl⟩ := ha.2.of_opened ho
    exact ⟨peer, ours, he, hack, hou, had, hpe rfl, hl⟩
  · have hs : Sound config t.session := by
      refine hrun.inv (fun t _ => Sound config t.session) ⟨{}, agreed_new config false {}⟩ ?_
      intro t c t' replies log hs hst
      exact hs.step hst.2
    have hr : t.session.receive p = t.session.receiveConfigureRequest ipcp := by
      simp only [IpcpSession.receive, hp, if_pos hc]
    rw [hr]
    exact hs.wrong_address hsi hw

def peerPacket (code identifier : UInt8) (data : Bytes) : PppPacket := ppp ⟨code, identifier, data⟩

def addressRequest (identifier : UInt8) (addr : UInt32) : PppPacket :=
  peerPacket configureRequest identifier (serializeOptions [⟨optIpAddress, ipToBytes addr⟩])

/-- The peer asks for 0.0.0.0, is told its address, asks for that, and acknowledges our request; a wrong address is
answered with a Configure-Nak then. -/
theorem opened_on_agreed_address_default :
    (∃ t log, Run (guarded step Admissible) { session := IpcpSession.new {} } t log ∧ t.session.state = .opened ∧
      ∃ peer ours, t.history.evaluated = some (peer, some configureAck) ∧ t.history.acknowledged = some peer ∧
        t.history.ours = some ours ∧ AddressesOk {} peer ∧ t.session.peerVj = parseVjOption peer ∧
        t.session.localVj = parseVjOption ours) ∧
    History.answer ((IpcpSession.new {}).receive (addressRequest 1 0)).1 = some configureNak := by
  refine ⟨?_, ?_⟩
  · obtain ⟨t, log, hrun, ho⟩ := exists_run step Admissible { session := IpcpSession.new {} }
      [.start, .receive (addressRequest 1 0), .receive (addressRequest 2 0x0A000002),
        .receive (peerPacket configureAck 1 (IpcpSession.new {}).ourRequestData)]
      (fun t _ => t.session.state = .opened) (by decide +kernel)
    exact ⟨t, log, hrun, ho, (opened_on_agreed_address {}).1 t log hrun ho⟩
  · exact ((opened_on_agreed_address {}).2 rfl _ _ .nil (addressRequest 1 0)
      ⟨configureRequest, 1, serializeOptions [⟨optIpAddress, ipToBytes 0⟩]⟩ (by decide) rfl
      ⟨⟨optIpAddress, ipToBytes 0⟩, by decide, rfl, by decide⟩).2.1 (by decide)

/-- A request is acknowledged, the next one is answered with a Configure-Nak, and when the peer acknowledges our
request IPCP opens. And a wrong address beside an unknown option is answered with a Configure-Reject of that
option. -/
theorem opened_after_nak :
    (∃ t log, Run (steps step) { session := IpcpSession.new {} } t log ∧ t.session.state = .opened ∧
      t.history.evaluated = some (serializeOptions [⟨optIpAddress, ipToBytes 0⟩], some configureNak)) ∧
    ((IpcpSession.new {}).receive (peerPacket configureRequest 1
      (serializeOptions [⟨optIpAddress, ipToBytes 0⟩, ⟨99, []⟩]))).1 =
      [peerPacket configureReject 1 (serializeOptions [⟨99, []⟩])] := by
  refine ⟨?_, by decide +kernel⟩
  exact exists_run step (fun _ _ => True) { session := IpcpSession.new {} }
    [.start, .receive (addressRequest 1 0x0A000002), .receive (addressRequest 2 0),
      .receive (peerPacket configureAck 1 (IpcpSession.new {}).ourRequestData)]
    (fun t _ => t.session.state = .opened ∧
      t.history.evaluated = some (serializeOptions [⟨optIpAddress, ipToBytes 0⟩], some configureNak))
    (by decide +kernel)

end OneXBts.Packet.Ipcp
