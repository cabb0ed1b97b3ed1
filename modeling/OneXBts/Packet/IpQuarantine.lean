import OneXBts.Packet.IpPool

/-!
The quarantine of released hosts.

For the grace period after its release a host is reserved for its last holder (`Reserved`). The search and the claim respect
that. The reuse of a key's last host does not look at it, so that a key that once had the host gets it back although another
one has just released it (`sticky_ignores_quarantine`).
-/

namespace OneXBts.Packet.IpAllocator

open Lib Packet.Ipcp SubnetIpAllocator Function Option

variable {κ : Type}

/-! ### Calls with the releases so far -/

namespace Op

def key : Op κ → κ
  | .allocate k _ => k
  | .release k _ => k
  | .claimPeerIp k _ _ _ => k

def now : Op κ → ℕ
  | .allocate _ now => now
  | .release _ now => now
  | .claimPeerIp _ _ now _ => now

def later : Op κ → ℕ
  | .allocate _ now => now
  | .release _ now => now
  | .claimPeerIp _ _ _ later => later

end Op

structure Release (κ : Type) where
  host : ℕ
  key : κ
  time : ℕ
  deriving DecidableEq, Repr

structure Traced (κ : Type) where
  pool : SubnetIpAllocator κ
  releases : List (Release κ) := []
  clock : ℕ := 0

section Steps

variable [DecidableEq κ]

/-- The host that the key of a call had before it and has no longer. -/
def freed (p q : SubnetIpAllocator κ) (op : Op κ) : List (Release κ) :=
  match p.assigned.lookup op.key with
  | some h => if q.assigned.lookup op.key = some h then [] else [⟨h, op.key, op.later⟩]
  | none => []

def tracedStep (t : Traced κ) (op : Op κ) : Option (Traced κ × Result κ) :=
  (step t.pool op).map fun (q, result) => (⟨q, freed t.pool q op ++ t.releases, op.later⟩, result)

def Timely (t : Traced κ) (op : Op κ) : Prop := t.clock ≤ op.now ∧ op.now ≤ op.later

instance (t : Traced κ) (op : Op κ) : Decidable (Timely t op) := inferInstanceAs (Decidable (_ ∧ _))

/-- A key without a host whose last one is free does not find it in quarantine for another key. -/
def StickyOk (p : SubnetIpAllocator κ) : Op κ → Prop
  | .allocate k now => p.assigned.lookup k = none → ∀ h ∈ p.sticky k, h ∈ p.free →
      ∀ e ∈ p.recentlyReleased h, now - e.2 < p.releaseGrace → e.1 = k
  | _ => True

instance (p : SubnetIpAllocator κ) (op : Op κ) : Decidable (StickyOk p op) :=
  match op with
  | .allocate k _ => inferInstanceAs (Decidable (p.assigned.lookup k = none → ∀ h ∈ p.sticky k, _))
  | .release _ _ => .isTrue trivial
  | .claimPeerIp _ _ _ _ => .isTrue trivial

def Admissible (t : Traced κ) (op : Op κ) : Prop := Timely t op ∧ StickyOk t.pool op

instance (t : Traced κ) (op : Op κ) : Decidable (Admissible t op) := inferInstanceAs (Decidable (_ ∧ _))

end Steps

def Result.given : Result κ → Option IpcpConfig
  | .allocated config => config
  | .released => none
  | .claim (.claimed config) => some config
  | .claim (.alreadyOwned config) => some config
  | .claim (.conflict _) => none
  | .claim .outOfPool => none

def hostOf (config : IpcpConfig) : ℕ := config.peerIp.toUInt8.toNat

lemma hostOf_configForHost (p : SubnetIpAllocator κ) (hh : h ∈ hosts) : hostOf (p.configForHost h) = h := by
  have hl : (be32 p.subnet.a p.subnet.b p.subnet.c (UInt8.ofNat h)).toUInt8 = UInt8.ofNat h := by
    grind [octets32_be32, octets32]
  grind [mem_hosts, lastHost, hostOf, configForHost, UInt8.toNat_ofNat_of_lt']

/-! ### Reservations -/

variable [DecidableEq κ]

/-- A host is kept for a key since a time: while it is free it is in quarantine for the key, and otherwise the key
has it. -/
structure Reserved (p : SubnetIpAllocator κ) (h : ℕ) (k : κ) (time : ℕ) : Prop where
  free : h ∈ p.free → ∃ time', time ≤ time' ∧ p.recentlyReleased h = some (k, time')
  held : ∀ l, p.assigned.lookup l = some h → l = k

section Reserved

variable {p q : SubnetIpAllocator κ} {h g : ℕ} {k l : κ} {time now later : ℕ}

lemma Reserved.quarantined (hr : Reserved p h k time) (hf : h ∈ p.free) (ht : now - time < p.releaseGrace) :
    p.Quarantined now h := by
  obtain ⟨time', hle, he⟩ := hr.free hf
  exact ⟨k, time', he, by omega⟩

lemma Reserved.expire (hr : Reserved p h k time) (ht : now - time < p.releaseGrace) :
    Reserved (p.expireRecentlyReleased now) h k time := by
  have he := expire_recentlyReleased p now h
  rw [expire_eq]
  refine ⟨fun hf => ?_, hr.held⟩
  obtain ⟨time', hle, hold⟩ := hr.free hf
  grind

lemma Reserved.setFree (hr : Reserved p h k time) (hl : p.assigned.lookup l = some g) (hle : time ≤ later) :
    Reserved (p.setFree l g later) h k time := by
  refine ⟨fun hf => ?_, hr.held⟩
  by_cases hg : h = g
  · subst hg
    exact ⟨later, hle, by rw [hr.held l hl]; exact update_self ..⟩
  · obtain ⟨time', hle', hold⟩ := hr.free ((Finset.mem_insert.1 hf).resolve_left hg)
    exact ⟨time', hle', (update_of_ne hg _ _).trans hold⟩

lemma reserved_setFree (hh : ∀ l, p.assigned.lookup l = some h → l = k) :
    Reserved (p.setFree k h later) h k later :=
  ⟨fun _ => ⟨later, le_rfl, update_self ..⟩, hh⟩

lemma Reserved.assign (hr : Reserved p h k time) (hok : g = h → l = k) : Reserved (p.assign l g) h k time := by
  refine ⟨fun hf => ?_, fun l' hl' => ?_⟩
  · obtain ⟨hne, hf⟩ := Finset.mem_erase.1 hf
    obtain ⟨time', hle, hold⟩ := hr.free hf
    exact ⟨time', hle, (update_of_ne hne _ _).trans hold⟩
  change (p.assigned.insert l g).lookup l' = some h at hl'
  by_cases heq : l' = l
  · subst heq
    rw [AList.lookup_insert] at hl'
    exact hok (some.inj hl')
  · rw [AList.lookup_insert_ne heq] at hl'
    exact hr.held l' hl'

lemma Reserved.erase (hr : Reserved p h k time) (l : κ) :
    Reserved { p with assigned := p.assigned.erase l } h k time := by
  refine ⟨hr.free, fun l' hl' => ?_⟩
  by_cases heq : l' = l
  · subst heq
    rw [AList.lookup_erase] at hl'
    cases hl'
  · rw [AList.lookup_erase_ne heq] at hl'
    exact hr.held l' hl'

end Reserved

/-! ### Steps -/

section Steps

variable {p q : SubnetIpAllocator κ} {leases : ℕ ≃. κ} {h : ℕ} {k : κ} {time : ℕ}

section

variable (hr : Reserved p h k time)
include hr

lemma Reserved.allocate (hrep : Represents p leases)
    (hok : StickyOk p (.allocate l now)) (ht : now - time < p.releaseGrace) :
    Reserved (p.allocate l now).2 h k time := by
  have he := hr.expire ht
  obtain ⟨g, -, heq⟩ | ⟨hl, ⟨heq, -⟩ | ⟨g, n, hmem, -, hwhy, heq⟩⟩ := allocate_cases hrep l now
  · rw [heq]
    exact he
  · rw [heq]
    exact he
  rw [heq]
  refine Reserved.assign ⟨he.free, he.held⟩ ?_
  rintro rfl
  -- the host is in quarantine, so that it was chosen as the last one of the key
  have hs := hwhy.resolve_left fun hnot => hnot (hr.quarantined hmem ht)
  obtain ⟨time', hle, hen⟩ := hr.free hmem
  exact (hok hl g hs hmem _ hen (show now - time' < _ by omega)).symm

lemma Reserved.release (hle : time ≤ now) :
    Reserved (p.release l now) h k time := by
  unfold SubnetIpAllocator.release
  cases hl : p.assigned.lookup l with
  | none => exact hr
  | some => exact (hr.setFree hl hle).erase l

lemma Reserved.claimPeerIp (hrep : Represents p leases)
    (hle : time ≤ later) (ht : now - time < p.releaseGrace) :
    Reserved (p.claimPeerIp l ip now later).2 h k time := by
  have he := hr.expire ht
  obtain ⟨-, heq⟩ | ⟨g, -, hc, ⟨-, heq⟩ | ⟨hmem, heq⟩⟩ := claimPeerIp_cases hrep l ip now later
  · rw [heq]
    exact he
  · rw [heq]
    exact he
  rw [heq]
  refine Reserved.assign ?_ ?_
  · cases hl : p.assigned.lookup l with
    | none => exact he
    | some => exact he.setFree (by rw [expire_eq]; exact hl) hle
  · grind [cases Reserved, SubnetIpAllocator.Quarantined]

/-- **A call keeps the reservations** that are not over when it begins. -/
theorem Reserved.step (hrep : Represents p leases)
    (hok : StickyOk p op) (hle : time ≤ op.later) (ht : op.now - time < p.releaseGrace)
    (hs : step p op = some (q, result)) : Reserved q h k time := by
  cases op with
  | allocate =>
    obtain ⟨rfl, rfl⟩ := step_allocate hs
    exact hr.allocate hrep hok ht
  | release =>
    obtain ⟨rfl, rfl⟩ := step_release hs
    exact hr.release hle
  | claimPeerIp =>
    obtain ⟨rfl, rfl⟩ := step_claimPeerIp hs
    exact hr.claimPeerIp hrep hle ht

end

lemma mem_freed (he : e ∈ freed p q op) :
    e = ⟨e.host, op.key, op.later⟩ ∧ p.assigned.lookup op.key = some e.host ∧
      q.assigned.lookup op.key ≠ some e.host := by grind [freed]

/-- **The host that a call frees is reserved** for the key that had it. -/
theorem reserved_freed (hrep : Represents p leases)
    (hs : IpAllocator.step p op = some (q, result)) (he : e ∈ freed p q op) :
    Reserved q e.host e.key e.time := by
  obtain ⟨heq, hp, hq⟩ := mem_freed he
  have ho : ∀ l, p.assigned.lookup l = some e.host → l = op.key := fun l hl =>
    some.inj ((hrep.lookup_iff.1 hl).symm.trans (hrep.lookup_iff.1 hp))
  rw [heq]
  cases op with
  | allocate =>
    -- a key that has a host keeps it
    obtain ⟨rfl, rfl⟩ := step_allocate hs
    grind [expire_assigned, SubnetIpAllocator.allocate, Op.key]
  | release l =>
    obtain ⟨rfl, rfl⟩ := step_release hs
    change p.assigned.lookup l = some e.host at hp
    unfold SubnetIpAllocator.release
    rw [hp]
    exact (reserved_setFree ho).erase l
  | claimPeerIp l ip now later =>
    obtain ⟨rfl, rfl⟩ := step_claimPeerIp hs
    change p.assigned.lookup l = some e.host at hp
    obtain ⟨-, hc⟩ | ⟨g, -, -, ⟨-, hc⟩ | ⟨-, hc⟩⟩ := claimPeerIp_cases hrep l ip now later
    any_goals
      rw [hc, expire_assigned] at hq
      exact absurd hp hq
    · rw [hc, hp]
      exact Reserved.assign (reserved_setFree fun l' hl' => ho l' (by rwa [expire_assigned] at hl')) fun _ => rfl

lemma lookup_of_given (hrep : Represents p leases)
    (hs : IpAllocator.step p op = some (q, result)) (hg : result.given = some config) :
    q.assigned.lookup op.key = some (hostOf config) := by
  have hh {l : κ} {g : ℕ} (hl : p.assigned.lookup l = some g) : g ∈ hosts := hrep.inside g l (hrep.lookup_iff.1 hl)
  cases op with
  | allocate l now =>
    obtain ⟨rfl, rfl⟩ := step_allocate hs
    obtain ⟨g, hl, hc⟩ | ⟨-, ⟨hc, -⟩ | ⟨g, n, hmem, -, -, hc⟩⟩ := allocate_cases hrep l now
    · rw [hc] at hg ⊢
      cases hg
      rw [expire_assigned, hostOf_configForHost p (hh hl)]
      exact hl
    · rw [hc] at hg
      cases hg
    rw [hc] at hg ⊢
    cases hg
    rw [hostOf_configForHost p (hrep.free_subset g hmem)]
    exact AList.lookup_insert _
  | release =>
    obtain ⟨rfl, rfl⟩ := step_release hs
    cases hg
  | claimPeerIp l ip now later =>
    obtain ⟨rfl, rfl⟩ := step_claimPeerIp hs
    obtain ⟨hre, -⟩ | ⟨g, -, -, ⟨hl, hc⟩ | ⟨hmem, hc⟩⟩ := claimPeerIp_cases hrep l ip now later
    · obtain hr | ⟨_, hr⟩ := hre <;>
      · rw [hr] at hg
        cases hg
    · rw [hc] at hg ⊢
      cases hg
      rw [expire_assigned, hostOf_configForHost p (hh hl)]
      exact hl
    · rw [hc] at hg ⊢
      cases hg
      rw [hostOf_configForHost p (hrep.free_subset g hmem)]
      exact AList.lookup_insert _

lemma step_releaseGrace (hrep : Represents p leases)
    (hs : IpAllocator.step p op = some (q, result)) : q.releaseGrace = p.releaseGrace := by
  cases op with
  | allocate l now =>
    obtain ⟨rfl, rfl⟩ := step_allocate hs
    obtain ⟨g, -, hc⟩ | ⟨-, ⟨hc, -⟩ | ⟨g, n, -, -, -, hc⟩⟩ := allocate_cases hrep l now
    all_goals rw [hc]
    all_goals exact expire_releaseGrace p now
  | release l =>
    obtain ⟨rfl, rfl⟩ := step_release hs
    unfold SubnetIpAllocator.release
    cases p.assigned.lookup l <;> rfl
  | claimPeerIp l ip now later =>
    obtain ⟨rfl, rfl⟩ := step_claimPeerIp hs
    obtain ⟨-, hc⟩ | ⟨g, -, -, ⟨-, hc⟩ | ⟨-, hc⟩⟩ := claimPeerIp_cases hrep l ip now later
    all_goals rw [hc]
    any_goals exact expire_releaseGrace p now
    · cases p.assigned.lookup l <;> exact expire_releaseGrace p now

end Steps

/-! ### Runs -/

/-- Every release that is less than the grace period old is a reservation. -/
structure Kept (grace : ℕ) (t : Traced κ) : Prop where
  represents : ∃ leases, Represents t.pool leases
  period : t.pool.releaseGrace = grace
  past : ∀ e ∈ t.releases, e.time ≤ t.clock
  reserved : ∀ e ∈ t.releases, t.clock - e.time < grace → Reserved t.pool e.host e.key e.time

lemma Kept.step (ht : Kept grace t) {op : Op κ} {result : Result κ}
    (hs : guarded tracedStep Admissible t op t' result) :
    Kept grace t' ∧ IpAllocator.step t.pool op = some (t'.pool, result) ∧
      ∀ e ∈ t.releases, op.now - e.time < grace → Reserved t'.pool e.host e.key e.time := by
  obtain ⟨⟨⟨hcl, hnow⟩, hok⟩, hs⟩ := hs
  obtain ⟨⟨q, result'⟩, hc, hst⟩ := map_eq_some_iff.1 hs
  cases hst
  obtain ⟨leases, hrep⟩ := ht.represents
  have hk : ∀ e ∈ t.releases, op.now - e.time < grace → Reserved q e.host e.key e.time := by
    intro e he hti
    have hp := ht.past e he
    exact (ht.reserved e he (by omega)).step hrep hok (by omega) (by rw [ht.period]; exact hti) hc
  refine ⟨⟨hrep.step hc, (step_releaseGrace hrep hc).trans ht.period, fun e he => ?_, fun e he hti => ?_⟩, hc, hk⟩
  · obtain he | he := List.mem_append.1 he
    · rw [(mem_freed he).1]
    · exact (ht.past e he).trans (hcl.trans hnow)
  grind [reserved_freed]

/-- **Quarantine.** For every pool, every grace period and every sequence of calls, at any readings of a clock that
does not go back, in which no key without a host finds its last one free but in quarantine for another key: a host
that a key has released, or given up for another one, is given to no other key during the grace period. -/
theorem released_host_reserved {gateway dns dns' : UInt32} {up down mobile : Bool} {p₀ : SubnetIpAllocator κ}
    (hnew : newWithPacketOptions gateway dns dns' up down mobile = .ok p₀) (grace : ℕ) {t : Traced κ}
    {log : List (Op κ × Result κ)}
    (hrun : Run (guarded tracedStep Admissible) { pool := { p₀ with releaseGrace := grace } } t log)
    {op : Op κ} {t' : Traced κ} {result : Result κ} (hcall : guarded tracedStep Admissible t op t' result)
    {config : IpcpConfig} (hgiven : result.given = some config) :
    ∀ e ∈ t.releases, e.host = hostOf config → op.now - e.time < grace → op.key = e.key := by
  have ht : Kept grace t := by
    refine hrun.inv (fun t _ => Kept grace t) ⟨⟨⊥, represents_new hnew grace⟩, rfl, ?_, ?_⟩ ?_
    any_goals exact fun e he => absurd he List.not_mem_nil
    · exact fun t op t' result log ht hs => (ht.step hs).1
  obtain ⟨leases, hrep⟩ := ht.represents
  obtain ⟨-, hs, hk⟩ := ht.step hcall
  intro e he hh hti
  refine (hk e he hti).held op.key ?_
  rw [hh]
  exact lookup_of_given hrep hs hgiven

/-- A session releases 10.55.0.2 and claims it back: the release is by the same session. -/
theorem released_host_reserved_claim_back :
    ∃ t log op t' result config,
      Run (guarded tracedStep Admissible) { pool := { defaultSubnet with releaseGrace := 60 } } t log ∧
      guarded tracedStep Admissible t op t' result ∧ Result.given result = some config ∧ hostOf config = 2 ∧
      ⟨2, 1, 5⟩ ∈ t.releases ∧ op.key = 1 := by
  obtain ⟨t, log, hrun, hmem, hok, hca⟩ := exists_run tracedStep Admissible
    { pool := { defaultSubnet with releaseGrace := 60 } } [.allocate 1 0, .allocate 2 1, .release 1 5]
    (fun t _ => ⟨2, 1, 5⟩ ∈ t.releases ∧ Admissible t (.claimPeerIp 1 0x0A370002 6 7) ∧
      (tracedStep t (.claimPeerIp 1 0x0A370002 6 7)).any (fun x => x.2.given.any fun c => hostOf c = 2) = true)
    (by decide +kernel)
  obtain ⟨⟨t', result⟩, hs, hg⟩ := (any_eq_true _ _).1 hca
  obtain ⟨config, hc, hh⟩ := (any_eq_true _ _).1 hg
  have hh : hostOf config = 2 := of_decide_eq_true hh
  have hnew : newWithPacketOptions 0x0A370001 0x0A370001 0x0A370001 false false false = .ok defaultSubnet := rfl
  exact ⟨t, log, _, t', result, config, hrun, ⟨hok, hs⟩, hc, hh, hmem,
    released_host_reserved hnew 60 hrun ⟨hok, hs⟩ hc ⟨2, 1, 5⟩ hmem hh.symm (by decide)⟩

/-- Session 1 has 10.55.0.2 and releases it. After the grace period session 2 claims it and releases it at 61.
At 62 session 1 is given it. -/
theorem sticky_ignores_quarantine :
    newWithPacketOptions 0x0A370001 0x0A370001 0x0A370001 false false false = .ok defaultSubnet ∧
    ∃ t log, Run (guarded tracedStep Timely) { pool := { defaultSubnet with releaseGrace := 60 } } t log ∧
      Timely t (.allocate 1 62) ∧ (t.pool.allocate 1 62).1.map hostOf = some 2 ∧ ⟨2, 2, 61⟩ ∈ t.releases :=
  ⟨rfl, exists_run tracedStep Timely { pool := { defaultSubnet with releaseGrace := 60 } }
    [.allocate 1 0, .release 1 0, .claimPeerIp 2 0x0A370002 60 60, .release 2 61]
    (fun t _ => Timely t (.allocate 1 62) ∧ (t.pool.allocate 1 62).1.map hostOf = some 2 ∧
      ⟨2, 2, 61⟩ ∈ t.releases) (by decide +kernel)⟩

end OneXBts.Packet.IpAllocator
