import OneXBts.Lib.Leases
import OneXBts.Packet.IpAllocator

/-!
The bookkeeping of the pool.

`Represents` ties `free` and `assigned` to the leases of `Lib.Leases`, in which a host has one holder and a holder one host by
construction. Every operation is a sequence of lendings and returns, so that the two maps partition the hosts.
-/

namespace OneXBts.Packet.IpAllocator

open Lib Packet.Ipcp

variable {κ : Type}

/-! ### Hosts -/

lemma mem_hosts : h ∈ hosts ↔ firstHost ≤ h ∧ h ≤ lastHost := Finset.mem_Icc

lemma next_mem_hosts (hh : h ∈ hosts) : (if h = lastHost then firstHost else h + 1) ∈ hosts := by
  rw [mem_hosts] at hh ⊢
  split_ifs with hl
  · decide
  · omega

namespace SubnetIpAllocator

variable {p : SubnetIpAllocator κ}

/-- A host is in quarantine: it was released less than the grace period ago. -/
def Quarantined (p : SubnetIpAllocator κ) (now host : ℕ) : Prop :=
  ∃ holder released, p.recentlyReleased host = some (holder, released) ∧ now - released < p.releaseGrace

lemma expire_recentlyReleased (p : SubnetIpAllocator κ) (now host : ℕ) :
    (p.expireRecentlyReleased now).recentlyReleased host =
      (p.recentlyReleased host).filter fun e => now - e.2 < p.releaseGrace := by
  unfold expireRecentlyReleased
  split_ifs with hg
  · cases p.recentlyReleased host <;> simp [hg]
  · rfl

lemma expire_ne_none :
    (p.expireRecentlyReleased now).recentlyReleased host ≠ none ↔ p.Quarantined now host := by
  rw [expire_recentlyReleased, Quarantined]
  cases p.recentlyReleased host <;> grind

lemma expire_eq (p : SubnetIpAllocator κ) (now : ℕ) :
    p.expireRecentlyReleased now =
      { p with recentlyReleased := (p.expireRecentlyReleased now).recentlyReleased } := by
  unfold expireRecentlyReleased
  split_ifs <;> rfl

section Expire

variable (p : SubnetIpAllocator κ) (now : ℕ)

lemma expire_assigned : (p.expireRecentlyReleased now).assigned = p.assigned := by rw [expire_eq]

lemma expire_free : (p.expireRecentlyReleased now).free = p.free := by rw [expire_eq]

lemma expire_sticky : (p.expireRecentlyReleased now).sticky = p.sticky := by rw [expire_eq]

lemma expire_releaseGrace : (p.expireRecentlyReleased now).releaseGrace = p.releaseGrace := by rw [expire_eq]

lemma expire_configForHost (h : ℕ) : (p.expireRecentlyReleased now).configForHost h = p.configForHost h := by
  rw [expire_eq]
  rfl

end Expire

/-! ### The search -/

lemma searchHost_some (hs : p.searchHost = some h) : p.available h = true := by
  grind [searchHost, Option.or_eq_some_iff]

lemma available_iff : p.available h = true ↔ h ∈ p.free ∧ p.recentlyReleased h = none := by simp [available]

lemma searchHost_none (hn : p.nextHost ∈ hosts) (hs : p.searchHost = none) (hh : h ∈ hosts) :
    p.available h = false := by grind [hosts, SubnetIpAllocator.searchHost]

end SubnetIpAllocator

open SubnetIpAllocator

lemma chooseHost_cases {p : SubnetIpAllocator κ} (hf : ∀ h ∈ p.free, h ∈ hosts) (hn : p.nextHost ∈ hosts) (k : κ) :
    p.chooseHost k = none ∧ (∀ h ∈ hosts, p.available h = false) ∨
    ∃ h n, p.chooseHost k = some (h, { p with nextHost := n }) ∧ h ∈ p.free ∧ n ∈ hosts ∧
      (p.recentlyReleased h = none ∨ p.sticky k = some h) := by
  have hse : p.allocateHost = none ∧ (∀ h ∈ hosts, p.available h = false) ∨
      ∃ h n, p.allocateHost = some (h, { p with nextHost := n }) ∧ h ∈ p.free ∧ n ∈ hosts ∧
        (p.recentlyReleased h = none ∨ p.sticky k = some h) := by
    cases hs : p.searchHost with
    | none => exact .inl ⟨by rw [allocateHost, hs]; rfl, fun h hh => searchHost_none hn hs hh⟩
    | some =>
      obtain ⟨hmem, hno⟩ := available_iff.1 (searchHost_some hs)
      grind [allocateHost, next_mem_hosts]
  unfold chooseHost
  cases hst : p.sticky k with
  | none => simpa [hst] using hse
  | some => grind [cases SubnetIpAllocator]

/-! ### The leases -/

variable [DecidableEq κ]

structure Represents (p : SubnetIpAllocator κ) (leases : ℕ ≃. κ) : Prop where
  assigned : ∀ k, p.assigned.lookup k = leases.symm k
  free : ∀ h, h ∈ p.free ↔ h ∈ hosts ∧ leases h = none
  inside : ∀ h k, leases h = some k → h ∈ hosts
  next : p.nextHost ∈ hosts

section Represents

variable {p q : SubnetIpAllocator κ} {leases : ℕ ≃. κ}

section

variable (hr : Represents p leases)
include hr

lemma Represents.lookup_iff :
    p.assigned.lookup k = some h ↔ leases h = some k := by
  rw [hr.assigned]
  exact PEquiv.mem_iff_mem leases

lemma Represents.free_subset : ∀ h ∈ p.free, h ∈ hosts := fun h hh => ((hr.free h).1 hh).1

lemma Represents.congr (hf : q.free = p.free)
    (hl : ∀ k, q.assigned.lookup k = p.assigned.lookup k) (hn : q.nextHost ∈ hosts) : Represents q leases :=
  ⟨fun k => (hl k).trans (hr.assigned k), fun h => by rw [hf]; exact hr.free h, hr.inside, hn⟩

lemma Represents.expire (now : ℕ) : Represents (p.expireRecentlyReleased now) leases := by
  rw [expire_eq]
  exact hr.congr rfl (fun _ => rfl) hr.next

lemma Represents.assign (hf : h ∈ p.free) (hk : p.assigned.lookup k = none) :
    ∃ hh hk', Represents (p.assign k h) (Leases.lend leases h k hh hk') := by
  obtain ⟨hho, hn⟩ := (hr.free h).1 hf
  have hk' : leases.symm k = none := (hr.assigned k).symm.trans hk
  refine ⟨hn, hk', fun l => ?_, fun g => ?_, fun g l hg => ?_, hr.next⟩
  · rw [Leases.lend_symm_apply, SubnetIpAllocator.assign]
    split_ifs with hl
    · rw [hl, AList.lookup_insert]
    · rw [AList.lookup_insert_ne hl, hr.assigned]
  · rw [Leases.lend_apply]
    change g ∈ p.free.erase h ↔ _
    grind [cases Represents]
  · grind [Leases.lend_apply, cases Represents]

lemma Represents.setFree (hk : p.assigned.lookup k = some h) (now : ℕ) :
    ∃ hl, Represents ({ p with assigned := p.assigned.erase k }.setFree k h now) (Leases.takeBack leases h k hl) := by
  have hl : leases h = some k := hr.lookup_iff.1 hk
  refine ⟨hl, fun l => ?_, fun g => ?_, fun g l hg => ?_, hr.next⟩
  · rw [Leases.takeBack_symm_apply, SubnetIpAllocator.setFree]
    split_ifs with hlk
    · rw [hlk, AList.lookup_erase]
    · rw [AList.lookup_erase_ne hlk, hr.assigned]
  · rw [Leases.takeBack_apply]
    change g ∈ insert h p.free ↔ _
    grind [cases Represents]
  · rw [Leases.takeBack_apply] at hg
    split_ifs at hg with hgh
    exact hr.inside g l hg

lemma Represents.move (hk : p.assigned.lookup k = some old)
    (hf : h ∈ p.free) (now : ℕ) : ∃ leases', Represents ((p.setFree k old now).assign k h) leases' := by
  obtain ⟨_, hr'⟩ := hr.setFree hk now
  obtain ⟨_, _, hr''⟩ := hr'.assign (k := k) (h := h) (Finset.mem_insert_of_mem hf) (AList.lookup_erase _ _)
  refine ⟨_, hr''.congr rfl (fun l => ?_) hr.next⟩
  by_cases hl : l = k
  · subst hl
    simp [SubnetIpAllocator.assign]
  · simp [SubnetIpAllocator.assign, SubnetIpAllocator.setFree, AList.lookup_insert_ne hl, AList.lookup_erase_ne hl]

end

end Represents

/-! ### The calls -/

section Calls

variable {p : SubnetIpAllocator κ} {leases : ℕ ≃. κ}

/-- **Allocation**: a key that has a host keeps it; otherwise it gets a free one, or there is none out of
quarantine. -/
theorem allocate_cases (hr : Represents p leases) (k : κ) (now : ℕ) :
    (∃ h, p.assigned.lookup k = some h ∧
      p.allocate k now = (some (p.configForHost h), p.expireRecentlyReleased now)) ∨
    p.assigned.lookup k = none ∧ (
      (p.allocate k now = (none, p.expireRecentlyReleased now) ∧ ∀ h ∈ p.free, p.Quarantined now h) ∨
      ∃ h n, h ∈ p.free ∧ n ∈ hosts ∧ (¬ p.Quarantined now h ∨ p.sticky k = some h) ∧
        p.allocate k now = (some (p.configForHost h),
          ({ p.expireRecentlyReleased now with nextHost := n } : SubnetIpAllocator κ).assign k h)) := by
  have hr' := hr.expire now
  cases hk : p.assigned.lookup k with
  | some => grind [allocate, expire_configForHost, cases Represents]
  | none =>
    refine .inr ⟨rfl, ?_⟩
    obtain ⟨hno, hall⟩ | ⟨h, n, hs, hmem, hn, hwhy⟩ := chooseHost_cases hr'.free_subset hr'.next k
    · refine .inl ⟨by simp only [allocate, expire_assigned, hk, hno], fun h hh => ?_⟩
      have hu := hall h (hr.free_subset h hh)
      rw [← Bool.not_eq_true, available_iff, expire_free, not_and] at hu
      exact expire_ne_none.1 (hu hh)
    · refine .inr ⟨h, n, expire_free p now ▸ hmem, hn, ?_, ?_⟩
      · grind [expire_sticky, expire_ne_none]
      · simp only [allocate, expire_assigned, hk, hs]
        exact Prod.ext (congrArg some (expire_configForHost p now h)) rfl

/-- **A claim**: it is refused and changes nothing but the quarantine, or the key has the host already, or it
gets the free host and gives up its old one. -/
theorem claimPeerIp_cases (hr : Represents p leases) (k : κ) (ip : UInt32) (now later : ℕ) :
    ((p.claimPeerIp k ip now later).1 = .outOfPool ∨
        (∃ owner, (p.claimPeerIp k ip now later).1 = .conflict owner)) ∧
      (p.claimPeerIp k ip now later).2 = p.expireRecentlyReleased now ∨
    ∃ h, p.hostForPeerIp ip = some h ∧
      (p.Quarantined now h → ∃ released, p.recentlyReleased h = some (k, released)) ∧
      (p.assigned.lookup k = some h ∧
        p.claimPeerIp k ip now later = (.alreadyOwned (p.configForHost h), p.expireRecentlyReleased now) ∨
      h ∈ p.free ∧ p.claimPeerIp k ip now later = (.claimed (p.configForHost h),
        ((p.assigned.lookup k).elim (p.expireRecentlyReleased now) fun old =>
          (p.expireRecentlyReleased now).setFree k old later).assign k h)) := by
  have hh : (p.expireRecentlyReleased now).hostForPeerIp ip = p.hostForPeerIp ip := by
    rw [expire_eq]
    rfl
  unfold claimPeerIp
  dsimp only
  rw [hh, expire_assigned]
  cases hip : p.hostForPeerIp ip with
  | none => exact .inl ⟨.inl rfl, rfl⟩
  | some h =>
    dsimp only
    cases hre : ((p.expireRecentlyReleased now).recentlyReleased h).filter fun e => e.1 ≠ k with
    | some e => exact .inl ⟨.inr ⟨e.1, rfl⟩, rfl⟩
    | none =>
      cases hf : p.assigned.entries.find? fun e => e.1 ≠ k ∧ e.2 = h with
      | some e => exact .inl ⟨.inr ⟨e.1, rfl⟩, rfl⟩
      | none =>
        refine .inr ⟨h, rfl, ?_, ?_⟩
        · rintro ⟨ho, released, he, ht⟩
          rw [expire_recentlyReleased, he] at hre
          grind
        dsimp only
        split_ifs with hk
        · exact .inl ⟨hk, by rw [expire_configForHost]⟩
        refine .inr ⟨?_, ?_⟩
        · -- nobody has the host
          refine (hr.free h).2 ⟨?_, ?_⟩
          · grind [hostForPeerIp]
          cases hl : leases h with
          | none => rfl
          | some =>
            have hlo := hr.lookup_iff.2 hl
            have hmem := AList.mem_lookup_iff.1 hlo
            grind
        · cases p.assigned.lookup k <;> simp [expire_configForHost]

end Calls

/-! ### Runs -/

inductive Op (κ : Type) where
  | allocate (sessionId : κ) (now : ℕ)
  | release (sessionId : κ) (now : ℕ)
  | claimPeerIp (sessionId : κ) (peerIp : UInt32) (now later : ℕ)

inductive Result (κ : Type) where
  | allocated (config : Option IpcpConfig)
  | released
  | claim (result : IpClaimResult κ)
  deriving DecidableEq, Repr

def step (p : SubnetIpAllocator κ) : Op κ → Option (SubnetIpAllocator κ × Result κ)
  | .allocate k now =>
    let (config, p) := p.allocate k now
    some (p, .allocated config)
  | .release k now => some (p.release k now, .released)
  | .claimPeerIp k ip now later =>
    let (result, p) := p.claimPeerIp k ip now later
    some (p, .claim result)

section Runs

variable {p q : SubnetIpAllocator κ} {leases : ℕ ≃. κ}

lemma step_allocate (hs : step p (.allocate k now) = some (q, result)) :
    q = (p.allocate k now).2 ∧ result = .allocated (p.allocate k now).1 := by
  cases hs
  exact ⟨rfl, rfl⟩

lemma step_release (hs : step p (.release k now) = some (q, result)) :
    q = p.release k now ∧ result = .released := by
  cases hs
  exact ⟨rfl, rfl⟩

lemma step_claimPeerIp (hs : step p (.claimPeerIp k ip now later) = some (q, result)) :
    q = (p.claimPeerIp k ip now later).2 ∧ result = .claim (p.claimPeerIp k ip now later).1 := by
  cases hs
  exact ⟨rfl, rfl⟩

section

variable (hr : Represents p leases)
include hr

lemma Represents.allocate (k : κ) (now : ℕ) :
    ∃ leases', Represents (p.allocate k now).2 leases' := by
  obtain ⟨h, -, heq⟩ | ⟨hk, ⟨heq, -⟩ | ⟨h, n, hmem, hn, -, heq⟩⟩ := allocate_cases hr k now
  · rw [heq]
    exact ⟨_, hr.expire now⟩
  · rw [heq]
    exact ⟨_, hr.expire now⟩
  have hr' : Represents ({ p.expireRecentlyReleased now with nextHost := n } : SubnetIpAllocator κ) leases :=
    (hr.expire now).congr rfl (fun _ => rfl) hn
  rw [expire_eq] at hr' heq
  obtain ⟨_, _, hr''⟩ := hr'.assign hmem hk
  rw [heq]
  exact ⟨_, hr''⟩

lemma Represents.release (k : κ) (now : ℕ) :
    ∃ leases', Represents (p.release k now) leases' := by
  unfold SubnetIpAllocator.release
  cases hk : p.assigned.lookup k with
  | none => exact ⟨_, hr⟩
  | some =>
    obtain ⟨_, hr'⟩ := hr.setFree hk now
    exact ⟨_, hr'⟩

lemma Represents.claimPeerIp (k : κ) (ip : UInt32) (now later : ℕ) :
    ∃ leases', Represents (p.claimPeerIp k ip now later).2 leases' := by
  obtain ⟨-, heq⟩ | ⟨h, -, -, ⟨-, heq⟩ | ⟨hmem, heq⟩⟩ := claimPeerIp_cases hr k ip now later
  · rw [heq]
    exact ⟨_, hr.expire now⟩
  · rw [heq]
    exact ⟨_, hr.expire now⟩
  have hr' := hr.expire now
  rw [expire_eq] at hr'
  rw [heq, expire_eq]
  cases hk : p.assigned.lookup k with
  | none =>
    obtain ⟨_, _, hr''⟩ := hr'.assign hmem hk
    exact ⟨_, hr''⟩
  | some => exact hr'.move hk hmem later

lemma Represents.step
    (hs : step p op = some (q, result)) : ∃ leases', Represents q leases' := by
  cases op with
  | allocate k now =>
    obtain ⟨rfl, -⟩ := step_allocate hs
    exact hr.allocate k now
  | release k now =>
    obtain ⟨rfl, -⟩ := step_release hs
    exact hr.release k now
  | claimPeerIp k ip now later =>
    obtain ⟨rfl, -⟩ := step_claimPeerIp hs
    exact hr.claimPeerIp k ip now later

end

lemma represents_new (hnew : newWithPacketOptions gateway dns dns' up down mobile = .ok p) (grace : ℕ) :
    Represents { p with releaseGrace := grace } ⊥ := by
  unfold newWithPacketOptions at hnew
  split at hnew
  · split_ifs at hnew
    cases hnew
    exact ⟨fun k => AList.lookup_empty k, fun h => by simp, fun h k hk => absurd hk (by simp),
      mem_hosts.2 (show firstHost ≤ firstHost ∧ firstHost ≤ lastHost by decide)⟩
  · cases hnew

end Runs

/-- **The bookkeeping of the pool.** For every pool, every grace period and every sequence of calls with any readings
of the clock: the free hosts and the assigned ones partition the hosts 2 to 254; no host is assigned to two keys; an
allocation fails only when every free host is in quarantine; and a claim that is refused changes neither the free
hosts nor the assignments nor the last hosts of the keys. -/
theorem pool_bookkeeping {gateway dns dns' : UInt32} {up down mobile : Bool} {p₀ : SubnetIpAllocator κ}
    (hnew : newWithPacketOptions gateway dns dns' up down mobile = .ok p₀) (grace : ℕ) {p : SubnetIpAllocator κ}
    {log : List (Op κ × Result κ)} (hrun : Run (steps step) { p₀ with releaseGrace := grace } p log) :
    (∀ h, h ∈ hosts ↔ h ∈ p.free ∨ ∃ k, p.assigned.lookup k = some h) ∧
    (∀ h ∈ p.free, ∀ k, p.assigned.lookup k ≠ some h) ∧
    (∀ h k k', p.assigned.lookup k = some h → p.assigned.lookup k' = some h → k = k') ∧
    (∀ k now, (p.allocate k now).1 = none → ∀ h ∈ p.free, p.Quarantined now h) ∧
    ∀ k ip now later, (p.claimPeerIp k ip now later).1 = .outOfPool ∨
        (∃ owner, (p.claimPeerIp k ip now later).1 = .conflict owner) →
      (p.claimPeerIp k ip now later).2.free = p.free ∧
      (p.claimPeerIp k ip now later).2.assigned = p.assigned ∧
      (p.claimPeerIp k ip now later).2.sticky = p.sticky := by
  obtain ⟨leases, hr⟩ : ∃ leases, Represents p leases := by
    refine hrun.inv (fun p _ => ∃ leases, Represents p leases) ⟨⊥, represents_new hnew grace⟩ ?_
    rintro p op q result log ⟨leases, hr⟩ hs
    exact hr.step hs.2
  refine ⟨fun h => ⟨fun hh => ?_, ?_⟩, fun h hh k hk => ?_, fun h k k' hk hk' => ?_, fun k now hn => ?_,
    fun k ip now later hre => ?_⟩
  · cases hl : leases h with
    | none => exact .inl ((hr.free h).2 ⟨hh, hl⟩)
    | some k => exact .inr ⟨k, hr.lookup_iff.2 hl⟩
  · rintro (hh | ⟨k, hk⟩)
    · exact hr.free_subset h hh
    · exact hr.inside h k (hr.lookup_iff.1 hk)
  · have := ((hr.free h).1 hh).2
    rw [hr.lookup_iff.1 hk] at this
    cases this
  · exact Option.some.inj ((hr.lookup_iff.1 hk).symm.trans (hr.lookup_iff.1 hk'))
  · obtain ⟨h, -, heq⟩ | ⟨-, ⟨-, hall⟩ | ⟨h, n, -, -, -, heq⟩⟩ := allocate_cases hr k now
    · rw [heq] at hn
      cases hn
    · exact hall
    · rw [heq] at hn
      cases hn
  · obtain ⟨-, heq⟩ | ⟨h, -, -, ⟨-, heq⟩ | ⟨-, heq⟩⟩ := claimPeerIp_cases hr k ip now later
    any_goals
      rw [heq] at hre
      obtain hc | ⟨_, hc⟩ := hre <;> cases hc
    · rw [heq, expire_eq]
      exact ⟨rfl, rfl, rfl⟩

def defaultSubnet : SubnetIpAllocator ℕ where
  subnet := ⟨10, 55, 0⟩
  assigned := ∅
  primaryDns := 0x0A370001
  secondaryDns := 0x0A370001

/-- Two sessions are given 10.55.0.2 and 10.55.0.3, the first gives its address up and claims 10.55.0.9. -/
theorem pool_bookkeeping_claim :
    newWithPacketOptions 0x0A370001 0x0A370001 0x0A370001 false false false = .ok defaultSubnet ∧
    ∃ p log, Run (steps step) { defaultSubnet with releaseGrace := 60 } p log ∧
      p.assigned.lookup 1 = some 9 ∧ (∀ k, p.assigned.lookup k = some 9 → k = 1) ∧ 9 ∉ p.free := by
  have hnew : newWithPacketOptions 0x0A370001 0x0A370001 0x0A370001 false false false = .ok defaultSubnet := rfl
  obtain ⟨p, log, hrun, hone⟩ := exists_run step (fun _ _ => True) { defaultSubnet with releaseGrace := 60 }
    [.allocate 1 0, .allocate 2 5, .release 1 7, .claimPeerIp 1 0x0A370009 8 9]
    (fun p _ => p.assigned.lookup 1 = some 9) (by decide +kernel)
  obtain ⟨-, hdi, hinj, -, -⟩ := pool_bookkeeping hnew 60 hrun
  exact ⟨hnew, p, log, hrun, hone, fun k hk => hinj 9 k 1 hk hone, fun hf => hdi 9 hf 1 hone⟩

end OneXBts.Packet.IpAllocator
