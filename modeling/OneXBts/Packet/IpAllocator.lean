import Mathlib.Data.List.AList
import OneXBts.Packet.Ipcp

/-!
The pool of mobile addresses (`ip_allocator.rs`).

Of a `/24` subnet the hosts 2 to 254 are handed out. A key is given the host it had last when that is free, and otherwise the
next one, in turn, that is not in quarantine: a released host is reserved for its last holder until `releaseGrace` has
passed. A mobile can also claim the address it still uses.

Of the keys only the equality is used. An `Instant` is a number, and differences saturate at 0. Of the hash maps only
`assigned` is iterated; it is a list of entries with distinct keys, the others are functions. A call holds the mutex from
beginning to end.
-/

namespace OneXBts.Packet.IpAllocator

open Lib Packet.Ppp Packet.Ipcp

def defaultReleaseGrace : ℕ := 60 * 10 ^ 9

def firstHost : ℕ := 2
def lastHost : ℕ := 254

def hosts : Finset ℕ := Finset.Icc firstHost lastHost

inductive IpClaimResult (κ : Type) where
  | claimed (config : IpcpConfig)
  | alreadyOwned (config : IpcpConfig)
  | conflict (currentOwner : κ)
  | outOfPool
  deriving DecidableEq, Repr

structure Subnet where
  a : UInt8
  b : UInt8
  c : UInt8
  deriving DecidableEq, Repr

structure SubnetIpAllocator (κ : Type) where
  subnet : Subnet
  free : Finset ℕ := hosts
  assigned : AList fun _ : κ => ℕ
  /-- Last host of a key. -/
  sticky : κ → Option ℕ := fun _ => none
  nextHost : ℕ := firstHost
  /-- Hosts in quarantine, with their last holder and the time of the release. -/
  recentlyReleased : ℕ → Option (κ × ℕ) := fun _ => none
  releaseGrace : ℕ := defaultReleaseGrace
  primaryDns : UInt32
  secondaryDns : UInt32
  enableUplinkVjCompression : Bool := false
  enableDownlinkVjCompression : Bool := false
  mobileIpEnabled : Bool := false

namespace SubnetIpAllocator

variable {κ : Type}

/-- A new pool; a panic unless the gateway is x.x.x.1. -/
def newWithPacketOptions (gateway primaryDns secondaryDns : UInt32)
    (enableUplinkVjCompression enableDownlinkVjCompression mobileIpEnabled : Bool) :
    Outcome Empty (SubnetIpAllocator κ) :=
  match octets32 gateway with
  | [a, b, c, d] =>
    if d = 1 then
      .ok
        { subnet := ⟨a, b, c⟩
          assigned := ∅
          primaryDns := primaryDns
          secondaryDns := secondaryDns
          enableUplinkVjCompression := enableUplinkVjCompression
          enableDownlinkVjCompression := enableDownlinkVjCompression
          mobileIpEnabled := mobileIpEnabled }
    else .panic
  | _ => .panic

def configForHost (p : SubnetIpAllocator κ) (host : ℕ) : IpcpConfig where
  ourIp := be32 p.subnet.a p.subnet.b p.subnet.c 1
  peerIp := be32 p.subnet.a p.subnet.b p.subnet.c (UInt8.ofNat host)
  primaryDns := p.primaryDns
  secondaryDns := p.secondaryDns
  enableUplinkVjCompression := p.enableUplinkVjCompression
  enableDownlinkVjCompression := p.enableDownlinkVjCompression
  mobileIpEnabled := p.mobileIpEnabled

def hostForPeerIp (p : SubnetIpAllocator κ) (peerIp : UInt32) : Option ℕ :=
  match octets32 peerIp with
  | [a, b, c, host] =>
    if (⟨a, b, c⟩ : Subnet) ≠ p.subnet then none
    else if host.toNat ∈ hosts then some host.toNat
    else none
  | _ => none

def available (p : SubnetIpAllocator κ) (host : ℕ) : Bool :=
  decide (host ∈ p.free) && (p.recentlyReleased host).isNone

/-- The next host in turn: from `nextHost` to the end, and then from the beginning. -/
def searchHost (p : SubnetIpAllocator κ) : Option ℕ :=
  ((List.range' p.nextHost (lastHost + 1 - p.nextHost)).find? p.available).or
    ((List.range' firstHost (p.nextHost - firstHost)).find? p.available)

def allocateHost (p : SubnetIpAllocator κ) : Option (ℕ × SubnetIpAllocator κ) :=
  p.searchHost.map fun host => (host, { p with nextHost := if host = lastHost then firstHost else host + 1 })

def expireRecentlyReleased (p : SubnetIpAllocator κ) (now : ℕ) : SubnetIpAllocator κ :=
  if p.releaseGrace = 0 then { p with recentlyReleased := fun _ => none }
  else
    { p with
      recentlyReleased := fun host => (p.recentlyReleased host).filter fun e => now - e.2 < p.releaseGrace }

variable [DecidableEq κ]

/-- The host for a key that has none: its last one when that is free, or the next in turn. -/
def chooseHost (p : SubnetIpAllocator κ) (sessionId : κ) : Option (ℕ × SubnetIpAllocator κ) :=
  match p.sticky sessionId with
  | some host => if host ∈ p.free then some (host, p) else p.allocateHost
  | none => p.allocateHost

def assign (p : SubnetIpAllocator κ) (sessionId : κ) (host : ℕ) : SubnetIpAllocator κ :=
  { p with
    free := p.free.erase host
    recentlyReleased := Function.update p.recentlyReleased host none
    assigned := p.assigned.insert sessionId host
    sticky := Function.update p.sticky sessionId (some host) }

/-- Put a host into `free` and into quarantine. -/
def setFree (p : SubnetIpAllocator κ) (sessionId : κ) (host now : ℕ) : SubnetIpAllocator κ :=
  { p with
    free := insert host p.free
    recentlyReleased := Function.update p.recentlyReleased host (some (sessionId, now)) }

def allocate (p : SubnetIpAllocator κ) (sessionId : κ) (now : ℕ) :
    Option IpcpConfig × SubnetIpAllocator κ :=
  let p := p.expireRecentlyReleased now
  match p.assigned.lookup sessionId with
  | some host => (some (p.configForHost host), p)
  | none =>
    match p.chooseHost sessionId with
    | none => (none, p)
    | some (host, p) => (some (p.configForHost host), p.assign sessionId host)

def release (p : SubnetIpAllocator κ) (sessionId : κ) (now : ℕ) : SubnetIpAllocator κ :=
  match p.assigned.lookup sessionId with
  | none => p
  | some host => { p with assigned := p.assigned.erase sessionId }.setFree sessionId host now

/-- Claim an address. `now` is the reading for the quarantine, `later` the one for the host that is given up. -/
def claimPeerIp (p : SubnetIpAllocator κ) (sessionId : κ) (peerIp : UInt32) (now later : ℕ) :
    IpClaimResult κ × SubnetIpAllocator κ :=
  let p := p.expireRecentlyReleased now
  match p.hostForPeerIp peerIp with
  | none => (.outOfPool, p)
  | some host =>
    match (p.recentlyReleased host).filter fun e => e.1 ≠ sessionId with
    | some (owner, _) => (.conflict owner, p)
    | none =>
      match p.assigned.entries.find? fun e => e.1 ≠ sessionId ∧ e.2 = host with
      | some e => (.conflict e.1, p)
      | none =>
        if p.assigned.lookup sessionId = some host then (.alreadyOwned (p.configForHost host), p)
        else
          let p' := match p.assigned.lookup sessionId with
            | some oldHost => p.setFree sessionId oldHost later
            | none => p
          (.claimed (p.configForHost host), p'.assign sessionId host)

end SubnetIpAllocator

end OneXBts.Packet.IpAllocator
