import OneXBts.Hlr.CaveAuth
import OneXBts.Hlr.KeyExchange

/-!
The key exchange and the SSD update of one identity in the HLR's store (`repository.rs`).

A key exchange leaves its A-key in a pending column, and an SSD update confirmed meanwhile the new SSD; only a commit moves
them to the columns that ordinary authentication reads. So an exchange that is not committed changes no verdict, and a
commit installs the last completed exchange (`uncommitted_exchange_inert`). The columns hold values of the widths the table
demands; the cipher and `f0` are parameters, and random draws are arguments.
-/

namespace OneXBts.Hlr

open Lib List

def VALIDATION_FAILED_PREFIX : String := "VALIDATION_FAILED: "

def RANDSSD_BITS : ℕ := 56

def randSsdFromU64 (value : UInt64) : Except String Bytes :=
  if value.toNat / 2 ^ RANDSSD_BITS ≠ 0 then
    .error ("value 0x" ++ String.ofList (Nat.toDigits 16 value.toNat) ++
      s!" does not fit in a {RANDSSD_BITS}-bit field")
  else .ok ((fixedWidth value.toNat 8).drop 1)

/-- The columns of a row of `subscriber_identities` that the statements below read or assign. -/
structure SubscriberIdentityRow where
  authAlgo : AuthAlgorithm
  aKey : Option Bytes
  ssdA : Option Bytes
  ssdB : Option Bytes
  randssd : Option Bytes
  pendingAKey : Option Bytes
  pendingSsdA : Option Bytes
  pendingSsdB : Option Bytes
  authFailureCount : ℕ
deriving Repr, DecidableEq

def ssdFrom : Option Bytes → Option Bytes → Option Ssd
  | some ssdA, some ssdB => some ⟨ssdA, ssdB⟩
  | _, _ => none

def SubscriberIdentityRow.credentials (row : SubscriberIdentityRow) : CaveCredentials where
  authAlgo := row.authAlgo
  aKey := row.aKey
  ssd := ssdFrom row.ssdA row.ssdB
  randssd := row.randssd
  pendingAKey := row.pendingAKey
  pendingSsd := ssdFrom row.pendingSsdA row.pendingSsdB

/-- What the store holds for one identity: its row, and the key exchange that is running, which is
kept in memory only. -/
structure IdentityStore where
  row : SubscriberIdentityRow
  exchange : Option KeyExchange
deriving Repr, DecidableEq

namespace IdentityStore

section Statements

variable {Saved : Type} (cave : Cave Saved) (f0 : Bytes → UInt8 → Bytes → UInt64 → Bytes)

def beginCaveSsdUpdate (s : IdentityStore) (random : UInt64) : Except String UInt64 × IdentityStore :=
  if !s.row.credentials.canUpdateSsd then (.error (VALIDATION_FAILED_PREFIX ++ "identity has no CAVE A-key"), s)
  else
    let randssd := random &&& (((1 : UInt64) <<< 56) - 1)
    match randSsdFromU64 randssd with
    | .error e => (.error e, s)
    | .ok bytes => (.ok randssd, { s with row := { s.row with randssd := some bytes } })

def caveBaseStationChallenge (s : IdentityStore) (esn randbs imsiS1 : UInt32) :
    Except String UInt32 × IdentityStore :=
  match baseStationChallenge cave s.row.credentials esn randbs imsiS1 with
  | .ok authbs => (.ok authbs, s)
  | .error e => (.error (VALIDATION_FAILED_PREFIX ++ e), s)

/-- The statement of `finish_cave_ssd_update`: a null leaves the column as it is, and while an A-key
is pending the new SSD waits with it. -/
def storeSsd (row : SubscriberIdentityRow) (newSsd : Option Ssd) : SubscriberIdentityRow :=
  if row.pendingAKey.isSome then
    { row with
      pendingSsdA := (newSsd.map Ssd.ssdA).or row.pendingSsdA
      pendingSsdB := (newSsd.map Ssd.ssdB).or row.pendingSsdB
      randssd := none }
  else
    { row with
      ssdA := (newSsd.map Ssd.ssdA).or row.ssdA
      ssdB := (newSsd.map Ssd.ssdB).or row.ssdB
      randssd := none }

def finishCaveSsdUpdate (s : IdentityStore) (esn : UInt32) (confirmed : Bool) :
    Except String Unit × IdentityStore :=
  if confirmed then
    match committedSsd cave s.row.credentials esn with
    | .error e => (.error (VALIDATION_FAILED_PREFIX ++ e), s)
    | .ok ssd => (.ok (), { s with row := storeSsd s.row (some ssd) })
  else (.ok (), { s with row := storeSsd s.row none })

/-- `p`, `g` and `y` are the random draws of the new exchange. -/
def beginCaveKeyExchange (s : IdentityStore) (aKeyPRev : UInt8) (p g y : ℕ) :
    Except String KeyExchangeOffer × IdentityStore :=
  match KeyExchange.new aKeyPRev p g y with
  | .error e => (.error (VALIDATION_FAILED_PREFIX ++ e), s)
  | .ok exchange => (.ok exchange.offer, { s with exchange := some exchange })

/-- The exchange is taken out of the table before its result is checked. -/
def completeCaveKeyExchange (s : IdentityStore) (msResult : Bytes) :
    Except String Unit × IdentityStore :=
  match s.exchange with
  | none => (.error (VALIDATION_FAILED_PREFIX ++ "no key exchange in progress"), s)
  | some exchange =>
    match exchange.aKey f0 msResult with
    | .error e => (.error (VALIDATION_FAILED_PREFIX ++ e), { s with exchange := none })
    | .ok aKey => (.ok (), {
        row := { s.row with pendingAKey := some aKey, pendingSsdA := none, pendingSsdB := none }
        exchange := none })

def commitCaveKey (s : IdentityStore) : Except String Unit × IdentityStore :=
  if s.row.pendingAKey.isNone then (.error (VALIDATION_FAILED_PREFIX ++ "no exchanged A-key to commit"), s)
  else (.ok (), { s with row := { s.row with
    aKey := s.row.pendingAKey
    ssdA := s.row.pendingSsdA
    ssdB := s.row.pendingSsdB
    authAlgo := .cave
    pendingAKey := none
    pendingSsdA := none
    pendingSsdB := none
    randssd := none
    authFailureCount := 0 } })

def abortCaveKeyExchange (s : IdentityStore) : IdentityStore where
  row := { s.row with pendingAKey := none, pendingSsdA := none, pendingSsdB := none, randssd := none }
  exchange := none

end Statements

end IdentityStore

/-! ### Sequences of operations -/

inductive KeyOp where
  | beginKeyExchange (aKeyPRev : UInt8) (p g y : ℕ)
  | completeKeyExchange (msResult : Bytes)
  | beginSsdUpdate (random : UInt64)
  | baseStationChallenge (esn randbs imsiS1 : UInt32)
  | finishSsdUpdate (esn : UInt32) (confirmed : Bool)
  | commit
  | abort
deriving Repr, DecidableEq

inductive KeyEvent where
  | completed (aKey : Bytes)
  | confirmed (ssd : Ssd)
  | dropped
deriving Repr, DecidableEq

def KeyEvent.ssd? : KeyEvent → Option Ssd
  | .confirmed ssd => some ssd
  | _ => none

namespace IdentityStore

section Runs

variable {Saved : Type} (cave : Cave Saved) (f0 : Bytes → UInt8 → Bytes → UInt64 → Bytes)

def apply (s : IdentityStore) : KeyOp → IdentityStore
  | .beginKeyExchange aKeyPRev p g y => (s.beginCaveKeyExchange aKeyPRev p g y).2
  | .completeKeyExchange msResult => (s.completeCaveKeyExchange f0 msResult).2
  | .beginSsdUpdate random => (s.beginCaveSsdUpdate random).2
  | .baseStationChallenge esn randbs imsiS1 => (s.caveBaseStationChallenge cave esn randbs imsiS1).2
  | .finishSsdUpdate esn confirmed => (s.finishCaveSsdUpdate cave esn confirmed).2
  | .commit => s.commitCaveKey.2
  | .abort => s.abortCaveKeyExchange

def after (s : IdentityStore) (ops : List KeyOp) : IdentityStore := ops.foldl (apply cave f0) s

/-- The event of an operation: a completed exchange, a confirmed update, an abort or a commit, each
only if the operation succeeds. -/
def event (s : IdentityStore) : KeyOp → Option KeyEvent
  | .completeKeyExchange msResult => do
    let exchange ← s.exchange
    let aKey ← (exchange.aKey f0 msResult).toOption
    return .completed aKey
  | .finishSsdUpdate esn true => do
    let ssd ← (committedSsd cave s.row.credentials esn).toOption
    return .confirmed ssd
  | .commit => if s.commitCaveKey.1.isOk then some .dropped else none
  | .abort => some .dropped
  | _ => none

def events (s : IdentityStore) : List KeyOp → List KeyEvent
  | [] => []
  | op :: ops => (s.event cave f0 op).toList ++ events (s.apply cave f0 op) ops

end Runs

/-! ### What an operation leaves alone -/

structure SameStored (row row' : SubscriberIdentityRow) : Prop where
  authAlgo : row'.authAlgo = row.authAlgo
  aKey : row'.aKey = row.aKey
  ssdA : row'.ssdA = row.ssdA
  ssdB : row'.ssdB = row.ssdB

lemma SameStored.refl (row : SubscriberIdentityRow) : SameStored row row := ⟨rfl, rfl, rfl, rfl⟩

lemma SameStored.trans {row row' row'' : SubscriberIdentityRow} (h : SameStored row row')
    (h' : SameStored row' row'') : SameStored row row'' where
  authAlgo := h'.authAlgo.trans h.authAlgo
  aKey := h'.aKey.trans h.aKey
  ssdA := h'.ssdA.trans h.ssdA
  ssdB := h'.ssdB.trans h.ssdB

lemma SameStored.currentSsd {row row' : SubscriberIdentityRow} (h : SameStored row row') :
    row'.credentials.currentSsd = row.credentials.currentSsd := by
  apply CaveCredentials.currentSsd_congr h.authAlgo h.aKey
  simp only [SubscriberIdentityRow.credentials, h.ssdA, h.ssdB]

section Steps

variable {Saved : Type} (cave : Cave Saved) (f0 : Bytes → UInt8 → Bytes → UInt64 → Bytes)
variable (s : IdentityStore)

@[simp] lemma after_nil : s.after cave f0 [] = s := rfl

@[simp] lemma after_cons (op : KeyOp) (ops : List KeyOp) :
    s.after cave f0 (op :: ops) = (s.apply cave f0 op).after cave f0 ops := rfl

lemma storeSsd_sameStored {row : SubscriberIdentityRow} (h : row.pendingAKey ≠ none)
    (newSsd : Option Ssd) : SameStored row (storeSsd row newSsd) := by
  rw [storeSsd, if_pos (Option.isSome_iff_ne_none.mpr h)]
  exact ⟨rfl, rfl, rfl, rfl⟩

lemma apply_sameStored {op : KeyOp} (hc : op ≠ .commit)
    (hf : ∀ esn confirmed, op = .finishSsdUpdate esn confirmed → s.row.pendingAKey ≠ none) :
    SameStored s.row (s.apply cave f0 op).row := by
  cases op with
  | beginKeyExchange =>
    simp only [apply, beginCaveKeyExchange]
    split <;> exact SameStored.refl _
  | completeKeyExchange =>
    simp only [apply, completeCaveKeyExchange]
    split
    · exact SameStored.refl _
    · split <;> exact ⟨rfl, rfl, rfl, rfl⟩
  | beginSsdUpdate =>
    simp only [apply, beginCaveSsdUpdate]
    split
    · exact SameStored.refl _
    · split <;> exact ⟨rfl, rfl, rfl, rfl⟩
  | baseStationChallenge =>
    simp only [apply, caveBaseStationChallenge]
    split <;> exact SameStored.refl _
  | finishSsdUpdate esn confirmed =>
    have hp := hf esn confirmed rfl
    simp only [apply, finishCaveSsdUpdate]
    grind [SameStored.refl, storeSsd_sameStored]
  | commit => exact absurd rfl hc
  | abort => exact ⟨rfl, rfl, rfl, rfl⟩

lemma after_sameStored (ops : List KeyOp) (hc : KeyOp.commit ∉ ops)
    (hf : ∀ before esn confirmed rest, ops = before ++ .finishSsdUpdate esn confirmed :: rest →
      (s.after cave f0 before).row.pendingAKey ≠ none) :
    SameStored s.row (s.after cave f0 ops).row := by
  induction ops generalizing s with
  | nil => exact SameStored.refl _
  | cons op ops ih =>
    have hop : SameStored s.row (s.apply cave f0 op).row := by
      apply apply_sameStored
      · rintro rfl
        exact hc mem_cons_self
      · rintro esn confirmed rfl
        exact hf [] esn confirmed ops rfl
    apply hop.trans
    apply ih
    · exact fun hmem => hc (mem_cons_of_mem op hmem)
    · rintro before esn confirmed rest rfl
      exact hf (op :: before) esn confirmed rest rfl

/-! ### What is pending -/

/-- The pending columns are the last completed exchange since the last abort or commit, with the last
SSD confirmed since. -/
def Pending (row : SubscriberIdentityRow) (events : List KeyEvent) : Prop :=
  ∀ aKey, row.pendingAKey = some aKey → ∃ before since,
    events = before ++ .completed aKey :: since ∧ (∀ e ∈ since, ∃ ssd, e = .confirmed ssd) ∧
    row.credentials.pendingSsd = (since.filterMap KeyEvent.ssd?).getLast?

lemma Pending.of_eq {row row' : SubscriberIdentityRow} {events : List KeyEvent}
    (h : Pending row events) (hkey : row'.pendingAKey = row.pendingAKey)
    (hssd : row'.credentials.pendingSsd = row.credentials.pendingSsd) : Pending row' events := by
  intro aKey ha
  rw [hssd]
  exact h aKey (hkey ▸ ha)

lemma Pending.of_none {row : SubscriberIdentityRow} (h : row.pendingAKey = none)
    (events : List KeyEvent) : Pending row events := by
  intro aKey ha
  rw [h] at ha
  cases ha

lemma Pending.storeSsd_none {row : SubscriberIdentityRow} {events : List KeyEvent}
    (h : Pending row events) : Pending (storeSsd row none) events := by
  apply h.of_eq
  · unfold storeSsd
    split_ifs <;> rfl
  · unfold storeSsd
    split_ifs <;> simp [SubscriberIdentityRow.credentials]

lemma Pending.storeSsd_some {row : SubscriberIdentityRow} {events : List KeyEvent}
    (h : Pending row events) (ssd : Ssd) :
    Pending (storeSsd row (some ssd)) (events ++ [.confirmed ssd]) := by
  intro aKey ha
  have hkey : row.pendingAKey = some aKey := by
    unfold storeSsd at ha
    split_ifs at ha <;> exact ha
  obtain ⟨before, since, rfl, hs, -⟩ := h aKey hkey
  refine ⟨before, since ++ [.confirmed ssd], by simp, ?_, ?_⟩
  · intro e he
    obtain he | he := mem_append.mp he
    · exact hs e he
    · exact ⟨ssd, mem_singleton.mp he⟩
  · rw [storeSsd, if_pos (by rw [hkey]; rfl), filterMap_append]
    simp [SubscriberIdentityRow.credentials, ssdFrom, KeyEvent.ssd?]

lemma pendingAKey_commitCaveKey : s.commitCaveKey.2.row.pendingAKey = none := by
  grind [commitCaveKey, Option.isNone_iff_eq_none]

lemma Pending.apply {events : List KeyEvent} (h : Pending s.row events) (op : KeyOp) :
    Pending (s.apply cave f0 op).row (events ++ (s.event cave f0 op).toList) := by
  -- an operation without an event
  have hn : events ++ (none : Option KeyEvent).toList = events := append_nil events
  cases op with
  | beginKeyExchange aKeyPRev p g y =>
    change Pending (s.beginCaveKeyExchange aKeyPRev p g y).2.row (events ++ none.toList)
    rw [hn, beginCaveKeyExchange]
    split <;> exact h
  | completeKeyExchange msResult =>
    have hev : s.event cave f0 (.completeKeyExchange msResult) = s.exchange.bind fun exchange =>
        (exchange.aKey f0 msResult).toOption.bind fun aKey => some (.completed aKey) := rfl
    rw [hev, IdentityStore.apply, completeCaveKeyExchange]
    cases he : s.exchange with
    | none => simpa using h
    | some exchange =>
      cases ha : exchange.aKey f0 msResult with
      | error => simpa [ha, Except.toOption] using h
      | ok =>
        simp only [ha]
        intro key hkey
        cases hkey
        exact ⟨events, [], by simp [ha, Except.toOption], by simp, rfl⟩
  | beginSsdUpdate random =>
    change Pending (s.beginCaveSsdUpdate random).2.row (events ++ none.toList)
    rw [hn, beginCaveSsdUpdate]
    split
    · exact h
    dsimp only
    split
    · exact h
    · exact h.of_eq rfl rfl
  | baseStationChallenge esn randbs imsiS1 =>
    change Pending (s.caveBaseStationChallenge cave esn randbs imsiS1).2.row (events ++ none.toList)
    rw [hn, caveBaseStationChallenge]
    split <;> exact h
  | finishSsdUpdate esn confirmed =>
    cases confirmed with
    | false =>
      change Pending (s.finishCaveSsdUpdate cave esn false).2.row (events ++ none.toList)
      rw [hn]
      simpa [finishCaveSsdUpdate] using h.storeSsd_none
    | true =>
      have hev : s.event cave f0 (.finishSsdUpdate esn true) =
          (committedSsd cave s.row.credentials esn).toOption.bind fun ssd => some (.confirmed ssd) := rfl
      rw [hev, IdentityStore.apply, finishCaveSsdUpdate]
      cases hssd : committedSsd cave s.row.credentials esn with
      | error => simpa [Except.toOption] using h
      | ok ssd => simpa [Except.toOption] using h.storeSsd_some ssd
  | commit => exact Pending.of_none (pendingAKey_commitCaveKey s) _
  | abort => exact Pending.of_none rfl _

lemma Pending.after {events : List KeyEvent} (h : Pending s.row events) (ops : List KeyOp) :
    Pending (s.after cave f0 ops).row (events ++ s.events cave f0 ops) := by
  induction ops generalizing s events with
  | nil => simpa [IdentityStore.events] using h
  | cons op ops ih =>
    rw [IdentityStore.events, ← append_assoc]
    exact ih (s.apply cave f0 op) (h.apply cave f0 s op)

lemma commitCaveKey_ok (h : s.commitCaveKey.1 = .ok ()) :
    ∃ aKey, s.row.pendingAKey = some aKey ∧ s.commitCaveKey.2.row.aKey = some aKey ∧
      s.commitCaveKey.2.row.credentials.ssd = s.row.credentials.pendingSsd ∧
      s.commitCaveKey.2.row.authAlgo = .cave := by
  cases hp : s.row.pendingAKey with
  | none =>
    rw [commitCaveKey, hp] at h
    cases h
  | some aKey =>
    refine ⟨aKey, rfl, ?_, ?_, ?_⟩
    all_goals
      rw [commitCaveKey, hp]
      rfl

end Steps

end IdentityStore

/-- An exchange that is not committed does not touch ordinary authentication. Operations without a
commit, in which every SSD update is finished while an A-key is pending, leave the algorithm, the
A-key and the SSD on file, and with them the verdict on every challenge outside a provisioning
session. A commit that succeeds installs the A-key of the last exchange completed since the last
abort or commit, and the SSD of the last update confirmed since that completion, or none. -/
theorem uncommitted_exchange_inert {Saved : Type} (cave : Cave Saved)
    (f0 : Bytes → UInt8 → Bytes → UInt64 → Bytes) (s : IdentityStore) (ops : List KeyOp) :
    (KeyOp.commit ∉ ops → (∀ before esn confirmed rest, ops = before ++ .finishSsdUpdate esn confirmed :: rest →
        (s.after cave f0 before).row.pendingAKey ≠ none) →
      IdentityStore.SameStored s.row (s.after cave f0 ops).row ∧
      (∀ challenge : GlobalChallenge, challenge.otaspReauthentication = false →
        verifyGlobalChallenge cave (s.after cave f0 ops).row.credentials challenge =
          verifyGlobalChallenge cave s.row.credentials challenge) ∧
      ∀ challenge, verifyUniqueChallenge cave (s.after cave f0 ops).row.credentials challenge =
        verifyUniqueChallenge cave s.row.credentials challenge) ∧
    (s.row.pendingAKey = none → (s.after cave f0 ops).commitCaveKey.1 = .ok () →
      ∃ before aKey since, s.events cave f0 ops = before ++ .completed aKey :: since ∧
        (∀ e ∈ since, ∃ ssd, e = KeyEvent.confirmed ssd) ∧
        (s.after cave f0 ops).commitCaveKey.2.row.aKey = some aKey ∧
        (s.after cave f0 ops).commitCaveKey.2.row.credentials.ssd = (since.filterMap KeyEvent.ssd?).getLast? ∧
        (s.after cave f0 ops).commitCaveKey.2.row.authAlgo = .cave) := by
  constructor
  · intro hc hf
    have hs := s.after_sameStored cave f0 ops hc hf
    refine ⟨hs, fun challenge hr => ?_, fun challenge => ?_⟩
    · exact verifyGlobalChallenge_congr cave hs.currentSsd hr
    · exact verifyUniqueChallenge_congr cave hs.currentSsd challenge
  · intro hst hok
    have hp := (IdentityStore.Pending.of_none hst []).after cave f0 s ops
    obtain ⟨aKey, hkey, ha, hssd, hal⟩ := IdentityStore.commitCaveKey_ok _ hok
    obtain ⟨before, since, he, hsi, hl⟩ := hp aKey hkey
    grind

/-- A cipher that can be followed by eye: the SSD is the A-key and RANDSSD. -/
def echoCave : Cave Unit where
  generateSsd aKey _ randssd := ⟨aKey, randssd⟩
  authSignature rand authData _ _ := .ok ⟨rand ^^^ authData, ()⟩
  authu _ randu _ _ _ := .ok ⟨randu, ()⟩
  authbs _ randbs _ _ := .ok randbs
  generateCallKeys _ ssdB _ := ⟨ssdB, 0⟩

def blankStore : IdentityStore := ⟨⟨.none, none, none, none, none, none, none, none, 0⟩, none⟩

def exchangeOps : List KeyOp :=
  [.beginKeyExchange A_KEY_P_REV_2G (2 ^ 511 + 1) 2 5, .completeKeyExchange (fixedWidth (2 ^ 3) 64),
    .beginSsdUpdate 7, .finishSsdUpdate 1 true]

theorem uncommitted_exchange_inert_committed :
    ∃ before aKey since, blankStore.events echoCave (fun seed _ _ _ => seed) exchangeOps =
        before ++ .completed aKey :: since ∧
      (blankStore.after echoCave (fun seed _ _ _ => seed) exchangeOps).commitCaveKey.2.row.aKey = some aKey := by
  obtain ⟨before, aKey, since, he, -, ha, -⟩ :=
    (uncommitted_exchange_inert echoCave (fun seed _ _ _ => seed) blankStore exchangeOps).2 rfl
      (by decide +kernel)
  exact ⟨before, aKey, since, he, ha⟩

end OneXBts.Hlr
