import OneXBts.Lib.BigEndian

/-!
The decisions of the authentication center over stored credentials (`auth.rs`).

The A-key and the shared secret data (SSD) of a mobile stay in the HLR; a challenge goes in and a
verdict comes out. The cipher is a parameter: `Cave` is what the decisions use of it.
-/

namespace OneXBts.Hlr

open Lib

inductive AuthAlgorithm where
  | none
  | cave
deriving Repr, DecidableEq

structure Ssd where
  ssdA : Bytes
  ssdB : Bytes
deriving Repr, DecidableEq

structure CallKeyMaterial where
  cmeaKey : Bytes
  privateLongCodeMask : UInt64
deriving Repr, DecidableEq

structure AuthSignature (Saved : Type) where
  signature : UInt32
  /-- The registers the call keys are made from. -/
  saved : Saved

structure Cave (Saved : Type) where
  generateSsd : (aKey : Bytes) → (esn : UInt32) → (randssd : Bytes) → Ssd
  authSignature : (rand authData : UInt32) → (ssdA : Bytes) → (esn : UInt32) →
    Except String (AuthSignature Saved)
  authu : (ssdA : Bytes) → (randu imsiS1 : UInt32) → (imsiS2 : UInt16) → (esn : UInt32) →
    Except String (AuthSignature Saved)
  authbs : (ssdANew : Bytes) → (randbs imsiS1 esn : UInt32) → Except String UInt32
  generateCallKeys : Saved → (ssdB : Bytes) → (esn : UInt32) → CallKeyMaterial

structure CaveCredentials where
  authAlgo : AuthAlgorithm
  aKey : Option Bytes
  ssd : Option Ssd
  randssd : Option Bytes
  /-- The A-key of a key exchange that waits for the mobile's Commit Response. -/
  pendingAKey : Option Bytes
  /-- The SSD made from `pendingAKey`, committed with it. -/
  pendingSsd : Option Ssd
deriving Repr, DecidableEq

namespace CaveCredentials

/-- An A-key without a stored SSD stands for an SSD of zeros. -/
def currentSsd (c : CaveCredentials) : Option Ssd :=
  if c.authAlgo ≠ .cave then none
  else match c.ssd, c.aKey with
    | some ssd, _ => some ssd
    | none, some _ => some ⟨List.replicate 8 0, List.replicate 8 0⟩
    | none, none => none

/-- A key exchange updates the SSD from its A-key before the commit, whether or not an A-key is on
file. -/
def canUpdateSsd (c : CaveCredentials) : Bool := c.pendingAKey.isSome || (c.aKey.isSome && c.authAlgo == .cave)

def otaspSsd (c : CaveCredentials) : Option Ssd :=
  match c.pendingSsd with
  | some ssd => some ssd
  | none => c.currentSsd

end CaveCredentials

inductive CaveAuthOutcome where
  | success
  | signatureMismatch
  | countMismatch
  | notProvisioned
deriving Repr, DecidableEq

structure CaveVerdict where
  outcome : CaveAuthOutcome
  callKeys : Option CallKeyMaterial
deriving Repr, DecidableEq

def CaveVerdict.withoutKeys (outcome : CaveAuthOutcome) : CaveVerdict := ⟨outcome, none⟩

structure GlobalChallenge where
  esn : UInt32
  rand : UInt32
  authr : UInt32
  authData : UInt32
  generateCallKeys : Bool
  otaspReauthentication : Bool
deriving Repr, DecidableEq

structure UniqueChallenge where
  esn : UInt32
  randu : UInt32
  authu : UInt32
  imsiS1 : UInt32
  imsiS2 : UInt16
  generateCallKeys : Bool
deriving Repr, DecidableEq

section Verdicts

variable {Saved : Type} (cave : Cave Saved)

def verdictOf (auth : AuthSignature Saved) (ssd : Ssd) (esn reported : UInt32)
    (generateCallKeys : Bool) : CaveVerdict :=
  if auth.signature ≠ reported then CaveVerdict.withoutKeys .signatureMismatch
  else ⟨.success,
    if generateCallKeys then some (cave.generateCallKeys auth.saved ssd.ssdB esn) else none⟩

def verifyGlobalChallenge (creds : CaveCredentials) (challenge : GlobalChallenge) :
    Except String CaveVerdict :=
  match if challenge.otaspReauthentication then creds.otaspSsd else creds.currentSsd with
  | none => .ok (CaveVerdict.withoutKeys .notProvisioned)
  | some ssd => do
    let auth ← cave.authSignature challenge.rand challenge.authData ssd.ssdA challenge.esn
    return verdictOf cave auth ssd challenge.esn challenge.authr challenge.generateCallKeys

def verifyUniqueChallenge (creds : CaveCredentials) (challenge : UniqueChallenge) :
    Except String CaveVerdict :=
  match creds.currentSsd with
  | none => .ok (CaveVerdict.withoutKeys .notProvisioned)
  | some ssd => do
    let auth ← cave.authu ssd.ssdA challenge.randu challenge.imsiS1 challenge.imsiS2 challenge.esn
    return verdictOf cave auth ssd challenge.esn challenge.authu challenge.generateCallKeys

/-- The new SSD of the update under way; in a provisioning session it comes from the exchanged
A-key. -/
def CaveCredentials.ssdUpdateResult (c : CaveCredentials) (esn : UInt32) : Option Ssd := do
  let aKey ← c.pendingAKey <|> c.aKey
  let randssd ← c.randssd
  return cave.generateSsd aKey esn randssd

def committedSsd (creds : CaveCredentials) (esn : UInt32) : Except String Ssd :=
  match creds.ssdUpdateResult cave esn with
  | some ssd => .ok ssd
  | none => .error "no SSD update in progress"

def baseStationChallenge (creds : CaveCredentials) (esn randbs imsiS1 : UInt32) :
    Except String UInt32 := do
  let ssdNew ← committedSsd cave creds esn
  cave.authbs ssdNew.ssdA randbs imsiS1 esn

end Verdicts

/-! ### What the verdicts read -/

section Reads

variable {c c' : CaveCredentials}

lemma CaveCredentials.currentSsd_congr (ha : c.authAlgo = c'.authAlgo)
    (hkey : c.aKey = c'.aKey) (hssd : c.ssd = c'.ssd) : c.currentSsd = c'.currentSsd := by
  rw [currentSsd, currentSsd, ha, hkey, hssd]

variable {Saved : Type} (cave : Cave Saved)

lemma verifyGlobalChallenge_congr (h : c.currentSsd = c'.currentSsd)
    (hr : challenge.otaspReauthentication = false) :
    verifyGlobalChallenge cave c challenge = verifyGlobalChallenge cave c' challenge := by
  simp only [verifyGlobalChallenge, hr, Bool.false_eq_true, if_false, h]

lemma verifyUniqueChallenge_congr (h : c.currentSsd = c'.currentSsd)
    (challenge : UniqueChallenge) :
    verifyUniqueChallenge cave c challenge = verifyUniqueChallenge cave c' challenge := by
  simp only [verifyUniqueChallenge, h]

end Reads

end OneXBts.Hlr
