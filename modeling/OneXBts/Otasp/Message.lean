import OneXBts.Lib.BigEndian

/-!
The OTASP data messages (`message/*.rs` and the parameter blocks of `param/*.rs` that the session reads itself).

The requests are the constructors of `OtaspMessage`, with the octets they encode to; the responses are decoded one function a
message. An error of a decoder or an encoder is `none`: nothing reads its text.
-/

namespace OneXBts.Otasp

open Lib

/-! ### Message types and result codes -/

def CONFIGURATION : UInt8 := 0x00
def DOWNLOAD : UInt8 := 0x01
def MS_KEY : UInt8 := 0x02
def KEY_GENERATION : UInt8 := 0x03
def RE_AUTHENTICATE : UInt8 := 0x04
def COMMIT_REQ_AND_RESP : UInt8 := 0x05
def PROTOCOL_CAPABILITY : UInt8 := 0x06
def SSPR_CONFIGURATION : UInt8 := 0x07
def SSPR_DOWNLOAD : UInt8 := 0x08
def VALIDATION : UInt8 := 0x09
def OTAPA : UInt8 := 0x0a
def SYSTEM_TAG_CONFIGURATION : UInt8 := 0x13
def SYSTEM_TAG_DOWNLOAD : UInt8 := 0x14
def MMS_CONFIGURATION : UInt8 := 0x16
def MMS_DOWNLOAD : UInt8 := 0x17

/-- A result code. The rejections are told apart by their codes. -/
inductive ResultCode where
  | accepted
  | rejected (code : UInt8)
deriving Repr, DecidableEq

def ResultCode.fromU8 (v : UInt8) : ResultCode := if v = 0x00 then .accepted else .rejected v

def ResultCode.toU8 : ResultCode → UInt8
  | .accepted => 0x00
  | .rejected code => code

def ResultCode.isAccepted : ResultCode → Bool
  | .accepted => true
  | .rejected _ => false

/-! ### Requests -/

structure ParamBlock where
  blockId : UInt8
  paramData : Bytes
deriving Repr, DecidableEq

inductive OtaspMessage where
  | otapaStart
  | protocolCapabilityRequest
  | validationRequest (blocks : List ParamBlock)
  | ssprConfigurationRequest (blockId : UInt8) (requestOffset : UInt16) (requestMaxSize : UInt8)
  | ssprDownloadRequest (blockId : UInt8) (paramData : Bytes)
  | configurationRequest (blockIds : Bytes)
  | downloadRequest (blocks : List ParamBlock)
  | systemTagConfigRequest (blockId : UInt8)
  | systemTagDownloadRequest (blockId : UInt8) (paramData : Bytes)
  | mmsConfigurationRequest (blockIds : Bytes)
  | mmsDownloadRequest (blocks : List ParamBlock)
  | msKeyRequest (aKeyPRev : UInt8) (params : Option (Bytes × Bytes))
  | keyGenerationRequest (bsResult : Bytes)
  | reAuthenticateRequest (rand : UInt32)
  | commitRequest
deriving Repr, DecidableEq

def lengthPrefixed (field : Bytes) : Option Bytes :=
  if field.length > 255 then none else some (UInt8.ofNat field.length :: field)

/-- A type octet, the number of blocks, and the blocks, each behind its identifier and length. -/
def encodeBlocks (msgType : UInt8) (blocks : List ParamBlock) : Option Bytes :=
  if blocks.length > 255 then none
  else do
    let encoded ← blocks.mapM fun block => (lengthPrefixed block.paramData).map (block.blockId :: ·)
    return msgType :: UInt8.ofNat blocks.length :: encoded.flatten

def OtaspMessage.encode : OtaspMessage → Option Bytes
  | .otapaStart => some [OTAPA, 0x80]
  | .protocolCapabilityRequest => some [PROTOCOL_CAPABILITY]
  | .validationRequest blocks => encodeBlocks VALIDATION blocks
  | .ssprConfigurationRequest blockId requestOffset requestMaxSize =>
    some ([SSPR_CONFIGURATION, blockId] ++
      if blockId = 0x01 then octets16 requestOffset ++ [requestMaxSize] else [])
  | .ssprDownloadRequest blockId paramData =>
    (lengthPrefixed paramData).map fun data => [SSPR_DOWNLOAD, blockId] ++ data ++ [0]
  | .configurationRequest blockIds => (lengthPrefixed blockIds).map (CONFIGURATION :: ·)
  | .downloadRequest blocks => (encodeBlocks DOWNLOAD blocks).map (· ++ [0])
  | .systemTagConfigRequest blockId => if blockId = 0x01 then none else some [SYSTEM_TAG_CONFIGURATION, blockId]
  | .systemTagDownloadRequest blockId paramData =>
    (lengthPrefixed paramData).map fun data => [SYSTEM_TAG_DOWNLOAD, blockId] ++ data
  | .mmsConfigurationRequest blockIds => (lengthPrefixed blockIds).map (MMS_CONFIGURATION :: ·)
  | .mmsDownloadRequest blocks => (encodeBlocks MMS_DOWNLOAD blocks).map (· ++ [0])
  | .msKeyRequest aKeyPRev params =>
    match params with
    | none => some [MS_KEY, aKeyPRev]
    | some (p, g) => do
      let p ← lengthPrefixed p
      let g ← lengthPrefixed g
      return [MS_KEY, aKeyPRev] ++ p ++ g
  | .keyGenerationRequest bsResult => (lengthPrefixed bsResult).map (KEY_GENERATION :: ·)
  | .reAuthenticateRequest rand => some (RE_AUTHENTICATE :: octets32 rand)
  | .commitRequest => some [COMMIT_REQ_AND_RESP]

/-- The six digits of a service programming code, two to an octet. -/
def verifySpc (spc : Bytes) : Option Bytes :=
  if spc.all fun c => 0x30 ≤ c && c ≤ 0x39 then
    match spc with
    | [a, b, c, d, e, f] =>
      some [(a - 0x30) * 16 + (b - 0x30), (c - 0x30) * 16 + (d - 0x30), (e - 0x30) * 16 + (f - 0x30)]
    | _ => none
  else none

/-- The MMS URI parameters with one entry, at index 0. -/
def mmsUriParameters (uri : Bytes) : Option Bytes :=
  if uri.length > 255 ∨ ¬ uri.all (fun b => 0x20 ≤ b && b < 0x80) then none
  else some (0x10 :: UInt8.ofNat uri.length :: uri)

def encodeSsprParamData (lastSegment : Bool) (segmentOffset : UInt16) (segmentData : Bytes) :
    Option Bytes :=
  (lengthPrefixed segmentData).map fun data => (if lastSegment then 1 else 0) :: octets16 segmentOffset ++ data

/-! ### Responses -/

def takePairs : ℕ → Bytes → Option (List (UInt8 × UInt8) × Bytes)
  | 0, rest => some ([], rest)
  | n + 1, a :: b :: rest => (takePairs n rest).map fun r => ((a, b) :: r.1, r.2)
  | _ + 1, _ => none

def takeOctets (n : ℕ) (bytes : Bytes) : Option (Bytes × Bytes) :=
  if bytes.length < n then none else some (bytes.take n, bytes.drop n)

def takeLengthPrefixed : Bytes → Option (Bytes × Bytes)
  | [] => none
  | len :: rest => takeOctets len.toNat rest

def takeBlocks : ℕ → Bytes → Option (List ParamBlock × Bytes)
  | 0, rest => some ([], rest)
  | _ + 1, [] => none
  | n + 1, blockId :: rest => do
    let field ← takeLengthPrefixed rest
    let r ← takeBlocks n field.2
    return (⟨blockId, field.1⟩ :: r.1, r.2)

/-- The rest after the last field. `FRESH_INCL` may be left out, and may not be set. -/
def noFresh : Bytes → Bool
  | [] => true
  | b :: _ => b < 0x80

structure OtapaResponse where
  result : ResultCode
  randOtapa : Option UInt32
deriving Repr, DecidableEq

def OtapaResponse.decode : Bytes → Option OtapaResponse
  | msgType :: result :: lock :: rest =>
    if msgType ≠ OTAPA then none
    else if lock &&& 0x01 ≠ 0 then
      match rest with
      | [a, b, c, d] => some ⟨.fromU8 result, some (be32 a b c d)⟩
      | _ => none
    else
      match rest with
      | [] => some ⟨.fromU8 result, none⟩
      | _ => none
  | _ => none

structure ProtocolCapabilityResponse where
  mobFirmRev : UInt16
  mobModel : UInt8
  /-- `FEATURE_ID` and `FEATURE_P_REV`. -/
  features : List (UInt8 × UInt8)
  bandModeCap : UInt8
deriving Repr, DecidableEq

def ProtocolCapabilityResponse.decode : Bytes → Option ProtocolCapabilityResponse
  | msgType :: f1 :: f2 :: mobModel :: nfeat :: rest =>
    if msgType ≠ PROTOCOL_CAPABILITY then none
    else do
      let features ← takePairs nfeat.toNat rest
      let additional ← takeLengthPrefixed features.2
      let bandModeCap ← additional.1.head?
      return ⟨be16 f1 f2, mobModel, features.1, bandModeCap⟩
  | _ => none

/-- The block identifiers and result codes of a Validation, Download or MMS Download Response. -/
def decodeResults (expected : UInt8) : Bytes → Option (List (UInt8 × ResultCode))
  | msgType :: n :: rest =>
    if msgType ≠ expected then none
    else (takePairs n.toNat rest).map fun r => r.1.map fun p => (p.1, .fromU8 p.2)
  | _ => none

def ValidationResponse.decode : Bytes → Option (List (UInt8 × ResultCode)) := decodeResults VALIDATION

def DownloadResponse.decode : Bytes → Option (List (UInt8 × ResultCode)) := decodeResults DOWNLOAD

def MmsDownloadResponse.decode : Bytes → Option (List (UInt8 × ResultCode)) := decodeResults MMS_DOWNLOAD

/-- The blocks of a Configuration or MMS Configuration Response. The result codes that follow them
must be there but are not read. -/
def decodeBlocks (expected : UInt8) : Bytes → Option (List ParamBlock)
  | msgType :: nb :: rest =>
    if msgType ≠ expected then none
    else do
      let blocks ← takeBlocks nb.toNat rest
      let results ← takeOctets nb.toNat blocks.2
      if noFresh results.2 then some blocks.1 else none
  | _ => none

def ConfigurationResponse.decode : Bytes → Option (List ParamBlock) := decodeBlocks CONFIGURATION

def MmsConfigurationResponse.decode : Bytes → Option (List ParamBlock) := decodeBlocks MMS_CONFIGURATION

structure SsprConfigurationResponse where
  blockId : UInt8
  resultCode : ResultCode
  paramData : Bytes
deriving Repr, DecidableEq

def SsprConfigurationResponse.decode : Bytes → Option SsprConfigurationResponse
  | msgType :: blockId :: result :: rest =>
    if msgType ≠ SSPR_CONFIGURATION then none
    else do
      let param ← takeLengthPrefixed rest
      if noFresh param.2 then some ⟨blockId, .fromU8 result, param.1⟩ else none
  | _ => none

structure PrlDimensions where
  maxPrListSize : ℕ
  curPrListSize : ℕ
  prListId : ℕ
deriving Repr, DecidableEq

/-- The sizes and the identifier of the list; nine octets at least. The two record counts are not
read by anyone. -/
def PrlDimensions.decode : Bytes → Option PrlDimensions
  | a :: b :: c :: d :: e :: f :: _ :: _ :: _ :: _ =>
    some ⟨natOfOctets [a, b], natOfOctets [c, d], natOfOctets [e, f]⟩
  | _ => none

structure ExtendedPrlDimensions where
  maxPrListSize : ℕ
  curPrListSize : ℕ
  prListId : ℕ
  curSsprPRev : UInt8
deriving Repr, DecidableEq

/-- As `PrlDimensions`, with the revision of the list: ten octets, and one more for the longer record
counts of revision 3. -/
def ExtendedPrlDimensions.decode : Bytes → Option ExtendedPrlDimensions
  | a :: b :: c :: d :: e :: f :: rev :: _ :: _ :: _ :: rest =>
    if rev = 1 ∨ rev = 3 ∧ rest ≠ [] then some ⟨natOfOctets [a, b], natOfOctets [c, d], natOfOctets [e, f], rev⟩
    else none
  | _ => none

structure PrlSegment where
  lastSegment : Bool
  segmentOffset : UInt16
  segmentData : Bytes
deriving Repr, DecidableEq

def PrlSegment.decode : Bytes → Option PrlSegment
  | flags :: a :: b :: rest => (takeLengthPrefixed rest).map fun field => ⟨flags &&& 0x01 ≠ 0, be16 a b, field.1⟩
  | _ => none

structure SsprDownloadResponse where
  blockId : UInt8
  resultCode : ResultCode
  segmentOffset : UInt16
  segmentSize : UInt8
deriving Repr, DecidableEq

def SsprDownloadResponse.decode : Bytes → Option SsprDownloadResponse
  | msgType :: blockId :: result :: a :: b :: size :: _ =>
    if msgType ≠ SSPR_DOWNLOAD then none else some ⟨blockId, .fromU8 result, be16 a b, size⟩
  | _ => none

def SystemTagConfigResponse.decode : Bytes → Option ResultCode
  | msgType :: _ :: result :: rest =>
    if msgType ≠ SYSTEM_TAG_CONFIGURATION then none
    else (takeLengthPrefixed rest).map fun _ => .fromU8 result
  | _ => none

/-- The result of a System Tag Download Response; the list blocks carry three more octets. -/
def SystemTagDownloadResponse.decode : Bytes → Option ResultCode
  | msgType :: blockId :: result :: rest =>
    if msgType ≠ SYSTEM_TAG_DOWNLOAD then none
    else if (blockId = 0x01 ∨ blockId = 0x02 ∨ blockId = 0x03) ∧ rest.length < 3 then none
    else some (.fromU8 result)
  | _ => none

def MsKeyResponse.decode : Bytes → Option ResultCode
  | [msgType, result] => if msgType ≠ MS_KEY then none else some (.fromU8 result)
  | _ => none

structure KeyGenerationResponse where
  result : ResultCode
  msResult : Bytes
deriving Repr, DecidableEq

def KeyGenerationResponse.decode : Bytes → Option KeyGenerationResponse
  | msgType :: result :: rest =>
    if msgType ≠ KEY_GENERATION then none
    else (takeLengthPrefixed rest).map fun field => ⟨.fromU8 result, field.1⟩
  | _ => none

structure ReAuthenticateResponse where
  authr : ℕ
  randc : ℕ
  count : ℕ
  authData : ℕ
deriving Repr, DecidableEq

/-- Fields of 18, 8, 6 and 24 bits in seven octets. -/
def ReAuthenticateResponse.decode : Bytes → Option ReAuthenticateResponse
  | [msgType, a, b, c, d, e, f, g] =>
    if msgType ≠ RE_AUTHENTICATE then none
    else
      let v := natOfOctets [a, b, c, d, e, f, g]
      some ⟨v / 2 ^ 38, v / 2 ^ 30 % 2 ^ 8, v / 2 ^ 24 % 2 ^ 6, v % 2 ^ 24⟩
  | _ => none

def CommitResponse.decode : Bytes → Option ResultCode
  | [msgType, result] => if msgType ≠ COMMIT_REQ_AND_RESP then none else some (.fromU8 result)
  | _ => none

end OneXBts.Otasp
