import LlmqQuorums.Basic

/-! The quorum data request envelope and the in-flight table `mapQuorumDataRequests`, keyed by
a peer's verified proRegTxHash and whether the request is outgoing. `CQuorumDataRequest` is
declared in llmq/quorums.h, outside src, so the envelope follows the spec; the table steps
below are the parts of the three handlers in llmq/quorums.cpp that touch the table.
-/

namespace Llmq

/-- Modelled from the spec: the error codes of `CQuorumDataRequest::Errors`. -/
inductive CQuorumDataRequest.Errors
  | none
  | undefined
  | quorumTypeInvalid
  | quorumBlockNotFound
  | quorumNotFound
  | masternodeIsNoMember
  | quorumVerificationVectorMissing
  | encryptedContributionsMissing
  deriving DecidableEq, Repr

/-- Modelled from the spec: `CQuorumDataRequest`, a typed and expiring request envelope, with
the quorum type and hash, a mask of requested data kinds, the requesting member's identity, an
error code, a processed flag and the creation time.
-/
structure CQuorumDataRequest where
  llmqType : LLMQType
  quorumHash : Uint256
  nDataMask : Nat
  proTxHash : Uint256
  nError : CQuorumDataRequest.Errors
  nTime : Nat
  fProcessed : Bool
  deriving DecidableEq, Repr

/-- The fields of a request as a peer sends them in QGETDATA or QDATA. -/
structure DataRequestWire where
  llmqType : LLMQType
  quorumHash : Uint256
  nDataMask : Nat
  proTxHash : Uint256
  nError : CQuorumDataRequest.Errors
  deriving DecidableEq, Repr

namespace CQuorumDataRequest

/-- Modelled from the spec: bit 0 of the data mask asks for the verification vector. -/
def quorumVerificationVector : Nat := 1

/-- Modelled from the spec: bit 1 of the data mask asks for the encrypted contributions. -/
def encryptedContributions : Nat := 2

/-- Modelled from the spec: a request created at `now`, without error and unprocessed. -/
def create (llmqType : LLMQType) (quorumHash : Uint256) (nDataMask : Nat) (proTxHash : Uint256)
    (now : Nat) : CQuorumDataRequest :=
  ⟨llmqType, quorumHash, nDataMask, proTxHash, .undefined, now, false⟩

/-- Modelled from the spec: a request read from the wire at `now`, unprocessed. -/
@[simps] def received (msg : DataRequestWire) (now : Nat) : CQuorumDataRequest :=
  ⟨msg.llmqType, msg.quorumHash, msg.nDataMask, msg.proTxHash, msg.nError, now, false⟩

/-- The fields a request puts on the wire. -/
def toWire (r : CQuorumDataRequest) : DataRequestWire :=
  ⟨r.llmqType, r.quorumHash, r.nDataMask, r.proTxHash, r.nError⟩

/-- Modelled from the spec: `IsExpired`, the request's age exceeds the fixed timeout. -/
def isExpired (expirationTimeout now : Nat) (r : CQuorumDataRequest) : Bool :=
  expirationTimeout < now - r.nTime

/-- Modelled from the spec: `operator==`, type, quorum hash, data mask and requester equal. -/
def sameAs (r other : CQuorumDataRequest) : Bool :=
  r.llmqType == other.llmqType && r.quorumHash == other.quorumHash
    && r.nDataMask == other.nDataMask && r.proTxHash == other.proTxHash

/-- `GetDataMask() & flag`: the request asks for the data kind `flag`. -/
def wants (r : CQuorumDataRequest) (flag : Nat) : Bool :=
  r.nDataMask &&& flag != 0

end CQuorumDataRequest

/-- `mapQuorumDataRequests`: (verified proRegTxHash, outgoing) to the request in flight. -/
def RequestTable := Uint256 × Bool → Option CQuorumDataRequest

namespace RequestTable

/-- The table at startup. -/
def empty : RequestTable := fun _ => none

/-- Store `request` at `key`. -/
def set (table : RequestTable) (key : Uint256 × Bool) (request : CQuorumDataRequest)
    : RequestTable :=
  fun k => if k = key then some request else table k

/-- The sweep of `UpdatedBlockTip`: every expired entry is erased. -/
def sweep (expirationTimeout now : Nat) (table : RequestTable) : RequestTable :=
  fun k => (table k).filter fun r => !r.isExpired expirationTimeout now

@[simp] theorem set_same (table : RequestTable) (key : Uint256 × Bool)
    (request : CQuorumDataRequest) : table.set key request key = some request := by
  simp [set]

@[simp] theorem set_other (table : RequestTable) {key k : Uint256 × Bool}
    (request : CQuorumDataRequest) (other : k ≠ key) : table.set key request k = table k := by
  simp [set, other]

end RequestTable

/-- What `RequestQuorumData` does: refuse at one of its early checks, refuse because an
unexpired request is in flight ("Already requested"), or push a QGETDATA carrying `request`,
where `inserted` is the `bool` of `emplace`'s result.
-/
inductive RequestOutcome
  | refused
  | alreadyRequested
  | sent (request : CQuorumDataRequest) (inserted : Bool)
  deriving DecidableEq, Repr

/-- The table step of `RequestQuorumData` at `key`: `emplace` the new request, then send the
entry at the key unless an unexpired entry was there before. `emplace` does not overwrite, so
an expired entry stays and is what gets sent.
-/
def emplaceRequest (expirationTimeout now : Nat) (table : RequestTable) (key : Uint256 × Bool)
    (request : CQuorumDataRequest) : RequestOutcome × RequestTable :=
  match table key with
  | none => (.sent request true, table.set key request)
  | some existing =>
      if existing.isExpired expirationTimeout now then (.sent existing false, table)
      else (.alreadyRequested, table)

/-- The table step of a received QGETDATA at `key`: the request is stored when the key is free
or its entry expired; otherwise "Request limit exceeded" is charged (score 25) and the entry is
left. Returns the charge, if any, and the table.
-/
def storeIncoming (expirationTimeout now : Nat) (table : RequestTable) (key : Uint256 × Bool)
    (request : CQuorumDataRequest) : Option (String × Nat) × RequestTable :=
  match table key with
  | none => (none, table.set key request)
  | some existing =>
      if existing.isExpired expirationTimeout now then (none, table.set key request)
      else (some ("Request limit exceeded", 25), table)

/-- The table checks of a received QDATA at `key`: the entry must exist, be unprocessed and be
like the response; passing marks it processed. A failed check names its error.
-/
def matchResponse (table : RequestTable) (key : Uint256 × Bool) (request : CQuorumDataRequest)
    : Except String RequestTable :=
  match table key with
  | none => .error "Not requested"
  | some entry =>
      if entry.fProcessed then .error "Already received"
      else if !request.sameAs entry then .error "Not like requested"
      else .ok (table.set key { entry with fProcessed := true })

-----------------------------------------------------------------------------------------
-- Each table step reads and writes only its own key
-----------------------------------------------------------------------------------------

section Steps

variable {expirationTimeout now : Nat} {key k : Uint256 × Bool} {request : CQuorumDataRequest}

theorem emplaceRequest_other (table : RequestTable) (other : k ≠ key)
    : (emplaceRequest expirationTimeout now table key request).2 k = table k := by
  unfold emplaceRequest
  split
  · exact RequestTable.set_other _ _ other
  · split <;> rfl

theorem emplaceRequest_congr {table table' : RequestTable} (same : table key = table' key)
    : (emplaceRequest expirationTimeout now table key request).1
        = (emplaceRequest expirationTimeout now table' key request).1
          ∧ (emplaceRequest expirationTimeout now table key request).2 key
            = (emplaceRequest expirationTimeout now table' key request).2 key := by
  unfold emplaceRequest
  rw [same]
  split
  · simp
  · split <;> simp [same]

theorem storeIncoming_other (table : RequestTable) (other : k ≠ key)
    : (storeIncoming expirationTimeout now table key request).2 k = table k := by
  unfold storeIncoming
  split
  · exact RequestTable.set_other _ _ other
  · split
    · exact RequestTable.set_other _ _ other
    · rfl

theorem storeIncoming_congr {table table' : RequestTable} (same : table key = table' key)
    : (storeIncoming expirationTimeout now table key request).1
        = (storeIncoming expirationTimeout now table' key request).1
      ∧ (storeIncoming expirationTimeout now table key request).2 key
        = (storeIncoming expirationTimeout now table' key request).2 key := by
  unfold storeIncoming
  rw [same]
  split
  · simp
  · split <;> simp [same]

/-- A response passes the table checks only against an unprocessed entry like it, and passing
marks that entry processed.
-/
theorem matchResponse_ok {table table' : RequestTable}
    (passed : matchResponse table key request = .ok table')
    : ∃ entry, table key = some entry ∧ entry.fProcessed = false ∧ request.sameAs entry = true
      ∧ table' = table.set key { entry with fProcessed := true } := by
  unfold matchResponse at passed
  split at passed
  · cases passed
  · rename_i entry found
    split_ifs at passed with processed like
    cases passed
    exact ⟨entry, found, by simpa using processed, by simpa using like, rfl⟩

theorem matchResponse_other {table table' : RequestTable} (other : k ≠ key)
    (passed : matchResponse table key request = .ok table') : table' k = table k := by
  obtain ⟨entry, -, -, -, rfl⟩ := matchResponse_ok passed
  exact RequestTable.set_other _ _ other

theorem matchResponse_congr {table table' : RequestTable} (same : table key = table' key)
    : (matchResponse table key request).map (· key)
      = (matchResponse table' key request).map (· key) := by
  unfold matchResponse
  rw [same]
  split
  · rfl
  · split_ifs <;> simp [Except.map]

end Steps

end Llmq
