import LlmqQuorums.DataRequest
import LlmqQuorums.QuorumManager

/-! One node of the quorum data exchange: the quorum manager with the request table and the
clock, the handlers that act on them (`RequestQuorumData`, `ProcessMessage` for QGETDATA and
QDATA, the sweep of `UpdatedBlockTip`), and runs over any interleaving of these with chain
reorganisations, quorum lookups and cache evictions.
-/

namespace Llmq

/-- A peer connection (`CNode`) as the handlers read it. A verified proRegTxHash of `0` is the
null hash: the connection is not a verified masternode.
-/
structure CNode where
  id : Nat
  nVersion : Nat
  verifiedProRegTxHash : Uint256
  qwatch : Bool
  deriving DecidableEq, Repr

/-- The node's fixed configuration and collaborators: masternode mode, `-watchquorums`,
`LLMQ_DATA_MESSAGES_VERSION`, the request expiry timeout, this node's `activeMasternodeInfo`
(proTxHash and operator key), and the DKG session manager's `GetEncryptedContributions`.
-/
structure NodeEnv extends ManagerEnv where
  fMasternodeMode : Bool
  watchQuorumsEnabled : Bool
  llmqDataMessagesVersion : Nat
  expirationTimeout : Nat
  myProTxHash : Uint256
  blsKeyOperator : CBLSSecretKey
  getEncryptedContributions
    : LLMQType → CBlockIndex → List Bool → Uint256 → Option (List CBLSIESEncryptedObject)

/-- The node's mutable state: the manager, `mapQuorumDataRequests` and the clock `GetTime()`. -/
structure NodeState extends ManagerState where
  requests : RequestTable
  now : Nat

/-- The data a QDATA carries after the request: the verification vector and the encrypted
contributions, each present when the sender wrote it.
-/
structure QDataBody where
  vvec : Option BLSVerificationVector
  encrypted : Option (List CBLSIESEncryptedObject)
  deriving DecidableEq, Repr

/-- An empty body, as `sendQDATA` sends with an error. -/
def QDataBody.empty : QDataBody := ⟨none, none⟩

section Handlers

variable (env : NodeEnv)

/-- Replace the manager part of the node state. -/
def NodeState.withManager (s : NodeState) (manager : ManagerState) : NodeState :=
  { s with toManagerState := manager }

@[simp] theorem NodeState.withManager_requests (s : NodeState) (manager : ManagerState)
    : (s.withManager manager).requests = s.requests := rfl

@[simp] theorem NodeState.withManager_now (s : NodeState) (manager : ManagerState)
    : (s.withManager manager).now = s.now := rfl

@[simp] theorem NodeState.withManager_mined (s : NodeState) (manager : ManagerState)
    : (s.withManager manager).mined = manager.mined := rfl

/-- The checks of `RequestQuorumData` before the table: the peer's version and identity, the
type, the block and the quorum, which `GetQuorum` may build into the cache. Passing yields the
quorum's block.
-/
def requestChecks (s : NodeState) (pFrom : CNode) (llmqType : LLMQType)
    (pQuorumIndex : Option CBlockIndex) : Option CBlockIndex × ManagerState :=
  if pFrom.nVersion < env.llmqDataMessagesVersion then (none, s.toManagerState)
  else if pFrom.verifiedProRegTxHash = 0 ∧ pFrom.qwatch = false then (none, s.toManagerState)
  else if (env.consensus.llmqs llmqType).isNone then (none, s.toManagerState)
  else
    match pQuorumIndex with
    | none => (none, s.toManagerState)
    | some pindex =>
      match getQuorum env.toManagerEnv s.toManagerState llmqType pindex with
      | (none, manager) => (none, manager)
      | (some _, manager) => (some pindex, manager)

/-- `RequestQuorumData(pFrom, llmqType, pQuorumIndex, nDataMask, proTxHash)`: the checks, then
the table step at (verified proRegTxHash, outgoing) and the push of the QGETDATA.
-/
def requestQuorumData (s : NodeState) (pFrom : CNode) (llmqType : LLMQType)
    (pQuorumIndex : Option CBlockIndex) (nDataMask : Nat) (proTxHash : Uint256)
    : RequestOutcome × NodeState :=
  match requestChecks env s pFrom llmqType pQuorumIndex with
  | (none, manager) => (.refused, s.withManager manager)
  | (some pindex, manager) =>
      let request := CQuorumDataRequest.create llmqType pindex.hash nDataMask proTxHash s.now
      let (outcome, requests) := emplaceRequest env.expirationTimeout s.now s.requests
        (pFrom.verifiedProRegTxHash, true) request
      (outcome, { s.withManager manager with requests })

/-- What a QGETDATA does: the misbehaviour charges it makes and the QDATA it answers with. -/
structure QGetDataOutcome where
  charges : List (String × Nat)
  response : Option (DataRequestWire × QDataBody)
  deriving DecidableEq, Repr

/-- The data part of serving a QGETDATA: the error code to answer with and the body. -/
def serveQuorumData (pQuorum : CQuorum) (pQuorumIndex : CBlockIndex)
    (request : CQuorumDataRequest) : CQuorumDataRequest.Errors × QDataBody :=
  let vvecPart : Except CQuorumDataRequest.Errors (Option BLSVerificationVector) :=
    if request.wants CQuorumDataRequest.quorumVerificationVector then
      match pQuorum.quorumVvec with
      | none => .error .quorumVerificationVectorMissing
      | some vvec => .ok (some vvec)
    else .ok none
  match vvecPart with
  | .error nError => (nError, .empty)
  | .ok vvec =>
    if !request.wants CQuorumDataRequest.encryptedContributions then (.none, ⟨vvec, none⟩)
    else if pQuorum.getMemberIndex request.proTxHash = -1 then (.masternodeIsNoMember, .empty)
    else
      match env.getEncryptedContributions request.llmqType pQuorumIndex pQuorum.qc.validMembers
          request.proTxHash with
      | none => (.encryptedContributionsMissing, .empty)
      | some vecEncrypted => (.none, ⟨vvec, some vecEncrypted⟩)

/-- `ProcessMessage` for QGETDATA. The duplicate check charges "Request limit exceeded" and
handling goes on; every path ends in one `sendQDATA`.
-/
def processQGetData (s : NodeState) (pFrom : CNode) (msg : DataRequestWire)
    : QGetDataOutcome × NodeState :=
  if !env.fMasternodeMode || (pFrom.verifiedProRegTxHash == 0 && !pFrom.qwatch) then
    (⟨[("Not a verified masternode or a qwatch connection", 10)], none⟩, s)
  else
    let request := CQuorumDataRequest.received msg s.now
    let (charge, requests) := storeIncoming env.expirationTimeout s.now s.requests
      (pFrom.verifiedProRegTxHash, false) request
    let s := { s with requests }
    let reply := fun (nError : CQuorumDataRequest.Errors) (body : QDataBody) =>
      QGetDataOutcome.mk charge.toList (some ({ request with nError }.toWire, body))
    if (env.consensus.llmqs request.llmqType).isNone then (reply .quorumTypeInvalid .empty, s)
    else
      match env.chain.lookupBlockIndex request.quorumHash with
      | none => (reply .quorumBlockNotFound .empty, s)
      | some pQuorumIndex =>
        match getQuorum env.toManagerEnv s.toManagerState request.llmqType pQuorumIndex with
        | (none, manager) => (reply .quorumNotFound .empty, s.withManager manager)
        | (some pQuorum, manager) =>
            let (nError, body) := serveQuorumData env pQuorum pQuorumIndex request
            (reply nError body, s.withManager manager)

/-- How a QDATA ends: rejected by the peer or request-table checks (`unmatched`), rejected by
a later check (`rejected`), an error code from the peer, a body lacking a part its mask names
(reading it throws), the dereference of a null `quorumVvec`, or the end of the handler.
-/
inductive QDataOutcome
  | unmatched (strError : String) (nScore : Nat)
  | rejected (strError : String) (nScore : Nat)
  | responseError (nError : CQuorumDataRequest.Errors)
  | malformed
  | nullDereference
  | absorbed
  deriving DecidableEq, Repr

/-- The verdict of the request-table checks on a QDATA: the rejection, or `none` when it
passed them.
-/
def QDataOutcome.gateVerdict : QDataOutcome → Option (String × Nat)
  | .unmatched strError nScore => some (strError, nScore)
  | _ => none

/-- The first checks of a QDATA: the peer, then the request table at (verified proRegTxHash,
outgoing). Passing marks the entry processed.
-/
def qdataGate (s : NodeState) (pFrom : CNode) (msg : DataRequestWire)
    : Except (String × Nat) (CQuorumDataRequest × RequestTable) :=
  if (!env.fMasternodeMode && !env.watchQuorumsEnabled)
      || (pFrom.verifiedProRegTxHash == 0 && !pFrom.qwatch) then
    .error ("Not a verified masternode or a qwatch connection", 10)
  else
    let request := CQuorumDataRequest.received msg s.now
    match matchResponse s.requests (pFrom.verifiedProRegTxHash, true) request with
    | .error strError => .error (strError, 10)
    | .ok requests => .ok (request, requests)

/-- The verification-vector part of absorbing a QDATA. -/
def absorbVerificationVector (request : CQuorumDataRequest) (body : QDataBody)
    (pQuorum : CQuorum) : Except QDataOutcome CQuorum :=
  if !request.wants CQuorumDataRequest.quorumVerificationVector then .ok pQuorum
  else
    match body.vvec with
    | none => .error .malformed
    | some verificationVector =>
        match pQuorum.setVerificationVector env.bls verificationVector with
        | (true, installed) => .ok installed
        | (false, _) => .error (.rejected "Invalid quorum verification vector" 10)

/-- The encrypted-contributions part of absorbing a QDATA. The size check reads
`quorumVvec->size()` without testing the pointer.
-/
def absorbContributions (request : CQuorumDataRequest) (body : QDataBody) (pQuorum : CQuorum)
    : Except QDataOutcome CQuorum :=
  if !request.wants CQuorumDataRequest.encryptedContributions then .ok pQuorum
  else
    match pQuorum.quorumVvec with
    | none => .error .nullDereference
    | some quorumVvec =>
      if quorumVvec.length ≠ pQuorum.params.threshold then
        .error (.rejected "No valid quorum verification vector available" 0)
      else if pQuorum.getMemberIndex request.proTxHash = -1 then
        .error (.rejected "Not a member of the quorum" 0)
      else
        match body.encrypted with
        | none => .error .malformed
        | some vecEncrypted =>
          let memberIdx := (pQuorum.getMemberIndex request.proTxHash).toNat
          match vecEncrypted.mapM fun e => env.bls.decrypt e memberIdx env.blsKeyOperator with
          | none => .error (.rejected "Failed to decrypt" 10)
          | some vecSecretKeys =>
            match pQuorum.setSecretKeyShare env.bls env.myProTxHash
                (env.bls.aggregateSecretKeys vecSecretKeys) with
            | (true, installed) => .ok installed
            | (false, _) => .error (.rejected "Invalid secret key share received" 10)

/-- The absorbing part of a QDATA for the cached quorum. The quorum is shared, so what a step
installs stays in the cache when a later step returns; only the end of the handler writes the
contributions to evoDb.
-/
def absorbQData (s : NodeState) (request : CQuorumDataRequest) (pQuorum : CQuorum)
    (body : QDataBody) : QDataOutcome × NodeState :=
  let store := fun (quorum : CQuorum) =>
    { s with
      mapQuorumsCache := s.mapQuorumsCache.insert request.llmqType request.quorumHash quorum }
  match absorbVerificationVector env request body pQuorum with
  | .error outcome => (outcome, s)
  | .ok withVvec =>
    match absorbContributions env request body withVvec with
    | .error outcome => (outcome, store withVvec)
    | .ok withShare =>
        (.absorbed, { store withShare with evoDb := withShare.writeContributions s.evoDb })

/-- `ProcessMessage` for QDATA. -/
def processQData (s : NodeState) (pFrom : CNode) (msg : DataRequestWire) (body : QDataBody)
    : QDataOutcome × NodeState :=
  match qdataGate env s pFrom msg with
  | .error (strError, nScore) => (.unmatched strError nScore, s)
  | .ok (request, requests) =>
    let s := { s with requests }
    if request.nError ≠ .none then (.responseError request.nError, s)
    else
      match s.mapQuorumsCache request.llmqType request.quorumHash with
      | none => (.rejected "Quorum not found" 0, s)
      | some pQuorum => absorbQData env s request pQuorum body

/-- The request-table part of `UpdatedBlockTip`: once the chain is synced, expired entries are
erased.
-/
def updatedBlockTip (s : NodeState) (synced : Bool) : NodeState :=
  if synced then { s with requests := s.requests.sweep env.expirationTimeout s.now } else s

end Handlers

-----------------------------------------------------------------------------------------
-- Runs over any interleaving
-----------------------------------------------------------------------------------------

/-- What happens at a node, in any order: a reorganisation replacing the mined store, a quorum
lookup, a quorum-cache eviction, a `RequestQuorumData` call, a QGETDATA or QDATA from a peer,
the clock moving on, or a new tip (`synced` says whether the chain is synced).
-/
inductive NodeEvent
  | reorg (mined : MinedCommitments)
  | getQuorum (llmqType : LLMQType) (pindexQuorum : CBlockIndex)
  | evictQuorum (llmqType : LLMQType) (quorumHash : Uint256)
  | requestQuorumData (pFrom : CNode) (llmqType : LLMQType) (pQuorumIndex : Option CBlockIndex)
      (nDataMask : Nat) (proTxHash : Uint256)
  | qgetdata (pFrom : CNode) (msg : DataRequestWire)
  | qdata (pFrom : CNode) (msg : DataRequestWire) (body : QDataBody)
  | advanceClock (now : Nat)
  | updatedBlockTip (synced : Bool)

/-- What an event returns or sends. -/
inductive NodeOutput
  | quorum (found : Option CQuorum)
  | request (outcome : RequestOutcome)
  | served (outcome : QGetDataOutcome)
  | answered (outcome : QDataOutcome)
  | quiet
  deriving DecidableEq, Repr

/-- The peer whose message or request an event is, if any. -/
def NodeEvent.peer : NodeEvent → Option CNode
  | .requestQuorumData pFrom .. => some pFrom
  | .qgetdata pFrom _ => some pFrom
  | .qdata pFrom _ _ => some pFrom
  | _ => none

/-- One event at a node. The clock never goes back. -/
def NodeEvent.step (env : NodeEnv) (s : NodeState) : NodeEvent → NodeOutput × NodeState
  | .reorg mined => (.quiet, { s with mined })
  | .getQuorum llmqType pindexQuorum =>
      let (found, manager) := Llmq.getQuorum env.toManagerEnv s.toManagerState llmqType pindexQuorum
      (.quorum found, s.withManager manager)
  | .evictQuorum llmqType quorumHash =>
      (.quiet, { s with mapQuorumsCache := s.mapQuorumsCache.erase llmqType quorumHash })
  | .requestQuorumData pFrom llmqType pQuorumIndex nDataMask proTxHash =>
      let (outcome, s') :=
        Llmq.requestQuorumData env s pFrom llmqType pQuorumIndex nDataMask proTxHash
      (.request outcome, s')
  | .qgetdata pFrom msg =>
      let (outcome, s') := processQGetData env s pFrom msg
      (.served outcome, s')
  | .qdata pFrom msg body =>
      let (outcome, s') := processQData env s pFrom msg body
      (.answered outcome, s')
  | .advanceClock now => (.quiet, { s with now := max s.now now })
  | .updatedBlockTip synced => (.quiet, Llmq.updatedBlockTip env s synced)

section Steps

variable {env : NodeEnv} {s : NodeState}

@[simp] theorem NodeEvent.step_requestQuorumData (pFrom : CNode) (llmqType : LLMQType)
    (pQuorumIndex : Option CBlockIndex) (nDataMask : Nat) (proTxHash : Uint256)
    : (NodeEvent.requestQuorumData pFrom llmqType pQuorumIndex nDataMask proTxHash).step env s
      = let result := Llmq.requestQuorumData env s pFrom llmqType pQuorumIndex nDataMask proTxHash
        (.request result.1, result.2) := rfl

@[simp] theorem NodeEvent.step_qgetdata (pFrom : CNode) (msg : DataRequestWire)
    : (NodeEvent.qgetdata pFrom msg).step env s
      = let result := processQGetData env s pFrom msg
        (.served result.1, result.2) := rfl

@[simp] theorem NodeEvent.step_qdata (pFrom : CNode) (msg : DataRequestWire) (body : QDataBody)
    : (NodeEvent.qdata pFrom msg body).step env s
      = let result := processQData env s pFrom msg body
        (.answered result.1, result.2) := rfl

@[simp] theorem NodeEvent.step_getQuorum (llmqType : LLMQType) (pindexQuorum : CBlockIndex)
    : (NodeEvent.getQuorum llmqType pindexQuorum).step env s
      = let result := Llmq.getQuorum env.toManagerEnv s.toManagerState llmqType pindexQuorum
        (.quorum result.1, s.withManager result.2) := rfl

end Steps

/-- A run: the outputs of the events in order, and the final state. -/
def runNode (env : NodeEnv) : NodeState → List NodeEvent → List NodeOutput × NodeState
  | s, [] => ([], s)
  | s, event :: rest =>
      let (output, s') := event.step env s
      let (outputs, final) := runNode env s' rest
      (output :: outputs, final)

@[simp] theorem runNode_nil (env : NodeEnv) (s : NodeState) : runNode env s [] = ([], s) := rfl

@[simp] theorem runNode_cons (env : NodeEnv) (s : NodeState) (event : NodeEvent)
    (rest : List NodeEvent)
    : runNode env s (event :: rest)
      = ((event.step env s).1 :: (runNode env (event.step env s).2 rest).1,
          (runNode env (event.step env s).2 rest).2) := rfl

/-- A node at startup with the given mined store: empty caches, evoDb and request table. -/
def NodeState.initial (mined : MinedCommitments) (now : Nat) : NodeState :=
  ⟨⟨mined, fun _ _ => none, EvoDb.empty⟩, RequestTable.empty, now⟩

end Llmq
