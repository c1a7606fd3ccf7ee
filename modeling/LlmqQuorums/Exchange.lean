import LlmqQuorums.Serving
import LlmqQuorums.Noninterference

/-! One exchange of quorum data between two nodes A and B: A's `RequestQuorumData` to B, B's
QGETDATA handler on the request A pushed, and A's QDATA handler on B's answer. Between two nodes
on one chain, each reached from startup, a request for the verification vector ends in one of two
ways: B answers with the vector and A installs it, or B answers with an error code and A reports
it. A charges B nothing. A request sent again is another matter: `RequestQuorumData` sends an
expired entry again as it is, and when that entry was answered before, A rejects B's answer as
"Already received" and charges B 10.
-/

namespace Llmq

/-- A node state reached from startup by a run whose reorganisations stay within `canonical`. -/
def NodeState.ReachedOn (env : NodeEnv) (canonical : MinedCommitments) (s : NodeState) : Prop :=
  ∃ mined now events, MinedWithin canonical mined
    ∧ (∀ event ∈ events, event.reorgsWithin (MinedWithin canonical))
    ∧ (runNode env (.initial mined now) events).2 = s

namespace NodeState.ReachedOn

variable {env : NodeEnv} {canonical : MinedCommitments} {s : NodeState}

theorem coherent (reached : s.ReachedOn env canonical) : s.toManagerState.Coherent canonical := by
  obtain ⟨mined, now, events, start, stable, rfl⟩ := reached
  exact runNode_coherent env _ events ⟨start, fun _ _ _ absent => by cases absent⟩ stable

theorem vvecSound (anchored : Anchored canonical) (aggregated : AggregatesTo env.toManagerEnv canonical)
    (reached : s.ReachedOn env canonical) : s.toManagerState.VvecSound env.bls canonical := by
  obtain ⟨mined, now, events, start, stable, rfl⟩ := reached
  exact runNode_vvecSound env _ events anchored aggregated ⟨start, fun _ _ _ absent => by cases absent⟩
    ⟨fun _ _ _ _ absent _ => (by cases absent), fun _ _ absent => (by cases absent)⟩ stable

end NodeState.ReachedOn

section Steps

variable {env : NodeEnv} {s s' : NodeState} {pFrom : CNode} {llmqType : LLMQType}

/-- The checks of `RequestQuorumData` pass with the block they were given, a peer that is a
verified masternode or a qwatch connection, and a quorum `GetQuorum` returns. -/
theorem requestChecks_passed {pQuorumIndex : Option CBlockIndex} {pindex : CBlockIndex}
    {manager : ManagerState}
    (passed : requestChecks env s pFrom llmqType pQuorumIndex = (some pindex, manager)) :
    pQuorumIndex = some pindex ∧ ¬(pFrom.verifiedProRegTxHash = 0 ∧ pFrom.qwatch = false)
      ∧ ∃ q, getQuorum env.toManagerEnv s.toManagerState llmqType pindex = (some q, manager) := by
  unfold requestChecks at passed
  split_ifs at passed with old unverified untyped
  · cases passed
  · cases passed
  · cases passed
  split at passed
  · cases passed
  · rename_i pindex' _
    split at passed
    · cases passed
    · rename_i q _ found
      cases passed
      exact ⟨rfl, unverified, q, found⟩

/-- A `RequestQuorumData` that sends from a free key sends the request it was asked for, keeps it
unprocessed at the key, and leaves in the cache the quorum `GetQuorum` returned. -/
theorem requestQuorumData_sent_fresh {pQuorumIndex : Option CBlockIndex} {nDataMask : Nat}
    {proTxHash : Uint256} {request : CQuorumDataRequest} {inserted : Bool}
    (sent : requestQuorumData env s pFrom llmqType pQuorumIndex nDataMask proTxHash
      = (.sent request inserted, s'))
    (free : s.requests (pFrom.verifiedProRegTxHash, true) = none) :
    ∃ pindex q, pQuorumIndex = some pindex
      ∧ request = .create llmqType pindex.hash nDataMask proTxHash s.now
      ∧ s'.requests (pFrom.verifiedProRegTxHash, true) = some request
      ∧ ¬(pFrom.verifiedProRegTxHash = 0 ∧ pFrom.qwatch = false)
      ∧ (getQuorum env.toManagerEnv s.toManagerState llmqType pindex).1 = some q
      ∧ s'.toManagerState = (getQuorum env.toManagerEnv s.toManagerState llmqType pindex).2
      ∧ s'.now = s.now := by
  have table := requestQuorumData_sent (congrArg Prod.fst sent)
  rw [sent] at table
  obtain ⟨stored, -, resent⟩ := table
  cases inserted
  · exact absurd ((resent rfl).1.symm.trans free) (by simp)
  rw [requestQuorumData_eq] at sent
  split at sent
  · cases sent
  · rename_i pindex manager passed
    obtain ⟨rfl, admitted, q, found⟩ := requestChecks_passed passed
    simp only [emplaceRequest, free, Prod.mk.injEq, RequestOutcome.sent.injEq, and_true] at sent
    obtain ⟨rfl, rfl⟩ := sent
    exact ⟨pindex, q, rfl, rfl, stored, admitted, by rw [found], by rw [found]; rfl, rfl⟩

/-- A `RequestQuorumData` sends only to a peer that is a verified masternode or a qwatch
connection. -/
theorem requestQuorumData_sent_admitted {pQuorumIndex : Option CBlockIndex} {nDataMask : Nat}
    {proTxHash : Uint256} {request : CQuorumDataRequest} {inserted : Bool}
    (sent : requestQuorumData env s pFrom llmqType pQuorumIndex nDataMask proTxHash
      = (.sent request inserted, s')) :
    ¬(pFrom.verifiedProRegTxHash = 0 ∧ pFrom.qwatch = false) := by
  rw [requestQuorumData_eq] at sent
  split at sent
  · cases sent
  · rename_i passed
    exact (requestChecks_passed passed).2.1

/-- B's answer to a QGETDATA repeats the request's fields with an error code; without an error,
the body is what `serveQuorumData` gives for the quorum `GetQuorum` returns for the block B
looked up. -/
theorem processQGetData_response {msg msg' : DataRequestWire} {body : QDataBody}
    (answered : (processQGetData env s pFrom msg).1.response = some (msg', body)) :
    msg' = { msg with nError := msg'.nError }
      ∧ (msg'.nError = .none → ∃ pQuorumIndex q,
        env.chain.lookupBlockIndex msg.quorumHash = some pQuorumIndex
          ∧ (getQuorum env.toManagerEnv s.toManagerState msg.llmqType pQuorumIndex).1 = some q
          ∧ serveQuorumData env q pQuorumIndex (.received msg s.now) = (.none, body)) := by
  unfold processQGetData at answered
  split_ifs at answered
  dsimp only at answered
  split_ifs at answered
  · cases answered
    exact ⟨rfl, fun bad => by cases bad⟩
  · split at answered
    · cases answered
      exact ⟨rfl, fun bad => by cases bad⟩
    · rename_i pQuorumIndex located
      split at answered
      · cases answered
        exact ⟨rfl, fun bad => by cases bad⟩
      · rename_i q _ found
        generalize served : serveQuorumData env q pQuorumIndex _ = answer at answered
        obtain ⟨nError, body'⟩ := answer
        cases answered
        refine ⟨rfl, fun none => ⟨pQuorumIndex, q, located, congrArg Prod.fst found, ?_⟩⟩
        rw [served, show nError = .none from none]

/-- Asked for the verification vector alone and serving it without error, a node sends the
quorum's vector and no contributions. -/
theorem serveQuorumData_vector {q : CQuorum} {pQuorumIndex : CBlockIndex}
    {request : CQuorumDataRequest} {body : QDataBody}
    (vectorOnly : request.nDataMask = CQuorumDataRequest.quorumVerificationVector)
    (served : serveQuorumData env q pQuorumIndex request = (.none, body)) :
    ∃ vvec, q.quorumVvec = some vvec ∧ body = ⟨some vvec, none⟩ := by
  have wantsVvec : request.wants CQuorumDataRequest.quorumVerificationVector = true := by
    simp [CQuorumDataRequest.wants, vectorOnly, CQuorumDataRequest.quorumVerificationVector]
  have noContributions : request.wants CQuorumDataRequest.encryptedContributions = false := by
    simp [CQuorumDataRequest.wants, vectorOnly, CQuorumDataRequest.quorumVerificationVector,
      CQuorumDataRequest.encryptedContributions]
  unfold serveQuorumData at served
  simp only [wantsVvec, noContributions, ↓reduceIte, Bool.not_false] at served
  cases vvec : q.quorumVvec with
  | none => simp [vvec] at served
  | some vvec' =>
      simp only [vvec, Prod.mk.injEq] at served
      exact ⟨vvec', rfl, served.2.symm⟩

/-- A's table checks on an answer that repeats the fields of the unprocessed request A holds for
the peer: passed, with the entry marked processed. -/
theorem qdataGate_answer {msg : DataRequestWire} {request : CQuorumDataRequest}
    (listening : (env.fMasternodeMode || env.watchQuorumsEnabled) = true)
    (admitted : ¬(pFrom.verifiedProRegTxHash = 0 ∧ pFrom.qwatch = false))
    (waiting : s.requests (pFrom.verifiedProRegTxHash, true) = some request)
    (unprocessed : request.fProcessed = false)
    (echoed : msg = { request.toWire with nError := msg.nError }) :
    qdataGate env s pFrom msg = .ok (.received msg s.now,
      s.requests.set (pFrom.verifiedProRegTxHash, true) { request with fProcessed := true }) := by
  have peer : ((!env.fMasternodeMode && !env.watchQuorumsEnabled)
      || (pFrom.verifiedProRegTxHash == 0 && !pFrom.qwatch)) = false := by
    cases master : env.fMasternodeMode <;> cases watch : env.watchQuorumsEnabled <;>
      cases qwatch : pFrom.qwatch <;> simp_all
  have like : (CQuorumDataRequest.received msg s.now).sameAs request = true := by
    rw [echoed]
    simp [CQuorumDataRequest.sameAs, CQuorumDataRequest.toWire]
  simp only [qdataGate, peer, Bool.false_eq_true, ↓reduceIte, matchResponse, waiting, unprocessed,
    like, Bool.not_true]

variable {msg : DataRequestWire} {body : QDataBody} {requests : RequestTable}

/-- An answer with an error code that passes A's table checks is reported as that error. -/
theorem processQData_reports_error (passed : qdataGate env s pFrom msg
      = .ok (.received msg s.now, requests))
    (failed : msg.nError ≠ .none) :
    (processQData env s pFrom msg body).1 = .responseError msg.nError := by
  simp only [processQData, passed, CQuorumDataRequest.received_nError, ne_eq, failed,
    not_false_eq_true, ↓reduceIte]

/-- A vector that passes A's table checks without error, answering a request for the vector
alone, is installed in the quorum A cached for the request when it hashes to that quorum's
commitment. -/
theorem processQData_installs_vector {q : CQuorum} {vvec : BLSVerificationVector}
    (passed : qdataGate env s pFrom msg = .ok (.received msg s.now, requests))
    (served : msg.nError = .none)
    (vectorOnly : msg.nDataMask = CQuorumDataRequest.quorumVerificationVector)
    (cached : s.mapQuorumsCache msg.llmqType msg.quorumHash = some q)
    (hashed : env.bls.serializeHash vvec = q.qc.quorumVvecHash) :
    (processQData env s pFrom msg ⟨some vvec, none⟩).1 = .absorbed
      ∧ (processQData env s pFrom msg ⟨some vvec, none⟩).2.mapQuorumsCache msg.llmqType
          msg.quorumHash = some { q with quorumVvec := some vvec } := by
  have wantsVvec : (CQuorumDataRequest.received msg s.now).wants
      CQuorumDataRequest.quorumVerificationVector = true := by
    simp [CQuorumDataRequest.wants, vectorOnly, CQuorumDataRequest.quorumVerificationVector]
  have noContributions : (CQuorumDataRequest.received msg s.now).wants
      CQuorumDataRequest.encryptedContributions = false := by
    simp [CQuorumDataRequest.wants, vectorOnly, CQuorumDataRequest.quorumVerificationVector,
      CQuorumDataRequest.encryptedContributions]
  simp only [processQData, passed, CQuorumDataRequest.received_nError, served, ne_eq,
    not_true_eq_false, ↓reduceIte, CQuorumDataRequest.received_llmqType,
    CQuorumDataRequest.received_quorumHash, cached, absorbQData, absorbVerificationVector,
    wantsVvec, Bool.not_true, Bool.false_eq_true, CQuorum.setVerificationVector, hashed,
    absorbContributions, noContributions, Bool.not_false]
  simp

end Steps

/-- Between two nodes on one chain, each reached from startup, a request for the verification
vector alone from a free key ends without a charge to the server: B answers with its vector and A
installs it in the quorum it cached for the request, or B answers with an error code and A
reports it. B's vectors hash to their commitments because the contributions it aggregates do; A
checks B's vector with the same hash.
-/
theorem vector_exchange_never_charges_server (envA envB : NodeEnv) (canonical : MinedCommitments)
    (anchored : Anchored canonical) (aggregated : AggregatesTo envB.toManagerEnv canonical)
    (sameHash : envA.bls.serializeHash = envB.bls.serializeHash)
    (located : ∀ h pindex, envB.chain.lookupBlockIndex h = some pindex → pindex.hash = h)
    (listening : (envA.fMasternodeMode || envA.watchQuorumsEnabled) = true)
    {sA sA' sB : NodeState} (reachedA : sA.ReachedOn envA canonical)
    (reachedB : sB.ReachedOn envB canonical) {toB toA : CNode} {llmqType : LLMQType}
    {pQuorumIndex : Option CBlockIndex} {proTxHash : Uint256} {request : CQuorumDataRequest}
    {inserted : Bool} (free : sA.requests (toB.verifiedProRegTxHash, true) = none)
    (sent : requestQuorumData envA sA toB llmqType pQuorumIndex
      CQuorumDataRequest.quorumVerificationVector proTxHash = (.sent request inserted, sA'))
    {msg : DataRequestWire} {body : QDataBody}
    (answered : (processQGetData envB sB toA request.toWire).1.response = some (msg, body)) :
    (msg.nError = .none ∧ (processQData envA sA' toB msg body).1 = .absorbed
        ∧ ∃ vvec, body.vvec = some vvec
          ∧ ((processQData envA sA' toB msg body).2.mapQuorumsCache request.llmqType
              request.quorumHash).bind (·.quorumVvec) = some vvec)
      ∨ (msg.nError ≠ .none ∧ (processQData envA sA' toB msg body).1 = .responseError msg.nError) := by
  obtain ⟨pindex, qA, rfl, created, waiting, admitted, foundA, managerA, -⟩ :=
    requestQuorumData_sent_fresh sent free
  obtain ⟨echoed, served⟩ := processQGetData_response answered
  have passed := qdataGate_answer listening admitted waiting (by rw [created]; rfl) echoed
  by_cases failed : msg.nError = .none
  · -- B served its vector: it hashes to B's commitment for the block, which is A's.
    obtain ⟨pQuorumIndex, qB, lookedUp, foundB, serve⟩ := served failed
    obtain ⟨vvec, heldB, rfl⟩ := serveQuorumData_vector (by rw [created]; rfl) serve
    have coherentB := reachedB.coherent
    have soundB := (getQuorum_vvecSound anchored aggregated coherentB
      (reachedB.vvecSound anchored aggregated) _ pQuorumIndex).cached _ _ qB vvec
      (getQuorum_cached foundB) heldB
    have sameBlock : pQuorumIndex.hash = pindex.hash := by
      rw [located _ _ lookedUp, created]
      rfl
    have sameCommitment : qA.qc = qB.qc := by
      have atA := reachedA.coherent.mined _ _ _ (getQuorum_current reachedA.coherent foundA)
      have atB := coherentB.mined _ _ _ (getQuorum_current coherentB foundB)
      rw [sameBlock, created] at atB
      exact Option.some.inj (atA.symm.trans atB)
    have cachedA : sA'.mapQuorumsCache msg.llmqType msg.quorumHash = some qA := by
      rw [echoed, managerA, created]
      exact getQuorum_cached foundA
    have hashed : envA.bls.serializeHash vvec = qA.qc.quorumVvecHash := by
      rw [sameHash, soundB, sameCommitment]
    obtain ⟨absorbed, installed⟩ := processQData_installs_vector passed failed
      (by rw [echoed, created]; rfl) cachedA hashed
    have keys : request.llmqType = msg.llmqType ∧ request.quorumHash = msg.quorumHash := by
      rw [echoed]
      exact ⟨rfl, rfl⟩
    refine .inl ⟨failed, absorbed, vvec, rfl, ?_⟩
    rw [keys.1, keys.2, installed]
    rfl
  · exact .inr ⟨failed, processQData_reports_error passed failed⟩

/-- Node A of the sample exchange: `contributingEnv` without contributions of its own, so the
quorum it builds for block 7 has no vector. -/
def requestingEnv : NodeEnv := { contributingEnv with getVerifiedContributions := fun _ _ _ => none }

/-- B's connection to A, verified as proRegTxHash 5. -/
def requestingPeer : CNode := ⟨2, 0, 5, false⟩

/-- A's request to B (`samplePeer`) for the vector of block 7's quorum, from startup. -/
def vectorExchangeRequest : RequestOutcome × NodeState :=
  requestQuorumData requestingEnv (.initial sampleMined 0) samplePeer 1 (some ⟨7, 0⟩)
    CQuorumDataRequest.quorumVerificationVector 5

theorem vector_exchange_sample :
    ((⟨1, 7, 1, 5, .none⟩ : DataRequestWire).nError = .none
        ∧ (processQData requestingEnv vectorExchangeRequest.2 samplePeer ⟨1, 7, 1, 5, .none⟩
            ⟨some [some 1], none⟩).1 = .absorbed
        ∧ ∃ vvec, (⟨some [some 1], none⟩ : QDataBody).vvec = some vvec
          ∧ ((processQData requestingEnv vectorExchangeRequest.2 samplePeer ⟨1, 7, 1, 5, .none⟩
              ⟨some [some 1], none⟩).2.mapQuorumsCache (CQuorumDataRequest.create 1 7 1 5 0).llmqType
              (CQuorumDataRequest.create 1 7 1 5 0).quorumHash).bind (·.quorumVvec) = some vvec)
      ∨ ((⟨1, 7, 1, 5, .none⟩ : DataRequestWire).nError ≠ .none
        ∧ (processQData requestingEnv vectorExchangeRequest.2 samplePeer ⟨1, 7, 1, 5, .none⟩
            ⟨some [some 1], none⟩).1 = .responseError (⟨1, 7, 1, 5, .none⟩ : DataRequestWire).nError) :=
  have reached : (NodeState.initial sampleMined 0).ReachedOn contributingEnv sampleMined :=
    ⟨sampleMined, 0, [], fun _ _ _ mined => mined, List.forall_mem_nil _, rfl⟩
  have reachedA : (NodeState.initial sampleMined 0).ReachedOn requestingEnv sampleMined :=
    ⟨sampleMined, 0, [], fun _ _ _ mined => mined, List.forall_mem_nil _, rfl⟩
  @vector_exchange_never_charges_server requestingEnv contributingEnv sampleMined
    sampleMined_anchored contributingEnv_aggregatesTo rfl (fun _ _ found => by cases found; rfl) rfl
    (.initial sampleMined 0) vectorExchangeRequest.2 (.initial sampleMined 0) reachedA reached
    samplePeer requestingPeer 1 (some ⟨7, 0⟩) 5 (.create 1 7 1 5 0) true rfl
    (Prod.ext (by decide) rfl) ⟨1, 7, 1, 5, .none⟩ ⟨some [some 1], none⟩ (by decide)

-----------------------------------------------------------------------------------------
-- An answered entry stays until the sweep
-----------------------------------------------------------------------------------------

/-- `emplace` leaves a taken key, and the table, as they were. -/
theorem emplaceRequest_taken {expirationTimeout now : Nat} {table : RequestTable}
    {key : Uint256 × Bool} {entry : CQuorumDataRequest} (taken : table key = some entry)
    (request : CQuorumDataRequest) :
    (emplaceRequest expirationTimeout now table key request).2 = table := by
  simp only [emplaceRequest, taken]
  split_ifs <;> rfl

/-- The step lemma of an answered entry: every event but a sweeping `UpdatedBlockTip` leaves a
processed entry at an outgoing key in place. `RequestQuorumData` only fills a free key, a
QGETDATA writes an incoming key, and a QDATA passes the table checks only on an unprocessed
entry.
-/
theorem NodeEvent.step_keeps_processed {env : NodeEnv} {s : NodeState} {h : Uint256}
    {entry : CQuorumDataRequest} (held : s.requests (h, true) = some entry)
    (processed : entry.fProcessed = true) (event : NodeEvent)
    (unswept : event ≠ .updatedBlockTip true) :
    (event.step env s).2.requests (h, true) = some entry := by
  cases event with
  | requestQuorumData pFrom llmqType pQuorumIndex nDataMask proTxHash =>
      by_cases mine : (h, true) = (pFrom.verifiedProRegTxHash, true)
      · have table := congrArg Prod.snd (@requestQuorumData_outcome_requests env s pFrom llmqType
          pQuorumIndex nDataMask proTxHash)
        dsimp only at table
        rw [NodeEvent.step_requestQuorumData, table]
        split
        · exact held
        · rw [← mine, emplaceRequest_taken held]
          exact held
      · exact (requestQuorumData_other mine).trans held
  | qgetdata pFrom msg => exact (processQGetData_other (by simp)).trans held
  | qdata pFrom msg body =>
      by_cases mine : (h, true) = (pFrom.verifiedProRegTxHash, true)
      · have table := congrArg (·.2.1) (@processQData_table env s pFrom msg body)
        dsimp only at table
        rw [NodeEvent.step_qdata, table]
        split
        · exact held
        · rename_i gate
          obtain ⟨found, waiting, unprocessed, -, -⟩ := matchResponse_ok (qdataGate_ok gate).2
          rw [← mine, held] at waiting
          cases waiting
          exact absurd processed (by simp [unprocessed])
      · exact (processQData_other mine).trans held
  | updatedBlockTip synced =>
      cases synced
      · exact held
      · exact absurd rfl unswept
  | reorg | getQuorum | evictQuorum | advanceClock => exact held

/-- The run lemma of an answered entry: over every run with no sweeping `UpdatedBlockTip`, a
processed entry at an outgoing key stays; by induction over the events. -/
theorem runNode_keeps_processed (env : NodeEnv) {h : Uint256} {entry : CQuorumDataRequest}
    (processed : entry.fProcessed = true) :
    ∀ (events : List NodeEvent) (s : NodeState), s.requests (h, true) = some entry →
      NodeEvent.updatedBlockTip true ∉ events → (runNode env s events).2.requests (h, true) = some entry
  | [], _, held, _ => held
  | event :: rest, _, held, unswept =>
      runNode_keeps_processed env processed rest _
        (NodeEvent.step_keeps_processed held processed event (List.ne_of_not_mem_cons unswept).symm)
        (List.not_mem_of_not_mem_cons unswept)

/-- With a processed entry at a peer's outgoing key, the QDATA handler of a node that listens
rejects every QDATA from that peer, once it passes the peer check, as "Already received" and
charges 10. -/
theorem processQData_already_received {env : NodeEnv} {s : NodeState} {pFrom : CNode}
    {entry : CQuorumDataRequest}
    (peer : ((!env.fMasternodeMode && !env.watchQuorumsEnabled)
      || (pFrom.verifiedProRegTxHash == 0 && !pFrom.qwatch)) = false)
    (held : s.requests (pFrom.verifiedProRegTxHash, true) = some entry)
    (processed : entry.fProcessed = true) (msg : DataRequestWire) (body : QDataBody) :
    (processQData env s pFrom msg body).1 = .unmatched "Already received" 10 := by
  simp only [processQData, qdataGate, peer, Bool.false_eq_true, ↓reduceIte, matchResponse, held,
    processed]

/-- A's request to B for block 7's vector, B's answer, and the clock past the request's expiry,
with no sweep in between. -/
def answeredRequestEvents : List NodeEvent :=
  [.requestQuorumData samplePeer 1 (some ⟨7, 0⟩) 1 5,
    .qdata samplePeer ⟨1, 7, 1, 5, .none⟩ ⟨some [some 1], none⟩, .advanceClock 1000]

/-- A after those events. -/
def answeredRequestState : NodeState :=
  (runNode contributingEnv (.initial sampleMined 0) answeredRequestEvents).2

/-- The entry A keeps for B after the answer: block 7's request, processed. -/
def answeredEntry : CQuorumDataRequest := { CQuorumDataRequest.create 1 7 1 5 0 with fProcessed := true }

/-- A's next request to B, for block 8's vector. -/
def resentRequest : RequestOutcome × NodeState :=
  requestQuorumData contributingEnv answeredRequestState samplePeer 1 (some ⟨8, 0⟩) 1 5

end Llmq
