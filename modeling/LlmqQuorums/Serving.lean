import LlmqQuorums.CacheCoherence

/-! Serving QGETDATA. The handler stores the request at the peer's incoming key unless an
unexpired request is there, in which case it charges "Request limit exceeded" and goes on: the
answer is computed from the request and the quorum manager alone, so a duplicate within the
timeout gets the same QDATA as a first request.
-/

namespace Llmq

/-- A QDATA body answers a request with data mask `nDataMask` under error code `nError`: under
`NONE` it holds the verification vector exactly when the mask asks for it and the encrypted
contributions exactly when the mask asks for them; under any other code it is empty. -/
structure QDataBody.Answers (nDataMask : Nat) (nError : CQuorumDataRequest.Errors)
    (body : QDataBody) : Prop where
  vvec : nError = .none →
    body.vvec.isSome = (nDataMask &&& CQuorumDataRequest.quorumVerificationVector != 0)
  encrypted : nError = .none →
    body.encrypted.isSome = (nDataMask &&& CQuorumDataRequest.encryptedContributions != 0)
  empty : nError ≠ .none → body = .empty

/-- An error code other than `NONE` goes with the empty body `sendQDATA` sends. -/
theorem QDataBody.answers_empty {nError : CQuorumDataRequest.Errors} (failed : nError ≠ .none)
    (nDataMask : Nat) : QDataBody.empty.Answers nDataMask nError :=
  ⟨fun none => absurd none failed, fun none => absurd none failed, fun _ => rfl⟩

/-- A body served under `NONE` that holds each part exactly when the request asks for it answers
the request. -/
theorem QDataBody.answers_served {request : CQuorumDataRequest} {body : QDataBody}
    (vvec : body.vvec.isSome = request.wants CQuorumDataRequest.quorumVerificationVector)
    (encrypted : body.encrypted.isSome = request.wants CQuorumDataRequest.encryptedContributions) :
    body.Answers request.nDataMask .none :=
  ⟨fun _ => vvec, fun _ => encrypted, fun failed => absurd rfl failed⟩

section Serving

variable {env : NodeEnv} {s : NodeState} {pFrom : CNode} {msg : DataRequestWire}

/-- The answer to a QGETDATA does not depend on the request table. -/
theorem processQGetData_response_requests (requests : RequestTable)
    : (processQGetData env { s with requests } pFrom msg).1.response
      = (processQGetData env s pFrom msg).1.response := by
  unfold processQGetData
  split_ifs
  · rfl
  · dsimp only
    split_ifs
    · rfl
    · split
      · rfl
      · split <;> rfl

/-- What `serveQuorumData` sends answers the request: by the two bits of the mask and the
quorum's vector, then the membership and the contributions lookup, every branch either sends an
error with the empty body or `NONE` with exactly the parts asked for. -/
theorem serveQuorumData_answers (q : CQuorum) (pQuorumIndex : CBlockIndex)
    (request : CQuorumDataRequest) :
    (serveQuorumData env q pQuorumIndex request).2.Answers request.nDataMask
      (serveQuorumData env q pQuorumIndex request).1 := by
  unfold serveQuorumData
  cases wantsVvec : request.wants CQuorumDataRequest.quorumVerificationVector <;>
    cases wantsEnc : request.wants CQuorumDataRequest.encryptedContributions <;>
    cases held : q.quorumVvec <;>
    simp only [wantsVvec, wantsEnc, held, Bool.false_eq_true, ↓reduceIte, Bool.not_false, Bool.not_true]
  all_goals try split_ifs
  all_goals try split
  all_goals first
    | exact QDataBody.answers_empty (by decide) _
    | exact QDataBody.answers_served (by rw [wantsVvec]; rfl) (by rw [wantsEnc]; rfl)

/-- Every QGETDATA that passes the peer check is answered with a QDATA that repeats the request
with an error code, and carries the requested data under `NONE` and the empty body otherwise. -/
theorem processQGetData_answers
    (admitted : (!env.fMasternodeMode || (pFrom.verifiedProRegTxHash == 0 && !pFrom.qwatch))
      = false)
    : ∃ nError body, (processQGetData env s pFrom msg).1.response = some ({ msg with nError }, body)
      ∧ body.Answers msg.nDataMask nError := by
  unfold processQGetData
  rw [if_neg (by simp [admitted])]
  dsimp only
  split_ifs
  · exact ⟨.quorumTypeInvalid, .empty, rfl, QDataBody.answers_empty (by decide) _⟩
  · split
    · exact ⟨.quorumBlockNotFound, .empty, rfl, QDataBody.answers_empty (by decide) _⟩
    · split
      · exact ⟨.quorumNotFound, .empty, rfl, QDataBody.answers_empty (by decide) _⟩
      · exact ⟨_, _, rfl, serveQuorumData_answers _ _ (.received msg s.now)⟩

/-- A QGETDATA that passes the peer check while the peer's incoming entry is unexpired is
charged "Request limit exceeded" and leaves the table as it was.
-/
theorem processQGetData_duplicate {entry : CQuorumDataRequest}
    (admitted : (!env.fMasternodeMode || (pFrom.verifiedProRegTxHash == 0 && !pFrom.qwatch))
      = false)
    (pending : s.requests (pFrom.verifiedProRegTxHash, false) = some entry)
    (unexpired : entry.isExpired env.expirationTimeout s.now = false)
    : (processQGetData env s pFrom msg).1.charges = [("Request limit exceeded", 25)]
      ∧ (processQGetData env s pFrom msg).2.requests = s.requests := by
  have table := @processQGetData_table env s pFrom msg
  simp only [admitted, Bool.false_eq_true, ↓reduceIte, storeIncoming, pending, unexpired,
    Prod.mk.injEq] at table
  exact ⟨table.1, table.2.1⟩

/-- A QGETDATA that passes the peer check while the peer's incoming key is free or holds an
expired entry replaces the entry with the request, with no charge.
-/
theorem processQGetData_replaces
    (admitted : (!env.fMasternodeMode || (pFrom.verifiedProRegTxHash == 0 && !pFrom.qwatch))
      = false)
    (free : ∀ entry, s.requests (pFrom.verifiedProRegTxHash, false) = some entry
      → entry.isExpired env.expirationTimeout s.now = true)
    : (processQGetData env s pFrom msg).1.charges = []
      ∧ (processQGetData env s pFrom msg).2.requests
        = s.requests.set (pFrom.verifiedProRegTxHash, false) (.received msg s.now) := by
  have table := @processQGetData_table env s pFrom msg
  simp only [admitted, Bool.false_eq_true, ↓reduceIte, Prod.mk.injEq] at table
  rw [table.1, table.2.1]
  unfold storeIncoming
  split
  · exact ⟨rfl, rfl⟩
  · rename_i entry found
    rw [if_pos (free entry found)]
    exact ⟨rfl, rfl⟩

end Serving

/-- A request for the verification vector of block 7's type-1 quorum, for member 5. -/
def vectorRequest : DataRequestWire := ⟨1, 7, CQuorumDataRequest.quorumVerificationVector, 5, .undefined⟩

/-- The same QGETDATA from `samplePeer` twice, one second apart, well within the timeout. -/
def duplicateQGetDataEvents : List NodeEvent :=
  [.qgetdata samplePeer vectorRequest, .advanceClock 1, .qgetdata samplePeer vectorRequest]

theorem qgetdata_duplicate_served_with_data :
    (runNode contributingEnv (NodeState.initial sampleMined 0) duplicateQGetDataEvents).1
        = [.served ⟨[], some (⟨1, 7, 1, 5, .none⟩, ⟨some [some 1], none⟩)⟩, .quiet,
            .served ⟨[("Request limit exceeded", 25)],
              some (⟨1, 7, 1, 5, .none⟩, ⟨some [some 1], none⟩)⟩]
      ∧ (runNode contributingEnv (NodeState.initial sampleMined 0) duplicateQGetDataEvents).2.requests
          (3, false) = some (.received vectorRequest 0) := by
  decide

end Llmq
