import LlmqQuorums.RequestProtocol

/-! What a QDATA that got past the request table does to the cached quorum. The vector step
installs a vector only when it hashes to the commitment; the contributions step reads
`quorumVvec->size()` without testing the pointer, so a response asking for contributions alone
dereferences a null vector when the cached quorum has none. Whatever the vector step installs
stays in the shared quorum, but only the end of the handler writes evoDb.
-/

namespace Llmq

section Steps

variable {env : NodeEnv} {request : CQuorumDataRequest} {body : QDataBody} {q q' : CQuorum}

/-- The vector step passes a quorum it does not ask for unchanged, and otherwise installs a
vector that hashes to the commitment's `quorumVvecHash`.
-/
theorem absorbVerificationVector_ok
    (passed : absorbVerificationVector env request body q = .ok q')
    : (request.wants CQuorumDataRequest.quorumVerificationVector = false → q' = q)
      ∧ (request.wants CQuorumDataRequest.quorumVerificationVector = true →
        ∃ vvec, env.bls.serializeHash vvec = q.qc.quorumVvecHash
          ∧ q' = { q with quorumVvec := some vvec }) := by
  unfold absorbVerificationVector at passed
  split at passed
  · rename_i skipped
    cases passed
    simp_all
  · rename_i wanted
    split at passed
    · cases passed
    · rename_i vvec _
      split at passed
      · rename_i installed result
        cases passed
        obtain ⟨hashed, stored⟩ := CQuorum.setVerificationVector_accepted (by rw [result])
        rw [result] at stored
        simp only [Bool.not_eq_true', Bool.not_eq_false] at wanted
        exact ⟨by simp [wanted], fun _ => ⟨vvec, hashed, stored⟩⟩
      · cases passed

/-- The contributions step dereferences a null vector exactly when it is asked for and the
quorum has no vector.
-/
theorem absorbContributions_nullDereference_iff
    : absorbContributions env request body q = .error .nullDereference
      ↔ request.wants CQuorumDataRequest.encryptedContributions = true
        ∧ q.quorumVvec = none := by
  unfold absorbContributions
  cases wanted : request.wants CQuorumDataRequest.encryptedContributions
  · simp [wanted]
  · cases vvec : q.quorumVvec with
    | none => simp
    | some quorumVvec =>
        simp only [Bool.not_true, Bool.false_eq_true, ↓reduceIte, reduceCtorEq, and_false,
          iff_false]
        repeat' split
        all_goals simp

/-- The contributions step changes at most the secret key share. -/
theorem absorbContributions_ok (passed : absorbContributions env request body q = .ok q')
    : ∃ skShare, q' = { q with skShare } := by
  unfold absorbContributions at passed
  split at passed
  · cases passed
    exact ⟨q.skShare, rfl⟩
  · split at passed
    · cases passed
    · split_ifs at passed
      dsimp only at passed
      split at passed
      · cases passed
      · split at passed
        · cases passed
        · split at passed
          · rename_i vecSecretKeys _ _ _ stored
            cases passed
            obtain ⟨skShare, set⟩ := CQuorum.setSecretKeyShare_snd env.bls env.myProTxHash q
              (env.bls.aggregateSecretKeys vecSecretKeys)
            rw [stored] at set
            exact ⟨skShare, set⟩
          · cases passed

/-- A share the contributions step installs comes with a vector already in the quorum. -/
theorem absorbContributions_share_backed (passed : absorbContributions env request body q = .ok q')
    (replaced : q'.skShare ≠ q.skShare) : q.quorumVvec ≠ none := by
  unfold absorbContributions at passed
  split at passed
  · cases passed
    exact absurd rfl replaced
  · split at passed
    · cases passed
    · rename_i vvec present
      simp [present]

theorem absorbVerificationVector_error_ne {outcome : QDataOutcome}
    (failed : absorbVerificationVector env request body q = .error outcome)
    : outcome ≠ .nullDereference := by
  unfold absorbVerificationVector at failed
  repeat' split at failed
  all_goals cases failed <;> simp

/-- Absorbing dereferences a null vector exactly when the response asks for the contributions
but not the vector and the quorum has no vector.
-/
theorem absorbQData_nullDereference_iff {s : NodeState}
    : (absorbQData env s request q body).1 = .nullDereference
      ↔ request.wants CQuorumDataRequest.quorumVerificationVector = false
        ∧ request.wants CQuorumDataRequest.encryptedContributions = true
        ∧ q.quorumVvec = none := by
  unfold absorbQData
  cases vectorStep : absorbVerificationVector env request body q with
  | error outcome =>
      refine ⟨fun nullDereference => absurd nullDereference
        (absorbVerificationVector_error_ne vectorStep), fun ⟨skipped, _, _⟩ => ?_⟩
      simp [absorbVerificationVector, skipped] at vectorStep
  | ok withVvec =>
      obtain ⟨kept, installed⟩ := absorbVerificationVector_ok vectorStep
      have missing : withVvec.quorumVvec = none
          ↔ request.wants CQuorumDataRequest.quorumVerificationVector = false
            ∧ q.quorumVvec = none := by
        cases wanted : request.wants CQuorumDataRequest.quorumVerificationVector
        · simp [kept wanted]
        · obtain ⟨vvec, -, rfl⟩ := installed wanted
          simp
      have contributions := @absorbContributions_nullDereference_iff env request body withVvec
      cases contributionsStep : absorbContributions env request body withVvec with
      | error outcome =>
          simp only [contributionsStep, Except.error.injEq, missing] at contributions ⊢
          rw [contributions]
          exact and_left_comm
      | ok withShare =>
          simp only [contributionsStep, reduceCtorEq, false_iff, missing] at contributions ⊢
          exact fun ⟨skipped, wanted, absent⟩ => contributions ⟨wanted, skipped, absent⟩

/-- Whatever the vector step installs is in the cached quorum after absorbing, whatever the
contributions step does, while evoDb changes only when absorbing reaches its end.
-/
theorem absorbQData_cache_evoDb {s : NodeState}
    (vectorStep : absorbVerificationVector env request body q = .ok q')
    : let result := absorbQData env s request q body
      (∃ cached, result.2.mapQuorumsCache request.llmqType request.quorumHash = some cached
          ∧ cached.quorumVvec = q'.quorumVvec)
        ∧ (result.1 ≠ .absorbed → result.2.evoDb = s.evoDb) := by
  unfold absorbQData
  simp only [vectorStep]
  cases contributionsStep : absorbContributions env request body q' with
  | error outcome => simp
  | ok withShare =>
      obtain ⟨skShare, rfl⟩ := absorbContributions_ok contributionsStep
      simp

/-- What absorbing does to the manager: nothing, or it caches under the response's type and hash
a quorum with the commitment and parameters of the one it absorbed into, whose vector is the old
one or one that hashes to the commitment; evoDb gets that quorum's contributions only when
absorbing reaches its end.
-/
theorem absorbQData_manager {s : NodeState}
    : let result := absorbQData env s request q body
      result.2.toManagerState = s.toManagerState
        ∨ ∃ q', q'.qc = q.qc ∧ q'.params = q.params
          ∧ (∀ vvec, q'.quorumVvec = some vvec →
              q.quorumVvec = some vvec ∨ env.bls.serializeHash vvec = q.qc.quorumVvecHash)
          ∧ (result.2.toManagerState = { s.toManagerState with
                mapQuorumsCache := s.mapQuorumsCache.insert request.llmqType request.quorumHash q' }
            ∨ result.2.toManagerState = { s.toManagerState with
                mapQuorumsCache := s.mapQuorumsCache.insert request.llmqType request.quorumHash q'
                evoDb := q'.writeContributions s.evoDb }) := by
  unfold absorbQData
  split
  · exact .inl rfl
  · rename_i withVvec vectorStep
    obtain ⟨kept, installed⟩ := absorbVerificationVector_ok vectorStep
    obtain ⟨sameCommitment, vvecSound⟩ : withVvec.qc = q.qc ∧ withVvec.params = q.params
        ∧ ∀ vvec, withVvec.quorumVvec = some vvec →
          q.quorumVvec = some vvec ∨ env.bls.serializeHash vvec = q.qc.quorumVvecHash := by
      cases wanted : request.wants CQuorumDataRequest.quorumVerificationVector
      · rw [kept wanted]
        exact ⟨rfl, rfl, fun _ same => .inl same⟩
      · obtain ⟨vvec, hashed, rfl⟩ := installed wanted
        refine ⟨rfl, rfl, fun vvec' same => .inr ?_⟩
        cases same
        exact hashed
    split
    · exact .inr ⟨withVvec, sameCommitment, vvecSound.1, vvecSound.2, .inl rfl⟩
    · rename_i withShare contributionsStep
      obtain ⟨skShare, rfl⟩ := absorbContributions_ok contributionsStep
      exact .inr ⟨{ withVvec with skShare }, sameCommitment, vvecSound.1, vvecSound.2, .inr rfl⟩

/-- What absorbing puts in the cache: the quorum it absorbed into with at most its vector and
share replaced, where a vector, once there, stays, and a new share comes only with a vector.
-/
theorem absorbQData_replaces {s : NodeState}
    : let result := absorbQData env s request q body
      result.2.toManagerState = s.toManagerState
        ∨ ∃ quorumVvec skShare,
          (q.quorumVvec ≠ none → quorumVvec ≠ none) ∧ (skShare ≠ q.skShare → quorumVvec ≠ none)
          ∧ (result.2.toManagerState = { s.toManagerState with
                mapQuorumsCache := s.mapQuorumsCache.insert request.llmqType request.quorumHash
                  { q with quorumVvec, skShare } }
            ∨ result.2.toManagerState = { s.toManagerState with
                mapQuorumsCache := s.mapQuorumsCache.insert request.llmqType request.quorumHash
                  { q with quorumVvec, skShare }
                evoDb := { q with quorumVvec, skShare }.writeContributions s.evoDb }) := by
  unfold absorbQData
  split
  · exact .inl rfl
  · rename_i withVvec vectorStep
    obtain ⟨kept, installed⟩ := absorbVerificationVector_ok vectorStep
    obtain ⟨quorumVvec, kept', grown⟩ : ∃ quorumVvec, withVvec = { q with quorumVvec }
        ∧ (q.quorumVvec ≠ none → quorumVvec ≠ none) := by
      cases wanted : request.wants CQuorumDataRequest.quorumVerificationVector
      · exact ⟨q.quorumVvec, kept wanted, id⟩
      · obtain ⟨vvec, -, stored⟩ := installed wanted
        exact ⟨some vvec, stored, fun _ => Option.some_ne_none vvec⟩
    subst kept'
    split
    · exact .inr ⟨quorumVvec, q.skShare, grown, fun same => absurd rfl same, .inl rfl⟩
    · rename_i withShare contributionsStep
      obtain ⟨skShare, rfl⟩ := absorbContributions_ok contributionsStep
      exact .inr ⟨quorumVvec, skShare, grown,
        fun replaced => absorbContributions_share_backed contributionsStep replaced, .inr rfl⟩

end Steps

-----------------------------------------------------------------------------------------
-- The handler
-----------------------------------------------------------------------------------------

section Handler

variable {env : NodeEnv} {s : NodeState} {pFrom : CNode} {msg : DataRequestWire}
  {body : QDataBody}

/-- QDATA handling dereferences a null vector exactly when the response gets past the table
checks without an error code, asks for the encrypted contributions but not the vector, and the
cached quorum holds no vector.
-/
theorem processQData_nullDereference_iff
    : (processQData env s pFrom msg body).1 = .nullDereference
      ↔ (∃ requests, qdataGate env s pFrom msg = .ok (.received msg s.now, requests))
        ∧ msg.nError = .none
        ∧ ∃ q, s.mapQuorumsCache msg.llmqType msg.quorumHash = some q ∧ q.quorumVvec = none
          ∧ (CQuorumDataRequest.received msg s.now).wants
              CQuorumDataRequest.quorumVerificationVector = false
          ∧ (CQuorumDataRequest.received msg s.now).wants
              CQuorumDataRequest.encryptedContributions = true := by
  unfold processQData
  cases gate : qdataGate env s pFrom msg with
  | error verdict => simp
  | ok passed =>
      obtain ⟨request, requests⟩ := passed
      obtain ⟨rfl, -⟩ := qdataGate_ok gate
      have passedGate : ∃ requests', (.ok (.received msg s.now, requests)
          : Except (String × Nat) (CQuorumDataRequest × RequestTable))
            = .ok (.received msg s.now, requests') := ⟨requests, rfl⟩
      simp only [passedGate, true_and, CQuorumDataRequest.received_nError,
        CQuorumDataRequest.received_llmqType, CQuorumDataRequest.received_quorumHash]
      split_ifs with errored
      · simp [errored]
      · simp only [not_not] at errored
        simp only [errored, true_and]
        split
        · rename_i uncached
          simp [uncached]
        · rename_i q cached
          rw [absorbQData_nullDereference_iff]
          constructor
          · rintro ⟨skipped, wanted, absent⟩
            exact ⟨q, cached, absent, skipped, wanted⟩
          · rintro ⟨q', cached', absent, skipped, wanted⟩
            rw [cached] at cached'
            cases cached'
            exact ⟨skipped, wanted, absent⟩

/-- A request to `samplePeer` for the encrypted contributions alone, answered without error
before the node holds the quorum's vector.
-/
def contributionsOnlyEvents : List NodeEvent :=
  [.requestQuorumData samplePeer 1 (some ⟨7, 0⟩) CQuorumDataRequest.encryptedContributions 5,
    .qdata samplePeer ⟨1, 7, CQuorumDataRequest.encryptedContributions, 5, .none⟩ ⟨none, some [4]⟩]

theorem qdata_contributions_only_dereferences_null_vector :
    (runNode sampleNodeEnv (NodeState.initial sampleMined 0) contributionsOnlyEvents).1
      = [.request (.sent (.create 1 7 CQuorumDataRequest.encryptedContributions 5 0) true),
          .answered .nullDereference] := by
  decide

end Handler

/-- `sampleNodeEnv` where every vector hashes to 9, the `quorumVvecHash` of the sample
commitments.
-/
def matchingHashEnv : NodeEnv :=
  { sampleNodeEnv with bls := { acceptingBls with serializeHash := fun _ => 9 } }

/-- A request to `samplePeer` for both kinds of data, answered with the quorum's real vector (it
matches the commitment and has the threshold's one entry) and contributions this node cannot
decrypt.
-/
def undecryptableEvents : List NodeEvent :=
  [.requestQuorumData samplePeer 1 (some ⟨7, 0⟩) 3 5,
    .qdata samplePeer ⟨1, 7, 3, 5, .none⟩ ⟨some [some 1], some [4]⟩]

/-- The node's run on `undecryptableEvents`. -/
def undecryptableRun : List NodeOutput × NodeState :=
  runNode matchingHashEnv (NodeState.initial sampleMined 0) undecryptableEvents

theorem qdata_installed_vector_not_persisted :
    undecryptableRun.1
        = [.request (.sent (.create 1 7 3 5 0) true),
            .answered (.rejected "Failed to decrypt" 10)]
      ∧ (undecryptableRun.2.mapQuorumsCache 1 7).map (·.quorumVvec) = some (some [some 1])
      ∧ undecryptableRun.2.evoDb.quorumVvec ⟨1, 7, [5]⟩ = none := by
  decide

end Llmq
