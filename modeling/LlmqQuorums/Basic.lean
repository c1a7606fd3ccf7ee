import Mathlib

/-! Shared vocabulary of the LLMQ subsystem: hashes, quorum types and their consensus
parameters, masternode entries, and the BLS capability that commitments and quorums consume.
-/

namespace Llmq

/-- A `uint256`; the value `0` is the null hash that `IsNull` tests for. -/
abbrev Uint256 := Nat

/-- `Consensus::LLMQType`, the one-byte quorum type. -/
abbrev LLMQType := Nat

/-- A BLS public key as `CBLSPublicKey`: `none` is the default-constructed, invalid key. -/
abbrev BLSPublicKey := Option Nat

/-- A BLS signature as `CBLSSignature`: `none` is an invalid signature. -/
abbrev BLSSignature := Option Nat

/-- A BLS secret key as `CBLSSecretKey`: `none` is the invalid key that `Reset` leaves. -/
abbrev CBLSSecretKey := Option Nat

/-- `BLSVerificationVector`, the public polynomial commitments of a quorum. -/
abbrev BLSVerificationVector := List BLSPublicKey

/-- A `CBLSIESEncryptedObject<CBLSSecretKey>`, opaque to the quorum code. -/
abbrev CBLSIESEncryptedObject := Nat

/-- The fields of `Consensus::LLMQParams` that the modelled functions read. -/
structure LLMQParams where
  type : LLMQType
  size : Nat
  minSize : Nat
  threshold : Nat
  dkgInterval : Nat
  keepOldConnections : Nat
  deriving DecidableEq, Repr

/-- `Params().GetConsensus().llmqs`: the configured quorum types. The chain parameters store
each type's parameters under that type, so `GetLLMQParams(t).type = t`.
-/
structure Consensus where
  llmqs : LLMQType → Option LLMQParams
  typed : ∀ t p, llmqs t = some p → p.type = t

/-- The part of a deterministic masternode entry (`CDeterministicMN`) the quorum code reads. -/
structure CDeterministicMN where
  proTxHash : Uint256
  pubKeyOperator : BLSPublicKey
  deriving DecidableEq, Repr

/-- The BLS primitives and hashing helpers the subsystem consumes as a capability.
`buildCommitmentHash` is `CLLMQUtils::BuildCommitmentHash`, `serializeHash` is
`::SerializeHash` of a verification vector, and `buildPubKeyShare` is what the quorum's
`blsCache.BuildPubKeyShare` computes for a member id.
-/
structure Bls where
  serializeHash : BLSVerificationVector → Uint256
  buildCommitmentHash : LLMQType → Uint256 → List Bool → BLSPublicKey → Uint256 → Uint256
  verifySecureAggregated : BLSSignature → List BLSPublicKey → Uint256 → Bool
  verifyInsecure : BLSSignature → BLSPublicKey → Uint256 → Bool
  buildQuorumVerificationVector : List BLSVerificationVector → Option BLSVerificationVector
  aggregateSecretKeys : List CBLSSecretKey → CBLSSecretKey
  getPublicKey : Nat → BLSPublicKey
  buildPubKeyShare : BLSVerificationVector → Uint256 → BLSPublicKey
  decrypt : CBLSIESEncryptedObject → Nat → CBLSSecretKey → Option CBLSSecretKey

end Llmq
