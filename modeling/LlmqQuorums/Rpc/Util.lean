import LlmqQuorums.Wallet.Session

/-! The RPC helpers of `rpc/util.cpp` that read keys, build multisig redeem scripts and check
parameters. `CreateMultisigRedeemscript` makes four checks: at least one key required, enough keys,
at most sixteen, and a script within `MAX_SCRIPT_ELEMENT_SIZE`. The script it returns is the
multisig template of `GetScriptForMultisig`, which reads back as the required count and the keys.
For compressed keys the size check is the one that decides: sixteen of them make a script of 547
bytes, past the limit of 520, so the limit of sixteen keys is never reached.
-/

namespace Rpc

open Wallet

-----------------------------------------------------------------------------------------
-- Public keys
-----------------------------------------------------------------------------------------

/-- `HexToPubKey`: the key `CPubKey(ParseHex(hex_in))` of a hex string, when it is fully valid. -/
def hexToPubKey (env : ImportEnv) (hex_in : String) : Except ImportError CPubKey := do
  throwIf (!env.isHex hex_in) (.rpc ⟨.invalidAddressOrKey, "Invalid public key: " ++ hex_in⟩)
  let vchPubKey := env.pubKeyOfBytes (env.parseHex hex_in)
  throwIf (!env.isFullyValid vchPubKey) (.rpc ⟨.invalidAddressOrKey, "Invalid public key: " ++ hex_in⟩)
  pure vchPubKey

-----------------------------------------------------------------------------------------
-- The multisig template
--
-- `GetScriptForMultisig` and the `CScript` pushes it makes are in `script/standard.cpp` and
-- `script/script.h`, outside src.
-----------------------------------------------------------------------------------------

/-- `MAX_SCRIPT_ELEMENT_SIZE` of `script/script.h`. -/
def maxScriptElementSize : Nat := 520

/-- `OP_CHECKMULTISIG`. -/
def opCheckMultisig : UInt8 := 0xae

/-- `CScript::EncodeOP_N(n)`: `OP_0` for 0, `OP_1 + n - 1` for 1 to 16. -/
def encodeOpN (n : Nat) : UInt8 := if n = 0 then 0 else (0x50 + n).toUInt8

/-- `CScript::operator<<(std::vector<unsigned char>)`: a length below `OP_PUSHDATA1` in one byte,
larger ones behind `OP_PUSHDATA1`, `OP_PUSHDATA2` or `OP_PUSHDATA4` in little-endian bytes, and
then the data. -/
def pushData (b : List UInt8) : List UInt8 :=
  (if b.length < 0x4c then [b.length.toUInt8]
  else if b.length ≤ 0xff then [0x4c, b.length.toUInt8]
  else if b.length ≤ 0xffff then [0x4d, (b.length % 256).toUInt8, (b.length / 256 % 256).toUInt8]
  else [0x4e, (b.length % 256).toUInt8, (b.length / 256 % 256).toUInt8,
    (b.length / 65536 % 256).toUInt8, (b.length / 16777216 % 256).toUInt8]) ++ b

/-- `GetScriptForMultisig(nRequired, keys)`: `OP_m`, a push of each key, `OP_n` and
`OP_CHECKMULTISIG`. -/
def getScriptForMultisig (nRequired : Nat) (keys : List CPubKey) : CScript :=
  encodeOpN nRequired :: (keys.flatMap pushData ++ [encodeOpN keys.length, opCheckMultisig])

/-- `CreateMultisigRedeemscript(required, pubkeys)`. -/
def createMultisigRedeemscript (required : Int) (pubkeys : List CPubKey) :
    Except ImportError CScript := do
  -- Gather public keys
  throwIf (required < 1) (.rpc ⟨.invalidParameter,
    "a multisignature address must require at least one key to redeem"⟩)
  throwIf ((pubkeys.length : Int) < required) (.rpc ⟨.invalidParameter,
    "not enough keys supplied (got " ++ toString pubkeys.length ++ " keys, but need at least " ++
      toString required ++ " to redeem)"⟩)
  throwIf (pubkeys.length > 16) (.rpc ⟨.invalidParameter,
    "Number of keys involved in the multisignature address creation > 16\nReduce the number"⟩)
  let result := getScriptForMultisig required.toNat pubkeys
  throwIf (result.length > maxScriptElementSize) (.rpc ⟨.invalidParameter,
    "redeemScript exceeds size limit: " ++ toString result.length ++ " > " ++
      toString maxScriptElementSize⟩)
  pure result

-----------------------------------------------------------------------------------------
-- Reading the template back
--
-- How a multisig redeem script is read, in the way `Solver` of `script/standard.cpp` matches the
-- template: the opcode of a small number, pushes of keys each below `OP_PUSHDATA1` bytes, the
-- opcode of their number, and `OP_CHECKMULTISIG`.
-----------------------------------------------------------------------------------------

/-- Whether an opcode pushes a small number: `OP_0`, or `OP_1` to `OP_16`. -/
def isSmallIntOp (opcode : UInt8) : Bool := opcode == 0 || (0x51 ≤ opcode && opcode ≤ 0x60)

/-- `CScript::DecodeOP_N`: the number a small-number opcode pushes. -/
def decodeOpN (opcode : UInt8) : Nat := if opcode = 0 then 0 else opcode.toNat - 0x50

/-- The data of `n` direct pushes at the front of a script, and what follows them. -/
def readKeyPushes : Nat → List UInt8 → Option (List CPubKey × List UInt8)
  | 0, rest => some ([], rest)
  | _ + 1, [] => none
  | n + 1, len :: rest =>
      if len.toNat < 0x4c ∧ len.toNat ≤ rest.length then
        (readKeyPushes n (rest.drop len.toNat)).map fun (keys, tail) =>
          (rest.take len.toNat :: keys, tail)
      else none

/-- The required count and the keys of a multisig redeem script, `none` for another script. -/
def decodeMultisig (script : CScript) : Option (Nat × List CPubKey) :=
  match script.head?, script.reverse with
  | some opM, last :: opN :: _ =>
      if isSmallIntOp opM && isSmallIntOp opN && last == opCheckMultisig then
        match readKeyPushes (decodeOpN opN) (script.drop 1) with
        | some (keys, tail) => if tail = [opN, last] then some (decodeOpN opM, keys) else none
        | none => none
      else none
  | _, _ => none

-----------------------------------------------------------------------------------------
-- Parameters and answers
-----------------------------------------------------------------------------------------

/-- `ParseConfirmTarget(value)`, with `max_target` the highest target the fee estimator tracks. -/
def parseConfirmTarget (max_target : Nat) (value : UniValue) : Except ImportError Nat := do
  let target ← value.getInt
  throwIf (target < 1 || target.toNat > max_target) (.rpc ⟨.invalidParameter,
    "Invalid conf_target, must be between 1 - " ++ toString max_target⟩)
  pure target.toNat

/-- `DescribeAddress(dest)`: an empty object for no destination, else whether it is a script. -/
def describeAddress : CTxDestination → UniValue
  | .noDestination => .obj []
  | .keyID _ => .obj [("isscript", .bool false)]
  | .scriptID _ => .obj [("isscript", .bool true)]

/-- `GetServicesNames(services)`: for each of the 64 bits, from the lowest, the name
`serviceFlagToStr(mask, i)` (of `protocol.cpp`, outside src) of a bit that is set. -/
def getServicesNames (serviceFlagToStr : UInt64 → Nat → String) (services : UInt64) : UniValue :=
  .arr ((List.range 64).foldl (fun servicesNames i =>
    let mask : UInt64 := 1 <<< UInt64.ofNat i
    if services &&& mask != 0 then servicesNames ++ [.str (serviceFlagToStr mask i)]
    else servicesNames) [])

-----------------------------------------------------------------------------------------
-- Keys read from hex
-----------------------------------------------------------------------------------------

/-- A check that passes in a computation that reads no wallet. -/
theorem throwIf_bind_eq_ok {α : Type} {c : Bool} {e : ImportError}
    {f : Unit → Except ImportError α} {a : α} :
    (throwIf c e >>= f) = .ok a ↔ c = false ∧ f () = .ok a := by
  cases c <;> simp [throwIf, bind, Except.bind, throw, throwThe, MonadExceptOf.throw, pure,
    Except.pure]

/-- `HexToPubKey` returns the key of the hex string's bytes when the string is hex and the key
fully valid, and otherwise fails with the one error that names the string. -/
theorem hexToPubKey_spec (env : ImportEnv) (hex_in : String) :
    Holds (· = .rpc ⟨.invalidAddressOrKey, "Invalid public key: " ++ hex_in⟩)
      (fun vchPubKey => env.isHex hex_in = true ∧ vchPubKey = env.pubKeyOfBytes (env.parseHex hex_in)
        ∧ env.isFullyValid vchPubKey = true)
      (hexToPubKey env hex_in) := by
  unfold hexToPubKey
  cases hex : env.isHex hex_in <;> cases valid : env.isFullyValid (env.pubKeyOfBytes (env.parseHex hex_in))
    <;> simp [throwIf, hex, valid, Holds, bind, Except.bind, throw, throwThe, MonadExceptOf.throw,
      pure, Except.pure]

-----------------------------------------------------------------------------------------
-- The template and its size
-----------------------------------------------------------------------------------------

section Template

variable {keys : List CPubKey}

/-- A push of fewer than `OP_PUSHDATA1` bytes is its length byte and the data. -/
theorem pushData_short {b : List UInt8} (short : b.length < 0x4c) :
    pushData b = b.length.toUInt8 :: b := by
  simp [pushData, short]

theorem toUInt8_toNat_of_lt {n : Nat} (small : n < 256) : n.toUInt8.toNat = n :=
  Nat.mod_eq_of_lt small

/-- The opcodes of the numbers 0 to 16 are small-number opcodes and read back as their number. -/
theorem encodeOpN_decodes : ∀ n : Fin 17, isSmallIntOp (encodeOpN n) = true ∧ decodeOpN (encodeOpN n) = n := by
  decide

/-- The pushes of short keys read back as the keys, whatever follows them. -/
theorem readKeyPushes_flatMap (short : ∀ k ∈ keys, k.length < 0x4c) (tail : List UInt8) :
    readKeyPushes keys.length (keys.flatMap pushData ++ tail) = some (keys, tail) := by
  induction keys with
  | nil => rfl
  | cons k ks ih =>
      have fits : k.length < 0x4c := short k (List.mem_cons_self k ks)
      have len : k.length.toUInt8.toNat = k.length := toUInt8_toNat_of_lt (by omega)
      simp only [List.flatMap_cons, pushData_short fits, List.length_cons, List.cons_append,
        List.append_assoc, readKeyPushes, len]
      simp [fits, ih fun k' mem => short k' (List.mem_cons_of_mem k mem)]

/-- The template over at most sixteen keys, each pushed directly, reads back as its required
count and its keys. -/
theorem decodeMultisig_getScriptForMultisig {nRequired : Nat} (small : nRequired ≤ 16)
    (few : keys.length ≤ 16) (short : ∀ k ∈ keys, k.length < 0x4c) :
    decodeMultisig (getScriptForMultisig nRequired keys) = some (nRequired, keys) := by
  obtain ⟨smallM, decodedM⟩ := encodeOpN_decodes ⟨nRequired, by omega⟩
  obtain ⟨smallN, decodedN⟩ := encodeOpN_decodes ⟨keys.length, by omega⟩
  simp only at smallM decodedM smallN decodedN
  unfold decodeMultisig getScriptForMultisig
  simp [smallM, smallN, decodedM, decodedN, readKeyPushes_flatMap short]

end Template

-----------------------------------------------------------------------------------------
-- CreateMultisigRedeemscript
-----------------------------------------------------------------------------------------

/-- `CreateMultisigRedeemscript` returns a script exactly when its four checks pass, and the
script is then the template over the keys. -/
theorem createMultisigRedeemscript_eq_ok {required : Int} {pubkeys : List CPubKey} {script : CScript} :
    createMultisigRedeemscript required pubkeys = .ok script ↔
      (1 ≤ required ∧ required ≤ pubkeys.length ∧ pubkeys.length ≤ 16) ∧
        script = getScriptForMultisig required.toNat pubkeys ∧ script.length ≤ maxScriptElementSize := by
  simp only [createMultisigRedeemscript, throwIf_bind_eq_ok, decide_eq_false_iff_not, not_lt,
    gt_iff_lt, not_lt]
  constructor
  · rintro ⟨positive, enough, few, fits, created⟩
    cases created
    exact ⟨⟨positive, enough, few⟩, rfl, fits⟩
  · rintro ⟨⟨positive, enough, few⟩, rfl, fits⟩
    exact ⟨positive, enough, few, fits, rfl⟩

/-- What `CreateMultisigRedeemscript` returns is a well-formed multisig redeem script: it needs
between one and all of at most sixteen keys, fits `MAX_SCRIPT_ELEMENT_SIZE`, and reads back as the
required count and the keys in their order, for keys pushed directly as valid keys of 33 or 65
bytes are. -/
theorem createMultisigRedeemscript_reads_back {required : Int} {pubkeys : List CPubKey}
    {script : CScript} (short : ∀ k ∈ pubkeys, k.length < 0x4c)
    (created : createMultisigRedeemscript required pubkeys = .ok script) :
    decodeMultisig script = some (required.toNat, pubkeys)
      ∧ (1 ≤ required ∧ required ≤ pubkeys.length ∧ pubkeys.length ≤ 16)
      ∧ script.length ≤ maxScriptElementSize := by
  obtain ⟨checks, rfl, fits⟩ := createMultisigRedeemscript_eq_ok.mp created
  exact ⟨decodeMultisig_getScriptForMultisig (by omega) checks.2.2 short, checks, fits⟩

/-- A compressed public key: header 2 and 32 bytes. -/
def compressedKey (b : UInt8) : CPubKey := 2 :: List.replicate 32 b

theorem two_of_two_reads_back :
    (∀ k ∈ [compressedKey 1, compressedKey 2], k.length < 0x4c)
      ∧ decodeMultisig (getScriptForMultisig 2 [compressedKey 1, compressedKey 2])
          = some ((2 : Int).toNat, [compressedKey 1, compressedKey 2])
      ∧ (1 ≤ (2 : Int) ∧ (2 : Int) ≤ [compressedKey 1, compressedKey 2].length
          ∧ [compressedKey 1, compressedKey 2].length ≤ 16)
      ∧ (getScriptForMultisig 2 [compressedKey 1, compressedKey 2]).length ≤ maxScriptElementSize :=
  have short : ∀ k ∈ [compressedKey 1, compressedKey 2], k.length < 0x4c := by decide
  ⟨short, createMultisigRedeemscript_reads_back short (by rfl)⟩

-----------------------------------------------------------------------------------------
-- Confirmation targets
-----------------------------------------------------------------------------------------

/-- `get_int()` fails only with its runtime error, and returns the number the value holds. -/
theorem UniValue.getInt_holds (v : UniValue) :
    Holds (· = .runtime) (fun n => v = .num n) v.getInt := by
  cases v with
  | num n =>
      simp only [UniValue.getInt]
      split_ifs <;> rfl
  | _ => rfl

/-- `ParseConfirmTarget` returns the number it is given when that lies between 1 and the highest
target tracked, and otherwise fails with the accessor's error or the one that gives the range. -/
theorem parseConfirmTarget_spec (max_target : Nat) (value : UniValue) :
    Holds (fun e => e = .runtime ∨
        e = .rpc ⟨.invalidParameter, "Invalid conf_target, must be between 1 - " ++ toString max_target⟩)
      (fun target : Nat => value = .num target ∧ 1 ≤ target ∧ target ≤ max_target)
      (parseConfirmTarget max_target value) :=
  ((UniValue.getInt_holds value).mono fun _ => .inl).bind fun target read =>
    (Holds.throwIf fun _ => .inr rfl).bind fun _ (passed : (decide (target < 1) ||
        decide (target.toNat > max_target)) = false) => by
      simp only [Bool.or_eq_false_iff, decide_eq_false_iff_not, not_lt, gt_iff_lt] at passed
      show value = .num target.toNat ∧ 1 ≤ target.toNat ∧ target.toNat ≤ max_target
      rw [read, Int.toNat_of_nonneg (by omega)]
      exact ⟨rfl, by omega, passed.2⟩

end Rpc
