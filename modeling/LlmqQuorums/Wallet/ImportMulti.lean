import Mathlib

/-! `importmulti` (`wallet/rpcdump.cpp`). `ProcessImport` reads one request element, checks it,
and then writes to the wallet in stages (the P2SH redeem script, a single key's public key, the
scriptPubKey and its label, the private keys), each stage guarded by further checks. A check that
throws after a write is caught and answered with `success = false`, and the writes before it stay.

The wallet's stores are those the element can touch: keys, key metadata, watch-only scripts,
redeem scripts and the address book. A run of the import is an `EStateM` computation, so a
`throw` carries the wallet reached so far, as the C++ exception does.
-/

namespace Wallet

-----------------------------------------------------------------------------------------
-- Request elements
-----------------------------------------------------------------------------------------

/-- A JSON value of the `univalue` library, outside src. -/
inductive UniValue
  | null
  | bool (value : Bool)
  | num (value : Int)
  | str (value : String)
  | arr (values : List UniValue)
  | obj (entries : List (String × UniValue))

/-- The codes of `rpc/protocol.h` that these handlers raise. -/
inductive RPCErrorCode
  /-- `RPC_MISC_ERROR` -/
  | miscError
  /-- `RPC_TYPE_ERROR` -/
  | typeError
  /-- `RPC_WALLET_ERROR` -/
  | walletError
  /-- `RPC_INVALID_ADDRESS_OR_KEY` -/
  | invalidAddressOrKey
  /-- `RPC_INVALID_PARAMETER` -/
  | invalidParameter
  /-- `RPC_WALLET_UNLOCK_NEEDED` -/
  | walletUnlockNeeded
  deriving DecidableEq, Repr

/-- The object `JSONRPCError(code, message)` builds. -/
structure JSONRPCError where
  code : RPCErrorCode
  message : String
  deriving DecidableEq, Repr

/-- How a stage of the import ends early. -/
inductive ImportError
  /-- A `JSONRPCError`, thrown as a `UniValue`. -/
  | rpc (error : JSONRPCError)
  /-- The `std::runtime_error` of a `UniValue` accessor used on a value of another type. -/
  | runtime
  /-- A failed `assert`, which aborts the process. -/
  | assertion
  deriving DecidableEq, Repr

/-- `if (c) throw e;` -/
def throwIf {m : Type → Type} [Monad m] [MonadExceptOf ImportError m] (c : Bool) (e : ImportError) :
    m Unit :=
  if c then throw e else pure ()

namespace UniValue

/-- `operator[](key)`: the value of the first entry with the key; `NullUniValue` when there is
none or the value is not an object. -/
def find (key : String) : UniValue → UniValue
  | obj entries => (entries.lookup key).getD null
  | _ => null

/-- `exists(key)`. -/
def hasKey (key : String) : UniValue → Bool
  | obj entries => (entries.lookup key).isSome
  | _ => false

/-- `operator[](index)`: `NullUniValue` past the end or on a value with no elements. -/
def elem (index : Nat) : UniValue → UniValue
  | arr values => values.getD index null
  | obj entries => (entries.map Prod.snd).getD index null
  | _ => null

/-- `getValues()`, the elements of an array or the values of an object. -/
def values : UniValue → List UniValue
  | arr values => values
  | obj entries => entries.map Prod.snd
  | _ => []

/-- `size()`. -/
def size (v : UniValue) : Nat := v.values.length

def isNull : UniValue → Bool
  | null => true
  | _ => false

def isStr : UniValue → Bool
  | str _ => true
  | _ => false

def isObject : UniValue → Bool
  | obj _ => true
  | _ => false

/-- `uvTypeName(type())`. -/
def typeName : UniValue → String
  | null => "null"
  | bool _ => "bool"
  | num _ => "number"
  | str _ => "string"
  | arr _ => "array"
  | obj _ => "object"

def getStr : UniValue → Except ImportError String
  | str value => pure value
  | _ => throw .runtime

/-- `get_array()`, which returns the array itself. -/
def getArray : UniValue → Except ImportError UniValue
  | arr values => pure (arr values)
  | _ => throw .runtime

def getBool : UniValue → Except ImportError Bool
  | bool value => pure value
  | _ => throw .runtime

/-- An optional field of a request element: `exists(key) ? read((*this)[key]) : default`. -/
def optionalField {α : Type} (data : UniValue) (key : String) (read : UniValue → Except ImportError α)
    (default : α) : Except ImportError α :=
  if data.hasKey key then read (data.find key) else pure default

end UniValue

-----------------------------------------------------------------------------------------
-- Scripts, keys and the wallet
-----------------------------------------------------------------------------------------

abbrev CScript := List UInt8
/-- A public key's bytes; an invalid key has none (`size() == 0`). -/
abbrev CPubKey := List UInt8
abbrev CKeyID := Nat
abbrev CScriptID := Nat
/-- A private key's secret. -/
abbrev CKey := Nat

inductive CTxDestination
  | noDestination
  | keyID (id : CKeyID)
  | scriptID (id : CScriptID)
  deriving DecidableEq, Repr

def isValidDestination : CTxDestination → Bool
  | .noDestination => false
  | _ => true

/-- The stores of `CWallet` that an import element can touch, and its private-keys flag. -/
structure WalletState where
  /-- `mapKeys`: the private key of each key id. -/
  mapKeys : CKeyID → Option CKey
  /-- The `nCreateTime` of each key's entry in `mapKeyMetadata`. -/
  mapKeyMetadata : CKeyID → Option Int
  setWatchOnly : CScript → Bool
  /-- `mapScripts`: the redeem script of each script id. -/
  mapScripts : CScriptID → Option CScript
  /-- The name and purpose of each entry of `mapAddressBook`. -/
  mapAddressBook : CTxDestination → Option (String × String)
  /-- `WALLET_FLAG_DISABLE_PRIVATE_KEYS`. -/
  disablePrivateKeys : Bool
  /-- `IsLocked()`: the wallet is encrypted and its keys are locked. No modelled RPC changes it;
  `walletpassphrase` and `walletlock` are outside src. -/
  locked : Bool

namespace WalletState

def haveKey (w : WalletState) (id : CKeyID) : Bool := (w.mapKeys id).isSome

def haveCScript (w : WalletState) (id : CScriptID) : Bool := (w.mapScripts id).isSome

def addWatchOnly (w : WalletState) (script : CScript) : WalletState :=
  { w with setWatchOnly := fun s => s == script || w.setWatchOnly s }

/-- `if (HaveWatchOnly(script)) RemoveWatchOnly(script);`: the script leaves the watch-only set,
which a script outside it already has. -/
def removeWatchOnly (w : WalletState) (script : CScript) : WalletState :=
  { w with setWatchOnly := fun s => s != script && w.setWatchOnly s }

def addCScript (w : WalletState) (id : CScriptID) (script : CScript) : WalletState :=
  { w with mapScripts := fun i => if i = id then some script else w.mapScripts i }

def addKey (w : WalletState) (id : CKeyID) (key : CKey) : WalletState :=
  { w with mapKeys := fun i => if i = id then some key else w.mapKeys i }

/-- `mapKeyMetadata[id].nCreateTime = nCreateTime`. -/
def setKeyCreateTime (w : WalletState) (id : CKeyID) (nCreateTime : Int) : WalletState :=
  { w with mapKeyMetadata := fun i => if i = id then some nCreateTime else w.mapKeyMetadata i }

def setAddressBook (w : WalletState) (dest : CTxDestination) (name purpose : String) :
    WalletState :=
  { w with mapAddressBook := fun d => if d = dest then some (name, purpose) else w.mapAddressBook d }

/-- A wallet with nothing in it. -/
def empty : WalletState :=
  ⟨fun _ => none, fun _ => none, fun _ => false, fun _ => none, fun _ => none, false, false⟩

end WalletState

/-- What `ProcessImport` calls outside src: address and key encodings (`key_io.cpp`), hex
(`util/strencodings.cpp`), script templates (`script/standard.cpp`), keys (`key.cpp`,
`pubkey.cpp`), `IsMine` (`wallet/ismine.cpp`), and whether the wallet database takes a record.
-/
structure ImportEnv where
  decodeDestination : String → CTxDestination
  isHex : String → Bool
  parseHex : String → List UInt8
  getScriptForDestination : CTxDestination → CScript
  /-- `ExtractDestination`, with `none` for a script it does not recognise. -/
  extractDestination : CScript → Option CTxDestination
  isPayToScriptHash : CScript → Bool
  /-- `CScriptID(script)`, the hash of a script. -/
  scriptID : CScript → CScriptID
  /-- `DecodeSecret`, with `none` for a key that is not `IsValid`. -/
  decodeSecret : String → Option CKey
  getPubKey : CKey → CPubKey
  /-- `CPubKey(begin, end)`, which keeps no bytes when their length is wrong for the header. -/
  pubKeyOfBytes : List UInt8 → CPubKey
  getID : CPubKey → CKeyID
  isFullyValid : CPubKey → Bool
  getScriptForRawPubKey : CPubKey → CScript
  /-- `IsMine(wallet, script) == ISMINE_SPENDABLE`. -/
  isMineSpendable : WalletState → CScript → Bool
  /-- Whether the wallet database takes the records `CWallet` writes. -/
  databaseWrites : Bool

/-- The scripts `AddKeyPubKey` takes out of the watch-only set: the public key's P2PKH script and
its P2PK script. -/
def ImportEnv.keyScripts (env : ImportEnv) (pubkey : CPubKey) : List CScript :=
  [env.getScriptForDestination (.keyID (env.getID pubkey)), env.getScriptForRawPubKey pubkey]

namespace WalletState

/-- What `CWallet::AddKeyPubKey` (wallet/wallet.cpp, outside src) leaves in memory: the key under
its public key's id, and then neither the P2PKH nor the P2PK script of the public key watch-only.
-/
def addKeyPubKey (w : WalletState) (env : ImportEnv) (key : CKey) (pubkey : CPubKey) : WalletState :=
  ((w.addKey (env.getID pubkey) key).removeWatchOnly
    (env.getScriptForDestination (.keyID (env.getID pubkey)))).removeWatchOnly
    (env.getScriptForRawPubKey pubkey)

section AddKeyPubKey

variable (w : WalletState) (env : ImportEnv) (key : CKey) (pubkey : CPubKey)

@[simp] theorem addKeyPubKey_mapKeys :
    (w.addKeyPubKey env key pubkey).mapKeys = (w.addKey (env.getID pubkey) key).mapKeys := rfl

@[simp] theorem addKeyPubKey_mapKeyMetadata :
    (w.addKeyPubKey env key pubkey).mapKeyMetadata = w.mapKeyMetadata := rfl

@[simp] theorem addKeyPubKey_mapScripts : (w.addKeyPubKey env key pubkey).mapScripts = w.mapScripts :=
  rfl

@[simp] theorem addKeyPubKey_mapAddressBook :
    (w.addKeyPubKey env key pubkey).mapAddressBook = w.mapAddressBook := rfl

@[simp] theorem addKeyPubKey_disablePrivateKeys :
    (w.addKeyPubKey env key pubkey).disablePrivateKeys = w.disablePrivateKeys := rfl

@[simp] theorem addKeyPubKey_locked : (w.addKeyPubKey env key pubkey).locked = w.locked := rfl

/-- After `AddKeyPubKey`, a script is watch-only when it was and is not one of the key's scripts.
-/
@[simp] theorem addKeyPubKey_setWatchOnly (script : CScript) :
    (w.addKeyPubKey env key pubkey).setWatchOnly script
      = (w.setWatchOnly script && !decide (script ∈ env.keyScripts pubkey)) := by
  simp only [addKeyPubKey, removeWatchOnly, addKey, ImportEnv.keyScripts, List.mem_cons,
    List.mem_singleton, List.not_mem_nil, or_false]
  by_cases p2pkh : script = env.getScriptForDestination (.keyID (env.getID pubkey))
  · simp [p2pkh]
  by_cases p2pk : script = env.getScriptForRawPubKey pubkey
  · simp [p2pk]
  simp [bne, beq_eq_false_iff_ne.mpr p2pkh, beq_eq_false_iff_ne.mpr p2pk, p2pkh, p2pk]

end AddKeyPubKey

end WalletState

/-- What `EnsureWalletIsUnlocked` throws. -/
def unlockNeeded : ImportError :=
  .rpc ⟨.walletUnlockNeeded, "Error: Please enter the wallet passphrase with walletpassphrase first."⟩

/-- `EnsureWalletIsUnlocked` (wallet/rpcwallet.cpp, outside src), on the wallet's `IsLocked()`. -/
def ensureWalletIsUnlocked {m : Type → Type} [Monad m] [MonadExceptOf ImportError m]
    (locked : Bool) : m Unit :=
  throwIf locked unlockNeeded

/-- A run of a stage of the import: it returns or throws, and either way leaves a wallet. -/
abbrev ImportM := EStateM ImportError WalletState

/-- The value or error of a run, and the wallet it leaves. -/
def runImport {α : Type} (x : ImportM α) (wallet : WalletState) : Except ImportError α × WalletState :=
  match x wallet with
  | .ok a w => (.ok a, w)
  | .error e w => (.error e, w)

/-- A stage that reads the wallet only, run inside the import. -/
def fromExcept {α : Type} : Except ImportError α → ImportM α
  | .ok a => pure a
  | .error e => throw e

/-- `CWallet::AddWatchOnly`: the script joins the watch-only set in memory, and the call reports
whether the database took the record. -/
def addWatchOnly (env : ImportEnv) (script : CScript) : ImportM Bool :=
  modifyGet fun w => (env.databaseWrites, w.addWatchOnly script)

/-- `CWallet::AddCScript`, stored under the script's hash. -/
def addCScript (env : ImportEnv) (script : CScript) : ImportM Bool :=
  modifyGet fun w => (env.databaseWrites, w.addCScript (env.scriptID script) script)

/-- `CWallet::AddKeyPubKey`: the key under the public key's id, its scripts out of the
watch-only set, and whether the database took the record. -/
def addKeyPubKey (env : ImportEnv) (key : CKey) (pubkey : CPubKey) : ImportM Bool :=
  modifyGet fun w => (env.databaseWrites, w.addKeyPubKey env key pubkey)

/-- `HaveCScript(CScriptID(script)) || AddCScript(script)`, the short circuit both the P2SH
stage and the scriptPubKey stage use. -/
def haveOrAddCScript (env : ImportEnv) (script : CScript) : ImportM Bool := do
  if (← get).haveCScript (env.scriptID script) then pure true else addCScript env script

-----------------------------------------------------------------------------------------
-- ProcessImport
-----------------------------------------------------------------------------------------

/-- What the checks before the first write take from a request element. -/
structure ImportRequest where
  /-- `scriptpubkey_script`. -/
  script : CScript
  /-- `scriptpubkey_dest`. -/
  dest : CTxDestination
  strRedeemScript : String
  pubKeys : UniValue
  keys : UniValue
  internal : Bool
  watchOnly : Bool
  label : String

/-- The script and destination of the scriptPubKey: an address decodes to a valid destination,
and a script's destination is extracted, which only `internal` may leave undone. -/
def outputScript (env : ImportEnv) (isScript : Bool) (output : String) (internal : Bool) :
    Except ImportError (CScript × CTxDestination) :=
  if !isScript then do
    let dest := env.decodeDestination output
    throwIf (!isValidDestination dest) (.rpc ⟨.invalidAddressOrKey, "Invalid address"⟩)
    pure (env.getScriptForDestination dest, dest)
  else do
    throwIf (!env.isHex output) (.rpc ⟨.invalidAddressOrKey, "Invalid scriptPubKey"⟩)
    let script := env.parseHex output
    throwIf ((env.extractDestination script).isNone && !internal)
      (.rpc ⟨.invalidParameter, "Internal must be set to true for nonstandard scriptPubKey imports."⟩)
    pure (script, (env.extractDestination script).getD .noDestination)

/-- `ProcessImport` up to its first write: the fields of the element, the private-keys flag,
the scriptPubKey, and the watch-only and label checks. It reads the wallet's flag only. -/
def readImport (env : ImportEnv) (disablePrivateKeys : Bool) (data : UniValue) :
    Except ImportError ImportRequest := do
  -- First ensure scriptPubKey has either a script or JSON with "address" string
  let scriptPubKey := data.find "scriptPubKey"
  let isScript := scriptPubKey.isStr
  throwIf (!isScript && !(scriptPubKey.isObject && scriptPubKey.hasKey "address"))
    (.rpc ⟨.invalidParameter, "scriptPubKey must be string with script or JSON with address string"⟩)
  let output ← (if isScript then scriptPubKey.getStr else (scriptPubKey.find "address").getStr)
  -- Optional fields.
  let strRedeemScript ← data.optionalField "redeemscript" UniValue.getStr ""
  let pubKeys ← data.optionalField "pubkeys" UniValue.getArray .null
  let keys ← data.optionalField "keys" UniValue.getArray .null
  let internal ← data.optionalField "internal" UniValue.getBool false
  let watchOnly ← data.optionalField "watchonly" UniValue.getBool false
  let label ← data.optionalField "label" UniValue.getStr ""
  throwIf (disablePrivateKeys && !keys.isNull)
    (.rpc ⟨.walletError, "Cannot import private keys to a wallet with private keys disabled"⟩)
  let (script, dest) ← outputScript env isScript output internal
  throwIf (watchOnly && keys.size != 0)
    (.rpc ⟨.invalidParameter, "Watch-only addresses should not include private keys"⟩)
  throwIf (internal && data.hasKey "label")
    (.rpc ⟨.invalidParameter, "Internal addresses should not have a label"⟩)
  pure ⟨script, dest, strRedeemScript, pubKeys, keys, internal, watchOnly, label⟩

/-- The P2SH stage: with a redeem script given for a P2SH scriptPubKey, the script must be hex and
hash to the scriptPubKey; it is added as watch-only and as a CScript, and the import goes on with
the destination of the redeem script. -/
def importRedeemScript (env : ImportEnv) (request : ImportRequest) : ImportM CTxDestination :=
  if request.strRedeemScript != "" && env.isPayToScriptHash request.script then do
    throwIf (!env.isHex request.strRedeemScript)
      (.rpc ⟨.invalidAddressOrKey, "Invalid redeem script: must be hex string"⟩)
    let redeemScript := env.parseHex request.strRedeemScript
    throwIf (env.getScriptForDestination (.scriptID (env.scriptID redeemScript)) != request.script)
      (.rpc ⟨.invalidAddressOrKey, "The redeemScript does not match the scriptPubKey"⟩)
    let added ← addWatchOnly env redeemScript
    throwIf (!added) (.rpc ⟨.walletError, "Error adding address to wallet"⟩)
    let held ← haveOrAddCScript env redeemScript
    throwIf (!held) (.rpc ⟨.walletError, "Error adding p2sh redeemScript to wallet"⟩)
    pure ((env.extractDestination redeemScript).getD request.dest)
  else pure request.dest

/-- The public key of the first private key, if any: `GetPubKey` asserts that the key decodes. -/
def firstKeyPubKey (env : ImportEnv) (request : ImportRequest) : ImportM CPubKey :=
  if request.keys.size != 0 then do
    let strPrivkey ← fromExcept (request.keys.elem 0).getStr
    match env.decodeSecret strPrivkey with
    | some key => pure (env.getPubKey key)
    | none => throw .assertion
  else pure []

/-- The public key of a single-key destination: that of the first private key, or the first
public key given, which must then agree with it. -/
def singleKeyPubKey (env : ImportEnv) (request : ImportRequest) : ImportM CPubKey := do
  let fromKey ← firstKeyPubKey env request
  if request.pubKeys.size != 0 then do
    let strPubKey ← fromExcept (request.pubKeys.elem 0).getStr
    throwIf (!env.isHex strPubKey) (.rpc ⟨.invalidAddressOrKey, "Pubkey must be a hex string"⟩)
    let pubkeyTemp := env.pubKeyOfBytes (env.parseHex strPubKey)
    throwIf (fromKey.length != 0 && pubkeyTemp != fromKey)
      (.rpc ⟨.invalidAddressOrKey, "Private key does not match public key for address"⟩)
    pure pubkeyTemp
  else pure fromKey

/-- The (P2SH-)P2PK/P2PKH stage: for a key-id destination, at most one key; a public key given
must be valid, hash to the destination, and not be spendable already, and is added as
watch-only through its raw script. -/
def importPubKey (env : ImportEnv) (request : ImportRequest) : CTxDestination → ImportM Unit
  | .keyID keyId => do
      throwIf (request.keys.size > 1 || request.pubKeys.size > 1)
        (.rpc ⟨.invalidParameter, "More than one key given for one single-key address"⟩)
      let pubkey ← singleKeyPubKey env request
      if pubkey.length > 0 then do
        throwIf (!env.isFullyValid pubkey)
          (.rpc ⟨.invalidAddressOrKey, "Pubkey is not a valid public key"⟩)
        throwIf (CTxDestination.keyID (env.getID pubkey) != .keyID keyId)
          (.rpc ⟨.invalidAddressOrKey, "Key does not match address destination"⟩)
        let scriptRawPubKey := env.getScriptForRawPubKey pubkey
        throwIf (env.isMineSpendable (← get) scriptRawPubKey)
          (.rpc ⟨.walletError,
            "The wallet already contains the private key for this address or script"⟩)
        let added ← addWatchOnly env scriptRawPubKey
        throwIf (!added) (.rpc ⟨.walletError, "Error adding address to wallet"⟩)
      else pure ()
  | _ => pure ()

/-- The address-book entry of a non-internal import, after the assertion that its destination is
valid. -/
def importLabel (request : ImportRequest) : ImportM Unit :=
  if !request.internal then do
    throwIf (!isValidDestination request.dest) .assertion
    modify (·.setAddressBook request.dest request.label "receive")
  else pure ()

/-- The scriptPubKey stage: not spendable already, added as watch-only, as a CScript unless
watch-only, and to the address book unless internal. -/
def importScriptPubKey (env : ImportEnv) (request : ImportRequest) : ImportM Unit := do
  throwIf (env.isMineSpendable (← get) request.script)
    (.rpc ⟨.walletError, "The wallet already contains the private key for this address or script"⟩)
  let added ← addWatchOnly env request.script
  throwIf (!added) (.rpc ⟨.walletError, "Error adding address to wallet"⟩)
  (if !request.watchOnly then do
      let held ← haveOrAddCScript env request.script
      throwIf (!held) (.rpc ⟨.walletError, "Error adding scriptPubKey script to wallet"⟩)
    else pure ())
  importLabel request

/-- One pass of the private-key loop: the key must decode and be new; its creation time is set
before `AddKeyPubKey`. -/
def importKey (env : ImportEnv) (timestamp : Int) (entry : UniValue) : ImportM Unit := do
  let strPrivkey ← fromExcept entry.getStr
  match env.decodeSecret strPrivkey with
  | none => throw (.rpc ⟨.invalidAddressOrKey, "Invalid private key encoding"⟩)
  | some key =>
      let pubKey := env.getPubKey key
      let vchAddress := env.getID pubKey
      throwIf ((← get).haveKey vchAddress) (.rpc ⟨.invalidAddressOrKey, "Already have this key"⟩)
      modify (·.setKeyCreateTime vchAddress timestamp)
      let added ← addKeyPubKey env key pubKey
      throwIf (!added) (.rpc ⟨.walletError, "Error adding key to wallet"⟩)

def importKeys (env : ImportEnv) (timestamp : Int) : List UniValue → ImportM Unit
  | [] => pure ()
  | entry :: rest => do
      importKey env timestamp entry
      importKeys env timestamp rest

/-- The stages of `ProcessImport` after its checks, which write to the wallet. -/
def importChecked (env : ImportEnv) (timestamp : Int) (request : ImportRequest) : ImportM Unit := do
  let dest ← importRedeemScript env request
  importPubKey env request dest
  importScriptPubKey env request
  importKeys env timestamp request.keys.values

/-- The body of `ProcessImport`'s `try` block. -/
def processImportBody (env : ImportEnv) (data : UniValue) (timestamp : Int) : ImportM Unit := do
  let request ← fromExcept (readImport env (← get).disablePrivateKeys data)
  importChecked env timestamp request

/-- The object `ProcessImport` returns: `success`, and `error` when it failed. -/
structure ImportResult where
  success : Bool
  error : Option JSONRPCError
  deriving DecidableEq, Repr

/-- `ProcessImport`: a thrown `JSONRPCError` becomes `success = false` with that error, any other
exception `success = false` with "Missing required fields"; an assertion is not caught. The
wallet is the one the body left, whether it returned or threw. -/
def processImport (env : ImportEnv) (data : UniValue) (timestamp : Int) : ImportM ImportResult :=
  fun wallet =>
    match processImportBody env data timestamp wallet with
    | .ok () w => .ok ⟨true, none⟩ w
    | .error (.rpc error) w => .ok ⟨false, some error⟩ w
    | .error .runtime w => .ok ⟨false, some ⟨.miscError, "Missing required fields"⟩⟩ w
    | .error .assertion w => .error .assertion w

/-- `GetImportTimestamp`: a number, or "now" for the current time. -/
def getImportTimestamp (data : UniValue) (now : Int) : Except ImportError Int :=
  if data.hasKey "timestamp" then
    match data.find "timestamp" with
    | .num value => pure value
    | .str "now" => pure now
    | timestamp => throw (.rpc ⟨.typeError,
        "Expected number or \"now\" timestamp value for key. got type " ++ timestamp.typeName⟩)
  else throw (.rpc ⟨.typeError, "Missing required timestamp field for key"⟩)

/-- The first loop of `importmulti`: every request's timestamp, checked before any import. -/
def checkTimestamps (now : Int) : List UniValue → Except ImportError Unit
  | [] => pure ()
  | data :: rest => do
      let _ ← getImportTimestamp data now
      checkTimestamps now rest

/-- The second loop of `importmulti`, without the rescan: each element is imported with its
timestamp, raised to `minimumTimestamp = 1`. -/
def importRequests (env : ImportEnv) (now : Int) : List UniValue → ImportM (List ImportResult)
  | [] => pure []
  | data :: rest => do
      let timestamp ← fromExcept (getImportTimestamp data now)
      let result ← processImport env data (max timestamp 1)
      let results ← importRequests env now rest
      pure (result :: results)

def importMulti (env : ImportEnv) (requests : List UniValue) (now : Int) :
    ImportM (List ImportResult) := do
  ensureWalletIsUnlocked (← get).locked
  -- Verify all timestamps are present before importing any keys.
  fromExcept (checkTimestamps now requests)
  importRequests env now requests

-----------------------------------------------------------------------------------------
-- Runs
-----------------------------------------------------------------------------------------

section Runs

variable {α β : Type}

@[simp] theorem runImport_pure (a : α) (w : WalletState) : runImport (pure a) w = (.ok a, w) := rfl

@[simp] theorem runImport_throw (e : ImportError) (w : WalletState) :
    runImport (throw e : ImportM α) w = (.error e, w) := rfl

@[simp] theorem runImport_get (w : WalletState) : runImport get w = (.ok w, w) := rfl

theorem runImport_bind (x : ImportM α) (f : α → ImportM β) (w : WalletState) :
    runImport (x >>= f) w
      = match runImport x w with
        | (.ok a, w') => runImport (f a) w'
        | (.error e, w') => (.error e, w') := by
  show runImport (EStateM.bind x f) w = _
  unfold runImport EStateM.bind
  cases x w <;> rfl

@[simp] theorem runImport_fromExcept_error (e : ImportError) (w : WalletState) :
    runImport (fromExcept (.error e : Except ImportError α)) w = (.error e, w) := rfl

@[simp] theorem runImport_modify (g : WalletState → WalletState) (w : WalletState) :
    runImport (modify g) w = (.ok (), g w) := rfl

@[simp] theorem runImport_addKeyPubKey (env : ImportEnv) (key : CKey) (pubkey : CPubKey)
    (w : WalletState) :
    runImport (addKeyPubKey env key pubkey) w = (.ok env.databaseWrites, w.addKeyPubKey env key pubkey) :=
  rfl

@[simp] theorem throwIf_false (e : ImportError) : (throwIf false e : ImportM Unit) = pure () := rfl

/-- A check never changes the wallet. -/
@[simp] theorem runImport_throwIf_wallet (c : Bool) (e : ImportError) (w : WalletState) :
    (runImport (throwIf c e) w).2 = w := by
  cases c <;> rfl

end Runs

/-- A relation between the wallet before and after a run that holds of the empty run and
composes. -/
structure WalletOrder where
  rel : WalletState → WalletState → Prop
  refl : ∀ w, rel w w
  trans : ∀ {a b c}, rel a b → rel b c → rel a c

/-- Every run of `x`, returning or throwing, leaves a wallet that `R` relates to the one it
started from. -/
def Keeps {α : Type} (R : WalletOrder) (x : ImportM α) : Prop := ∀ w, R.rel w (runImport x w).2

section Keeps

variable {α β : Type} {R : WalletOrder}

theorem Keeps.pure (a : α) : Keeps R (pure a) := R.refl

theorem Keeps.throw (e : ImportError) : Keeps R (throw e : ImportM α) := R.refl

theorem Keeps.read : Keeps R get := R.refl

theorem Keeps.throwIf (c : Bool) (e : ImportError) : Keeps R (throwIf c e : ImportM Unit) := by
  cases c <;> exact R.refl

theorem Keeps.fromExcept (x : Except ImportError α) : Keeps R (fromExcept x) := by
  cases x <;> exact R.refl

theorem Keeps.bind {x : ImportM α} {f : α → ImportM β} (first : Keeps R x)
    (rest : ∀ a, Keeps R (f a)) : Keeps R (x >>= f) := by
  intro w
  have start := first w
  rw [runImport_bind]
  generalize runImport x w = r at start
  rcases r with ⟨_ | a, w'⟩
  · exact start
  · exact R.trans start (rest a w')

/-- A stage that reads the wallet first is judged from the wallet it reads. -/
theorem Keeps.get_bind {f : WalletState → ImportM α} (reads : ∀ w, R.rel w (runImport (f w) w).2) :
    Keeps R (get >>= f) :=
  reads

end Keeps

/-- The wallet holds, under its public key's id, a key whose P2PKH or P2PK script `script` is. -/
def WalletState.HoldsKeyOf (w : WalletState) (env : ImportEnv) (script : CScript) : Prop :=
  ∃ key, w.mapKeys (env.getID (env.getPubKey key)) = some key ∧ script ∈ env.keyScripts (env.getPubKey key)

/-- `after` holds what `before` holds: the same keys, a time for every key that had one, every
watch-only script but those `AddKeyPubKey` took out for a key `after` holds, the same redeem
scripts, an entry for every address-book entry, the same flag and the same lock. Key times and
address-book names may be rewritten. -/
structure WalletState.Extends (env : ImportEnv) (before after : WalletState) : Prop where
  keys : ∀ id key, before.mapKeys id = some key → after.mapKeys id = some key
  keyMetadata : ∀ id, (before.mapKeyMetadata id).isSome → (after.mapKeyMetadata id).isSome
  watchOnly : ∀ script, before.setWatchOnly script = true →
    after.setWatchOnly script = true ∨ after.HoldsKeyOf env script
  scripts : ∀ id script, before.mapScripts id = some script → after.mapScripts id = some script
  addressBook : ∀ dest, (before.mapAddressBook dest).isSome → (after.mapAddressBook dest).isSome
  flag : after.disablePrivateKeys = before.disablePrivateKeys
  locked : after.locked = before.locked

namespace WalletState.Extends

variable {env : ImportEnv} {w : WalletState}

theorem refl (w : WalletState) : w.Extends env w :=
  ⟨fun _ _ => id, fun _ => id, fun _ => .inl, fun _ _ => id, fun _ => id, rfl, rfl⟩

theorem trans {a b c : WalletState} (first : a.Extends env b) (second : b.Extends env c) :
    a.Extends env c :=
  ⟨fun id key held => second.keys id key (first.keys id key held),
    fun id timed => second.keyMetadata id (first.keyMetadata id timed),
    fun script watched => (first.watchOnly script watched).elim (second.watchOnly script)
      fun ⟨key, held, mine⟩ => .inr ⟨key, second.keys _ key held, mine⟩,
    fun id script held => second.scripts id script (first.scripts id script held),
    fun dest named => second.addressBook dest (first.addressBook dest named),
    second.flag.trans first.flag, second.locked.trans first.locked⟩

theorem addWatchOnly (script : CScript) : w.Extends env (w.addWatchOnly script) :=
  { (refl w : w.Extends env w) with watchOnly := fun _ watched => .inl (by simp [WalletState.addWatchOnly, watched]) }

theorem addCScript {id : CScriptID} (absent : w.haveCScript id = false) (script : CScript) :
    w.Extends env (w.addCScript id script) :=
  { (refl w : w.Extends env w) with
    scripts := fun i _ held => by
      by_cases same : i = id
      · subst same; simp [WalletState.haveCScript, held] at absent
      · simpa [WalletState.addCScript, same] using held }

/-- A key added where the wallet held none keeps every key; a watch-only script it takes out is
one of its own. -/
theorem addKeyPubKey {key : CKey} (absent : w.haveKey (env.getID (env.getPubKey key)) = false) :
    w.Extends env (w.addKeyPubKey env key (env.getPubKey key)) :=
  { (refl w : w.Extends env w) with
    keys := fun i _ held => by
      by_cases same : i = env.getID (env.getPubKey key)
      · subst same; simp [WalletState.haveKey, held] at absent
      · simpa [WalletState.addKey, same] using held
    watchOnly := fun script watched => by
      by_cases mine : script ∈ env.keyScripts (env.getPubKey key)
      · exact .inr ⟨key, by simp [WalletState.addKey], mine⟩
      · exact .inl (by simp [watched, mine]) }

theorem setKeyCreateTime (id : CKeyID) (nCreateTime : Int) :
    w.Extends env (w.setKeyCreateTime id nCreateTime) :=
  { (refl w : w.Extends env w) with
    keyMetadata := fun i timed => by
      by_cases same : i = id <;> simp [WalletState.setKeyCreateTime, same, timed] }

theorem setAddressBook (dest : CTxDestination) (name purpose : String) :
    w.Extends env (w.setAddressBook dest name purpose) :=
  { (refl w : w.Extends env w) with
    addressBook := fun d named => by
      by_cases same : d = dest <;> simp [WalletState.setAddressBook, same, named] }

end WalletState.Extends

/-- Runs that only add to the wallet, but for the watch-only scripts of the keys they add. -/
def WalletOrder.extension (env : ImportEnv) : WalletOrder :=
  ⟨WalletState.Extends env, WalletState.Extends.refl, WalletState.Extends.trans⟩

/-- Runs that leave the wallet as it was. -/
def WalletOrder.unchanged : WalletOrder := ⟨Eq, fun _ => rfl, Eq.trans⟩

/-- `R` relates a wallet to the wallet after each write of a watch-only import: a watch-only
script, a redeem script under its hash where the wallet has none, and an address-book entry. -/
structure WalletOrder.AdmitsWatching (env : ImportEnv) (R : WalletOrder) : Prop where
  addWatchOnly : ∀ w script, R.rel w (w.addWatchOnly script)
  addCScript : ∀ w script, w.haveCScript (env.scriptID script) = false →
    R.rel w (w.addCScript (env.scriptID script) script)
  setAddressBook : ∀ w dest name purpose, R.rel w (w.setAddressBook dest name purpose)

/-- `R` relates a wallet to the wallet after each write of an import: those of a
watch-only import, a key under its public key's id where the wallet has none, and a key time.
Every stage keeps such an order, whatever it answers. -/
structure WalletOrder.Admits (env : ImportEnv) (R : WalletOrder) extends
    WalletOrder.AdmitsWatching env R : Prop where
  addKey : ∀ w key, w.haveKey (env.getID (env.getPubKey key)) = false →
    R.rel w (w.addKeyPubKey env key (env.getPubKey key))
  setKeyCreateTime : ∀ w id nCreateTime, R.rel w (w.setKeyCreateTime id nCreateTime)

/-- The writes of an import only add, but for the watch-only scripts of the keys they add. -/
theorem WalletOrder.extension_admits (env : ImportEnv) : (WalletOrder.extension env).Admits env where
  addWatchOnly _ script := WalletState.Extends.addWatchOnly script
  addCScript _ script absent := WalletState.Extends.addCScript absent script
  setAddressBook _ := WalletState.Extends.setAddressBook
  addKey _ _ absent := WalletState.Extends.addKeyPubKey absent
  setKeyCreateTime _ := WalletState.Extends.setKeyCreateTime

-----------------------------------------------------------------------------------------
-- Every stage only adds
-----------------------------------------------------------------------------------------

section Stages

variable (env : ImportEnv) {R : WalletOrder}

theorem addWatchOnly_keeps (admits : R.AdmitsWatching env) (script : CScript) :
    Keeps R (addWatchOnly env script) :=
  fun w => admits.addWatchOnly w script

/-- A redeem script is added only where the wallet holds none. -/
theorem haveOrAddCScript_keeps (admits : R.AdmitsWatching env) (script : CScript) :
    Keeps R (haveOrAddCScript env script) := by
  refine Keeps.get_bind fun w => ?_
  cases held : w.haveCScript (env.scriptID script)
  · exact admits.addCScript w script held
  · exact R.refl w

theorem firstKeyPubKey_keeps (request : ImportRequest) : Keeps R (firstKeyPubKey env request) := by
  unfold firstKeyPubKey
  split
  · refine (Keeps.fromExcept _).bind fun _ => ?_
    split
    · exact Keeps.pure _
    · exact Keeps.throw _
  · exact Keeps.pure _

/-- Working out the public key of a single-key import writes nothing. -/
theorem singleKeyPubKey_keeps (request : ImportRequest) : Keeps R (singleKeyPubKey env request) := by
  refine (firstKeyPubKey_keeps env request).bind fun _ => ?_
  split
  · exact (Keeps.fromExcept _).bind fun _ => (Keeps.throwIf _ _).bind fun _ =>
      (Keeps.throwIf _ _).bind fun _ => Keeps.pure _
  · exact Keeps.pure _

theorem importRedeemScript_keeps (admits : R.AdmitsWatching env) (request : ImportRequest) :
    Keeps R (importRedeemScript env request) := by
  unfold importRedeemScript
  split
  · exact (Keeps.throwIf _ _).bind fun _ => (Keeps.throwIf _ _).bind fun _ =>
      (addWatchOnly_keeps env admits _).bind fun _ => (Keeps.throwIf _ _).bind fun _ =>
      (haveOrAddCScript_keeps env admits _).bind fun _ => (Keeps.throwIf _ _).bind fun _ =>
      Keeps.pure _
  · exact Keeps.pure _

theorem importPubKey_keeps (admits : R.AdmitsWatching env) (request : ImportRequest)
    (dest : CTxDestination) : Keeps R (importPubKey env request dest) := by
  cases dest with
  | keyID keyId =>
      refine (Keeps.throwIf _ _).bind fun _ => (singleKeyPubKey_keeps env request).bind fun _ => ?_
      split
      · exact (Keeps.throwIf _ _).bind fun _ => (Keeps.throwIf _ _).bind fun _ =>
          Keeps.read.bind fun _ => (Keeps.throwIf _ _).bind fun _ =>
          (addWatchOnly_keeps env admits _).bind fun _ => Keeps.throwIf _ _
      · exact Keeps.pure _
  | noDestination | scriptID _ => exact Keeps.pure _

theorem importLabel_keeps (admits : R.AdmitsWatching env) (request : ImportRequest) :
    Keeps R (importLabel request) := by
  unfold importLabel
  split
  · exact (Keeps.throwIf _ _).bind fun _ w => admits.setAddressBook w _ _ _
  · exact Keeps.pure _

theorem importScriptPubKey_keeps (admits : R.AdmitsWatching env) (request : ImportRequest) :
    Keeps R (importScriptPubKey env request) := by
  refine Keeps.read.bind fun _ => (Keeps.throwIf _ _).bind fun _ =>
    (addWatchOnly_keeps env admits _).bind fun _ => (Keeps.throwIf _ _).bind fun _ =>
    Keeps.bind ?_ fun _ => importLabel_keeps env admits request
  split
  · exact (haveOrAddCScript_keeps env admits _).bind fun _ => Keeps.throwIf _ _
  · exact Keeps.pure _

/-- A private key is added only under an id the wallet has no key for, after its time is set. -/
theorem importKey_keeps (admits : R.Admits env) (timestamp : Int) (entry : UniValue) :
    Keeps R (importKey env timestamp entry) := by
  refine (Keeps.fromExcept _).bind fun _ => ?_
  split
  · exact Keeps.throw _
  · rename_i key _
    refine Keeps.get_bind fun w => ?_
    cases held : w.haveKey (env.getID (env.getPubKey key))
    · simp only [held, throwIf_false, runImport_bind, runImport_pure, runImport_modify,
        runImport_addKeyPubKey, runImport_throwIf_wallet]
      exact R.trans (admits.setKeyCreateTime w _ timestamp) (admits.addKey _ key held)
    · exact R.refl w

theorem importKeys_keeps (admits : R.Admits env) (timestamp : Int) :
    ∀ entries, Keeps R (importKeys env timestamp entries)
  | [] => Keeps.pure _
  | entry :: rest => (importKey_keeps env admits timestamp entry).bind fun _ =>
      importKeys_keeps admits timestamp rest

theorem importChecked_keeps (admits : R.Admits env) (timestamp : Int) (request : ImportRequest) :
    Keeps R (importChecked env timestamp request) :=
  (importRedeemScript_keeps env admits.toAdmitsWatching request).bind fun dest =>
    (importPubKey_keeps env admits.toAdmitsWatching request dest).bind fun _ =>
    (importScriptPubKey_keeps env admits.toAdmitsWatching request).bind fun _ =>
    importKeys_keeps env admits timestamp _

theorem processImportBody_keeps (admits : R.Admits env) (data : UniValue) (timestamp : Int) :
    Keeps R (processImportBody env data timestamp) :=
  Keeps.read.bind fun _ => (Keeps.fromExcept _).bind fun request =>
    importChecked_keeps env admits timestamp request

/-- `ProcessImport` leaves the wallet its body left, whatever it answers. -/
theorem processImport_wallet (data : UniValue) (timestamp : Int) (w : WalletState) :
    (runImport (processImport env data timestamp) w).2
      = (runImport (processImportBody env data timestamp) w).2 := by
  unfold processImport runImport
  dsimp only
  cases processImportBody env data timestamp w with
  | ok _ _ => rfl
  | error e _ => cases e <;> rfl

/-- The run lemma of one element: whether it succeeds, fails or aborts, `ProcessImport` keeps
every order its writes keep. -/
theorem processImport_keeps (admits : R.Admits env) (data : UniValue) (timestamp : Int) :
    Keeps R (processImport env data timestamp) := fun w => by
  rw [processImport_wallet]
  exact processImportBody_keeps env admits data timestamp w

theorem importRequests_admitted (admits : R.Admits env) (now : Int) :
    ∀ requests, Keeps R (importRequests env now requests)
  | [] => Keeps.pure _
  | data :: rest => (Keeps.fromExcept _).bind fun _ =>
      (processImport_keeps env admits data _).bind fun _ =>
      (importRequests_admitted admits now rest).bind fun _ => Keeps.pure _

theorem importRequests_keeps (now : Int) :
    ∀ requests, Keeps (.extension env) (importRequests env now requests) :=
  importRequests_admitted env (WalletOrder.extension_admits env) now

/-- The run lemma of `importmulti`: over all its elements, whatever each answers, the wallet only
gains keys, key times, watch-only scripts, redeem scripts and address-book entries, and loses a
watch-only script only when `AddKeyPubKey` adds a key whose P2PKH or P2PK script it is. -/
theorem importMulti_keeps (requests : List UniValue) (now : Int) :
    Keeps (.extension env) (importMulti env requests now) :=
  Keeps.get_bind fun w => (Keeps.throwIf _ _).bind (fun _ => (Keeps.fromExcept _).bind fun _ =>
    importRequests_keeps env now requests) w

/-- `importmulti` keeps every order its writes keep. -/
theorem importMulti_admitted (admits : R.Admits env) (requests : List UniValue) (now : Int) :
    Keeps R (importMulti env requests now) :=
  Keeps.get_bind fun w => (Keeps.throwIf _ _).bind (fun _ => (Keeps.fromExcept _).bind fun _ =>
    importRequests_admitted env admits now requests) w

end Stages

-----------------------------------------------------------------------------------------
-- Failures
-----------------------------------------------------------------------------------------

section Failures

variable (env : ImportEnv) {w : WalletState} {data : UniValue}

/-- An element that fails a check before the first write leaves the wallet as it was. -/
theorem processImportBody_rejected {e : ImportError} (timestamp : Int)
    (rejected : readImport env w.disablePrivateKeys data = .error e) :
    runImport (processImportBody env data timestamp) w = (.error e, w) := by
  simp only [processImportBody, runImport_bind, runImport_get, rejected,
    runImport_fromExcept_error]

/-- Such an element is answered with `success = false` and its error. -/
theorem processImport_rejected {error : JSONRPCError} (timestamp : Int)
    (rejected : readImport env w.disablePrivateKeys data = .error (.rpc error)) :
    runImport (processImport env data timestamp) w = (.ok ⟨false, some error⟩, w) := by
  have body := processImportBody_rejected env timestamp rejected
  unfold runImport at body ⊢
  unfold processImport
  cases ran : processImportBody env data timestamp w with
  | ok _ _ => simp [ran] at body
  | error e w' =>
      simp only [ran, Prod.mk.injEq, Except.error.injEq] at body
      rw [body.1, body.2]

/-- On an unlocked wallet, a request without a usable timestamp fails the whole call before any
element is imported. -/
theorem importMulti_rejected {e : ImportError} (requests : List UniValue) (now : Int)
    (unlocked : w.locked = false) (rejected : checkTimestamps now requests = .error e) :
    runImport (importMulti env requests now) w = (.error e, w) := by
  simp only [importMulti, runImport_bind, runImport_get, ensureWalletIsUnlocked, unlocked,
    throwIf_false, runImport_pure, rejected, runImport_fromExcept_error]

end Failures

-----------------------------------------------------------------------------------------
-- Aborts
--
-- `ProcessImport` catches every exception but a failed assertion. Its body asserts twice: in
-- `GetPubKey` of the first private key of a single-key import, and before the address-book entry.
-- The second never fails, since the checks before the first write only let an invalid destination
-- through for an internal import; so an element aborts the process only with an undecodable first
-- key.
-----------------------------------------------------------------------------------------

/-- Every error a run of `x` throws, from any wallet, satisfies `P`. -/
def Raises {α : Type} (P : ImportError → Prop) (x : ImportM α) : Prop :=
  ∀ w e w', runImport x w = (.error e, w') → P e

/-- The errors of a stage that reads the wallet only satisfy `P`, and its values `Q`. -/
def Holds {α : Type} (P : ImportError → Prop) (Q : α → Prop) : Except ImportError α → Prop
  | .ok a => Q a
  | .error e => P e

/-- `DecodeSecret` rejects the first private key of a request. -/
def undecodableFirstKey (env : ImportEnv) (request : ImportRequest) : Prop :=
  ∃ strPrivkey, (request.keys.elem 0).getStr = .ok strPrivkey ∧ env.decodeSecret strPrivkey = none

section Combinators

variable {α β : Type} {P : ImportError → Prop}

theorem Holds.bind {Q₁ : α → Prop} {Q : β → Prop} {x : Except ImportError α}
    {f : α → Except ImportError β} (first : Holds P Q₁ x) (rest : ∀ a, Q₁ a → Holds P Q (f a)) :
    Holds P Q (x >>= f) := by
  cases x with
  | error e => exact first
  | ok a => exact rest a first

/-- A check that passes has a false condition. -/
theorem Holds.throwIf {c : Bool} {e : ImportError} (holds : c = true → P e) :
    Holds P (fun _ => c = false) (throwIf c e : Except ImportError Unit) := by
  cases c
  · exact rfl
  · exact holds rfl

theorem Holds.mono {Q : α → Prop} {P' : ImportError → Prop} {x : Except ImportError α}
    (weaker : ∀ e, P e → P' e) (holds : Holds P Q x) : Holds P' Q x := by
  cases x with
  | error e => exact weaker e holds
  | ok a => exact holds

/-- A `UniValue` accessor throws only its runtime error. -/
theorem UniValue.getStr_holds (v : UniValue) : Holds (· = .runtime) (fun _ => True) v.getStr := by
  cases v <;> trivial

theorem UniValue.getArray_holds (v : UniValue) :
    Holds (· = .runtime) (fun _ => True) v.getArray := by
  cases v <;> trivial

theorem UniValue.getBool_holds (v : UniValue) :
    Holds (· = .runtime) (fun _ => True) v.getBool := by
  cases v <;> trivial

theorem Holds.ite {Q : α → Prop} {c : Prop} [Decidable c] {x y : Except ImportError α}
    (onTrue : Holds P Q x) (onFalse : Holds P Q y) : Holds P Q (if c then x else y) := by
  split
  · exact onTrue
  · exact onFalse

/-- A read that throws only what `P` allows returns the value it returned. -/
theorem Holds.ok_eq {x : Except ImportError α} (holds : Holds P (fun _ => True) x) :
    Holds P (fun a => x = .ok a) x := by
  cases x with
  | error e => exact holds
  | ok a => rfl

theorem UniValue.getStr_raises (runtime : P .runtime) (v : UniValue) :
    Holds P (fun _ => True) v.getStr :=
  Holds.mono (fun e (same : e = .runtime) => by rw [same]; exact runtime) (UniValue.getStr_holds v)

theorem UniValue.optionalField_holds {data : UniValue} {key : String}
    {read : UniValue → Except ImportError α} {default : α}
    (reads : ∀ v, Holds (· = .runtime) (fun _ => True) (read v)) :
    Holds (· ≠ .assertion) (fun _ => True) (data.optionalField key read default) := by
  unfold UniValue.optionalField
  split
  · exact Holds.mono (fun e (runtime : e = .runtime) => by rw [runtime]; exact nofun) (reads _)
  · trivial

theorem Raises.pure (a : α) : Raises P (pure a) := fun _ _ _ ran => by cases ran

theorem Raises.throw {e : ImportError} (holds : P e) : Raises P (throw e : ImportM α) :=
  fun _ _ _ ran => by
    cases ran
    exact holds

theorem Raises.throwIf {c : Bool} {e : ImportError} (holds : c = true → P e) :
    Raises P (throwIf c e : ImportM Unit) := by
  cases c
  · exact Raises.pure ()
  · exact Raises.throw (holds rfl)

/-- A write never throws. -/
theorem Raises.modifyGet (g : WalletState → α × WalletState) : Raises P (modifyGet g) :=
  fun _ _ _ ran => by cases ran

theorem Raises.read : Raises P (get : ImportM WalletState) := fun _ _ _ ran => by cases ran

theorem Raises.bind {x : ImportM α} {f : α → ImportM β} (first : Raises P x)
    (rest : ∀ a, Raises P (f a)) : Raises P (x >>= f) := by
  intro w e w' ran
  rw [runImport_bind] at ran
  generalize result : runImport x w = r at ran
  rcases r with ⟨_ | a, w''⟩
  · cases ran
    exact first w _ _ result
  · exact rest a w'' e w' ran

/-- A stage that reads the wallet only, followed by the rest, which may use what it returned. -/
theorem Raises.fromExcept_bind {Q : α → Prop} {x : Except ImportError α} {f : α → ImportM β}
    (first : Holds P Q x) (rest : ∀ a, Q a → Raises P (f a)) : Raises P (fromExcept x >>= f) := by
  cases x with
  | error e =>
      intro _ _ _ ran
      cases ran
      exact first
  | ok a => exact rest a first

end Combinators

section Stages

variable (env : ImportEnv)

/-- The checks before the first write throw no assertion, and pass an invalid destination only
for an internal import, when `ExtractDestination` recognises only valid destinations. -/
theorem outputScript_holds (isScript : Bool) (output : String) (internal : Bool)
    (extracted : ∀ script dest, env.extractDestination script = some dest
      → isValidDestination dest = true) :
    Holds (· ≠ .assertion) (fun out => internal = false → isValidDestination out.2 = true)
      (outputScript env isScript output internal) := by
  unfold outputScript
  split
  · exact (Holds.throwIf fun _ => nofun).bind fun _ passed _ => by simpa using passed
  · refine (Holds.throwIf fun _ => nofun).bind fun _ _ =>
      (Holds.throwIf fun _ => nofun).bind fun _ passed external => ?_
    cases found : env.extractDestination (env.parseHex output) with
    | none => simp [found, external] at passed
    | some dest => exact extracted _ _ found

/-- The checks before the first write throw no assertion, and build a request whose destination is
valid unless the import is internal. -/
theorem readImport_holds (disablePrivateKeys : Bool) (data : UniValue)
    (extracted : ∀ script dest, env.extractDestination script = some dest
      → isValidDestination dest = true) :
    Holds (· ≠ .assertion)
      (fun request => request.internal = false → isValidDestination request.dest = true)
      (readImport env disablePrivateKeys data) := by
  unfold readImport
  dsimp only
  refine (Holds.throwIf fun _ => nofun).bind fun _ _ =>
    (Holds.ite (UniValue.getStr_raises nofun _) (UniValue.getStr_raises nofun _)).bind fun _ _ =>
    (UniValue.optionalField_holds UniValue.getStr_holds).bind fun _ _ =>
    (UniValue.optionalField_holds UniValue.getArray_holds).bind fun _ _ =>
    (UniValue.optionalField_holds UniValue.getArray_holds).bind fun _ _ =>
    (UniValue.optionalField_holds UniValue.getBool_holds).bind fun internal _ =>
    (UniValue.optionalField_holds UniValue.getBool_holds).bind fun _ _ =>
    (UniValue.optionalField_holds UniValue.getStr_holds).bind fun _ _ =>
    (Holds.throwIf fun _ => nofun).bind fun _ _ =>
    (outputScript_holds env _ _ internal extracted).bind fun out valid => ?_
  obtain ⟨script, dest⟩ := out
  exact (Holds.throwIf fun _ => nofun).bind fun _ _ => (Holds.throwIf fun _ => nofun).bind fun _ _ => valid

section Writes

variable {P : ImportError → Prop}

theorem haveOrAddCScript_raises (script : CScript) : Raises P (haveOrAddCScript env script) :=
  Raises.read.bind fun _ => by
    split
    · exact Raises.pure _
    · exact Raises.modifyGet _

variable (rpc : ∀ error, P (.rpc error))
include rpc

theorem importRedeemScript_raises (request : ImportRequest) :
    Raises P (importRedeemScript env request) := by
  unfold importRedeemScript
  split
  · exact (Raises.throwIf fun _ => rpc _).bind fun _ => (Raises.throwIf fun _ => rpc _).bind fun _ =>
      (Raises.modifyGet _).bind fun _ => (Raises.throwIf fun _ => rpc _).bind fun _ =>
      (haveOrAddCScript_raises env _).bind fun _ => (Raises.throwIf fun _ => rpc _).bind fun _ =>
      Raises.pure _
  · exact Raises.pure _

/-- The scriptPubKey stage's assertion holds for a destination the checks let through. -/
theorem importScriptPubKey_raises {request : ImportRequest}
    (valid : request.internal = false → isValidDestination request.dest = true) :
    Raises P (importScriptPubKey env request) := by
  refine Raises.read.bind fun _ => (Raises.throwIf fun _ => rpc _).bind fun _ =>
    (Raises.modifyGet _).bind fun _ => (Raises.throwIf fun _ => rpc _).bind fun _ =>
    Raises.bind ?_ fun _ => ?_
  · split
    · exact (haveOrAddCScript_raises env _).bind fun _ => Raises.throwIf fun _ => rpc _
    · exact Raises.pure _
  · unfold importLabel
    split
    · rename_i external
      refine (Raises.throwIf fun invalid => ?_).bind fun _ => Raises.modifyGet _
      simp [valid (by simpa using external)] at invalid
    · exact Raises.pure _

variable (runtime : P .runtime)
include runtime

theorem importKey_raises (timestamp : Int) (entry : UniValue) :
    Raises P (importKey env timestamp entry) := by
  refine Raises.fromExcept_bind (UniValue.getStr_raises runtime entry) fun _ _ => ?_
  split
  · exact Raises.throw (rpc _)
  · exact Raises.read.bind fun _ => (Raises.throwIf fun _ => rpc _).bind fun _ =>
      (Raises.modifyGet _).bind fun _ => (Raises.modifyGet _).bind fun _ =>
      Raises.throwIf fun _ => rpc _

theorem importKeys_raises (timestamp : Int) :
    ∀ entries, Raises P (importKeys env timestamp entries)
  | [] => Raises.pure _
  | entry :: rest =>
      (importKey_raises env rpc runtime timestamp entry).bind fun _ =>
        importKeys_raises timestamp rest

end Writes

/-- `GetPubKey` of the first private key asserts only for a key `DecodeSecret` rejects. -/
theorem firstKeyPubKey_raises (request : ImportRequest) :
    Raises (fun e => e = .assertion → undecodableFirstKey env request)
      (firstKeyPubKey env request) := by
  unfold firstKeyPubKey
  split
  · refine Raises.fromExcept_bind (UniValue.getStr_raises nofun _).ok_eq fun _ read => ?_
    split
    · exact Raises.pure _
    · rename_i undecoded
      exact Raises.throw fun _ => ⟨_, read, undecoded⟩
  · exact Raises.pure _

theorem importPubKey_raises (request : ImportRequest) (dest : CTxDestination) :
    Raises (fun e => e = .assertion → undecodableFirstKey env request)
      (importPubKey env request dest) := by
  cases dest with
  | keyID keyId =>
      refine (Raises.throwIf fun _ => nofun).bind fun _ => Raises.bind ?_ fun _ => ?_
      · refine (firstKeyPubKey_raises env request).bind fun _ => ?_
        split
        · exact Raises.fromExcept_bind (UniValue.getStr_raises nofun _) fun _ _ =>
            (Raises.throwIf fun _ => nofun).bind fun _ => (Raises.throwIf fun _ => nofun).bind fun _ =>
            Raises.pure _
        · exact Raises.pure _
      · split
        · exact (Raises.throwIf fun _ => nofun).bind fun _ => (Raises.throwIf fun _ => nofun).bind fun _ =>
            Raises.read.bind fun _ => (Raises.throwIf fun _ => nofun).bind fun _ =>
            (Raises.modifyGet _).bind fun _ => Raises.throwIf fun _ => nofun
        · exact Raises.pure _
  | noDestination | scriptID _ => exact Raises.pure _

/-- The writing stages of a request the checks accepted abort only on an undecodable first key. -/
theorem importChecked_raises (timestamp : Int) {request : ImportRequest}
    (valid : request.internal = false → isValidDestination request.dest = true) :
    Raises (fun e => e = .assertion → undecodableFirstKey env request)
      (importChecked env timestamp request) :=
  (importRedeemScript_raises env (fun _ => nofun) request).bind fun dest =>
    (importPubKey_raises env request dest).bind fun _ =>
    (importScriptPubKey_raises env (fun _ => nofun) valid).bind fun _ =>
    importKeys_raises env (fun _ => nofun) nofun timestamp _

theorem runImport_processImportBody (data : UniValue) (timestamp : Int) (w : WalletState) :
    runImport (processImportBody env data timestamp) w
      = runImport (fromExcept (readImport env w.disablePrivateKeys data) >>= importChecked env timestamp) w := by
  simp only [processImportBody, runImport_bind, runImport_get]

/-- `ProcessImport` ends in an error only when its body failed an assertion. -/
theorem processImport_aborted {data : UniValue} {timestamp : Int} {w : WalletState} {e : ImportError}
    (aborted : (runImport (processImport env data timestamp) w).1 = .error e) :
    ∃ w', runImport (processImportBody env data timestamp) w = (.error .assertion, w') := by
  unfold runImport processImport at aborted
  unfold runImport
  cases ran : processImportBody env data timestamp w with
  | ok _ _ => simp [ran] at aborted
  | error e' w' => cases e' <;> simp [ran] at aborted ⊢

/-- An element aborts the process only when the checks accept it and its first private key does
not decode, when `ExtractDestination` recognises only valid destinations. -/
theorem processImport_aborts_only_on_undecodable_key {data : UniValue} {timestamp : Int}
    {w : WalletState} {e : ImportError}
    (extracted : ∀ script dest, env.extractDestination script = some dest
      → isValidDestination dest = true)
    (aborted : (runImport (processImport env data timestamp) w).1 = .error e) :
    ∃ request, readImport env w.disablePrivateKeys data = .ok request
      ∧ undecodableFirstKey env request := by
  obtain ⟨w', ran⟩ := processImport_aborted env aborted
  have checks := readImport_holds env w.disablePrivateKeys data extracted
  rw [runImport_processImportBody] at ran
  cases read : readImport env w.disablePrivateKeys data with
  | error e' =>
      rw [read] at ran checks
      cases ran
      exact absurd rfl checks
  | ok request =>
      rw [read] at ran checks
      exact ⟨request, rfl, importChecked_raises env timestamp checks w _ _ ran rfl⟩

end Stages

-----------------------------------------------------------------------------------------
-- Worked runs: an element that aborts, and a P2SH element imported in part
-----------------------------------------------------------------------------------------

/-- Collaborators for a worked run: a P2SH script is `0xa9` and a script id, a P2PKH script `0x76`
and a key id; the id of a script or public key is the sum of its bytes; a hex string stands for
the bytes of its characters. -/
def sampleImportEnv : ImportEnv where
  decodeDestination address := if address = "sh" then .scriptID 125 else .noDestination
  isHex _ := true
  parseHex text := text.toList.map fun c => UInt8.ofNat c.toNat
  getScriptForDestination
    | .keyID id => [0x76, UInt8.ofNat id]
    | .scriptID id => [0xa9, UInt8.ofNat id]
    | .noDestination => []
  extractDestination script := match script with
    | [op, id] =>
        if op = 0x76 then some (.keyID id.toNat)
        else if op = 0xa9 then some (.scriptID id.toNat) else none
    | _ => none
  isPayToScriptHash script := script.head? == some 0xa9
  scriptID script := (script.map UInt8.toNat).sum
  decodeSecret _ := none
  getPubKey key := [UInt8.ofNat key]
  pubKeyOfBytes bytes := bytes
  getID pubkey := (pubkey.map UInt8.toNat).sum
  isFullyValid pubkey := pubkey.length == 1
  getScriptForRawPubKey pubkey := 0x21 :: pubkey
  isMineSpendable _ _ := false
  databaseWrites := true

/-- `sampleImportEnv` extracts only the two standard destinations, both valid. -/
theorem sampleImportEnv_extractDestination_valid {script : CScript} {dest : CTxDestination}
    (found : sampleImportEnv.extractDestination script = some dest) : isValidDestination dest = true := by
  simp only [sampleImportEnv] at found
  split at found
  · split_ifs at found <;> cases found <;> rfl
  · cases found

/-- A P2PKH script for key 7 sent with a private key, which `sampleImportEnv` does not decode. -/
def undecodableKeyRequest : UniValue :=
  .obj [("scriptPubKey", .str "v\x07"), ("keys", .arr [.str "k"])]

theorem undecodable_key_aborts_sample :
    (runImport (processImport sampleImportEnv undecodableKeyRequest 1) WalletState.empty).1
        = .error .assertion
      ∧ ∃ request, readImport sampleImportEnv false undecodableKeyRequest = .ok request
        ∧ undecodableFirstKey sampleImportEnv request := by
  have aborted : (runImport (processImport sampleImportEnv undecodableKeyRequest 1)
      WalletState.empty).1 = .error .assertion := rfl
  have read := processImport_aborts_only_on_undecodable_key sampleImportEnv
    (fun _ _ => sampleImportEnv_extractDestination_valid) aborted
  exact ⟨aborted, read⟩

/-- A P2SH address whose redeem script pays key 7, sent with the public key of key 9. -/
def mismatchedP2SHRequest : UniValue :=
  .obj [("scriptPubKey", .obj [("address", .str "sh")]), ("redeemscript", .str "v\x07"),
    ("pubkeys", .arr [.str "\t"])]

theorem p2sh_key_mismatch_leaves_redeem_script :
    (runImport (processImport sampleImportEnv mismatchedP2SHRequest 1) WalletState.empty).1.toOption
        = some ⟨false, some ⟨.invalidAddressOrKey, "Key does not match address destination"⟩⟩
      ∧ WalletState.empty.setWatchOnly [0x76, 7] = false
      ∧ (runImport (processImport sampleImportEnv mismatchedP2SHRequest 1)
          WalletState.empty).2.setWatchOnly [0x76, 7] = true
      ∧ WalletState.empty.mapScripts 125 = none
      ∧ (runImport (processImport sampleImportEnv mismatchedP2SHRequest 1)
          WalletState.empty).2.mapScripts 125 = some [0x76, 7] := by
  decide

end Wallet
