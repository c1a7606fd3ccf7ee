import Mathlib

/-! The text form of keys in wallet dumps (`wallet/rpcdump.cpp`). `dumpwallet` writes a key as
`<secret> <time> <tag> # addr=<address>`, the tag carrying the address-book label through
`EncodeDumpString`, and `importwallet` reads the line back by splitting it on spaces. Bytes are
`UInt8`; the `char` arithmetic of `DecodeDumpString` is done in 32-bit two's complement.
-/

namespace Wallet

/-- The bytes of an ASCII literal of the source. -/
def ascii (s : String) : List UInt8 := s.toList.map Char.toUInt8

/-- Character literals as numbers, which simp compares. -/
@[simp] theorem char_toUInt8 (c : Char) : c.toUInt8 = UInt8.ofNat c.toNat := rfl

-----------------------------------------------------------------------------------------
-- EncodeDumpString and DecodeDumpString
-----------------------------------------------------------------------------------------

/-- The lowercase hexadecimal digit `HexStr` writes for a nibble. -/
def hexDigit (nibble : Nat) : UInt8 :=
  if nibble < 10 then UInt8.ofNat (48 + nibble) else UInt8.ofNat (87 + nibble)

/-- `HexStr` of a single byte: the digits of its high and low nibble. -/
def hexStr (c : UInt8) : List UInt8 := [hexDigit (c.toNat / 16), hexDigit (c.toNat % 16)]

/-- The bytes `EncodeDumpString` escapes: up to the space, from 128 on, and `%`. -/
def escapes (c : UInt8) : Bool := c.toNat ≤ 32 || c.toNat ≥ 128 || c == '%'.toUInt8

def encodeDumpString : List UInt8 → List UInt8
  | [] => []
  | c :: rest => (if escapes c then '%'.toUInt8 :: hexStr c else [c]) ++ encodeDumpString rest

/-- A `char` of the string promoted to `int`. `char` is signed on the x86 builds, so a byte from
128 on is sign-extended. -/
def promote (c : UInt8) : BitVec 32 := c.toBitVec.signExtend 32

/-- `(d >> 6) * 9 + ((d - '0') & 15)`: the nibble the decoder reads from the digit `d`. -/
def digitValue (d : UInt8) : BitVec 32 := (promote d).sshiftRight 6 * 9 + ((promote d - 48) &&& 15)

/-- The byte of an escape `%hl`: `(h << 4) | l`, stored in an `unsigned char`. -/
def decodeEscape (hi lo : UInt8) : UInt8 := ⟨((digitValue hi <<< 4) ||| digitValue lo).setWidth 8⟩

/-- `DecodeDumpString`: a `%` with at least two more bytes after it decodes them as an escape;
every other byte stays, a `%` among the last two bytes included. -/
def decodeDumpString : List UInt8 → List UInt8
  | c :: hi :: lo :: rest =>
      if c = '%'.toUInt8 then decodeEscape hi lo :: decodeDumpString rest
      else c :: decodeDumpString (hi :: lo :: rest)
  | str => str

@[simp] theorem decodeDumpString_escape (hi lo : UInt8) (rest : List UInt8) :
    decodeDumpString ('%'.toUInt8 :: hi :: lo :: rest) = decodeEscape hi lo :: decodeDumpString rest :=
  if_pos rfl

theorem decodeDumpString_cons {c : UInt8} (kept : c ≠ '%'.toUInt8) (rest : List UInt8) :
    decodeDumpString (c :: rest) = c :: decodeDumpString rest := by
  match rest with
  | [] | [_] => rfl
  | _ :: _ :: _ => exact if_neg kept

/-- The decoder's digit arithmetic reads back every nibble `HexStr` writes. -/
theorem digitValue_hexDigit : ∀ nibble < 16, digitValue (hexDigit nibble) = BitVec.ofNat 32 nibble := by
  decide

theorem hexDigit_printable : ∀ nibble < 16, 32 < (hexDigit nibble).toNat ∧ (hexDigit nibble).toNat < 128 := by
  decide

/-- An escape decodes to the byte it was written for. -/
theorem decodeEscape_hexStr (c : UInt8) :
    decodeEscape (hexDigit (c.toNat / 16)) (hexDigit (c.toNat % 16)) = c := by
  have combine : ∀ hi < 16, ∀ lo < 16,
      ((BitVec.ofNat 32 hi <<< 4) ||| BitVec.ofNat 32 lo).setWidth 8 = BitVec.ofNat 8 (hi * 16 + lo) := by
    decide
  have bound : c.toNat < 256 := c.toNat_lt_size
  unfold decodeEscape
  rw [digitValue_hexDigit _ (by omega), digitValue_hexDigit _ (by omega),
    combine _ (by omega) _ (by omega), Nat.div_add_mod']
  exact UInt8.eq_of_toBitVec_eq (by simp [UInt8.toNat])

theorem decodeDumpString_encodeDumpString (str : List UInt8) :
    decodeDumpString (encodeDumpString str) = str := by
  induction str with
  | nil => rfl
  | cons c rest ih =>
      by_cases escaped : escapes c
      · rw [encodeDumpString, if_pos escaped, hexStr, List.cons_append, List.cons_append,
          List.cons_append, List.nil_append, decodeDumpString_escape, decodeEscape_hexStr, ih]
      · have kept : c ≠ '%'.toUInt8 := by simp_all [escapes]
        rw [encodeDumpString, if_neg escaped, List.singleton_append, decodeDumpString_cons kept, ih]

theorem encodeDumpString_printable (str : List UInt8) :
    ∀ b ∈ encodeDumpString str, 32 < b.toNat ∧ b.toNat < 128 := by
  induction str with
  | nil => simp [encodeDumpString]
  | cons c rest ih =>
      intro b mem
      rw [encodeDumpString, List.mem_append] at mem
      rcases mem with here | later
      · have bound : c.toNat < 256 := c.toNat_lt_size
        split at here
        · simp only [hexStr, List.mem_cons, List.mem_singleton, List.not_mem_nil, or_false] at here
          rcases here with rfl | rfl | rfl
          · decide
          · exact hexDigit_printable _ (by omega)
          · exact hexDigit_printable _ (by omega)
        · rename_i kept
          simp only [List.mem_singleton] at here
          subst here
          simp only [escapes, Bool.or_eq_true, decide_eq_true_eq, not_or] at kept
          omega
      · exact ih b later

-----------------------------------------------------------------------------------------
-- Key lines
-----------------------------------------------------------------------------------------

/-- `pszBase58`, the alphabet of Base58 strings. -/
def base58Alphabet : List UInt8 := ascii "123456789ABCDEFGHJKLMNPQRSTUVWXYZabcdefghijkmnopqrstuvwxyz"

theorem base58Alphabet_plain : ∀ b ∈ base58Alphabet, b ≠ ' '.toUInt8 ∧ b ≠ '#'.toUInt8 := by
  decide

/-- The formats of a dump line other than `EncodeDumpString`, all outside src (`key_io.cpp`,
`base58.cpp`, `util/time.cpp`, `util/strencodings.cpp`), with what the dump relies on:
`DecodeSecret` reads back what `EncodeSecret` writes, `EncodeSecret` writes a non-empty Base58
string, and an ISO 8601 time has no space.
-/
structure DumpFormats (CKey : Type) where
  encodeSecret : CKey → List UInt8
  /-- `DecodeSecret`, with `none` for a key that is not `IsValid`. -/
  decodeSecret : List UInt8 → Option CKey
  formatISO8601DateTime : Int → List UInt8
  parseISO8601DateTime : List UInt8 → Int
  isHex : List UInt8 → Bool
  decodeSecret_encodeSecret : ∀ key, decodeSecret (encodeSecret key) = some key
  encodeSecret_base58 : ∀ key, encodeSecret key ≠ [] ∧ ∀ b ∈ encodeSecret key, b ∈ base58Alphabet
  formatISO8601DateTime_plain : ∀ nTime, ' '.toUInt8 ∉ formatISO8601DateTime nTime

/-- What `importwallet` collects from one line of a dump. -/
inductive DumpLine (CKey : Type)
  /-- An empty line, a comment, a line of one field, or a first field neither a key nor hex. -/
  | skipped
  /-- An entry of `keys`: the key, its time, `fLabel` and `strLabel`. -/
  | key (key : CKey) (nTime : Int) (fLabel : Bool) (strLabel : List UInt8)
  /-- An entry of `scripts`: the hex of the script, which `ParseHex` reads, and its birth time. -/
  | script (hex : List UInt8) (birthTime : Int)
  /-- `front()` of an empty field, which is undefined. -/
  | undefined
  deriving DecidableEq

/-- The field loop of `importwallet` from the third field on, carrying `fLabel` and `strLabel`:
it stops at a field that starts with `#`, `change=1` and `reserve=1` clear `fLabel`, and a
`label=` field sets the decoded label. `none` is `front()` of an empty field.
-/
def readLabel : List (List UInt8) → Bool → List UInt8 → Option (Bool × List UInt8)
  | [], fLabel, strLabel => some (fLabel, strLabel)
  | [] :: _, _, _ => none
  | (first :: more) :: rest, fLabel, strLabel =>
      if first = '#'.toUInt8 then some (fLabel, strLabel)
      else
        let field := first :: more
        let fLabel := if field = ascii "change=1" then false else fLabel
        let fLabel := if field = ascii "reserve=1" then false else fLabel
        if field.take 6 = ascii "label=" then readLabel rest true (decodeDumpString (field.drop 6))
        else readLabel rest fLabel strLabel

variable {CKey : Type}

/-- `importwallet` on one line of a dump, without its newline. The fields are those of
`boost::split` on spaces, so two spaces in a row give an empty field.
-/
def parseDumpLine (formats : DumpFormats CKey) : List UInt8 → DumpLine CKey
  | [] => .skipped
  | first :: more =>
      if first = '#'.toUInt8 then .skipped
      else
        match (first :: more).splitOn ' '.toUInt8 with
        | secret :: time :: fields =>
            match formats.decodeSecret secret with
            | some key =>
                match readLabel fields true [] with
                | some (fLabel, strLabel) =>
                    .key key (formats.parseISO8601DateTime time) fLabel strLabel
                | none => .undefined
            | none =>
                if formats.isHex secret then .script secret (formats.parseISO8601DateTime time)
                else .skipped
        | _ => .skipped

/-- The tag `dumpwallet` writes after a key's time: `label=` and the encoded name for a key of
the address book, `reserve=1` for a key of the key pool, `change=1` for any other.
-/
def keyTag (addressBookName : Option (List UInt8)) (inKeyPool : Bool) : List UInt8 :=
  match addressBookName with
  | some name => ascii "label=" ++ encodeDumpString name
  | none => if inKeyPool then ascii "reserve=1" else ascii "change=1"

/-- The line `dumpwallet` writes for a key it holds, without the newline: the secret, the time,
the tag, and a comment with the address and, for an HD key, its path.
-/
def dumpKeyLine (formats : DumpFormats CKey) (key : CKey) (nTime : Int)
    (addressBookName : Option (List UInt8)) (inKeyPool : Bool) (strAddr : List UInt8)
    (hdKeyPath : Option (List UInt8)) : List UInt8 :=
  formats.encodeSecret key ++ ascii " " ++ formats.formatISO8601DateTime nTime ++ ascii " "
    ++ keyTag addressBookName inKeyPool ++ ascii " # addr=" ++ strAddr
    ++ (hdKeyPath.map (ascii " hdkeypath=" ++ ·)).getD []

theorem splitOn_space {field : List UInt8} (plain : ' '.toUInt8 ∉ field) (rest : List UInt8) :
    (field ++ ' '.toUInt8 :: rest).splitOn ' '.toUInt8 = field :: rest.splitOn ' '.toUInt8 :=
  List.splitOnP_first _ field (fun _ mem => by simpa using ne_of_mem_of_not_mem mem plain) _
    (by simp) rest

theorem keyTag_plain (addressBookName : Option (List UInt8)) (inKeyPool : Bool) :
    ' '.toUInt8 ∉ keyTag addressBookName inKeyPool := by
  intro mem
  cases addressBookName with
  | some name =>
      rcases List.mem_append.mp mem with literal | encoded
      · revert literal; decide
      · have := encodeDumpString_printable name _ encoded
        revert this; decide
  | none => cases inKeyPool <;> revert mem <;> decide

/-- The field loop reads back the tag of a key line, up to the `#` of its comment. -/
theorem readLabel_keyTag (addressBookName : Option (List UInt8)) (inKeyPool : Bool)
    (comment : List UInt8) (rest : List (List UInt8)) :
    readLabel (keyTag addressBookName inKeyPool :: ('#'.toUInt8 :: comment) :: rest) true []
      = some (addressBookName.isSome, addressBookName.getD []) := by
  cases addressBookName with
  | some name =>
      simp [keyTag, readLabel, ascii, decodeDumpString_encodeDumpString]
  | none => cases inKeyPool <;> rfl

/-- A line whose first field decodes to a key is read as that key, with the time of the second
field and what the field loop makes of the rest.
-/
theorem parseDumpLine_key (formats : DumpFormats CKey) {line secret time : List UInt8}
    {fields : List (List UInt8)} {first : UInt8} {key : CKey} {fLabel : Bool}
    {strLabel : List UInt8} (front : line.head? = some first) (uncommented : first ≠ '#'.toUInt8)
    (split : line.splitOn ' '.toUInt8 = secret :: time :: fields)
    (decoded : formats.decodeSecret secret = some key)
    (labelled : readLabel fields true [] = some (fLabel, strLabel)) :
    parseDumpLine formats line = .key key (formats.parseISO8601DateTime time) fLabel strLabel := by
  cases line with
  | nil => cases front
  | cons first' more =>
      cases front
      simp only [parseDumpLine, if_neg uncommented, split, decoded, labelled]

/-- The fields of a key line: the secret, the time, the tag and the `#` of the comment. -/
theorem dumpKeyLine_splitOn (formats : DumpFormats CKey) (key : CKey) (nTime : Int)
    (addressBookName : Option (List UInt8)) (inKeyPool : Bool) (strAddr : List UInt8)
    (hdKeyPath : Option (List UInt8)) :
    (dumpKeyLine formats key nTime addressBookName inKeyPool strAddr hdKeyPath).splitOn ' '.toUInt8
      = formats.encodeSecret key :: formats.formatISO8601DateTime nTime
        :: keyTag addressBookName inKeyPool :: ['#'.toUInt8]
        :: (ascii "addr=" ++ strAddr ++ (hdKeyPath.map (ascii " hdkeypath=" ++ ·)).getD []).splitOn
          ' '.toUInt8 := by
  have space : ∀ rest, ascii " " ++ rest = ' '.toUInt8 :: rest := fun _ => rfl
  have comment : ∀ rest, ascii " # addr=" ++ rest
      = ' '.toUInt8 :: (['#'.toUInt8] ++ ' '.toUInt8 :: (ascii "addr=" ++ rest)) := fun _ => rfl
  have secretPlain : ' '.toUInt8 ∉ formats.encodeSecret key := fun mem =>
    (base58Alphabet_plain _ ((formats.encodeSecret_base58 key).2 _ mem)).1 rfl
  simp only [dumpKeyLine, List.append_assoc]
  rw [space, space, comment, splitOn_space secretPlain, splitOn_space (formats.formatISO8601DateTime_plain nTime),
    splitOn_space (keyTag_plain addressBookName inKeyPool), splitOn_space (by decide)]

theorem dump_label_round_trip :
    (∀ str, decodeDumpString (encodeDumpString str) = str)
      ∧ (∀ str, ∀ b ∈ encodeDumpString str, 32 < b.toNat ∧ b.toNat < 128)
      ∧ ∀ {CKey : Type} (formats : DumpFormats CKey) (key : CKey) (nTime : Int)
          (addressBookName : Option (List UInt8)) (inKeyPool : Bool) (strAddr : List UInt8)
          (hdKeyPath : Option (List UInt8)),
          parseDumpLine formats
              (dumpKeyLine formats key nTime addressBookName inKeyPool strAddr hdKeyPath)
            = .key key (formats.parseISO8601DateTime (formats.formatISO8601DateTime nTime))
                addressBookName.isSome (addressBookName.getD []) := by
  refine ⟨decodeDumpString_encodeDumpString, encodeDumpString_printable, ?_⟩
  intro CKey formats key nTime addressBookName inKeyPool strAddr hdKeyPath
  obtain ⟨nonempty, base58⟩ := formats.encodeSecret_base58 key
  obtain ⟨first, more, secret⟩ := List.exists_cons_of_ne_nil nonempty
  have front : (dumpKeyLine formats key nTime addressBookName inKeyPool strAddr hdKeyPath).head?
      = some first := by
    simp [dumpKeyLine, secret]
  exact parseDumpLine_key formats front
    (base58Alphabet_plain first (base58 first (by simp [secret]))).2
    (dumpKeyLine_splitOn formats key nTime addressBookName inKeyPool strAddr hdKeyPath)
    (formats.decodeSecret_encodeSecret key) (readLabel_keyTag addressBookName inKeyPool [] _)

/-- Formats with a unary secret, which meet every law: key `n` is written as `n + 1` ones. -/
def unaryFormats : DumpFormats Nat where
  encodeSecret key := List.replicate (key + 1) '1'.toUInt8
  decodeSecret secret :=
    if secret ≠ [] ∧ secret.all (· == '1'.toUInt8) then some (secret.length - 1) else none
  formatISO8601DateTime _ := ascii "0"
  parseISO8601DateTime _ := 0
  isHex _ := false
  decodeSecret_encodeSecret key := by simp
  encodeSecret_base58 key := ⟨by simp, fun b mem => by rw [List.eq_of_mem_replicate mem]; decide⟩
  formatISO8601DateTime_plain _ := by simp [ascii]

example : parseDumpLine unaryFormats
    (dumpKeyLine unaryFormats 2 0 (some (ascii "50% off #1")) false (ascii "yAddr") none)
      = .key 2 0 true (ascii "50% off #1") := by
  decide

end Wallet
