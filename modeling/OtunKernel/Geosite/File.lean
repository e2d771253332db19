import Mathlib.Data.List.AList
import OtunKernel.Lib.Buffered

namespace OtunKernel.Geosite

open Lib

structure Item where
  itemType : UInt8
  value : Bytes
deriving DecidableEq

inductive GeositeError where
  | eof
  | unexpectedEOF
  | overflow
  | unknownVersion
  | notExists (code : Bytes)
  | negativePosition
deriving DecidableEq

abbrev GoMap (ν : Type) := AList (fun _ : Bytes => ν)

-- What the code takes from outside: the largest object, the pieces in which
-- the file is read, and the order of the range over a map with these keys.
structure Env where
  maxAlloc : Nat
  addressable : maxAlloc < 2 ^ 63
  pieces : Nat → Nat
  ranged : List Bytes → List Bytes
  ranged_perm : ∀ keys, (ranged keys).Perm keys

def Env.feed (env : Env) : Feed := ⟨4096, by decide, env.pieces⟩

def stringSize : Nat := 16
def itemSize : Nat := 24

def goInt (value : Int) : Int := value.bmod (2 ^ 64)

def writeString (value : Bytes) : Bytes := putUvarint value.length ++ value

def writeItem (item : Item) : Bytes := item.itemType :: writeString item.value

def itemsOf (domains : GoMap (List Item)) (code : Bytes) : List Item := (domains.lookup code).getD []

def writeContent (domains : GoMap (List Item)) (keys : List Bytes) (start : Bytes × GoMap Nat) : Bytes × GoMap Nat :=
  keys.foldl (fun (content, index) code =>
    (content ++ (itemsOf domains code).flatMap writeItem, index.insert code content.length)) start

def writeEntry (domains : GoMap (List Item)) (index : GoMap Nat) (code : Bytes) : Bytes :=
  writeString code ++ putUvarint ((index.lookup code).getD 0) ++ putUvarint (itemsOf domains code).length

def sortedKeys (env : Env) (domains : GoMap (List Item)) : List Bytes :=
  (env.ranged domains.keys).mergeSort (fun a b => decide (a ≤ b))

def write (env : Env) (domains : GoMap (List Item)) : Bytes :=
  let keys := sortedKeys env domains
  let written := writeContent domains keys ([], ∅)
  0 :: (putUvarint keys.length ++ keys.flatMap (writeEntry domains written.2) ++ written.1)

def onEnd (_ : Option GeositeError) (nothing : Bool) : GeositeError := if nothing then .eof else .unexpectedEOF

def readByte : Decoder GeositeError UInt8 := .take 1 (fun _ _ => .eof) (fun bytes => .done (bytes.getD 0 0))

def readUvarint : Decoder GeositeError Nat := decodeUvarint onEnd .overflow

def makeSlice (length size : Nat) : Decoder GeositeError Unit := .make (length * size) (.done ())

def readString : Decoder GeositeError Bytes := do
  let length ← readUvarint
  makeSlice length 1
  Decoder.times (fun _ => readByte) length 0

def readEntry : Decoder GeositeError (Bytes × Int × Int) := do
  let code ← readString
  let codeIndex ← readUvarint
  let codeLength ← readUvarint
  .done (code, goInt codeIndex, goInt codeLength)

def readEntries : Decoder GeositeError (GoMap Int × GoMap Int) := do
  let version ← readByte
  if version ≠ 0 then .fail .unknownVersion
  else do
    let entryLength ← readUvarint
    makeSlice entryLength stringSize
    let entries ← Decoder.times (fun _ => readEntry) (goInt entryLength).toNat 0
    .done (entries.foldl (fun (domainIndex, domainLength) (code, codeIndex, codeLength) =>
      (domainIndex.insert code codeIndex, domainLength.insert code codeLength)) (∅, ∅))

structure Reader where
  source : Buffered
  metadataIndex : Int
  domainIndex : GoMap Int
  domainLength : GoMap Int

def readMetadata (env : Env) (file : Bytes) : Outcome GeositeError Reader :=
  let (result, source) := readEntries.runBuffered env.maxAlloc env.feed { content := file }
  do
    let (domainIndex, domainLength) ← result
    return { source, metadataIndex := (source.count : Int) - source.buffer.length, domainIndex, domainLength }

def newReader (env : Env) (file : Bytes) : Outcome GeositeError (Reader × List Bytes) := do
  let reader ← readMetadata env file
  return (reader, env.ranged reader.domainIndex.keys)

def readItem : Decoder GeositeError Item := do
  let typeByte ← readByte
  let value ← readString
  .done ⟨typeByte, value⟩

-- make takes a negative length for one beyond every limit.
def readItems (length : Int) : Decoder GeositeError (List Item) := do
  makeSlice (length % 2 ^ 64).toNat itemSize
  Decoder.times (fun _ => readItem) length.toNat 0

namespace Reader

def read (env : Env) (reader : Reader) (code : Bytes) : Outcome GeositeError (List Item) × Reader :=
  match reader.domainIndex.lookup code with
  | none => (.error (.notExists code), reader)
  | some index =>
    let offset := goInt (reader.metadataIndex + index)
    if offset < 0 then (.error .negativePosition, reader)
    else
      let (result, source) := (readItems ((reader.domainLength.lookup code).getD 0)).runBuffered env.maxAlloc env.feed
        (reader.source.seek offset.toNat)
      (result, { reader with source })

-- Read holds the mutex to its end, so any calls are calls one after another.
def reads (env : Env) : Reader → List Bytes → List (Outcome GeositeError (List Item))
  | _, [] => []
  | reader, code :: later => (reader.read env code).1 :: (reader.read env code).2.reads env later

end Reader

end OtunKernel.Geosite
