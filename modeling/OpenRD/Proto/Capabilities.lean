import OpenRD.Proto.Ciborium

/-!
# Capability advertisements and negotiation
-/

namespace OpenRD.Proto

open OpenRD.Foundation

structure Capabilities where
  protocolVersions : List UInt32
  profile : String
  authMethods : List String
  displayCodecs : List String
  displayMaxResolution : UInt32 × UInt32
  displayMaxFps : UInt32
  audioCodecs : List String
  clipboardTypes : List String
  fileMaxConcurrent : UInt32
  fileMaxSizePerTransfer : UInt64
  fileChunkSizeRange : UInt32 × UInt32
  clipboardMaxSize : UInt32
  resumptionWindowSeconds : UInt32
  transportFeatures : List String
  chatEnabled : Bool
  chatMaxAttachment : UInt32
  deriving DecidableEq, Repr

/-! ## CBOR helpers -/

def arrU32 (words : List UInt32) : Cbor :=
  .array (words.map fun n => .uint n.toUInt64)

def arrText (texts : List String) : Cbor := .array (texts.map .text)

def readU64 (value : Cbor) : Option UInt64 := value.asU64

def readArrU32 (value : Cbor) : List UInt32 :=
  match value.asArray with
  | some items => items.filterMap fun item => (readU64 item).map UInt64.toUInt32
  | none => []

def readArrText (value : Cbor) : List String :=
  match value.asArray with
  | some items => items.filterMap Cbor.asText
  | none => []

def readPair (value : Cbor) : Option (UInt64 × UInt64) := do
  match ← value.asArray with
  | [first, second] => some (← readU64 first, ← readU64 second)
  | _ => none

namespace Capabilities

def default : Capabilities where
  protocolVersions := [0]
  profile := "openrd-v0-base"
  authMethods := ["pin", "token"]
  displayCodecs := ["h264-baseline"]
  displayMaxResolution := (1920, 1080)
  displayMaxFps := 30
  audioCodecs := ["opus"]
  clipboardTypes := ["text/plain;charset=utf-8", "image/png"]
  fileMaxConcurrent := 4
  fileMaxSizePerTransfer := 16 * 1024 * 1024 * 1024
  fileChunkSizeRange := (4096, 4 * 1024 * 1024)
  clipboardMaxSize := 64 * 1024 * 1024
  resumptionWindowSeconds := 30
  transportFeatures := ["quic-datagrams"]
  chatEnabled := true
  chatMaxAttachment := 1024 * 1024

def toCbor (caps : Capabilities) : Cbor :=
  let chat := .map
    [(key 1, .bool caps.chatEnabled),
     (key 2, .uint caps.chatMaxAttachment.toUInt64)]
  let res := .array
    [.uint caps.displayMaxResolution.1.toUInt64,
     .uint caps.displayMaxResolution.2.toUInt64]
  let chunkRange := .array
    [.uint caps.fileChunkSizeRange.1.toUInt64,
     .uint caps.fileChunkSizeRange.2.toUInt64]
  .map
    [(key 1, arrU32 caps.protocolVersions),
     (key 2, .text caps.profile),
     (key 3, arrText caps.authMethods),
     (key 4, arrText caps.displayCodecs),
     (key 5, res),
     (key 6, .uint caps.displayMaxFps.toUInt64),
     (key 7, arrText caps.audioCodecs),
     (key 8, arrText caps.clipboardTypes),
     (key 9, .uint caps.fileMaxConcurrent.toUInt64),
     (key 10, .uint caps.fileMaxSizePerTransfer),
     (key 11, chunkRange),
     (key 12, .uint caps.clipboardMaxSize.toUInt64),
     (key 13, .uint caps.resumptionWindowSeconds.toUInt64),
     (key 14, arrText caps.transportFeatures),
     (key 16, chat)]

def chatFields : List (Field UInt64 Cbor Capabilities) :=
  [.keep 1 Cbor.asBool fun b out => { out with chatEnabled := b },
   .keep 2 readU64 fun n out => { out with chatMaxAttachment := n.toUInt32 }]

/-- The entries of a capability map; numbers narrow with `as u32`. -/
def fields : List (Field UInt64 Cbor Capabilities) :=
  [.replace 1 readArrU32 fun protocolVersions out => { out with protocolVersions },
   .keep 2 Cbor.asText fun profile out => { out with profile },
   .replace 3 readArrText fun authMethods out => { out with authMethods },
   .replace 4 readArrText fun displayCodecs out => { out with displayCodecs },
   .keep 5 readPair fun t out =>
    { out with displayMaxResolution := (t.1.toUInt32, t.2.toUInt32) },
   .keep 6 readU64 fun n out => { out with displayMaxFps := n.toUInt32 },
   .replace 7 readArrText fun audioCodecs out => { out with audioCodecs },
   .replace 8 readArrText fun clipboardTypes out => { out with clipboardTypes },
   .keep 9 readU64 fun n out => { out with fileMaxConcurrent := n.toUInt32 },
   .keep 10 readU64 fun n out => { out with fileMaxSizePerTransfer := n },
   .keep 11 readPair fun t out =>
    { out with fileChunkSizeRange := (t.1.toUInt32, t.2.toUInt32) },
   .keep 12 readU64 fun n out => { out with clipboardMaxSize := n.toUInt32 },
   .keep 13 readU64 fun n out => { out with resumptionWindowSeconds := n.toUInt32 },
   .replace 14 readArrText fun transportFeatures out => { out with transportFeatures },
   .keep 16 Cbor.asMap fun chat out => readFields Cbor.asU64 chatFields out chat]

/-- Missing and malformed entries leave the default. -/
def fromCbor : Cbor → Capabilities := readMap fields default

end Capabilities

/-! ## Negotiation -/

structure NegotiatedProfile where
  version : UInt32
  profile : String
  authMethods : List String
  displayCodec : String
  displayResolution : UInt32 × UInt32
  displayMaxFps : UInt32
  audioCodec : Option String
  clipboardTypes : List String
  fileMaxConcurrent : UInt32
  fileMaxSize : UInt64
  fileChunkSizeRange : UInt32 × UInt32
  clipboardMaxSize : UInt32
  resumptionWindow : UInt32
  transportFeatures : List String
  chatEnabled : Bool
  deriving DecidableEq, Repr

inductive NegotiationError where
  | noVersionOverlap
  | noAuthMethod
  | noDisplayCodec
  deriving DecidableEq, Repr

namespace NegotiatedProfile

def okOr {α : Type} (error : NegotiationError) : Option α → Except NegotiationError α
  | some value => .ok value
  | none => .error error

def negotiate (client server : Capabilities) :
    Except NegotiationError NegotiatedProfile := do
  let version ← okOr .noVersionOverlap
    (client.protocolVersions.filter (server.protocolVersions.contains ·)).max?
  let authMethods := server.authMethods.filter (client.authMethods.contains ·)
  if authMethods.isEmpty then
    throw .noAuthMethod
  let displayCodec ← okOr .noDisplayCodec
    (client.displayCodecs.find? (server.displayCodecs.contains ·))
  let audioCodec := client.audioCodecs.find? (server.audioCodecs.contains ·)
  return {
    version
    profile := server.profile
    authMethods
    displayCodec
    displayResolution :=
      (min client.displayMaxResolution.1 server.displayMaxResolution.1,
       min client.displayMaxResolution.2 server.displayMaxResolution.2)
    displayMaxFps := min client.displayMaxFps server.displayMaxFps
    audioCodec
    clipboardTypes :=
      server.clipboardTypes.filter (client.clipboardTypes.contains ·)
    fileMaxConcurrent := min client.fileMaxConcurrent server.fileMaxConcurrent
    fileMaxSize := min client.fileMaxSizePerTransfer server.fileMaxSizePerTransfer
    fileChunkSizeRange :=
      (max client.fileChunkSizeRange.1 server.fileChunkSizeRange.1,
       min client.fileChunkSizeRange.2 server.fileChunkSizeRange.2)
    clipboardMaxSize := min client.clipboardMaxSize server.clipboardMaxSize
    resumptionWindow :=
      min client.resumptionWindowSeconds server.resumptionWindowSeconds
    transportFeatures :=
      server.transportFeatures.filter (client.transportFeatures.contains ·)
    chatEnabled := client.chatEnabled && server.chatEnabled }

end NegotiatedProfile

/-! ## The wire form carries every field -/

@[simp] theorem readU64_uint (n : UInt64) : readU64 (.uint n) = some n :=
  Cbor.asU64_uint n

@[simp] theorem toUInt32_toUInt64 (n : UInt32) : n.toUInt64.toUInt32 = n := by
  simp

@[simp] theorem readArrU32_arrU32 (words : List UInt32) :
    readArrU32 (arrU32 words) = words := by
  simp [readArrU32, arrU32, List.filterMap_map]

@[simp] theorem readArrText_arrText (texts : List String) :
    readArrText (arrText texts) = texts := by
  simp [readArrText, arrText, List.filterMap_map, Function.comp_def]

@[simp] theorem readPair_uints (first second : UInt64) :
    readPair (.array [.uint first, .uint second]) = some (first, second) := by
  simp [readPair]

theorem Capabilities.fromCbor_toCbor (caps : Capabilities) :
    fromCbor caps.toCbor = caps := by
  simp [fromCbor, toCbor, readMap, readFields, storeField, fields, chatFields,
    Field.keep, Field.replace]

/-- The peers' default advertisements always have a session in common. -/
example : (NegotiatedProfile.negotiate .default .default).toOption.map
    NegotiatedProfile.displayCodec = some "h264-baseline" := by decide

end OpenRD.Proto
