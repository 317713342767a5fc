import OpenRD.Foundation.CborWire
import OpenRD.Foundation.FieldTable
import OpenRD.Proto.Error

/-!
# The CBOR library and the readers written over it

`Ciborium` stands for the CBOR library both peers use.  All that is asked of it
is, where a result needs it, that a certain value survives being written and read.
-/

namespace OpenRD.Proto

open OpenRD.Foundation

structure Ciborium where
  /-- `ciborium::ser::into_writer` into an empty vector. -/
  intoWriter : Cbor → Except String (List UInt8)
  /-- `ciborium::de::from_reader` of a byte slice. -/
  fromReader : List UInt8 → Except String Cbor

namespace Ciborium

/-- `value` is written without an error and read back as it was. -/
def Lossless (cib : Ciborium) (value : Cbor) : Prop :=
  ∃ payload, cib.intoWriter value = .ok payload ∧ cib.fromReader payload = .ok value

/-- Into a vector, every value is written. -/
def Writes (cib : Ciborium) : Prop :=
  ∀ value, ∃ payload, cib.intoWriter value = .ok payload

/-- The library as RFC 8949 has it, for definite-length items. -/
def rfc8949 : Ciborium where
  intoWriter value := .ok (CborWire.encode value)
  fromReader payload :=
    match CborWire.decode payload with
    | some (value, _) => .ok value
    | none => .error "malformed item"

def write (cib : Ciborium) (value : Cbor) : Except Error (List UInt8) :=
  match cib.intoWriter value with
  | .ok payload => .ok payload
  | .error text => .error (.cbor text)

def read (cib : Ciborium) (payload : List UInt8) : Except Error Cbor :=
  match cib.fromReader payload with
  | .ok value => .ok value
  | .error text => .error (.cbor text)

@[simp] theorem write_eq_ok {cib : Ciborium} {value : Cbor} {payload : List UInt8} :
    cib.write value = .ok payload ↔ cib.intoWriter value = .ok payload := by
  unfold write
  split <;> simp_all

@[simp] theorem read_eq_ok {cib : Ciborium} {payload : List UInt8} {value : Cbor} :
    cib.read payload = .ok value ↔ cib.fromReader payload = .ok value := by
  unfold read
  split <;> simp_all

section Results

variable {cib : Ciborium} {text : String} {payload : List UInt8} {value : Cbor} {error : Error}

theorem decoded_of_ok (h : withContext text (cib.read payload) = .ok value) :
    (cib.fromReader payload).toOption = some value := by
  rw [read_eq_ok.mp (withContext_eq_ok.mp h)]
  rfl

theorem decoded_of_error (h : withContext text (cib.read payload) = .error error) :
    (cib.fromReader payload).toOption = none := by
  unfold read at h
  cases hread : cib.fromReader payload with
  | ok value =>
      rw [hread] at h
      cases h
  | error text => rfl

theorem encoded_of_ok (h : cib.write value = .ok payload) :
    (cib.intoWriter value).toOption = some payload := by
  rw [write_eq_ok.mp h]
  rfl

theorem encoded_of_error (h : cib.write value = .error error) :
    (cib.intoWriter value).toOption = none := by
  unfold write at h
  cases hwritten : cib.intoWriter value with
  | ok payload =>
      rw [hwritten] at h
      cases h
  | error text => rfl

end Results

theorem rfc8949_fromReader {value : Cbor}
    (h : (CborWire.encode value).length < 2 ^ 64) (rest : List UInt8) :
    rfc8949.fromReader (CborWire.encode value ++ rest) = .ok value := by
  simp only [rfc8949, CborWire.decode_encode h]

theorem rfc8949_read {value : Cbor} (h : (CborWire.encode value).length < 2 ^ 64) :
    rfc8949.fromReader (CborWire.encode value) = .ok value := by
  simpa using rfc8949_fromReader h []

theorem rfc8949_writes : rfc8949.Writes :=
  fun value => ⟨CborWire.encode value, rfl⟩

theorem rfc8949_lossless {value : Cbor}
    (h : (CborWire.encode value).length < 2 ^ 64) : rfc8949.Lossless value :=
  ⟨CborWire.encode value, rfl, rfc8949_read h⟩

end Ciborium

/-! ## Maps keyed by short integers -/

def key (n : UInt32) : Cbor := .uint n.toUInt64

@[simp] theorem asU64_key (n : UInt32) : (key n).asU64 = some n.toUInt64 :=
  Cbor.asU64_uint _

theorem key_inj {n m : UInt32} : key n = key m ↔ n = m := by
  constructor
  · intro h
    have hwide : n.toUInt64 = m.toUInt64 := by simpa using congrArg Cbor.asU64 h
    simpa using congrArg UInt64.toUInt32 hwide
  · rintro rfl
    rfl

variable {S : Type}

/--
The reading loop over `as_map()`: keys that are not unsigned integers are skipped,
and a value that is not a map leaves `start` as it is.
-/
def readMap (fields : List (Field UInt64 Cbor S)) (start : S) (v : Cbor) : S :=
  match v.asMap with
  | some map => readFields Cbor.asU64 fields start map
  | none => start

def readMapOr (notMap : String) (fields : List (Field UInt64 Cbor S)) (start : S)
    (v : Cbor) : Except Error S :=
  match v.asMap with
  | some map => .ok (readFields Cbor.asU64 fields start map)
  | none => .error (.msg notMap)

/--
`v` is a map with the entries of the map `sent` in any order, and anywhere among
them entries under keys other than the unsigned integers in `known`.
-/
def ExtendsMap (known : List UInt64) (sent v : Cbor) : Prop :=
  ∃ entries extra carrier, sent = .map entries ∧ v = .map carrier ∧
    (∀ entry ∈ extra, ∀ n ∈ known, entry.1 ≠ .uint n) ∧
    carrier.Perm (entries ++ extra)

theorem ExtendsMap.refl (known : List UInt64) (entries : List (Cbor × Cbor)) :
    ExtendsMap known (.map entries) (.map entries) :=
  ⟨entries, [], entries, rfl, rfl, by simp, by simp⟩

def DistinctlyKeyed (sent : Cbor) : Prop :=
  ∃ entries, sent = .map entries ∧ DistinctKeys Cbor.asU64 entries

theorem readFields_extendsMap {fields : List (Field UInt64 Cbor S)}
    (hseparate : Separate fields) {sent v : Cbor} (hdistinct : DistinctlyKeyed sent)
    (h : ExtendsMap (fields.map Field.key) sent v) (start : S) :
    ∃ entries carrier, sent = .map entries ∧ v = .map carrier ∧
      readFields Cbor.asU64 fields start carrier =
        readFields Cbor.asU64 fields start entries := by
  obtain ⟨entries, extra, carrier, rfl, rfl, hextra, hperm⟩ := h
  obtain ⟨_, hentries, hdistinct⟩ := hdistinct
  cases hentries
  refine ⟨entries, carrier, rfl, rfl, ?_⟩
  refine readFields_extends hseparate hdistinct ⟨extra, ?_, hperm⟩ start
  intro entry hmem n hn hkey
  exact hextra entry hmem n hn (Cbor.asU64_eq_some.mp hkey)

theorem readMap_extendsMap {fields : List (Field UInt64 Cbor S)}
    (hseparate : Separate fields) {sent v : Cbor} (hdistinct : DistinctlyKeyed sent)
    (h : ExtendsMap (fields.map Field.key) sent v) (start : S) :
    readMap fields start v = readMap fields start sent := by
  obtain ⟨entries, carrier, rfl, rfl, hread⟩ :=
    readFields_extendsMap hseparate hdistinct h start
  exact hread

theorem readMapOr_extendsMap (notMap : String) {fields : List (Field UInt64 Cbor S)}
    (hseparate : Separate fields) {sent v : Cbor} (hdistinct : DistinctlyKeyed sent)
    (h : ExtendsMap (fields.map Field.key) sent v) (start : S) :
    readMapOr notMap fields start v = readMapOr notMap fields start sent := by
  obtain ⟨entries, carrier, rfl, rfl, hread⟩ :=
    readFields_extendsMap hseparate hdistinct h start
  simp only [readMapOr, Cbor.asMap_map, hread]

end OpenRD.Proto
