import OpenRD.Foundation.Cbor
import OpenRD.Foundation.LittleEndian
import OpenRD.Foundation.Utf8

/-!
# CBOR on the wire

The definite-length items of RFC 8949: heads in their shortest form, floats in
their 64-bit form, text as UTF-8.  The reader accepts heads of any width.
-/

namespace OpenRD.Foundation

namespace CborWire

/-! ## Heads -/

def toBeBytes (width n : Nat) : List UInt8 := (toLeBytes width n).reverse

def ofBeBytes (bytes : List UInt8) : Nat := ofLeBytes bytes.reverse

@[simp] theorem length_toBeBytes (width n : Nat) :
    (toBeBytes width n).length = width := by
  simp [toBeBytes]

theorem toBeBytes_zero (width : Nat) : toBeBytes width 0 = List.replicate width 0 := by
  rw [toBeBytes, toLeBytes_zero, List.reverse_replicate]

theorem ofBeBytes_toBeBytes {width n : Nat} (h : n < 256 ^ width) :
    ofBeBytes (toBeBytes width n) = n := by
  rw [ofBeBytes, toBeBytes, List.reverse_reverse, ofLeBytes_toLeBytes h]

theorem toBeBytes_ofBeBytes (bytes : List UInt8) :
    toBeBytes bytes.length (ofBeBytes bytes) = bytes := by
  rw [toBeBytes, ofBeBytes, ← List.length_reverse, toLeBytes_ofLeBytes, List.reverse_reverse]

theorem ofBeBytes_lt (bytes : List UInt8) : ofBeBytes bytes < 256 ^ bytes.length := by
  simpa [ofBeBytes] using ofLeBytes_lt bytes.reverse

structure Head where
  major : Nat
  info : Nat
  argument : Nat
  deriving DecidableEq, Repr

def initialByte (major info : Nat) : UInt8 := UInt8.ofNat (32 * major + info)

def argumentWidth : Nat → Option Nat
  | 24 => some 1
  | 25 => some 2
  | 26 => some 4
  | 27 => some 8
  | _ => none

/-- The low bits of the shortest head for an argument. -/
def shortestInfo (argument : Nat) : Nat :=
  if argument < 24 then argument
  else if argument < 2 ^ 8 then 24
  else if argument < 2 ^ 16 then 25
  else if argument < 2 ^ 32 then 26
  else 27

/-- The bytes after the initial one. -/
def argumentBytes (info argument : Nat) : List UInt8 :=
  match argumentWidth info with
  | some width => toBeBytes width argument
  | none => []

/-- A head with the given low bits, which spell the argument or say how wide it is. -/
def spelledHead (major info argument : Nat) : List UInt8 :=
  initialByte major info :: argumentBytes info argument

def encodeHead (major argument : Nat) : List UInt8 :=
  spelledHead major (shortestInfo argument) argument

/-- The low bits of some head spell this argument. -/
def Fits (info argument : Nat) : Prop :=
  (info < 24 ∧ argument = info) ∨
    ∃ width, argumentWidth info = some width ∧ argument < 256 ^ width

def decodeHead : List UInt8 → Option (Head × List UInt8)
  | [] => none
  | initial :: bytes =>
      let major := initial.toNat / 32
      let info := initial.toNat % 32
      if info < 24 then some (⟨major, info, info⟩, bytes)
      else
        match argumentWidth info with
        | some width =>
            if width ≤ bytes.length then
              some (⟨major, info, ofBeBytes (bytes.take width)⟩, bytes.drop width)
            else none
        | none => none

theorem toNat_initialByte {major info : Nat} (hmajor : major < 8) (hinfo : info < 32) :
    (initialByte major info).toNat / 32 = major ∧
      (initialByte major info).toNat % 32 = info := by
  rw [initialByte, UInt8.toNat_ofNat']
  omega

theorem argumentWidth_of_lt {info : Nat} (h : info < 24) : argumentWidth info = none := by
  unfold argumentWidth
  split <;> first | omega | rfl

theorem argumentBytes_of_width {info width : Nat} (h : argumentWidth info = some width)
    (argument : Nat) : argumentBytes info argument = toBeBytes width argument := by
  rw [argumentBytes, h]

theorem info_of_width {info width : Nat} (h : argumentWidth info = some width) :
    24 ≤ info ∧ info < 28 := by
  unfold argumentWidth at h
  split at h <;> first | omega | cases h

theorem Fits.info_lt {info argument : Nat} (h : Fits info argument) : info < 28 := by
  rcases h with ⟨hsmall, -⟩ | ⟨width, hwidth, -⟩
  · omega
  · exact (info_of_width hwidth).2

theorem decodeHead_spelledHead {major info argument : Nat} (hmajor : major < 8)
    (h : Fits info argument) (rest : List UInt8) :
    decodeHead (spelledHead major info argument ++ rest) =
      some (⟨major, info, argument⟩, rest) := by
  have hinfo := h.info_lt
  obtain ⟨hdiv, hmod⟩ := toNat_initialByte hmajor (by omega : info < 32)
  rcases h with ⟨hsmall, rfl⟩ | ⟨width, hwidth, hargument⟩
  · rw [spelledHead, argumentBytes, argumentWidth_of_lt hsmall]
    simp only [List.cons_append, List.nil_append, decodeHead, hdiv, hmod, if_pos hsmall]
  · have hlarge := (info_of_width hwidth).1
    simp only [spelledHead, argumentBytes, List.cons_append, decodeHead, hdiv, hmod, hwidth]
    rw [if_neg (by omega), if_pos (by simp),
      List.take_left' (length_toBeBytes width argument),
      List.drop_left' (length_toBeBytes width argument), ofBeBytes_toBeBytes hargument]

theorem fits_shortestInfo {argument : Nat} (h : argument < 2 ^ 64) :
    Fits (shortestInfo argument) argument := by
  unfold shortestInfo
  by_cases h24 : argument < 24
  · rw [if_pos h24]
    exact .inl ⟨h24, rfl⟩
  · rw [if_neg h24]
    split
    · exact .inr ⟨1, rfl, by omega⟩
    · split
      · exact .inr ⟨2, rfl, by omega⟩
      · split
        · exact .inr ⟨4, rfl, by omega⟩
        · exact .inr ⟨8, rfl, by omega⟩

theorem decodeHead_encodeHead {major argument : Nat} (hmajor : major < 8)
    (hargument : argument < 2 ^ 64) (rest : List UInt8) :
    decodeHead (encodeHead major argument ++ rest) =
      some (⟨major, shortestInfo argument, argument⟩, rest) :=
  decodeHead_spelledHead hmajor (fits_shortestInfo hargument) rest

/-- How many bytes the shortest head for an argument takes. -/
def headSize (argument : Nat) : Nat :=
  if argument < 24 then 1
  else if argument < 2 ^ 8 then 2
  else if argument < 2 ^ 16 then 3
  else if argument < 2 ^ 32 then 5
  else 9

@[simp] theorem length_encodeHead (major argument : Nat) :
    (encodeHead major argument).length = headSize argument := by
  unfold encodeHead spelledHead argumentBytes headSize
  by_cases h24 : argument < 24
  · simp [shortestInfo, h24, argumentWidth_of_lt h24]
  · unfold shortestInfo
    rw [if_neg h24, if_neg h24]
    split
    · simp [argumentWidth]
    · split
      · simp [argumentWidth]
      · split <;> simp [argumentWidth]

/-- The heads that spell an argument, shortest or not. -/
def IsHead (major argument : Nat) (head : List UInt8) : Prop :=
  ∃ info, decodeHead head = some (⟨major, info, argument⟩, [])

def IsShortestHead (major argument : Nat) (head : List UInt8) : Prop :=
  IsHead major argument head ∧ ∀ other, IsHead major argument other → head.length ≤ other.length

/-- An argument spelled out in `width` bytes has a head at least as short. -/
theorem headSize_le {info width argument : Nat} (hwidth : argumentWidth info = some width)
    (hargument : argument < 256 ^ width) : headSize argument ≤ 1 + width := by
  unfold argumentWidth at hwidth
  unfold headSize
  split at hwidth <;> cases hwidth <;> grind

theorem headSize_le_of_isHead {major argument : Nat} {head : List UInt8}
    (h : IsHead major argument head) : headSize argument ≤ head.length := by
  obtain ⟨info, hdecode⟩ := h
  cases head with
  | nil => cases hdecode
  | cons initial bytes =>
      simp only [decodeHead] at hdecode
      split at hdecode
      · next hsmall =>
          cases hdecode
          simp [headSize, hsmall]
      · split at hdecode
        · next width hwidth =>
            split at hdecode
            · next hroom =>
                obtain ⟨hhead, hrest⟩ := Prod.mk.inj (Option.some.inj hdecode)
                obtain ⟨-, -, hvalue⟩ := Head.mk.inj hhead
                have hlength : bytes.length = width := by
                  have hleft := congrArg List.length hrest
                  rw [List.length_drop, List.length_nil] at hleft
                  omega
                have hfits : argument < 256 ^ width := by
                  rw [← hvalue, ← hlength, List.take_length]
                  exact ofBeBytes_lt bytes
                rw [List.length_cons, hlength, Nat.add_comm]
                exact headSize_le hwidth hfits
            · cases hdecode
        · cases hdecode

theorem isShortestHead_encodeHead {major argument : Nat} (hmajor : major < 8)
    (hargument : argument < 2 ^ 64) :
    IsShortestHead major argument (encodeHead major argument) := by
  constructor
  · have hdecode := decodeHead_encodeHead hmajor hargument []
    rw [List.append_nil] at hdecode
    exact ⟨_, hdecode⟩
  · intro other hother
    rw [length_encodeHead]
    exact headSize_le_of_isHead hother

/-! ## Items -/

/-- The magnitude of an integer's head: `n` itself, or `-1 - n` if negative. -/
def magnitude (n : CborInt) : Nat := (if 0 ≤ n.value then n.value else -1 - n.value).toNat

mutual

def encode : Cbor → List UInt8
  | .integer n => encodeHead (if 0 ≤ n.value then 0 else 1) (magnitude n)
  | .bytes contents => encodeHead 2 contents.length ++ contents
  | .text contents => encodeHead 3 (utf8 contents).length ++ utf8 contents
  | .array items => encodeHead 4 items.length ++ encodeItems items
  | .map entries => encodeHead 5 entries.length ++ encodeEntries entries
  | .tag number value => encodeHead 6 number.toNat ++ encode value
  | .bool b => [initialByte 7 (if b then 21 else 20)]
  | .null => [initialByte 7 22]
  | .float bits => initialByte 7 27 :: toBeBytes 8 bits.toNat

def encodeItems : List Cbor → List UInt8
  | [] => []
  | item :: items => encode item ++ encodeItems items

def encodeEntry : Cbor × Cbor → List UInt8
  | (key, value) => encode key ++ encode value

def encodeEntries : List (Cbor × Cbor) → List UInt8
  | [] => []
  | entry :: entries => encodeEntry entry ++ encodeEntries entries

end

def nonnegative (n : Nat) (h : n < 2 ^ 64) : CborInt where
  value := n
  lower := by omega
  upper := by omega

def negative (n : Nat) (h : n < 2 ^ 64) : CborInt where
  value := -1 - n
  lower := by omega
  upper := by omega

def takeBytes (count : Nat) (bytes : List UInt8) : Option (List UInt8 × List UInt8) :=
  if count ≤ bytes.length then some (bytes.take count, bytes.drop count) else none

mutual

def decodeFuel : Nat → List UInt8 → Option (Cbor × List UInt8)
  | 0, _ => none
  | fuel + 1, bytes => do
      let (head, rest) ← decodeHead bytes
      match head.major with
      | 0 =>
          if h : head.argument < 2 ^ 64 then
            some (.integer (nonnegative head.argument h), rest)
          else none
      | 1 =>
          if h : head.argument < 2 ^ 64 then
            some (.integer (negative head.argument h), rest)
          else none
      | 2 => do
          let (contents, rest) ← takeBytes head.argument rest
          some (.bytes contents, rest)
      | 3 => do
          let (contents, rest) ← takeBytes head.argument rest
          some (.text (← ofUtf8? contents), rest)
      | 4 => do
          let (items, rest) ← decodeItemsFuel fuel head.argument rest
          some (.array items, rest)
      | 5 => do
          let (entries, rest) ← decodeEntriesFuel fuel head.argument rest
          some (.map entries, rest)
      | 6 => do
          let (value, rest) ← decodeFuel fuel rest
          some (.tag (UInt64.ofNat head.argument) value, rest)
      | 7 =>
          match head.info with
          | 20 => some (.bool false, rest)
          | 21 => some (.bool true, rest)
          | 22 => some (.null, rest)
          | 23 => some (.null, rest)
          | 27 => some (.float (UInt64.ofNat head.argument), rest)
          | _ => none
      | _ => none

def decodeItemsFuel : Nat → Nat → List UInt8 → Option (List Cbor × List UInt8)
  | _, 0, bytes => some ([], bytes)
  | 0, _ + 1, _ => none
  | fuel + 1, count + 1, bytes => do
      let (item, rest) ← decodeFuel fuel bytes
      let (items, rest) ← decodeItemsFuel fuel count rest
      some (item :: items, rest)

def decodeEntriesFuel :
    Nat → Nat → List UInt8 → Option (List (Cbor × Cbor) × List UInt8)
  | _, 0, bytes => some ([], bytes)
  | 0, _ + 1, _ => none
  | fuel + 1, count + 1, bytes => do
      let (key, rest) ← decodeFuel fuel bytes
      let (value, rest) ← decodeFuel fuel rest
      let (entries, rest) ← decodeEntriesFuel fuel count rest
      some ((key, value) :: entries, rest)

end

/-- Every level of nesting takes at least one byte. -/
def decode (bytes : List UInt8) : Option (Cbor × List UInt8) :=
  decodeFuel (2 * bytes.length + 1) bytes

/-! ## Reading back what was written -/

theorem encodeHead_length_pos (major argument : Nat) :
    0 < (encodeHead major argument).length := Nat.succ_pos _

theorem encode_length_pos (value : Cbor) : 0 < (encode value).length := by
  cases value with
  | integer n => exact encodeHead_length_pos _ _
  | bool b => simp [encode]
  | null => simp [encode]
  | float bits => simp [encode]
  | bytes contents | text contents | array items | map entries | tag number value =>
      simp only [encode, List.length_append]
      have := encodeHead_length_pos
      grind

theorem length_le_encodeItems (items : List Cbor) :
    items.length ≤ (encodeItems items).length := by
  induction items with
  | nil => simp
  | cons item items ih =>
      have := encode_length_pos item
      simp only [encodeItems, List.length_append, List.length_cons]
      omega

theorem length_le_encodeEntries (entries : List (Cbor × Cbor)) :
    entries.length ≤ (encodeEntries entries).length := by
  induction entries with
  | nil => simp
  | cons entry entries ih =>
      obtain ⟨key, value⟩ := entry
      have := encode_length_pos key
      simp only [encodeEntries, encodeEntry, List.length_append, List.length_cons]
      omega

theorem magnitude_lt (n : CborInt) : magnitude n < 2 ^ 64 := by
  have := n.lower
  have := n.upper
  unfold magnitude
  split <;> omega

theorem takeBytes_append (contents rest : List UInt8) :
    takeBytes contents.length (contents ++ rest) = some (contents, rest) := by
  simp [takeBytes]

mutual

theorem decodeFuel_suffix (value : Cbor) (rest : List UInt8) (fuel : Nat)
    (hsize : (encode value).length < 2 ^ 64)
    (hfuel : 2 * (encode value).length ≤ fuel + 1) :
    decodeFuel fuel (encode value ++ rest) = some (value, rest) := by
  have hpos := encode_length_pos value
  obtain ⟨fuel, rfl⟩ : ∃ n, fuel = n + 1 := ⟨fuel - 1, by omega⟩
  cases value with
  | integer n =>
      have hbound : magnitude n < 2 ^ 64 := magnitude_lt n
      simp only [encode, decodeFuel, Option.bind_eq_bind]
      rw [decodeHead_encodeHead (by split <;> omega) hbound]
      by_cases hneg : 0 ≤ n.value
      · have hvalue : nonnegative (magnitude n) hbound = n := by
          ext
          simp only [nonnegative, magnitude, if_pos hneg]
          omega
        simpa [hneg, hvalue] using hbound
      · have hvalue : negative (magnitude n) hbound = n := by
          ext
          simp only [negative, magnitude, if_neg hneg]
          omega
        simpa [hneg, hvalue] using hbound
  | bytes contents =>
      simp only [encode, List.length_append] at hsize
      simp only [encode, decodeFuel, Option.bind_eq_bind, List.append_assoc]
      rw [decodeHead_encodeHead (by omega) (by omega)]
      simp [takeBytes_append]
  | text contents =>
      simp only [encode, List.length_append] at hsize
      simp only [encode, decodeFuel, Option.bind_eq_bind, List.append_assoc]
      rw [decodeHead_encodeHead (by omega) (by omega)]
      simp [takeBytes_append]
  | array items =>
      have hlen := length_le_encodeItems items
      have hhead := encodeHead_length_pos 4 items.length
      simp only [encode, List.length_append] at hsize hfuel
      simp only [encode, decodeFuel, Option.bind_eq_bind, List.append_assoc]
      rw [decodeHead_encodeHead (by omega) (by omega)]
      simp [decodeItemsFuel_suffix items rest fuel (by omega) (by omega)]
  | map entries =>
      have hlen := length_le_encodeEntries entries
      have hhead := encodeHead_length_pos 5 entries.length
      simp only [encode, List.length_append] at hsize hfuel
      simp only [encode, decodeFuel, Option.bind_eq_bind, List.append_assoc]
      rw [decodeHead_encodeHead (by omega) (by omega)]
      simp [decodeEntriesFuel_suffix entries rest fuel (by omega) (by omega)]
  | tag number value =>
      have hhead := encodeHead_length_pos 6 number.toNat
      simp only [encode, List.length_append] at hsize hfuel
      simp only [encode, decodeFuel, Option.bind_eq_bind, List.append_assoc]
      rw [decodeHead_encodeHead (by omega) number.toNat_lt]
      simp [decodeFuel_suffix value rest fuel (by omega) (by omega)]
  | bool b => cases b <;> rfl
  | null => rfl
  | float bits =>
      have hhead := decodeHead_spelledHead (show 7 < 8 by decide)
        (.inr ⟨8, rfl, bits.toNat_lt⟩ : Fits 27 bits.toNat) rest
      have hbytes : encode (.float bits) = spelledHead 7 27 bits.toNat := by
        rw [encode]
        rfl
      rw [hbytes, decodeFuel, hhead]
      simp

theorem decodeItemsFuel_suffix (items : List Cbor) (rest : List UInt8) (fuel : Nat)
    (hsize : (encodeItems items).length < 2 ^ 64)
    (hfuel : 2 * (encodeItems items).length ≤ fuel) :
    decodeItemsFuel fuel items.length (encodeItems items ++ rest) =
      some (items, rest) := by
  cases items with
  | nil => simp [encodeItems, decodeItemsFuel]
  | cons item items =>
      have hpos := encode_length_pos item
      simp only [encodeItems, List.length_append] at hsize hfuel
      obtain ⟨fuel, rfl⟩ : ∃ n, fuel = n + 1 := ⟨fuel - 1, by omega⟩
      have hitem := decodeFuel_suffix item (encodeItems items ++ rest) fuel
        (by omega) (by omega)
      have hitems := decodeItemsFuel_suffix items rest fuel
        (by omega) (by omega)
      simp [encodeItems, decodeItemsFuel, hitem, hitems]

theorem decodeEntriesFuel_suffix (entries : List (Cbor × Cbor)) (rest : List UInt8)
    (fuel : Nat) (hsize : (encodeEntries entries).length < 2 ^ 64)
    (hfuel : 2 * (encodeEntries entries).length ≤ fuel) :
    decodeEntriesFuel fuel entries.length (encodeEntries entries ++ rest) =
      some (entries, rest) := by
  match entries with
  | [] => simp [encodeEntries, decodeEntriesFuel]
  | (key, value) :: entries =>
      have hkeyPos := encode_length_pos key
      have hvaluePos := encode_length_pos value
      simp only [encodeEntries, encodeEntry, List.length_append] at hsize hfuel
      obtain ⟨fuel, rfl⟩ : ∃ n, fuel = n + 1 := ⟨fuel - 1, by omega⟩
      have hkey := decodeFuel_suffix key
        (encode value ++ (encodeEntries entries ++ rest)) fuel
        (by omega) (by omega)
      have hvalue := decodeFuel_suffix value (encodeEntries entries ++ rest) fuel
        (by omega) (by omega)
      have hentries := decodeEntriesFuel_suffix entries rest fuel
        (by omega) (by omega)
      simp [encodeEntries, encodeEntry, decodeEntriesFuel, hkey, hvalue, hentries]

end

theorem decode_encode {value : Cbor} (h : (encode value).length < 2 ^ 64)
    (rest : List UInt8) : decode (encode value ++ rest) = some (value, rest) := by
  refine decodeFuel_suffix value rest _ h ?_
  rw [List.length_append]
  omega

end CborWire

end OpenRD.Foundation
