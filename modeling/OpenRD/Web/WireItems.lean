import OpenRD.Foundation.CborWire
import OpenRD.Web.CborReader

/-!
# The web client's CBOR reader on well-formed items

An item without tags and floats, written with heads in their shortest form, is read to
its end and shown as a script value.
-/

namespace OpenRD.Web

open OpenRD.Foundation CborWire

/-! ## Heads -/

theorem nearestDouble_of_lt {n : Nat} (h : n < 2 ^ 53) : nearestDouble n = n := if_pos h

theorem readLength_one {n : Nat} (h : n < 2 ^ 8) (rest : List UInt8) :
    readLength 24 (some (toBeBytes 1 n ++ rest)) = .ok (.number n, some rest) := by
  have hbyte : toBeBytes 1 n = [UInt8.ofNat n] := rfl
  have hread (byte : UInt8) : readLength 24 (some (byte :: rest)) =
      .ok (.number byte.toNat, some rest) := rfl
  rw [hbyte, List.singleton_append, hread, UInt8.toNat_ofNat_of_lt' h]

theorem readLength_two {n : Nat} (h : n < 2 ^ 16) (rest : List UInt8) :
    readLength 25 (some (toBeBytes 2 n ++ rest)) = .ok (.number n, some rest) := by
  have hbytes : toBeBytes 2 n = [UInt8.ofNat (n / 256), UInt8.ofNat n] := rfl
  have hread (high low : UInt8) : readLength 25 (some (high :: low :: rest)) =
      .ok (.number (high.toNat * 2 ^ 8 + low.toNat), some rest) := rfl
  have hword : (UInt8.ofNat (n / 256)).toNat * 2 ^ 8 + (UInt8.ofNat n).toNat = n := by
    rw [UInt8.toNat_ofNat', UInt8.toNat_ofNat']
    omega
  rw [hbytes, List.cons_append, List.singleton_append, hread, hword]

theorem readLength_four {n : Nat} (h : n < 2 ^ 32) (rest : List UInt8) :
    readLength 26 (some (toBeBytes 4 n ++ rest)) = .ok (.number n, some rest) := by
  have hbytes : toBeBytes 4 n ++ rest = UInt8.ofNat (n / 256 / 256 / 256) ::
      UInt8.ofNat (n / 256 / 256) :: UInt8.ofNat (n / 256) :: UInt8.ofNat n :: rest := rfl
  have hread (b₀ b₁ b₂ b₃ : UInt8) : readLength 26 (some (b₀ :: b₁ :: b₂ :: b₃ :: rest)) =
      .ok (.number (b₀.toNat * 2 ^ 24 +
        (b₁.toNat * 2 ^ 16 + b₂.toNat * 2 ^ 8 + b₃.toNat)), some rest) := rfl
  rw [hbytes, hread]
  simp only [UInt8.toNat_ofNat', Except.ok.injEq, Prod.mk.injEq, Length.number.injEq,
    and_true]
  omega

theorem readLength_eight {n : Nat} (h : n < 2 ^ 64) (rest : List UInt8) :
    readLength 27 (some (toBeBytes 8 n ++ rest)) = .ok (.bigint n, some rest) := by
  have hword : (toBeBytes 8 n).foldl (fun n byte => n * 2 ^ 8 + byte.toNat) 0 = n := by
    simp only [toBeBytes, toLeBytes, List.reverse_cons, List.reverse_nil, List.nil_append,
      List.cons_append, List.foldl_cons, List.foldl_nil, UInt8.toNat_ofNat']
    omega
  have hread (word : List UInt8) (hlen : 8 ≤ word.length) : readLength 27 (some word) =
      .ok (.bigint ((word.take 8).foldl (fun n byte => n * 2 ^ 8 + byte.toNat) 0),
        some (word.drop 8)) := if_pos hlen
  rw [hread _ (by simp), List.take_left' (length_toBeBytes 8 n),
    List.drop_left' (length_toBeBytes 8 n), hword]

theorem readLength_fits {info n : Nat} (h : Fits info n) (rest : List UInt8) :
    ∃ length, readLength info (some (argumentBytes info n ++ rest)) =
        .ok (length, some rest) ∧
      length.toNumber = some (nearestDouble n) := by
  have hsmall {n : Nat} (hn : n < 2 ^ 53) :
      (Length.number n).toNumber = some (nearestDouble n) := by
    rw [Length.toNumber, nearestDouble_of_lt hn]
  rcases h with ⟨h24, rfl⟩ | ⟨width, hwidth, hn⟩
  · rw [argumentBytes, argumentWidth_of_lt h24]
    exact ⟨.number n, if_pos h24, hsmall (by omega)⟩
  · rw [argumentBytes, hwidth]
    unfold argumentWidth at hwidth
    split at hwidth <;> cases hwidth
    · exact ⟨_, readLength_one (by omega) rest, hsmall (by omega)⟩
    · exact ⟨_, readLength_two (by omega) rest, hsmall (by omega)⟩
    · exact ⟨_, readLength_four (by omega) rest, hsmall (by omega)⟩
    · exact ⟨_, readLength_eight (by omega) rest, rfl⟩

theorem bitsAt_spelledHead {major info : Nat} (hmajor : major < 8) (hinfo : info < 28)
    (n : Nat) (rest : List UInt8) :
    bitsAt (some (spelledHead major info n ++ rest)) 0 / 32 = major ∧
      bitsAt (some (spelledHead major info n ++ rest)) 0 % 32 = info :=
  toNat_initialByte hmajor (by omega)

theorem read_spelledHead {major info n : Nat} (hmajor : major < 8) (h : Fits info n)
    (rest : List UInt8) :
    ∃ length, length.toNumber = some (nearestDouble n) ∧
      bitsAt (some (spelledHead major info n ++ rest)) 0 / 32 = major ∧
      readLength (bitsAt (some (spelledHead major info n ++ rest)) 0 % 32)
        (advance 1 (some (spelledHead major info n ++ rest))) = .ok (length, some rest) := by
  obtain ⟨hdiv, hmod⟩ := bitsAt_spelledHead hmajor h.info_lt n rest
  obtain ⟨length, hread, hnumber⟩ := readLength_fits h rest
  rw [hdiv, hmod]
  exact ⟨length, hnumber, rfl, hread⟩

theorem spelledHead_append_ne (major info n : Nat) (rest : List UInt8) :
    (some (spelledHead major info n ++ rest) : Position) ≠ some [] := by
  simp [spelledHead]

theorem readLoop_of_le {α : Type} {read : Position → Except ReadStop (α × Position)}
    {n : Nat} (h : n ≤ 2 ^ 53) (pos : Position) :
    readLoop read n pos = readTimes read n pos := if_pos h

theorem readPushing_of_lt {α : Type} {read : Position → Except ReadStop (α × Position)}
    {n : Nat} (h : n < 2 ^ 32) (pos : Position) :
    readPushing read n pos = readTimes read n pos :=
  (if_pos h).trans (readLoop_of_le (by omega) pos)

/-- One key and its value. -/
def readEntry (stack : Nat) (pos : Position) :
    Except ReadStop ((Value × Value) × Position) := do
  let (k, pos) ← readValue stack pos
  let (v, pos) ← readValue stack pos
  return ((k, v), pos)

theorem readEntry_eq (stack : Nat) :
    (fun pos => do
      let (k, pos) ← readValue stack pos
      let (v, pos) ← readValue stack pos
      return ((k, v), pos)) = readEntry stack := rfl

section Calls

variable {info n : Nat} (h : Fits info n) (stack : Nat) (rest : List UInt8)

include h

theorem readValue_uint :
    readValue (stack + 1) (some (spelledHead 0 info n ++ rest)) =
      .ok (.number (nearestDouble n), some rest) := by
  obtain ⟨length, hnumber, hmajor, hread⟩ := read_spelledHead (show 0 < 8 by decide) h rest
  rw [readValue, if_neg (spelledHead_append_ne 0 info n rest)]
  simp only [hmajor, hread, bind, Except.bind, hnumber]
  rfl

theorem readValue_negative :
    readValue (stack + 1) (some (spelledHead 1 info n ++ rest)) =
      .ok (.number (-(nearestDouble (nearestDouble n + 1))), some rest) := by
  obtain ⟨length, hnumber, hmajor, hread⟩ := read_spelledHead (show 1 < 8 by decide) h rest
  rw [readValue, if_neg (spelledHead_append_ne 1 info n rest)]
  simp only [hmajor, hread, bind, Except.bind, hnumber]
  rfl

theorem readValue_bytes :
    readValue (stack + 1) (some (spelledHead 2 info n ++ rest)) =
      .ok (.bytes (rest.take (nearestDouble n)), some (rest.drop (nearestDouble n))) := by
  obtain ⟨length, hnumber, hmajor, hread⟩ := read_spelledHead (show 2 < 8 by decide) h rest
  rw [readValue, if_neg (spelledHead_append_ne 2 info n rest)]
  simp only [hmajor, hread, bind, Except.bind, hnumber]
  rfl

theorem readValue_text :
    readValue (stack + 1) (some (spelledHead 3 info n ++ rest)) =
      .ok (.text (rest.take (nearestDouble n)), some (rest.drop (nearestDouble n))) := by
  obtain ⟨length, hnumber, hmajor, hread⟩ := read_spelledHead (show 3 < 8 by decide) h rest
  rw [readValue, if_neg (spelledHead_append_ne 3 info n rest)]
  simp only [hmajor, hread, bind, Except.bind, hnumber]
  rfl

theorem readValue_array :
    readValue (stack + 1) (some (spelledHead 4 info n ++ rest)) =
      (readPushing (readValue stack) (nearestDouble n) (some rest)).map
        fun (items, pos) => (.array items, pos) := by
  obtain ⟨length, hnumber, hmajor, hread⟩ := read_spelledHead (show 4 < 8 by decide) h rest
  rw [readValue, if_neg (spelledHead_append_ne 4 info n rest)]
  simp only [hmajor, hread, bind, Except.bind, hnumber, Option.getD_some]
  cases readPushing (readValue stack) (nearestDouble n) (some rest) <;> rfl

theorem readValue_map :
    readValue (stack + 1) (some (spelledHead 5 info n ++ rest)) =
      (readLoop (readEntry stack) (nearestDouble n) (some rest)).map
        fun (entries, pos) => (.map entries, pos) := by
  obtain ⟨length, hnumber, hmajor, hread⟩ := read_spelledHead (show 5 < 8 by decide) h rest
  rw [readValue, if_neg (spelledHead_append_ne 5 info n rest)]
  simp only [readEntry_eq, hmajor, hread]
  simp only [bind, Except.bind, hnumber, Option.getD_some]
  cases readLoop (readEntry stack) (nearestDouble n) (some rest) <;> rfl

end Calls

/-! ## Items -/

mutual

/-- Without tags and floats, which the reader throws at, and without arrays that are too
long for it. -/
def plain : Cbor → Bool
  | .integer _ | .bytes _ | .text _ | .bool _ | .null => true
  | .tag .. | .float _ => false
  | .array items => decide (items.length < 2 ^ 32) && plainItems items
  | .map entries => plainEntries entries

def plainItems : List Cbor → Bool
  | [] => true
  | item :: items => plain item && plainItems items

def plainEntries : List (Cbor × Cbor) → Bool
  | [] => true
  | (k, v) :: entries => plain k && plain v && plainEntries entries

end

mutual

/-- How many calls are nested while an item is read. -/
def levels : Cbor → Nat
  | .array items => levelsItems items + 1
  | .map entries => levelsEntries entries + 1
  | _ => 1

def levelsItems : List Cbor → Nat
  | [] => 0
  | item :: items => max (levels item) (levelsItems items)

def levelsEntries : List (Cbor × Cbor) → Nat
  | [] => 0
  | (k, v) :: entries => max (max (levels k) (levels v)) (levelsEntries entries)

end

mutual

def shown : Cbor → Value
  | .integer n =>
      if 0 ≤ n.value then .number (nearestDouble (magnitude n))
      else .number (-(nearestDouble (nearestDouble (magnitude n) + 1)))
  | .bytes contents => .bytes contents
  | .text contents => .text (utf8 contents)
  | .array items => .array (shownItems items)
  | .map entries => .map (shownEntries entries)
  | .bool b => .bool b
  | .null => .null
  | .tag .. | .float _ => .undefined

def shownItems : List Cbor → List Value
  | [] => []
  | item :: items => shown item :: shownItems items

def shownEntries : List (Cbor × Cbor) → List (Value × Value)
  | [] => []
  | (k, v) :: entries => (shown k, shown v) :: shownEntries entries

end

mutual

theorem readValue_encode (value : Cbor) (rest : List UInt8) (stack : Nat)
    (hplain : plain value = true) (hsize : (encode value).length < 2 ^ 53)
    (hstack : levels value ≤ stack) :
    readValue stack (some (encode value ++ rest)) = .ok (shown value, some rest) := by
  have hlevel : 0 < levels value := by cases value <;> simp [levels]
  obtain ⟨stack, rfl⟩ : ∃ n, stack = n + 1 := ⟨stack - 1, by omega⟩
  cases value with
  | integer n =>
      have hbound : magnitude n < 2 ^ 64 := magnitude_lt n
      by_cases hpos : 0 ≤ n.value
      · simp only [encode, shown, if_pos hpos]
        exact readValue_uint (fits_shortestInfo hbound) stack rest
      · simp only [encode, shown, if_neg hpos]
        exact readValue_negative (fits_shortestInfo hbound) stack rest
  | bytes contents =>
      simp only [encode, List.length_append] at hsize
      rw [encode, List.append_assoc, encodeHead,
        readValue_bytes (fits_shortestInfo (by omega)),
        nearestDouble_of_lt (by omega), List.take_left, List.drop_left, shown]
  | text contents =>
      simp only [encode, List.length_append] at hsize
      rw [encode, List.append_assoc, encodeHead,
        readValue_text (fits_shortestInfo (by omega)),
        nearestDouble_of_lt (by omega), List.take_left, List.drop_left, shown]
  | array items =>
      have hlen := length_le_encodeItems items
      simp only [encode, List.length_append] at hsize
      simp only [levels] at hstack
      simp only [plain, Bool.and_eq_true, decide_eq_true_eq] at hplain
      have hitems := readTimes_encodeItems items rest stack hplain.2 (by omega) (by omega)
      rw [encode, List.append_assoc, shown, encodeHead,
        readValue_array (fits_shortestInfo (by omega)), nearestDouble_of_lt (by omega),
        readPushing_of_lt hplain.1, hitems]
      rfl
  | map entries =>
      have hlen := length_le_encodeEntries entries
      simp only [encode, List.length_append] at hsize
      simp only [levels] at hstack
      have hentries := readTimes_encodeEntries entries rest stack hplain (by omega)
        (by omega)
      rw [encode, List.append_assoc, shown, encodeHead,
        readValue_map (fits_shortestInfo (by omega)), nearestDouble_of_lt (by omega),
        readLoop_of_le (by omega), hentries]
      rfl
  | tag number value => cases hplain
  | bool b =>
      rw [readValue, if_neg (by simp [encode])]
      have hbits : bitsAt (some (encode (.bool b) ++ rest)) 0 = if b then 245 else 244 := by
        cases b <;> rfl
      rw [hbits]
      cases b <;> rfl
  | null =>
      rw [readValue, if_neg (by simp [encode])]
      have hbits : bitsAt (some (encode .null ++ rest)) 0 = 246 := rfl
      rw [hbits]
      rfl
  | float bits => cases hplain

theorem readTimes_encodeItems (items : List Cbor) (rest : List UInt8) (stack : Nat)
    (hplain : plainItems items = true) (hsize : (encodeItems items).length < 2 ^ 53)
    (hstack : levelsItems items ≤ stack) :
    readTimes (readValue stack) items.length (some (encodeItems items ++ rest)) =
      .ok (shownItems items, some rest) := by
  cases items with
  | nil => rfl
  | cons item items =>
      simp only [encodeItems, List.length_append] at hsize
      simp only [plainItems, Bool.and_eq_true] at hplain
      simp only [levelsItems] at hstack
      have hitem := readValue_encode item (encodeItems items ++ rest) stack hplain.1
        (by omega) (by omega)
      have hitems := readTimes_encodeItems items rest stack hplain.2 (by omega) (by omega)
      rw [encodeItems, List.append_assoc, List.length_cons, readTimes, hitem]
      simp only [bind, Except.bind, hitems, shownItems]
      rfl

theorem readTimes_encodeEntries (entries : List (Cbor × Cbor)) (rest : List UInt8)
    (stack : Nat) (hplain : plainEntries entries = true)
    (hsize : (encodeEntries entries).length < 2 ^ 53)
    (hstack : levelsEntries entries ≤ stack) :
    readTimes (readEntry stack) entries.length (some (encodeEntries entries ++ rest)) =
      .ok (shownEntries entries, some rest) := by
  match entries with
  | [] => rfl
  | (k, v) :: entries =>
      simp only [encodeEntries, encodeEntry, List.length_append] at hsize
      simp only [plainEntries, Bool.and_eq_true] at hplain
      simp only [levelsEntries] at hstack
      have hkey := readValue_encode k (encode v ++ (encodeEntries entries ++ rest)) stack
        hplain.1.1 (by omega) (by omega)
      have hvalue := readValue_encode v (encodeEntries entries ++ rest) stack hplain.1.2
        (by omega) (by omega)
      have hentries := readTimes_encodeEntries entries rest stack hplain.2 (by omega)
        (by omega)
      rw [encodeEntries, encodeEntry, List.append_assoc, List.append_assoc,
        List.length_cons, readTimes, readEntry, hkey]
      simp only [bind, Except.bind, hvalue, pure, Except.pure, hentries, shownEntries]

end

end OpenRD.Web
