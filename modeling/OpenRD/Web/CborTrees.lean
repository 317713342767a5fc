import OpenRD.Web.CborWriter
import OpenRD.Web.WireItems

/-!
# What the web client writes and reads back

A tree of the values the writer has a method for, the calls that write it, and the script
value that stands for it.
-/

namespace OpenRD.Web

open OpenRD.Foundation

/-- The integers that a double holds exactly. -/
abbrev SafeInteger := Fin (2 ^ 53)

inductive Key where
  | uint (n : SafeInteger)
  | text (contents : String)
  deriving DecidableEq, Repr

inductive Tree where
  | uint (n : SafeInteger)
  | bytes (contents : List UInt8)
  | text (contents : String)
  | bool (b : Bool)
  | array (items : List Tree)
  | map (entries : List (Key × Tree))

namespace CborWriter

def writeKey (w : CborWriter) : Key → CborWriter
  | .uint n => w.writeUint n
  | .text contents => w.writeString contents

mutual

def writeTree (w : CborWriter) : Tree → CborWriter
  | .uint n => w.writeUint n
  | .bytes contents => w.writeBytes contents
  | .text contents => w.writeString contents
  | .bool b => w.writeBool b
  | .array items => writeTrees (w.writeArrayHeader items.length) items
  | .map entries => writeEntries (w.writeMapHeader entries.length) entries

def writeTrees (w : CborWriter) : List Tree → CborWriter
  | [] => w
  | item :: items => writeTrees (writeTree w item) items

def writeEntries (w : CborWriter) : List (Key × Tree) → CborWriter
  | [] => w
  | (k, v) :: entries => writeEntries (writeTree (w.writeKey k) v) entries

end

end CborWriter

/-! ## Script values that stand for a tree -/

section Shows

-- `new TextDecoder().decode`
variable (decode : List UInt8 → String)

/-- `SameValueZero`, as a `Map` compares its keys.  What is read makes a new object each
time, which is the same as no other. -/
def sameKey : Value → Value → Bool
  | .number n, .number m => n == m
  | .nan, .nan => true
  | .text first, .text second => decode first == decode second
  | .bool first, .bool second => first == second
  | .null, .null => true
  | .undefined, .undefined => true
  | _, _ => false

/-- `map.set(k, v)`: a key that is there keeps its place. -/
def mapSet (entries : List (Value × Value)) (call : Value × Value) : List (Value × Value) :=
  if entries.any fun entry => sameKey decode entry.1 call.1 then
    entries.map fun entry =>
      if sameKey decode entry.1 call.1 then (entry.1, call.2) else entry
  else entries ++ [call]

/-- The entries of a `Map` after the calls that filled it. -/
def mapEntries (calls : List (Value × Value)) : List (Value × Value) :=
  calls.foldl (mapSet decode) []

def ShowsKey : Key → Value → Prop
  | .uint n, value => value = .number n.val
  | .text contents, value => ∃ bytes, value = .text bytes ∧ decode bytes = contents

mutual

def Shows : Tree → Value → Prop
  | .uint n, value => value = .number n.val
  | .bytes contents, value => value = .bytes contents
  | .text contents, value => ∃ bytes, value = .text bytes ∧ decode bytes = contents
  | .bool b, value => value = .bool b
  | .array items, value => ∃ values, value = .array values ∧ ShowsItems items values
  | .map entries, value =>
      ∃ calls, value = .map calls ∧ ShowsEntries entries (mapEntries decode calls)

def ShowsItems : List Tree → List Value → Prop
  | [], values => values = []
  | item :: items, values =>
      ∃ value rest, values = value :: rest ∧ Shows item value ∧ ShowsItems items rest

def ShowsEntries : List (Key × Tree) → List (Value × Value) → Prop
  | [], values => values = []
  | (k, v) :: entries, values =>
      ∃ key value rest, values = (key, value) :: rest ∧ ShowsKey decode k key ∧
        Shows v value ∧ ShowsEntries entries rest

end

end Shows

mutual

/-- A script array has fewer than 2^32 elements, and a `Map` one entry for a key. -/
def Tree.Valid : Tree → Prop
  | .array items => items.length < 2 ^ 32 ∧ ItemsValid items
  | .map entries => (entries.map Prod.fst).Nodup ∧ EntriesValid entries
  | _ => True

def ItemsValid : List Tree → Prop
  | [] => True
  | item :: items => item.Valid ∧ ItemsValid items

def EntriesValid : List (Key × Tree) → Prop
  | [] => True
  | (_, v) :: entries => v.Valid ∧ EntriesValid entries

end

def Key.texts : Key → List String
  | .text contents => [contents]
  | .uint _ => []

mutual

/-- The strings in a tree. -/
def Tree.texts : Tree → List String
  | .text contents => [contents]
  | .array items => itemsTexts items
  | .map entries => entriesTexts entries
  | _ => []

def itemsTexts : List Tree → List String
  | [] => []
  | item :: items => item.texts ++ itemsTexts items

def entriesTexts : List (Key × Tree) → List String
  | [] => []
  | (k, v) :: entries => k.texts ++ v.texts ++ entriesTexts entries

end

/-! ## Trees as items of the wire format -/

def SafeInteger.toCbor (n : SafeInteger) : Cbor :=
  .integer (CborWire.nonnegative n.val (n.isLt.trans (by decide)))

def Key.toCbor : Key → Cbor
  | .uint n => n.toCbor
  | .text contents => .text contents

mutual

def Tree.toCbor : Tree → Cbor
  | .uint n => n.toCbor
  | .bytes contents => .bytes contents
  | .text contents => .text contents
  | .bool b => .bool b
  | .array items => .array (itemsToCbor items)
  | .map entries => .map (entriesToCbor entries)

def itemsToCbor : List Tree → List Cbor
  | [] => []
  | item :: items => item.toCbor :: itemsToCbor items

def entriesToCbor : List (Key × Tree) → List (Cbor × Cbor)
  | [] => []
  | (k, v) :: entries => (k.toCbor, v.toCbor) :: entriesToCbor entries

end

@[simp] theorem length_itemsToCbor (items : List Tree) :
    (itemsToCbor items).length = items.length := by
  induction items with
  | nil => rfl
  | cons item items ih => exact congrArg (· + 1) ih

@[simp] theorem length_entriesToCbor (entries : List (Key × Tree)) :
    (entriesToCbor entries).length = entries.length := by
  induction entries with
  | nil => rfl
  | cons entry entries ih => exact congrArg (· + 1) ih

theorem encode_safeInteger (n : SafeInteger) :
    CborWire.encode n.toCbor = CborWire.encodeHead 0 n.val := by
  have hpos : (0 : Int) ≤ (n.val : Int) := Int.natCast_nonneg _
  simp [SafeInteger.toCbor, CborWire.encode, CborWire.magnitude, CborWire.nonnegative]

theorem finish_writeKey (w : CborWriter) (k : Key) :
    (w.writeKey k).finish = w.finish ++ CborWire.encode k.toCbor := by
  cases k with
  | uint n => rw [Key.toCbor, encode_safeInteger, CborWriter.writeKey, CborWriter.finish_writeUint]
  | text contents => exact CborWriter.finish_writeString w contents

mutual

theorem finish_writeTree (w : CborWriter) (tree : Tree) :
    (w.writeTree tree).finish = w.finish ++ CborWire.encode tree.toCbor := by
  cases tree with
  | uint n =>
      rw [Tree.toCbor, encode_safeInteger, CborWriter.writeTree, CborWriter.finish_writeUint]
  | bytes contents => exact CborWriter.finish_writeBytes w contents
  | text contents => exact CborWriter.finish_writeString w contents
  | bool b => exact CborWriter.finish_writeBool w b
  | array items =>
      have hitems := finish_writeTrees (w.writeArrayHeader items.length) items
      rw [CborWriter.writeTree, hitems, CborWriter.finish_writeArrayHeader, Tree.toCbor,
        CborWire.encode, length_itemsToCbor, List.append_assoc]
  | map entries =>
      have hentries := finish_writeEntries (w.writeMapHeader entries.length) entries
      rw [CborWriter.writeTree, hentries, CborWriter.finish_writeMapHeader, Tree.toCbor,
        CborWire.encode, length_entriesToCbor, List.append_assoc]

theorem finish_writeTrees (w : CborWriter) (items : List Tree) :
    (w.writeTrees items).finish = w.finish ++ CborWire.encodeItems (itemsToCbor items) := by
  cases items with
  | nil => simp [CborWriter.writeTrees, itemsToCbor, CborWire.encodeItems]
  | cons item items =>
      have hitem := finish_writeTree w item
      have hitems := finish_writeTrees (w.writeTree item) items
      rw [CborWriter.writeTrees, hitems, hitem, itemsToCbor, CborWire.encodeItems,
        List.append_assoc]

theorem finish_writeEntries (w : CborWriter) (entries : List (Key × Tree)) :
    (w.writeEntries entries).finish =
      w.finish ++ CborWire.encodeEntries (entriesToCbor entries) := by
  match entries with
  | [] => simp [CborWriter.writeEntries, entriesToCbor, CborWire.encodeEntries]
  | (k, v) :: entries =>
      have hkey := finish_writeKey w k
      have hvalue := finish_writeTree (w.writeKey k) v
      have hentries := finish_writeEntries ((w.writeKey k).writeTree v) entries
      rw [CborWriter.writeEntries, hentries, hvalue, hkey, entriesToCbor,
        CborWire.encodeEntries, CborWire.encodeEntry, List.append_assoc, List.append_assoc,
        List.append_assoc]

end

/-! ## What is read back stands for the tree -/

theorem shown_safeInteger (n : SafeInteger) : shown n.toCbor = .number n.val := by
  have hmagnitude : CborWire.magnitude
      (CborWire.nonnegative n.val (n.isLt.trans (by decide))) = n.val := by
    simp [CborWire.magnitude, CborWire.nonnegative]
  have hpos : (0 : Int) ≤
      (CborWire.nonnegative n.val (n.isLt.trans (by decide))).value := Int.natCast_nonneg _
  rw [SafeInteger.toCbor, shown, if_pos hpos, hmagnitude, nearestDouble_of_lt n.isLt]

mutual

theorem plain_toCbor (tree : Tree) (h : tree.Valid) : plain tree.toCbor = true := by
  cases tree with
  | uint n => rfl
  | bytes contents | text contents => rfl
  | bool b => rfl
  | array items =>
      obtain ⟨hlength, hitems⟩ := h
      rw [Tree.toCbor, plain, length_itemsToCbor, Bool.and_eq_true, decide_eq_true_eq]
      exact ⟨hlength, plainItems_toCbor items hitems⟩
  | map entries => exact plainEntries_toCbor entries h.2

theorem plainItems_toCbor (items : List Tree) (h : ItemsValid items) :
    plainItems (itemsToCbor items) = true := by
  cases items with
  | nil => rfl
  | cons item items =>
      simp [itemsToCbor, plainItems, plain_toCbor item h.1, plainItems_toCbor items h.2]

theorem plainEntries_toCbor (entries : List (Key × Tree)) (h : EntriesValid entries) :
    plainEntries (entriesToCbor entries) = true := by
  match entries with
  | [] => rfl
  | (k, v) :: entries =>
      have hkey : plain k.toCbor = true := by cases k <;> rfl
      simp [entriesToCbor, plainEntries, hkey, plain_toCbor v h.1,
        plainEntries_toCbor entries h.2]

end

section Decoder

variable {decode : List UInt8 → String}

theorem foldl_mapSet {calls entries : List (Value × Value)}
    (h : (entries ++ calls).Pairwise fun first second =>
      sameKey decode first.1 second.1 = false) :
    calls.foldl (mapSet decode) entries = entries ++ calls := by
  induction calls generalizing entries with
  | nil => exact (List.append_nil entries).symm
  | cons call calls ih =>
      have hsplit : entries ++ call :: calls = (entries ++ [call]) ++ calls := by simp
      have hnew : (entries.any fun entry => sameKey decode entry.1 call.1) = false := by
        rw [List.any_eq_false]
        intro entry hmem
        have hdifferent := (List.pairwise_append.mp h).2.2 entry hmem call (.head _)
        simp [hdifferent]
      rw [List.foldl_cons, mapSet, hnew, if_neg Bool.false_ne_true, ih (hsplit ▸ h), hsplit]

theorem mapEntries_of_distinct {calls : List (Value × Value)}
    (h : calls.Pairwise fun first second => sameKey decode first.1 second.1 = false) :
    mapEntries decode calls = calls := foldl_mapSet h

/-- The decoder gives these strings back. -/
def Inverts (decode : List UInt8 → String) (texts : List String) : Prop :=
  ∀ contents ∈ texts, decode (utf8 contents) = contents

theorem Inverts.left {first second : List String} (h : Inverts decode (first ++ second)) :
    Inverts decode first := fun contents hmem => h contents (List.mem_append_left _ hmem)

theorem Inverts.right {first second : List String} (h : Inverts decode (first ++ second)) :
    Inverts decode second := fun contents hmem => h contents (List.mem_append_right _ hmem)

theorem showsKey_shown {k : Key} (h : Inverts decode k.texts) :
    ShowsKey decode k (shown k.toCbor) := by
  cases k with
  | uint n => exact shown_safeInteger n
  | text contents => exact ⟨utf8 contents, rfl, h contents (.head _)⟩

theorem sameKey_of_shows {k k' : Key} {value value' : Value} (h : ShowsKey decode k value)
    (h' : ShowsKey decode k' value') (hne : k ≠ k') : sameKey decode value value' = false := by
  cases k with
  | uint n =>
      cases h
      cases k' with
      | uint m =>
          cases h'
          have hvalue : n.val ≠ m.val := fun heq => hne (congrArg Key.uint (Fin.ext heq))
          simpa [sameKey] using hvalue
      | text contents =>
          obtain ⟨bytes, rfl, -⟩ := h'
          rfl
  | text contents =>
      obtain ⟨bytes, rfl, rfl⟩ := h
      cases k' with
      | uint m =>
          cases h'
          rfl
      | text contents' =>
          obtain ⟨bytes', rfl, rfl⟩ := h'
          have htext : decode bytes ≠ decode bytes' := fun heq => hne (congrArg Key.text heq)
          simpa [sameKey] using htext

theorem exists_key_of_mem {entries : List (Key × Tree)}
    (h : Inverts decode (entriesTexts entries)) {call : Value × Value}
    (hmem : call ∈ shownEntries (entriesToCbor entries)) :
    ∃ k ∈ entries.map Prod.fst, ShowsKey decode k call.1 := by
  induction entries with
  | nil => cases hmem
  | cons entry entries ih =>
      obtain ⟨k, v⟩ := entry
      cases hmem with
      | head => exact ⟨k, .head _, showsKey_shown h.left.left⟩
      | tail _ hmem =>
          obtain ⟨key, hkey, hshows⟩ := ih h.right hmem
          exact ⟨key, .tail _ hkey, hshows⟩

theorem mapEntries_shown {entries : List (Key × Tree)}
    (hkeys : (entries.map Prod.fst).Nodup) (h : Inverts decode (entriesTexts entries)) :
    mapEntries decode (shownEntries (entriesToCbor entries)) =
      shownEntries (entriesToCbor entries) := by
  apply mapEntries_of_distinct
  induction entries with
  | nil => exact .nil
  | cons entry entries ih =>
      obtain ⟨k, v⟩ := entry
      obtain ⟨hnew, hrest⟩ := List.nodup_cons.mp hkeys
      refine .cons ?_ (ih hrest h.right)
      intro call hmem
      obtain ⟨key, hkey, hshows⟩ := exists_key_of_mem h.right hmem
      refine sameKey_of_shows (showsKey_shown h.left.left) hshows ?_
      rintro rfl
      exact hnew hkey

mutual

theorem shows_shown (tree : Tree) (hvalid : tree.Valid) (h : Inverts decode tree.texts) :
    Shows decode tree (shown tree.toCbor) := by
  cases tree with
  | uint n => exact shown_safeInteger n
  | bytes contents => rfl
  | text contents => exact ⟨utf8 contents, rfl, h contents (.head _)⟩
  | bool b => rfl
  | array items => exact ⟨_, rfl, showsItems_shown items hvalid.2 h⟩
  | map entries =>
      refine ⟨_, rfl, ?_⟩
      rw [mapEntries_shown hvalid.1 h]
      exact showsEntries_shown entries hvalid.2 h

theorem showsItems_shown (items : List Tree) (hvalid : ItemsValid items)
    (h : Inverts decode (itemsTexts items)) :
    ShowsItems decode items (shownItems (itemsToCbor items)) := by
  cases items with
  | nil => rfl
  | cons item items =>
      exact ⟨_, _, rfl, shows_shown item hvalid.1 h.left, showsItems_shown items hvalid.2 h.right⟩

theorem showsEntries_shown (entries : List (Key × Tree)) (hvalid : EntriesValid entries)
    (h : Inverts decode (entriesTexts entries)) :
    ShowsEntries decode entries (shownEntries (entriesToCbor entries)) := by
  match entries with
  | [] => rfl
  | (k, v) :: entries =>
      exact ⟨_, _, _, rfl, showsKey_shown h.left.left, shows_shown v hvalid.1 h.left.right,
        showsEntries_shown entries hvalid.2 h.right⟩

end

theorem readValue_writeTree {tree : Tree} (hvalid : tree.Valid)
    (htexts : Inverts decode tree.texts)
    (hfits : (CborWriter.new.writeTree tree).finish.length < 2 ^ 53) {stack : Nat}
    (hstack : levels tree.toCbor ≤ stack) (rest : List UInt8) :
    ∃ value, readValue stack (some ((CborWriter.new.writeTree tree).finish ++ rest)) =
        .ok (value, some rest) ∧ Shows decode tree value := by
  have hbytes := finish_writeTree CborWriter.new tree
  rw [CborWriter.finish_new, List.nil_append] at hbytes
  rw [hbytes] at hfits ⊢
  exact ⟨_, readValue_encode tree.toCbor rest stack (plain_toCbor tree hvalid) hfits hstack,
    shows_shown tree hvalid htexts⟩

end Decoder

/-! ## Heads -/

/-- Each call of the writer starts with the shortest head there is for its number. -/
structure CanonicalHeads (w : CborWriter) : Prop where
  uint : ∀ n < 2 ^ 53, ∃ head, (w.writeUint n).finish = w.finish ++ head ∧
    CborWire.IsShortestHead 0 n head
  bytes : ∀ contents : List UInt8, contents.length < 2 ^ 53 →
    ∃ head, (w.writeBytes contents).finish = w.finish ++ (head ++ contents) ∧
      CborWire.IsShortestHead 2 contents.length head
  text : ∀ contents : String, (utf8 contents).length < 2 ^ 53 →
    ∃ head, (w.writeString contents).finish = w.finish ++ (head ++ utf8 contents) ∧
      CborWire.IsShortestHead 3 (utf8 contents).length head
  array : ∀ n < 2 ^ 53, ∃ head, (w.writeArrayHeader n).finish = w.finish ++ head ∧
    CborWire.IsShortestHead 4 n head
  map : ∀ n < 2 ^ 53, ∃ head, (w.writeMapHeader n).finish = w.finish ++ head ∧
    CborWire.IsShortestHead 5 n head

theorem canonicalHeads (w : CborWriter) : CanonicalHeads w := by
  have hhead {major n : Nat} (hmajor : major < 8) (h : n < 2 ^ 53) :
      CborWire.IsShortestHead major n (CborWire.encodeHead major n) :=
    CborWire.isShortestHead_encodeHead hmajor (h.trans (by decide))
  refine ⟨?_, ?_, ?_, ?_, ?_⟩
  · exact fun n h => ⟨_, w.finish_writeUint n, hhead (by decide) h⟩
  · exact fun contents h => ⟨_, w.finish_writeBytes contents, hhead (by decide) h⟩
  · exact fun contents h => ⟨_, w.finish_writeString contents, hhead (by decide) h⟩
  · exact fun n h => ⟨_, w.finish_writeArrayHeader n, hhead (by decide) h⟩
  · exact fun n h => ⟨_, w.finish_writeMapHeader n, hhead (by decide) h⟩

/--
A tree of any depth, written and read back: the reader returns the tree and stops behind
it, and every head the writer emits is the shortest one.
-/
theorem cborReader_inverts_writer (decode : List UInt8 → String) (tree : Tree)
    (hvalid : tree.Valid) (htexts : Inverts decode tree.texts)
    (hfits : (CborWriter.new.writeTree tree).finish.length < 2 ^ 53) (stack : Nat)
    (hstack : levels tree.toCbor ≤ stack) (rest : List UInt8) :
    (∃ value, readValue stack (some ((CborWriter.new.writeTree tree).finish ++ rest)) =
        .ok (value, some rest) ∧ Shows decode tree value) ∧
      ∀ w, CanonicalHeads w :=
  ⟨readValue_writeTree hvalid htexts hfits hstack rest, canonicalHeads⟩

/-- A tree with a map in a map, heads of three sizes and keys of both kinds. -/
def nestedTree : Tree :=
  .map [(.uint 1, .array [.uint 23, .uint 24, .uint 4294967296, .bool true]),
    (.text "id", .map [(.uint 65536, .bytes [0xFF]), (.text "", .array [])])]

theorem cborReader_inverts_writer_nested :
    ∃ value, readValue 3 (some ((CborWriter.new.writeTree nestedTree).finish ++ [0x00])) =
      .ok (value, some [0x00]) ∧
        Shows (fun bytes => (ofUtf8? bytes).getD "") nestedTree value := by
  refine (cborReader_inverts_writer _ nestedTree ?_ ?_ ?_ 3 ?_ [0x00]).1
  · simp [nestedTree, Tree.Valid, EntriesValid, ItemsValid]
  · intro contents _
    simp only [ofUtf8?_utf8, Option.getD_some]
  · decide
  · decide

end OpenRD.Web
