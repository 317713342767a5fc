import OpenRD.Foundation.CborWire

/-!
# Decoded values are no larger than their encodings

A reader of CBOR takes what it returns from the bytes it was given: nothing it leaves, and
no text in a map it reads, is longer than these.
-/

namespace OpenRD.Foundation.CborWire

variable {fuel count : Nat} {bytes rest : List UInt8}

theorem length_of_decodeHead {head : Head} (h : decodeHead bytes = some (head, rest)) :
    rest.length < bytes.length := by
  cases bytes with
  | nil => cases h
  | cons initial bytes =>
      simp only [decodeHead] at h
      split at h
      · cases h
        exact Nat.lt_succ_self _
      · split at h
        · split at h
          · cases h
            simp only [List.length_drop, List.length_cons]
            omega
          · cases h
        · cases h

theorem length_of_takeBytes {contents : List UInt8}
    (h : takeBytes count bytes = some (contents, rest)) :
    contents.length ≤ bytes.length ∧ rest.length ≤ bytes.length := by
  unfold takeBytes at h
  split at h
  · cases h
    exact ⟨List.length_take_le' _ _, by simp⟩
  · cases h

/-- What follows the head of an item, and the item it makes. -/
inductive Body (fuel : Nat) (after : List UInt8) : Cbor → List UInt8 → Prop where
  | plain {value : Cbor} (htext : value.asText = none) (hmap : value.asMap = none) :
      Body fuel after value after
  | bytes {count : Nat} {contents rest : List UInt8}
      (h : takeBytes count after = some (contents, rest)) : Body fuel after (.bytes contents) rest
  | text {count : Nat} {taken rest : List UInt8} {contents : String}
      (h : takeBytes count after = some (taken, rest)) (hutf8 : ofUtf8? taken = some contents) :
      Body fuel after (.text contents) rest
  | array {count : Nat} {items : List Cbor} {rest : List UInt8}
      (h : decodeItemsFuel fuel count after = some (items, rest)) :
      Body fuel after (.array items) rest
  | map {count : Nat} {entries : List (Cbor × Cbor)} {rest : List UInt8}
      (h : decodeEntriesFuel fuel count after = some (entries, rest)) :
      Body fuel after (.map entries) rest
  | tag (number : UInt64) {value : Cbor} {rest : List UInt8}
      (h : decodeFuel fuel after = some (value, rest)) : Body fuel after (.tag number value) rest

theorem body_of_decodeFuel {value : Cbor} (h : decodeFuel (fuel + 1) bytes = some (value, rest)) :
    ∃ after, after.length < bytes.length ∧ Body fuel after value rest := by
  simp only [decodeFuel, Option.bind_eq_bind, Option.bind_eq_some_iff] at h
  obtain ⟨⟨head, after⟩, hhead, h⟩ := h
  refine ⟨after, length_of_decodeHead hhead, ?_⟩
  simp only at h
  split at h
  · split at h <;> cases h
    exact .plain rfl rfl
  · split at h <;> cases h
    exact .plain rfl rfl
  · obtain ⟨⟨contents, left⟩, htake, h⟩ := Option.bind_eq_some_iff.mp h
    cases h
    exact .bytes htake
  · obtain ⟨⟨taken, left⟩, htake, h⟩ := Option.bind_eq_some_iff.mp h
    obtain ⟨contents, hutf8, h⟩ := Option.bind_eq_some_iff.mp h
    cases h
    exact .text htake hutf8
  · obtain ⟨⟨items, left⟩, hitems, h⟩ := Option.bind_eq_some_iff.mp h
    cases h
    exact .array hitems
  · obtain ⟨⟨entries, left⟩, hentries, h⟩ := Option.bind_eq_some_iff.mp h
    cases h
    exact .map hentries
  · obtain ⟨⟨tagged, left⟩, htagged, h⟩ := Option.bind_eq_some_iff.mp h
    cases h
    exact .tag _ htagged
  · split at h <;> cases h <;> exact .plain rfl rfl
  · cases h

mutual

theorem length_of_decodeFuel : ∀ {fuel : Nat} {bytes rest : List UInt8} {value : Cbor},
    decodeFuel fuel bytes = some (value, rest) → rest.length ≤ bytes.length
  | 0, _, _, _, h => by simp [decodeFuel] at h
  | fuel + 1, bytes, rest, value, h => by
      obtain ⟨after, hafter, hbody⟩ := body_of_decodeFuel h
      refine le_trans ?_ hafter.le
      cases hbody with
      | plain => exact le_rfl
      | bytes h | text h => exact (length_of_takeBytes h).2
      | array h => exact length_of_decodeItemsFuel h
      | map h => exact length_of_decodeEntriesFuel h
      | tag number h => exact length_of_decodeFuel h

theorem length_of_decodeItemsFuel : ∀ {fuel count : Nat} {bytes rest : List UInt8}
    {items : List Cbor}, decodeItemsFuel fuel count bytes = some (items, rest) →
      rest.length ≤ bytes.length
  | _, 0, _, _, _, h => by
      simp only [decodeItemsFuel, Option.some.injEq, Prod.mk.injEq] at h
      exact h.2 ▸ le_rfl
  | 0, _ + 1, _, _, _, h => by simp [decodeItemsFuel] at h
  | fuel + 1, count + 1, bytes, rest, items, h => by
      simp only [decodeItemsFuel, Option.bind_eq_bind, Option.bind_eq_some_iff] at h
      obtain ⟨⟨item, after⟩, hitem, ⟨more, left⟩, hmore, h⟩ := h
      cases h
      exact (length_of_decodeItemsFuel hmore).trans (length_of_decodeFuel hitem)

theorem length_of_decodeEntriesFuel : ∀ {fuel count : Nat} {bytes rest : List UInt8}
    {entries : List (Cbor × Cbor)}, decodeEntriesFuel fuel count bytes = some (entries, rest) →
      rest.length ≤ bytes.length
  | _, 0, _, _, _, h => by
      simp only [decodeEntriesFuel, Option.some.injEq, Prod.mk.injEq] at h
      exact h.2 ▸ le_rfl
  | 0, _ + 1, _, _, _, h => by simp [decodeEntriesFuel] at h
  | fuel + 1, count + 1, bytes, rest, entries, h => by
      simp only [decodeEntriesFuel, Option.bind_eq_bind, Option.bind_eq_some_iff] at h
      obtain ⟨⟨key, afterKey⟩, hkey, ⟨value, after⟩, hvalue, ⟨more, left⟩, hmore, h⟩ := h
      cases h
      exact (length_of_decodeEntriesFuel hmore).trans
        ((length_of_decodeFuel hvalue).trans (length_of_decodeFuel hkey))

end

theorem length_of_decode_text {contents : String}
    (h : decodeFuel fuel bytes = some (.text contents, rest)) :
    (utf8 contents).length ≤ bytes.length := by
  cases fuel with
  | zero => simp [decodeFuel] at h
  | succ fuel =>
      obtain ⟨after, hafter, hbody⟩ := body_of_decodeFuel h
      refine le_trans ?_ hafter.le
      cases hbody with
      | plain htext => cases htext
      | text htake hutf8 =>
          rw [utf8_of_ofUtf8? hutf8]
          exact (length_of_takeBytes htake).1

theorem length_of_entry {entries : List (Cbor × Cbor)} {key : Cbor} {contents : String}
    (h : decodeEntriesFuel fuel count bytes = some (entries, rest))
    (hmem : (key, .text contents) ∈ entries) : (utf8 contents).length ≤ bytes.length := by
  induction count generalizing fuel bytes entries with
  | zero =>
      simp only [decodeEntriesFuel, Option.some.injEq, Prod.mk.injEq] at h
      rw [← h.1] at hmem
      cases hmem
  | succ count ih =>
      cases fuel with
      | zero => simp [decodeEntriesFuel] at h
      | succ fuel =>
          simp only [decodeEntriesFuel, Option.bind_eq_bind, Option.bind_eq_some_iff] at h
          obtain ⟨⟨first, afterKey⟩, hkey, ⟨value, after⟩, hvalue, ⟨more, left⟩, hmore, h⟩ := h
          cases h
          have hafterKey := length_of_decodeFuel hkey
          rcases List.mem_cons.mp hmem with hhere | hlater
          · cases hhere
            exact (length_of_decode_text hvalue).trans hafterKey
          · exact (ih hmore hlater).trans ((length_of_decodeFuel hvalue).trans hafterKey)

/-- A text in a map is no longer than the bytes the map was read from. -/
theorem length_of_decode_map {entries : List (Cbor × Cbor)} {key : Cbor} {contents : String}
    (h : decode bytes = some (.map entries, rest)) (hmem : (key, .text contents) ∈ entries) :
    (utf8 contents).length ≤ bytes.length := by
  obtain ⟨after, hafter, hbody⟩ := body_of_decodeFuel h
  refine le_trans ?_ hafter.le
  cases hbody with
  | plain _ hmap => cases hmap
  | map hentries => exact length_of_entry hentries hmem

theorem length_pos_of_decode {value : Cbor} (h : decode bytes = some (value, rest)) :
    0 < bytes.length := by
  obtain ⟨after, hafter, -⟩ := body_of_decodeFuel h
  exact (Nat.zero_le _).trans_lt hafter

end OpenRD.Foundation.CborWire
