import OpenRD.TestClient.Messages
import OpenRD.Web.FrameReader
import OpenRD.Web.Readings

/-!
# When a client goes on

Both clients take a status they cannot find for success, and both cut a status down
to 32 bits before they look at it.  The web client also reads past the end of its
payload as zeros.
-/

namespace OpenRD.Session

open OpenRD.Foundation OpenRD.Proto

/-! ## Explicit success -/

/-- The unsigned integers a map carries under key `k`, in wire order. -/
def unsignedUnder (k : UInt64) (v : Cbor) : List UInt64 :=
  match v.asMap with
  | some entries => readUnder Cbor.asU64 k Cbor.asU64 entries
  | none => []

/-- The last unsigned integer under `k` is there, and its low 32 bits are not 0. -/
def EndsNonzero (k : UInt64) (v : Cbor) : Prop :=
  ∃ n, (unsignedUnder k v).getLast? = some n ∧ ¬ 2 ^ 32 ∣ n.toNat

/-! ## The test client -/

theorem toUInt32_eq_zero_iff {n : UInt64} : n.toUInt32 = 0 ↔ 2 ^ 32 ∣ n.toNat := by
  rw [← UInt32.toNat_inj, UInt64.toNat_toUInt32]
  exact Nat.dvd_iff_mod_eq_zero.symm

/-- A reader's status column: 0 unless the map ends with another unsigned integer. -/
theorem status_eq_zero_iff {S : Type} {fields : List (Field UInt64 Cbor S)} {start : S}
    (status : S → UInt32) (k : UInt64) (hstart : status start = 0)
    (hhere : ∀ value state, status (storeField fields k value state) =
      (value.asU64.map UInt64.toUInt32).getD (status state))
    (helse : ∀ key, key ≠ k → ∀ value state,
      status (storeField fields key value state) = status state) (v : Cbor) :
    status (readMap fields start v) = 0 ↔ ¬ EndsNonzero k v := by
  have hcolumn : status (readMap fields start v) =
      ((unsignedUnder k v).getLast?.map UInt64.toUInt32).getD 0 := by
    unfold readMap unsignedUnder
    cases v.asMap with
    | none => exact hstart
    | some entries =>
        have hread := readFields_column Cbor.asU64 hhere helse start entries
        have hmap : readUnder Cbor.asU64 k
            (fun value => value.asU64.map UInt64.toUInt32) entries =
            (readUnder Cbor.asU64 k Cbor.asU64 entries).map UInt64.toUInt32 := by
          unfold readUnder
          rw [List.map_filterMap]
          congr 1
          funext entry
          split <;> rfl
        rw [hread, hmap, List.getLast?_map, hstart]
  rw [hcolumn]
  unfold EndsNonzero
  cases (unsignedUnder k v).getLast? with
  | none => simp
  | some n => simp [toUInt32_eq_zero_iff]

theorem parseAuthResult_status {v : Cbor} :
    (TestClient.parseAuthResult v).status = 0 ↔ ¬ EndsNonzero 1 v := by
  refine status_eq_zero_iff AuthResult.status 1 rfl ?_ ?_ v
  · intro value state
    cases hvalue : value.asU64 <;>
      simp [storeField, TestClient.authResultFields, Field.keep, hvalue]
  · intro key hne value state
    simp only [TestClient.authResultFields, storeField_cons, storeField_nil]
    split_ifs with hstatus hpermission hidentity
    · exact absurd hstatus.symm hne
    · apply Field.part_keep AuthResult.status
      intro content state
      rfl
    · apply Field.part_keep AuthResult.status
      intro content state
      rfl
    · rfl

theorem parseOpenChannelAck_status {v : Cbor} :
    (TestClient.parseOpenChannelAck v).status = 0 ↔ ¬ EndsNonzero 2 v := by
  refine status_eq_zero_iff OpenChannelAck.status 2 rfl ?_ ?_ v
  · intro value state
    cases hvalue : value.asU64 <;>
      simp [storeField, TestClient.openChannelAckFields, Field.keep, hvalue]
  · intro key hne value state
    simp only [TestClient.openChannelAckFields, storeField_cons, storeField_nil]
    split_ifs with hid hstatus
    · apply Field.part_keep OpenChannelAck.status
      intro content state
      rfl
    · exact absurd hstatus.symm hne
    · rfl

def Received (cib : Ciborium) (type : ControlFrameType) (bytes : List UInt8) (v : Cbor) :
    Prop :=
  ∃ frame n, Frame.parse bytes = .ok (frame, n) ∧ frame.header.frameType = type.toU8 ∧
    cib.fromReader frame.payload = .ok v

theorem step_eq_ok {cib : Ciborium} {type : ControlFrameType} {frame : Frame}
    (status : Cbor → UInt32) (unexpected : Error) (refused : Cbor → Error) :
    (if frame.header.frameType ≠ type.toU8 then .error unexpected
      else cib.read frame.payload >>= fun v =>
        if status v ≠ 0 then .error (refused v) else pure ()) = Except.ok () ↔
      frame.header.frameType = type.toU8 ∧
        ∃ v, cib.fromReader frame.payload = .ok v ∧ status v = 0 := by
  by_cases htype : frame.header.frameType = type.toU8
  · rw [if_neg (not_not.mpr htype), bind_eq_ok]
    simp only [htype, true_and, Ciborium.read_eq_ok]
    refine exists_congr fun v => and_congr_right fun _ => ?_
    by_cases hstatus : status v = 0 <;> simp [hstatus, pure, Except.pure]
  · simp [htype]

theorem receiveAuthResult_eq_ok {cib : Ciborium} {bytes : List UInt8} :
    TestClient.receiveAuthResult cib bytes = .ok () ↔
      ∃ v, Received cib .authResult bytes v ∧ ¬ EndsNonzero 1 v := by
  simp only [TestClient.receiveAuthResult, bind_eq_ok, parsed_eq_ok, Prod.exists,
    ← parseAuthResult_status]
  constructor
  · rintro ⟨frame, n, hparse, hstep⟩
    obtain ⟨htype, v, hread, hstatus⟩ := (step_eq_ok _ _ _).mp hstep
    exact ⟨v, ⟨frame, n, hparse, htype, hread⟩, hstatus⟩
  · rintro ⟨v, ⟨frame, n, hparse, htype, hread⟩, hstatus⟩
    exact ⟨frame, n, hparse, (step_eq_ok _ _ _).mpr ⟨htype, v, hread, hstatus⟩⟩

theorem expectAck_eq_ok {cib : Ciborium} {label : String} {bytes : List UInt8} :
    TestClient.expectAck cib label bytes = .ok () ↔
      ∃ v, Received cib .openChannelAck bytes v ∧ ¬ EndsNonzero 2 v := by
  simp only [TestClient.expectAck, bind_eq_ok, parsed_eq_ok, Prod.exists,
    ← parseOpenChannelAck_status]
  constructor
  · rintro ⟨frame, n, hparse, hstep⟩
    obtain ⟨htype, v, hread, hstatus⟩ := (step_eq_ok _ _ _).mp hstep
    exact ⟨v, ⟨frame, n, hparse, htype, hread⟩, hstatus⟩
  · rintro ⟨v, ⟨frame, n, hparse, htype, hread⟩, hstatus⟩
    exact ⟨frame, n, hparse, (step_eq_ok _ _ _).mpr ⟨htype, v, hread, hstatus⟩⟩

/-! ## The web client -/

end OpenRD.Session
