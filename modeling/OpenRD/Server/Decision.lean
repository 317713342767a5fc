import OpenRD.Foundation.Moments
import OpenRD.Server.Transcript

/-!
# The authentication decision

What `authExchange` makes of the `AuthRequest` it reads: the last entry under each key
decides, and a refusal says nothing of the credential or the PIN.
-/

namespace OpenRD.Server

open OpenRD.Foundation OpenRD.Proto Control

/-! ## The request -/

/-- The value of the last entry under `k`. -/
def lastUnder (k : UInt64) (v : Cbor) : Option Cbor :=
  v.asMap.bind fun entries => (valuesUnder Cbor.asU64 k entries).getLast?

def Presents (v : Cbor) (method : String) (credential : List UInt8) : Prop :=
  lastUnder 1 v = some (.text method) ∧ lastUnder 2 v = some (.bytes credential)

theorem bind_asText_eq_some {value : Option Cbor} {contents : String} :
    value.bind Cbor.asText = some contents ↔ value = some (.text contents) := by
  rw [Option.bind_eq_some_iff]
  constructor
  · rintro ⟨value, rfl, hvalue⟩
    cases value <;> cases hvalue
    rfl
  · rintro rfl
    exact ⟨_, rfl, rfl⟩

theorem bind_asBytes_eq_some {value : Option Cbor} {contents : List UInt8} :
    value.bind Cbor.asBytes = some contents ↔ value = some (.bytes contents) := by
  rw [Option.bind_eq_some_iff]
  constructor
  · rintro ⟨value, rfl, hvalue⟩
    cases value <;> cases hvalue
    rfl
  · rintro rfl
    exact ⟨_, rfl, rfl⟩

theorem method_readFields (entries : List (Cbor × Cbor)) :
    (readFields Cbor.asU64 authRequestFields ⟨none, none⟩ entries).method =
      (lastUnder 1 (.map entries)).bind Cbor.asText := by
  refine (readFields_replace Cbor.asU64 1 AuthRequestFields.method id rfl (fun _ _ => rfl)
    ?_ _ entries).trans ?_
  · simp [authRequestFields, Field.replace]
  · simp only [lastUnder, Cbor.asMap_map, Option.bind_some]
    cases (valuesUnder Cbor.asU64 1 entries).getLast? <;> rfl

theorem credential_readFields (entries : List (Cbor × Cbor)) :
    (readFields Cbor.asU64 authRequestFields ⟨none, none⟩ entries).credential =
      (lastUnder 2 (.map entries)).bind Cbor.asBytes := by
  refine (readFields_replace Cbor.asU64 2 AuthRequestFields.credential id rfl
    (fun _ _ => rfl) ?_ _ entries).trans ?_
  · simp [authRequestFields, Field.replace]
  · simp only [lastUnder, Cbor.asMap_map, Option.bind_some]
    cases (valuesUnder Cbor.asU64 2 entries).getLast? <;> rfl

/-- The last entries alone decide what is read. -/
theorem parseAuthRequest_eq_ok {v : Cbor} {method : String} {credential : List UInt8} :
    parseAuthRequest v = .ok (method, credential) ↔ Presents v method credential := by
  unfold parseAuthRequest readMapOr Presents
  cases hmap : v.asMap with
  | none => simp [lastUnder, hmap]
  | some entries =>
      obtain rfl : v = .map entries := by
        cases v <;> cases hmap
        rfl
      simp only [ok_bind, bind_eq_ok, okOrElse_eq_ok, method_readFields,
        credential_readFields, bind_asText_eq_some, bind_asBytes_eq_some, pure, Except.pure,
        Except.ok.injEq, Prod.mk.injEq]
      constructor
      · rintro ⟨method, hmethod, credential, hcredential, rfl, rfl⟩
        exact ⟨hmethod, hcredential⟩
      · rintro ⟨hmethod, hcredential⟩
        exact ⟨_, hmethod, _, hcredential, rfl, rfl⟩

/-- An `AuthRequest` frame that carries `v`. -/
def CarriesAuthRequest (cib : Ciborium) (bytes : List UInt8) (v : Cbor) : Prop :=
  ∃ frame n, Frame.parse bytes = .ok (frame, n) ∧
    frame.header.frameType = ControlFrameType.authRequest.toU8 ∧
    cib.fromReader frame.payload = .ok v

theorem receiveAuthRequest_carried {cib : Ciborium} {bytes : List UInt8} {v : Cbor}
    (h : CarriesAuthRequest cib bytes v) :
    receiveAuthRequest cib bytes = parseAuthRequest v := by
  obtain ⟨frame, n, hparse, htype, hread⟩ := h
  have hpayload : withContext "decode AuthRequest CBOR" (cib.read frame.payload) = .ok v := by
    simpa using hread
  unfold receiveAuthRequest
  simp only [hparse, parsed, ok_bind, htype, ne_eq, not_true, if_false, hpayload]

/-! ## The answer -/

variable {server : ServerConfig} {bytes : List UInt8} {v : Cbor}

/-- Having read `bytes`, the exchange writes `payload` and then returns `success`. -/
def Concludes (server : ServerConfig) (bytes payload : List UInt8) (success : Bool) : Prop :=
  ∀ rest status, (authExchange server).ComesTo (readEvent bytes :: rest) status ↔
    (rest = [] ∧
      status = .error (.waiting (.writeFrame ControlFrameType.authResult.toU8 payload))) ∨
    ∃ answer, rest = [writeEvent .authResult payload answer] ∧
      status = (answer.mapError .failed).map fun _ => success

/-- Having read `bytes`, the exchange fails and writes nothing. -/
def Breaks (server : ServerConfig) (bytes : List UInt8) : Prop :=
  ∃ error, ∀ rest status, (authExchange server).ComesTo (readEvent bytes :: rest) status ↔
    rest = [] ∧ status = .error (.failed error)

theorem comesTo_authExchange {rest : List ControlEvent}
    {status : Except (Stop Request Error) Bool} :
    (authExchange server).ComesTo (readEvent bytes :: rest) status ↔
      Prog.Continued (receiveAuthRequest server.cib bytes) (fun (method, credential) => do
        let payload ← withContext "encode AuthResult"
          (server.cib.write (buildAuthResult
            (authDecision server method credential).1.toU32
            (authDecision server method credential).2.1
            (authDecision server method credential).2.2))
        writeFrame .authResult payload
        return (authDecision server method credential).1.toU32 == ErrorCode.ok.toU32)
        rest status := by
  refine Prog.comesTo_call_bind.trans ?_
  constructor
  · rintro (⟨hnil, -⟩ | ⟨answer, rest', hevents, h⟩)
    · cases hnil
    · cases hevents
      exact Prog.comesTo_lift_bind.mp h
  · intro h
    exact .inr ⟨_, _, rfl, Prog.comesTo_lift_bind.mpr h⟩

theorem breaks_of_error {error : Error}
    (h : receiveAuthRequest server.cib bytes = .error error) : Breaks server bytes := by
  refine ⟨error, fun rest status => ?_⟩
  rw [comesTo_authExchange, h]
  rfl

theorem concludes_of_ok {method : String} {credential payload : List UInt8}
    (h : receiveAuthRequest server.cib bytes = .ok (method, credential))
    (hpayload : server.cib.intoWriter (buildAuthResult
      (authDecision server method credential).1.toU32
      (authDecision server method credential).2.1
      (authDecision server method credential).2.2) = .ok payload) :
    Concludes server bytes payload
      ((authDecision server method credential).1.toU32 == ErrorCode.ok.toU32) := by
  intro rest status
  have hwritten : withContext "encode AuthResult" (server.cib.write (buildAuthResult
      (authDecision server method credential).1.toU32
      (authDecision server method credential).2.1
      (authDecision server method credential).2.2)) = .ok payload := by
    simpa using hpayload
  rw [comesTo_authExchange, h]
  refine Prog.comesTo_lift_bind.trans ?_
  rw [hwritten]
  refine Prog.comesTo_call_bind.trans (or_congr_right (exists_congr fun answer => ?_))
  cases answer with
  | ok value =>
      simp [Prog.Continued, Prog.comesTo_pure, writeEvent, Except.map, Except.mapError]
  | error error => simp [Prog.Continued, writeEvent, Except.map, Except.mapError]

/-! ## The decision -/

/-- A method and a credential are presented that do not fit the PIN. -/
def Denies (pin : String) (v : Cbor) : Prop :=
  ∃ method credential, Presents v method credential ∧
    ¬ (method = "pin" ∧ credential = asBytes pin)

/-- The status a refused method gets, whatever the credential. -/
def deniedStatus (method : String) : ErrorCode :=
  if method = "pin" then .authFailed else .notImplemented

theorem authDecision_denied {method : String} {credential : List UInt8}
    (h : ¬ (method = "pin" ∧ credential = asBytes server.expectedPin)) :
    authDecision server method credential = (deniedStatus method, "view-only", "") := by
  unfold authDecision deniedStatus
  by_cases hmethod : method = "pin"
  · have hcredential : ¬ credential = asBytes server.expectedPin := fun heq => h ⟨hmethod, heq⟩
    simp only [hmethod, if_true, constantTimeEq_iff, hcredential, if_false]
  · simp only [hmethod, if_false]

theorem authDecision_granted :
    authDecision server "pin" (asBytes server.expectedPin) =
      (.ok, "interactive", "pin-user-" ++ hexEncode server.idSeed.toList) := by
  simp [authDecision, constantTimeEq_iff]

theorem deniedStatus_ne (method : String) : (deniedStatus method).toU32 ≠ 0 := by
  unfold deniedStatus
  split <;> decide

theorem concludes_denied {method : String} {credential payload : List UInt8}
    (hcarried : CarriesAuthRequest server.cib bytes v) (hpresents : Presents v method credential)
    (hdenied : ¬ (method = "pin" ∧ credential = asBytes server.expectedPin))
    (hpayload : server.cib.intoWriter
      (buildAuthResult (deniedStatus method).toU32 "view-only" "") = .ok payload) :
    Concludes server bytes payload false := by
  have hreceived := (receiveAuthRequest_carried hcarried).trans
    (parseAuthRequest_eq_ok.mpr hpresents)
  have hdecision := authDecision_denied hdenied
  have hconcludes : Concludes server bytes payload _ :=
    concludes_of_ok hreceived (by rwa [hdecision])
  rw [hdecision] at hconcludes
  have hfalse : ((deniedStatus method).toU32 == ErrorCode.ok.toU32) = false :=
    beq_eq_false_iff_ne.mpr (deniedStatus_ne method)
  rwa [hfalse] at hconcludes

theorem concludes_granted {payload : List UInt8}
    (hcarried : CarriesAuthRequest server.cib bytes v)
    (hpresents : Presents v "pin" (asBytes server.expectedPin))
    (hpayload : server.cib.intoWriter (buildAuthResult 0 "interactive"
      ("pin-user-" ++ hexEncode server.idSeed.toList)) = .ok payload) :
    Concludes server bytes payload true := by
  have hreceived := (receiveAuthRequest_carried hcarried).trans
    (parseAuthRequest_eq_ok.mpr hpresents)
  have hconcludes : Concludes server bytes payload _ :=
    concludes_of_ok hreceived (by rwa [authDecision_granted])
  rwa [authDecision_granted] at hconcludes

theorem breaks_of_missing (hcarried : CarriesAuthRequest server.cib bytes v)
    (hmissing : ∀ method credential, ¬ Presents v method credential) :
    Breaks server bytes := by
  cases hreceived : receiveAuthRequest server.cib bytes with
  | error error => exact breaks_of_error hreceived
  | ok result =>
      rw [receiveAuthRequest_carried hcarried] at hreceived
      exact absurd (parseAuthRequest_eq_ok.mp hreceived) (hmissing _ _)

theorem Concludes.returned {payload : List UInt8} {success success' : Bool}
    (h : Concludes server bytes payload success) {rest : List ControlEvent}
    (hcomes : (authExchange server).ComesTo (readEvent bytes :: rest) (.ok success')) :
    success' = success := by
  obtain ⟨-, hwaits⟩ | ⟨answer, -, hstatus⟩ := (h rest (.ok success')).mp hcomes
  · cases hwaits
  · cases answer with
    | ok value => simpa [Except.mapError, Except.map] using hstatus
    | error error => simp [Except.mapError, Except.map] at hstatus

/--
The exchange returns true just when the last entries are the method `"pin"` and the PIN, and
then it grants.  It refuses any other method and credential, and two refusals of one method
are the same bytes, whatever the credentials and the PINs.  When an entry is missing or
ill-typed it writes nothing.
-/
theorem authExchange_exact (hwriter : server.cib.Writes)
    (hcarried : CarriesAuthRequest server.cib bytes v) :
    (∀ a b, constantTimeEq a b = true ↔ a = b) ∧
    (∀ rest success,
      (authExchange server).ComesTo (readEvent bytes :: rest) (.ok success) →
        (success = true ↔ Presents v "pin" (asBytes server.expectedPin))) ∧
    (Presents v "pin" (asBytes server.expectedPin) →
      ∃ identity payload,
        server.cib.intoWriter (.map [(.uint 1, .uint 0), (.uint 2, .text "interactive"),
          (.uint 3, .text identity)]) = .ok payload ∧
        Concludes server bytes payload true) ∧
    (Denies server.expectedPin v →
      ∃ (status : UInt32) (payload : List UInt8), status ≠ 0 ∧
        server.cib.intoWriter (.map [(.uint 1, .uint status.toUInt64),
          (.uint 2, .text "view-only"), (.uint 3, .text "")]) = .ok payload ∧
        Concludes server bytes payload false ∧
        ∀ server' bytes' v', server'.cib = server.cib →
          CarriesAuthRequest server'.cib bytes' v' → Denies server'.expectedPin v' →
          lastUnder 1 v' = lastUnder 1 v → Concludes server' bytes' payload false) ∧
    ((∀ method credential, ¬ Presents v method credential) → Breaks server bytes) := by
  have hgranted (hpresents : Presents v "pin" (asBytes server.expectedPin)) :
      ∃ identity payload,
        server.cib.intoWriter (.map [(.uint 1, .uint 0), (.uint 2, .text "interactive"),
          (.uint 3, .text identity)]) = .ok payload ∧
        Concludes server bytes payload true := by
    obtain ⟨payload, hpayload⟩ := hwriter (buildAuthResult 0 "interactive"
      ("pin-user-" ++ hexEncode server.idSeed.toList))
    exact ⟨_, payload, hpayload, concludes_granted hcarried hpresents hpayload⟩
  have hdenied (hdenies : Denies server.expectedPin v) :
      ∃ (status : UInt32) (payload : List UInt8), status ≠ 0 ∧
        server.cib.intoWriter (.map [(.uint 1, .uint status.toUInt64),
          (.uint 2, .text "view-only"), (.uint 3, .text "")]) = .ok payload ∧
        Concludes server bytes payload false ∧
        ∀ server' bytes' v', server'.cib = server.cib →
          CarriesAuthRequest server'.cib bytes' v' → Denies server'.expectedPin v' →
          lastUnder 1 v' = lastUnder 1 v → Concludes server' bytes' payload false := by
    obtain ⟨method, credential, hpresents, hwrong⟩ := hdenies
    obtain ⟨payload, hpayload⟩ := hwriter (buildAuthResult (deniedStatus method).toU32
      "view-only" "")
    refine ⟨_, payload, deniedStatus_ne method, hpayload,
      concludes_denied hcarried hpresents hwrong hpayload, ?_⟩
    rintro server' bytes' v' hcib hcarried' ⟨method', credential', hpresents', hwrong'⟩ hsame
    have hmethod := hpresents'.1.symm.trans (hsame.trans hpresents.1)
    simp only [Option.some.injEq, Cbor.text.injEq] at hmethod
    subst hmethod
    exact concludes_denied hcarried' hpresents' hwrong' (hcib ▸ hpayload)
  refine ⟨fun a b => constantTimeEq_iff, ?_, hgranted, hdenied, breaks_of_missing hcarried⟩
  intro rest success hcomes
  by_cases hpresents : Presents v "pin" (asBytes server.expectedPin)
  · obtain ⟨identity, payload, -, hconcludes⟩ := hgranted hpresents
    simp [hconcludes.returned hcomes, hpresents]
  · by_cases hdenies : Denies server.expectedPin v
    · obtain ⟨status, payload, -, -, hconcludes, -⟩ := hdenied hdenies
      simp [hconcludes.returned hcomes, hpresents]
    · have hmissing (method : String) (credential : List UInt8) :
          ¬ Presents v method credential := by
        intro h
        refine hdenies ⟨method, credential, h, ?_⟩
        rintro ⟨rfl, rfl⟩
        exact hpresents h
      obtain ⟨error, hbreaks⟩ := breaks_of_missing hcarried hmissing
      cases ((hbreaks _ _).mp hcomes).2

/-- A request that names another method first, and the PIN's only then. -/
def changedMind : Cbor :=
  .map [(key 1, .text "token"), (key 2, .bytes (asBytes "493817")), (key 1, .text "pin")]

def changedMindFrame : List UInt8 :=
  Frame.encode ControlFrameType.authRequest.toU8 (CborWire.encode changedMind) []

theorem authExchange_changedMind :
    ∃ payload, Concludes (.rfc8949 true "493817") changedMindFrame payload true := by
  have hcarried : CarriesAuthRequest .rfc8949 changedMindFrame changedMind := by
    refine ⟨_, _, Frame.parse_encode _ (by decide +kernel), rfl, ?_⟩
    have hfits : (CborWire.encode changedMind).length < 2 ^ 64 := by decide +kernel
    simpa using Ciborium.rfc8949_fromReader hfits []
  have hgranted : ∃ identity payload,
      (ServerConfig.rfc8949 true "493817").cib.intoWriter
        (buildAuthResult 0 "interactive" identity) = .ok payload ∧
      Concludes (.rfc8949 true "493817") changedMindFrame payload true :=
    (authExchange_exact Ciborium.rfc8949_writes hcarried).2.2.1 ⟨rfl, rfl⟩
  obtain ⟨identity, payload, -, hconcludes⟩ := hgranted
  exact ⟨payload, hconcludes⟩

end OpenRD.Server
