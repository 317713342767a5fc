import OpenRD.Server.Control
import OpenRD.TestClient.Messages
import OpenRD.TestClient.Wire

/-!
# Both peers derive the same profile

Each side decodes the other's capabilities exactly, so the two negotiations are
about the same pair of advertisements.
-/

namespace OpenRD.Session

open OpenRD.Foundation OpenRD.Proto OpenRD.Server

/-! ## Frames that carry a written value -/

/-- The frame in which `value` travels, when `payload` is what the library wrote. -/
structure Carries (cib : Ciborium) (value : Cbor) (payload : List UInt8) : Prop where
  written : cib.intoWriter value = .ok payload
  readBack : cib.fromReader payload = .ok value
  fits : payload.length ≤ maxFrameLength

theorem carries_of_lossless {cib : Ciborium} {value : Cbor} {payload : List UInt8}
    (h : cib.Lossless value) (hwritten : cib.intoWriter value = .ok payload)
    (hfits : payload.length ≤ maxFrameLength) : Carries cib value payload := by
  obtain ⟨payload', hwritten', hread⟩ := h
  cases hwritten.symm.trans hwritten'
  exact ⟨hwritten, hread, hfits⟩

theorem carries_rfc8949 {value : Cbor}
    (h : (CborWire.encode value).length ≤ maxFrameLength) :
    Carries Ciborium.rfc8949 value (CborWire.encode value) :=
  carries_of_lossless
    (Ciborium.rfc8949_lossless (h.trans_lt (by decide))) rfl h

/-! ## Each peer reads the other's hello -/

theorem parseClientHello_clientHello (caps : Capabilities) :
    parseClientHello (TestClient.clientHello caps) =
      .ok (0, "openrd-test-client/0.0.1", caps) := by
  simp [TestClient.clientHello, parseClientHello, readMapOr, readFields, storeField,
    clientHelloFields, Field.replace, okOrElse, Capabilities.fromCbor_toCbor,
    ProtocolVersion.v0]

theorem describeServerHello_buildServerHello (protoV : UInt64) (serverName : String)
    (caps : Capabilities) (sessionId : Vector UInt8 16) (serverTime : UInt64) :
    TestClient.describeServerHello
      (buildServerHello protoV serverName caps sessionId serverTime) = caps := by
  simp [buildServerHello, TestClient.describeServerHello, readMap, readFields,
    storeField, TestClient.serverHelloFields, Field.replace,
    Capabilities.fromCbor_toCbor]

theorem receiveClientHello_sent {cib : Ciborium} {caps : Capabilities}
    {payload : List UInt8} (h : Carries cib (TestClient.clientHello caps) payload) :
    receiveClientHello cib
        (Frame.encode ControlFrameType.clientHello.toU8 payload []) =
      .ok (0, "openrd-test-client/0.0.1", caps) :=
  receiveClientHello_eq_ok.mpr ⟨_, _, _, Frame.parse_encode _ h.fits, rfl, rfl,
    h.readBack, parseClientHello_clientHello caps⟩

theorem receiveServerHello_sent {cib : Ciborium} {protoV : UInt64} {serverName : String}
    {caps : Capabilities} {sessionId : Vector UInt8 16} {serverTime : UInt64}
    {payload : List UInt8}
    (h : Carries cib (buildServerHello protoV serverName caps sessionId serverTime)
      payload) :
    TestClient.receiveServerHello cib
        (Frame.encode ControlFrameType.serverHello.toU8 payload []) = .ok caps := by
  have hread := Ciborium.read_eq_ok.mpr h.readBack
  rw [TestClient.receiveServerHello, Frame.parse_encode _ h.fits]
  simp [parsed, hread, withContext, describeServerHello_buildServerHello, pure,
    Except.pure]

/-- The two negotiations of a session have the same outcome. -/
theorem negotiation_agrees {cib : Ciborium} {c s : Capabilities} {protoV : UInt64}
    {serverName : String} {sessionId : Vector UInt8 16} {serverTime : UInt64}
    {clientPayload serverPayload : List UInt8}
    (hclient : TestClient.encodeClientHello cib c = .ok clientPayload)
    (hserver : cib.intoWriter
      (buildServerHello protoV serverName s sessionId serverTime) = .ok serverPayload)
    (hclientLossless : cib.Lossless (TestClient.clientHello c))
    (hserverLossless :
      cib.Lossless (buildServerHello protoV serverName s sessionId serverTime))
    (hclientFits : clientPayload.length ≤ maxFrameLength)
    (hserverFits : serverPayload.length ≤ maxFrameLength)
    (rest rest' : List UInt8) (cuts cuts' : List Nat) (ending ending' : Option Error) :
    ∃ clientBytes serverBytes clientVersion clientName c' s',
      (readFullFrame ⟨Frame.encode ControlFrameType.clientHello.toU8 clientPayload [] ++
        rest, cuts, ending⟩).1 = .ok clientBytes ∧
      receiveClientHello cib clientBytes = .ok (clientVersion, clientName, c') ∧
      (TestClient.readFrame
        ⟨Frame.encode ControlFrameType.serverHello.toU8 serverPayload [] ++ rest',
          cuts', ending'⟩).1 = .ok serverBytes ∧
      TestClient.receiveServerHello cib serverBytes = .ok s' ∧
      NegotiatedProfile.negotiate c' s = NegotiatedProfile.negotiate c s' := by
  have hwritten : cib.intoWriter (TestClient.clientHello c) = .ok clientPayload := by
    rw [TestClient.encodeClientHello] at hclient
    revert hclient
    cases cib.intoWriter (TestClient.clientHello c) with
    | ok payload => simp [TestClient.expectWritten]
    | error text => simp [TestClient.expectWritten]
  obtain ⟨_, hclientRead⟩ := readFrameWith_encode Server.readerTexts
    ControlFrameType.clientHello.toU8 hclientFits rest cuts ending
  obtain ⟨_, hserverRead⟩ := readFrameWith_encode TestClient.readerTexts
    ControlFrameType.serverHello.toU8 hserverFits rest' cuts' ending'
  refine ⟨_, _, 0, "openrd-test-client/0.0.1", c, s, congrArg Prod.fst hclientRead, ?_,
    congrArg Prod.fst hserverRead, ?_, rfl⟩
  · exact receiveClientHello_sent (carries_of_lossless hclientLossless hwritten hclientFits)
  · exact receiveServerHello_sent (carries_of_lossless hserverLossless hserver hserverFits)

theorem negotiation_agrees_small_client :
    let c := { Capabilities.default with
      audioCodecs := [], displayMaxResolution := (800, 600) }
    ∃ clientBytes serverBytes clientVersion clientName c' s',
      (readFullFrame ⟨Frame.encode ControlFrameType.clientHello.toU8
        (CborWire.encode (TestClient.clientHello c)) [] ++ [], [1, 7], none⟩).1 =
          .ok clientBytes ∧
      receiveClientHello Ciborium.rfc8949 clientBytes =
        .ok (clientVersion, clientName, c') ∧
      (TestClient.readFrame ⟨Frame.encode ControlFrameType.serverHello.toU8
        (CborWire.encode (buildServerHello 0 "openrd-server/0.0.1" Capabilities.default
          (Vector.replicate 16 0) 0)) [] ++ [], [6, 2], none⟩).1 = .ok serverBytes ∧
      TestClient.receiveServerHello Ciborium.rfc8949 serverBytes = .ok s' ∧
      NegotiatedProfile.negotiate c' Capabilities.default =
        NegotiatedProfile.negotiate c s' :=
  negotiation_agrees rfl rfl (Ciborium.rfc8949_lossless (by decide +kernel))
    (Ciborium.rfc8949_lossless (by decide +kernel)) (by decide +kernel)
    (by decide +kernel) [] [] [1, 7] [6, 2]
    none none

end OpenRD.Session
