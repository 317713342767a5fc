import Mathlib.Data.Set.Card
import OpenRD.Session.Gate

/-!
# The server and its sessions

`main` draws a PIN and accepts sessions for ever, each served by a task of its own.  The
tasks share nothing but the PIN, so what holds of one session holds of each of them; and a
PIN lets in those clients only that present it in the one `AuthRequest` a session reads.
-/

namespace OpenRD.Session

open OpenRD.Foundation OpenRD.Proto OpenRD.Server

/-! ## The PIN -/

/-- `format!("{:09}", draw)`. -/
def formatPin (draw : UInt32) : String :=
  String.ofList (List.leftpad 9 '0' (Nat.toDigits 10 draw.toNat))

/-- `random_range(0..1_000_000_000u32)`. -/
def InPinRange (draw : UInt32) : Prop := draw.toNat < 1000000000

theorem formatPin_digits {draw : UInt32} (h : InPinRange draw) :
    (formatPin draw).length = 9 ∧ ∀ c ∈ (formatPin draw).toList, c.isDigit := by
  have hlength : (Nat.toDigits 10 draw.toNat).length ≤ 9 :=
    (Nat.length_toDigits_le_iff (by decide) (by decide)).mpr h
  refine ⟨?_, fun c hmem => ?_⟩
  · rw [formatPin, String.length_ofList, List.length_leftpad]
    exact max_eq_left hlength
  · rw [formatPin, String.toList_ofList, List.leftpad, List.mem_append] at hmem
    rcases hmem with hmem | hmem
    · rw [List.eq_of_mem_replicate hmem]
      rfl
    · exact Nat.isDigit_of_mem_toDigits (by decide) le_rfl hmem

theorem formatPin_injective : Function.Injective formatPin := by
  intro draw draw' h
  have hvalue (draw : UInt32) :
      Nat.ofDigitChars 10 (formatPin draw).toList 0 = draw.toNat := by
    rw [formatPin, String.toList_ofList, List.leftpad, Nat.ofDigitChars_append,
      Nat.ofDigitChars_replicate_zero, Nat.mul_zero, Nat.ofDigitChars_ten_toDigits]
  exact UInt32.toNat_inj.mp ((hvalue draw).symm.trans (h ▸ hvalue draw'))

/-! ## The task of a session -/

inductive ConnectionRequest where
  /-- `incoming.await`, answered by the path. -/
  | request
  /-- `session_req.accept().await`. -/
  | accept
  | acceptBi
  | handleControlStream (recv : RecvStream)

abbrev ConnectionRequest.Answer : ConnectionRequest → Type
  | .request => Except Error String
  | .accept => Except Error Unit
  | .acceptBi => Except Error RecvStream
  | .handleControlStream _ => Except Error Unit

inductive ConnectionLog where
  | newSession (path : String)
  | unexpectedPath (path : String)
  | acceptedControl
  | controlFailed (error : Error)
  | sessionEnding

abbrev ConnectionProg :=
  Prog ConnectionRequest ConnectionRequest.Answer ConnectionLog Error

def serveSession : ConnectionProg Unit := do
  let path ← Prog.call .request id
  Prog.call .accept id
  .say (.newSession path)
  if !path.startsWith "/openrd" then .say (.unexpectedPath path)
  let recv ← Prog.call .acceptBi id
  .say .acceptedControl
  let result ← Prog.call (.handleControlStream recv) .ok
  if let .error error := result then .say (.controlFailed error)
  .say .sessionEnding

/-! ## Connections -/

/-- What `handle_control_stream` is called with, and how far it has come. -/
structure ControlCall where
  server : ServerConfig
  control : RecvStream
  state : State

structure ConnectionWorld where
  /-- What the session's task will draw and read from the clock. -/
  sessionId : Vector UInt8 16
  serverTime : UInt64
  idSeed : Vector UInt8 4
  call : Option ControlCall

/-- What the transport makes of a connection. -/
structure ConnectionChoice where
  path : Except Error String
  accepted : Except Error Unit
  control : Except Error RecvStream

/-- The build of the server, and the PIN of this run of it. -/
structure ServerInstance where
  cib : Ciborium
  overflowChecks : Bool
  pin : String

def ServerInstance.server (server : ServerInstance) (world : ConnectionWorld) : ServerConfig where
  cib := server.cib
  overflowChecks := server.overflowChecks
  expectedPin := server.pin
  sessionId := world.sessionId
  serverTime := world.serverTime
  idSeed := world.idSeed

def connectionEnv (server : ServerInstance) :
    Env ConnectionRequest ConnectionRequest.Answer ConnectionLog ConnectionWorld
      ConnectionChoice where
  answer world question choice :=
    match question with
    | .request => some (choice.path, world)
    | .accept => some (choice.accepted, world)
    | .acceptBi =>
        match choice.control with
        | .ok control =>
            let config := server.server world
            some (.ok control, { world with call := some ⟨config, control, start config control⟩ })
        | .error error => some (.error error, world)
    | .handleControlStream _ =>
        world.call.bind fun call => call.state.outcome.map fun result => (result, world)
  perform world _ := world

abbrev Connection :=
  Running ConnectionRequest ConnectionRequest.Answer ConnectionLog ConnectionWorld Error Unit

/-! ## The listener -/

abbrev Listener := List Connection

inductive ListenerAction where
  /-- `server.accept().await`, and the task of the session it brings is spawned. -/
  | accept (sessionId : Vector UInt8 16) (serverTime : UInt64) (idSeed : Vector UInt8 4)
  | connection (index : ℕ) (choice : ConnectionChoice)
  | session (index : ℕ) (action : Action)

def Connection.stepSession (connection : Connection) (action : Action) : Option Connection :=
  connection.world.call.bind fun call =>
    (step call.server call.state action).map fun state =>
      { connection with world := { connection.world with call := some { call with state } } }

def Listener.step (server : ServerInstance) (listener : Listener) :
    ListenerAction → Option Listener
  | .accept sessionId serverTime idSeed =>
      some (listener ++ [(connectionEnv server).settle serveSession []
        ⟨sessionId, serverTime, idSeed, none⟩])
  | .connection index choice =>
      listener[index]?.bind fun connection =>
        ((connectionEnv server).advance connection choice).map (listener.set index)
  | .session index action =>
      listener[index]?.bind fun connection =>
        (connection.stepSession action).map (listener.set index)

def Listener.Reachable (server : ServerInstance) (listener : Listener) : Prop :=
  ∃ actions : List ListenerAction, actions.foldlM (Listener.step server) [] = some listener

/-! ## Every session is served on its own -/

variable {server : ServerInstance} {listener : Listener} {connection connection' : Connection}
  {call : ControlCall}

/-- The call is a session of its own, with the PIN of the server. -/
structure ControlCall.Served (server : ServerInstance) (call : ControlCall) : Prop where
  cib : call.server.cib = server.cib
  pin : call.server.expectedPin = server.pin
  reachable : Session.Reachable call.server call.control call.state

def ConnectionWorld.Served (server : ServerInstance) (world : ConnectionWorld) : Prop :=
  ∀ call ∈ world.call, call.Served server

theorem served_answer {world world' : ConnectionWorld} {question : ConnectionRequest}
    {choice : ConnectionChoice} {answer : question.Answer} (h : world.Served server)
    (hanswer : (connectionEnv server).answer world question choice = some (answer, world')) :
    world'.Served server := by
  cases question with
  | request | accept =>
      cases hanswer
      exact h
  | acceptBi =>
      simp only [connectionEnv] at hanswer
      split at hanswer
      · cases hanswer
        rintro call ⟨⟩
        exact ⟨rfl, rfl, [], rfl⟩
      · cases hanswer
        exact h
  | handleControlStream recv =>
      obtain ⟨call, -, hanswer⟩ := Option.bind_eq_some_iff.mp hanswer
      obtain ⟨result, -, hanswer⟩ := Option.map_eq_some_iff.mp hanswer
      cases hanswer
      exact h

theorem served_advance {choice : ConnectionChoice} (h : connection.world.Served server)
    (hstep : (connectionEnv server).advance connection choice = some connection') :
    connection'.world.Served server :=
  Running.advance_ties (J := fun _ world => world.Served server)
    (fun _ _ _ _ _ _ h hanswer => served_answer h hanswer) (fun _ _ _ h => h) h hstep

theorem served_stepSession {action : Action} (h : connection.world.Served server)
    (hstep : connection.stepSession action = some connection') :
    connection'.world.Served server := by
  obtain ⟨call, hcall, hstep⟩ := Option.bind_eq_some_iff.mp hstep
  obtain ⟨state, hstate, rfl⟩ := Option.map_eq_some_iff.mp hstep
  have hserved := h call hcall
  rintro call' ⟨⟩
  exact ⟨hserved.cib, hserved.pin, hserved.reachable.step action hstate⟩

theorem served_step {listener' : Listener} {action : ListenerAction}
    (h : ∀ connection ∈ listener, connection.world.Served server)
    (hstep : listener.step server action = some listener') :
    ∀ connection ∈ listener', connection.world.Served server := by
  have hset {index : ℕ} {stepped : Connection} (hstepped : stepped.world.Served server) :
      ∀ connection ∈ listener.set index stepped, connection.world.Served server := by
    intro connection hmem
    rcases List.mem_or_eq_of_mem_set hmem with hmem | rfl
    · exact h connection hmem
    · exact hstepped
  cases action with
  | accept sessionId serverTime idSeed =>
      cases hstep
      intro connection hmem
      rcases List.mem_append.mp hmem with hmem | hmem
      · exact h connection hmem
      · rw [List.mem_singleton.mp hmem]
        have hstart : ConnectionWorld.Served server ⟨sessionId, serverTime, idSeed, none⟩ := by
          rintro call ⟨⟩
        exact @Running.settle_ties _ _ _ _ _ _ _ (connectionEnv server)
          (fun _ world => world.Served server) (fun _ _ _ h => h) serveSession [] _ hstart
  | connection index choice =>
      obtain ⟨connection, hmem, hstep⟩ := Option.bind_eq_some_iff.mp hstep
      obtain ⟨connection', hadvance, rfl⟩ := Option.map_eq_some_iff.mp hstep
      exact hset (served_advance (h connection (List.mem_of_getElem? hmem)) hadvance)
  | session index action =>
      obtain ⟨connection, hmem, hstep⟩ := Option.bind_eq_some_iff.mp hstep
      obtain ⟨connection', hsession, rfl⟩ := Option.map_eq_some_iff.mp hstep
      exact hset (served_stepSession (h connection (List.mem_of_getElem? hmem)) hsession)

theorem Listener.Reachable.served (h : listener.Reachable server) :
    ∀ connection ∈ listener, ∀ call ∈ connection.world.call, call.Served server := by
  obtain ⟨actions, hrun⟩ := h
  exact invariant_of_run
    (fun listener => ∀ connection ∈ listener, connection.world.Served server)
    (fun _ _ _ => served_step) (fun _ hmem => nomatch hmem) hrun

/-! ## Guessing the PIN -/

/-- Some client got past authentication. -/
def Listener.Admits (listener : Listener) : Prop :=
  ∃ connection ∈ listener, ∃ call ∈ connection.world.call,
    ∃ event ∈ call.state.history, NeedsAuth event

/-- All that the clients send on their Control streams is among `controls`. -/
def Listener.Sends (listener : Listener) (controls : Finset RecvStream) : Prop :=
  ∀ connection ∈ listener, ∀ call ∈ connection.world.call, call.control ∈ controls

/-- What a client sends on Control presents this PIN. -/
def Guesses (cib : Ciborium) (control : RecvStream) (pin : String) : Prop :=
  ∃ bytes, authFrame control = .ok bytes ∧ AcceptsAuth cib bytes "pin" (asBytes pin)

theorem guesses_of_admitted {config : ServerConfig} {control : RecvStream} {session : State}
    (h : Session.Reachable config control session) {event : ControlEvent}
    (hmem : event ∈ session.history) (hneeds : NeedsAuth event) :
    Guesses config.cib control config.expectedPin := by
  have hreads := reachable_reads h
  rcases transcript_guarded (reachable_transcript h) with hguarded |
    ⟨hello, auth, events, hstatus, -, hserved⟩
  · exact absurd hneeds (hguarded event hmem)
  · rw [hserved] at hreads
    exact ⟨auth.bytes, (reads_of_hello hreads).2, accepts_of_status hstatus⟩

theorem Listener.Reachable.guessed {controls : Finset RecvStream}
    (h : listener.Reachable server) (hsends : listener.Sends controls)
    (hadmits : listener.Admits) : ∃ control ∈ controls, Guesses server.cib control server.pin := by
  obtain ⟨connection, hmem, call, hcall, event, hevent, hneeds⟩ := hadmits
  have hserved := h.served connection hmem call hcall
  have hguess := guesses_of_admitted hserved.reachable hevent hneeds
  rw [hserved.cib, hserved.pin] at hguess
  exact ⟨call.control, hsends connection hmem call hcall, hguess⟩

/-- A session reads one `AuthRequest`, so its client has one guess. -/
theorem Guesses.eq {cib : Ciborium} {control : RecvStream} {pin pin' : String}
    (h : Guesses cib control pin) (h' : Guesses cib control pin') : pin = pin' := by
  obtain ⟨bytes, hbytes, haccepts⟩ := h
  obtain ⟨bytes', hbytes', haccepts'⟩ := h'
  cases hbytes.symm.trans hbytes'
  have hsame := (receiveAuthRequest_eq_ok.mpr haccepts).symm.trans
    (receiveAuthRequest_eq_ok.mpr haccepts')
  have hcredential : asBytes pin = asBytes pin' :=
    congrArg Prod.snd (Except.ok.inj hsame)
  have hdecoded := congrArg ofUtf8? hcredential
  simpa [asBytes] using hdecoded

/--
However many sessions a server accepts: as many different things as its clients send on their
Control streams, so many of the PINs it may have drawn let one of them in, at most.
-/
theorem guesses_admitted_le (cib : Ciborium) (overflowChecks : Bool)
    (controls : Finset RecvStream) :
    {draw | InPinRange draw ∧ ∃ listener : Listener,
      listener.Reachable ⟨cib, overflowChecks, formatPin draw⟩ ∧ listener.Sends controls ∧
        listener.Admits}.ncard ≤ controls.card := by
  have hguess (draw : UInt32) (hdraw : InPinRange draw ∧ ∃ listener : Listener,
      listener.Reachable ⟨cib, overflowChecks, formatPin draw⟩ ∧ listener.Sends controls ∧
        listener.Admits) : ∃ control ∈ controls, Guesses cib control (formatPin draw) := by
    obtain ⟨-, listener, hreachable, hsends, hadmits⟩ := hdraw
    exact hreachable.guessed hsends hadmits
  have : Nonempty RecvStream := ⟨⟨[], [], none⟩⟩
  choose! guess hmem hguesses using hguess
  rw [← Set.ncard_coe_finset controls]
  refine Set.ncard_le_ncard_of_injOn guess hmem ?_ controls.finite_toSet
  intro draw hdraw draw' hdraw' hsame
  have hdraw := hguesses draw hdraw
  rw [hsame] at hdraw
  exact formatPin_injective (hdraw.eq (hguesses draw' hdraw'))

end OpenRD.Session
