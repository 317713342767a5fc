import OpenRD.Session.Dispatch

/-!
# Which stream goes to which handler

The streams of a direction wait in the order in which the client opened them, and the
acknowledged requests take them in the order of the requests.  How requests and opens
interleave does not matter.
-/

namespace OpenRD.Session

open OpenRD.Foundation OpenRD.Proto OpenRD.Server

/-! ## The queues -/

def World.openedIn (world : World) : Direction → List ClientStream
  | .uni => world.openedUni
  | .bi => world.openedBi

def World.pendingIn (world : World) : Direction → List ClientStream
  | .uni => world.pendingUni
  | .bi => world.pendingBi

def World.clients (world : World) : List (UInt64 × ClientStream) :=
  (world.handlers.map Spawned.task).filterMap Task.client

def acceptedIn (history : List ControlEvent) (d : Direction) : List ClientStream :=
  ((history.filterMap acceptOf).filter fun accepted => accepted.1 = d).map Prod.snd

/-- Every stream the client opened was accepted or waits, in the order of the opens. -/
structure Queued (history : List ControlEvent) (world : World) : Prop where
  opened : ∀ d, world.openedIn d = acceptedIn history d ++ world.pendingIn d
  numbered : ∀ d, (world.openedIn d).map ClientStream.number =
    List.range (world.openedIn d).length
  started : world.clients = history.filterMap startOf

theorem acceptedIn_append_silent {history : List ControlEvent} {event : ControlEvent}
    (h : acceptOf event = none) (d : Direction) :
    acceptedIn (history ++ [event]) d = acceptedIn history d := by
  simp [acceptedIn, h]

theorem acceptedIn_append_accept {history : List ControlEvent} {event : ControlEvent}
    {stream : ClientStream} {d : Direction} (h : acceptOf event = some (d, stream))
    (d' : Direction) :
    acceptedIn (history ++ [event]) d' =
      acceptedIn history d' ++ if d = d' then [stream] else [] := by
  by_cases hd : d = d' <;> simp [acceptedIn, h, hd]

theorem Queued.silent {history : List ControlEvent} {world world' : World}
    {event : ControlEvent} (h : Queued history world) (haccept : acceptOf event = none)
    (hstart : startOf event = none) (hopened : world'.openedIn = world.openedIn)
    (hpending : world'.pendingIn = world.pendingIn)
    (hclients : world'.clients = world.clients) :
    Queued (history ++ [event]) world' where
  opened d := by
    rw [acceptedIn_append_silent haccept, hopened, hpending, h.opened]
  numbered d := by rw [hopened, h.numbered]
  started := by
    rw [List.filterMap_append, hclients, h.started]
    simp [hstart]

theorem Queued.accept {history : List ControlEvent} {world world' : World}
    {event : ControlEvent} {d : Direction} {stream : ClientStream}
    (h : Queued history world) (haccept : acceptOf event = some (d, stream))
    (hstart : startOf event = none) (hopened : world'.openedIn = world.openedIn)
    (hfirst : world.pendingIn d = stream :: world'.pendingIn d)
    (hother : ∀ d', d ≠ d' → world'.pendingIn d' = world.pendingIn d')
    (hclients : world'.clients = world.clients) :
    Queued (history ++ [event]) world' where
  opened d' := by
    rw [acceptedIn_append_accept haccept, hopened, h.opened]
    by_cases hd : d = d'
    · subst hd
      simp [hfirst]
    · simp [hd, hother d' hd]
  numbered d' := by rw [hopened, h.numbered]
  started := by
    rw [List.filterMap_append, hclients, h.started]
    simp [hstart]

theorem Queued.open {history : List ControlEvent} {world world' : World}
    (h : Queued history world) (d : Direction) (stream : ClientStream)
    (hnumber : stream.number = (world.openedIn d).length)
    (hopened : ∀ d', world'.openedIn d' = world.openedIn d' ++ if d = d' then [stream] else [])
    (hpending : ∀ d',
      world'.pendingIn d' = world.pendingIn d' ++ if d = d' then [stream] else [])
    (hclients : world'.clients = world.clients) : Queued history world' where
  opened d' := by rw [hopened, hpending, h.opened, List.append_assoc]
  numbered d' := by
    rw [hopened]
    by_cases hd : d = d'
    · subst hd
      simp [h.numbered, hnumber, List.range_succ]
    · simp [hd, h.numbered]
  started := hclients.trans h.started

theorem clients_stepHandler {world world' : World} {index : Nat} {choice : HandlerChoice}
    (h : world.stepHandler index choice = some world') : world'.clients = world.clients := by
  obtain ⟨spawned, run, hspawned, -, rfl⟩ := World.stepHandler_eq_some.mp h
  have htasks : (world.handlers.map Spawned.task)[index]? = some spawned.task := by
    simp [hspawned]
  obtain ⟨hlt, htask⟩ := List.getElem?_eq_some_iff.mp htasks
  simp only [World.clients, List.map_set]
  rw [← htask, List.set_getElem_self]

theorem queued_of_reachable {server : ServerConfig} {control : RecvStream}
    {session : State} (h : Reachable server control session) :
    Queued session.history session.world := by
  refine reachable_ties (J := Queued) ?_ ?_ ?_ ?_ ?_ ?_ h
  · exact ⟨fun d => by cases d <;> rfl, fun d => by cases d <;> rfl, rfl⟩
  · intro history world question fault answer world' hqueued hanswer
    cases question with
    | readFullFrame | readFullFrameOpt | writeFrame | openUni | writeUni =>
        simp only [controlEnv, Option.some.injEq, Prod.mk.injEq] at hanswer
        obtain ⟨-, rfl⟩ := hanswer
        exact hqueued.silent rfl rfl rfl rfl rfl
    | acceptUni =>
        simp only [controlEnv] at hanswer
        split at hanswer
        · cases hanswer
          exact hqueued.silent rfl rfl rfl rfl rfl
        · next hpending =>
            cases hanswer
            exact hqueued.accept rfl rfl rfl hpending (fun d hd => by cases d <;> trivial)
              rfl
        · cases hanswer
    | acceptBi =>
        simp only [controlEnv] at hanswer
        split at hanswer
        · cases hanswer
          exact hqueued.silent rfl rfl rfl rfl rfl
        · next hpending =>
            cases hanswer
            exact hqueued.accept rfl rfl rfl hpending (fun d hd => by cases d <;> trivial)
              rfl
        · cases hanswer
    | join handle =>
        simp only [controlEnv] at hanswer
        split at hanswer <;> cases hanswer
        exact hqueued.silent rfl rfl rfl rfl rfl
  · intro history world output hqueued
    cases output with
    | logNegotiation outcome => exact hqueued.silent rfl rfl rfl rfl rfl
    | panicking text => exact hqueued.silent rfl rfl rfl rfl rfl
    | spawn task =>
        refine ⟨fun d => ?_, hqueued.numbered, ?_⟩
        · rw [acceptedIn_append_silent rfl]
          exact hqueued.opened d
        · have hstarted := hqueued.started
          simp only [World.clients] at hstarted
          simp only [World.clients, controlEnv, List.map_append, List.filterMap_append,
            hstarted]
          rfl
  · intro history world index choice world' hqueued hworld
    have hclients := clients_stepHandler hworld
    obtain ⟨spawned, run, -, -, rfl⟩ := World.stepHandler_eq_some.mp hworld
    exact ⟨hqueued.opened, hqueued.numbered, hclients.trans hqueued.started⟩
  · intro history world purpose recv hqueued
    refine hqueued.open .uni ⟨world.openedUni.length, purpose, recv⟩ rfl
      (fun d => ?_) (fun d => ?_) rfl
    · cases d <;> simp [World.openedIn, World.openUni]
    · cases d <;> simp [World.pendingIn, World.openUni]
  · intro history world purpose recv hqueued
    refine hqueued.open .bi ⟨world.openedBi.length, purpose, recv⟩ rfl
      (fun d => ?_) (fun d => ?_) rfl
    · cases d <;> simp [World.openedIn, World.openBi]
    · cases d <;> simp [World.pendingIn, World.openBi]

/-! ## The pairing -/

theorem prefix_zip {α β : Type} {pairs : List (α × β)} {first : List α} {second : List β}
    (hfirst : pairs.map Prod.fst <+: first) (hsecond : pairs.map Prod.snd <+: second) :
    pairs <+: first.zip second := by
  obtain ⟨moreFirst, rfl⟩ := hfirst
  obtain ⟨moreSecond, rfl⟩ := hsecond
  rw [List.zip_append (by simp), ← List.zip_of_prod rfl rfl]
  exact List.prefix_append _ _

/-- The requests of one direction that are acknowledged with status 0. -/
def admitted (acked : List OpenChannel) (d : Direction) : List OpenChannel :=
  acked.filter fun request => ClientKind request.kind ∧ direction request.kind = d

def World.clientsIn (world : World) (d : Direction) : List (UInt64 × ClientStream) :=
  world.clients.filter fun client => direction client.1 = d

theorem AnsweredInOrder.pairs {cib : Ciborium} {history : List ControlEvent}
    {acked served : List OpenChannel} (h : AnsweredInOrder cib history acked served) :
    ∃ pairs : List (OpenChannel × ClientStream), pairs.map Prod.fst = served ∧
      history.filterMap startOf = pairs.map (fun pair => (pair.1.kind, pair.2)) ∧
      history.filterMap acceptOf =
        pairs.map fun pair => (direction pair.1.kind, pair.2) := by
  have hlength : served.length = ((history.filterMap acceptOf).map Prod.snd).length := by
    have := congrArg List.length h.accepted
    simpa using this.symm
  let pairs := served.zip ((history.filterMap acceptOf).map Prod.snd)
  have hfst : pairs.map Prod.fst = served := List.map_fst_zip hlength.le
  have hsnd : pairs.map Prod.snd = (history.filterMap acceptOf).map Prod.snd :=
    List.map_snd_zip hlength.ge
  refine ⟨pairs, hfst, ?_, ?_⟩
  · rw [h.started, ← hfst, ← hsnd]
    simp [List.zip_map', Function.comp_def]
  · refine (List.zip_of_prod rfl rfl).trans ?_
    rw [h.accepted, ← hfst, ← hsnd]
    simp [List.zip_map', Function.comp_def]

/--
In each direction, the handlers in their order have the admitted requests' kinds and
the client's streams, both in their order: the first handler serves the first request
on the first stream, and so on.  If the client opens its streams in the order of its
admitted requests, each is read by a handler of the kind it was opened for.
-/
theorem stream_pairing {server : ServerConfig} {control : RecvStream} {session : State}
    (h : Reachable server control session) :
    ∃ acked served, AnsweredInOrder server.cib session.history acked served ∧
      ∀ d,
        session.world.clientsIn d <+:
          ((admitted acked d).zip (session.world.openedIn d)).map
            (fun pair => (pair.1.kind, pair.2)) ∧
        (session.world.openedIn d).map ClientStream.number =
          List.range (session.world.openedIn d).length ∧
        ((∀ pair ∈ (admitted acked d).zip (session.world.openedIn d),
            pair.2.purpose = pair.1.kind) →
          ∀ client ∈ session.world.clientsIn d, client.2.purpose = client.1) := by
  obtain ⟨acked, served, hanswered⟩ := answered_of_reachable h
  have hqueued := queued_of_reachable h
  obtain ⟨pairs, hserved, hstarted, haccepted⟩ := hanswered.pairs
  refine ⟨acked, served, hanswered, fun d => ?_⟩
  let pairsIn := pairs.filter fun pair => direction pair.1.kind = d
  have hclients : session.world.clientsIn d =
      pairsIn.map fun pair => (pair.1.kind, pair.2) := by
    rw [World.clientsIn, hqueued.started, hstarted, List.filter_map]
    rfl
  have hrequests : pairsIn.map Prod.fst <+: admitted acked d := by
    have hadmitted : pairsIn.map Prod.fst =
        served.filter fun request => direction request.kind = d := by
      rw [← hserved, List.filter_map]
      rfl
    have hfilter : admitted acked d =
        (acked.filter fun request => ClientKind request.kind).filter
          fun request => direction request.kind = d := by
      simp [admitted, List.filter_filter, Bool.and_comm]
    rw [hadmitted, hfilter]
    exact hanswered.supported.filter _
  have hstreams : pairsIn.map Prod.snd <+: session.world.openedIn d := by
    have haccepted : acceptedIn session.history d = pairsIn.map Prod.snd := by
      rw [acceptedIn, haccepted, List.filter_map, List.map_map]
      rfl
    rw [hqueued.opened, haccepted]
    exact List.prefix_append _ _
  have hpairs := prefix_zip hrequests hstreams
  refine ⟨hclients ▸ hpairs.map _, hqueued.numbered d, fun hpurpose client hmem => ?_⟩
  rw [hclients] at hmem
  obtain ⟨pair, hpair, rfl⟩ := List.mem_map.mp hmem
  exact hpurpose pair (hpairs.subset hpair)

/-- The clipboard stream was opened first, and the input channel was asked for first. -/
theorem stream_pairing_loopback :
    ∃ session, Reachable (loopbackServer "493817") loopbackControl session ∧
      session.world.clients =
        [(ChannelKind.input.toU64, loopbackUni), (ChannelKind.clipboard.toU64, loopbackBi)] ∧
      ∃ acked, ∀ d,
        session.world.clientsIn d <+:
          ((admitted acked d).zip (session.world.openedIn d)).map
            fun pair => (pair.1.kind, pair.2) := by
  obtain ⟨session, hreachable, hhistory, -⟩ := reachable_loopback
  obtain ⟨acked, served, -, hpaired⟩ := stream_pairing hreachable
  refine ⟨session, hreachable, ?_, acked, fun d => (hpaired d).1⟩
  rw [(queued_of_reachable hreachable).started, hhistory]
  rfl

end OpenRD.Session
