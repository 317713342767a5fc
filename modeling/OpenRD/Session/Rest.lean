import OpenRD.Server.Causes
import OpenRD.Session.Termination

/-!
# Where sessions come to rest

When no task of a session can take a step, every handler is over, and the Control task is too
unless it waits for a stream that the client has not opened.  It waits for no handler then,
because it joins only those it has spawned.
-/

namespace OpenRD.Session

open OpenRD.Foundation OpenRD.Proto OpenRD.Server

variable {server : ServerConfig} {control : RecvStream} {session : State}

/-! ## Joins -/

/-- Each handle that is joined is that of a handler spawned before. -/
def JoinsSpawned (history : List ControlEvent) : Prop :=
  ∀ earlier handle, earlier ++ [joinEvent handle] <+: history →
    handle < (spawned earlier).length

def Joinless (events : List ControlEvent) : Prop := ∀ handle, joinEvent handle ∉ events

/-- The handles are those of all handlers spawned. -/
def Numbered (handles : List Nat) (history : List ControlEvent) : Prop :=
  handles = List.range (spawned history).length

section Joins

variable {history events rest : List ControlEvent} {handles targets : List Nat}

theorem spawned_append : spawned (history ++ events) = spawned history ++ spawned events :=
  List.filterMap_append

theorem Joinless.append (h : Joinless history) (h' : Joinless events) :
    Joinless (history ++ events) := by
  intro handle hmem
  rcases List.mem_append.mp hmem with hmem | hmem
  · exact h handle hmem
  · exact h' handle hmem

theorem Joinless.joinsSpawned (h : Joinless history) : JoinsSpawned history :=
  fun _ handle hbegins => absurd (hbegins.mem (by simp)) (h handle)

theorem JoinsSpawned.append (h : Joinless history) (h' : JoinsSpawned events) :
    JoinsSpawned (history ++ events) := by
  intro earlier handle hprefix
  obtain hfirst | ⟨first, rfl, hsecond⟩ := concat_prefix_append.mp hprefix
  · exact absurd (hfirst.mem (by simp)) (h handle)
  · rw [spawned_append, List.length_append]
    exact (h' first handle hsecond).trans_le (Nat.le_add_left _ _)

theorem JoinsSpawned.earlier (h : JoinsSpawned history) (hbegins : events <+: history) :
    JoinsSpawned events :=
  fun earlier handle hearlier => h earlier handle (hearlier.trans hbegins)

theorem Numbered.joined (h : Numbered handles history) (hjoinless : Joinless history)
    (htargets : targets ⊆ handles) : JoinsSpawned (history ++ targets.map joinEvent) := by
  intro earlier handle hprefix
  obtain hfirst | ⟨first, rfl, hsecond⟩ := concat_prefix_append.mp hprefix
  · exact absurd (hfirst.mem (by simp)) (hjoinless handle)
  · obtain ⟨other, hmem, hother⟩ := List.mem_map.mp (hsecond.mem (List.mem_concat_self))
    cases hother
    have hlt := htargets hmem
    rw [h, List.mem_range] at hlt
    rw [spawned_append, List.length_append]
    exact hlt.trans_le (Nat.le_add_right _ _)

end Joins

section Control

variable {handles : List Nat}

theorem joinless_partialHello {events : List ControlEvent} (h : PartialHello server events) :
    Joinless events := by
  cases h <;> simp [Joinless, joinEvent, readEvent, negotiationEvent, writeEvent]

theorem joinless_partialAuth {events : List ControlEvent} (h : PartialAuth server events) :
    Joinless events := by
  cases h <;> simp [Joinless, joinEvent, readEvent, writeEvent]

theorem joinless_opening {channel : ServerChannel} {events : List ControlEvent}
    (h : ∀ event ∈ events, OpeningEvent server channel event) : Joinless events :=
  fun _ hmem => nomatch h _ hmem

theorem joinless_dispatching {events : List ControlEvent}
    (h : ∀ event ∈ events, DispatchEvent server event) : Joinless events := by
  intro handle hmem
  generalize hevent : joinEvent handle = event at hmem
  cases h event hmem with
  | accept kind supported answer =>
      rw [acceptEvent] at hevent
      split at hevent <;> cases hevent
  | _ => cases hevent

theorem joinAll_targets (handles : List Nat) :
    (joinAll handles).Adds (fun events => ∃ targets ⊆ handles, events = targets.map joinEvent)
      fun _ events => ∃ targets ⊆ handles, events = targets.map joinEvent := by
  induction handles with
  | nil => exact Prog.adds_pure ⟨[], by simp, rfl⟩
  | cons handle handles ih =>
      refine Prog.adds_call_bind ⟨[], by simp, rfl⟩ ?_ ?_
      · rintro answer error ⟨⟩
      · rintro answer value -
        refine ih.weaken ?_ ?_
        · rintro events ⟨targets, hsubset, rfl⟩
          exact ⟨handle :: targets, List.cons_subset_cons handle hsubset, rfl⟩
        · rintro _ events ⟨targets, hsubset, rfl⟩
          exact ⟨handle :: targets, List.cons_subset_cons handle hsubset, rfl⟩

theorem Numbered.more {history events : List ControlEvent} {task : Task}
    (h : Numbered handles history) (hspawned : spawned events = [task]) :
    Numbered (handles ++ [handles.length]) (history ++ events) := by
  rw [Numbered, spawned_append, hspawned, h]
  simp [List.range_succ]

theorem Numbered.kept {history events : List ControlEvent} (h : Numbered handles history)
    (hspawned : spawned events = []) : Numbered handles (history ++ events) := by
  rw [Numbered, spawned_append, hspawned, List.append_nil]
  exact h

theorem Numbered.turn {history : List ControlEvent} (h : Numbered handles history)
    (turn : Turn server) : Numbered (turn.handles handles) (history ++ turn.events) := by
  cases turn with
  | skipped bytes received => exact h.kept rfl
  | refused acked unsupported => exact h.kept rfl
  | served acked supported stream =>
      refine @Numbered.more _ _ _ (clientTask acked.request.kind stream) h ?_
      rw [Turn.events, acceptEvent]
      split <;> rfl

theorem numbered_passes {pass : List Nat → List Nat ⊕ List Nat → List ControlEvent → Prop}
    (hpass : ∀ handles next events, pass handles (.inl next) events →
      ∃ turn : Turn server, events = turn.events ∧ next = turn.handles handles)
    {opened events : List ControlEvent} {reached : List Nat} (hopened : Numbered handles opened)
    (h : Prog.Passes pass handles events reached) :
    Joinless events ∧ Numbered reached (opened ++ events) := by
  induction h with
  | none => exact ⟨by simp [Joinless], by simpa using hopened⟩
  | more before last ih =>
      obtain ⟨turn, rfl, rfl⟩ := hpass _ _ _ last
      refine ⟨ih.1.append (joinless_dispatching turn.dispatching), ?_⟩
      rw [← List.append_assoc]
      exact ih.2.turn turn

theorem serveChannels_joins (server : ServerConfig) :
    (serveChannels server).Adds JoinsSpawned fun _ => JoinsSpawned := by
  refine Prog.adds_bind (openServerChannel_adds server displayChannel [])
    (fun events h => (joinless_opening h).joinsSpawned) ?_
  rintro _ _ ⟨rfl, display, rfl⟩
  have hdisplay := joinless_opening display.opening
  refine Prog.adds_bind (openServerChannel_adds server cursorChannel _)
    (fun events h => (hdisplay.append (joinless_opening h)).joinsSpawned) ?_
  rintro _ _ ⟨rfl, cursor, rfl⟩
  have hopened : Joinless (display.events ++ cursor.events) :=
    hdisplay.append (joinless_opening cursor.opening)
  have hnumbered : Numbered [0, 1] (display.events ++ cursor.events) := rfl
  have hloop : (Prog.iterate [0, 1] (dispatch server)).Adds Joinless
      fun final events =>
        Joinless events ∧ Numbered final (display.events ++ cursor.events ++ events) := by
    refine Prog.adds_iterate (dispatch_adds server)
      (fun _ _ h => (numbered_passes (fun _ _ _ => id) hnumbered h).1) ?_ ?_
    · intro events reached rest h hrest
      exact (numbered_passes (fun _ _ _ => id) hnumbered h).1.append
        (joinless_dispatching hrest.dispatching)
    · rintro events reached value rest h ⟨rfl, rfl⟩
      obtain ⟨hjoinless, hreached⟩ := numbered_passes (fun _ _ _ => id) hnumbered h
      refine ⟨hjoinless.append (by simp [Joinless, joinEvent]), ?_⟩
      rw [← List.append_assoc]
      exact hreached.kept rfl
  refine Prog.adds_bind hloop ?_ ?_
  · intro events h
    rw [← List.append_assoc]
    exact (hopened.append h).joinsSpawned
  · rintro final events ⟨hjoinless, hfinal⟩
    have hwhole {joins : List ControlEvent}
        (h : ∃ targets ⊆ final, joins = targets.map joinEvent) :
        JoinsSpawned (display.events ++ (cursor.events ++ (events ++ joins))) := by
      obtain ⟨targets, hsubset, rfl⟩ := h
      rw [← List.append_assoc, ← List.append_assoc]
      exact hfinal.joined (hopened.append hjoinless) hsubset
    exact (joinAll_targets final).weaken (fun _ => hwhole) fun _ _ => hwhole

theorem handleControlStream_joins (server : ServerConfig) :
    (handleControlStream server).Adds JoinsSpawned fun _ => JoinsSpawned := by
  refine Prog.adds_bind (helloExchange_adds server)
    (fun _ h => (joinless_partialHello h).joinsSpawned) ?_
  rintro _ _ ⟨hello, rfl⟩
  have hhello : Joinless hello.events := by
    simp [Joinless, joinEvent, Hello.events, readEvent, negotiationEvent, writeEvent]
  refine Prog.adds_bind (authExchange_adds server)
    (fun _ h => (hhello.append (joinless_partialAuth h)).joinsSpawned) ?_
  rintro admitted _ ⟨auth, rfl, -⟩
  have hgreeted : Joinless (hello.events ++ auth.events) :=
    hhello.append (by simp [Joinless, joinEvent, Auth.events, readEvent, writeEvent])
  have hwhole {events : List ControlEvent} (h : JoinsSpawned events) :
      JoinsSpawned (hello.events ++ (auth.events ++ events)) := by
    rw [← List.append_assoc]
    exact .append hgreeted h
  cases admitted with
  | true => exact (serveChannels_joins server).weaken (fun _ => hwhole) fun _ _ => hwhole
  | false => exact Prog.adds_pure (by simpa using hgreeted.joinsSpawned)

end Control

/-- The Control task joins only handlers that are there. -/
theorem lt_of_waits_join (h : Reachable server control session) {handle : Nat}
    (hwaits : Waits session (.join handle)) : handle < session.world.handlers.length := by
  have hsafe : (handleControlStream server).Safe JoinsSpawned [] fun _ => JoinsSpawned := by
    refine (handleControlStream_joins server []).weaken ?_ ?_
    · rintro history ⟨events, rfl, hjoins⟩
      exact hjoins
    · rintro result history ⟨events, rfl, hjoins⟩
      cases result <;> exact hjoins
  obtain ⟨next, hprogram⟩ := hwaits
  have hwaiting := (reachable_guarded hsafe h).safe
  rw [hprogram] at hwaiting
  -- had the handler been joined, its handle would be one of those spawned
  have hjoined : JoinsSpawned (session.history ++ [joinEvent handle]) :=
    (hwaiting.2 ()).now (fun history event h => h.earlier (List.prefix_append _ _)) fun _ _ => id
  rw [length_handlers h]
  exact hjoined _ handle List.prefix_rfl

/-! ## Rest -/

/-- No task can take a step unless a transport error ends its wait. -/
structure AtRest (server : ServerConfig) (session : State) : Prop where
  control : step server session (.control none) = none
  handlers : ∀ index choice, step server session (.handler index choice) = none

theorem finished_of_stuck {spawned : Spawned} {choice : HandlerChoice}
    (h : handlerEnv.advance spawned.run choice = none) : spawned.finished = true := by
  rcases Running.advance_eq_none.mp h with houtcome | ⟨question, next, -, hanswer⟩
  · rw [Spawned.finished]
    cases hprogram : spawned.run.program <;> simp [Running.outcome, hprogram] at houtcome ⊢
  · cases question <;> cases hanswer

theorem AtRest.handlersFinished (hrest : AtRest server session) :
    HandlersFinished session.world := by
  intro spawned hmem
  obtain ⟨index, hspawned⟩ := List.mem_iff_getElem?.mp hmem
  cases hrun : handlerEnv.advance spawned.run default with
  | none => exact finished_of_stuck hrun
  | some run =>
      have hworld := World.stepHandler_eq_some.mpr ⟨spawned, run, hspawned, hrun, rfl⟩
      have hstep : step server session (.handler index default) = some _ :=
        step_handler_eq_some.mpr ⟨_, hworld, rfl⟩
      cases (hrest.handlers index default).symm.trans hstep

end OpenRD.Session
