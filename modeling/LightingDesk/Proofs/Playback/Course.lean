import LightingDesk.Proofs.Playback.Protocol
import LightingDesk.Proofs.Playback.Walk

/-!
What the players of a session report, over all requests of its host. Each player keeps to the protocol
of its own act, whatever happens to the others, and only a host makes it stop before its end:
`Session.Course.events_in_blocks`.
-/

namespace LightingDesk

/-- The request stops a player, takes it out or starts it. -/
def Request.Halts {ω : Type} (id : PlayerId) : Request ω → Prop
  | .stop player | .unload player | .start player => player = id
  | .stopAll => True
  | _ => False

namespace Session

variable {ω : Type}

/-- The events of one player, oldest first. -/
def eventsOf (session : Session ω) (id : PlayerId) : List Event :=
  session.events.filter fun event => event.player == id

def isPlaying (session : Session ω) (id : PlayerId) : Bool := (session.player? id).any Player.playing

/-- The players that a request loads, each with its act. -/
def loads (session : Session ω) : Request ω → List (PlayerId × Act)
  | .load act | .play act => [((session.load act).1, act)]
  | _ => []

/-- The loaded players that a request starts. -/
def starts (session : Session ω) : Request ω → List PlayerId
  | .play act => [(session.load act).1]
  | .start id => if (session.player? id).isSome then [id] else []
  | _ => []

/-- The players that were loaded, and those that were started, in the course of some requests. -/
def loaded (past : List (Session ω × Request ω)) : List (PlayerId × Act) :=
  past.flatMap fun (session, request) => session.loads request

def started (past : List (Session ω × Request ω)) : List PlayerId :=
  past.flatMap fun (session, request) => session.starts request

theorem loaded_append (past : List (Session ω × Request ω)) (session : Session ω)
    (request : Request ω) :
    loaded (past ++ [(session, request)]) = loaded past ++ session.loads request := by
  rw [loaded, List.flatMap_append, List.flatMap_singleton, ← loaded]

theorem started_append (past : List (Session ω × Request ω)) (session : Session ω)
    (request : Request ω) :
    started (past ++ [(session, request)]) = started past ++ session.starts request := by
  rw [started, List.flatMap_append, List.flatMap_singleton, ← started]

theorem isPlaying_of_player? {session : Session ω} {id : PlayerId} {player : Player}
    (found : session.player? id = some player) : session.isPlaying id = player.playing := by
  rw [isPlaying, found, Option.any_some]

theorem starts_of_player? {session : Session ω} {id : PlayerId} {player : Player}
    (found : session.player? id = some player) : session.starts (.start id) = [id] := by
  rw [starts, found]
  rfl

variable [Output ω]

/-- A session as it has become since it was created, and the requests so far, each with the session
that it was made of. -/
inductive Course : Session ω → List (Session ω × Request ω) → Prop where
  | create (output : ω) (scenes : SceneLibrary) (settings : EngineSettings) (seeding : Seeding) :
      Course (.create output scenes settings seeding) []
  | perform {session past later} (before : Course session past) (request : Request ω)
      (answer : session.perform request = some later) : Course later (past ++ [(session, request)])

theorem Course.bare (stepsAtOnce : UInt64) : (Session.bare stepsAtOnce).Course [] := .create ..

theorem Course.run {session : Session ω} {past : List (Session ω × Request ω)}
    (course : Course session past) : ∃ log, session.Run log := by
  induction course with
  | create output scenes settings seeding => exact ⟨[], .create output scenes settings seeding⟩
  | perform before request answer ih =>
    obtain ⟨log, run⟩ := ih
    exact ⟨_, run.perform request answer⟩

omit [Output ω] in
theorem eventsOf_replace {session : Session ω} {shown : Stage TimerQueue ω} {owner : PlayerId}
    {events : List Event} (tells : session.stage.Tells shown events)
    (named : ∀ event ∈ events, event.player = owner) (later : Player) (id : PlayerId) :
    (session.replace later shown).eventsOf id =
      session.eventsOf id ++ if id = owner then events else [] := by
  obtain ⟨entries, grown, rfl⟩ := tells
  have all : (session.replace later shown).events =
      session.events ++ entries.filterMap TraceEntry.event? := by
    rw [Session.events, Session.events, ← List.filterMap_append, ← grown]
    rfl
  rw [eventsOf, all, List.filter_append, ← eventsOf]
  congr 1
  split
  next own =>
    rw [List.filter_eq_self]
    intro event member
    simpa [own] using named event member
  next other =>
    rw [List.filter_eq_nil_iff]
    intro event member
    simpa [named event member] using Ne.symm other

theorem Lives.responds {session : Session ω} {log : List (Moment TimerQueue ω)} {id : PlayerId}
    {player later : Player} {stage shown : Stage TimerQueue ω} {call : Call}
    (lives : Lives session log) (found : session.player? id = some player)
    (answer : player.answer stage call = some (later, shown)) :
    player.Responds player.act stage call later shown := by
  obtain ⟨act, life⟩ := lives.life found
  rw [life.chronicle.plays]
  exact life.chronicle.responds answer

/-- The players that were loaded have reported one block for each of their starts, and no one else
has reported anything. -/
structure Speaks (loads : List (PlayerId × Act)) (starts : List PlayerId) (session : Session ω) :
    Prop where
  once : (loads.map Prod.fst).Nodup
  numbered : ∀ id ∈ loads.map Prod.fst, id.number < session.nextPlayer
  plays : ∀ id player, session.player? id = some player → (id, player.act) ∈ loads
  speaks : ∀ id act, (id, act) ∈ loads → ∃ blocks, session.eventsOf id = blocks.flatten ∧
    blocks.length = starts.count id ∧ act.Protocol id (session.isPlaying id) blocks
  silent : ∀ id ∉ loads.map Prod.fst, session.eventsOf id = [] ∧ id ∉ starts

namespace Speaks

variable {loads : List (PlayerId × Act)} {starts : List PlayerId} {session : Session ω}
  {id : PlayerId} {player later : Player}

omit [Output ω] in
theorem create (output : ω) (scenes : SceneLibrary) (settings : EngineSettings) (seeding : Seeding) :
    Speaks [] [] (.create output scenes settings seeding) where
  once := List.nodup_nil
  numbered := by simp
  plays := by simp [Session.create, player?]
  speaks := by simp
  silent := fun id _ => ⟨rfl, by simp⟩

omit [Output ω] in
theorem restage (speaks : Speaks loads starts session) (stage : Stage TimerQueue ω)
    (trace : stage.trace = session.stage.trace) : Speaks loads starts { session with stage } where
  once := speaks.once
  numbered := speaks.numbered
  plays := speaks.plays
  speaks := by
    unfold eventsOf events
    rw [trace]
    exact speaks.speaks
  silent := by
    unfold eventsOf events
    rw [trace]
    exact speaks.silent

omit [Output ω] in
theorem fresh (speaks : Speaks loads starts session) (act : Act) :
    (session.load act).1 ∉ loads.map Prod.fst := fun member =>
  Nat.lt_irrefl _ (speaks.numbered _ member)

omit [Output ω] in
theorem absent (speaks : Speaks loads starts session) (act : Act) :
    session.player? (session.load act).1 = none := by
  cases found : session.player? (session.load act).1 with
  | none => rfl
  | some player =>
    exact absurd (List.mem_map_of_mem (speaks.plays _ player found)) (speaks.fresh act)

omit [Output ω] in
theorem load (speaks : Speaks loads starts session) (act : Act) :
    Speaks (loads ++ [((session.load act).1, act)]) starts (session.load act).2 := by
  have fresh := speaks.fresh act
  obtain ⟨settings, players⟩ := player?_load act (speaks.absent act)
  have ids : (loads ++ [((session.load act).1, act)]).map Prod.fst =
      loads.map Prod.fst ++ [(session.load act).1] := List.map_append
  refine ⟨?_, ?_, ?_, ?_, ?_⟩
  · rw [ids, List.nodup_append]
    refine ⟨speaks.once, List.nodup_singleton _, ?_⟩
    rintro id earlier other now rfl
    exact fresh (List.mem_singleton.1 now ▸ earlier)
  · intro id member
    rw [ids, List.mem_append, List.mem_singleton] at member
    rcases member with earlier | rfl
    · exact Nat.lt_succ_of_lt (speaks.numbered id earlier)
    · exact Nat.lt_succ_self _
  · intro id player found
    rw [players] at found
    split at found
    next same =>
      rw [← Option.some.inj found, same]
      exact List.mem_append_right _ (List.mem_singleton_self _)
    next => exact List.mem_append_left _ (speaks.plays id player found)
  · intro id other member
    rw [isPlaying, players]
    rcases List.mem_append.1 member with earlier | now
    · have different : id ≠ (session.load act).1 := fun same =>
        fresh (same ▸ List.mem_map_of_mem earlier)
      rw [if_neg different]
      exact speaks.speaks id other earlier
    · obtain ⟨rfl, rfl⟩ := Prod.mk.inj (List.mem_singleton.1 now)
      obtain ⟨none, unstarted⟩ := speaks.silent _ fresh
      rw [if_pos rfl]
      exact ⟨[], none, (List.count_eq_zero.2 unstarted).symm, .silent⟩
  · intro id missing
    rw [ids, List.mem_append, not_or] at missing
    exact speaks.silent id missing.1

omit [Output ω] in
theorem remove (speaks : Speaks loads starts session) (id : PlayerId)
    (idle : ∀ player, session.player? id = some player → player.playing = false) :
    Speaks loads starts
      { session with players := session.players.filter fun other => other.id != id } := by
  have players := session.player?_remove id
  refine ⟨speaks.once, speaks.numbered, ?_, ?_, speaks.silent⟩
  · intro other player found
    rw [players] at found
    split at found
    next => simp at found
    next => exact speaks.plays other player found
  · intro other act member
    obtain ⟨blocks, told, length, protocol⟩ := speaks.speaks other act member
    refine ⟨blocks, told, length, ?_⟩
    rw [isPlaying, players]
    split
    next same =>
      have idle : session.isPlaying other = false := by
        rw [isPlaying, same, Option.any_eq_false]
        exact fun player found => by simp [idle player found]
      rw [idle] at protocol
      exact protocol
    next => exact protocol

/-- What a call on a player makes of a session. -/
theorem call {call : Call} {shown : Stage TimerQueue ω} (speaks : Speaks loads starts session)
    (found : session.player? id = some player)
    (responds : player.Responds player.act session.stage call later shown) :
    Speaks loads (starts ++ List.replicate ([call].count .start) id) (session.replace later shown) := by
  obtain rfl := id_of_player? found
  have member := speaks.plays _ player found
  have same : later.id = player.id := responds.id
  have players := player?_replace (same ▸ found) shown
  rw [same] at players
  obtain ⟨blocks, told, length, protocol⟩ := speaks.speaks _ _ member
  rw [isPlaying_of_player? found] at protocol
  obtain ⟨events, grown, tells, flatten, longer, goes⟩ := responds.protocol protocol
  have named : ∀ event ∈ events, event.player = player.id := fun event listed =>
    (goes.proper event (flatten ▸ List.mem_append_right _ listed)).1
  have heard := eventsOf_replace tells named later
  refine ⟨speaks.once, speaks.numbered, ?_, ?_, ?_⟩
  · intro id other reached
    rw [players] at reached
    split at reached
    next own =>
      rw [← Option.some.inj reached, responds.act, own]
      exact member
    next => exact speaks.plays id other reached
  · intro id other listed
    rw [heard, isPlaying, players]
    by_cases own : id = player.id
    · subst own
      obtain rfl : other = player.act :=
        congrArg Prod.snd (List.inj_on_of_nodup_map speaks.once listed member rfl)
      refine ⟨grown, ?_, ?_, ?_⟩
      · rw [if_pos rfl, told, flatten]
      · rw [longer, length, List.count_append, List.count_replicate_self]
      · rw [if_pos rfl]
        exact goes
    · obtain ⟨others, heard, count, protocol⟩ := speaks.speaks id other listed
      refine ⟨others, ?_, ?_, ?_⟩
      · rw [if_neg own, List.append_nil, heard]
      · rw [count, List.count_append, List.count_replicate, if_neg, Nat.add_zero]
        simpa using Ne.symm own
      · rw [if_neg own]
        exact protocol
  · intro id missing
    have different : id ≠ player.id := by
      rintro rfl
      exact missing (List.mem_map_of_mem member)
    obtain ⟨none, unstarted⟩ := speaks.silent id missing
    rw [heard, none, if_neg different]
    refine ⟨rfl, ?_⟩
    rw [List.mem_append, List.mem_replicate]
    rintro (earlier | ⟨-, own⟩)
    · exact unstarted earlier
    · exact different own

/-- A call that starts nothing adds no block. -/
theorem called {call : Call} {shown : Stage TimerQueue ω} (speaks : Speaks loads starts session)
    (found : session.player? id = some player)
    (responds : player.Responds player.act session.stage call later shown) (quiet : call ≠ .start) :
    Speaks loads starts (session.replace later shown) := by
  have spoken := speaks.call found responds
  have none : [call].count .start = 0 := List.count_eq_zero.2 (by simpa using quiet.symm)
  rwa [none, List.replicate_zero, List.append_nil] at spoken

theorem steady :
    Steady fun (session : Session ω) log => Lives session log ∧ Speaks loads starts session where
  toPasses := by
    refine .of_ticks (fun window => ⟨?_, ?_⟩) ?_
    · rintro session log token clock ⟨lives, speaks⟩ - -
      exact ⟨lives.restage _, speaks.restage _ rfl⟩
    · rintro session log token clock player later stage ⟨lives, speaks⟩ - found answer
      have popped : Speaks loads starts (session.popped clock) := speaks.restage _ rfl
      have answered : player.answer (session.popped clock).stage (.timer token) =
        some (later, stage) := answer
      exact ⟨lives.timer found answer,
        popped.called found (lives.responds found answered) (by simp)⟩
    · rintro session log window ⟨lives, speaks⟩
      exact ⟨lives.restage _, speaks.restage _ rfl⟩
  restage := fun stage holds _ trace => ⟨holds.1.restage stage, holds.2.restage stage trace⟩
  remove := fun id holds idle => ⟨holds.1.remove id, holds.2.remove id idle⟩
  stop := by
    rintro session log id player ⟨lives, speaks⟩ found
    have answered : player.answer session.stage .stop = some (player.stop session.stage) := rfl
    exact ⟨lives.stop found, speaks.called found (lives.responds found answered) (by simp)⟩

theorem started {log : List (Moment TimerQueue ω)} {reached : Session ω}
    {result : Except SessionError Unit} (speaks : Speaks loads starts session)
    (lives : Lives session log) (answer : session.start id = some (result, reached)) :
    Speaks loads (starts ++ session.starts (.start id)) reached := by
  rcases start_cases answer with
    ⟨absent, -, rfl⟩ | ⟨player, outcome, later, shown, found, taken, -, rfl⟩
  · have none : reached.starts (.start id) = [] := by
      rw [Session.starts, absent]
      rfl
    rw [none, List.append_nil]
    exact speaks
  · rw [starts_of_player? found]
    exact speaks.call found (lives.responds found (Player.answer_start taken))

theorem performed {log : List (Moment TimerQueue ω)} {request : Request ω} {reached : Session ω}
    (speaks : Speaks loads starts session) (lives : Lives session log)
    (answer : session.perform request = some reached) :
    Speaks (loads ++ session.loads request) (starts ++ session.starts request) reached := by
  cases request with
  | load act =>
    obtain rfl := Option.some.inj answer
    rw [show session.starts (.load act) = [] from rfl, List.append_nil]
    exact speaks.load act
  | play act =>
    obtain ⟨result, started⟩ := exists_start_of_play answer
    obtain ⟨settings, players⟩ := player?_load act (speaks.absent act)
    have one : (session.load act).2.starts (.start (session.load act).1) =
        session.starts (.play act) :=
      starts_of_player? ((players _).trans (if_pos rfl))
    rw [← one]
    exact (speaks.load act).started (lives.load act) started
  | start id =>
    obtain ⟨result, started⟩ := exists_start answer
    rw [show session.loads (.start id) = [] from rfl, List.append_nil]
    exact speaks.started lives started
  | _ =>
    have spoken := (steady.performed (by trivial) ⟨lives, speaks⟩ answer).2
    simpa only [Session.loads, Session.starts, List.append_nil] using spoken

end Speaks

theorem Course.spoken {session : Session ω} {past : List (Session ω × Request ω)}
    (course : Course session past) : Speaks (loaded past) (started past) session := by
  induction course with
  | create output scenes settings seeding => exact .create output scenes settings seeding
  | perform before request answer ih =>
    obtain ⟨log, run⟩ := before.run
    rw [loaded_append, started_append]
    exact ih.performed (Lives.kept.run run) answer

/-! ### Who is stopped by the host -/

section UserStops

variable {session : Session ω} {log : List (Moment TimerQueue ω)}

omit [Output ω] in
theorem stop_tells (session : Session ω) (id : PlayerId) :
    ∃ events, session.stage.Tells (session.stop id).2.stage events ∧
      ∀ event ∈ events, event.player = id ∧ session.isPlaying id = true := by
  unfold Session.stop
  cases found : session.player? id with
  | none => exact ⟨[], .refl _, by simp⟩
  | some player =>
    refine ⟨_, player.stop_tells session.stage, ?_⟩
    intro event member
    obtain ⟨named, playing⟩ := player.mem_farewell member
    rw [isPlaying_of_player? found]
    exact ⟨named.trans (id_of_player? found), playing⟩

omit [Output ω] in
theorem isPlaying_of_stop {id other : PlayerId}
    (playing : (session.stop id).2.isPlaying other = true) : session.isPlaying other = true := by
  unfold Session.stop at playing
  cases found : session.player? id with
  | none =>
    rw [found] at playing
    exact playing
  | some player =>
    have named : (player.stop session.stage).1.id = id := by
      rw [Player.stop_id, id_of_player? found]
    simp only [found] at playing
    rw [isPlaying, player?_replace (named ▸ found)] at playing
    split at playing
    next => simp [player.stop_playing] at playing
    next => exact playing

omit [Output ω] in
theorem stops_tell (ids : List PlayerId) (session : Session ω) :
    ∃ events,
      session.stage.Tells (ids.foldl (fun session id => (session.stop id).2) session).stage events ∧
      ∀ event ∈ events, session.isPlaying event.player = true := by
  induction ids generalizing session with
  | nil => exact ⟨[], .refl _, by simp⟩
  | cons id rest ih =>
    obtain ⟨events, tells, own⟩ := session.stop_tells id
    obtain ⟨others, tellsOthers, playing⟩ := ih (session.stop id).2
    refine ⟨_, tells.trans tellsOthers, ?_⟩
    intro event member
    rcases List.mem_append.1 member with first | later
    · obtain ⟨named, playing⟩ := own event first
      exact named ▸ playing
    · exact isPlaying_of_stop (playing event later)

omit [Output ω] in
theorem unload_stage (session : Session ω) (id : PlayerId) :
    (session.unload id).2.stage = (session.stop id).2.stage := by
  unfold Session.unload
  cases found : session.player? id with
  | none => simp only [Session.stop, found]
  | some player => rfl

/-- The session has come from another one without a stop by the host. -/
def Calm (before session : Session ω) (log : List (Moment TimerQueue ω)) : Prop :=
  Lives session log ∧ ∃ events, before.stage.Tells session.stage events ∧
    ∀ event ∈ events, ¬event.IsUserStop

/-- No player is stopped by the host while time passes. -/
theorem Calm.passes (before : Session ω) : Passes (Calm before) := by
  refine .of_ticks (fun window => ⟨?_, ?_⟩) ?_
  · rintro session log token clock ⟨lives, told⟩ - -
    exact ⟨lives.restage _, told⟩
  · rintro session log token clock player later stage ⟨lives, events, tells, calm⟩ - found answer
    have answered : player.answer (session.popped clock).stage (.timer token) =
      some (later, stage) := answer
    obtain ⟨others, tellsOthers, stops⟩ := ((lives.restage _).responds found answered).userStop
    refine ⟨lives.timer found answer, events ++ others, tells.trans tellsOthers, ?_⟩
    intro event member userStop
    rcases List.mem_append.1 member with earlier | now
    · exact calm event earlier userStop
    · exact (stops event now userStop).2.2 token rfl
  · rintro session log window ⟨lives, told⟩
    exact ⟨lives.restage _, told⟩

theorem Calm.refl (lives : Lives session log) : Calm session session log :=
  ⟨lives, [], .refl _, by simp⟩

theorem Lives.start_userStops {id : PlayerId} {reached : Session ω}
    {result : Except SessionError Unit} (lives : Lives session log)
    (answer : session.start id = some (result, reached)) :
    ∃ events, session.stage.Tells reached.stage events ∧ ∀ event ∈ events, event.IsUserStop →
      id = event.player ∧ session.isPlaying event.player = true := by
  rcases start_cases answer with
    ⟨-, -, rfl⟩ | ⟨player, outcome, later, shown, found, taken, -, rfl⟩
  · exact ⟨[], .refl _, by simp⟩
  · obtain ⟨events, tells, stops⟩ := (lives.responds found (Player.answer_start taken)).userStop
    refine ⟨events, tells, ?_⟩
    intro event member userStop
    obtain ⟨named, playing, -⟩ := stops event member userStop
    rw [named, id_of_player? found, isPlaying_of_player? found]
    exact ⟨rfl, playing⟩

theorem Speaks.userStops {loads : List (PlayerId × Act)} {starts : List PlayerId}
    {request : Request ω} {reached : Session ω} (speaks : Speaks loads starts session)
    (lives : Lives session log) (answer : session.perform request = some reached) :
    ∃ events, session.stage.Tells reached.stage events ∧ ∀ event ∈ events, event.IsUserStop →
      request.Halts event.player ∧ session.isPlaying event.player = true := by
  have passed {log : List (Moment TimerQueue ω)} (calm : Calm session reached log) :
      ∃ events, session.stage.Tells reached.stage events ∧ ∀ event ∈ events, event.IsUserStop →
        request.Halts event.player ∧ session.isPlaying event.player = true := by
    obtain ⟨-, events, tells, calm⟩ := calm
    exact ⟨events, tells, fun event member userStop => absurd userStop (calm event member)⟩
  have unheard (same : reached.stage.trace = session.stage.trace) :
      ∃ events, session.stage.Tells reached.stage events ∧ ∀ event ∈ events, event.IsUserStop →
        request.Halts event.player ∧ session.isPlaying event.player = true :=
    ⟨[], ⟨[], by rw [same, List.append_nil], rfl⟩, by simp⟩
  cases request with
  | load act =>
    obtain rfl := Option.some.inj answer
    exact unheard rfl
  | play act =>
    obtain ⟨result, started⟩ := exists_start_of_play answer
    obtain ⟨events, tells, stops⟩ := (lives.load act).start_userStops started
    refine ⟨events, tells, ?_⟩
    intro event member userStop
    obtain ⟨named, playing⟩ := stops event member userStop
    -- a player that has just been loaded is idle
    obtain ⟨settings, players⟩ := player?_load act (speaks.absent act)
    rw [isPlaying, players, if_pos named.symm] at playing
    cases playing
  | start id =>
    obtain ⟨result, started⟩ := exists_start answer
    exact lives.start_userStops started
  | stop id =>
    obtain rfl := Option.some.inj answer
    obtain ⟨events, tells, own⟩ := session.stop_tells id
    refine ⟨events, tells, ?_⟩
    intro event member _
    obtain ⟨named, playing⟩ := own event member
    exact ⟨named.symm, named ▸ playing⟩
  | unload id =>
    obtain rfl := Option.some.inj answer
    obtain ⟨events, tells, own⟩ := session.stop_tells id
    refine ⟨events, session.unload_stage id ▸ tells, ?_⟩
    intro event member _
    obtain ⟨named, playing⟩ := own event member
    exact ⟨named.symm, named ▸ playing⟩
  | stopAll =>
    obtain rfl := Option.some.inj answer
    obtain ⟨events, tells, playing⟩ := stops_tell (session.players.map Player.id) session
    exact ⟨events, tells, fun event member _ => ⟨trivial, playing event member⟩⟩
  | advance delay => exact passed ((Calm.passes session).advanced (.refl lives) answer)
  | advanceTo target => exact passed ((Calm.passes session).pass (.refl lives) answer)
  | runUntilIdle limit => exact passed ((Calm.passes session).idled (.refl lives) answer)
  | changeSignals change | changeScenes change | changeOutput change | changeBus change =>
    obtain rfl := Option.some.inj answer
    exact unheard rfl

end UserStops

/-- The events of a player form blocks, one for each of its starts, and only the last one may be open:
it is while the player is loaded and plays. Faults are reported as what they are, and a host's stop is
reported only where it stops a player that plays, never while time passes. -/
theorem Course.events_in_blocks {session : Session ω} {past : List (Session ω × Request ω)}
    (course : Course session past) :
    ((loaded past).map Prod.fst).Nodup ∧
    (∀ id act, (id, act) ∈ loaded past → ∃ blocks, session.eventsOf id = blocks.flatten ∧
      blocks.length = (started past).count id ∧ act.Protocol id (session.isPlaying id) blocks) ∧
    (∀ id ∉ (loaded past).map Prod.fst, session.eventsOf id = []) ∧
    (∀ event ∈ session.events, event.IsProper) ∧
    ∀ request later, session.perform request = some later →
      ∀ event ∈ later.stage.since session.stage, event.IsUserStop →
        request.Halts event.player ∧ session.isPlaying event.player = true := by
  have spoken := course.spoken
  refine ⟨spoken.once, spoken.speaks, fun id missing => (spoken.silent id missing).1, ?_, ?_⟩
  · intro event member
    have own : event ∈ session.eventsOf event.player := List.mem_filter.2 ⟨member, by simp⟩
    by_cases known : event.player ∈ (loaded past).map Prod.fst
    · obtain ⟨⟨id, act⟩, listed, named⟩ := List.mem_map.1 known
      obtain ⟨blocks, told, -, protocol⟩ := spoken.speaks id act listed
      rw [← named, told] at own
      exact (protocol.proper event own).2
    · rw [(spoken.silent _ known).1] at own
      cases own
  · intro request later answer event member userStop
    obtain ⟨log, run⟩ := course.run
    obtain ⟨events, tells, stops⟩ := spoken.userStops (Lives.kept.run run) answer
    rw [tells.since_eq] at member
    exact stops event member userStop

/-- An act that is played and, while it waits, started again. -/
theorem Course.events_in_blocks_relay :
    ∃ session : Session Universe, ∃ past, Course session past ∧
      ∃ blocks, session.eventsOf ⟨1⟩ = blocks.flatten ∧ blocks.length = 2 ∧
        Act.relay.Protocol ⟨1⟩ true blocks := by
  obtain ⟨first, second, played, again, known, playing⟩ : ∃ first second : Session Universe,
      (Session.bare 3).perform (.play .relay) = some first ∧
      first.perform (.start ⟨1⟩) = some second ∧ (first.player? ⟨1⟩).isSome = true ∧
      second.isPlaying ⟨1⟩ = true :=
    ⟨_, _, rfl, rfl, by decide, by decide⟩
  have course := ((Course.bare 3).perform _ played).perform _ again
  obtain ⟨-, speaks, -⟩ := course.events_in_blocks
  obtain ⟨blocks, told, length, protocol⟩ := speaks ⟨1⟩ .relay List.mem_cons_self
  refine ⟨second, _, course, blocks, told, ?_, playing ▸ protocol⟩
  obtain ⟨player, found⟩ := Option.isSome_iff_exists.1 known
  rw [length, started_append, starts_of_player? found]
  rfl

end Session

end LightingDesk
