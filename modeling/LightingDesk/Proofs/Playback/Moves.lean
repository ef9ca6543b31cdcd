import LightingDesk.Proofs.Playback.Course
import LightingDesk.Proofs.Playback.Still
import Mathlib.Logic.Relation

/-!
The moves of a session. Whatever a host asks for, as long as it changes nothing on the stage itself: when
a player has been loaded, if any is, it comes down to a few moves, one after the other. The clock is set,
players are called, and those who do not play are taken out (`Session.moves_of_perform`).
-/

namespace LightingDesk

/-- The request changes something on the stage. -/
def Request.IsChange {ω : Type} : Request ω → Prop
  | .changeSignals _ | .changeScenes _ | .changeOutput _ | .changeBus _ => True
  | _ => False

namespace Session

variable {ω : Type} [Output ω]

/-- The session when a player has been loaded, if the request is to load one. -/
def boarded (session : Session ω) : Request ω → Session ω
  | .load act | .play act => (session.load act).2
  | _ => session

/-- The players of a session that is about to carry out a request play the acts that they were loaded
with. -/
theorem Course.boarded {session : Session ω} {past : List (Session ω × Request ω)}
    (course : Course session past) (request : Request ω) {id : PlayerId} {player : Player}
    (found : (session.boarded request).player? id = some player) :
    (id, player.act) ∈ loaded (past ++ [(session, request)]) := by
  rw [loaded_append]
  cases request with
  | load act | play act => exact (course.spoken.load act).plays id player found
  | _ => exact List.mem_append_left _ (course.spoken.plays id player found)

/-- The moves that every request is made of, once players are loaded. -/
inductive Moves (session : Session ω) : Session ω → Prop where
  | remove (id : PlayerId)
      (idle : ∀ player, session.player? id = some player → player.playing = false) :
      Moves session { session with players := session.players.filter fun other => other.id != id }
  | clock (clock : TimerQueue) : Moves session (session.popped clock)
  | call {id player later shown} (call : Call) (found : session.player? id = some player)
      (answer : player.answer session.stage call = some (later, shown)) :
      Moves session (session.replace later shown)

open Relation

variable {session middle later : Session ω} {log : List (Moment TimerQueue ω)}

/-- All that a call does to the stage are deeds of its player. -/
theorem Lives.conducts {id : PlayerId} {player moved : Player} {shown : Stage TimerQueue ω} {call : Call}
    (lives : Lives session log) (found : session.player? id = some player)
    (answer : player.answer session.stage call = some (moved, shown)) :
    ∃ deeds, player.Conducts session.stage shown deeds := by
  obtain ⟨act, life⟩ := lives.life found
  exact Player.answer_conducts (fun idle => (life.chronicle.idles idle).1) answer

theorem Lives.moves (lives : Lives session log) (moves : session.Moves later) :
    ∃ log, Lives later log := by
  cases moves with
  | remove id => exact ⟨log, lives.remove id⟩
  | clock clock => exact ⟨log, lives.restage _⟩
  | @call id player reached shown call found answer =>
    cases call with
    | start =>
      simp only [Player.answer, Option.map_eq_some_iff] at answer
      obtain ⟨⟨result, turned⟩, started, rfl⟩ := answer
      exact ⟨_, lives.start found started⟩
    | stop =>
      obtain ⟨rfl, rfl⟩ := Prod.mk.inj (Option.some.inj answer)
      exact ⟨log, lives.stop found⟩
    | timer token =>
      obtain ⟨act, life⟩ := lives.life found
      exact ⟨_, lives.replace found (life.timer _ token answer) shown⟩

/-- Moves leave loaded players with their acts. -/
theorem Lives.acts_of_moves {P : PlayerId → Act → Prop} (lives : Lives session log)
    (plays : ∀ id player, session.player? id = some player → P id player.act)
    (moves : session.Moves later) : ∀ id player, later.player? id = some player → P id player.act := by
  intro other player' listed
  cases moves with
  | remove id =>
    rw [player?_remove] at listed
    split at listed
    next => cases listed
    next => exact plays other player' listed
  | clock clock => exact plays other player' listed
  | @call id player reached shown call found answer =>
    have responds := lives.responds found answer
    obtain rfl := id_of_player? found
    rw [player?_replace (responds.id ▸ found)] at listed
    split at listed
    next own =>
      rw [own, ← Option.some.inj listed, responds.id, responds.act]
      exact plays player.id player found
    next => exact plays other player' listed

theorem moves_start {id : PlayerId} {result : Except SessionError Unit}
    (answer : session.start id = some (result, later)) : ReflTransGen Moves session later := by
  rcases start_cases answer with
    ⟨-, -, rfl⟩ | ⟨player, outcome, reached, shown, found, taken, -, rfl⟩
  · exact .refl
  · exact .single (.call .start found (Player.answer_start taken))

omit [Output ω] in
theorem moves_stop [Output ω] (session : Session ω) (id : PlayerId) :
    ReflTransGen Moves session (session.stop id).2 := by
  unfold Session.stop
  split
  next => exact .refl
  next player found => exact .single (.call .stop found rfl)

theorem moves_unload (session : Session ω) (id : PlayerId) :
    ReflTransGen Moves session (session.unload id).2 := by
  unfold Session.unload
  split
  next => exact .refl
  next player found =>
    exact (session.moves_stop id).tail (.remove id (session.stop_idle id))

theorem moves_stopAll (session : Session ω) : ReflTransGen Moves session session.stopAll := by
  unfold stopAll
  generalize session.players.map Player.id = ids
  induction ids generalizing session with
  | nil => exact .refl
  | cons id rest ih => exact (session.moves_stop id).trans (ih _)

/-- The session comes to a later one by moves. -/
def MovesTo (session later : Session ω) (_ : List (Moment TimerQueue ω)) : Prop :=
  ReflTransGen Moves session later

/-- Letting time pass is setting the clock and calling players. -/
theorem moves_passes (session : Session ω) : Passes session.MovesTo := by
  refine .of_ticks (fun window => ⟨?_, ?_⟩) ?_
  · intro middle log token clock moves _ _
    exact ReflTransGen.tail moves (.clock clock)
  · intro middle log token clock player later stage moves _ found answer
    exact (ReflTransGen.tail moves (.clock clock)).tail (.call (.timer token) found answer)
  · intro middle log window moves
    exact ReflTransGen.tail moves (.clock _)

theorem moves_of_perform {request : Request ω} (own : ¬request.IsChange)
    (answer : session.perform request = some later) :
    ReflTransGen Moves (session.boarded request) later := by
  have passes := moves_passes session
  have opened : session.MovesTo session [] := .refl
  cases request with
  | load act => exact Option.some.inj answer ▸ .refl
  | unload id => exact Option.some.inj answer ▸ session.moves_unload id
  | stop id => exact Option.some.inj answer ▸ session.moves_stop id
  | stopAll => exact Option.some.inj answer ▸ session.moves_stopAll
  | play act =>
    obtain ⟨result, started⟩ := exists_start_of_play answer
    exact moves_start started
  | start id =>
    obtain ⟨result, started⟩ := exists_start answer
    exact moves_start started
  | advance delay => exact passes.advanced opened answer
  | advanceTo target => exact passes.pass opened answer
  | runUntilIdle limit => exact passes.idled opened answer
  | changeSignals | changeScenes | changeOutput | changeBus => exact absurd trivial own

/-- What every move keeps, a request keeps that changes nothing on the stage. -/
theorem perform_rule {P : Session ω → Prop} {request : Request ω}
    (moves : ∀ {middle last : Session ω}, P middle → middle.Moves last → P last)
    (changed : request.IsChange → P later) (boarded : P (session.boarded request))
    (answer : session.perform request = some later) : P later := by
  by_cases change : request.IsChange
  · exact changed change
  · have moved := moves_of_perform change answer
    clear answer changed
    induction moved with
    | refl => exact boarded
    | tail _ next ih => exact moves ih next

theorem Lives.boarded (lives : Lives session log) (request : Request ω) :
    ∃ log, Lives (session.boarded request) log := by
  cases request with
  | load act | play act => exact ⟨log, lives.load act⟩
  | _ => exact ⟨log, lives⟩

/-- The same of sessions whose players have lived. -/
theorem Lives.perform_rule {P : Session ω → Prop} {request : Request ω} (lives : Lives session log)
    (moves : ∀ {middle last : Session ω} {log : List (Moment TimerQueue ω)}, Lives middle log →
      P middle → middle.Moves last → P last)
    (changed : request.IsChange → P later) (boarded : P (session.boarded request))
    (answer : session.perform request = some later) : P later := by
  refine (Session.perform_rule (P := fun middle => (∃ log, Lives middle log) ∧ P middle)
    ?_ ?_ ⟨lives.boarded request, boarded⟩ answer).2
  · rintro middle last ⟨⟨log, lives⟩, holds⟩ moved
    exact ⟨lives.moves moved, moves lives holds moved⟩
  · intro change
    exact ⟨⟨_, Lives.kept.lasting.performed lives answer⟩, changed change⟩

end Session

end LightingDesk
