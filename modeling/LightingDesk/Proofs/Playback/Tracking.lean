import LightingDesk.Proofs.Playback.Activation
import LightingDesk.Proofs.Playback.Stack

/-!
What a tracker plays in a playback, from the moment that enters it until its frame is taken off:
`Life.tracker_plays`. Its children may be trackers themselves and play for as long as they like.
-/

namespace LightingDesk

variable {σ ω : Type} [Scheduler σ] [Output ω] {act : Act}

omit [Scheduler σ] [Output ω] in
/-- The activation of a tracker that begins with a moment. -/
def Moment.activation (entry : Moment σ ω) (tracker : NodeId) (payload : TrackerPayload) :
    Activation :=
  ⟨tracker, payload, entry.player.frames, entry.player.memory.position tracker payload⟩

namespace Activation

variable {activation : Activation}

/-- The nodes that are reported as entered directly on the tracker. -/
def children (activation : Activation) (moments : List (Moment σ ω)) : List NodeId :=
  moments.flatMap fun moment =>
    if moment.player.frames = activation.frames then moment.entered else []

/-- The generators that the tracker finds at its turns. -/
def turns (activation : Activation) (moments : List (Moment σ ω)) : List Generator :=
  moments.flatMap fun moment => activation.turned moment.cursor

/-- A moment enters the tracker on the frames below it. -/
structure Begins (act : Act) (activation : Activation) (entry : Moment σ ω) : Prop where
  enters : entry.step = .enter activation.tracker
  found : act.tracker? activation.tracker = some activation.payload
  below : entry.player.frames = activation.below
  start : activation.position entry.player.memory = activation.start

/-- The tracker is done in this moment. -/
def Done (activation : Activation) (moment : Moment σ ω) : Prop :=
  moment.player.frames = activation.frames ∧ moment.step = .complete .first

/-- What holds of the moments of an activation. -/
structure Carried (act : Act) (activation : Activation) (moments : List (Moment σ ω)) : Prop where
  /-- The children that are played are those of the course of the tracker. -/
  course : activation.Course (activation.children moments) (activation.turns moments)
  /-- Nothing but its own turns moves the tracker. -/
  stands : ∀ earlier moment later, moments = earlier ++ moment :: later → ¬activation.Done moment →
    activation.after (activation.turns earlier) = some (activation.position moment.player.memory)
  /-- The tracker becomes done exactly for a reason of its own. -/
  concludes : ∀ moment ∈ moments, activation.Concludes act moment.cursor ↔
    ∃ due, moment.due? = some due ∧ due.frames = activation.frames ∧ due.step = .complete .first
  /-- Its frame is taken off only when it is done. -/
  leaves : ∀ moment ∈ moments, ∀ due, moment.due? = some due → ¬activation.frames <:+ due.frames →
    activation.Done moment ∧ due.frames = activation.below
  /-- The playback ends only when it is done and was reached in the graph. -/
  ends : ∀ moment ∈ moments, moment.due? = none → activation.Done moment ∧ activation.below = []
  /-- A tracker that was reached in the graph is left along its first connection. -/
  follows : ∀ moment ∈ moments, activation.Done moment → activation.below = [] →
    ∀ edge, act.firstOutgoing? activation.tracker = some edge → act.hasNode edge.target = true →
      ∃ due, moment.due? = some due ∧ due.frames = [] ∧ due.step = .enter edge.target
  /-- A tracker that was sent by another one gives way to it. -/
  returns : ∀ moment ∈ moments, activation.Done moment →
    ∀ parent below, activation.below = parent :: below →
      ∃ due, moment.due? = some due ∧ due.frames = parent :: below ∧
        (due.step = .trackerStep parent ∨ due.step = .complete .first)
  /-- A tracker that plays once plays its children in order, each once, up to the last one. -/
  once : activation.payload.mode = .once →
    activation.children moments <+: activation.payload.children.drop activation.start.index ∧
    ∀ earlier moment later route, moments = earlier ++ moment :: later →
      moment.step = .complete route → activation.Concludes act moment.cursor →
      activation.children earlier = activation.payload.children.drop activation.start.index

theorem children_append_singleton {moment : Moment σ ω} (live : moment.Live)
    (moments : List (Moment σ ω)) :
    activation.children (moments ++ [moment]) =
      activation.children moments ++ activation.entered moment.cursor := by
  rw [children, List.flatMap_append, List.flatMap_singleton, live.entered_eq]
  rfl

omit [Scheduler σ] [Output ω] in
theorem turns_append_singleton (moments : List (Moment σ ω)) (moment : Moment σ ω) :
    activation.turns (moments ++ [moment]) =
      activation.turns moments ++ activation.turned moment.cursor := by
  rw [turns, List.flatMap_append, List.flatMap_singleton]
  rfl

end Activation

section Moments

variable {activation : Activation} {children : List NodeId} {turns : List Generator}
  {moment : Moment σ ω}

omit [Scheduler σ] [Output ω] in
theorem Moment.cursor_of_step {step : Step} (taken : moment.step = step) :
    moment.cursor =
      ⟨moment.player.frames, moment.player.memory, moment.player.generator, step⟩ := by
  rw [Moment.cursor, Player.cursor, taken]

theorem Moment.Live.due?_of_enter {tracker : NodeId} {payload : TrackerPayload} (live : moment.Live)
    (plays : moment.player.act = act) (enters : moment.step = .enter tracker)
    (found : act.tracker? tracker = some payload) :
    moment.due? = some ⟨tracker :: moment.player.frames, moment.player.memory,
      moment.player.generator, .trackerStep tracker⟩ := by
  rcases live.cases with ⟨due, leads, next, -⟩ | ⟨reason, -, stops, -⟩
  · rw [plays, Moment.cursor_of_step enters] at next
    rw [leads, next.eq_of_tracker? found]
  · obtain ⟨done, route, -, complete⟩ := live.fits.last_frame stops
    have step : moment.step = .complete route := complete
    simp [enters] at step

theorem Moment.Live.concludes_iff (live : moment.Live) (plays : moment.player.act = act)
    (found : act.tracker? activation.tracker = some activation.payload)
    (attends : activation.Attends children turns moment.cursor) :
    activation.Concludes act moment.cursor ↔
      ∃ due, moment.due? = some due ∧ due.frames = activation.frames ∧
        due.step = .complete .first := by
  have fits := live.fits
  have cases := live.cases
  rw [plays] at fits cases
  constructor
  · intro concludes
    rcases cases with ⟨due, leads, next, -⟩ | ⟨reason, -, stops, -⟩
    · exact ⟨due, leads, concludes.next found next⟩
    · obtain ⟨frames, complete, -⟩ := attends.stops fits stops
      obtain ⟨⟨child, above⟩, -⟩ := concludes.of_complete complete
      rw [frames] at above
      simp at above
  · rintro ⟨due, leads, top, done⟩
    have next := live.next_of_due? leads
    rw [plays] at next
    exact attends.concludes found fits next top done

/-- The frame of a tracker is taken off only when it is done. -/
theorem Moment.Live.quits (live : moment.Live) (plays : moment.player.act = act)
    (found : act.tracker? activation.tracker = some activation.payload)
    (attends : activation.Attends children turns moment.cursor) {due : Cursor}
    (leads : moment.due? = some due) (off : ¬activation.frames <:+ due.frames) :
    activation.Done moment ∧ due.frames = activation.below := by
  have fits := live.fits
  have next := live.next_of_due? leads
  rw [plays] at fits next
  rcases attends.next found fits next with stays | ⟨frames, complete, left⟩
  · exact absurd stays.suffix off
  · exact ⟨⟨frames, complete⟩, left⟩

theorem Moment.Live.ends (live : moment.Live)
    (attends : activation.Attends children turns moment.cursor) (none : moment.due? = none) :
    activation.Done moment ∧ activation.below = [] := by
  rcases live.cases with ⟨due, leads, -⟩ | ⟨reason, -, stops, -⟩
  · rw [none] at leads
    simp at leads
  · obtain ⟨frames, complete, below⟩ := attends.stops live.fits stops
    exact ⟨⟨frames, complete⟩, below⟩

/-- A tracker that is done and was reached in the graph is left along its first connection. -/
theorem Moment.Live.follows (live : moment.Live) (plays : moment.player.act = act)
    (done : activation.Done moment) (below : activation.below = []) {edge : Connection}
    (first : act.firstOutgoing? activation.tracker = some edge)
    (present : act.hasNode edge.target = true) :
    ∃ due, moment.due? = some due ∧ due.frames = [] ∧ due.step = .enter edge.target := by
  have frames : moment.player.frames = [activation.tracker] := by rw [done.1, Activation.frames, below]
  have cases := live.cases
  rw [plays, Moment.cursor_of_step done.2, frames] at cases
  have leads : Route.first.connection? act activation.tracker = some edge := first
  rcases cases with ⟨due, same, next, -⟩ | ⟨reason, -, stops, -⟩
  · rw [next.eq_of_connection? leads] at same
    exact ⟨_, same, rfl, rfl⟩
  · have next : Cursor.Next act true ⟨[activation.tracker], moment.player.memory,
        moment.player.generator, .complete .first⟩
        ⟨[], moment.player.memory, moment.player.generator, .enter edge.target⟩ :=
      .follow_target leads present
    exact absurd stops next.not_stops

theorem Moment.Live.returns (live : moment.Live) (done : activation.Done moment) {parent : NodeId}
    {below : List NodeId} (sent : activation.below = parent :: below) :
    ∃ due, moment.due? = some due ∧ due.frames = parent :: below ∧
      (due.step = .trackerStep parent ∨ due.step = .complete .first) := by
  have frames : moment.player.frames = activation.tracker :: parent :: below := by
    rw [done.1, Activation.frames, sent]
  rcases live.cases with ⟨due, leads, next, -⟩ | ⟨reason, -, stops, -⟩
  · rw [Moment.cursor_of_step done.2, frames] at next
    exact ⟨due, leads, next.parent⟩
  · obtain ⟨last, route, single, -⟩ := live.fits.last_frame stops
    have same : moment.player.frames = [last] := single
    simp [frames] at same

end Moments

section Playback

variable {activation : Activation} {token : Token} {past inner : List (Moment σ ω)}
  {entry : Moment σ ω} {due : Option Cursor}

/-- As long as its frame is there, a tracker attends to its children. -/
theorem Playback.attends (playback : Playback act token (past ++ entry :: inner) due)
    (begins : activation.Begins act entry)
    (inside : ∀ moment ∈ inner, activation.frames <:+ moment.player.frames) :
    activation.Course (activation.children inner) (activation.turns inner) ∧
    ∀ cursor, due = some cursor → activation.frames <:+ cursor.frames →
      activation.Attends (activation.children inner) (activation.turns inner) cursor := by
  induction inner using List.reverseRecOn generalizing due with
  | nil =>
    obtain ⟨-, rfl, plays, -, live⟩ := playback.append_singleton
    refine ⟨.nil, ?_⟩
    intro cursor leads _
    rw [live.due?_of_enter plays begins.enters begins.found, begins.below] at leads
    obtain rfl := Option.some.inj leads
    exact .choosing rfl (congrArg some begins.start.symm)
  | append_singleton inner moment ih =>
    rw [← List.cons_append, ← List.append_assoc] at playback
    obtain ⟨before, rfl, plays, -, live⟩ := playback.append_singleton
    obtain ⟨course, attends⟩ := ih before fun moment member =>
      inside moment (List.mem_append_left _ member)
    have attends := attends _ rfl (inside moment (List.mem_append_right _ List.mem_cons_self))
    rw [Activation.children_append_singleton live, Activation.turns_append_singleton]
    refine ⟨attends.course course, ?_⟩
    intro cursor leads stays
    rcases attends.next begins.found before.fits (plays ▸ live.next_of_due? leads) with
      attends | ⟨-, -, left⟩
    · exact attends
    · have lengths := stays.length_le
      rw [left] at lengths
      exact absurd lengths (Nat.not_succ_le_self _)

/-- A moment of an activation finds the tracker attending to what it has played until then. -/
theorem Playback.attended {earlier later : List (Moment σ ω)} {moment : Moment σ ω}
    (playback : Playback act token (past ++ entry :: (earlier ++ moment :: later)) due)
    (begins : activation.Begins act entry)
    (inside : ∀ moment ∈ earlier, activation.frames <:+ moment.player.frames)
    (stays : activation.frames <:+ moment.player.frames) :
    moment.Live ∧ moment.player.act = act ∧
      activation.Course (activation.children earlier) (activation.turns earlier) ∧
      activation.Attends (activation.children earlier) (activation.turns earlier) moment.cursor := by
  rw [← List.cons_append, ← List.append_assoc] at playback
  obtain ⟨-, -, plays, -, live⟩ := playback.after.append_singleton
  obtain ⟨course, attends⟩ := playback.before.attends begins inside
  exact ⟨live, plays, course, attends _ rfl stays⟩

theorem Playback.carried (playback : Playback act token (past ++ entry :: inner) due)
    (begins : activation.Begins act entry)
    (inside : ∀ moment ∈ inner, activation.frames <:+ moment.player.frames) :
    activation.Carried act inner := by
  have attended (earlier : List (Moment σ ω)) (moment : Moment σ ω) (later : List (Moment σ ω))
      (split : inner = earlier ++ moment :: later) :=
    (split ▸ playback).attended begins
      (fun other member => inside other (split ▸ List.mem_append_left _ member))
      (inside moment (split ▸ List.mem_append_right _ List.mem_cons_self))
  have each : ∀ moment ∈ inner, moment.Live ∧ moment.player.act = act ∧
      ∃ children turns, activation.Attends children turns moment.cursor := by
    intro moment member
    obtain ⟨earlier, later, split⟩ := List.append_of_mem member
    obtain ⟨live, plays, -, attends⟩ := attended earlier moment later split
    exact ⟨live, plays, _, _, attends⟩
  have course := (playback.attends begins inside).1
  have within : activation.payload.children ≠ [] →
      activation.start.index < activation.payload.children.length :=
    begins.start ▸ entry.player.memory.position_lt activation.tracker
  refine ⟨course, ?_, ?_, ?_, ?_, ?_, ?_, ?_⟩
  · intro earlier moment later split notDone
    obtain ⟨-, -, -, attends⟩ := attended earlier moment later split
    exact attends.stands notDone
  · intro moment member
    obtain ⟨live, plays, children, turns, attends⟩ := each moment member
    exact live.concludes_iff plays begins.found attends
  · intro moment member due leads off
    obtain ⟨live, plays, children, turns, attends⟩ := each moment member
    exact live.quits plays begins.found attends leads off
  · intro moment member none
    obtain ⟨live, -, children, turns, attends⟩ := each moment member
    exact live.ends attends none
  · intro moment member done below edge first present
    obtain ⟨live, plays, -⟩ := each moment member
    exact live.follows plays done below first present
  · intro moment member done parent below sent
    obtain ⟨live, -⟩ := each moment member
    exact live.returns done sent
  · intro once
    refine ⟨course.once once within, ?_⟩
    intro earlier moment later route split complete concludes
    obtain ⟨-, -, course, attends⟩ := attended earlier moment later split
    obtain ⟨⟨child, above⟩, -, last⟩ := concludes.of_complete complete
    have stands := attends.stands fun done => by
      rw [done.1] at above
      simp at above
    exact course.all_played once within (attends.odd above) stands last

end Playback

/-- From its entry until its frame is taken off, a tracker plays the children of its course, stays
where it was left while they play, and is done exactly for a reason of its own. -/
theorem Life.tracker_plays {id : PlayerId} {player : Player} {log : List (Moment σ ω)}
    (life : Life id act player log) {token : Token} {past inner rest : List (Moment σ ω)}
    {entry : Moment σ ω} {tracker : NodeId} {payload : TrackerPayload}
    (moments : Moment.playback token log = past ++ entry :: (inner ++ rest))
    (enters : entry.step = .enter tracker) (found : act.tracker? tracker = some payload)
    (inside : ∀ moment ∈ inner, tracker :: entry.player.frames <:+ moment.player.frames) :
    entry.due? = some ⟨tracker :: entry.player.frames, entry.player.memory, entry.player.generator,
      .trackerStep tracker⟩ ∧
    (entry.activation tracker payload).Carried act inner := by
  obtain ⟨due, playback⟩ := (life.chronicle.playbacks token).resolve_left (by simp [moments])
  rw [moments] at playback
  obtain ⟨-, -, plays, -, live⟩ := playback.after.append_singleton
  rw [← List.cons_append, ← List.append_assoc] at playback
  obtain ⟨standing, playback⟩ := playback.initial
  exact ⟨live.due?_of_enter plays enters found,
    playback.carried ⟨enters, found, rfl, rfl⟩ inside⟩

theorem tracker_plays_selfNested :
    ∃ player : Player, ∃ log : List (Moment TimerQueue Universe),
      Life ⟨1⟩ .selfNested player log ∧
      ∃ entry inner, Moment.playback ⟨⟨1⟩, 1⟩ log = entry :: inner ∧
        inner.map (fun moment => moment.player.frames) = [[⟨"outer"⟩], [⟨"outer"⟩]] ∧
        (entry.activation ⟨"outer"⟩ (.ofChildren [⟨"inner"⟩, ⟨"outer"⟩])).Carried .selfNested
          inner := by
  let stage : Stage TimerQueue Universe := .ofParts .empty (.empty 1) .empty .standard
  have started :
      ((Player.load ⟨1⟩ .selfNested ⟨3, none, 8⟩ (.splitmix 0)).start stage).isSome = true := by
    decide
  obtain ⟨⟨result, player, stage'⟩, answer⟩ := Option.isSome_iff_exists.1 started
  have life := Life.start (.load ⟨3, none, 8⟩ (.splitmix 0)) stage answer
  have shown : (Moment.playback ⟨⟨1⟩, 1⟩ ([] ++
      (Player.load ⟨1⟩ .selfNested ⟨3, none, 8⟩ (.splitmix 0)).startMoments stage)).map
        (fun moment => (moment.step, moment.player.frames)) =
      [(.enter ⟨"outer"⟩, []), (.trackerStep ⟨"outer"⟩, [⟨"outer"⟩]),
        (.enter ⟨"inner"⟩, [⟨"outer"⟩])] := by decide
  cases moments : Moment.playback ⟨⟨1⟩, 1⟩ ([] ++
      (Player.load ⟨1⟩ .selfNested ⟨3, none, 8⟩ (.splitmix 0)).startMoments stage) with
  | nil =>
    rw [moments] at shown
    simp at shown
  | cons entry inner =>
    rw [moments, List.map_cons, List.cons.injEq, Prod.mk.injEq] at shown
    obtain ⟨⟨enters, outside⟩, shown⟩ := shown
    have frames : inner.map (fun moment => moment.player.frames) =
        [[⟨"outer"⟩], [⟨"outer"⟩]] := by
      have second := congrArg (List.map Prod.snd) shown
      rwa [List.map_map] at second
    have inside : ∀ moment ∈ inner, ⟨"outer"⟩ :: entry.player.frames <:+ moment.player.frames := by
      intro moment member
      have listed : moment.player.frames ∈ inner.map (fun moment => moment.player.frames) :=
        List.mem_map_of_mem member
      rw [frames] at listed
      have same : moment.player.frames = [⟨"outer"⟩] := by simpa using listed
      have level : ⟨"outer"⟩ :: entry.player.frames = moment.player.frames := by rw [outside, same]
      exact level ▸ List.suffix_rfl
    have all : Moment.playback ⟨⟨1⟩, 1⟩ ([] ++
        (Player.load ⟨1⟩ .selfNested ⟨3, none, 8⟩ (.splitmix 0)).startMoments stage) =
        [] ++ entry :: (inner ++ []) := by
      rw [moments, List.append_nil, List.nil_append]
    exact ⟨player, _, life, entry, inner, moments, frames,
      (life.tracker_plays all enters rfl inside).2⟩

end LightingDesk
