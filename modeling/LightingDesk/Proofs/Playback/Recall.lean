import LightingDesk.Proofs.Playback.Activation
import LightingDesk.Proofs.Playback.Lives
import LightingDesk.Proofs.Playback.Tracking
import LightingDesk.Proofs.Playback.Walk

/-!
Which trackers a playback remembers. A tracker that is done is forgotten, whether its sequence is finished
or its next child is missing, and starts anew when it is entered again. A tracker that is done because its
next child is being played already is not: it stays where it was refused (`Life.recalls`), so that
`Session.unforgotten_rondo` comes back to the middle of its children.
-/

namespace LightingDesk

namespace Cursor

/-- The tracker is done in this step because its next child is being played already. -/
def Refuses (act : Act) (tracker : NodeId) (cursor : Cursor) : Prop :=
  cursor.step = .trackerStep tracker ∧ ∃ payload child, act.tracker? tracker = some payload ∧
    payload.children[(cursor.memory.position tracker payload).index]? = some child ∧
    act.hasNode child = true ∧ child ∈ cursor.frames

/-- The tracker is not being played, or it is done and about to be taken off the frames. -/
def Quit (tracker : NodeId) (cursor : Cursor) : Prop :=
  tracker ∉ cursor.frames ∨
    cursor.frames.head? = some tracker ∧ ∃ route, cursor.step = .complete route

/-- Only trackers with children have positions. -/
def Moved (act : Act) (memory : TrackerMemory) : Prop :=
  ∀ id position, memory.stored? id = some position →
    ∃ payload, act.tracker? id = some payload ∧ payload.children ≠ []

variable {act : Act} {outcome : Bool} {before after : Cursor}

theorem Next.moved (next : Next act outcome before after) (moved : Moved act before.memory) :
    Moved act after.memory := by
  have forgets (memory : TrackerMemory) (parent : NodeId) (moved : Moved act memory) :
      Moved act (memory.forget parent) := by
    intro id position stored
    by_cases same : id = parent
    · simp [same, memory.stored?_forget_self] at stored
    · exact moved id position (memory.stored?_forget_other same ▸ stored)
  cases next with
  | missing | finished => exact forgets _ _ moved
  | @moveOn done parent below memory generator route payload reached later tracker children =>
    intro id position stored
    by_cases same : id = parent
    · exact same ▸ ⟨payload, tracker, children⟩
    · exact moved id position (memory.stored?_store_other same reached ▸ stored)
  | _ => exact moved

section Quit

variable {frames below : List NodeId} {memory : TrackerMemory} {generator : Generator} {route : Route}
  {id tracker : NodeId}

@[simp] theorem quit_enter :
    Quit tracker ⟨frames, memory, generator, .enter id⟩ ↔ tracker ∉ frames := by
  simp [Quit]

@[simp] theorem quit_trackerStep :
    Quit tracker ⟨frames, memory, generator, .trackerStep id⟩ ↔ tracker ∉ frames := by
  simp [Quit]

theorem quit_complete (distinct : (id :: below).Nodup) :
    Quit tracker ⟨id :: below, memory, generator, .complete route⟩ ↔ tracker ∉ below := by
  have outer := (List.nodup_cons.1 distinct).1
  by_cases same : tracker = id
  · simp [Quit, same, outer]
  · simp [Quit, same, Ne.symm same]

@[simp] theorem not_refuses_enter : ¬Refuses act tracker ⟨frames, memory, generator, .enter id⟩ := by
  simp [Refuses]

@[simp] theorem not_refuses_complete :
    ¬Refuses act tracker ⟨frames, memory, generator, .complete route⟩ := by
  simp [Refuses]

/-- A tracker refuses exactly when its next child is there and is being played. -/
theorem refuses_trackerStep {payload : TrackerPayload} (found : act.tracker? id = some payload) :
    Refuses act tracker ⟨frames, memory, generator, .trackerStep id⟩ ↔ tracker = id ∧
      ∃ child, payload.children[(memory.position id payload).index]? = some child ∧
        act.hasNode child = true ∧ child ∈ frames := by
  constructor
  · rintro ⟨same, other, child, tracks, sends⟩
    obtain rfl := Step.trackerStep.inj same
    obtain rfl := Option.some.inj (found.symm.trans tracks)
    exact ⟨rfl, child, sends⟩
  · rintro ⟨rfl, child, sends⟩
    exact ⟨rfl, payload, child, found, sends⟩

end Quit

/-- What a playback remembers of a tracker that it is done with: what it remembered before, unless the
tracker was forgotten on its way out. -/
theorem Next.quit_iff {tracker : NodeId} {position : TrackerPosition}
    (next : Next act outcome before after) (fits : before.Fits act) (moved : Moved act before.memory) :
    after.Quit tracker ∧ after.memory.stored? tracker = some position ↔
      before.memory.stored? tracker = some position ∧
        (before.Refuses act tracker ∨ before.Quit tracker ∧ before.step ≠ .enter tracker) := by
  have unmoved {id : NodeId} (other : act.tracker? id = none) :
      before.memory.stored? id ≠ some position := by
    intro stored
    obtain ⟨payload, found, -⟩ := moved id position stored
    simp [other] at found
  cases next with
  | @plain id frames memory generator present notCondition notTracker =>
    by_cases same : tracker = id
    · simp [same, unmoved notTracker]
    · simp [Quit, same, Ne.symm same, and_comm]
  | @condition id frames memory generator condition =>
    have notTracker : act.tracker? id = none := by
      by_contra other
      obtain ⟨payload, found⟩ := Option.ne_none_iff_exists'.1 other
      simp [Act.isCondition_of_tracker? found] at condition
    by_cases same : tracker = id
    · simp [same, unmoved notTracker]
    · simp [Quit, same, Ne.symm same, and_comm]
  | @tracker id frames memory generator payload found =>
    by_cases same : tracker = id
    · simp [same]
    · simp [same, Ne.symm same, and_comm]
  | @child id frames memory generator payload child found due present idle =>
    have willing : ¬Refuses act tracker ⟨frames, memory, generator, .trackerStep id⟩ := by
      simp [refuses_trackerStep found, due, idle]
    simp [willing, and_comm]
  | @childless id frames memory generator payload found due =>
    obtain ⟨below, rfl⟩ := fits.exists_below
    have willing : ¬Refuses act tracker ⟨id :: below, memory, generator, .trackerStep id⟩ := by
      simp [refuses_trackerStep found, due]
    rw [quit_complete fits.distinct]
    by_cases same : tracker = id
    · -- without children it has never been moved
      have unstored : memory.stored? id ≠ some position := by
        intro stored
        obtain ⟨other, tracks, children⟩ := moved id position stored
        obtain rfl := Option.some.inj (found.symm.trans tracks)
        exact absurd (memory.position_lt id children) (by simpa using due)
      simp [same, unstored]
    · simp [same, willing, and_comm]
  | @missing id frames memory generator payload child found due absent =>
    obtain ⟨below, rfl⟩ := fits.exists_below
    have willing : ¬Refuses act tracker ⟨id :: below, memory, generator, .trackerStep id⟩ := by
      simp [refuses_trackerStep found, due, absent]
    rw [quit_complete fits.distinct]
    by_cases same : tracker = id
    · subst same
      simp [willing, memory.stored?_forget_self]
    · simp [same, willing, memory.stored?_forget_other same, and_comm]
  | @busy id frames memory generator payload child found due present busy =>
    obtain ⟨below, rfl⟩ := fits.exists_below
    have refuses : Refuses act tracker ⟨id :: below, memory, generator, .trackerStep id⟩ ↔
        tracker = id := by
      rw [refuses_trackerStep found]
      exact and_iff_left ⟨child, due, present, busy⟩
    rw [quit_complete fits.distinct, refuses]
    by_cases same : tracker = id
    · simp [same, (List.nodup_cons.1 fits.distinct).1]
    · simp [same, and_comm]
  | @moveOn done parent below memory generator route payload reached later found children =>
    rw [quit_complete fits.distinct]
    by_cases same : tracker = parent
    · simp [same]
    · simp [same, memory.stored?_store_other same, and_comm]
  | @finished done parent below memory generator route payload later found children =>
    rw [quit_complete fits.distinct, quit_complete (List.nodup_cons.1 fits.distinct).2]
    by_cases same : tracker = parent
    · subst same
      simp [memory.stored?_forget_self]
    · simp [same, memory.stored?_forget_other same, and_comm]
  | @follow done memory generator route edge target =>
    rw [quit_complete fits.distinct]
    simp
  | strayChild stray => exact absurd stray fits.not_strayChild
  | strayStep stray => exact absurd stray fits.tracker?_ne_none

/-- What is done with is back on the frames only once it is entered. -/
theorem Next.not_mem_of_quit {tracker : NodeId} (next : Next act outcome before after)
    (fits : before.Fits act) (quit : before.Quit tracker) (other : before.step ≠ .enter tracker) :
    tracker ∉ after.frames := by
  cases next with
  | plain | condition | tracker =>
    have different : tracker ≠ _ := fun same => other (congrArg Step.enter same.symm)
    exact List.not_mem_cons_of_ne_of_not_mem different (quit_enter.1 quit)
  | child | childless | missing | busy | strayStep => exact quit_trackerStep.1 quit
  | moveOn | finished | strayChild => exact (quit_complete fits.distinct).1 quit
  | follow => exact List.not_mem_nil

/-- A tracker that is done is forgotten, unless it was refused. -/
theorem Next.forgets {tracker : NodeId} {route : Route} (next : Next act outcome before after)
    (fits : before.Fits act) (moved : Moved act before.memory)
    (top : after.frames.head? = some tracker) (done : after.step = .complete route) :
    after.memory.stored? tracker = none ∨ before.Refuses act tracker := by
  rw [or_iff_not_imp_left, ← ne_eq, Option.ne_none_iff_exists']
  rintro ⟨position, stored⟩
  have quit : after.Quit tracker := .inr ⟨top, route, done⟩
  obtain ⟨-, refuses | ⟨earlier, other⟩⟩ := (next.quit_iff fits moved).1 ⟨quit, stored⟩
  · exact refuses
  · exact absurd (List.mem_of_head? top) (next.not_mem_of_quit fits earlier other)

end Cursor

variable {σ ω : Type} [Scheduler σ] [Output ω] {act : Act} {token : Token} {tracker : NodeId}
  {position : TrackerPosition} {past rest : List (Moment σ ω)} {moment : Moment σ ω} {cursor : Cursor}

omit [Scheduler σ] [Output ω] in
/-- In one of these moments the tracker was refused, where it had been moved to, and it has not been
entered since. -/
def Refused (past : List (Moment σ ω)) (tracker : NodeId) (position : TrackerPosition) : Prop :=
  ∃ earlier moment later, past = earlier ++ moment :: later ∧
    moment.cursor.Refuses moment.player.act tracker ∧
    moment.player.memory.stored? tracker = some position ∧
    ∀ other ∈ later, other.step ≠ .enter tracker

omit [Scheduler σ] [Output ω] in
theorem refused_append_singleton : Refused (past ++ [moment]) tracker position ↔
    moment.cursor.Refuses moment.player.act tracker ∧
      moment.player.memory.stored? tracker = some position ∨
    Refused past tracker position ∧ moment.step ≠ .enter tracker := by
  constructor
  · rintro ⟨earlier, refusal, later, split, refuses, stored, since⟩
    rcases List.eq_nil_or_concat' later with rfl | ⟨later, last, rfl⟩
    · obtain ⟨rfl, same⟩ := List.append_inj' split rfl
      obtain rfl : moment = refusal := by simpa using same
      exact .inl ⟨refuses, stored⟩
    · rw [← List.cons_append, ← List.append_assoc] at split
      obtain ⟨rfl, same⟩ := List.append_inj' split rfl
      obtain rfl : moment = last := by simpa using same
      obtain ⟨before, now⟩ := List.forall_mem_append.1 since
      exact .inr ⟨⟨earlier, refusal, later, rfl, refuses, stored, before⟩, now _ List.mem_cons_self⟩
  · rintro (⟨refuses, stored⟩ | ⟨⟨earlier, refusal, later, rfl, refuses, stored, since⟩, now⟩)
    · exact ⟨past, moment, [], rfl, refuses, stored, by simp⟩
    · refine ⟨earlier, refusal, later ++ [moment], by simp, refuses, stored, ?_⟩
      exact List.forall_mem_append.2 ⟨since, List.forall_mem_singleton.2 now⟩

/-- What a playback remembers where it stands after these moments. -/
structure Recalls (act : Act) (past : List (Moment σ ω)) (cursor : Cursor) : Prop where
  moved : Cursor.Moved act cursor.memory
  refused : ∀ tracker position, Refused past tracker position ↔
    cursor.Quit tracker ∧ cursor.memory.stored? tracker = some position

/-- A playback remembers no tracker that it is done with but those that were refused. -/
theorem Playback.remembers (playback : Playback act token past (some cursor)) :
    Recalls act past cursor := by
  generalize standing : some cursor = due at playback
  induction playback generalizing cursor with
  | start found generator =>
    obtain rfl := Option.some.inj standing
    refine ⟨?_, ?_⟩
    · intro id position stored
      cases stored
    · intro tracker position
      simp [Refused, TrackerMemory.stored?, TrackerMemory.empty]
  | @take past moment before plays named playing free answered ih =>
    have recalls := ih rfl
    have live : moment.Live := ⟨playing, free, answered, plays ▸ before.fits⟩
    have next := plays ▸ live.next_of_due? standing.symm
    refine ⟨next.moved recalls.moved, ?_⟩
    intro tracker position
    rw [refused_append_singleton, recalls.refused, plays, next.quit_iff before.fits recalls.moved]
    constructor
    · rintro (⟨refuses, stored⟩ | ⟨⟨quit, stored⟩, other⟩)
      · exact ⟨stored, .inl refuses⟩
      · exact ⟨stored, .inr ⟨quit, other⟩⟩
    · rintro ⟨stored, refuses | ⟨quit, other⟩⟩
      · exact .inl ⟨refuses, stored⟩
      · exact .inr ⟨⟨quit, stored⟩, other⟩

omit [Scheduler σ] [Output ω] in
theorem Recalls.outside (recalls : Recalls act past cursor) (outside : tracker ∉ cursor.frames)
    (position : TrackerPosition) :
    cursor.memory.stored? tracker = some position ↔ Refused past tracker position := by
  rw [recalls.refused]
  exact (and_iff_right (.inl outside)).symm

/-- A playback remembers a tracker that is not being played exactly if the tracker was refused, and not
entered since, and it remembers where that was. So a tracker that is done is forgotten on every other way
out, and starts from where its author put it when it is entered again. -/
theorem Life.recalls {id : PlayerId} {player : Player} {log : List (Moment σ ω)}
    (life : Life id act player log) :
    (player.playing = true → ∀ tracker ∉ player.frames, ∀ position,
      player.memory.stored? tracker = some position ↔
        Refused (Moment.playback player.token log) tracker position) ∧
    ∀ token past moment rest, Moment.playback token log = past ++ moment :: rest →
      (∀ tracker ∉ moment.player.frames, ∀ position,
        moment.player.memory.stored? tracker = some position ↔ Refused past tracker position) ∧
      (∀ due tracker route, moment.due? = some due → due.frames.head? = some tracker →
        due.step = .complete route →
          due.memory.stored? tracker = none ∨ moment.cursor.Refuses act tracker) ∧
      ∀ tracker payload, moment.step = .enter tracker → act.tracker? tracker = some payload →
        (∀ position, ¬Refused past tracker position) →
          moment.player.memory.position tracker payload =
            payload.initial.position.clamp payload.children.length := by
  refine ⟨?_, ?_⟩
  · intro playing tracker outside position
    obtain ⟨wait, -, playback⟩ := life.chronicle.waits playing
    exact playback.remembers.outside outside position
  · intro token past moment rest split
    obtain ⟨due, playback⟩ := (life.chronicle.playbacks token).resolve_left (by simp [split])
    rw [split] at playback
    have before := playback.before
    obtain ⟨-, -, plays, -, live⟩ := playback.after.append_singleton
    have recalls := before.remembers
    refine ⟨fun tracker outside => recalls.outside outside, ?_, ?_⟩
    · intro due tracker route leads top done
      exact (plays ▸ live.next_of_due? leads).forgets before.fits recalls.moved top done
    · intro tracker payload enters found willing
      have allowed := before.fits.allowed
      rw [Moment.cursor_of_step enters] at allowed
      have unstored : moment.player.memory.stored? tracker = none := by
        rw [Option.eq_none_iff_forall_ne_some]
        exact fun position stored =>
          willing position ((recalls.outside allowed.2.1 position).1 stored)
      rw [TrackerMemory.position, unstored]
      rfl

/-- A tracker that plays a scene and then would play itself, and a rest that leads back to it. -/
def Act.rondo : Act :=
  { Act.empty ⟨"act"⟩ "rondo" .epoch with
    nodes := [
      ⟨⟨"rondo"⟩, "rondo",
        .tracker ((TrackerPayload.ofChildren [⟨"theme"⟩, ⟨"rondo"⟩]).withStepDelay 5), .origin⟩,
      ⟨⟨"theme"⟩, "theme", .scene (.ofScene ""), .origin⟩,
      ⟨⟨"rest"⟩, "rest", .wait ⟨5⟩, .origin⟩]
    connections := [⟨⟨"out"⟩, ⟨"rondo"⟩, ⟨"rest"⟩, .default, none, none⟩,
      ⟨⟨"back"⟩, ⟨"rest"⟩, ⟨"rondo"⟩, .default, none, none⟩] }

namespace Session

/-- The rondo after its first round. -/
theorem rondo_rests : ∃ session : Session Universe, ∃ player, session.Reachable ∧
    session.player? ⟨1⟩ = some player ∧ player.playing = true ∧ player.frames = [⟨"rest"⟩] ∧
      player.memory.stored? ⟨"rondo"⟩ = some ⟨1, .forward⟩ := by
  have course : ((bare 8).perform (.play .rondo)).bind
      (fun session => (session.perform (.advance 5000000)).bind fun later =>
        (later.player? ⟨1⟩).map fun player =>
          (player.playing, player.frames, player.memory.stored? ⟨"rondo"⟩)) =
      some (true, [⟨"rest"⟩], some ⟨1, .forward⟩) := by decide
  obtain ⟨session, played, course⟩ := Option.bind_eq_some_iff.1 course
  obtain ⟨later, advanced, course⟩ := Option.bind_eq_some_iff.1 course
  obtain ⟨player, found, stands⟩ := Option.map_eq_some_iff.1 course
  simp only [Prod.mk.injEq] at stands
  exact ⟨later, player, ⟨_, .perform (.perform (.bare 8) _ played) _ advanced⟩, found, stands⟩

/-- What is remembered of the rondo is where it was refused. -/
theorem recalls_rondo : ∃ session : Session Universe, ∃ player, session.Reachable ∧
    session.player? ⟨1⟩ = some player ∧ player.playing = true ∧
      ∃ act, ∃ log : List (Moment TimerQueue Universe), Life ⟨1⟩ act player log ∧
        Refused (Moment.playback player.token log) ⟨"rondo"⟩ ⟨1, .forward⟩ := by
  obtain ⟨session, player, reachable, found, playing, frames, stored⟩ := rondo_rests
  obtain ⟨log, run⟩ := reachable
  obtain ⟨act, life⟩ := (Lives.kept.run run).life found
  have outside : ⟨"rondo"⟩ ∉ player.frames := by simp [frames]
  exact ⟨session, player, ⟨log, run⟩, found, playing, act, _, life,
    (life.recalls.1 playing _ outside _).1 stored⟩

/-- A tracker that is not being played may have a position left. -/
theorem unforgotten_rondo : ∃ session : Session Universe, ∃ player, session.Reachable ∧
    session.player? ⟨1⟩ = some player ∧ player.playing = true ∧ ⟨"rondo"⟩ ∉ player.frames ∧
      (player.memory.stored? ⟨"rondo"⟩).isSome = true := by
  obtain ⟨session, player, reachable, found, playing, frames, stored⟩ := rondo_rests
  exact ⟨session, player, reachable, found, playing, by simp [frames], by simp [stored]⟩

end Session

end LightingDesk
