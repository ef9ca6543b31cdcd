import LightingDesk.Proofs.Dmx.Patch
import LightingDesk.Proofs.Playback.Moves
import LightingDesk.Proofs.Runner.Run

/-!
No frame is lost between a universe and the link. A change of levels is pending in the universe until the
runner collects it, and in the runner until a frame goes out (`Runner.Feeds`). So what was sent last is
what the universe shows, unless something is pending, and at the end of the work nothing is
(`Runner.Run.lossless`).
-/

namespace LightingDesk

/-! ### Changes of levels are noted -/

/-- The universe tells of a change, and of what there was to tell before. -/
structure Universe.Notes (before after : Universe) : Prop where
  kept : before.dirty = true → after.dirty = true
  noted : after.levels ≠ before.levels → after.dirty = true

namespace Universe.Notes

variable {before middle after : Universe}

theorem refl (dmx : Universe) : dmx.Notes dmx := ⟨id, fun different => absurd rfl different⟩

theorem trans (first : before.Notes middle) (second : middle.Notes after) : before.Notes after := by
  refine ⟨fun dirty => second.kept (first.kept dirty), fun different => ?_⟩
  by_cases same : after.levels = middle.levels
  · exact second.kept (first.noted (same ▸ different))
  · exact second.noted same

theorem write (dmx : Universe) (channel : UInt16) (value : UInt8) :
    dmx.Notes (dmx.write channel value) := by
  unfold Universe.write
  split
  next =>
    split
    next => exact ⟨fun _ => rfl, fun _ => rfl⟩
    next => exact .refl dmx
  next => exact .refl dmx

theorem deeds (dmx : Universe) (deeds : List Deed) : dmx.Notes (deeds.foldl Deed.onOutput dmx) := by
  induction deeds generalizing dmx with
  | nil => exact .refl dmx
  | cons deed rest ih =>
    cases deed with
    | event => exact ih dmx
    | write channel value => exact (write dmx channel value).trans (ih _)

theorem patch {fixture : Fixture} (answer : before.patch fixture = .ok after) : before.Notes after := by
  unfold Universe.patch at answer
  split at answer
  next => cases answer
  split at answer
  next => cases answer
  split at answer
  next => cases answer
  next =>
    obtain rfl := Except.ok.inj answer
    exact ⟨id, fun different => absurd rfl different⟩

/-- Only collecting takes the flag away. -/
theorem changeAll (dmx : Universe) {changes : List Change} (keeps : .collect ∉ changes) :
    dmx.Notes (dmx.changeAll changes) := by
  induction changes generalizing dmx with
  | nil => exact .refl dmx
  | cons change rest ih =>
    rw [List.mem_cons, not_or] at keeps
    refine Notes.trans ?_ (ih (dmx.change change) keeps.2)
    cases change with
    | patch fixture =>
      unfold Universe.change
      dsimp only
      split
      next patched answer => exact patch answer
      next => exact .refl dmx
    | unpatch id => exact ⟨fun dirty => dirty, fun different => absurd rfl different⟩
    | write channel value => exact write dmx channel value
    | blackout => exact ⟨fun _ => rfl, fun _ => rfl⟩
    | collect => exact absurd rfl keeps.1

end Universe.Notes

/-- The request does not take away what is noted: the universe is only changed by writing, blackout, and
patching fixtures. -/
def Request.KeepsFlag : Request Universe → Prop
  | .changeOutput change => ∃ changes, .collect ∉ changes ∧ ∀ dmx, change dmx = dmx.changeAll changes
  | _ => True

namespace Session

variable {session later : Session Universe} {log : List (Moment TimerQueue Universe)}

theorem Lives.notes_moves (lives : Lives session log) (moves : session.Moves later) :
    session.stage.output.Notes later.stage.output := by
  cases moves with
  | remove | clock => exact .refl _
  | @call id player reached shown call found answer =>
    obtain ⟨deeds, conducts⟩ := lives.conducts found answer
    have output : shown.output = deeds.foldl Deed.onOutput session.stage.output := by
      rw [conducts.records]
      rfl
    exact output ▸ .deeds _ deeds

/-- A session with players that have lived, in which nothing got lost since another one. -/
def Noted (before session : Session Universe) : Prop :=
  (∃ log, Lives session log) ∧ before.stage.output.Notes session.stage.output

theorem Lives.notes {request : Request Universe} (lives : Lives session log)
    (keeps : request.KeepsFlag) (answer : session.perform request = some later) :
    Noted session later := by
  refine ⟨⟨_, Lives.kept.lasting.performed lives answer⟩, lives.perform_rule
    (P := fun middle => session.stage.output.Notes middle.stage.output) ?_ ?_ ?_ answer⟩
  · intro middle last log lives notes moves
    exact notes.trans (lives.notes_moves moves)
  · intro change
    cases request with
    | changeSignals | changeScenes | changeBus =>
      obtain rfl := Option.some.inj answer
      exact .refl _
    | changeOutput change =>
      obtain rfl := Option.some.inj answer
      obtain ⟨changes, keeps, same⟩ := keeps
      have notes := Universe.Notes.changeAll session.stage.output keeps
      rwa [← same] at notes
    | _ => exact change.elim
  · cases request <;> exact .refl _

end Session

/-! ### From the universe to the link -/

/-- The link takes every packet; `sent` tells which ones it has taken. -/
structure ArtNet.Reliable {κ : Type} [ArtNet.Link κ] (sent : κ → List (List UInt8)) : Prop where
  takes : ∀ link bytes, ∃ later, ArtNet.Link.send link bytes = .ok later ∧
    sent later = sent link ++ [bytes]

theorem ArtNet.Wire.reliable : ArtNet.Reliable fun wire : ArtNet.Wire => wire.packets.toList :=
  ⟨fun wire bytes => ⟨⟨wire.packets.push bytes⟩, rfl, Array.toList_push⟩⟩

namespace Runner

open Relation

variable {κ : Type} (sent : κ → List (List UInt8)) {start runner middle later : Runner κ} {now : Nat}

/-- The frames that have gone out. -/
def frames (runner : Runner κ) : List (List UInt8) :=
  (runner.sender.map fun sender => sent sender.link).getD []

def levels (runner : Runner κ) : Levels := runner.session.stage.output.levels

/-- Levels have changed that were not sent yet. -/
def Owes (runner : Runner κ) : Prop :=
  runner.unsentFrame = true ∨ runner.session.stage.output.dirty = true

/-- The receivers show these levels: those of the last frame, or the first ones if there is none. -/
def Look (first : Levels) (frames : List (List UInt8)) (levels : Levels) : Prop :=
  match frames.getLast? with
  | none => levels = first
  | some frame => (ArtNet.read? frame).map ArtNet.Content.levels = some levels.toList

/-- What a runner has sent on the way to a later state shows its levels, if nothing is pending. -/
structure Feeds (runner later : Runner κ) : Prop where
  wired : later.sender.isSome = true
  feeds : ∃ more, later.frames sent = runner.frames sent ++ more ∧
    (later.Owes ∨ Look runner.levels more later.levels ∧ (more = [] → ¬runner.Owes))

variable {sent}

namespace Feeds

/-- A step that sends nothing. -/
theorem silent (wired : later.sender.isSome = true) (same : later.frames sent = runner.frames sent)
    (feeds : later.Owes ∨ later.levels = runner.levels ∧ ¬runner.Owes) : Feeds sent runner later :=
  ⟨wired, [], same.trans (List.append_nil _).symm, feeds.imp_right fun shows => ⟨shows.1, fun _ => shows.2⟩⟩

theorem refl (wired : runner.sender.isSome = true) : Feeds sent runner runner := by
  refine silent wired rfl ?_
  by_cases owes : runner.Owes
  · exact .inl owes
  · exact .inr ⟨rfl, owes⟩

theorem trans (first : Feeds sent runner middle) (second : Feeds sent middle later) :
    Feeds sent runner later := by
  obtain ⟨-, early, sentFirst, showsFirst⟩ := first
  obtain ⟨wired, late, sentLater, showsLater⟩ := second
  refine ⟨wired, early ++ late, by rw [sentLater, sentFirst, List.append_assoc], ?_⟩
  rcases showsLater with owes | ⟨looks, silent⟩
  · exact .inl owes
  right
  cases late with
  | nil =>
    have clear := silent rfl
    obtain ⟨looksFirst, silentFirst⟩ := showsFirst.resolve_left clear
    have same : later.levels = middle.levels := looks
    rw [List.append_nil, same]
    exact ⟨looksFirst, silentFirst⟩
  | cons frame rest =>
    refine ⟨?_, by simp⟩
    unfold Look at looks ⊢
    rw [List.getLast?_append]
    rw [List.getLast?_cons] at looks ⊢
    exact looks

theorem resume {session : Session Universe} (wired : runner.sender.isSome = true)
    (notes : runner.session.stage.output.Notes session.stage.output) :
    Feeds sent runner { runner with session } := by
  refine silent wired ?_ ?_
  · rfl
  by_cases dirty : session.stage.output.dirty = true
  · exact .inl (.inr dirty)
  have same : session.stage.output.levels = runner.levels := by
    by_contra different
    exact dirty (notes.noted different)
  by_cases unsent : runner.unsentFrame = true
  · exact .inl (.inl unsent)
  · exact .inr ⟨same, fun owes => owes.elim unsent fun before => dirty (notes.kept before)⟩

theorem collect (wired : runner.sender.isSome = true) : Feeds sent runner runner.collect := by
  refine silent wired ?_ ?_
  · rfl
  have flag : runner.collect.unsentFrame = (runner.unsentFrame || runner.session.stage.output.dirty) := rfl
  by_cases owes : runner.Owes
  · exact .inl (.inl (flag ▸ Bool.or_eq_true_iff.2 owes))
  · exact .inr ⟨rfl, owes⟩

theorem setRate (wired : runner.sender.isSome = true) (rate : Nat) :
    Feeds sent runner
      { runner with sender := runner.sender.map fun sender => sender.setRate rate } := by
  obtain ⟨sender, held⟩ := Option.isSome_iff_exists.1 wired
  rw [held]
  refine silent rfl ?_ ?_
  · rw [frames, frames, held]
    rfl
  · by_cases owes : runner.Owes
    · exact .inl owes
    · exact .inr ⟨rfl, owes⟩

variable [ArtNet.Link κ]

theorem flush (reliable : ArtNet.Reliable sent) (wired : runner.sender.isSome = true) (now : Nat) :
    Feeds sent runner (runner.flush now) := by
  refine (collect wired).trans ?_
  obtain ⟨sender, held⟩ := Option.isSome_iff_exists.1 wired
  have kept : runner.collect.sender = some sender := held
  have through : runner.collect.sender.isSome = true := wired
  unfold Runner.flush
  dsimp only
  split
  next => exact .refl through
  next unsent =>
    rw [kept]
    dsimp only
    unfold ArtNet.Sender.send
    by_cases soon : sender.isTooSoon now = true
    · rw [if_pos soon]
      exact silent rfl (by rw [frames, frames, kept]) (.inl (.inl rfl))
    · rw [if_neg soon]
      obtain ⟨link, taken, log⟩ := reliable.takes sender.link
        (ArtNet.packet sender.universeNumber sender.sequence runner.collect.levels)
      have out : ArtNet.Link.send sender.link (ArtNet.packet sender.universeNumber sender.sequence
        runner.collect.session.stage.output.levels) = .ok link := taken
      rw [out]
      have shows := ArtNet.read?_packet sender.universeNumber sender.sequence runner.collect.levels
      refine ⟨rfl, [ArtNet.packet sender.universeNumber sender.sequence runner.collect.levels], ?_,
        .inr ⟨?_, by simp⟩⟩
      · rw [frames, frames, kept]
        exact log
      · exact congrArg (Option.map ArtNet.Content.levels) shows

end Feeds

variable [ArtNet.Link κ]

theorem dirty_flush (runner : Runner κ) (now : Nat) :
    (runner.flush now).session.stage.output.dirty = false := by
  obtain ⟨sender, unsent, same⟩ := runner.exists_flush_eq now
  rw [same]
  rfl

/-- A flush that does not come too soon leaves nothing unsent. -/
theorem unsentFrame_flush (ready : ∀ sender, runner.sender = some sender → sender.isTooSoon now = false) :
    (runner.flush now).unsentFrame = false := by
  unfold flush
  dsimp only
  split
  next nothing => simpa using nothing
  next =>
    cases held : runner.sender with
    | none =>
      rw [show runner.collect.sender = none from held]
    | some sender =>
      rw [show runner.collect.sender = some sender from held]
      dsimp only
      unfold ArtNet.Sender.send
      rw [if_neg (by simp [ready sender held])]
      cases ArtNet.Link.send sender.link (ArtNet.packet sender.universeNumber sender.sequence
        runner.collect.session.stage.output.levels) <;> rfl

theorem settled_finish (runner : Runner κ) (now : Nat) : ¬(runner.finish now).Owes := by
  have ready : ∀ sender, (Option.map (fun sender : ArtNet.Sender κ => sender.setRate (UInt32.size - 1))
      runner.sender) = some sender → sender.isTooSoon now = false := by
    intro sender set
    obtain ⟨before, -, rfl⟩ := Option.map_eq_some_iff.1 set
    have interval : ArtNet.intervalOf (UInt32.size - 1) = 0 := by decide
    rw [ArtNet.Sender.isTooSoon, ArtNet.Sender.setRate, interval]
    simp
  rintro (unsent | dirty)
  · rw [finish, unsentFrame_flush ready] at unsent
    cases unsent
  · rw [finish, dirty_flush] at dirty
    cases dirty

/-- What a runner goes through: its own moves, and what its host asks of the session. -/
inductive Goes (runner : Runner κ) : Runner κ → Prop where
  | move {later : Runner κ} (moves : runner.Moves later) : Goes runner later
  | host {request : Request Universe} {session : Session Universe} (keeps : request.KeepsFlag)
      (answer : runner.session.perform request = some session) : Goes runner { runner with session }

theorem goes_of_moves (moves : ReflTransGen Moves runner later) : ReflTransGen Goes runner later := by
  induction moves with
  | refl => exact .refl
  | tail _ step ih => exact ih.tail (.move step)

theorem Run.goes (run : Run Request.KeepsFlag start runner) : ReflTransGen Goes start runner :=
  run.rule (fun way moves => way.tail (.move moves))
    (fun way keeps answer => way.tail (.host keeps answer)) .refl

omit [ArtNet.Link κ] in
theorem Asks.keepsFlag {request : Request Universe} (asks : runner.Asks request) :
    request.KeepsFlag := by
  cases asks with
  | catchUp | stop | stopAll | changeSignals => trivial
  | cue =>
    unfold Session.cue
    split <;> trivial

/-- A runner with players that have lived, and with a link on which it has shown what it had to show. -/
structure Airs (sent : κ → List (List UInt8)) (runner later : Runner κ) : Prop
    extends Feeds sent runner later where
  lives : ∃ log, Session.Lives later.session log

namespace Airs

omit [ArtNet.Link κ] in
theorem ask {request : Request Universe} {session : Session Universe} (airs : Airs sent runner middle)
    (keeps : request.KeepsFlag) (answer : middle.session.perform request = some session) :
    Airs sent runner { middle with session } := by
  obtain ⟨log, lives⟩ := airs.lives
  obtain ⟨lives, notes⟩ := lives.notes keeps answer
  exact ⟨airs.trans (.resume airs.wired notes), lives⟩

omit [ArtNet.Link κ] in
theorem collect (airs : Airs sent runner middle) : Airs sent runner middle.collect := by
  obtain ⟨log, lives⟩ := airs.lives
  exact ⟨airs.trans (.collect airs.wired), log, lives.restage _⟩

theorem flush (reliable : ArtNet.Reliable sent) (airs : Airs sent runner middle) (now : Nat) :
    Airs sent runner (middle.flush now) := by
  obtain ⟨log, lives⟩ := airs.lives
  obtain ⟨sender, unsent, same⟩ := middle.exists_flush_eq now
  refine ⟨airs.trans (.flush reliable airs.wired now), log, ?_⟩
  rw [same]
  exact lives.restage _

theorem goes (reliable : ArtNet.Reliable sent) (airs : Airs sent runner middle)
    (way : ReflTransGen Goes middle later) : Airs sent runner later := by
  induction way with
  | refl => exact airs
  | tail _ step ih =>
    cases step with
    | move moves =>
      cases moves with
      | ask asks answer => exact ih.ask asks.keepsFlag answer
      | flush now => exact ih.flush reliable now
    | host keeps answer => exact ih.ask keeps answer

theorem finish (reliable : ArtNet.Reliable sent) (airs : Airs sent runner middle) (now : Nat) :
    Airs sent runner (middle.finish now) := by
  have keeps : Request.KeepsFlag .stopAll := trivial
  have stopped : Airs sent runner { middle with session := middle.session.stopAll } :=
    airs.ask keeps rfl
  have collected := stopped.collect
  exact flush reliable ⟨collected.trans (.setRate collected.wired _), collected.lives⟩ now

end Airs

/-- What has gone out since then shows the levels of the universe. -/
def Shown (sent : κ → List (List UInt8)) (start runner : Runner κ) : Prop :=
  ∃ more, runner.frames sent = start.frames sent ++ more ∧ Look start.levels more runner.levels

omit [ArtNet.Link κ] in
theorem Feeds.shown (feeds : Feeds sent start runner) (clear : ¬runner.Owes) :
    Shown sent start runner := by
  obtain ⟨-, more, frames, shows⟩ := feeds
  exact ⟨more, frames, (shows.resolve_left clear).1⟩

omit [ArtNet.Link κ] in
/-- Nothing has changed on the way to a state in which nothing is pending, if no frame went out. -/
theorem Feeds.unchanged (first : Feeds sent start middle) (second : Feeds sent middle later)
    (clear : ¬later.Owes) (none : later.frames sent = start.frames sent) :
    middle.levels = start.levels := by
  obtain ⟨-, early, sentFirst, showsFirst⟩ := first
  obtain ⟨-, late, sentLater, showsLater⟩ := second
  obtain ⟨rfl, rfl⟩ : early = [] ∧ late = [] := by
    rw [sentLater, sentFirst, List.append_assoc] at none
    simpa using none
  obtain ⟨-, silent⟩ := showsLater.resolve_left clear
  exact (showsFirst.resolve_left (silent rfl)).1

end Runner

/-! ### The work of a runner -/

namespace Running

open Relation

variable {κ : Type} [ArtNet.Link κ] {start runner : Runner κ} {running later : Running κ}

/-- The work of a runner, as far as it has come. In each round it wakes up, takes a command if there is one,
and ticks, until it ends. When that is and what the clock shows whenever it is read is left open. -/
inductive Course (start : Runner κ) : Running κ → Prop where
  | begin (since : Nat) : Course start (.active since start)
  | wake {since : Nat} {runner later : Runner κ} (before : Course start (.active since runner))
      (clock : Clock) (answer : runner.tick clock = some later) (asleep : Nat) :
      Course start (.active asleep later)
  | take {since : Nat} {runner told later : Runner κ} (before : Course start (.active since runner))
      (clock after : Clock) (command : RunnerCommand) (answer : runner.apply clock command = some told)
      (ticked : told.tick after = some later) (asleep : Nat) : Course start (.active asleep later)
  | finish {since : Nat} {runner : Runner κ} (before : Course start (.active since runner))
      (now : Nat) : Course start (.ended (runner.finish now))

/-- All work is moves of the runner, and the end if it has come. -/
theorem Course.goes (course : Course start running) :
    match running with
    | .active _ runner => ReflTransGen Runner.Goes start runner
    | .ended last =>
        ∃ runner now, last = runner.finish now ∧ ReflTransGen Runner.Goes start runner := by
  induction course with
  | begin since => exact .refl
  | wake _ clock answer _ way => exact way.trans (Runner.goes_of_moves (Runner.moves_tick answer))
  | take _ clock after command answer ticked _ way =>
    have moved := (Runner.moves_apply answer).trans (Runner.moves_tick ticked)
    exact way.trans (Runner.goes_of_moves moved)
  | @finish since runner _ now way => exact ⟨runner, now, rfl, way⟩

/-! The work on a clock that stands still while the runner is awake is made of such rounds. -/

theorem Course.pass {last wakes since : Nat} (course : Course start (.active since runner))
    (answer : Running.pass last wakes since runner = some later) : Course start later := by
  induction wakes generalizing since runner with
  | zero => exact Option.some.inj answer ▸ course
  | succ wakes ih =>
    unfold Running.pass at answer
    split at answer
    next => exact Option.some.inj answer ▸ course.finish since
    next =>
      split at answer
      next => exact Option.some.inj answer ▸ course
      next wake =>
        split at answer
        next => exact Option.some.inj answer ▸ course
        next =>
          obtain ⟨reached, ticked, rest⟩ := Option.bind_eq_some_iff.1 answer
          exact ih (course.wake _ ticked _) rest

theorem Course.sleep {wakes last : Nat} (course : Course start running)
    (answer : running.sleep wakes last = some later) : Course start later := by
  cases running with
  | ended => exact Option.some.inj answer ▸ course
  | active => exact course.pass answer

theorem Course.handle {wakes now : Nat} {command : RunnerCommand} {result : Except RunnerError Unit}
    (course : Course start running)
    (answer : running.handle wakes now command = some (result, later)) : Course start later := by
  cases running with
  | ended => exact (Prod.mk.inj (Option.some.inj answer)).2 ▸ course
  | active since runner =>
    simp only [Running.handle, Option.bind_eq_bind, Option.bind_eq_some_iff] at answer
    obtain ⟨slept, passed, handled⟩ := answer
    have reached := course.pass passed
    cases slept with
    | ended => exact (Prod.mk.inj (Option.some.inj handled)).2 ▸ reached
    | active since awake =>
      cases command with
      | shutdown => exact (Prod.mk.inj (Option.some.inj handled)).2 ▸ reached.finish now
      | start | stop | stopAll | midi | osc =>
        simp only [Option.bind_eq_some_iff] at handled
        obtain ⟨applied, answered, ticked, tick, next, rest, same⟩ := handled
        obtain rfl : next = later := (Prod.mk.inj (Option.some.inj same)).2
        exact (reached.take _ _ _ answered tick _).pass rest

theorem Course.close {wakes now : Nat} (course : Course start running)
    (answer : running.close wakes now = some later) : Course start later := by
  obtain ⟨slept, passed, rfl⟩ := Option.map_eq_some_iff.1 answer
  have reached := course.sleep passed
  cases slept with
  | ended => exact reached
  | active since runner => exact reached.finish now

end Running

namespace Runner

open Relation

variable {κ : Type} [ArtNet.Link κ]

/-- What a host and the receivers can rely on while a runner is used, and when its work has ended. -/
structure Lossless (sent : κ → List (List UInt8)) (start runner : Runner κ) : Prop where
  /-- At any time, also in the midst of an operation. -/
  between : ∀ middle, ReflTransGen Moves runner middle → middle.Owes ∨ Shown sent start middle
  flushed : ∀ middle now, ReflTransGen Moves runner middle →
    (middle.flush now).unsentFrame = true ∨ Shown sent start (middle.flush now)
  /-- If no frame has gone out in the end, there never was anything to show. -/
  ended : ∀ last, Running.Course runner (.ended last) → Shown sent start last ∧
    ∃ awake now, last = awake.finish now ∧ ReflTransGen Goes runner awake ∧
      (last.frames sent = start.frames sent → ∀ middle, ReflTransGen Goes start middle →
        ReflTransGen Goes middle awake → middle.levels = start.levels)

theorem Run.lossless {sent : κ → List (List UInt8)} {start runner : Runner κ}
    (reliable : ArtNet.Reliable sent) (reachable : start.session.Reachable)
    (wired : start.sender.isSome = true) (run : Run Request.KeepsFlag start runner) :
    Lossless sent start runner := by
  obtain ⟨log, past⟩ := reachable
  have begun : Airs sent start start := ⟨.refl wired, log, Session.Lives.kept.run past⟩
  have airs {middle : Runner κ} (way : ReflTransGen Moves runner middle) : Airs sent start middle :=
    begun.goes reliable (run.goes.trans (goes_of_moves way))
  refine ⟨fun middle way => ?_, fun middle now way => ?_, fun last course => ?_⟩
  · by_cases owes : middle.Owes
    · exact .inl owes
    · exact .inr ((airs way).shown owes)
  · have flushed := (airs way).flush reliable now
    by_cases unsent : (middle.flush now).unsentFrame = true
    · exact .inl unsent
    · refine .inr (flushed.shown ?_)
      rintro (pending | dirty)
      · exact unsent pending
      · simp [dirty_flush] at dirty
  · obtain ⟨awake, now, rfl, way⟩ := course.goes
    have settled := awake.settled_finish now
    have finished := (begun.goes reliable (run.goes.trans way)).finish reliable now
    refine ⟨finished.shown settled, awake, now, rfl, way, fun none middle first rest => ?_⟩
    have early := begun.goes reliable first
    have late : Airs sent middle (awake.finish now) :=
      (Airs.goes reliable ⟨.refl early.wired, early.lives⟩ rest).finish reliable now
    exact early.unchanged late.toFeeds settled none

/-- A runner that sends what its host writes. -/
def console : Runner ArtNet.Wire :=
  create (.bare 3) [] (some (.create ⟨#[]⟩ 1))

theorem lossless_console : ∃ runner, Run Request.KeepsFlag console runner ∧
    (runner.frames fun wire => wire.packets.toList).length = 1 ∧
    Lossless (fun wire => wire.packets.toList) console runner := by
  let writes := [Universe.Change.write 0 255]
  have answered : (((console.session.perform (.changeOutput fun dmx => dmx.changeAll writes)).bind
      fun session => Runner.tick { console with session } (.still 0)).map
        fun runner => (runner.frames fun wire => wire.packets.toList).length) = some 1 := by
    decide +kernel
  obtain ⟨runner, answer, length⟩ := Option.map_eq_some_iff.1 answered
  obtain ⟨session, written, ticked⟩ := Option.bind_eq_some_iff.1 answer
  have keeps : Request.KeepsFlag (.changeOutput fun dmx => dmx.changeAll writes) :=
    ⟨writes, by simp [writes], fun _ => rfl⟩
  have run : Run Request.KeepsFlag console runner := (Run.here.ask keeps written).tick _ ticked
  have reachable : console.session.Reachable := ⟨[], .bare 3⟩
  exact ⟨runner, run, length, run.lossless ArtNet.Wire.reliable reachable rfl⟩

end Runner

end LightingDesk
