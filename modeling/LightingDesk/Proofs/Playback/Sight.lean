import LightingDesk.Proofs.Playback.Deliveries
import LightingDesk.Proofs.Playback.Still
import LightingDesk.Proofs.Universe

/-!
What is to be seen of one player while time passes. Other players use the same clock and write to the
same universe, but if the act of the player reads no levels, the deliveries of a window to it follow from
what was to be seen when the window was opened (`Session.Fires.sight`), so two sessions that look the same
to the player come out the same (`Session.Matches.fireWindow`).
-/

namespace LightingDesk

/-- The universes have the same fixtures. -/
structure Universe.SamePatch (dmx other : Universe) : Prop where
  number : other.number = dmx.number
  fixtures : other.fixtures = dmx.fixtures

namespace Universe.SamePatch

variable {dmx other third : Universe}

theorem refl (dmx : Universe) : dmx.SamePatch dmx := ⟨rfl, rfl⟩

theorem symm (same : dmx.SamePatch other) : other.SamePatch dmx :=
  ⟨same.number.symm, same.fixtures.symm⟩

theorem trans (same : dmx.SamePatch other) (more : other.SamePatch third) : dmx.SamePatch third :=
  ⟨more.number.trans same.number, more.fixtures.trans same.fixtures⟩

theorem write (dmx : Universe) (channel : UInt16) (value : UInt8) :
    dmx.SamePatch (dmx.write channel value) :=
  ⟨dmx.write_number channel value, dmx.write_fixtures channel value⟩

/-- Scenes are muted by the patch alone. -/
theorem likeness : Output.Likeness Universe.SamePatch where
  refl := refl
  fixtureAt := by
    intro dmx other same
    funext channel
    change other.fixtureAt channel = dmx.fixtureAt channel
    rw [fixtureAt, fixtureAt, same.fixtures]
  write := fun channel value same =>
    (write _ channel value).symm.trans (same.trans (write _ channel value))

theorem blurs {act : Act} (blind : ¬act.ReadsLevels) : act.Blurs Universe.SamePatch where
  toLikeness := likeness
  level? := fun reads => absurd reads blind

theorem record (dmx : Universe) (deeds : List Deed) :
    dmx.SamePatch (deeds.foldl Deed.onOutput dmx) := by
  induction deeds generalizing dmx with
  | nil => exact refl dmx
  | cons deed rest ih =>
    cases deed with
    | event => exact ih dmx
    | write channel value => exact (write dmx channel value).trans (ih _)

end Universe.SamePatch

/-- A stage can be told from what a player does on it. -/
theorem Stage.record_injective {σ ω : Type} [Scheduler σ] [Output ω] {stage : Stage σ ω}
    {player : PlayerId} {deeds more : List Deed}
    (same : stage.record player deeds = stage.record player more) : deeds = more := by
  have traces := congrArg (fun stage => stage.trace.toList) same
  simp only [record_trace] at traces
  refine List.map_injective_iff.2 (fun deed other alike => ?_) (List.append_cancel_left traces)
  exact congrArg TraceEntry.deed alike

namespace Session

/-- What shows of a player. -/
def aspect? {ω : Type} (session : Session ω) (id : PlayerId) : Option Player :=
  (session.player? id).map Player.aspect

/-- What a player has done, oldest first, and when. -/
def entriesOf {ω : Type} (session : Session ω) (id : PlayerId) : List TraceEntry :=
  session.stage.trace.toList.filter fun entry => entry.player == id

/-- Players find the same in both sessions, apart from the time and from levels. -/
structure Setting (session other : Session Universe) : Prop where
  settings : other.settings = session.settings
  seeding : other.seeding = session.seeding
  nextPlayer : other.nextPlayer = session.nextPlayer
  scenes : other.stage.scenes = session.stage.scenes
  signals : other.stage.signals = session.stage.signals
  patch : session.stage.output.SamePatch other.stage.output

/-- The sessions are the same to a player. -/
structure Matches (id : PlayerId) (session other : Session Universe) : Prop
    extends Setting session other where
  player : other.aspect? id = session.aspect? id
  entries : other.entriesOf id = session.entriesOf id

section Matches

variable {id : PlayerId} {session other third : Session Universe}

theorem Setting.symm (same : Setting session other) : Setting other session :=
  ⟨same.settings.symm, same.seeding.symm, same.nextPlayer.symm, same.scenes.symm, same.signals.symm,
    same.patch.symm⟩

theorem Setting.trans (same : Setting session other) (more : Setting other third) :
    Setting session third :=
  ⟨more.settings.trans same.settings, more.seeding.trans same.seeding,
    more.nextPlayer.trans same.nextPlayer, more.scenes.trans same.scenes, more.signals.trans same.signals,
    same.patch.trans more.patch⟩

theorem Setting.refl (session : Session Universe) : Setting session session :=
  ⟨rfl, rfl, rfl, rfl, rfl, .refl _⟩

theorem Setting.popped (same : Setting session other) (clock clockOther : TimerQueue) :
    Setting (session.popped clock) (other.popped clockOther) :=
  ⟨same.settings, same.seeding, same.nextPlayer, same.scenes, same.signals, same.patch⟩

theorem Matches.symm (same : Matches id session other) : Matches id other session :=
  ⟨same.toSetting.symm, same.player.symm, same.entries.symm⟩

theorem Matches.trans (same : Matches id session other) (more : Matches id other third) :
    Matches id session third :=
  ⟨same.toSetting.trans more.toSetting, more.player.trans same.player, more.entries.trans same.entries⟩

theorem Matches.refl (id : PlayerId) (session : Session Universe) : Matches id session session :=
  ⟨.refl session, rfl, rfl⟩

theorem Setting.alike (same : Setting session other) (now : Nat) (time : other.now = now) :
    other.stage.Alike Universe.SamePatch (session.stage.still now) :=
  ⟨time.symm, same.scenes.symm, same.signals.symm, same.patch.symm⟩

variable {player later : Player} {shown : Stage TimerQueue Universe} {deeds : List Deed}

theorem Setting.call (conducts : player.Conducts session.stage shown deeds) (later : Player) :
    Setting session (session.replace later shown) := by
  have records := conducts.records
  refine ⟨rfl, rfl, rfl, ?_, ?_, ?_⟩
  · exact (congrArg Stage.scenes records).trans rfl
  · exact (congrArg Stage.signals records).trans rfl
  · rw [show (session.replace later shown).stage.output = _ from congrArg Stage.output records]
    exact .record _ deeds

theorem entriesOf_call (conducts : player.Conducts session.stage shown deeds) (later : Player) :
    (session.replace later shown).entriesOf id = session.entriesOf id ++
      if player.id = id then deeds.map (TraceEntry.mk session.now player.id) else [] := by
  have grown : (session.replace later shown).stage.trace.toList = session.stage.trace.toList ++
      deeds.map (TraceEntry.mk session.now player.id) :=
    (congrArg (fun stage => stage.trace.toList) conducts.records).trans
      (session.stage.record_trace player.id deeds)
  rw [entriesOf, grown, List.filter_append, ← entriesOf]
  congr 1
  split
  next own => exact List.filter_eq_self.2 (by simp [own])
  next foreign => exact List.filter_eq_nil_iff.2 (by simp [foreign])

/-- A call on another player makes no difference. -/
theorem Matches.call_other (found : session.player? player.id = some player)
    (named : later.id = player.id) (foreign : player.id ≠ id)
    (conducts : player.Conducts session.stage shown deeds) :
    Matches id session (session.replace later shown) := by
  refine ⟨.call conducts later, ?_, ?_⟩
  · rw [aspect?, player?_replace (named ▸ found), if_neg (named ▸ foreign.symm), ← aspect?]
  · rw [entriesOf_call conducts, if_neg foreign, List.append_nil]

theorem aspect?_eq_some {seen : Player} : session.aspect? id = some seen ↔
    ∃ player, session.player? id = some player ∧ player.aspect = seen :=
  Option.map_eq_some_iff

theorem Matches.blind (same : Matches id session other)
    (blind : ∀ player, session.player? id = some player → ¬player.act.ReadsLevels) :
    ∀ player, other.player? id = some player → ¬player.act.ReadsLevels := by
  intro moved found
  have seen : session.aspect? id = some moved.aspect := by
    rw [← same.player, aspect?, found, Option.map_some]
  obtain ⟨player, found, alike⟩ := aspect?_eq_some.1 seen
  rw [show moved.act = player.act from (congrArg Player.act alike : player.aspect.act = _).symm]
  exact blind player found

/-- A call on the player itself has the same effect in both sessions. -/
theorem Matches.call {call : Call} {moved reached : Player} {revealed : Stage TimerQueue Universe}
    (same : Matches id session other) (now : other.now = session.now)
    (found : session.player? id = some player) (foundOther : other.player? id = some moved)
    (blind : ¬player.act.ReadsLevels) (idle : player.playing = false → player.waiting = none)
    (idleOther : moved.playing = false → moved.waiting = none) (named : later.id = player.id)
    (answer : player.answer session.stage call = some (later, shown))
    (answerOther : moved.answer other.stage call = some (reached, revealed)) :
    Matches id (session.replace later shown) (other.replace reached revealed) ∧
      revealed.clock.now = shown.clock.now := by
  have alike : moved.aspect = player.aspect := by
    have players := same.player
    rw [aspect?, aspect?, found, foundOther] at players
    exact Option.some.inj players
  have act : moved.act = player.act :=
    (congrArg Player.act alike : moved.aspect.act = player.aspect.act)
  have ids : moved.id = player.id := (congrArg Player.id alike : moved.aspect.id = player.aspect.id)
  obtain ⟨deeds, conducts, answers⟩ := Player.answer_still _ idle (Universe.SamePatch.blurs blind)
    ((Setting.refl session).alike session.now rfl) answer
  obtain ⟨more, conductsOther, answersOther⟩ := Player.answer_still _ idleOther
    (Universe.SamePatch.blurs (act.symm ▸ blind)) (same.toSetting.alike _ now) answerOther
  rw [alike, answers, Option.some.injEq, Prod.mk.injEq, ids] at answersOther
  obtain ⟨looks, records⟩ := answersOther
  obtain rfl := Stage.record_injective records
  obtain rfl := id_of_player? found
  have namedOther : reached.id = player.id :=
    (congrArg Player.id looks : later.aspect.id = reached.aspect.id).symm.trans named
  refine ⟨⟨?_, ?_, ?_⟩, ?_⟩
  · exact (Setting.call conducts later).symm.trans (same.toSetting.trans (.call conductsOther reached))
  · rw [aspect?, aspect?, player?_replace (namedOther ▸ foundOther), if_pos namedOther.symm,
      player?_replace (named ▸ found), if_pos named.symm, Option.map_some, Option.map_some, looks]
  · rw [entriesOf_call conducts, entriesOf_call conductsOther, same.entries, ids, now]
  · exact conductsOther.now.trans (now.trans conducts.now.symm)

end Matches

/-! ### Windows -/

/-- What is to be seen of a player in a window; `held` tells that its timer was armed before. -/
structure Sight where
  player : Option Player
  entries : List TraceEntry
  held : Bool

def sight (session : Session Universe) (id : PlayerId) (window : Window) : Sight where
  player := session.aspect? id
  entries := session.entriesOf id
  held := (session.player? id).any fun player =>
    player.waiting.any fun wait => wait.handle < window.barrier

/-- The time of the next delivery to the player, in a window that was opened at one instant and ends at
another. -/
def Sight.due? (sight : Sight) (opened limit : Nat) : Option Nat :=
  match sight.player.bind Player.waiting with
  | none => none
  | some wait =>
      if wait.yielded then if sight.held then some opened else none
      else if wait.armedAt + wait.delay ≤ limit then some (wait.armedAt + wait.delay) else none

/-- What a delivery to the player makes of the sight, on a stage like this one. -/
inductive Sight.Next (stage : Stage TimerQueue Universe) (limit : Nat) : Sight → Sight → Prop where
  | delivery {sight : Sight} {player later : Player} {shown : Stage Still Universe} {now : Nat}
      (found : sight.player = some player) (due : sight.due? stage.now limit = some now)
      (answer : player.answer (stage.still now) (.timer player.token) = some (later, shown)) :
      Next stage limit sight ⟨some later, sight.entries ++ shown.trace.toList, false⟩

theorem Sight.next_unique (stage : Stage TimerQueue Universe) (limit : Nat) :
    Relator.RightUnique (Sight.Next stage limit) := by
  rintro sight next other ⟨found, due, answer⟩ ⟨foundOther, dueOther, answerOther⟩
  obtain rfl := Option.some.inj (found.symm.trans foundOther)
  obtain rfl := Option.some.inj (due.symm.trans dueOther)
  obtain ⟨rfl, rfl⟩ := Prod.mk.inj (Option.some.inj (answer.symm.trans answerOther))
  rfl

theorem Sight.not_next {stage : Stage TimerQueue Universe} {limit : Nat} {sight : Sight}
    (none : sight.due? stage.now limit = none) : ∀ next, ¬Sight.Next stage limit sight next := by
  rintro next ⟨-, due, -⟩
  rw [none] at due
  cases due

section Window

open Relation

variable {id : PlayerId} {window : Window} {session middle last : Session Universe}
  {deliveries : List (Delivery Universe)} {log : List (Moment TimerQueue Universe)}
  {stage : Stage TimerQueue Universe}

/-- Nothing is left for the player when nothing is due. -/
theorem Timely.due?_eq_none (timely : Timely last log) (id : PlayerId)
    (exhausted : last.stage.clock.take? window = none) (within : last.now ≤ window.limit) (opened : Nat) :
    (last.sight id window).due? opened window.limit = none := by
  have left := timely.ordered.exhausted exhausted
  unfold Sight.due? sight aspect?
  cases found : last.player? id with
  | none => rfl
  | some player =>
    cases waiting : player.waiting with
    | none => simp [Player.aspect, waiting]
    | some wait =>
      have minds := (timely.paced player (mem_of_player? found)).minds wait waiting
      have notDue := left _ minds.armed
      simp only [Option.map_some, Option.bind_some, Player.aspect, waiting, Option.any_some]
      split
      next yields =>
        have overdue := (timely.yield_deadline_le minds.armed yields).trans within
        rw [if_neg]
        intro early
        exact notDue ⟨overdue, by simpa [Timer.mayFire, Player.timer] using .inr early⟩
      next plain =>
        rw [if_neg]
        intro due
        exact notDue (.of_plain (Bool.not_eq_true _ ▸ plain) due)

section Beat

variable {timer : Timer} {clock : TimerQueue} {player later : Player} {wait : Wait}
  {reached : Session Universe} {deeds : List Deed}

theorem Beat.player? (beat : Beat window middle timer clock player wait later reached)
    (id : PlayerId) :
    reached.player? id = if id = player.id then some later else middle.player? id := by
  have found : (middle.popped clock).player? later.id = some player := beat.later_id ▸ beat.found
  rw [beat.replaced, player?_replace found, beat.later_id]
  rfl

/-- The wait that a player comes to in a window was not armed before. -/
theorem Beat.later_handle (beat : Beat window middle timer clock player wait later reached)
    (opened : window.barrier ≤ middle.stage.clock.nextHandle) :
    (later.waiting.any fun wait => wait.handle < window.barrier) = false := by
  rcases beat.drove.arms with ⟨-, free, -⟩ | ⟨next, -, waiting, arms, -⟩
  · rw [free, Option.any_none]
  · have handle : next.handle = middle.stage.clock.nextHandle :=
      arms.handle.trans beat.takes.nextHandle
    rw [waiting, Option.any_some, handle]
    simpa using opened

/-- A delivery to the player is due when it is seen to be. -/
theorem Beat.due? (beat : Beat window middle timer clock player wait later reached) (opened : Nat)
    (still : wait.yielded = true → middle.now = opened) :
    (middle.sight player.id window).due? opened window.limit = some clock.now := by
  have now := beat.now
  have isDue := beat.takes.isDue
  rw [beat.timed] at now isDue
  unfold Sight.due? sight aspect?
  simp only [beat.found, beat.waiting, Option.map_some, Option.bind_some, Player.aspect,
    Option.any_some]
  cases yields : wait.yielded with
  | true =>
    rw [yields, if_pos rfl] at now
    have early : wait.handle < window.barrier := isDue.early yields
    rw [if_pos rfl, if_pos (by simpa using early), now, still yields]
  | false =>
    rw [yields, if_neg Bool.false_ne_true] at now
    have within : wait.armedAt + wait.delay ≤ window.limit := isDue.within
    rw [if_neg Bool.false_ne_true, if_pos within, now]
    rfl

theorem Beat.sight (beat : Beat window middle timer clock player wait later reached)
    (opened : window.barrier ≤ middle.stage.clock.nextHandle)
    (conducts : player.Conducts (middle.popped clock).stage reached.stage deeds) :
    reached.sight player.id window = ⟨some later.aspect, middle.entriesOf player.id ++
      deeds.map (TraceEntry.mk clock.now player.id), false⟩ := by
  have entries : reached.entriesOf player.id = middle.entriesOf player.id ++
      deeds.map (TraceEntry.mk clock.now player.id) := by
    rw [beat.replaced, entriesOf_call conducts, if_pos rfl]
    rfl
  rw [Session.sight, aspect?, beat.player?, if_pos rfl, entries, Option.map_some, Option.any_some,
    beat.later_handle opened]

/-- A delivery to another player is not seen. -/
theorem Beat.sight_other (beat : Beat window middle timer clock player wait later reached)
    (foreign : player.id ≠ id)
    (conducts : player.Conducts (middle.popped clock).stage reached.stage deeds) :
    reached.sight id window = middle.sight id window := by
  have entries : reached.entriesOf id = middle.entriesOf id := by
    rw [beat.replaced, entriesOf_call conducts, if_neg foreign, List.append_nil]
    rfl
  rw [Session.sight, Session.sight, aspect?, aspect?, beat.player?, if_neg foreign.symm, entries]

end Beat

/-- What is seen of the player in a window depends on nothing else. -/
theorem Fires.sight {base : Session Universe} (timely : Timely session log)
    (barrier : window.barrier = session.stage.clock.nextHandle) (within : session.now ≤ window.limit)
    (setting : Setting base session) (now : session.now = base.now)
    (blind : ∀ player, session.player? id = some player → ¬player.act.ReadsLevels)
    (fires : Fires window session deliveries middle) :
    Setting base middle ∧ (∀ player, middle.player? id = some player → ¬player.act.ReadsLevels) ∧
      ReflTransGen (Sight.Next base.stage window.limit) (session.sight id window)
        (middle.sight id window) := by
  induction fires with
  | opened => exact ⟨setting, blind, .refl⟩
  | @delivered deliveries middle timer clock reached before taken delivery ih =>
    obtain ⟨setting, blind, seen⟩ := ih
    obtain ⟨⟨armed, books⟩, -⟩ := timely.books barrier within before
    have timelyMiddle := (before.timely timely within).1
    obtain ⟨player, wait, later, beat⟩ := timelyMiddle.beat taken delivery
    obtain ⟨act, life⟩ := timelyMiddle.life beat.found
    have idle (quiet : player.playing = false) := (life.chronicle.idles quiet).1
    have popped : Setting base (middle.popped clock) := setting.popped base.stage.clock clock
    have answer : player.answer (middle.popped clock).stage (.timer player.token) =
      some (later, reached.stage) := beat.answer
    have after {deeds : List Deed} (conducts : player.Conducts (middle.popped clock).stage reached.stage
        deeds) : Setting base reached := by
      rw [beat.replaced]
      exact popped.trans (.call conducts later)
    by_cases own : player.id = id
    · subst own
      obtain ⟨deeds, conducts, answers⟩ := Player.answer_still _ idle
        (Universe.SamePatch.blurs (blind player beat.found)) (popped.alike clock.now rfl) answer
      refine ⟨after conducts, ?_, seen.tail ?_⟩
      · intro other found
        rw [beat.player?, if_pos rfl] at found
        rw [← Option.some.inj found, beat.drove.act, player.resumed_act]
        exact blind player beat.found
      · have due := beat.due? base.now fun yields => by
          have pending : timer ∈ middle.stage.clock.pending :=
            beat.takes.perm.mem_iff.2 List.mem_cons_self
          rw [beat.timed] at pending
          have isDue := beat.takes.isDue
          rw [beat.timed] at isDue
          exact (books.still _ pending yields (isDue.early yields)).trans now
        have seen : (middle.sight player.id window).player = some player.aspect := by
          rw [Session.sight, aspect?, beat.found, Option.map_some]
        have next : Sight.Next base.stage window.limit _ _ := .delivery seen due answers
        rw [Stage.record_trace] at next
        rw [beat.sight (books.nextHandle ▸ Nat.le_add_right _ _) conducts]
        exact next
    · obtain ⟨deeds, conducts⟩ := Player.answer_conducts idle answer
      refine ⟨after conducts, ?_, ?_⟩
      · rw [beat.player?, if_neg (Ne.symm own)]
        exact blind
      · rw [beat.sight_other own conducts]
        exact seen

/-- All timers were armed before a window that is just being opened. -/
theorem Timely.sight_opened (timely : Timely session log)
    (barrier : window.barrier = session.stage.clock.nextHandle) :
    session.sight id window = ⟨session.aspect? id, session.entriesOf id,
      (session.aspect? id).any fun player => player.waiting.isSome⟩ := by
  rw [Session.sight, Sight.mk.injEq]
  refine ⟨rfl, rfl, ?_⟩
  rw [aspect?]
  cases found : session.player? id with
  | none => rfl
  | some player =>
    rw [Option.map_some, Option.any_some, Option.any_some, Player.aspect]
    cases waiting : player.waiting with
    | none => rfl
    | some wait =>
      have minds := (timely.paced player (mem_of_player? found)).minds wait waiting
      have early : wait.handle < session.stage.clock.nextHandle := timely.sound.issued _ minds.armed
      simpa [barrier] using early

/-- Time passes alike in both sessions. -/
theorem Matches.fireWindow {other later reached : Session Universe} {target : Nat}
    {logOther : List (Moment TimerQueue Universe)} (same : Matches id session other)
    (now : other.now = session.now) (timely : Timely session log) (timelyOther : Timely other logOther)
    (blind : ∀ player, session.player? id = some player → ¬player.act.ReadsLevels)
    (answer : session.fireWindow (session.stage.clock.windowTo target) = some later)
    (answerOther : other.fireWindow (other.stage.clock.windowTo target) = some reached) :
    Matches id later reached ∧ reached.now = later.now := by
  have limit : (other.stage.clock.windowTo target).limit = (session.stage.clock.windowTo target).limit :=
    congrArg (max target) now
  obtain ⟨deliveries, last, fires, exhausted, rfl, -⟩ := timely.fired rfl answer
  obtain ⟨more, lastOther, firesOther, exhaustedOther, rfl, -⟩ := timelyOther.fired rfl answerOther
  obtain ⟨setting, -, seen⟩ := fires.sight timely rfl (le_max_right _ _) (.refl session) rfl blind
  obtain ⟨settingOther, -, seenOther⟩ :=
    firesOther.sight timelyOther rfl (le_max_right _ _) same.toSetting now (same.blind blind)
  obtain ⟨timelyLast, -, within⟩ := fires.timely timely (le_max_right _ _)
  obtain ⟨timelyLastOther, -, withinOther⟩ := firesOther.timely timelyOther (le_max_right _ _)
  have ends := timelyLast.due?_eq_none id exhausted within session.now
  have endsOther := timelyLastOther.due?_eq_none id exhaustedOther withinOther session.now
  rw [timely.sight_opened rfl] at seen
  rw [timelyOther.sight_opened rfl, same.player, same.entries, limit] at seenOther
  rw [limit] at endsOther
  have sights := eq_of_halts (Sight.next_unique _ _) seen seenOther (Sight.not_next ends)
    (Sight.not_next endsOther)
  refine ⟨⟨?_, ?_, ?_⟩, ?_⟩
  · exact (setting.symm.trans settingOther).popped _ _
  · exact congrArg Sight.player sights.symm
  · exact congrArg Sight.entries sights.symm
  · exact (max_eq_right withinOther).trans (limit.trans (max_eq_right within).symm)

end Window

end Session

end LightingDesk
