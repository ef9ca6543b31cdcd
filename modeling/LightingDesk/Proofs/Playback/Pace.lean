import LightingDesk.Proofs.Playback.Drive
import LightingDesk.Proofs.Playback.Order
import LightingDesk.Proofs.Playback.Schedule

/-!
Players and the time on the clock of a session: when the timers of their waits are due, and how much of
the budget of the present instant is spent. `Session.Timely.beat` says what one delivery does.
-/

namespace LightingDesk

open TimerQueue

/-- The timer of a wait. -/
def Player.timer (player : Player) (wait : Wait) : Timer :=
  ⟨wait.armedAt + wait.delay, wait.handle, player.token, wait.yielded⟩

/-- What a wait is to the clock: its timer is armed since the last run of steps, and not overdue unless
it is a yield. -/
structure Player.Minds (player : Player) (wait : Wait) (clock : TimerQueue) : Prop where
  armed : player.timer wait ∈ clock.pending
  armedAt : wait.armedAt = player.burstAt
  yielded : wait.yielded = true → wait.delay = 0
  delayed : wait.yielded = false → player.delay? = some wait.delay
  ahead : wait.yielded = false → clock.now ≤ (player.timer wait).deadline

structure Player.Paced (player : Player) (clock : TimerQueue) : Prop where
  past : player.burstAt ≤ clock.now
  within : player.burstSteps ≤ player.settings.budget
  minds : ∀ wait, player.waiting = some wait → player.Minds wait clock

/-- The clock moves on to the timer of a wait, but for a yield it stays. -/
theorem Player.Minds.popped_now {player : Player} {wait : Wait} {clock : TimerQueue}
    (minds : player.Minds wait clock) (past : player.burstAt ≤ clock.now) :
    max clock.now (player.timer wait).deadline =
      if wait.yielded then clock.now else (player.timer wait).deadline := by
  cases yielded : wait.yielded with
  | true =>
    rw [Player.timer, minds.yielded yielded, minds.armedAt]
    exact max_eq_left past
  | false => exact max_eq_right (minds.ahead yielded)

/-- Delays are counted in milliseconds. -/
theorem Act.perMillisecond_dvd {act : Act} {id : NodeId} {delay : Nat}
    (asks : act.delay? id = some delay) : Span.perMillisecond ∣ delay := by
  obtain ⟨node, -, kind⟩ := Option.bind_eq_some_iff.1 asks
  unfold NodeKind.delay? at kind
  split at kind
  case h_1 | h_2 | h_3 =>
    rw [← Option.some.inj kind]
    exact Nat.dvd_mul_left _ _
  all_goals simp at kind

theorem Player.perMillisecond_dvd {player : Player} {delay : Nat}
    (asks : player.delay? = some delay) : Span.perMillisecond ∣ delay := by
  obtain ⟨node, -, asks⟩ := Option.bind_eq_some_iff.1 asks
  exact Act.perMillisecond_dvd asks

namespace Player.Paced

variable {player : Player} {clock after : TimerQueue}

/-- A player is left alone by what others do to the clock. -/
theorem frame (paced : player.Paced clock) (now : clock.now ≤ after.now)
    (kept : ∀ timer ∈ clock.pending, timer.token.player = player.id → timer ∈ after.pending)
    (ahead : ∀ timer ∈ after.pending, timer.token.player = player.id → timer.yielded = false →
      clock.now ≤ timer.deadline → after.now ≤ timer.deadline) : player.Paced after where
  past := paced.past.trans now
  within := paced.within
  minds := by
    intro wait waiting
    have minds := paced.minds wait waiting
    have armed := kept _ minds.armed rfl
    exact ⟨armed, minds.armedAt, minds.yielded, minds.delayed,
      fun due => ahead _ armed rfl due (minds.ahead due)⟩

theorem idle (past : player.burstAt ≤ clock.now)
    (within : player.burstSteps ≤ player.settings.budget) (free : player.waiting = none) :
    player.Paced clock :=
  ⟨past, within, fun wait waiting => by simp [free] at waiting⟩

end Player.Paced

/-- The timers of other players stay armed. -/
theorem TimerQueue.Serves.mem {id : PlayerId} {own : List Timer} {before after : TimerQueue}
    {timer : Timer} (serves : Serves id own before after) (armed : timer ∈ before.pending)
    (other : timer.token.player ≠ id) : timer ∈ after.pending := by
  have listed : timer ∈ before.timersOf timer.token.player :=
    List.mem_filter.2 ⟨armed, by simp⟩
  exact (List.mem_filter.1 ((serves.others _ other).mem_iff.2 listed)).1

section Drove

variable {ω : Type} {player later : Player} {stage shown : Stage TimerQueue ω} {first : Step}
  {taken : List (Moment TimerQueue ω)}

/-- A run leaves the clock as it is, or arms the timer of the wait that it comes to. -/
theorem Player.Drove.arms (drove : player.Drove stage first taken later shown) :
    (later.playing = false ∧ later.waiting = none ∧ shown.clock = stage.clock) ∨
    ∃ wait, later.playing = true ∧ later.waiting = some wait ∧
      stage.clock.Arms (later.timer wait) shown.clock ∧ wait.armedAt = stage.clock.now ∧
      (wait.yielded = false → taken ≠ [] ∧ later.delay? = some wait.delay) ∧
      (wait.yielded = true → wait.delay = 0) := by
  obtain ⟨events, -, ends | ⟨wait, pauses⟩⟩ := drove.outcome
  · exact .inl ⟨ends.idle, ends.free, ends.clock⟩
  · have token : player.token = later.token := by
      rw [Player.token, Player.token, drove.id, pauses.generation]
    have armed : stage.clock.Arms
        ⟨stage.clock.now + wait.delay, wait.handle, player.token, wait.yielded⟩ shown.clock := by
      have armed := pauses.armed
      cases yielded : wait.yielded with
      | false =>
        rw [yielded] at armed
        exact arms_of_arm? armed
      | true =>
        rw [yielded] at armed
        rw [(pauses.yielded yielded).1]
        exact arms_of_arm? armed
    have since : wait.armedAt = stage.clock.now := pauses.armedAt.trans armed.now
    refine .inr ⟨wait, pauses.playing, pauses.waiting, ?_, since, pauses.delayed, fun yielded =>
      (pauses.yielded yielded).1⟩
    rw [Player.timer, since, ← token]
    exact armed

theorem Player.Drove.now (drove : player.Drove stage first taken later shown) :
    shown.clock.now = stage.clock.now := by
  rcases drove.arms with ⟨-, -, same⟩ | ⟨wait, -, -, arms, -⟩
  · rw [same]
  · exact arms.now

theorem Player.Drove.ordered (drove : player.Drove stage first taken later shown)
    (ordered : stage.clock.Ordered) (sound : stage.clock.Sound) : shown.clock.Ordered := by
  rcases drove.arms with ⟨-, -, same⟩ | ⟨wait, -, -, arms, -⟩
  · exact same ▸ ordered
  · exact arms.ordered ordered sound.issued

theorem Player.Drove.paced (drove : player.Drove stage first taken later shown)
    (begins : player.burstAt = stage.clock.now)
    (within : player.burstSteps ≤ player.settings.budget) : later.Paced shown.clock := by
  have past : later.burstAt ≤ shown.clock.now := (drove.burstAt.trans begins).trans_le drove.now.ge
  have room : later.burstSteps ≤ later.settings.budget := by
    rw [drove.settings]
    exact drove.within.trans (max_le le_rfl within)
  rcases drove.arms with ⟨-, free, -⟩ | ⟨wait, -, waiting, arms, since, delayed, yielded⟩
  · exact .idle past room free
  · refine ⟨past, room, ?_⟩
    intro other found
    obtain rfl := Option.some.inj (waiting.symm.trans found)
    refine ⟨arms.perm.mem_iff.2 List.mem_cons_self, ?_, yielded, fun due => (delayed due).2, ?_⟩
    · rw [since, drove.burstAt, begins]
    · intro _
      rw [drove.now, Player.timer, since]
      exact Nat.le_add_right _ _

/-- A run only adds to the timers of the clock, so it leaves other players alone. -/
theorem Player.Drove.spares {other : Player} (drove : player.Drove stage first taken later shown)
    (paced : other.Paced stage.clock) : other.Paced shown.clock := by
  refine paced.frame drove.now.ge ?_ ?_
  · intro timer armed _
    rcases drove.arms with ⟨-, -, same⟩ | ⟨wait, -, -, arms, -⟩
    · exact same ▸ armed
    · exact arms.perm.mem_iff.2 (List.mem_cons_of_mem _ armed)
  · intro timer _ _ _ ahead
    exact drove.now.symm ▸ ahead

end Drove

section Stop

variable {ω : Type} (player : Player) (stage : Stage TimerQueue ω)

theorem Player.stop_now : (player.stop stage).2.clock.now = stage.clock.now := by
  unfold stop finish
  split
  · cases player.waiting with
    | none => rfl
    | some wait => rfl
  · rfl

theorem Player.stop_ordered (ordered : stage.clock.Ordered) :
    (player.stop stage).2.clock.Ordered := by
  unfold stop finish
  split
  · cases player.waiting with
    | none => exact ordered
    | some wait => exact ordered.cancel wait.handle
  · exact ordered

theorem Player.stop_settings : (player.stop stage).1.settings = player.settings := by
  rw [stop_fst]
  split
  · rfl
  · rfl

variable {player stage}

theorem Player.Paced.stop {clock after : TimerQueue} (paced : player.Paced clock)
    (now : clock.now ≤ after.now) (free : (player.stop stage).1.waiting = none) :
    (player.stop stage).1.Paced after := by
  refine .idle ?_ ?_ free
  · rw [Player.stop_fst]
    split
    · exact paced.past.trans now
    · exact paced.past.trans now
  · rw [Player.stop_fst]
    split
    · exact paced.within
    · exact paced.within

theorem Player.restarted_settings (player : Player) (stage : Stage TimerQueue ω) :
    (player.restarted stage).settings = player.settings := by
  obtain ⟨burstAt, burstSteps, same⟩ :=
    ((player.stop stage).1.begun (player.stop stage).2).burst_eq (player.stop stage).2 true
  rw [restarted, same]
  exact player.stop_settings stage

theorem Player.burst_burstAt (player : Player) (stage : Stage TimerQueue ω) (fresh : Bool) :
    (player.burst stage fresh).burstAt = stage.clock.now := by
  unfold burst
  split
  next => rfl
  next same =>
    simp only [Bool.or_eq_true, bne_iff_ne, not_or, not_not] at same
    exact same.2.symm

/-- A budget is shared by the runs of one instant, unless a yield begins it anew. -/
theorem Player.burst_burstSteps (player : Player) (stage : Stage TimerQueue ω) (fresh : Bool) :
    (player.burst stage fresh).burstSteps =
      if fresh = false ∧ stage.clock.now = player.burstAt then player.burstSteps else 0 := by
  unfold burst
  split
  next anew =>
    rw [if_neg]
    rintro ⟨rfl, same⟩
    simp [Stage.now, Scheduler.now, same] at anew
  next same =>
    simp only [Bool.or_eq_true, bne_iff_ne, not_or, not_not, Bool.not_eq_true] at same
    exact (if_pos same).symm

theorem Player.resumed_settings (player : Player) (stage : Stage TimerQueue ω) (wait : Wait) :
    (player.resumed stage wait).settings = player.settings := by
  obtain ⟨burstAt, burstSteps, same⟩ := { player with waiting := none }.burst_eq stage wait.yielded
  rw [resumed, same]

theorem Player.Paced.resumed_within {player : Player} {clock : TimerQueue}
    (paced : player.Paced clock) (stage : Stage TimerQueue ω) (wait : Wait) :
    (player.resumed stage wait).burstSteps ≤ (player.resumed stage wait).settings.budget := by
  rw [player.resumed_settings, Player.resumed, Player.burst_burstSteps]
  split
  · exact paced.within
  · exact Nat.zero_le _

end Stop

namespace Session

variable {ω : Type} [Output ω]

/-- A session whose players keep time. -/
structure Timely (session : Session ω) (log : List (Moment TimerQueue ω)) : Prop
    extends Tied session log where
  ordered : session.stage.clock.Ordered
  budgeted : ∀ player ∈ session.players, player.settings.budget = session.settings.budget
  paced : ∀ player ∈ session.players, player.Paced session.stage.clock

namespace Timely

variable {session reached : Session ω} {log new : List (Moment TimerQueue ω)} {id : PlayerId}
  {player later : Player} {stage : Stage TimerQueue ω}

theorem create (output : ω) (scenes : SceneLibrary) (settings : EngineSettings) (seeding : Seeding) :
    Timely (.create output scenes settings seeding) [] where
  toTied := .create output scenes settings seeding
  ordered := List.Pairwise.nil
  budgeted := by simp [Session.create]
  paced := by simp [Session.create]

theorem restage (timely : Timely session log) (stage : Stage TimerQueue ω)
    (clock : stage.clock = session.stage.clock) : Timely { session with stage } log where
  toTied := timely.toTied.restage stage (clock ▸ rfl) (clock ▸ rfl)
  ordered := clock.symm ▸ timely.ordered
  budgeted := timely.budgeted
  paced := fun player member => clock.symm ▸ timely.paced player member

theorem load (timely : Timely session log) (act : Act) : Timely (session.load act).2 log where
  toTied := timely.toTied.load act
  ordered := timely.ordered
  budgeted := by
    intro player member
    rcases List.mem_append.1 member with listed | added
    · exact timely.budgeted player listed
    · rw [List.mem_singleton.1 added]
      rfl
  paced := by
    intro player member
    rcases List.mem_append.1 member with listed | added
    · exact timely.paced player listed
    · rw [List.mem_singleton.1 added]
      exact .idle (Nat.zero_le _) (Nat.zero_le _) rfl

theorem remove (timely : Timely session log) (id : PlayerId)
    (idle : ∀ player, session.player? id = some player → player.playing = false) :
    Timely { session with players := session.players.filter fun other => other.id != id } log where
  toTied := timely.toTied.remove id idle
  ordered := timely.ordered
  budgeted := fun player member => timely.budgeted player (List.mem_of_mem_filter member)
  paced := fun player member => timely.paced player (List.mem_of_mem_filter member)

/-- A changed player is put back, and the clock is as before to all others. -/
theorem replace (timely : Timely session log) (tied : Tied (session.replace later stage) new)
    (ordered : stage.clock.Ordered) (budget : later.settings.budget = session.settings.budget)
    (paced : later.Paced stage.clock)
    (others : ∀ other ∈ session.players, other.id ≠ later.id → other.Paced stage.clock) :
    Timely (session.replace later stage) new where
  toTied := tied
  ordered := ordered
  budgeted := by
    intro player member
    rcases mem_replace member with rfl | ⟨listed, -⟩
    · exact budget
    · exact timely.budgeted player listed
  paced := by
    intro player member
    rcases mem_replace member with rfl | ⟨listed, different⟩
    · exact paced
    · exact others player listed different

theorem stop_free (timely : Timely session log) (found : session.player? id = some player) :
    (player.stop session.stage).1.waiting = none := by
  obtain ⟨act, life⟩ := timely.life found
  exact life.stop_waiting session.stage

theorem stop_spares (timely : Timely session log) (found : session.player? id = some player) :
    ∀ other ∈ session.players, other.id ≠ id →
      other.Paced (player.stop session.stage).2.clock := by
  intro other member different
  obtain ⟨serves, -⟩ := timely.stop_serves found
  have now := player.stop_now session.stage
  refine (timely.paced other member).frame now.ge ?_ ?_
  · intro timer armed owner
    exact serves.mem armed (owner ▸ different)
  · intro timer _ _ _ ahead
    exact now.symm ▸ ahead

theorem stop (timely : Timely session log) (found : session.player? id = some player) :
    Timely (session.replace (player.stop session.stage).1 (player.stop session.stage).2) log := by
  have member := mem_of_player? found
  refine timely.replace (timely.toTied.stop found) (player.stop_ordered _ timely.ordered) ?_ ?_ ?_
  · rw [player.stop_settings]
    exact timely.budgeted player member
  · exact (timely.paced player member).stop (player.stop_now _).ge (timely.stop_free found)
  · rw [player.stop_id, id_of_player? found]
    exact timely.stop_spares found

theorem start {result : Except Fault Unit} (timely : Timely session log)
    (found : session.player? id = some player)
    (answer : player.start session.stage = some (result, later, stage)) :
    Timely (session.replace later stage) (log ++ player.startMoments session.stage) := by
  have member := mem_of_player? found
  have tied := timely.toTied.start found answer
  have ordered := player.stop_ordered _ timely.ordered
  have spares := timely.stop_spares found
  obtain ⟨serves, -⟩ := timely.stop_serves found
  obtain ⟨act, life⟩ := timely.life found
  rcases life.chronicle.start_drove answer with
    ⟨-, -, rfl, rfl, -⟩ | ⟨node, -, -, drove⟩
  · refine timely.replace tied ordered ?_ ?_ ?_
    · rw [player.stop_settings]
      exact timely.budgeted player member
    · exact (timely.paced player member).stop (player.stop_now _).ge (timely.stop_free found)
    · rw [player.stop_id, id_of_player? found]
      exact spares
  · refine timely.replace tied (drove.ordered ordered serves.sound) ?_ ?_ ?_
    · rw [drove.settings, player.restarted_settings]
      exact timely.budgeted player member
    · exact drove.paced rfl (Nat.zero_le _)
    · rw [drove.id, player.restarted_id, id_of_player? found]
      exact fun other listed different => drove.spares (spares other listed different)

end Timely

/-- One delivery: the clock gives a timer, its player resumes the step that waits for it and is put
back. -/
structure Beat (window : Window) (session : Session ω) (timer : Timer) (clock : TimerQueue)
    (player : Player) (wait : Wait) (later : Player) (reached : Session ω) : Prop where
  takes : session.stage.clock.Takes window timer clock
  found : session.player? player.id = some player
  waiting : player.waiting = some wait
  timed : timer = player.timer wait
  minds : player.Minds wait session.stage.clock
  now : clock.now = if wait.yielded then session.now else timer.deadline
  answer : player.onTimer (session.popped clock).stage player.token = some (later, reached.stage)
  drove : (player.resumed (session.popped clock).stage wait).Drove (session.popped clock).stage
    wait.resume ((session.popped clock).deliverMoments timer.token) later reached.stage
  replaced : reached = (session.popped clock).replace later reached.stage

section Beat

variable {window : Window} {session reached : Session ω} {timer : Timer} {clock : TimerQueue}
  {player later other : Player} {wait : Wait}

theorem Beat.reached_now (beat : Beat window session timer clock player wait later reached) :
    reached.now = clock.now := beat.drove.now

theorem Beat.later_id (beat : Beat window session timer clock player wait later reached) :
    later.id = player.id :=
  beat.drove.id.trans (player.resumed_id _ wait)

theorem Beat.reached_le (beat : Beat window session timer clock player wait later reached)
    (within : session.now ≤ window.limit) : reached.now ≤ window.limit := by
  rw [beat.reached_now, beat.takes.now]
  exact max_le within beat.takes.isDue.within

theorem Beat.now_le (beat : Beat window session timer clock player wait later reached) :
    session.now ≤ reached.now := by
  rw [beat.reached_now, beat.takes.now]
  exact le_max_left _ _

theorem Beat.nextHandle_le (beat : Beat window session timer clock player wait later reached) :
    session.stage.clock.nextHandle ≤ reached.stage.clock.nextHandle := by
  rw [← beat.takes.nextHandle]
  rcases beat.drove.arms with ⟨-, -, same⟩ | ⟨wait, -, -, arms, -⟩
  · exact (congrArg nextHandle same).ge
  · exact arms.nextHandle ▸ Nat.le_succ _

/-- The clock moves on no further than to the timers of the others. -/
theorem Beat.spares (beat : Beat window session timer clock player wait later reached)
    (paced : other.Paced session.stage.clock) (different : other.id ≠ player.id) :
    other.Paced clock := by
  refine paced.frame (beat.takes.now ▸ le_max_left _ _) ?_ ?_
  · intro armed member owner
    refine (List.mem_cons.1 (beat.takes.perm.mem_iff.1 member)).resolve_left ?_
    rintro rfl
    rw [beat.timed] at owner
    exact different owner.symm
  · intro armed member _ due ahead
    rw [beat.takes.now]
    refine max_le ahead ?_
    by_cases within : armed.deadline ≤ window.limit
    · exact (beat.takes.least armed member (.of_plain due within)).deadline_le
    · exact beat.takes.isDue.within.trans (Nat.le_of_not_le within)

end Beat

namespace Timely

variable {session reached : Session ω} {log : List (Moment TimerQueue ω)} {window : Window}
  {timer : Timer} {clock : TimerQueue} {player later : Player} {wait : Wait}

/-- Every timer is that of a wait of a player, which will accept it. -/
theorem owner (timely : Timely session log) (armed : timer ∈ session.stage.clock.pending) :
    ∃ player wait, session.player? player.id = some player ∧ player.playing = true ∧
      player.waiting = some wait ∧ timer = player.timer wait ∧
      player.Minds wait session.stage.clock := by
  obtain ⟨player, found, playing, -, -, wait, waiting, handle, -⟩ :=
    timely.accepts (timely.sound.gives_cancel armed)
  have minds := (timely.paced player (mem_of_player? found)).minds wait waiting
  have timed : timer = player.timer wait :=
    List.inj_on_of_nodup_map timely.sound.distinct armed minds.armed handle.symm
  exact ⟨player, wait, (id_of_player? found).symm ▸ found, playing, waiting, timed, minds⟩

theorem yield_deadline_le (timely : Timely session log)
    (armed : timer ∈ session.stage.clock.pending) (yields : timer.yielded = true) :
    timer.deadline ≤ session.now := by
  obtain ⟨player, wait, found, -, -, rfl, minds⟩ := timely.owner armed
  have past := (timely.paced player (mem_of_player? found)).past
  rw [Player.timer] at yields ⊢
  rw [minds.yielded yields, minds.armedAt]
  exact past

theorem beat (timely : Timely session log)
    (taken : session.stage.clock.take? window = some (timer, clock))
    (delivery : (session.popped clock).deliver timer.token = some reached) :
    ∃ player wait later, Beat window session timer clock player wait later reached := by
  have takes := timely.ordered.takes taken
  obtain ⟨player, wait, found, playing, waiting, timed, minds⟩ :=
    timely.owner (takes.perm.mem_iff.2 List.mem_cons_self)
  have token : timer.token = player.token := congrArg Timer.token timed
  have popped : (session.popped clock).player? timer.token.player = some player := by
    rw [token]
    exact found
  rw [deliver_of_player? popped, Option.map_eq_some_iff] at delivery
  obtain ⟨⟨later, stage⟩, answer, rfl⟩ := delivery
  have drove : (player.resumed (session.popped clock).stage wait).Drove (session.popped clock).stage
      wait.resume ((session.popped clock).deliverMoments timer.token) later stage := by
    rw [deliverMoments, popped, token]
    obtain ⟨act, life⟩ := timely.life found
    exact life.chronicle.resumed_drove playing waiting (token ▸ answer)
  refine ⟨player, wait, later, takes, found, waiting, timed, minds, ?_, token ▸ answer, drove, rfl⟩
  rw [takes.now, timed]
  exact minds.popped_now (timely.paced player (mem_of_player? found)).past

theorem delivered (timely : Timely session log)
    (taken : session.stage.clock.take? window = some (timer, clock))
    (delivery : (session.popped clock).deliver timer.token = some reached) :
    Timely reached (log ++ (session.popped clock).deliverMoments timer.token) := by
  obtain ⟨player, wait, later, beat⟩ := timely.beat taken delivery
  have listed := mem_of_player? beat.found
  have paced := timely.paced player listed
  have popped : session.stage.clock.pop? window = some (timer.token, clock) := by
    rw [TimerQueue.pop?_eq, taken, Option.map_some]
  have tied := (Tied.kept.ticks window).delivered timely.toTied popped delivery
  have sound := beat.takes.toGives.sound timely.sound
  rw [beat.replaced] at tied ⊢
  refine timely.replace tied (beat.drove.ordered beat.takes.ordered sound) ?_ ?_ ?_
  · rw [beat.drove.settings, player.resumed_settings]
    exact timely.budgeted player listed
  · exact beat.drove.paced (Player.burst_burstAt _ _ _) (paced.resumed_within _ wait)
  · rw [beat.drove.id, player.resumed_id]
    exact fun other member different =>
      beat.drove.spares (beat.spares (timely.paced other member) different)

end Timely

end Session

end LightingDesk
