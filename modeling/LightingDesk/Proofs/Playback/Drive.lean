import LightingDesk.Proofs.Playback.Life

/-!
What one run of steps makes of a player and its stage. `Underway.drove` says it once, for every clock:
the playback ends, or the player waits for one timer, which has just been armed.
-/

namespace LightingDesk

/-- An event that neither ends a playback nor belongs to another one. -/
def Event.IsPassing (id : PlayerId) (act : ActId) : Event → Prop
  | .nodeEntered player owner _ => player = id ∧ owner = act
  | .warning player owner fault => player = id ∧ owner = act ∧ fault.isTerminal = false
  | .stopped .. => False

/-- A reason for which a playback ends of itself. -/
def StopReason.IsNatural : StopReason → Prop
  | .completed | .fault (.danglingEdge ..) | .fault (.noMatchingBranch ..) => True
  | _ => False

theorem Cursor.Stops.isNatural {act : Act} {cursor : Cursor} {reason : StopReason}
    (stops : cursor.Stops act reason) : reason.IsNatural := by
  cases stops <;> trivial

variable {σ ω : Type}

/-- What a run has reported so far: no end, and first of all the node of its first step. -/
structure Player.Tidings (player : Player) (first : Step) (taken : List (Moment σ ω))
    (events : List Event) : Prop where
  passing : ∀ event ∈ events, event.IsPassing player.id player.act.id
  opening : taken = [] ∧ events = [] ∨ taken ≠ [] ∧
    first.entering.map (Event.nodeEntered player.id player.act.id) <+: events

/-- A player and its stage in the midst of a run that `player` and `stage` began with. -/
structure Player.Midway (player : Player) (stage : Stage σ ω) (first : Step)
    (taken : List (Moment σ ω)) (later : Player) (stage' : Stage σ ω) (step : Step) : Prop where
  id : later.id = player.id
  act : later.act = player.act
  settings : later.settings = player.settings
  playing : later.playing = true
  generation : later.generation = player.generation
  free : later.waiting = none
  burstAt : later.burstAt = player.burstAt
  burstSteps : later.burstSteps = player.burstSteps + taken.length
  clock : stage'.clock = stage.clock
  begins : taken = [] → step = first
  fits : (later.cursor step).Fits later.act
  meets : ∀ moment ∈ taken, moment.player.id = player.id ∧ moment.stage.clock = stage.clock
  told : ∃ events, stage.Tells stage' events ∧ player.Tidings first taken events

namespace Player.Midway

variable {player last : Player} {stage shown stage' : Stage σ ω} {taken : List (Moment σ ω)}
  {first step : Step}

/-- What a step reports comes after all that was reported before it. -/
theorem tell (midway : player.Midway stage first taken last shown step)
    (reports : last.counted.Reports step shown stage') :
    ∃ events, stage.Tells stage' events ∧
      player.Tidings first (taken ++ [⟨last, shown, step⟩]) events := by
  obtain ⟨events, told, tidings⟩ := midway.told
  obtain ⟨faults, recover, tells⟩ := reports
  have id : last.counted.id = player.id := midway.id
  have act : last.counted.act = player.act := midway.act
  rw [id, act] at tells
  refine ⟨_, told.trans tells, ?_, .inr ⟨by simp, ?_⟩⟩
  · intro event member
    rcases List.mem_append.1 member with earlier | member
    · exact tidings.passing event earlier
    · rcases List.mem_append.1 member with entered | warned
      · obtain ⟨node, -, rfl⟩ := List.mem_map.1 entered
        exact ⟨rfl, rfl⟩
      · obtain ⟨fault, listed, rfl⟩ := List.mem_map.1 warned
        exact ⟨rfl, rfl, recover fault listed⟩
  · rcases tidings.opening with ⟨none, rfl⟩ | ⟨-, opening⟩
    · rw [midway.begins none]
      exact List.prefix_append _ _
    · exact opening.trans (List.prefix_append _ _)

theorem meet (midway : player.Midway stage first taken last shown step) :
    ∀ moment ∈ taken ++ [⟨last, shown, step⟩],
      moment.player.id = player.id ∧ moment.stage.clock = stage.clock := by
  intro moment member
  rcases List.mem_append.1 member with earlier | now
  · exact midway.meets moment earlier
  · rw [List.mem_singleton.1 now]
    exact ⟨midway.id, midway.clock⟩

end Player.Midway

variable [Scheduler σ]

/-- The playback has ended in the run. -/
structure Player.Ends (player : Player) (stage : Stage σ ω) (taken : List (Moment σ ω))
    (events : List Event) (later : Player) (stage' : Stage σ ω) : Prop where
  stepped : taken ≠ []
  idle : later.playing = false
  free : later.waiting = none
  generation : later.generation = player.generation + 1
  clock : stage'.clock = stage.clock
  told : ∃ reason, reason.IsNatural ∧
    stage.Tells stage' (events ++ [.stopped player.id player.act.id reason])

/-- The run has come to a step that waits: for the delay of the innermost node, or because the budget
is spent. -/
structure Player.Pauses (player : Player) (stage : Stage σ ω) (taken : List (Moment σ ω))
    (events : List Event) (later : Player) (stage' : Stage σ ω) (wait : Wait) : Prop where
  playing : later.playing = true
  generation : later.generation = player.generation
  waiting : later.waiting = some wait
  armed : (if wait.yielded then Scheduler.scheduleYield stage.clock player.token
    else Scheduler.schedule stage.clock wait.delay player.token) = some (wait.handle, stage'.clock)
  armedAt : wait.armedAt = Scheduler.now stage'.clock
  delayed : wait.yielded = false → taken ≠ [] ∧ later.delay? = some wait.delay
  yielded : wait.yielded = true → wait.delay = 0 ∧ player.settings.budget ≤ later.burstSteps
  told : stage.Tells stage' events

/-- What a run of the steps `taken` has made of a player and its stage. -/
structure Player.Drove (player : Player) (stage : Stage σ ω) (first : Step)
    (taken : List (Moment σ ω)) (later : Player) (stage' : Stage σ ω) : Prop where
  id : later.id = player.id
  act : later.act = player.act
  settings : later.settings = player.settings
  burstAt : later.burstAt = player.burstAt
  burstSteps : later.burstSteps = player.burstSteps + taken.length
  within : later.burstSteps ≤ max player.settings.budget player.burstSteps
  meets : ∀ moment ∈ taken, moment.player.id = player.id ∧ moment.stage.clock = stage.clock
  outcome : ∃ events, player.Tidings first taken events ∧
    (player.Ends stage taken events later stage' ∨
      ∃ wait, player.Pauses stage taken events later stage' wait)

namespace Player.Midway

variable {player last later : Player} {stage shown stage' : Stage σ ω} {taken : List (Moment σ ω)}
  {first step next : Step}

variable [Output ω]

theorem goes (midway : player.Midway stage first taken last shown step)
    (executed : last.counted.execute shown step = some (later, stage', some next)) :
    player.Midway stage first (taken ++ [⟨last, shown, step⟩]) later stage' next := by
  have turned : last.counted.Turned shown step _ := execute_turned midway.free executed
  cases turned with
  | goesOn advances continues free clock reports =>
    have fits : (later.cursor next).Fits last.act := midway.fits.next advances
    exact {
      id := continues.id.trans midway.id
      act := continues.act.trans midway.act
      settings := continues.settings.trans midway.settings
      playing := continues.playing.trans midway.playing
      generation := continues.generation.trans midway.generation
      free
      burstAt := continues.burstAt.trans midway.burstAt
      burstSteps := by
        rw [continues.burstSteps, List.length_append, ← Nat.add_assoc, ← midway.burstSteps]
        rfl
      clock := clock.trans midway.clock
      begins := by simp
      fits := continues.act ▸ fits
      meets := midway.meet
      told := midway.tell reports }

theorem rests (midway : player.Midway stage first taken last shown step)
    (room : last.burstSteps < max player.settings.budget player.burstSteps)
    (executed : last.counted.execute shown step = some (later, stage', none)) :
    player.Drove stage first (taken ++ [⟨last, shown, step⟩]) later stage' := by
  have burstSteps : last.counted.burstSteps =
      player.burstSteps + (taken ++ [Moment.mk last shown step]).length := by
    rw [List.length_append, ← Nat.add_assoc, ← midway.burstSteps]
    rfl
  have turned : last.counted.Turned shown step _ := execute_turned midway.free executed
  cases turned with
  | @stopped reason stops =>
    obtain ⟨done, route, -, complete⟩ := midway.fits.last_frame stops
    have enters : step.entering = [] := congrArg Step.entering complete
    obtain ⟨events, told, tidings⟩ := midway.tell (.silent shown enters)
    have id : last.counted.id = player.id := midway.id
    have act : last.counted.act = player.act := midway.act
    refine ⟨midway.id, midway.act, midway.settings, midway.burstAt, burstSteps, room,
      midway.meet, events, tidings, .inl ⟨by simp, rfl, rfl,
        congrArg (· + 1) midway.generation, midway.clock, reason, stops.isNatural, ?_⟩⟩
    rw [← id, ← act]
    exact told.trans (shown.tells_emit _)
  | @waits later stage' due handle delay curve advances continues waiting armed reports timed =>
    obtain ⟨events, told, tidings⟩ := midway.tell reports
    have token : last.counted.token = player.token := by
      rw [Player.token, Player.token, ← midway.id, ← midway.generation]
      rfl
    rw [token, midway.clock] at armed
    exact ⟨continues.id.trans midway.id, continues.act.trans midway.act,
      continues.settings.trans midway.settings, continues.burstAt.trans midway.burstAt,
      continues.burstSteps.trans burstSteps, continues.burstSteps.trans_le room,
      midway.meet, events, tidings, .inr ⟨_, {
        playing := continues.playing.trans midway.playing
        generation := continues.generation.trans midway.generation
        waiting
        armed
        armedAt := rfl
        delayed := fun _ => ⟨by simp, timed⟩
        yielded := fun yields => absurd yields Bool.false_ne_true
        told }⟩⟩
  | stuck empty complete =>
    have allowed := midway.fits.allowed
    rw [complete] at allowed
    exact absurd empty allowed

omit [Output ω] in
theorem yields (midway : player.Midway stage first taken last shown step)
    (spent : last.burstSteps = max player.settings.budget player.burstSteps)
    (armed : last.armYield shown step = some (later, stage')) :
    player.Drove stage first taken later stage' := by
  obtain ⟨handle, clock, scheduled, rfl, rfl⟩ := armYield_eq_some midway.free armed
  obtain ⟨events, told, tidings⟩ := midway.told
  have token : last.token = player.token := by
    rw [Player.token, Player.token, ← midway.id, ← midway.generation]
  rw [token, midway.clock] at scheduled
  exact ⟨midway.id, midway.act, midway.settings, midway.burstAt, midway.burstSteps, spent.le,
    midway.meets, events, tidings, .inr ⟨_, {
      playing := midway.playing
      generation := midway.generation
      waiting := rfl
      armed := scheduled
      armedAt := rfl
      delayed := fun plain => absurd plain.symm Bool.false_ne_true
      yielded := fun _ => ⟨rfl, spent.symm ▸ Nat.le_max_left _ _⟩
      told }⟩⟩

end Player.Midway

/-- A run takes a step if its budget allows for one. -/
theorem Player.Drove.stepped {player later : Player} {stage stage' : Stage σ ω} {first : Step}
    {taken : List (Moment σ ω)} (drove : player.Drove stage first taken later stage')
    (fresh : player.burstSteps < player.settings.budget) : taken ≠ [] := by
  obtain ⟨events, -, ends | ⟨wait, pauses⟩⟩ := drove.outcome
  · exact ends.stepped
  · cases yielded : wait.yielded with
    | false => exact (pauses.delayed yielded).1
    | true =>
      rintro rfl
      have spent := (pauses.yielded yielded).2
      rw [drove.burstSteps] at spent
      exact absurd fresh (Nat.not_lt.2 spent)

/-! ### Where runs begin -/

/-- The player as a start makes it, before its first step. -/
def Player.restarted (player : Player) (stage : Stage σ ω) : Player :=
  ((player.stop stage).1.begun (player.stop stage).2).burst (player.stop stage).2 true

/-- The player as a timer finds it, before the step that waited. -/
def Player.resumed (player : Player) (stage : Stage σ ω) (wait : Wait) : Player :=
  { player with waiting := none }.burst stage wait.yielded

section Beginnings

variable (player : Player) (stage : Stage σ ω)

@[simp]
theorem Player.restarted_id : (player.restarted stage).id = player.id := by
  obtain ⟨burstAt, burstSteps, same⟩ :=
    ((player.stop stage).1.begun (player.stop stage).2).burst_eq (player.stop stage).2 true
  rw [restarted, same]
  exact player.stop_id stage

@[simp]
theorem Player.restarted_act : (player.restarted stage).act = player.act := by
  obtain ⟨burstAt, burstSteps, same⟩ :=
    ((player.stop stage).1.begun (player.stop stage).2).burst_eq (player.stop stage).2 true
  rw [restarted, same]
  exact player.stop_act stage

@[simp]
theorem Player.restarted_generation :
    (player.restarted stage).generation = (player.stop stage).1.generation + 1 := rfl

theorem Player.restarted_fresh :
    (player.restarted stage).burstSteps < (player.restarted stage).settings.budget :=
  Nat.lt_of_lt_of_le Nat.zero_lt_one (Nat.le_max_right _ _)

variable (wait : Wait)

@[simp]
theorem Player.resumed_id : (player.resumed stage wait).id = player.id := by
  obtain ⟨burstAt, burstSteps, same⟩ := { player with waiting := none }.burst_eq stage wait.yielded
  rw [resumed, same]

@[simp]
theorem Player.resumed_act : (player.resumed stage wait).act = player.act := by
  obtain ⟨burstAt, burstSteps, same⟩ := { player with waiting := none }.burst_eq stage wait.yielded
  rw [resumed, same]

@[simp]
theorem Player.resumed_generation : (player.resumed stage wait).generation = player.generation := by
  obtain ⟨burstAt, burstSteps, same⟩ := { player with waiting := none }.burst_eq stage wait.yielded
  rw [resumed, same]

end Beginnings

/-! ### Runs -/

variable [Output ω] {act : Act} {token : Token} {past : List (Moment σ ω)} {player later : Player}
  {stage stage' : Stage σ ω} {step : Step} {fresh : Bool}

theorem Underway.midway (underway : Underway act token past player step) (stage : Stage σ ω) :
    player.Midway stage step [] player stage step where
  id := rfl
  act := rfl
  settings := rfl
  playing := underway.playing
  generation := rfl
  free := underway.free
  burstAt := rfl
  burstSteps := rfl
  clock := rfl
  begins := fun _ => rfl
  fits := underway.plays ▸ underway.playback.fits
  meets := by simp
  told := ⟨[], .refl stage, by simp, .inl ⟨rfl, rfl⟩⟩

theorem Underway.drove (underway : Underway act token past player step)
    (driven : player.drive stage step fresh = some (later, stage')) :
    (player.burst stage fresh).Drove stage step (player.driveMoments stage step fresh) later stage' := by
  have begins := underway.burst stage fresh
  -- the budget is what has been taken of it and what is left
  refine Player.budget_rule
    (P := fun steps taken last shown step =>
      (player.burst stage fresh).Midway stage _ taken last shown step ∧
        last.burstSteps + steps = max (player.burst stage fresh).settings.budget
          (player.burst stage fresh).burstSteps)
    (Q := fun taken later stage' => (player.burst stage fresh).Drove stage step taken later stage')
    ?_ ?_ ?_ ⟨begins.midway stage, ?_⟩ driven
  · rintro steps taken last shown step later stage' next ⟨midway, enough⟩ executed
    have after := midway.goes executed
    refine ⟨after, ?_⟩
    rw [after.burstSteps, List.length_append, List.length_singleton, ← Nat.add_assoc,
      ← midway.burstSteps]
    omega
  · rintro steps taken last shown step later stage' ⟨midway, enough⟩ executed
    exact midway.rests (by omega) executed
  · rintro taken last shown step later stage' ⟨midway, spent⟩ armed
    exact midway.yields spent armed
  · omega

/-! ### Calls -/

variable {id : PlayerId} {log : List (Moment σ ω)}

theorem Chronicle.start_drove {result : Except Fault Unit} (chronicle : Chronicle id act player log)
    (answer : player.start stage = some (result, later, stage')) :
    (act.startId? = none ∧ result = .error .emptyGraph ∧ later = (player.stop stage).1 ∧
      stage' = (player.stop stage).2.emit (.stopped id act.id (.fault .emptyGraph)) ∧
      player.startMoments stage = []) ∨
    ∃ node, act.startId? = some node ∧ result = .ok () ∧
      (player.restarted stage).Drove (player.stop stage).2 (.enter node)
        (player.startMoments stage) later stage' := by
  have cases := Player.start_cases answer
  rw [chronicle.plays, chronicle.named] at cases
  rcases cases with refused | ⟨node, found, ok, driven, moments⟩
  · exact .inl refused
  · have underway := chronicle.restarts stage (chronicle.plays.symm ▸ found)
    rw [moments]
    exact .inr ⟨node, found, ok, underway.drove driven⟩

/-- The timer that a player waits for resumes it. -/
theorem Chronicle.resumed_drove {wait : Wait} (chronicle : Chronicle id act player log)
    (playing : player.playing = true) (waiting : player.waiting = some wait)
    (answer : player.onTimer stage player.token = some (later, stage')) :
    (player.resumed stage wait).Drove stage wait.resume (player.timerMoments stage player.token) later
      stage' := by
  have moments : player.timerMoments stage player.token =
      { player with waiting := none }.driveMoments stage wait.resume wait.yielded := by
    simp [Player.timerMoments, playing, waiting]
  have driven : { player with waiting := none }.drive stage wait.resume wait.yielded =
      some (later, stage') := by
    simpa [Player.onTimer, playing, waiting] using answer
  rw [moments]
  exact (chronicle.resumes playing waiting).drove driven

theorem Chronicle.timer_drove (chronicle : Chronicle id act player log)
    (answer : player.onTimer stage token = some (later, stage')) :
    (later = player ∧ stage' = stage ∧ player.timerMoments stage token = []) ∨
    ∃ wait, token = player.token ∧ player.playing = true ∧ player.waiting = some wait ∧
      (player.resumed stage wait).Drove stage wait.resume (player.timerMoments stage token) later
        stage' := by
  rcases Player.timer_cases answer with ignored | ⟨wait, current, playing, waiting, driven, moments⟩
  · exact .inl ignored
  · rw [moments]
    exact .inr ⟨wait, current, playing, waiting, (chronicle.resumes playing waiting).drove driven⟩

end LightingDesk
