import LightingDesk.Proofs.Act.Lookups
import LightingDesk.Proofs.Playback.Request
import LightingDesk.Proofs.Universe

/-!
Playback with the hazards of its operations: the sum that arms a timer, opens a window or bounds a run
until idle, the look at the child that is due, the moves of a tracker, and the time that a run until idle
has taken. Whatever a host asks for, all that can go wrong is a sum that lies past the last instant
(`Risky.only_overflow`).
-/

namespace LightingDesk

namespace Risky

variable {ω : Type}

/-! ### Steps -/

/-- Arms a timer, at a deadline that has to be summed up. -/
def schedule (clock : TimerQueue) (delay : Nat) (token : Token) (yielded : Bool) :
    Risky (Nat × TimerQueue) := do
  let deadline ← sum clock.now delay
  .ok (clock.nextHandle,
    { clock with
      nextHandle := clock.nextHandle + 1
      pending := TimerQueue.place ⟨deadline, clock.nextHandle, token, yielded⟩ clock.pending })

def arm (player : Player) (stage : Stage TimerQueue ω) (delay : Nat) (resume : Step)
    (curve : Option Curve) : Risky (Player × Stage TimerQueue ω) := do
  let armed ← schedule stage.clock delay player.token false
  .ok (player.await (stage.withClock armed.2)
    ⟨armed.1, resume, armed.2.now, delay, curve, false⟩)

def armYield (player : Player) (stage : Stage TimerQueue ω) (resume : Step) :
    Risky (Player × Stage TimerQueue ω) := do
  let armed ← schedule stage.clock 0 player.token true
  .ok (player.await (stage.withClock armed.2) ⟨armed.1, resume, armed.2.now, 0, none, true⟩)

def pause (moved : Risky (Player × Stage TimerQueue ω)) : Risky (Player.Turn TimerQueue ω) := do
  let moved ← moved
  .ok (moved.1, moved.2, none)

def goOn (player : Player) (stage : Stage TimerQueue ω) (step : Step) :
    Risky (Player.Turn TimerQueue ω) :=
  .ok (player, stage, some step)

/-- What a tracker does when its child is done. Only one with children is moved. -/
def childDone (player : Player) (stage : Stage TimerQueue ω) (id : NodeId) :
    Risky (Player.Turn TimerQueue ω) :=
  match (player.act.node? id).map ActNode.kind with
  | some (.tracker payload) =>
      if payload.children.isEmpty then goOn player stage (.complete .first)
      else do
        let moved ← advance payload.mode payload.children.length
          (player.memory.position id payload) player.generator
        let player := { player with generator := moved.2 }
        match moved.1 with
        | .finished =>
            goOn { player with memory := player.memory.forget id } stage (.complete .first)
        | .to position =>
            pause (arm { player with memory := player.memory.store id position } stage
              (Span.ofMilliseconds payload.stepDelayMs.toNat) (.trackerStep id) none)
  | _ => goOn player stage (.complete .first)

def follow (player : Player) (stage : Stage TimerQueue ω) (done : NodeId) (route : Route) :
    Risky (Player.Turn TimerQueue ω) :=
  match route with
  | .noMatch branch =>
      pause (.ok (player.finish stage (.fault (.noMatchingBranch done branch))))
  | route =>
      match route.connection? player.act done with
      | none => pause (.ok (player.finish stage .completed))
      | some edge =>
          match player.act.target? edge with
          | some target => goOn player stage (.enter target.id)
          | none =>
              pause (.ok (player.finish stage
                (.fault (.danglingEdge edge.id done edge.target))))

def complete (player : Player) (stage : Stage TimerQueue ω) (route : Route) :
    Risky (Player.Turn TimerQueue ω) :=
  match player.frames with
  | [] => pause (.ok (player, stage))
  | done :: below =>
      let player := { player with frames := below }
      match below with
      | tracker :: _ => childDone player stage tracker
      | [] => follow player stage done route

/-- Starts the child that is due, at an index that has to be one of a child. -/
def trackerStep (player : Player) (stage : Stage TimerQueue ω) (id : NodeId) :
    Risky (Player.Turn TimerQueue ω) :=
  match (player.act.node? id).map ActNode.kind with
  | some (.tracker payload) =>
      if payload.children.isEmpty then
        goOn player (player.warn stage (.emptyTracker id)) (.complete .first)
      else do
        let child ← element payload.children (player.memory.position id payload).index
        if !player.act.hasNode child then
          goOn { player with memory := player.memory.forget id }
            (player.warn stage (.missingTrackerChild id child)) (.complete .first)
        else if player.frames.contains child then
          goOn player (player.warn stage (.trackerCycle id child)) (.complete .first)
        else goOn player stage (.enter child)
  | _ => goOn player stage (.complete .first)

section

variable [Output ω]

def enter (player : Player) (stage : Stage TimerQueue ω) (id : NodeId) :
    Risky (Player.Turn TimerQueue ω) :=
  match player.act.node? id with
  | none => pause (.ok (player.finish stage .completed))
  | some node =>
      let frames := id :: player.frames
      let player := { player with frames, maxDepth := max player.maxDepth frames.length }
      let stage := stage.emit (.nodeEntered player.id player.act.id id)
      match node.kind with
      | .scene payload => goOn player (player.showScene stage id payload) (.complete .first)
      | .wait payload =>
          pause (arm player stage (Player.delayOf payload.durationMs) (.complete .first) none)
      | .transition payload =>
          pause (arm player stage (Player.delayOf payload.durationMs) (.complete .first)
            (some payload.curve))
      | .condition payload =>
          goOn player stage
            (.complete (.ofOutcome player.act id (player.test stage payload.predicate)))
      | .tracker _ => goOn player stage (.trackerStep id)

def execute (player : Player) (stage : Stage TimerQueue ω) : Step → Risky (Player.Turn TimerQueue ω)
  | .enter node => enter player stage node
  | .complete route => complete player stage route
  | .trackerStep node => trackerStep player stage node

def run : Nat → Player → Stage TimerQueue ω → Step → Risky (Player × Stage TimerQueue ω)
  | 0, player, stage, step => armYield player stage step
  | steps + 1, player, stage, step => do
      let turn ← execute player.counted stage step
      match turn.2.2 with
      | none => .ok (turn.1, turn.2.1)
      | some next => run steps turn.1 turn.2.1 next

def drive (player : Player) (stage : Stage TimerQueue ω) (first : Step) (fresh : Bool) :
    Risky (Player × Stage TimerQueue ω) :=
  let player := player.burst stage fresh
  run (player.settings.budget - player.burstSteps) player stage first

def start (player : Player) (stage : Stage TimerQueue ω) :
    Risky (Except Fault Unit × Player × Stage TimerQueue ω) :=
  let stopped := player.stop stage
  match stopped.1.act.startId? with
  | none =>
      .ok (.error .emptyGraph, stopped.1,
        stopped.2.emit (.stopped stopped.1.id stopped.1.act.id (.fault .emptyGraph)))
  | some node => do
      let driven ← drive (stopped.1.begun stopped.2) stopped.2 (.enter node) true
      .ok (.ok (), driven)

def onTimer (player : Player) (stage : Stage TimerQueue ω) (token : Token) :
    Risky (Player × Stage TimerQueue ω) :=
  if token != player.token || !player.playing then .ok (player, stage)
  else
    match player.waiting with
    | none => .ok (player, stage)
    | some wait => drive { player with waiting := none } stage wait.resume wait.yielded

end

/-! ### Sessions -/

section

variable [Output ω]

def startPlayer (session : Session ω) (id : PlayerId) :
    Risky (Except SessionError Unit × Session ω) :=
  match session.player? id with
  | none => .ok (.error (.unknownPlayer id), session)
  | some player => do
      let started ← start player session.stage
      .ok (started.1.mapError .act, session.replace started.2.1 started.2.2)

def deliver (session : Session ω) (token : Token) : Risky (Session ω) :=
  match session.player? token.player with
  | none => .ok session
  | some player => do
      let driven ← onTimer player session.stage token
      .ok (session.replace driven.1 driven.2)

def fire : Nat → Window → Session ω → Risky (Session ω)
  | 0, _, session => .ok session
  | deliveries + 1, window, session =>
      match session.stage.clock.pop? window with
      | none => .ok session
      | some due => do
          let session ← deliver (session.popped due.2) due.1
          fire deliveries window session

def fireWindow (session : Session ω) (window : Window) : Risky (Session ω) := do
  let session ← fire (session.deliveryBound window.limit) window session
  .ok (session.closed window)

def advanceTo (session : Session ω) (target : Nat) : Risky (Session ω) :=
  fireWindow session (session.stage.clock.windowTo target)

/-- Lets an amount of time pass, up to an instant that has to be summed up. -/
def advanceBy (session : Session ω) (delay : Nat) : Risky (Session ω) := do
  let target ← sum session.now delay
  advanceTo session target

def settle (last : Nat) (rounds : Nat) (session : Session ω) : Risky (Session ω) :=
  match session.nextDeadline? with
  | none => .ok session
  | some deadline =>
      if last < deadline ∨ last < session.now then .ok session
      else
        match advanceTo session deadline with
        | .error hazard => .error hazard
        | .ok later =>
            if session.now < later.now then settle last Session.roundsPerInstant later
            else if rounds ≤ 1 ∨ later.now < session.now then .ok later
            else settle last (rounds - 1) later
termination_by (last + 1 - session.now, rounds)
decreasing_by
  · apply Prod.Lex.left
    omega
  · apply Prod.Lex.right'
    · omega
    · omega

/-- Lets time pass while timers are left. The time that has passed is a difference of instants. -/
def runUntilIdle (session : Session ω) (limit : Nat) : Risky (Nat × Session ω) := do
  let last ← sum session.now limit
  let later ← settle last Session.roundsPerInstant session
  let passed ← difference later.now session.now
  .ok (passed, later)

/-- The session after a request. -/
def perform (session : Session ω) : Request ω → Risky (Session ω)
  | .play act => do
      let loaded := session.load act
      let started ← startPlayer loaded.2 loaded.1
      .ok started.2
  | .start player => do
      let started ← startPlayer session player
      .ok started.2
  | .advance delay => advanceBy session delay
  | .advanceTo target => advanceTo session target
  | .runUntilIdle limit => do
      let idle ← runUntilIdle session limit
      .ok idle.2
  | .load act => .ok (session.load act).2
  | .unload player => .ok (session.unload player).2
  | .stop player => .ok (session.stop player).2
  | .stopAll => .ok session.stopAll
  | .changeSignals change => .ok (session.mapSignals change)
  | .changeScenes change => .ok (session.mapScenes change)
  | .changeOutput change => .ok (session.mapOutput change)
  | .changeBus change => .ok (session.mapStage fun stage => { stage with bus := change stage.bus })

def performAll (session : Session ω) (requests : List (Request ω)) : Risky (Session ω) :=
  requests.foldlM perform session

end

end Risky

/-! ### What can go wrong -/

namespace Session

variable {ω : Type} [Output ω] {session later : Session ω}

/-- The clock never goes back. -/
theorem now_le_advanceTo {target : Nat} (answer : session.advanceTo target = some later) :
    session.now ≤ later.now := by
  obtain ⟨reached, -, rfl⟩ := Option.map_eq_some_iff.1 answer
  exact (le_max_right target session.now).trans (le_max_right reached.now _)

theorem now_le_settle {last rounds : Nat} (answer : session.settle last rounds = some later) :
    session.now ≤ later.now := by
  fun_induction settle last rounds session with
  | case1 | case2 => exact (congrArg now (Option.some.inj answer)).le
  | case3 => cases answer
  | case4 rounds session due next near reached advanced moved ih =>
    exact (now_le_advanceTo advanced).trans (ih answer)
  | case5 rounds session due next near reached advanced still spent =>
    exact Option.some.inj answer ▸ now_le_advanceTo advanced
  | case6 rounds session due next near reached advanced still more ih =>
    exact (now_le_advanceTo advanced).trans (ih answer)

end Session

namespace Risky

variable {ω : Type}

section Steps

variable (player : Player) (stage : Stage TimerQueue ω)

theorem schedule_eq (clock : TimerQueue) (delay : Nat) (token : Token) (yielded : Bool) :
    schedule clock delay token yielded = answer (clock.arm? delay token yielded) := by
  rw [schedule, sum_eq, TimerQueue.arm?]
  cases Span.after? clock.now delay with
  | none => rfl
  | some deadline => rfl

theorem pause_eq (moved : Option (Player × Stage TimerQueue ω)) :
    pause (answer moved) = answer (Player.pause moved) := by
  cases moved with
  | none => rfl
  | some moved => rfl

theorem arm_eq (delay : Nat) (resume : Step) (curve : Option Curve) :
    arm player stage delay resume curve = answer (player.arm stage delay resume curve) := by
  rw [arm, schedule_eq]
  exact answer_bind _ fun armed _ => rfl

theorem armYield_eq (resume : Step) :
    armYield player stage resume = answer (player.armYield stage resume) := by
  rw [armYield, schedule_eq]
  exact answer_bind _ fun armed _ => rfl

theorem childDone_eq (id : NodeId) :
    childDone player stage id = answer (player.childDone stage id) := by
  unfold childDone Player.childDone
  cases (player.act.node? id).map ActNode.kind with
  | none => rfl
  | some kind =>
    cases kind with
    | tracker payload =>
      dsimp only
      split
      next => rfl
      next children =>
        have positive : 0 < payload.children.length := by
          rw [List.length_pos_iff]
          simpa using children
        rw [advance_eq positive, ok_bind]
        rcases (payload.mode.advance payload.children.length (player.memory.position id payload)
          player.generator).1 with position | _
        · dsimp only
          rw [arm_eq, pause_eq]
        · rfl
    | scene | wait | transition | condition => rfl

theorem follow_eq (done : NodeId) (route : Route) :
    follow player stage done route = answer (player.follow stage done route) := by
  unfold follow Player.follow
  cases route with
  | noMatch branch => rfl
  | first | along =>
    dsimp only
    generalize Route.connection? player.act done _ = next
    cases next with
    | none => rfl
    | some edge =>
      dsimp only
      cases player.act.target? edge with
      | none => rfl
      | some target => rfl

theorem complete_eq (route : Route) :
    complete player stage route = answer (player.complete stage route) := by
  unfold complete Player.complete
  rcases player.frames with _ | ⟨done, _ | ⟨tracker, rest⟩⟩
  · rfl
  · exact follow_eq { player with frames := [] } stage done route
  · exact childDone_eq { player with frames := tracker :: rest } stage tracker

/-- The child that is due is there, because a position is clamped where it is read. -/
theorem trackerStep_eq (id : NodeId) :
    trackerStep player stage id = answer (player.trackerStep stage id) := by
  unfold trackerStep Player.trackerStep
  cases (player.act.node? id).map ActNode.kind with
  | none => rfl
  | some kind =>
    cases kind with
    | tracker payload =>
      dsimp only
      split
      next empty =>
        rw [List.isEmpty_iff.1 empty]
        rfl
      next children =>
        have within : (player.memory.position id payload).index < payload.children.length := by
          refine TrackerPosition.clamp_lt _ (List.length_pos_iff.2 ?_)
          simpa using children
        rw [List.getElem?_eq_getElem within, element_eq (List.getElem?_eq_getElem within), ok_bind]
        dsimp only
        split
        next => rfl
        next =>
          split
          next => rfl
          next => rfl
    | scene | wait | transition | condition => rfl

variable [Output ω]

theorem enter_eq (id : NodeId) : enter player stage id = answer (player.enter stage id) := by
  unfold enter Player.enter
  cases player.act.node? id with
  | none => rfl
  | some node =>
    dsimp only
    cases node.kind with
    | wait | transition =>
      dsimp only
      rw [arm_eq, pause_eq]
    | scene | condition | tracker => rfl

theorem execute_eq (step : Step) : execute player stage step = answer (player.execute stage step) := by
  cases step with
  | enter id => exact enter_eq player stage id
  | complete route => exact complete_eq player stage route
  | trackerStep id => exact trackerStep_eq player stage id

theorem run_eq (steps : Nat) (step : Step) :
    run steps player stage step = answer (Player.run steps player stage step) := by
  induction steps generalizing player stage step with
  | zero => exact armYield_eq player stage step
  | succ steps ih =>
    rw [run, execute_eq, Player.run, ← Player.counted]
    cases player.counted.execute stage step with
    | none => rfl
    | some turn =>
      obtain ⟨later, shown, next⟩ := turn
      cases next with
      | none => rfl
      | some next => exact ih later shown next

theorem drive_eq (first : Step) (fresh : Bool) :
    drive player stage first fresh = answer (player.drive stage first fresh) :=
  run_eq _ stage _ first

theorem start_eq : start player stage = answer (player.start stage) := by
  rw [start, Player.start_eq]
  cases (player.stop stage).1.act.startId? with
  | none => rfl
  | some node =>
    dsimp only
    rw [drive_eq]
    exact answer_map _ _

theorem onTimer_eq (token : Token) :
    onTimer player stage token = answer (player.onTimer stage token) := by
  unfold onTimer Player.onTimer
  split
  next => rfl
  next =>
    cases player.waiting with
    | none => rfl
    | some wait => exact drive_eq _ stage wait.resume wait.yielded

end Steps

section Sessions

variable [Output ω] (session : Session ω)

theorem startPlayer_eq (id : PlayerId) : startPlayer session id = answer (session.start id) := by
  rw [startPlayer, Session.start]
  cases session.player? id with
  | none => rfl
  | some player =>
    dsimp only
    rw [start_eq]
    exact answer_map _ _

theorem deliver_eq (token : Token) : deliver session token = answer (session.deliver token) := by
  rw [deliver, Session.deliver]
  cases session.player? token.player with
  | none => rfl
  | some player =>
    dsimp only
    rw [onTimer_eq]
    exact answer_map _ _

theorem fire_eq (deliveries : Nat) (window : Window) :
    fire deliveries window session = answer (session.fire deliveries window) := by
  induction deliveries generalizing session with
  | zero => rfl
  | succ deliveries ih =>
    rw [fire, Session.fire]
    cases session.stage.clock.pop? window with
    | none => rfl
    | some due =>
      obtain ⟨token, clock⟩ := due
      dsimp only
      rw [deliver_eq, ← Session.popped]
      cases (session.popped clock).deliver token with
      | none => rfl
      | some reached => exact ih reached

theorem fireWindow_eq (window : Window) :
    fireWindow session window = answer (session.fireWindow window) := by
  rw [fireWindow, fire_eq, Session.fireWindow]
  exact answer_map _ _

theorem advanceTo_eq (target : Nat) : advanceTo session target = answer (session.advanceTo target) :=
  fireWindow_eq session _

theorem advanceBy_eq (delay : Nat) : advanceBy session delay = answer (session.advance delay) := by
  rw [advanceBy, sum_eq, Session.advance, TimerQueue.windowBy?]
  change _ = answer (((Span.after? session.now delay).map _).bind _)
  rw [Option.bind_map]
  exact answer_bind _ fun target _ => advanceTo_eq session target

theorem settle_eq (last rounds : Nat) :
    settle last rounds session = answer (session.settle last rounds) := by
  fun_induction Session.settle last rounds session with
  | case1 rounds session idle =>
    rw [settle, idle]
    rfl
  | case2 rounds session due next past =>
    rw [settle, next]
    exact if_pos past
  | case3 rounds session due next near failed =>
    rw [settle, next]
    dsimp only
    rw [if_neg near, advanceTo_eq, failed]
    rfl
  | case4 rounds session due next near reached advanced moved ih =>
    rw [settle, next]
    dsimp only
    rw [if_neg near, advanceTo_eq, advanced]
    exact (if_pos moved).trans ih
  | case5 rounds session due next near reached advanced still spent =>
    rw [settle, next]
    dsimp only
    rw [if_neg near, advanceTo_eq, advanced]
    exact (if_neg still).trans (if_pos spent)
  | case6 rounds session due next near reached advanced still more ih =>
    rw [settle, next]
    dsimp only
    rw [if_neg near, advanceTo_eq, advanced]
    exact (if_neg still).trans ((if_neg more).trans ih)

theorem runUntilIdle_eq (limit : Nat) :
    runUntilIdle session limit = answer (session.runUntilIdle limit) := by
  rw [runUntilIdle, sum_eq]
  refine answer_bind _ fun last _ => ?_
  rw [settle_eq]
  refine answer_bind _ fun later settled => ?_
  rw [difference_eq (Session.now_le_settle settled)]
  rfl

theorem perform_eq (request : Request ω) : perform session request = answer (session.perform request) := by
  cases request with
  | play act =>
    simp only [perform, startPlayer_eq, answer_map, Session.perform, Session.play, Option.map_map]
    rfl
  | start player =>
    simp only [perform, startPlayer_eq, answer_map]
    rfl
  | advance delay => exact advanceBy_eq session delay
  | advanceTo target => exact advanceTo_eq session target
  | runUntilIdle limit =>
    simp only [perform, runUntilIdle_eq, answer_map]
    rfl
  | load | unload | stop | stopAll | changeSignals | changeScenes | changeOutput | changeBus => rfl

theorem performAll_eq (requests : List (Request ω)) :
    performAll session requests = answer (session.performAll requests) := by
  induction requests generalizing session with
  | nil => rfl
  | cons request rest ih =>
    rw [performAll, List.foldlM_cons, perform_eq, Session.performAll, List.foldlM_cons]
    exact answer_bind _ fun later _ => ih later

/-- Whatever acts have been loaded, however malformed, and whatever is asked of a session in whatever
state: all that can go wrong is a sum of spans that lies past the last instant, and where none does the
session comes out as it is told. No tracker looks for a child beyond its list, none is moved without
children, no draw is from an empty range and no time is less than nothing. A review of an act misses no
vertex, no matter which, and asks for the first node only where there is one. -/
theorem only_overflow (requests : List (Request ω)) (act : Act) :
    performAll session requests = answer (session.performAll requests) ∧
    (∀ hazard, performAll session requests = .error hazard → hazard = .overflow) ∧
    review act = .ok act.review := by
  have same := performAll_eq session requests
  refine ⟨same, fun hazard failed => ?_, review_eq act⟩
  rw [same] at failed
  exact eq_overflow_of_answer failed

/-- More than the longest span of time cannot pass; an act without nodes is reviewed all the same. -/
theorem only_overflow_longest :
    performAll (.bare 3) [.advance 1, .advance Span.longest] = .error .overflow ∧
    review (.empty ⟨"act"⟩ "nothing" .epoch) = .ok [.empty] := by
  obtain ⟨performed, -, reviewed⟩ := only_overflow
    (.bare 3) [.advance 1, .advance Span.longest] (.empty ⟨"act"⟩ "nothing" .epoch)
  exact ⟨performed.trans (congrArg answer rfl), reviewed⟩

end Sessions

end Risky

end LightingDesk
