import LightingDesk.Proofs.Runner.Sequence

/-!
Messages and the acts that they trigger. A message sets its signal first; then the acts that it triggers are
put on one after the other, each from its start node, and those without nodes are passed over. Nothing else
is started: `Runner.Run.starts_triggered`.
-/

namespace LightingDesk

theorem MidiTrigger.fires_iff {trigger : MidiTrigger} {message : MidiMessage} :
    trigger.fires message = true ↔ trigger.enabled = true ∧ ∃ velocity, 0 < velocity ∧
      message = .noteOn trigger.channel trigger.note velocity := by
  cases message with
  | noteOn channel note velocity =>
    simp only [fires, Bool.and_eq_true, decide_eq_true_eq, beq_iff_eq, MidiMessage.noteOn.injEq]
    constructor
    · rintro ⟨⟨⟨enabled, positive⟩, channel⟩, note⟩
      exact ⟨enabled, velocity, positive, channel, note, rfl⟩
    · rintro ⟨enabled, force, positive, channel, note, rfl⟩
      exact ⟨⟨⟨enabled, positive⟩, channel⟩, note⟩
  | noteOff | controlChange => simp [fires]

theorem OscTrigger.fires_iff {trigger : OscTrigger} {message : OscMessage} :
    trigger.fires message = true ↔ trigger.enabled = true ∧ trigger.address ≠ "" ∧
      message.address = trigger.address ∧
        ∃ value, message.value = some value ∧ OscTrigger.pressThreshold < value := by
  have filled : (!trigger.address.isEmpty) = true ↔ trigger.address ≠ "" := by
    simp
  simp only [fires, Bool.and_eq_true, filled, beq_iff_eq, Option.any_eq_true, decide_eq_true_eq,
    and_assoc, eq_comm (a := trigger.address)]

/-- What a controller sends. -/
inductive Message where
  | midi (message : MidiMessage)
  | osc (message : OscMessage)

namespace Message

def fires : Message → Triggers → Bool
  | midi message, triggers => triggers.midiFires message
  | osc message, triggers => triggers.oscFires message

/-- The message is a note of the trigger that is switched on with some force, or a value above the threshold
at its address. -/
def Fires (message : Message) (triggers : Triggers) : Prop :=
  match message with
  | midi message => ∃ trigger, triggers.midi = some trigger ∧ trigger.enabled = true ∧
      ∃ velocity, 0 < velocity ∧ message = .noteOn trigger.channel trigger.note velocity
  | osc message => ∃ trigger, triggers.osc = some trigger ∧ trigger.enabled = true ∧
      trigger.address ≠ "" ∧ message.address = trigger.address ∧
        ∃ value, message.value = some value ∧ OscTrigger.pressThreshold < value

theorem fires_iff {message : Message} {triggers : Triggers} :
    message.fires triggers = true ↔ message.Fires triggers := by
  cases message with
  | midi message =>
    rw [fires, Triggers.midiFires, Option.any_eq_true]
    simp only [MidiTrigger.fires_iff, Fires]
  | osc message =>
    rw [fires, Triggers.oscFires, Option.any_eq_true]
    simp only [OscTrigger.fires_iff, Fires]

instance (message : Message) (triggers : Triggers) : Decidable (message.Fires triggers) :=
  decidable_of_iff (message.fires triggers = true) fires_iff

/-- The signal that a message carries, with its value. -/
def carried? : Message → Option (Signal × Float)
  | midi (.controlChange channel controller value) => some (.midi channel controller, value.toNat.toFloat)
  | midi (.noteOn ..) | midi (.noteOff ..) => none
  | osc message => message.value.map fun value => (.osc message.address, value.toFloat)

end Message

namespace SignalBoard

/-- The board when the signal that a message carries has been set. -/
def hear (board : SignalBoard) (message : Message) : SignalBoard :=
  match message.carried? with
  | some (signal, value) => board.set signal value
  | none => board

variable {board : SignalBoard} {message : Message} {signal : Signal}

theorem reading?_hear_carried {value : Float} (carried : message.carried? = some (signal, value)) :
    (board.hear message).reading? signal = some value := by
  rw [hear, carried]
  exact board.reading?_set_self signal value

theorem reading?_hear_other (other : ∀ value, message.carried? ≠ some (signal, value)) :
    (board.hear message).reading? signal = board.reading? signal := by
  unfold hear
  split
  next own value carried =>
    have different : signal ≠ own := fun same => other value (same ▸ carried)
    exact board.reading?_set_other different value
  next => rfl

end SignalBoard

namespace Runner

open Session

variable {κ : Type} [ArtNet.Link κ] {acts : List Act} {P : Act → Prop} {start runner later : Runner κ}
  {clock : Clock} {started : List ActId} {message : Message}

/-- Takes a message in, and tells which acts it has started. -/
def hear (runner : Runner κ) (clock : Clock) : Message → Option (List ActId × Runner κ)
  | .midi message => runner.handleMidi clock message
  | .osc message => runner.handleOsc clock message

omit [ArtNet.Link κ] in
/-- The runner when the signal of a message has been set. -/
def heard (runner : Runner κ) (message : Message) : Runner κ :=
  { runner with session := runner.session.mapSignals fun board => board.hear message }

omit [ArtNet.Link κ] in
/-- The acts that a message triggers. -/
def prompted (runner : Runner κ) (message : Message) : List Act :=
  runner.acts.filter fun act => message.Fires act.triggers

omit [ArtNet.Link κ] in
theorem filter_prompted (runner : Runner κ) (message : Message) :
    ((runner.prompted message).filter fun act => act.nodes ≠ []) =
      runner.acts.filter fun act => message.Fires act.triggers ∧ act.nodes ≠ [] := by
  rw [prompted, List.filter_filter]
  simp only [Bool.decide_and, Bool.and_comm]

theorem hear_eq (runner : Runner κ) (clock : Clock) (message : Message) : runner.hear clock message =
    (runner.heard message).startAll clock ((runner.prompted message).map Act.id) := by
  have matching : runner.matching message.fires = (runner.prompted message).map Act.id := by
    unfold matching prompted
    congr 1
    apply List.filter_congr
    intro act _
    rw [Bool.eq_iff_iff, decide_eq_true_iff]
    exact Message.fires_iff
  rw [← matching]
  cases message with
  | midi message =>
    cases message with
    | noteOn | noteOff | controlChange => rfl
  | osc message =>
    obtain ⟨address, value⟩ := message
    cases value with
    | none => rfl
    | some => rfl

/-- What comes of a message: which acts it has started, and what it leaves. -/
structure Hears (clock : Clock) (message : Message) (runner : Runner κ) (started : List ActId)
    (later : Runner κ) : Prop where
  /-- The acts that are started are those that the message triggers and that have nodes. -/
  all : started = (runner.acts.filter fun act =>
    message.Fires act.triggers ∧ act.nodes ≠ []).map Act.id
  once : started.Nodup
  /-- Each of them begins at its start node, when the signal of the message has been set. -/
  begun : ∃ cues, Starts clock (runner.heard message) (runner.prompted message) cues later ∧
    (cues.map fun cue => cue.act.id) = started ∧
    (∀ cue ∈ cues, cue.Begins ∧ (cue.player, cue.act) ∈ later.session.cast ∧
      cue.before.stage.signals = later.session.stage.signals) ∧
    ∀ id, later.session.playbacks id =
      runner.session.playbacks id + (cues.map Cue.player).count id
  /-- No other act begins. -/
  others : ∀ player ∈ later.session.players, player.act.id ∉ started →
    player.playbacks = runner.session.playbacks player.id
  carried : ∀ signal value, message.carried? = some (signal, value) →
    later.session.stage.signals.reading? signal = some value
  unchanged : ∀ signal, (∀ value, message.carried? ≠ some (signal, value)) →
    later.session.stage.signals.reading? signal = runner.session.stage.signals.reading? signal

namespace Company

omit [ArtNet.Link κ] in
theorem heard (company : Company acts P runner) (message : Message) :
    Company acts P (runner.heard message) :=
  company.perform (.changeSignals fun board => board.hear message) trivial rfl

theorem answers (company : Company acts (Act.FitsIn acts) runner) (distinct : (acts.map Act.id).Nodup)
    (answer : runner.hear clock message = some (started, later)) :
    runner.Hears clock message started later := by
  have heard := company.heard message
  have known : ∀ act ∈ runner.prompted message, act ∈ acts := fun act listed =>
    company.same ▸ List.mem_of_mem_filter listed
  rw [hear_eq] at answer
  obtain ⟨cues, starts, rfl⟩ := heard.startAll distinct known answer
  obtain ⟨onward, each⟩ := starts.continues heard.reachable
  have signals : later.session.stage.signals = runner.session.stage.signals.hear message :=
    onward.surroundings.signals
  have counted : ∀ id, later.session.playbacks id =
      runner.session.playbacks id + (cues.map Cue.player).count id := starts.playbacks heard.reachable
  have plays : ∀ cue ∈ cues, (cue.player, cue.act) ∈ later.session.cast := by
    intro cue member
    obtain ⟨player, found, same⟩ := (starts.begun cue member).plays
    refine (each cue member).2.cast.subset (mem_cast.2 ⟨player, mem_of_player? found, ?_, same⟩)
    exact id_of_player? found
  have all : (cues.map fun cue => cue.act.id) = (runner.acts.filter fun act =>
      message.Fires act.triggers ∧ act.nodes ≠ []).map Act.id := by
    rw [← runner.filter_prompted message, ← starts.map_act, List.map_map]
    rfl
  refine ⟨all, ?_, ⟨cues, starts, rfl, ?_, counted⟩, ?_, ?_, ?_⟩
  · rw [all]
    exact (company.same ▸ distinct).sublist (List.filter_sublist.map _)
  · intro cue member
    refine ⟨starts.begun cue member, plays cue member, ?_⟩
    exact (each cue member).1.surroundings.signals.trans signals.symm
  · intro player member other
    obtain ⟨log, lives⟩ := onward.reachable.lives
    -- the player of a cue plays the act of that cue, so this one belongs to none
    have uncalled : (cues.map Cue.player).count player.id = 0 := by
      rw [List.count_eq_zero]
      intro called
      obtain ⟨cue, listed, same⟩ := List.mem_map.1 called
      have act : player.act = cue.act := lives.act_of_mem_cast (same ▸ plays cue listed) member
      exact other (List.mem_map.2 ⟨cue, listed, congrArg Act.id act.symm⟩)
    rw [← playbacks_of_player? (lives.player?_of_mem member), counted, uncalled, Nat.add_zero]
  · intro signal value carried
    rw [signals]
    exact SignalBoard.reading?_hear_carried carried
  · intro signal other
    rw [signals]
    exact SignalBoard.reading?_hear_other other

end Company

/-- Whatever has happened to a runner, and whatever the clock shows while it takes a message in: the acts
that the message triggers begin, one after the other and each at its own instant, except those without
nodes. They all do if none of the instants, and no delay from the last of them on, is beyond the last
instant of the clock. -/
theorem Run.starts_triggered (reachable : start.session.Reachable) (empty : start.session.players = [])
    (distinct : (start.acts.map Act.id).Nodup)
    (run : Run (Request.LoadsOnly (Act.FitsIn start.acts)) start runner) (clock : Clock)
    (message : Message) :
    (∀ started later, runner.hear clock message = some (started, later) →
      runner.Hears clock message started later) ∧
    ∀ last, last ≤ Span.longest → runner.session.now ≤ last →
      clock.Within (2 * (runner.prompted message).length) last →
      (∀ act ∈ runner.acts, ¬act.Overruns last) →
      (∀ player ∈ runner.session.players, ¬player.act.Overruns last) →
        (runner.hear clock message).isSome = true := by
  have begun : Company start.acts (Act.FitsIn start.acts) start :=
    ⟨reachable, rfl, fun act known => Act.fitsIn_of_mem distinct known, by simp [PlaysOnly, empty]⟩
  have company := begun.run run
  refine ⟨fun started later answer => company.answers distinct answer, ?_⟩
  intro last early passed shown acts players
  have roomy : Company start.acts (fun act => ¬act.Overruns last) runner :=
    ⟨company.reachable, company.same, company.same ▸ acts, players⟩
  rw [hear_eq]
  refine (company.heard message).startAll_isSome (roomy.heard message) early shown passed distinct ?_
  exact fun act listed => company.same ▸ List.mem_of_mem_filter listed

/-- Acts on a key of a keyboard: one that is blank, under the name of another, and two that play. -/
def keyboard : Runner ArtNet.Wire :=
  let key : Triggers := ⟨none, some ⟨0, 60, true⟩⟩
  create (.bare 3)
    [{ Act.empty ⟨"blank"⟩ "act" .epoch with triggers := key }, { Act.relay with triggers := key },
      { Act.relay with id := ⟨"echo"⟩, triggers := key }] none

/-- A clock on which three milliseconds pass from one reading to the next. -/
def ticking : Clock := ⟨fun reading => Span.ofMilliseconds (3 * reading)⟩

/-- The key is struck while the first act is playing. Once begun anew, that act waits for five milliseconds
and is over before the other one begins. -/
theorem starts_triggered_keyboard : ∃ runner later,
    Run (Request.LoadsOnly (Act.FitsIn keyboard.acts)) keyboard runner ∧
    runner.session.players.map (fun player => (player.act.id.text, player.playing)) = [("act", true)] ∧
    runner.hear ticking (.midi (.noteOn 0 60 100)) = some ([⟨"act"⟩, ⟨"echo"⟩], later) ∧
    later.session.players.map (fun player => (player.act.id.text, player.playing)) =
      [("act", false), ("blank", false), ("echo", true)] ∧
    runner.Hears ticking (.midi (.noteOn 0 60 100)) [⟨"act"⟩, ⟨"echo"⟩] later := by
  have answered : ((keyboard.apply (.still 0) (.start "act")).bind fun runner =>
      (runner.hear ticking (.midi (.noteOn 0 60 100))).map fun (started, later) =>
        (started, [runner, later].map fun runner =>
          runner.session.players.map fun player => (player.act.id.text, player.playing))) =
      some ([⟨"act"⟩, ⟨"echo"⟩],
        [[("act", true)], [("act", false), ("blank", false), ("echo", true)]]) := by
    decide
  obtain ⟨runner, begun, told⟩ := Option.bind_eq_some_iff.1 answered
  obtain ⟨⟨started, later⟩, answer, same⟩ := Option.map_eq_some_iff.1 told
  simp only [Prod.mk.injEq, List.map_cons, List.map_nil, List.cons.injEq, and_true] at same
  obtain ⟨rfl, before, after⟩ := same
  have run : Run (Request.LoadsOnly (Act.FitsIn keyboard.acts)) keyboard runner :=
    Run.here.apply (.still 0) (.start "act") begun
  have reachable : keyboard.session.Reachable := ⟨[], .bare 3⟩
  have triggered := run.starts_triggered reachable rfl (by decide) ticking (.midi (.noteOn 0 60 100))
  exact ⟨runner, later, run, before, answer, after, triggered.1 _ later answer⟩

end Runner

end LightingDesk
