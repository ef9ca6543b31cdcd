import LightingDesk.Proofs.Runner.Company

/-!
Acts that are started one after the other. Each of them is put on at its cue, from its start node, or passed
over because it has no nodes, and no playback begins but those (`Runner.Starts.playbacks`). So a runner
starts them, and none is lost, as long as there is time for their delays (`Runner.Company.startAll_isSome`).
-/

namespace LightingDesk

namespace Runner

open Session

variable {κ : Type} [ArtNet.Link κ] {acts wanted : List Act} {runner later : Runner κ} {clock : Clock}
  {cues : List (Cue Universe)} {started : List ActId}

theorem playbacks_flush (runner : Runner κ) (now : Nat) (id : PlayerId) :
    (runner.flush now).session.playbacks id = runner.session.playbacks id := by
  obtain ⟨sender, unsent, same⟩ := runner.exists_flush_eq now
  rw [same]
  rfl

/-- Acts are asked for in turn. Before each of them the session catches up with what the clock shows then, so
that timers fire meanwhile. What has changed goes out after each that begins, as late as the clock shows
then; those that cannot be started are passed over. -/
inductive Starts : Clock → Runner κ → List Act → List (Cue Universe) → Runner κ → Prop where
  | done (clock : Clock) (runner : Runner κ) : Starts clock runner [] [] runner
  | begins {clock runner rest cues later} {cue : Cue Universe}
      (caught : runner.session.advanceTo clock.now = some cue.before) (begins : cue.Begins)
      (others : Starts (clock.after 2)
        (flush { runner with session := cue.after } (clock.after 1).now) rest cues later) :
      Starts clock runner (cue.act :: rest) (cue :: cues) later
  | refused {clock runner rest cues later} {cue : Cue Universe}
      (caught : runner.session.advanceTo clock.now = some cue.before) (refused : cue.Refused)
      (others : Starts (clock.after 2) { runner with session := cue.after } rest cues later) :
      Starts clock runner (cue.act :: rest) cues later

namespace Starts

/-- The acts that begin are those with nodes. -/
theorem map_act (starts : Starts clock runner wanted cues later) :
    cues.map Cue.act = wanted.filter fun act => act.nodes ≠ [] := by
  induction starts with
  | done => rfl
  | @begins clock runner rest cues later cue _ begins _ ih =>
    obtain ⟨start, events, found, -⟩ := begins.begins
    have nodes : cue.act.nodes ≠ [] := by
      rw [Ne, ← Act.startId?_eq_none, found]
      exact Option.some_ne_none start
    rw [List.map_cons, ih, List.filter_cons_of_pos (by simpa using nodes)]
  | refused _ refused _ ih => rw [ih, List.filter_cons_of_neg (by simp [refused.empty])]

theorem begun (starts : Starts clock runner wanted cues later) : ∀ cue ∈ cues, cue.Begins := by
  induction starts with
  | done => simp
  | begins _ begins _ ih =>
    intro cue member
    rcases List.mem_cons.1 member with rfl | rest
    · exact begins
    · exact ih cue rest
  | refused _ _ _ ih => exact ih

theorem continues (starts : Starts clock runner wanted cues later)
    (reachable : runner.session.Reachable) : Continues runner.session later.session ∧
      ∀ cue ∈ cues, Continues runner.session cue.before ∧ Continues cue.after later.session := by
  induction starts with
  | done => exact ⟨.refl reachable, by simp⟩
  | @begins clock runner rest cues later cue caught begins _ ih =>
    obtain ⟨passes, called⟩ := begins.continues reachable caught
    have flushed := continues_flush { runner with session := cue.after } called.reachable
      (clock.after 1).now
    obtain ⟨onward, each⟩ := ih flushed.reachable
    refine ⟨(passes.trans called).trans (flushed.trans onward), ?_⟩
    intro other member
    rcases List.mem_cons.1 member with rfl | listed
    · exact ⟨passes, flushed.trans onward⟩
    · obtain ⟨before, after⟩ := each other listed
      exact ⟨((passes.trans called).trans flushed).trans before, after⟩
  | @refused clock runner rest cues later cue caught refused _ ih =>
    obtain ⟨passes, called⟩ := refused.continues reachable caught
    obtain ⟨onward, each⟩ := ih called.reachable
    refine ⟨(passes.trans called).trans onward, fun other member => ?_⟩
    obtain ⟨before, after⟩ := each other member
    exact ⟨(passes.trans called).trans before, after⟩

/-- Each cue is the beginning of one playback, and there are no others. -/
theorem playbacks (starts : Starts clock runner wanted cues later)
    (reachable : runner.session.Reachable) (id : PlayerId) : later.session.playbacks id =
      runner.session.playbacks id + (cues.map Cue.player).count id := by
  induction starts with
  | done => rfl
  | @begins clock runner rest cues later cue caught begins _ ih =>
    obtain ⟨log, lives⟩ := reachable.lives
    obtain ⟨-, called⟩ := begins.continues reachable caught
    have flushed := continues_flush { runner with session := cue.after } called.reachable
      (clock.after 1).now
    calc later.session.playbacks id
      _ = cue.after.playbacks id + (cues.map Cue.player).count id :=
        (ih flushed.reachable).trans (by rw [playbacks_flush])
      _ = runner.session.playbacks id + ([cue.player].count id + (cues.map Cue.player).count id) := by
        rw [begins.playbacks, lives.playbacks_advanceTo caught, Nat.add_assoc]
      _ = runner.session.playbacks id + ((cue :: cues).map Cue.player).count id := by
        rw [← List.count_append, List.singleton_append, List.map_cons]
  | @refused clock runner rest cues later cue caught refused _ ih =>
    obtain ⟨log, lives⟩ := reachable.lives
    obtain ⟨-, called⟩ := refused.continues reachable caught
    calc later.session.playbacks id
      _ = cue.after.playbacks id + (cues.map Cue.player).count id := ih called.reachable
      _ = runner.session.playbacks id + (cues.map Cue.player).count id := by
        rw [refused.playbacks, lives.playbacks_advanceTo caught]

end Starts

theorem startAll_cons {id : ActId} {rest : List ActId}
    (answer : runner.startAll clock (id :: rest) = some (started, later)) :
    ∃ result reached others, runner.startAct clock id.text = some (result, reached) ∧
      reached.startAll (clock.after 2) rest = some (others, later) ∧
      started = match result with
        | .ok _ => id :: others
        | .error _ => others := by
  simp only [Runner.startAll, Option.bind_eq_bind, Option.bind_eq_some_iff] at answer
  obtain ⟨⟨result, reached⟩, first, ⟨others, last⟩, next, ended⟩ := answer
  refine ⟨result, reached, others, first, ?_⟩
  cases result with
  | ok =>
    obtain ⟨rfl, rfl⟩ := Prod.mk.inj (Option.some.inj ended)
    exact ⟨next, rfl⟩
  | error =>
    obtain ⟨rfl, rfl⟩ := Prod.mk.inj (Option.some.inj ended)
    exact ⟨next, rfl⟩

namespace Company

theorem startAct {act : Act} {result : Except RunnerError PlayerId}
    (company : Company acts (Act.FitsIn acts) runner) (distinct : (acts.map Act.id).Nodup)
    (known : act ∈ acts) (answer : runner.startAct clock act.id.text = some (result, later)) :
    ∃ cue : Cue Universe, cue.act = act ∧ runner.session.advanceTo clock.now = some cue.before ∧
      (cue.Begins ∧ result = .ok cue.player ∧
          later = Runner.flush { runner with session := cue.after } (clock.after 1).now ∨
        cue.Refused ∧ (∃ error, result = .error error) ∧
          later = { runner with session := cue.after }) := by
  have found := find?_id (company.same ▸ distinct) (company.same ▸ known)
  obtain ⟨synced, advanced, -⟩ := startAct_cases answer
  rw [startAct_eq advanced found, Option.map_eq_some_iff] at answer
  obtain ⟨⟨reply, session⟩, begun, answered⟩ := answer
  have caught := company.perform (.advanceTo clock.now) trivial advanced
  refine ⟨⟨act, synced, session⟩, rfl, advanced, ?_⟩
  rcases caught.reachable.cue_cases (caught.playsAs known) begun with
    ⟨rfl, begins⟩ | ⟨error, rfl, refused⟩
  · obtain ⟨rfl, rfl⟩ := Prod.mk.inj answered
    exact .inl ⟨begins, rfl, rfl⟩
  · obtain ⟨rfl, rfl⟩ := Prod.mk.inj answered
    exact .inr ⟨refused, ⟨_, rfl⟩, rfl⟩

theorem startAll (company : Company acts (Act.FitsIn acts) runner) (distinct : (acts.map Act.id).Nodup)
    (known : ∀ act ∈ wanted, act ∈ acts)
    (answer : runner.startAll clock (wanted.map Act.id) = some (started, later)) :
    ∃ cues, Starts clock runner wanted cues later ∧ started = cues.map fun cue => cue.act.id := by
  induction wanted generalizing runner clock started with
  | nil =>
    obtain ⟨rfl, rfl⟩ := Prod.mk.inj (Option.some.inj answer)
    exact ⟨[], .done clock runner, rfl⟩
  | cons act rest ih =>
    obtain ⟨result, reached, others, first, next, split⟩ := startAll_cons answer
    have kept := company.movesTo (moves_startAct first)
    obtain ⟨cues, starts, rfl⟩ := ih kept (fun other listed => known other (.tail _ listed)) next
    obtain ⟨cue, rfl, caught, ⟨begins, rfl, rfl⟩ | ⟨refused, ⟨error, rfl⟩, rfl⟩⟩ :=
      company.startAct distinct (known act List.mem_cons_self) first
    · exact ⟨cue :: cues, .begins caught begins starts, split⟩
    · exact ⟨cues, .refused caught refused starts, split⟩

end Company

/-! ### Time -/

theorem now_flush (runner : Runner κ) (now : Nat) :
    (runner.flush now).session.now = runner.session.now := by
  obtain ⟨sender, unsent, same⟩ := runner.exists_flush_eq now
  rw [same]
  rfl

namespace Company

theorem startAct_now {act : Act} {result : Except RunnerError PlayerId}
    (company : Company acts (Act.FitsIn acts) runner) (distinct : (acts.map Act.id).Nodup)
    (known : act ∈ acts) (answer : runner.startAct clock act.id.text = some (result, later)) :
    later.session.now = max clock.now runner.session.now := by
  obtain ⟨log, run⟩ := company.reachable
  obtain ⟨cue, -, caught, ⟨begins, -, rfl⟩ | ⟨refused, -, rfl⟩⟩ :=
    company.startAct distinct known answer
  · calc (Runner.flush { runner with session := cue.after } (clock.after 1).now).session.now
      _ = cue.before.now := (now_flush _ _).trans begins.now
      _ = max clock.now runner.session.now := run.timely.advanceTo_now caught
  · exact refused.now.trans (run.timely.advanceTo_now caught)

/-- An act is started in time if there is room on the clock for everything that is played. -/
theorem startAct_isSome {act : Act} {last : Nat} (company : Company acts (Act.FitsIn acts) runner)
    (roomy : Company acts (fun act => ¬act.Overruns last) runner) (early : last ≤ Span.longest)
    (shown : clock.now ≤ last) (passed : runner.session.now ≤ last)
    (distinct : (acts.map Act.id).Nodup) (known : act ∈ acts) :
    (runner.startAct clock act.id.text).isSome = true := by
  have near : max clock.now runner.session.now ≤ last := max_le shown passed
  obtain ⟨synced, advanced⟩ := Option.isSome_iff_exists.1
    (company.reachable.advanceTo_isSome (near.trans early) fun player member overruns =>
      roomy.plays player member (overruns.mono near))
  have caught := company.perform (.advanceTo clock.now) trivial advanced
  have room := (roomy.perform (.advanceTo clock.now) trivial advanced).plays
  have within : synced.now ≤ last := by
    obtain ⟨log, run⟩ := company.reachable
    rw [run.timely.advanceTo_now advanced]
    exact near
  have found := find?_id (company.same ▸ distinct) (company.same ▸ known)
  rw [startAct_eq advanced found, Option.isSome_map]
  refine caught.reachable.cue_isSome (caught.playsAs known) (within.trans early) ?_ ?_
  · exact fun player member overruns => room player member (overruns.mono within)
  · exact fun overruns => roomy.own act known (overruns.mono within)

theorem startAll_isSome {last : Nat} (company : Company acts (Act.FitsIn acts) runner)
    (roomy : Company acts (fun act => ¬act.Overruns last) runner) (early : last ≤ Span.longest)
    (shown : clock.Within (2 * wanted.length) last) (passed : runner.session.now ≤ last)
    (distinct : (acts.map Act.id).Nodup) (known : ∀ act ∈ wanted, act ∈ acts) :
    (runner.startAll clock (wanted.map Act.id)).isSome = true := by
  induction wanted generalizing runner clock with
  | nil => rfl
  | cons act rest ih =>
    have member : act ∈ acts := known act List.mem_cons_self
    have first : clock.now ≤ last := shown 0 (by simp)
    obtain ⟨⟨result, next⟩, begun⟩ := Option.isSome_iff_exists.1
      (company.startAct_isSome roomy early first passed distinct member)
    have kept := company.movesTo (moves_startAct begun)
    have room := roomy.movesTo (moves_startAct begun)
    have near : next.session.now ≤ last := by
      rw [company.startAct_now distinct member begun]
      exact max_le first passed
    have others : (clock.after 2).Within (2 * rest.length) last := fun reading few =>
      shown (2 + reading) (by rw [List.length_cons]; omega)
    obtain ⟨⟨started, reached⟩, answer⟩ := Option.isSome_iff_exists.1
      (ih kept room others near fun other listed => known other (.tail _ listed))
    simp only [List.map_cons, Runner.startAll, Option.bind_eq_bind, begun, Option.bind_some, answer]
    cases result with
    | error => rfl
    | ok => rfl

end Company

end Runner

end LightingDesk
