import LightingDesk.Proofs.Playback.Ledger
import LightingDesk.Proofs.Playback.Walk

/-!
The generation of a player guards it against timers of the past. It grows by one with every playback
that begins and with every one that ends, so the token of a timer is good for one playback only, even
if the clock never cancels and delivers what it likes: `Career.tokens_expire`.
-/

namespace LightingDesk

section Generation

variable {σ ω : Type} {player later : Player} {stage shown : Stage σ ω} {first : Step}
  {taken : List (Moment σ ω)}

theorem Player.Tidings.countP_endsPlayback {events : List Event}
    (tidings : player.Tidings first taken events) : events.countP Event.endsPlayback = 0 := by
  rw [List.countP_eq_zero]
  intro event member
  simp [(tidings.passing event member).endsPlayback]

theorem Player.Tidings.ne_nil {node : NodeId} {events : List Event}
    (tidings : player.Tidings (.enter node) taken events) (stepped : taken ≠ []) : events ≠ [] := by
  rintro rfl
  rcases tidings.opening with ⟨none, -⟩ | ⟨-, opening⟩
  · exact stepped none
  · simp [Step.entering] at opening

theorem Player.countP_farewell (player : Player) :
    player.farewell.countP Event.endsPlayback = player.playing.toNat := by
  rw [farewell]
  cases player.playing with
  | false => rfl
  | true => rfl

variable [Scheduler σ]

theorem Player.stop_generation (player : Player) (stage : Stage σ ω) :
    (player.stop stage).1.generation = player.generation + player.playing.toNat := by
  rw [stop_fst]
  cases player.playing with
  | false => rfl
  | true => rfl

/-- A run ends the playback once, or leaves it under way. -/
theorem Player.Drove.counts (drove : player.Drove stage first taken later shown) :
    ∃ events, stage.Tells shown events ∧
      later.generation = player.generation + events.countP Event.endsPlayback ∧
      later.playing.toNat + events.countP Event.endsPlayback = 1 := by
  obtain ⟨events, tidings, ends | ⟨wait, pauses⟩⟩ := drove.outcome
  · obtain ⟨reason, natural, tells⟩ := ends.told
    have once : (events ++ [Event.stopped player.id player.act.id reason]).countP
        Event.endsPlayback = 1 := by
      rw [List.countP_append, tidings.countP_endsPlayback, List.countP_singleton,
        natural.endsPlayback]
      rfl
    refine ⟨_, tells, ?_, ?_⟩
    · rw [once]
      exact ends.generation
    · rw [once, ends.idle]
      rfl
  · refine ⟨events, pauses.told, ?_, ?_⟩
    · rw [tidings.countP_endsPlayback]
      exact pauses.generation
    · rw [tidings.countP_endsPlayback, pauses.playing]
      rfl

variable [Output ω] {act : Act} {call : Call}

/-- The generation counts the playbacks that begin and those that end, and no playback is lost: one
that was under way or has begun has ended or is under way. -/
theorem Player.Responds.counts (responds : player.Responds act stage call later shown) :
    later.generation = player.generation +
        (Episode.mk call player stage later shown).begins.toNat +
        (Episode.mk call player stage later shown).ends ∧
      later.playing.toNat + (Episode.mk call player stage later shown).ends =
        player.playing.toNat + (Episode.mk call player stage later shown).begins.toNat := by
  cases responds with
  | ignored quiet =>
    have none : (Episode.mk call player stage player stage).begins = false := by
      unfold Episode.begins
      split
      next start _ => exact absurd start quiet
      next => rfl
    simp [none, Episode.ends, Episode.events, (Stage.Tells.refl stage).since_eq]
  | stopped playing =>
    have none : (Episode.mk .stop player stage (player.stop stage).1 (player.stop stage).2).begins =
        false := rfl
    rw [none, Episode.ends, Episode.events, (player.stop_tells stage).since_eq,
      player.countP_farewell, player.stop_generation, player.stop_playing]
    simp
  | refused absent fails =>
    have tells := (player.stop_tells stage).trans ((player.stop stage).2.tells_emit
      (.stopped player.id act.id (.fault .emptyGraph)))
    have none : (Episode.mk .start player stage (player.stop stage).1 ((player.stop stage).2.emit
        (.stopped player.id act.id (.fault .emptyGraph)))).begins = false := by
      simp [Episode.begins, fails]
    rw [none, Episode.ends, Episode.events, tells.since_eq, List.countP_append,
      player.countP_farewell, player.stop_generation, player.stop_playing]
    simp [Event.endsPlayback]
  | begun found succeeds drove =>
    obtain ⟨events, tells, generation, once⟩ := drove.counts
    have one : (Episode.mk .start player stage later shown).begins = true := by
      simp [Episode.begins, succeeds]
    rw [one, Episode.ends, Episode.events, ((player.stop_tells stage).trans tells).since_eq,
      List.countP_append, player.countP_farewell, generation, player.restarted_generation,
      player.stop_generation]
    simp only [Bool.toNat_true]
    omega
  | resumed playing drove =>
    obtain ⟨events, tells, generation, once⟩ := drove.counts
    have none : (Episode.mk (.timer player.token) player stage later shown).begins = false := rfl
    rw [none, Episode.ends, Episode.events, tells.since_eq, generation, player.resumed_generation,
      playing]
    exact ⟨rfl, once⟩

/-- A playback that is not reported to have ended goes on, under the same token. -/
theorem Player.Responds.lasts (responds : player.Responds act stage call later shown)
    (playing : player.playing = true)
    (none : (Episode.mk call player stage later shown).ends = 0) :
    later.playing = true ∧ later.token = player.token := by
  obtain ⟨generation, balance⟩ := responds.counts
  rw [playing, none] at balance
  rw [none] at generation
  -- there is room for one playback only
  have room := Bool.toNat_le later.playing
  simp only [Bool.toNat_true] at balance
  have began : (Episode.mk call player stage later shown).begins.toNat = 0 := by omega
  refine ⟨Bool.toNat_eq_one.1 (by omega), ?_⟩
  rw [Player.token, Player.token, responds.id, generation, began, Nat.add_zero]

theorem Player.Responds.generation_le (responds : player.Responds act stage call later shown) :
    player.generation + (Episode.mk call player stage later shown).ends ≤ later.generation := by
  rw [responds.counts.1]
  omega

/-- A player whose last report is that it has stopped is idle. -/
theorem Player.Responds.idle_of_last (responds : player.Responds act stage call later shown)
    {owner : PlayerId} {name : ActId} {reason : StopReason}
    (last : (shown.since stage).getLast? = some (.stopped owner name reason)) :
    later.playing = false := by
  cases responds with
  | ignored => simp [(Stage.Tells.refl stage).since_eq] at last
  | stopped => exact player.stop_playing stage
  | refused => exact player.stop_playing stage
  | begun found succeeds drove =>
    have stepped := drove.stepped (player.restarted_fresh stage)
    obtain ⟨events, tidings, ends | ⟨wait, pauses⟩⟩ := drove.outcome
    · exact ends.idle
    · rw [((player.stop_tells stage).trans pauses.told).since_eq,
        List.getLast?_append_of_ne_nil _ (tidings.ne_nil stepped)] at last
      exact (tidings.passing _ (List.mem_of_getLast? last)).elim
  | resumed _ drove =>
    obtain ⟨events, tidings, ends | ⟨wait, pauses⟩⟩ := drove.outcome
    · exact ends.idle
    · rw [pauses.told.since_eq] at last
      exact (tidings.passing _ (List.mem_of_getLast? last)).elim

/-- An idle player does nothing until it is started. -/
theorem Player.Responds.silent (responds : player.Responds act stage call later shown)
    (idle : player.playing = false) (quiet : call ≠ .start) : later = player ∧ shown = stage := by
  cases responds with
  | ignored => exact ⟨rfl, rfl⟩
  | stopped playing => simp [idle] at playing
  | refused => exact absurd rfl quiet
  | begun => exact absurd rfl quiet
  | resumed playing => simp [idle] at playing

end Generation

section Tokens

variable {σ ω : Type} [Scheduler σ] [Output ω] {act : Act} {player later : Player}
  {stage shown : Stage σ ω} {call : Call}

/-- How a token stands to its player after some calls: good as long as no playback has ended, and
stale from then on. -/
structure Player.Guards (player : Player) (after : List (Episode σ ω)) (token : Token) :
    Prop where
  good : (∀ next ∈ after, next.ends = 0) → player.playing = true ∧ token = player.token
  stale : (∃ next ∈ after, 0 < next.ends) → token.generation < player.generation

omit [Scheduler σ] [Output ω] in
theorem Player.Guards.now {token : Token} (current : player.playing = true ∧ token = player.token) :
    player.Guards ([] : List (Episode σ ω)) token :=
  ⟨fun _ => current, by simp⟩

theorem Player.Guards.next {after : List (Episode σ ω)} {token : Token}
    (guards : player.Guards after token) (responds : player.Responds act stage call later shown) :
    later.Guards (after ++ [⟨call, player, stage, later, shown⟩]) token where
  good := by
    intro none
    obtain ⟨playing, rfl⟩ := guards.good fun next member => none next (List.mem_append_left _ member)
    obtain ⟨lasts, token⟩ := responds.lasts playing (none _ (by simp))
    exact ⟨lasts, token.symm⟩
  stale := by
    rintro ⟨next, member, ended⟩
    have grown := responds.generation_le
    by_cases before : ∃ next ∈ after, 0 < next.ends
    · have stale := guards.stale before
      omega
    · have lasted : ∀ next ∈ after, next.ends = 0 := by
        intro next member
        by_contra ended
        exact before ⟨next, member, Nat.pos_of_ne_zero ended⟩
      obtain ⟨-, rfl⟩ := guards.good lasted
      rcases List.mem_append.1 member with earlier | last
      · exact absurd (lasted next earlier) (Nat.ne_of_gt ended)
      · rw [List.mem_singleton.1 last] at ended
        exact Nat.lt_of_lt_of_le (Nat.lt_add_of_pos_right ended) grown

end Tokens

/-- A player that is idle, or whose generation the token does not carry, has no use for a timer. -/
theorem Player.onTimer_ignored {σ ω : Type} [Scheduler σ] [Output ω] {player : Player} {token : Token}
    (stage : Stage σ ω) (stale : token.player ≠ player.id ∨ token.generation ≠ player.generation ∨
      player.playing = false) : player.onTimer stage token = some (player, stage) := by
  refine if_pos ?_
  rw [Bool.or_eq_true, bne_iff_ne, Bool.not_eq_true']
  rcases stale with other | earlier | idle
  · exact .inl fun same => other (congrArg Token.player same)
  · exact .inl fun same => earlier (congrArg Token.generation same)
  · exact .inr idle

section Career

variable {σ ω : Type} [Scheduler σ] [Output ω] {id : PlayerId} {act : Act} {player : Player}
  {log : List (Episode σ ω)}

theorem Career.counts (career : Career id act player log) : ∀ episode ∈ log,
    episode.later.generation =
      episode.player.generation + episode.begins.toNat + episode.ends ∧
    episode.later.playing.toNat + episode.ends =
      episode.player.playing.toNat + episode.begins.toNat := by
  intro episode member
  obtain ⟨earlier, after, split⟩ := List.append_of_mem member
  exact career.since_rule
    (R := fun episode _ _ =>
      episode.later.generation =
        episode.player.generation + episode.begins.toNat + episode.ends ∧
      episode.later.playing.toNat + episode.ends =
        episode.player.playing.toNat + episode.begins.toNat)
    (fun before answer => (before.responds answer).counts) (fun counts _ _ => counts)
    earlier episode after split

theorem Career.guards (career : Career id act player log) {earlier after : List (Episode σ ω)}
    {episode : Episode σ ω} (split : log = earlier ++ episode :: after) {token : Token}
    (issued : token ∈ episode.issued) : token.player = id ∧ player.Guards after token := by
  refine career.since_rule
    (R := fun episode after player => token ∈ episode.issued →
      token.player = id ∧ player.Guards after token)
    ?now ?next earlier episode after split issued
  case now =>
    intro player later log call stage shown before answer issued
    obtain ⟨playing, rfl⟩ := before.issued answer token issued
    exact ⟨(before.responds answer).id.trans before.named.1, .now ⟨playing, rfl⟩⟩
  case next =>
    intro episode player later after log call stage shown guarded before answer issued
    obtain ⟨owner, guards⟩ := guarded issued
    exact ⟨owner, guards.next (before.responds answer)⟩

/-- Once a player has reported that it has stopped, calls change nothing until it is started. -/
theorem Career.silent (career : Career id act player log) {earlier after : List (Episode σ ω)}
    {episode : Episode σ ω} (split : log = earlier ++ episode :: after) {owner : PlayerId}
    {name : ActId} {reason : StopReason}
    (last : episode.events.getLast? = some (.stopped owner name reason))
    (quiet : ∀ next ∈ after, next.call ≠ .start) :
    player.playing = false ∧ ∀ next ∈ after, next.later = next.player ∧ next.shown = next.stage := by
  refine career.since_rule
    (R := fun episode after player =>
      episode.events.getLast? = some (.stopped owner name reason) →
      (∀ next ∈ after, next.call ≠ .start) →
        player.playing = false ∧
          ∀ next ∈ after, next.later = next.player ∧ next.shown = next.stage)
    ?now ?next earlier episode after split last quiet
  case now =>
    intro player later log call stage shown before answer last quiet
    exact ⟨(before.responds answer).idle_of_last last, by simp⟩
  case next =>
    intro episode player later after log call stage shown silent before answer last quiet
    obtain ⟨idle, still⟩ :=
      silent last fun next member => quiet next (List.mem_append_left _ member)
    obtain ⟨rfl, rfl⟩ := (before.responds answer).silent idle
      (quiet ⟨call, player, stage, later, shown⟩ (by simp))
    refine ⟨idle, ?_⟩
    intro next member
    rcases List.mem_append.1 member with earlier | now
    · exact still next earlier
    · rw [List.mem_singleton.1 now]
      exact ⟨rfl, rfl⟩

/-- The token of a timer is good for one playback. Whatever the clock is, and however it delivers, the
generation counts the playbacks that begin and those that end, and the tokens that were issued in a
playback are stale once it has ended. A stale token changes nothing, so a player that has reported its
stop is silent until its next start. -/
theorem Career.tokens_expire (career : Career id act player log) :
    (∀ episode ∈ log,
      episode.later.generation =
        episode.player.generation + episode.begins.toNat + episode.ends ∧
      episode.later.playing.toNat + episode.ends =
        episode.player.playing.toNat + episode.begins.toNat) ∧
    (∀ earlier episode after, log = earlier ++ episode :: after → ∀ token ∈ episode.issued,
      token.player = id ∧
      ((∀ next ∈ after, next.ends = 0) → player.playing = true ∧ token = player.token) ∧
      ((∃ next ∈ after, 0 < next.ends) → token.generation < player.generation)) ∧
    (∀ (stage : Stage σ ω) (token : Token),
      token.player ≠ id ∨ token.generation ≠ player.generation ∨ player.playing = false →
        player.onTimer stage token = some (player, stage)) ∧
    ∀ earlier episode after owner name reason, log = earlier ++ episode :: after →
      episode.events.getLast? = some (.stopped owner name reason) →
      (∀ next ∈ after, next.call ≠ .start) →
        player.playing = false ∧ ∀ next ∈ after, next.later = next.player ∧ next.shown = next.stage := by
  refine ⟨career.counts, ?_, ?_, ?_⟩
  · intro earlier episode after split token issued
    obtain ⟨owner, guards⟩ := career.guards split issued
    exact ⟨owner, guards.good, guards.stale⟩
  · intro stage token stale
    rw [← career.named.1] at stale
    exact Player.onTimer_ignored stage stale
  · intro earlier episode after owner name reason split last quiet
    exact career.silent split last quiet

end Career

/-- A clock that never cancels. -/
structure Heedless where
  now : Nat
  nextHandle : Nat

instance : Scheduler Heedless where
  now := Heedless.now
  schedule clock _ _ := some (clock.nextHandle, { clock with nextHandle := clock.nextHandle + 1 })
  cancel clock _ := clock

/-- A start, a stop and a start again: the timer of the first playback is still armed, and has no
effect on the second. -/
theorem Career.tokens_expire_relay :
    ∃ (player : Player) (log : List (Episode Heedless Universe)) (token : Token),
      Career ⟨1⟩ .relay player log ∧ log.map Episode.call = [.start, .stop, .start] ∧
      log.head?.map Episode.issued = some [token] ∧ player.playing = true ∧
      token.generation < player.generation ∧
      ∀ stage : Stage Heedless Universe, player.onTimer stage token = some (player, stage) := by
  let stage : Stage Heedless Universe := .ofParts ⟨0, 0⟩ (.empty 1) .empty .standard
  obtain ⟨first, second, third, started, stopped, again, issued, ended, playing⟩ :
      ∃ first second third : Player × Stage Heedless Universe,
        (Player.load ⟨1⟩ .relay ⟨3, none, 8⟩ (.splitmix 0)).answer stage .start = some first ∧
        first.1.answer first.2 .stop = some second ∧ second.1.answer second.2 .start = some third ∧
        (Episode.mk .start (Player.load ⟨1⟩ .relay ⟨3, none, 8⟩ (.splitmix 0)) stage
          first.1 first.2).issued = [⟨⟨1⟩, 1⟩] ∧
        (second.2.since first.2).countP Event.endsPlayback = 1 ∧ third.1.playing = true :=
    ⟨_, _, _, rfl, rfl, rfl, by decide, by decide, by decide⟩
  have career := (((Career.load ⟨3, none, 8⟩ (.splitmix 0)).call .start stage started).call .stop first.2
    stopped).call .start second.2 again
  have ends : 0 < (Episode.mk .stop first.1 first.2 second.1 second.2).ends := by
    rw [Episode.ends, Episode.events, ended]
    exact Nat.one_pos
  obtain ⟨-, expire, harmless, -⟩ := career.tokens_expire
  obtain ⟨-, -, stale⟩ := expire [] _ _ rfl ⟨⟨1⟩, 1⟩ (issued ▸ List.mem_singleton_self _)
  have earlier := stale ⟨_, List.mem_cons_self, ends⟩
  refine ⟨third.1, _, ⟨⟨1⟩, 1⟩, career, rfl, congrArg some issued, playing, earlier, ?_⟩
  intro stage
  exact harmless stage _ (.inr (.inl (Nat.ne_of_lt earlier)))

end LightingDesk
