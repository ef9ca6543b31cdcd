import LightingDesk.Proofs.Act.Review
import LightingDesk.Proofs.Playback.Playback
import LightingDesk.Proofs.Playback.Visit

/-!
The cursors that a playback of an act may come to, whatever the outcomes of its conditions are. Their
frames fit the act (`Arises.fits`), and a graph node that is done is left along a connection of its own
(`Arises.joins`).
-/

namespace LightingDesk

namespace Cursor

/-- The cursor is one that a playback of the act may come to. -/
inductive Arises (act : Act) : Cursor → Prop where
  | start {id} (found : act.startId? = some id) (generator : Generator) :
      Arises act ⟨[], .empty, generator, .enter id⟩
  | next {before after outcome} (earlier : Arises act before) (next : Next act outcome before after) :
      Arises act after

/-- A graph node that is done has the route that its visit calls for. -/
def Routed (act : Act) (cursor : Cursor) : Prop :=
  ∀ done route, cursor.frames = [done] → cursor.step = .complete route →
    ∃ outcome, route = act.routeOf ⟨done, outcome⟩

namespace Arises

variable {act : Act} {cursor : Cursor}

theorem fits (arises : Arises act cursor) : cursor.Fits act := by
  induction arises with
  | start found => exact .start found _ _
  | next _ next ih => exact ih.next next

theorem routed (arises : Arises act cursor) : cursor.Routed act := by
  have first {id : NodeId} {payload : TrackerPayload} (tracker : act.tracker? id = some payload)
      {done : NodeId} {route : Route} (named : id = done) (plain : Route.first = route) :
      ∃ outcome, route = act.routeOf ⟨done, outcome⟩ := by
    subst named plain
    exact ⟨false, (act.routeOf_of_tracker? tracker).symm⟩
  cases arises with
  | start => exact fun _ _ frames _ => absurd frames.symm (List.cons_ne_nil _ _)
  | next earlier next =>
    have fits := earlier.fits
    intro done route frames complete
    cases next with
    | plain _ notCondition =>
      obtain rfl : _ = done := (List.cons.inj frames).1
      obtain rfl := Step.complete.inj complete
      exact ⟨false, by simp [Act.routeOf, notCondition]⟩
    | @condition _ _ _ outcome condition =>
      obtain rfl : _ = done := (List.cons.inj frames).1
      obtain rfl := Step.complete.inj complete
      exact ⟨_, by simp [Act.routeOf, condition]; rfl⟩
    | tracker | child | moveOn => cases complete
    | childless tracker | missing tracker | busy tracker =>
      have top : List.head? _ = some _ := fits.allowed.1
      rw [show _ = [done] from frames] at top
      exact first tracker (Option.some.inj top).symm (Step.complete.inj complete)
    | finished tracker =>
      exact first tracker (List.cons.inj frames).1 (Step.complete.inj complete)
    | follow => cases frames
    | strayChild stray => exact absurd stray fits.not_strayChild
    | strayStep stray => exact absurd stray fits.tracker?_ne_none

/-- Where connections have ids of their own, the one that is followed leaves the node that is done. -/
theorem joins {done : NodeId} {memory : TrackerMemory} {generator : Generator} {route : Route}
    {edge : Connection} {target : ActNode} (distinct : (act.connections.map Connection.id).Nodup)
    (arises : Arises act ⟨[done], memory, generator, .complete route⟩)
    (chosen : route.connection? act done = some edge) (found : act.target? edge = some target) :
    act.Joins done target.id := by
  obtain ⟨outcome, rfl⟩ := arises.routed done route rfl rfl
  have leaves : edge ∈ act.outgoing done := by
    rcases act.routeOf_cases distinct ⟨done, outcome⟩ with
      ⟨none, -, first⟩ | ⟨-, -, noMatch⟩ | ⟨other, member, -, leads⟩
    · simp [first, Route.connection?, act.firstOutgoing?_eq_head?, none] at chosen
    · simp [noMatch, Route.connection?] at chosen
    · exact Option.some.inj (leads.symm.trans chosen) ▸ member
  obtain ⟨member, source⟩ := List.mem_filter.1 leaves
  have node : act.node? edge.target = some target := found
  exact ⟨arises.fits.present done List.mem_cons_self, Act.hasNode_target found, edge, member,
    by simpa using source, (Act.id_of_node? node).symm⟩

end Arises

end Cursor

variable {σ ω : Type} [Scheduler σ] [Output ω]

theorem Playback.arises {act : Act} {token : Token} {past : List (Moment σ ω)} {cursor : Cursor}
    (playback : Playback act token past (some cursor)) :
    cursor.Arises act := by
  generalize standing : some cursor = due at playback
  induction playback generalizing cursor with
  | start found generator =>
    cases standing
    exact .start found generator
  | take before plays named playing free answered ih =>
    have live : Moment.Live _ := ⟨playing, free, answered, plays ▸ (ih rfl).fits⟩
    exact .next (ih rfl) (plays ▸ live.next_of_due? standing.symm)

end LightingDesk
