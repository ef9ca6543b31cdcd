import LightingDesk.Proofs.Playback.Utterance
import LightingDesk.Proofs.Playback.Walk

/-!
Where a playback can come to. It follows connections and trackers from the start node, so it never enters
a node that a review reports as unreachable: `Act.review_unreachable`.
-/

namespace LightingDesk

variable {act : Act} {id : PlayerId}

/-- Passages lead to all nodes that are being played, and to the one that is due. -/
def Cursor.Confined (act : Act) (cursor : Cursor) : Prop :=
  ∀ id ∈ cursor.step.entering ++ cursor.frames, act.CanReach id

/-- Connections are followed from the graph node, children are started from a tracker: wherever a
playback comes, a passage has led there. -/
theorem Cursor.Arises.canReach {cursor : Cursor}
    (distinct : (act.connections.map Connection.id).Nodup) (arises : cursor.Arises act) :
    cursor.Confined act := by
  induction arises with
  | @start id found => simpa [Confined, Step.entering] using ⟨id, found, .refl⟩
  | @next before after outcome earlier next ih =>
    cases next with
    | plain | condition | tracker => exact ih
    | @child _ frames _ _ _ _ tracker due present =>
      have top : _ ∈ frames := List.mem_of_head? earlier.fits.allowed.1
      have passage := Act.tracks_of_tracker? tracker present (List.mem_of_getElem? due)
      exact List.forall_mem_cons.2 ⟨(ih _ top).passage (.inr passage), ih⟩
    | childless | missing | busy | strayStep => exact ih
    | moveOn | finished | strayChild => exact (List.forall_mem_cons.1 ih).2
    | follow chosen found =>
      have reached := ih _ List.mem_cons_self
      simpa [Confined, Step.entering] using
        reached.passage (.inl (earlier.joins distinct chosen found))

theorem Act.Admits.canReach {event : Event} {node : NodeId}
    (distinct : (act.connections.map Connection.id).Nodup) (admits : act.Admits id event)
    (enters : event.entered? = some node) : act.CanReach node := by
  cases admits with
  | dismissed | refused => cases enters
  | uttered arises utters =>
    cases utters with
    | entered =>
      obtain rfl := Option.some.inj enters
      exact arises.canReach distinct _ List.mem_cons_self
    | _ => cases enters

/-- A review reports a node as unreachable if and only if no connections and trackers lead to it from the
start node. Where connections have ids of their own, no player of the act ever enters such a node, on any
clock, in any order of calls, and over all requests of a host. -/
theorem Act.review_unreachable (act : Act) :
    (∀ node, .unreachable node ∈ act.review ↔ act.hasNode node = true ∧ ¬act.CanReach node) ∧
    ((act.connections.map Connection.id).Nodup → ∀ node, .unreachable node ∈ act.review →
      (∀ {σ ω : Type} [Scheduler σ] [Output ω] {id : PlayerId} {player : Player}
        {log : List (Episode σ ω)}, Career id act player log →
          ∀ episode ∈ log, ∀ event ∈ episode.events, event.entered? ≠ some node) ∧
      ∀ {ω : Type} [Output ω] {session : Session ω} {past : List (Session ω × Request ω)},
        Session.Course session past → ∀ id, (id, act) ∈ Session.loaded past →
          ∀ event ∈ session.eventsOf id, event.entered? ≠ some node) := by
  refine ⟨fun node => unreachable_mem_review, ?_⟩
  intro distinct node reported
  have beyond := (unreachable_mem_review.1 reported).2
  refine ⟨?_, ?_⟩
  · intro σ ω _ _ id player log career episode member event told enters
    exact beyond ((career.admits episode member event told).canReach distinct enters)
  · intro ω _ session past course id listed event told enters
    exact beyond ((course.admits listed event told).canReach distinct enters)

/-- Two nodes, one after the other, and one that nothing leads to. -/
def Act.annex : Act :=
  { Act.relay with nodes := Act.relay.nodes ++ [⟨⟨"annex"⟩, "annex", .wait ⟨5⟩, .origin⟩] }

theorem Act.review_unreachable_annex :
    .unreachable ⟨"annex"⟩ ∈ Act.annex.review ∧ ¬Act.annex.CanReach ⟨"annex"⟩ ∧
      ∃ session : Session Universe, ∃ past, Session.Course session past ∧
        .nodeEntered ⟨1⟩ ⟨"act"⟩ ⟨"second"⟩ ∈ session.eventsOf ⟨1⟩ ∧
        ∀ event ∈ session.eventsOf ⟨1⟩, event.entered? ≠ some ⟨"annex"⟩ := by
  have reported : .unreachable ⟨"annex"⟩ ∈ Act.annex.review := by
    have found : Act.annex.review = [.unreachable ⟨"annex"⟩] := by cbv
    exact found ▸ List.mem_singleton_self _
  obtain ⟨session, played, entered⟩ : ∃ session : Session Universe,
      (Session.bare 3).perform (.play .annex) = some session ∧
      .nodeEntered ⟨1⟩ ⟨"act"⟩ ⟨"second"⟩ ∈ session.eventsOf ⟨1⟩ := ⟨_, rfl, by decide⟩
  have course := (Session.Course.bare 3).perform _ played
  obtain ⟨exactly, sound⟩ := Act.annex.review_unreachable
  exact ⟨reported, ((exactly _).1 reported).2, session, _, course, entered,
    (sound (by decide) _ reported).2 course ⟨1⟩ List.mem_cons_self⟩

end LightingDesk
