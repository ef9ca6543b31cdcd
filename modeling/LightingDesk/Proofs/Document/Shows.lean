import LightingDesk.Proofs.Document.Faithful
import LightingDesk.Proofs.Timestamp
import LightingDesk.Show.File
/-!
Shows and show files are read back from every document that shows them, and so is each of their
parts. A type says how deep its values nest, and reads its fields one by one.
-/

namespace LightingDesk

open Stored (written)

/-! ### Ids, instants and trackers -/

instance : Faithful ActId where
  levels := 0
  fits _ := trivial
  reads {_ _ value document} appears := by
    have found : Source.text? document = some value.text := appears
    simp [Stored.read?, found]

instance : Faithful NodeId where
  levels := 0
  fits _ := trivial
  reads {_ _ value document} appears := by
    have found : Source.text? document = some value.text := appears
    simp [Stored.read?, found]

instance : Solid NodeId := ⟨fun _ => trivial⟩

instance : Faithful ConnectionId where
  levels := 0
  fits _ := trivial
  reads {_ _ value document} appears := by
    have found : Source.text? document = some value.text := appears
    simp [Stored.read?, found]

instance : Faithful Timestamp where
  levels := 0
  fits _ := trivial
  reads {_ _ value document} appears := by
    have found : Source.text? document = some value.render := appears
    simp [Stored.read?, found, Timestamp.parse?_render]

instance : Faithful TrackerMode where
  levels := 0
  fits mode := by
    change Written.isName mode.label = true
    cases mode <;> decide
  reads {_ _ mode _} appears := bareOf?_of_appears (by cases mode <;> decide) appears

instance : Faithful Direction where
  levels := 0
  fits direction := by
    change Written.isName direction.label = true
    cases direction <;> decide
  reads {_ _ direction _} appears := bareOf?_of_appears (by cases direction <;> decide) appears

instance : Faithful TrackerStart where
  levels := 1
  fits start := by
    refine ⟨?_, by decide, Faithful.fits start.index, Faithful.fits start.direction, trivial⟩
    simp only [List.map]
    decide
  reads {_ _ start _} appears := by
    obtain ⟨row, found, -, fields⟩ := appears ["index", "direction"] (List.Subset.refl _)
    simp [Stored.read?, found, fields.required "index" start.index rfl,
      fields.required "direction" start.direction rfl]

instance : Faithful TrackerPayload where
  levels := 2
  fits payload := by
    refine ⟨?_, by decide, Faithful.fits payload.children,
      Faithful.fits_of_le (by decide) payload.mode,
      Faithful.fits_of_le (by decide) payload.stepDelayMs, Faithful.fits payload.initial, trivial⟩
    simp only [List.map]
    decide
  reads {_ _ payload _} appears := by
    obtain ⟨row, found, -, fields⟩ :=
      appears ["children", "mode", "step_delay_ms", "initial"] (List.Subset.refl _)
    simp [Stored.read?, found, fields.required "children" payload.children rfl,
      fields.defaulted "mode" payload.mode _ rfl,
      fields.defaulted "step_delay_ms" payload.stepDelayMs _ rfl,
      fields.defaulted "initial" payload.initial _ rfl]

/-! ### Conditions -/

instance : Faithful Signal where
  levels := 1
  fits signal := by
    cases signal with
    | time => exact (by decide : Written.isName "time" = true)
    | midi channel controller =>
        exact ⟨by decide, by simp only [List.map]; decide, by decide, Faithful.fits channel,
          Faithful.fits controller, trivial⟩
    | osc address =>
        exact ⟨by decide, by simp only [List.map]; decide, by decide, Faithful.fits address,
          trivial⟩
    | dmx channel =>
        exact ⟨by decide, by simp only [List.map]; decide, by decide, Faithful.fits channel,
          trivial⟩
  reads {_ _ signal _} appears := by
    cases signal with
    | time => simp [Stored.read?, appears.1, appears.2]
    | midi channel controller =>
        obtain ⟨name, contents⟩ := appears
        obtain ⟨row, found, -, fields⟩ := contents ["channel", "controller"] (List.Subset.refl _)
        simp [Stored.read?, name, found, fields.required "channel" channel rfl,
          fields.required "controller" controller rfl]
    | osc address =>
        obtain ⟨name, contents⟩ := appears
        obtain ⟨row, found, -, fields⟩ := contents ["address"] (List.Subset.refl _)
        simp [Stored.read?, name, found, fields.required "address" address rfl]
    | dmx channel =>
        obtain ⟨name, contents⟩ := appears
        obtain ⟨row, found, -, fields⟩ := contents ["channel"] (List.Subset.refl _)
        simp [Stored.read?, name, found, fields.required "channel" channel rfl]

instance : Faithful Comparison where
  levels := 0
  fits operator := by
    change Written.isName operator.label = true
    cases operator <;> decide
  reads {_ _ operator _} appears := bareOf?_of_appears (by cases operator <;> decide) appears

instance : Faithful Predicate where
  levels := 2
  fits predicate := by
    refine ⟨?_, by decide, Written.FieldsFit.append
      ⟨Faithful.fits predicate.source, Faithful.fits_of_le (by decide) predicate.operator,
        Faithful.fits_of_le (by decide) predicate.value, trivial⟩
      (Written.fieldsFit_ifPresent (by decide) "upper" predicate.upper)⟩
    cases predicate.upper <;> simp only [Written.ifPresent, List.map, List.cons_append,
      List.nil_append] <;> decide
  reads {_ _ predicate _} appears := by
    obtain ⟨row, found, -, fields⟩ := appears ["source", "operator", "value", "upper"]
      (by cases predicate.upper <;> simp [Written.ifPresent])
    simp [Stored.read?, found, fields.required "source" predicate.source rfl,
      fields.defaulted "operator" predicate.operator _ rfl,
      fields.required "value" predicate.value rfl, fields.ifPresent "upper" predicate.upper rfl]

/-! ### Acts -/

instance : Faithful Position where
  levels := 1
  fits position := by
    refine ⟨?_, by decide, Faithful.fits position.x, Faithful.fits position.y, trivial⟩
    simp only [List.map]
    decide
  reads {_ _ position _} appears := by
    obtain ⟨row, found, -, fields⟩ := appears ["x", "y"] (List.Subset.refl _)
    simp [Stored.read?, found, fields.required "x" position.x rfl,
      fields.required "y" position.y rfl]

instance : Faithful FixtureSet where
  levels := 1
  fits set := Faithful.fits set.ids
  reads {_ _ set document} appears := by
    have found : Stored.read? document = some set.ids := Faithful.reads appears
    change (Stored.read? document).map FixtureSet.ofList = some set
    rw [found, Option.map_some, FixtureSet.ofList_ids]

instance : Faithful ScenePayload where
  levels := 2
  fits payload := by
    refine ⟨?_, by decide, Faithful.fits_of_le (by decide) payload.scene,
      Faithful.fits payload.mutedFixtures, trivial⟩
    simp only [List.map]
    decide
  reads {_ _ payload _} appears := by
    obtain ⟨row, found, -, fields⟩ := appears ["scene", "muted_fixtures"] (List.Subset.refl _)
    simp [Stored.read?, found, fields.required "scene" payload.scene rfl,
      fields.defaulted "muted_fixtures" payload.mutedFixtures _ rfl]

instance : Faithful WaitPayload where
  levels := 1
  fits payload := by
    refine ⟨?_, by decide, Faithful.fits payload.durationMs, trivial⟩
    simp only [List.map]
    decide
  reads {_ _ payload _} appears := by
    obtain ⟨row, found, -, fields⟩ := appears ["duration_ms"] (List.Subset.refl _)
    simp [Stored.read?, found, fields.defaulted "duration_ms" payload.durationMs _ rfl]

instance : Faithful Curve where
  levels := 0
  fits curve := by
    change Written.isName curve.label = true
    cases curve <;> decide
  reads {_ _ curve _} appears := bareOf?_of_appears (by cases curve <;> decide) appears

instance : Faithful TransitionShape where
  levels := 0
  fits shape := by
    change Written.isName shape.label = true
    cases shape <;> decide
  reads {_ _ shape _} appears := bareOf?_of_appears (by cases shape <;> decide) appears

instance : Faithful TransitionPayload where
  levels := 1
  fits payload := by
    refine ⟨?_, by decide, Faithful.fits payload.durationMs, Faithful.fits payload.curve,
      Faithful.fits payload.shape, trivial⟩
    simp only [List.map]
    decide
  reads {_ _ payload _} appears := by
    obtain ⟨row, found, -, fields⟩ := appears ["duration_ms", "curve", "shape"] (List.Subset.refl _)
    simp [Stored.read?, found, fields.defaulted "duration_ms" payload.durationMs _ rfl,
      fields.defaulted "curve" payload.curve _ rfl, fields.defaulted "shape" payload.shape _ rfl]

instance : Faithful ConditionPayload where
  levels := 3
  fits payload := by
    refine ⟨?_, by decide, Faithful.fits payload.predicate, trivial⟩
    simp only [List.map]
    decide
  reads {_ _ payload _} appears := by
    obtain ⟨row, found, -, fields⟩ := appears ["predicate"] (List.Subset.refl _)
    simp [Stored.read?, found, fields.required "predicate" payload.predicate rfl]

instance : Faithful NodeKind where
  levels := 4
  fits kind := by
    cases kind with
    | scene payload => exact ⟨by decide, by decide, Faithful.fits_of_le (by decide) payload⟩
    | transition payload => exact ⟨by decide, by decide, Faithful.fits_of_le (by decide) payload⟩
    | wait payload => exact ⟨by decide, by decide, Faithful.fits_of_le (by decide) payload⟩
    | condition payload => exact ⟨by decide, by decide, Faithful.fits_of_le (by decide) payload⟩
    | tracker payload => exact ⟨by decide, by decide, Faithful.fits_of_le (by decide) payload⟩
  reads {_ _ kind _} appears := by
    cases kind with
    | scene | transition | wait | condition | tracker =>
        obtain ⟨name, contents, found, inner⟩ := appears
        change (Source.variantName? _).bind _ = _
        simp only [name, found, Faithful.reads inner, Option.bind_eq_bind, Option.bind_some]

instance : Faithful ActNode where
  levels := 5
  fits node := by
    refine ⟨?_, by decide, Faithful.fits_of_le (by decide) node.id,
      Faithful.fits_of_le (by decide) node.name, Faithful.fits node.kind,
      Faithful.fits_of_le (by decide) node.position, trivial⟩
    simp only [List.map]
    decide
  reads {_ _ node _} appears := by
    obtain ⟨row, found, -, fields⟩ :=
      appears ["id", "name", "kind", "position"] (List.Subset.refl _)
    simp [Stored.read?, found, fields.required "id" node.id rfl,
      fields.required "name" node.name rfl, fields.required "kind" node.kind rfl,
      fields.defaulted "position" node.position _ rfl]

instance : Faithful ConnectionKind where
  levels := 0
  fits kind := by
    change Written.isName kind.label = true
    cases kind <;> decide
  reads {_ _ kind _} appears := bareOf?_of_appears (by cases kind <;> decide) appears

instance : Faithful Connection where
  levels := 2
  fits connection := by
    refine ⟨?_, by decide, Written.FieldsFit.append (Written.FieldsFit.append
      ⟨Faithful.fits_of_le (by decide) connection.id,
        Faithful.fits_of_le (by decide) connection.source,
        Faithful.fits_of_le (by decide) connection.target,
        Faithful.fits_of_le (by decide) connection.kind, trivial⟩
      (Written.fieldsFit_ifPresent (by decide) "guard" connection.guard))
      (Written.fieldsFit_ifPresent (by decide) "timeout_ms" connection.timeoutMs)⟩
    cases connection.guard <;> cases connection.timeoutMs <;>
      simp only [Written.ifPresent, List.map, List.cons_append, List.nil_append] <;> decide
  reads {_ _ connection _} appears := by
    obtain ⟨row, found, -, fields⟩ := appears
      ["id", "from", "to", "kind", "guard", "timeout_ms"]
      (by cases connection.guard <;> cases connection.timeoutMs <;> simp [Written.ifPresent])
    have guard := fields.ifPresent "guard" connection.guard (by
      cases connection.guard <;> cases connection.timeoutMs <;> rfl)
    have timeout := fields.ifPresent "timeout_ms" connection.timeoutMs (by
      cases connection.guard <;> cases connection.timeoutMs <;> rfl)
    simp [Stored.read?, found, fields.required "id" connection.id rfl,
      fields.required "from" connection.source rfl, fields.required "to" connection.target rfl,
      fields.defaulted "kind" connection.kind _ rfl, guard, timeout]

instance : Faithful OscTrigger where
  levels := 1
  fits trigger := by
    refine ⟨?_, by decide, Faithful.fits trigger.address, Faithful.fits trigger.enabled, trivial⟩
    simp only [List.map]
    decide
  reads {_ _ trigger _} appears := by
    obtain ⟨row, found, -, fields⟩ := appears ["address", "enabled"] (List.Subset.refl _)
    simp [Stored.read?, found, fields.required "address" trigger.address rfl,
      fields.required "enabled" trigger.enabled rfl]

instance : Solid OscTrigger := ⟨fun _ => trivial⟩

instance : Faithful MidiTrigger where
  levels := 1
  fits trigger := by
    refine ⟨?_, by decide, Faithful.fits trigger.channel, Faithful.fits trigger.note,
      Faithful.fits trigger.enabled, trivial⟩
    simp only [List.map]
    decide
  reads {_ _ trigger _} appears := by
    obtain ⟨row, found, -, fields⟩ := appears ["channel", "note", "enabled"] (List.Subset.refl _)
    simp [Stored.read?, found, fields.required "channel" trigger.channel rfl,
      fields.required "note" trigger.note rfl, fields.required "enabled" trigger.enabled rfl]

instance : Solid MidiTrigger := ⟨fun _ => trivial⟩

instance : Faithful Triggers where
  levels := 3
  fits triggers := by
    refine ⟨?_, by decide, Faithful.fits triggers.osc, Faithful.fits triggers.midi, trivial⟩
    simp only [List.map]
    decide
  reads {_ _ triggers _} appears := by
    obtain ⟨row, found, -, fields⟩ := appears ["osc", "midi"] (List.Subset.refl _)
    simp [Stored.read?, found, fields.defaulted "osc" triggers.osc _ rfl,
      fields.defaulted "midi" triggers.midi _ rfl]

instance : Faithful PlaybackState where
  levels := 2
  fits state := by
    refine ⟨?_, by decide, Faithful.fits_of_le (by decide) state.isPlaying,
      Faithful.fits state.currentNode, Faithful.fits_of_le (by decide) state.progress, trivial⟩
    simp only [List.map]
    decide
  reads {_ _ state _} appears := by
    obtain ⟨row, found, -, fields⟩ :=
      appears ["is_playing", "current_node_id", "progress"] (List.Subset.refl _)
    simp [Stored.read?, found, fields.required "is_playing" state.isPlaying rfl,
      fields.optional "current_node_id" state.currentNode rfl,
      fields.required "progress" state.progress rfl]

instance : Faithful Act where
  levels := 7
  fits act := by
    refine ⟨?_, by decide, Faithful.fits_of_le (by decide) act.id,
      Faithful.fits_of_le (by decide) act.name, Faithful.fits_of_le (by decide) act.description,
      Faithful.fits act.nodes, Faithful.fits_of_le (by decide) act.connections,
      Faithful.fits_of_le (by decide) act.startNode, Faithful.fits_of_le (by decide) act.triggers,
      Faithful.fits_of_le (by decide) act.playback, Faithful.fits_of_le (by decide) act.createdAt,
      Faithful.fits_of_le (by decide) act.updatedAt, trivial⟩
    simp only [List.map]
    decide
  reads {_ _ act _} appears := by
    obtain ⟨row, found, -, fields⟩ := appears ["id", "name", "description", "nodes", "connections",
      "start_node_id", "triggers", "playback", "created_at", "updated_at"] (List.Subset.refl _)
    simp [Stored.read?, found, fields.required "id" act.id rfl,
      fields.required "name" act.name rfl, fields.defaulted "description" act.description _ rfl,
      fields.required "nodes" act.nodes rfl, fields.required "connections" act.connections rfl,
      fields.defaulted "start_node_id" act.startNode _ rfl,
      fields.defaulted "triggers" act.triggers _ rfl,
      fields.defaulted "playback" act.playback _ rfl,
      fields.required "created_at" act.createdAt rfl,
      fields.required "updated_at" act.updatedAt rfl]

/-! ### Scenes and fixtures -/

instance : Faithful Scene where
  levels := 3
  fits scene := by
    refine ⟨?_, by decide, Faithful.fits_of_le (by decide) scene.name,
      Faithful.fits_of_le (by decide) scene.levels, trivial⟩
    simp only [List.map]
    decide
  reads {_ _ scene _} appears := by
    obtain ⟨row, found, -, fields⟩ := appears ["name", "channel_values"] (List.Subset.refl _)
    simp [Stored.read?, found, fields.required "name" scene.name rfl,
      fields.required "channel_values" scene.levels rfl]

instance : Faithful SceneLibrary where
  levels := 5
  fits library := by
    refine ⟨?_, by decide, Faithful.fits library.scenes, trivial⟩
    simp only [List.map]
    decide
  reads {_ _ library _} appears := by
    obtain ⟨row, found, -, fields⟩ := appears ["scenes"] (List.Subset.refl _)
    simp [Stored.read?, found, fields.required "scenes" library.scenes rfl]

instance : Faithful ChannelType where
  levels := 0
  fits channelType := by
    change Written.isName channelType.word = true
    cases channelType <;> decide
  reads {_ _ channelType _} appears :=
    bareOf?_of_appears (by cases channelType <;> decide) appears

instance : Faithful FixtureChannel where
  levels := 1
  fits channel := by
    refine ⟨?_, by decide, Faithful.fits channel.name, Faithful.fits channel.channelType,
      Faithful.fits channel.defaultValue, trivial⟩
    simp only [List.map]
    decide
  reads {_ _ channel _} appears := by
    obtain ⟨row, found, -, fields⟩ :=
      appears ["name", "channel_type", "default_value"] (List.Subset.refl _)
    simp [Stored.read?, found, fields.required "name" channel.name rfl,
      fields.required "channel_type" channel.channelType rfl,
      fields.defaulted "default_value" channel.defaultValue _ rfl]

instance : Faithful FixtureProfile where
  levels := 3
  fits profile := by
    refine ⟨?_, by decide, Faithful.fits_of_le (by decide) profile.name,
      Faithful.fits_of_le (by decide) profile.manufacturer, Faithful.fits profile.channels, trivial⟩
    simp only [List.map]
    decide
  reads {_ _ profile _} appears := by
    obtain ⟨row, found, -, fields⟩ :=
      appears ["name", "manufacturer", "channels"] (List.Subset.refl _)
    simp [Stored.read?, found, fields.required "name" profile.name rfl,
      fields.required "manufacturer" profile.manufacturer rfl,
      fields.required "channels" profile.channels rfl]

instance : Faithful Fixture where
  levels := 4
  fits fixture := by
    refine ⟨?_, by decide, Faithful.fits_of_le (by decide) fixture.id,
      Faithful.fits_of_le (by decide) fixture.name, Faithful.fits fixture.profile,
      Faithful.fits_of_le (by decide) fixture.universeNumber,
      Faithful.fits_of_le (by decide) fixture.startAddress, trivial⟩
    simp only [List.map]
    decide
  reads {_ _ fixture _} appears := by
    obtain ⟨row, found, -, fields⟩ :=
      appears ["id", "name", "profile", "universe", "start_address"] (List.Subset.refl _)
    simp [Stored.read?, found, fields.required "id" fixture.id rfl,
      fields.required "name" fixture.name rfl, fields.required "profile" fixture.profile rfl,
      fields.required "universe" fixture.universeNumber rfl,
      fields.required "start_address" fixture.startAddress rfl]

/-! ### Shows -/

instance : Faithful Show where
  levels := 9
  fits content := by
    refine ⟨?_, by decide, Faithful.fits_of_le (by decide) content.name,
      Faithful.fits content.acts, Faithful.fits_of_le (by decide) content.scenes,
      Faithful.fits_of_le (by decide) content.fixtures,
      Faithful.fits_of_le (by decide) content.universeNumber, trivial⟩
    simp only [List.map]
    decide
  reads {_ _ content _} appears := by
    obtain ⟨row, found, -, fields⟩ :=
      appears ["name", "acts", "scenes", "fixtures", "universe"] (List.Subset.refl _)
    simp [Stored.read?, found, fields.required "name" content.name rfl,
      fields.defaulted "acts" content.acts _ rfl, fields.defaulted "scenes" content.scenes _ rfl,
      fields.defaulted "fixtures" content.fixtures _ rfl,
      fields.defaulted "universe" content.universeNumber _ rfl]

instance : Faithful ShowDates where
  levels := 1
  fits dates := by
    refine ⟨?_, by decide, Faithful.fits dates.created, Faithful.fits dates.modified, trivial⟩
    simp only [List.map]
    decide
  reads {_ _ dates _} appears := by
    obtain ⟨row, found, -, fields⟩ := appears ["created_at", "modified_at"] (List.Subset.refl _)
    simp [Stored.read?, found, fields.required "created_at" dates.created rfl,
      fields.required "modified_at" dates.modified rfl]

instance : Faithful ShowFile where
  levels := 10
  fits file := by
    refine ⟨?_, by decide, Faithful.fits_of_le (by decide) file.version,
      Faithful.fits_of_le (by decide) file.dates, Faithful.fits file.content, trivial⟩
    simp only [List.map]
    decide
  reads {_ _ file _} appears := by
    obtain ⟨row, found, -, fields⟩ := appears ["version", "metadata", "show"] (List.Subset.refl _)
    simp [Stored.read?, found, fields.required "version" file.version rfl,
      fields.required "metadata" file.dates rfl, fields.required "show" file.content rfl]

end LightingDesk
