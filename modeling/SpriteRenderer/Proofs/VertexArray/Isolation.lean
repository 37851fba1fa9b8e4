import SpriteRenderer.Proofs.Script.Footprint
import SpriteRenderer.Proofs.VertexArray.Changes
import SpriteRenderer.Proofs.VertexArray.Wiring

/-! # Isolation of vertex arrays

Whatever else a session does, the vertex array of an operation holds what this operation was
given last. So an operation draws from its own buffers, whatever other operations were given. -/

namespace SpriteRenderer

namespace Headless

open Script (Transition)
open Host (ChangesOnly)

/-- Between the directives of a session, nothing is bound, operations share no vertex array,
and each vertex array holds what its operation was given. -/
structure Isolated (ms : List Moment) (s : Scene Headless String) : Prop where
  idle : s.host.vertexState.Idle
  created : s.operations.All fun _ op => op.vertexArray ≤ s.host.device.lastHandle
  apart : s.operations.Apart (·.vertexArray)
  wired : s.operations.All fun name op => op.procedure.Placed →
    op.Wired (lastSprites? name ms) (lastFeed? name · ms)
      (s.host.vertexState.arrays (some op.vertexArray))

namespace Isolated

variable {ms : List Moment} {s s' : Scene Headless String} {m : Moment}

/-- What does not concern operations keeps them isolated. -/
theorem frame (h : Isolated ms s) (host : ChangesOnly none s.host s'.host)
    (operations : s'.operations = s.operations)
    (silent : ∀ name, m.Silent name := by exact fun _ => ⟨rfl, fun _ => rfl⟩) :
    Isolated (ms ++ [m]) s' where
  idle := host.idle
  created := by
    rw [operations]
    exact h.created.mono fun _ _ _ le => Nat.le_trans le host.lastHandle_le
  apart := by
    rw [operations]
    exact h.apart
  wired := by
    rw [operations]
    refine h.wired.mono fun name op found wired placed => ?_
    rw [host.arrays _ (h.created name op found) (Option.some_ne_none _),
      lastSprites?_append_of_none (silent name).sprites]
    simpa only [lastFeed?_append_of_none ((silent name).feed _)] using wired placed

/-- An operation that shares its vertex array with no other one may be stored, if no other
vertex array was changed. -/
theorem insert (h : Isolated ms s) {k : String} {op : Operation String}
    (host : ChangesOnly (some op.vertexArray) s.host s'.host)
    (created : op.vertexArray ≤ s'.host.device.lastHandle)
    (apart : ∀ name other, s.operations.get? name = some other →
      other.vertexArray = op.vertexArray → name = k)
    (operations : s'.operations = s.operations.insert k op)
    (silent : ∀ name, name ≠ k → m.Silent name)
    (wired : op.procedure.Placed →
      op.Wired (lastSprites? k (ms ++ [m])) (lastFeed? k · (ms ++ [m]))
        (s'.host.vertexState.arrays (some op.vertexArray))) :
    Isolated (ms ++ [m]) s' where
  idle := host.idle
  created := by
    rw [operations]
    exact .insert (h.created.mono fun _ _ _ le => Nat.le_trans le host.lastHandle_le) created
  apart := by
    rw [operations]
    exact h.apart.insert apart
  wired := by
    intro name other found placed
    rw [operations, Table.get?_insert] at found
    by_cases same : name = k
    · rw [if_pos same, Option.some.injEq] at found
      subst found same
      exact wired placed
    · rw [if_neg same] at found
      have elsewhere : some other.vertexArray ≠ some op.vertexArray := by
        intro shared
        exact same (apart name other found (Option.some.inj shared))
      rw [host.arrays _ (h.created name other found) elsewhere,
        lastSprites?_append_of_none (silent name same).sprites]
      simpa only [lastFeed?_append_of_none ((silent name same).feed _)] using
        h.wired name other found placed

/-- A call on one operation changes its vertex array only. -/
theorem update (h : Isolated ms s) {k : String} {op op' : Operation String}
    (found : s.operations.get? k = some op) (continues : op.Continues op')
    (host : ChangesOnly (some op.vertexArray) s.host s'.host)
    (operations : s'.operations = s.operations.insert k op')
    (silent : ∀ name, name ≠ k → m.Silent name)
    (wired : op.procedure.Placed →
      op'.Wired (lastSprites? k (ms ++ [m])) (lastFeed? k · (ms ++ [m]))
        (s'.host.vertexState.arrays (some op.vertexArray))) :
    Isolated (ms ++ [m]) s' := by
  obtain ⟨vertexArray, procedure⟩ := continues
  rw [← vertexArray] at host wired
  rw [← procedure] at wired
  refine h.insert host ?_ (fun name other hother shared => ?_) operations silent wired
  · rw [vertexArray]
    exact Nat.le_trans (h.created k op found) host.lastHandle_le
  · rw [vertexArray] at shared
    exact h.apart hother found shared

/-- What runs on the host and keeps every vertex array keeps operations isolated. -/
theorem run (h : Isolated ms s) {α : Type} {x : Action Headless α} {r : Except RenderError α}
    {host : Host Headless} (preserves : Attempt.Preserves (ChangesOnly none s.host) x)
    (ran : x.run s.host = (r, host)) (same : s'.host = host)
    (operations : s'.operations = s.operations)
    (silent : ∀ name, m.Silent name := by exact fun _ => ⟨rfl, fun _ => rfl⟩) :
    Isolated (ms ++ [m]) s' := by
  have kept := preserves s.host (.refl h.idle)
  rw [ran, ← same] at kept
  exact h.frame kept operations silent

/-- A new vertex array is none of those that the operations have. -/
theorem newOperation (h : Isolated ms s) {procedure as : String} {p : Procedure String}
    {r : Except RenderError (Operation String)} {host : Host Headless}
    (ran : (Operation.create p).run s.host = (r, host)) :
    Isolated
      (ms ++ [⟨s, .step (.newOperation procedure as), Script.told (fun _ => .program p.program) r⟩])
      { s with host, operations := s.operations.insertOk as r } := by
  have kept : ChangesOnly none s.host
      { s.host with device := (s.host.device.create .vertexArray).2 } :=
    ChangesOnly.create (.refl h.idle) .vertexArray
  rcases s.host.device.create_cases .vertexArray with
    ⟨e, refused, -, -⟩ | ⟨made, calls, lastHandle⟩
  · have failed : (Operation.create p : Action Headless (Operation String)).run s.host =
        (.error e, { s.host with device := (s.host.device.create .vertexArray).2 }) :=
      Attempt.run_bind_of_error _ (Prod.ext refused rfl)
    rw [failed] at ran
    cases ran
    exact h.frame kept rfl fun _ => Moment.silent_of_error
  · have succeeded : (Operation.create p : Action Headless (Operation String)).run s.host =
        (.ok { vertexArray := s.host.device.lastHandle + 1, procedure := p },
          { s.host with device := (s.host.device.create .vertexArray).2 }) :=
      Attempt.run_bind_of_ok _ (Prod.ext made rfl)
    rw [succeeded] at ran
    cases ran
    have recorded : Host.vertexState
        { s.host with device := (s.host.device.create .vertexArray).2 } =
          s.host.vertexState.modify (some (s.host.device.lastHandle + 1)) fun _ => {} := by
      simp [Host.vertexState, VertexState.replay, VertexState.apply, calls]
    refine h.insert (kept.weaken _) (Nat.le_of_eq lastHandle.symm)
      (fun name other found shared => ?_) rfl (fun name other => ?_) fun _ => ?_
    · have old : other.vertexArray ≤ s.host.device.lastHandle := h.created name other found
      rw [shared] at old
      exact absurd old (Nat.not_succ_le_self _)
    · exact ⟨if_neg (Ne.symm other), fun _ => if_neg (Ne.symm other)⟩
    · rw [Script.told_ok, lastSprites?_newOperation, recorded, VertexState.modify_arrays_self]
      simp only [lastFeed?_newOperation]
      exact .new _ p

/-- Setting an attribute changes what the vertex array of the operation reads there. -/
theorem setAttribute (h : Isolated ms s) {operation channel data : String} {offset slot : Nat}
    {c : Channel} {b : DataBuffer} {op : Operation String}
    {r : Except RenderError (Operation String)} {host : Host Headless}
    (passed : s.channels.get? channel = some c) (fed : s.dataBuffers.get? data = some b)
    (found : s.operations.get? operation = some op)
    (ran : (op.setAttribute c b offset slot).run s.host = (r, host)) :
    Isolated
      (ms ++ [⟨s, .step (.setAttribute operation channel data offset slot),
        Script.told (fun op => .binding (op.binding? c)) r⟩])
      { s with host, operations := s.operations.insertOk operation r } := by
  rw [Operation.run_setAttribute] at ran
  cases source : op.attributeSource c b offset slot with
  | error e =>
      rw [source] at ran
      cases ran
      exact h.frame (.refl h.idle) rfl fun _ => Moment.silent_of_error
  | ok a =>
      rw [source] at ran
      cases ran
      have performed : s.host.vertexState.performAll
          (a.commands op.vertexArray : List (Command String)) =
            s.host.vertexState.modify (some op.vertexArray) (·.feed a) :=
        VertexState.performAll_attributeCommands h.idle op.vertexArray a
      have continues : op.Continues { op with bindings := op.bindings.insert c.id a.binding } :=
        ⟨rfl, rfl⟩
      refine h.update found continues
        ((ChangesOnly.refl h.idle).performAll_of_modify performed (.inr rfl)) rfl
        (fun name other => ⟨rfl, fun id => ?_⟩) fun placed => ?_
      · rw [Script.told_ok, Moment.feed?_setAttribute passed fed]
        exact if_neg fun same => other same.1.symm
      · have wired := h.wired operation op found placed
        rw [Script.told_ok, lastSprites?_append_of_none rfl, lastFeed?_setAttribute passed fed,
          Host.vertexState_performAll, performed, VertexState.modify_arrays_self]
        have sound := Operation.sound_of_attributeSource source
        exact wired.setAttribute (f := ⟨c, b, offset, slot⟩) placed sound

/-- Selecting a sprite changes which buffers the vertex array of the operation draws. -/
theorem setSprite (h : Isolated ms s) {operation buffer : String} {id : Nat}
    {b : SpriteBuffer} {op : Operation String}
    {r : Except RenderError (Operation String)} {host : Host Headless}
    (packed : s.spriteBuffers.get? buffer = some b)
    (found : s.operations.get? operation = some op)
    (ran : (op.setSprite b id).run s.host = (r, host)) :
    Isolated
      (ms ++ [⟨s, .step (.setSprite operation buffer id),
        Script.told (fun op => .range op.sprite) r⟩])
      { s with host, operations := s.operations.insertOk operation r } := by
  rw [Operation.run_setSprite] at ran
  cases selected : b.indexRange? id with
  | none =>
      rw [selected] at ran
      cases ran
      exact h.frame (.refl h.idle) rfl fun _ => Moment.silent_of_error
  | some range =>
      rw [selected] at ran
      cases ran
      have performed : s.host.vertexState.performAll
          (Operation.spriteCommands op.vertexArray b : List (Command String)) =
            s.host.vertexState.modify (some op.vertexArray) (·.select b) :=
        VertexState.performAll_spriteCommands h.idle op.vertexArray b
      have continues : op.Continues { op with sprite := some range } := ⟨rfl, rfl⟩
      refine h.update found continues
        ((ChangesOnly.refl h.idle).performAll_of_modify performed (.inr rfl)) rfl
        (fun name other => ⟨if_neg (Ne.symm other), fun _ => rfl⟩) fun placed => ?_
      have wired := h.wired operation op found placed
      rw [Script.told_ok, lastSprites?_setSprite packed, Host.vertexState_performAll, performed,
        VertexState.modify_arrays_self]
      simp only [lastFeed?_setSprite]
      exact wired.select placed range b

/-- Values and amounts are no part of vertex arrays. -/
theorem setUniforms (h : Isolated ms s) {k : String} {op : Operation String}
    (found : s.operations.get? k = some op) (values : Table Nat ChannelValue) (amount : UInt32)
    (silent : ∀ name, m.Silent name := by exact fun _ => ⟨rfl, fun _ => rfl⟩) :
    Isolated (ms ++ [m])
      { s with operations := s.operations.insert k { op with values, amount } } := by
  have continues : op.Continues { op with values, amount } := ⟨rfl, rfl⟩
  refine h.update found continues (.refl h.idle) rfl (fun name _ => silent name) fun placed => ?_
  obtain ⟨selected, sprites, position, color, fed, unfed⟩ := h.wired k op found placed
  rw [lastSprites?_append_of_none (silent k).sprites]
  simp only [lastFeed?_append_of_none ((silent k).feed _)]
  exact ⟨selected, sprites, position, color, fed, unfed⟩

/-- The vertex array that is deleted is no other operation's. -/
theorem freeOperation (h : Isolated ms s) {operation : String} {op : Operation String}
    (found : s.operations.get? operation = some op)
    (silent : ∀ name, m.Silent name := by exact fun _ => ⟨rfl, fun _ => rfl⟩) :
    Isolated (ms ++ [m]) { s with
      host := ((op.free : Action Headless Unit).run s.host).2
      operations := s.operations.erase operation } := by
  have performed : s.host.vertexState.performAll
      ([.delete .vertexArray op.vertexArray] : List (Command String)) =
        s.host.vertexState.modify (some op.vertexArray) fun _ => {} :=
    VertexState.performAll_deleteVertexArray h.idle op.vertexArray
  have host : ChangesOnly (some op.vertexArray) s.host
      ((op.free : Action Headless Unit).run s.host).2 :=
    (ChangesOnly.refl h.idle).performAll_of_modify performed (.inr rfl)
  refine ⟨host.idle, ?_, h.apart.erase operation, fun name other hother placed => ?_⟩
  · exact (h.created.erase operation).mono fun _ _ _ le => Nat.le_trans le host.lastHandle_le
  · rw [Table.get?_erase] at hother
    by_cases same : name = operation
    · simp [same] at hother
    · rw [if_neg same] at hother
      have elsewhere : some other.vertexArray ≠ some op.vertexArray := by
        intro shared
        exact same (h.apart hother found (Option.some.inj shared))
      rw [host.arrays _ (h.created name other hother) elsewhere,
        lastSprites?_append_of_none (silent name).sprites]
      simpa only [lastFeed?_append_of_none ((silent name).feed _)] using
        h.wired name other hother placed

/-! ### Every directive of the library -/

theorem transition (h : Isolated ms s) {step : Step}
    {out : Except StepError Answer × Scene Headless String} (t : Transition s step out) :
    Isolated (ms ++ [⟨s, .step step, out.1⟩]) out.2 := by
  have still : ChangesOnly none s.host s.host := .refl h.idle
  have elsewhere (unrelated : step.facilities ⊆ VertexState.unrelated) :
      ChangesOnly none s.host out.2.host :=
    t.preserves (ChangesOnly.survives.mono unrelated) (fun _ _ kept => kept.of_calls rfl rfl) still
  cases t with
  | refused e => exact h.frame still rfl fun _ => Moment.silent_of_error
  | asked query r => exact h.frame still rfl fun _ => Moment.silent_of_isQuery query
  | newOperation found ran => exact h.newOperation ran
  | setAttribute passed fed found ran => exact h.setAttribute passed fed found ran
  | setSprite packed found ran => exact h.setSprite packed found ran
  | setValue _ found stored =>
      rw [Operation.eq_of_setValue stored]
      exact h.setUniforms found _ _
  | setAmount found => exact h.setUniforms found _ _
  | freeOperation found => exact h.freeOperation found
  | newData ran =>
      exact h.run (DataBuffer.create_preserves _) ran rfl rfl
  | setData _ ran =>
      exact h.run (DataBuffer.setData_preserves _ _) ran rfl rfl
  | freeData _ =>
      exact h.run (DataBuffer.free_preserves _) rfl rfl rfl
  | newBuffer _ ran =>
      exact h.run (SpriteBuffer.create_preserves _ _) ran rfl rfl
  | repack _ _ ran =>
      exact h.run (SpriteBuffer.repack_preserves _ _) ran rfl rfl
  | freeBuffer _ =>
      exact h.run (SpriteBuffer.free_preserves _) rfl rfl rfl
  | draw _ _ ran =>
      exact h.run (Operation.drawTo_preserves _ _) ran rfl rfl
  | _ => exact h.frame (elsewhere (by simp [Step.facilities, VertexState.unrelated])) rfl

end Isolated

/-! ## Whole sessions -/

section

variable {config : RendererConfig} {window : Size} {s₀ : Scene Headless String}

theorem isolated_of_create (created : Scene.create ({} : Headless) config window = .ok s₀) :
    Isolated [] s₀ := by
  obtain ⟨templates, rfl⟩ := Scene.eq_of_create created
  have idle : (Host.vertexState { device := {}, window }).Idle := ⟨rfl, rfl⟩
  have setup : ChangesOnly none _ (Host.performAll { device := {}, window }
      (Context.setupCommands config)) :=
    (ChangesOnly.survives.mono (by decide)).performAll (Context.facility_setupCommands config) _
      (.refl idle)
  exact ⟨setup.idle, .empty, .empty, .empty⟩

theorem isolated_after (created : Scene.create ({} : Headless) config window = .ok s₀)
    (ds : List Directive) (library : ∀ d ∈ ds, d.isDirect = false) :
    Isolated (history s₀ ds) (after s₀ ds) :=
  history_induction (isolated_of_create created) (fun _ _ _ _ t h => h.transition t)
    (fun _ _ _ _ _ _ noStep h => h.frame ((ChangesOnly.refl h.idle).of_calls rfl rfl) rfl
      fun _ => Moment.silent_of_not_step noStep) ds library

theorem numbered_after (created : Scene.create ({} : Headless) config window = .ok s₀)
    (ds : List Directive) (library : ∀ d ∈ ds, d.isDirect = false) :
    (after s₀ ds).Numbered config.layoutStart :=
  history_induction (I := fun _ s => s.Numbered config.layoutStart) (.of_create created)
    (fun _ _ _ _ t h => h.transition t)
    (fun _ _ _ _ _ _ _ h => ⟨h.context, h.builders, h.procedures, h.operations⟩) ds library

end

/-! ## Draws -/

/-- At a draw the vertex array of the operation is bound. It reads the sprite buffer that the
operation was given, and for every bound channel the data that the channel was fed with. -/
structure DrawsOwn (op : Operation String) (sprites : Option SpriteBuffer)
    (feed : Nat → Option Feed) (g : VertexState) : Prop where
  bound : g.current = some op.vertexArray
  sprites : ∃ b, sprites = some b ∧ (g.arrays op.vertexArray).ReadsSprites b
  channels : ∀ c b, op.binding? c = some b → ∃ f slot field, feed c.id = some f ∧
    op.procedure.attribute? c = some slot ∧ f.data.layout[f.slot]? = some field ∧
    b = ⟨f.data.handle, f.offset, f.slot,
      f.offset * f.data.stride + f.data.fieldStart f.slot⟩ ∧
    ((g.arrays op.vertexArray).attributes slot.location).ReadsField slot field f.data.stride b
  /-- All other locations are as in a new vertex array: disabled. -/
  others : ∀ i, i ≠ 0 → i ≠ 1 →
    (∀ c slot, op.procedure.attribute? c = some slot → (op.binding? c).isSome →
      slot.location ≠ i) → (g.arrays op.vertexArray).attributes i = {}

theorem drawsOwn_of_wired {op : Operation String} {sprites : Option SpriteBuffer}
    {feed : Nat → Option Feed} {g : VertexState}
    (wired : op.Wired sprites feed (g.arrays op.vertexArray)) (selected : op.sprite.isSome)
    (bound : g.current = some op.vertexArray) : DrawsOwn op sprites feed g := by
  refine ⟨bound, ?_, fun c b hb => ?_, fun i hposition hcolor hi => ?_⟩
  · obtain ⟨b, hb⟩ := Option.isSome_iff_exists.mp (wired.selected selected)
    exact ⟨b, hb, wired.sprites b hb⟩
  · unfold Operation.binding? at hb
    split at hb
    case isFalse => cases hb
    case isTrue owned =>
        obtain ⟨f, s, hf, same, sound, hs, reads⟩ := wired.fed c.id b hb
        have slot : op.procedure.attribute? c = some s.slot := by
          rw [← sound.target]
          exact Procedure.attribute?_congr owned sound.owned same.symm
        refine ⟨f, s.slot, s.input, hf, slot, sound.input, hs ▸ sound.binding, ?_⟩
        rw [reads, ← hs]
        exact sound.reads
  · refine wired.unfed i hposition hcolor fun c slot hc hslot => ?_
    have owned := Procedure.owns_of_attribute? hc
    cases unbound : op.bindings.get? c.id with
    | none => rfl
    | some b =>
        have bound : (op.binding? c).isSome := by simp [Operation.binding?, owned, unbound]
        exact absurd hslot (hi c slot hc bound)

/-- The only draw among the commands of a draw comes right after the preparation. -/
theorem eq_preparation_of_split {op : Operation String} {target : RenderTarget} {size : Size}
    {first count : UInt32} {pre post : List DeviceCall} {mode type : UInt32}
    {n offset instances : Int32}
    (split : (op.drawCommands target size first count).map .performed =
      pre ++ .performed (.drawElementsInstanced mode n type offset instances) :: post) :
    pre = (op.preparation target size).map .performed := by
  rw [op.drawCommands_eq, List.map_append] at split
  rcases List.append_eq_append_iff.mp split with ⟨between, rfl, rest⟩ | ⟨between, early, rest⟩
  · match between, rest with
    | [], _ => simp
    | [_], rest => simp at rest
    | _ :: _ :: _, rest => simp at rest
  · match between, rest with
    | [], _ => simpa using early.symm
    | call :: _, rest =>
        obtain ⟨rfl, -⟩ := List.cons.inj rest
        have drawn : DeviceCall.performed (.drawElementsInstanced mode n type offset instances) ∈
            (op.preparation target size).map .performed := by
          rw [early]
          simp
        obtain ⟨c, hc, same⟩ := List.mem_map.mp drawn
        cases same
        exact absurd rfl (op.facility_preparation target size _ hc)

/-- A draw that calls the device at all has a sprite to draw. -/
theorem calls_of_draw {s : Scene Headless String} {name target : String}
    {out : Except StepError Answer × Scene Headless String}
    (t : Transition s (.draw name target) out) {op : Operation String}
    (found : s.operations.get? name = some op) :
    out.2.host.device.calls = s.host.device.calls ∨
    ∃ (t : RenderTarget) (size : Size) (first count : UInt32), op.sprite = some (first, count) ∧
      out.2.host.device.calls =
        s.host.device.calls ++ (op.drawCommands t size first count).map .performed := by
  cases t with
  | refused e => exact .inl rfl
  | asked query r => cases query
  | draw aimed found' ran =>
      rw [found] at found'
      cases found'
      rcases op.run_drawTo _ s.host with
        ⟨-, record, warned⟩ | ⟨first, count, selected, -, performed⟩
      · rw [warned] at ran
        cases ran
        exact .inl rfl
      · rw [performed] at ran
        cases ran
        exact .inr ⟨_, _, first, count, selected, Host.calls_performAll _ _⟩

/-- A draw with a sprite and an instance calls the device. -/
theorem calls_after_draw {s : Scene Headless String} {name target : String} {t : RenderTarget}
    {op : Operation String} {first count : UInt32} (aimed : s.targets.get? target = some t)
    (found : s.operations.get? name = some op) (selected : op.sprite = some (first, count))
    (instances : op.amount ≠ 0) :
    (after s [.step (.draw name target)]).host.device.calls = s.host.device.calls ++
      (op.drawCommands t (t.size s.host.window) first count).map .performed := by
  rw [host_after_draw aimed found]
  rcases op.run_drawTo t s.host with ⟨none | zero, -⟩ | ⟨first', count', selected', -, performed⟩
  · rw [selected] at none
    cases none
  · exact absurd zero instances
  · rw [selected] at selected'
    cases selected'
    rw [performed]
    exact Host.calls_performAll _ _

/-- Whatever happened in a session, an operation draws from the buffers it was given. -/
theorem draws_own_buffers {config : RendererConfig} {window : Size} {s₀ : Scene Headless String}
    (created : Scene.create ({} : Headless) config window = .ok s₀) (low : 2 ≤ config.layoutStart)
    (ds : List Directive) (library : ∀ d ∈ ds, d.isDirect = false) (name target : String)
    {op : Operation String} (found : (after s₀ ds).operations.get? name = some op)
    (fits : op.procedure.Fits config.layoutStart) {pre post : List DeviceCall}
    {mode type : UInt32} {n offset instances : Int32}
    (drawn : (after s₀ (ds ++ [.step (.draw name target)])).host.device.calls =
      (after s₀ ds).host.device.calls ++
        (pre ++ .performed (.drawElementsInstanced mode n type offset instances) :: post)) :
    DrawsOwn op (lastSprites? name (history s₀ ds)) (lastFeed? name · (history s₀ ds))
      (.replay ((after s₀ ds).host.device.calls ++ pre)) := by
  have isolated := isolated_after created ds library
  have placed := ((numbered_after created ds library).operations name op found).placed fits low
  have wired := isolated.wired name op found placed
  rw [after_append] at drawn
  rcases calls_of_draw (Script.transition_perform (.draw name target) (after s₀ ds)) found with
    quiet | ⟨t, size, first, count, selected, performed⟩
  · have none := drawn.symm.trans quiet
    simp at none
  · have split := List.append_cancel_left (performed.symm.trans drawn)
    rw [eq_preparation_of_split split, VertexState.replay_append_performed,
      VertexState.performAll_preparation]
    exact drawsOwn_of_wired wired (by simp [selected]) rfl

/-- Two operations of one procedure are given buffers in turn, and some calls fail. -/
def interleaved : List Directive :=
  ([.newBuilder "b", .addAttribute "b" ⟨.float, 2⟩ "p", .addAttribute "b" ⟨.uint, 1⟩ "l",
    .setOutput "b" .position "p", .setOutput "b" .layer "l", .link "b" "both",
    .newSprites "s", .addSprite "s" (.mesh ⟨[⟨.zero, .zero, .black, 0⟩], [0]⟩),
    .newBuffer "s" .dynamic "s1", .newBuffer "s" .static "s2",
    .newData .dynamic "d1", .setLayout "d1" [⟨.float32, 2⟩, ⟨.uint32, 1⟩],
    .newData .static "d2", .setLayout "d2" [⟨.uint8, 4⟩],
    .newOperation "both" "o", .newOperation "both" "q",
    .setSprite "o" "s1" 0, .setAttribute "o" "p" "d1" 2 0, .setAttribute "q" "p" "d2" 0 0,
    .setAttribute "o" "l" "d1" 1 1, .setAttribute "o" "l" "d1" 0 0, .setSprite "q" "s2" 0,
    .setSprite "o" "s1" 7, .repack "s" "s1", .setData "d1" [0, 0, 0, 0], .freeOperation "q",
    .setAmount "o" 1, .primaryTarget "t"] : List Step).map .step

/-- The scene that they are made on. -/
def bareScene : Scene Headless String := .start {} ⟨4, 4⟩ .bare .bare

theorem isSome_interleaved : ((after bareScene interleaved).operations.get? "o").isSome := by
  decide +kernel

theorem draws_own_buffers_interleaved :
    ∃ op pre post,
      (after bareScene interleaved).operations.get? "o" = some op ∧ op.procedure.Fits 2 ∧
      (after bareScene (interleaved ++ [.step (.draw "o" "t")])).host.device.calls =
        (after bareScene interleaved).host.device.calls ++ (pre ++
          .performed (.drawElementsInstanced Gl.triangles 1 Gl.unsignedInt 0 1) :: post) ∧
      DrawsOwn op (lastSprites? "o" (history bareScene interleaved))
        (lastFeed? "o" · (history bareScene interleaved))
        (.replay ((after bareScene interleaved).host.device.calls ++ pre)) := by
  have created : Scene.create ({} : Headless) .bare ⟨4, 4⟩ = .ok bareScene :=
    Scene.create_of_parse ShaderTemplates.parse_bare _ _
  have found := (Option.some_get isSome_interleaved).symm
  have fits : (Option.get _ isSome_interleaved).procedure.Fits 2 := by
    unfold Procedure.Fits
    decide +kernel
  have aimed : (after bareScene interleaved).targets.get? "t" = some .primary := by
    decide +kernel
  have selected : (Option.get _ isSome_interleaved).sprite = some (0, 1) := by decide +kernel
  have amount : (Option.get _ isSome_interleaved).amount = 1 := by decide +kernel
  have drawn := calls_after_draw aimed found selected (by rw [amount]; decide)
  rw [← after_append, Operation.drawCommands_eq, amount, List.map_append] at drawn
  exact ⟨_, _, _, found, fits, drawn,
    draws_own_buffers created (by decide) interleaved (by decide) "o" "t" found fits drawn⟩

end Headless

end SpriteRenderer
