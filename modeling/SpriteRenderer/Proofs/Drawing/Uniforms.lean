import SpriteRenderer.Proofs.Drawing.OwnState
import SpriteRenderer.Proofs.Procedure.Uniforms
import SpriteRenderer.Proofs.VertexArray.Isolation

/-! # Values on their way to a draw

No value that an operation accepts is lost: each is uploaded by every later draw, under the name
of its channel. -/

namespace SpriteRenderer

/-! ## The uploads of an operation -/

namespace Operation

/-- The values of an operation with the ids of their channels, in the order of the channels. -/
def uploads (op : Operation String) : List (Nat × ChannelValue) :=
  op.procedure.uniforms.filterMap fun u => (op.values.get? u.channel).map (u.channel, ·)

variable {op : Operation String}

theorem uniformCommands_of_located (located : op.procedure.Located) :
    op.uniformCommands = op.uploads.map fun x => .uniform s!"c{x.1}" x.2 := by
  rw [uniformCommands, uploads, List.map_filterMap]
  refine List.filterMap_congr fun u hu => ?_
  rw [located.uniforms u hu]
  cases op.values.get? u.channel <;> rfl

/-- The channels of uploads are those channels of the procedure that have values. -/
theorem pairwise_uploads (located : op.procedure.Located) :
    (op.uploads.map (·.1)).Pairwise (· < ·) := by
  have channels : op.uploads.map (·.1) =
      (op.procedure.uniforms.map (·.channel)).filter fun id => (op.values.get? id).isSome := by
    rw [uploads, List.map_filterMap, List.filter_map, ← List.filterMap_eq_map,
      List.filterMap_filter]
    refine List.filterMap_congr fun u hu => ?_
    cases value : op.values.get? u.channel <;> simp [value]
  rw [channels]
  exact located.ascending.filter _

theorem mem_uploads_iff
    (known : op.values.All fun id _ => id ∈ op.procedure.uniforms.map (·.channel)) {id : Nat}
    {v : ChannelValue} : (id, v) ∈ op.uploads ↔ op.values.get? id = some v := by
  rw [uploads, List.mem_filterMap]
  constructor
  · rintro ⟨u, -, uploaded⟩
    obtain ⟨w, value, same⟩ := Option.map_eq_some_iff.mp uploaded
    cases same
    exact value
  · intro value
    obtain ⟨u, hu, rfl⟩ := List.mem_map.mp (known id v value)
    exact ⟨u, hu, by rw [value, Option.map_some]⟩

theorem screenSizeCommands_of_located (located : op.procedure.Located) (size : Size) :
    op.screenSizeCommands size = [] ∨
      ∃ v, op.screenSizeCommands size = [.uniform Procedure.screenSizeName v] := by
  unfold screenSizeCommands
  cases found : op.procedure.screenSize with
  | none => exact .inl rfl
  | some location =>
      rw [located.screenSize location found]
      exact .inr ⟨_, rfl⟩

end Operation

/-! ## Draws -/

/-- The commands of a draw: a program is put to use, then values are uploaded, each under the name
of its channel and in this order, then at most the size of the target, and then sprites are drawn.
What comes before and behind uploads and draws nothing. -/
def DrawsWith (program : Handle) (values : List (Nat × ChannelValue))
    (commands : List (Command String)) : Prop :=
  ∃ before vertexArray size count offset instances behind,
    commands = before ++ [.useProgram program, .bindVertexArray vertexArray] ++
      values.map (fun x => .uniform s!"c{x.1}" x.2) ++ size ++
      .drawElementsInstanced Gl.triangles count Gl.unsignedInt offset instances :: behind ∧
    (size = [] ∨ ∃ v, size = [.uniform Procedure.screenSizeName v]) ∧
    ∀ c ∈ before ++ behind, c.facility ≠ .uniforms ∧ c.facility ≠ .painting

theorem Operation.drawsWith_drawCommands {op : Operation String} (located : op.procedure.Located)
    (t : RenderTarget) (size : Size) (first count : UInt32) :
    DrawsWith op.procedure.program op.uploads (op.drawCommands t size first count) := by
  refine ⟨[t.bindCommand, .viewport ⟨0, 0, size.width.toInt32, size.height.toInt32⟩],
    op.vertexArray, op.screenSizeCommands size, count.toInt32, (first * 4).toInt32,
    op.amount.toInt32, [.bindVertexArray none], ?_, screenSizeCommands_of_located located size, ?_⟩
  · rw [drawCommands, uniformCommands_of_located located]
    simp
  · simp [RenderTarget.bindCommand]

namespace Headless

variable {device : Headless} {config : RendererConfig} {window : Size} {s₀ : Scene Headless String}

theorem uploads_after (created : Scene.create device config window = .ok s₀)
    (alone : Template.AloneOnLine .uniforms config.vertexTemplate.toList) (ds : List Directive) :
    (after s₀ ds).Uploads s₀.context.templates := by
  have parsed := (ShaderTemplates.parse_eq_ok (Scene.parse_of_create created)).1
  exact history_induction_of_host (I := fun _ s => s.Uploads s₀.context.templates)
    (.of_create created) (fun _ _ _ _ t h => h.transition parsed alone t)
    (fun _ _ _ _ _ h => ⟨h.context, h.builders, ⟨h.procedures.named, h.procedures.used⟩, h.values⟩)
    ds

/-- If the template has the uniforms alone on a line, every operation channel of every procedure
has a location, and every draw uploads, in the order of their channels, exactly the values that
its operation took last. -/
theorem uniforms_reach_draws (created : Scene.create device config window = .ok s₀)
    (alone : Template.AloneOnLine .uniforms config.vertexTemplate.toList) (ds : List Directive) :
    ((after s₀ ds).EveryProcedure fun p =>
      ∀ u ∈ p.uniforms, u.location = some s!"c{u.channel}") ∧
    ∀ name target op t, (after s₀ ds).operations.get? name = some op →
      (after s₀ ds).targets.get? target = some t →
      (lastRange? name (history s₀ ds) = none ∨ lastAmount name (history s₀ ds) = 0 →
        Idles (after s₀ ds) (.draw name target)) ∧
      ∀ range, lastRange? name (history s₀ ds) = some range →
        lastAmount name (history s₀ ds) ≠ 0 →
        ∃ values commands, (values.map Prod.fst).Pairwise (· < ·) ∧
          (∀ id v, (id, v) ∈ values ↔ lastValue? name id (history s₀ ds) = some v) ∧
          DrawsWith op.procedure.program values commands ∧
          (after s₀ (ds ++ [.step (.draw name target)])).host.device.calls =
            (after s₀ ds).host.device.calls ++ commands.map .performed := by
  have uploads := uploads_after created alone ds
  refine ⟨⟨uploads.procedures.named.mono fun _ _ _ p => p.uniforms,
    uploads.procedures.used.mono fun _ _ _ p => p.uniforms⟩, ?_⟩
  intro name target op t found aimed
  have follows := follows_after created ds name op found
  have located := uploads.procedures.used name op found
  rw [← follows.sprite, ← follows.amount]
  refine ⟨drawIdle found aimed, ?_⟩
  rintro ⟨first, count⟩ selected nonzero
  refine ⟨op.uploads, _, op.pairwise_uploads located, fun id v => ?_,
    op.drawsWith_drawCommands located t (t.size (after s₀ ds).host.window) first count, ?_⟩
  · rw [← follows.values id]
    exact op.mem_uploads_iff (uploads.values name op found)
  · rw [after_append]
    exact calls_after_draw aimed found selected nonzero

theorem uniforms_reach_draws_drawnInTurn :
    ∃ op values commands, (after linedScene drawnInTurn).operations.get? "o" = some op ∧
      op.procedure.uniforms.map (·.channel) = [2] ∧
      (∀ u ∈ op.procedure.uniforms, u.location = some s!"c{u.channel}") ∧
      lastValue? "o" 2 (history linedScene drawnInTurn) = some (.uints (.one 7)) ∧
      (values.map Prod.fst).Pairwise (· < ·) ∧
      (∀ id v, (id, v) ∈ values ↔
        lastValue? "o" id (history linedScene drawnInTurn) = some v) ∧
      DrawsWith op.procedure.program values commands ∧
      (after linedScene (drawnInTurn ++ [.step (.draw "o" "t")])).host.device.calls =
        (after linedScene drawnInTurn).host.device.calls ++ commands.map .performed := by
  have created : Scene.create ({} : Headless) linedConfig ⟨4, 4⟩ = .ok linedScene :=
    Scene.create_of_parse parse_linedConfig _ _
  have alone : Template.AloneOnLine .uniforms linedConfig.vertexTemplate.toList :=
    ⟨[], [], by simp, by simp, by decide +kernel⟩
  have found := (Option.some_get isSome_drawnInTurn).symm
  have channels : (Option.get _ isSome_drawnInTurn).procedure.uniforms.map (·.channel) = [2] := by
    decide +kernel
  have value : lastValue? "o" 2 (history linedScene drawnInTurn) = some (.uints (.one 7)) := by
    decide +kernel
  have range : lastRange? "o" (history linedScene drawnInTurn) = some (0, 3) := by decide +kernel
  have amount : lastAmount "o" (history linedScene drawnInTurn) ≠ 0 := by decide +kernel
  have aimed : (after linedScene drawnInTurn).targets.get? "t" = some .primary := by
    decide +kernel
  obtain ⟨located, draws⟩ := uniforms_reach_draws created alone drawnInTurn
  obtain ⟨values, commands, ascending, last, drawn, calls⟩ :=
    (draws "o" "t" _ _ found aimed).2 (0, 3) range amount
  exact ⟨_, values, commands, found, channels, located.used _ _ found, value, ascending, last,
    drawn, calls⟩

end Headless

end SpriteRenderer
