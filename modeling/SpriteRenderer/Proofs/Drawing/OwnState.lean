import SpriteRenderer.Proofs.Drawing.Pipeline
import SpriteRenderer.Proofs.Objects.Lifetime
import SpriteRenderer.Proofs.Operation.Settings

/-! # Acting with one's own state

Every draw, clear, blit and readback finds bound and set what its own operation and target need,
whatever the calls before it have left bound and set. -/

namespace SpriteRenderer

/-! ## Objects that can be bound -/

namespace Host

/-- What the recorded calls have bound and set. -/
def pipeline (h : Host Headless) : Pipeline := .replay h.device.calls

/-- These objects can be bound. -/
def Includes (alive : Multiset Object) (h : Host Headless) : Prop := alive ≤ h.pipeline.objects

theorem pipeline_performAll (h : Host Headless) (cs : List (Command String)) :
    (h.performAll cs).pipeline = h.pipeline.performAll cs := by
  rw [pipeline, calls_performAll, Pipeline.replay_append_performed, pipeline]

theorem Includes.of_calls {alive : Multiset Object} {h h' : Host Headless} (ha : h.Includes alive)
    (calls : h'.device.calls = h.device.calls) : h'.Includes alive := by
  rw [Includes, pipeline, calls]
  exact ha

theorem Includes.ledger : Ledger Includes where
  created {alive h o new} ha made := by
    rcases h.device.create_cases o with ⟨e, refused, -⟩ | ⟨next, calls, -⟩
    · rw [made] at refused
      cases refused
    · rw [made, Except.ok.injEq] at next
      rw [Includes, pipeline, calls, ← next, Pipeline.replay, List.foldl_append]
      exact Multiset.cons_le_cons _ ha
  refused {alive h o e} ha failed := by
    rcases h.device.create_cases o with ⟨-, -, calls, -⟩ | ⟨next, -⟩
    · exact ha.of_calls calls
    · rw [failed] at next
      cases next
  performAll {alive h cs} ha := by
    rw [Includes, pipeline_performAll, Pipeline.objects_performAll]
    exact le_tsub_of_add_le_left ha
  readPixels {alive h} area ha := by
    change alive ≤ (Pipeline.replay (h.device.calls ++ [.pixelsRead area])).objects
    rw [Pipeline.replay, List.foldl_append]
    exact ha
  of_eq ha calls _ _ := ha.of_calls calls

/-- Deleting another object leaves these. -/
theorem Includes.spares : Headless.Accounts.Spares Includes := by
  intro alive h o ha other
  rw [Includes, pipeline_performAll, Pipeline.objects_performAll]
  have less := Multiset.erase_le_erase o ha
  rw [Multiset.erase_of_notMem other, ← Multiset.sub_singleton] at less
  exact less

end Host

namespace Headless

namespace Accounts

variable {ms : List Moment} {s : Scene Headless String} {alive : Multiset Object} {name : String}

variable {op : Operation String}

end Accounts

end Headless

/-! ## Acting calls -/

namespace DeviceCall

end DeviceCall

/-- A size that fits the numbers of the device. -/
structure Size.Small (size : Size) : Prop where
  width : size.width.toNat < 2 ^ 31
  height : size.height.toNat < 2 ^ 31

/-- The numbers are those of a size. -/
structure Size.Is (size : Size) (width height : Int32) : Prop where
  width : width.toInt = size.width.toNat
  height : height.toInt = size.height.toNat

theorem Size.Small.is {size : Size} (small : size.Small) :
    size.Is size.width.toInt32 size.height.toInt32 :=
  ⟨toInt_toInt32 small.width, toInt_toInt32 small.height⟩

namespace RenderTarget

end RenderTarget

namespace Headless

/-- A step makes no device call. -/
def Idles (s : Scene Headless String) (step : Step) : Prop :=
  (after s [.step step]).host.device.calls = s.host.device.calls

section

variable {s : Scene Headless String} {name target destination : String} {op : Operation String}
  {t d : RenderTarget}

theorem drawIdle (found : s.operations.get? name = some op)
    (aimed : s.targets.get? target = some t) (nothing : op.sprite = none ∨ op.amount = 0) :
    Idles s (.draw name target) := by
  rw [Idles, host_after_draw aimed found]
  rcases op.run_drawTo t s.host with ⟨-, record, warned⟩ | ⟨first, count, selected, nonzero, -⟩
  · rw [warned]
  · rcases nothing with none | zero
    · rw [selected] at none
      cases none
    · exact absurd zero nonzero

end

/-! ## Sessions -/

variable {config : RendererConfig} {window : Size} {s₀ : Scene Headless String}

/-- A template with its uniforms on lines of their own. -/
def linedConfig : RendererConfig where
  vertexTemplate := "<version>\nuniform ivec2 screenSize;\n<uniforms>\n<attributes><functions>" ++
    "<variables><calls><pos><layer><color><xAxis><yAxis>"
  fragmentTemplate := "<version>"

def linedTemplates : ShaderTemplates where
  vertex := ⟨[.slot .version, .text "\nuniform ivec2 screenSize;\n".toList, .slot .uniforms,
    .text ['\n'], .slot .attributes, .slot .functions, .slot .locals, .slot .calls,
    .slot .position, .slot .layer, .slot .color, .slot .xAxis, .slot .yAxis]⟩
  fragment := ⟨[.slot .version]⟩

theorem parse_linedConfig :
    ShaderTemplates.parse linedConfig.vertexTemplate linedConfig.fragmentTemplate =
      .ok linedTemplates := by
  decide +kernel

def linedScene : Scene Headless String := .start {} ⟨4, 4⟩ linedConfig linedTemplates

/-- Two operations of one procedure draw in turn. Values are refused, the window changes its size,
and a procedure of the same builder is freed. -/
def drawnInTurn : List Directive :=
  ([.newBuilder "b", .addAttribute "b" ⟨.float, 2⟩ "place", .addOperation "b" ⟨.uint, 1⟩ "layer",
    .setOutput "b" .position "place", .setOutput "b" .layer "layer", .link "b" "p",
    .link "b" "other", .newSprites "s",
    .addSprite "s" (.mesh ⟨[⟨.zero, .zero, .black, 0⟩], [0, 0, 0]⟩), .newBuffer "s" .static "v",
    .newOperation "p" "o", .newOperation "p" "q", .setSprite "o" "v" 0, .setSprite "q" "v" 0,
    .setSprite "o" "v" 1, .setAmount "o" 2, .setAmount "q" 1,
    .setValue "o" "layer" (.uints (.one 7)), .setValue "q" "layer" (.uints (.one 9)),
    .setValue "o" "layer" (.ints (.one 8)), .primaryTarget "t", .newTarget ⟨2, 3⟩ false "small",
    .draw "o" "t", .draw "q" "small", .clear "small" 1 2 3, .freeProcedure "other",
    .setWindow ⟨6, 5⟩] : List Step).map .step

theorem isSome_drawnInTurn : ((after linedScene drawnInTurn).operations.get? "o").isSome := by
  decide +kernel

end Headless

end SpriteRenderer
