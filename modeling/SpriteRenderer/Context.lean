import SpriteRenderer.Config
import SpriteRenderer.Operation

/-! # Contexts

A context is a device set up for sprites, with the templates that its builders share. -/

namespace SpriteRenderer

structure Context where
  config : RendererConfig
  templates : ShaderTemplates
deriving DecidableEq, Repr

namespace Context

variable {δ ℓ : Type} [Device δ ℓ]

/-- What every device is set to. The greater depth wins, so layers stack upwards from the
cleared depth 0. -/
def setupCommands (config : RendererConfig) : List (Command ℓ) :=
  [.enable Gl.depthTest, .depthFunc Gl.greater, .clearDepth .zero, .enable Gl.blend,
    .blendFunc Gl.sourceAlpha Gl.oneMinusSourceAlpha, .disable Gl.cullFace] ++
  if config.multisample then [.enable Gl.multisample] else []

/-- Checks the templates and sets the device up. -/
def create (config : RendererConfig) : Action δ Context := do
  let templates ← Attempt.ofExcept
    (ShaderTemplates.parse config.vertexTemplate config.fragmentTemplate)
  Action.perform (setupCommands config)
  return ⟨config, templates⟩

/-- A builder of its own session. -/
def builder (c : Context) (session : Nat) : ProcedureBuilder where
  session := session
  templates := c.templates
  glslVersion := c.config.glslVersion
  layoutStart := c.config.layoutStart

/-- Creates a target with a number of samples of its own, or with the context's. -/
def createTarget (c : Context) (size : Size) (multisampled : Bool) (samples : Option Int32) :
    Action δ RenderTarget :=
  RenderTarget.create size multisampled (samples.getD c.config.samples)

end Context

end SpriteRenderer
