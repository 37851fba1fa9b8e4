import SpriteRenderer.Device
import SpriteRenderer.Gl
import SpriteRenderer.Procedure.Composition
import SpriteRenderer.Table

/-! # Procedures

A procedure is a linked program together with what its channels are bound to. -/

namespace SpriteRenderer

/-- Where an attribute channel is bound. -/
structure AttributeSlot where
  location : UInt32
  type : ShaderType
deriving DecidableEq, Repr

/-- An operation channel of a program. It has no location if the program does not use it. -/
structure UniformSlot (ℓ : Type) where
  channel : Nat
  type : ShaderType
  location : Option ℓ
deriving DecidableEq, Repr

structure Procedure (ℓ : Type) where
  session : Nat
  program : Handle
  /-- The location of the size of the target. -/
  screenSize : Option ℓ
  attributes : List AttributeBinding
  /-- In the order in which the channels were made. -/
  uniforms : List (UniformSlot ℓ)
  vertexSource : String
deriving DecidableEq, Repr

namespace Procedure

variable {ℓ : Type}

/-- The uniform that holds the size of the target in pixels. -/
def screenSizeName : String := "screenSize"

def owns (p : Procedure ℓ) (c : Channel) : Bool := c.session = p.session

/-- Where an attribute channel of the procedure is bound. -/
def attribute? (p : Procedure ℓ) (c : Channel) : Option AttributeSlot :=
  if p.owns c then
    (p.attributes.find? (·.channel.id = c.id)).map fun a => ⟨a.location, a.channel.type⟩
  else none

/-- The type of an operation channel of the procedure. -/
def uniformType? (p : Procedure ℓ) (c : Channel) : Option ShaderType :=
  if p.owns c then (p.uniforms.find? (·.channel = c.id)).map (·.type) else none

/-! ## Linking -/

variable {δ : Type} [Device δ ℓ]

def stageNumber : ShaderStage → UInt32
  | .vertex => Gl.vertexShader
  | .fragment => Gl.fragmentShader

/-- Compiles one stage. A shader that does not compile is deleted again. -/
def compile (stage : ShaderStage) (source : String) : Action δ Handle := do
  let shader ← Action.create (.shader (stageNumber stage))
  Action.perform [.shaderSource shader source, .compileShader shader]
  let compiled ← Action.query fun d => (Device.isCompiled d shader, d)
  if compiled then
    return shader
  else
    let log ← Action.query fun d => (Device.compileLog d shader, d)
    Action.write (.failure s!"{stage.name} shader failed to compile: {log}\n{source}")
    Action.perform [.delete .shader shader]
    Attempt.fail (.shaderCompileError stage log source)

/-- Locates the uniforms of a linked program in order. -/
def locateAll (program : Handle) : List Channel → Action δ (List (UniformSlot ℓ))
  | [] => return []
  | c :: cs => do
    let location ← Action.query fun d => Device.locate d program c.name
    return ⟨c.id, c.type, location⟩ :: (← locateAll program cs)

/-- Compiles and links a composed shader. Of a failure nothing is left on the device. -/
def link (shader : ComposedShader) : Action δ (Procedure ℓ) := do
  let vertex ← compile .vertex shader.vertexSource
  let fragment ← (compile .fragment shader.fragmentSource).orElsePerform [.delete .shader vertex]
  let program ← (Action.create .program).orElsePerform
    [.delete .shader vertex, .delete .shader fragment]
  Action.perform [.attachShader program vertex, .attachShader program fragment,
    .linkProgram program]
  let linked ← Action.query fun d => (Device.isLinked d program, d)
  Action.perform [.detachShader program vertex, .delete .shader vertex,
    .detachShader program fragment, .delete .shader fragment]
  if linked then
    let screenSize ← Action.query fun d => Device.locate d program screenSizeName
    let uniforms ← locateAll program shader.uniforms
    return {
      session := shader.session
      program, screenSize, uniforms
      attributes := shader.attributes
      vertexSource := shader.vertexSource }
  else
    let log ← Action.query fun d => (Device.linkLog d program, d)
    Action.write (.failure s!"procedure failed to link: {log}")
    Action.perform [.delete .program program]
    Attempt.fail (.shaderLinkError log)

/-- Composes what a builder has recorded and links it. -/
def ofBuilder (b : ProcedureBuilder) : Action δ (Procedure ℓ) := do
  let shader ← Attempt.ofExcept b.compose
  link shader

/-- Deletes the program. Operations that still use it must not draw any more. -/
def free (p : Procedure ℓ) : Action δ Unit := Action.perform [.delete .program p.program]

end Procedure

end SpriteRenderer
