import SpriteRenderer.Procedure.Builder

/-! # Composing shaders

The text that fills each slot of the vertex template, and the composition of both stages. -/

namespace SpriteRenderer

/-- An attribute channel and its location. -/
structure AttributeBinding where
  channel : Channel
  location : UInt32
deriving DecidableEq, Repr

/-- Shader sources, ready to be compiled. -/
structure ComposedShader where
  vertexSource : String
  fragmentSource : String
  attributes : List AttributeBinding
  uniforms : List Channel
  session : Nat
deriving DecidableEq, Repr

namespace AttributeBinding

def declaration (a : AttributeBinding) : String :=
  s!"layout(location = {a.location.toNat}) in {a.channel.type.glslName} {a.channel.name};"

end AttributeBinding

namespace Channel

def uniformDeclaration (c : Channel) : String := s!"uniform {c.type.glslName} {c.name};"

def variableDeclaration (c : Channel) (expression : Option String) : String :=
  match expression with
  | some e => s!"{c.type.glslName} {c.name} = {e};"
  | none => s!"{c.type.glslName} {c.name};"

end Channel

namespace Call

def statement (c : Call) : String :=
  c.function.name ++ "(" ++ ", ".intercalate (c.arguments.map Channel.name) ++ ");"

end Call

namespace ProcedureBuilder

/-- Attributes are numbered in the order in which they were made. -/
def attributeBindings (b : ProcedureBuilder) : List AttributeBinding :=
  b.attributes.zipIdx.map fun (c, i) => ⟨c, b.layoutStart + .ofNat i⟩

/-- Lines at the outermost level. -/
def lines (texts : List String) : String := "\n".intercalate texts

/-- Lines inside the body of the main function. -/
def bodyLines (texts : List String) : String := "\n    ".intercalate texts

/-- The name of the channel bound to an output, or its default. -/
def outputExpression (b : ProcedureBuilder) (o : Output) : String :=
  match b.outputs.get? o with
  | some c => c.name
  | none => o.defaultExpression?.getD ""

/-- What fills a slot of the vertex template. -/
def slotText (b : ProcedureBuilder) : Slot → String
  | .version => b.glslVersion
  | .attributes => lines (b.attributeBindings.map (·.declaration))
  | .uniforms => lines (b.uniforms.map (·.uniformDeclaration))
  | .functions => .join (b.functions.map (·.source ++ "\n"))
  | .locals => bodyLines (b.locals.map fun (c, e) => c.variableDeclaration e)
  | .calls => bodyLines (b.calls.map (·.statement))
  | .position => b.outputExpression .position
  | .layer => b.outputExpression .layer
  | .color => b.outputExpression .color
  | .xAxis => b.outputExpression .xAxis
  | .yAxis => b.outputExpression .yAxis

/-- The first output that must be bound and is not. -/
def missingOutput? (b : ProcedureBuilder) : Option Output :=
  [Output.position, Output.layer].find? fun o => (b.outputs.get? o).isNone

/-- Composes both stages. The fragment template has the version alone. -/
def compose (b : ProcedureBuilder) : Except RenderError ComposedShader :=
  match b.missingOutput? with
  | some o => .error (.incompleteProcedure o)
  | none => .ok {
      vertexSource := b.templates.vertex.render b.slotText
      fragmentSource := b.templates.fragment.render fun _ => b.glslVersion
      attributes := b.attributeBindings
      uniforms := b.uniforms
      session := b.session }

end ProcedureBuilder

end SpriteRenderer
