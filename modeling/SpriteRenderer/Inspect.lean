import SpriteRenderer.Scene
import SpriteRenderer.Single.Shortest
import SpriteRenderer.Text.Quoted

/-! # Texts for inspection

What the objects of a scene look like in a debugger. -/

namespace SpriteRenderer.Inspect

/-! ## Shapes -/

def commaList (items : List String) : String := ", ".intercalate items

def braces (s : String) : String := "\x7b" ++ s ++ "\x7d"

/-- A name and its fields. -/
def record (name : String) (fields : List (String × String)) : String :=
  name ++ " " ++ braces (" " ++ commaList (fields.map fun (k, v) => s!"{k}: {v}") ++ " ")

def map (entries : List (String × String)) : String :=
  braces (commaList (entries.map fun (k, v) => s!"{k}: {v}"))

def tuple (items : List String) : String := "(" ++ commaList items ++ ")"

def array (items : List String) : String := "[" ++ commaList items ++ "]"

def option : Option String → String
  | some s => "Some(" ++ s ++ ")"
  | none => "None"

def flag : Bool → String
  | true => "true"
  | false => "false"

/-! ## Values -/

def shaderKind : ShaderKind → String
  | .int => "Int"
  | .uint => "UnsignedInt"
  | .float => "Float"

def shaderType (t : ShaderType) : String :=
  record "ShaderType" [("kind", shaderKind t.kind), ("arity", toString t.arity.toNat)]

/-- One component stands alone, several in an array. -/
def components {α : Type} (scalar vector : String) (item : α → String) (c : Components α) :
    String :=
  match c with
  | .one x => scalar ++ "(" ++ item x ++ ")"
  | c => vector ++ toString c.arity.toNat ++ "(" ++ array (c.toList.map item) ++ ")"

def channelValue : ChannelValue → String
  | .ints c => components "Int" "IVec" (fun i => toString i.toInt) c
  | .uints c => components "UInt" "UVec" (fun n => toString n.toNat) c
  | .floats c => components "Float" "Vec" Single.text c

def size (s : Size) : String := tuple [toString s.width.toNat, toString s.height.toNat]

/-! ## Objects -/

def attributeSlot (s : AttributeSlot) : String :=
  record "AttributeSlot" [("location", toString s.location.toNat), ("shader_type", shaderType s.type)]

def procedure {ℓ : Type} (p : Procedure ℓ) : String :=
  record "Procedure" [
    ("program", toString p.program),
    ("attributes", map (p.attributes.map fun a =>
      (toString a.channel.id, attributeSlot ⟨a.location, a.channel.type⟩))),
    ("uniforms", toString p.uniforms.length)]

def instanceBinding (b : InstanceBinding) : String :=
  record "InstanceBinding" [("buffer", toString b.buffer), ("offset", toString b.offset),
    ("slot", toString b.slot), ("byte_offset", toString b.byteOffset)]

def operation {ℓ : Type} (op : Operation ℓ) : String :=
  record "Operation" [
    ("vertex_array", toString op.vertexArray),
    ("bindings", map (op.bindings.entries.map fun (id, b) => (toString id, instanceBinding b))),
    ("uniforms", map (op.values.entries.map fun (id, v) => (toString id, channelValue v))),
    ("sprite", option (op.sprite.map fun (first, count) =>
      tuple [toString first.toNat, toString count.toNat])),
    ("instances", toString op.amount.toNat)]

def target (window : Size) (t : RenderTarget) : String :=
  let size := t.size window
  record "RenderTarget" [("primary", flag t.isPrimary), ("multisampled", flag t.isMultisampled),
    ("width", toString size.width.toNat), ("height", toString size.height.toNat)]

def config (c : RendererConfig) : String :=
  record "RendererConfig" [
    ("glsl_version", Text.quoted c.glslVersion),
    ("layout_start", toString c.layoutStart.toNat),
    ("samples", toString c.samples.toInt),
    ("multisample", flag c.multisample),
    ("vertex_template", Text.quoted c.vertexTemplate),
    ("fragment_template", Text.quoted c.fragmentTemplate)]

/-- A context shows its configuration and the window's size. The device is left out. -/
def context (window : Size) (c : Context) : String :=
  "Context " ++
    braces (" " ++ commaList [s!"config: {config c.config}", s!"size: {size window}", ".."] ++ " ")

end SpriteRenderer.Inspect
