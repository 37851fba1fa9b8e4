import SpriteRenderer.InputType
import SpriteRenderer.Procedure.Output
import SpriteRenderer.Slot

/-! # Why a call is refused

Each error is a cause. Its wording is fixed once, in `RenderError.message`. -/

namespace SpriteRenderer

/-- The field of a vertex record that a byte stream ended in. -/
inductive WireField where
  | color | x | y | control
deriving DecidableEq, Repr

namespace WireField

def name : WireField → String
  | color => "color"
  | x => "x"
  | y => "y"
  | control => "control"

end WireField

/-- Faults of sprite geometry and of its wire form. -/
inductive GeometryFault where
  | noVertex
  | firstLayer
  | tooManyRuns
  | colorWithoutLayer (vertex : Nat)
  | layerJump (vertex : Nat) (layer next : UInt8)
  | indexOutOfRange (index : UInt32) (vertexCount : Nat)
  | truncated (field : WireField) (vertex : Nat)
  | invalidControl (control : UInt8) (vertex : Nat)
deriving DecidableEq, Repr

namespace GeometryFault

def message : GeometryFault → String
  | noVertex => "a sprite needs at least one vertex"
  | firstLayer => "first vertex must be on layer 0"
  | tooManyRuns => "more than 255 color changes in one sprite"
  | colorWithoutLayer v => s!"vertex {v} changes color without starting a new layer"
  | layerJump v a b => s!"vertex {v} jumps from layer {a.toNat} to {b.toNat}"
  | indexOutOfRange i n => s!"index {i.toNat} out of range for {n} vertices"
  | truncated f v => s!"stream ended in {f.name} of vertex {v}"
  | invalidControl c v => s!"invalid control byte {c.toNat} after vertex {v}"

end GeometryFault

/-- Calls that an object never accepts, or no longer. -/
inductive Misuse where
  | staticDataWritten
  | staticSpritesRepacked
  | primaryResized
  | blitIntoMultisampled
  | readOfMultisampled
deriving DecidableEq, Repr

namespace Misuse

def message : Misuse → String
  | staticDataWritten => "static data buffer was already written"
  | staticSpritesRepacked => "static sprite buffer cannot be repacked"
  | primaryResized => "the primary render target cannot be resized"
  | blitIntoMultisampled => "cannot blit into a multisampled render target"
  | readOfMultisampled => "cannot read a multisampled render target, blit it first"

end Misuse

/-- Faults of the device itself. -/
inductive DeviceFault where
  | creationRefused
  | framebufferIncomplete (status : UInt32)
  /-- Fewer bytes than the pixels of an image need. -/
  | imageMismatch
deriving DecidableEq, Repr

namespace DeviceFault

/-- Lower-case hexadecimal digits. -/
def hexadecimal (n : Nat) : String := String.ofList (Nat.toDigits 16 n)

def message : DeviceFault → String
  | creationRefused => "headless device: object creation failed"
  | framebufferIncomplete status =>
    s!"framebuffer incomplete: status 0x{hexadecimal status.toNat}"
  | imageMismatch => "pixel buffer does not match target size"

end DeviceFault

inductive ShaderStage where
  | vertex | fragment
deriving DecidableEq, Repr

namespace ShaderStage

def name : ShaderStage → String
  | vertex => "vertex"
  | fragment => "fragment"

end ShaderStage

inductive RenderError where
  | malformedGeometry (fault : GeometryFault)
  | arityMismatch (function : String) (expected actual : Nat)
  | typeMismatch (function : String) (parameter : Nat) (expected actual : ShaderType)
  | invalidOutputType (output : Output) (actual : ShaderType)
  | incompleteProcedure (missing : Output)
  | templateError (slot : Slot) (expected count : Nat)
  | shaderCompileError (stage : ShaderStage) (log source : String)
  | shaderLinkError (log : String)
  | missingLayout
  | invalidChannelValue (expected actual : ShaderType)
  | invalidOperation (misuse : Misuse)
  | foreignChannel
  | unknownChannel (id : Nat)
  | unknownSprite (id count : Nat)
  | layoutSlotOutOfRange (slot length : Nat)
  | incompatibleInput (input : InputType) (channel : ShaderType)
  | offsetOverflow (offset stride : Nat)
  | invalidArity (arity : Nat)
  | backend (fault : DeviceFault)
  /-- A reader failed with a text of its own. -/
  | other (text : String)
deriving DecidableEq, Repr

namespace RenderError

def message : RenderError → String
  | malformedGeometry fault => s!"malformed geometry: {fault.message}"
  | arityMismatch f expected actual =>
    s!"function '{f}' expects {expected} arguments, got {actual}"
  | typeMismatch f i expected actual =>
    s!"function '{f}' parameter {i}: expected {expected.label}, got {actual.label}"
  | invalidOutputType output actual =>
    s!"{output.name} output must be {output.requiredType.label}, got {actual.label}"
  | incompleteProcedure missing => s!"procedure is missing its {missing.name} output"
  | templateError slot expected count =>
    s!"expected <{slot.name}> {expected} times, found it {count} times"
  | shaderCompileError stage log _ => s!"{stage.name} shader failed to compile: {log}"
  | shaderLinkError log => s!"program failed to link: {log}"
  | missingLayout => "data buffer has no layout"
  | invalidChannelValue expected actual =>
    s!"channel of type {expected.label} cannot take a {actual.label} value"
  | invalidOperation misuse => s!"invalid operation: {misuse.message}"
  | foreignChannel => "channel belongs to another procedure builder"
  | unknownChannel id =>
    s!"channel c{id} is not an attribute or operation channel of this procedure"
  | unknownSprite id count => s!"sprite {id} does not exist, buffer holds {count} sprites"
  | layoutSlotOutOfRange slot length =>
    s!"layout slot {slot} out of range for a layout of {length} entries"
  | incompatibleInput input channel =>
    s!"{input.label} buffer field cannot feed integer channel of type {channel.label}"
  | offsetOverflow offset stride =>
    s!"element offset {offset} with a stride of {stride} bytes is past the addressable range"
  | invalidArity arity => s!"arity must be between 1 and 4, got {arity}"
  | backend fault => s!"backend error: {fault.message}"
  | other text => text

end RenderError

/-! ## Types from numbers -/

/-- The arity of `n` components. -/
def Arity.check (n : Nat) : Except RenderError Arity :=
  match Arity.ofNat? n with
  | some a => .ok a
  | none => .error (.invalidArity n)

def ShaderType.make (kind : ShaderKind) (n : Nat) : Except RenderError ShaderType :=
  (Arity.check n).map (⟨kind, ·⟩)

def InputType.make (kind : InputKind) (n : Nat) : Except RenderError InputType :=
  (Arity.check n).map (⟨kind, ·⟩)

end SpriteRenderer
