import SpriteRenderer.Device
import SpriteRenderer.Gl

/-! # Data buffers

A data buffer holds one element per instance. The layout lists the fields of an element;
a field begins where the fields before it end. -/

namespace SpriteRenderer

/-- How often the contents of a buffer change. -/
inductive BufferUsage where
  /-- Written once. -/
  | static
  | dynamic
deriving DecidableEq, Repr

namespace BufferUsage

def number : BufferUsage → UInt32
  | static => Gl.staticDraw
  | dynamic => Gl.dynamicDraw

end BufferUsage

structure DataBuffer where
  handle : Handle
  usage : BufferUsage
  layout : List InputType := []
  /-- The length of the contents in bytes. -/
  byteLength : Nat := 0
  written : Bool := false
deriving DecidableEq, Repr

namespace DataBuffer

/-- Bytes of one element, 0 without a layout. The sum is not bounded by a word. -/
def stride (b : DataBuffer) : Nat := InputType.totalSize b.layout

/-- Where the field `slot` begins in an element. -/
def fieldStart (b : DataBuffer) (slot : Nat) : Nat := InputType.totalSize (b.layout.take slot)

/-- A field of the layout and where it begins. -/
def field (b : DataBuffer) (slot : Nat) : Except RenderError (InputType × Nat) :=
  match b.layout[slot]? with
  | some type => .ok (type, b.fieldStart slot)
  | none =>
    if b.layout.isEmpty then .error .missingLayout
    else .error (.layoutSlotOutOfRange slot b.layout.length)

/-- How many whole elements are stored, 0 without a layout. -/
def elementCount (b : DataBuffer) : Nat := b.byteLength / b.stride

theorem elementCount_of_stride_eq_zero {b : DataBuffer} (h : b.stride = 0) :
    b.elementCount = 0 := by
  simp [elementCount, h]

def setLayout (b : DataBuffer) (layout : List InputType) : DataBuffer := { b with layout }

variable {δ ℓ : Type} [Device δ ℓ]

def create (usage : BufferUsage) : Action δ DataBuffer := do
  let handle ← Action.create .buffer
  return { handle, usage }

/-- Replaces the contents. A static buffer takes contents once. -/
def setData (b : DataBuffer) (bytes : List UInt8) : Action δ DataBuffer := do
  if b.usage = .static ∧ b.written then
    Attempt.fail (.invalidOperation .staticDataWritten)
  else
    Action.perform [.bindBuffer Gl.arrayBuffer b.handle,
      .bufferData Gl.arrayBuffer bytes b.usage.number, .bindBuffer Gl.arrayBuffer none]
    return { b with byteLength := bytes.length, written := true }

def free (b : DataBuffer) : Action δ Unit := Action.perform [.delete .buffer b.handle]

end DataBuffer

end SpriteRenderer
