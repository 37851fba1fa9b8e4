import SpriteRenderer.DataBuffer
import SpriteRenderer.Procedure.Linking
import SpriteRenderer.RenderTarget
import SpriteRenderer.SpriteBuffer

/-! # Operations

An operation draws many instances of one sprite with one procedure. Its vertex array holds
what the attributes read; the values of its uniforms are uploaded at every draw, since the
program may be shared. -/

namespace SpriteRenderer

/-- What an attribute channel reads. -/
structure InstanceBinding where
  buffer : Handle
  /-- The element that the first instance reads. -/
  offset : Nat
  slot : Nat
  /-- The byte at which the field of that element begins. -/
  byteOffset : Nat
deriving DecidableEq, Repr

structure Operation (ℓ : Type) where
  vertexArray : Handle
  procedure : Procedure ℓ
  /-- By the ids of attribute channels. -/
  bindings : Table Nat InstanceBinding := .empty
  /-- By the ids of operation channels. -/
  values : Table Nat ChannelValue := .empty
  /-- The first index and the number of indices of the selected sprite. -/
  sprite : Option (UInt32 × UInt32) := none
  /-- How many instances are drawn. -/
  amount : UInt32 := 0

namespace Operation

variable {ℓ : Type}

/-! ## Attributes -/

def maxWord : Nat := 0xffffffff

/-- The largest stride and the largest offset of an attribute pointer. -/
def maxPointer : Nat := 0x7fffffff

/-- A number that is at most `limit`. -/
def within? (limit n : Nat) : Option Nat := if n ≤ limit then some n else none

/-- The byte at which instance 0 reads a field that begins at `start` in the element at
`offset`. It is computed in words; the device takes it and the stride as signed words. -/
def pointerOffset? (offset stride start : Nat) : Option Nat := do
  let element ← within? maxWord (offset * stride)
  let byteOffset ← within? maxWord (element + start)
  let _ ← within? maxPointer stride
  within? maxPointer byteOffset

/-- Where the attribute of a channel is to be read from. -/
structure AttributeSource where
  slot : AttributeSlot
  input : InputType
  stride : Nat
  binding : InstanceBinding
deriving DecidableEq, Repr

/-- What instance 0 reads if it reads a field of the element at `offset`, or why it cannot. -/
def attributeSource (op : Operation ℓ) (c : Channel) (data : DataBuffer) (offset slot : Nat) :
    Except RenderError AttributeSource := do
  if !op.procedure.owns c then throw .foreignChannel
  let target ← match op.procedure.attribute? c with
    | some a => .ok a
    | none => .error (.unknownChannel c.id)
  let (input, start) ← data.field slot
  if target.type.isInteger ∧ input.kind.isFloat then
    throw (.incompatibleInput input target.type)
  let stride := data.stride
  match pointerOffset? offset stride start with
  | some byteOffset => return ⟨target, input, stride, ⟨data.handle, offset, slot, byteOffset⟩⟩
  | none => throw (.offsetOverflow offset stride)

namespace AttributeSource

def pointer (s : AttributeSource) : AttributePointer where
  index := s.slot.location
  size := .ofNat s.input.arity.toNat
  type := s.input.kind.deviceType
  stride := .ofNat s.stride
  offset := .ofNat s.binding.byteOffset

/-- Integer channels are read through integer pointers, others are converted to floats. -/
def pointerCommand (s : AttributeSource) : Command ℓ :=
  if s.slot.type.isInteger then .vertexAttribPointerInt s.pointer
  else .vertexAttribPointerFloat s.pointer false

/-- Makes a vertex array read the source, one element per instance. -/
def commands (s : AttributeSource) (vertexArray : Handle) : List (Command ℓ) :=
  [.bindVertexArray vertexArray,
    .bindBuffer Gl.arrayBuffer s.binding.buffer,
    .enableVertexAttribArray s.slot.location,
    s.pointerCommand,
    .vertexAttribDivisor s.slot.location 1,
    .bindVertexArray none,
    .bindBuffer Gl.arrayBuffer none]

end AttributeSource

/-- The binding of an attribute channel, if the channel is the procedure's. -/
def binding? (op : Operation ℓ) (c : Channel) : Option InstanceBinding :=
  if op.procedure.owns c then op.bindings.get? c.id else none

/-! ## Values -/

/-- Stores the value of an operation channel. -/
def setValue (op : Operation ℓ) (c : Channel) (value : ChannelValue) :
    Except RenderError (Operation ℓ) := do
  if !op.procedure.owns c then throw .foreignChannel
  let expected ← match op.procedure.uniformType? c with
    | some t => .ok t
    | none => .error (.unknownChannel c.id)
  if value.shaderType ≠ expected then throw (.invalidChannelValue expected value.shaderType)
  return { op with values := op.values.insert c.id value }

/-- The value of an operation channel, if the channel is the procedure's. -/
def value? (op : Operation ℓ) (c : Channel) : Option ChannelValue :=
  if op.procedure.owns c then op.values.get? c.id else none

def setAmount (op : Operation ℓ) (amount : UInt32) : Operation ℓ := { op with amount }

/-! ## Sprites -/

/-- The locations of packed vertices. -/
def positionLocation : UInt32 := 0

def colorLocation : UInt32 := 1

/-- Makes a vertex array read the packed vertices and the indices of a sprite buffer. -/
def spriteCommands (vertexArray : Handle) (sprites : SpriteBuffer) : List (Command ℓ) :=
  [.bindVertexArray vertexArray,
    .bindBuffer Gl.arrayBuffer sprites.vertices,
    .bindBuffer Gl.elementArrayBuffer sprites.indices,
    .enableVertexAttribArray positionLocation,
    .vertexAttribPointerFloat ⟨positionLocation, 2, Gl.float, PackedVertex.size, 0⟩ false,
    .enableVertexAttribArray colorLocation,
    .vertexAttribPointerInt
      ⟨colorLocation, 4, Gl.unsignedByte, PackedVertex.size, PackedVertex.colorOffset⟩,
    .bindVertexArray none,
    .bindBuffer Gl.arrayBuffer none]

/-! ## Drawing -/

/-- The uniforms that have a location and a value, in the order of their channels. -/
def uniformCommands (op : Operation ℓ) : List (Command ℓ) :=
  op.procedure.uniforms.filterMap fun u => do
    let location ← u.location
    let value ← op.values.get? u.channel
    return .uniform location value

def screenSizeCommands (op : Operation ℓ) (size : Size) : List (Command ℓ) :=
  match op.procedure.screenSize with
  | some location => [.uniform location (.ints (.two size.width.toInt32 size.height.toInt32))]
  | none => []

/-- Draws the indices from `first` on into a target of the given size. -/
def drawCommands (op : Operation ℓ) (target : RenderTarget) (size : Size)
    (first count : UInt32) : List (Command ℓ) :=
  [target.bindCommand,
    .viewport ⟨0, 0, size.width.toInt32, size.height.toInt32⟩,
    .useProgram op.procedure.program,
    .bindVertexArray op.vertexArray] ++
  op.uniformCommands ++ op.screenSizeCommands size ++
  [.drawElementsInstanced Gl.triangles count.toInt32 Gl.unsignedInt (first * 4).toInt32
      op.amount.toInt32,
    .bindVertexArray none]

variable {δ : Type} [Device δ ℓ]

def create (procedure : Procedure ℓ) : Action δ (Operation ℓ) := do
  let vertexArray ← Action.create .vertexArray
  return { vertexArray, procedure }

/-- Makes instance `i` read a field of the element at `offset + i`. -/
def setAttribute (op : Operation ℓ) (c : Channel) (data : DataBuffer) (offset slot : Nat) :
    Action δ (Operation ℓ) := do
  let source ← Attempt.ofExcept (op.attributeSource c data offset slot)
  Action.perform (source.commands op.vertexArray)
  return { op with bindings := op.bindings.insert c.id source.binding }

/-- Selects the sprite that every instance shows. -/
def setSprite (op : Operation ℓ) (sprites : SpriteBuffer) (id : Nat) :
    Action δ (Operation ℓ) :=
  match sprites.indexRange? id with
  | none => Attempt.fail (.unknownSprite id sprites.spriteCount)
  | some range => do
    Action.perform (spriteCommands op.vertexArray sprites)
    return { op with sprite := some range }

/-- Draws into a target. Without a sprite or an instance there is nothing to draw, which
only the journal tells. -/
def drawTo (op : Operation ℓ) (target : RenderTarget) : Action δ Unit :=
  match op.sprite with
  | none => Action.write (.warning "you attempted to draw an operation without a sprite")
  | some (first, count) =>
    if op.amount = 0 then
      Action.write (.warning "you attempted to render something with zero instances")
    else do
      let window ← Action.window
      Action.perform (op.drawCommands target (target.size window) first count)

def free (op : Operation ℓ) : Action δ Unit :=
  Action.perform [.delete .vertexArray op.vertexArray]

end Operation

end SpriteRenderer
