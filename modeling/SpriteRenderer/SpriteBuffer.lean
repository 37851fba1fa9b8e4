import SpriteRenderer.DataBuffer
import SpriteRenderer.Sprite.Packing

/-! # Sprite buffers

A sprite buffer is the device's copy of packed sprites, with their range table. -/

namespace SpriteRenderer

structure SpriteBuffer where
  vertices : Handle
  indices : Handle
  ranges : List UInt32
  usage : BufferUsage
deriving DecidableEq, Repr

namespace SpriteBuffer

def spriteCount (b : SpriteBuffer) : Nat := b.ranges.length - 1

/-- The first index of a sprite and how many indices it has. -/
def indexRange? (b : SpriteBuffer) (id : Nat) : Option (UInt32 × UInt32) :=
  match b.ranges[id]?, b.ranges[id + 1]? with
  | some first, some last => some (first, last - first)
  | _, _ => none

variable {δ ℓ : Type} [Device δ ℓ]

/-- Stores packed sprites. No vertex array is bound meanwhile, or it would capture the
index buffer. -/
def uploadCommands (vertices indices : Handle) (usage : BufferUsage) (p : PackedSprites) :
    List (Command ℓ) :=
  [.bindBuffer Gl.arrayBuffer vertices,
    .bufferData Gl.arrayBuffer p.vertexBytes usage.number,
    .bindBuffer Gl.arrayBuffer none,
    .bindVertexArray none,
    .bindBuffer Gl.elementArrayBuffer indices,
    .bufferData Gl.elementArrayBuffer p.indexBytes usage.number,
    .bindBuffer Gl.elementArrayBuffer none]

def upload (b : SpriteBuffer) (p : PackedSprites) : Action δ SpriteBuffer := do
  Action.perform (uploadCommands b.vertices b.indices b.usage p)
  return { b with ranges := p.ranges }

/-- Packs sprites into a new buffer. -/
def create (sprites : List Sprite) (usage : BufferUsage) : Action δ SpriteBuffer := do
  let vertices ← Action.create .buffer
  let indices ← (Action.create .buffer).orElsePerform [.delete .buffer vertices]
  upload { vertices, indices, ranges := [0], usage } (.ofSprites sprites)

/-- Packs sprites into the buffer, in place of those it held. A static buffer keeps its own. -/
def repack (b : SpriteBuffer) (sprites : List Sprite) : Action δ SpriteBuffer :=
  if b.usage = .static then Attempt.fail (.invalidOperation .staticSpritesRepacked)
  else b.upload (.ofSprites sprites)

def free (b : SpriteBuffer) : Action δ Unit :=
  Action.perform [.delete .buffer b.vertices, .delete .buffer b.indices]

end SpriteBuffer

end SpriteRenderer
