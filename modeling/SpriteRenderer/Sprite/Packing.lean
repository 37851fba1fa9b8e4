import SpriteRenderer.Bytes
import SpriteRenderer.Sprite

/-! # Packing sprites

Many sprites share one vertex array and one index array. A table of ranges says
which indices belong to which sprite. -/

namespace SpriteRenderer

/-- A vertex as the device stores it. -/
structure PackedVertex where
  x : Single
  y : Single
  r : UInt8
  g : UInt8
  b : UInt8
  layer : UInt8
deriving DecidableEq, Repr

namespace PackedVertex

/-- Bytes of a packed vertex. -/
def size : Int32 := 12

/-- Where its colour and layer begin. -/
def colorOffset : Int32 := 8

def ofVertex (v : Vertex) : PackedVertex :=
  ⟨v.x, v.y, v.color.r, v.color.g, v.color.b, v.layer⟩

def toBytes (p : PackedVertex) : List UInt8 :=
  Bytes.ofWord p.x.bits ++ Bytes.ofWord p.y.bits ++ [p.r, p.g, p.b, p.layer]

theorem length_toBytes (p : PackedVertex) : p.toBytes.length = 12 := rfl

end PackedVertex

structure PackedSprites where
  vertices : List PackedVertex
  /-- Positions in `vertices`. -/
  indices : List UInt32
  /-- Sprite `k` owns the indices from `ranges[k]` up to `ranges[k + 1]`. -/
  ranges : List UInt32
deriving DecidableEq, Repr

namespace PackedSprites

/-- The indices of sprites whose vertices are stored from position `base` on. -/
def shiftedIndices (base : Nat) : List Sprite → List UInt32
  | [] => []
  | s :: sprites =>
    s.indices.map (· + .ofNat base) ++ shiftedIndices (base + s.vertices.length) sprites

/-- Where the indices of each sprite end, if `first` indices come before them. -/
def rangeEnds (first : Nat) : List Sprite → List UInt32
  | [] => []
  | s :: sprites =>
    .ofNat (first + s.indices.length) :: rangeEnds (first + s.indices.length) sprites

/-- Packs sprites in order. The id of a sprite is its position. -/
def ofSprites (sprites : List Sprite) : PackedSprites where
  vertices := sprites.flatMap (·.vertices.map .ofVertex)
  indices := shiftedIndices 0 sprites
  ranges := 0 :: rangeEnds 0 sprites

def vertexBytes (p : PackedSprites) : List UInt8 := p.vertices.flatMap PackedVertex.toBytes

def indexBytes (p : PackedSprites) : List UInt8 := Bytes.ofWords p.indices

@[simp] theorem length_rangeEnds (first : Nat) (sprites : List Sprite) :
    (rangeEnds first sprites).length = sprites.length := by
  induction sprites generalizing first with
  | nil => rfl
  | cons s sprites ih => simp [rangeEnds, ih]

end PackedSprites

end SpriteRenderer
