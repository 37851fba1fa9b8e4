import SpriteRenderer.Color
import SpriteRenderer.Single

/-! # Sprites

A sprite is a small triangle mesh. Its vertices form runs of one colour, each run
one layer above the run before it. -/

namespace SpriteRenderer

structure Vertex where
  x : Single
  y : Single
  color : Color
  /-- How many runs were begun before this vertex. -/
  layer : UInt8
deriving DecidableEq, Repr

namespace Vertex

/-- Equality of vertices, coordinates compared as numbers. -/
def numEq (v w : Vertex) : Bool :=
  v.x.numEq w.x && v.y.numEq w.y && v.color == w.color && v.layer == w.layer

end Vertex

structure Sprite where
  vertices : List Vertex
  /-- Triangles, three positions in `vertices` each. -/
  indices : List UInt32
deriving DecidableEq, Repr

namespace Sprite

/-- How many layers a sprite made of runs has. -/
def layerCount (s : Sprite) : Nat :=
  match s.vertices.getLast? with
  | some v => v.layer.toNat + 1
  | none => 0

def triangleCount (s : Sprite) : Nat := s.indices.length / 3

/-- Equality of sprites, coordinates compared as numbers. -/
def numEq (s t : Sprite) : Bool :=
  s.vertices.length == t.vertices.length &&
    (s.vertices.zip t.vertices).all (fun p => p.1.numEq p.2) && s.indices == t.indices

/-- The first index that names no vertex. -/
def strayIndex? (s : Sprite) : Option UInt32 :=
  s.indices.find? (s.vertices.length ≤ ·.toNat)

theorem strayIndex?_eq_none_iff (s : Sprite) :
    s.strayIndex? = none ↔ ∀ i ∈ s.indices, i.toNat < s.vertices.length := by
  simp [strayIndex?]

end Sprite

end SpriteRenderer
