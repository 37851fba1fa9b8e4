import SpriteRenderer.Error
import SpriteRenderer.Sprite

/-! # Building sprites run by run -/

namespace SpriteRenderer

/-- A sprite under construction. -/
structure SpriteBuilder where
  vertices : List Vertex := []
  indices : List UInt32 := []
  color : Color
  layer : UInt8 := 0
  /-- The current run has a vertex. -/
  runStarted : Bool := false
  /-- A run was begun above the highest layer. -/
  overflowed : Bool := false
deriving DecidableEq, Repr

namespace SpriteBuilder

def start (color : Color) : SpriteBuilder := { color }

/-- Begins a run. While the current run has no vertex, only its colour is replaced. -/
def beginRun (b : SpriteBuilder) (color : Color) : SpriteBuilder :=
  if !b.runStarted then { b with color }
  else if b.layer = 255 then { b with color, runStarted := false, overflowed := true }
  else { b with color, runStarted := false, layer := b.layer + 1 }

def addVertex (b : SpriteBuilder) (x y : Single) : SpriteBuilder :=
  { b with vertices := b.vertices ++ [⟨x, y, b.color, b.layer⟩], runStarted := true }

/-- The index of the vertex added last. -/
def lastIndex (b : SpriteBuilder) : UInt32 := .ofNat (b.vertices.length - 1)

def addTriangle (b : SpriteBuilder) (i j k : UInt32) : SpriteBuilder :=
  { b with indices := b.indices ++ [i, j, k] }

def build (b : SpriteBuilder) : Except RenderError Sprite :=
  let sprite : Sprite := ⟨b.vertices, b.indices⟩
  if b.vertices.isEmpty then .error (.malformedGeometry .noVertex)
  else if b.overflowed then .error (.malformedGeometry .tooManyRuns)
  else match sprite.strayIndex? with
    | some i => .error (.malformedGeometry (.indexOutOfRange i b.vertices.length))
    | none => .ok sprite

/-- One step of building a sprite. -/
inductive Step where
  | vertex (x y : Single)
  | triangle (i j k : UInt32)
  | color (c : Color)
deriving DecidableEq, Repr

def apply (b : SpriteBuilder) : Step → SpriteBuilder
  | .vertex x y => b.addVertex x y
  | .triangle i j k => b.addTriangle i j k
  | .color c => b.beginRun c

/-- The builder after all steps. -/
def run (b : SpriteBuilder) (steps : List Step) : SpriteBuilder := steps.foldl apply b

/-- The indices that the vertex steps were given. -/
def numbers (b : SpriteBuilder) : List Step → List UInt32
  | [] => []
  | step :: steps =>
    let next := b.apply step
    match step with
    | .vertex .. => next.lastIndex :: next.numbers steps
    | _ => next.numbers steps

@[simp] theorem run_nil (b : SpriteBuilder) : b.run [] = b := rfl

@[simp] theorem run_cons (b : SpriteBuilder) (step : Step) (steps : List Step) :
    b.run (step :: steps) = (b.apply step).run steps := rfl

theorem run_append (b : SpriteBuilder) (steps more : List Step) :
    b.run (steps ++ more) = (b.run steps).run more := by
  simp [run]

end SpriteBuilder

end SpriteRenderer
