import SpriteRenderer.ShaderType

/-! # Outputs of the vertex stage -/

namespace SpriteRenderer

/-- What the vertex stage computes. -/
inductive Output where
  | position | layer | color | xAxis | yAxis
deriving DecidableEq, Repr

namespace Output

def all : List Output := [position, layer, color, xAxis, yAxis]

theorem mem_all (o : Output) : o ∈ all := by cases o <;> decide

def requiredType : Output → ShaderType
  | position | xAxis | yAxis => .vec2
  | layer => .uint
  | color => .ivec3

def name : Output → String
  | position => "position"
  | layer => "layer"
  | color => "color"
  | xAxis => "x axis"
  | yAxis => "y axis"

/-- The expression of an output that no channel is bound to. Two outputs have none. -/
def defaultExpression? : Output → Option String
  | position | layer => none
  | color => some "ivec3(aColor.rgb)"
  | xAxis => some "vec2(1.0, 0.0)"
  | yAxis => some "vec2(0.0, 1.0)"

end Output

end SpriteRenderer
