/-! # Slots of shader templates

A slot is a place in a template that is filled when a shader is composed. Its placeholder is its
name in angle brackets. -/

namespace SpriteRenderer

inductive Slot where
  | version | attributes | uniforms | functions | locals | calls
  | position | layer | color | xAxis | yAxis
deriving DecidableEq, Repr

namespace Slot

/-- Every slot, in the order in which their counts are checked. -/
def all : List Slot :=
  [version, attributes, uniforms, functions, locals, calls, position, layer, color, xAxis,
    yAxis]

theorem mem_all (s : Slot) : s ∈ all := by cases s <;> decide

/-- The name between the brackets. -/
def name : Slot → String
  | version => "version"
  | attributes => "attributes"
  | uniforms => "uniforms"
  | functions => "functions"
  | locals => "variables"
  | calls => "calls"
  | position => "pos"
  | layer => "layer"
  | color => "color"
  | xAxis => "xAxis"
  | yAxis => "yAxis"

/-- The placeholder after its opening bracket. -/
def closing (s : Slot) : List Char := s.name.toList ++ ['>']

/-- The placeholder as it stands in a source. -/
def placeholder (s : Slot) : List Char := '<' :: s.closing

/-- The slot of a name. -/
def named? (name : List Char) : Option Slot := all.find? (·.name.toList = name)

/-- The slot whose placeholder an opening bracket before `rest` begins. Its name would be the
text before the next closing bracket. -/
def after? (rest : List Char) : Option Slot :=
  if '>' ∈ rest then named? (rest.takeWhile (· ≠ '>')) else none

end Slot

end SpriteRenderer
