/-! # Types of shader values -/

namespace SpriteRenderer

/-- How many components a value has. -/
inductive Arity where
  | one | two | three | four
deriving DecidableEq, Repr

namespace Arity

def toNat : Arity → Nat
  | one => 1
  | two => 2
  | three => 3
  | four => 4

def ofNat? : Nat → Option Arity
  | 1 => some one
  | 2 => some two
  | 3 => some three
  | 4 => some four
  | _ => none

@[simp] theorem ofNat?_toNat (a : Arity) : ofNat? a.toNat = some a := by cases a <;> rfl

theorem ofNat?_isSome_iff (n : Nat) : (ofNat? n).isSome ↔ 1 ≤ n ∧ n ≤ 4 := by
  match n with
  | 0 | 1 | 2 | 3 | 4 => simp [ofNat?]
  | n + 5 => simp [ofNat?]

end Arity

/-- One to four components of one kind. -/
inductive Components (α : Type) where
  | one (x : α)
  | two (x y : α)
  | three (x y z : α)
  | four (x y z w : α)
deriving DecidableEq, Repr

namespace Components

variable {α : Type}

def arity : Components α → Arity
  | one .. => .one
  | two .. => .two
  | three .. => .three
  | four .. => .four

def toList : Components α → List α
  | one x => [x]
  | two x y => [x, y]
  | three x y z => [x, y, z]
  | four x y z w => [x, y, z, w]

@[simp] theorem length_toList (c : Components α) : c.toList.length = c.arity.toNat := by
  cases c <;> rfl

end Components

inductive ShaderKind where
  | int | uint | float
deriving DecidableEq, Repr

namespace ShaderKind

/-- Integer kinds are fed through integer attribute pointers. -/
def isInteger : ShaderKind → Bool
  | int | uint => true
  | float => false

def name : ShaderKind → String
  | int => "int"
  | uint => "uint"
  | float => "float"

/-- What a vector type of this kind is called, less the digit. -/
def vectorName : ShaderKind → String
  | int => "ivec"
  | uint => "uvec"
  | float => "vec"

end ShaderKind

/-- A scalar or vector type of the shading language. -/
structure ShaderType where
  kind : ShaderKind
  arity : Arity
deriving DecidableEq, Repr

namespace ShaderType

def int : ShaderType := ⟨.int, .one⟩
def ivec2 : ShaderType := ⟨.int, .two⟩
def ivec3 : ShaderType := ⟨.int, .three⟩
def ivec4 : ShaderType := ⟨.int, .four⟩
def uint : ShaderType := ⟨.uint, .one⟩
def uvec2 : ShaderType := ⟨.uint, .two⟩
def uvec3 : ShaderType := ⟨.uint, .three⟩
def uvec4 : ShaderType := ⟨.uint, .four⟩
def float : ShaderType := ⟨.float, .one⟩
def vec2 : ShaderType := ⟨.float, .two⟩
def vec3 : ShaderType := ⟨.float, .three⟩
def vec4 : ShaderType := ⟨.float, .four⟩

/-- Every type, by kind and then by arity. -/
def all : List ShaderType :=
  [int, ivec2, ivec3, ivec4, uint, uvec2, uvec3, uvec4, float, vec2, vec3, vec4]

theorem mem_all (t : ShaderType) : t ∈ all := by
  obtain ⟨kind, arity⟩ := t
  cases kind <;> cases arity <;> decide

def isInteger (t : ShaderType) : Bool := t.kind.isInteger

/-- The spelling in shader source, such as `uint` or `vec2`. -/
def glslName (t : ShaderType) : String :=
  match t.arity with
  | .one => t.kind.name
  | n => t.kind.vectorName ++ toString n.toNat

/-- The spelling in messages, such as `uintx1`. -/
def label (t : ShaderType) : String := s!"{t.kind.name}x{t.arity.toNat}"

end ShaderType

end SpriteRenderer
