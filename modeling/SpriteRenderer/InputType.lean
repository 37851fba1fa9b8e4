import SpriteRenderer.Gl
import SpriteRenderer.ShaderType

/-! # Types of buffer fields -/

namespace SpriteRenderer

/-- How one component is stored in a buffer. -/
inductive InputKind where
  | int8 | uint8 | int16 | uint16 | int32 | uint32 | float32 | float64
deriving DecidableEq, Repr

namespace InputKind

/-- Bytes of one component. -/
def size : InputKind → Nat
  | int8 | uint8 => 1
  | int16 | uint16 => 2
  | int32 | uint32 | float32 => 4
  | float64 => 8

def isFloat : InputKind → Bool
  | float32 | float64 => true
  | _ => false

/-- The device's number for the component type. -/
def deviceType : InputKind → UInt32
  | int8 => Gl.byte
  | uint8 => Gl.unsignedByte
  | int16 => Gl.short
  | uint16 => Gl.unsignedShort
  | int32 => Gl.int
  | uint32 => Gl.unsignedInt
  | float32 => Gl.float
  | float64 => Gl.double

def name : InputKind → String
  | int8 => "Int8"
  | uint8 => "UInt8"
  | int16 => "Int16"
  | uint16 => "UInt16"
  | int32 => "Int32"
  | uint32 => "UInt32"
  | float32 => "Float32"
  | float64 => "Float64"

theorem size_pos (k : InputKind) : 0 < k.size := by cases k <;> decide

end InputKind

/-- One field of an interleaved layout. -/
structure InputType where
  kind : InputKind
  arity : Arity
deriving DecidableEq, Repr

namespace InputType

def f32 : InputType := ⟨.float32, .one⟩
def f32x2 : InputType := ⟨.float32, .two⟩
def f32x3 : InputType := ⟨.float32, .three⟩
def f32x4 : InputType := ⟨.float32, .four⟩
def i32 : InputType := ⟨.int32, .one⟩
def u32 : InputType := ⟨.uint32, .one⟩
def u8x4 : InputType := ⟨.uint8, .four⟩

/-- The common field types. -/
def common : List InputType := [f32, f32x2, f32x3, f32x4, i32, u32, u8x4]

/-- Bytes of the whole field. -/
def size (t : InputType) : Nat := t.kind.size * t.arity.toNat

/-- Bytes of fields that follow one another. -/
def totalSize : List InputType → Nat
  | [] => 0
  | t :: ts => t.size + totalSize ts

def label (t : InputType) : String := s!"{t.kind.name}x{t.arity.toNat}"

theorem size_pos (t : InputType) : 0 < t.size := by
  obtain ⟨kind, arity⟩ := t
  cases kind <;> cases arity <;> decide

@[simp] theorem totalSize_nil : totalSize [] = 0 := rfl

@[simp] theorem totalSize_cons (t : InputType) (ts : List InputType) :
    totalSize (t :: ts) = t.size + totalSize ts := rfl

@[simp] theorem totalSize_append (ts us : List InputType) :
    totalSize (ts ++ us) = totalSize ts + totalSize us := by
  induction ts with
  | nil => simp
  | cons t ts ih => simp [ih, Nat.add_assoc]

end InputType

end SpriteRenderer
