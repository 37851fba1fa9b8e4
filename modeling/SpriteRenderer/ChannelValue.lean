import SpriteRenderer.ShaderType
import SpriteRenderer.Single

/-! # Values of operation channels -/

namespace SpriteRenderer

/-- A value that can be uploaded to a uniform. -/
inductive ChannelValue where
  | ints (c : Components Int32)
  | uints (c : Components UInt32)
  | floats (c : Components Single)
deriving DecidableEq, Repr

namespace ChannelValue

/-- The type that a channel must have to take the value. -/
def shaderType : ChannelValue → ShaderType
  | ints c => ⟨.int, c.arity⟩
  | uints c => ⟨.uint, c.arity⟩
  | floats c => ⟨.float, c.arity⟩

/-- The components as integers, floats by their bit patterns. -/
def words : ChannelValue → List Int
  | ints c => c.toList.map Int32.toInt
  | uints c => c.toList.map (·.toNat)
  | floats c => c.toList.map (·.bits.toNat)

end ChannelValue

end SpriteRenderer
