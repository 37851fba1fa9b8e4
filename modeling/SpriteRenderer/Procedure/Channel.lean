import SpriteRenderer.ShaderType

/-! # Channels and functions

Sessions and identities are idealised as natural numbers. As words they would be given out again
after 2³² builders, channels of a builder or functions. -/

namespace SpriteRenderer

/-- Where a channel gets its value. -/
inductive ChannelRole where
  /-- Read from a data buffer, one value per instance. -/
  | perInstance
  /-- Set by the operation, one value per draw. -/
  | perDraw
  /-- Computed by shader code. -/
  | intermediate
deriving DecidableEq, Repr

namespace ChannelRole

def name : ChannelRole → String
  | perInstance => "attribute"
  | perDraw => "operation"
  | intermediate => "intermediate"

end ChannelRole

/-- A typed variable of the shader that a builder composes. -/
structure Channel where
  /-- The builder that made the channel. -/
  session : Nat
  id : Nat
  role : ChannelRole
  type : ShaderType
deriving DecidableEq, Repr

namespace Channel

/-- The variable's name in shader source. -/
def name (c : Channel) : String := s!"c{c.id}"

end Channel

/-- A function of the shading language. Its identity tells it from functions of equal content;
copies share it. -/
structure Function where
  id : Nat
  name : String
  parameters : List ShaderType
  /-- The complete definition. -/
  source : String
deriving DecidableEq, Repr

end SpriteRenderer
