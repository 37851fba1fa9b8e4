import SpriteRenderer.Template

/-! # Configuration

The built-in templates of both stages, and the settings that differ between devices. -/

namespace SpriteRenderer

namespace Builtin

/-- The vertex stage: places the packed vertices of each instance. -/
def vertexLines : List String :=
  [
    "<version>",
    "",
    "// Sprite vertex, packed by the sprite buffer: position and (r, g, b, layer).",
    "layout(location = 0) in vec2 aPos;",
    "layout(location = 1) in uvec4 aColor;",
    "",
    "<attributes>",
    "",
    "// Size of the target in pixels.",
    "uniform ivec2 screenSize;",
    "<uniforms>",
    "",
    "out vec3 vColor;",
    "",
    "<functions>",
    "",
    "void main() \x7b",
    "    <variables>",
    "    <calls>",
    "",
    "    vec2 pos = <pos>;",
    "    uint layer = <layer>;",
    "    ivec3 color = <color>;",
    "    vec2 xAxis = <xAxis>;",
    "    vec2 yAxis = <yAxis>;",
    "",
    "    // Pixel space, origin top left, y pointing down.",
    "    vec2 pixel = pos + aPos.x * xAxis + aPos.y * yAxis;",
    "    vec2 clip = pixel / vec2(screenSize) * 2.0 - 1.0;",
    "",
    "    // Instance layer first, layer inside the sprite second. Instance layers",
    "    // above 65535 share the top depth. The +1 keeps the lowest fragment above",
    "    // the cleared depth of 0 under GL_GREATER.",
    "    uint depth = (min(layer, 65535u) << 8u) | (aColor.a & 255u);",
    "    float z = float(depth + 1u) / 16777216.0;",
    "",
    "    gl_Position = vec4(clip.x, -clip.y, z * 2.0 - 1.0, 1.0);",
    "    vColor = vec3(color) / 255.0;",
    "\x7d"]

/-- The fragment stage: paints the interpolated colour. -/
def fragmentLines : List String :=
  [
    "<version>",
    "",
    "in vec3 vColor;",
    "out vec4 fragColor;",
    "",
    "void main() \x7b",
    "    fragColor = vec4(vColor, 1.0);",
    "\x7d"]

def template (lines : List String) : String := .join (lines.map (· ++ "\n"))

end Builtin

structure RendererConfig where
  /-- What fills the version slot: the version, and precisions where a dialect needs them. -/
  glslVersion : String := "#version 330 core"
  /-- The first location of attribute channels. Lower ones belong to the packed vertices. -/
  layoutStart : UInt32 := 2
  /-- The samples of multisampled targets that have no number of their own. -/
  samples : Int32 := 4
  /-- The device can switch multisampling on. -/
  multisample : Bool := true
  vertexTemplate : String := Builtin.template Builtin.vertexLines
  fragmentTemplate : String := Builtin.template Builtin.fragmentLines
deriving DecidableEq, Repr

namespace RendererConfig

/-- Settings for desktop devices. -/
def desktop : RendererConfig := {}

/-- Settings for devices of the web. -/
def web : RendererConfig where
  glslVersion := "#version 300 es\nprecision highp float;\nprecision highp int;"
  multisample := false

end RendererConfig

end SpriteRenderer
