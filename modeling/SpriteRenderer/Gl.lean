/-! # Numbers of the graphics interface -/

namespace SpriteRenderer.Gl

/-! ## Component types -/

def byte : UInt32 := 5120
def unsignedByte : UInt32 := 5121
def short : UInt32 := 5122
def unsignedShort : UInt32 := 5123
def int : UInt32 := 5124
def unsignedInt : UInt32 := 5125
def float : UInt32 := 5126
def double : UInt32 := 5130

/-! ## Buffers and drawing -/

def triangles : UInt32 := 4
def arrayBuffer : UInt32 := 34962
def elementArrayBuffer : UInt32 := 34963
def staticDraw : UInt32 := 35044
def dynamicDraw : UInt32 := 35048

/-! ## Shaders -/

def fragmentShader : UInt32 := 35632
def vertexShader : UInt32 := 35633

/-! ## Framebuffers and their attachments -/

def framebuffer : UInt32 := 36160
def readFramebuffer : UInt32 := 36008
def drawFramebuffer : UInt32 := 36009
def renderbuffer : UInt32 := 36161
def colorAttachment : UInt32 := 36064
def depthAttachment : UInt32 := 36096
def framebufferComplete : UInt32 := 36053
def texture2D : UInt32 := 3553
def textureMinFilter : UInt32 := 10241
def textureMagFilter : UInt32 := 10240
def nearest : UInt32 := 9728
def rgba : UInt32 := 6408
def rgba8 : UInt32 := 32856
def depthComponent : UInt32 := 6402
def depthComponent24 : UInt32 := 33190
def colorBufferBit : UInt32 := 16384
def depthBufferBit : UInt32 := 256

/-! ## Capabilities and functions -/

def depthTest : UInt32 := 2929
def greater : UInt32 := 516
def blend : UInt32 := 3042
def sourceAlpha : UInt32 := 770
def oneMinusSourceAlpha : UInt32 := 771
def cullFace : UInt32 := 2884
def multisample : UInt32 := 32925

end SpriteRenderer.Gl
