import SpriteRenderer.Attempt
import SpriteRenderer.ChannelValue
import SpriteRenderer.Error
import SpriteRenderer.Journal

/-! # Graphics devices

A device is a state that answers requests. Most requests are commands: they change the
state and answer nothing, so what an object wants from the device is a list of them. -/

namespace SpriteRenderer

/-- The name a device gives to an object. Names are idealised as natural numbers: they do not run
out, where words would after 2³² objects. -/
abbrev Handle := Nat

structure Size where
  width : UInt32
  height : UInt32
deriving DecidableEq, Repr

/-- A device takes a word as a signed one, which is the same number below half of the words. -/
theorem toInt_toInt32 {n : UInt32} (small : n.toNat < 0x80000000) :
    n.toInt32.toInt = n.toNat :=
  BitVec.toInt_eq_toNat_of_lt (by simpa using (by omega : 2 * n.toNat < 2 ^ 32))

/-- A rectangle by two opposite corners. -/
structure Corners where
  x₀ : Int32
  y₀ : Int32
  x₁ : Int32
  y₁ : Int32
deriving DecidableEq, Repr

/-- A rectangle by its lowest corner and its size. -/
structure Area where
  x : Int32
  y : Int32
  width : Int32
  height : Int32
deriving DecidableEq, Repr

inductive ObjectKind where
  | buffer | vertexArray | shader | program | framebuffer | texture | renderbuffer
deriving DecidableEq, Repr

/-- What a device can be asked to create. A shader is created for a stage. -/
inductive NewObject where
  | buffer | vertexArray | shader (stage : UInt32) | program | framebuffer | texture | renderbuffer
deriving DecidableEq, Repr

namespace NewObject

def kind : NewObject → ObjectKind
  | buffer => .buffer
  | vertexArray => .vertexArray
  | shader _ => .shader
  | program => .program
  | framebuffer => .framebuffer
  | texture => .texture
  | renderbuffer => .renderbuffer

end NewObject

/-- How an attribute is read from the buffer bound when its pointer is set. -/
structure AttributePointer where
  index : UInt32
  /-- Components per element. -/
  size : Int32
  type : UInt32
  stride : Int32
  offset : Int32
deriving DecidableEq, Repr

/-- A request without an answer. Uniforms are addressed by locations of type `ℓ`. -/
inductive Command (ℓ : Type) where
  | delete (kind : ObjectKind) (object : Handle)
  -- Buffers.
  | bindBuffer (target : UInt32) (buffer : Option Handle)
  | bufferData (target : UInt32) (bytes : List UInt8) (usage : UInt32)
  -- Vertex arrays.
  | bindVertexArray (vertexArray : Option Handle)
  | enableVertexAttribArray (index : UInt32)
  | vertexAttribPointerFloat (pointer : AttributePointer) (normalized : Bool)
  | vertexAttribPointerInt (pointer : AttributePointer)
  | vertexAttribDivisor (index divisor : UInt32)
  -- Shaders and programs.
  | shaderSource (shader : Handle) (source : String)
  | compileShader (shader : Handle)
  | attachShader (program shader : Handle)
  | detachShader (program shader : Handle)
  | linkProgram (program : Handle)
  | useProgram (program : Option Handle)
  /-- Sets a uniform of the program in use. -/
  | uniform (location : ℓ) (value : ChannelValue)
  -- Framebuffers and attachments. No framebuffer is the window's.
  | bindFramebuffer (target : UInt32) (framebuffer : Option Handle)
  | framebufferTexture2D (target attachment textureTarget : UInt32) (texture : Option Handle)
      (level : Int32)
  | framebufferRenderbuffer (target attachment renderbufferTarget : UInt32)
      (renderbuffer : Option Handle)
  | bindTexture (target : UInt32) (texture : Option Handle)
  | texStorage2D (target internalFormat : UInt32) (width height : Int32) (format type : UInt32)
  | texParameter (target parameter : UInt32) (value : Int32)
  | bindRenderbuffer (renderbuffer : Option Handle)
  | renderbufferStorageMultisample (samples : Int32) (internalFormat : UInt32)
      (width height : Int32)
  | blitFramebuffer (source destination : Corners) (mask filter : UInt32)
  -- State and drawing.
  | viewport (area : Area)
  | clearColor (r g b a : Single)
  | clearDepth (depth : Single)
  | clear (mask : UInt32)
  | enable (capability : UInt32)
  | disable (capability : UInt32)
  | depthFunc (func : UInt32)
  | blendFunc (source destination : UInt32)
  /-- The offset counts bytes of the bound index buffer. -/
  | drawElementsInstanced (mode : UInt32) (count : Int32) (type : UInt32) (offset : Int32)
      (instances : Int32)
deriving DecidableEq, Repr

/-- A graphics device with states `δ` and uniform locations `ℓ`. -/
class Device (δ : Type) (ℓ : outParam Type) where
  create : δ → NewObject → Except RenderError Handle × δ
  perform : δ → Command ℓ → δ
  /-- What performing a command makes the device write into the journal. -/
  complaints : δ → Command ℓ → Journal := fun _ _ => []
  isCompiled : δ → Handle → Bool
  compileLog : δ → Handle → String
  isLinked : δ → Handle → Bool
  linkLog : δ → Handle → String
  /-- Where a linked program keeps a uniform, if it has it. -/
  locate : δ → Handle → String → Option ℓ × δ
  framebufferStatus : δ → UInt32 → UInt32 × δ
  /-- Overwrites a pixel buffer with pixels of the bound read framebuffer, bottom row first. -/
  readPixels : δ → Area → List UInt8 → List UInt8 × δ
  /-- It is overwritten in place. -/
  length_readPixels (d : δ) (area : Area) (pixels : List UInt8) :
    (readPixels d area pixels).1.length = pixels.length

/-- What a renderer runs on. -/
structure Host (δ : Type) where
  device : δ
  /-- The current size of the window. -/
  window : Size
  journal : Journal := []

namespace Host

variable {δ ℓ : Type} [Device δ ℓ]

def perform (h : Host δ) (c : Command ℓ) : Host δ :=
  { h with
    device := Device.perform h.device c
    journal := h.journal ++ Device.complaints h.device c }

def performAll (h : Host δ) (cs : List (Command ℓ)) : Host δ := cs.foldl perform h

@[simp] theorem performAll_nil (h : Host δ) : h.performAll [] = h := rfl

@[simp] theorem performAll_cons (h : Host δ) (c : Command ℓ) (cs : List (Command ℓ)) :
    h.performAll (c :: cs) = (h.perform c).performAll cs := rfl

theorem performAll_append (h : Host δ) (cs ds : List (Command ℓ)) :
    h.performAll (cs ++ ds) = (h.performAll cs).performAll ds := by
  simp [performAll]

@[simp] theorem window_perform (h : Host δ) (c : Command ℓ) : (h.perform c).window = h.window :=
  rfl

@[simp] theorem window_performAll (h : Host δ) (cs : List (Command ℓ)) :
    (h.performAll cs).window = h.window := by
  induction cs generalizing h with
  | nil => rfl
  | cons c cs ih => simp [ih]

end Host

/-- A computation on a host that may be refused. -/
abbrev Action (δ α : Type) := Attempt (Host δ) RenderError α

namespace Action

variable {δ ℓ α : Type}

def write (r : LogRecord) : Action δ Unit :=
  .modify fun h => { h with journal := h.journal ++ [r] }

def window : Action δ Size := .read Host.window

/-- Queries the device. -/
def query (f : δ → α × δ) : Action δ α := fun h =>
  let (a, device) := f h.device
  (.ok a, { h with device })

variable [Device δ ℓ]

def perform (cs : List (Command ℓ)) : Action δ Unit := .modify (·.performAll cs)

def create (o : NewObject) : Action δ Handle := fun h =>
  let (r, device) := Device.create h.device o
  (r, { h with device })

/-- Runs an action and, if it fails, performs commands that undo what came before it. -/
def orElsePerform (x : Action δ α) (cs : List (Command ℓ)) : Action δ α :=
  x.onFailure (·.performAll cs)

end Action

end SpriteRenderer
