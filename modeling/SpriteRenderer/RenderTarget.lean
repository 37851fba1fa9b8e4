import SpriteRenderer.Device
import SpriteRenderer.Gl

/-! # Render targets

A target is the window, or an offscreen framebuffer with a colour and a depth attachment. -/

namespace SpriteRenderer

/-- The storage of an offscreen target. -/
inductive Attachments where
  | textures (color depth : Handle)
  | renderbuffers (color depth : Handle) (samples : Int32)
deriving DecidableEq, Repr

structure Offscreen where
  framebuffer : Handle
  attachments : Attachments
  size : Size
deriving DecidableEq, Repr

/-- An image, top row first, four bytes per pixel. -/
structure Image where
  size : Size
  bytes : List UInt8
deriving DecidableEq, Repr

namespace Image

/-- An image from enough bytes for its pixels. -/
def ofBytes (size : Size) (bytes : List UInt8) : Except RenderError Image :=
  if bytes.length < 4 * size.width.toNat * size.height.toNat then
    .error (.backend .imageMismatch)
  else .ok ⟨size, bytes⟩

/-- The rows of an image in opposite order. -/
def flipRows (rowLength : Nat) : Nat → List UInt8 → List UInt8
  | 0, _ | _, [] => []
  | rows + 1, bytes => flipRows rowLength rows (bytes.drop rowLength) ++ bytes.take rowLength

@[simp] theorem flipRows_zero (rowLength : Nat) (bytes : List UInt8) :
    flipRows rowLength 0 bytes = [] := by
  simp [flipRows]

@[simp] theorem flipRows_nil (rowLength rows : Nat) : flipRows rowLength rows [] = [] := by
  cases rows <;> simp [flipRows]

theorem flipRows_succ (rowLength rows : Nat) (bytes : List UInt8) :
    flipRows rowLength (rows + 1) bytes =
      flipRows rowLength rows (bytes.drop rowLength) ++ bytes.take rowLength := by
  cases bytes <;> simp [flipRows]

theorem length_flipRows {rowLength rows : Nat} {bytes : List UInt8}
    (whole : bytes.length = rows * rowLength) :
    (flipRows rowLength rows bytes).length = rows * rowLength := by
  induction rows generalizing bytes with
  | zero => simp
  | succ rows ih =>
      rw [Nat.succ_mul] at whole
      rw [flipRows_succ, List.length_append, ih (by simp; omega), List.length_take, Nat.succ_mul]
      omega

theorem ofBytes_eq_ok {size : Size} {bytes : List UInt8}
    (enough : 4 * size.width.toNat * size.height.toNat ≤ bytes.length) :
    ofBytes size bytes = .ok ⟨size, bytes⟩ :=
  if_neg (Nat.not_lt.mpr enough)

end Image

namespace Attachments

variable {ℓ : Type}

def isMultisampled : Attachments → Bool
  | textures .. => false
  | renderbuffers .. => true

def textureCommands (texture : Handle) (internalFormat format type attachment : UInt32)
    (width height : Int32) : List (Command ℓ) :=
  [.bindTexture Gl.texture2D texture,
    .texStorage2D Gl.texture2D internalFormat width height format type,
    .texParameter Gl.texture2D Gl.textureMinFilter Gl.nearest.toInt32,
    .texParameter Gl.texture2D Gl.textureMagFilter Gl.nearest.toInt32,
    .framebufferTexture2D Gl.framebuffer attachment Gl.texture2D texture 0]

def renderbufferCommands (renderbuffer : Handle) (samples : Int32)
    (internalFormat attachment : UInt32) (width height : Int32) : List (Command ℓ) :=
  [.bindRenderbuffer renderbuffer,
    .renderbufferStorageMultisample samples internalFormat width height,
    .framebufferRenderbuffer Gl.framebuffer attachment Gl.renderbuffer renderbuffer]

/-- Allocates storage of a size and attaches it to the bound framebuffer. -/
def storageCommands (a : Attachments) (size : Size) : List (Command ℓ) :=
  let width := size.width.toInt32
  let height := size.height.toInt32
  match a with
  | textures color depth =>
    textureCommands color Gl.rgba8 Gl.rgba Gl.unsignedByte Gl.colorAttachment width height ++
      textureCommands depth Gl.depthComponent24 Gl.depthComponent Gl.unsignedInt
        Gl.depthAttachment width height ++
      [.bindTexture Gl.texture2D none]
  | renderbuffers color depth samples =>
    renderbufferCommands color samples Gl.rgba8 Gl.colorAttachment width height ++
      renderbufferCommands depth samples Gl.depthComponent24 Gl.depthAttachment width height ++
      [.bindRenderbuffer none]

def deleteCommands : Attachments → List (Command ℓ)
  | textures color depth => [.delete .texture color, .delete .texture depth]
  | renderbuffers color depth _ => [.delete .renderbuffer color, .delete .renderbuffer depth]

end Attachments

namespace Offscreen

variable {δ ℓ : Type} [Device δ ℓ]

/-- Allocates storage of the target's size. -/
def allocate (t : Offscreen) : Action δ Unit := do
  Action.perform
    (.bindFramebuffer Gl.framebuffer t.framebuffer :: t.attachments.storageCommands t.size)
  let status ← Action.query fun d => Device.framebufferStatus d Gl.framebuffer
  Action.perform [.bindFramebuffer Gl.framebuffer none]
  if status = Gl.framebufferComplete then
    return ()
  else
    Attempt.fail (.backend (.framebufferIncomplete status))

def deleteCommands (t : Offscreen) : List (Command ℓ) :=
  t.attachments.deleteCommands ++ [.delete .framebuffer t.framebuffer]

/-- Creates both attachments or none. -/
def createAttachments (multisampled : Bool) (samples : Int32) : Action δ Attachments :=
  if multisampled then do
    let color ← Action.create .renderbuffer
    let depth ← (Action.create .renderbuffer).orElsePerform [.delete .renderbuffer color]
    return .renderbuffers color depth samples
  else do
    let color ← Action.create .texture
    let depth ← (Action.create .texture).orElsePerform [.delete .texture color]
    return .textures color depth

end Offscreen

/-- Something to draw into. -/
inductive RenderTarget where
  /-- The window. -/
  | primary
  | offscreen (t : Offscreen)
deriving DecidableEq, Repr

namespace RenderTarget

def isPrimary : RenderTarget → Bool
  | primary => true
  | offscreen _ => false

def isMultisampled : RenderTarget → Bool
  | primary => false
  | offscreen t => t.attachments.isMultisampled

/-- The size in pixels, which the window decides for the primary target. -/
def size (window : Size) : RenderTarget → Size
  | primary => window
  | offscreen t => t.size

/-- No framebuffer is the window's. -/
def framebuffer? : RenderTarget → Option Handle
  | primary => none
  | offscreen t => some t.framebuffer

variable {δ ℓ : Type} [Device δ ℓ]

/-- Creates an offscreen target. -/
def create (size : Size) (multisampled : Bool) (samples : Int32) : Action δ RenderTarget := do
  let framebuffer ← Action.create .framebuffer
  let attachments ← (Offscreen.createAttachments multisampled samples).orElsePerform
    [.delete .framebuffer framebuffer]
  let t : Offscreen := { framebuffer, attachments, size }
  t.allocate.orElsePerform t.deleteCommands
  return .offscreen t

/-- The target with another size, which its storage is yet to be given. -/
def withSize (size : Size) : RenderTarget → Except RenderError RenderTarget
  | primary => .error (.invalidOperation .primaryResized)
  | offscreen t => .ok (.offscreen { t with size })

/-- Allocates storage of the target's size. The window has storage of its own. -/
def allocate : RenderTarget → Action δ Unit
  | primary => return ()
  | offscreen t => t.allocate

def bindCommand (t : RenderTarget) : Command ℓ := .bindFramebuffer Gl.framebuffer t.framebuffer?

/-- Binds the target for drawing. -/
def bind (t : RenderTarget) : Action δ Unit := Action.perform [t.bindCommand]

/-- Clears the colour, fully opaque, and the depth. -/
def clear (t : RenderTarget) (r g b : UInt8) : Action δ Unit :=
  Action.perform [t.bindCommand, .clearColor (.ofByte r) (.ofByte g) (.ofByte b) .one,
    .clear (Gl.colorBufferBit ||| Gl.depthBufferBit)]

/-- The corners of an area that is copied to `(x, y)`, measured from the top left corner of
the destination, where the device measures from the bottom. -/
def blitCorners (source destination : Size) (x y : Int32) : Corners × Corners :=
  let width := source.width.toInt32
  let height := source.height.toInt32
  let bottom := destination.height.toInt32 - height - y
  (⟨0, 0, width, height⟩, ⟨x, bottom, x + width, bottom + height⟩)

/-- Copies the target into another one, its top left corner to `(x, y)`. -/
def blitTo (t destination : RenderTarget) (x y : Int32) : Action δ Unit := do
  if destination.isMultisampled then
    Attempt.fail (.invalidOperation .blitIntoMultisampled)
  else
    let window ← Action.window
    let (source, place) := blitCorners (t.size window) (destination.size window) x y
    Action.perform [.bindFramebuffer Gl.readFramebuffer t.framebuffer?,
      .bindFramebuffer Gl.drawFramebuffer destination.framebuffer?,
      .blitFramebuffer source place Gl.colorBufferBit Gl.nearest,
      .bindFramebuffer Gl.framebuffer none]

/-- Reads the colours back. Sizes beyond the address space are idealised: the number of bytes is not
bounded, where as a word of 64 bits it would wrap around from 2⁶² pixels on. -/
def readPixels (t : RenderTarget) : Action δ Image := do
  if t.isMultisampled then
    Attempt.fail (.invalidOperation .readOfMultisampled)
  else
    let window ← Action.window
    let size := t.size window
    let rowLength := 4 * size.width.toNat
    let rows := size.height.toNat
    Action.perform [.bindFramebuffer Gl.readFramebuffer t.framebuffer?]
    let bytes ← Action.query fun d =>
      Device.readPixels d ⟨0, 0, size.width.toInt32, size.height.toInt32⟩
        (List.replicate (rows * rowLength) 0)
    Action.perform [.bindFramebuffer Gl.framebuffer none]
    Attempt.ofExcept (Image.ofBytes size (Image.flipRows rowLength rows bytes))

/-- A device gives back as many bytes as the image needs. -/
theorem run_readPixels {t : RenderTarget} (single : t.isMultisampled = false) (h : Host δ) :
    let size := t.size h.window
    let rowLength := 4 * size.width.toNat
    let rows := size.height.toNat
    let bound := h.performAll [.bindFramebuffer Gl.readFramebuffer t.framebuffer?]
    let read := Device.readPixels bound.device
      ⟨0, 0, size.width.toInt32, size.height.toInt32⟩ (List.replicate (rows * rowLength) 0)
    (t.readPixels : Action δ Image).run h =
      (.ok ⟨size, Image.flipRows rowLength rows read.1⟩,
        Host.performAll { bound with device := read.2 } [.bindFramebuffer Gl.framebuffer none]) := by
  intro size rowLength rows bound read
  have whole : read.1.length = rows * rowLength := by
    rw [Device.length_readPixels, List.length_replicate]
  have enough : 4 * size.width.toNat * size.height.toNat ≤
      (Image.flipRows rowLength rows read.1).length :=
    Nat.le_of_eq ((Nat.mul_comm _ _).trans (Image.length_flipRows whole).symm)
  have made := Image.ofBytes_eq_ok enough
  rw [readPixels, if_neg (by simp [single])]
  change (Image.ofBytes size (Image.flipRows rowLength rows read.1), _) = _
  rw [made]
  rfl

/-- Deletes the target's objects. The window has none. -/
def free : RenderTarget → Action δ Unit
  | primary => return ()
  | offscreen t => Action.perform t.deleteCommands

end RenderTarget

end SpriteRenderer
