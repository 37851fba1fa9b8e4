import SpriteRenderer.Device
import SpriteRenderer.Gl
import SpriteRenderer.Table
import SpriteRenderer.Text

/-! # A device without a graphics card

It allocates handles, keeps buffer contents and shader sources, remembers one colour per
framebuffer and records every call it receives. Shaders compile and programs link unless
a failure was queued. -/

namespace SpriteRenderer

/-- A recorded call. Queries are not recorded, nor are creations that fail. -/
inductive DeviceCall where
  | created (object : NewObject) (handle : Handle)
  | performed (command : Command String)
  | pixelsRead (area : Area)
deriving DecidableEq, Repr

structure Pixel where
  r : UInt8
  g : UInt8
  b : UInt8
  a : UInt8
deriving DecidableEq, Repr

namespace Pixel

def blank : Pixel := ⟨0, 0, 0, 0⟩

def toList (p : Pixel) : List UInt8 := [p.r, p.g, p.b, p.a]

end Pixel

namespace Headless

structure Shader where
  source : String := ""
  compiled : Bool := false
  log : String := ""
deriving DecidableEq, Repr

structure Program where
  attached : List Handle := []
  linkedSource : String := ""
  linked : Bool := false
  log : String := ""
deriving DecidableEq, Repr

/-- A line that starts with the word `uniform` declares its last word, closing semicolons
left out. -/
def declaredBy? (line : List Char) : Option (List Char) :=
  if "uniform ".toList.isPrefixOf (line.dropWhile Text.isBlank) then
    Text.lastWord? (Text.dropEndWhile (· = ';') (Text.dropEndWhile Text.isBlank line))
  else none

/-- Some line of the source declares the uniform. -/
def declares (source : String) (name : String) : Bool :=
  (Text.lines source.toList).any (declaredBy? · = some name.toList)

end Headless

structure Headless where
  /-- The handle given last, to whatever kind of object. -/
  lastHandle : Handle := 0
  calls : List DeviceCall := []
  live : List Handle := []
  buffers : Table Handle (List UInt8) := .empty
  /-- The buffer bound to each target. -/
  bound : Table UInt32 Handle := .empty
  shaders : Table Handle Headless.Shader := .empty
  programs : Table Handle Headless.Program := .empty
  drawFramebuffer : Option Handle := none
  readFramebuffer : Option Handle := none
  /-- The pixel that clearing writes. -/
  clearPixel : Pixel := .blank
  /-- The colour that each framebuffer is filled with. -/
  fills : Table (Option Handle) Pixel := .empty
  /-- The log of the next compilation, which fails. -/
  compileFailure : Option String := none
  /-- The log of the next linking, which fails. -/
  linkFailure : Option String := none
  /-- How many creations succeed before one fails. -/
  creationsLeft : Option Nat := none

namespace Headless

/-! ## Failures to come -/

def failNextCompile (d : Headless) (log : String) : Headless := { d with compileFailure := log }

def failNextLink (d : Headless) (log : String) : Headless := { d with linkFailure := log }

/-- After `n` more creations of any kind, one fails. -/
def failCreationAfter (d : Headless) (n : Nat) : Headless := { d with creationsLeft := some n }

/-! ## Views -/

/-- The bytes stored last in a live buffer. -/
def bufferContents (d : Headless) (buffer : Handle) : Option (List UInt8) :=
  if buffer ∈ d.live then some ((d.buffers.get? buffer).getD []) else none

/-! ## Requests -/

def record (d : Headless) (c : DeviceCall) : Headless := { d with calls := d.calls ++ [c] }

/-- Begins the records of a new object. -/
def register (d : Headless) (o : NewObject) (h : Handle) : Headless :=
  match o with
  | .shader _ => { d with shaders := d.shaders.insert h {} }
  | .program => { d with programs := d.programs.insert h {} }
  | _ => d

def create (d : Headless) (o : NewObject) : Except RenderError Handle × Headless :=
  match d.creationsLeft with
  | some 0 => (.error (.backend .creationRefused), { d with creationsLeft := none })
  | left =>
    let h := d.lastHandle + 1
    let d := { d with creationsLeft := left.map (· - 1), lastHandle := h, live := h :: d.live }
    (.ok h, (d.register o h).record (.created o h))

/-- Ends the records of an object. -/
def forget (d : Headless) (kind : ObjectKind) (h : Handle) : Headless :=
  match kind with
  | .buffer => { d with buffers := d.buffers.erase h }
  | .shader => { d with shaders := d.shaders.erase h }
  | .program => { d with programs := d.programs.erase h }
  | .framebuffer => { d with fills := d.fills.erase (some h) }
  | .vertexArray | .texture | .renderbuffer => d

def bindBuffer (d : Headless) (target : UInt32) : Option Handle → Headless
  | some b => { d with bound := d.bound.insert target b }
  | none => { d with bound := d.bound.erase target }

def store (d : Headless) (target : UInt32) (bytes : List UInt8) : Headless :=
  match d.bound.get? target with
  | some b => { d with buffers := d.buffers.insert b bytes }
  | none => d

/-- Changes what is known of a shader, if it exists. -/
def updateShader (d : Headless) (h : Handle) (f : Shader → Shader) : Headless :=
  match d.shaders.get? h with
  | some s => { d with shaders := d.shaders.insert h (f s) }
  | none => d

/-- Changes what is known of a program, if it exists. -/
def updateProgram (d : Headless) (h : Handle) (f : Program → Program) : Headless :=
  match d.programs.get? h with
  | some p => { d with programs := d.programs.insert h (f p) }
  | none => d

def compile (d : Headless) (h : Handle) : Headless :=
  let failure := d.compileFailure
  { d with compileFailure := none }.updateShader h fun s =>
    { s with compiled := failure.isNone, log := failure.getD "" }

/-- The shaders attached to a program. -/
def attachedShaders (d : Headless) (p : Program) : List (Option Shader) :=
  p.attached.map d.shaders.get?

def link (d : Headless) (h : Handle) : Headless :=
  let failure := d.linkFailure
  { d with linkFailure := none }.updateProgram h fun p =>
    let shaders := d.attachedShaders p
    let source := "\n".intercalate (shaders.filterMap (Option.map Shader.source))
    match failure with
    | some log => { p with linkedSource := source, linked := false, log }
    | none =>
      if shaders.all (·.any Shader.compiled) then
        { p with linkedSource := source, linked := true, log := "" }
      else
        { p with linkedSource := source, linked := false, log := "attached shader is not compiled" }

def bindFramebuffer (d : Headless) (target : UInt32) (f : Option Handle) : Headless :=
  if target = Gl.readFramebuffer then { d with readFramebuffer := f }
  else if target = Gl.drawFramebuffer then { d with drawFramebuffer := f }
  else { d with readFramebuffer := f, drawFramebuffer := f }

/-- The mask asks for colours. -/
def hasColor (mask : UInt32) : Bool := mask &&& Gl.colorBufferBit ≠ 0

def blit (d : Headless) (mask : UInt32) : Headless :=
  match hasColor mask, d.fills.get? d.readFramebuffer with
  | true, some p => { d with fills := d.fills.insert d.drawFramebuffer p }
  | _, _ => d

def clear (d : Headless) (mask : UInt32) : Headless :=
  if hasColor mask then { d with fills := d.fills.insert d.drawFramebuffer d.clearPixel } else d

/-- What a command does, apart from being recorded. -/
def effect (d : Headless) : Command String → Headless
  | .delete kind h => { d.forget kind h with live := d.live.filter (· ≠ h) }
  | .bindBuffer target b => d.bindBuffer target b
  | .bufferData target bytes _ => d.store target bytes
  | .shaderSource h source => d.updateShader h ({ · with source })
  | .compileShader h => d.compile h
  | .attachShader p s => d.updateProgram p fun q => { q with attached := q.attached ++ [s] }
  | .detachShader p s => d.updateProgram p fun q => { q with attached := q.attached.filter (· ≠ s) }
  | .linkProgram p => d.link p
  | .bindFramebuffer target f => d.bindFramebuffer target f
  | .blitFramebuffer _ _ mask _ => d.blit mask
  | .clearColor r g b a => { d with clearPixel := ⟨r.toByte, g.toByte, b.toByte, a.toByte⟩ }
  | .clear mask => d.clear mask
  | _ => d

def perform (d : Headless) (c : Command String) : Headless := (d.effect c).record (.performed c)

def complaints (d : Headless) : Command String → Journal
  | .delete _ h =>
    if h ∈ d.live then [] else [.warning s!"headless device: deleting unknown object {h}"]
  | .bufferData target _ _ =>
    if (d.bound.get? target).isSome then []
    else [.warning "headless device: buffer_data with no buffer bound"]
  | _ => []

/-- A linked program has the uniforms that its sources declare. Their names are their locations. -/
def locate (d : Headless) (h : Handle) (name : String) : Option String :=
  match d.programs.get? h with
  | some p => if p.linked && declares p.linkedSource name then some name else none
  | none => none

/-- Fills whole pixels and leaves an incomplete one as it is. -/
def fillPixels (p : Pixel) : List UInt8 → List UInt8
  | _ :: _ :: _ :: _ :: rest => p.toList ++ fillPixels p rest
  | rest => rest

theorem length_fillPixels (p : Pixel) (pixels : List UInt8) :
    (fillPixels p pixels).length = pixels.length := by
  fun_induction fillPixels p pixels with
  | case1 _ _ _ _ rest ih => simp [Pixel.toList, ih]
  | case2 => rfl

instance : Device Headless String where
  create := create
  perform := perform
  complaints := complaints
  isCompiled d h := (d.shaders.get? h).any Shader.compiled
  compileLog d h := ((d.shaders.get? h).map Shader.log).getD ""
  isLinked d h := (d.programs.get? h).any Program.linked
  linkLog d h := ((d.programs.get? h).map Program.log).getD ""
  locate d h name := (d.locate h name, d)
  framebufferStatus d _ := (Gl.framebufferComplete, d)
  readPixels d area pixels :=
    (fillPixels ((d.fills.get? d.readFramebuffer).getD .blank) pixels,
      d.record (.pixelsRead area))
  length_readPixels _ _ pixels := length_fillPixels _ pixels

/-- Starts a fresh recording. -/
def clearCalls (d : Headless) : Headless := { d with calls := [] }

end Headless

end SpriteRenderer
