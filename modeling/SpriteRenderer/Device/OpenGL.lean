import SpriteRenderer.Device
import SpriteRenderer.Gl
import SpriteRenderer.Table

/-! # OpenGL calls

The device whose commands are calls of the OpenGL interface. The context behind it carries
no call out: it names objects and uniforms, answers queries and records the calls. -/

namespace SpriteRenderer

namespace OpenGL

inductive Argument where
  | number (n : Int)
  | text (s : String)
  | bytes (bs : List UInt8)
  /-- A double by its bit pattern. -/
  | double (bits : Nat)
deriving DecidableEq, Repr

namespace Argument

def word (w : UInt32) : Argument := number w.toNat

def signed (i : Int32) : Argument := number i.toInt

/-- A missing object has the name 0. -/
def object : Option Handle → Argument
  | some h => number h
  | none => number 0

def name (h : Handle) : Argument := number h

def single (x : Single) : Argument := word x.bits

def flag (b : Bool) : Argument := number (if b then 1 else 0)

end Argument

structure CCall where
  function : String
  arguments : List Argument
deriving DecidableEq, Repr

/-- The collective name of the objects that are created and deleted in arrays. -/
def pluralName? : ObjectKind → Option String
  | .buffer => some "Buffers"
  | .vertexArray => some "VertexArrays"
  | .framebuffer => some "Framebuffers"
  | .texture => some "Textures"
  | .renderbuffer => some "Renderbuffers"
  | .shader | .program => none

open Argument

def creationCall (o : NewObject) (h : Handle) : CCall :=
  match o with
  | .shader stage => ⟨"glCreateShader", [word stage, name h]⟩
  | .program => ⟨"glCreateProgram", [name h]⟩
  | o => ⟨"glGen" ++ (pluralName? o.kind).getD "", [name h]⟩

def deletionCall (kind : ObjectKind) (h : Handle) : CCall :=
  match kind with
  | .shader => ⟨"glDeleteShader", [name h]⟩
  | .program => ⟨"glDeleteProgram", [name h]⟩
  | kind => ⟨"glDelete" ++ (pluralName? kind).getD "", [name h]⟩

/-- The end of the name of the function that uploads a value. -/
def uniformSuffix : ChannelValue → String
  | .ints c => s!"{c.arity.toNat}i"
  | .uints c => s!"{c.arity.toNat}ui"
  | .floats c => s!"{c.arity.toNat}f"

def cornerArguments (c : Corners) : List Argument :=
  [signed c.x₀, signed c.y₀, signed c.x₁, signed c.y₁]

def areaArguments (a : Area) : List Argument :=
  [signed a.x, signed a.y, signed a.width, signed a.height]

/-- A source is recorded by the number and the sum of its bytes. -/
def sourceArguments (source : String) : List Argument :=
  let bytes := source.toUTF8.toList
  [number bytes.length, number (bytes.foldl (fun n b => n + b.toNat) 0)]

/-- The call that a command makes. -/
def callOf : Command Nat → CCall
  | .delete kind h => deletionCall kind h
  | .bindBuffer target b => ⟨"glBindBuffer", [word target, object b]⟩
  | .bufferData target data usage => ⟨"glBufferData", [word target, bytes data, word usage]⟩
  | .bindVertexArray v => ⟨"glBindVertexArray", [object v]⟩
  | .enableVertexAttribArray index => ⟨"glEnableVertexAttribArray", [word index]⟩
  | .vertexAttribPointerFloat p normalized =>
    ⟨"glVertexAttribPointer", [word p.index, signed p.size, word p.type, flag normalized,
      signed p.stride, signed p.offset]⟩
  | .vertexAttribPointerInt p =>
    ⟨"glVertexAttribIPointer", [word p.index, signed p.size, word p.type, signed p.stride,
      signed p.offset]⟩
  | .vertexAttribDivisor index divisor =>
    ⟨"glVertexAttribDivisor", [word index, word divisor]⟩
  | .shaderSource s source => ⟨"glShaderSource", name s :: sourceArguments source⟩
  | .compileShader s => ⟨"glCompileShader", [name s]⟩
  | .attachShader p s => ⟨"glAttachShader", [name p, name s]⟩
  | .detachShader p s => ⟨"glDetachShader", [name p, name s]⟩
  | .linkProgram p => ⟨"glLinkProgram", [name p]⟩
  | .useProgram p => ⟨"glUseProgram", [object p]⟩
  | .uniform location value =>
    ⟨"glUniform" ++ uniformSuffix value, number location :: value.words.map number⟩
  | .bindFramebuffer target f => ⟨"glBindFramebuffer", [word target, object f]⟩
  | .framebufferTexture2D target attachment textureTarget t level =>
    ⟨"glFramebufferTexture2D", [word target, word attachment, word textureTarget, object t,
      signed level]⟩
  | .framebufferRenderbuffer target attachment renderbufferTarget r =>
    ⟨"glFramebufferRenderbuffer", [word target, word attachment, word renderbufferTarget,
      object r]⟩
  | .bindTexture target t => ⟨"glBindTexture", [word target, object t]⟩
  | .texStorage2D target internalFormat width height format type =>
    ⟨"glTexImage2D", [word target, number 0, signed internalFormat.toInt32, signed width,
      signed height, number 0, word format, word type, number 0]⟩
  | .texParameter target parameter value =>
    ⟨"glTexParameteri", [word target, word parameter, signed value]⟩
  | .bindRenderbuffer r => ⟨"glBindRenderbuffer", [word Gl.renderbuffer, object r]⟩
  | .renderbufferStorageMultisample samples internalFormat width height =>
    ⟨"glRenderbufferStorageMultisample", [word Gl.renderbuffer, signed samples,
      word internalFormat, signed width, signed height]⟩
  | .blitFramebuffer source destination mask filter =>
    ⟨"glBlitFramebuffer", cornerArguments source ++ cornerArguments destination ++
      [word mask, word filter]⟩
  | .viewport area => ⟨"glViewport", areaArguments area⟩
  | .clearColor r g b a => ⟨"glClearColor", [single r, single g, single b, single a]⟩
  | .clearDepth depth => ⟨"glClearDepth", [double depth.toDoubleBits]⟩
  | .clear mask => ⟨"glClear", [word mask]⟩
  | .enable capability => ⟨"glEnable", [word capability]⟩
  | .disable capability => ⟨"glDisable", [word capability]⟩
  | .depthFunc func => ⟨"glDepthFunc", [word func]⟩
  | .blendFunc source destination => ⟨"glBlendFunc", [word source, word destination]⟩
  | .drawElementsInstanced mode count type offset instances =>
    ⟨"glDrawElementsInstanced", [word mode, signed count, word type, signed offset,
      signed instances]⟩

end OpenGL

structure OpenGL where
  /-- The name given last, to whatever kind of object. -/
  lastName : Handle := 0
  /-- How many uniforms were located. -/
  located : Nat := 0
  live : List Handle := []
  calls : List OpenGL.CCall := []
  /-- The uniforms that no program has. -/
  missing : List String := []
  /-- What every framebuffer's status is. -/
  status : UInt32 := Gl.framebufferComplete
  /-- How many compilations succeed before one fails, and the log of that one. -/
  compileFailure : Option (Nat × String) := none
  /-- The log of the next linking, which fails. -/
  linkFailure : Option String := none
  /-- The logs of the shaders and programs that failed last. -/
  failures : Table Handle String := .empty

namespace OpenGL

/-! ## Failures to come -/

def failCompileAfter (d : OpenGL) (n : Nat) (log : String) : OpenGL :=
  { d with compileFailure := some (n, log) }

def failNextLink (d : OpenGL) (log : String) : OpenGL := { d with linkFailure := some log }

/-! ## Requests -/

def record (d : OpenGL) (c : CCall) : OpenGL := { d with calls := d.calls ++ [c] }

def create (d : OpenGL) (o : NewObject) : Except RenderError Handle × OpenGL :=
  let h := d.lastName + 1
  (.ok h, { d with lastName := h, live := h :: d.live }.record (creationCall o h))

def compile (d : OpenGL) (shader : Handle) : OpenGL :=
  match d.compileFailure with
  | some (0, log) =>
    { d with compileFailure := none, failures := d.failures.insert shader log }
  | some (n + 1, log) =>
    { d with compileFailure := some (n, log), failures := d.failures.erase shader }
  | none => { d with failures := d.failures.erase shader }

def link (d : OpenGL) (program : Handle) : OpenGL :=
  match d.linkFailure with
  | some log => { d with linkFailure := none, failures := d.failures.insert program log }
  | none => { d with failures := d.failures.erase program }

/-- What a command does, apart from being recorded. -/
def effect (d : OpenGL) : Command Nat → OpenGL
  | .delete _ h => { d with live := d.live.filter (· ≠ h) }
  | .compileShader s => d.compile s
  | .linkProgram p => d.link p
  | _ => d

/-- Every lookup that succeeds gives a location of its own. -/
def locate (d : OpenGL) (program : Handle) (uniform : String) : Option Nat × OpenGL :=
  let answer (n : Int) : CCall :=
    ⟨"glGetUniformLocation", [.name program, .text uniform, .number n]⟩
  if uniform ∈ d.missing then (none, d.record (answer (-1)))
  else (some d.located, { d with located := d.located + 1 }.record (answer d.located))

/-- The pixel in column `c` of row `r`. -/
def pixelAt (c r : Nat) : List UInt8 := [.ofNat c, .ofNat r, .ofNat (c + r), 255]

/-- The pixels of an area, row by row. -/
def areaPixels (area : Area) : List UInt8 :=
  let width := area.width.toInt.toNat
  (List.range (width * area.height.toInt.toNat)).flatMap fun i => pixelAt (i % width) (i / width)

/-- Replaces the start of a list and keeps its length. -/
def overwrite (new old : List UInt8) : List UInt8 :=
  (new ++ old.drop new.length).take old.length

theorem length_overwrite (new old : List UInt8) : (overwrite new old).length = old.length := by
  simp only [overwrite, List.length_take, List.length_append, List.length_drop]
  omega

instance : Device OpenGL Nat where
  create := create
  perform d c := (d.effect c).record (callOf c)
  isCompiled d h := (d.failures.get? h).isNone
  compileLog d h := (d.failures.get? h).getD ""
  isLinked d h := (d.failures.get? h).isNone
  linkLog d h := (d.failures.get? h).getD ""
  locate := locate
  framebufferStatus d target := (d.status, d.record ⟨"glCheckFramebufferStatus", [.word target]⟩)
  readPixels d area pixels :=
    (overwrite (areaPixels area) pixels,
      d.record ⟨"glReadPixels", areaArguments area ++ [.word Gl.rgba, .word Gl.unsignedByte]⟩)
  length_readPixels _ _ pixels := length_overwrite _ pixels

/-- Starts a fresh recording. -/
def clearCalls (d : OpenGL) : OpenGL := { d with calls := [] }

end OpenGL

end SpriteRenderer
