import SpriteRenderer.Scene

/-! # Scripts

A script is a list of steps on a scene. A step names the objects it works on and the object
it makes; it ends with an answer, or with an error that leaves the rest of the script to run. -/

namespace SpriteRenderer

/-- A shader type by numbers, which may be out of range. -/
structure ShaderTypeCode where
  kind : ShaderKind
  arity : Nat
deriving DecidableEq, Repr

/-- An input type by numbers, which may be out of range. -/
structure InputTypeCode where
  kind : InputKind
  arity : Nat
deriving DecidableEq, Repr

namespace ShaderTypeCode

def type (c : ShaderTypeCode) : Except RenderError ShaderType := ShaderType.make c.kind c.arity

end ShaderTypeCode

namespace InputTypeCode

def type (c : InputTypeCode) : Except RenderError InputType := InputType.make c.kind c.arity

end InputTypeCode

/-- Where a sprite comes from. -/
inductive SpriteSource where
  | wire (bytes : List UInt8)
  | mesh (s : Sprite)
  | built (color : Color) (steps : List SpriteBuilder.Step)
deriving DecidableEq, Repr

namespace SpriteSource

def sprite : SpriteSource → Except RenderError Sprite
  | wire bytes => Sprite.decode bytes
  | mesh s => .ok s
  | built color steps => ((SpriteBuilder.start color).run steps).build

def journal : SpriteSource → Journal
  | wire bytes => Sprite.decodeJournal bytes
  | mesh _ | built .. => []

/-- The sprites of several sources, up to the first that gives none. -/
def sprites : List SpriteSource → Except RenderError (List Sprite) × Journal
  | [] => (.ok [], [])
  | s :: rest =>
    match s.sprite with
    | .error e => (.error e, s.journal)
    | .ok sprite =>
      let (r, journal) := sprites rest
      (r.map (sprite :: ·), s.journal ++ journal)

end SpriteSource

/-- One call of the library. A parameter `as` names what the call makes. -/
inductive Step where
  -- Builders, channels and functions.
  | newBuilder (as : String)
  | addAttribute (builder : String) (type : ShaderTypeCode) (as : String)
  | addOperation (builder : String) (type : ShaderTypeCode) (as : String)
  | addIntermediate (builder : String) (type : ShaderTypeCode) (expression : Option String)
      (as : String)
  | channelInfo (channel : String)
  | newFunction (name : String) (parameters : List ShaderTypeCode) (source as : String)
  | copyFunction (function as : String)
  | sameFunction (a b : String)
  | call (builder function : String) (arguments : List String)
  | setOutput (builder : String) (output : Output) (channel : String)
  | compose (builder : String)
  -- Procedures.
  /-- Links a builder and gives it up. -/
  | finish (builder as : String)
  /-- Links a builder and keeps it. -/
  | link (builder as : String)
  | procedureInfo (procedure : String)
  | procedureChannel (procedure channel : String)
  | copyProcedure (procedure as : String)
  | freeProcedure (procedure : String)
  -- Data buffers.
  | newData (usage : BufferUsage) (as : String)
  | setLayout (data : String) (layout : List InputTypeCode)
  | setData (data : String) (bytes : List UInt8)
  | dataInfo (data : String)
  | fieldOffset (data : String) (slot : Nat)
  | freeData (data : String)
  -- Sprite buffers.
  | newSprites (as : String)
  | copySprites (sprites as : String)
  | addSprite (sprites : String) (source : SpriteSource)
  | clearSprites (sprites : String)
  | spritesInfo (sprites : String)
  | newBuffer (sprites : String) (usage : BufferUsage) (as : String)
  | repack (sprites buffer : String)
  | bufferInfo (buffer : String)
  | indexRange (buffer : String) (id : Nat)
  | freeBuffer (buffer : String)
  -- Render targets.
  | primaryTarget (as : String)
  /-- A target with a number of samples, or with the number that the context has. -/
  | newTarget (size : Size) (multisampled : Bool) (as : String) (samples : Option Int32 := none)
  | targetInfo (target : String)
  | resize (target : String) (size : Size)
  | bind (target : String)
  | clear (target : String) (r g b : UInt8)
  | blit (target destination : String) (x y : Int32)
  | read (target : String)
  | freeTarget (target : String)
  | setWindow (size : Size)
  -- Operations.
  | newOperation (procedure as : String)
  | setAttribute (operation channel data : String) (offset slot : Nat)
  | binding (operation channel : String)
  | setValue (operation channel : String) (value : ChannelValue)
  | value (operation channel : String)
  | setSprite (operation buffer : String) (id : Nat)
  | setAmount (operation : String) (amount : UInt32)
  | operationInfo (operation : String)
  | draw (operation target : String)
  | freeOperation (operation : String)
deriving DecidableEq, Repr

/-- What a step that succeeds tells. -/
inductive Answer where
  | nothing
  | channel (c : Channel)
  | function (f : Function)
  | truth (b : Bool)
  | composed (s : ComposedShader)
  | program (h : Handle)
  | procedure (program : Handle) (vertexSource : String)
  | procedureChannel (owns : Bool) (slot : Option AttributeSlot) (uniform : Option ShaderType)
  | handle (h : Handle)
  | dataBuffer (b : DataBuffer)
  | number (n : Nat)
  | spriteList (sprites : List Sprite)
  | spriteBuffer (b : SpriteBuffer)
  | range (r : Option (UInt32 × UInt32))
  | target (primary multisampled : Bool) (size : Size)
  | image (i : Image)
  | binding (b : Option InstanceBinding)
  | value (v : Option ChannelValue)
  | operation (range : Option (UInt32 × UInt32)) (amount : UInt32) (program : Handle)
  | bytes (bs : Option (List UInt8))
  | text (s : String)
deriving DecidableEq, Repr

namespace Script

open SceneAction

variable {δ ℓ : Type}

/-- Makes a channel of a type that is checked before the builder is looked up. -/
def addChannel (builder : String) (type : ShaderTypeCode) (as : String)
    (add : ProcedureBuilder → ShaderType → Channel × ProcedureBuilder) :
    SceneAction δ ℓ Answer := do
  let type ← check type.type
  let b ← find Scene.builders builder
  let (c, b) := add b type
  putBuilder builder b
  putChannel as c
  return .channel c

/-- Writes records into the journal. -/
def writeAll (journal : Journal) : SceneAction δ ℓ Unit :=
  onHost (.modify fun h => { h with journal := h.journal ++ journal })

/-- What a step tells about a target. -/
def targetAnswer (t : RenderTarget) : SceneAction δ ℓ Answer := do
  let window ← onHost Action.window
  return .target t.isPrimary t.isMultisampled (t.size window)

variable [Device δ ℓ]

/-- Carries a step out. -/
def perform : Step → SceneAction δ ℓ Answer
  | .newBuilder as => do
    let session ← newSession
    let context ← .read Scene.context
    putBuilder as (context.builder session)
    return .nothing
  | .addAttribute builder type as => addChannel builder type as ProcedureBuilder.addAttribute
  | .addOperation builder type as => addChannel builder type as ProcedureBuilder.addOperation
  | .addIntermediate builder type expression as =>
    addChannel builder type as fun b t => b.addIntermediate t expression
  | .channelInfo channel => do return .channel (← find Scene.channels channel)
  | .newFunction name parameters source as => do
    let parameters ← check (parameters.mapM ShaderTypeCode.type)
    let id ← newFunction
    let f : Function := { id, name, parameters, source }
    putFunction as f
    return .function f
  | .copyFunction function as => do
    putFunction as (← find Scene.functions function)
    return .nothing
  | .sameFunction a b => do
    let f ← find Scene.functions a
    let g ← find Scene.functions b
    return .truth (f = g)
  | .call builder function arguments => do
    let arguments ← arguments.mapM (find Scene.channels)
    let f ← find Scene.functions function
    let b ← find Scene.builders builder
    putBuilder builder (← check (b.call f arguments))
    return .nothing
  | .setOutput builder output channel => do
    let c ← find Scene.channels channel
    let b ← find Scene.builders builder
    putBuilder builder (← check (b.setOutput output c))
    return .nothing
  | .compose builder => do
    let b ← find Scene.builders builder
    return .composed (← check b.compose)
  | .finish builder as => do
    let b ← find Scene.builders builder
    .modify fun s => { s with builders := s.builders.erase builder }
    let p ← onHost (Procedure.ofBuilder b)
    putProcedure as p
    return .program p.program
  | .link builder as => do
    let b ← find Scene.builders builder
    let p ← onHost (Procedure.ofBuilder b)
    putProcedure as p
    return .program p.program
  | .procedureInfo procedure => do
    let p ← find Scene.procedures procedure
    return .procedure p.program p.vertexSource
  | .procedureChannel procedure channel => do
    let p ← find Scene.procedures procedure
    let c ← find Scene.channels channel
    return .procedureChannel (p.owns c) (p.attribute? c) (p.uniformType? c)
  | .copyProcedure procedure as => do
    putProcedure as (← find Scene.procedures procedure)
    return .nothing
  | .freeProcedure procedure => do
    let p ← find Scene.procedures procedure
    .modify fun s => { s with procedures := s.procedures.erase procedure }
    onHost p.free
    return .nothing
  | .newData usage as => do
    let b ← onHost (DataBuffer.create usage)
    putDataBuffer as b
    return .handle b.handle
  | .setLayout data layout => do
    let layout ← check (layout.mapM InputTypeCode.type)
    let b ← find Scene.dataBuffers data
    putDataBuffer data (b.setLayout layout)
    return .nothing
  | .setData data bytes => do
    let b ← find Scene.dataBuffers data
    putDataBuffer data (← onHost (b.setData bytes))
    return .nothing
  | .dataInfo data => do return .dataBuffer (← find Scene.dataBuffers data)
  | .fieldOffset data slot => do
    let b ← find Scene.dataBuffers data
    let (_, start) ← check (b.field slot)
    return .number start
  | .freeData data => do
    let b ← find Scene.dataBuffers data
    .modify fun s => { s with dataBuffers := s.dataBuffers.erase data }
    onHost b.free
    return .nothing
  | .newSprites as => do
    putSpriteList as []
    return .nothing
  | .copySprites sprites as => do
    putSpriteList as (← find Scene.spriteLists sprites)
    return .nothing
  | .addSprite sprites source => do
    writeAll source.journal
    let sprite ← check source.sprite
    let list ← find Scene.spriteLists sprites
    putSpriteList sprites (list ++ [sprite])
    return .number list.length
  | .clearSprites sprites => do
    let _ ← find Scene.spriteLists sprites
    putSpriteList sprites []
    return .nothing
  | .spritesInfo sprites => do return .spriteList (← find Scene.spriteLists sprites)
  | .newBuffer sprites usage as => do
    let list ← find Scene.spriteLists sprites
    let b ← onHost (SpriteBuffer.create list usage)
    putSpriteBuffer as b
    return .spriteBuffer b
  | .repack sprites buffer => do
    let b ← find Scene.spriteBuffers buffer
    let list ← find Scene.spriteLists sprites
    let b ← onHost (b.repack list)
    putSpriteBuffer buffer b
    return .spriteBuffer b
  | .bufferInfo buffer => do return .spriteBuffer (← find Scene.spriteBuffers buffer)
  | .indexRange buffer id => do
    let b ← find Scene.spriteBuffers buffer
    return .range (b.indexRange? id)
  | .freeBuffer buffer => do
    let b ← find Scene.spriteBuffers buffer
    .modify fun s => { s with spriteBuffers := s.spriteBuffers.erase buffer }
    onHost b.free
    return .nothing
  | .primaryTarget as => do
    putTarget as .primary
    targetAnswer .primary
  | .newTarget size multisampled as samples => do
    let context ← .read Scene.context
    let t ← onHost (context.createTarget size multisampled samples)
    putTarget as t
    targetAnswer t
  | .targetInfo target => do targetAnswer (← find Scene.targets target)
  | .resize target size => do
    let t ← find Scene.targets target
    let t ← check (t.withSize size)
    putTarget target t
    onHost t.allocate
    return .nothing
  | .bind target => do
    let t ← find Scene.targets target
    onHost t.bind
    return .nothing
  | .clear target r g b => do
    let t ← find Scene.targets target
    onHost (t.clear r g b)
    return .nothing
  | .blit target destination x y => do
    let t ← find Scene.targets target
    let d ← find Scene.targets destination
    onHost (t.blitTo d x y)
    return .nothing
  | .read target => do
    let t ← find Scene.targets target
    return .image (← onHost t.readPixels)
  | .freeTarget target => do
    let t ← find Scene.targets target
    .modify fun s => { s with targets := s.targets.erase target }
    onHost t.free
    return .nothing
  | .setWindow size => do
    onHost (.modify ({ · with window := size }))
    return .nothing
  | .newOperation procedure as => do
    let p ← find Scene.procedures procedure
    let op ← onHost (Operation.create p)
    putOperation as op
    return .program p.program
  | .setAttribute operation channel data offset slot => do
    let c ← find Scene.channels channel
    let b ← find Scene.dataBuffers data
    let op ← find Scene.operations operation
    let op ← onHost (op.setAttribute c b offset slot)
    putOperation operation op
    return .binding (op.binding? c)
  | .binding operation channel => do
    let op ← find Scene.operations operation
    let c ← find Scene.channels channel
    return .binding (op.binding? c)
  | .setValue operation channel value => do
    let c ← find Scene.channels channel
    let op ← find Scene.operations operation
    let op ← check (op.setValue c value)
    putOperation operation op
    return .value (op.value? c)
  | .value operation channel => do
    let c ← find Scene.channels channel
    let op ← find Scene.operations operation
    return .value (op.value? c)
  | .setSprite operation buffer id => do
    let b ← find Scene.spriteBuffers buffer
    let op ← find Scene.operations operation
    let op ← onHost (op.setSprite b id)
    putOperation operation op
    return .range op.sprite
  | .setAmount operation amount => do
    let op ← find Scene.operations operation
    let op := op.setAmount amount
    putOperation operation op
    return .number op.amount.toNat
  | .operationInfo operation => do
    let op ← find Scene.operations operation
    return .operation op.sprite op.amount op.procedure.program
  | .draw operation target => do
    let t ← find Scene.targets target
    let op ← find Scene.operations operation
    onHost (op.drawTo t)
    return .nothing
  | .freeOperation operation => do
    let op ← find Scene.operations operation
    .modify fun s => { s with operations := s.operations.erase operation }
    onHost op.free
    return .nothing

/-- The answers of all steps, and the scene after them. -/
def run : List Step → Scene δ ℓ → List (Except StepError Answer) × Scene δ ℓ
  | [], s => ([], s)
  | step :: steps, s =>
    let (answer, s) := perform step s
    let (answers, s) := run steps s
    (answer :: answers, s)

/-! ## Direct requests -/

/-- A request that goes to the device itself, past the objects of the scene. -/
inductive Request (ℓ : Type) where
  | create (o : NewObject)
  | command (c : Command ℓ)
  | isCompiled (shader : Handle)
  | compileLog (shader : Handle)
  | isLinked (program : Handle)
  | linkLog (program : Handle)
  | hasUniform (program : Handle) (name : String)
  /-- Uploads a value to a uniform, if the program has it. -/
  | uniform (program : Handle) (name : String) (value : ChannelValue)
  | framebufferStatus (target : UInt32)
  | readPixels (area : Area) (pixels : List UInt8)
deriving DecidableEq, Repr

def request : Request ℓ → Action δ Answer
  | .create o => do return .handle (← Action.create o)
  | .command c => do
    Action.perform [c]
    return .nothing
  | .isCompiled h => do return .truth (← Action.query fun d => (Device.isCompiled d h, d))
  | .compileLog h => do return .text (← Action.query fun d => (Device.compileLog d h, d))
  | .isLinked h => do return .truth (← Action.query fun d => (Device.isLinked d h, d))
  | .linkLog h => do return .text (← Action.query fun d => (Device.linkLog d h, d))
  | .hasUniform h name => do
    let location ← Action.query fun d => Device.locate d h name
    return .truth location.isSome
  | .uniform h name value => do
    match ← Action.query fun d => Device.locate d h name with
    | some location =>
      Action.perform [.uniform location value]
      return .truth true
    | none => return .truth false
  | .framebufferStatus target => do
    let status ← Action.query fun d => Device.framebufferStatus d target
    return .number status.toNat
  | .readPixels area pixels => do
    let pixels ← Action.query fun d => Device.readPixels d area pixels
    return .bytes (some pixels)

end Script

end SpriteRenderer
