import SpriteRenderer.Procedure.Channel
import SpriteRenderer.Table
import SpriteRenderer.Template

/-! # Building procedures

A builder makes channels, records calls of functions on them and binds outputs. It
accepts its own channels only. A refused step changes nothing. A function is declared when it is
called first; what is declared is told by the identities, which copies share. -/

namespace SpriteRenderer

structure Call where
  function : Function
  arguments : List Channel
deriving DecidableEq, Repr

structure ProcedureBuilder where
  session : Nat
  templates : ShaderTemplates
  glslVersion : String
  /-- The location of the first attribute. -/
  layoutStart : UInt32
  /-- The identity of the next channel, which is not bounded by a word. -/
  nextChannel : Nat := 1
  attributes : List Channel := []
  uniforms : List Channel := []
  /-- Intermediate channels and the expressions that initialise them. -/
  locals : List (Channel × Option String) := []
  /-- The functions that are declared, in the order of their first calls. -/
  functions : List Function := []
  /-- The identities of the functions that are declared. -/
  functionIds : Table Nat Unit := .empty
  calls : List Call := []
  outputs : Table Output Channel := .empty

namespace ProcedureBuilder

/-! ## Channels -/

/-- The channel made next. -/
def fresh (b : ProcedureBuilder) (role : ChannelRole) (type : ShaderType) : Channel :=
  ⟨b.session, b.nextChannel, role, type⟩

def addAttribute (b : ProcedureBuilder) (type : ShaderType) : Channel × ProcedureBuilder :=
  let c := b.fresh .perInstance type
  (c, { b with nextChannel := b.nextChannel + 1, attributes := b.attributes ++ [c] })

def addOperation (b : ProcedureBuilder) (type : ShaderType) : Channel × ProcedureBuilder :=
  let c := b.fresh .perDraw type
  (c, { b with nextChannel := b.nextChannel + 1, uniforms := b.uniforms ++ [c] })

def addIntermediate (b : ProcedureBuilder) (type : ShaderType) (expression : Option String) :
    Channel × ProcedureBuilder :=
  let c := b.fresh .intermediate type
  (c, { b with nextChannel := b.nextChannel + 1, locals := b.locals ++ [(c, expression)] })

def owns (b : ProcedureBuilder) (c : Channel) : Bool := c.session = b.session

/-! ## Calls -/

/-- Checks the arguments from position `i` on, the owner of each before its type. -/
def checkArguments (b : ProcedureBuilder) (function : String) (i : Nat) :
    List (ShaderType × Channel) → Except RenderError Unit
  | [] => .ok ()
  | (expected, c) :: rest =>
    if !b.owns c then .error .foreignChannel
    else if expected ≠ c.type then .error (.typeMismatch function i expected c.type)
    else b.checkArguments function (i + 1) rest

/-- Adds a call, and declares its function unless it, or a copy of it, is declared already. -/
def withCall (b : ProcedureBuilder) (call : Call) : ProcedureBuilder :=
  { b with
    functions :=
      if call.function.id ∈ b.functionIds then b.functions else b.functions ++ [call.function]
    functionIds := b.functionIds.insert call.function.id ()
    calls := b.calls ++ [call] }

/-- Records a call. -/
def call (b : ProcedureBuilder) (f : Function) (arguments : List Channel) :
    Except RenderError ProcedureBuilder := do
  if f.parameters.length ≠ arguments.length then
    throw (.arityMismatch f.name f.parameters.length arguments.length)
  b.checkArguments f.name 0 (f.parameters.zip arguments)
  return b.withCall ⟨f, arguments⟩

/-! ## Outputs -/

/-- Binds an output to a channel, in place of the channel it was bound to. -/
def setOutput (b : ProcedureBuilder) (o : Output) (c : Channel) :
    Except RenderError ProcedureBuilder :=
  if !b.owns c then .error .foreignChannel
  else if c.type ≠ o.requiredType then .error (.invalidOutputType o c.type)
  else .ok { b with outputs := b.outputs.insert o c }

end ProcedureBuilder

end SpriteRenderer
