import SpriteRenderer.Context
import SpriteRenderer.Sprite.Builder
import SpriteRenderer.Sprite.Wire

/-! # Scenes

A scene is a host with a context and the named objects that were made on it. The objects of
each kind have names of their own. -/

namespace SpriteRenderer

structure Scene (δ ℓ : Type) where
  host : Host δ
  context : Context
  /-- The session of the next builder, which is not bounded by a word. -/
  nextSession : Nat := 1
  /-- The identity of the next function, which is not bounded by a word. -/
  nextFunction : Nat := 1
  builders : Table String ProcedureBuilder := .empty
  channels : Table String Channel := .empty
  functions : Table String Function := .empty
  procedures : Table String (Procedure ℓ) := .empty
  dataBuffers : Table String DataBuffer := .empty
  /-- Sprites collected to be packed. -/
  spriteLists : Table String (List Sprite) := .empty
  spriteBuffers : Table String SpriteBuffer := .empty
  targets : Table String RenderTarget := .empty
  operations : Table String (Operation ℓ) := .empty

/-- Why a step of a script ends without a value. -/
inductive StepError where
  | refused (e : RenderError)
  /-- No object of the kind wanted has this name. -/
  | noObject (name : String)
deriving DecidableEq, Repr

/-- A step on a scene. -/
abbrev SceneAction (δ ℓ α : Type) := Attempt (Scene δ ℓ) StepError α

namespace SceneAction

variable {δ ℓ α : Type}

/-- The object of a name in one of the tables. -/
def find (table : Scene δ ℓ → Table String α) (name : String) : SceneAction δ ℓ α := fun s =>
  match (table s).get? name with
  | some a => (.ok a, s)
  | none => (.error (.noObject name), s)

/-- Runs an action on the scene's host. -/
def onHost (x : Action δ α) : SceneAction δ ℓ α := fun s =>
  let (r, host) := x s.host
  (r.mapError .refused, { s with host })

/-- A result that may be refused without touching the scene. -/
def check (r : Except RenderError α) : SceneAction δ ℓ α := .ofExcept (r.mapError .refused)

def putBuilder (name : String) (b : ProcedureBuilder) : SceneAction δ ℓ Unit :=
  .modify fun s => { s with builders := s.builders.insert name b }

def putChannel (name : String) (c : Channel) : SceneAction δ ℓ Unit :=
  .modify fun s => { s with channels := s.channels.insert name c }

def putFunction (name : String) (f : Function) : SceneAction δ ℓ Unit :=
  .modify fun s => { s with functions := s.functions.insert name f }

def putProcedure (name : String) (p : Procedure ℓ) : SceneAction δ ℓ Unit :=
  .modify fun s => { s with procedures := s.procedures.insert name p }

def putDataBuffer (name : String) (b : DataBuffer) : SceneAction δ ℓ Unit :=
  .modify fun s => { s with dataBuffers := s.dataBuffers.insert name b }

def putSpriteList (name : String) (sprites : List Sprite) : SceneAction δ ℓ Unit :=
  .modify fun s => { s with spriteLists := s.spriteLists.insert name sprites }

def putSpriteBuffer (name : String) (b : SpriteBuffer) : SceneAction δ ℓ Unit :=
  .modify fun s => { s with spriteBuffers := s.spriteBuffers.insert name b }

def putTarget (name : String) (t : RenderTarget) : SceneAction δ ℓ Unit :=
  .modify fun s => { s with targets := s.targets.insert name t }

def putOperation (name : String) (op : Operation ℓ) : SceneAction δ ℓ Unit :=
  .modify fun s => { s with operations := s.operations.insert name op }

/-- The session of a new builder. -/
def newSession : SceneAction δ ℓ Nat := fun s =>
  (.ok s.nextSession, { s with nextSession := s.nextSession + 1 })

/-- The identity of a new function. -/
def newFunction : SceneAction δ ℓ Nat := fun s =>
  (.ok s.nextFunction, { s with nextFunction := s.nextFunction + 1 })

end SceneAction

namespace Scene

variable {δ ℓ : Type} [Device δ ℓ]

/-- A scene with a new context on a device. -/
def create (device : δ) (config : RendererConfig) (window : Size) :
    Except RenderError (Scene δ ℓ) :=
  let host : Host δ := { device, window }
  match (Context.create config : Action δ Context).run host with
  | (.ok context, host) => .ok { host, context }
  | (.error e, _) => .error e

end Scene

end SpriteRenderer
