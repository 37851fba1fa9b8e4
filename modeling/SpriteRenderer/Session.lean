import SpriteRenderer.Device.Headless
import SpriteRenderer.Device.OpenGL
import SpriteRenderer.Inspect
import SpriteRenderer.Script

/-! # Sessions

A session runs directives on a scene. After each it notes what the device recorded meanwhile,
how many objects are alive, and what was written into the journal. -/

namespace SpriteRenderer

/-- What happened since the note before. -/
structure Note (κ : Type) where
  calls : List κ
  live : Nat
  journal : Journal

/-- How a session ends one directive. -/
structure Outcome (κ : Type) where
  result : Except StepError Answer
  note : Note κ

/-- What a session tells, unless its context cannot be created. -/
structure Transcript (κ : Type) where
  start : Note κ
  outcomes : List (Outcome κ)

namespace Session

variable {δ ℓ κ : Type}

/-- Runs directives one after the other and notes each. -/
def outcomes {ι : Type} (carryOut : ι → SceneAction δ ℓ Answer)
    (note : Scene δ ℓ → Note κ × Scene δ ℓ) : List ι → Scene δ ℓ → List (Outcome κ)
  | [], _ => []
  | directive :: rest, s =>
    let (result, s) := carryOut directive s
    let (n, s) := note s
    ⟨result, n⟩ :: outcomes carryOut note rest s

def transcript {ι : Type} (carryOut : ι → SceneAction δ ℓ Answer)
    (note : Scene δ ℓ → Note κ × Scene δ ℓ) (directives : List ι) (s : Scene δ ℓ) : Transcript κ :=
  let (start, s) := note s
  ⟨start, outcomes carryOut note directives s⟩

end Session

/-! ## Sessions on the headless device -/

/-- What can be shown for inspection. -/
inductive Exhibit where
  | context
  | procedure (name : String)
  | operation (name : String)
  | target (name : String)
deriving DecidableEq, Repr

namespace Headless

inductive Directive where
  | step (s : Step)
  | request (r : Script.Request String)
  | failCompile (log : String)
  | failLink (log : String)
  | failCreation (after : Nat)
  | bufferContents (buffer : Handle)
  /-- Makes one call and counts the calls that are recorded. -/
  | recorded
  | inspect (e : Exhibit)
deriving DecidableEq, Repr

/-- Changes the device behind the scene. -/
def configure (f : Headless → Headless) : SceneAction Headless String Answer := do
  Attempt.modify fun s => { s with host := { s.host with device := f s.host.device } }
  return .nothing

def exhibit (e : Exhibit) : SceneAction Headless String Answer := do
  let window ← SceneAction.onHost Action.window
  match e with
  | .context => return .text (Inspect.context window (← .read Scene.context))
  | .procedure name => return .text (Inspect.procedure (← SceneAction.find Scene.procedures name))
  | .operation name => return .text (Inspect.operation (← SceneAction.find Scene.operations name))
  | .target name => return .text (Inspect.target window (← SceneAction.find Scene.targets name))

def carryOut : Directive → SceneAction Headless String Answer
  | .step s => Script.perform s
  | .request r => SceneAction.onHost (Script.request r)
  | .failCompile log => configure (·.failNextCompile log)
  | .failLink log => configure (·.failNextLink log)
  | .failCreation n => configure (·.failCreationAfter n)
  | .bufferContents b => do return .bytes (← .read (·.host.device.bufferContents b))
  | .recorded => do
    SceneAction.onHost (Action.perform [.bindVertexArray none])
    return .number (← .read (·.host.device.calls.length))
  | .inspect e => exhibit e

def note (s : Scene Headless String) : Note DeviceCall × Scene Headless String :=
  let d := s.host.device
  (⟨d.calls, d.live.length, s.host.journal⟩,
    { s with host := { s.host with device := d.clearCalls, journal := [] } })

/-- A session on a new device. -/
def session (config : RendererConfig) (window : Size) (directives : List Directive) :
    Except RenderError (Transcript DeviceCall) :=
  (Scene.create ({} : Headless) config window).map (Session.transcript carryOut note directives)

end Headless

/-! ## Sessions on OpenGL -/

namespace OpenGL

inductive Directive where
  | step (s : Step)
  | request (r : Script.Request Nat)
  | failCompile (after : Nat) (log : String)
  | failLink (log : String)
deriving DecidableEq, Repr

def configure (f : OpenGL → OpenGL) : SceneAction OpenGL Nat Answer := do
  Attempt.modify fun s => { s with host := { s.host with device := f s.host.device } }
  return .nothing

def carryOut : Directive → SceneAction OpenGL Nat Answer
  | .step s => Script.perform s
  | .request r => SceneAction.onHost (Script.request r)
  | .failCompile n log => configure (·.failCompileAfter n log)
  | .failLink log => configure (·.failNextLink log)

def note (s : Scene OpenGL Nat) : Note CCall × Scene OpenGL Nat :=
  let d := s.host.device
  (⟨d.calls, d.live.length, s.host.journal⟩,
    { s with host := { s.host with device := d.clearCalls, journal := [] } })

/-- A session on a context that lacks some uniforms and reports one framebuffer status. -/
def session (missing : List String) (status : UInt32) (config : RendererConfig) (window : Size)
    (directives : List Directive) : Except RenderError (Transcript CCall) :=
  (Scene.create ({ missing, status } : OpenGL) config window).map
    (Session.transcript carryOut note directives)

end OpenGL

end SpriteRenderer
