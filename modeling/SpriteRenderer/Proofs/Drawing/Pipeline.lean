import Mathlib.Logic.Function.Basic
import SpriteRenderer.Proofs.Objects.Exchange
import SpriteRenderer.Proofs.Procedure.Locations

/-! # Replaying the pipeline

What recorded calls mean for drawing. What is bound stays bound until something else is, or until
it is deleted; what does not exist cannot be bound. Uniforms belong to programs and stay set. -/

namespace SpriteRenderer

/-- What is bound and set. No framebuffer is the window's. -/
structure Pipeline where
  /-- The objects that exist. -/
  objects : Multiset Object := 0
  program : Option Handle := none
  vertexArray : Option Handle := none
  drawFramebuffer : Option Handle := none
  readFramebuffer : Option Handle := none
  viewport : Option Area := none
  clearColor : Option (Single × Single × Single × Single) := none
  /-- By program and location. -/
  uniforms : Handle → String → Option ChannelValue := fun _ _ => none

namespace Pipeline

/-- The object exists. What is no object can be bound at any time. -/
def exist (g : Pipeline) (kind : ObjectKind) (h : Option Handle) : Bool :=
  h.all fun h => decide (⟨kind, h⟩ ∈ g.objects)

def bindFramebuffer (g : Pipeline) (target : UInt32) (f : Option Handle) : Pipeline :=
  if target = Gl.readFramebuffer then { g with readFramebuffer := f }
  else if target = Gl.drawFramebuffer then { g with drawFramebuffer := f }
  else { g with readFramebuffer := f, drawFramebuffer := f }

/-- Sets a uniform of the program in use. -/
def setUniform (g : Pipeline) (location : String) (v : ChannelValue) : Pipeline :=
  match g.program with
  | some p =>
    { g with
      uniforms :=
        Function.update g.uniforms p (Function.update (g.uniforms p) location (some v)) }
  | none => g

/-- Unbinds an object. A program stays in use until another one is used. -/
def unbind (g : Pipeline) (kind : ObjectKind) (h : Handle) : Pipeline :=
  match kind with
  | .framebuffer =>
    { g with
      drawFramebuffer := g.drawFramebuffer.filter (· ≠ h)
      readFramebuffer := g.readFramebuffer.filter (· ≠ h) }
  | .vertexArray => { g with vertexArray := g.vertexArray.filter (· ≠ h) }
  | _ => g

/-- What a command means for the pipeline. Linking a program clears its uniforms. -/
def perform (g : Pipeline) : Command String → Pipeline
  | .delete kind h => { g.unbind kind h with objects := g.objects.erase ⟨kind, h⟩ }
  | .useProgram p => if g.exist .program p then { g with program := p } else g
  | .bindVertexArray v => if g.exist .vertexArray v then { g with vertexArray := v } else g
  | .bindFramebuffer target f => if g.exist .framebuffer f then g.bindFramebuffer target f else g
  | .linkProgram p => { g with uniforms := Function.update g.uniforms p fun _ => none }
  | .uniform location v => g.setUniform location v
  | .viewport area => { g with viewport := area }
  | .clearColor r g' b a => { g with clearColor := (r, g', b, a) }
  | _ => g

/-- What a recorded call means for the pipeline. -/
def apply (g : Pipeline) : DeviceCall → Pipeline
  | .created o h => { g with objects := ⟨o.kind, h⟩ ::ₘ g.objects }
  | .performed c => g.perform c
  | .pixelsRead _ => g

/-- The pipeline after recorded calls. -/
def replay (calls : List DeviceCall) : Pipeline := calls.foldl apply {}

def performAll (g : Pipeline) (cs : List (Command String)) : Pipeline := cs.foldl perform g

@[simp] theorem performAll_nil (g : Pipeline) : g.performAll [] = g := rfl

@[simp] theorem performAll_cons (g : Pipeline) (c : Command String) (cs : List (Command String)) :
    g.performAll (c :: cs) = (g.perform c).performAll cs :=
  rfl

theorem performAll_append (g : Pipeline) (cs ds : List (Command String)) :
    g.performAll (cs ++ ds) = (g.performAll cs).performAll ds := by
  simp [performAll]

theorem replay_append_performed (calls : List DeviceCall) (cs : List (Command String)) :
    replay (calls ++ cs.map .performed) = (replay calls).performAll cs := by
  simp [replay, performAll, List.foldl_map, apply]

/-! ## Objects -/

theorem objects_bindFramebuffer (g : Pipeline) (target : UInt32) (f : Option Handle) :
    (g.bindFramebuffer target f).objects = g.objects := by
  unfold bindFramebuffer
  split
  · rfl
  · split <;> rfl

theorem objects_perform (g : Pipeline) (c : Command String) :
    (g.perform c).objects = g.objects - deleted [c] := by
  cases c with
  | delete kind h => exact (Multiset.sub_singleton _ _).symm
  | useProgram p => simp only [perform]; split <;> exact (tsub_zero _).symm
  | bindVertexArray v => simp only [perform]; split <;> exact (tsub_zero _).symm
  | bindFramebuffer target f =>
      simp only [perform]
      split
      · rw [objects_bindFramebuffer]
        exact (tsub_zero _).symm
      · exact (tsub_zero _).symm
  | uniform location v =>
      simp only [perform, setUniform]
      split <;> exact (tsub_zero _).symm
  | _ => exact (tsub_zero _).symm

theorem objects_performAll (g : Pipeline) (cs : List (Command String)) :
    (g.performAll cs).objects = g.objects - deleted cs := by
  induction cs generalizing g with
  | nil => exact (tsub_zero _).symm
  | cons c cs ih =>
      have parts : deleted (c :: cs) = deleted [c] + deleted cs := by
        rw [deleted, deleted, deleted, Multiset.coe_add, ← List.filterMap_append]
        rfl
      rw [performAll_cons, ih, objects_perform, parts, tsub_add_eq_tsub_tsub]

/-! ## Uniforms -/

/-- Uniforms of one program, with some of them set. -/
def assign (f : String → Option ChannelValue) (as : List (String × ChannelValue)) :
    String → Option ChannelValue :=
  as.foldl (fun f a => Function.update f a.1 (some a.2)) f

theorem performAll_uniforms {g : Pipeline} {p : Handle} (current : g.program = some p)
    (as : List (String × ChannelValue)) :
    g.performAll (as.map fun a => .uniform a.1 a.2) =
      { g with uniforms := Function.update g.uniforms p (assign (g.uniforms p) as) } := by
  induction as generalizing g with
  | nil => simp [assign]
  | cons a as ih =>
      have first : g.perform (.uniform a.1 a.2) = { g with
          uniforms :=
            Function.update g.uniforms p (Function.update (g.uniforms p) a.1 (some a.2)) } := by
        simp only [perform, setUniform, current]
      have still : (g.perform (.uniform a.1 a.2)).program = some p := by
        rw [first]
        exact current
      rw [List.map_cons, performAll_cons, ih still, first]
      simp [assign]

end Pipeline

/-! ## Drawing commands -/

namespace Operation

variable {ℓ : Type}

/-- The uniforms that a draw sets, with their values. -/
def assignments (op : Operation ℓ) (size : Size) : List (ℓ × ChannelValue) :=
  (op.procedure.uniforms.filterMap fun u => do
    return (← u.location, ← op.values.get? u.channel)) ++
  op.procedure.screenSize.toList.map
    (·, .ints (.two size.width.toInt32 size.height.toInt32))

theorem uniformCommands_eq (op : Operation ℓ) (size : Size) :
    op.uniformCommands ++ op.screenSizeCommands size =
      (op.assignments size).map fun a => .uniform a.1 a.2 := by
  have channels : op.uniformCommands = (op.procedure.uniforms.filterMap fun u => do
      return (← u.location, ← op.values.get? u.channel)).map fun a => .uniform a.1 a.2 := by
    rw [List.map_filterMap]
    refine congrArg (List.filterMap · _) (funext fun u => ?_)
    cases u.location <;> cases op.values.get? u.channel <;> rfl
  have size : op.screenSizeCommands size = (op.procedure.screenSize.toList.map
      (·, .ints (.two size.width.toInt32 size.height.toInt32))).map
        fun a => .uniform a.1 a.2 := by
    unfold screenSizeCommands
    cases op.procedure.screenSize <;> rfl
  rw [assignments, List.map_append, ← channels, ← size]

end Operation

namespace Pipeline

variable {g : Pipeline}

theorem perform_bindCommand {t : RenderTarget} (exist : g.exist .framebuffer t.framebuffer?) :
    g.perform t.bindCommand =
      { g with readFramebuffer := t.framebuffer?, drawFramebuffer := t.framebuffer? } := by
  simp only [RenderTarget.bindCommand, perform, if_pos exist]
  rfl

/-- A draw binds all that it needs, and sets the uniforms of its program. -/
theorem performAll_preparation {op : Operation String} {t : RenderTarget}
    (framebuffer : g.exist .framebuffer t.framebuffer?)
    (program : ⟨.program, op.procedure.program⟩ ∈ g.objects)
    (vertexArray : ⟨.vertexArray, op.vertexArray⟩ ∈ g.objects) (size : Size) :
    g.performAll (op.preparation t size) = { g with
      program := some op.procedure.program
      vertexArray := some op.vertexArray
      drawFramebuffer := t.framebuffer?
      readFramebuffer := t.framebuffer?
      viewport := some ⟨0, 0, size.width.toInt32, size.height.toInt32⟩
      uniforms := Function.update g.uniforms op.procedure.program
        (assign (g.uniforms op.procedure.program) (op.assignments size)) } := by
  rw [Operation.preparation, op.uniformCommands_eq, performAll_append, performAll_cons,
    perform_bindCommand framebuffer]
  simp only [performAll_cons, performAll_nil, perform, exist, Option.all_some, program,
    vertexArray, decide_true, if_true]
  exact performAll_uniforms rfl _

end Pipeline

end SpriteRenderer
