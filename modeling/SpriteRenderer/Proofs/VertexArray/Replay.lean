import Mathlib.Logic.Function.Basic
import SpriteRenderer.Device.Headless
import SpriteRenderer.Operation
import SpriteRenderer.Proofs.Action.Footprint

/-! # Replaying vertex arrays

What recorded calls mean for vertex arrays. Enabling, divisors and pointers change the vertex
array that is bound; a pointer captures the buffer bound to the array target; the binding of
the element array target belongs to the vertex array. -/

namespace SpriteRenderer

/-- How an attribute reads a buffer. -/
structure Fetch where
  /-- The buffer that was bound to the array target when the pointer was set. -/
  buffer : Option Handle
  pointer : AttributePointer
  /-- Components stay integers instead of becoming floats. -/
  integer : Bool
  normalized : Bool
deriving DecidableEq, Repr

/-- One attribute of a vertex array, at first disabled. -/
structure AttributeState where
  enabled : Bool := false
  /-- How many instances read the same element, 0 if each vertex reads its own. -/
  divisor : UInt32 := 0
  fetch : Option Fetch := none
deriving DecidableEq, Repr

structure VertexArrayState where
  elementBuffer : Option Handle := none
  /-- By location. -/
  attributes : UInt32 → AttributeState := fun _ => {}

namespace VertexArrayState

def modify (a : VertexArrayState) (i : UInt32) (f : AttributeState → AttributeState) :
    VertexArrayState :=
  { a with attributes := Function.update a.attributes i (f (a.attributes i)) }

@[simp] theorem modify_attributes_self (a : VertexArrayState) (i : UInt32)
    (f : AttributeState → AttributeState) : (a.modify i f).attributes i = f (a.attributes i) := by
  simp [modify]

theorem modify_attributes_of_ne (a : VertexArrayState) {i j : UInt32} (h : j ≠ i)
    (f : AttributeState → AttributeState) : (a.modify i f).attributes j = a.attributes j := by
  simp [modify, h]

@[simp] theorem modify_modify (a : VertexArrayState) (i : UInt32)
    (f g : AttributeState → AttributeState) :
    (a.modify i f).modify i g = a.modify i (fun x => g (f x)) := by
  simp [modify]

/-- A buffer that is deleted leaves the vertex array that is bound. -/
def detach (a : VertexArrayState) (b : Handle) : VertexArrayState where
  elementBuffer := if a.elementBuffer = some b then none else a.elementBuffer
  attributes i := { a.attributes i with
    fetch := (a.attributes i).fetch.map fun f =>
      if f.buffer = some b then { f with buffer := none } else f }

end VertexArrayState

/-- What is bound, and what every vertex array holds. No handle names the vertex array that
is bound when no other is. -/
structure VertexState where
  current : Option Handle := none
  arrayBuffer : Option Handle := none
  arrays : Option Handle → VertexArrayState := fun _ => {}

namespace VertexState

variable {ℓ : Type}

def modify (g : VertexState) (v : Option Handle) (f : VertexArrayState → VertexArrayState) :
    VertexState :=
  { g with arrays := Function.update g.arrays v (f (g.arrays v)) }

@[simp] theorem modify_arrays_self (g : VertexState) (v : Option Handle)
    (f : VertexArrayState → VertexArrayState) : (g.modify v f).arrays v = f (g.arrays v) := by
  simp [modify]

theorem modify_arrays_of_ne (g : VertexState) {u v : Option Handle} (h : u ≠ v)
    (f : VertexArrayState → VertexArrayState) : (g.modify v f).arrays u = g.arrays u := by
  simp [modify, h]

/-- Changes an attribute of the vertex array that is bound. -/
def modifyAttribute (g : VertexState) (i : UInt32) (f : AttributeState → AttributeState) :
    VertexState :=
  g.modify g.current (·.modify i f)

def bindBuffer (g : VertexState) (target : UInt32) (b : Option Handle) : VertexState :=
  if target = Gl.arrayBuffer then { g with arrayBuffer := b }
  else if target = Gl.elementArrayBuffer then g.modify g.current ({ · with elementBuffer := b })
  else g

/-- What a command means for vertex arrays. -/
def perform (g : VertexState) : Command ℓ → VertexState
  | .bindVertexArray v => { g with current := v }
  | .bindBuffer target b => g.bindBuffer target b
  | .enableVertexAttribArray i => g.modifyAttribute i ({ · with enabled := true })
  | .vertexAttribPointerFloat p normalized =>
    g.modifyAttribute p.index ({ · with fetch := some ⟨g.arrayBuffer, p, false, normalized⟩ })
  | .vertexAttribPointerInt p =>
    g.modifyAttribute p.index ({ · with fetch := some ⟨g.arrayBuffer, p, true, false⟩ })
  | .vertexAttribDivisor i divisor => g.modifyAttribute i ({ · with divisor })
  | .delete .buffer b =>
    { g.modify g.current (·.detach b) with
      arrayBuffer := if g.arrayBuffer = some b then none else g.arrayBuffer }
  | .delete .vertexArray v =>
    { g.modify (some v) (fun _ => {}) with
      current := if g.current = some v then none else g.current }
  | _ => g

/-- What a recorded call means for vertex arrays. A new vertex array is in its first state. -/
def apply (g : VertexState) : DeviceCall → VertexState
  | .performed c => g.perform c
  | .created .vertexArray v => g.modify (some v) fun _ => {}
  | _ => g

/-- The state after recorded calls. -/
def replay (calls : List DeviceCall) : VertexState := calls.foldl apply {}

def performAll (g : VertexState) (cs : List (Command ℓ)) : VertexState := cs.foldl perform g

@[simp] theorem performAll_nil (g : VertexState) : g.performAll ([] : List (Command ℓ)) = g := rfl

@[simp] theorem performAll_cons (g : VertexState) (c : Command ℓ) (cs : List (Command ℓ)) :
    g.performAll (c :: cs) = (g.perform c).performAll cs :=
  rfl

theorem performAll_append (g : VertexState) (cs ds : List (Command ℓ)) :
    g.performAll (cs ++ ds) = (g.performAll cs).performAll ds := by
  simp [performAll]

theorem replay_append_performed (calls : List DeviceCall) (cs : List (Command String)) :
    replay (calls ++ cs.map .performed) = (replay calls).performAll cs := by
  simp [replay, performAll, List.foldl_map, apply]

/-! ## Commands that leave vertex arrays alone -/

/-- The facilities that vertex arrays do not depend on. -/
def unrelated : List Facility :=
  [.shaders, .uniforms, .framebuffers, .storage, .painting, .settings]

theorem perform_unrelated (g : VertexState) {c : Command ℓ} (h : c.facility ∈ unrelated) :
    g.perform c = g := by
  cases c with
  | delete kind object =>
      cases kind <;> simp [unrelated, Command.facility, ObjectKind.facility, perform] at h ⊢
  | _ => simp [unrelated, Command.facility, perform] at h ⊢

theorem performAll_unrelated (g : VertexState) {cs : List (Command ℓ)}
    (h : ∀ c ∈ cs, c.facility ∈ unrelated) : g.performAll cs = g := by
  induction cs generalizing g with
  | nil => rfl
  | cons c cs ih =>
      rw [performAll_cons, g.perform_unrelated (h c List.mem_cons_self)]
      exact ih g fun d hd => h d (List.mem_cons_of_mem c hd)

/-! ## Calls of the library

Between its calls the library leaves nothing bound. -/

/-- No vertex array and no array buffer is bound. -/
structure Idle (g : VertexState) : Prop where
  current : g.current = none
  arrayBuffer : g.arrayBuffer = none

theorem Idle.modify {g : VertexState} (h : g.Idle) (v : Option Handle)
    (f : VertexArrayState → VertexArrayState) : (g.modify v f).Idle :=
  ⟨h.current, h.arrayBuffer⟩

section

variable {g : VertexState}

/-- Storing data replaces the contents of one buffer and no binding. -/
theorem performAll_setData (h : g.Idle) (b : Handle) (bytes : List UInt8) (usage : UInt32) :
    g.performAll ([.bindBuffer Gl.arrayBuffer b, .bufferData Gl.arrayBuffer bytes usage,
      .bindBuffer Gl.arrayBuffer none] : List (Command ℓ)) = g := by
  obtain ⟨current, arrayBuffer, arrays⟩ := g
  obtain ⟨rfl, rfl⟩ := h
  rfl

/-- Packed sprites are stored while no vertex array is bound, so that none captures the
index buffer. -/
theorem performAll_uploadCommands (h : g.Idle) (vertices indices : Handle) (usage : BufferUsage)
    (p : PackedSprites) :
    g.performAll (SpriteBuffer.uploadCommands vertices indices usage p : List (Command ℓ)) =
      g.modify none ({ · with elementBuffer := none }) := by
  obtain ⟨current, arrayBuffer, arrays⟩ := g
  obtain ⟨rfl, rfl⟩ := h
  simp [SpriteBuffer.uploadCommands, perform, bindBuffer, modify, Gl.arrayBuffer,
    Gl.elementArrayBuffer]

end

end VertexState

/-! ## What a vertex array holds for an operation -/

namespace Operation

/-- How the position of packed vertices is read: two floats at the begin of a vertex. -/
def positionFetch (sprites : SpriteBuffer) : Fetch where
  buffer := sprites.vertices
  pointer := ⟨positionLocation, 2, Gl.float, PackedVertex.size, 0⟩
  integer := false
  normalized := false

/-- How the colour and the layer of packed vertices are read: four bytes that stay integers. -/
def colorFetch (sprites : SpriteBuffer) : Fetch where
  buffer := sprites.vertices
  pointer := ⟨colorLocation, 4, Gl.unsignedByte, PackedVertex.size, PackedVertex.colorOffset⟩
  integer := true
  normalized := false

namespace AttributeSource

/-- How the attribute of a channel is read from its source. -/
def fetch (s : AttributeSource) : Fetch where
  buffer := s.binding.buffer
  pointer := s.pointer
  integer := s.slot.type.isInteger
  normalized := false

/-- The attribute of a channel: every instance reads an element of its own. -/
def state (s : AttributeSource) : AttributeState where
  enabled := true
  divisor := 1
  fetch := s.fetch

end AttributeSource

end Operation

namespace VertexArrayState

/-- The vertex array reads the vertices and the indices of a sprite buffer. -/
def select (a : VertexArrayState) (sprites : SpriteBuffer) : VertexArrayState :=
  ({ a with elementBuffer := sprites.indices }.modify Operation.positionLocation
      ({ · with enabled := true, fetch := Operation.positionFetch sprites })).modify
    Operation.colorLocation
      ({ · with enabled := true, fetch := Operation.colorFetch sprites })

/-- The vertex array reads an attribute from its source. -/
def feed (a : VertexArrayState) (s : Operation.AttributeSource) : VertexArrayState :=
  a.modify s.slot.location fun _ => s.state

end VertexArrayState

namespace VertexState

variable {ℓ : Type} {g : VertexState}

theorem performAll_spriteCommands (h : g.Idle) (v : Handle) (sprites : SpriteBuffer) :
    g.performAll (Operation.spriteCommands v sprites : List (Command ℓ)) =
      g.modify (some v) (·.select sprites) := by
  obtain ⟨current, arrayBuffer, arrays⟩ := g
  obtain ⟨rfl, rfl⟩ := h
  simp [Operation.spriteCommands, perform, bindBuffer, modifyAttribute, modify,
    VertexArrayState.select, Operation.positionFetch, Operation.colorFetch, Gl.arrayBuffer,
    Gl.elementArrayBuffer]

theorem performAll_attributeCommands (h : g.Idle) (v : Handle) (s : Operation.AttributeSource) :
    g.performAll (s.commands v : List (Command ℓ)) = g.modify (some v) (·.feed s) := by
  obtain ⟨current, arrayBuffer, arrays⟩ := g
  obtain ⟨rfl, rfl⟩ := h
  by_cases integer : s.slot.type.isInteger <;>
    simp [Operation.AttributeSource.commands, Operation.AttributeSource.pointerCommand, integer,
      perform, bindBuffer, modifyAttribute, modify, VertexArrayState.feed,
      Operation.AttributeSource.state, Operation.AttributeSource.fetch,
      Operation.AttributeSource.pointer, Gl.arrayBuffer]

/-- Before it draws, an operation binds its vertex array and changes none. -/
theorem performAll_preparation (g : VertexState) (op : Operation ℓ) (target : RenderTarget)
    (size : Size) :
    g.performAll (op.preparation target size) = { g with current := op.vertexArray } := by
  rw [Operation.preparation, performAll_append, performAll_unrelated]
  · rfl
  · intro c hc
    rw [op.facility_uniformCommands size c hc]
    decide

theorem performAll_drawCommands (h : g.Idle) (op : Operation ℓ) (target : RenderTarget)
    (size : Size) (first count : UInt32) :
    g.performAll (op.drawCommands target size first count) = g := by
  rw [op.drawCommands_eq, performAll_append, performAll_preparation]
  obtain ⟨current, arrayBuffer, arrays⟩ := g
  obtain ⟨rfl, rfl⟩ := h
  rfl

end VertexState

end SpriteRenderer
