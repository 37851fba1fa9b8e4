import Mathlib.Logic.Function.Basic
import SpriteRenderer.Proofs.Objects.Exchange

/-! # Replaying render targets

What recorded calls mean for framebuffers, textures and renderbuffers. Storage is allocated for
the texture or the renderbuffer that is bound, and attached to the framebuffer that is bound; what
does not exist cannot be bound. -/

namespace SpriteRenderer

/-- Where a texture or a renderbuffer keeps its pixels. -/
structure PixelStorage where
  format : UInt32
  width : Int32
  height : Int32
  /-- 0 if there is one value for each pixel. -/
  samples : Int32
deriving DecidableEq, Repr

/-- What is attached to a framebuffer. -/
structure Attached where
  object : Object
  level : Int32
deriving DecidableEq, Repr

/-- What an object holds: textures and renderbuffers storage, framebuffers what is attached. -/
structure Holding where
  storage : Option PixelStorage := none
  /-- By attachment point. -/
  attached : UInt32 → Option Attached := fun _ => none

namespace Holding

def attach (a : Holding) (point : UInt32) (x : Option Attached) : Holding :=
  { a with attached := Function.update a.attached point x }

def detach (a : Holding) (o : Object) : Holding :=
  { a with attached := fun point => (a.attached point).filter (·.object ≠ o) }

end Holding

/-- What is bound, and what every object holds. No framebuffer is the window's. -/
structure TargetState where
  drawFramebuffer : Option Handle := none
  readFramebuffer : Option Handle := none
  texture : Option Handle := none
  renderbuffer : Option Handle := none
  /-- Nothing of an object that does not exist. -/
  holdings : Object → Option Holding := fun _ => none

namespace TargetState

variable {ℓ : Type}

/-- The object exists. What is no object can be bound at any time. -/
def exist (g : TargetState) (kind : ObjectKind) (h : Option Handle) : Bool :=
  h.all fun h => (g.holdings ⟨kind, h⟩).isSome

def modify (g : TargetState) (o : Object) (f : Holding → Holding) : TargetState :=
  { g with holdings := Function.update g.holdings o ((g.holdings o).map f) }

def bindFramebuffer (g : TargetState) (target : UInt32) (f : Option Handle) : TargetState :=
  if target = Gl.readFramebuffer then { g with readFramebuffer := f }
  else if target = Gl.drawFramebuffer then { g with drawFramebuffer := f }
  else { g with readFramebuffer := f, drawFramebuffer := f }

/-- Allocates storage for an object that is bound. -/
def allocate (g : TargetState) (kind : ObjectKind) (bound : Option Handle) (s : PixelStorage) :
    TargetState :=
  match bound with
  | some h => g.modify ⟨kind, h⟩ ({ · with storage := some s })
  | none => g

/-- Attaches to the framebuffer bound to a target. The window's takes no attachments. -/
def attach (g : TargetState) (target point : UInt32) (x : Option Attached) : TargetState :=
  match if target = Gl.readFramebuffer then g.readFramebuffer else g.drawFramebuffer with
  | some f => g.modify ⟨.framebuffer, f⟩ (·.attach point x)
  | none => g

/-- An object that is deleted is bound no longer. -/
def unbind (g : TargetState) (o : Object) : TargetState :=
  { g with
    drawFramebuffer := g.drawFramebuffer.filter (⟨.framebuffer, ·⟩ ≠ o)
    readFramebuffer := g.readFramebuffer.filter (⟨.framebuffer, ·⟩ ≠ o)
    texture := g.texture.filter (⟨.texture, ·⟩ ≠ o)
    renderbuffer := g.renderbuffer.filter (⟨.renderbuffer, ·⟩ ≠ o) }

/-- The framebuffer is bound, for drawing or for reading. -/
def binds (g : TargetState) (o : Object) : Prop :=
  o.kind = .framebuffer ∧ (g.drawFramebuffer = some o.handle ∨ g.readFramebuffer = some o.handle)

instance (g : TargetState) (o : Object) : Decidable (g.binds o) :=
  inferInstanceAs (Decidable (_ ∧ _))

/-- Deletes an object. It leaves the framebuffers that are bound, and no others. -/
def delete (g : TargetState) (o : Object) : TargetState :=
  { g.unbind o with
    holdings := Function.update
      (fun p => if g.binds p then (g.holdings p).map (·.detach o) else g.holdings p) o none }

/-- What a command means for render targets. -/
def perform (g : TargetState) : Command ℓ → TargetState
  | .delete kind h => g.delete ⟨kind, h⟩
  | .bindFramebuffer target f => if g.exist .framebuffer f then g.bindFramebuffer target f else g
  | .framebufferTexture2D target point _ t level =>
    if g.exist .texture t then g.attach target point (t.map (⟨⟨.texture, ·⟩, level⟩)) else g
  | .framebufferRenderbuffer target point _ r =>
    if g.exist .renderbuffer r then g.attach target point (r.map (⟨⟨.renderbuffer, ·⟩, 0⟩)) else g
  | .bindTexture target t =>
    if target = Gl.texture2D ∧ g.exist .texture t then { g with texture := t } else g
  | .bindRenderbuffer r => if g.exist .renderbuffer r then { g with renderbuffer := r } else g
  | .texStorage2D target format width height _ _ =>
    if target = Gl.texture2D then g.allocate .texture g.texture ⟨format, width, height, 0⟩ else g
  | .renderbufferStorageMultisample samples format width height =>
    g.allocate .renderbuffer g.renderbuffer ⟨format, width, height, samples⟩
  | _ => g

/-- What a recorded call means for render targets. A new object holds nothing. -/
def apply (g : TargetState) : DeviceCall → TargetState
  | .created o h => { g with holdings := Function.update g.holdings ⟨o.kind, h⟩ (some {}) }
  | .performed c => g.perform c
  | .pixelsRead _ => g

/-- The state after recorded calls. -/
def replay (calls : List DeviceCall) : TargetState := calls.foldl apply {}

def performAll (g : TargetState) (cs : List (Command ℓ)) : TargetState := cs.foldl perform g

@[simp] theorem performAll_nil (g : TargetState) : g.performAll ([] : List (Command ℓ)) = g := rfl

@[simp] theorem performAll_cons (g : TargetState) (c : Command ℓ) (cs : List (Command ℓ)) :
    g.performAll (c :: cs) = (g.perform c).performAll cs :=
  rfl

theorem performAll_append (g : TargetState) (cs ds : List (Command ℓ)) :
    g.performAll (cs ++ ds) = (g.performAll cs).performAll ds := by
  simp [performAll]

theorem replay_append_performed (calls : List DeviceCall) (cs : List (Command String)) :
    replay (calls ++ cs.map .performed) = (replay calls).performAll cs := by
  simp [replay, performAll, List.foldl_map, apply]

/-! ## Views -/

def storage (g : TargetState) (o : Object) : Option PixelStorage :=
  (g.holdings o).bind Holding.storage

/-- What is attached to a framebuffer at a point. -/
def attached (g : TargetState) (framebuffer : Handle) (point : UInt32) : Option Attached :=
  (g.holdings ⟨.framebuffer, framebuffer⟩).bind (·.attached point)

/-- Nothing is bound that storage could be allocated for. -/
structure Idle (g : TargetState) : Prop where
  texture : g.texture = none
  renderbuffer : g.renderbuffer = none

/-- Nothing is bound. -/
structure Unbound (g : TargetState) : Prop extends Idle g where
  drawFramebuffer : g.drawFramebuffer = none
  readFramebuffer : g.readFramebuffer = none

/-! ## Objects -/

theorem holdings_modify_of_ne (g : TargetState) {o p : Object} (other : p ≠ o)
    (f : Holding → Holding) : (g.modify o f).holdings p = g.holdings p :=
  Function.update_of_ne other _ _

@[simp] theorem isSome_holdings_modify (g : TargetState) (o p : Object) (f : Holding → Holding) :
    ((g.modify o f).holdings p).isSome = (g.holdings p).isSome := by
  by_cases same : p = o
  · subst same
    simp [modify]
  · rw [g.holdings_modify_of_ne same]

/-- What becomes of an object when another one is deleted. -/
theorem holdings_delete_of_ne (g : TargetState) {o p : Object} (other : p ≠ o) :
    (g.delete o).holdings p = g.holdings p ∨
      (g.delete o).holdings p = (g.holdings p).map (·.detach o) := by
  have kept : (g.delete o).holdings p =
      if g.binds p then (g.holdings p).map (·.detach o) else g.holdings p := by
    simp [delete, other]
  rw [kept]
  split
  · exact .inr rfl
  · exact .inl rfl

theorem storage_delete (g : TargetState) {o p : Object} (other : p ≠ o) :
    (g.delete o).storage p = g.storage p := by
  unfold storage
  rcases g.holdings_delete_of_ne other with same | detached
  · rw [same]
  · rw [detached, Option.bind_map]
    rfl

theorem attached_delete {g : TargetState} {o : Object} {f : Handle} {point : UInt32} {x : Attached}
    (held : g.attached f point = some x) (framebuffer : ⟨.framebuffer, f⟩ ≠ o)
    (other : x.object ≠ o) : (g.delete o).attached f point = some x := by
  unfold attached at held ⊢
  rcases g.holdings_delete_of_ne framebuffer with same | detached
  · rw [same, held]
  · obtain ⟨a, found, here⟩ := Option.bind_eq_some_iff.mp held
    rw [detached, found]
    simp [Holding.detach, here, other]

/-! ## Storage for a framebuffer -/

/-- The object gets storage and is attached to the framebuffer. -/
def supply (g : TargetState) (f : Handle) (point : UInt32) (o : Object) (s : PixelStorage) :
    TargetState :=
  (g.modify o ({ · with storage := some s })).modify ⟨.framebuffer, f⟩
    (·.attach point (some ⟨o, 0⟩))

section

variable {g : TargetState} {f h : Handle}

theorem performAll_textureCommands (bound : g.drawFramebuffer = some f)
    (known : (g.holdings ⟨.texture, h⟩).isSome) (internal format type point : UInt32)
    (width height : Int32) :
    g.performAll (Attachments.textureCommands h internal format type point width height :
        List (Command ℓ)) =
      { g.supply f point ⟨.texture, h⟩ ⟨internal, width, height, 0⟩ with texture := some h } := by
  simp [Attachments.textureCommands, perform, exist, allocate, attach, known, bound, supply, modify,
    Gl.framebuffer, Gl.readFramebuffer]

theorem performAll_renderbufferCommands (bound : g.drawFramebuffer = some f)
    (known : (g.holdings ⟨.renderbuffer, h⟩).isSome) (samples : Int32) (internal point : UInt32)
    (width height : Int32) :
    g.performAll (Attachments.renderbufferCommands h samples internal point width height :
        List (Command ℓ)) =
      { g.supply f point ⟨.renderbuffer, h⟩ ⟨internal, width, height, samples⟩ with
        renderbuffer := some h } := by
  simp [Attachments.renderbufferCommands, perform, exist, allocate, attach, known, bound, supply,
    modify, Gl.framebuffer, Gl.readFramebuffer]

@[simp] theorem isSome_holdings_supply (g : TargetState) (f : Handle) (point : UInt32)
    (o p : Object) (s : PixelStorage) :
    ((g.supply f point o s).holdings p).isSome = (g.holdings p).isSome := by
  simp [supply]

theorem holdings_supply_of_ne (g : TargetState) {f : Handle} {o p : Object} (object : p ≠ o)
    (framebuffer : p ≠ ⟨.framebuffer, f⟩) (point : UInt32) (s : PixelStorage) :
    (g.supply f point o s).holdings p = g.holdings p := by
  rw [supply, holdings_modify_of_ne _ framebuffer, holdings_modify_of_ne _ object]

end

section

variable {g : TargetState} {f : Handle} {o : Object} {point : UInt32} {s : PixelStorage}

theorem storage_supply_self (object : o ≠ ⟨.framebuffer, f⟩) (known : (g.holdings o).isSome) :
    (g.supply f point o s).storage o = some s := by
  obtain ⟨a, found⟩ := Option.isSome_iff_exists.mp known
  simp [storage, supply, modify, object, found]

theorem attached_supply_self (known : (g.holdings ⟨.framebuffer, f⟩).isSome) :
    (g.supply f point o s).attached f point = some ⟨o, 0⟩ := by
  obtain ⟨a, found⟩ := Option.isSome_iff_exists.mp
    ((g.isSome_holdings_modify o _ ({ · with storage := some s })).trans known)
  simp [attached, supply, modify, Holding.attach] at found ⊢
  simp [found]

/-- What is attached at other points stays there. -/
theorem attached_supply_of_ne (object : ⟨.framebuffer, f⟩ ≠ o) {other : UInt32}
    (apart : other ≠ point) :
    (g.supply f point o s).attached f other = g.attached f other := by
  cases found : g.holdings ⟨.framebuffer, f⟩ <;>
    simp [attached, supply, modify, Holding.attach, object, apart, found]

end

end TargetState

/-! ## Storage of a target -/

namespace Attachments

def color : Attachments → Object
  | textures color _ => ⟨.texture, color⟩
  | renderbuffers color _ _ => ⟨.renderbuffer, color⟩

def depth : Attachments → Object
  | textures _ depth => ⟨.texture, depth⟩
  | renderbuffers _ depth _ => ⟨.renderbuffer, depth⟩

/-- How many values each pixel has storage for, 0 if it is only one. -/
def samples : Attachments → Int32
  | textures .. => 0
  | renderbuffers _ _ samples => samples

theorem objects_eq (a : Attachments) : a.objects = {a.color, a.depth} := by
  cases a <;> rfl

end Attachments

namespace Offscreen

variable {ℓ : Type}

/-- The storage that an attachment of the target is to have. -/
def storage (t : Offscreen) (format : UInt32) : PixelStorage :=
  ⟨format, t.size.width.toInt32, t.size.height.toInt32, t.attachments.samples⟩

/-- What allocating the target's storage performs, whatever the device finds. -/
def allocationCommands (t : Offscreen) : List (Command ℓ) :=
  .bindFramebuffer Gl.framebuffer t.framebuffer :: t.attachments.storageCommands t.size ++
    [.bindFramebuffer Gl.framebuffer none]

end Offscreen

namespace TargetState

variable {ℓ : Type} {g : TargetState} {t : Offscreen}

/-- Both attachments get storage of the target's size. -/
def furnish (g : TargetState) (t : Offscreen) : TargetState :=
  { (g.supply t.framebuffer Gl.colorAttachment t.attachments.color (t.storage Gl.rgba8)).supply
      t.framebuffer Gl.depthAttachment t.attachments.depth (t.storage Gl.depthComponent24) with
    drawFramebuffer := none
    readFramebuffer := none }

theorem performAll_allocationCommands (idle : g.Idle)
    (known : ∀ o ∈ t.objects, (g.holdings o).isSome) :
    g.performAll (t.allocationCommands : List (Command ℓ)) = g.furnish t := by
  obtain ⟨f, attachments, size⟩ := t
  obtain ⟨draw, read, texture, renderbuffer, holdings⟩ := g
  obtain ⟨rfl, rfl⟩ := idle
  simp only [Offscreen.objects, Attachments.objects_eq, Multiset.insert_eq_cons,
    Multiset.forall_mem_cons, Multiset.mem_singleton, forall_eq] at known
  obtain ⟨framebuffer, color, depth⟩ := known
  let bound : TargetState := ⟨some f, some f, none, none, holdings⟩
  have begin : perform ⟨draw, read, none, none, holdings⟩
      (.bindFramebuffer Gl.framebuffer f : Command ℓ) = bound := by
    simp [perform, exist, framebuffer, bindFramebuffer, bound, Gl.framebuffer, Gl.readFramebuffer,
      Gl.drawFramebuffer]
  rw [Offscreen.allocationCommands, List.cons_append, performAll_cons, performAll_append, begin]
  cases attachments with
  | textures c d =>
      let supplied : TargetState :=
        { bound.supply f Gl.colorAttachment ⟨.texture, c⟩
            ⟨Gl.rgba8, size.width.toInt32, size.height.toInt32, 0⟩ with
          texture := some c }
      have first : bound.performAll (Attachments.textureCommands c Gl.rgba8 Gl.rgba Gl.unsignedByte
          Gl.colorAttachment size.width.toInt32 size.height.toInt32 : List (Command ℓ)) =
            supplied :=
        performAll_textureCommands rfl color ..
      have known : (supplied.holdings ⟨.texture, d⟩).isSome :=
        (bound.isSome_holdings_supply f Gl.colorAttachment ⟨.texture, c⟩ _ _).trans depth
      rw [Attachments.storageCommands, performAll_append, performAll_append, first,
        performAll_textureCommands (f := f) rfl known]
      rfl
  | renderbuffers c d samples =>
      let supplied : TargetState :=
        { bound.supply f Gl.colorAttachment ⟨.renderbuffer, c⟩
            ⟨Gl.rgba8, size.width.toInt32, size.height.toInt32, samples⟩ with
          renderbuffer := some c }
      have first : bound.performAll (Attachments.renderbufferCommands c samples Gl.rgba8
          Gl.colorAttachment size.width.toInt32 size.height.toInt32 : List (Command ℓ)) =
            supplied :=
        performAll_renderbufferCommands rfl color ..
      have known : (supplied.holdings ⟨.renderbuffer, d⟩).isSome :=
        (bound.isSome_holdings_supply f Gl.colorAttachment ⟨.renderbuffer, c⟩ _ _).trans depth
      rw [Attachments.storageCommands, performAll_append, performAll_append, first,
        performAll_renderbufferCommands (f := f) rfl known]
      rfl

/-- Other objects hold what they held. -/
theorem holdings_furnish {o : Object} (other : o ∉ t.objects) :
    (g.furnish t).holdings o = g.holdings o := by
  simp only [Offscreen.objects, Attachments.objects_eq, Multiset.insert_eq_cons, Multiset.mem_cons,
    Multiset.mem_singleton, not_or] at other
  exact (holdings_supply_of_ne _ other.2.2 other.1 _ _).trans
    (holdings_supply_of_ne _ other.2.1 other.1 _ _)

theorem isSome_holdings_furnish (o : Object) :
    ((g.furnish t).holdings o).isSome = (g.holdings o).isSome :=
  (isSome_holdings_supply ..).trans (isSome_holdings_supply ..)

end TargetState

namespace Offscreen

variable {g g' : TargetState} {t : Offscreen}

/-- Both attachments of the target are attached to its framebuffer, each at its point, and have
storage of the target's size. -/
structure Stored (t : Offscreen) (g : TargetState) : Prop where
  color : g.attached t.framebuffer Gl.colorAttachment = some ⟨t.attachments.color, 0⟩
  depth : g.attached t.framebuffer Gl.depthAttachment = some ⟨t.attachments.depth, 0⟩
  colorStorage : g.storage t.attachments.color = some (t.storage Gl.rgba8)
  depthStorage : g.storage t.attachments.depth = some (t.storage Gl.depthComponent24)

theorem framebuffer_mem (t : Offscreen) : ⟨.framebuffer, t.framebuffer⟩ ∈ t.objects :=
  Multiset.mem_cons_self _ _

theorem color_mem (t : Offscreen) : t.attachments.color ∈ t.objects := by
  simp [objects, Attachments.objects_eq]

theorem depth_mem (t : Offscreen) : t.attachments.depth ∈ t.objects := by
  simp [objects, Attachments.objects_eq]

namespace Stored

theorem of_holdings (h : t.Stored g) (same : ∀ o ∈ t.objects, g'.holdings o = g.holdings o) :
    t.Stored g' := by
  have framebuffer := same _ t.framebuffer_mem
  refine ⟨?_, ?_, ?_, ?_⟩
  · rw [TargetState.attached, framebuffer]
    exact h.color
  · rw [TargetState.attached, framebuffer]
    exact h.depth
  · rw [TargetState.storage, same _ t.color_mem]
    exact h.colorStorage
  · rw [TargetState.storage, same _ t.depth_mem]
    exact h.depthStorage

/-- Deleting an object of another target detaches nothing from this one. -/
theorem delete (h : t.Stored g) {o : Object} (other : o ∉ t.objects) : t.Stored (g.delete o) := by
  have ne {p : Object} (hp : p ∈ t.objects) : p ≠ o := fun same => other (same ▸ hp)
  refine ⟨?_, ?_, ?_, ?_⟩
  · exact TargetState.attached_delete h.color (ne t.framebuffer_mem) (ne t.color_mem)
  · exact TargetState.attached_delete h.depth (ne t.framebuffer_mem) (ne t.depth_mem)
  · exact (g.storage_delete (ne t.color_mem)).trans h.colorStorage
  · exact (g.storage_delete (ne t.depth_mem)).trans h.depthStorage

end Stored

theorem stored_furnish (apart : t.objects.Nodup)
    (known : ∀ o ∈ t.objects, (g.holdings o).isSome) : t.Stored (g.furnish t) := by
  have ne := apart
  simp only [objects, Attachments.objects_eq, Multiset.insert_eq_cons, Multiset.nodup_cons,
    Multiset.mem_cons, Multiset.mem_singleton, not_or, Multiset.nodup_singleton] at ne
  obtain ⟨⟨color, depth⟩, attachments, -⟩ := ne
  have known' (o) (ho : o ∈ t.objects) := (TargetState.isSome_holdings_supply g t.framebuffer
    Gl.colorAttachment t.attachments.color o (t.storage Gl.rgba8)).trans (known o ho)
  refine ⟨?_, ?_, ?_, ?_⟩
  · exact (TargetState.attached_supply_of_ne depth (by decide)).trans
      (TargetState.attached_supply_self (known _ t.framebuffer_mem))
  · exact TargetState.attached_supply_self (known' _ t.framebuffer_mem)
  · exact (congrArg (·.bind Holding.storage)
      (TargetState.holdings_supply_of_ne _ attachments (Ne.symm color) _ _)).trans
        (TargetState.storage_supply_self (Ne.symm color) (known _ t.color_mem))
  · exact TargetState.storage_supply_self (Ne.symm depth) (known' _ t.depth_mem)

end Offscreen

end SpriteRenderer
