import Mathlib.Algebra.Order.Group.Multiset
import Mathlib.Tactic.Abel
import SpriteRenderer.Proofs.Action.Footprint
import SpriteRenderer.Proofs.Action.Results
import SpriteRenderer.Proofs.Device.Recording
import SpriteRenderer.Proofs.Operation.Calls

/-! # Exchange of objects

What an action makes of the objects of a device. An action starts from the objects that there
are and leaves others, which depend on its result. A failure of the library leaves none that it
made on the way. -/

namespace SpriteRenderer

/-! ## Objects that recorded calls leave -/

namespace DeviceCall

/-- What a call makes of the objects that are alive. Deleting an unknown object is no way on. -/
def tally (alive : Multiset Object) : DeviceCall → Option (Multiset Object)
  | created o h => some (⟨o.kind, h⟩ ::ₘ alive)
  | performed (.delete kind h) =>
    if ⟨kind, h⟩ ∈ alive then some (alive.erase ⟨kind, h⟩) else none
  | performed _ | pixelsRead _ => some alive

theorem tally_delete (o : Object) (alive : Multiset Object) :
    tally (o ::ₘ alive) (.performed (.delete o.kind o.handle)) = some alive := by
  have known : (⟨o.kind, o.handle⟩ : Object) ∈ o ::ₘ alive := Multiset.mem_cons_self o alive
  rw [tally, if_pos known, Multiset.erase_cons_head]

end DeviceCall

/-- The objects created and not deleted by calls that delete no unknown object. -/
def tally (calls : List DeviceCall) : Option (Multiset Object) := calls.foldlM DeviceCall.tally 0

theorem tally_append (calls : List DeviceCall) (c : DeviceCall) :
    tally (calls ++ [c]) = (tally calls).bind fun alive => DeviceCall.tally alive c := by
  rw [tally, List.foldlM_append, ← tally]
  cases tally calls <;> simp

/-- The objects that commands delete. -/
def deleted {ℓ : Type} (cs : List (Command ℓ)) : Multiset Object := cs.filterMap Command.deleted?

namespace Host

/-- These objects are alive on the device, each under a handle of its own, and no delete has met
an unknown one. -/
structure Holds (alive : Multiset Object) (h : Host Headless) : Prop where
  tally : tally h.device.calls = some alive
  live : (h.device.live : Multiset Handle) = alive.map (·.handle)
  nodup : (alive.map (·.handle)).Nodup
  le_lastHandle : ∀ o ∈ alive, o.handle ≤ h.device.lastHandle

namespace Holds

variable {alive : Multiset Object} {h h' : Host Headless}

/-- What is not recorded does not matter. -/
theorem of_eq (holds : h.Holds alive) (calls : h'.device.calls = h.device.calls)
    (live : h'.device.live = h.device.live)
    (lastHandle : h'.device.lastHandle = h.device.lastHandle) : h'.Holds alive := by
  refine ⟨?_, ?_, holds.nodup, ?_⟩
  · rw [calls]
    exact holds.tally
  · rw [live]
    exact holds.live
  · rw [lastHandle]
    exact holds.le_lastHandle

theorem created (holds : h.Holds alive) {o : NewObject} {new : Handle}
    (made : (h.device.create o).1 = .ok new) :
    Holds (⟨o.kind, new⟩ ::ₘ alive) { h with device := (h.device.create o).2 } := by
  rcases h.device.create_cases o with ⟨e, refused, -⟩ | ⟨next, calls, lastHandle⟩
  · rw [made] at refused
    cases refused
  · have new_eq : new = h.device.lastHandle + 1 := by
      rw [made] at next
      exact Except.ok.inj next
    refine ⟨?_, ?_, ?_, fun p hp => ?_⟩
    · rw [calls, tally_append, holds.tally, new_eq]
      rfl
    · rw [Headless.live_create_of_ok made, ← Multiset.cons_coe, holds.live, Multiset.map_cons]
    · rw [Multiset.map_cons, Multiset.nodup_cons]
      refine ⟨fun known => ?_, holds.nodup⟩
      obtain ⟨p, hp, same⟩ := Multiset.mem_map.mp known
      have le := holds.le_lastHandle p hp
      rw [show p.handle = new from same, new_eq] at le
      exact Nat.not_succ_le_self _ le
    · rw [lastHandle]
      rcases Multiset.mem_cons.mp hp with rfl | hp
      · exact Nat.le_of_eq new_eq
      · exact Nat.le_succ_of_le (holds.le_lastHandle p hp)

theorem refused (holds : h.Holds alive) {o : NewObject} {e : RenderError}
    (failed : (h.device.create o).1 = .error e) :
    Holds alive { h with device := (h.device.create o).2 } := by
  rcases h.device.create_cases o with ⟨-, -, calls, lastHandle⟩ | ⟨next, -⟩
  · exact holds.of_eq calls (Headless.live_create_of_error failed) lastHandle
  · rw [failed] at next
    cases next

theorem perform_of_keeps (holds : h.Holds alive) {c : Command String}
    (keeps : c.deleted? = none) : (h.perform c).Holds alive := by
  obtain ⟨calls, lastHandle, live⟩ := Headless.effect_of_keeps (d := h.device) keeps
  refine ⟨?_, ?_, holds.nodup, ?_⟩
  · have unchanged : DeviceCall.tally alive (.performed c) = some alive := by
      cases c with
      | delete kind object => cases keeps
      | _ => rfl
    change SpriteRenderer.tally ((h.device.effect c).calls ++ [.performed c]) = some alive
    rw [calls, tally_append, holds.tally, Option.bind_some, unchanged]
  · exact (congrArg _ live).trans holds.live
  · intro o ho
    exact (holds.le_lastHandle o ho).trans_eq lastHandle.symm

/-- A delete takes a known object away, and with it its handle. -/
theorem perform_delete {o : Object} (holds : h.Holds (o ::ₘ alive)) :
    (h.perform (.delete o.kind o.handle)).Holds alive := by
  obtain ⟨calls, lastHandle⟩ := h.device.calls_lastHandle_effect (.delete o.kind o.handle)
  have nodup := holds.nodup
  rw [Multiset.map_cons, Multiset.nodup_cons] at nodup
  refine ⟨?_, ?_, nodup.2, ?_⟩
  · change SpriteRenderer.tally ((h.device.effect (.delete o.kind o.handle)).calls ++
      [.performed (.delete o.kind o.handle)]) = some alive
    rw [calls, tally_append, holds.tally, Option.bind_some]
    exact DeviceCall.tally_delete o alive
  · calc ((h.device.live.filter (· ≠ o.handle) : List Handle) : Multiset Handle)
      _ = Multiset.filter (· ≠ o.handle) (h.device.live : Multiset Handle) :=
        (Multiset.filter_coe _ _).symm
      _ = Multiset.filter (· ≠ o.handle) (alive.map (·.handle)) := by
        rw [holds.live, Multiset.map_cons, Multiset.filter_cons_of_neg _ (by simp)]
      _ = alive.map (·.handle) := by
        rw [Multiset.filter_eq_self]
        rintro x hx rfl
        exact nodup.1 hx
  · intro p hp
    exact (holds.le_lastHandle p (Multiset.mem_cons_of_mem hp)).trans_eq lastHandle.symm

theorem performAll {cs : List (Command String)} (holds : h.Holds (deleted cs + alive)) :
    (h.performAll cs).Holds alive := by
  induction cs generalizing h with
  | nil => simpa [deleted] using holds
  | cons c cs ih =>
      rw [performAll_cons]
      apply ih
      cases takes : c.deleted? with
      | none =>
          rw [deleted, List.filterMap_cons_none takes] at holds
          exact holds.perform_of_keeps takes
      | some o =>
          rw [deleted, List.filterMap_cons_some takes, ← Multiset.cons_coe, Multiset.cons_add]
            at holds
          cases c with
          | delete kind handle =>
              cases takes
              exact holds.perform_delete
          | _ => cases takes

end Holds

/-- A way to keep account of objects: what is created is added, and what is on the account may be
deleted. -/
structure Ledger (R : Multiset Object → Host Headless → Prop) : Prop where
  created : ∀ {alive h o new}, R alive h → (h.device.create o).1 = .ok new →
    R (⟨o.kind, new⟩ ::ₘ alive) { h with device := (h.device.create o).2 }
  refused : ∀ {alive h o e}, R alive h → (h.device.create o).1 = .error e →
    R alive { h with device := (h.device.create o).2 }
  performAll : ∀ {alive h} {cs : List (Command String)}, R (deleted cs + alive) h →
    R alive (h.performAll cs)
  readPixels : ∀ {alive h} (area : Area), R alive h →
    R alive { h with device := h.device.record (.pixelsRead area) }
  of_eq : ∀ {alive h h'}, R alive h → h'.device.calls = h.device.calls →
    h'.device.live = h.device.live → h'.device.lastHandle = h.device.lastHandle → R alive h'

theorem Holds.readPixels {alive : Multiset Object} {h : Host Headless} (area : Area)
    (holds : h.Holds alive) : Holds alive { h with device := h.device.record (.pixelsRead area) } := by
  refine ⟨?_, holds.live, holds.nodup, holds.le_lastHandle⟩
  change SpriteRenderer.tally (h.device.calls ++ [.pixelsRead area]) = some alive
  rw [tally_append, holds.tally, Option.bind_some, DeviceCall.tally]

theorem Holds.ledger : Ledger Holds where
  created holds made := holds.created made
  refused holds failed := holds.refused failed
  performAll holds := holds.performAll
  readPixels area holds := holds.readPixels area
  of_eq holds := holds.of_eq

end Host

/-! ## Exchanges -/

namespace Action

open Host (Ledger)

variable {α β : Type}

/-- The objects after a result. -/
def outcome (made : α → Multiset Object) (left : Multiset Object) :
    Except RenderError α → Multiset Object
  | .ok a => made a
  | .error _ => left

/-- From these objects, the action makes others if it succeeds, and leaves some if it fails. It
does so in every ledger. -/
def Exchanges (given : Multiset Object) (made : α → Multiset Object) (left : Multiset Object)
    (x : Action Headless α) : Prop :=
  ∀ R : Multiset Object → Host Headless → Prop, Ledger R → ∀ h, R given h →
    R (outcome made left (x.run h).1) (x.run h).2

namespace Exchanges

variable {given left : Multiset Object} {made : α → Multiset Object}

theorem pure {a : α} (given_eq : given = made a) :
    Exchanges given made left (Pure.pure a : Action Headless α) := by
  intro R ledger h holds
  rw [given_eq] at holds
  exact holds

theorem fail (e : RenderError) : Exchanges left made left (Attempt.fail e : Action Headless α) :=
  fun _ _ _ holds => holds

theorem ofExcept (r : Except RenderError α) :
    Exchanges given (fun _ => given) given (Attempt.ofExcept r : Action Headless α) := by
  intro R ledger h holds
  cases r <;> exact holds

theorem bind {mid : α → Multiset Object} {made : β → Multiset Object} {x : Action Headless α}
    {f : α → Action Headless β} (hx : Exchanges given mid left x)
    (hf : ∀ a, Exchanges (mid a) made left (f a)) : Exchanges given made left (x >>= f) := by
  intro R ledger h holds
  have first := hx R ledger h holds
  rw [Attempt.run_bind]
  cases ran : x.run h with
  | mk r h' =>
      rw [ran] at first
      cases r with
      | ok a => exact hf a R ledger h' first
      | error e => exact first

theorem perform {cs : List (Command String)} (rest : Multiset Object)
    (given_eq : given = deleted cs + rest) :
    Exchanges given (fun _ => rest) left (Action.perform cs : Action Headless Unit) := by
  intro R ledger h holds
  rw [given_eq] at holds
  exact ledger.performAll holds

/-- Commands that delete nothing. -/
theorem keep {cs : List (Command String)} (none : deleted cs = 0) :
    Exchanges given (fun _ => given) left (Action.perform cs : Action Headless Unit) :=
  .perform given (by rw [none, zero_add])

theorem create (o : NewObject) :
    Exchanges given (fun h => ⟨o.kind, h⟩ ::ₘ given) given
      (Action.create o : Action Headless Handle) := by
  intro R ledger h holds
  have ran : (Action.create o).run h =
      ((h.device.create o).1, { h with device := (h.device.create o).2 }) := rfl
  rw [ran]
  cases result : (h.device.create o).1 with
  | ok new => exact ledger.created holds result
  | error e => exact ledger.refused holds result

/-- What is undone leaves what there was before. -/
theorem orElsePerform {x : Action Headless α} {cs : List (Command String)}
    {broken : Multiset Object} (hx : Exchanges given made broken x)
    (broken_eq : broken = deleted cs + left) : Exchanges given made left (x.orElsePerform cs) := by
  intro R ledger h holds
  have first := hx R ledger h holds
  rw [Action.orElsePerform, Attempt.run_onFailure]
  cases ran : x.run h with
  | mk r h' =>
      rw [ran] at first
      cases r with
      | ok a => exact first
      | error e =>
          rw [broken_eq] at first
          exact ledger.performAll first

theorem ask (f : Headless → α) :
    Exchanges given (fun _ => given) left (Action.query fun d => (f d, d) : Action Headless α) :=
  fun _ _ _ holds => holds

theorem window : Exchanges given (fun _ => given) left (Action.window : Action Headless Size) :=
  fun _ _ _ holds => holds

theorem write (r : LogRecord) :
    Exchanges given (fun _ => given) left (Action.write r : Action Headless Unit) :=
  fun _ ledger _ holds => ledger.of_eq holds rfl rfl rfl

theorem readPixels (area : Area) (bytes : List UInt8) :
    Exchanges given (fun _ => given) left
      (Action.query fun d => Device.readPixels d area bytes : Action Headless (List UInt8)) :=
  fun _ ledger _ holds => ledger.readPixels area holds

variable {R : Multiset Object → Host Headless → Prop} {x : Action Headless α}
  {h h' : Host Headless}

theorem of_ok (hx : Exchanges given made left x) (ledger : Ledger R) (holds : R given h) {a : α}
    (ran : x.run h = (.ok a, h')) : R (made a) h' := by
  have result := hx R ledger h holds
  rw [ran] at result
  exact result

theorem of_error (hx : Exchanges given made left x) (ledger : Ledger R) (holds : R given h)
    {e : RenderError} (ran : x.run h = (.error e, h')) : R left h' := by
  have result := hx R ledger h holds
  rw [ran] at result
  exact result

/-- Nothing is made and nothing is given up, whether the action fails or not. -/
theorem keeps (hx : Exchanges given (fun _ => given) given x) (ledger : Ledger R)
    (holds : R given h) {r : Except RenderError α} (ran : x.run h = (r, h')) : R given h' := by
  cases r with
  | ok a => exact hx.of_ok ledger holds ran
  | error e => exact hx.of_error ledger holds ran

end Exchanges

end Action

/-! ## Exchanges of the library -/

open SpriteRenderer.Action (Exchanges)

variable (given : Multiset Object)

namespace Procedure

def objects (p : Procedure String) : Multiset Object := {⟨.program, p.program⟩}

/-- A shader that does not compile is not left. -/
theorem compile_exchanges (stage : ShaderStage) (source : String) :
    Exchanges given (fun shader => ⟨.shader, shader⟩ ::ₘ given) given
      (compile stage source : Action Headless Handle) := by
  refine .bind (.create _) fun shader => .bind (.keep rfl) fun _ =>
    .bind (.ask _) fun compiled => ?_
  split
  · exact .pure rfl
  · exact .bind (.ask _) fun log => .bind (.write _) fun _ =>
      .bind (.perform given (Multiset.singleton_add _ _).symm) fun _ => .fail _

theorem locateAll_exchanges (left : Multiset Object) (program : Handle) (cs : List Channel) :
    Exchanges given (fun _ => given) left
      (locateAll program cs : Action Headless (List (UniformSlot String))) := by
  induction cs with
  | nil => exact .pure rfl
  | cons c cs ih =>
      exact .bind (.ask fun d => d.locate program c.name) fun _ => .bind ih fun _ => .pure rfl

theorem link_exchanges (shader : ComposedShader) :
    Exchanges given (fun p => p.objects + given) given
      (link shader : Action Headless (Procedure String)) := by
  refine .bind (compile_exchanges given _ _) fun vertex =>
    .bind (.orElsePerform (compile_exchanges _ _ _) (Multiset.singleton_add _ _).symm)
      fun fragment =>
    .bind (.orElsePerform (.create _) ?_) fun program => .bind (.keep rfl) fun _ =>
    .bind (.ask _) fun linked => .bind (.perform (⟨.program, program⟩ ::ₘ given) ?_) fun _ => ?_
  · change _ = (⟨.shader, vertex⟩ ::ₘ ⟨.shader, fragment⟩ ::ₘ 0) + given
    rw [Multiset.cons_add, Multiset.cons_add, zero_add]
    exact Multiset.cons_swap _ _ _
  · have moved : (⟨.program, program⟩ ::ₘ ⟨.shader, fragment⟩ ::ₘ ⟨.shader, vertex⟩ ::ₘ given :
        Multiset Object) =
        (⟨.shader, vertex⟩ ::ₘ ⟨.shader, fragment⟩ ::ₘ 0) + ⟨.program, program⟩ ::ₘ given := by
      simp only [← Multiset.singleton_add]
      abel
    exact moved
  · split
    · exact .bind (.ask fun d => d.locate program screenSizeName) fun _ =>
        .bind (locateAll_exchanges _ _ _ _) fun _ => .pure (Multiset.singleton_add _ _).symm
    · exact .bind (.ask _) fun log => .bind (.write _) fun _ =>
        .bind (.perform given (Multiset.singleton_add _ _).symm) fun _ => .fail _

theorem ofBuilder_exchanges (b : ProcedureBuilder) :
    Exchanges given (fun p => p.objects + given) given
      (ofBuilder b : Action Headless (Procedure String)) :=
  .bind (.ofExcept _) fun shader => link_exchanges given shader

theorem free_exchanges (p : Procedure String) :
    Exchanges (p.objects + given) (fun _ => given) given (p.free : Action Headless Unit) :=
  .perform given rfl

end Procedure

namespace DataBuffer

def objects (b : DataBuffer) : Multiset Object := {⟨.buffer, b.handle⟩}

theorem create_exchanges (usage : BufferUsage) :
    Exchanges given (fun b => b.objects + given) given
      (create usage : Action Headless DataBuffer) :=
  .bind (.create _) fun _ => .pure (Multiset.singleton_add _ _).symm

theorem setData_exchanges (b : DataBuffer) (bytes : List UInt8) :
    Exchanges given (fun _ => given) given (b.setData bytes : Action Headless DataBuffer) := by
  unfold setData
  split
  · exact .fail _
  · exact .bind (.keep rfl) fun _ => .pure rfl

theorem setData_yields (b : DataBuffer) (bytes : List UInt8) :
    (b.setData bytes : Action Headless DataBuffer).Yields fun b' => b'.objects = b.objects := by
  unfold setData
  split
  · exact .fail _
  · exact .bind (.any _) fun _ _ => .pure rfl

theorem free_exchanges (b : DataBuffer) :
    Exchanges (b.objects + given) (fun _ => given) given (b.free : Action Headless Unit) :=
  .perform given rfl

end DataBuffer

namespace SpriteBuffer

def objects (b : SpriteBuffer) : Multiset Object := {⟨.buffer, b.vertices⟩, ⟨.buffer, b.indices⟩}

theorem upload_exchanges (b : SpriteBuffer) (p : PackedSprites) (left : Multiset Object) :
    Exchanges (b.objects + given) (fun b' => b'.objects + given) left
      (b.upload p : Action Headless SpriteBuffer) :=
  .bind (.keep rfl) fun _ => .pure rfl

theorem create_exchanges (sprites : List Sprite) (usage : BufferUsage) :
    Exchanges given (fun b => b.objects + given) given
      (create sprites usage : Action Headless SpriteBuffer) := by
  refine .bind (.create _) fun vertices =>
    .bind (.orElsePerform (.create _) (Multiset.singleton_add _ _).symm) fun indices => ?_
  have both : (⟨.buffer, indices⟩ ::ₘ ⟨.buffer, vertices⟩ ::ₘ given : Multiset Object) =
      objects ⟨vertices, indices, [0], usage⟩ + given := by
    rw [objects, Multiset.insert_eq_cons, Multiset.cons_add, Multiset.singleton_add]
    exact Multiset.cons_swap _ _ _
  exact both ▸ upload_exchanges given _ _ _

theorem repack_exchanges (b : SpriteBuffer) (sprites : List Sprite) :
    Exchanges given (fun _ => given) given (b.repack sprites : Action Headless SpriteBuffer) := by
  unfold repack
  split
  · exact .fail _
  · exact .bind (.keep rfl) fun _ => .pure rfl

theorem repack_yields (b : SpriteBuffer) (sprites : List Sprite) :
    (b.repack sprites : Action Headless SpriteBuffer).Yields fun b' =>
      b'.objects = b.objects := by
  unfold repack
  split
  · exact .fail _
  · exact .bind (.any _) fun _ _ => .pure rfl

theorem free_exchanges (b : SpriteBuffer) :
    Exchanges (b.objects + given) (fun _ => given) given (b.free : Action Headless Unit) :=
  .perform given rfl

end SpriteBuffer

namespace Attachments

def objects : Attachments → Multiset Object
  | textures color depth => {⟨.texture, color⟩, ⟨.texture, depth⟩}
  | renderbuffers color depth _ => {⟨.renderbuffer, color⟩, ⟨.renderbuffer, depth⟩}

theorem deleted_storageCommands (a : Attachments) (size : Size) :
    deleted (a.storageCommands size : List (Command String)) = 0 := by
  cases a <;> rfl

end Attachments

namespace Offscreen

def objects (t : Offscreen) : Multiset Object :=
  ⟨.framebuffer, t.framebuffer⟩ ::ₘ t.attachments.objects

theorem deleted_deleteCommands (t : Offscreen) :
    deleted (t.deleteCommands : List (Command String)) = t.objects := by
  obtain ⟨framebuffer, attachments, size⟩ := t
  cases attachments <;> exact Multiset.coe_eq_coe.mpr (@List.perm_append_comm _ [_, _] [_])

theorem allocate_exchanges (t : Offscreen) :
    Exchanges given (fun _ => given) given (t.allocate : Action Headless Unit) := by
  refine .bind (.keep ?_) fun _ => .bind (.ask _) fun status => .bind (.keep rfl) fun _ => ?_
  · exact t.attachments.deleted_storageCommands t.size
  · split
    · exact .pure rfl
    · exact .fail _

theorem createAttachments_exchanges (multisampled : Bool) (samples : Int32) :
    Exchanges given (fun a => a.objects + given) given
      (createAttachments multisampled samples : Action Headless Attachments) := by
  unfold createAttachments
  split <;>
  · refine .bind (.create _) fun color =>
      .bind (.orElsePerform (.create _) (Multiset.singleton_add _ _).symm) fun depth => .pure ?_
    rw [Attachments.objects, Multiset.insert_eq_cons, Multiset.cons_add, Multiset.singleton_add]
    exact Multiset.cons_swap _ _ _

end Offscreen

namespace RenderTarget

def objects : RenderTarget → Multiset Object
  | primary => 0
  | offscreen t => t.objects

theorem create_exchanges (size : Size) (multisampled : Bool) (samples : Int32) :
    Exchanges given (fun t => t.objects + given) given
      (create size multisampled samples : Action Headless RenderTarget) := by
  refine .bind (.create _) fun framebuffer =>
    .bind (.orElsePerform (Offscreen.createAttachments_exchanges _ _ _)
      (Multiset.singleton_add _ _).symm) fun attachments => ?_
  have all : attachments.objects + ⟨.framebuffer, framebuffer⟩ ::ₘ given =
      Offscreen.objects ⟨framebuffer, attachments, size⟩ + given := by
    rw [Offscreen.objects, Multiset.cons_add, Multiset.add_cons]
  refine .bind (.orElsePerform (Offscreen.allocate_exchanges _ _) ?_) fun _ => .pure all
  rw [Offscreen.deleted_deleteCommands]
  exact all

theorem objects_of_withSize {t t' : RenderTarget} {size : Size} (h : t.withSize size = .ok t') :
    t'.objects = t.objects := by
  cases t with
  | primary => cases h
  | offscreen t =>
      cases h
      rfl

theorem allocate_exchanges (t : RenderTarget) :
    Exchanges given (fun _ => given) given (t.allocate : Action Headless Unit) := by
  cases t with
  | primary => exact .pure rfl
  | offscreen t => exact t.allocate_exchanges given

theorem bind_exchanges (t : RenderTarget) :
    Exchanges given (fun _ => given) given (t.bind : Action Headless Unit) :=
  .keep rfl

theorem clear_exchanges (t : RenderTarget) (r g b : UInt8) :
    Exchanges given (fun _ => given) given (t.clear r g b : Action Headless Unit) :=
  .keep rfl

theorem blitTo_exchanges (t destination : RenderTarget) (x y : Int32) :
    Exchanges given (fun _ => given) given (t.blitTo destination x y : Action Headless Unit) := by
  unfold blitTo
  split
  · exact .fail _
  · exact .bind .window fun window => .keep rfl

theorem readPixels_exchanges (t : RenderTarget) :
    Exchanges given (fun _ => given) given (t.readPixels : Action Headless Image) := by
  unfold readPixels
  split
  · exact .fail _
  · exact .bind .window fun window => .bind (.keep rfl) fun _ => .bind (.readPixels _ _) fun bytes =>
      .bind (.keep rfl) fun _ => .ofExcept _

theorem free_exchanges (t : RenderTarget) :
    Exchanges (t.objects + given) (fun _ => given) given (t.free : Action Headless Unit) := by
  cases t with
  | primary => exact .pure (zero_add given)
  | offscreen t => exact .perform given (by rw [t.deleted_deleteCommands]; rfl)

end RenderTarget

namespace Operation

def objects (op : Operation String) : Multiset Object := {⟨.vertexArray, op.vertexArray⟩}

theorem Continues.objects {op op' : Operation String} (h : op.Continues op') :
    op'.objects = op.objects := by
  rw [Operation.objects, Operation.objects, h.vertexArray]

theorem create_exchanges (p : Procedure String) :
    Exchanges given (fun op => op.objects + given) given
      (create p : Action Headless (Operation String)) :=
  .bind (.create _) fun _ => .pure (Multiset.singleton_add _ _).symm

theorem setAttribute_exchanges (op : Operation String) (c : Channel) (data : DataBuffer)
    (offset slot : Nat) :
    Exchanges given (fun _ => given) given
      (op.setAttribute c data offset slot : Action Headless (Operation String)) := by
  refine .bind (.ofExcept _) fun source => .bind (.keep ?_) fun _ => .pure rfl
  unfold AttributeSource.commands AttributeSource.pointerCommand
  split <;> rfl

theorem setSprite_exchanges (op : Operation String) (sprites : SpriteBuffer) (id : Nat) :
    Exchanges given (fun _ => given) given
      (op.setSprite sprites id : Action Headless (Operation String)) := by
  unfold setSprite
  split
  · exact .fail _
  · exact .bind (.keep rfl) fun _ => .pure rfl

theorem deleted_drawCommands (op : Operation String) (t : RenderTarget) (size : Size)
    (first count : UInt32) : deleted (op.drawCommands t size first count) = 0 := by
  have uniforms : (op.uniformCommands ++ op.screenSizeCommands size).filterMap
      Command.deleted? = [] := by
    rw [List.filterMap_eq_nil_iff]
    intro c hc
    have facility := op.facility_uniformCommands size c hc
    cases c with
    | delete kind object => cases kind <;> cases facility
    | _ => rfl
  rw [deleted, drawCommands_eq, preparation, List.filterMap_append, List.filterMap_append, uniforms]
  rfl

theorem drawTo_exchanges (op : Operation String) (t : RenderTarget) :
    Exchanges given (fun _ => given) given (op.drawTo t : Action Headless Unit) := by
  unfold drawTo
  split
  · exact .write _
  · split
    · exact .write _
    · exact .bind .window fun window => .keep (op.deleted_drawCommands _ _ _ _)

theorem free_exchanges (op : Operation String) :
    Exchanges (op.objects + given) (fun _ => given) given (op.free : Action Headless Unit) :=
  .perform given rfl

end Operation

end SpriteRenderer
