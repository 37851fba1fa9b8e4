import SpriteRenderer.Proofs.Objects.Standing
import SpriteRenderer.Proofs.Script.Footprint

/-! # Contents of buffers

A call of the library stores into its own buffers only. All uploads go through what is bound, and
every upload binds its buffer itself. -/

namespace SpriteRenderer

/-! ## Commands -/

namespace Command

variable {ℓ : Type}

/-- The command changes the contents of a buffer. -/
def stores : Command ℓ → Bool
  | bufferData .. | delete .buffer _ => true
  | _ => false

theorem stores_of_facility {c : Command ℓ} (h : c.facility ≠ .buffers) : c.stores = false := by
  cases c with
  | delete kind object => cases kind <;> first | rfl | exact absurd rfl h
  | bufferData => exact absurd rfl h
  | _ => rfl

end Command

namespace Headless

theorem buffers_effect {d : Headless} {c : Command String} (keeps : c.stores = false) :
    (d.effect c).buffers = d.buffers := by
  cases c with
  | delete kind object => cases kind <;> first | rfl | cases keeps
  | bindBuffer target b => cases b <;> rfl
  | bufferData target bytes usage => cases keeps
  | shaderSource shader source => simp only [effect, updateShader]; split <;> rfl
  | compileShader shader => simp only [effect, compile, updateShader]; split <;> rfl
  | attachShader program shader => simp only [effect, updateProgram]; split <;> rfl
  | detachShader program shader => simp only [effect, updateProgram]; split <;> rfl
  | linkProgram program => simp only [effect, link, updateProgram]; split <;> rfl
  | bindFramebuffer target f =>
      simp only [effect, bindFramebuffer]
      split
      · rfl
      · split <;> rfl
  | blitFramebuffer _ _ mask => simp only [effect, blit]; split <;> rfl
  | clear mask => simp only [effect, clear]; split <;> rfl
  | _ => rfl

theorem buffers_create (d : Headless) (o : NewObject) : (d.create o).2.buffers = d.buffers := by
  unfold create
  split
  · rfl
  · cases o <;> rfl

end Headless

namespace Host

theorem buffers_performAll {cs : List (Command String)} (keep : ∀ c ∈ cs, c.stores = false)
    (h : Host Headless) : (h.performAll cs).device.buffers = h.device.buffers := by
  induction cs generalizing h with
  | nil => rfl
  | cons c cs ih =>
      rw [performAll_cons, ih fun d hd => keep d (List.mem_cons_of_mem c hd)]
      exact Headless.buffers_effect (keep c List.mem_cons_self)

/-- Only the facility of buffers stores anything. -/
theorem survives_buffers {F : List Facility} (unrelated : .buffers ∉ F)
    (t : Table Handle (List UInt8)) : Survives F fun h : Host Headless => h.device.buffers = t where
  perform h c hc same := by
    have other : c.facility ≠ .buffers := fun here => unrelated (here ▸ hc)
    exact (Headless.buffers_effect (Command.stores_of_facility other)).trans same
  create h o _ same := (h.device.buffers_create o).trans same
  locate _ _ _ same := same
  framebufferStatus _ _ same := same
  readPixels _ _ _ same := same
  write _ _ same := same

end Host

/-! ## Calls that store nothing -/

open Attempt (Preserves)

theorem Action.buffers_create (t : Table Handle (List UInt8)) (o : NewObject) :
    Preserves (fun h => h.device.buffers = t) (Action.create o : Action Headless Handle) :=
  fun h same => (h.device.buffers_create o).trans same

namespace Operation

theorem buffers_create (p : Procedure String) (h : Host Headless) :
    ((create p : Action Headless (Operation String)).run h).2.device.buffers =
      h.device.buffers :=
  Preserves.bind (Action.buffers_create _ _) (fun _ => .pure _) h rfl

/-- What an attribute reads is bound, but nothing is stored into it. -/
theorem buffers_setAttribute (op : Operation String) (c : Channel) (data : DataBuffer)
    (offset slot : Nat) (h : Host Headless) :
    ((op.setAttribute c data offset slot : Action Headless (Operation String)).run h).2.device.buffers =
      h.device.buffers := by
  rw [run_setAttribute]
  split
  · rfl
  · apply Host.buffers_performAll
    unfold AttributeSource.commands AttributeSource.pointerCommand
    split <;> simp [Command.stores]

theorem buffers_setSprite (op : Operation String) (sprites : SpriteBuffer) (id : Nat)
    (h : Host Headless) :
    ((op.setSprite sprites id : Action Headless (Operation String)).run h).2.device.buffers =
      h.device.buffers := by
  rw [run_setSprite]
  split
  · rfl
  · exact Host.buffers_performAll (by simp [spriteCommands, Command.stores]) h

end Operation

/-! ## Calls that store -/

namespace Host

theorem create_handle {h : Host Headless} {o : NewObject} {new : Handle}
    (made : (h.device.create o).1 = .ok new) :
    new = h.device.lastHandle + 1 ∧ (h.device.create o).2.lastHandle = h.device.lastHandle + 1 := by
  rcases h.device.create_cases o with ⟨e, refused, -⟩ | ⟨next, -, lastHandle⟩
  · rw [made] at refused
    cases refused
  · rw [made, Except.ok.injEq] at next
    exact ⟨next, lastHandle⟩

theorem create_refused {h : Host Headless} {o : NewObject} {e : RenderError}
    (failed : (h.device.create o).1 = .error e) :
    (h.device.create o).2.lastHandle = h.device.lastHandle := by
  rcases h.device.create_cases o with ⟨-, -, -, lastHandle⟩ | ⟨next, -⟩
  · exact lastHandle
  · rw [failed] at next
    cases next

/-- What is stored while a buffer is bound is stored in this buffer. -/
theorem buffers_store (h : Host Headless) (target : UInt32) (b : Handle) (bytes : List UInt8)
    (usage : UInt32) :
    (h.performAll [.bindBuffer target b, .bufferData target bytes usage,
      .bindBuffer target none]).device.buffers = h.device.buffers.insert b bytes := by
  have stored (d : Headless) (bound : d.bound.get? target = some b) :
      (d.store target bytes).buffers = d.buffers.insert b bytes := by
    rw [Headless.store, bound]
  exact stored ((h.device.effect (.bindBuffer target b)).record _) (Table.get?_insert_self _ _ _)

/-- Contents changed at most under these handles and under those given out meanwhile. -/
def StoresIn (own : Multiset Handle) (h h' : Host Headless) : Prop :=
  ∀ u ∉ own, u ≤ h.device.lastHandle ∨ h'.device.lastHandle < u →
    h'.device.buffers.get? u = h.device.buffers.get? u

theorem StoresIn.of_buffers {h h' : Host Headless} (same : h'.device.buffers = h.device.buffers)
    (own : Multiset Handle) : StoresIn own h h' := by
  intro u _ _
  rw [same]

end Host

namespace DataBuffer

theorem run_create (usage : BufferUsage) (h : Host Headless) :
    (create usage : Action Headless DataBuffer).run h =
      ((h.device.create .buffer).1.map fun handle => { handle, usage },
        { h with device := (h.device.create .buffer).2 }) := by
  have ran : (Action.create .buffer : Action Headless Handle).run h =
      ((h.device.create .buffer).1, { h with device := (h.device.create .buffer).2 }) := rfl
  rw [create, Attempt.run_bind, ran]
  cases (h.device.create .buffer).1 <;> rfl

/-- A new buffer has a new handle, and nothing is stored. -/
theorem create_new {usage : BufferUsage} {h h' : Host Headless} {b : DataBuffer}
    (ran : (create usage : Action Headless DataBuffer).run h = (.ok b, h')) :
    ∃ handle, b = { handle, usage } ∧ h.device.lastHandle < handle ∧
      h'.device.buffers = h.device.buffers := by
  rw [run_create, Prod.mk.injEq] at ran
  obtain ⟨made, rfl⟩ := ran
  cases created : (h.device.create .buffer).1 with
  | error e =>
      rw [created] at made
      cases made
  | ok handle =>
      rw [created] at made
      cases made
      obtain ⟨rfl, -⟩ := Host.create_handle created
      exact ⟨_, rfl, Nat.lt_succ_self _, h.device.buffers_create _⟩

theorem run_setData (b : DataBuffer) (bytes : List UInt8) (h : Host Headless) :
    (b.setData bytes : Action Headless DataBuffer).run h =
      if b.usage = .static ∧ b.written then (.error (.invalidOperation .staticDataWritten), h)
      else (.ok { b with byteLength := bytes.length, written := true },
        h.performAll [.bindBuffer Gl.arrayBuffer b.handle,
          .bufferData Gl.arrayBuffer bytes b.usage.number, .bindBuffer Gl.arrayBuffer none]) := by
  unfold setData
  split <;> rfl

end DataBuffer

namespace SpriteBuffer

theorem buffers_upload (h : Host Headless) (vertices indices : Handle) (usage : BufferUsage)
    (p : PackedSprites) :
    (h.performAll (uploadCommands vertices indices usage p)).device.buffers =
      (h.device.buffers.insert vertices p.vertexBytes).insert indices p.indexBytes := by
  have split : (uploadCommands vertices indices usage p : List (Command String)) =
      [.bindBuffer Gl.arrayBuffer vertices, .bufferData Gl.arrayBuffer p.vertexBytes usage.number,
        .bindBuffer Gl.arrayBuffer none] ++ ([.bindVertexArray none] ++
      [.bindBuffer Gl.elementArrayBuffer indices,
        .bufferData Gl.elementArrayBuffer p.indexBytes usage.number,
        .bindBuffer Gl.elementArrayBuffer none]) := rfl
  rw [split, Host.performAll_append, Host.performAll_append, Host.buffers_store,
    Host.buffers_performAll (by simp [Command.stores]), Host.buffers_store]

theorem run_repack (b : SpriteBuffer) (sprites : List Sprite) (h : Host Headless) :
    (b.repack sprites : Action Headless SpriteBuffer).run h =
      if b.usage = .static then (.error (.invalidOperation .staticSpritesRepacked), h)
      else (.ok { b with ranges := (PackedSprites.ofSprites sprites).ranges },
        h.performAll (uploadCommands b.vertices b.indices b.usage (.ofSprites sprites))) := by
  unfold repack
  split <;> rfl

/-- A vertex buffer without an index buffer is deleted again. -/
theorem run_create (sprites : List Sprite) (usage : BufferUsage) (h : Host Headless) :
    (create sprites usage : Action Headless SpriteBuffer).run h =
      let h₁ : Host Headless := { h with device := (h.device.create .buffer).2 }
      let h₂ : Host Headless := { h with device := (h₁.device.create .buffer).2 }
      match (h.device.create .buffer).1, (h₁.device.create .buffer).1 with
      | .error e, _ => (.error e, h₁)
      | .ok vertices, .error e => (.error e, h₂.performAll [.delete .buffer vertices])
      | .ok vertices, .ok indices =>
        (.ok { vertices, indices, ranges := (PackedSprites.ofSprites sprites).ranges, usage },
          h₂.performAll (uploadCommands vertices indices usage (.ofSprites sprites))) := by
  have ran (g : Host Headless) : (Action.create .buffer : Action Headless Handle).run g =
      ((g.device.create .buffer).1, { g with device := (g.device.create .buffer).2 }) := rfl
  simp only [create, Attempt.run_bind, Action.orElsePerform, Attempt.run_onFailure, ran]
  cases (h.device.create .buffer).1 with
  | error e => rfl
  | ok vertices =>
      simp only
      cases ((h.device.create .buffer).2.create .buffer).1 <;> rfl

private theorem apart_of_outside {n m u new : Nat} (above : n + 1 ≤ new) (below : new ≤ m)
    (outside : u ≤ n ∨ m < u) : u ≠ new := by
  omega

theorem create_storesIn (sprites : List Sprite) (usage : BufferUsage) (h : Host Headless) :
    h.StoresIn 0 ((create sprites usage : Action Headless SpriteBuffer).run h).2 := by
  intro u _ outside
  rw [run_create] at outside ⊢
  simp only at outside ⊢
  cases first : (h.device.create .buffer).1 with
  | error e => rw [Headless.buffers_create]
  | ok vertices =>
      obtain ⟨rfl, last⟩ := Host.create_handle first
      simp only [first] at outside ⊢
      cases second : ((h.device.create .buffer).2.create .buffer).1 with
      | error e =>
          have last' := Host.create_refused (h := { h with device := (h.device.create .buffer).2 })
            second
          simp only [second, Host.lastHandle_performAll, last', last] at outside ⊢
          have other : u ≠ h.device.lastHandle + 1 :=
            apart_of_outside (Nat.le_refl _) (Nat.le_refl _) outside
          change (((h.device.create .buffer).2.create .buffer).2.buffers.erase _).get? u = _
          rw [Table.get?_erase_of_ne _ other, Headless.buffers_create, Headless.buffers_create]
      | ok indices =>
          obtain ⟨rfl, last'⟩ := Host.create_handle
            (h := { h with device := (h.device.create .buffer).2 }) second
          simp only [second, Host.lastHandle_performAll, last', last] at outside ⊢
          have other : u ≠ h.device.lastHandle + 1 :=
            apart_of_outside (Nat.le_refl _) (Nat.le_succ _) outside
          have other' : u ≠ h.device.lastHandle + 1 + 1 :=
            apart_of_outside (Nat.le_succ _) (Nat.le_refl _) outside
          rw [buffers_upload, Table.get?_insert_of_ne _ _ other', Table.get?_insert_of_ne _ _ other,
            Headless.buffers_create, Headless.buffers_create]

/-- A new sprite buffer holds what was packed. -/
theorem create_stores {sprites : List Sprite} {usage : BufferUsage} {h h' : Host Headless}
    {b : SpriteBuffer}
    (ran : (create sprites usage : Action Headless SpriteBuffer).run h = (.ok b, h')) :
    b.ranges = (PackedSprites.ofSprites sprites).ranges ∧ b.usage = usage ∧
      h'.device.buffers.get? b.vertices = some (PackedSprites.ofSprites sprites).vertexBytes ∧
      h'.device.buffers.get? b.indices = some (PackedSprites.ofSprites sprites).indexBytes := by
  rw [run_create] at ran
  simp only at ran
  cases first : (h.device.create .buffer).1 with
  | error e =>
      rw [first] at ran
      cases ran
  | ok vertices =>
      simp only [first] at ran
      cases second : ((h.device.create .buffer).2.create .buffer).1 with
      | error e =>
          rw [second] at ran
          cases ran
      | ok indices =>
          obtain ⟨rfl, last⟩ := Host.create_handle first
          obtain ⟨rfl, -⟩ := Host.create_handle
            (h := { h with device := (h.device.create .buffer).2 }) second
          rw [second] at ran
          cases ran
          refine ⟨rfl, rfl, ?_, ?_⟩
          · rw [buffers_upload, Table.get?_insert_of_ne _ _ (by simp [last]),
              Table.get?_insert_self]
          · rw [buffers_upload, Table.get?_insert_self]

end SpriteBuffer

/-! ## Steps -/

/-- The buffers that a step stores into or frees. -/
def Step.stores? : Step → Option (Owner × String)
  | setData name _ | freeData name => some (.dataBuffer, name)
  | repack _ name | freeBuffer name => some (.spriteBuffer, name)
  | _ => none

namespace Scene

variable {s : Scene Headless String} {step : Step}
  {out : Except StepError Answer × Scene Headless String}

theorem objects?_of_dataBuffer {name : String} {b : DataBuffer}
    (found : s.dataBuffers.get? name = some b) :
    s.objects? (.dataBuffer, name) = some b.objects :=
  congrArg (Option.map DataBuffer.objects) found

theorem objects?_of_spriteBuffer {name : String} {b : SpriteBuffer}
    (found : s.spriteBuffers.get? name = some b) :
    s.objects? (.spriteBuffer, name) = some b.objects :=
  congrArg (Option.map SpriteBuffer.objects) found

def written (s : Scene Headless String) (step : Step) : Multiset Handle :=
  ((step.stores?.bind s.objects?).getD 0).map (·.handle)

theorem written_of_dataBuffer {name : String} {b : DataBuffer}
    (stores : step.stores? = some (.dataBuffer, name)) (found : s.dataBuffers.get? name = some b) :
    s.written step = {b.handle} := by
  simp [written, stores, objects?_of_dataBuffer found, DataBuffer.objects]

theorem written_of_spriteBuffer {name : String} {b : SpriteBuffer}
    (stores : step.stores? = some (.spriteBuffer, name))
    (found : s.spriteBuffers.get? name = some b) : s.written step = {b.vertices, b.indices} := by
  simp [written, stores, objects?_of_spriteBuffer found, SpriteBuffer.objects]

theorem storesIn_of_transition (t : Script.Transition s step out) :
    s.host.StoresIn (s.written step) out.2.host := by
  have of_run {α : Type} {x : Action Headless α} {r : Except RenderError α}
      {host : Host Headless} (same : (x.run s.host).2.device.buffers = s.host.device.buffers)
      (ran : x.run s.host = (r, host)) : s.host.StoresIn (s.written step) host := by
    rw [ran] at same
    exact .of_buffers same _
  have elsewhere (other : .buffers ∉ step.facilities) :
      s.host.StoresIn (s.written step) out.2.host :=
    .of_buffers (t.preserves (Host.survives_buffers other _) (fun _ _ => id) rfl) _
  cases t with
  | refused e | asked query r => exact .of_buffers rfl _
  | newData ran => exact of_run (by rw [DataBuffer.run_create]; exact Headless.buffers_create _ _) ran
  | @setData name bytes b r host found ran =>
      intro u outside _
      rw [written_of_dataBuffer rfl found, Multiset.mem_singleton] at outside
      rw [DataBuffer.run_setData] at ran
      split at ran <;> cases ran
      · rfl
      · rw [Host.buffers_store, Table.get?_insert_of_ne _ _ outside]
  | freeData found =>
      intro u outside _
      rw [written_of_dataBuffer rfl found, Multiset.mem_singleton] at outside
      exact Table.get?_erase_of_ne _ outside
  | @newBuffer sprites usage as list r host found ran =>
      have stored := SpriteBuffer.create_storesIn list usage s.host
      rw [ran] at stored
      exact stored
  | @repack sprites name b list r host found collected ran =>
      intro u outside _
      rw [written_of_spriteBuffer rfl found, Multiset.insert_eq_cons, Multiset.mem_cons,
        Multiset.mem_singleton, not_or] at outside
      rw [SpriteBuffer.run_repack] at ran
      split at ran <;> cases ran
      · rfl
      · rw [SpriteBuffer.buffers_upload, Table.get?_insert_of_ne _ _ outside.2,
          Table.get?_insert_of_ne _ _ outside.1]
  | freeBuffer found =>
      intro u outside _
      rw [written_of_spriteBuffer rfl found, Multiset.insert_eq_cons, Multiset.mem_cons,
        Multiset.mem_singleton, not_or] at outside
      exact (Table.get?_erase_of_ne _ outside.2).trans (Table.get?_erase_of_ne _ outside.1)
  | newOperation found ran => exact of_run (Operation.buffers_create _ _) ran
  | setAttribute _ _ found ran => exact of_run (Operation.buffers_setAttribute _ _ _ _ _ _) ran
  | setSprite _ found ran => exact of_run (Operation.buffers_setSprite _ _ _ _) ran
  | freeOperation found => exact .of_buffers rfl _
  | _ => exact elsewhere (by simp [Step.facilities])

/-- Every buffer of the scene is alive and distinct from every other one, and nothing is stored
yet under handles to come. -/
structure Stocked (s : Scene Headless String) : Prop where
  standing : s.Standing
  fresh : ∀ u, s.host.device.lastHandle < u → s.host.device.buffers.get? u = none

namespace Stocked

variable {owner : Owner × String} {objects : Multiset Object} {o : Object}

/-- What a step stores into is held under another name. -/
theorem notMem_written (h : s.Stocked) (isBuffer : owner.1.isBuffer)
    (found : s.objects? owner = some objects) (other : step.stores? ≠ some owner)
    (ho : o ∈ objects) : o.handle ∉ s.written step := by
  intro mem
  cases stores : step.stores? with
  | none => simp [written, stores] at mem
  | some owner' =>
      have isBuffer' : owner'.1.isBuffer := by
        cases step <;> cases stores <;> rfl
      have different : owner' ≠ owner := fun same => other (by rw [stores, same])
      cases found' : s.objects? owner' with
      | none => simp [written, stores, found'] at mem
      | some objects' =>
          have apart := h.standing.nodup (add_le_held isBuffer isBuffer' found found' different)
          rw [Multiset.map_add] at apart
          refine Multiset.disjoint_left.mp (Multiset.nodup_add.mp apart).2.2
            (Multiset.mem_map_of_mem _ ho) ?_
          simpa [written, stores, found'] using mem

theorem get?_of_transition (h : s.Stocked) (t : Script.Transition s step out)
    (isBuffer : owner.1.isBuffer) (found : s.objects? owner = some objects)
    (other : step.stores? ≠ some owner) (ho : o ∈ objects) :
    out.2.host.device.buffers.get? o.handle = s.host.device.buffers.get? o.handle := by
  refine storesIn_of_transition t o.handle (h.notMem_written isBuffer found other ho) (.inl ?_)
  exact (h.standing.live (Multiset.mem_of_le (le_held isBuffer found) ho)).2

theorem bufferContents (h : s.Stocked) (isBuffer : owner.1.isBuffer)
    (found : s.objects? owner = some objects) (ho : o ∈ objects) :
    s.host.device.bufferContents o.handle =
      some ((s.host.device.buffers.get? o.handle).getD []) :=
  if_pos (h.standing.live (Multiset.mem_of_le (le_held isBuffer found) ho)).1

theorem transition (h : s.Stocked) (t : Script.Transition s step out)
    (performed : (Script.perform step).run s = out) : out.2.Stocked := by
  have le := Headless.Moment.lastHandle_le t performed
  refine ⟨h.standing.transition t performed, fun u above => ?_⟩
  have before : s.host.device.lastHandle < u := Nat.lt_of_le_of_lt le above
  rw [storesIn_of_transition t u (fun mem => ?_) (.inr above)]
  · exact h.fresh u before
  · -- What is written into has been given out before.
    obtain ⟨o, ho, rfl⟩ := Multiset.mem_map.mp mem
    cases stores : step.stores? with
    | none => simp [stores] at ho
    | some owner =>
        have isBuffer : owner.1.isBuffer := by
          cases step <;> cases stores <;> rfl
        cases found : s.objects? owner with
        | none => simp [stores, found] at ho
        | some objects =>
            have own : o ∈ objects := by simpa [stores, found] using ho
            have held := h.standing.live (Multiset.mem_of_le (le_held isBuffer found) own)
            exact Nat.lt_irrefl _ (Nat.lt_of_lt_of_le before held.2)

theorem of_create {config : RendererConfig} {window : Size}
    (created : Scene.create ({} : Headless) config window = .ok s) : s.Stocked := by
  refine ⟨.of_create created, fun u _ => ?_⟩
  obtain ⟨templates, rfl⟩ := Scene.eq_of_create created
  have keep : ∀ c ∈ (Context.setupCommands config : List (Command String)), c.stores = false := by
    intro c hc
    apply Command.stores_of_facility
    have facility := Context.facility_setupCommands config c hc
    intro buffers
    rw [buffers] at facility
    cases facility with
    | tail _ h => cases h with
      | tail _ h => cases h
  rw [start, Host.buffers_performAll keep]
  rfl

theorem withFailures (h : s.Stocked) (compile link : Option String) (creations : Option Nat) :
    Stocked { s with
      host := { s.host with device := s.host.device.withFailures compile link creations } } := by
  obtain ⟨⟨aside, refers, stands⟩, fresh⟩ := h
  exact ⟨⟨aside, refers, stands.of_eq rfl rfl⟩, fresh⟩

end Stocked

end Scene

namespace Headless

variable {s : Scene Headless String} {owner : Owner × String} {objects : Multiset Object}
  {x : Handle}

theorem isBuffer_of_mem (found : s.objects? owner = some objects)
    (mem : ⟨.buffer, x⟩ ∈ objects) : owner.1.isBuffer := by
  obtain ⟨owner, name⟩ := owner
  cases owner with
  | dataBuffer | spriteBuffer => rfl
  | procedure =>
      obtain ⟨p, -, rfl⟩ := Option.map_eq_some_iff.mp found
      cases Multiset.mem_singleton.mp mem
  | target =>
      obtain ⟨t, -, rfl⟩ := Option.map_eq_some_iff.mp found
      cases t with
      | primary => cases Multiset.notMem_zero _ mem
      | offscreen t =>
          obtain ⟨framebuffer, attachments, size⟩ := t
          cases attachments <;>
            simp [RenderTarget.objects, Offscreen.objects, Attachments.objects] at mem
  | operation =>
      obtain ⟨op, -, rfl⟩ := Option.map_eq_some_iff.mp found
      cases Multiset.mem_singleton.mp mem

theorem stores?_of_frees? {step : Step} (frees : step.frees? = some owner)
    (isBuffer : owner.1.isBuffer) : step.stores? = some owner := by
  cases step <;> cases frees <;> first | rfl | cases isBuffer

theorem Moment.exists_of_mem_freed {step : Step} {r : Except StepError Answer} {o : Object}
    (freed : o ∈ Moment.freed ⟨s, .step step, r⟩) : ∃ owner objects,
      step.frees? = some owner ∧ s.objects? owner = some objects ∧ o ∈ objects := by
  cases r with
  | error e => exact absurd freed (Multiset.notMem_zero o)
  | ok answer =>
      change o ∈ (step.frees?.bind s.objects?).getD 0 at freed
      cases frees : step.frees? with
      | none =>
          rw [frees] at freed
          exact absurd freed (Multiset.notMem_zero o)
      | some owner =>
          rw [frees, Option.bind_some] at freed
          cases found : s.objects? owner with
          | none =>
              rw [found] at freed
              exact absurd freed (Multiset.notMem_zero o)
          | some objects =>
              rw [found] at freed
              exact ⟨owner, objects, rfl, found, freed⟩

/-- Only the calls of a buffer itself change its contents. -/
theorem bufferContents_after (stocked : s.Stocked) (isBuffer : owner.1.isBuffer)
    (found : s.objects? owner = some objects) (own : ⟨.buffer, x⟩ ∈ objects) {d : Directive}
    (indirect : d.isDirect = false)
    (other : ∀ step, d = .step step → step.stores? ≠ some owner) :
    (after s [d]).host.device.bufferContents x = s.host.device.bufferContents x := by
  by_cases isStep : ∃ step, d = .step step
  · obtain ⟨step, rfl⟩ := isStep
    have t := Script.transition_perform step s
    have same := stocked.get?_of_transition t isBuffer found (other step rfl) own
    have held := Multiset.mem_of_le (Scene.le_held isBuffer found) own
    have live := stocked.standing.live_of_transition t rfl held fun freed => ?_
    · rw [stocked.bufferContents isBuffer found own, ← same]
      exact if_pos live
    · -- What is freed under another name is another buffer, or none.
      obtain ⟨owner', objects', frees, found', own'⟩ := Moment.exists_of_mem_freed freed
      have isBuffer' := isBuffer_of_mem found' own'
      have different : owner' ≠ owner := fun same =>
        other step rfl (same ▸ stores?_of_frees? frees isBuffer')
      have apart := stocked.standing.nodup
        (Scene.add_le_held isBuffer isBuffer' found found' different)
      rw [Multiset.map_add] at apart
      exact Multiset.disjoint_left.mp (Multiset.nodup_add.mp apart).2.2
        (Multiset.mem_map_of_mem _ own) (Multiset.mem_map_of_mem _ own')
  · obtain ⟨compile, link, creations, same⟩ :=
      after_of_not_step indirect (fun step isStep' => isStep ⟨step, isStep'⟩) s
    rw [same]
    rfl

/-- What holds at the start, and is kept by every step of a stocked scene and every queued failure,
holds after every session of the library. -/
theorem stocked_induction {I : List Moment → Scene Headless String → Prop}
    {config : RendererConfig} {window : Size} {s₀ : Scene Headless String}
    (created : Scene.create ({} : Headless) config window = .ok s₀) (start : I [] s₀)
    (step : ∀ ms (s : Scene Headless String) step out, s.Stocked → Script.Transition s step out →
      I ms s → I (ms ++ [⟨s, .step step, out.1⟩]) out.2)
    (failure : ∀ ms (s : Scene Headless String) (m : Moment) compile link creations,
      (∀ step, m.directive ≠ .step step) → I ms s →
      I (ms ++ [m]) { s with
        host := { s.host with device := s.host.device.withFailures compile link creations } })
    (ds : List Directive) (library : ∀ d ∈ ds, d.isDirect = false) :
    (after s₀ ds).Stocked ∧ I (history s₀ ds) (after s₀ ds) := by
  refine history_induction_of_run (I := fun ms s => s.Stocked ∧ I ms s) ⟨.of_create created, start⟩
    (fun ms s a out performed before => ?_) (fun ms s m compile link creations noStep before => ?_)
    ds library
  · have t := performed ▸ Script.transition_perform a s
    exact ⟨before.1.transition t performed, step ms s a out before.1 t before.2⟩
  · exact ⟨before.1.withFailures compile link creations,
      failure ms s m compile link creations noStep before.2⟩

end Headless

end SpriteRenderer
