import SpriteRenderer.Proofs.Action.Outcomes
import SpriteRenderer.Proofs.Device.Recorder
import SpriteRenderer.Proofs.Drawing.OwnState
import SpriteRenderer.Proofs.RenderTarget.Replay
import SpriteRenderer.Proofs.Script.Footprint
import SpriteRenderer.Proofs.Table.Total

/-! # Storage of render targets

The storage of a target always has the size that the target reports, also when the device finds
its framebuffer incomplete. This holds on every device that records its calls. -/

namespace SpriteRenderer

variable {δ : Type} [Device δ String] [Recorder δ]

namespace Command

variable {ℓ : Type}

/-- The command deletes none of these objects, and changes none of them. -/
inductive Spares (owned : Multiset Object) : Command ℓ → Prop where
  | delete {kind h} (other : ⟨kind, h⟩ ∉ owned) : Spares owned (.delete kind h)
  | elsewhere {c} (facility : c.facility ≠ .storage) (keeps : c.deleted? = none) : Spares owned c

/-- What is not about framebuffers, textures and renderbuffers spares them. -/
theorem spares_of_facility {owned : Multiset Object}
    (kind : ∀ o ∈ owned, o.kind.facility = .storage) {c : Command ℓ}
    (facility : c.facility ≠ .storage) : c.Spares owned := by
  cases c with
  | delete k h => exact .delete fun mem => facility (kind _ mem)
  | _ => exact .elsewhere facility rfl

end Command

namespace TargetState

variable {ℓ : Type}

theorem perform_of_facility (g : TargetState) {c : Command ℓ} (facility : c.facility ≠ .storage)
    (keeps : c.deleted? = none) :
    (g.perform c).holdings = g.holdings ∧ (g.perform c).texture = g.texture ∧
      (g.perform c).renderbuffer = g.renderbuffer := by
  cases c with
  | delete kind h => cases keeps
  | bindFramebuffer target f =>
      simp only [perform, bindFramebuffer]
      split
      · split
        · exact ⟨rfl, rfl, rfl⟩
        · split <;> exact ⟨rfl, rfl, rfl⟩
      · exact ⟨rfl, rfl, rfl⟩
  | framebufferTexture2D | framebufferRenderbuffer | bindTexture | bindRenderbuffer | texStorage2D
  | renderbufferStorageMultisample => exact absurd rfl facility
  | _ => exact ⟨rfl, rfl, rfl⟩

end TargetState

/-! ## Hosts -/

namespace Host

variable {h h' : Host δ}

/-- What the calls so far mean for render targets. -/
def targetState (h : Host δ) : TargetState := .replay h.calls

theorem targetState_performAll (h : Host δ) (cs : List (Command String)) :
    (h.performAll cs).targetState = h.targetState.performAll cs := by
  rw [targetState, recorded_performAll, TargetState.replay_append_performed]
  rfl

theorem targetState_created {d : δ} {o : NewObject} {new : Handle}
    (calls : Recorder.calls d = h.calls ++ [.created o new]) :
    targetState { h with device := d } = h.targetState.apply (.created o new) := by
  simp [targetState, Host.calls, TargetState.replay, calls]

theorem taken_performAll {o : Object} (taken : Recorder.Taken h.device o)
    {cs : List (Command String)} (keeps : ∀ c ∈ cs, c.deleted? ≠ some o) :
    Recorder.Taken (h.performAll cs).device o := by
  induction cs generalizing h with
  | nil => exact taken
  | cons c cs ih =>
      rw [List.forall_mem_cons] at keeps
      exact ih (Recorder.taken_perform h.device c o taken keeps.1) keeps.2

/-- The device has these objects, and the targets have storage of their size in some of them. -/
structure Stores (ts : Offscreen → Prop) (owned : Multiset Object) (h : Host δ) : Prop where
  nodup : owned.Nodup
  kind : ∀ o ∈ owned, o.kind.facility = .storage
  taken : ∀ o ∈ owned, Recorder.Taken h.device o
  known : ∀ o ∈ owned, (h.targetState.holdings o).isSome
  within : ∀ t, ts t → t.objects ⊆ owned
  stored : ∀ t, ts t → t.Stored h.targetState
  idle : h.targetState.Idle

namespace Stores

variable {ts ts' : Offscreen → Prop} {owned owned' : Multiset Object}

theorem mono (stores : h.Stores ts owned) (sub : ∀ t, ts' t → ts t) (le : owned' ≤ owned)
    (within : ∀ t, ts' t → t.objects ⊆ owned') : h.Stores ts' owned' where
  nodup := Multiset.nodup_of_le le stores.nodup
  kind o ho := stores.kind o (Multiset.mem_of_le le ho)
  taken o ho := stores.taken o (Multiset.mem_of_le le ho)
  known o ho := stores.known o (Multiset.mem_of_le le ho)
  within := within
  stored t ht := stores.stored t (sub t ht)
  idle := stores.idle

theorem next (stores : h.Stores ts owned)
    (taken : ∀ o ∈ owned, Recorder.Taken h.device o → Recorder.Taken h'.device o)
    (known : ∀ o ∈ owned, (h.targetState.holdings o).isSome → (h'.targetState.holdings o).isSome)
    (stored : ∀ t, ts t → t.Stored h.targetState → t.Stored h'.targetState)
    (idle : h'.targetState.Idle) : h'.Stores ts owned where
  nodup := stores.nodup
  kind := stores.kind
  taken o ho := taken o ho (stores.taken o ho)
  known o ho := known o ho (stores.known o ho)
  within := stores.within
  stored t ht := stored t ht (stores.stored t ht)
  idle := idle

/-- What is not recorded does not matter. -/
theorem of_calls (stores : h.Stores ts owned) (calls : h'.calls = h.calls)
    (taken : ∀ o, Recorder.Taken h.device o → Recorder.Taken h'.device o) :
    h'.Stores ts owned := by
  have same : h'.targetState = h.targetState := congrArg TargetState.replay calls
  refine stores.next (fun o _ => taken o) ?_ ?_ ?_ <;> rw [same]
  · exact fun _ _ => id
  · exact fun _ _ => id
  · exact stores.idle

theorem perform (stores : h.Stores ts owned) {c : Command String} (spares : c.Spares owned) :
    (h.perform c).Stores ts owned := by
  have state : (h.perform c).targetState = h.targetState.perform c :=
    h.targetState_performAll [c]
  cases spares with
  | @delete kind handle other =>
      have ne {o : Object} (ho : o ∈ owned) : o ≠ ⟨kind, handle⟩ := fun same => other (same ▸ ho)
      refine stores.next (fun o ho taken => ?_) ?_ ?_ ?_ <;> try rw [state]
      · exact Recorder.taken_perform h.device _ o taken fun same =>
          ne ho (Option.some.inj same).symm
      · intro o ho known
        rcases h.targetState.holdings_delete_of_ne (ne ho) with same | detached
        · exact (congrArg Option.isSome same).trans known
        · exact (congrArg Option.isSome detached).trans (Option.isSome_map.trans known)
      · exact fun t ht stored => stored.delete fun mem => other (stores.within t ht mem)
      · obtain ⟨texture, renderbuffer⟩ := stores.idle
        exact ⟨congrArg (Option.filter _) texture, congrArg (Option.filter _) renderbuffer⟩
  | elsewhere facility keeps =>
      obtain ⟨holdings, texture, renderbuffer⟩ :=
        h.targetState.perform_of_facility facility keeps
      refine stores.next (fun o ho taken => ?_) ?_ ?_ ?_ <;> try rw [state]
      · exact Recorder.taken_perform h.device c o taken (by simp [keeps])
      · rw [holdings]
        exact fun _ _ => id
      · exact fun t ht stored => stored.of_holdings fun o _ => congrFun holdings o
      · exact ⟨texture.trans stores.idle.texture, renderbuffer.trans stores.idle.renderbuffer⟩

theorem performAll (stores : h.Stores ts owned) {cs : List (Command String)}
    (spares : ∀ c ∈ cs, c.Spares owned) : (h.performAll cs).Stores ts owned := by
  induction cs generalizing h with
  | nil => exact stores
  | cons c cs ih =>
      rw [List.forall_mem_cons] at spares
      exact ih (stores.perform spares.1) spares.2

/-- A new object is none of those that the device has. -/
theorem create (stores : h.Stores ts owned) (o : NewObject) :
    Stores ts owned { h with device := (Device.create h.device o).2 } := by
  rcases Recorder.create h.device o with ⟨-, -, calls⟩ | ⟨new, -, calls, free, -⟩
  · exact stores.of_calls calls (Recorder.taken_create h.device o)
  · have state : targetState { h with device := (Device.create h.device o).2 } =
        h.targetState.apply (.created o new) :=
      targetState_created calls
    have ne {p : Object} (hp : p ∈ owned) : p ≠ ⟨o.kind, new⟩ :=
      fun same => free (same ▸ stores.taken p hp)
    have same {p : Object} (hp : p ∈ owned) :
        (h.targetState.apply (.created o new)).holdings p = h.targetState.holdings p :=
      Function.update_of_ne (ne hp) _ h.targetState.holdings
    refine stores.next (fun p _ => Recorder.taken_create h.device o p) ?_ ?_ ?_ <;> rw [state]
    · intro p hp
      rw [same hp]
      exact id
    · exact fun t ht stored => stored.of_holdings fun p hp => same (stores.within t ht hp)
    · exact ⟨stores.idle.texture, stores.idle.renderbuffer⟩

theorem readPixels (stores : h.Stores ts owned) (area : Area) (bytes : List UInt8) :
    Stores ts owned { h with device := (Device.readPixels h.device area bytes).2 } := by
  obtain ⟨calls, taken⟩ := Recorder.readPixels h.device area bytes
  have state : targetState { h with device := (Device.readPixels h.device area bytes).2 } =
      h.targetState := by
    simp [targetState, Host.calls, TargetState.replay, calls, TargetState.apply]
  refine stores.next (fun o _ => taken o) ?_ ?_ ?_ <;> rw [state]
  · exact fun _ _ => id
  · exact fun _ _ => id
  · exact stores.idle

/-- Storage survives what is not about storage. -/
theorem survives {F : List Facility} (other : .storage ∉ F) :
    Survives F fun h : Host δ => h.Stores ts owned where
  perform _ _ kind stores :=
    stores.perform (Command.spares_of_facility stores.kind fun here => other (here ▸ kind))
  create _ o _ stores := stores.create o
  locate h program name stores :=
    have same := Recorder.locate h.device program name
    stores.of_calls same.1 same.2
  framebufferStatus h target stores :=
    have same := Recorder.framebufferStatus h.device target
    stores.of_calls same.1 same.2
  readPixels _ area bytes stores := stores.readPixels area bytes
  write _ _ stores := stores.of_calls rfl fun _ => id

/-- Deleting some of the objects leaves the others, and the targets that have none of them. -/
theorem performAll_delete {cs : List (Command String)} (stores : h.Stores ts (deleted cs + owned))
    (only : ∀ c ∈ cs, c.deleted?.isSome) (within : ∀ t, ts t → t.objects ⊆ owned) :
    (h.performAll cs).Stores ts owned := by
  have apart : Disjoint (deleted cs) owned := (Multiset.nodup_add.mp stores.nodup).2.2
  refine performAll (stores.mono (fun _ => id) (Multiset.le_add_left _ _) within) fun c hc => ?_
  obtain ⟨o, takes⟩ := Option.isSome_iff_exists.mp (only c hc)
  have away : o ∉ owned :=
    Multiset.disjoint_left.mp apart (Multiset.mem_coe.mpr (List.mem_filterMap.mpr ⟨c, hc, takes⟩))
  cases c with
  | delete kind handle =>
      cases takes
      exact .delete away
  | _ => cases takes

end Stores

end Host

theorem Action.create_ends {ts : Offscreen → Prop} {owned : Multiset Object} (o : NewObject)
    (kind : o.kind.facility = .storage) :
    (Action.create o : Action δ Handle).Ends (Host.Stores ts owned)
      (fun new => Host.Stores ts (⟨o.kind, new⟩ ::ₘ owned)) fun _ => Host.Stores ts owned := by
  intro h stores
  have kept := stores.create o
  rcases Recorder.create h.device o with ⟨e, failed, -⟩ | ⟨new, made, calls, free, taken⟩
  · rw [show (Action.create o : Action δ Handle).run h = (.error e, _) from Prod.ext failed rfl]
    exact kept
  · let next : Host δ := { h with device := (Device.create h.device o).2 }
    have ran : (Action.create o : Action δ Handle).run h = (.ok new, next) := Prod.ext made rfl
    have state : next.targetState = h.targetState.apply (.created o new) :=
      Host.targetState_created calls
    rw [ran]
    have apart := Multiset.nodup_cons.mpr ⟨fun old => free (stores.taken _ old), stores.nodup⟩
    refine ⟨apart, ?_, ?_, ?_, fun t ht p hp => Multiset.mem_cons_of_mem (kept.within t ht hp),
      kept.stored, kept.idle⟩ <;> rw [Multiset.forall_mem_cons]
    · exact ⟨kind, kept.kind⟩
    · exact ⟨taken, kept.taken⟩
    · refine ⟨?_, kept.known⟩
      rw [state]
      exact congrArg Option.isSome (Function.update_self _ _ h.targetState.holdings)

/-! ## Targets that are made -/

namespace Offscreen

open Host (Stores)

variable {ts : Offscreen → Prop} {owned : Multiset Object}

theorem isSome_deleted?_deleteCommands (t : Offscreen) :
    ∀ c ∈ (t.deleteCommands : List (Command String)), c.deleted?.isSome := by
  obtain ⟨f, attachments, size⟩ := t
  cases attachments <;> simp [deleteCommands, Attachments.deleteCommands, Command.deleted?]

theorem keeps_allocationCommands (t : Offscreen) :
    ∀ c ∈ (t.allocationCommands : List (Command String)), c.deleted? = none := by
  obtain ⟨f, attachments, size⟩ := t
  cases attachments <;>
    simp [allocationCommands, Attachments.storageCommands, Attachments.textureCommands,
      Attachments.renderbufferCommands, Command.deleted?]

/-- Allocating records the same calls whatever the device finds, and gives up no object. -/
theorem recorded_allocate (t : Offscreen) (h : Host δ) :
    ((t.allocate : Action δ Unit).run h).2.calls = h.calls ++ t.allocationCommands.map .performed ∧
      ∀ o, Recorder.Taken h.device o →
        Recorder.Taken ((t.allocate : Action δ Unit).run h).2.device o := by
  let bound := h.performAll
    (.bindFramebuffer Gl.framebuffer t.framebuffer :: t.attachments.storageCommands t.size)
  let asked : Host δ :=
    { bound with device := (Device.framebufferStatus bound.device Gl.framebuffer).2 }
  let ended := asked.performAll [.bindFramebuffer Gl.framebuffer none]
  have ran : ((t.allocate : Action δ Unit).run h).2 = ended := by
    change (Attempt.run (if (Device.framebufferStatus bound.device Gl.framebuffer).1 =
      Gl.framebufferComplete then pure () else Attempt.fail _) ended).2 = ended
    split <;> rfl
  obtain ⟨calls, taken⟩ := Recorder.framebufferStatus bound.device Gl.framebuffer
  rw [ran]
  constructor
  · rw [Host.recorded_performAll, show asked.calls = bound.calls from calls,
      Host.recorded_performAll, List.append_assoc, ← List.map_append]
    rfl
  · intro o held
    refine Host.taken_performAll (taken o (Host.taken_performAll held fun c hc => ?_)) ?_
    · simp [t.keeps_allocationCommands c (List.mem_append_left _ hc)]
    · simp [Command.deleted?]

theorem targetState_allocate {h : Host δ} (t : Offscreen) (idle : h.targetState.Idle)
    (known : ∀ o ∈ t.objects, (h.targetState.holdings o).isSome) :
    ((t.allocate : Action δ Unit).run h).2.targetState = h.targetState.furnish t := by
  rw [Host.targetState, (t.recorded_allocate h).1, TargetState.replay_append_performed]
  exact TargetState.performAll_allocationCommands idle known

/-- Allocating gives a target storage of its size, and leaves other targets theirs. -/
theorem allocate_stores {h : Host δ} (stores : h.Stores ts owned) {t : Offscreen}
    (le : t.objects ≤ owned) (apart : ∀ u, ts u → Disjoint u.objects t.objects) :
    ((t.allocate : Action δ Unit).run h).2.Stores (fun u => u = t ∨ ts u) owned ∧
      ((t.allocate : Action δ Unit).run h).2.targetState.Unbound := by
  have known (o) (ho : o ∈ t.objects) := stores.known o (Multiset.mem_of_le le ho)
  have state := t.targetState_allocate stores.idle known
  refine ⟨⟨stores.nodup, stores.kind, fun o ho => ?_, fun o ho => ?_, ?_, ?_, ?_⟩, ?_⟩
  · exact (t.recorded_allocate h).2 o (stores.taken o ho)
  · rw [state, TargetState.isSome_holdings_furnish]
    exact stores.known o ho
  · rintro u (rfl | hu)
    · exact Multiset.subset_of_le le
    · exact stores.within u hu
  · rw [state]
    rintro u (rfl | hu)
    · exact stored_furnish (Multiset.nodup_of_le le stores.nodup) known
    · exact (stores.stored u hu).of_holdings fun o ho =>
        TargetState.holdings_furnish (Multiset.disjoint_left.mp (apart u hu) ho)
  · rw [state]
    exact ⟨stores.idle.texture, stores.idle.renderbuffer⟩
  · rw [state]
    exact ⟨⟨stores.idle.texture, stores.idle.renderbuffer⟩, rfl, rfl⟩

theorem createAttachments_ends (multisampled : Bool) (samples : Int32)
    (within : ∀ t, ts t → t.objects ⊆ owned) :
    (createAttachments multisampled samples : Action δ Attachments).Ends (Stores ts owned)
      (fun a => Stores ts (a.objects + owned)) fun _ => Stores ts owned := by
  unfold createAttachments
  split <;>
  · refine .bind (Action.create_ends _ rfl) fun color =>
      .bind (Action.orElsePerform_ends (Action.create_ends _ rfl) fun _ h stores =>
        stores.performAll_delete (by simp [Command.deleted?]) within) fun depth =>
      .pure fun h stores => ?_
    rw [Attachments.objects, Multiset.insert_eq_cons, Multiset.cons_add, Multiset.singleton_add,
      Multiset.cons_swap]
    exact stores

omit [Recorder δ] in
theorem createAttachments_yields (multisampled : Bool) (samples : Int32) :
    (createAttachments multisampled samples : Action δ Attachments).Yields fun a =>
      a.isMultisampled = multisampled ∧ a.samples = if multisampled then samples else 0 := by
  unfold createAttachments
  cases multisampled <;>
    exact .bind (.any _) fun color _ => .bind (.any _) fun depth _ => .pure ⟨rfl, rfl⟩

end Offscreen

namespace RenderTarget

open Host (Stores)

variable {ts : Offscreen → Prop} {owned : Multiset Object}

/-- A new target has storage of its size, and a failure leaves no trace of it. -/
theorem create_ends (size : Size) (multisampled : Bool) (samples : Int32)
    (within : ∀ t, ts t → t.objects ⊆ owned) :
    (create size multisampled samples : Action δ RenderTarget).Ends (Stores ts owned)
      (fun t h => h.Stores (fun u => .offscreen u = t ∨ ts u) (t.objects + owned) ∧
        h.targetState.Unbound)
      fun _ => Stores ts owned := by
  refine .bind (Action.create_ends .framebuffer rfl) fun f => ?_
  refine .bind (Action.orElsePerform_ends (Offscreen.createAttachments_ends _ _ ?_) ?_) fun a => ?_
  · exact fun t ht p hp => Multiset.mem_cons_of_mem (within t ht hp)
  · exact fun _ h stores => stores.performAll_delete (by simp [Command.deleted?]) within
  let t : Offscreen := ⟨f, a, size⟩
  have all : a.objects + ⟨.framebuffer, f⟩ ::ₘ owned = t.objects + owned := by
    rw [Offscreen.objects, Multiset.cons_add, Multiset.add_cons]
  let Furnished (h : Host δ) : Prop :=
    h.Stores (fun u => u = t ∨ ts u) (t.objects + owned) ∧ h.targetState.Unbound
  have allocated : (t.allocate : Action δ Unit).Ends (Stores ts (t.objects + owned))
      (fun _ => Furnished) fun _ => Furnished := by
    refine .of_run fun h stores => ?_
    refine Offscreen.allocate_stores stores (Multiset.le_add_right _ _) fun u hu => ?_
    have apart := (Multiset.nodup_add.mp stores.nodup).2.2
    exact Multiset.disjoint_right.mpr fun own other =>
      Multiset.disjoint_left.mp apart own (within u hu other)
  rw [NewObject.kind, all]
  refine .bind (Action.orElsePerform_ends allocated fun _ h furnished => ?_) fun _ =>
    .pure fun h furnished => ?_
  · have stores : h.Stores ts (deleted (ℓ := String) t.deleteCommands + owned) := by
      rw [t.deleted_deleteCommands]
      exact furnished.1.mono (fun _ => .inr) le_rfl fun u hu => furnished.1.within u (.inr hu)
    exact stores.performAll_delete t.isSome_deleted?_deleteCommands within
  · simp only [RenderTarget.offscreen.injEq]
    exact furnished

omit [Recorder δ] in
/-- A new target is what was asked for. -/
theorem create_yields (size : Size) (multisampled : Bool) (samples : Int32) :
    (create size multisampled samples : Action δ RenderTarget).Yields fun t =>
      ∃ o : Offscreen, t = .offscreen o ∧ o.size = size ∧
        o.attachments.isMultisampled = multisampled ∧
        o.attachments.samples = if multisampled then samples else 0 := by
  exact .bind (.any _) fun f _ =>
    .bind (.onFailure (Offscreen.createAttachments_yields multisampled samples)) fun a made =>
    .bind (.any _) fun _ _ => .pure ⟨⟨f, a, size⟩, rfl, rfl, made⟩

end RenderTarget

/-! ## Bindings -/

namespace TargetState

/-- No framebuffer is bound that was not bound before. -/
structure Leaves (before g : TargetState) : Prop where
  drawFramebuffer : g.drawFramebuffer = none ∨ g.drawFramebuffer = before.drawFramebuffer
  readFramebuffer : g.readFramebuffer = none ∨ g.readFramebuffer = before.readFramebuffer

theorem Leaves.delete {before g : TargetState} (leaves : before.Leaves g) (o : Object) :
    before.Leaves (g.delete o) := by
  have filtered {x y : Option Handle} (p : Handle → Bool) (h : x = none ∨ x = y) :
      x.filter p = none ∨ x.filter p = y := by
    cases x with
    | none => exact .inl rfl
    | some a =>
        cases kept : p a with
        | true =>
            rw [Option.filter_some_pos kept]
            exact h
        | false => exact .inl (Option.filter_some_neg kept)
  exact ⟨filtered _ leaves.drawFramebuffer, filtered _ leaves.readFramebuffer⟩

end TargetState

theorem Host.leaves_performAll {before : TargetState} {h : Host δ}
    (leaves : before.Leaves h.targetState) {cs : List (Command String)}
    (only : ∀ c ∈ cs, c.deleted?.isSome) : before.Leaves (h.performAll cs).targetState := by
  induction cs generalizing h with
  | nil => exact leaves
  | cons c cs ih =>
      rw [List.forall_mem_cons] at only
      refine ih (h := h.perform c) ?_ only.2
      cases c with
      | delete kind object =>
          rw [show (h.perform _).targetState = _ from h.targetState_performAll [_]]
          exact leaves.delete ⟨kind, object⟩
      | _ => cases only.1

/-- After storage was allocated no framebuffer is bound. -/
theorem Offscreen.release_allocate (t : Offscreen) (h : Host δ) :
    ((t.allocate : Action δ Unit).run h).2.targetState.drawFramebuffer = none ∧
      ((t.allocate : Action δ Unit).run h).2.targetState.readFramebuffer = none := by
  rw [Host.targetState, (t.recorded_allocate h).1, TargetState.replay_append_performed,
    allocationCommands, TargetState.performAll_append]
  exact ⟨rfl, rfl⟩

/-- A target that is made, or is not, leaves no framebuffer bound. -/
theorem RenderTarget.create_leaves (before : TargetState) (size : Size) (multisampled : Bool)
    (samples : Int32) :
    (create size multisampled samples : Action δ RenderTarget).Preserves
      fun h => before.Leaves h.targetState := by
  have created (o : NewObject) : (Action.create o : Action δ Handle).Preserves
      fun h => before.Leaves h.targetState := by
    intro h leaves
    change before.Leaves (Host.targetState { h with device := (Device.create h.device o).2 })
    rcases Recorder.create h.device o with ⟨-, -, calls⟩ | ⟨new, -, calls, -⟩
    · rw [Host.targetState, Host.calls, calls]
      exact leaves
    · rw [Host.targetState_created calls]
      exact ⟨leaves.drawFramebuffer, leaves.readFramebuffer⟩
  have undone {cs : List (Command String)} (only : ∀ c ∈ cs, c.deleted?.isSome) (h : Host δ)
      (leaves : before.Leaves h.targetState) : before.Leaves (h.performAll cs).targetState :=
    Host.leaves_performAll leaves only
  refine .bind (created .framebuffer) fun f =>
    .bind (.onFailure ?_ (undone (by simp [Command.deleted?]))) fun a =>
    .bind (.onFailure ?_ (undone (Offscreen.isSome_deleted?_deleteCommands _))) fun _ => .pure _
  · unfold Offscreen.createAttachments
    split <;>
      exact .bind (created _) fun color =>
        .bind (.onFailure (created _) (undone (by simp [Command.deleted?]))) fun depth => .pure _
  · intro h _
    obtain ⟨drawFramebuffer, readFramebuffer⟩ := Offscreen.release_allocate ⟨f, a, size⟩ h
    exact ⟨.inl drawFramebuffer, .inl readFramebuffer⟩

end SpriteRenderer
