import SpriteRenderer.Proofs.RenderTarget.Storage
import SpriteRenderer.Proofs.Script.History

/-! # Sizes of render targets

The size that a target reports is always that of its storage, also when the device finds its
framebuffer incomplete, and the storage has the samples that the target was made with. This holds on
every device that records its calls. -/

namespace SpriteRenderer

variable {δ : Type} [Device δ String] [Recorder δ]

/-! ## Scenes -/

namespace Scene

/-- Every offscreen target has storage of its size, in objects of its own. -/
def Furnished (s : Scene δ String) : Prop :=
  s.host.Stores (fun t => ∃ name, s.targets.get? name = some (.offscreen t))
    (s.targets.total RenderTarget.objects)

variable {s : Scene δ String}

theorem Furnished.of_stores {ts : Offscreen → Prop} {owned : Multiset Object}
    (stores : s.host.Stores ts owned)
    (entries : ∀ name t, s.targets.get? name = some (.offscreen t) → ts t)
    (le : s.targets.total RenderTarget.objects ≤ owned) : s.Furnished :=
  stores.mono (fun t ⟨name, found⟩ => entries name t found) le fun _ ⟨_, found⟩ =>
    Multiset.subset_of_le (Table.le_total found)

/-- Two targets share no object. -/
theorem Furnished.disjoint (furnished : s.Furnished) {j k : String} {t u : RenderTarget}
    (found : s.targets.get? j = some t) (found' : s.targets.get? k = some u) (other : j ≠ k) :
    Disjoint t.objects u.objects := by
  have together := Table.add_le_total (f := RenderTarget.objects) found found' (Ne.symm other)
  exact (Multiset.nodup_add.mp (Multiset.nodup_of_le together furnished.nodup)).2.2

theorem Furnished.newTarget (furnished : s.Furnished) {as : String} {size : Size}
    {multisampled : Bool} {samples : Option Int32} {r : Except RenderError RenderTarget}
    {host : Host δ}
    (ran : (s.context.createTarget size multisampled samples : Action δ RenderTarget).run s.host =
      (r, host)) :
    Furnished { s with host, targets := s.targets.insertOk as r } := by
  have ended := RenderTarget.create_ends size multisampled
    (samples.getD s.context.config.samples) furnished.within s.host furnished
  rw [← Context.createTarget, ran] at ended
  cases r with
  | error e => exact ended
  | ok t =>
      refine .of_stores ended.1 (fun name u found => ?_) (Table.total_insert_le _ _ _ _)
      rw [Table.insertOk, Table.get?_insert] at found
      by_cases same : name = as
      · rw [if_pos same] at found
        exact .inl (Option.some.inj found).symm
      · rw [if_neg same] at found
        exact .inr ⟨name, found⟩

/-- A target that is resized has storage of its new size, whatever the device finds. -/
theorem Furnished.resize (furnished : s.Furnished) {target : String} {size : Size}
    {t t' : RenderTarget} {r : Except RenderError Unit} {host : Host δ}
    (found : s.targets.get? target = some t) (resized : t.withSize size = .ok t')
    (ran : (t'.allocate : Action δ Unit).run s.host = (r, host)) :
    Furnished { s with host, targets := s.targets.insert target t' } := by
  cases t with
  | primary => cases resized
  | offscreen t =>
      cases resized
      let others (u : Offscreen) : Prop :=
        ∃ name, name ≠ target ∧ s.targets.get? name = some (.offscreen u)
      have stores : s.host.Stores others (s.targets.total RenderTarget.objects) :=
        furnished.mono (fun _ ⟨name, _, here⟩ => ⟨name, here⟩) le_rfl
          fun u ⟨name, _, here⟩ => furnished.within u ⟨name, here⟩
      have allocated := (Offscreen.allocate_stores stores (t := { t with size })
        (Table.le_total found) fun _ ⟨_, other, here⟩ => furnished.disjoint here found other).1
      rw [show ((Offscreen.allocate _ : Action δ Unit).run s.host).2 = host from
        congrArg Prod.snd ran] at allocated
      refine .of_stores allocated (fun name u here => ?_) (Table.total_insert_le_of_eq found rfl)
      rw [Table.get?_insert] at here
      by_cases same : name = target
      · rw [if_pos same] at here
        cases here
        exact .inl rfl
      · rw [if_neg same] at here
        exact .inr ⟨name, same, here⟩

theorem Furnished.freeTarget (furnished : s.Furnished) {target : String} {t : RenderTarget}
    (found : s.targets.get? target = some t) :
    Furnished { s with
      host := ((t.free : Action δ Unit).run s.host).2
      targets := s.targets.erase target } := by
  have kept {name : String} {u : RenderTarget}
      (here : (s.targets.erase target).get? name = some u) : s.targets.get? name = some u := by
    rw [Table.get?_erase] at here
    split at here
    · cases here
    · exact here
  cases t with
  | primary =>
      exact .of_stores furnished (fun name _ here => ⟨name, kept here⟩)
        (Table.total_erase_le _ _ _)
  | offscreen t =>
      let others (u : Offscreen) : Prop :=
        ∃ name, (s.targets.erase target).get? name = some (.offscreen u)
      have within (u) (hu : others u) :
          u.objects ⊆ (s.targets.erase target).total RenderTarget.objects := by
        obtain ⟨name, here⟩ := hu
        exact Multiset.subset_of_le (Table.le_total here)
      have stores : s.host.Stores others (deleted (ℓ := String) t.deleteCommands +
          (s.targets.erase target).total RenderTarget.objects) := by
        rw [t.deleted_deleteCommands]
        refine furnished.mono ?_ (Table.add_total_erase_le found)
          fun u hu o ho => Multiset.mem_add.mpr (.inr (within u hu ho))
        rintro u ⟨name, here⟩
        exact ⟨name, kept here⟩
      exact stores.performAll_delete t.isSome_deleted?_deleteCommands within

theorem Furnished.transition (furnished : s.Furnished) {step : Step}
    {out : Except StepError Answer × Scene δ String} (t : Script.Transition s step out) :
    out.2.Furnished := by
  -- What is not about storage leaves it alone, even if it binds framebuffers.
  have frame (other : .storage ∉ step.facilities) (same : out.2.targets = s.targets) :
      out.2.Furnished := by
    have kept := t.preserves (Host.Stores.survives (δ := δ) other)
      (fun _ _ stores => stores.of_calls rfl fun _ => id) furnished
    rw [Furnished, same]
    exact kept
  cases t with
  | refused e | asked query r => exact furnished
  | newTarget ran => exact furnished.newTarget ran
  | resize found resized ran => exact furnished.resize found resized ran
  | freeTarget found => exact furnished.freeTarget found
  | primaryTarget as =>
      refine .of_stores furnished (fun name t here => ?_)
        ((Table.total_insert_le _ _ _ _).trans_eq (zero_add _))
      rw [Table.get?_insert] at here
      split at here
      · cases here
      · exact ⟨name, here⟩
  | _ => exact frame (by simp [Step.facilities]) rfl

end Scene

/-! ## Samples -/

/-- How a target is asked for. The samples count only if it is multisampled. -/
structure Sampling where
  multisampled : Bool
  samples : Int32
deriving DecidableEq, Repr

namespace Script

variable {δ ℓ : Type}

/-- How the target was asked for that a moment made under a name. If no number of samples was given,
it is that of the configuration. -/
def Moment.sampling? (config : RendererConfig) (name : String) (m : Moment δ ℓ) :
    Option Sampling :=
  match m.step, m.answer with
  | .newTarget _ multisampled as samples, .ok _ =>
    if as = name then some ⟨multisampled, samples.getD config.samples⟩ else none
  | _, _ => none

/-- How the latest target was asked for that was made under a name. -/
def lastSampling? (config : RendererConfig) (name : String) (ms : List (Moment δ ℓ)) :
    Option Sampling :=
  ms.reverse.findSome? (Moment.sampling? config name)

variable {config : RendererConfig} {name : String}

theorem lastSampling?_append (ms : List (Moment δ ℓ)) (m : Moment δ ℓ) :
    lastSampling? config name (ms ++ [m]) =
      (m.sampling? config name).or (lastSampling? config name ms) := by
  rw [lastSampling?, List.reverse_append]
  cases made : m.sampling? config name <;> simp [made, lastSampling?]

theorem Moment.sampling?_of_isQuery {step : Step} (query : step.isQuery) (s : Scene δ ℓ)
    (r : Except StepError Answer) : Moment.sampling? config name ⟨s, step, r⟩ = none := by
  cases step <;> first | rfl | cases query

theorem Moment.sampling?_of_error (s : Scene δ ℓ) (step : Step) (e : StepError) :
    Moment.sampling? config name ⟨s, step, .error e⟩ = none := by
  cases step <;> rfl

theorem Moment.sampling?_newTarget (s : Scene δ ℓ) (size : Size) (multisampled : Bool)
    (as : String) (samples : Option Int32) (a : Answer) :
    Moment.sampling? config name ⟨s, .newTarget size multisampled as samples, .ok a⟩ =
      if as = name then some ⟨multisampled, samples.getD config.samples⟩ else none := rfl

end Script

/-- A multisampled target has storage for as many values per pixel as were asked for, any other one
for one. -/
def RenderTarget.Sampled (asked : Option Sampling) : RenderTarget → Prop
  | primary => True
  | offscreen t => ∃ samples, asked = some ⟨t.attachments.isMultisampled, samples⟩ ∧
    t.attachments.samples = if t.attachments.isMultisampled then samples else 0

namespace Scene

open Script (Moment lastSampling?)

variable {config : RendererConfig} {ms : List (Moment δ String)} {s s' : Scene δ String}

/-- Every target is sampled as it was asked for. -/
structure Sampled (config : RendererConfig) (ms : List (Moment δ String)) (s : Scene δ String) :
    Prop where
  context : s.context.config = config
  targets : s.targets.All fun name t => t.Sampled (lastSampling? config name ms)

omit [Device δ String] [Recorder δ] in
/-- A moment that makes no target. -/
theorem Sampled.frame {m : Moment δ String} (silent : ∀ name, m.sampling? config name = none)
    (context : s'.context.config = config)
    (targets : s'.targets.All fun name t => t.Sampled (lastSampling? config name ms)) :
    s'.Sampled config (ms ++ [m]) := by
  refine ⟨context, targets.mono fun name t _ sampled => ?_⟩
  rwa [Script.lastSampling?_append, silent name, Option.none_or]

omit [Recorder δ] in
theorem Sampled.newTarget (sampled : s.Sampled config ms) {as : String} {size : Size}
    {multisampled : Bool} {samples : Option Int32} {t : RenderTarget} {host : Host δ} (a : Answer)
    (ran : (s.context.createTarget size multisampled samples : Action δ RenderTarget).run s.host =
      (.ok t, host)) :
    Sampled config (ms ++ [⟨s, .newTarget size multisampled as samples, .ok a⟩])
      { s with host, targets := s.targets.insert as t } := by
  obtain ⟨t, rfl, -, rfl, same⟩ := RenderTarget.create_yields _ _ _ s.host _ host ran
  rw [sampled.context] at same
  refine ⟨sampled.context, sampled.targets.replace (fun name u other old => ?_) ?_⟩
  · rwa [Script.lastSampling?_append, Moment.sampling?_newTarget, if_neg (Ne.symm other),
      Option.none_or]
  · rw [Script.lastSampling?_append, Moment.sampling?_newTarget, if_pos rfl, Option.some_or]
    exact ⟨_, rfl, same⟩

omit [Recorder δ] in
theorem Sampled.transition (sampled : s.Sampled config ms) {step : Step}
    {out : Except StepError Answer × Scene δ String} (t : Script.Transition s step out) :
    out.2.Sampled config (ms ++ [⟨s, step, out.1⟩]) := by
  cases t with
  | refused e | addSpriteRefused e =>
      exact .frame (fun _ => Moment.sampling?_of_error ..) sampled.context sampled.targets
  | asked query r =>
      exact .frame (fun _ => Moment.sampling?_of_isQuery query ..) sampled.context sampled.targets
  | @newTarget _ _ _ _ r host ran =>
      cases r with
      | error e =>
          exact .frame (fun _ => Moment.sampling?_of_error ..) sampled.context sampled.targets
      | ok t => exact sampled.newTarget _ ran
  | @resize target size t t' r host found resized ran =>
      -- The attachments stay what they are, and with them their samples.
      refine .frame (fun _ => rfl) sampled.context (sampled.targets.insert ?_)
      have old := sampled.targets _ _ found
      cases t with
      | primary => cases resized
      | offscreen t =>
          cases resized
          exact old
  | primaryTarget as =>
      exact .frame (fun _ => rfl) sampled.context (sampled.targets.insert trivial)
  | freeTarget found => exact .frame (fun _ => rfl) sampled.context (sampled.targets.erase _)
  | _ => exact .frame (fun _ => rfl) sampled.context sampled.targets

end Scene

/-! ## Sizes that are reported -/

/-- The object is attached to the framebuffer and has storage of the size. -/
structure TargetState.Furnishes (g : TargetState) (framebuffer : Handle) (point : UInt32)
    (o : Object) (size : Size) (samples : Int32) : Prop where
  attached : g.attached framebuffer point = some ⟨o, 0⟩
  storage : ∃ s, g.storage o = some s ∧ size.Is s.width s.height ∧ s.samples = samples

/-- Both attachments of a target are attached to its framebuffer, with storage of the size that
the target reports. -/
structure Scene.FurnishesTarget (s : Scene δ String) (samples : Int32) (t : Offscreen) : Prop where
  color : s.host.targetState.Furnishes t.framebuffer Gl.colorAttachment t.attachments.color
    ((RenderTarget.offscreen t).size s.host.window) samples
  depth : s.host.targetState.Furnishes t.framebuffer Gl.depthAttachment t.attachments.depth
    ((RenderTarget.offscreen t).size s.host.window) samples

namespace Scene

variable {s : Scene δ String}

theorem Furnished.furnishesTarget (furnished : s.Furnished) {samples : Int32} {name : String}
    {t : Offscreen} (found : s.targets.get? name = some (.offscreen t))
    (sampled : t.attachments.samples = samples) (small : t.size.Small) :
    s.FurnishesTarget samples t := by
  have stored := furnished.stored t ⟨name, found⟩
  exact ⟨⟨stored.color, _, stored.colorStorage, small.is, sampled⟩,
    ⟨stored.depth, _, stored.depthStorage, small.is, sampled⟩⟩

/-- A step that makes a target leaves nothing bound. If it fails, a framebuffer may still be bound
that was before. -/
structure MakesTarget (s : Scene δ String) (size : Size) (multisampled : Bool) (samples : Int32)
    (out : Except StepError Answer × Scene δ String) (name : String) : Prop where
  idle : out.2.host.targetState.Idle
  leaves : s.host.targetState.Leaves out.2.host.targetState
  made : ∀ a, out.1 = .ok a → out.2.host.targetState.Unbound ∧
    ∃ t, out.2.targets.get? name = some (.offscreen t) ∧ t.size = size ∧
      t.attachments.isMultisampled = multisampled ∧
      t.attachments.samples = if multisampled then samples else 0

/-- A step that resizes a target keeps its objects and leaves nothing bound, whether it fails or
not. -/
structure ResizesTarget (s : Scene δ String) (t : Offscreen) (size : Size) (s' : Scene δ String)
    (name : String) : Prop where
  resized : s'.targets.get? name = some (.offscreen { t with size })
  unbound : s'.host.targetState.Unbound
  /-- No object is created or deleted. -/
  calls : ∃ cs : List (Command String), s'.host.calls = s.host.calls ++ cs.map .performed ∧
    ∀ c ∈ cs, c.deleted? = none

theorem Furnished.makesTarget (furnished : s.Furnished) (size : Size) (multisampled : Bool)
    (name : String) (samples : Option Int32) :
    s.MakesTarget size multisampled (samples.getD s.context.config.samples)
      ((Script.perform (.newTarget size multisampled name samples)).run s) name := by
  have made := Script.transition_perform (.newTarget size multisampled name samples) s
  generalize (Script.perform (.newTarget size multisampled name samples)).run s = out at made ⊢
  have unchanged : s.host.targetState.Leaves s.host.targetState := ⟨.inr rfl, .inr rfl⟩
  cases made with
  | refused e => exact ⟨furnished.idle, unchanged, fun a answered => nomatch answered⟩
  | asked query r => cases query
  | @newTarget _ _ _ _ r host ran =>
      refine ⟨(furnished.newTarget ran).idle,
        (RenderTarget.create_leaves _ size multisampled _).of_run ran unchanged, ?_⟩
      intro a answered
      cases r with
      | error e => cases answered
      | ok t =>
          have ended := RenderTarget.create_ends size multisampled
            (samples.getD s.context.config.samples) furnished.within s.host furnished
          rw [← Context.createTarget, ran] at ended
          obtain ⟨o, rfl, asked⟩ := RenderTarget.create_yields size multisampled _ s.host t host ran
          exact ⟨ended.2, o, Table.get?_insert_self _ _ _, asked⟩

end Scene

omit [Recorder δ] in
theorem Script.run_resize {s : Scene δ String} {name : String} {t : Offscreen}
    (found : s.targets.get? name = some (.offscreen t)) (size : Size) :
    ((perform (.resize name size)).run s).2 = { s with
      host := ((Offscreen.allocate { t with size } : Action δ Unit).run s.host).2
      targets := s.targets.insert name (.offscreen { t with size }) } := by
  rw [perform, Attempt.run_bind_of_ok _ (SceneAction.run_find_of_some found)]
  change ((SceneAction.onHost (RenderTarget.allocate (.offscreen { t with size })) >>= _).run
    { s with targets := s.targets.insert name (.offscreen { t with size }) }).2 = _
  rw [Attempt.run_bind, SceneAction.run_onHost]
  cases ((RenderTarget.allocate (.offscreen { t with size }) : Action δ Unit).run s.host).1 <;> rfl

theorem Scene.Furnished.resizesTarget {s : Scene δ String} (furnished : s.Furnished)
    {name : String} {t : Offscreen} (found : s.targets.get? name = some (.offscreen t))
    (size : Size) :
    s.ResizesTarget t size ((Script.perform (.resize name size)).run s).2 name := by
  rw [Script.run_resize found]
  have again : Scene.Furnished { s with
      host := ((Offscreen.allocate { t with size } : Action δ Unit).run s.host).2
      targets := s.targets.insert name (.offscreen { t with size }) } :=
    furnished.resize found rfl rfl
  obtain ⟨draw, read⟩ := Offscreen.release_allocate { t with size } s.host
  exact ⟨Table.get?_insert_self _ _ _, ⟨again.idle, draw, read⟩, _,
    (Offscreen.recorded_allocate { t with size } s.host).1, Offscreen.keeps_allocationCommands _⟩

omit [Recorder δ] in
theorem Script.run_resize_primary {s : Scene δ String} {name : String}
    (found : s.targets.get? name = some .primary) (size : Size) :
    (perform (.resize name size)).run s =
      (.error (.refused (.invalidOperation .primaryResized)), s) := by
  rw [perform, Attempt.run_bind_of_ok _ (SceneAction.run_find_of_some found)]
  rfl

/-- A new scene has no targets, and its device has no storage bound. -/
theorem Scene.furnished_of_create {device : δ} {config : RendererConfig} {window : Size}
    {s : Scene δ String} (unused : Recorder.calls device = [])
    (created : Scene.create device config window = .ok s) :
    s.Furnished ∧ s.Sampled config [] := by
  obtain ⟨templates, rfl⟩ := Scene.eq_of_create created
  refine ⟨?_, rfl, .empty⟩
  have blank : Host.Stores (fun _ => False) 0 ({ device, window } : Host δ) :=
    ⟨Multiset.nodup_zero, by simp, by simp, by simp, fun _ => False.elim, fun _ => False.elim, by
      rw [Host.targetState, Host.calls, unused]
      exact ⟨rfl, rfl⟩⟩
  refine .of_stores (blank.performAll fun c hc => Command.spares_of_facility (by simp) ?_)
    (fun name t found => by cases found)
    (le_of_eq (by simp [Table.total, Scene.start, Table.empty]))
  have facility := Context.facility_setupCommands config c hc
  intro storage
  rw [storage] at facility
  simp at facility

/-- On every device that records its calls, whatever it finds, and after every script: the size
that a target reports is that of its storage, and a multisampled target has storage for the samples
that it was made with. -/
theorem Script.sizes_match_storage {device : δ} {config : RendererConfig} {window : Size}
    {s₀ : Scene δ String} (unused : Recorder.calls device = [])
    (created : Scene.create device config window = .ok s₀) (steps : List Step) :
    let s := (run steps s₀).2
    (∀ name t, s.targets.get? name = some (.offscreen t) → t.objects.Nodup ∧
      ∃ samples, lastSampling? config name (history s₀ steps) =
          some ⟨t.attachments.isMultisampled, samples⟩ ∧
        (t.size.Small →
          s.FurnishesTarget (if t.attachments.isMultisampled then samples else 0) t)) ∧
    (∀ j k t u, s.targets.get? j = some (.offscreen t) → s.targets.get? k = some (.offscreen u) →
      j ≠ k → Disjoint t.objects u.objects) ∧
    (∀ size multisampled name samples,
      s.MakesTarget size multisampled (samples.getD config.samples)
        ((perform (.newTarget size multisampled name samples)).run s) name) ∧
    (∀ name t size, s.targets.get? name = some (.offscreen t) →
      s.ResizesTarget t size ((perform (.resize name size)).run s).2 name) ∧
    ∀ name size, s.targets.get? name = some .primary → (perform (.resize name size)).run s =
      (.error (.refused (.invalidOperation .primaryResized)), s) := by
  obtain ⟨furnished, sampled⟩ := history_induction
    (I := fun ms s => s.Furnished ∧ s.Sampled config ms)
    (fun _ _ _ _ t before => ⟨before.1.transition t, before.2.transition t⟩) steps
    (Scene.furnished_of_create unused created)
  refine ⟨fun name t found => ?_, ?_, ?_, ?_, ?_⟩
  · obtain ⟨samples, asked, same⟩ := sampled.targets name _ found
    have distinct := Multiset.nodup_of_le (Table.le_total (f := RenderTarget.objects) found)
      furnished.nodup
    exact ⟨distinct, samples, asked, furnished.furnishesTarget found same⟩
  · exact fun j k t u found found' => furnished.disjoint found found'
  · rw [← sampled.context]
    exact furnished.makesTarget
  · exact fun name t size found => furnished.resizesTarget found size
  · exact fun name size found => run_resize_primary found size

/-! ## A device that finds framebuffers incomplete -/

/-- The headless device, but it finds framebuffers as it is told. -/
structure Inspector where
  device : Headless := {}
  /-- What is found next. Nothing is wrong after the last one. -/
  findings : List UInt32 := []

namespace Inspector

instance : Device Inspector String where
  create d o := ((d.device.create o).1, { d with device := (d.device.create o).2 })
  perform d c := { d with device := d.device.perform c }
  complaints d c := d.device.complaints c
  isCompiled d h := Device.isCompiled d.device h
  compileLog d h := Device.compileLog d.device h
  isLinked d h := Device.isLinked d.device h
  linkLog d h := Device.linkLog d.device h
  locate d h name := (d.device.locate h name, d)
  framebufferStatus d _ :=
    (d.findings.headD Gl.framebufferComplete, { d with findings := d.findings.tail })
  readPixels d area bytes :=
    ((Device.readPixels d.device area bytes).1,
      { d with device := (Device.readPixels d.device area bytes).2 })
  length_readPixels d := Device.length_readPixels d.device

instance : Recorder Inspector where
  calls d := d.device.calls
  Taken d o := Recorder.Taken d.device o
  calls_perform d c := Recorder.calls_perform d.device c
  taken_perform d c o := Recorder.taken_perform d.device c o
  create d o := Recorder.create d.device o
  taken_create d o p := Recorder.taken_create d.device o p
  locate _ _ _ := ⟨rfl, fun _ => id⟩
  framebufferStatus _ _ := ⟨rfl, fun _ => id⟩
  readPixels _ _ _ := ⟨rfl, fun _ => id⟩

open Headless (linedConfig linedTemplates parse_linedConfig)

/-- The fourth time that storage is allocated, something is wrong. -/
def strictScene : Scene Inspector String :=
  .start { findings := List.replicate 3 Gl.framebufferComplete ++ [36054] } ⟨4, 4⟩ linedConfig
    linedTemplates

/-- Targets with different numbers of samples, of which one is resized in vain. -/
def resizedInVain : List Step :=
  [.newTarget ⟨4, 4⟩ true "many", .newTarget ⟨2, 2⟩ true "few" (some 2),
    .newTarget ⟨2, 2⟩ false "single", .resize "few" ⟨8, 6⟩]

theorem sizes_match_storage_resizedInVain :
    let s := (Script.run resizedInVain strictScene).2
    (Script.run resizedInVain strictScene).1.getLast? =
      some (.error (.refused (.backend (.framebufferIncomplete 36054)))) ∧
    (∃ t, s.targets.get? "many" = some (.offscreen t) ∧ t.size = ⟨4, 4⟩ ∧
      s.FurnishesTarget linedConfig.samples t) ∧
    ∃ t, s.targets.get? "few" = some (.offscreen t) ∧ t.size = ⟨8, 6⟩ ∧
      s.FurnishesTarget 2 t := by
  have created : Scene.create ({ findings := List.replicate 3 Gl.framebufferComplete ++ [36054] } :
      Inspector) linedConfig ⟨4, 4⟩ = .ok strictScene :=
    Scene.create_of_parse parse_linedConfig _ _
  obtain ⟨stored, -⟩ := Script.sizes_match_storage rfl created resizedInVain
  have furnished (name : String) (t : Offscreen) (samples : Int32)
      (found : (Script.run resizedInVain strictScene).2.targets.get? name = some (.offscreen t))
      (asked : Script.lastSampling? linedConfig name (Script.history strictScene resizedInVain) =
        some ⟨true, samples⟩) (small : t.size.Small) :
      (Script.run resizedInVain strictScene).2.FurnishesTarget samples t := by
    obtain ⟨-, samples', asked', furnishes⟩ := stored name t found
    obtain ⟨multisampled, rfl⟩ : true = t.attachments.isMultisampled ∧ samples = samples' := by
      simpa using asked.symm.trans asked'
    rw [← multisampled, if_pos rfl] at furnishes
    exact furnishes small
  have many : (Script.run resizedInVain strictScene).2.targets.get? "many" =
      some (.offscreen ⟨1, .renderbuffers 2 3 linedConfig.samples, ⟨4, 4⟩⟩) := by
    decide +kernel
  have few : (Script.run resizedInVain strictScene).2.targets.get? "few" =
      some (.offscreen ⟨4, .renderbuffers 5 6 2, ⟨8, 6⟩⟩) := by
    decide +kernel
  refine ⟨by decide +kernel, ⟨_, many, rfl, ?_⟩, ⟨_, few, rfl, ?_⟩⟩
  · exact furnished _ _ _ many (by decide +kernel) ⟨by decide, by decide⟩
  · exact furnished _ _ _ few (by decide +kernel) ⟨by decide, by decide⟩

end Inspector

end SpriteRenderer
