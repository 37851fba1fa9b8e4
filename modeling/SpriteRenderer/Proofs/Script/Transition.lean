import Mathlib.Data.List.Forall2
import SpriteRenderer.Proofs.Table.Entries
import SpriteRenderer.Script

/-! # Transitions of scenes

What a step can do to a scene, said once. A step is refused, answers a question, or makes one
call of the library and stores what the call made. -/

namespace SpriteRenderer

namespace SceneAction

open Attempt

variable {δ ℓ α : Type}

theorem run_find_of_some {table : Scene δ ℓ → Table String α} {name : String}
    {s : Scene δ ℓ} {a : α} (h : (table s).get? name = some a) :
    (find table name).run s = (.ok a, s) := by
  simp only [Attempt.run, find, h]

theorem run_find_of_none {table : Scene δ ℓ → Table String α} {name : String}
    {s : Scene δ ℓ} (h : (table s).get? name = none) :
    (find table name).run s = (.error (.noObject name), s) := by
  simp only [Attempt.run, find, h]

theorem run_onHost (x : Action δ α) (s : Scene δ ℓ) :
    (onHost x : SceneAction δ ℓ α).run s =
      ((x.run s.host).1.mapError .refused, { s with host := (x.run s.host).2 }) :=
  rfl

theorem run_check (r : Except RenderError α) (s : Scene δ ℓ) :
    (check r : SceneAction δ ℓ α).run s = (r.mapError .refused, s) :=
  rfl

/-- Looking names up one by one either finds an object for each or is refused. -/
theorem run_mapM_find (table : Scene δ ℓ → Table String α) (names : List String)
    (s : Scene δ ℓ) :
    (∃ e, (names.mapM (find table)).run s = (.error e, s)) ∨
      ∃ objects, List.Forall₂ (fun n a => (table s).get? n = some a) names objects ∧
        (names.mapM (find table)).run s = (.ok objects, s) := by
  induction names with
  | nil => exact .inr ⟨[], .nil, rfl⟩
  | cons name names ih =>
      rw [List.mapM_cons]
      cases found : (table s).get? name with
      | none =>
          exact .inl ⟨_, run_bind_of_error _ (run_find_of_none found)⟩
      | some a =>
          rw [run_bind_of_ok _ (run_find_of_some found)]
          rcases ih with ⟨e, h⟩ | ⟨objects, hall, h⟩
          · exact .inl ⟨e, run_bind_of_error _ h⟩
          · exact .inr ⟨a :: objects, .cons found hall, by rw [run_bind_of_ok _ h]; rfl⟩

/-- Objects that were looked up have names. -/
theorem exists_name_of_mem {table : Table String α} {names : List String} {objects : List α}
    (found : List.Forall₂ (fun n a => table.get? n = some a) names objects) {a : α}
    (ha : a ∈ objects) : ∃ n, table.get? n = some a := by
  induction found with
  | nil => cases ha
  | cons hn _ ih =>
      rcases List.mem_cons.mp ha with rfl | ha
      · exact ⟨_, hn⟩
      · exact ih ha

end SceneAction

namespace Scene

variable {δ ℓ : Type} [Device δ ℓ] {config : RendererConfig} {templates : ShaderTemplates}

/-- A scene without objects, on a device that has been set up. -/
def start (device : δ) (window : Size) (config : RendererConfig) (templates : ShaderTemplates) :
    Scene δ ℓ where
  host := Host.performAll { device, window } (Context.setupCommands config)
  context := ⟨config, templates⟩

theorem create_of_parse
    (parsed : ShaderTemplates.parse config.vertexTemplate config.fragmentTemplate = .ok templates)
    (device : δ) (window : Size) :
    Scene.create device config window = .ok (start device window config templates) := by
  simp only [create, Context.create, parsed]
  rfl

/-- Only the templates can keep a scene from being created. -/
theorem eq_of_create {device : δ} {window : Size} {s : Scene δ ℓ}
    (h : Scene.create device config window = .ok s) :
    ∃ templates, s = start device window config templates := by
  cases parsed : ShaderTemplates.parse config.vertexTemplate config.fragmentTemplate with
  | error e =>
      simp only [create, Context.create, parsed] at h
      cases h
  | ok templates =>
      rw [create_of_parse parsed, Except.ok.injEq] at h
      exact ⟨templates, h.symm⟩

/-- The templates of a scene are those of its settings. -/
theorem parse_of_create {device : δ} {window : Size} {s : Scene δ ℓ}
    (h : Scene.create device config window = .ok s) :
    ShaderTemplates.parse config.vertexTemplate config.fragmentTemplate =
      .ok s.context.templates := by
  cases parsed : ShaderTemplates.parse config.vertexTemplate config.fragmentTemplate with
  | error e =>
      simp only [create, Context.create, parsed] at h
      cases h
  | ok templates =>
      rw [create_of_parse parsed, Except.ok.injEq] at h
      rw [← h]
      rfl

end Scene

/-- Templates that are slots and nothing else. -/
def ShaderTemplates.bare : ShaderTemplates := ⟨⟨Slot.all.map .slot⟩, ⟨[.slot .version]⟩⟩

def RendererConfig.bare : RendererConfig where
  vertexTemplate :=
    "<version><attributes><uniforms><functions><variables><calls><pos><layer><color><xAxis><yAxis>"
  fragmentTemplate := "<version>"

theorem ShaderTemplates.parse_bare :
    parse RendererConfig.bare.vertexTemplate RendererConfig.bare.fragmentTemplate = .ok bare := by
  decide +kernel

namespace Step

/-- The step only asks. -/
def isQuery : Step → Bool
  | channelInfo .. | sameFunction .. | compose .. | procedureInfo .. | procedureChannel ..
  | dataInfo .. | fieldOffset .. | spritesInfo .. | bufferInfo .. | indexRange ..
  | targetInfo .. | binding .. | value .. | operationInfo .. => true
  | _ => false

end Step

namespace Script

open SceneAction

variable {δ ℓ : Type}

/-- What a step tells of a call of the library. -/
def told {α : Type} (f : α → Answer) (r : Except RenderError α) : Except StepError Answer :=
  (r.mapError .refused).map f

@[simp] theorem told_ok {α : Type} (f : α → Answer) (a : α) : told f (.ok a) = .ok (f a) := rfl

variable [Device δ ℓ]

/-- What a step of a scene `s` can end with. -/
inductive Transition (s : Scene δ ℓ) : Step → Except StepError Answer × Scene δ ℓ → Prop where
  /-- The step is refused before it calls anything that could change the scene. -/
  | refused {step} (e) : Transition s step (.error e, s)
  | asked {step} (query : step.isQuery) (r) : Transition s step (r, s)
  -- Builders, channels and functions.
  | newBuilder (as) :
      Transition s (.newBuilder as) (.ok .nothing, { s with
        nextSession := s.nextSession + 1
        builders := s.builders.insert as (s.context.builder s.nextSession) })
  | addAttribute {builder code as type b} (typed : code.type = .ok type)
      (found : s.builders.get? builder = some b) :
      Transition s (.addAttribute builder code as) (.ok (.channel (b.addAttribute type).1), { s with
        builders := s.builders.insert builder (b.addAttribute type).2
        channels := s.channels.insert as (b.addAttribute type).1 })
  | addOperation {builder code as type b} (typed : code.type = .ok type)
      (found : s.builders.get? builder = some b) :
      Transition s (.addOperation builder code as) (.ok (.channel (b.addOperation type).1), { s with
        builders := s.builders.insert builder (b.addOperation type).2
        channels := s.channels.insert as (b.addOperation type).1 })
  | addIntermediate {builder code expression as type b} (typed : code.type = .ok type)
      (found : s.builders.get? builder = some b) :
      Transition s (.addIntermediate builder code expression as)
        (.ok (.channel (b.addIntermediate type expression).1), { s with
          builders := s.builders.insert builder (b.addIntermediate type expression).2
          channels := s.channels.insert as (b.addIntermediate type expression).1 })
  | newFunction {name codes source as parameters}
      (typed : codes.mapM ShaderTypeCode.type = .ok parameters) :
      Transition s (.newFunction name codes source as)
        (.ok (.function ⟨s.nextFunction, name, parameters, source⟩), { s with
          nextFunction := s.nextFunction + 1
          functions := s.functions.insert as ⟨s.nextFunction, name, parameters, source⟩ })
  | copyFunction {function as f} (found : s.functions.get? function = some f) :
      Transition s (.copyFunction function as) (.ok .nothing, { s with
        functions := s.functions.insert as f })
  | call {builder function names arguments f b b'}
      (passed : List.Forall₂ (fun n c => s.channels.get? n = some c) names arguments)
      (declared : s.functions.get? function = some f)
      (found : s.builders.get? builder = some b) (called : b.call f arguments = .ok b') :
      Transition s (.call builder function names) (.ok .nothing, { s with
        builders := s.builders.insert builder b' })
  | setOutput {builder output channel c b b'} (passed : s.channels.get? channel = some c)
      (found : s.builders.get? builder = some b) (bound : b.setOutput output c = .ok b') :
      Transition s (.setOutput builder output channel) (.ok .nothing, { s with
        builders := s.builders.insert builder b' })
  -- Procedures.
  | finish {builder as b r host} (found : s.builders.get? builder = some b)
      (ran : (Procedure.ofBuilder b : Action δ (Procedure ℓ)).run s.host = (r, host)) :
      Transition s (.finish builder as) (told (fun p => .program p.program) r, { s with
        host
        builders := s.builders.erase builder
        procedures := s.procedures.insertOk as r })
  | link {builder as b r host} (found : s.builders.get? builder = some b)
      (ran : (Procedure.ofBuilder b : Action δ (Procedure ℓ)).run s.host = (r, host)) :
      Transition s (.link builder as) (told (fun p => .program p.program) r, { s with
        host
        procedures := s.procedures.insertOk as r })
  | copyProcedure {procedure as p} (found : s.procedures.get? procedure = some p) :
      Transition s (.copyProcedure procedure as) (.ok .nothing, { s with
        procedures := s.procedures.insert as p })
  | freeProcedure {procedure p} (found : s.procedures.get? procedure = some p) :
      Transition s (.freeProcedure procedure) (.ok .nothing, { s with
        host := (p.free.run s.host).2
        procedures := s.procedures.erase procedure })
  -- Data buffers.
  | newData {usage as r host}
      (ran : (DataBuffer.create usage : Action δ DataBuffer).run s.host = (r, host)) :
      Transition s (.newData usage as) (told (fun b => .handle b.handle) r, { s with
        host
        dataBuffers := s.dataBuffers.insertOk as r })
  | setLayout {data codes layout b} (typed : codes.mapM InputTypeCode.type = .ok layout)
      (found : s.dataBuffers.get? data = some b) :
      Transition s (.setLayout data codes) (.ok .nothing, { s with
        dataBuffers := s.dataBuffers.insert data (b.setLayout layout) })
  | setData {data bytes b r host} (found : s.dataBuffers.get? data = some b)
      (ran : (b.setData bytes : Action δ DataBuffer).run s.host = (r, host)) :
      Transition s (.setData data bytes) (told (fun _ => .nothing) r, { s with
        host
        dataBuffers := s.dataBuffers.insertOk data r })
  | freeData {data b} (found : s.dataBuffers.get? data = some b) :
      Transition s (.freeData data) (.ok .nothing, { s with
        host := ((b.free : Action δ Unit).run s.host).2
        dataBuffers := s.dataBuffers.erase data })
  -- Sprite buffers.
  | newSprites (as) :
      Transition s (.newSprites as) (.ok .nothing, { s with
        spriteLists := s.spriteLists.insert as [] })
  | copySprites {sprites as list} (found : s.spriteLists.get? sprites = some list) :
      Transition s (.copySprites sprites as) (.ok .nothing, { s with
        spriteLists := s.spriteLists.insert as list })
  /-- What reading a sprite writes into the journal stays, if the sprite is then refused. -/
  | addSpriteRefused {sprites source} (e) :
      Transition s (.addSprite sprites source) (.error e, { s with
        host := { s.host with journal := s.host.journal ++ source.journal } })
  | addSprite {sprites source sprite list} (read : source.sprite = .ok sprite)
      (found : s.spriteLists.get? sprites = some list) :
      Transition s (.addSprite sprites source) (.ok (.number list.length), { s with
        host := { s.host with journal := s.host.journal ++ source.journal }
        spriteLists := s.spriteLists.insert sprites (list ++ [sprite]) })
  | clearSprites {sprites list} (found : s.spriteLists.get? sprites = some list) :
      Transition s (.clearSprites sprites) (.ok .nothing, { s with
        spriteLists := s.spriteLists.insert sprites [] })
  | newBuffer {sprites usage as list r host} (found : s.spriteLists.get? sprites = some list)
      (ran : (SpriteBuffer.create list usage : Action δ SpriteBuffer).run s.host = (r, host)) :
      Transition s (.newBuffer sprites usage as) (told .spriteBuffer r, { s with
        host
        spriteBuffers := s.spriteBuffers.insertOk as r })
  | repack {sprites buffer b list r host} (found : s.spriteBuffers.get? buffer = some b)
      (collected : s.spriteLists.get? sprites = some list)
      (ran : (b.repack list : Action δ SpriteBuffer).run s.host = (r, host)) :
      Transition s (.repack sprites buffer) (told .spriteBuffer r, { s with
        host
        spriteBuffers := s.spriteBuffers.insertOk buffer r })
  | freeBuffer {buffer b} (found : s.spriteBuffers.get? buffer = some b) :
      Transition s (.freeBuffer buffer) (.ok .nothing, { s with
        host := ((b.free : Action δ Unit).run s.host).2
        spriteBuffers := s.spriteBuffers.erase buffer })
  -- Render targets.
  | primaryTarget (as) :
      Transition s (.primaryTarget as) (.ok (.target true false s.host.window), { s with
        targets := s.targets.insert as .primary })
  | newTarget {size multisampled as samples r host}
      (ran : (s.context.createTarget size multisampled samples : Action δ RenderTarget).run s.host =
        (r, host)) :
      Transition s (.newTarget size multisampled as samples)
        (told (fun t => .target t.isPrimary t.isMultisampled (t.size host.window)) r, { s with
          host
          targets := s.targets.insertOk as r })
  | resize {target size t t' r host} (found : s.targets.get? target = some t)
      (resized : t.withSize size = .ok t')
      (ran : (t'.allocate : Action δ Unit).run s.host = (r, host)) :
      Transition s (.resize target size) (told (fun _ => .nothing) r, { s with
        host
        targets := s.targets.insert target t' })
  | bind {target t} (found : s.targets.get? target = some t) :
      Transition s (.bind target) (.ok .nothing, { s with
        host := ((t.bind : Action δ Unit).run s.host).2 })
  | clear {target red green blue t} (found : s.targets.get? target = some t) :
      Transition s (.clear target red green blue) (.ok .nothing, { s with
        host := ((t.clear red green blue : Action δ Unit).run s.host).2 })
  | blit {target destination x y t d r host} (found : s.targets.get? target = some t)
      (placed : s.targets.get? destination = some d)
      (ran : (t.blitTo d x y : Action δ Unit).run s.host = (r, host)) :
      Transition s (.blit target destination x y) (told (fun _ => .nothing) r, { s with host })
  | read {target t r host} (found : s.targets.get? target = some t)
      (ran : (t.readPixels : Action δ Image).run s.host = (r, host)) :
      Transition s (.read target) (told .image r, { s with host })
  | freeTarget {target t} (found : s.targets.get? target = some t) :
      Transition s (.freeTarget target) (.ok .nothing, { s with
        host := ((t.free : Action δ Unit).run s.host).2
        targets := s.targets.erase target })
  | setWindow (size) :
      Transition s (.setWindow size) (.ok .nothing, { s with
        host := { s.host with window := size } })
  -- Operations.
  | newOperation {procedure as p r host} (found : s.procedures.get? procedure = some p)
      (ran : (Operation.create p : Action δ (Operation ℓ)).run s.host = (r, host)) :
      Transition s (.newOperation procedure as) (told (fun _ => .program p.program) r, { s with
        host
        operations := s.operations.insertOk as r })
  | setAttribute {operation channel data offset slot c b op r host}
      (passed : s.channels.get? channel = some c) (fed : s.dataBuffers.get? data = some b)
      (found : s.operations.get? operation = some op)
      (ran : (op.setAttribute c b offset slot : Action δ (Operation ℓ)).run s.host = (r, host)) :
      Transition s (.setAttribute operation channel data offset slot)
        (told (fun op => .binding (op.binding? c)) r, { s with
          host
          operations := s.operations.insertOk operation r })
  | setValue {operation channel value c op op'} (passed : s.channels.get? channel = some c)
      (found : s.operations.get? operation = some op) (stored : op.setValue c value = .ok op') :
      Transition s (.setValue operation channel value) (.ok (.value (op'.value? c)), { s with
        operations := s.operations.insert operation op' })
  | setSprite {operation buffer id b op r host} (packed : s.spriteBuffers.get? buffer = some b)
      (found : s.operations.get? operation = some op)
      (ran : (op.setSprite b id : Action δ (Operation ℓ)).run s.host = (r, host)) :
      Transition s (.setSprite operation buffer id) (told (fun op => .range op.sprite) r, { s with
        host
        operations := s.operations.insertOk operation r })
  | setAmount {operation amount op} (found : s.operations.get? operation = some op) :
      Transition s (.setAmount operation amount) (.ok (.number amount.toNat), { s with
        operations := s.operations.insert operation (op.setAmount amount) })
  | draw {operation target t op r host} (aimed : s.targets.get? target = some t)
      (found : s.operations.get? operation = some op)
      (ran : (op.drawTo t : Action δ Unit).run s.host = (r, host)) :
      Transition s (.draw operation target) (told (fun _ => .nothing) r, { s with host })
  | freeOperation {operation op} (found : s.operations.get? operation = some op) :
      Transition s (.freeOperation operation) (.ok .nothing, { s with
        host := ((op.free : Action δ Unit).run s.host).2
        operations := s.operations.erase operation })

/-! ## Every step is a transition -/

section

variable {s : Scene δ ℓ} {step : Step} {α : Type}

private theorem Transition.of_find {table : Scene δ ℓ → Table String α} {name : String}
    {f : α → SceneAction δ ℓ Answer}
    (h : ∀ a, (table s).get? name = some a → Transition s step ((f a).run s)) :
    Transition s step ((find table name >>= f).run s) := by
  cases found : (table s).get? name with
  | none =>
      rw [Attempt.run_bind_of_error f (run_find_of_none found)]
      exact .refused _
  | some a =>
      rw [Attempt.run_bind_of_ok f (run_find_of_some found)]
      exact h a found

private theorem Transition.of_check {r : Except RenderError α} {f : α → SceneAction δ ℓ Answer}
    (h : ∀ a, r = .ok a → Transition s step ((f a).run s)) :
    Transition s step ((check r >>= f).run s) := by
  cases r with
  | error e => exact .refused _
  | ok a => exact h a rfl

/-- An action on the host leaves its host whether it fails or not. -/
private theorem Transition.of_onHost {s' : Scene δ ℓ} {x : Action δ α}
    {f : α → SceneAction δ ℓ Answer}
    (h : ∀ r host, x.run s'.host = (r, host) →
      Transition s step (match r with
        | .ok a => (f a).run { s' with host }
        | .error e => (.error (.refused e), { s' with host }))) :
    Transition s step ((onHost x >>= f).run s') := by
  have := h (x.run s'.host).1 (x.run s'.host).2 rfl
  rw [Attempt.run_bind, run_onHost]
  cases hr : (x.run s'.host).1 with
  | error e =>
      rw [hr] at this
      exact this
  | ok a =>
      rw [hr] at this
      exact this

end

theorem transition_perform (step : Step) (s : Scene δ ℓ) :
    Transition s step ((perform step).run s) := by
  cases step with
  | newBuilder as => exact .newBuilder as
  | addAttribute builder code as =>
      exact .of_check fun _ typed => .of_find fun _ found => .addAttribute typed found
  | addOperation builder code as =>
      exact .of_check fun _ typed => .of_find fun _ found => .addOperation typed found
  | addIntermediate builder code expression as =>
      exact .of_check fun _ typed => .of_find fun _ found => .addIntermediate typed found
  | channelInfo channel => exact .of_find fun _ _ => .asked rfl _
  | newFunction name codes source as => exact .of_check fun _ typed => .newFunction typed
  | copyFunction function as => exact .of_find fun _ found => .copyFunction found
  | sameFunction a b => exact .of_find fun _ _ => .of_find fun _ _ => .asked rfl _
  | call builder function names =>
      rcases run_mapM_find Scene.channels names s with ⟨e, h⟩ | ⟨arguments, passed, h⟩
      · rw [perform, Attempt.run_bind_of_error _ h]
        exact .refused e
      · rw [perform, Attempt.run_bind_of_ok _ h]
        exact .of_find fun _ declared => .of_find fun _ found => .of_check fun _ called =>
          .call passed declared found called
  | setOutput builder output channel =>
      exact .of_find fun _ passed => .of_find fun _ found => .of_check fun _ bound =>
        .setOutput passed found bound
  | compose builder => exact .of_find fun _ _ => .of_check fun _ _ => .asked rfl _
  | finish builder as =>
      refine .of_find fun b found => ?_
      change Transition s _ ((onHost (Procedure.ofBuilder b) >>= _).run
        { s with builders := s.builders.erase builder })
      refine .of_onHost fun r host ran => ?_
      cases r <;> exact .finish found ran
  | link builder as =>
      refine .of_find fun b found => .of_onHost fun r host ran => ?_
      cases r <;> exact .link found ran
  | procedureInfo procedure => exact .of_find fun _ _ => .asked rfl _
  | procedureChannel procedure channel =>
      exact .of_find fun _ _ => .of_find fun _ _ => .asked rfl _
  | copyProcedure procedure as => exact .of_find fun _ found => .copyProcedure found
  | freeProcedure procedure => exact .of_find fun _ found => .freeProcedure found
  | newData usage as =>
      refine .of_onHost fun r host ran => ?_
      cases r <;> exact .newData ran
  | setLayout data codes =>
      exact .of_check fun _ typed => .of_find fun _ found => .setLayout typed found
  | setData data bytes =>
      refine .of_find fun b found => .of_onHost fun r host ran => ?_
      cases r <;> exact .setData found ran
  | dataInfo data => exact .of_find fun _ _ => .asked rfl _
  | fieldOffset data slot => exact .of_find fun _ _ => .of_check fun _ _ => .asked rfl _
  | freeData data => exact .of_find fun _ found => .freeData found
  | newSprites as => exact .newSprites as
  | copySprites sprites as => exact .of_find fun _ found => .copySprites found
  | addSprite sprites source =>
      change Transition s _ ((check source.sprite >>= _).run
        { s with host := { s.host with journal := s.host.journal ++ source.journal } })
      cases read : source.sprite with
      | error e => exact .addSpriteRefused _
      | ok sprite =>
          rw [Attempt.run_bind_of_ok _ (run_check _ _)]
          cases found : s.spriteLists.get? sprites with
          | none =>
              rw [Attempt.run_bind_of_error _ (run_find_of_none ?_)]
              · exact .addSpriteRefused _
              · exact found
          | some list =>
              rw [Attempt.run_bind_of_ok _ (run_find_of_some ?_)]
              · exact .addSprite read found
              · exact found
  | clearSprites sprites => exact .of_find fun _ found => .clearSprites found
  | spritesInfo sprites => exact .of_find fun _ _ => .asked rfl _
  | newBuffer sprites usage as =>
      refine .of_find fun list found => .of_onHost fun r host ran => ?_
      cases r <;> exact .newBuffer found ran
  | repack sprites buffer =>
      refine .of_find fun b found => .of_find fun list collected => .of_onHost fun r host ran => ?_
      cases r <;> exact .repack found collected ran
  | bufferInfo buffer => exact .of_find fun _ _ => .asked rfl _
  | indexRange buffer id => exact .of_find fun _ _ => .asked rfl _
  | freeBuffer buffer => exact .of_find fun _ found => .freeBuffer found
  | primaryTarget as => exact .primaryTarget as
  | newTarget size multisampled as samples =>
      refine .of_onHost fun r host ran => ?_
      cases r <;> exact .newTarget ran
  | targetInfo target => exact .of_find fun _ _ => .asked rfl _
  | resize target size =>
      refine .of_find fun t found => .of_check fun t' resized => ?_
      change Transition s _ ((onHost t'.allocate >>= _).run
        { s with targets := s.targets.insert target t' })
      refine .of_onHost fun r host ran => ?_
      cases r <;> exact .resize found resized ran
  | bind target => exact .of_find fun _ found => .bind found
  | clear target red green blue => exact .of_find fun _ found => .clear found
  | blit target destination x y =>
      refine .of_find fun t found => .of_find fun d placed => .of_onHost fun r host ran => ?_
      cases r <;> exact .blit found placed ran
  | read target =>
      refine .of_find fun t found => .of_onHost fun r host ran => ?_
      cases r <;> exact .read found ran
  | freeTarget target =>
      refine .of_find fun t found => ?_
      cases t <;> exact .freeTarget found
  | setWindow size => exact .setWindow size
  | newOperation procedure as =>
      refine .of_find fun p found => .of_onHost fun r host ran => ?_
      cases r <;> exact .newOperation found ran
  | setAttribute operation channel data offset slot =>
      refine .of_find fun c passed => .of_find fun b fed => .of_find fun op found =>
        .of_onHost fun r host ran => ?_
      cases r <;> exact .setAttribute passed fed found ran
  | binding operation channel => exact .of_find fun _ _ => .of_find fun _ _ => .asked rfl _
  | setValue operation channel value =>
      exact .of_find fun _ passed => .of_find fun _ found => .of_check fun _ stored =>
        .setValue passed found stored
  | value operation channel => exact .of_find fun _ _ => .of_find fun _ _ => .asked rfl _
  | setSprite operation buffer id =>
      refine .of_find fun b packed => .of_find fun op found => .of_onHost fun r host ran => ?_
      cases r <;> exact .setSprite packed found ran
  | setAmount operation amount => exact .of_find fun _ found => .setAmount found
  | operationInfo operation => exact .of_find fun _ _ => .asked rfl _
  | draw operation target =>
      refine .of_find fun t aimed => .of_find fun op found => .of_onHost fun r host ran => ?_
      cases r <;> exact .draw aimed found ran
  | freeOperation operation => exact .of_find fun _ found => .freeOperation found

end Script

end SpriteRenderer
