import SpriteRenderer.Proofs.Buffer.Sprites
import SpriteRenderer.Proofs.Operation.Settings
import SpriteRenderer.Proofs.Sprite.Appending

/-! # Selected sprites

An operation keeps the range of its sprite from when it was selected, and is told of no packing
later. As long as the sprites come from one list, which only grows, the range stays that of the
sprite and reaches the same bytes. -/

namespace SpriteRenderer

/-- The step packs the sprites of a list into a buffer, which may be new. -/
def Step.uploads (list buffer : String) : Step → Bool
  | newBuffer sprites _ as => sprites = list && as = buffer
  | repack sprites b => sprites = list && b = buffer
  | _ => false

namespace Headless

/-! ## What could disturb a selection -/

namespace Moment

/-- A buffer is given up, or sprites of another list are packed into it. -/
def replaces (list buffer : String) (m : Moment) : Bool :=
  match m.directive, m.answer with
  | .step (.newBuffer _ _ as), .ok _ => as = buffer
  | .step (.repack sprites b), .ok _ => b = buffer && sprites != list
  | .step (.freeBuffer b), .ok _ => b = buffer
  | _, _ => false

/-- An operation is given up, or another sprite is selected for it. -/
def reselects (operation : String) (m : Moment) : Bool :=
  match m.directive, m.answer with
  | .step (.newOperation _ as), .ok _ => as = operation
  | .step (.setSprite op _ _), .ok _ | .step (.freeOperation op), .ok _ => op = operation
  | _, _ => false

/-- The moment ends what a selection rests on. Packing the list again does not. -/
def disturbs (list buffer operation : String) (m : Moment) : Bool :=
  m.renews list || m.replaces list buffer || m.reselects operation

variable {m : Moment} {list buffer operation : String}

theorem of_disturbs_eq_false (h : m.disturbs list buffer operation = false) :
    m.renews list = false ∧ m.replaces list buffer = false ∧ m.reselects operation = false := by
  simpa [disturbs, and_assoc] using h

/-- What is packed is what the list has now. -/
theorem packing?_of_replaces_eq_false (h : m.replaces list buffer = false) {now : List Sprite}
    (found : m.scene.spriteLists.get? list = some now) :
    m.packing? buffer = none ∨ m.packing? buffer = some (.again now) := by
  obtain ⟨s, d, r⟩ := m
  cases r with
  | error e => exact .inl (packing?_of_error buffer s d e)
  | ok answer =>
      cases d with
      | step step =>
          cases step with
          | newBuffer sprites usage as =>
              have other : as ≠ buffer := by simpa [replaces] using h
              cases answer <;> first | exact .inl rfl | exact .inl (if_neg other)
          | repack sprites b =>
              by_cases own : b = buffer
              · have same : sprites = list := by simpa [replaces, own] using h
                refine .inr ?_
                simp only [packing?, own, same, found, if_true, Option.map_some]
              · exact .inl (if_neg own)
          | _ => exact .inl rfl
      | _ => exact .inl rfl

/-- A buffer that is packed again is the one that was made. -/
theorem making?_of_replaces_eq_false (h : m.replaces list buffer = false) :
    (m.packing? buffer).bind Packing.making? = none := by
  obtain ⟨s, d, r⟩ := m
  cases r with
  | error e =>
      rw [packing?_of_error]
      rfl
  | ok answer =>
      cases d with
      | step step =>
          cases step with
          | newBuffer sprites usage as =>
              have other : as ≠ buffer := by simpa [replaces] using h
              cases answer <;> first | rfl | simp only [packing?, if_neg other, Option.bind_none]
          | repack sprites b =>
              simp only [packing?]
              split
              · cases s.spriteLists.get? sprites <;> rfl
              · rfl
          | _ => rfl
      | _ => rfl

theorem range?_of_reselects_eq_false (h : m.reselects operation = false) :
    (m.setting? operation).bind Setting.range? = none := by
  obtain ⟨s, d, r⟩ := m
  cases r with
  | error e =>
      rw [setting?_of_error]
      rfl
  | ok answer =>
      cases d with
      | step step =>
          cases step with
          | newOperation procedure as | setSprite as buffer id =>
              have other : as ≠ operation := by simpa [reselects] using h
              simp only [setting?, if_neg other, Option.bind_none]
          | setValue as channel v =>
              simp only [setting?]
              split
              · cases s.channels.get? channel <;> rfl
              · rfl
          | setAmount as n =>
              simp only [setting?]
              split <;> rfl
          | _ => rfl
      | _ => rfl

end Moment

/-! ## What stays -/

section

variable {s : Scene Headless String} {list buffer operation : String}

theorem isSome_spriteBuffer_of_transition {step : Step}
    {out : Except StepError Answer × Scene Headless String} (t : Script.Transition s step out)
    (kept : Moment.replaces list buffer ⟨s, .step step, out.1⟩ = false)
    (found : (s.spriteBuffers.get? buffer).isSome) : (out.2.spriteBuffers.get? buffer).isSome := by
  cases t with
  | newBuffer | repack => exact Table.isSome_get?_insertOk found _ _
  | @freeBuffer b =>
      have other : b ≠ buffer := by simpa [Moment.replaces] using kept
      rw [Table.get?_erase_of_ne _ other.symm]
      exact found
  | _ => exact found

theorem isSome_operation_of_transition {step : Step}
    {out : Except StepError Answer × Scene Headless String} (t : Script.Transition s step out)
    (kept : Moment.reselects operation ⟨s, .step step, out.1⟩ = false)
    (found : (s.operations.get? operation).isSome) :
    (out.2.operations.get? operation).isSome := by
  cases t with
  | newOperation | setAttribute | setSprite => exact Table.isSome_get?_insertOk found _ _
  | setValue | setAmount => exact Table.isSome_get?_insert found _ _
  | @freeOperation op =>
      have other : op ≠ operation := by simpa [Moment.reselects] using kept
      rw [Table.get?_erase_of_ne _ other.symm]
      exact found
  | _ => exact found

theorem exists_spriteBuffer_after {ds : List Directive}
    (kept : ∀ m ∈ history s ds, m.replaces list buffer = false)
    (found : (s.spriteBuffers.get? buffer).isSome) :
    ∃ b, (after s ds).spriteBuffers.get? buffer = some b :=
  Option.isSome_iff_exists.mp <|
    keeps_after (P := fun s => (s.spriteBuffers.get? buffer).isSome)
      (fun _ _ _ t => isSome_spriteBuffer_of_transition t) (fun _ _ => id) ds kept found

theorem exists_operation_after {ds : List Directive}
    (kept : ∀ m ∈ history s ds, m.reselects operation = false)
    (found : (s.operations.get? operation).isSome) :
    ∃ op, (after s ds).operations.get? operation = some op :=
  Option.isSome_iff_exists.mp <|
    keeps_after (P := fun s => (s.operations.get? operation).isSome)
      (fun _ _ _ t => isSome_operation_of_transition t) (fun _ _ => id) ds kept found

theorem making?_append_of_kept (ms : List Moment) {later : List Moment}
    (kept : ∀ m ∈ later, m.replaces list buffer = false) :
    making? buffer (ms ++ later) = making? buffer ms :=
  latest?_append_of_all_none (fun m hm => Moment.making?_of_replaces_eq_false (kept m hm)) ms

theorem lastRange?_append_of_kept (ms : List Moment) {later : List Moment}
    (kept : ∀ m ∈ later, m.reselects operation = false) :
    lastRange? operation (ms ++ later) = lastRange? operation ms :=
  congrArg Option.join <|
    latest?_append_of_all_none (fun m hm => Moment.range?_of_reselects_eq_false (kept m hm)) ms

/-- What is packed into a buffer only grows, and is never more than the list has. -/
theorem packed_prefix_after (ds : List Directive) {ms : List Moment} {packed now : List Sprite}
    (holds : lastPacked? buffer ms = some packed) (found : s.spriteLists.get? list = some now)
    (behind : packed <+: now)
    (kept : ∀ m ∈ history s ds, m.renews list = false ∧ m.replaces list buffer = false) :
    ∃ packed', lastPacked? buffer (ms ++ history s ds) = some packed' ∧ packed <+: packed' := by
  induction ds generalizing s ms packed now with
  | nil =>
      rw [history, List.append_nil]
      exact ⟨packed, holds, List.prefix_rfl⟩
  | cons d ds ih =>
      obtain ⟨unrenewed, unreplaced⟩ := kept (moment s d) List.mem_cons_self
      have later m hm := kept m (List.mem_cons_of_mem _ hm)
      obtain ⟨next, found', grown⟩ := prefix_after [d] found fun m hm => by
        rw [List.mem_singleton.mp hm]
        exact unrenewed
      rw [history, List.append_cons]
      rcases Moment.packing?_of_replaces_eq_false unreplaced found with silent | told
      · refine ih ?_ found' (behind.trans grown) later
        rw [lastPacked?, latest?_append_of_silent silent]
        exact holds
      · have holds' : lastPacked? buffer (ms ++ [moment s d]) = some now :=
          latest?_append_of_told told _ ms
        obtain ⟨packed', last, grown'⟩ := ih holds' found' grown later
        exact ⟨packed', last, behind.trans grown'⟩

end

/-! ## Selections -/

/-- A sprite is selected from a buffer for an operation. The buffer was uploaded from a list before,
which was not renewed since. -/
structure Selection (s₀ : Scene Headless String) where
  list : String
  buffer : String
  operation : String
  id : Nat
  /-- The first index of the sprite and how many indices it has. -/
  range : UInt32 × UInt32
  before : List Directive
  upload : Step
  since : List Directive
  uploads : upload.uploads list buffer
  uploaded : ∃ answer, ((Script.perform upload).run (after s₀ before)).1 = .ok answer
  unrenewed : ∀ m ∈ history (after s₀ (before ++ [.step upload])) since,
    m.renews list = false ∧ m.packing? buffer = none
  selected : ((Script.perform (.setSprite operation buffer id)).run
    (after s₀ (before ++ .step upload :: since))).1 = .ok (.range (some range))

namespace Selection

variable {s₀ : Scene Headless String}

/-- What is done up to the selection. -/
def directives (x : Selection s₀) : List Directive :=
  x.before ++ .step x.upload :: x.since ++ [.step (.setSprite x.operation x.buffer x.id)]

end Selection

/-- What is uploaded are the sprites that the list has then. -/
theorem uploaded_of_transition {s : Scene Headless String} {list buffer : String} {step : Step}
    {out : Except StepError Answer × Scene Headless String} (t : Script.Transition s step out)
    (uploads : step.uploads list buffer) {answer : Answer} (answered : out.1 = .ok answer) :
    ∃ p sprites, Moment.packing? buffer ⟨s, .step step, out.1⟩ = some p ∧ p.sprites = sprites ∧
      out.2.spriteLists.get? list = some sprites := by
  cases t with
  | refused | addSpriteRefused => cases answered
  | asked query => cases step <;> first | cases uploads | cases query
  | @newBuffer sprites usage as collected r host found ran =>
      obtain ⟨rfl, rfl⟩ : sprites = list ∧ as = buffer := by simpa [Step.uploads] using uploads
      cases r with
      | error e => cases answered
      | ok b =>
          refine ⟨.first ⟨b, usage, collected⟩, collected, ?_, rfl, found⟩
          simp [Moment.packing?, found]
  | @repack sprites b _ collected r host _ found ran =>
      obtain ⟨rfl, rfl⟩ : sprites = list ∧ b = buffer := by simpa [Step.uploads] using uploads
      cases r with
      | error e => cases answered
      | ok b =>
          refine ⟨.again collected, collected, ?_, rfl, found⟩
          simp [Moment.packing?, found]
  | _ => cases uploads

/-- Selecting a sprite only changes the operation. -/
theorem selected_of_transition {s : Scene Headless String} {operation buffer : String} {id : Nat}
    {range : UInt32 × UInt32} {out : Except StepError Answer × Scene Headless String}
    (t : Script.Transition s (.setSprite operation buffer id) out)
    (answered : out.1 = .ok (.range (some range))) :
    ∃ b, s.spriteBuffers.get? buffer = some b ∧ b.indexRange? id = some range ∧
      out.2.spriteBuffers = s.spriteBuffers ∧ out.2.spriteLists = s.spriteLists ∧
      (out.2.operations.get? operation).isSome ∧
      Moment.setting? operation ⟨s, .step (.setSprite operation buffer id), out.1⟩ =
        some (.range range) := by
  cases t with
  | refused => cases answered
  | asked query => cases query
  | @setSprite _ _ _ b op r host packed found ran =>
      cases r with
      | error e => cases answered
      | ok op' =>
          obtain ⟨range', known, rfl⟩ := Operation.setSprite_yields_range _ _ _ _ _ _ ran
          cases answered
          refine ⟨b, packed, known, rfl, rfl, by simp [Table.insertOk], ?_⟩
          simp [Moment.setting?, packed, known]

/-- The operation is told the range of the sprite, and the buffer holds what the list had when it
was uploaded. -/
structure Selection.Chosen {s₀ : Scene Headless String} (x : Selection s₀) (b : SpriteBuffer)
    (sprites now : List Sprite) : Prop where
  buffer : (after s₀ x.directives).spriteBuffers.get? x.buffer = some b
  known : b.indexRange? x.id = some x.range
  packed : lastPacked? x.buffer (history s₀ x.directives) = some sprites
  collected : (after s₀ x.directives).spriteLists.get? x.list = some now
  behind : sprites <+: now
  operation : ((after s₀ x.directives).operations.get? x.operation).isSome
  told : lastRange? x.operation (history s₀ x.directives) = some x.range

theorem Selection.exists_chosen {s₀ : Scene Headless String} (x : Selection s₀) :
    ∃ b sprites now, x.Chosen b sprites now := by
  have split : x.before ++ .step x.upload :: x.since = (x.before ++ [.step x.upload]) ++ x.since :=
    List.append_cons _ _ _
  obtain ⟨answer, answered⟩ := x.uploaded
  obtain ⟨p, sprites, packs, rfl, collected⟩ := uploaded_of_transition
    (Script.transition_perform x.upload (after s₀ x.before)) x.uploads answered
  have uploaded : after s₀ (x.before ++ [.step x.upload]) =
      ((Script.perform x.upload).run (after s₀ x.before)).2 := after_append _ _ _
  rw [← uploaded] at collected
  have packed : lastPacked? x.buffer (history s₀ (x.before ++ .step x.upload :: x.since)) =
      some p.sprites := by
    rw [split, history_append, history_append, lastPacked?,
      latest?_append_of_all_none fun m hm => by rw [(x.unrenewed m hm).2]; rfl]
    exact latest?_append_of_told packs _ _
  obtain ⟨now, collected', behind⟩ :=
    prefix_after x.since collected fun m hm => (x.unrenewed m hm).1
  rw [← after_append, ← split] at collected'
  obtain ⟨b, found, known, buffers, lists, operation, told⟩ := selected_of_transition
    (Script.transition_perform (.setSprite x.operation x.buffer x.id)
      (after s₀ (x.before ++ .step x.upload :: x.since))) x.selected
  have selected : after s₀ x.directives =
      ((Script.perform (.setSprite x.operation x.buffer x.id)).run
        (after s₀ (x.before ++ .step x.upload :: x.since))).2 := after_append _ _ _
  refine ⟨b, p.sprites, now, ?_, known, ?_, ?_, behind, ?_, ?_⟩
  · rw [selected, buffers]
    exact found
  · rw [directives, history_append]
    exact (latest?_append_of_silent rfl _ _).trans packed
  · rw [selected, lists]
    exact collected'
  · rw [selected]
    exact operation
  · rw [directives, history_append]
    exact congrArg Option.join (lastTold?_append _ _ told)

/-- What the device holds for a sprite buffer. -/
theorem Holds.contents {s : Scene Headless String} (stocked : s.Stocked) {ms : List Moment}
    {name : String} {b : SpriteBuffer} {sprites : List Sprite} {making : Making}
    (found : s.spriteBuffers.get? name = some b) (holds : Holds ms s.host name b sprites making) :
    s.host.device.bufferContents b.vertices = some (SpriteContents.ofSprites sprites).vertices ∧
      s.host.device.bufferContents b.indices = some (SpriteContents.ofSprites sprites).indices := by
  have same {x} (own : ⟨.buffer, x⟩ ∈ b.objects) :=
    stocked.bufferContents rfl (Scene.objects?_of_spriteBuffer found) own
  constructor
  · rw [same (by simp [SpriteBuffer.objects]), holds.vertexBytes]
    rfl
  · rw [same (by simp [SpriteBuffer.objects]), holds.indexBytes]
    rfl

open PackedSprites

/-- A selection after later directives. The buffer and its range are the same, the operation has
that range, and its indices reach the same bytes. -/
structure Selection.Stays {s₀ : Scene Headless String} (x : Selection s₀) (later : List Directive)
    (b b' : SpriteBuffer) (op : Operation String) (old new : SpriteContents)
    (sprites : List Sprite) : Prop where
  buffer : (after s₀ x.directives).spriteBuffers.get? x.buffer = some b
  buffer' : (after s₀ (x.directives ++ later)).spriteBuffers.get? x.buffer = some b'
  operation : (after s₀ (x.directives ++ later)).operations.get? x.operation = some op
  vertices : b'.vertices = b.vertices
  indices : b'.indices = b.indices
  known : b.indexRange? x.id = some x.range
  known' : b'.indexRange? x.id = some x.range
  selected : op.sprite = some x.range
  contents : (after s₀ x.directives).host.device.bufferContents b.vertices = some old.vertices ∧
    (after s₀ x.directives).host.device.bufferContents b.indices = some old.indices
  contents' : (after s₀ (x.directives ++ later)).host.device.bufferContents b'.vertices =
      some new.vertices ∧
    (after s₀ (x.directives ++ later)).host.device.bufferContents b'.indices = some new.indices
  packed : lastPacked? x.buffer (history s₀ x.directives) = some sprites
  reach : vertexCount sprites < UInt32.size → indexCount sprites < UInt32.size →
    ∃ s, sprites[x.id]? = some s ∧ x.range.2.toNat = s.indices.length ∧
      ∀ j < s.indices.length, ∃ w, old.Keeps new (x.range.1.toNat + j) w ∧
        ((∀ i ∈ s.indices, i.toNat < s.vertices.length) →
          (Extent.vertex w.toNat).Within old.vertices.length)

variable {config : RendererConfig} {window : Size} {s₀ : Scene Headless String}

/-- Appended sprites move none of those before them. So whatever a session does after a sprite was
selected, as long as the buffer is packed from the same list and that list only grows, the range of
the operation stays that of the sprite and reaches the same bytes. -/
theorem selections_stay (created : Scene.create ({} : Headless) config window = .ok s₀) :
    (∀ xs ys, vertexCount (xs ++ ys) < UInt32.size → indexCount (xs ++ ys) < UInt32.size →
      AppendedExactly xs ys) ∧
    ∀ (x : Selection s₀) (later : List Directive),
      (∀ d ∈ x.directives ++ later, d.isDirect = false) →
      (∀ m ∈ history (after s₀ x.directives) later,
        m.disturbs x.list x.buffer x.operation = false) →
      ∃ b b' op old new sprites, x.Stays later b b' op old new sprites := by
  refine ⟨fun _ _ vertices indices => appendedExactly vertices indices,
    fun x later library kept => ?_⟩
  obtain ⟨b, sprites, now, chosen⟩ := x.exists_chosen
  have undisturbed m hm := Moment.of_disturbs_eq_false (kept m hm)
  -- The buffer and the operation are still there.
  obtain ⟨b', found'⟩ := exists_spriteBuffer_after (fun m hm => (undisturbed m hm).2.1)
    (Option.isSome_of_eq_some chosen.buffer)
  obtain ⟨op, operation⟩ := exists_operation_after (fun m hm => (undisturbed m hm).2.2)
    chosen.operation
  rw [← after_append] at found' operation
  -- What they hold is told by the history.
  obtain ⟨stocked, all⟩ := packed_after created x.directives fun d hd => library d (by simp [hd])
  obtain ⟨stocked', all'⟩ := packed_after created (x.directives ++ later) library
  obtain ⟨sprites₁, making, holds⟩ := all x.buffer b chosen.buffer
  obtain ⟨packed, making', holds'⟩ := all' x.buffer b' found'
  have follows := follows_after created (x.directives ++ later) x.operation op operation
  obtain rfl := Option.some.inj (chosen.packed.symm.trans holds.packed)
  obtain ⟨grown, last, more, rfl⟩ := packed_prefix_after later chosen.packed chosen.collected
    chosen.behind fun m hm => ⟨(undisturbed m hm).1, (undisturbed m hm).2.1⟩
  rw [← history_append] at last
  obtain rfl := Option.some.inj (last.symm.trans holds'.packed)
  have made : making? x.buffer (history s₀ (x.directives ++ later)) = some making := by
    rw [history_append, making?_append_of_kept _ fun m hm => (undisturbed m hm).2.1]
    exact holds.made
  obtain rfl := Option.some.inj (made.symm.trans holds'.made)
  have ranges : b.ranges <+: b'.ranges := by
    rw [holds.ranges, holds'.ranges]
    exact ⟨_, (appended sprites more).ranges.symm⟩
  refine ⟨b, b', op, .ofSprites sprites, .ofSprites (sprites ++ more), sprites, {
    buffer := chosen.buffer
    buffer' := found'
    operation
    vertices := holds'.vertices.trans holds.vertices.symm
    indices := holds'.indices.trans holds.indices.symm
    known := chosen.known
    known' := SpriteBuffer.indexRange?_of_prefix ranges chosen.known
    selected := ?_
    contents := holds.contents stocked chosen.buffer
    contents' := holds'.contents stocked' found'
    packed := chosen.packed
    reach := SpriteBuffer.exists_reach holds.ranges chosen.known more }⟩
  rw [follows.sprite, history_append,
    lastRange?_append_of_kept _ fun m hm => (undisturbed m hm).2.2]
  exact chosen.told

/-- The second sprite of a list is selected. A third one was collected before, but not packed. -/
def edgeSelected : Selection (.start {} ⟨4, 4⟩ .bare .bare) where
  list := "list"
  buffer := "moving"
  operation := "op"
  id := 1
  range := (3, 3)
  before := [.step (.newSprites "list"), .step (.addSprite "list" (.mesh dot)),
    .step (.newBuffer "list" .dynamic "moving"), .step (.newBuilder "b"),
    .step (.addAttribute "b" ⟨.float, 2⟩ "place"), .step (.addOperation "b" ⟨.uint, 1⟩ "layer"),
    .step (.setOutput "b" .position "place"), .step (.setOutput "b" .layer "layer"),
    .step (.finish "b" "p"), .step (.newOperation "p" "op"),
    .step (.addSprite "list" (.mesh edge))]
  upload := .repack "list" "moving"
  since := [.step (.addSprite "list" (.mesh dot)), .failCreation 0,
    .step (.newBuffer "list" .static "broken")]
  uploads := by decide
  uploaded := ⟨.spriteBuffer ⟨1, 2, [0, 3, 6], .dynamic⟩, by decide +kernel⟩
  unrenewed := by decide +kernel
  selected := by decide +kernel

/-- The list grows and is packed again, other sprites are packed elsewhere. -/
def packedAgain : List Directive :=
  [.step (.repack "list" "moving"), .step (.newSprites "other"),
    .step (.addSprite "other" (.mesh edge)), .step (.newBuffer "other" .static "still"),
    .step (.repack "list" "still"), .step (.addSprite "list" (.mesh edge)),
    .step (.newOperation "p" "second"), .step (.setSprite "second" "still" 0),
    .step (.repack "list" "moving"), .step (.setAmount "op" 3)]

theorem selections_stay_packedAgain :
    ∃ b b' op old new sprites, edgeSelected.Stays packedAgain b b' op old new sprites ∧
      sprites = [dot, edge] ∧ op.sprite = some (3, 3) ∧
      ∀ j < 3, ∃ w, old.Keeps new (3 + j) w ∧
        (Extent.vertex w.toNat).Within old.vertices.length := by
  have created : Scene.create ({} : Headless) .bare ⟨4, 4⟩ = .ok (.start {} ⟨4, 4⟩ .bare .bare) :=
    Scene.create_of_parse ShaderTemplates.parse_bare _ _
  obtain ⟨-, stay⟩ := selections_stay created
  obtain ⟨b, b', op, old, new, sprites, stays⟩ :=
    stay edgeSelected packedAgain (by decide) (by decide +kernel)
  have packed : lastPacked? "moving" (history (.start {} ⟨4, 4⟩ .bare .bare)
      edgeSelected.directives) = some [dot, edge] := by
    decide +kernel
  obtain rfl := Option.some.inj (packed.symm.trans stays.packed)
  obtain ⟨s, found, -, reach⟩ := stays.reach (by decide) (by decide)
  cases found
  refine ⟨b, b', op, old, new, _, stays, rfl, stays.selected, fun j hj => ?_⟩
  obtain ⟨w, keeps, whole⟩ := reach j hj
  exact ⟨w, keeps, whole (by simp [edge])⟩

end Headless

end SpriteRenderer
