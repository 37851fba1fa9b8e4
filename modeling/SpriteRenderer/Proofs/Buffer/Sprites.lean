import SpriteRenderer.Proofs.Buffer.Contents

/-! # What sprite buffers hold

The device holds what was packed into a sprite buffer last, as its range table says. Sprites keep
their positions in a list until it is cleared. -/

namespace SpriteRenderer

/-- How a sprite buffer was made. -/
structure Making where
  buffer : SpriteBuffer
  usage : BufferUsage
  sprites : List Sprite

/-- What is packed into a sprite buffer. -/
inductive Packing where
  /-- The buffer is new. -/
  | first (making : Making)
  | again (sprites : List Sprite)

namespace Packing

def sprites : Packing → List Sprite
  | first making => making.sprites
  | again sprites => sprites

def making? : Packing → Option Making
  | first making => some making
  | again _ => none

end Packing

namespace Headless

/-- What is packed into the sprite buffer of a name. What is refused packs nothing. -/
def Moment.packing? (name : String) (m : Moment) : Option Packing :=
  match m.directive, m.answer with
  | .step (.newBuffer list usage as), .ok (.spriteBuffer b) =>
    if as = name then (m.scene.spriteLists.get? list).map fun sprites => .first ⟨b, usage, sprites⟩
    else none
  | .step (.repack list buffer), .ok _ =>
    if buffer = name then (m.scene.spriteLists.get? list).map .again else none
  | _, _ => none

/-- The sprites that were packed into the sprite buffer of a name last. -/
def lastPacked? (name : String) (ms : List Moment) : Option (List Sprite) :=
  latest? (fun m => (m.packing? name).bind fun p => some p.sprites) ms

/-- How the sprite buffer of a name was made. -/
def making? (name : String) (ms : List Moment) : Option Making :=
  latest? (fun m => (m.packing? name).bind Packing.making?) ms

/-- The range table of a sprite buffer and the contents of its two buffers on the device, which are
those that it was made with, are of the sprites that were packed last. -/
structure Holds (ms : List Moment) (h : Host Headless) (name : String) (b : SpriteBuffer)
    (sprites : List Sprite) (making : Making) : Prop where
  packed : lastPacked? name ms = some sprites
  made : making? name ms = some making
  ranges : b.ranges = (PackedSprites.ofSprites sprites).ranges
  vertexBytes : h.device.buffers.get? b.vertices =
    some (PackedSprites.ofSprites sprites).vertexBytes
  indexBytes : h.device.buffers.get? b.indices = some (PackedSprites.ofSprites sprites).indexBytes
  vertices : b.vertices = making.buffer.vertices
  indices : b.indices = making.buffer.indices
  usage : b.usage = making.usage
  static : b.usage = .static → sprites = making.sprites

namespace Holds

variable {ms : List Moment} {h h' : Host Headless} {name : String} {b : SpriteBuffer} {m : Moment}
  {sprites : List Sprite} {making : Making}

theorem silent (holds : Holds ms h name b sprites making) (silent : m.packing? name = none)
    (vertices : h'.device.buffers.get? b.vertices = h.device.buffers.get? b.vertices)
    (indices : h'.device.buffers.get? b.indices = h.device.buffers.get? b.indices) :
    Holds (ms ++ [m]) h' name b sprites making where
  packed := (latest?_append_of_silent silent _ ms).trans holds.packed
  made := (latest?_append_of_silent silent _ ms).trans holds.made
  ranges := holds.ranges
  vertexBytes := vertices.trans holds.vertexBytes
  indexBytes := indices.trans holds.indexBytes
  vertices := holds.vertices
  indices := holds.indices
  usage := holds.usage
  static := holds.static

theorem first {usage : BufferUsage} (told : m.packing? name = some (.first ⟨b, usage, sprites⟩))
    (ran : (SpriteBuffer.create sprites usage : Action Headless SpriteBuffer).run h = (.ok b, h')) :
    Holds (ms ++ [m]) h' name b sprites ⟨b, usage, sprites⟩ := by
  obtain ⟨ranges, used, vertexBytes, indexBytes⟩ := SpriteBuffer.create_stores ran
  exact ⟨latest?_append_of_told told _ ms, latest?_append_of_told told _ ms, ranges, vertexBytes,
    indexBytes, rfl, rfl, used, fun _ => rfl⟩

/-- Whatever was packed before, the other sprites take its place. -/
theorem again (holds : Holds ms h name b sprites making) {more : List Sprite}
    (told : m.packing? name = some (.again more)) (apart : b.vertices ≠ b.indices)
    (dynamic : b.usage ≠ .static) :
    Holds (ms ++ [m])
      (h.performAll (SpriteBuffer.uploadCommands b.vertices b.indices b.usage (.ofSprites more)))
      name { b with ranges := (PackedSprites.ofSprites more).ranges } more making where
  packed := latest?_append_of_told told _ ms
  made := (latest?_append_of_told told _ ms).trans holds.made
  ranges := rfl
  vertexBytes := by
    rw [SpriteBuffer.buffers_upload, Table.get?_insert_of_ne _ _ apart, Table.get?_insert_self]
  indexBytes := by
    rw [SpriteBuffer.buffers_upload, Table.get?_insert_self]
  vertices := holds.vertices
  indices := holds.indices
  usage := holds.usage
  static := fun still => absurd still dynamic

end Holds

theorem Moment.packing?_of_error (name : String) (s : Scene Headless String) (d : Directive)
    (e : StepError) : Moment.packing? name ⟨s, d, .error e⟩ = none := by
  unfold packing?
  split <;> first | rfl | contradiction

theorem Moment.packing?_of_not_step {m : Moment} (noStep : ∀ step, m.directive ≠ .step step)
    (name : String) : m.packing? name = none := by
  obtain ⟨s, d, r⟩ := m
  cases d with
  | step step => exact absurd rfl (noStep step)
  | _ => rfl

/-- A sprite buffer was made, and holds what was packed last. -/
def Packed (ms : List Moment) (h : Host Headless) (name : String) (b : SpriteBuffer) : Prop :=
  ∃ sprites making, Holds ms h name b sprites making

theorem Packed.silent {ms : List Moment} {h h' : Host Headless} {name : String} {b : SpriteBuffer}
    {m : Moment} (packed : Packed ms h name b) (silent : m.packing? name = none)
    (same : ∀ x, ⟨.buffer, x⟩ ∈ b.objects →
      h'.device.buffers.get? x = h.device.buffers.get? x) : Packed (ms ++ [m]) h' name b := by
  obtain ⟨sprites, making, holds⟩ := packed
  refine ⟨sprites, making, holds.silent silent (same _ ?_) (same _ ?_)⟩ <;>
    simp [SpriteBuffer.objects]

theorem packed_transition {ms : List Moment} {s : Scene Headless String} (stocked : s.Stocked)
    (h : s.spriteBuffers.All (Packed ms s.host)) {step : Step}
    {out : Except StepError Answer × Scene Headless String} (t : Script.Transition s step out) :
    out.2.spriteBuffers.All (Packed (ms ++ [⟨s, .step step, out.1⟩]) out.2.host) := by
  -- A buffer that the step is not about stays as it is.
  have kept {name b} (found : s.spriteBuffers.get? name = some b)
      (other : step.stores? ≠ some (.spriteBuffer, name))
      (silent : Moment.packing? name ⟨s, .step step, out.1⟩ = none) :
      Packed (ms ++ [⟨s, .step step, out.1⟩]) out.2.host name b :=
    (h name b found).silent silent fun x own => stocked.get?_of_transition t rfl
      (Scene.objects?_of_spriteBuffer found) other own
  have still (other : ∀ name, step.stores? ≠ some (.spriteBuffer, name))
      (silent : ∀ name, Moment.packing? name ⟨s, .step step, out.1⟩ = none) :
      s.spriteBuffers.All (Packed (ms ++ [⟨s, .step step, out.1⟩]) out.2.host) :=
    fun name _ found => kept found (other name) (silent name)
  have nowhere : ∀ e,
      s.spriteBuffers.All (Packed (ms ++ [⟨s, .step step, .error e⟩]) s.host) :=
    fun e => h.mono fun name _ _ packed =>
      packed.silent (Moment.packing?_of_error name s _ e) fun _ _ => rfl
  cases t with
  | refused e => exact nowhere e
  | asked query r =>
      refine h.mono fun name _ _ packed => packed.silent ?_ fun _ _ => rfl
      cases step <;> first | rfl | cases query
  | addSpriteRefused e =>
      exact still (fun _ h => by cases h) fun name => Moment.packing?_of_error name s _ e
  | @newBuffer list usage as sprites r host collected ran =>
      have elsewhere {name} :
          (Step.newBuffer list usage as).stores? ≠ some (.spriteBuffer, name) := by
        simp [Step.stores?]
      cases r with
      | error e =>
          exact fun name _ found => kept found elsewhere (Moment.packing?_of_error name s _ _)
      | ok b =>
          refine .of_insert (fun name c other found => kept found elsewhere (if_neg (Ne.symm other)))
            ⟨sprites, _, .first ?_ ran⟩
          simp [Moment.packing?, collected]
  | @repack list buffer b sprites r host found collected ran =>
      rw [SpriteBuffer.run_repack] at ran
      split at ran
      case isTrue =>
        cases ran
        exact nowhere _
      case isFalse dynamic =>
        cases ran
        obtain ⟨before, making, holds⟩ := h buffer b found
        have apart := stocked.standing.nodup
          (Scene.le_held rfl (Scene.objects?_of_spriteBuffer found))
        refine .of_insert (fun name c other found => kept found ?_ (if_neg (Ne.symm other)))
          ⟨sprites, making, holds.again ?_ ?_ dynamic⟩
        · simpa [Step.stores?] using other.symm
        · simp [Moment.packing?, collected]
        · simpa [SpriteBuffer.objects] using apart
  | @freeBuffer buffer b found =>
      refine .of_erase fun name c other found => kept found ?_ rfl
      simpa [Step.stores?] using other.symm
  | _ => exact still (fun _ h => by cases h) fun _ => rfl

/-! ## Lists of sprites -/

/-- A name is given another list of sprites, or its list is cleared. -/
def Moment.renews (list : String) (m : Moment) : Bool :=
  match m.directive, m.answer with
  | .step (.newSprites as), .ok _ | .step (.copySprites _ as), .ok _ => as = list
  | .step (.clearSprites sprites), .ok _ => sprites = list
  | _, _ => false

section

variable {s : Scene Headless String} {list : String} {sprites : List Sprite}

theorem prefix_of_transition {step : Step} {out : Except StepError Answer × Scene Headless String}
    (t : Script.Transition s step out)
    (kept : Moment.renews list ⟨s, .step step, out.1⟩ = false)
    (found : s.spriteLists.get? list = some sprites) :
    ∃ now, out.2.spriteLists.get? list = some now ∧ sprites <+: now := by
  cases t with
  | newSprites as | copySprites | clearSprites =>
      refine ⟨sprites, ?_, List.prefix_rfl⟩
      rw [Table.get?_insert_of_ne, found]
      simpa [Moment.renews, eq_comm] using kept
  | @addSprite name source sprite before read collected =>
      by_cases own : list = name
      · subst own
        rw [found, Option.some.injEq] at collected
        subst collected
        exact ⟨_, Table.get?_insert_self _ _ _, List.prefix_append _ _⟩
      · exact ⟨sprites, by rw [Table.get?_insert_of_ne _ _ own, found], List.prefix_rfl⟩
  | _ => exact ⟨sprites, found, List.prefix_rfl⟩

/-- What is collected later comes behind. -/
theorem prefix_after (ds : List Directive) (found : s.spriteLists.get? list = some sprites)
    (kept : ∀ m ∈ history s ds, m.renews list = false) :
    ∃ now, (after s ds).spriteLists.get? list = some now ∧ sprites <+: now := by
  refine keeps_after (P := fun s => ∃ now, s.spriteLists.get? list = some now ∧ sprites <+: now)
    (fun s a out t unrenewed before => ?_) (fun _ _ before => before) ds kept
    ⟨sprites, found, List.prefix_rfl⟩
  obtain ⟨now, found, grown⟩ := before
  obtain ⟨next, found', grown'⟩ := prefix_of_transition t unrenewed found
  exact ⟨next, found', grown.trans grown'⟩

/-- A sprite is answered by the position behind all sprites before it. -/
theorem collected_of_transition {source : SpriteSource} {answer : Answer}
    {out : Except StepError Answer × Scene Headless String}
    (t : Script.Transition s (.addSprite list source) out) (answered : out.1 = .ok answer) :
    ∃ sprites sprite, answer = .number sprites.length ∧ source.sprite = .ok sprite ∧
      out.2.spriteLists.get? list = some (sprites ++ [sprite]) := by
  cases t with
  | refused | addSpriteRefused => cases answered
  | asked query => cases query
  | @addSprite name source sprite before read collected =>
      cases answered
      exact ⟨before, sprite, rfl, read, Table.get?_insert_self _ _ _⟩

end

/-! ## Sessions -/

variable {config : RendererConfig} {window : Size} {s₀ : Scene Headless String}

theorem packed_after (created : Scene.create ({} : Headless) config window = .ok s₀)
    (ds : List Directive) (library : ∀ d ∈ ds, d.isDirect = false) :
    (after s₀ ds).Stocked ∧
      (after s₀ ds).spriteBuffers.All (Packed (history s₀ ds) (after s₀ ds).host) := by
  have start : s₀.spriteBuffers.All (Packed [] s₀.host) := by
    obtain ⟨templates, rfl⟩ := Scene.eq_of_create created
    exact .empty
  exact stocked_induction created (I := fun ms s => s.spriteBuffers.All (Packed ms s.host)) start
    (fun ms s step out stocked t before => packed_transition stocked before t)
    (fun ms s m compile link creations noStep before => before.mono fun name _ _ packed =>
      packed.silent (Moment.packing?_of_not_step noStep name) fun _ _ => rfl) ds library

/-- After every session the device holds what was packed into a sprite buffer last, and the range
table of the buffer is the one of this packing. A static buffer holds what it was made with. A
sprite stays at the position that was answered when it was collected, until its list is renewed. -/
theorem sprites_match_ranges (created : Scene.create ({} : Headless) config window = .ok s₀)
    (ds : List Directive) (library : ∀ d ∈ ds, d.isDirect = false) :
    let s := after s₀ ds
    (∀ name b, s.spriteBuffers.get? name = some b →
      ∃ sprites making, lastPacked? name (history s₀ ds) = some sprites ∧
        making? name (history s₀ ds) = some making ∧
        s.host.device.bufferContents b.vertices =
          some ((PackedSprites.ofSprites sprites).vertices.flatMap fun v =>
            Bytes.ofWord v.x.bits ++ Bytes.ofWord v.y.bits ++ [v.r, v.g, v.b, v.layer]) ∧
        s.host.device.bufferContents b.indices =
          some ((PackedSprites.ofSprites sprites).indices.flatMap Bytes.ofWord) ∧
        b.ranges = (PackedSprites.ofSprites sprites).ranges ∧
        b.vertices = making.buffer.vertices ∧ b.indices = making.buffer.indices ∧
        b.usage = making.usage ∧ (b.usage = .static → sprites = making.sprites)) ∧
    ∀ before list source later answer, ds = before ++ .step (.addSprite list source) :: later →
      ((Script.perform (.addSprite list source)).run (after s₀ before)).1 = .ok answer →
      (∀ m ∈ history (after s₀ (before ++ [.step (.addSprite list source)])) later,
        m.renews list = false) →
      ∃ n sprites sprite, answer = .number n ∧ s.spriteLists.get? list = some sprites ∧
        source.sprite = .ok sprite ∧ sprites[n]? = some sprite := by
  intro s
  obtain ⟨stocked, all⟩ := packed_after created ds library
  refine ⟨fun name b found => ?_, fun before list source later answer split answered kept => ?_⟩
  · obtain ⟨sprites, making, holds⟩ := all name b found
    have contents {x} (own : ⟨.buffer, x⟩ ∈ b.objects) :=
      stocked.bufferContents rfl (Scene.objects?_of_spriteBuffer found) own
    refine ⟨sprites, making, holds.packed, holds.made, ?_, ?_, holds.ranges, holds.vertices,
      holds.indices, holds.usage, holds.static⟩
    · rw [contents (by simp [SpriteBuffer.objects]), holds.vertexBytes]
      rfl
    · rw [contents (by simp [SpriteBuffer.objects]), holds.indexBytes]
      rfl
  · subst split
    obtain ⟨sprites, sprite, rfl, read, collected⟩ :=
      collected_of_transition (Script.transition_perform _ (after s₀ before)) answered
    rw [after_append] at kept
    obtain ⟨now, found, more, rfl⟩ := prefix_after later collected kept
    refine ⟨sprites.length, sprites ++ [sprite] ++ more, sprite, rfl, ?_, read, ?_⟩
    · change (after s₀ _).spriteLists.get? list = _
      rw [after_append]
      exact found
    · simp

def dot : Sprite := ⟨[⟨⟨0⟩, ⟨0⟩, ⟨1, 2, 3, 255⟩, 0⟩], [0, 0, 0]⟩

def edge : Sprite := ⟨[⟨⟨0⟩, ⟨0⟩, ⟨4, 5, 6, 255⟩, 0⟩, ⟨⟨0⟩, ⟨0⟩, ⟨7, 8, 9, 255⟩, 1⟩], [0, 1, 0]⟩

/-- A list is copied and cleared, and both are packed into several buffers. One creation fails, a
static buffer is not packed again, and an operation leaves a buffer bound. -/
def interleavedPackings : List Directive :=
  [.step (.newSprites "list"), .step (.addSprite "list" (.mesh dot)),
    .step (.copySprites "list" "copy"), .step (.addSprite "copy" (.mesh edge)),
    .step (.newBuffer "list" .static "still"), .step (.newBuffer "list" .dynamic "moving"),
    .failCreation 1, .step (.newBuffer "copy" .dynamic "broken"),
    .step (.repack "copy" "still"), .step (.repack "copy" "moving"),
    .step (.clearSprites "list"), .step (.addSprite "list" (.mesh edge)),
    .step (.newBuilder "b"), .step (.addAttribute "b" ⟨.float, 2⟩ "place"),
    .step (.addOperation "b" ⟨.uint, 1⟩ "layer"), .step (.setOutput "b" .position "place"),
    .step (.setOutput "b" .layer "layer"), .step (.finish "b" "p"),
    .step (.newOperation "p" "op"), .step (.setSprite "op" "moving" 1),
    .step (.newData .dynamic "data"), .step (.setData "data" [1, 2, 3]),
    .step (.newBuffer "list" .static "freed"), .step (.freeBuffer "freed")]

theorem isSome_interleavedPackings :
    ((after (.start {} ⟨4, 4⟩ .bare .bare) interleavedPackings).spriteBuffers.get?
        "still").isSome ∧
      ((after (.start {} ⟨4, 4⟩ .bare .bare) interleavedPackings).spriteBuffers.get?
        "moving").isSome := by
  decide +kernel

theorem sprites_match_ranges_interleavedPackings :
    ∃ s₀ still moving, Scene.create ({} : Headless) .bare ⟨4, 4⟩ = .ok s₀ ∧
      (after s₀ interleavedPackings).spriteBuffers.get? "still" = some still ∧
      (after s₀ interleavedPackings).spriteBuffers.get? "moving" = some moving ∧
      (after s₀ interleavedPackings).host.device.bufferContents still.vertices =
        some [0, 0, 0, 0, 0, 0, 0, 0, 1, 2, 3, 0] ∧
      (after s₀ interleavedPackings).host.device.bufferContents moving.indices =
        some [0, 0, 0, 0, 0, 0, 0, 0, 0, 0, 0, 0, 1, 0, 0, 0, 2, 0, 0, 0, 1, 0, 0, 0] ∧
      moving.ranges = [0, 3, 6] ∧
      ∃ sprites, (after s₀ interleavedPackings).spriteLists.get? "copy" = some sprites ∧
        sprites[1]? = some edge := by
  have created : Scene.create ({} : Headless) .bare ⟨4, 4⟩ = .ok (.start {} ⟨4, 4⟩ .bare .bare) :=
    Scene.create_of_parse ShaderTemplates.parse_bare _ _
  have still := (Option.some_get isSome_interleavedPackings.1).symm
  have moving := (Option.some_get isSome_interleavedPackings.2).symm
  obtain ⟨buffers, positions⟩ := sprites_match_ranges created interleavedPackings (by decide)
  obtain ⟨sprites, -, packed, -, vertices, -⟩ := buffers _ _ still
  obtain ⟨sprites', -, packed', -, -, indices, ranges, -⟩ := buffers _ _ moving
  have one : lastPacked? "still" (history (.start {} ⟨4, 4⟩ .bare .bare) interleavedPackings) =
      some [dot] := by
    decide +kernel
  have both : lastPacked? "moving" (history (.start {} ⟨4, 4⟩ .bare .bare) interleavedPackings) =
      some [dot, edge] := by
    decide +kernel
  obtain rfl := Option.some.inj (one.symm.trans packed)
  obtain rfl := Option.some.inj (both.symm.trans packed')
  have answered : ((Script.perform (.addSprite "copy" (.mesh edge))).run
      (after (.start {} ⟨4, 4⟩ .bare .bare) (interleavedPackings.take 3))).1 = .ok (.number 1) := by
    decide +kernel
  obtain ⟨n, collected, sprite, same, found, read, place⟩ :=
    positions (interleavedPackings.take 3) "copy" (.mesh edge) (interleavedPackings.drop 4) _ rfl
      answered (by decide +kernel)
  cases same
  cases read
  exact ⟨_, _, _, created, still, moving, vertices, indices, ranges, collected, found, place⟩

end Headless

end SpriteRenderer
