import SpriteRenderer.Proofs.Operation.Calls
import SpriteRenderer.Proofs.Procedure.Numbering
import SpriteRenderer.Proofs.Session.History
import SpriteRenderer.Proofs.VertexArray.Replay

/-! # What operations are given

A history tells which sprite buffer an operation drew from last, and what its channels were
last fed with. The vertex array of the operation is wired if it holds just that. -/

namespace SpriteRenderer

/-- What a channel is fed with. -/
structure Feed where
  channel : Channel
  /-- The data buffer as it is at that moment. -/
  data : DataBuffer
  /-- The element that the first instance reads. -/
  offset : Nat
  slot : Nat

namespace Headless

namespace Moment

/-- The sprite buffer that the operation of a name is given. A new operation is given none. -/
def sprites? (name : String) (m : Moment) : Option (Option SpriteBuffer) :=
  match m.directive, m.answer with
  | .step (.newOperation _ as), .ok _ => if as = name then some none else none
  | .step (.setSprite operation buffer _), .ok _ =>
    if operation = name then some (m.scene.spriteBuffers.get? buffer) else none
  | _, _ => none

/-- What the channel of an operation is fed with. No channel of a new operation is. -/
def feed? (name : String) (id : Nat) (m : Moment) : Option (Option Feed) :=
  match m.directive, m.answer with
  | .step (.newOperation _ as), .ok _ => if as = name then some none else none
  | .step (.setAttribute operation channel data offset slot), .ok _ =>
    match m.scene.channels.get? channel, m.scene.dataBuffers.get? data with
    | some c, some b =>
      if operation = name ∧ c.id = id then some (some ⟨c, b, offset, slot⟩) else none
    | _, _ => none
  | _, _ => none

/-- The operation of a name is given nothing. -/
structure Silent (name : String) (m : Moment) : Prop where
  sprites : m.sprites? name = none
  feed : ∀ id, m.feed? name id = none

end Moment

/-- The sprite buffer of the last sprite that the operation of a name has selected. -/
def lastSprites? (name : String) (ms : List Moment) : Option SpriteBuffer :=
  (latest? (Moment.sprites? name) ms).join

/-- What a channel of the operation of a name was last fed with. -/
def lastFeed? (name : String) (id : Nat) (ms : List Moment) : Option Feed :=
  (latest? (Moment.feed? name id) ms).join

section

variable {name : String} {m : Moment} {ms : List Moment} {s : Scene Headless String}

theorem lastSprites?_append {b : Option SpriteBuffer} (given : m.sprites? name = some b) :
    lastSprites? name (ms ++ [m]) = b :=
  congrArg Option.join (latest?_append_of_some given ms)

theorem lastSprites?_append_of_none (silent : m.sprites? name = none) :
    lastSprites? name (ms ++ [m]) = lastSprites? name ms :=
  congrArg Option.join (latest?_append_of_none silent ms)

theorem lastFeed?_append {id : Nat} {f : Option Feed} (given : m.feed? name id = some f) :
    lastFeed? name id (ms ++ [m]) = f :=
  congrArg Option.join (latest?_append_of_some given ms)

theorem lastFeed?_append_of_none {id : Nat} (silent : m.feed? name id = none) :
    lastFeed? name id (ms ++ [m]) = lastFeed? name id ms :=
  congrArg Option.join (latest?_append_of_none silent ms)

theorem Moment.silent_of_error {step : Step} {e : StepError} :
    Moment.Silent name ⟨s, .step step, .error e⟩ := by
  cases step <;> exact ⟨rfl, fun _ => rfl⟩

theorem Moment.silent_of_isQuery {step : Step} (query : step.isQuery)
    {r : Except StepError Answer} : Moment.Silent name ⟨s, .step step, r⟩ := by
  cases step <;> first | exact ⟨rfl, fun _ => rfl⟩ | cases query

theorem Moment.silent_of_not_step (noStep : ∀ step, m.directive ≠ .step step) :
    m.Silent name := by
  obtain ⟨scene, directive, answer⟩ := m
  cases directive with
  | step step => exact absurd rfl (noStep step)
  | _ => exact ⟨rfl, fun _ => rfl⟩

section

variable {operation procedure channel data buffer as : String} {offset slot id : Nat}
  {answer : Answer}

theorem lastSprites?_newOperation :
    lastSprites? as (ms ++ [⟨s, .step (.newOperation procedure as), .ok answer⟩]) = none :=
  lastSprites?_append (if_pos rfl)

theorem lastFeed?_newOperation :
    lastFeed? as id (ms ++ [⟨s, .step (.newOperation procedure as), .ok answer⟩]) = none :=
  lastFeed?_append (if_pos rfl)

theorem lastSprites?_setSprite {b : SpriteBuffer}
    (packed : s.spriteBuffers.get? buffer = some b) :
    lastSprites? operation
      (ms ++ [⟨s, .step (.setSprite operation buffer id), .ok answer⟩]) = some b :=
  lastSprites?_append ((if_pos rfl).trans (congrArg some packed))

theorem lastFeed?_setSprite {i : Nat} :
    lastFeed? name id (ms ++ [⟨s, .step (.setSprite operation buffer i), .ok answer⟩]) =
      lastFeed? name id ms :=
  lastFeed?_append_of_none rfl

theorem Moment.feed?_setAttribute {c : Channel} {b : DataBuffer}
    (passed : s.channels.get? channel = some c) (fed : s.dataBuffers.get? data = some b) :
    Moment.feed? name id
      ⟨s, .step (.setAttribute operation channel data offset slot), .ok answer⟩ =
        if operation = name ∧ c.id = id then some (some ⟨c, b, offset, slot⟩) else none := by
  simp [Moment.feed?, passed, fed]

theorem lastFeed?_setAttribute {c : Channel} {b : DataBuffer}
    (passed : s.channels.get? channel = some c) (fed : s.dataBuffers.get? data = some b) :
    (lastFeed? operation · (ms ++
      [⟨s, .step (.setAttribute operation channel data offset slot), .ok answer⟩])) =
        Function.update (lastFeed? operation · ms) c.id (some ⟨c, b, offset, slot⟩) := by
  funext id
  by_cases same : id = c.id
  · rw [same, Function.update_self]
    apply lastFeed?_append
    rw [Moment.feed?_setAttribute passed fed]
    exact if_pos ⟨rfl, rfl⟩
  · rw [Function.update_of_ne same]
    apply lastFeed?_append_of_none
    rw [Moment.feed?_setAttribute passed fed]
    exact if_neg fun told => same told.2.symm

end

end

end Headless

/-! ## What a vertex array holds -/

namespace VertexArrayState

/-- The vertex array draws the packed vertices of a buffer, by two floats and by four bytes
that stay integers. -/
structure ReadsSprites (a : VertexArrayState) (sprites : SpriteBuffer) : Prop where
  indices : a.elementBuffer = some sprites.indices
  positions : a.attributes 0 =
    { enabled := true
      divisor := 0
      fetch := some ⟨sprites.vertices, ⟨0, 2, Gl.float, 12, 0⟩, false, false⟩ }
  colors : a.attributes 1 =
    { enabled := true
      divisor := 0
      fetch := some ⟨sprites.vertices, ⟨1, 4, Gl.unsignedByte, 12, 8⟩, true, false⟩ }

end VertexArrayState

/-- Every instance reads its own element of a buffer: a field of it, from the element on that
the first instance reads. -/
structure AttributeState.ReadsField (a : AttributeState) (slot : AttributeSlot)
    (field : InputType) (stride : Nat) (b : InstanceBinding) : Prop where
  enabled : a.enabled = true
  divisor : a.divisor = 1
  /-- Integer channels read integers. -/
  fetch : ∃ p, a.fetch = some ⟨b.buffer, p, slot.type.isInteger, false⟩ ∧
    p.index = slot.location ∧ p.size.toInt = field.arity.toNat ∧
    p.type = field.kind.deviceType ∧ p.stride.toInt = stride ∧ p.offset.toInt = b.byteOffset

theorem Operation.AttributeSource.Sound.reads {ℓ : Type} {s : AttributeSource} {p : Procedure ℓ}
    {c : Channel} {data : DataBuffer} {offset slot : Nat} (h : s.Sound p c data offset slot) :
    s.state.ReadsField s.slot s.input data.stride s.binding := by
  have same := h.exact
  refine ⟨rfl, rfl, s.pointer, rfl, same.index, same.size, same.type, ?_, same.offset⟩
  rw [← h.stride]
  exact same.stride

/-- The vertex array of an operation holds what the operation was given. -/
structure Operation.Wired {ℓ : Type} (op : Operation ℓ) (sprites : Option SpriteBuffer)
    (feed : Nat → Option Feed) (a : VertexArrayState) : Prop where
  selected : op.sprite.isSome → sprites.isSome
  sprites : ∀ b, sprites = some b → a.ReadsSprites b
  position : (a.attributes positionLocation).divisor = 0
  color : (a.attributes colorLocation).divisor = 0
  /-- What the bindings name is what the attributes read. -/
  fed : op.bindings.All fun id b => ∃ (f : Feed) (s : AttributeSource),
    feed id = some f ∧ f.channel.id = id ∧ s.Sound op.procedure f.channel f.data f.offset f.slot ∧
    s.binding = b ∧ a.attributes s.slot.location = s.state
  /-- Locations without a bound channel are left as they were. -/
  unfed : ∀ i, i ≠ positionLocation → i ≠ colorLocation →
    (∀ c slot, op.procedure.attribute? c = some slot → slot.location = i →
      op.bindings.get? c.id = none) → a.attributes i = {}

namespace Operation.Wired

variable {ℓ : Type} {op : Operation ℓ} {sprites : Option SpriteBuffer}
  {feed : Nat → Option Feed} {a : VertexArrayState}

theorem new (vertexArray : Handle) (p : Procedure ℓ) :
    Wired { vertexArray, procedure := p } none (fun _ => none) {} where
  selected h := h
  sprites b hb := by cases hb
  position := rfl
  color := rfl
  fed := .empty
  unfed _ _ _ _ := rfl

theorem select (h : op.Wired sprites feed a) (placed : op.procedure.Placed)
    (range : UInt32 × UInt32) (b : SpriteBuffer) :
    Wired { op with sprite := some range } (some b) feed (a.select b) := by
  have others : ∀ i, i ≠ positionLocation → i ≠ colorLocation →
      (a.select b).attributes i = a.attributes i := by
    intro i hposition hcolor
    rw [VertexArrayState.select, VertexArrayState.modify_attributes_of_ne _ hcolor,
      VertexArrayState.modify_attributes_of_ne _ hposition]
  have position : (a.select b).attributes positionLocation =
      ⟨true, 0, some (positionFetch b)⟩ := by
    rw [VertexArrayState.select, VertexArrayState.modify_attributes_of_ne _ (by decide),
      VertexArrayState.modify_attributes_self]
    simp only [h.position]
  have color : (a.select b).attributes colorLocation = ⟨true, 0, some (colorFetch b)⟩ := by
    rw [VertexArrayState.select, VertexArrayState.modify_attributes_self,
      VertexArrayState.modify_attributes_of_ne _ (by decide)]
    simp only [h.color]
  refine ⟨fun _ => rfl, fun b' hb => ?_, ?_, ?_, h.fed.mono fun id binding _ hid => ?_,
    fun i hposition hcolor hi => ?_⟩
  · obtain rfl := Option.some.inj hb
    exact ⟨rfl, position, color⟩
  · rw [position]
  · rw [color]
  · obtain ⟨f, s, hf, hc, sound, hs, reads⟩ := hid
    obtain ⟨x, hx, -, slot⟩ := Procedure.exists_of_attribute? sound.target
    have location : s.slot.location = x.location := by rw [slot]
    refine ⟨f, s, hf, hc, sound, hs, ?_⟩
    rw [location, others _ (placed.ne_position x hx) (placed.ne_color x hx), ← location, reads]
  · rw [others i hposition hcolor]
    exact h.unfed i hposition hcolor hi

theorem setAttribute (h : op.Wired sprites feed a) (placed : op.procedure.Placed)
    {f : Feed} {s : AttributeSource}
    (sound : s.Sound op.procedure f.channel f.data f.offset f.slot) :
    Wired { op with bindings := op.bindings.insert f.channel.id s.binding } sprites
      (Function.update feed f.channel.id (some f)) (a.feed s) := by
  obtain ⟨x, hx, hid, slot⟩ := Procedure.exists_of_attribute? sound.target
  have location : s.slot.location = x.location := by rw [slot]
  have self : (a.feed s).attributes s.slot.location = s.state :=
    VertexArrayState.modify_attributes_self _ _ _
  have others : ∀ i, i ≠ x.location → (a.feed s).attributes i = a.attributes i := by
    intro i hi
    rw [← location] at hi
    exact VertexArrayState.modify_attributes_of_ne _ hi _
  have position := others _ (placed.ne_position x hx).symm
  have color := others _ (placed.ne_color x hx).symm
  refine ⟨h.selected, fun b hb => ?_, ?_, ?_, ?_, fun i hposition hcolor hi => ?_⟩
  · have reads := h.sprites b hb
    exact ⟨reads.indices, position.trans reads.positions, color.trans reads.colors⟩
  · rw [position]
    exact h.position
  · rw [color]
    exact h.color
  · intro id binding bound
    rw [Table.get?_insert] at bound
    by_cases same : id = f.channel.id
    · rw [if_pos same, Option.some.injEq] at bound
      subst same
      exact ⟨f, s, Function.update_self _ _ _, rfl, sound, bound, self⟩
    · rw [if_neg same] at bound
      obtain ⟨g, t, hg, hc, sound', ht, reads⟩ := h.fed id binding bound
      obtain ⟨y, hy, hyid, slot'⟩ := Procedure.exists_of_attribute? sound'.target
      have location' : t.slot.location = y.location := by rw [slot']
      have apart : t.slot.location ≠ x.location := by
        intro shared
        rw [location'] at shared
        exact same (by rw [← hc, ← hyid, placed.apart y hy x hx shared, hid])
      refine ⟨g, t, ?_, hc, sound', ht, (others _ apart).trans reads⟩
      rw [Function.update_of_ne same]
      exact hg
  · by_cases fed : s.slot.location = i
    · have unbound := hi f.channel s.slot sound.target fed
      rw [Table.get?_insert_self] at unbound
      cases unbound
    · rw [location] at fed
      rw [others i (Ne.symm fed)]
      refine h.unfed i hposition hcolor fun c slot' hc hslot => ?_
      have unbound := hi c slot' hc hslot
      rw [Table.get?_insert] at unbound
      by_cases same : c.id = f.channel.id
      · rw [if_pos same] at unbound
        cases unbound
      · rwa [if_neg same] at unbound

end Operation.Wired

end SpriteRenderer
