import SpriteRenderer.Operation
import SpriteRenderer.Proofs.Action.Results

/-! # Calls of operations

A call of an operation fails and leaves everything as it is, or performs its commands and
changes one part of the operation. -/

namespace SpriteRenderer.Operation

variable {δ ℓ : Type}

theorem eq_of_setValue {op op' : Operation ℓ} {c : Channel} {value : ChannelValue}
    (h : op.setValue c value = .ok op') :
    op' = { op with values := op.values.insert c.id value } := by
  unfold setValue at h
  obtain ⟨-, h⟩ := Result.check_eq_ok h
  split at h
  case h_2 => cases h
  case h_1 expected found =>
      obtain ⟨_, -, h⟩ := Result.bind_eq_ok h
      obtain ⟨-, h⟩ := Result.check_eq_ok h
      cases h
      rfl

/-- A value that is accepted is one for an operation channel of the procedure, of its type. -/
theorem exists_uniform_of_setValue {op op' : Operation ℓ} {c : Channel} {value : ChannelValue}
    (h : op.setValue c value = .ok op') :
    ∃ u ∈ op.procedure.uniforms, u.channel = c.id ∧ u.type = value.shaderType := by
  unfold setValue at h
  obtain ⟨-, h⟩ := Result.check_eq_ok h
  split at h
  case h_2 => cases h
  case h_1 expected found =>
      obtain ⟨_, ⟨⟩, h⟩ := Result.bind_eq_ok h
      obtain ⟨typed, -⟩ := Result.check_eq_ok h
      unfold Procedure.uniformType? at found
      split at found
      · obtain ⟨u, hu, rfl⟩ := Option.map_eq_some_iff.mp found
        refine ⟨u, List.mem_of_find?_eq_some hu, by simpa using List.find?_some hu, ?_⟩
        exact (Decidable.not_not.mp typed).symm
      · cases found

theorem within?_eq_some_iff {limit n m : Nat} : within? limit n = some m ↔ n ≤ limit ∧ m = n := by
  simp [within?, eq_comm]

/-- A sum that fits a signed word fits a word at every step. -/
theorem pointerOffset?_eq_some_iff {offset stride start byteOffset : Nat} :
    pointerOffset? offset stride start = some byteOffset ↔
      stride ≤ maxPointer ∧ byteOffset ≤ maxPointer ∧ byteOffset = offset * stride + start := by
  simp only [pointerOffset?, Option.bind_eq_bind, Option.bind_eq_some_iff, within?_eq_some_iff,
    maxWord, maxPointer]
  constructor
  · rintro ⟨_, ⟨-, rfl⟩, _, ⟨-, rfl⟩, _, ⟨stride_le, rfl⟩, byteOffset_le, rfl⟩
    exact ⟨stride_le, byteOffset_le, rfl⟩
  · rintro ⟨stride_le, byteOffset_le, rfl⟩
    exact ⟨_, ⟨by omega, rfl⟩, _, ⟨by omega, rfl⟩, _, ⟨stride_le, rfl⟩, byteOffset_le, rfl⟩

/-- What is known of a source. -/
structure AttributeSource.Sound (s : AttributeSource) (p : Procedure ℓ) (c : Channel)
    (data : DataBuffer) (offset slot : Nat) : Prop where
  owned : p.owns c = true
  target : p.attribute? c = some s.slot
  input : data.layout[slot]? = some s.input
  stride : s.stride = data.stride
  binding : s.binding =
    ⟨data.handle, offset, slot, offset * data.stride + data.fieldStart slot⟩
  stride_le : s.stride ≤ maxPointer
  byteOffset_le : s.binding.byteOffset ≤ maxPointer

theorem sound_of_attributeSource {op : Operation ℓ} {c : Channel} {data : DataBuffer}
    {offset slot : Nat} {s : AttributeSource}
    (h : op.attributeSource c data offset slot = .ok s) :
    s.Sound op.procedure c data offset slot := by
  unfold attributeSource at h
  obtain ⟨owned, h⟩ := Result.check_eq_ok h
  split at h
  case h_2 => cases h
  case h_1 target found =>
      obtain ⟨_, ⟨⟩, h⟩ := Result.bind_eq_ok h
      obtain ⟨⟨input, start⟩, field, h⟩ := Result.bind_eq_ok h
      obtain ⟨-, h⟩ := Result.check_eq_ok h
      dsimp only at h
      split at h
      case h_2 => cases h
      case h_1 byteOffset reach =>
          obtain ⟨stride_le, byteOffset_le, rfl⟩ := pointerOffset?_eq_some_iff.mp reach
          cases h
          unfold DataBuffer.field at field
          split at field
          case h_2 => split at field <;> cases field
          case h_1 type hfield =>
              cases field
              exact ⟨by simpa using owned, found, hfield, rfl, rfl, stride_le, byteOffset_le⟩

/-- The numbers of a pointer are those of a source. -/
structure AttributeSource.Exact (s : AttributeSource) (p : AttributePointer) : Prop where
  index : p.index = s.slot.location
  size : p.size.toInt = s.input.arity.toNat
  type : p.type = s.input.kind.deviceType
  stride : p.stride.toInt = s.stride
  offset : p.offset.toInt = s.binding.byteOffset

/-- No number of a source is beyond the numbers of pointers. -/
theorem AttributeSource.Sound.exact {s : AttributeSource} {p : Procedure ℓ} {c : Channel}
    {data : DataBuffer} {offset slot : Nat} (h : s.Sound p c data offset slot) :
    s.Exact s.pointer := by
  have stride := h.stride_le
  have byteOffset := h.byteOffset_le
  have arity : s.input.arity.toNat ≤ 4 := by cases s.input.arity <;> decide
  unfold maxPointer at stride byteOffset
  refine ⟨rfl, ?_, rfl, ?_, ?_⟩
  · exact Int32.toInt_ofNat_of_lt (by omega)
  · exact Int32.toInt_ofNat_of_lt (by omega)
  · exact Int32.toInt_ofNat_of_lt (by omega)

/-! ### Channels that are not taken -/

section

variable {op : Operation ℓ} {c : Channel}

theorem attributeSource_of_foreign (foreign : op.procedure.owns c = false) (data : DataBuffer)
    (offset slot : Nat) : op.attributeSource c data offset slot = .error .foreignChannel := by
  simp only [attributeSource, foreign]
  rfl

theorem setValue_of_foreign (foreign : op.procedure.owns c = false) (value : ChannelValue) :
    op.setValue c value = .error .foreignChannel := by
  simp only [setValue, foreign]
  rfl

/-- Of an own channel it is asked first whether it is an attribute of the procedure. -/
theorem attributeSource_eq_unknown_iff (owned : op.procedure.owns c = true) (data : DataBuffer)
    (offset slot : Nat) :
    op.attributeSource c data offset slot = .error (.unknownChannel c.id) ↔
      op.procedure.attribute? c = none := by
  simp only [attributeSource, owned, Bool.not_true, Bool.false_eq_true, if_false]
  cases op.procedure.attribute? c with
  | none => exact iff_of_true rfl rfl
  | some target =>
      refine iff_of_false (fun failed => ?_) (Option.some_ne_none target)
      cases field : data.field slot with
      | error e =>
          rw [field] at failed
          cases failed
          unfold DataBuffer.field at field
          split at field
          · cases field
          · split at field <;> cases field
      | ok a =>
          rw [field] at failed
          change (if _ then _ else _) = _ at failed
          split at failed
          · cases failed
          · split at failed <;> cases failed

/-- Of an own channel it is asked first whether it is a uniform of the procedure. -/
theorem setValue_eq_unknown_iff (owned : op.procedure.owns c = true) (value : ChannelValue) :
    op.setValue c value = .error (.unknownChannel c.id) ↔ op.procedure.uniformType? c = none := by
  simp only [setValue, owned, Bool.not_true, Bool.false_eq_true, if_false]
  cases op.procedure.uniformType? c with
  | none => exact iff_of_true rfl rfl
  | some expected =>
      refine iff_of_false (fun failed => ?_) (Option.some_ne_none expected)
      change (if _ then _ else _) = _ at failed
      split at failed <;> cases failed

end

variable [Device δ ℓ]

theorem run_setAttribute (op : Operation ℓ) (c : Channel) (data : DataBuffer)
    (offset slot : Nat) (h : Host δ) :
    (op.setAttribute c data offset slot : Action δ (Operation ℓ)).run h =
      match op.attributeSource c data offset slot with
      | .error e => (.error e, h)
      | .ok s => (.ok { op with bindings := op.bindings.insert c.id s.binding },
          h.performAll (s.commands op.vertexArray)) := by
  unfold setAttribute
  cases op.attributeSource c data offset slot <;> rfl

theorem run_setSprite (op : Operation ℓ) (sprites : SpriteBuffer) (id : Nat) (h : Host δ) :
    (op.setSprite sprites id : Action δ (Operation ℓ)).run h =
      match sprites.indexRange? id with
      | none => (.error (.unknownSprite id sprites.spriteCount), h)
      | some range => (.ok { op with sprite := some range },
          h.performAll (spriteCommands op.vertexArray sprites)) := by
  unfold setSprite
  cases sprites.indexRange? id <;> rfl

/-- A draw without a sprite or an instance writes one warning. Any other one performs the commands
of a draw. -/
theorem run_drawTo (op : Operation ℓ) (target : RenderTarget) (h : Host δ) :
    ((op.sprite = none ∨ op.amount = 0) ∧
      ∃ record, (op.drawTo target : Action δ Unit).run h =
        (.ok (), { h with journal := h.journal ++ [record] })) ∨
    ∃ first count, op.sprite = some (first, count) ∧ op.amount ≠ 0 ∧
      (op.drawTo target : Action δ Unit).run h =
        (.ok (), h.performAll (op.drawCommands target (target.size h.window) first count)) := by
  unfold drawTo
  split
  case h_1 none => exact .inl ⟨.inl none, _, rfl⟩
  case h_2 first count selected =>
      split
      case isTrue zero => exact .inl ⟨.inr zero, _, rfl⟩
      case isFalse nonzero => exact .inr ⟨first, count, selected, nonzero, rfl⟩

/-- What a call makes of an operation keeps its vertex array and its procedure. -/
structure Continues (op op' : Operation ℓ) : Prop where
  vertexArray : op'.vertexArray = op.vertexArray
  procedure : op'.procedure = op.procedure

theorem setAttribute_yields_bindings (op : Operation ℓ) (c : Channel) (data : DataBuffer)
    (offset slot : Nat) :
    (op.setAttribute c data offset slot : Action δ (Operation ℓ)).Yields fun op' =>
      ∃ bindings, op' = { op with bindings } :=
  .bind (.any _) fun _ _ => .bind (.any _) fun _ _ => .pure ⟨_, rfl⟩

theorem setAttribute_yields (op : Operation ℓ) (c : Channel) (data : DataBuffer)
    (offset slot : Nat) :
    (op.setAttribute c data offset slot : Action δ (Operation ℓ)).Yields op.Continues := by
  refine (setAttribute_yields_bindings op c data offset slot).mono ?_
  rintro _ ⟨bindings, rfl⟩
  exact ⟨rfl, rfl⟩

theorem setSprite_yields_range (op : Operation ℓ) (sprites : SpriteBuffer) (id : Nat) :
    (op.setSprite sprites id : Action δ (Operation ℓ)).Yields fun op' =>
      ∃ range, sprites.indexRange? id = some range ∧ op' = { op with sprite := some range } := by
  unfold setSprite
  split
  · exact .fail _
  · next range known => exact .bind (.any _) fun _ _ => .pure ⟨range, known, rfl⟩

theorem setSprite_yields (op : Operation ℓ) (sprites : SpriteBuffer) (id : Nat) :
    (op.setSprite sprites id : Action δ (Operation ℓ)).Yields op.Continues := by
  refine (setSprite_yields_range op sprites id).mono ?_
  rintro _ ⟨range, -, rfl⟩
  exact ⟨rfl, rfl⟩

theorem create_yields_new (p : Procedure ℓ) :
    (create p : Action δ (Operation ℓ)).Yields fun op =>
      ∃ vertexArray, op = { vertexArray, procedure := p } :=
  .bind (.any _) fun vertexArray _ => .pure ⟨vertexArray, rfl⟩

theorem create_yields (p : Procedure ℓ) :
    (create p : Action δ (Operation ℓ)).Yields fun op => op.procedure = p := by
  refine (create_yields_new p).mono ?_
  rintro _ ⟨vertexArray, rfl⟩
  rfl

end SpriteRenderer.Operation
