import Mathlib.Algebra.Ring.Nat
import SpriteRenderer.Proofs.Buffer.Layout
import SpriteRenderer.Proofs.Device.Recording
import SpriteRenderer.Proofs.Operation.Calls
import SpriteRenderer.Proofs.Procedure.Numbering

/-! # Attributes and the fields they read

An attribute takes a field if exact arithmetic says that its pointer can reach it. It then reads
this field of one element after the other. -/

namespace SpriteRenderer

/-! ## Pointers -/

/-- Bytes of one component of a device type. -/
def Gl.componentBytes (type : UInt32) : Nat :=
  if type = Gl.byte ∨ type = Gl.unsignedByte then 1
  else if type = Gl.short ∨ type = Gl.unsignedShort then 2
  else if type = Gl.double then 8
  else 4

theorem InputKind.componentBytes_deviceType (k : InputKind) :
    Gl.componentBytes k.deviceType = k.size := by cases k <;> decide

/-- The bytes that instance `i` reads through a pointer that advances with every instance. -/
def AttributePointer.extent (p : AttributePointer) (i : Nat) : Extent where
  first := (p.offset.toInt + i * p.stride.toInt).toNat
  length := Gl.componentBytes p.type * p.size.toInt.toNat

/-- What a command points an attribute at, and whether integers stay integers. -/
def Command.pointer? {ℓ : Type} : Command ℓ → Option (AttributePointer × Bool)
  | vertexAttribPointerInt p => some (p, true)
  | vertexAttribPointerFloat p _ => some (p, false)
  | _ => none

namespace DataBuffer

theorem field_of_inside {b : DataBuffer} {slot : Nat} (inside : slot < b.layout.length) :
    b.field slot = .ok (b.layout[slot], b.fieldStart slot) := by
  rw [field, List.getElem?_eq_getElem inside]

theorem field_of_empty {b : DataBuffer} (empty : b.layout = []) (slot : Nat) :
    b.field slot = .error .missingLayout := by
  simp [field, empty]

theorem field_of_outside {b : DataBuffer} {slot : Nat} (nonempty : b.layout ≠ [])
    (outside : b.layout.length ≤ slot) :
    b.field slot = .error (.layoutSlotOutOfRange slot b.layout.length) := by
  simp [field, List.getElem?_eq_none outside, nonempty]

end DataBuffer

namespace Operation

variable {ℓ : Type} {op : Operation ℓ} {c : Channel} {target : AttributeSlot} {data : DataBuffer}
  {offset slot : Nat}

/-! ## What is taken and what is refused -/

/-- A pointer to the field stands for exact numbers. -/
structure Reaches (data : DataBuffer) (offset slot : Nat) : Prop where
  stride : data.stride ≤ 2 ^ 31 - 1
  start : offset * data.stride + data.fieldStart slot ≤ 2 ^ 31 - 1

/-- An integer attribute takes no floats. -/
def Mismatch (target : AttributeSlot) (input : InputType) : Prop :=
  target.type.isInteger ∧ input.kind.isFloat

instance (target : AttributeSlot) (input : InputType) : Decidable (Mismatch target input) :=
  inferInstanceAs (Decidable (_ ∧ _))

structure Readable (target : AttributeSlot) (data : DataBuffer) (offset slot : Nat) : Prop where
  inside : slot < data.layout.length
  suits : ¬ Mismatch target data.layout[slot]
  reaches : Reaches data offset slot

/-- Why a field is refused. What is asked first is said first. -/
inductive Unreadable (target : AttributeSlot) (data : DataBuffer) (offset slot : Nat) :
    RenderError → Prop where
  | empty (empty : data.layout = []) : Unreadable target data offset slot .missingLayout
  | outside (nonempty : data.layout ≠ []) (outside : data.layout.length ≤ slot) :
      Unreadable target data offset slot (.layoutSlotOutOfRange slot data.layout.length)
  | mismatch (inside : slot < data.layout.length) (mismatch : Mismatch target data.layout[slot]) :
      Unreadable target data offset slot (.incompatibleInput data.layout[slot] target.type)
  | tooFar (inside : slot < data.layout.length) (suits : ¬ Mismatch target data.layout[slot])
      (tooFar : ¬ Reaches data offset slot) :
      Unreadable target data offset slot (.offsetOverflow offset data.stride)

theorem readable_or_unreadable (target : AttributeSlot) (data : DataBuffer) (offset slot : Nat) :
    Readable target data offset slot ∨ ∃ e, Unreadable target data offset slot e := by
  by_cases empty : data.layout = []
  · exact .inr ⟨_, .empty empty⟩
  by_cases inside : slot < data.layout.length
  case neg => exact .inr ⟨_, .outside empty (by omega)⟩
  by_cases mismatch : Mismatch target data.layout[slot]
  · exact .inr ⟨_, .mismatch inside mismatch⟩
  by_cases reaches : Reaches data offset slot
  · exact .inl ⟨inside, mismatch, reaches⟩
  · exact .inr ⟨_, .tooFar inside mismatch reaches⟩

theorem pointerOffset?_of_reaches (h : Reaches data offset slot) :
    pointerOffset? offset data.stride (data.fieldStart slot) =
      some (offset * data.stride + data.fieldStart slot) :=
  pointerOffset?_eq_some_iff.mpr ⟨h.stride, h.start, rfl⟩

theorem pointerOffset?_of_not_reaches (h : ¬ Reaches data offset slot) :
    pointerOffset? offset data.stride (data.fieldStart slot) = none := by
  cases found : pointerOffset? offset data.stride (data.fieldStart slot) with
  | none => rfl
  | some byteOffset =>
      obtain ⟨stride, start, rfl⟩ := pointerOffset?_eq_some_iff.mp found
      exact absurd ⟨stride, start⟩ h

theorem attributeSource_of_inside (bound : op.procedure.attribute? c = some target)
    (inside : slot < data.layout.length) :
    op.attributeSource c data offset slot =
      if Mismatch target data.layout[slot] then
        .error (.incompatibleInput data.layout[slot] target.type)
      else match pointerOffset? offset data.stride (data.fieldStart slot) with
        | some byteOffset => .ok ⟨target, data.layout[slot], data.stride,
            ⟨data.handle, offset, slot, byteOffset⟩⟩
        | none => .error (.offsetOverflow offset data.stride) := by
  have owned := Procedure.owns_of_attribute? bound
  simp only [attributeSource, owned, bound, DataBuffer.field_of_inside inside]
  by_cases mismatch : Mismatch target data.layout[slot]
  · rw [if_pos mismatch]
    exact if_pos mismatch
  · rw [if_neg mismatch]
    exact if_neg mismatch

theorem attributeSource_of_readable (bound : op.procedure.attribute? c = some target)
    (h : Readable target data offset slot) :
    ∃ s, op.attributeSource c data offset slot = .ok s := by
  rw [attributeSource_of_inside bound h.inside, if_neg h.suits,
    pointerOffset?_of_reaches h.reaches]
  exact ⟨_, rfl⟩

theorem attributeSource_of_unreadable (bound : op.procedure.attribute? c = some target)
    {e : RenderError} (h : Unreadable target data offset slot e) :
    op.attributeSource c data offset slot = .error e := by
  have owned := Procedure.owns_of_attribute? bound
  cases h with
  | empty empty =>
      simp only [attributeSource, owned, bound, DataBuffer.field_of_empty empty]
      rfl
  | outside nonempty outside =>
      simp only [attributeSource, owned, bound, DataBuffer.field_of_outside nonempty outside]
      rfl
  | mismatch inside mismatch => rw [attributeSource_of_inside bound inside, if_pos mismatch]
  | tooFar inside suits tooFar =>
      rw [attributeSource_of_inside bound inside, if_neg suits,
        pointerOffset?_of_not_reaches tooFar]

theorem exists_attributeSource_iff (bound : op.procedure.attribute? c = some target) :
    (∃ s, op.attributeSource c data offset slot = .ok s) ↔ Readable target data offset slot := by
  refine ⟨?_, attributeSource_of_readable bound⟩
  rintro ⟨s, taken⟩
  rcases readable_or_unreadable target data offset slot with readable | ⟨e, unreadable⟩
  · exact readable
  · rw [attributeSource_of_unreadable bound unreadable] at taken
    cases taken

theorem attributeSource_eq_error_iff (bound : op.procedure.attribute? c = some target)
    {e : RenderError} :
    op.attributeSource c data offset slot = .error e ↔ Unreadable target data offset slot e := by
  refine ⟨?_, attributeSource_of_unreadable bound⟩
  intro refused
  rcases readable_or_unreadable target data offset slot with readable | ⟨e', unreadable⟩
  · obtain ⟨s, taken⟩ := attributeSource_of_readable bound readable
    rw [taken] at refused
    cases refused
  · rw [attributeSource_of_unreadable bound unreadable] at refused
    cases refused
    exact unreadable

/-! ## What is read -/

theorem AttributeSource.Exact.extent {s : AttributeSource} {p : AttributePointer}
    (h : s.Exact p) (i : Nat) :
    p.extent i = ⟨s.binding.byteOffset + i * s.stride, s.input.size⟩ := by
  have first : (s.binding.byteOffset + i * s.stride : Int) =
      ((s.binding.byteOffset + i * s.stride : Nat) : Int) := by simp
  rw [AttributePointer.extent, h.offset, h.stride, h.type, h.size, first, Int.toNat_natCast,
    Int.toNat_natCast, InputKind.componentBytes_deviceType]
  rfl

/-- A pointer with exact numbers through which instance `i` reads a field of the element at
`offset + i`. -/
structure Feeds (p : AttributePointer) (b : InstanceBinding) (target : AttributeSlot)
    (data : DataBuffer) (offset : Nat) (slot : Fin data.layout.length) : Prop where
  buffer : b.buffer = data.handle
  byteOffset : b.byteOffset =
    offset * data.stride + ((data.layout.take slot).map InputType.size).sum
  index : p.index = target.location
  size : p.size.toInt = data.layout[slot].arity.toNat
  type : p.type = data.layout[slot].kind.deviceType
  stride : p.stride.toInt = data.stride
  start : p.offset.toInt = b.byteOffset
  extent : ∀ i, p.extent i = ⟨b.byteOffset + i * data.stride, data.layout[slot].size⟩
  /-- What an instance reads is a field, whatever is stored. -/
  reads : ∀ elements : List (List (List UInt8)), (∀ element ∈ elements, data.Fits element) →
    ∀ i element field, elements[offset + i]? = some element →
      element[(slot : Nat)]? = some field →
      ∀ rest, (p.extent i).read (elements.flatMap List.flatten ++ rest) = field
  /-- An instance reads the bytes of the field in its element. -/
  place : ∀ i, p.extent i = data.extent (offset + i) slot
  /-- No byte belongs to two fields, or to two elements. -/
  apart : ∀ e s e' s', (e, s) ≠ (e', s') → (data.extent e s).Apart (data.extent e' s')
  within : ∀ n, offset + n ≤ data.elementCount → ∀ i < n, (p.extent i).Within data.byteLength

theorem AttributeSource.Sound.feeds {s : AttributeSource} {p : Procedure ℓ}
    (h : s.Sound p c data offset slot) (inside : slot < data.layout.length) :
    Feeds s.pointer s.binding s.slot data offset ⟨slot, inside⟩ := by
  have same := h.exact
  have input : s.input = data.layout[slot] := by
    rw [← Option.some.injEq, ← h.input, List.getElem?_eq_getElem inside]
  have extent (i : Nat) : s.pointer.extent i = data.extent (offset + i) ⟨slot, inside⟩ := by
    rw [same.extent, h.binding, h.stride, input, DataBuffer.extent, Nat.add_mul,
      Nat.add_right_comm]
    rfl
  constructor
  case buffer => rw [h.binding]
  case byteOffset =>
      rw [h.binding, ← InputType.totalSize_eq_sum]
      rfl
  case index => exact same.index
  case size =>
      rw [same.size, input]
      rfl
  case type =>
      rw [same.type, input]
      rfl
  case stride => rw [same.stride, h.stride]
  case start => exact same.offset
  case extent =>
      intro i
      rw [same.extent, h.stride, input]
      rfl
  case reads =>
      intro elements fits i element field stored there rest
      rw [extent]
      exact DataBuffer.read_extent fits stored there rest
  case place => exact extent
  case apart => exact fun _ _ _ _ different => DataBuffer.extent_apart different
  case within =>
      intro n stored i hi
      rw [extent]
      exact DataBuffer.extent_within (by omega) _

theorem pointers_commands (s : AttributeSource) (vertexArray : Handle) :
    (s.commands vertexArray : List (Command ℓ)).filterMap Command.pointer? =
      [(s.pointer, s.slot.type.isInteger)] := by
  simp only [AttributeSource.commands, AttributeSource.pointerCommand]
  cases s.slot.type.isInteger <;> rfl

/-- A field is taken exactly if a pointer can stand for it, and refused without a trace for the
first reason there is. If it is taken, instance `i` reads it from the element at
`offset + i`. -/
theorem setAttribute_reads_field (op : Operation String) (c : Channel) (data : DataBuffer)
    (offset slot : Nat) {target : AttributeSlot}
    (bound : op.procedure.attribute? c = some target) (h : Host Headless) :
    let outcome := (op.setAttribute c data offset slot : Action Headless _).run h
    ((∃ op', outcome.1 = .ok op') ↔ Readable target data offset slot) ∧
    (∀ e, outcome.1 = .error e ↔ Unreadable target data offset slot e) ∧
    (∀ e, outcome.1 = .error e → outcome.2 = h) ∧
    ∀ op', outcome.1 = .ok op' →
      ∃ (inside : slot < data.layout.length) (b : InstanceBinding) (p : AttributePointer)
        (commands : List (Command String)),
        op'.binding? c = some b ∧
        outcome.2.device.calls = h.device.calls ++ commands.map .performed ∧
        commands.filterMap Command.pointer? = [(p, target.type.isInteger)] ∧
        Feeds p b target data offset ⟨slot, inside⟩ := by
  simp only [← exists_attributeSource_iff bound, ← attributeSource_eq_error_iff bound,
    run_setAttribute]
  cases tried : op.attributeSource c data offset slot with
  | error e => simp
  | ok s =>
      have sound := sound_of_attributeSource tried
      have readable := (exists_attributeSource_iff bound).mp ⟨s, tried⟩
      obtain rfl : s.slot = target := Option.some.inj (sound.target.symm.trans bound)
      refine ⟨by simp, by simp, by simp, ?_⟩
      rintro _ ⟨⟩
      refine ⟨readable.inside, s.binding, s.pointer, s.commands op.vertexArray, ?_,
        h.calls_performAll _, ?_, ?_⟩
      · exact (if_pos sound.owned).trans (Table.get?_insert_self ..)
      · exact pointers_commands ..
      · exact sound.feeds readable.inside

/-- An operation whose only channel is an attribute. -/
def oneAttribute : Operation String where
  vertexArray := 1
  procedure := {
    session := 0
    program := 2
    screenSize := none
    attributes := [⟨⟨0, 3, .perInstance, .vec2⟩, 2⟩]
    uniforms := []
    vertexSource := "" }

/-- Elements of twelve bytes, the last of which that a pointer reaches begins at byte 2147483640. -/
def twelveBytes : DataBuffer where
  handle := 3
  usage := .dynamic
  layout := [.f32x2, .u8x4]

/-- In one element, a field at which a pointer can begin and a field that is too far. -/
theorem setAttribute_reads_field_border :
    oneAttribute.procedure.attribute? ⟨0, 3, .perInstance, .vec2⟩ = some ⟨2, .vec2⟩ ∧
    (∃ op', ((oneAttribute.setAttribute ⟨0, 3, .perInstance, .vec2⟩ twelveBytes 178956970 0 :
      Action Headless _).run ⟨{}, ⟨4, 4⟩, []⟩).1 = .ok op') ∧
    ((oneAttribute.setAttribute ⟨0, 3, .perInstance, .vec2⟩ twelveBytes 178956970 1 :
      Action Headless _).run ⟨{}, ⟨4, 4⟩, []⟩).1 = .error (.offsetOverflow 178956970 12) := by
  have bound :
      oneAttribute.procedure.attribute? ⟨0, 3, .perInstance, .vec2⟩ = some ⟨2, .vec2⟩ := rfl
  obtain ⟨taken, -, -, -⟩ := setAttribute_reads_field oneAttribute _ twelveBytes 178956970 0 bound
    ⟨{}, ⟨4, 4⟩, []⟩
  obtain ⟨-, refused, -, -⟩ := setAttribute_reads_field oneAttribute _ twelveBytes 178956970 1 bound
    ⟨{}, ⟨4, 4⟩, []⟩
  refine ⟨bound, taken.mpr ⟨by decide, by decide, ⟨by decide, by decide⟩⟩, ?_⟩
  have tooFar : ¬ Reaches twelveBytes 178956970 1 := fun reaches =>
    absurd reaches.start (by decide)
  exact (refused _).mpr (.tooFar (by decide) (by decide) tooFar)

end Operation

end SpriteRenderer
