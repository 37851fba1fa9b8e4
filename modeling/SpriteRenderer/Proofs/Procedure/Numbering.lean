import SpriteRenderer.Proofs.Operation.Calls
import SpriteRenderer.Proofs.Procedure.Building
import SpriteRenderer.Proofs.Script.Transition

/-! # Locations of attributes

Every procedure of a scene numbers its attributes from the first location of the context on. -/

namespace SpriteRenderer

/-! ## Procedures -/

namespace Procedure

variable {ℓ : Type}

/-- The locations of the attributes count from a first one on. -/
def Numbered (start : UInt32) (p : Procedure ℓ) : Prop :=
  ∀ i a, p.attributes[i]? = some a → a.location = start + .ofNat i

/-- No location is beyond the largest number. -/
def Fits (start : UInt32) (p : Procedure ℓ) : Prop :=
  start.toNat + p.attributes.length ≤ UInt32.size

/-- Attributes share no location with the packed vertices, nor with each other. -/
structure Placed (p : Procedure ℓ) : Prop where
  ne_position : ∀ a ∈ p.attributes, a.location ≠ Operation.positionLocation
  ne_color : ∀ a ∈ p.attributes, a.location ≠ Operation.colorLocation
  apart : ∀ a ∈ p.attributes, ∀ b ∈ p.attributes, a.location = b.location →
    a.channel.id = b.channel.id

theorem exists_of_attribute? {p : Procedure ℓ} {c : Channel} {slot : AttributeSlot}
    (h : p.attribute? c = some slot) :
    ∃ a ∈ p.attributes, a.channel.id = c.id ∧ slot = ⟨a.location, a.channel.type⟩ := by
  unfold attribute? at h
  split at h
  case isFalse => cases h
  case isTrue =>
      obtain ⟨a, found, rfl⟩ := Option.map_eq_some_iff.mp h
      have same : a.channel.id = c.id := by simpa using List.find?_some found
      exact ⟨a, List.mem_of_find?_eq_some found, same, rfl⟩

theorem owns_of_attribute? {p : Procedure ℓ} {c : Channel} {slot : AttributeSlot}
    (h : p.attribute? c = some slot) : p.owns c = true := by
  unfold attribute? at h
  split at h
  case isTrue owned => exact owned
  case isFalse => cases h

/-- A procedure knows its own channels by their ids. -/
theorem attribute?_congr {p : Procedure ℓ} {c d : Channel} (hc : p.owns c = true)
    (hd : p.owns d = true) (same : c.id = d.id) : p.attribute? c = p.attribute? d := by
  simp [attribute?, hc, hd, same]

namespace Numbered

variable {p : Procedure ℓ} {start : UInt32}

theorem toNat_location (h : p.Numbered start) (fits : p.Fits start) {i : Nat}
    {a : AttributeBinding} (hi : p.attributes[i]? = some a) :
    a.location.toNat = start.toNat + i := by
  obtain ⟨hlt, -⟩ := List.getElem?_eq_some_iff.mp hi
  have bound : start.toNat + i < UInt32.size := Nat.lt_of_lt_of_le (by omega) fits
  have small : i % UInt32.size = i := Nat.mod_eq_of_lt (by omega)
  rw [h i a hi, UInt32.toNat_add, UInt32.toNat_ofNat', small, Nat.mod_eq_of_lt bound]

theorem placed (h : p.Numbered start) (fits : p.Fits start) (low : 2 ≤ start) : p.Placed := by
  have two_le : 2 ≤ start.toNat := UInt32.le_iff_toNat_le.mp low
  have above : ∀ a ∈ p.attributes, 2 ≤ a.location.toNat := by
    intro a ha
    obtain ⟨i, hi⟩ := List.mem_iff_getElem?.mp ha
    rw [h.toNat_location fits hi]
    omega
  refine ⟨fun a ha same => ?_, fun a ha same => ?_, fun a ha b hb same => ?_⟩
  · have := above a ha
    rw [same] at this
    exact absurd this (by decide)
  · have := above a ha
    rw [same] at this
    exact absurd this (by decide)
  · obtain ⟨i, hi⟩ := List.mem_iff_getElem?.mp ha
    obtain ⟨j, hj⟩ := List.mem_iff_getElem?.mp hb
    have indices : start.toNat + i = start.toNat + j := by
      rw [← h.toNat_location fits hi, ← h.toNat_location fits hj, same]
    rw [Nat.add_left_cancel indices, hj, Option.some.injEq] at hi
    rw [hi]

end Numbered

variable {δ : Type} [Device δ ℓ]

/-- What holds of a procedure that links, if something holds of what is located. -/
theorem link_yields {S : Option ℓ → Prop} {U : List (UniformSlot ℓ) → Prop}
    {Q : Procedure ℓ → Prop} (shader : ComposedShader)
    (size : ∀ program, (Action.query fun d => Device.locate d program screenSizeName :
      Action δ (Option ℓ)).Yields S)
    (channels : ∀ program, (locateAll program shader.uniforms :
      Action δ (List (UniformSlot ℓ))).Yields U)
    (linked : ∀ program screenSize uniforms, S screenSize → U uniforms →
      Q ⟨shader.session, program, screenSize, shader.attributes, uniforms, shader.vertexSource⟩) :
    (link shader : Action δ (Procedure ℓ)).Yields Q := by
  refine .bind (.any _) fun vertex _ => .bind (.any _) fun fragment _ =>
    .bind (.any _) fun program _ => .bind (.any _) fun _ _ => .bind (.any _) fun ok _ =>
    .bind (.any _) fun _ _ => ?_
  split
  · exact .bind (size program) fun screenSize hs => .bind (channels program) fun uniforms hu =>
      .pure (linked program screenSize uniforms hs hu)
  · exact .bind (.any _) fun log _ => .bind (.any _) fun _ _ => .bind (.any _) fun _ _ => .fail _

theorem ofBuilder_yields (b : ProcedureBuilder) :
    (ofBuilder b : Action δ (Procedure ℓ)).Yields fun p => p.Numbered b.layoutStart := by
  refine .bind (.ofExcept fun _ => id) fun shader composed =>
    link_yields shader (fun _ => .any _) (fun _ => .any _)
      fun program screenSize uniforms _ _ i a hi => ?_
  obtain ⟨-, rfl⟩ := ProcedureBuilder.eq_of_compose composed
  simp only [ProcedureBuilder.attributeBindings, List.getElem?_map, List.getElem?_zipIdx,
    Option.map_map, Option.map_eq_some_iff] at hi
  obtain ⟨c, -, rfl⟩ := hi
  simp

end Procedure

/-! ## Scenes -/

namespace Scene

variable {δ ℓ : Type}

/-- All procedures of a scene, those of its operations among them, have a property. -/
structure EveryProcedure (P : Procedure ℓ → Prop) (s : Scene δ ℓ) : Prop where
  named : s.procedures.All fun _ p => P p
  used : s.operations.All fun _ op => P op.procedure

/-- Procedures come from builders, and operations keep theirs. -/
theorem EveryProcedure.transition [Device δ ℓ] {P : Procedure ℓ → Prop} {s : Scene δ ℓ}
    (h : s.EveryProcedure P)
    (built : s.builders.All fun _ b => (Procedure.ofBuilder b : Action δ (Procedure ℓ)).Yields P)
    {step : Step} {out : Except StepError Answer × Scene δ ℓ} (t : Script.Transition s step out) :
    out.2.EveryProcedure P := by
  cases t with
  | finish found ran | link found ran =>
      exact ⟨h.named.insertOk fun p hp => built _ _ found _ p _ (hp ▸ ran), h.used⟩
  | copyProcedure found => exact ⟨h.named.insert (h.named _ _ found), h.used⟩
  | freeProcedure found => exact ⟨h.named.erase _, h.used⟩
  | newOperation found ran =>
      refine ⟨h.named, h.used.insertOk fun op hop => ?_⟩
      rw [Operation.create_yields _ _ op _ (hop ▸ ran)]
      exact h.named _ _ found
  | setAttribute _ _ found ran =>
      refine ⟨h.named, h.used.insertOk fun op hop => ?_⟩
      rw [(Operation.setAttribute_yields _ _ _ _ _ _ op _ (hop ▸ ran)).procedure]
      exact h.used _ _ found
  | setValue _ found stored =>
      rw [Operation.eq_of_setValue stored]
      exact ⟨h.named, h.used.insert (h.used _ _ found :)⟩
  | setSprite _ found ran =>
      refine ⟨h.named, h.used.insertOk fun op hop => ?_⟩
      rw [(Operation.setSprite_yields _ _ _ _ op _ (hop ▸ ran)).procedure]
      exact h.used _ _ found
  | setAmount found => exact ⟨h.named, h.used.insert (h.used _ _ found :)⟩
  | freeOperation found => exact ⟨h.named, h.used.erase _⟩
  | _ => exact ⟨h.named, h.used⟩

/-- All builders and procedures of a scene count from one location on. -/
structure Numbered (start : UInt32) (s : Scene δ ℓ) : Prop where
  context : s.context.config.layoutStart = start
  builders : s.builders.All fun _ b => b.layoutStart = start
  procedures : s.procedures.All fun _ p => p.Numbered start
  operations : s.operations.All fun _ op => op.procedure.Numbered start

namespace Numbered

open Script (Transition)

variable [Device δ ℓ] {s : Scene δ ℓ} {start : UInt32}

theorem of_create {device : δ} {config : RendererConfig} {window : Size}
    (h : Scene.create device config window = .ok s) : s.Numbered config.layoutStart := by
  obtain ⟨templates, rfl⟩ := Scene.eq_of_create h
  exact ⟨rfl, .empty, .empty, .empty⟩

theorem transition (h : s.Numbered start) {step : Step}
    {out : Except StepError Answer × Scene δ ℓ} (t : Transition s step out) :
    out.2.Numbered start := by
  have builders : out.2.context = s.context ∧
      out.2.builders.All fun _ b => b.layoutStart = start := by
    cases t with
    | newBuilder as => exact ⟨rfl, h.builders.insert h.context⟩
    | addAttribute _ found | addOperation _ found | addIntermediate _ found =>
        exact ⟨rfl, h.builders.insert (h.builders _ _ found :)⟩
    | call _ _ found called =>
        obtain ⟨rfl, -⟩ := ProcedureBuilder.eq_of_call called
        exact ⟨rfl, h.builders.insert (h.builders _ _ found :)⟩
    | setOutput _ found bound =>
        obtain ⟨rfl, -⟩ := ProcedureBuilder.eq_of_setOutput bound
        exact ⟨rfl, h.builders.insert (h.builders _ _ found :)⟩
    | finish found ran => exact ⟨rfl, h.builders.erase _⟩
    | _ => exact ⟨rfl, h.builders⟩
  have every : s.EveryProcedure fun p => p.Numbered start := ⟨h.procedures, h.operations⟩
  have kept := every.transition (h.builders.mono fun _ b _ counted =>
    counted ▸ Procedure.ofBuilder_yields b) t
  exact ⟨builders.1 ▸ h.context, builders.2, kept.named, kept.used⟩

end Numbered

end Scene

end SpriteRenderer
