import SpriteRenderer.Proofs.Procedure.Numbering
import SpriteRenderer.Proofs.Procedure.Scoping
import SpriteRenderer.Proofs.Session.History

/-! # Locations of uniforms

The uniforms of a program are told apart by their locations, and none is where the size of the
target is kept. -/

namespace SpriteRenderer

namespace Procedure

variable {ℓ : Type}

/-- Where the program has uniforms: those of the channels, then the size of the target. -/
def locations (p : Procedure ℓ) : List ℓ :=
  p.uniforms.filterMap (·.location) ++ p.screenSize.toList

/-- A uniform is located by its name or not at all. -/
theorem locate_yields (program : Handle) (name : String) :
    (Action.query fun d : Headless => Device.locate d program name :
      Action Headless (Option String)).Yields fun location =>
        location.toList.Sublist [name] := by
  rintro h location h' ran
  cases ran
  unfold Headless.locate
  split
  · split
    · exact List.Sublist.refl _
    · exact List.nil_sublist _
  · exact List.nil_sublist _

theorem locateAll_yields (program : Handle) (cs : List Channel) :
    (locateAll program cs : Action Headless (List (UniformSlot String))).Yields fun us =>
      (us.filterMap (·.location)).Sublist (cs.map (·.name)) := by
  induction cs with
  | nil => exact .pure (List.Sublist.refl _)
  | cons c cs ih =>
      refine .bind (locate_yields program c.name) fun location first =>
        .bind ih fun us rest => .pure ?_
      have split : List.filterMap (·.location) (⟨c.id, c.type, location⟩ :: us) =
          location.toList ++ us.filterMap (·.location) := by
        cases location <;> rfl
      rw [split]
      exact first.append rest

theorem link_yields_locations (shader : ComposedShader) :
    (link shader : Action Headless (Procedure String)).Yields fun p =>
      p.locations.Sublist (shader.uniforms.map (·.name) ++ [screenSizeName]) :=
  link_yields shader (locate_yields · _) (locateAll_yields · _) fun _ _ _ size channels =>
    channels.append size

end Procedure

/-- No channel is named like the size of the target. -/
theorem Channel.name_ne_screenSizeName (c : Channel) : c.name ≠ Procedure.screenSizeName := by
  intro same
  have letters : ('c' :: (toString c.id).toList : List Char) = "screenSize".toList := by
    rw [show "screenSize" = c.name from same.symm, Channel.name, String.toList_append]
    rfl
  exact absurd (List.cons.inj letters).1 (by decide)

namespace ProcedureBuilder.Coherent

variable {b : ProcedureBuilder}

theorem nodup_names (h : b.Coherent) : (b.uniforms.map (·.name)).Nodup := by
  have names := h.names
  rw [b.map_declarations fun name _ => name, declared, List.append_assoc, List.map_append,
    List.map_append] at names
  exact names.of_append_right.of_append_left

theorem ofBuilder_yields (h : b.Coherent) :
    (Procedure.ofBuilder b : Action Headless (Procedure String)).Yields fun p =>
      p.locations.Nodup := by
  refine .bind (.ofExcept fun _ => id) fun shader composed =>
    (Procedure.link_yields_locations shader).mono fun p sub => ?_
  obtain ⟨-, rfl⟩ := eq_of_compose composed
  refine sub.nodup ?_
  rw [List.nodup_append]
  refine ⟨h.nodup_names, List.nodup_singleton _, fun name hname other hother => ?_⟩
  obtain ⟨c, -, rfl⟩ := List.mem_map.mp hname
  rw [List.mem_singleton.mp hother]
  exact c.name_ne_screenSizeName

end ProcedureBuilder.Coherent

namespace Headless

end Headless

end SpriteRenderer
