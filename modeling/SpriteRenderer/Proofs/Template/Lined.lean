import SpriteRenderer.Config
import SpriteRenderer.Proofs.Template.Filling
import SpriteRenderer.Proofs.Text.Lines

/-! # Templates by lines

A template is filled line by line. So what fills a slot that stands alone on its line begins and
ends with lines. -/

namespace SpriteRenderer

namespace Slot

theorem newline_notMem_placeholder (s : Slot) : '\n' ∉ s.placeholder := by cases s <;> decide

end Slot

namespace Template

/-- A line of the source has the placeholder and, apart from it, only blanks. -/
def AloneOnLine (s : Slot) (source : List Char) : Prop :=
  ∃ left right, (∀ c ∈ left, Text.isBlank c = true) ∧ (∀ c ∈ right, Text.isBlank c = true) ∧
    left ++ s.placeholder ++ right ∈ Text.lines source

namespace Filled

variable {f : Slot → List Char}

/-- Text without brackets stays. -/
theorem eq_of_text {text rest out : List Char} (plain : '<' ∉ text)
    (h : Filled f (text ++ rest) out) : ∃ out', out = text ++ out' ∧ Filled f rest out' := by
  induction text generalizing out with
  | nil => exact ⟨out, rfl, h⟩
  | cons c text ih =>
      rw [List.mem_cons, not_or] at plain
      generalize source : c :: text ++ rest = whole at h
      cases h with
      | done => cases source
      | slot s later => exact absurd (List.cons.inj source).1 (Ne.symm plain.1)
      | text c' absent later =>
          obtain ⟨rfl, rfl⟩ := List.cons.inj source
          obtain ⟨out', rfl, rest⟩ := ih plain.2 later
          exact ⟨out', rfl, rest⟩

/-- A placeholder is replaced. -/
theorem eq_of_slot {s : Slot} {rest out : List Char} (h : Filled f (s.placeholder ++ rest) out) :
    ∃ out', out = f s ++ out' ∧ Filled f rest out' := by
  generalize source : s.placeholder ++ rest = whole at h
  cases h with
  | done => cases source
  | @slot t rest' out later =>
      have begins : s.closing <+: t.closing ++ rest' :=
        ⟨rest, (List.cons.inj source).2⟩
      obtain rfl := Slot.eq_of_begins begins (List.prefix_append _ _)
      rw [List.append_cancel_left source]
      exact ⟨out, rfl, later⟩
  | text c absent later => exact absurd ⟨rest, source⟩ (absent s)

/-- No placeholder goes over the end of a line. -/
theorem eq_of_newline {as bs out : List Char} (h : Filled f (as ++ '\n' :: bs) out) :
    ∃ out₁ out₂, out = out₁ ++ '\n' :: out₂ ∧ Filled f as out₁ ∧ Filled f bs out₂ := by
  generalize source : as ++ '\n' :: bs = whole at h
  induction h generalizing as with
  | done => simp at source
  | @slot s rest out later ih =>
      have cut : ∃ gap, as = s.placeholder ++ gap ∧ gap ++ '\n' :: bs = rest := by
        rcases List.append_eq_append_iff.mp source with ⟨gap, split, after⟩ | ⟨gap, before, after⟩
        · cases gap with
          | nil => exact ⟨[], by simpa using split.symm, after⟩
          | cons c gap =>
              refine absurd ?_ s.newline_notMem_placeholder
              rw [split, ← (List.cons.inj after).1]
              simp
        · exact ⟨gap, before, after.symm⟩
      obtain ⟨gap, rfl, after⟩ := cut
      obtain ⟨out₁, out₂, rfl, first, second⟩ := ih after
      exact ⟨f s ++ out₁, out₂, by simp, .slot s first, second⟩
  | @text c rest out absent later ih =>
      cases as with
      | nil =>
          obtain ⟨rfl, rfl⟩ := List.cons.inj source
          exact ⟨[], out, rfl, .done, later⟩
      | cons a as =>
          obtain ⟨rfl, rest_eq⟩ := List.cons.inj source
          obtain ⟨out₁, out₂, rfl, first, second⟩ := ih rest_eq
          refine ⟨a :: out₁, out₂, rfl, .text a (fun s begins => absent s ?_) first, second⟩
          rw [← rest_eq]
          exact begins.trans (List.prefix_append _ _)

theorem eq_of_nil {out : List Char} (h : Filled f [] out) : out = [] := by
  generalize source : [] = whole at h
  cases h with
  | done => rfl
  | slot s later => cases source
  | text c absent later => cases source

/-- Every line of the source is filled into lines of the text. -/
theorem lines_subset {source out : List Char} (h : Filled f source out) {l : List Char}
    (hl : l ∈ Text.lines source) : ∃ o, Filled f l o ∧ Text.lines o ⊆ Text.lines out := by
  induction n : source.length using Nat.strongRecOn generalizing source out with
  | ind n ih =>
      by_cases newline : '\n' ∈ source
      · obtain ⟨as, bs, rfl⟩ := List.append_of_mem newline
        obtain ⟨out₁, out₂, rfl, first, second⟩ := h.eq_of_newline
        rw [List.length_append, List.length_cons] at n
        rw [Text.lines_append_newline, List.mem_append] at hl
        rw [Text.lines_append_newline]
        rcases hl with hl | hl
        · obtain ⟨o, filled, sub⟩ := ih as.length (by omega) first hl rfl
          exact ⟨o, filled, List.subset_append_of_subset_left _ sub⟩
        · obtain ⟨o, filled, sub⟩ := ih bs.length (by omega) second hl rfl
          exact ⟨o, filled, List.subset_append_of_subset_right _ sub⟩
      · rw [Text.lines_of_notMem newline, List.mem_singleton] at hl
        exact ⟨out, hl ▸ h, List.Subset.refl _⟩

/-- What fills a slot alone on its line makes whole lines, apart from blanks at both ends. -/
theorem lines_of_aloneOnLine {s : Slot} {source out : List Char} (h : Filled f source out)
    (alone : AloneOnLine s source) :
    ∃ left right, (∀ c ∈ left, Text.isBlank c = true ∧ c ≠ '\n') ∧
      (∀ c ∈ right, Text.isBlank c = true ∧ c ≠ '\n') ∧
      Text.lines (left ++ f s ++ right) ⊆ Text.lines out := by
  obtain ⟨left, right, hleft, hright, line⟩ := alone
  have plain {blanks : List Char} (h : ∀ c ∈ blanks, Text.isBlank c = true) : '<' ∉ blanks :=
    fun bracket => absurd (h _ bracket) (by decide)
  have unbroken := Text.notMem_of_mem_lines line
  obtain ⟨o, filled, sub⟩ := h.lines_subset line
  rw [List.append_assoc] at filled
  obtain ⟨_, rfl, fromSlot⟩ := filled.eq_of_text (plain hleft)
  obtain ⟨_, rfl, behind⟩ := fromSlot.eq_of_slot
  rw [← List.append_nil right] at behind
  obtain ⟨_, rfl, none⟩ := behind.eq_of_text (plain hright)
  rw [none.eq_of_nil, List.append_nil, ← List.append_assoc] at sub
  refine ⟨left, right, fun c hc => ⟨hleft c hc, ?_⟩, fun c hc => ⟨hright c hc, ?_⟩, sub⟩
  · rintro rfl
    exact unbroken (by simp [hc])
  · rintro rfl
    exact unbroken (by simp [hc])

end Filled

end Template

/-! ## The built-in template -/

namespace Builtin

theorem mem_lines_template {ls : List String} {l : String} (hl : l ∈ ls)
    (lined : '\n' ∉ l.toList) : l.toList ∈ Text.lines (template ls).toList := by
  induction ls with
  | nil => cases hl
  | cons m ls ih =>
      have first : (template (m :: ls)).toList = m.toList ++ '\n' :: (template ls).toList := by
        simp [template, String.join_cons]
      rw [first, Text.lines_append_newline, List.mem_append]
      rcases List.mem_cons.mp hl with rfl | hl
      · left
        rw [Text.lines_of_notMem lined]
        exact List.mem_singleton_self _
      · exact .inr (ih hl)

theorem aloneOnLine_uniforms :
    Template.AloneOnLine .uniforms (template vertexLines).toList := by
  refine ⟨[], [], by simp, by simp, ?_⟩
  exact mem_lines_template (l := "<uniforms>") (by simp [vertexLines]) (by decide)

end Builtin

/-! ## Composed shaders -/

namespace ProcedureBuilder

/-- A composed shader declares the operation channels of its builder, whatever else is in it. -/
theorem declares_uniforms {b : ProcedureBuilder} {source : String} {required : List Slot}
    (parsed : Template.parse source required = .ok b.templates.vertex)
    (alone : Template.AloneOnLine .uniforms source.toList) {c : Channel} (hc : c ∈ b.uniforms)
    (fragment : String) :
    Headless.declares ("\n".intercalate [b.templates.vertex.render b.slotText, fragment])
      c.name = true := by
  obtain ⟨left, right, hleft, hright, sub⟩ :=
    (Template.filled_render parsed b.slotText).lines_of_aloneOnLine alone
  have declarations : (b.slotText .uniforms).toList =
      ['\n'].intercalate (b.uniforms.map fun c => c.uniformDeclaration.toList) := by
    simp [slotText, lines, String.toList_intercalate, Function.comp_def]
  have lined : ∀ d ∈ b.uniforms.map fun c => c.uniformDeclaration.toList, '\n' ∉ d := by
    simpa using fun c _ => c.newline_notMem_uniformDeclaration
  obtain ⟨l, r, hl, hr, line⟩ := Text.exists_line_of_mem lined
    (fun newline => (hleft _ newline).2 rfl) (fun newline => (hright _ newline).2 rfl)
    (List.mem_map_of_mem hc)
  have blank {l blanks : List Char} (h : ∀ c ∈ blanks, Text.isBlank c = true ∧ c ≠ '\n')
      (sub : l ⊆ blanks) : ∀ c ∈ l, Text.isBlank c = true := fun c hc => (h c (sub hc)).1
  rw [Headless.declares, List.any_eq_true]
  refine ⟨l ++ c.uniformDeclaration.toList ++ r, ?_, ?_⟩
  · rw [← declarations] at line
    have both : ("\n".intercalate [b.templates.vertex.render b.slotText, fragment]).toList =
        (b.templates.vertex.render b.slotText).toList ++ '\n' :: fragment.toList := by
      simp
    rw [both, Text.lines_append_newline]
    exact List.mem_append_left _ (sub line)
  · simpa using c.declaredBy?_uniformDeclaration (blank hleft hl) (blank hright hr)

end ProcedureBuilder

end SpriteRenderer
