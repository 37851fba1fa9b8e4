import Mathlib.Data.List.DropRight
import Mathlib.Data.List.Induction
import SpriteRenderer.Proofs.Sprite.RoundTrip
import SpriteRenderer.Sprite.Builder

/-! # Built sprites

What the steps of a builder describe, read off the steps alone: a colour that comes after a vertex
begins a run, one that comes after another colour only replaces it. Whatever is built is made of
runs, so that it can be encoded. -/

namespace SpriteRenderer

namespace SpriteBuilder

/-! ## What steps describe -/

namespace Step

def color? : Step → Option Color
  | color c => some c
  | _ => none

def isVertex : Step → Bool
  | vertex .. => true
  | _ => false

def indices : Step → List UInt32
  | triangle i j k => [i, j, k]
  | _ => []

end Step

def vertexCount (steps : List Step) : Nat := steps.countP Step.isVertex

def triangleIndices (steps : List Step) : List UInt32 := steps.flatMap Step.indices

/-- The colour that was given last. -/
def colorAfter (initial : Color) (steps : List Step) : Color :=
  (steps.filterMap Step.color?).getLast?.getD initial

/-- A vertex was added since the last colour, so that another colour has an effect. -/
def openRun (steps : List Step) : Bool :=
  (steps.rtakeWhile (·.color?.isNone)).any Step.isVertex

/-- How many colours had an effect. -/
def effectiveColors (steps : List Step) : Nat :=
  (List.range steps.length).countP fun place =>
    steps[place]?.any (·.color?.isSome) && openRun (steps.take place)

theorem colorAfter_append (initial : Color) (steps : List Step) (step : Step) :
    colorAfter initial (steps ++ [step]) = step.color?.getD (colorAfter initial steps) := by
  cases h : step.color? with
  | none => simp [colorAfter, List.filterMap_append, h]
  | some c => simp [colorAfter, List.filterMap_append, h]

theorem openRun_append (steps : List Step) (step : Step) :
    openRun (steps ++ [step]) = (step.isVertex || step.color?.isNone && openRun steps) := by
  cases h : step.color?.isNone with
  | false =>
      rw [openRun, List.rtakeWhile_concat_neg _ _ _ (by simp [h])]
      cases step <;> first | rfl | cases h
  | true =>
      rw [openRun, List.rtakeWhile_concat_pos (fun s : Step => s.color?.isNone) _ _ h,
        List.any_append, openRun]
      simp [Bool.or_comm]

theorem effectiveColors_append (steps : List Step) (step : Step) :
    effectiveColors (steps ++ [step]) =
      effectiveColors steps + if step.color?.isSome && openRun steps then 1 else 0 := by
  have before : ∀ place ∈ List.range steps.length,
      ((steps ++ [step])[place]?.any (·.color?.isSome) &&
        openRun ((steps ++ [step]).take place)) =
      (steps[place]?.any (·.color?.isSome) && openRun (steps.take place)) := by
    intro place inside
    rw [List.mem_range] at inside
    rw [List.getElem?_append_left inside, List.take_append_of_le_length (Nat.le_of_lt inside)]
  rw [effectiveColors, List.length_append, List.length_singleton, List.range_succ,
    List.countP_append, List.countP_singleton, List.countP_congr fun p hp => by rw [before p hp],
    List.getElem?_concat_length, List.take_left]
  rfl

theorem effectiveColors_le_append (steps : List Step) (step : Step) :
    effectiveColors steps ≤ effectiveColors (steps ++ [step]) := by
  rw [effectiveColors_append]
  exact Nat.le_add_right _ _

theorem effectiveColors_mono (steps more : List Step) :
    effectiveColors steps ≤ effectiveColors (steps ++ more) := by
  induction more using List.reverseRecOn with
  | nil => rw [List.append_nil]
  | append_singleton more step ih =>
      rw [← List.append_assoc]
      exact Nat.le_trans ih (effectiveColors_le_append _ _)

/-! ## The builder after its steps -/

/-- The vertex that a step adds after others. The layer stops at the highest one. -/
def vertexAfter (initial : Color) (before : List Step) (x y : Single) : Vertex :=
  ⟨x, y, colorAfter initial before, .ofNat (min (effectiveColors before) 255)⟩

/-- The builder holds what its steps describe. -/
structure Follows (initial : Color) (steps : List Step) (b : SpriteBuilder) : Prop where
  length : b.vertices.length = vertexCount steps
  vertex : ∀ before x y after, steps = before ++ .vertex x y :: after →
    b.vertices[vertexCount before]? = some (vertexAfter initial before x y)
  indices : b.indices = triangleIndices steps
  color : b.color = colorAfter initial steps
  layer : b.layer = .ofNat (min (effectiveColors steps) 255)
  runStarted : b.runStarted = openRun steps
  overflowed : b.overflowed = decide (255 < effectiveColors steps)

theorem layer_eq_top_iff (n : Nat) : UInt8.ofNat (min n 255) = 255 ↔ 255 ≤ n := by
  have small : min n 255 < UInt8.size := Nat.lt_of_le_of_lt (Nat.min_le_right n 255) (by decide)
  rw [← UInt8.toNat_inj, UInt8.toNat_ofNat_of_lt' small]
  change min n 255 = 255 ↔ _
  omega

namespace Follows

variable {initial : Color} {steps : List Step} {b : SpriteBuilder}

theorem vertex_append (h : Follows initial steps b) {step : Step} (plain : step.isVertex = false)
    {vertices : List Vertex} (same : vertices = b.vertices) :
    ∀ before x y after, steps ++ [step] = before ++ .vertex x y :: after →
      vertices[vertexCount before]? = some (vertexAfter initial before x y) := by
  intro before x y after split
  cases after using List.reverseRecOn with
  | nil =>
      obtain ⟨-, last⟩ := List.append_inj' split rfl
      cases last
      cases plain
  | append_singleton after last =>
      rw [← List.cons_append, ← List.append_assoc] at split
      rw [same]
      exact h.vertex before x y after (List.append_inj' split rfl).1

theorem addVertex (h : Follows initial steps b) (x y : Single) :
    Follows initial (steps ++ [.vertex x y]) (b.addVertex x y) where
  length := by simp [SpriteBuilder.addVertex, h.length, vertexCount, Step.isVertex]
  vertex before x' y' after split := by
    cases after using List.reverseRecOn with
    | nil =>
        obtain ⟨rfl, last⟩ := List.append_inj' split rfl
        cases last
        rw [← h.length, SpriteBuilder.addVertex, List.getElem?_concat_length, h.color, h.layer]
        rfl
    | append_singleton after last =>
        rw [← List.cons_append, ← List.append_assoc] at split
        have found := h.vertex before x' y' after (List.append_inj' split rfl).1
        exact (List.getElem?_append_left (List.getElem?_eq_some_iff.mp found).1).trans found
  indices := by simp [SpriteBuilder.addVertex, h.indices, triangleIndices, Step.indices]
  color := by rw [colorAfter_append]; exact h.color
  layer := by rw [effectiveColors_append]; exact h.layer
  runStarted := by rw [openRun_append]; rfl
  overflowed := by rw [effectiveColors_append]; exact h.overflowed

theorem addTriangle (h : Follows initial steps b) (i j k : UInt32) :
    Follows initial (steps ++ [.triangle i j k]) (b.addTriangle i j k) where
  length := by simp [SpriteBuilder.addTriangle, h.length, vertexCount, Step.isVertex]
  vertex := h.vertex_append rfl rfl
  indices := by simp [SpriteBuilder.addTriangle, h.indices, triangleIndices, Step.indices]
  color := by rw [colorAfter_append]; exact h.color
  layer := by rw [effectiveColors_append]; exact h.layer
  runStarted := by rw [openRun_append]; exact h.runStarted
  overflowed := by rw [effectiveColors_append]; exact h.overflowed

theorem beginRun (h : Follows initial steps b) (c : Color) :
    Follows initial (steps ++ [.color c]) (b.beginRun c) := by
  have counted : effectiveColors (steps ++ [.color c]) =
      effectiveColors steps + if b.runStarted then 1 else 0 := by
    rw [effectiveColors_append, h.runStarted]
    rfl
  have length (vertices : List Vertex) (same : vertices = b.vertices) :
      vertices.length = vertexCount (steps ++ [.color c]) := by
    simp [same, h.length, vertexCount, Step.isVertex]
  have indices : b.indices = triangleIndices (steps ++ [.color c]) := by
    simp [h.indices, triangleIndices, Step.indices]
  have color : c = colorAfter initial (steps ++ [.color c]) := by
    rw [colorAfter_append]
    rfl
  have closed : false = openRun (steps ++ [.color c]) := by
    rw [openRun_append]
    rfl
  unfold SpriteBuilder.beginRun
  cases started : b.runStarted with
  | false =>
      rw [started] at counted
      rw [if_pos (by simp)]
      refine ⟨length _ rfl, h.vertex_append rfl rfl, indices, color, ?_, closed, ?_⟩
      · rw [counted]; exact h.layer
      · rw [counted]; exact h.overflowed
  | true =>
      rw [started, if_pos rfl] at counted
      have top := layer_eq_top_iff (effectiveColors steps)
      rw [← h.layer] at top
      by_cases high : b.layer = 255
      · rw [if_neg (by simp), if_pos high]
        have many := top.mp high
        refine ⟨length _ rfl, h.vertex_append rfl rfl, indices, color, ?_, closed, ?_⟩
        · rw [counted, h.layer, Nat.min_eq_right many, Nat.min_eq_right (by omega)]
        · rw [counted]
          exact (decide_eq_true (by omega)).symm
      · rw [if_neg (by simp), if_neg high]
        have few : effectiveColors steps < 255 := Nat.lt_of_not_ge fun many => high (top.mpr many)
        refine ⟨length _ rfl, h.vertex_append rfl rfl, indices, color, ?_, closed, ?_⟩
        · rw [counted, h.layer, Nat.min_eq_left (by omega), Nat.min_eq_left (by omega)]
          exact (UInt8.ofNat_add _ _).symm
        · rw [counted, h.overflowed]
          simp only [decide_eq_decide]
          omega

end Follows

/-- The builder holds what its steps describe, whatever their order. -/
theorem run_follows (initial : Color) (steps : List Step) :
    Follows initial steps ((start initial).run steps) := by
  induction steps using List.reverseRecOn with
  | nil =>
      refine ⟨rfl, fun before x y after split => ?_, rfl, rfl, rfl, rfl, rfl⟩
      simp at split
  | append_singleton steps step ih =>
      rw [run_append, run_cons, run_nil]
      cases step with
      | vertex x y => exact ih.addVertex x y
      | triangle i j k => exact ih.addTriangle i j k
      | color c => exact ih.beginRun c

/-! ## Runs

As long as there are not too many runs, the vertices are in runs, and the last one is in the
current run or at the end of the one before. -/

structure InRuns (b : SpriteBuilder) : Prop where
  chain : b.vertices.IsChain Vertex.Precedes
  ground : ∀ v ∈ b.vertices.head?, v.layer = 0
  fresh : b.vertices = [] → b.layer = 0 ∧ b.runStarted = false
  within : b.runStarted = true → ∀ v ∈ b.vertices.getLast?, v.layer = b.layer ∧ v.color = b.color
  between : b.runStarted = false → ∀ v ∈ b.vertices.getLast?, b.layer.toNat = v.layer.toNat + 1

namespace InRuns

variable {b : SpriteBuilder}

theorem addVertex (h : b.InRuns) (x y : Single) : (b.addVertex x y).InRuns where
  chain := by
    refine List.isChain_append.mpr ⟨h.chain, List.isChain_singleton _, fun v last w next => ?_⟩
    obtain rfl : ⟨x, y, b.color, b.layer⟩ = w := by simpa using next
    cases started : b.runStarted with
    | true =>
        obtain ⟨layer, color⟩ := h.within started v last
        exact .inl ⟨layer.symm, color.symm⟩
    | false => exact .inr (h.between started v last)
  ground := by
    intro v first
    cases vertices : b.vertices with
    | nil =>
        obtain rfl : ⟨x, y, b.color, b.layer⟩ = v := by
          simpa [SpriteBuilder.addVertex, vertices] using first
        exact (h.fresh vertices).1
    | cons w ws =>
        refine h.ground v ?_
        simpa [SpriteBuilder.addVertex, vertices] using first
  fresh := by simp [SpriteBuilder.addVertex]
  within := by
    intro _ v last
    obtain rfl : ⟨x, y, b.color, b.layer⟩ = v := by simpa [SpriteBuilder.addVertex] using last
    exact ⟨rfl, rfl⟩
  between := by simp [SpriteBuilder.addVertex]

theorem beginRun (h : b.InRuns) (c : Color) (few : (b.beginRun c).overflowed = false) :
    (b.beginRun c).InRuns := by
  unfold SpriteBuilder.beginRun at few ⊢
  cases started : b.runStarted with
  | false =>
      rw [if_pos (by simp)]
      exact ⟨h.chain, h.ground, fun none => ⟨(h.fresh none).1, rfl⟩, nofun,
        fun _ => h.between started⟩
  | true =>
      rw [if_neg (by simp [started])] at few
      rw [if_neg (by simp)]
      by_cases high : b.layer = 255
      · rw [if_pos high] at few
        cases few
      · rw [if_neg high]
        refine ⟨h.chain, h.ground, fun none => ?_, nofun, fun _ v last => ?_⟩
        · cases started.symm.trans (h.fresh none).2
        · rw [(h.within started v last).1]
          have low : b.layer.toNat ≠ 255 := fun same => high (UInt8.toNat_inj.mp same)
          have word := b.layer.toNat_lt
          rw [UInt8.toNat_add]
          change (b.layer.toNat + 1) % 256 = _
          omega

end InRuns

theorem apply_overflowed {b : SpriteBuilder} {step : Step}
    (few : (b.apply step).overflowed = false) : b.overflowed = false := by
  cases step with
  | vertex x y => exact few
  | triangle i j k => exact few
  | color c =>
      change (b.beginRun c).overflowed = false at few
      unfold beginRun at few
      split at few
      · exact few
      · split at few
        · cases few
        · exact few

theorem run_inRuns (initial : Color) (steps : List Step)
    (few : ((start initial).run steps).overflowed = false) :
    ((start initial).run steps).InRuns := by
  induction steps using List.reverseRecOn with
  | nil => exact ⟨.nil, nofun, fun _ => ⟨rfl, rfl⟩, nofun, nofun⟩
  | append_singleton steps step ih =>
      rw [run_append, run_cons, run_nil] at few ⊢
      have before := ih (apply_overflowed few)
      cases step with
      | vertex x y => exact before.addVertex x y
      | triangle i j k =>
          exact ⟨before.chain, before.ground, before.fresh, before.within, before.between⟩
      | color c => exact before.beginRun c few

/-! ## What is built -/

/-- Steps that describe a sprite. -/
structure Buildable (steps : List Step) : Prop where
  hasVertex : 0 < vertexCount steps
  fewRuns : effectiveColors steps ≤ 255
  inside : ∀ i ∈ triangleIndices steps, i.toNat < vertexCount steps

/-- The first thing that is wrong with steps. -/
inductive Refused (steps : List Step) : GeometryFault → Prop where
  | noVertex (none : vertexCount steps = 0) : Refused steps .noVertex
  | tooManyRuns (hasVertex : 0 < vertexCount steps) (many : 255 < effectiveColors steps) :
      Refused steps .tooManyRuns
  | stray {before i after} (hasVertex : 0 < vertexCount steps)
      (fewRuns : effectiveColors steps ≤ 255)
      (split : triangleIndices steps = before ++ i :: after)
      (inside : ∀ j ∈ before, j.toNat < vertexCount steps) (outside : vertexCount steps ≤ i.toNat) :
      Refused steps (.indexOutOfRange i (vertexCount steps))

section

variable {initial : Color} {steps : List Step} {b : SpriteBuilder}

theorem Follows.isEmpty_iff (h : Follows initial steps b) :
    b.vertices.isEmpty = true ↔ vertexCount steps = 0 := by
  rw [← h.length, List.isEmpty_iff, List.length_eq_zero_iff]

theorem buildable_or_refused (steps : List Step) :
    Buildable steps ∨ ∃ fault, Refused steps fault := by
  by_cases none : vertexCount steps = 0
  · exact .inr ⟨_, .noVertex none⟩
  · have some : 0 < vertexCount steps := Nat.pos_of_ne_zero none
    by_cases many : 255 < effectiveColors steps
    · exact .inr ⟨_, .tooManyRuns some many⟩
    · have few : effectiveColors steps ≤ 255 := Nat.le_of_not_lt many
      cases stray : (triangleIndices steps).find? (vertexCount steps ≤ ·.toNat) with
      | none => exact .inl ⟨some, few, by simpa using stray⟩
      | some i =>
          obtain ⟨outside, before, after, split, inside⟩ :=
            List.find?_eq_some_iff_append.mp stray
          exact .inr ⟨_, .stray some few split (by simpa using inside) (by simpa using outside)⟩

theorem Follows.strayIndex?_eq (h : Follows initial steps b) :
    Sprite.strayIndex? ⟨b.vertices, b.indices⟩ =
      (triangleIndices steps).find? (vertexCount steps ≤ ·.toNat) := by
  rw [Sprite.strayIndex?, h.length, h.indices]

theorem Follows.build_of_buildable (h : Follows initial steps b) (buildable : Buildable steps) :
    b.overflowed = false ∧ b.build = .ok ⟨b.vertices, b.indices⟩ := by
  have few : b.overflowed = false := by
    rw [h.overflowed]
    exact decide_eq_false (Nat.not_lt.mpr buildable.fewRuns)
  have inside : (triangleIndices steps).find? (vertexCount steps ≤ ·.toNat) = none := by
    simpa using buildable.inside
  have vertices : ¬ b.vertices.isEmpty = true := by
    rw [h.isEmpty_iff]
    exact Nat.ne_of_gt buildable.hasVertex
  refine ⟨few, ?_⟩
  rw [build, if_neg vertices, if_neg (by simp [few]), h.strayIndex?_eq, inside]

/-- The builder checks its fields in the order in which the steps are looked at. -/
theorem Follows.build_of_refused (h : Follows initial steps b) {fault : GeometryFault}
    (refused : Refused steps fault) : b.build = .error (.malformedGeometry fault) := by
  have vertices (some : 0 < vertexCount steps) : ¬ b.vertices.isEmpty = true := by
    rw [h.isEmpty_iff]
    exact Nat.ne_of_gt some
  cases refused with
  | noVertex none => exact if_pos (h.isEmpty_iff.mpr none)
  | tooManyRuns some many =>
      have overflowed : b.overflowed = true := by
        rw [h.overflowed]
        exact decide_eq_true many
      rw [build, if_neg (vertices some), if_pos overflowed]
  | @stray before i after some few split inside outside =>
      have within : b.overflowed = false := by
        rw [h.overflowed]
        exact decide_eq_false (Nat.not_lt.mpr few)
      have found : (triangleIndices steps).find? (vertexCount steps ≤ ·.toNat) = .some i := by
        refine List.find?_eq_some_iff_append.mpr ⟨by simpa using outside, before, after, split, ?_⟩
        simpa using inside
      rw [build, if_neg (vertices some), if_neg (by simp [within]), h.strayIndex?_eq, found,
        h.length]

theorem Follows.build_eq_ok_iff (h : Follows initial steps b) {s : Sprite} :
    b.build = .ok s ↔ Buildable steps ∧ s = ⟨b.vertices, b.indices⟩ := by
  constructor
  · intro built
    rcases buildable_or_refused steps with buildable | ⟨fault, refused⟩
    · exact ⟨buildable, Except.ok.inj (built.symm.trans (h.build_of_buildable buildable).2)⟩
    · cases built.symm.trans (h.build_of_refused refused)
  · rintro ⟨buildable, rfl⟩
    exact (h.build_of_buildable buildable).2

theorem Follows.build_eq_error_iff (h : Follows initial steps b) {e : RenderError} :
    b.build = .error e ↔ ∃ fault, Refused steps fault ∧ e = .malformedGeometry fault := by
  constructor
  · intro failed
    rcases buildable_or_refused steps with buildable | ⟨fault, refused⟩
    · cases failed.symm.trans (h.build_of_buildable buildable).2
    · have fails := h.build_of_refused refused
      exact ⟨fault, refused, Except.error.inj (failed.symm.trans fails)⟩
  · rintro ⟨fault, refused, rfl⟩
    exact h.build_of_refused refused

end

/-! ## The numbers of vertices -/

theorem numbers_eq {b : SpriteBuilder} {steps : List Step}
    (fits : b.vertices.length + vertexCount steps < UInt32.size) :
    (b.numbers steps).map UInt32.toNat =
      List.range' b.vertices.length (vertexCount steps) := by
  induction steps generalizing b with
  | nil => rfl
  | cons step steps ih =>
      cases step with
      | vertex x y =>
          have counted : vertexCount (.vertex x y :: steps) = vertexCount steps + 1 := by
            rw [vertexCount, List.countP_cons_of_pos rfl]
            rfl
          rw [counted] at fits ⊢
          have length : (b.addVertex x y).vertices.length = b.vertices.length + 1 := by
            simp [addVertex]
          have own : (b.addVertex x y).lastIndex.toNat = b.vertices.length := by
            rw [lastIndex, length, Nat.add_sub_cancel, UInt32.toNat_ofNat_of_lt' (by omega)]
          have later := ih (b := b.addVertex x y) (by rw [length]; omega)
          rw [length] at later
          rw [List.range'_succ, ← later, ← own]
          rfl
      | triangle i j k => exact ih (b := b.addTriangle i j k) fits
      | color c =>
          have same : (b.beginRun c).vertices = b.vertices := by
            unfold beginRun
            split
            · rfl
            · split <;> rfl
          have later := ih (b := b.beginRun c) (by rw [same]; exact fits)
          rw [same] at later
          exact later

/-! ## Building and encoding -/

/-- What is built is made of runs. -/
theorem build_encodable (initial : Color) {steps : List Step} (buildable : Buildable steps) :
    Sprite.Encodable
      ⟨((start initial).run steps).vertices, ((start initial).run steps).indices⟩ := by
  have h := run_follows initial steps
  obtain ⟨few, -⟩ := h.build_of_buildable buildable
  have runs := run_inRuns initial steps few
  refine ⟨fun none => ?_, runs.ground, runs.chain, ?_⟩
  · have empty := h.isEmpty_iff.mp (List.isEmpty_iff.mpr none)
    exact Nat.ne_of_gt buildable.hasVertex empty
  · simp only [h.length, h.indices]
    exact buildable.inside

/-- Vertices are numbered as they come. A sprite is built unless something is wrong with the
steps, and then the error says what is wrong first. What is built holds what the steps describe, and
decoding its encoding gives it back. -/
theorem build_described (initial : Color) (steps : List Step)
    (fits : vertexCount steps < UInt32.size) :
    ((start initial).numbers steps).map UInt32.toNat = List.range (vertexCount steps) ∧
    ((∃ s, ((start initial).run steps).build = .ok s) ↔ Buildable steps) ∧
    (∀ e, ((start initial).run steps).build = .error e ↔
      ∃ fault, Refused steps fault ∧ e = .malformedGeometry fault) ∧
    ∀ s, ((start initial).run steps).build = .ok s →
      s.vertices.length = vertexCount steps ∧
      (∀ before x y after, steps = before ++ .vertex x y :: after →
        ∃ v, s.vertices[vertexCount before]? = some v ∧ v.x = x ∧ v.y = y ∧
          v.color = colorAfter initial before ∧ v.layer.toNat = effectiveColors before) ∧
      s.indices = triangleIndices steps ∧
      ∃ bytes, s.encode = .ok bytes ∧ Sprite.decode bytes = .ok s := by
  have h := run_follows initial steps
  have few : (start initial).vertices.length + vertexCount steps < UInt32.size := by
    rw [show (start initial).vertices.length = 0 from rfl, Nat.zero_add]
    exact fits
  have numbers := numbers_eq few
  refine ⟨by rw [numbers, List.range_eq_range']; rfl, ?_, fun e => h.build_eq_error_iff,
    fun s built => ?_⟩
  · simp only [h.build_eq_ok_iff, exists_and_left, exists_eq, and_true]
  obtain ⟨buildable, rfl⟩ := h.build_eq_ok_iff.mp built
  have encodable : Sprite.Encodable _ := build_encodable initial buildable
  obtain ⟨bytes, encoded⟩ := Sprite.encode_isOk_iff.mpr encodable
  refine ⟨h.length, fun before x y after split => ?_, h.indices, bytes, encoded, ?_⟩
  · refine ⟨_, h.vertex before x y after split, rfl, rfl, rfl, ?_⟩
    have few : effectiveColors before ≤ 255 := by
      rw [split] at buildable
      exact Nat.le_trans (effectiveColors_mono before _) buildable.fewRuns
    rw [vertexAfter, Nat.min_eq_left few]
    exact UInt8.toNat_ofNat_of_lt' (Nat.lt_succ_of_le few)
  · exact Sprite.decode_eq_ok_iff.mpr ⟨bytes, [], encoded, by simp, by simp⟩

/-- A colour before all vertices, one that is replaced at once, and one after all vertices. The
triangle comes before its vertices, and a coordinate is not a number. -/
def lateColors : List Step :=
  [.color ⟨9, 9, 9, 9⟩, .triangle 0 2 1, .vertex ⟨0x7FC00001⟩ ⟨0⟩, .color ⟨1, 2, 3, 4⟩,
    .color ⟨5, 6, 7, 8⟩, .vertex ⟨0x3F800000⟩ ⟨0⟩, .vertex ⟨0⟩ ⟨0x80000000⟩, .color .black]

theorem build_described_lateColors :
    vertexCount lateColors < UInt32.size ∧ ∃ s bytes,
      ((start .white).run lateColors).build = .ok s ∧ s.vertices.length = 3 ∧
      (∃ v, s.vertices[1]? = some v ∧ v.color = ⟨5, 6, 7, 8⟩ ∧ v.layer.toNat = 1) ∧
      s.indices = [0, 2, 1] ∧ s.encode = .ok bytes ∧ Sprite.decode bytes = .ok s := by
  have fits : vertexCount lateColors < UInt32.size := by decide
  obtain ⟨-, builds, -, describes⟩ := build_described .white lateColors fits
  have inside : ∀ i ∈ triangleIndices lateColors, i.toNat < vertexCount lateColors := by
    rw [show triangleIndices lateColors = [0, 2, 1] from rfl,
      show vertexCount lateColors = 3 from rfl]
    simp
  obtain ⟨s, built⟩ := builds.mpr ⟨by decide, by decide, inside⟩
  obtain ⟨length, vertex, indices, bytes, encoded, decoded⟩ := describes s built
  obtain ⟨v, found, -, -, color, layer⟩ :=
    vertex (lateColors.take 5) ⟨0x3F800000⟩ ⟨0⟩ (lateColors.drop 6) rfl
  exact ⟨fits, s, bytes, built, length, ⟨v, found, color, layer⟩, indices, encoded, decoded⟩

end SpriteBuilder

end SpriteRenderer
