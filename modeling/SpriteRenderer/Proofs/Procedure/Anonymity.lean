import Mathlib.Logic.Relator
import SpriteRenderer.Proofs.Action.TwoRuns
import SpriteRenderer.Proofs.Procedure.Declaring

/-! # Sessions and identities do not show

Builders compare sessions and the identities of functions, and do nothing else with them. Builders
that are alike but for such numbers answer alike, and compose the same sources. -/

namespace SpriteRenderer

open Relator (BiUnique)
open Result (Agree)

/-! ## What shows -/

/-- A channel without the session of its builder. -/
def Channel.anonymous (c : Channel) : Channel := { c with session := 0 }

/-- A function without its identity. -/
def Function.anonymous (f : Function) : Function := { f with id := 0 }

@[simp] theorem Channel.type_anonymous (c : Channel) : c.anonymous.type = c.type := rfl

@[simp] theorem Channel.name_anonymous (c : Channel) : c.anonymous.name = c.name := rfl

@[simp] theorem Function.name_anonymous (f : Function) : f.anonymous.name = f.name := rfl

@[simp] theorem Function.parameters_anonymous (f : Function) :
    f.anonymous.parameters = f.parameters := rfl

@[simp] theorem Function.source_anonymous (f : Function) : f.anonymous.source = f.source := rfl

def AttributeBinding.anonymous (a : AttributeBinding) : AttributeBinding :=
  { a with channel := a.channel.anonymous }

def ComposedShader.anonymous (s : ComposedShader) : ComposedShader :=
  { s with
    attributes := s.attributes.map AttributeBinding.anonymous
    uniforms := s.uniforms.map Channel.anonymous
    session := 0 }

/-- What does not look at the part that is left out is the same for both lists. -/
theorem map_eq_of_blind {α β : Type} {anonymous : α → α} {f : α → β} {l m : List α}
    (same : l.map anonymous = m.map anonymous) (blind : ∀ a, f (anonymous a) = f a) :
    l.map f = m.map f := by
  have through (k : List α) : k.map f = (k.map anonymous).map f := by
    rw [List.map_map]
    exact List.map_congr_left fun a _ => (blind a).symm
  rw [through l, through m, same]

theorem map_eq_of_forall₂ {α β γ : Type} {Q : α → β → Prop} {f : α → γ} {g : β → γ} {l : List α}
    {m : List β} (related : List.Forall₂ Q l m) (same : ∀ a b, Q a b → f a = g b) :
    l.map f = m.map g := by
  rw [← List.forall₂_eq_eq_eq]
  exact List.rel_map same related

/-! ## Corresponding objects -/

/-- Channels of corresponding sessions. -/
structure Channel.Alike (R : Nat → Nat → Prop) (c d : Channel) : Prop where
  session : R c.session d.session
  anonymous : c.anonymous = d.anonymous

/-- Functions of corresponding identities. -/
structure Function.Alike (F : Nat → Nat → Prop) (f g : Function) : Prop where
  id : F f.id g.id
  anonymous : f.anonymous = g.anonymous

structure Call.Alike (F : Nat → Nat → Prop) (c d : Call) : Prop where
  function : c.function.Alike F d.function
  arguments : c.arguments.map Channel.anonymous = d.arguments.map Channel.anonymous

/-- Builders that differ in what does not show. -/
structure ProcedureBuilder.Alike (R F : Nat → Nat → Prop) (b b' : ProcedureBuilder) : Prop where
  session : R b.session b'.session
  templates : b.templates = b'.templates
  glslVersion : b.glslVersion = b'.glslVersion
  layoutStart : b.layoutStart = b'.layoutStart
  nextChannel : b.nextChannel = b'.nextChannel
  attributes : b.attributes.map Channel.anonymous = b'.attributes.map Channel.anonymous
  uniforms : b.uniforms.map Channel.anonymous = b'.uniforms.map Channel.anonymous
  locals : b.locals.map (Prod.map Channel.anonymous id) =
    b'.locals.map (Prod.map Channel.anonymous id)
  calls : List.Forall₂ (Call.Alike F) b.calls b'.calls
  tallied : b.Tallied ∧ b'.Tallied
  outputs : ∀ o, (b.outputs.get? o).map Channel.anonymous =
    (b'.outputs.get? o).map Channel.anonymous

variable {R R' F F' : Nat → Nat → Prop} {c d : Channel} {f g : Function} {cs ds : List Channel}
  {b b' : ProcedureBuilder}

namespace Channel.Alike

theorem type_eq (alike : c.Alike R d) : c.type = d.type := by
  simpa using congrArg Channel.type alike.anonymous

theorem mono (alike : c.Alike R d) (more : ∀ u v, R u v → R' u v) : c.Alike R' d :=
  ⟨more _ _ alike.session, alike.anonymous⟩

end Channel.Alike

namespace Function.Alike

theorem name_eq (alike : f.Alike F g) : f.name = g.name := by
  simpa using congrArg Function.name alike.anonymous

theorem parameters_eq (alike : f.Alike F g) : f.parameters = g.parameters := by
  simpa using congrArg Function.parameters alike.anonymous

theorem source_eq (alike : f.Alike F g) : f.source = g.source := by
  simpa using congrArg Function.source alike.anonymous

theorem mono (alike : f.Alike F g) (more : ∀ u v, F u v → F' u v) : f.Alike F' g :=
  ⟨more _ _ alike.id, alike.anonymous⟩

/-- Functions are the same exactly if those that correspond to them are. -/
theorem eq_iff (unique : BiUnique F) {f' g' : Function} (alike : f.Alike F g)
    (alike' : f'.Alike F g') : f = f' ↔ g = g' := by
  have ids := Relator.rel_eq unique alike.id alike'.id
  obtain ⟨i, n, p, s⟩ := f
  obtain ⟨i', n', p', s'⟩ := f'
  obtain ⟨j, m, q, t⟩ := g
  obtain ⟨j', m', q', t'⟩ := g'
  have shown : n = m ∧ p = q ∧ s = t := by simpa [Function.anonymous] using alike.anonymous
  have shown' : n' = m' ∧ p' = q' ∧ s' = t' := by simpa [Function.anonymous] using alike'.anonymous
  obtain ⟨rfl, rfl, rfl⟩ := shown
  obtain ⟨rfl, rfl, rfl⟩ := shown'
  simp only [Function.mk.injEq]
  exact and_congr_left' ids

end Function.Alike

theorem Call.Alike.statement_eq {c d : Call} (alike : c.Alike F d) : c.statement = d.statement := by
  have names : c.arguments.map Channel.name = d.arguments.map Channel.name :=
    map_eq_of_blind alike.arguments Channel.name_anonymous
  rw [Call.statement, Call.statement, alike.function.name_eq, names]

namespace ProcedureBuilder

namespace Alike

theorem mono (alike : b.Alike R F b') (sessions : ∀ u v, R u v → R' u v)
    (identities : ∀ u v, F u v → F' u v) : b.Alike R' F' b' :=
  { alike with
    session := sessions _ _ alike.session
    calls := alike.calls.imp fun _ _ call => ⟨call.function.mono identities, call.arguments⟩ }

/-! ## Steps -/

theorem fresh (alike : b.Alike R F b') (role : ChannelRole) (type : ShaderType) :
    (b.fresh role type).Alike R (b'.fresh role type) :=
  ⟨alike.session, by simp [ProcedureBuilder.fresh, Channel.anonymous, alike.nextChannel]⟩

theorem addAttribute (alike : b.Alike R F b') (type : ShaderType) :
    (b.addAttribute type).1.Alike R (b'.addAttribute type).1 ∧
      (b.addAttribute type).2.Alike R F (b'.addAttribute type).2 := by
  have new := alike.fresh .perInstance type
  have tallied := alike.tallied.imp (·.addAttribute type) (·.addAttribute type)
  refine ⟨new, { alike with
    nextChannel := congrArg (· + 1) alike.nextChannel
    tallied
    attributes := ?_ }⟩
  simp [ProcedureBuilder.addAttribute, alike.attributes, new.anonymous]

theorem addOperation (alike : b.Alike R F b') (type : ShaderType) :
    (b.addOperation type).1.Alike R (b'.addOperation type).1 ∧
      (b.addOperation type).2.Alike R F (b'.addOperation type).2 := by
  have new := alike.fresh .perDraw type
  have tallied := alike.tallied.imp (·.addOperation type) (·.addOperation type)
  refine ⟨new, { alike with
    nextChannel := congrArg (· + 1) alike.nextChannel
    tallied
    uniforms := ?_ }⟩
  simp [ProcedureBuilder.addOperation, alike.uniforms, new.anonymous]

theorem addIntermediate (alike : b.Alike R F b') (type : ShaderType) (expression : Option String) :
    (b.addIntermediate type expression).1.Alike R (b'.addIntermediate type expression).1 ∧
      (b.addIntermediate type expression).2.Alike R F (b'.addIntermediate type expression).2 := by
  have new := alike.fresh .intermediate type
  have tallied := alike.tallied.imp (·.addIntermediate type expression)
    (·.addIntermediate type expression)
  refine ⟨new, { alike with
    nextChannel := congrArg (· + 1) alike.nextChannel
    tallied
    locals := ?_ }⟩
  simp [ProcedureBuilder.addIntermediate, alike.locals, new.anonymous]

/-- A builder owns the channels that correspond to those that the other one owns. -/
theorem owns_eq (alike : b.Alike R F b') (unique : BiUnique R) (passed : c.Alike R d) :
    b.owns c = b'.owns d :=
  decide_eq_decide.mpr (Relator.rel_eq unique passed.session alike.session)

theorem checkArguments_eq (alike : b.Alike R F b') (unique : BiUnique R)
    (passed : List.Forall₂ (Channel.Alike R) cs ds) (function : String) (i : Nat)
    (types : List ShaderType) :
    b.checkArguments function i (types.zip cs) = b'.checkArguments function i (types.zip ds) := by
  induction passed generalizing i types with
  | nil => simp [checkArguments]
  | cons first _ ih =>
      cases types with
      | nil => rfl
      | cons type types =>
          simp [checkArguments, alike.owns_eq unique first, first.type_eq, ih]

theorem call (alike : b.Alike R F b') (unique : BiUnique R) (called : f.Alike F g)
    (passed : List.Forall₂ (Channel.Alike R) cs ds) :
    Agree (ProcedureBuilder.Alike R F) (b.call f cs) (b'.call g ds) := by
  have checked := alike.checkArguments_eq unique passed f.name 0 f.parameters
  unfold ProcedureBuilder.call
  rw [← called.name_eq, ← called.parameters_eq, ← passed.length_eq, ← checked]
  by_cases arity : f.parameters.length ≠ cs.length
  · rw [if_pos arity, if_pos arity]
    exact .error _
  · rw [if_neg arity, if_neg arity]
    cases b.checkArguments f.name 0 (f.parameters.zip cs) with
    | error e => exact .error e
    | ok =>
        have calls : List.Forall₂ (Call.Alike F) (b.calls ++ [⟨f, cs⟩]) (b'.calls ++ [⟨g, ds⟩]) :=
          List.rel_append alike.calls (.cons ⟨called, map_eq_of_forall₂ passed fun _ _ h => h.anonymous⟩ .nil)
        have tallied := alike.tallied.imp (·.withCall ⟨f, cs⟩) (·.withCall ⟨g, ds⟩)
        exact .ok { alike with calls, tallied }

theorem setOutput (alike : b.Alike R F b') (unique : BiUnique R) (o : Output)
    (passed : c.Alike R d) :
    Agree (ProcedureBuilder.Alike R F) (b.setOutput o c) (b'.setOutput o d) := by
  unfold ProcedureBuilder.setOutput
  rw [← alike.owns_eq unique passed, ← passed.type_eq]
  split
  · exact .error _
  · split
    · exact .error _
    · have tallied := alike.tallied.imp (·.withOutputs (b.outputs.insert o c))
        (·.withOutputs (b'.outputs.insert o d))
      refine .ok { alike with tallied, outputs := fun p => ?_ }
      rw [Table.get?_insert, Table.get?_insert]
      split
      · exact congrArg some passed.anonymous
      · exact alike.outputs p

/-! ## Composition -/

theorem declare {fs gs : List Function} (unique : BiUnique F)
    (declared : List.Forall₂ (Function.Alike F) fs gs) (called : f.Alike F g) :
    List.Forall₂ (Function.Alike F) (ProcedureBuilder.declare fs f)
      (ProcedureBuilder.declare gs g) := by
  have known : fs.any (·.id = f.id) = gs.any (·.id = g.id) := by
    induction declared with
    | nil => rfl
    | cons first _ ih =>
        rw [List.any_cons, List.any_cons, ih,
          decide_eq_decide.mpr (Relator.rel_eq unique first.id called.id)]
  unfold ProcedureBuilder.declare
  rw [known]
  split
  · exact declared
  · exact List.rel_append declared (.cons called .nil)

/-- Corresponding calls declare corresponding functions. -/
theorem functions (alike : b.Alike R F b') (unique : BiUnique F) :
    List.Forall₂ (Function.Alike F) b.functions b'.functions := by
  have called : List.Forall₂ (Function.Alike F) (b.calls.map (·.function))
      (b'.calls.map (·.function)) :=
    List.rel_map (fun _ _ call => call.function) alike.calls
  rw [alike.tallied.1.functions, alike.tallied.2.functions]
  refine List.rel_foldl ?_ .nil called
  intro fs gs declared f g call
  exact declare unique declared call

theorem attributeBindings (alike : b.Alike R F b') :
    b.attributeBindings.map AttributeBinding.anonymous =
      b'.attributeBindings.map AttributeBinding.anonymous := by
  have through (b : ProcedureBuilder) : b.attributeBindings.map AttributeBinding.anonymous =
      (b.attributes.map Channel.anonymous).zipIdx.map fun p =>
        ⟨p.1, b.layoutStart + .ofNat p.2⟩ := by
    rw [List.zipIdx_map, List.map_map, ProcedureBuilder.attributeBindings, List.map_map]
    rfl
  rw [through b, through b', alike.attributes, alike.layoutStart]

theorem outputExpression (alike : b.Alike R F b') (o : Output) :
    b.outputExpression o = b'.outputExpression o := by
  have text (b : ProcedureBuilder) : b.outputExpression o =
      ((b.outputs.get? o).map Channel.name).getD (o.defaultExpression?.getD "") := by
    unfold ProcedureBuilder.outputExpression
    cases b.outputs.get? o <;> rfl
  have names := congrArg (Option.map Channel.name) (alike.outputs o)
  simp only [Option.map_map, Function.comp_def, Channel.name_anonymous] at names
  rw [text b, text b', names]

theorem slotText (alike : b.Alike R F b') (unique : BiUnique F) (slot : Slot) :
    b.slotText slot = b'.slotText slot := by
  cases slot with
  | version => exact alike.glslVersion
  | attributes =>
      exact congrArg lines (map_eq_of_blind alike.attributeBindings fun _ => rfl)
  | uniforms => exact congrArg lines (map_eq_of_blind alike.uniforms fun _ => rfl)
  | functions =>
      exact congrArg String.join (map_eq_of_forall₂ (alike.functions unique) fun f g called =>
        congrArg (· ++ "\n") called.source_eq)
  | locals => exact congrArg bodyLines (map_eq_of_blind alike.locals fun _ => rfl)
  | calls => exact congrArg bodyLines (map_eq_of_forall₂ alike.calls fun _ _ call => call.statement_eq)
  | position => exact alike.outputExpression .position
  | layer => exact alike.outputExpression .layer
  | color => exact alike.outputExpression .color
  | xAxis => exact alike.outputExpression .xAxis
  | yAxis => exact alike.outputExpression .yAxis

theorem missingOutput? (alike : b.Alike R F b') : b.missingOutput? = b'.missingOutput? := by
  have bound (o : Output) : (b.outputs.get? o).isNone = (b'.outputs.get? o).isNone := by
    simpa using congrArg Option.isNone (alike.outputs o)
  simp only [ProcedureBuilder.missingOutput?, bound]

theorem compose (alike : b.Alike R F b') (unique : BiUnique F) :
    Agree (fun s s' => ComposedShader.anonymous s = s'.anonymous) b.compose b'.compose := by
  unfold ProcedureBuilder.compose
  rw [alike.missingOutput?]
  split
  · exact .error _
  · apply Agree.ok
    simp only [ComposedShader.anonymous, alike.templates, alike.glslVersion,
      funext (alike.slotText unique), alike.attributeBindings, alike.uniforms]

end Alike

end ProcedureBuilder

end SpriteRenderer
