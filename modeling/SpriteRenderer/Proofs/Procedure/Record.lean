import Mathlib.Data.List.DropRight
import SpriteRenderer.Device.Headless
import SpriteRenderer.Proofs.Procedure.Declaring
import SpriteRenderer.Proofs.Procedure.Program
import SpriteRenderer.Proofs.Script.History
import SpriteRenderer.Proofs.Template.Filling

/-! # Records of builders

The record of a builder is what a history tells of it: the steps that it has accepted, in their
order. A builder holds its record and nothing else, so the record decides what is composed. -/

namespace SpriteRenderer

/-- A step that a builder has accepted. -/
inductive Entry where
  | attribute (c : Channel)
  | uniform (c : Channel)
  | intermediate (c : Channel) (expression : Option String)
  | call (c : Call)
  | output (o : Output) (c : Channel)
deriving DecidableEq, Repr

namespace Entry

def attribute? : Entry → Option Channel
  | .attribute c => some c
  | _ => none

def uniform? : Entry → Option Channel
  | uniform c => some c
  | _ => none

def intermediate? : Entry → Option (Channel × Option String)
  | intermediate c e => some (c, e)
  | _ => none

def call? : Entry → Option Call
  | call c => some c
  | _ => none

def output? (o : Output) : Entry → Option Channel
  | output o' c => if o' = o then some c else none
  | _ => none

end Entry

/-! ## What a history tells of a builder -/

namespace Step

/-- The builder that a step goes to. -/
def builder? : Step → Option String
  | addAttribute b .. | addOperation b .. | addIntermediate b .. | call b .. | setOutput b .. =>
    some b
  | _ => none

end Step

namespace Script

variable {δ ℓ : Type}

namespace Moment

/-- A builder of the name begins. -/
def begins (name : String) (m : Moment δ ℓ) : Bool :=
  match m.step, m.answer with
  | .newBuilder as, .ok _ => as = name
  | _, _ => false

/-- What a builder has accepted at a moment. Channels that are made are known from the answer,
channels and functions that are passed from the scene. -/
def accepted? (m : Moment δ ℓ) : Option Entry :=
  match m.step, m.answer with
  | .addAttribute .., .ok (.channel c) => some (.attribute c)
  | .addOperation .., .ok (.channel c) => some (.uniform c)
  | .addIntermediate _ _ e _, .ok (.channel c) => some (.intermediate c e)
  | .call _ function names, .ok _ =>
    (m.scene.functions.get? function).map fun f =>
      .call ⟨f, names.filterMap m.scene.channels.get?⟩
  | .setOutput _ o channel, .ok _ => (m.scene.channels.get? channel).map (.output o)
  | _, _ => none

def entry? (name : String) (m : Moment δ ℓ) : Option Entry :=
  if m.step.builder? = some name then m.accepted? else none

/-- A moment that is told of no builder. -/
def Mute (m : Moment δ ℓ) : Prop := ∀ name, m.begins name = false ∧ m.entry? name = none

theorem mute_of_error (s : Scene δ ℓ) (step : Step) (e : StepError) :
    Mute ⟨s, step, .error e⟩ := by
  intro name
  cases step <;> simp [begins, entry?, accepted?]

theorem entry?_of_other {m : Moment δ ℓ} {name : String} (other : m.step.builder? ≠ some name) :
    m.entry? name = none :=
  if_neg other

end Moment

/-- The record of the builder that was begun last under a name. -/
def record (name : String) (ms : List (Moment δ ℓ)) : List Entry :=
  (ms.rtakeWhile fun m => !m.begins name).filterMap (Moment.entry? name)

theorem record_of_begins {name : String} (ms : List (Moment δ ℓ)) {m : Moment δ ℓ}
    (begins : m.begins name = true) : record name (ms ++ [m]) = [] := by
  rw [record, List.rtakeWhile_concat_neg]
  · rfl
  · simp [begins]

theorem record_append (name : String) (ms : List (Moment δ ℓ)) {m : Moment δ ℓ}
    (goes : m.begins name = false) :
    record name (ms ++ [m]) = record name ms ++ (m.entry? name).toList := by
  rw [record, List.rtakeWhile_concat_pos, List.filterMap_append]
  · cases entry : m.entry? name <;> simp [record, entry]
  · simp [goes]

theorem record_of_silent {name : String} (ms : List (Moment δ ℓ)) {m : Moment δ ℓ}
    (goes : m.begins name = false) (silent : m.entry? name = none) :
    record name (ms ++ [m]) = record name ms := by
  rw [record_append name ms goes, silent, Option.toList_none, List.append_nil]

end Script

/-! ## Builders -/

namespace ProcedureBuilder

/-- A builder of a context that holds a record and nothing else. -/
structure Records (context : Context) (es : List Entry) (b : ProcedureBuilder) : Prop where
  templates : b.templates = context.templates
  version : b.glslVersion = context.config.glslVersion
  start : b.layoutStart = context.config.layoutStart
  attributes : b.attributes = es.filterMap Entry.attribute?
  uniforms : b.uniforms = es.filterMap Entry.uniform?
  locals : b.locals = es.filterMap Entry.intermediate?
  calls : b.calls = es.filterMap Entry.call?
  tallied : b.Tallied
  outputs : ∀ o, b.outputs.get? o = (es.filterMap (Entry.output? o)).getLast?

namespace Records

variable {context : Context} {es : List Entry} {b b' : ProcedureBuilder}

theorem new (session : Nat) : (context.builder session).Records context [] :=
  ⟨rfl, rfl, rfl, rfl, rfl, rfl, rfl, .new context session, fun _ => rfl⟩

theorem addAttribute (h : b.Records context es) (type : ShaderType) :
    (b.addAttribute type).2.Records context (es ++ [.attribute (b.addAttribute type).1]) := by
  refine ⟨h.templates, h.version, h.start, ?_, ?_, ?_, ?_, h.tallied.addAttribute type,
    fun o => ?_⟩ <;>
    simp [ProcedureBuilder.addAttribute, Entry.attribute?, Entry.uniform?, Entry.intermediate?,
      Entry.call?, Entry.output?, h.attributes, h.uniforms, h.locals, h.calls, h.outputs]

theorem addOperation (h : b.Records context es) (type : ShaderType) :
    (b.addOperation type).2.Records context (es ++ [.uniform (b.addOperation type).1]) := by
  refine ⟨h.templates, h.version, h.start, ?_, ?_, ?_, ?_, h.tallied.addOperation type,
    fun o => ?_⟩ <;>
    simp [ProcedureBuilder.addOperation, Entry.attribute?, Entry.uniform?, Entry.intermediate?,
      Entry.call?, Entry.output?, h.attributes, h.uniforms, h.locals, h.calls, h.outputs]

theorem addIntermediate (h : b.Records context es) (type : ShaderType) (e : Option String) :
    (b.addIntermediate type e).2.Records context
      (es ++ [.intermediate (b.addIntermediate type e).1 e]) := by
  refine ⟨h.templates, h.version, h.start, ?_, ?_, ?_, ?_, h.tallied.addIntermediate type e,
    fun o => ?_⟩ <;>
    simp [ProcedureBuilder.addIntermediate, Entry.attribute?, Entry.uniform?,
      Entry.intermediate?, Entry.call?, Entry.output?, h.attributes, h.uniforms, h.locals,
      h.calls, h.outputs]

theorem call (h : b.Records context es) {f : Function} {arguments : List Channel}
    (called : b.call f arguments = .ok b') :
    b'.Records context (es ++ [.call ⟨f, arguments⟩]) := by
  obtain ⟨rfl, -⟩ := eq_of_call called
  refine ⟨h.templates, h.version, h.start, ?_, ?_, ?_, ?_, h.tallied.withCall _, fun o => ?_⟩ <;>
    simp [withCall, Entry.attribute?, Entry.uniform?, Entry.intermediate?, Entry.call?,
      Entry.output?, h.attributes, h.uniforms, h.locals, h.calls, h.outputs]

/-- The output that was bound last counts. -/
theorem setOutput (h : b.Records context es) {o : Output} {c : Channel}
    (bound : b.setOutput o c = .ok b') : b'.Records context (es ++ [.output o c]) := by
  obtain ⟨rfl, -⟩ := eq_of_setOutput bound
  refine ⟨h.templates, h.version, h.start, ?_, ?_, ?_, ?_, h.tallied.withOutputs _, fun o' => ?_⟩
  · simp [Entry.attribute?, h.attributes]
  · simp [Entry.uniform?, h.uniforms]
  · simp [Entry.intermediate?, h.locals]
  · simp [Entry.call?, h.calls]
  · rw [Table.get?_insert, List.filterMap_append]
    by_cases same : o' = o
    · simp [Entry.output?, same]
    · simp [Entry.output?, same, Ne.symm same, h.outputs]

end Records

end ProcedureBuilder

namespace Scene

open Script (Moment Transition record)

variable {δ ℓ : Type}

/-- Every builder of the scene holds its record, and the context is as it was. -/
structure Recorded (context : Context) (ms : List (Moment δ ℓ)) (s : Scene δ ℓ) : Prop where
  constant : s.context = context
  builders : s.builders.All fun name b => b.Records context (record name ms)

namespace Recorded

variable {context : Context} {ms : List (Moment δ ℓ)} {s s' : Scene δ ℓ} {m : Moment δ ℓ}

theorem frame (h : s.Recorded context ms) (mute : m.Mute) (same : s'.context = s.context)
    (fewer : ∀ name b, s'.builders.get? name = some b → s.builders.get? name = some b) :
    s'.Recorded context (ms ++ [m]) := by
  refine ⟨same.trans h.constant, fun name b found => ?_⟩
  obtain ⟨goes, silent⟩ := mute name
  rw [Script.record_of_silent ms goes silent]
  exact h.builders name b (fewer name b found)

/-- What one builder accepts is told of no other one. -/
theorem accept (h : s.Recorded context ms) {name : String} {b : ProcedureBuilder} {e : Entry}
    (goes : ∀ n, m.begins n = false) (meant : m.step.builder? = some name)
    (accepted : m.accepted? = some e) (records : b.Records context (record name ms ++ [e]))
    (same : s'.context = s.context) (builders : s'.builders = s.builders.insert name b) :
    s'.Recorded context (ms ++ [m]) := by
  refine ⟨same.trans h.constant, fun n b' found => ?_⟩
  rw [builders, Table.get?_insert] at found
  rw [Script.record_append n ms (goes n)]
  by_cases here : n = name
  · rw [if_pos here, Option.some.injEq] at found
    have entry : m.entry? n = some e := by rw [Moment.entry?, meant, here, if_pos rfl, accepted]
    rw [entry, here, ← found]
    exact records
  · rw [if_neg here] at found
    have silent : m.entry? n = none := Moment.entry?_of_other (by
      rw [meant, ne_eq, Option.some.injEq]
      exact Ne.symm here)
    rw [silent, Option.toList_none, List.append_nil]
    exact h.builders n b' found

theorem newBuilder (h : s.Recorded context ms) (as : String) :
    Recorded context (ms ++ [⟨s, .newBuilder as, .ok .nothing⟩]) { s with
      nextSession := s.nextSession + 1
      builders := s.builders.insert as (s.context.builder s.nextSession) } := by
  refine ⟨h.constant, fun n b found => ?_⟩
  rw [Table.get?_insert] at found
  by_cases here : n = as
  · rw [if_pos here, Option.some.injEq] at found
    rw [Script.record_of_begins ms (by simp [Moment.begins, here]), ← found, h.constant]
    exact .new _
  · rw [if_neg here] at found
    have silent : Moment.entry? n ⟨s, .newBuilder as, .ok .nothing⟩ = none := rfl
    rw [Script.record_of_silent ms (by simp [Moment.begins, Ne.symm here]) silent]
    exact h.builders n b found

/-- Names of passed channels stand for the channels in the record. -/
theorem filterMap_get? {α : Type} {table : Table String α} {names : List String}
    {objects : List α} (found : List.Forall₂ (fun n a => table.get? n = some a) names objects) :
    names.filterMap table.get? = objects := by
  induction found with
  | nil => rfl
  | cons first _ ih => rw [List.filterMap_cons, first, ih]

variable [Device δ ℓ]

theorem transition (h : s.Recorded context ms) {step : Step}
    {out : Except StepError Answer × Scene δ ℓ} (t : Transition s step out) :
    out.2.Recorded context (ms ++ [⟨s, step, out.1⟩]) := by
  cases t with
  | refused e => exact h.frame (Moment.mute_of_error _ _ _) rfl fun _ _ => id
  | addSpriteRefused e => exact h.frame (Moment.mute_of_error _ _ _) rfl fun _ _ => id
  | asked query r =>
      have mute : Moment.Mute ⟨s, step, r⟩ := by
        intro name
        cases step <;> first | exact ⟨rfl, rfl⟩ | cases query
      exact h.frame mute rfl fun _ _ => id
  | newBuilder as => exact h.newBuilder as
  | addAttribute _ found =>
      exact h.accept (fun _ => rfl) rfl rfl ((h.builders _ _ found).addAttribute _) rfl rfl
  | addOperation _ found =>
      exact h.accept (fun _ => rfl) rfl rfl ((h.builders _ _ found).addOperation _) rfl rfl
  | addIntermediate _ found =>
      exact h.accept (fun _ => rfl) rfl rfl ((h.builders _ _ found).addIntermediate _ _) rfl rfl
  | call passed declared found called =>
      refine h.accept (fun _ => rfl) rfl ?_ ((h.builders _ _ found).call called) rfl rfl
      simp only [Moment.accepted?, declared, filterMap_get? passed, Option.map_some]
  | setOutput passed found bound =>
      refine h.accept (fun _ => rfl) rfl ?_ ((h.builders _ _ found).setOutput bound) rfl rfl
      simp only [Moment.accepted?, passed, Option.map_some]
  | finish found ran =>
      refine h.frame (fun _ => ⟨rfl, rfl⟩) rfl fun name b kept => ?_
      rw [Table.get?_erase] at kept
      split at kept
      · cases kept
      · exact kept
  | _ => exact h.frame (fun _ => ⟨rfl, rfl⟩) rfl fun _ _ => id

end Recorded

end Scene

/-! ## Programs of records -/

namespace ProcedureBuilder.Records

variable {context : Context} {es : List Entry} {b : ProcedureBuilder}

end ProcedureBuilder.Records

end SpriteRenderer
