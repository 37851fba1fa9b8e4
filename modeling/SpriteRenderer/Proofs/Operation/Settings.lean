import SpriteRenderer.Proofs.Operation.Calls
import SpriteRenderer.Proofs.Session.History

/-! # Settings of operations

What an operation draws, how often and with which values is what it was told last. -/

namespace SpriteRenderer

/-- What an operation is told. -/
inductive Setting where
  /-- The operation is new. -/
  | start
  /-- The value of the channel of an id. -/
  | value (id : Nat) (v : ChannelValue)
  /-- The first index and the number of indices of a sprite. -/
  | range (r : UInt32 × UInt32)
  | amount (n : UInt32)

namespace Setting

/-- A new operation has no values. -/
def value? (id : Nat) : Setting → Option (Option ChannelValue)
  | start => some none
  | value i v => if i = id then some (some v) else none
  | _ => none

/-- A new operation has no sprite. -/
def range? : Setting → Option (Option (UInt32 × UInt32))
  | start => some none
  | range r => some (some r)
  | _ => none

/-- A new operation draws no instance. -/
def amount? : Setting → Option UInt32
  | start => some 0
  | amount n => some n
  | _ => none

end Setting

namespace Headless

/-- What the operation of a name is told. What is refused tells nothing. -/
def Moment.setting? (name : String) (m : Moment) : Option Setting :=
  match m.directive, m.answer with
  | .step (.newOperation _ as), .ok _ => if as = name then some .start else none
  | .step (.setValue operation channel v), .ok _ =>
    if operation = name then (m.scene.channels.get? channel).map fun c => .value c.id v else none
  | .step (.setSprite operation buffer id), .ok _ =>
    if operation = name then
      (m.scene.spriteBuffers.get? buffer).bind fun b => (b.indexRange? id).map .range
    else none
  | .step (.setAmount operation n), .ok _ => if operation = name then some (.amount n) else none
  | _, _ => none

section

variable {α : Type} (f : Setting → Option α) {name : String} {m : Moment} (ms : List Moment)

/-- What the operation of a name was told last of a kind. -/
def lastTold? (name : String) (ms : List Moment) : Option α :=
  latest? (fun m => (m.setting? name).bind f) ms

theorem lastTold?_append {σ : Setting} (told : m.setting? name = some σ) :
    lastTold? f name (ms ++ [m]) = (f σ).or (lastTold? f name ms) :=
  latest?_append_of_told told f ms

theorem lastTold?_append_of_none (silent : m.setting? name = none) :
    lastTold? f name (ms ++ [m]) = lastTold? f name ms :=
  latest?_append_of_silent silent f ms

end

/-- The last value that the operation of a name took for the channel of an id. -/
def lastValue? (name : String) (id : Nat) (ms : List Moment) : Option ChannelValue :=
  (lastTold? (Setting.value? id) name ms).join

/-- The last sprite that the operation of a name took. -/
def lastRange? (name : String) (ms : List Moment) : Option (UInt32 × UInt32) :=
  (lastTold? Setting.range? name ms).join

def lastAmount (name : String) (ms : List Moment) : UInt32 :=
  (lastTold? Setting.amount? name ms).getD 0

/-- An operation is as it was told last. -/
structure Follows (ms : List Moment) (name : String) (op : Operation String) : Prop where
  values : ∀ id, op.values.get? id = lastValue? name id ms
  sprite : op.sprite = lastRange? name ms
  amount : op.amount = lastAmount name ms

namespace Follows

variable {ms : List Moment} {name : String} {op : Operation String} {m : Moment}

theorem silent (h : Follows ms name op) (silent : m.setting? name = none) :
    Follows (ms ++ [m]) name op := by
  refine ⟨fun id => ?_, ?_, ?_⟩
  · rw [lastValue?, lastTold?_append_of_none _ _ silent]
    exact h.values id
  · rw [lastRange?, lastTold?_append_of_none _ _ silent]
    exact h.sprite
  · rw [lastAmount, lastTold?_append_of_none _ _ silent]
    exact h.amount

theorem start (told : m.setting? name = some .start) (vertexArray : Handle)
    (procedure : Procedure String) : Follows (ms ++ [m]) name { vertexArray, procedure } := by
  refine ⟨fun id => ?_, ?_, ?_⟩
  · rw [lastValue?, lastTold?_append _ _ told]
    rfl
  · rw [lastRange?, lastTold?_append _ _ told]
    rfl
  · rw [lastAmount, lastTold?_append _ _ told]
    rfl

theorem value (h : Follows ms name op) {id : Nat} {v : ChannelValue}
    (told : m.setting? name = some (.value id v)) :
    Follows (ms ++ [m]) name { op with values := op.values.insert id v } := by
  refine ⟨fun i => ?_, ?_, ?_⟩
  · rw [Table.get?_insert, lastValue?, lastTold?_append _ _ told, Setting.value?]
    by_cases same : i = id
    · rw [if_pos same, if_pos same.symm]
      rfl
    · rw [if_neg same, if_neg (Ne.symm same)]
      exact h.values i
  · rw [lastRange?, lastTold?_append _ _ told]
    exact h.sprite
  · rw [lastAmount, lastTold?_append _ _ told]
    exact h.amount

theorem range (h : Follows ms name op) {r : UInt32 × UInt32}
    (told : m.setting? name = some (.range r)) :
    Follows (ms ++ [m]) name { op with sprite := some r } := by
  refine ⟨fun id => ?_, ?_, ?_⟩
  · rw [lastValue?, lastTold?_append _ _ told]
    exact h.values id
  · rw [lastRange?, lastTold?_append _ _ told]
    rfl
  · rw [lastAmount, lastTold?_append _ _ told]
    exact h.amount

theorem setAmount (h : Follows ms name op) {n : UInt32}
    (told : m.setting? name = some (.amount n)) :
    Follows (ms ++ [m]) name (op.setAmount n) := by
  refine ⟨fun id => ?_, ?_, ?_⟩
  · rw [lastValue?, lastTold?_append _ _ told]
    exact h.values id
  · rw [lastRange?, lastTold?_append _ _ told]
    exact h.sprite
  · rw [lastAmount, lastTold?_append _ _ told]
    rfl

/-- Bindings of attributes are no settings. -/
theorem bindings (h : Follows ms name op) (bindings : Table Nat InstanceBinding) :
    Follows ms name { op with bindings } :=
  ⟨h.values, h.sprite, h.amount⟩

end Follows

theorem Moment.setting?_of_error (name : String) (s : Scene Headless String) (d : Directive)
    (e : StepError) : Moment.setting? name ⟨s, d, .error e⟩ = none := by
  unfold setting?
  split <;> first | rfl | contradiction

theorem Moment.setting?_of_not_step {m : Moment} (noStep : ∀ step, m.directive ≠ .step step)
    (name : String) : m.setting? name = none := by
  obtain ⟨s, d, r⟩ := m
  cases d with
  | step step => exact absurd rfl (noStep step)
  | _ => rfl

theorem follows_transition {ms : List Moment} {s : Scene Headless String}
    (h : s.operations.All (Follows ms)) {step : Step}
    {out : Except StepError Answer × Scene Headless String} (t : Script.Transition s step out) :
    out.2.operations.All (Follows (ms ++ [⟨s, .step step, out.1⟩])) := by
  have still (silent : ∀ name, Moment.setting? name ⟨s, .step step, out.1⟩ = none) :
      s.operations.All (Follows (ms ++ [⟨s, .step step, out.1⟩])) :=
    h.mono fun name _ _ follows => follows.silent (silent name)
  cases t with
  | refused e => exact still fun name => Moment.setting?_of_error name s _ e
  | addSpriteRefused e => exact still fun name => Moment.setting?_of_error name s _ e
  | asked query r => exact still fun name => by cases step <;> first | rfl | cases query
  | @newOperation procedure as p r host found ran =>
      cases r with
      | error e => exact still fun name => Moment.setting?_of_error name s _ _
      | ok op =>
          obtain ⟨vertexArray, rfl⟩ := Operation.create_yields_new _ _ _ _ ran
          refine h.replace (fun name _ other follows => follows.silent (if_neg (Ne.symm other))) ?_
          refine .start ?_ _ _
          exact if_pos rfl
  | @setAttribute operation _ _ _ _ c b op r host _ _ found ran =>
      cases r with
      | error e => exact still fun name => Moment.setting?_of_error name s _ _
      | ok op' =>
          obtain ⟨bindings, rfl⟩ := Operation.setAttribute_yields_bindings _ _ _ _ _ _ _ _ ran
          have follows := still (fun _ => rfl) operation op found
          exact (still fun _ => rfl).insert (follows.bindings bindings)
  | @setValue operation channel v c op op' passed found stored =>
      rw [Operation.eq_of_setValue stored]
      refine h.replace (fun name _ other follows => follows.silent (if_neg (Ne.symm other))) ?_
      refine (h operation op found).value ?_
      simp [Moment.setting?, passed]
  | @setSprite operation buffer id b op r host packed found ran =>
      cases r with
      | error e => exact still fun name => Moment.setting?_of_error name s _ _
      | ok op' =>
          obtain ⟨range, known, rfl⟩ := Operation.setSprite_yields_range _ _ _ _ _ _ ran
          refine h.replace (fun name _ other follows => follows.silent (if_neg (Ne.symm other))) ?_
          refine (h operation op found).range ?_
          simp [Moment.setting?, packed, known]
  | @setAmount operation amount op found =>
      exact h.replace (fun name _ other follows => follows.silent (if_neg (Ne.symm other)))
        ((h operation op found).setAmount (if_pos rfl))
  | freeOperation found => exact (still fun _ => rfl).erase _
  | _ => exact still fun _ => rfl

/-- Whatever a session does, every operation is as it was told last. -/
theorem follows_after {device : Headless} {config : RendererConfig} {window : Size}
    {s₀ : Scene Headless String} (created : Scene.create device config window = .ok s₀)
    (ds : List Directive) : (after s₀ ds).operations.All (Follows (history s₀ ds)) := by
  have start : s₀.operations.All (Follows []) := by
    obtain ⟨templates, rfl⟩ := Scene.eq_of_create created
    exact .empty
  exact history_induction_of_host (I := fun ms s => s.operations.All (Follows ms)) start
    (fun _ _ _ _ t h => follows_transition h t)
    (fun _ _ _ _ noStep h => h.mono fun name _ _ follows =>
      follows.silent (Moment.setting?_of_not_step noStep name)) ds

end Headless

end SpriteRenderer
