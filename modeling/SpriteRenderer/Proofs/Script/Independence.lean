import SpriteRenderer.Device.Headless
import SpriteRenderer.Proofs.Procedure.Anonymity
import SpriteRenderer.Proofs.Script.Transition

/-! # Builders do not interfere

Steps on builders, their channels and their functions are answered in the midst of other steps as
they are answered alone. The numbers of sessions and functions, which all steps share, do not
show. -/

namespace SpriteRenderer

open Attempt (Together)
open Relator (BiUnique)
open Result (Agree)

/-! ## Names -/

/-- What is named while shaders are built. -/
inductive ShaderPart where
  | builder (name : String)
  | channel (name : String)
  | function (name : String)
deriving DecidableEq, Repr

namespace Step

/-- The step works on builders, channels and functions only. -/
def builds : Step → Bool
  | newBuilder .. | addAttribute .. | addOperation .. | addIntermediate .. | channelInfo ..
  | newFunction .. | copyFunction .. | sameFunction .. | call .. | setOutput .. | compose .. => true
  | _ => false

/-- What a step that builds looks up or stores. -/
def names : Step → List ShaderPart
  | newBuilder as => [.builder as]
  | addAttribute builder _ as | addOperation builder _ as | addIntermediate builder _ _ as =>
    [.builder builder, .channel as]
  | channelInfo channel => [.channel channel]
  | newFunction _ _ _ as => [.function as]
  | copyFunction function as => [.function function, .function as]
  | sameFunction a b => [.function a, .function b]
  | call builder function arguments =>
    .builder builder :: .function function :: arguments.map .channel
  | setOutput builder _ channel => [.builder builder, .channel channel]
  | compose builder => [.builder builder]
  | _ => []

/-- What a step stores, changes or removes. -/
def changes : Step → List ShaderPart
  | newBuilder as => [.builder as]
  | addAttribute builder _ as | addOperation builder _ as | addIntermediate builder _ _ as =>
    [.builder builder, .channel as]
  | newFunction _ _ _ as | copyFunction _ as => [.function as]
  | call builder .. | setOutput builder .. | finish builder _ => [.builder builder]
  | _ => []

end Step

namespace Answer

/-- An answer without sessions and identities of functions. -/
def anonymous : Answer → Answer
  | channel c => .channel c.anonymous
  | function f => .function f.anonymous
  | composed s => .composed s.anonymous
  | a => a

end Answer

/-! ## Numbers that correspond -/

/-- Numbers below two bounds that correspond one to one. -/
structure Numbering (R : Nat → Nat → Prop) (m n : Nat) : Prop where
  unique : BiUnique R
  below : ∀ u v, R u v → u < m ∧ v < n

namespace Numbering

variable {R : Nat → Nat → Prop} {m n : Nat}

theorem empty (m n : Nat) : Numbering (fun _ _ => False) m n :=
  ⟨⟨nofun, nofun⟩, nofun⟩

theorem mono (h : Numbering R m n) {m' n' : Nat} (left : m ≤ m') (right : n ≤ n') :
    Numbering R m' n' :=
  ⟨h.unique, fun u v corresponds =>
    ⟨Nat.lt_of_lt_of_le (h.below u v corresponds).1 left,
      Nat.lt_of_lt_of_le (h.below u v corresponds).2 right⟩⟩

/-- The numbers given out next correspond. -/
theorem next (h : Numbering R m n) :
    Numbering (fun u v => R u v ∨ u = m ∧ v = n) (m + 1) (n + 1) := by
  refine ⟨⟨?_, ?_⟩, ?_⟩
  · rintro u u' v (old | ⟨rfl, rfl⟩) (old' | ⟨rfl, same⟩)
    · exact h.unique.1 old old'
    · exact absurd (h.below _ _ old).2 (by omega)
    · exact absurd (h.below _ _ old').2 (by omega)
    · rfl
  · rintro u v v' (old | ⟨rfl, rfl⟩) (old' | ⟨same, rfl⟩)
    · exact h.unique.2 old old'
    · exact absurd (h.below _ _ old).1 (by omega)
    · exact absurd (h.below _ _ old').1 (by omega)
    · rfl
  · rintro u v (old | ⟨rfl, rfl⟩)
    · exact ⟨Nat.lt_succ_of_lt (h.below u v old).1, Nat.lt_succ_of_lt (h.below u v old).2⟩
    · exact ⟨Nat.lt_succ_self u, Nat.lt_succ_self v⟩

end Numbering

/-! ## Scenes that look alike -/

namespace Scene

variable {δ ℓ δ' ℓ' : Type}

/-- Two scenes hold corresponding objects under the names of a party. What they hold under other
names does not matter, nor do their hosts. -/
structure Alike (own : ShaderPart → Prop) (R F : Nat → Nat → Prop) (s : Scene δ ℓ)
    (t : Scene δ' ℓ') : Prop where
  context : s.context = t.context
  sessions : Numbering R s.nextSession t.nextSession
  identities : Numbering F s.nextFunction t.nextFunction
  builders : Table.Match (fun name => own (.builder name)) (ProcedureBuilder.Alike R F)
    s.builders t.builders
  channels : Table.Match (fun name => own (.channel name)) (Channel.Alike R)
    s.channels t.channels
  functions : Table.Match (fun name => own (.function name)) (Function.Alike F)
    s.functions t.functions

/-- What is changed at most from a scene to the next. -/
structure Keeps (changed : List ShaderPart) (s s' : Scene δ ℓ) : Prop where
  context : s'.context = s.context
  nextSession : s.nextSession ≤ s'.nextSession
  nextFunction : s.nextFunction ≤ s'.nextFunction
  builders : ∀ name, .builder name ∉ changed → s'.builders.get? name = s.builders.get? name
  channels : ∀ name, .channel name ∉ changed → s'.channels.get? name = s.channels.get? name
  functions : ∀ name, .function name ∉ changed → s'.functions.get? name = s.functions.get? name

variable {own : ShaderPart → Prop} {R F : Nat → Nat → Prop} {s s' : Scene δ ℓ} {t : Scene δ' ℓ'}

/-- Other parties change what they name. -/
theorem Alike.of_keeps (alike : Alike own R F s t) {changed : List ShaderPart}
    (keeps : s.Keeps changed s') (apart : ∀ p ∈ changed, ¬ own p) : Alike own R F s' t where
  context := keeps.context.trans alike.context
  sessions := alike.sessions.mono keeps.nextSession (Nat.le_refl _)
  identities := alike.identities.mono keeps.nextFunction (Nat.le_refl _)
  builders := alike.builders.of_same fun name mine =>
    keeps.builders name fun named => apart _ named mine
  channels := alike.channels.of_same fun name mine =>
    keeps.channels name fun named => apart _ named mine
  functions := alike.functions.of_same fun name mine =>
    keeps.functions name fun named => apart _ named mine

/-- The next sessions correspond. -/
theorem Alike.withSession (alike : Alike own R F s t) :
    Alike own (fun u v => R u v ∨ u = s.nextSession ∧ v = t.nextSession) F
      { s with nextSession := s.nextSession + 1 } { t with nextSession := t.nextSession + 1 } :=
  { alike with
    sessions := alike.sessions.next
    builders := alike.builders.mono fun _ _ h => h.mono (fun _ _ => .inl) fun _ _ => id
    channels := alike.channels.mono fun _ _ h => h.mono fun _ _ => .inl }

/-- The next functions correspond. -/
theorem Alike.withFunction (alike : Alike own R F s t) :
    Alike own R (fun u v => F u v ∨ u = s.nextFunction ∧ v = t.nextFunction)
      { s with nextFunction := s.nextFunction + 1 }
      { t with nextFunction := t.nextFunction + 1 } :=
  { alike with
    identities := alike.identities.next
    builders := alike.builders.mono fun _ _ h => h.mono (fun _ _ => id) fun _ _ => .inl
    functions := alike.functions.mono fun _ _ h => h.mono fun _ _ => .inl }

/-- Scenes without objects look alike, wherever their numbers begin. -/
theorem Alike.of_create [Device δ ℓ] [Device δ' ℓ'] {device : δ} {device' : δ'}
    {config : RendererConfig} {window window' : Size}
    (created : Scene.create device config window = .ok s)
    (created' : Scene.create device' config window' = .ok t) (own : ShaderPart → Prop)
    (session function session' function' : Nat) :
    Alike own (fun _ _ => False) (fun _ _ => False)
      { s with nextSession := session, nextFunction := function }
      { t with nextSession := session', nextFunction := function' } := by
  have parsed := parse_of_create created
  rw [parse_of_create created', Except.ok.injEq] at parsed
  obtain ⟨templates, rfl⟩ := eq_of_create created
  obtain ⟨templates', rfl⟩ := eq_of_create created'
  exact
    { context := congrArg (Context.mk config) parsed.symm
      sessions := .empty _ _
      identities := .empty _ _
      builders := fun _ _ => .none
      channels := fun _ _ => .none
      functions := fun _ _ => .none }

end Scene

theorem Context.builder_alike (c : Context) {R F : Nat → Nat → Prop} {u v : Nat} (h : R u v) :
    (c.builder u).Alike R F (c.builder v) where
  session := h
  templates := rfl
  glslVersion := rfl
  layoutStart := rfl
  nextChannel := rfl
  attributes := rfl
  uniforms := rfl
  locals := rfl
  calls := .nil
  tallied := ⟨.new c u, .new c v⟩
  outputs _ := rfl

namespace Script

open SceneAction
open Scene (Alike)

variable {δ ℓ δ' ℓ' : Type}

/-! ## Steps of other parties -/

theorem Transition.keeps [Device δ ℓ] {s : Scene δ ℓ} {step : Step}
    {out : Except StepError Answer × Scene δ ℓ} (t : Transition s step out) :
    s.Keeps step.changes out.2 := by
  have inserted {α : Type} {table : Table String α} {k : String} {a : α}
      (part : String → ShaderPart) (mem : part k ∈ step.changes) (name : String)
      (other : part name ∉ step.changes) : (table.insert k a).get? name = table.get? name :=
    Table.get?_insert_of_ne _ _ fun same => other (same ▸ mem)
  have same : s.Keeps step.changes s :=
    ⟨rfl, Nat.le_refl _, Nat.le_refl _, fun _ _ => rfl, fun _ _ => rfl, fun _ _ => rfl⟩
  cases t with
  | newBuilder as =>
      exact { same with
        nextSession := Nat.le_succ _
        builders := inserted .builder List.mem_cons_self }
  | addAttribute | addOperation | addIntermediate =>
      exact { same with
        builders := inserted .builder List.mem_cons_self
        channels := inserted .channel (List.mem_cons_of_mem _ List.mem_cons_self) }
  | newFunction =>
      exact { same with
        nextFunction := Nat.le_succ _
        functions := inserted .function List.mem_cons_self }
  | copyFunction => exact { same with functions := inserted .function List.mem_cons_self }
  | call | setOutput => exact { same with builders := inserted .builder List.mem_cons_self }
  | @finish builder as b r host found ran =>
      refine { same with
        builders := fun name other => Table.get?_erase_of_ne _ fun gone => other ?_ }
      rw [gone]
      exact List.mem_cons_self
  | _ => exact { same with }

/-! ## Steps of the party -/

section

variable {own : ShaderPart → Prop} {R F : Nat → Nat → Prop} {α β : Type} {Q : α → β → Prop}
  {P : Scene δ ℓ → Scene δ' ℓ' → Prop} {name : String}

theorem find_together {table : Scene δ ℓ → Table String α} {table' : Scene δ' ℓ' → Table String β}
    (related : ∀ s t, P s t → Option.Rel Q ((table s).get? name) ((table' t).get? name)) :
    Together P Q (find table name) (find table' name) := by
  intro s t start
  have entries := related s t start
  cases found : (table s).get? name <;> cases found' : (table' t).get? name <;>
    rw [found, found'] at entries
  · rw [run_find_of_none found, run_find_of_none found']
    exact ⟨.error _, start⟩
  · cases entries
  · cases entries
  · rw [run_find_of_some found, run_find_of_some found']
    exact ⟨.ok (Option.rel_some_some.mp entries), start⟩

theorem check_together {r : Except RenderError α} {r' : Except RenderError β} (h : Agree Q r r') :
    Together P Q (check r) (check r') :=
  .ofExcept (h.mapError _)

theorem findBuilder_together (mine : own (.builder name)) :
    Together (Alike own R F : Scene δ ℓ → Scene δ' ℓ' → Prop) (ProcedureBuilder.Alike R F)
      (find Scene.builders name) (find Scene.builders name) :=
  find_together fun _ _ alike => alike.builders name mine

theorem findChannel_together (mine : own (.channel name)) :
    Together (Alike own R F : Scene δ ℓ → Scene δ' ℓ' → Prop) (Channel.Alike R)
      (find Scene.channels name) (find Scene.channels name) :=
  find_together fun _ _ alike => alike.channels name mine

theorem findFunction_together (mine : own (.function name)) :
    Together (Alike own R F : Scene δ ℓ → Scene δ' ℓ' → Prop) (Function.Alike F)
      (find Scene.functions name) (find Scene.functions name) :=
  find_together fun _ _ alike => alike.functions name mine

theorem putBuilder_together {b b' : ProcedureBuilder} (h : b.Alike R F b') :
    Together (Alike own R F : Scene δ ℓ → Scene δ' ℓ' → Prop) Eq (putBuilder name b)
      (putBuilder name b') :=
  .modify fun _ _ alike => { alike with builders := alike.builders.insert h }

theorem putChannel_together {c d : Channel} (h : c.Alike R d) :
    Together (Alike own R F : Scene δ ℓ → Scene δ' ℓ' → Prop) Eq (putChannel name c)
      (putChannel name d) :=
  .modify fun _ _ alike => { alike with channels := alike.channels.insert h }

theorem putFunction_together {f g : Function} (h : f.Alike F g) :
    Together (Alike own R F : Scene δ ℓ → Scene δ' ℓ' → Prop) Eq (putFunction name f)
      (putFunction name g) :=
  .modify fun _ _ alike => { alike with functions := alike.functions.insert h }

/-- Answers that look the same. -/
def SameAnswer (a b : Answer) : Prop := a.anonymous = b.anonymous

theorem addChannel_together {builder as : String} (mine : own (.builder builder))
    (code : ShaderTypeCode) {add : ProcedureBuilder → ShaderType → Channel × ProcedureBuilder}
    (adds : ∀ b b' type, b.Alike R F b' → (add b type).1.Alike R (add b' type).1 ∧
      (add b type).2.Alike R F (add b' type).2) :
    Together (Alike own R F : Scene δ ℓ → Scene δ' ℓ' → Prop) SameAnswer
      (addChannel builder code as add) (addChannel builder code as add) := by
  refine .bind (check_together (.refl code.type)) ?_
  rintro type _ rfl
  refine .bind (findBuilder_together mine) fun b b' alike => ?_
  obtain ⟨channel, rest⟩ := adds b b' type alike
  refine .bind (putBuilder_together rest) fun _ _ _ => .bind (putChannel_together channel)
    fun _ _ _ => .pure ?_
  exact congrArg Answer.channel channel.anonymous

/-- A step that builds goes the same way in scenes that look alike to its party. -/
theorem alike_perform [Device δ ℓ] [Device δ' ℓ'] {s : Scene δ ℓ} {t : Scene δ' ℓ'}
    (alike : Alike own R F s t) {step : Step} (builds : step.builds = true)
    (mine : ∀ p ∈ step.names, own p) :
    ∃ R' F', Alike own R' F' ((perform step).run s).2 ((perform step).run t).2 ∧
      Agree SameAnswer ((perform step).run s).1 ((perform step).run t).1 := by
  have sessions := alike.sessions.unique
  have identities := alike.identities.unique
  -- Only new builders and new functions are numbered.
  have usual (together : Together (Alike own R F : Scene δ ℓ → Scene δ' ℓ' → Prop) SameAnswer
      (perform step) (perform step)) : ∃ R' F',
      Alike own R' F' ((perform step).run s).2 ((perform step).run t).2 ∧
        Agree SameAnswer ((perform step).run s).1 ((perform step).run t).1 :=
    ⟨R, F, (together s t alike).2, (together s t alike).1⟩
  cases step with
  | newBuilder as =>
      have next := alike.withSession
      have new : (s.context.builder s.nextSession).Alike
          (fun u v => R u v ∨ u = s.nextSession ∧ v = t.nextSession) F
          (t.context.builder t.nextSession) := by
        rw [alike.context]
        exact t.context.builder_alike (.inr ⟨rfl, rfl⟩)
      exact ⟨_, _, { next with builders := next.builders.insert new }, .ok rfl⟩
  | newFunction name codes source as =>
      simp only [perform]
      cases codes.mapM ShaderTypeCode.type with
      | error e => exact ⟨R, F, alike, .error _⟩
      | ok parameters =>
          have next := alike.withFunction
          have new : (⟨s.nextFunction, name, parameters, source⟩ : Function).Alike
              (fun u v => F u v ∨ u = s.nextFunction ∧ v = t.nextFunction)
              ⟨t.nextFunction, name, parameters, source⟩ := ⟨.inr ⟨rfl, rfl⟩, rfl⟩
          exact ⟨_, _, { next with functions := next.functions.insert new }, .ok rfl⟩
  | addAttribute builder code as =>
      exact usual (addChannel_together (mine _ List.mem_cons_self) code fun _ _ type h =>
        h.addAttribute type)
  | addOperation builder code as =>
      exact usual (addChannel_together (mine _ List.mem_cons_self) code fun _ _ type h =>
        h.addOperation type)
  | addIntermediate builder code expression as =>
      exact usual (addChannel_together (mine _ List.mem_cons_self) code fun _ _ type h =>
        h.addIntermediate type expression)
  | channelInfo channel =>
      exact usual (.bind (findChannel_together (mine _ List.mem_cons_self)) fun c d h =>
        .pure (congrArg Answer.channel h.anonymous))
  | copyFunction function as =>
      exact usual (.bind (findFunction_together (mine _ List.mem_cons_self)) fun f g h =>
        .bind (putFunction_together h) fun _ _ _ => .pure rfl)
  | sameFunction a b =>
      refine usual (.bind (findFunction_together (mine _ List.mem_cons_self)) fun f g h =>
        .bind (findFunction_together (mine _ (by simp [Step.names]))) fun f' g' h' => .pure ?_)
      exact congrArg Answer.truth (decide_eq_decide.mpr (h.eq_iff identities h'))
  | call builder function arguments =>
      have passed : ∀ c ∈ arguments, own (.channel c) := fun c hc =>
        mine _ (by simp [Step.names, hc])
      refine usual (.bind (.mapM arguments fun c hc => findChannel_together (passed c hc))
        fun cs ds hcs => .bind (findFunction_together (mine _ (by simp [Step.names])))
        fun f g hf => .bind (findBuilder_together (mine _ List.mem_cons_self))
        fun b b' hb => .bind (check_together (hb.call sessions hf hcs))
        fun c c' hc => .bind (putBuilder_together hc) fun _ _ _ => .pure rfl)
  | setOutput builder output channel =>
      refine usual (.bind (findChannel_together (mine _ (by simp [Step.names])))
        fun c d hc => .bind (findBuilder_together (mine _ List.mem_cons_self))
        fun b b' hb => .bind (check_together (hb.setOutput sessions output hc))
        fun c c' hc => .bind (putBuilder_together hc) fun _ _ _ => .pure rfl)
  | compose builder =>
      refine usual (.bind (findBuilder_together (mine _ List.mem_cons_self))
        fun b b' hb => .bind (check_together (hb.compose identities))
        fun shader shader' h => .pure (congrArg Answer.composed h))
  | _ => cases builds

end

/-! ## Scripts -/

/-- The elements that are marked. -/
def picked {α : Type} : List Bool → List α → List α
  | true :: marks, a :: as => a :: picked marks as
  | false :: marks, _ :: as => picked marks as
  | _, _ => []

variable [Device δ ℓ] [Device δ' ℓ'] {s₀ : Scene δ ℓ} {t₀ : Scene δ' ℓ'}

/-- Steps of other parties between those of a party do not change how it is answered. -/
theorem answers_agree {own : ShaderPart → Prop} (steps : List Step) (marks : List Bool)
    (builds : ∀ a ∈ picked marks steps, a.builds = true)
    (mine : ∀ a ∈ picked marks steps, ∀ p ∈ a.names, own p)
    (apart : ∀ a ∈ picked (marks.map not) steps, ∀ p ∈ a.changes, ¬ own p)
    {R F : Nat → Nat → Prop} {s : Scene δ ℓ} {t : Scene δ' ℓ'} (alike : Alike own R F s t) :
    List.Forall₂ (Agree SameAnswer) (picked marks (run steps s).1)
      (run (picked marks steps) t).1 := by
  induction steps generalizing marks s t R F with
  | nil =>
      cases marks with
      | nil => exact .nil
      | cons mark marks => cases mark <;> exact .nil
  | cons a steps ih =>
      cases marks with
      | nil => exact .nil
      | cons mark marks =>
          cases mark with
          | true =>
              obtain ⟨R', F', next, answers⟩ := alike_perform alike
                (builds a List.mem_cons_self) (mine a List.mem_cons_self)
              exact .cons answers (ih marks (fun b hb => builds b (List.mem_cons_of_mem a hb))
                (fun b hb => mine b (List.mem_cons_of_mem a hb)) apart next)
          | false =>
              have keeps := (transition_perform a s).keeps
              exact ih marks builds mine (fun b hb => apart b (List.mem_cons_of_mem a hb))
                (alike.of_keeps keeps (apart a List.mem_cons_self))

/-- A party that builds is answered in the midst of other steps as it is answered alone, on a
device of its own and wherever sessions and functions begin to be numbered, as long as the others
leave what it names. Answers show everything but these numbers: channels with their names, roles
and types, sources, locations and the order of uniforms. -/
theorem builders_do_not_interfere {device : δ} {device' : δ'} {config : RendererConfig}
    {window window' : Size} (created : Scene.create device config window = .ok s₀)
    (created' : Scene.create device' config window' = .ok t₀)
    (session function session' function' : Nat) (steps : List Step) (marks : List Bool)
    (builds : ∀ a ∈ picked marks steps, a.builds = true)
    (apart : ∀ a ∈ picked marks steps, ∀ b ∈ picked (marks.map not) steps,
      ∀ p ∈ a.names, p ∉ b.changes) :
    let s : Scene δ ℓ := { s₀ with nextSession := session, nextFunction := function }
    let t : Scene δ' ℓ' := { t₀ with nextSession := session', nextFunction := function' }
    (picked marks (run steps s).1).map (Except.map Answer.anonymous) =
      (run (picked marks steps) t).1.map (Except.map Answer.anonymous) := by
  intro s t
  let own (p : ShaderPart) : Prop := ∃ a ∈ picked marks steps, p ∈ a.names
  have alike := Scene.Alike.of_create created created' own session function session' function'
  have answers := answers_agree steps marks builds (fun a ha p hp => ⟨a, ha, hp⟩)
    (fun b hb p hp ⟨a, ha, named⟩ => apart a ha b hb p named hp) alike
  exact map_eq_of_forall₂ answers fun _ _ h => h.map_eq fun _ _ same => same

/-- Two builders call a function and a copy of it in turn. The second is refused a channel of the
first, and a third builder and another function are made meanwhile. The marks are those of the first
builder and of the function. -/
def interleavedBuilders : List (Bool × Step) :=
  [(true, .newBuilder "a"), (false, .newBuilder "b"),
    (true, .newFunction "turn" [⟨.float, 2⟩] "void turn(vec2 v);" "f"),
    (true, .copyFunction "f" "g"), (true, .addAttribute "a" ⟨.float, 2⟩ "place"),
    (false, .addAttribute "b" ⟨.float, 2⟩ "otherPlace"), (false, .newBuilder "third"),
    (true, .addOperation "a" ⟨.uint, 1⟩ "layer"),
    (false, .addOperation "b" ⟨.uint, 1⟩ "otherLayer"),
    (true, .call "a" "f" ["place"]), (false, .call "b" "g" ["otherPlace"]),
    (false, .newFunction "other" [] "void other();" "h"), (true, .call "a" "g" ["place"]),
    (false, .call "b" "f" ["place"]), (true, .sameFunction "f" "g"),
    (true, .setOutput "a" .position "place"), (false, .setOutput "b" .position "otherPlace"),
    (true, .setOutput "a" .layer "place"), (true, .setOutput "a" .layer "layer"),
    (false, .call "b" "h" []), (true, .compose "a"), (false, .compose "b")]

/-- What the first builder composes. The function is declared once. -/
def turningShader (session : Nat) : ComposedShader where
  vertexSource := "#version 330 corelayout(location = 2) in vec2 c1;uniform uint c2;" ++
    "void turn(vec2 v);\nturn(c1);\n    turn(c1);c1c2ivec3(aColor.rgb)vec2(1.0, 0.0)vec2(0.0, 1.0)"
  fragmentSource := "#version 330 core"
  attributes := [⟨⟨session, 1, .perInstance, .vec2⟩, 2⟩]
  uniforms := [⟨session, 2, .perDraw, .uint⟩]
  session := session

theorem builders_do_not_interfere_interleavedBuilders :
    ∃ s₀ t₀ : Scene Headless String, Scene.create ({} : Headless) .bare ⟨4, 4⟩ = .ok s₀ ∧
      Scene.create ({} : Headless) .bare ⟨8, 8⟩ = .ok t₀ ∧
      let marks := interleavedBuilders.map (·.1)
      let steps := interleavedBuilders.map (·.2)
      let s := { s₀ with nextSession := 40, nextFunction := 7 }
      (picked marks (run steps s).1).map (Except.map Answer.anonymous) =
          (run (picked marks steps) t₀).1.map (Except.map Answer.anonymous) ∧
        (picked marks (run steps s).1).getLast? = some (.ok (.composed (turningShader 40))) ∧
        (run (picked marks steps) t₀).1.getLast? = some (.ok (.composed (turningShader 1))) := by
  have created (window : Size) : Scene.create ({} : Headless) .bare window =
      .ok (Scene.start {} window .bare .bare : Scene Headless String) :=
    Scene.create_of_parse ShaderTemplates.parse_bare _ _
  refine ⟨_, _, created _, created _, ?_, ?_, ?_⟩
  · exact builders_do_not_interfere (created _) (created _) 40 7 1 1 _ _ (by decide) (by decide)
  · decide +kernel
  · decide +kernel

end Script

end SpriteRenderer
