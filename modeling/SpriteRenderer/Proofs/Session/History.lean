import Mathlib.Data.List.Induction
import SpriteRenderer.Proofs.Script.Transition
import SpriteRenderer.Session

/-! # Histories of sessions

A history keeps every directive that was carried out with the scene that it met and the answer
that it got. What an object was last given is read off the history, not off the object. -/

namespace SpriteRenderer.Headless

namespace Directive

/-- The directive calls the device itself, past the objects of the scene. -/
def isDirect : Directive → Bool
  | request _ | recorded => true
  | _ => false

end Directive

structure Moment where
  scene : Scene Headless String
  directive : Directive
  answer : Except StepError Answer

/-- The scene after directives. -/
def after (s : Scene Headless String) (ds : List Directive) : Scene Headless String :=
  ds.foldl (fun s d => ((carryOut d).run s).2) s

/-- A directive on a scene, with its answer. -/
def moment (s : Scene Headless String) (d : Directive) : Moment :=
  ⟨s, d, ((carryOut d).run s).1⟩

/-- Every directive as it was carried out, the first one in front. -/
def history : Scene Headless String → List Directive → List Moment
  | _, [] => []
  | s, d :: ds => moment s d :: history (after s [d]) ds

theorem after_append (s : Scene Headless String) (ds es : List Directive) :
    after s (ds ++ es) = after (after s ds) es := by
  simp [after]

theorem history_append (s : Scene Headless String) (ds es : List Directive) :
    history s (ds ++ es) = history s ds ++ history (after s ds) es := by
  induction ds generalizing s with
  | nil => rfl
  | cons d ds ih => exact congrArg (moment s d :: ·) (ih (after s [d]))

/-! ## The host after a call -/

section

variable {s : Scene Headless String} {name target destination : String} {t d : RenderTarget}
  {op : Operation String}

private theorem host_run_onHost {α : Type} (x : Action Headless α) (f : α → Answer)
    (s : Scene Headless String) :
    ((SceneAction.onHost x >>= fun a => pure (f a)).run s).2.host = (x.run s.host).2 := by
  rw [Attempt.run_bind, SceneAction.run_onHost]
  cases x.run s.host with
  | mk r host => cases r <;> rfl

theorem host_after_draw (aimed : s.targets.get? target = some t)
    (found : s.operations.get? name = some op) :
    (after s [.step (.draw name target)]).host =
      ((op.drawTo t : Action Headless Unit).run s.host).2 := by
  change ((Script.perform (.draw name target)).run s).2.host = _
  rw [Script.perform, Attempt.run_bind_of_ok _ (SceneAction.run_find_of_some aimed),
    Attempt.run_bind_of_ok _ (SceneAction.run_find_of_some found)]
  exact host_run_onHost _ (fun _ => .nothing) s

end

/-! ## The latest moment -/

/-- What the latest moment that tells something tells. -/
def latest? {α : Type} (f : Moment → Option α) (ms : List Moment) : Option α :=
  ms.reverse.findSome? f

theorem latest?_append_of_some {α : Type} {f : Moment → Option α} {m : Moment} {a : α}
    (h : f m = some a) (ms : List Moment) : latest? f (ms ++ [m]) = some a := by
  simp [latest?, h]

theorem latest?_append_of_none {α : Type} {f : Moment → Option α} {m : Moment}
    (h : f m = none) (ms : List Moment) : latest? f (ms ++ [m]) = latest? f ms := by
  simp [latest?, h]

/-- Something that is told of the kind that is asked for is the latest. -/
theorem latest?_append_of_told {α β : Type} {f : Moment → Option α} {m : Moment} {a : α}
    (told : f m = some a) (g : α → Option β) (ms : List Moment) :
    latest? (fun m => (f m).bind g) (ms ++ [m]) =
      (g a).or (latest? (fun m => (f m).bind g) ms) := by
  cases h : g a with
  | none => exact latest?_append_of_none (by simp [told, h]) ms
  | some b => exact latest?_append_of_some (by simp [told, h]) ms

theorem latest?_append_of_silent {α β : Type} {f : Moment → Option α} {m : Moment}
    (silent : f m = none) (g : α → Option β) (ms : List Moment) :
    latest? (fun m => (f m).bind g) (ms ++ [m]) = latest? (fun m => (f m).bind g) ms :=
  latest?_append_of_none (by simp [silent]) ms

/-- Moments that tell nothing are passed over. -/
theorem latest?_append_of_all_none {α : Type} {f : Moment → Option α} {later : List Moment}
    (silent : ∀ m ∈ later, f m = none) (ms : List Moment) :
    latest? f (ms ++ later) = latest? f ms := by
  have nothing : later.reverse.findSome? f = none :=
    List.findSome?_eq_none_iff.mpr fun m hm => silent m (List.mem_reverse.mp hm)
  rw [latest?, List.reverse_append, List.findSome?_append, nothing]
  rfl

/-! ## Directives that are no steps -/

/-- The device with other failures queued. -/
def withFailures (d : Headless) (compile link : Option String) (creations : Option Nat) :
    Headless :=
  { d with compileFailure := compile, linkFailure := link, creationsLeft := creations }

private theorem snd_run_find {α : Type} (table : Scene Headless String → Table String α)
    (name : String) (f : α → Answer) (s : Scene Headless String) :
    ((SceneAction.find table name >>= fun a => pure (f a)).run s).2 = s := by
  cases found : (table s).get? name with
  | none => rw [Attempt.run_bind_of_error _ (SceneAction.run_find_of_none found)]
  | some a =>
      rw [Attempt.run_bind_of_ok _ (SceneAction.run_find_of_some found)]
      rfl

/-- A directive of the library that is no step at most queues a failure. -/
theorem after_of_not_step {d : Directive} (library : d.isDirect = false)
    (h : ∀ step, d ≠ .step step) (s : Scene Headless String) :
    ∃ compile link creations, after s [d] = { s with
      host := { s.host with device := s.host.device.withFailures compile link creations } } := by
  cases d with
  | step step => exact absurd rfl (h step)
  | request | recorded => cases library
  | failCompile log => exact ⟨some log, s.host.device.linkFailure, s.host.device.creationsLeft, rfl⟩
  | failLink log => exact ⟨s.host.device.compileFailure, some log, s.host.device.creationsLeft, rfl⟩
  | failCreation n => exact ⟨s.host.device.compileFailure, s.host.device.linkFailure, some n, rfl⟩
  | bufferContents b =>
      exact ⟨s.host.device.compileFailure, s.host.device.linkFailure,
        s.host.device.creationsLeft, rfl⟩
  | inspect e =>
      refine ⟨s.host.device.compileFailure, s.host.device.linkFailure,
        s.host.device.creationsLeft, ?_⟩
      cases e with
      | context => rfl
      | procedure name => exact snd_run_find Scene.procedures name _ s
      | operation name => exact snd_run_find Scene.operations name _ s
      | target name => exact snd_run_find Scene.targets name _ s

/-- A directive that is no step leaves every object of the scene. -/
theorem exists_host_of_not_step {d : Directive} (h : ∀ step, d ≠ .step step)
    (s : Scene Headless String) : ∃ host, after s [d] = { s with host } := by
  by_cases direct : d.isDirect
  · cases d with
    | request r => exact ⟨_, rfl⟩
    | recorded => exact ⟨_, rfl⟩
    | _ => cases direct
  · obtain ⟨compile, link, creations, same⟩ := after_of_not_step (by simpa using direct) h s
    exact ⟨_, same⟩

/-! ## Invariants -/

section

variable {I : List Moment → Scene Headless String → Prop} {s₀ : Scene Headless String}

/-- What holds at the start, and is kept by every step and every other directive of a kind, holds
after every session of such directives. -/
theorem history_induction_of_next {D : Directive → Prop} (start : I [] s₀)
    (step : ∀ ms s a, I ms s → I (ms ++ [moment s (.step a)]) (after s [.step a]))
    (other : ∀ ms s d, D d → (∀ a, d ≠ .step a) → I ms s → I (ms ++ [moment s d]) (after s [d]))
    (ds : List Directive) (kind : ∀ d ∈ ds, D d) : I (history s₀ ds) (after s₀ ds) := by
  induction ds using List.reverseRecOn with
  | nil => exact start
  | append_singleton ds d ih =>
      have before := ih fun e he => kind e (by simp [he])
      rw [history_append, after_append]
      by_cases isStep : ∃ a, d = .step a
      · obtain ⟨a, rfl⟩ := isStep
        exact step _ _ a before
      · exact other _ _ d (kind d (by simp)) (fun a ha => isStep ⟨a, ha⟩) before

/-- What holds at the start, and is kept by every step and every queued failure, holds after
every session of the library. -/
theorem history_induction_of_run (start : I [] s₀)
    (step : ∀ ms s step out, (Script.perform step).run s = out → I ms s →
      I (ms ++ [⟨s, .step step, out.1⟩]) out.2)
    (failure : ∀ ms (s : Scene Headless String) (m : Moment) compile link creations,
      (∀ step, m.directive ≠ .step step) → I ms s →
      I (ms ++ [m]) { s with
        host := { s.host with device := s.host.device.withFailures compile link creations } })
    (ds : List Directive) (library : ∀ d ∈ ds, d.isDirect = false) :
    I (history s₀ ds) (after s₀ ds) := by
  refine history_induction_of_next start (fun ms s a before => step ms s a _ rfl before)
    (fun ms s d indirect noStep before => ?_) ds library
  obtain ⟨compile, link, creations, same⟩ := after_of_not_step indirect noStep s
  rw [same]
  exact failure ms s (moment s d) compile link creations noStep before

/-- It is enough to look at what a step can end with. -/
theorem history_induction (start : I [] s₀)
    (step : ∀ ms s step out, Script.Transition s step out → I ms s →
      I (ms ++ [⟨s, .step step, out.1⟩]) out.2)
    (failure : ∀ ms (s : Scene Headless String) (m : Moment) compile link creations,
      (∀ step, m.directive ≠ .step step) → I ms s →
      I (ms ++ [m]) { s with
        host := { s.host with device := s.host.device.withFailures compile link creations } })
    (ds : List Directive) (library : ∀ d ∈ ds, d.isDirect = false) :
    I (history s₀ ds) (after s₀ ds) :=
  history_induction_of_run start
    (fun ms s a out ran before => step ms s a out (ran ▸ Script.transition_perform a s) before)
    failure ds library

/-- What does not depend on the host holds after every session, calls of the device itself
among its directives. -/
theorem history_induction_of_host (start : I [] s₀)
    (step : ∀ ms s step out, Script.Transition s step out → I ms s →
      I (ms ++ [⟨s, .step step, out.1⟩]) out.2)
    (other : ∀ ms (s : Scene Headless String) (m : Moment) host,
      (∀ step, m.directive ≠ .step step) → I ms s →
      I (ms ++ [m]) { s with host }) (ds : List Directive) :
    I (history s₀ ds) (after s₀ ds) := by
  have everything : ∀ d ∈ ds, True := fun _ _ => trivial
  refine history_induction_of_next start
    (fun ms s a before => step ms s a _ (Script.transition_perform a s) before)
    (fun ms s d _ noStep before => ?_) ds everything
  obtain ⟨host, same⟩ := exists_host_of_not_step noStep s
  rw [same]
  exact other ms s (moment s d) host noStep before

end

/-- What does not depend on the host, and is kept by every step whose moment is of a kind, is kept
by every session of such moments. -/
theorem keeps_after {P : Scene Headless String → Prop} {kind : Moment → Prop}
    (step : ∀ s a out, Script.Transition s a out → kind ⟨s, .step a, out.1⟩ → P s → P out.2)
    (host : ∀ (s : Scene Headless String) host, P s → P { s with host }) (ds : List Directive)
    {s : Scene Headless String} (all : ∀ m ∈ history s ds, kind m) (h : P s) :
    P (after s ds) := by
  induction ds generalizing s with
  | nil => exact h
  | cons d ds ih =>
      refine ih (s := after s [d]) (fun m hm => all m (List.mem_cons_of_mem _ hm)) ?_
      by_cases isStep : ∃ a, d = .step a
      · obtain ⟨a, rfl⟩ := isStep
        exact step s a _ (Script.transition_perform a s) (all _ List.mem_cons_self) h
      · obtain ⟨host', same⟩ := exists_host_of_not_step (fun a ha => isStep ⟨a, ha⟩) s
        rw [same]
        exact host s host' h

end SpriteRenderer.Headless
