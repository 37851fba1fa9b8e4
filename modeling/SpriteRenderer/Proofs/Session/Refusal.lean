import SpriteRenderer.Proofs.Action.Refusal
import SpriteRenderer.Proofs.Session.History

/-! # Refused steps

A step that misuses the library is refused with nothing changed, neither an object nor the device.
A session goes on as if it had not been made. -/

namespace SpriteRenderer

namespace Step

/-- The step calls a function that checks all it is given before it changes anything. -/
def isChecked : Step → Bool
  | call .. | setOutput .. | setAttribute .. | setValue .. | setSprite .. | setData .. | repack ..
  | resize .. | blit .. | read .. => true
  | _ => false

end Step

namespace Script

variable {δ ℓ α : Type}

theorem exists_error_of_told {f : α → Answer} {r : Except RenderError α} {e : StepError}
    (h : told f r = .error e) : ∃ cause, r = .error cause := by
  cases r with
  | ok a => cases h
  | error cause => exact ⟨cause, rfl⟩

/-- A call that was refused has left its host, so that the scene with its host is the scene. -/
theorem host_eq_of_told {x : Attempt (Host δ) RenderError α} (atomic : x.Atomic) {host : Host δ}
    {r : Except RenderError α} {host' : Host δ} (ran : x.run host = (r, host')) {f : α → Answer}
    {e : StepError} (h : told f r = .error e) : host' = host ∧ ∃ cause, r = .error cause := by
  obtain ⟨cause, rfl⟩ := exists_error_of_told h
  exact ⟨atomic host cause host' ran, cause, rfl⟩

variable [Device δ ℓ]

theorem eq_of_refused
    (complete : ∀ (d : δ) target, (Device.framebufferStatus d target).1 = Gl.framebufferComplete)
    {s : Scene δ ℓ} {step : Step} {out : Except StepError Answer × Scene δ ℓ} {e : StepError}
    (h : Transition s step out) (checked : step.isChecked) (failed : out.1 = .error e) :
    out.2 = s := by
  cases h with
  | refused e => rfl
  | asked query r => rfl
  | call passed declared found called => cases failed
  | setOutput passed found bound => cases failed
  | setValue passed found stored => cases failed
  | setData found ran =>
      obtain ⟨rfl, cause, rfl⟩ := host_eq_of_told (DataBuffer.setData_atomic _ _) ran failed
      rfl
  | repack found collected ran =>
      obtain ⟨rfl, cause, rfl⟩ := host_eq_of_told (SpriteBuffer.repack_atomic _ _) ran failed
      rfl
  | @resize _ _ _ t' r host found resized ran =>
      obtain ⟨cause, rfl⟩ := exists_error_of_told failed
      obtain ⟨a, host', done⟩ := RenderTarget.allocate_succeeds complete t' s.host
      cases ran.symm.trans done
  | blit found placed ran =>
      obtain ⟨rfl, -⟩ := host_eq_of_told (RenderTarget.blitTo_atomic _ _ _ _) ran failed
      rfl
  | read found ran =>
      obtain ⟨rfl, -⟩ := host_eq_of_told (RenderTarget.readPixels_atomic _) ran failed
      rfl
  | setAttribute passed fed found ran =>
      obtain ⟨rfl, cause, rfl⟩ :=
        host_eq_of_told (Operation.setAttribute_atomic _ _ _ _ _) ran failed
      rfl
  | setSprite packed found ran =>
      obtain ⟨rfl, cause, rfl⟩ := host_eq_of_told (Operation.setSprite_atomic _ _ _) ran failed
      rfl
  | _ => cases checked

/-- Without a position or a layer there is no shader, so nothing is asked of the device. -/
theorem ofBuilder_of_missing {b : ProcedureBuilder} {o : Output}
    (missing : b.missingOutput? = some o) (host : Host δ) :
    (Procedure.ofBuilder b : Action δ (Procedure ℓ)).run host =
      (.error (.incompleteProcedure o), host) := by
  have refused : b.compose = .error (.incompleteProcedure o) := by
    rw [ProcedureBuilder.compose, missing]
  rw [Procedure.ofBuilder, refused]
  rfl

/-- A builder that cannot be finished is given up, a builder that cannot be linked is kept. -/
theorem run_finish_of_missing {s : Scene δ ℓ} {builder : String} {b : ProcedureBuilder}
    {o : Output} (found : s.builders.get? builder = some b) (missing : b.missingOutput? = some o)
    (as : String) :
    (perform (.finish builder as)).run s = (.error (.refused (.incompleteProcedure o)),
        { s with builders := s.builders.erase builder }) ∧
      (perform (.link builder as)).run s = (.error (.refused (.incompleteProcedure o)), s) := by
  have refused (s : Scene δ ℓ) :
      (SceneAction.onHost (Procedure.ofBuilder b) : SceneAction δ ℓ (Procedure ℓ)).run s =
        (.error (.refused (.incompleteProcedure o)), s) := by
    rw [SceneAction.run_onHost, ofBuilder_of_missing missing]
    rfl
  constructor
  · rw [perform, Attempt.run_bind_of_ok _ (SceneAction.run_find_of_some found),
      Attempt.run_bind_of_ok _ (Attempt.run_modify _ _), Attempt.run_bind_of_error _ (refused _)]
  · rw [perform, Attempt.run_bind_of_ok _ (SceneAction.run_find_of_some found),
      Attempt.run_bind_of_error _ (refused _)]

end Script

namespace ProcedureBuilder

theorem exists_missingOutput {b : ProcedureBuilder}
    (unbound : b.outputs.get? .position = none ∨ b.outputs.get? .layer = none) :
    ∃ o, b.missingOutput? = some o ∧ b.outputs.get? o = none := by
  cases position : b.outputs.get? .position with
  | none => exact ⟨.position, by simp [missingOutput?, position], position⟩
  | some c =>
      have layer : b.outputs.get? .layer = none := by simpa [position] using unbound
      exact ⟨.layer, by simp [missingOutput?, position, layer], layer⟩

end ProcedureBuilder

namespace Headless

/-! ## Sessions without their refused steps -/

namespace Moment

/-- A checked step was refused. -/
def isRefused (m : Moment) : Bool :=
  match m.directive, m.answer with
  | .step a, .error _ => a.isChecked
  | _, _ => false

end Moment

/-- The directives of a session, less its refused steps. -/
def settled (s : Scene Headless String) (ds : List Directive) : List Directive :=
  ((history s ds).filter (!·.isRefused)).map (·.directive)

theorem after_nil (s : Scene Headless String) : after s [] = s := rfl

theorem after_of_refused {s : Scene Headless String} {d : Directive}
    (h : (moment s d).isRefused) : after s [d] = s := by
  cases d with
  | step a =>
      cases answer : ((carryOut (.step a)).run s).1 with
      | ok _ => simp [moment, Moment.isRefused, answer] at h
      | error e =>
          have checked : a.isChecked := by simpa [moment, Moment.isRefused, answer] using h
          exact Script.eq_of_refused (fun _ _ => rfl) (Script.transition_perform a s) checked answer
  | _ => cases h

/-- Without its refused steps a session reaches the same scene, and every other directive meets
the scene that it met and gets the answer that it got. -/
theorem settled_spec (s : Scene Headless String) (ds : List Directive) :
    after s (settled s ds) = after s ds ∧
      history s (settled s ds) = (history s ds).filter (!·.isRefused) := by
  induction ds generalizing s with
  | nil => exact ⟨rfl, rfl⟩
  | cons d ds ih =>
      cases refused : (moment s d).isRefused with
      | true =>
          have less : settled s (d :: ds) = settled (after s [d]) ds := by
            rw [settled, history, List.filter_cons_of_neg (by simp [refused])]
            rfl
          have same := after_of_refused refused
          rw [less, history, List.filter_cons_of_neg (by simp [refused])]
          rw [same]
          obtain ⟨scene, moments⟩ := ih s
          refine ⟨scene.trans ?_, moments⟩
          exact congrArg (after · ds) same.symm
      | false =>
          have kept : settled s (d :: ds) = d :: settled (after s [d]) ds := by
            rw [settled, history, List.filter_cons_of_pos (by simp [refused])]
            rfl
          obtain ⟨scene, moments⟩ := ih (after s [d])
          rw [kept, history, history, List.filter_cons_of_pos (by simp [refused]), moments]
          exact ⟨scene, rfl⟩

/-- A misuse is refused with everything left as it was, whatever scene it meets and whatever it
is refused for. A builder that cannot be finished is given up, and nothing else. A context whose
templates are refused has not touched its device. So a session reaches the same scene without
its refused steps, with the same answers to its other directives. -/
theorem refusals_change_nothing :
    (∀ (s : Scene Headless String) step e, step.isChecked →
      ((Script.perform step).run s).1 = .error e → ((Script.perform step).run s).2 = s) ∧
    (∀ (s : Scene Headless String) builder b, s.builders.get? builder = some b →
      (b.outputs.get? .position = none ∨ b.outputs.get? .layer = none) →
      ∃ o, b.outputs.get? o = none ∧ ∀ as,
        (Script.perform (.finish builder as)).run s =
          (.error (.refused (.incompleteProcedure o)),
            { s with builders := s.builders.erase builder }) ∧
        (Script.perform (.link builder as)).run s =
          (.error (.refused (.incompleteProcedure o)), s)) ∧
    (∀ config (host host' : Host Headless) e,
      (Context.create config : Action Headless Context).run host = (.error e, host') →
        host' = host) ∧
    ∀ s ds, after s (settled s ds) = after s ds ∧
      history s (settled s ds) = (history s ds).filter (!·.isRefused) := by
  refine ⟨fun s step e checked failed => ?_, fun s builder b found unbound => ?_,
    fun config host host' e failed => ?_, settled_spec⟩
  · exact Script.eq_of_refused (fun _ _ => rfl) (Script.transition_perform step s) checked failed
  · obtain ⟨o, missing, none⟩ := ProcedureBuilder.exists_missingOutput unbound
    exact ⟨o, none, Script.run_finish_of_missing found missing⟩
  · exact Context.create_atomic config host e host' failed

/-- One object of each kind, and a builder without outputs. -/
def oneOfEach : List Directive :=
  ([.newBuilder "b", .newBuilder "empty", .addAttribute "b" ⟨.float, 2⟩ "place",
    .addOperation "b" ⟨.uint, 1⟩ "layer", .newFunction "f" [⟨.float, 2⟩] "" "f",
    .setOutput "b" .position "place", .setOutput "b" .layer "layer", .link "b" "p",
    .newOperation "p" "op", .newData .static "data", .setData "data" [1], .newSprites "list",
    .newBuffer "list" .static "sprites", .primaryTarget "window",
    .newTarget ⟨2, 2⟩ true "many"] : List Step).map .step

/-- A misuse of each object. -/
def misused : List Directive :=
  ([.call "b" "f" [], .setOutput "b" .position "layer", .setAttribute "op" "place" "data" 0 0,
    .setValue "op" "layer" (.floats (.one .zero)), .setSprite "op" "sprites" 0,
    .setData "data" [2], .repack "list" "sprites", .resize "window" ⟨1, 1⟩,
    .blit "window" "many" 0 0, .read "many"] : List Step).map .step

def stocked : Scene Headless String := after (.start {} ⟨4, 4⟩ .bare .bare) oneOfEach

theorem isSome_emptyBuilder : (stocked.builders.get? "empty").isSome := by
  decide +kernel

theorem refusals_change_nothing_misused :
    after stocked misused = stocked ∧
      ((Script.perform (.read "many")).run stocked).2 = stocked ∧
      ((Script.perform (.finish "empty" "q")).run stocked).2 =
        { stocked with builders := stocked.builders.erase "empty" } ∧
      ∀ host, ((Context.create { RendererConfig.bare with vertexTemplate := "" } :
        Action Headless Context).run host).2 = host := by
  obtain ⟨checked, incomplete, templates, session⟩ := refusals_change_nothing
  have allRefused : settled stocked misused = [] := by decide +kernel
  have multisampled : ((Script.perform (.read "many")).run stocked).1 =
      .error (.refused (.invalidOperation .readOfMultisampled)) := by
    decide +kernel
  have found := (Option.some_get isSome_emptyBuilder).symm
  have unbound : (Option.get _ isSome_emptyBuilder).outputs.get? .position = none := by
    decide +kernel
  have noVersion : ShaderTemplates.parse "" RendererConfig.bare.fragmentTemplate =
      .error (.templateError .version 1 0) := by
    decide +kernel
  obtain ⟨o, -, given_up⟩ := incomplete stocked "empty" _ found (.inl unbound)
  have same := (session stocked misused).1
  rw [allRefused, after_nil] at same
  refine ⟨same.symm, checked stocked _ _ rfl multisampled, ?_, fun host => ?_⟩
  · rw [(given_up "q").1]
  · refine templates { RendererConfig.bare with vertexTemplate := "" } host _
      (.templateError .version 1 0) ?_
    rw [Context.create, noVersion]
    rfl

end Headless

end SpriteRenderer
