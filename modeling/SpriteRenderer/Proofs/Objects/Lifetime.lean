import SpriteRenderer.Proofs.Objects.Exchange
import SpriteRenderer.Proofs.Session.History
import SpriteRenderer.Proofs.Table.Total

/-! # Lifetime of objects

The device has the objects that the library has returned and not been given back, and no
others. -/

namespace SpriteRenderer

/-! ## Shares of a sum -/

section

variable {β : Type} {x a a' r r' : Multiset β}

theorem add_first_le (h : x + a' ≤ a) (r : Multiset β) : x + (a' + r) ≤ a + r := by
  rw [← add_assoc]
  exact add_le_add_left h r

theorem add_rest_le (a : Multiset β) (h : x + r' ≤ r) : x + (a + r') ≤ a + r := by
  rw [add_left_comm]
  exact add_le_add_right h a

theorem first_le_add (h : a' ≤ x + a) (r : Multiset β) : a' + r ≤ x + (a + r) := by
  rw [← add_assoc]
  exact add_le_add_left h r

theorem rest_le_add (a : Multiset β) (h : r' ≤ x + r) : a + r' ≤ x + (a + r) := by
  rw [add_left_comm]
  exact add_le_add_right h a

end

/-! ## What the library returns and what it is given back -/

/-- What owns objects of the device. -/
inductive Owner where
  | procedure | dataBuffer | spriteBuffer | target | operation
deriving DecidableEq, Repr

namespace Step

/-- What a step makes, and under which name. -/
def makes? : Step → Option (Owner × String)
  | finish _ as | link _ as => some (.procedure, as)
  | newData _ as => some (.dataBuffer, as)
  | newBuffer _ _ as => some (.spriteBuffer, as)
  | primaryTarget as | newTarget _ _ as _ => some (.target, as)
  | newOperation _ as => some (.operation, as)
  | _ => none

def frees? : Step → Option (Owner × String)
  | freeProcedure name => some (.procedure, name)
  | freeData name => some (.dataBuffer, name)
  | freeBuffer name => some (.spriteBuffer, name)
  | freeTarget name => some (.target, name)
  | freeOperation name => some (.operation, name)
  | _ => none

end Step

namespace Scene

/-- The objects of what a scene has under a name. -/
def objects? (s : Scene Headless String) : Owner × String → Option (Multiset Object)
  | (.procedure, name) => (s.procedures.get? name).map Procedure.objects
  | (.dataBuffer, name) => (s.dataBuffers.get? name).map DataBuffer.objects
  | (.spriteBuffer, name) => (s.spriteBuffers.get? name).map SpriteBuffer.objects
  | (.target, name) => (s.targets.get? name).map RenderTarget.objects
  | (.operation, name) => (s.operations.get? name).map Operation.objects

/-- The objects of everything that has one owner. Procedures are not among it, for they may be
copied. -/
def held (s : Scene Headless String) : Multiset Object :=
  s.dataBuffers.total DataBuffer.objects + (s.spriteBuffers.total SpriteBuffer.objects +
    (s.targets.total RenderTarget.objects + s.operations.total Operation.objects))

theorem held_le {s s' : Scene Headless String}
    (dataBuffers : s'.dataBuffers.total DataBuffer.objects ≤
      s.dataBuffers.total DataBuffer.objects)
    (spriteBuffers : s'.spriteBuffers.total SpriteBuffer.objects ≤
      s.spriteBuffers.total SpriteBuffer.objects)
    (targets : s'.targets.total RenderTarget.objects ≤ s.targets.total RenderTarget.objects)
    (operations : s'.operations.total Operation.objects ≤ s.operations.total Operation.objects) :
    s'.held ≤ s.held :=
  add_le_add dataBuffers (add_le_add spriteBuffers (add_le_add targets operations))

/-- Something in the scene uses the program. -/
def Refers (s : Scene Headless String) (h : Handle) : Prop :=
  (∃ name p, s.procedures.get? name = some p ∧ p.program = h) ∨
    ∃ name op, s.operations.get? name = some op ∧ op.procedure.program = h

section

variable (s : Scene Headless String)

theorem refers_procedures : s.procedures.All fun _ p => s.Refers p.program :=
  fun name p found => .inl ⟨name, p, found, rfl⟩

theorem refers_operations : s.operations.All fun _ op => s.Refers op.procedure.program :=
  fun name op found => .inr ⟨name, op, found, rfl⟩

end

theorem Refers.of_all {s s' : Scene Headless String} {h : Handle} (uses : s'.Refers h)
    (procedures : s'.procedures.All fun _ p => s.Refers p.program)
    (operations : s'.operations.All fun _ op => s.Refers op.procedure.program) : s.Refers h := by
  rcases uses with ⟨name, p, found, rfl⟩ | ⟨name, op, found, rfl⟩
  · exact procedures name p found
  · exact operations name op found

theorem kind_ne_program_of_mem_held {s : Scene Headless String} {o : Object} (h : o ∈ s.held) :
    o.kind ≠ .program := by
  rw [held, Multiset.mem_add, Multiset.mem_add, Multiset.mem_add] at h
  rcases h with h | h | h | h <;> obtain ⟨owner, ho⟩ := Table.exists_of_mem_total h
  · rw [Multiset.mem_singleton.mp ho]
    exact ne_of_beq_false rfl
  · simp only [SpriteBuffer.objects, Multiset.insert_eq_cons, Multiset.mem_cons,
      Multiset.mem_singleton] at ho
    rcases ho with rfl | rfl <;> exact ne_of_beq_false rfl
  · cases owner with
    | primary => cases Multiset.notMem_zero _ ho
    | offscreen t =>
        obtain ⟨framebuffer, attachments, size⟩ := t
        cases attachments <;>
        · simp only [RenderTarget.objects, Offscreen.objects, Attachments.objects,
            Multiset.insert_eq_cons, Multiset.mem_cons, Multiset.mem_singleton] at ho
          rcases ho with rfl | rfl | rfl <;> exact ne_of_beq_false rfl
  · rw [Multiset.mem_singleton.mp ho]
    exact ne_of_beq_false rfl

end Scene

namespace Headless

namespace Moment

/-- The scene after a moment. -/
def next (m : Moment) : Scene Headless String := ((carryOut m.directive).run m.scene).2

/-- The objects of what the library made and returned. -/
def returned (m : Moment) : Multiset Object :=
  match m.directive, m.answer with
  | .step step, .ok _ => (step.makes?.bind m.next.objects?).getD 0
  | _, _ => 0

/-- The objects of what the library was given back. -/
def freed (m : Moment) : Multiset Object :=
  match m.directive, m.answer with
  | .step step, .ok _ => (step.frees?.bind m.scene.objects?).getD 0
  | _, _ => 0

def freedProgram? (m : Moment) : Option Handle :=
  match m.directive, m.answer with
  | .step (.freeProcedure name), .ok _ => (m.scene.procedures.get? name).map (·.program)
  | _, _ => none

end Moment

/-- Nothing is made and nothing is freed. -/
structure Moment.Quiet (m : Moment) : Prop where
  returned : m.returned = 0
  freed : m.freed = 0
  freedProgram? : m.freedProgram? = none

namespace Moment

theorem quiet_of_error (s : Scene Headless String) (d : Directive) (e : StepError) :
    Quiet ⟨s, d, .error e⟩ := by
  cases d with
  | step step => exact ⟨rfl, rfl, by cases step <;> rfl⟩
  | _ => exact ⟨rfl, rfl, rfl⟩

theorem quiet_of_not_step {m : Moment} (h : ∀ step, m.directive ≠ .step step) : m.Quiet := by
  obtain ⟨s, d, r⟩ := m
  cases d with
  | step step => exact absurd rfl (h step)
  | _ => cases r <;> exact ⟨rfl, rfl, rfl⟩

theorem quiet_of_step {step : Step} (makes : step.makes? = none) (frees : step.frees? = none)
    (s : Scene Headless String) (r : Except StepError Answer) : Quiet ⟨s, .step step, r⟩ := by
  cases r with
  | error e => exact quiet_of_error s _ e
  | ok answer =>
      refine ⟨?_, ?_, ?_⟩
      · simp [returned, makes]
      · simp [freed, frees]
      · cases step <;> first | rfl | cases frees

end Moment

def returned (ms : List Moment) : Multiset Object := (ms.map Moment.returned).sum

def freed (ms : List Moment) : Multiset Object := (ms.map Moment.freed).sum

/-- No linked program is freed twice, be it through copies of its procedure. -/
def FreedOnce (ms : List Moment) : Prop := (ms.filterMap Moment.freedProgram?).Nodup

theorem FreedOnce.of_append {ms : List Moment} {m : Moment} (once : FreedOnce (ms ++ [m])) :
    FreedOnce ms := by
  rw [FreedOnce, List.filterMap_append] at once
  exact once.of_append_left

theorem returned_append (ms : List Moment) (m : Moment) :
    returned (ms ++ [m]) = returned ms + m.returned := by
  simp [returned]

theorem freed_append (ms : List Moment) (m : Moment) :
    freed (ms ++ [m]) = freed ms + m.freed := by
  simp [freed]

/-! ## Trades -/

/-- Objects go from the library to its user and back, in the books of every ledger. -/
structure Moment.Trades (m : Moment) (s s' : Scene Headless String) : Prop where
  noProgram : m.freedProgram? = none
  ledger : ∀ {R : Multiset Object → Host Headless → Prop}, Host.Ledger R → ∀ rest,
    R (m.freed + rest) s.host → R (m.returned + rest) s'.host
  owned : m.freed ≤ s.held
  held : m.freed + s'.held ≤ m.returned + s.held
  refers : ∀ h, s'.Refers h → s.Refers h ∨ ⟨.program, h⟩ ∈ m.returned

/-- A program goes back, which other procedures and operations may still refer to. -/
structure Moment.FreesProgram (m : Moment) (s s' : Scene Headless String) (p : Handle) : Prop where
  program : m.freedProgram? = some p
  used : s.Refers p
  returned : m.returned = 0
  freed : m.freed = {⟨.program, p⟩}
  host : s'.host = s.host.performAll [.delete .program p]
  held : s'.held ≤ s.held
  refers : ∀ h, s'.Refers h → s.Refers h

namespace Moment

namespace Trades

variable {m : Moment} {s s' : Scene Headless String} {step : Step} {r : Except StepError Answer}

theorem quiet (quiet : m.Quiet)
    (ledger : ∀ {R : Multiset Object → Host Headless → Prop}, Host.Ledger R → ∀ {alive},
      R alive s.host → R alive s'.host)
    (held : s'.held ≤ s.held) (refers : ∀ h, s'.Refers h → s.Refers h) :
    m.Trades s s' := by
  refine ⟨quiet.freedProgram?, fun rules rest holds => ?_, ?_, ?_, fun p hp => .inl (refers p hp)⟩
  · rw [quiet.freed] at holds
    rw [quiet.returned]
    exact ledger rules holds
  · rw [quiet.freed]
    exact Multiset.zero_le _
  · rw [quiet.freed, quiet.returned, zero_add, zero_add]
    exact held

theorem idle (makes : step.makes? = none) (frees : step.frees? = none)
    (ledger : ∀ {R : Multiset Object → Host Headless → Prop}, Host.Ledger R → ∀ {alive},
      R alive s.host → R alive s'.host)
    (held : s'.held ≤ s.held) (refers : ∀ h, s'.Refers h → s.Refers h) :
    Trades ⟨s, .step step, r⟩ s s' :=
  .quiet (quiet_of_step makes frees s r) ledger held refers

/-- A creation may fail, and then leaves everything as it was. -/
theorem create {α : Type} {objects : α → Multiset Object} {x : Action Headless α}
    {r : Except RenderError α} {tell : α → Answer} {owner : Owner × String}
    (makes : step.makes? = some owner) (frees : step.frees? = none)
    (exchanges : ∀ rest, Action.Exchanges rest (fun a => objects a + rest) rest x)
    (ran : x.run s.host = (r, s'.host))
    (next : Moment.next ⟨s, .step step, Script.told tell r⟩ = s')
    (stored : ∀ a, r = .ok a → s'.objects? owner = some (objects a))
    (held : s'.held ≤ (r.toOption.map objects).getD 0 + s.held)
    (refers : ∀ h, s'.Refers h → s.Refers h ∨ ∃ a, r = .ok a ∧ ⟨.program, h⟩ ∈ objects a) :
    Trades ⟨s, .step step, Script.told tell r⟩ s s' := by
  cases r with
  | error e =>
      refine .quiet (quiet_of_error _ _ _)
        (fun rules _ holds => (exchanges _).of_error rules holds ran) (held.trans_eq (zero_add _))
        fun p hp => ?_
      rcases refers p hp with old | ⟨a, made, -⟩
      · exact old
      · cases made
  | ok a =>
      have freed : Moment.freed ⟨s, .step step, Script.told tell (.ok a)⟩ = 0 := by
        simp [Moment.freed, frees]
      have returned : Moment.returned ⟨s, .step step, Script.told tell (.ok a)⟩ = objects a := by
        rw [Script.told_ok] at next
        simp [Moment.returned, makes, next, stored a rfl]
      refine ⟨?_, fun rules rest holds => ?_, ?_, ?_, fun p hp => ?_⟩
      · cases step <;> first | rfl | cases frees
      · rw [freed, zero_add] at holds
        rw [returned]
        exact (exchanges rest).of_ok rules holds ran
      · rw [freed]
        exact Multiset.zero_le _
      · rw [freed, returned, zero_add]
        exact held
      · rw [returned]
        refine (refers p hp).imp_right ?_
        rintro ⟨b, made, program⟩
        cases made
        exact program

theorem createProcedure {b : ProcedureBuilder} {as : String}
    {r : Except RenderError (Procedure String)} (makes : step.makes? = some (.procedure, as))
    (frees : step.frees? = none) (ran : (Procedure.ofBuilder b).run s.host = (r, s'.host))
    (next : Moment.next ⟨s, .step step, Script.told (fun p => .program p.program) r⟩ = s')
    (held : s'.held = s.held) (procedures : s'.procedures = s.procedures.insertOk as r)
    (operations : s'.operations = s.operations) :
    Trades ⟨s, .step step, Script.told (fun p => .program p.program) r⟩ s s' := by
  refine .create makes frees (Procedure.ofBuilder_exchanges · b) ran next ?_ ?_ ?_
  · rintro p rfl
    rw [Scene.objects?, procedures, Table.insertOk, Table.get?_insert_self, Option.map_some]
  · rw [held]
    exact Multiset.le_add_left _ _
  · have listed : s'.procedures.All fun _ p =>
        s.Refers p.program ∨ ∃ a, r = .ok a ∧ ⟨.program, p.program⟩ ∈ a.objects := by
      rw [procedures]
      exact Table.All.insertOk (fun name p found => .inl (.inl ⟨name, p, found, rfl⟩))
        fun p made => .inr ⟨p, made, Multiset.mem_singleton_self _⟩
    rintro q (⟨name, p, found, rfl⟩ | uses)
    · exact listed name p found
    · rw [operations] at uses
      exact .inl (.inr uses)

/-- Something that has one owner is given back under its name. -/
theorem free {owner : Owner × String} {objects : Multiset Object} {x : Action Headless Unit}
    (makes : step.makes? = none) (frees : step.frees? = some owner)
    (noProgram : Moment.freedProgram? ⟨s, .step step, .ok .nothing⟩ = none)
    (found : s.objects? owner = some objects)
    (exchanges : ∀ rest, Action.Exchanges (objects + rest) (fun _ => rest) rest x)
    (ran : s'.host = (x.run s.host).2) (held : objects + s'.held ≤ s.held)
    (refers : ∀ h, s'.Refers h → s.Refers h) :
    Trades ⟨s, .step step, .ok .nothing⟩ s s' := by
  have freed : Moment.freed ⟨s, .step step, .ok .nothing⟩ = objects := by
    simp [Moment.freed, frees, found]
  have returned : Moment.returned ⟨s, .step step, .ok .nothing⟩ = 0 := by
    simp [Moment.returned, makes]
  refine ⟨noProgram, fun rules rest holds => ?_, ?_, ?_, fun p hp => .inl (refers p hp)⟩
  · rw [freed] at holds
    rw [returned, zero_add, ran]
    cases result : x.run s.host with
    | mk r host =>
        cases r with
        | ok u => exact (exchanges rest).of_ok rules holds result
        | error e => exact (exchanges rest).of_error rules holds result
  · rw [freed]
    exact (Multiset.le_add_right _ _).trans held
  · rw [freed, returned, zero_add]
    exact held

end Trades

variable {s : Scene Headless String} {step : Step}
  {out : Except StepError Answer × Scene Headless String}

/-- Every step trades objects, apart from freeing a program. -/
theorem trades_or_frees (t : Script.Transition s step out)
    (performed : (Script.perform step).run s = out) :
    Trades ⟨s, .step step, out.1⟩ s out.2 ∨
      ∃ p, FreesProgram ⟨s, .step step, out.1⟩ s out.2 p := by
  have next : Moment.next ⟨s, .step step, out.1⟩ = out.2 := congrArg Prod.snd performed
  cases t with
  | refused e => exact .inl (.quiet (quiet_of_error _ _ _) (fun _ => id) le_rfl fun _ => id)
  | addSpriteRefused e =>
      exact .inl (.quiet (quiet_of_error _ _ _)
        (fun rules _ holds => rules.of_eq holds rfl rfl rfl) le_rfl fun _ => id)
  | addSprite _ _ =>
      exact .inl (.idle rfl rfl (fun rules _ holds => rules.of_eq holds rfl rfl rfl) le_rfl
        fun _ => id)
  | asked query r =>
      cases step <;>
        first | exact .inl (.idle rfl rfl (fun _ => id) le_rfl fun _ => id) | cases query
  | finish found ran => exact .inl (.createProcedure rfl rfl ran next rfl rfl rfl)
  | link found ran => exact .inl (.createProcedure rfl rfl ran next rfl rfl rfl)
  | copyProcedure found =>
      exact .inl (.idle rfl rfl (fun _ => id) le_rfl fun _ uses => uses.of_all
        (s.refers_procedures.insert (s.refers_procedures _ _ found :)) s.refers_operations)
  | @freeProcedure name p found =>
      refine .inr ⟨p.program, ?_, .inl ⟨name, p, found, rfl⟩, rfl, ?_, rfl, le_rfl, fun _ uses =>
        uses.of_all (s.refers_procedures.erase name) s.refers_operations⟩
      · simp only [Moment.freedProgram?, found, Option.map_some]
      · simp only [Moment.freed, Step.frees?, Option.bind_some, Scene.objects?, found,
          Option.map_some, Option.getD_some, Procedure.objects]
  | newData ran =>
      refine .inl (.create rfl rfl (DataBuffer.create_exchanges · _) ran next ?_ ?_ ?_)
      · rintro b rfl
        exact congrArg (Option.map DataBuffer.objects) (Table.get?_insert_self _ _ _)
      · exact first_le_add (Table.total_insertOk_le_add _ _ _ _) _
      · exact fun _ => .inl
  | setLayout _ found =>
      have data := Table.total_insert_le_of_eq (f := DataBuffer.objects) found rfl
      exact .inl (.idle rfl rfl (fun _ => id) (Scene.held_le data le_rfl le_rfl le_rfl) fun _ => id)
  | setData found ran =>
      have data := Table.total_insertOk_le found (DataBuffer.setData_yields _ _) ran
      exact .inl (.idle rfl rfl
        (fun rules _ holds => (DataBuffer.setData_exchanges _ _ _).keeps rules holds ran)
        (Scene.held_le data le_rfl le_rfl le_rfl) fun _ => id)
  | freeData found =>
      exact .inl (.free rfl rfl rfl (congrArg (Option.map DataBuffer.objects) found)
        (DataBuffer.free_exchanges · _) rfl (add_first_le (Table.add_total_erase_le found) _)
        fun _ => id)
  | newBuffer _ ran =>
      refine .inl (.create rfl rfl (SpriteBuffer.create_exchanges · _ _) ran next ?_ ?_ ?_)
      · rintro b rfl
        exact congrArg (Option.map SpriteBuffer.objects) (Table.get?_insert_self _ _ _)
      · exact rest_le_add _ (first_le_add (Table.total_insertOk_le_add _ _ _ _) _)
      · exact fun _ => .inl
  | repack found _ ran =>
      have sprites := Table.total_insertOk_le found (SpriteBuffer.repack_yields _ _) ran
      exact .inl (.idle rfl rfl
        (fun rules _ holds => (SpriteBuffer.repack_exchanges _ _ _).keeps rules holds ran)
        (Scene.held_le le_rfl sprites le_rfl le_rfl) fun _ => id)
  | freeBuffer found =>
      exact .inl (.free rfl rfl rfl (congrArg (Option.map SpriteBuffer.objects) found)
        (SpriteBuffer.free_exchanges · _) rfl
        (add_rest_le _ (add_first_le (Table.add_total_erase_le found) _)) fun _ => id)
  | primaryTarget as =>
      have returned : Moment.returned ⟨s, .step (.primaryTarget as),
          .ok (.target true false s.host.window)⟩ = 0 := by
        simp only [Moment.returned, Step.makes?, next, Option.bind_some, Scene.objects?,
          Table.get?_insert_self, Option.map_some, Option.getD_some]
        rfl
      refine .inl (.quiet ⟨returned, rfl, rfl⟩ (fun _ => id)
        (Scene.held_le le_rfl le_rfl ?_ le_rfl) fun _ => id)
      exact (Table.total_insert_le _ _ _ _).trans_eq (zero_add _)
  | newTarget ran =>
      refine .inl (.create rfl rfl (RenderTarget.create_exchanges · _ _ _) ran next ?_ ?_ ?_)
      · rintro t rfl
        exact congrArg (Option.map RenderTarget.objects) (Table.get?_insert_self _ _ _)
      · exact rest_le_add _ (rest_le_add _ (first_le_add (Table.total_insertOk_le_add _ _ _ _) _))
      · exact fun _ => .inl
  | resize found resized ran =>
      have targets := Table.total_insert_le_of_eq found (RenderTarget.objects_of_withSize resized)
      exact .inl (.idle rfl rfl
        (fun rules _ holds => (RenderTarget.allocate_exchanges _ _).keeps rules holds ran)
        (Scene.held_le le_rfl le_rfl targets le_rfl) fun _ => id)
  | bind found =>
      exact .inl (.idle rfl rfl
        (fun rules _ holds => (RenderTarget.bind_exchanges _ _).keeps rules holds rfl) le_rfl
        fun _ => id)
  | clear found =>
      exact .inl (.idle rfl rfl
        (fun rules _ holds => (RenderTarget.clear_exchanges _ _ _ _ _).keeps rules holds rfl) le_rfl
        fun _ => id)
  | blit found placed ran =>
      exact .inl (.idle rfl rfl
        (fun rules _ holds => (RenderTarget.blitTo_exchanges _ _ _ _ _).keeps rules holds ran)
        le_rfl fun _ => id)
  | read found ran =>
      exact .inl (.idle rfl rfl
        (fun rules _ holds => (RenderTarget.readPixels_exchanges _ _).keeps rules holds ran) le_rfl
        fun _ => id)
  | freeTarget found =>
      exact .inl (.free rfl rfl rfl (congrArg (Option.map RenderTarget.objects) found)
        (RenderTarget.free_exchanges · _) rfl
        (add_rest_le _ (add_rest_le _ (add_first_le (Table.add_total_erase_le found) _))) fun _ => id)
  | setWindow size =>
      exact .inl (.idle rfl rfl (fun rules _ holds => rules.of_eq holds rfl rfl rfl) le_rfl
        fun _ => id)
  | newOperation found ran =>
      refine .inl (.create rfl rfl (Operation.create_exchanges · _) ran next ?_ ?_ ?_)
      · rintro op rfl
        exact congrArg (Option.map Operation.objects) (Table.get?_insert_self _ _ _)
      · exact rest_le_add _ (rest_le_add _ (rest_le_add _ (Table.total_insertOk_le_add _ _ _ _)))
      · refine fun _ uses => .inl (uses.of_all s.refers_procedures
          (s.refers_operations.insertOk_of_run ((Operation.create_yields _).mono ?_) ran))
        rintro op rfl
        exact s.refers_procedures _ _ found
  | setAttribute _ _ found ran =>
      have operations := Table.total_insertOk_le found
        ((Operation.setAttribute_yields _ _ _ _ _).mono fun _ same => same.objects) ran
      refine .inl (.idle rfl rfl
        (fun rules _ holds => (Operation.setAttribute_exchanges _ _ _ _ _ _).keeps rules holds ran)
        (Scene.held_le le_rfl le_rfl le_rfl operations) fun _ uses => uses.of_all
        s.refers_procedures (s.refers_operations.insertOk_of_run
          ((Operation.setAttribute_yields _ _ _ _ _).mono fun op same => ?_) ran))
      rw [same.procedure]
      exact s.refers_operations _ _ found
  | setValue _ found stored =>
      rw [Operation.eq_of_setValue stored]
      have operations := Table.total_insert_le_of_eq (f := Operation.objects) found rfl
      exact .inl (.idle rfl rfl (fun _ => id) (Scene.held_le le_rfl le_rfl le_rfl operations)
        fun _ uses => uses.of_all s.refers_procedures
          (s.refers_operations.insert (s.refers_operations _ _ found :)))
  | setSprite _ found ran =>
      have operations := Table.total_insertOk_le found
        ((Operation.setSprite_yields _ _ _).mono fun _ same => same.objects) ran
      refine .inl (.idle rfl rfl
        (fun rules _ holds => (Operation.setSprite_exchanges _ _ _ _).keeps rules holds ran)
        (Scene.held_le le_rfl le_rfl le_rfl operations) fun _ uses => uses.of_all
        s.refers_procedures (s.refers_operations.insertOk_of_run
          ((Operation.setSprite_yields _ _ _).mono fun op same => ?_) ran))
      rw [same.procedure]
      exact s.refers_operations _ _ found
  | setAmount found =>
      have operations := Table.total_insert_le_of_eq (f := Operation.objects) found rfl
      exact .inl (.idle rfl rfl (fun _ => id) (Scene.held_le le_rfl le_rfl le_rfl operations)
        fun _ uses => uses.of_all s.refers_procedures
          (s.refers_operations.insert (s.refers_operations _ _ found :)))
  | draw aimed found ran =>
      exact .inl (.idle rfl rfl
        (fun rules _ holds => (Operation.drawTo_exchanges _ _ _).keeps rules holds ran) le_rfl
        fun _ => id)
  | freeOperation found =>
      exact .inl (.free rfl rfl rfl (congrArg (Option.map Operation.objects) found)
        (Operation.free_exchanges · _) rfl
        (add_rest_le _ (add_rest_le _ (add_rest_le _ (Table.add_total_erase_le found))))
        fun _ uses => uses.of_all s.refers_procedures (s.refers_operations.erase _))
  | _ => exact .inl (.idle rfl rfl (fun _ => id) le_rfl fun _ => id)

end Moment

/-! ## Accounts -/

/-- The books of a history and a scene agree on the objects that are alive. -/
structure Accounts (R : Multiset Object → Host Headless → Prop) (ms : List Moment)
    (s : Scene Headless String) (alive : Multiset Object) : Prop where
  ledger : R alive s.host
  balance : FreedOnce ms → returned ms = freed ms + alive
  held : s.held ≤ alive
  /-- A program that has been linked and not been freed is alive. -/
  linked : ∀ h, ⟨.program, h⟩ ∈ returned ms →
    h ∈ ms.filterMap Moment.freedProgram? ∨ ⟨.program, h⟩ ∈ alive
  refers : ∀ h, s.Refers h → ⟨.program, h⟩ ∈ returned ms

namespace Accounts

variable {R : Multiset Object → Host Headless → Prop} {ms : List Moment}
  {s s' : Scene Headless String} {alive : Multiset Object} {m : Moment}

/-- What is given back has one owner, so no program is among it. -/
theorem trade (h : Accounts R ms s alive) (rules : Host.Ledger R) (trades : m.Trades s s') :
    ∃ alive', Accounts R (ms ++ [m]) s' alive' := by
  obtain ⟨rest, rfl⟩ := Multiset.le_iff_exists_add.mp (trades.owned.trans h.held)
  have held : m.freed + s'.held ≤ m.freed + (m.returned + rest) := by
    calc m.freed + s'.held
      _ ≤ m.returned + s.held := trades.held
      _ ≤ m.returned + (m.freed + rest) := add_le_add_right h.held _
      _ = m.freed + (m.returned + rest) := add_left_comm _ _ _
  refine ⟨m.returned + rest, trades.ledger rules rest h.ledger, fun once => ?_,
    (add_le_add_iff_left _).mp held, fun p hp => ?_, fun p hp => ?_⟩
  · rw [returned_append, freed_append, h.balance once.of_append]
    abel
  · rw [List.filterMap_append, List.filterMap_cons_none trades.noProgram, List.filterMap_nil,
      List.append_nil, Multiset.mem_add]
    rw [returned_append, Multiset.mem_add] at hp
    rcases hp with old | new
    · refine (h.linked p old).imp_right fun known => ?_
      rcases Multiset.mem_add.mp known with own | other
      · exact absurd rfl
          (Scene.kind_ne_program_of_mem_held (Multiset.mem_of_le trades.owned own))
      · exact .inr other
    · exact .inr (.inl new)
  · rw [returned_append, Multiset.mem_add]
    exact (trades.refers p hp).imp_left (h.refers p)

/-- A ledger that does not mind that what is not on it is deleted. -/
def Spares (R : Multiset Object → Host Headless → Prop) : Prop :=
  ∀ alive h o, R alive h → o ∉ alive → R alive (h.performAll [.delete o.kind o.handle])

/-- A program that is freed for the first time has been alive. Another time its handle is unknown
to the ledger. -/
theorem freeProgram (h : Accounts R ms s alive) (rules : Host.Ledger R) {p : Handle}
    (frees : m.FreesProgram s s' p) (spares : ¬ FreedOnce (ms ++ [m]) → Spares R) :
    ∃ alive', Accounts R (ms ++ [m]) s' alive' := by
  have freedPrograms : (ms ++ [m]).filterMap Moment.freedProgram? =
      ms.filterMap Moment.freedProgram? ++ [p] := by
    rw [List.filterMap_append, List.filterMap_cons_some frees.program, List.filterMap_nil]
  have returnedSame : Headless.returned (ms ++ [m]) = Headless.returned ms := by
    rw [returned_append, frees.returned, add_zero]
  by_cases lives : (⟨.program, p⟩ : Object) ∈ alive
  · obtain ⟨rest, rfl⟩ := Multiset.exists_cons_of_mem lives
    refine ⟨rest, ?_, fun once => ?_, ?_, fun q hq => ?_, fun q hq => ?_⟩
    · rw [frees.host]
      exact rules.performAll h.ledger
    · rw [returnedSame, freed_append, frees.freed, h.balance once.of_append,
        ← Multiset.singleton_add]
      abel
    · refine (Multiset.le_cons_of_notMem fun own => ?_).mp (frees.held.trans h.held)
      exact Scene.kind_ne_program_of_mem_held own rfl
    · rw [returnedSame] at hq
      rw [freedPrograms, List.mem_append, List.mem_singleton]
      rcases h.linked q hq with old | alive
      · exact .inl (.inl old)
      · rcases Multiset.mem_cons.mp alive with same | alive
        · exact .inl (.inr (Object.mk.inj same).2)
        · exact .inr alive
    · rw [returnedSame]
      exact h.refers q (frees.refers q hq)
  · have before := (h.linked p (h.refers p frees.used)).resolve_right lives
    have twice : ¬ FreedOnce (ms ++ [m]) := by
      rw [FreedOnce, freedPrograms, List.nodup_append]
      rintro ⟨-, -, apart⟩
      exact apart p before p List.mem_cons_self rfl
    refine ⟨alive, ?_, fun once => absurd once twice, frees.held.trans h.held, fun q hq => ?_,
      fun q hq => ?_⟩
    · rw [frees.host]
      exact spares twice alive s.host ⟨.program, p⟩ h.ledger lives
    · rw [returnedSame] at hq
      rw [freedPrograms]
      exact (h.linked q hq).imp_left (List.mem_append_left _)
    · rw [returnedSame]
      exact h.refers q (frees.refers q hq)

theorem transition {step : Step} {out : Except StepError Answer × Scene Headless String}
    (h : Accounts R ms s alive) (rules : Host.Ledger R) (t : Script.Transition s step out)
    (performed : (Script.perform step).run s = out)
    (spares : ¬ FreedOnce (ms ++ [⟨s, .step step, out.1⟩]) → Spares R) :
    ∃ alive', Accounts R (ms ++ [⟨s, .step step, out.1⟩]) out.2 alive' := by
  rcases Moment.trades_or_frees t performed with trades | ⟨p, frees⟩
  · exact h.trade rules trades
  · exact h.freeProgram rules frees spares

end Accounts

/-! ## Sessions -/

variable {config : RendererConfig} {window : Size} {s₀ : Scene Headless String}

section

variable {R : Multiset Object → Host Headless → Prop}

theorem accounts_of_create (created : Scene.create ({} : Headless) config window = .ok s₀)
    (rules : Host.Ledger R) (empty : R 0 { device := {}, window }) : Accounts R [] s₀ 0 := by
  obtain ⟨templates, rfl⟩ := Scene.eq_of_create created
  have none : deleted (Context.setupCommands config : List (Command String)) = 0 := by
    unfold Context.setupCommands
    split <;> rfl
  have ledger : R 0 (Host.performAll { device := ({} : Headless), window }
      (Context.setupCommands config)) := by
    apply rules.performAll
    rw [none]
    exact empty
  have held : (Scene.start ({} : Headless) window config templates).held = 0 := by
    simp [Scene.held, Table.total, Scene.start, Table.empty]
  refine ⟨ledger, fun _ => by simp [returned, freed], le_of_eq held, fun p hp => ?_,
    fun p hp => ?_⟩
  · exact absurd hp (Multiset.notMem_zero _)
  · rcases hp with ⟨name, q, found, -⟩ | ⟨name, op, found, -⟩ <;> cases found

/-- The books are kept by every session, in a ledger that may lack what is deleted if programs
are freed twice. -/
theorem accounts_after (created : Scene.create ({} : Headless) config window = .ok s₀)
    (rules : Host.Ledger R) (empty : R 0 { device := {}, window }) (ds : List Directive)
    (library : ∀ d ∈ ds, d.isDirect = false)
    (spares : ¬ FreedOnce (history s₀ ds) → Accounts.Spares R) :
    ∃ alive, Accounts R (history s₀ ds) (after s₀ ds) alive := by
  refine history_induction_of_run
    (I := fun ms s => (¬ FreedOnce ms → Accounts.Spares R) → ∃ alive, Accounts R ms s alive)
    (fun _ => ⟨0, accounts_of_create created rules empty⟩)
    (fun ms s step out performed before spares => ?_)
    (fun ms s m compile link creations noStep before spares => ?_) ds library spares
  · obtain ⟨alive, h⟩ := before fun twice => spares fun once => twice once.of_append
    exact h.transition rules (performed ▸ Script.transition_perform step s) performed spares
  · obtain ⟨alive, h⟩ := before fun twice => spares fun once => twice once.of_append
    exact h.trade rules (.quiet (Moment.quiet_of_not_step noStep)
      (fun rules _ holds => rules.of_eq holds rfl rfl rfl) le_rfl fun _ => id)

end

theorem holds_zero : Host.Holds 0 { device := {}, window } :=
  ⟨rfl, rfl, Multiset.nodup_zero, fun o ho => absurd ho (Multiset.notMem_zero o)⟩

/-- What has a name can be given back, and its objects are then gone. -/
theorem run_free {s : Scene Headless String} {step : Step} {owner : Owner × String}
    {objects rest : Multiset Object} (frees : step.frees? = some owner)
    (found : s.objects? owner = some objects) (holds : s.host.Holds (objects + rest)) :
    ∃ s', (Script.perform step).run s = (.ok .nothing, s') ∧ s'.host.Holds rest := by
  cases step with
  | freeProcedure name =>
      cases frees
      obtain ⟨p, hp, rfl⟩ := Option.map_eq_some_iff.mp found
      rw [Script.perform, Attempt.run_bind_of_ok _ (SceneAction.run_find_of_some hp)]
      exact ⟨_, rfl, p.free_exchanges rest _ Host.Holds.ledger _ holds⟩
  | freeData name =>
      cases frees
      obtain ⟨b, hb, rfl⟩ := Option.map_eq_some_iff.mp found
      rw [Script.perform, Attempt.run_bind_of_ok _ (SceneAction.run_find_of_some hb)]
      exact ⟨_, rfl, b.free_exchanges rest _ Host.Holds.ledger _ holds⟩
  | freeBuffer name =>
      cases frees
      obtain ⟨b, hb, rfl⟩ := Option.map_eq_some_iff.mp found
      rw [Script.perform, Attempt.run_bind_of_ok _ (SceneAction.run_find_of_some hb)]
      exact ⟨_, rfl, b.free_exchanges rest _ Host.Holds.ledger _ holds⟩
  | freeTarget name =>
      cases frees
      obtain ⟨t, ht, rfl⟩ := Option.map_eq_some_iff.mp found
      rw [Script.perform, Attempt.run_bind_of_ok _ (SceneAction.run_find_of_some ht)]
      have freed := t.free_exchanges rest _ Host.Holds.ledger _ holds
      cases t <;> exact ⟨_, rfl, freed⟩
  | freeOperation name =>
      cases frees
      obtain ⟨op, hop, rfl⟩ := Option.map_eq_some_iff.mp found
      rw [Script.perform, Attempt.run_bind_of_ok _ (SceneAction.run_find_of_some hop)]
      exact ⟨_, rfl, op.free_exchanges rest _ Host.Holds.ledger _ holds⟩
  | _ => cases frees

private theorem exists_map_insertOk {α β : Type} (f : α → β) (t : Table String α) (as : String)
    {r : Except RenderError α} {tell : α → Answer} {answer : Answer}
    (ok : Script.told tell r = .ok answer) : ∃ b, ((t.insertOk as r).get? as).map f = some b := by
  cases r with
  | error e => cases ok
  | ok a => exact ⟨f a, congrArg (Option.map f) (Table.get?_insert_self t as a)⟩

/-- What is made has the name that the step gives it. -/
theorem exists_objects_of_makes {s : Scene Headless String} {step : Step}
    {out : Except StepError Answer × Scene Headless String} (t : Script.Transition s step out)
    {owner : Owner × String} (makes : step.makes? = some owner) {answer : Answer}
    (ok : out.1 = .ok answer) : ∃ objects, out.2.objects? owner = some objects := by
  cases t with
  | refused e => cases ok
  | asked query r => cases step <;> first | cases query; done | cases makes
  | finish found ran | link found ran | newData ran | newBuffer found ran | newTarget ran
  | newOperation found ran =>
      cases makes
      exact exists_map_insertOk _ _ _ ok
  | primaryTarget as =>
      cases makes
      exact ⟨_, congrArg (Option.map RenderTarget.objects) (Table.get?_insert_self _ _ _)⟩
  | _ => cases makes

/-- A directive that frees nothing adds what it returns. -/
theorem accounts_append (created : Scene.create ({} : Headless) config window = .ok s₀)
    {ds : List Directive} (library : ∀ d ∈ ds, d.isDirect = false)
    (once : FreedOnce (history s₀ ds)) {alive : Multiset Object}
    (h : Accounts Host.Holds (history s₀ ds) (after s₀ ds) alive) {d : Directive}
    (indirect : d.isDirect = false) (freed : (moment (after s₀ ds) d).freed = 0)
    (noProgram : (moment (after s₀ ds) d).freedProgram? = none) :
    (after s₀ (ds ++ [d])).host.Holds ((moment (after s₀ ds) d).returned + alive) := by
  have extended : history s₀ (ds ++ [d]) = history s₀ ds ++ [moment (after s₀ ds) d] :=
    history_append s₀ ds [d]
  have onceAgain : FreedOnce (history s₀ (ds ++ [d])) := by
    rw [extended, FreedOnce, List.filterMap_append, List.filterMap_cons_none noProgram,
      List.filterMap_nil, List.append_nil]
    exact once
  have indirects : ∀ e ∈ ds ++ [d], e.isDirect = false := by
    intro e he
    rcases List.mem_append.mp he with he | he
    · exact library e he
    · rw [List.mem_singleton.mp he]
      exact indirect
  obtain ⟨alive', h'⟩ := accounts_after created Host.Holds.ledger holds_zero (ds ++ [d]) indirects
    fun twice => absurd onceAgain twice
  have balance := h'.balance onceAgain
  rw [extended, returned_append, freed_append, freed, add_zero, h.balance once, add_assoc]
    at balance
  rw [add_comm, add_left_cancel balance]
  exact h'.ledger

/-- After every session, with whatever failures, the objects alive are exactly those that were
returned and not given back. A directive that fails leaves them as they were, and so does one
that makes something together with one that frees it. -/
theorem live_objects (created : Scene.create ({} : Headless) config window = .ok s₀)
    (ds : List Directive) (library : ∀ d ∈ ds, d.isDirect = false)
    (once : FreedOnce (history s₀ ds)) :
    ∃ alive, (after s₀ ds).host.Holds alive ∧
      returned (history s₀ ds) = freed (history s₀ ds) + alive ∧
      (∀ d e, d.isDirect = false → ((carryOut d).run (after s₀ ds)).1 = .error e →
        (after s₀ (ds ++ [d])).host.Holds alive) ∧
      ∀ maker freer owner answer, maker.makes? = some owner → freer.frees? = some owner →
        ((Script.perform maker).run (after s₀ ds)).1 = .ok answer →
        ((Script.perform freer).run (after s₀ (ds ++ [.step maker]))).1 = .ok .nothing ∧
          (after s₀ (ds ++ [.step maker, .step freer])).host.Holds alive := by
  obtain ⟨alive, h⟩ := accounts_after created Host.Holds.ledger holds_zero ds library
    fun twice => absurd once twice
  refine ⟨alive, h.ledger, h.balance once, fun d e indirect failed => ?_,
    fun maker freer owner answer makes frees made => ?_⟩
  · have quiet : (moment (after s₀ ds) d).Quiet := by
      rw [moment, failed]
      exact Moment.quiet_of_error _ _ _
    have holds := accounts_append created library once h indirect quiet.freed quiet.freedProgram?
    rwa [quiet.returned, zero_add] at holds
  · have keeps : maker.frees? = none := by cases maker <;> first | rfl | cases makes
    obtain ⟨objects, stored⟩ := exists_objects_of_makes
      (Script.transition_perform maker (after s₀ ds)) makes made
    have recorded : moment (after s₀ ds) (.step maker) =
        ⟨after s₀ ds, .step maker, .ok answer⟩ :=
      congrArg (Moment.mk _ _) made
    have returned : (moment (after s₀ ds) (.step maker)).returned = objects := by
      have next : Moment.next ⟨after s₀ ds, .step maker, .ok answer⟩ =
          ((Script.perform maker).run (after s₀ ds)).2 := rfl
      simp [recorded, Moment.returned, makes, next, stored]
    have freed : (moment (after s₀ ds) (.step maker)).freed = 0 := by
      simp [recorded, Moment.freed, keeps]
    have noProgram : (moment (after s₀ ds) (.step maker)).freedProgram? = none := by
      rw [recorded]
      cases maker <;> first | rfl | cases keeps
    have holds := accounts_append created library once h rfl freed noProgram
    rw [returned] at holds
    have one : after s₀ (ds ++ [.step maker]) = ((Script.perform maker).run (after s₀ ds)).2 :=
      after_append s₀ ds [.step maker]
    obtain ⟨s', ran, rest⟩ := run_free frees (one ▸ stored) holds
    have two : after s₀ (ds ++ [.step maker, .step freer]) = s' := by
      rw [List.append_cons, after_append]
      exact congrArg Prod.snd ran
    refine ⟨congrArg Prod.fst ran, ?_⟩
    rw [two]
    exact rest

/-- Failures strike a sprite buffer, a target and every stage of linking. Of the procedures that
share a program one is freed. -/
def failingCreations : List Directive :=
  [.step (.newSprites "list"), .failCreation 1, .step (.newBuffer "list" .dynamic "buffer"),
    .step (.newBuffer "list" .dynamic "buffer"), .step (.newBuilder "b"),
    .step (.addAttribute "b" ⟨.float, 2⟩ "place"), .step (.addOperation "b" ⟨.uint, 1⟩ "layer"),
    .step (.setOutput "b" .position "place"), .step (.setOutput "b" .layer "layer"),
    .failCompile "no", .step (.link "b" "p"), .failLink "no", .step (.link "b" "p"),
    .failCreation 2, .step (.link "b" "p"), .step (.link "b" "p"),
    .step (.copyProcedure "p" "q"), .step (.newOperation "p" "op"), .failCreation 2,
    .step (.newTarget ⟨2, 2⟩ false "target"), .step (.newTarget ⟨2, 2⟩ true "target"),
    .step (.primaryTarget "window"), .step (.freeProcedure "q"), .step (.freeOperation "op"),
    .step (.freeTarget "target"), .step (.freeTarget "window"), .failCreation 1]

theorem live_objects_failingCreations :
    ∃ s₀ alive, Scene.create ({} : Headless) .bare ⟨4, 4⟩ = .ok s₀ ∧
      (after s₀ failingCreations).host.Holds alive ∧
      (after s₀ failingCreations).host.device.live.length = 2 ∧
      returned (history s₀ failingCreations) = freed (history s₀ failingCreations) + alive ∧
      (after s₀ (failingCreations ++ [.step (.newBuffer "list" .static "other")])).host.Holds
        alive ∧
      (after s₀ (failingCreations ++
        [.step (.newData .static "data"), .step (.freeData "data")])).host.Holds alive := by
  have created : Scene.create ({} : Headless) .bare ⟨4, 4⟩ = .ok (.start {} ⟨4, 4⟩ .bare .bare) :=
    Scene.create_of_parse ShaderTemplates.parse_bare _ _
  have once : FreedOnce (history (.start {} ⟨4, 4⟩ .bare .bare) failingCreations) := by
    unfold FreedOnce
    decide +kernel
  have two : (after (.start {} ⟨4, 4⟩ .bare .bare) failingCreations).host.device.live.length =
      2 := by
    decide +kernel
  have fails : ((carryOut (.step (.newBuffer "list" .static "other"))).run
      (after (.start {} ⟨4, 4⟩ .bare .bare) failingCreations)).1 =
      .error (.refused (.backend .creationRefused)) := by
    decide +kernel
  have makes : ((Script.perform (.newData .static "data")).run
      (after (.start {} ⟨4, 4⟩ .bare .bare) failingCreations)).1 = .ok (.handle 19) := by
    decide +kernel
  obtain ⟨alive, holds, balance, failed, made⟩ :=
    live_objects created failingCreations (by decide) once
  have restored := (made (.newData .static "data") (.freeData "data") _ _ rfl rfl makes).2
  exact ⟨_, alive, created, holds, two, balance, failed _ _ rfl fails, restored⟩

end Headless

end SpriteRenderer
