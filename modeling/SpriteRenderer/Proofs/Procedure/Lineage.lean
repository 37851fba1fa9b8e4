import SpriteRenderer.Proofs.Operation.Calls
import SpriteRenderer.Proofs.Procedure.Agreement

/-! # Lineages

Which builder a channel, a procedure or an operation comes from is read off the history. Ids of
channels begin anew with every builder, and yet no channel is taken for one of another lineage. -/

namespace SpriteRenderer

/-! ## Who made what -/

/-- Where a procedure comes from. -/
structure Origin where
  /-- The number of the builder. -/
  builder : Nat
  /-- What the builder had accepted when it was composed. -/
  record : List Entry

/-- Who made what. Builders are numbered in the order in which they begin. -/
structure Lineage where
  begun : Nat := 0
  /-- The numbers of the builders that were begun last under each name. -/
  builders : Table String Nat := .empty
  /-- Every channel that was made, with the number of its builder. -/
  minted : List (Nat × Channel) := []
  procedures : Table String Origin := .empty
  operations : Table String Origin := .empty

namespace Script

variable {δ ℓ : Type}

/-- A lineage goes on with a moment, which has a history before it. -/
def Moment.lineage (m : Moment δ ℓ) (before : List (Moment δ ℓ)) (g : Lineage) : Lineage :=
  match m.step, m.answer with
  | .newBuilder as, .ok _ =>
    { g with begun := g.begun + 1, builders := g.builders.insert as g.begun }
  | .addAttribute builder .., .ok (.channel c) | .addOperation builder .., .ok (.channel c)
  | .addIntermediate builder .., .ok (.channel c) =>
    { g with minted := (g.builders.get? builder).toList.map (fun n => (n, c)) ++ g.minted }
  | .finish builder as, .ok _ | .link builder as, .ok _ =>
    let origin := (g.builders.get? builder).map fun n => (⟨n, record builder before⟩ : Origin)
    { g with procedures := g.procedures.insertSome as origin }
  | .copyProcedure procedure as, .ok _ =>
    { g with procedures := g.procedures.insertSome as (g.procedures.get? procedure) }
  | .newOperation procedure as, .ok _ =>
    { g with operations := g.operations.insertSome as (g.procedures.get? procedure) }
  | _, _ => g

/-- The lineage of a history that is told backwards. -/
def lineageBack : List (Moment δ ℓ) → Lineage
  | [] => {}
  | m :: earlier => m.lineage earlier.reverse (lineageBack earlier)

def lineage (ms : List (Moment δ ℓ)) : Lineage := lineageBack ms.reverse

theorem lineage_append (ms : List (Moment δ ℓ)) (m : Moment δ ℓ) :
    lineage (ms ++ [m]) = m.lineage ms (lineage ms) := by
  simp [lineage, lineageBack]

theorem Moment.lineage_of_error (s : Scene δ ℓ) (step : Step) (e : StepError)
    (before : List (Moment δ ℓ)) (g : Lineage) :
    Moment.lineage ⟨s, step, .error e⟩ before g = g := by
  cases step <;> rfl

theorem Moment.lineage_of_isQuery {step : Step} (query : step.isQuery) (s : Scene δ ℓ)
    (r : Except StepError Answer) (before : List (Moment δ ℓ)) (g : Lineage) :
    Moment.lineage ⟨s, step, r⟩ before g = g := by
  cases step <;> first | rfl | cases query

end Script

/-! ## Sessions of a lineage -/

/-- A procedure has the session of its builder, and the channels that the builder had when it was
composed. -/
structure Origin.Describes {ℓ : Type} (start : Nat) (minted : List (Nat × Channel))
    (p : Procedure ℓ) (o : Origin) : Prop where
  session : p.session = start + o.builder
  attributes : p.attributes.map (·.channel) = o.record.filterMap Entry.attribute?
  uniforms : p.uniforms.map (fun u => (u.channel, u.type)) =
    (o.record.filterMap Entry.uniform?).map fun c => (c.id, c.type)
  own : ∀ e ∈ o.record, ∀ c, e.channel? = some c → (o.builder, c) ∈ minted

theorem Origin.Describes.mono {ℓ : Type} {start : Nat} {minted more : List (Nat × Channel)}
    {p : Procedure ℓ} {o : Origin} (h : o.Describes start minted p) (grows : minted ⊆ more) :
    o.Describes start more p :=
  ⟨h.session, h.attributes, h.uniforms, fun e he c made => grows (h.own e he c made)⟩

namespace Scene

open Script (Moment Transition lineage)

variable {δ ℓ : Type}

/-- Sessions are counted from `start` on, one for each builder of a lineage. -/
structure Traced (start : Nat) (g : Lineage) (s : Scene δ ℓ) : Prop where
  next : s.nextSession = start + g.begun
  builders : s.builders.Paired (fun b n => b.session = start + n ∧
    ∀ c, (n, c) ∈ g.minted ↔ c ∈ b.declared) g.builders
  minted : ∀ n c, (n, c) ∈ g.minted → n < g.begun ∧ c.session = start + n
  /-- The channels of one builder have different ids. -/
  told : ∀ n c d, (n, c) ∈ g.minted → (n, d) ∈ g.minted → c.id = d.id → c = d
  procedures : s.procedures.Paired (Origin.Describes start g.minted) g.procedures
  operations : s.operations.Paired (fun op => Origin.Describes start g.minted op.procedure)
    g.operations

namespace Traced

variable {start : Nat} {g : Lineage} {s : Scene δ ℓ}

theorem newBuilder (h : s.Traced start g) (as : String) :
    Traced start { g with begun := g.begun + 1, builders := g.builders.insert as g.begun }
      { s with
        nextSession := s.nextSession + 1
        builders := s.builders.insert as (s.context.builder s.nextSession) } := by
  refine ⟨?_, h.builders.insert ⟨h.next, fun c => ?_⟩, fun n c made => ?_, h.told, h.procedures,
    h.operations⟩
  · exact congrArg (· + 1) h.next
  · -- No channel has the number of a builder that begins.
    refine iff_of_false (fun made => ?_) List.not_mem_nil
    exact Nat.lt_irrefl _ (h.minted _ _ made).1
  · exact (h.minted n c made).imp_left Nat.lt_succ_of_lt

/-- A new channel is one of its builder, and has an id that no other channel of it has. -/
theorem mint (h : s.Traced start g) (scoping : s.Scoped) {builder as : String}
    {b b' : ProcedureBuilder} {c : Channel} (found : s.builders.get? builder = some b)
    (made : b'.declared.Perm (c :: b.declared)) (session : b'.session = b.session)
    (owned : c.session = b.session) (new : c.id = b.nextChannel) :
    Traced start
      { g with minted := (g.builders.get? builder).toList.map (fun n => (n, c)) ++ g.minted }
      { s with
        builders := s.builders.insert builder b'
        channels := s.channels.insert as c } := by
  obtain ⟨n, number, started, own⟩ := h.builders builder b found
  have fresh : ∀ d, (n, d) ∈ g.minted → d.id ≠ c.id := by
    intro d old same
    have below := (scoping.coherent builder b found).fresh d ((own d).mp old)
    rw [same, new] at below
    exact Nat.lt_irrefl _ below
  have begun : n < g.begun := by
    have below := scoping.begun builder b found
    have next := h.next
    omega
  have grows : g.minted ⊆ (n, c) :: g.minted := List.subset_cons_self _ _
  rw [number]
  refine ⟨h.next, ?_, fun k d mem => ?_, fun k d e hd he same => ?_,
    h.procedures.mono fun _ _ _ _ _ described => described.mono grows,
    h.operations.mono fun _ _ _ _ _ described => described.mono grows⟩
  · intro name d hd
    rw [Table.get?_insert] at hd
    by_cases here : name = builder
    · rw [if_pos here, Option.some.injEq] at hd
      refine ⟨n, here ▸ number, hd ▸ session.trans started, fun e => ?_⟩
      simp [← hd, made.mem_iff, own e]
    · rw [if_neg here] at hd
      obtain ⟨k, partner, began, others⟩ := h.builders name d hd
      refine ⟨k, partner, began, fun e => ?_⟩
      have apart : k ≠ n := by
        rintro rfl
        exact here (scoping.apart hd found (began.trans started.symm))
      simp [apart, others e]
  · rcases List.mem_cons.mp mem with new | old
    · cases new
      exact ⟨begun, owned.trans started⟩
    · exact h.minted k d old
  · rcases List.mem_cons.mp hd with hd | hd <;> rcases List.mem_cons.mp he with he | he
    · cases hd
      cases he
      rfl
    · cases hd
      exact absurd same.symm (fresh e he)
    · cases he
      exact absurd same (fresh d hd)
    · exact h.told k d e hd he same

variable [Device δ ℓ] {ms : List (Moment δ ℓ)} {context : Context} {device : δ}
  {config : RendererConfig} {window : Size} {s₀ : Scene δ ℓ}

/-- What is linked from a builder has the session and the record of this builder. -/
theorem describes_of_ofBuilder (h : s.Traced start g) (recorded : s.Recorded context ms)
    {builder : String} {b : ProcedureBuilder} (found : s.builders.get? builder = some b)
    {p : Procedure ℓ} {host host' : Host δ}
    (ran : (Procedure.ofBuilder b : Action δ (Procedure ℓ)).run host = (.ok p, host')) :
    ∃ n, g.builders.get? builder = some n ∧
      Origin.Describes start g.minted p ⟨n, Script.record builder ms⟩ := by
  obtain ⟨n, number, started, own⟩ := h.builders builder b found
  obtain ⟨shader, composed, linked⟩ := Procedure.exists_composed ran
  have links := Procedure.link_yields_links shader host p host' linked
  have records := recorded.builders builder b found
  obtain ⟨-, rfl⟩ := ProcedureBuilder.eq_of_compose composed
  refine ⟨n, number, links.session.trans started, ?_, ?_, fun e he c made => ?_⟩
  · rw [links.attributes, ← records.attributes]
    simp [ProcedureBuilder.attributeBindings, Function.comp_def]
  · rw [links.uniforms, ← records.uniforms]
  · exact (own c).mpr (records.mem_declared_iff.mpr ⟨e, he, made⟩)

theorem transition (h : s.Traced start g) (recorded : s.Recorded context ms) (scoping : s.Scoped)
    {step : Step} {out : Except StepError Answer × Scene δ ℓ} (t : Transition s step out) :
    out.2.Traced start (Moment.lineage ⟨s, step, out.1⟩ ms g) := by
  cases t with
  | refused e =>
      rw [Moment.lineage_of_error]
      exact h
  | addSpriteRefused e =>
      rw [Moment.lineage_of_error]
      exact ⟨h.next, h.builders, h.minted, h.told, h.procedures, h.operations⟩
  | asked query r =>
      rw [Moment.lineage_of_isQuery query]
      exact h
  | newBuilder as => exact h.newBuilder as
  | addAttribute _ found =>
      exact h.mint scoping found (ProcedureBuilder.declared_addAttribute _ _) rfl rfl rfl
  | addOperation _ found =>
      exact h.mint scoping found (ProcedureBuilder.declared_addOperation _ _) rfl rfl rfl
  | addIntermediate _ found =>
      exact h.mint scoping found (ProcedureBuilder.declared_addIntermediate _ _ _) rfl rfl rfl
  | call _ _ found called =>
      obtain ⟨rfl, -⟩ := ProcedureBuilder.eq_of_call called
      obtain ⟨n, number, related⟩ := h.builders _ _ found
      exact ⟨h.next, h.builders.update number related, h.minted, h.told, h.procedures,
        h.operations⟩
  | setOutput _ found bound =>
      obtain ⟨rfl, -⟩ := ProcedureBuilder.eq_of_setOutput bound
      obtain ⟨n, number, related⟩ := h.builders _ _ found
      exact ⟨h.next, h.builders.update number related, h.minted, h.told, h.procedures,
        h.operations⟩
  | @finish builder as b r host found ran =>
      cases r with
      | error e =>
          exact ⟨h.next, h.builders.erase builder, h.minted, h.told, h.procedures, h.operations⟩
      | ok p =>
          obtain ⟨n, number, described⟩ := h.describes_of_ofBuilder recorded found ran
          refine ⟨h.next, h.builders.erase builder, h.minted, h.told, ?_, h.operations⟩
          simp only [Moment.lineage, Script.told_ok, number]
          exact h.procedures.insert described
  | @link builder as b r host found ran =>
      cases r with
      | error e => exact ⟨h.next, h.builders, h.minted, h.told, h.procedures, h.operations⟩
      | ok p =>
          obtain ⟨n, number, described⟩ := h.describes_of_ofBuilder recorded found ran
          refine ⟨h.next, h.builders, h.minted, h.told, ?_, h.operations⟩
          simp only [Moment.lineage, Script.told_ok, number]
          exact h.procedures.insert described
  | @copyProcedure procedure as p found =>
      obtain ⟨o, origin, described⟩ := h.procedures procedure p found
      refine ⟨h.next, h.builders, h.minted, h.told, ?_, h.operations⟩
      simp only [Moment.lineage, origin]
      exact h.procedures.insert described
  | freeProcedure found =>
      exact ⟨h.next, h.builders, h.minted, h.told, h.procedures.erase _, h.operations⟩
  | @newOperation procedure as p r host found ran =>
      cases r with
      | error e => exact ⟨h.next, h.builders, h.minted, h.told, h.procedures, h.operations⟩
      | ok op =>
          obtain ⟨o, origin, described⟩ := h.procedures procedure p found
          refine ⟨h.next, h.builders, h.minted, h.told, h.procedures, ?_⟩
          simp only [Moment.lineage, Script.told_ok, origin]
          refine h.operations.insert ?_
          rw [Operation.create_yields _ _ op _ ran]
          exact described
  | setAttribute _ _ found ran =>
      obtain ⟨o, origin, described⟩ := h.operations _ _ found
      refine ⟨h.next, h.builders, h.minted, h.told, h.procedures, ?_⟩
      refine h.operations.updateOk origin fun op made => ?_
      rw [(Operation.setAttribute_yields _ _ _ _ _ _ op _ (made ▸ ran)).procedure]
      exact described
  | setValue _ found stored =>
      obtain ⟨o, origin, described⟩ := h.operations _ _ found
      rw [Operation.eq_of_setValue stored]
      exact ⟨h.next, h.builders, h.minted, h.told, h.procedures,
        h.operations.update origin described⟩
  | setSprite _ found ran =>
      obtain ⟨o, origin, described⟩ := h.operations _ _ found
      refine ⟨h.next, h.builders, h.minted, h.told, h.procedures, ?_⟩
      refine h.operations.updateOk origin fun op made => ?_
      rw [(Operation.setSprite_yields _ _ _ _ op _ (made ▸ ran)).procedure]
      exact described
  | setAmount found =>
      obtain ⟨o, origin, described⟩ := h.operations _ _ found
      exact ⟨h.next, h.builders, h.minted, h.told, h.procedures,
        h.operations.update origin described⟩
  | freeOperation found =>
      exact ⟨h.next, h.builders, h.minted, h.told, h.procedures, h.operations.erase _⟩
  | _ => exact ⟨h.next, h.builders, h.minted, h.told, h.procedures, h.operations⟩

theorem run (created : Scene.create device config window = .ok s₀)
    (steps : List Step) :
    (Script.run steps s₀).2.Traced s₀.nextSession (lineage (Script.history s₀ steps)) := by
  obtain ⟨templates, rfl⟩ := Scene.eq_of_create created
  refine (Script.history_induction
    (I := fun ms s => s.Recorded ⟨config, templates⟩ ms ∧ s.Scoped ∧ s.Traced 1 (lineage ms))
    (fun ms s a out t h => ?_) steps ⟨⟨rfl, .empty⟩, .of_create created, ?_⟩).2.2
  · rw [Script.lineage_append]
    exact ⟨h.1.transition t, h.2.1.transition t, h.2.2.transition h.1 h.2.1 t⟩
  · exact ⟨rfl, .empty, fun _ _ made => (List.not_mem_nil made).elim,
      fun _ _ _ made => (List.not_mem_nil made).elim, .empty, .empty⟩

end Traced

end Scene

/-! ## Channels of a procedure's own builder -/

section

variable {start : Nat} {minted : List (Nat × Channel)} {ℓ : Type} {p : Procedure ℓ} {o : Origin}
  {c : Channel}

theorem Entry.mem_filterMap_attribute? {es : List Entry} {c : Channel} :
    c ∈ es.filterMap attribute? ↔ .attribute c ∈ es := by
  simp [List.mem_filterMap, attribute?_eq_some_iff]

namespace Origin.Describes

/-- An id stands for one channel of a builder, so the one that is found is the one that was asked
for. -/
theorem attribute?_eq_none_iff (h : o.Describes start minted p)
    (told : ∀ n c d, (n, c) ∈ minted → (n, d) ∈ minted → c.id = d.id → c = d)
    (made : (o.builder, c) ∈ minted) (owned : p.owns c = true) :
    p.attribute? c = none ↔ .attribute c ∉ o.record := by
  have known : (∃ a ∈ p.attributes, a.channel.id = c.id) ↔ .attribute c ∈ o.record := by
    rw [← Entry.mem_filterMap_attribute?, ← h.attributes, List.mem_map]
    refine exists_congr fun a => and_congr_right fun listed =>
      ⟨fun same => ?_, congrArg Channel.id⟩
    have entry : .attribute a.channel ∈ o.record := by
      rw [← Entry.mem_filterMap_attribute?, ← h.attributes]
      exact List.mem_map_of_mem listed
    exact told _ _ _ (h.own _ entry _ rfl) made same
  rw [Procedure.attribute?, if_pos owned, Option.map_eq_none_iff, List.find?_eq_none, ← known]
  simp

theorem uniformType?_eq_none_iff (h : o.Describes start minted p)
    (told : ∀ n c d, (n, c) ∈ minted → (n, d) ∈ minted → c.id = d.id → c = d)
    (made : (o.builder, c) ∈ minted) (owned : p.owns c = true) :
    p.uniformType? c = none ↔ .uniform c ∉ o.record := by
  have ids : p.uniforms.map (·.channel) = (o.record.filterMap Entry.uniform?).map (·.id) := by
    simpa [Function.comp_def] using congrArg (List.map (·.1)) h.uniforms
  have known : (∃ u ∈ p.uniforms, u.channel = c.id) ↔ .uniform c ∈ o.record := by
    rw [← List.mem_map, ids, List.mem_map]
    constructor
    · rintro ⟨d, listed, same⟩
      have entry := Entry.mem_filterMap_uniform?.mp listed
      rwa [← told _ _ _ (h.own _ entry _ rfl) made same]
    · exact fun entry => ⟨c, Entry.mem_filterMap_uniform?.mpr entry, rfl⟩
  rw [Procedure.uniformType?, if_pos owned, Option.map_eq_none_iff, List.find?_eq_none, ← known]
  simp

end Origin.Describes

end

/-! ## Channels of other lineages -/

/-- The builder takes the channel neither for an output nor for an argument that comes after right
ones. -/
structure ProcedureBuilder.Rejects (b : ProcedureBuilder) (c : Channel) : Prop where
  output : ∀ o, b.setOutput o c = .error .foreignChannel
  argument : ∀ (f : Function) (arguments : List Channel) (i : Nat),
    f.parameters.length = arguments.length → arguments[i]? = some c →
    (∀ j < i, ∀ a type, arguments[j]? = some a → f.parameters[j]? = some type →
      b.owns a = true ∧ type = a.type) →
    b.call f arguments = .error .foreignChannel

theorem ProcedureBuilder.Rejects.of_foreign {b : ProcedureBuilder} {c : Channel}
    (foreign : b.owns c = false) : b.Rejects c :=
  ⟨setOutput_of_foreign foreign, fun _ _ _ arity passed => call_of_foreign arity passed foreign⟩

section

variable {ℓ : Type}

/-- The procedure tells nothing of the channel. -/
structure Procedure.Rejects (p : Procedure ℓ) (c : Channel) : Prop where
  owned : p.owns c = false
  slot : p.attribute? c = none
  type : p.uniformType? c = none

theorem Procedure.Rejects.of_foreign {p : Procedure ℓ} {c : Channel} (foreign : p.owns c = false) :
    p.Rejects c :=
  ⟨foreign, by rw [attribute?, foreign]; rfl, by rw [uniformType?, foreign]; rfl⟩

variable (δ : Type) [Device δ ℓ]

/-- The operation takes nothing for the channel, leaves the host alone, and tells nothing of it. -/
structure Operation.Rejects (op : Operation ℓ) (c : Channel) : Prop where
  procedure : op.procedure.Rejects c
  source : ∀ data offset slot (host : Host δ),
    (op.setAttribute c data offset slot : Action δ (Operation ℓ)).run host =
      (.error .foreignChannel, host)
  value : ∀ value, op.setValue c value = .error .foreignChannel
  bound : op.binding? c = none
  stored : op.value? c = none

/-- The operation owns the channel, and does not know it unless its procedure was composed with
it. -/
structure Operation.Separates (op : Operation ℓ) (record : List Entry) (c : Channel) : Prop where
  owned : op.procedure.owns c = true
  source : ∀ data offset slot (host : Host δ),
    ((op.setAttribute c data offset slot : Action δ (Operation ℓ)).run host).1 =
      .error (.unknownChannel c.id) ↔ .attribute c ∉ record
  value : ∀ value, op.setValue c value = .error (.unknownChannel c.id) ↔ .uniform c ∉ record

variable {δ}

theorem Operation.Rejects.of_foreign {op : Operation ℓ} {c : Channel}
    (foreign : op.procedure.owns c = false) : op.Rejects δ c := by
  refine ⟨.of_foreign foreign, fun data offset slot host => ?_,
    setValue_of_foreign foreign, ?_, ?_⟩
  · rw [run_setAttribute, attributeSource_of_foreign foreign]
  · rw [binding?, foreign]
    rfl
  · rw [value?, foreign]
    rfl

theorem Operation.Separates.of_describes {start : Nat} {minted : List (Nat × Channel)}
    {op : Operation ℓ} {o : Origin} {c : Channel} (h : o.Describes start minted op.procedure)
    (told : ∀ n c d, (n, c) ∈ minted → (n, d) ∈ minted → c.id = d.id → c = d)
    (made : (o.builder, c) ∈ minted) (owned : op.procedure.owns c = true) :
    op.Separates δ o.record c := by
  refine ⟨owned, fun data offset slot host => ?_, fun value => ?_⟩
  · rw [← h.attribute?_eq_none_iff told made owned,
      ← attributeSource_eq_unknown_iff owned data offset slot, run_setAttribute]
    cases op.attributeSource c data offset slot <;> simp
  · rw [← h.uniformType?_eq_none_iff told made owned, setValue_eq_unknown_iff owned]

variable {device : δ} {config : RendererConfig} {window : Size} {s₀ : Scene δ ℓ}

/-- Whatever channels, builders, procedures and operations a script makes, a channel of another
builder is rejected everywhere, and a channel of the own builder is known where the procedure was
composed with it. -/
theorem channels_keep_lineage (created : Scene.create device config window = .ok s₀)
    (steps : List Step) :
    let g := Script.lineage (Script.history s₀ steps)
    let s := (Script.run steps s₀).2
    s.builders.Paired (fun b n => ∀ k c, (k, c) ∈ g.minted →
        (k = n → b.owns c = true) ∧ (k ≠ n → b.Rejects c)) g.builders ∧
      s.procedures.Paired (fun p o => ∀ k c, (k, c) ∈ g.minted →
        (k = o.builder → p.owns c = true) ∧ (k ≠ o.builder → p.Rejects c)) g.procedures ∧
      s.operations.Paired (fun op o => ∀ k c, (k, c) ∈ g.minted →
        (k = o.builder → op.Separates δ o.record c) ∧ (k ≠ o.builder → op.Rejects δ c))
        g.operations := by
  intro g s
  have traced : s.Traced s₀.nextSession g := .run created steps
  have owns {p : Procedure ℓ} {o : Origin} (described : o.Describes s₀.nextSession g.minted p)
      {k c} (made : (k, c) ∈ g.minted) : p.owns c = decide (k = o.builder) := by
    rw [Procedure.owns, described.session, (traced.minted k c made).2]
    simp
  refine ⟨traced.builders.mono fun _ b n _ _ h k c made => ?_,
    traced.procedures.mono fun _ p o _ _ described k c made => ?_,
    traced.operations.mono fun _ op o _ _ described k c made => ?_⟩
  · have owned : b.owns c = decide (k = n) := by
      rw [ProcedureBuilder.owns, h.1, (traced.minted k c made).2]
      simp
    exact ⟨fun own => by simp [owned, own],
      fun other => .of_foreign (by simp [owned, other])⟩
  · exact ⟨fun own => by simp [owns described made, own],
      fun other => .of_foreign (by simp [owns described made, other])⟩
  · refine ⟨fun own => ?_, fun other => .of_foreign (by simp [owns described made, other])⟩
    exact .of_describes described traced.told (own ▸ made)
      (by simp [owns described made, own])

end

/-- Two builders make the same channels under the same ids. One goes on after it was linked. -/
def twinBuilders : List Step :=
  [.newBuilder "a", .newBuilder "b",
    .addAttribute "a" ⟨.float, 2⟩ "place", .addAttribute "b" ⟨.float, 2⟩ "otherPlace",
    .addOperation "a" ⟨.uint, 1⟩ "layer", .addOperation "b" ⟨.uint, 1⟩ "otherLayer",
    .setOutput "a" .position "place", .setOutput "b" .position "otherPlace",
    .setOutput "a" .layer "layer", .setOutput "b" .layer "otherLayer",
    .link "a" "p", .finish "b" "q", .addAttribute "a" ⟨.float, 1⟩ "late",
    .newOperation "p" "op", .newData .dynamic "data", .setLayout "data" [⟨.float32, 2⟩],
    .setAttribute "op" "place" "data" 0 0, .setValue "op" "layer" (.uints (.one 7))]

theorem isSome_twinBuilders :
    ((Script.run twinBuilders bareScene).2.operations.get? "op").isSome := by
  decide +kernel

theorem channels_keep_lineage_twinBuilders :
    ∃ op : Operation String, (Script.run twinBuilders bareScene).2.operations.get? "op" = some op ∧
      (op.binding? ⟨1, 1, .perInstance, .vec2⟩).isSome ∧
      (op.value? ⟨1, 2, .perDraw, .uint⟩).isSome ∧
      op.Rejects Headless ⟨2, 1, .perInstance, .vec2⟩ ∧
      op.Rejects Headless ⟨2, 2, .perDraw, .uint⟩ ∧
      ∀ data offset slot (host : Host Headless),
        ((op.setAttribute ⟨1, 3, .perInstance, .float⟩ data offset slot :
          Action Headless (Operation String)).run host).1 = .error (.unknownChannel 3) := by
  have created : Scene.create ({} : Headless) .bare ⟨4, 4⟩ = .ok bareScene :=
    Scene.create_of_parse ShaderTemplates.parse_bare _ _
  have found := (Option.some_get isSome_twinBuilders).symm
  obtain ⟨o, origin, keeps⟩ := (channels_keep_lineage created twinBuilders).2.2 _ _ found
  have known : ((Script.lineage (Script.history bareScene twinBuilders)).operations.get? "op").map
      (fun o => (o.builder, decide (.attribute ⟨1, 3, .perInstance, .float⟩ ∈ o.record))) =
      some (0, false) := by
    decide +kernel
  have made : ∀ made ∈ [(1, (⟨2, 1, .perInstance, .vec2⟩ : Channel)), (1, ⟨2, 2, .perDraw, .uint⟩),
      (0, ⟨1, 3, .perInstance, .float⟩)],
      made ∈ (Script.lineage (Script.history bareScene twinBuilders)).minted := by
    decide +kernel
  rw [origin] at known
  obtain ⟨builder, late⟩ : o.builder = 0 ∧
      .attribute ⟨1, 3, .perInstance, .float⟩ ∉ o.record := by
    simpa using known
  refine ⟨_, found, by decide +kernel, by decide +kernel, ?_, ?_, fun data offset slot host => ?_⟩
  · exact (keeps 1 _ (made _ (by simp))).2 (by simp [builder])
  · exact (keeps 1 _ (made _ (by simp))).2 (by simp [builder])
  · exact (((keeps 0 _ (made _ (by simp))).1 builder.symm).source data offset slot host).mpr late

end SpriteRenderer
