import Mathlib.Data.List.Forall2
import Mathlib.Data.List.Nodup
import SpriteRenderer.Procedure.Composition

/-! # Programs

The syntax of the programs that builders compose, their text, and when they are well typed. -/

namespace SpriteRenderer

/-- Where a declared variable is kept. -/
inductive Storage where
  | attribute (location : UInt32)
  | uniform
  /-- A variable of the main function, with the expression that initialises it. -/
  | body (expression : Option String)
deriving DecidableEq, Repr

structure Declaration where
  storage : Storage
  type : ShaderType
  name : String
deriving DecidableEq, Repr

namespace Declaration

def text (d : Declaration) : String :=
  match d.storage with
  | .attribute location =>
    s!"layout(location = {location.toNat}) in {d.type.glslName} {d.name};"
  | .uniform => s!"uniform {d.type.glslName} {d.name};"
  | .body (some e) => s!"{d.type.glslName} {d.name} = {e};"
  | .body none => s!"{d.type.glslName} {d.name};"

def location? (d : Declaration) : Option UInt32 :=
  match d.storage with
  | .attribute location => some location
  | _ => none

end Declaration

/-- A call of a function on variables. -/
structure Statement where
  function : String
  arguments : List String
deriving DecidableEq, Repr

namespace Statement

def text (s : Statement) : String := s.function ++ "(" ++ ", ".intercalate s.arguments ++ ");"

end Statement

structure Program where
  version : String
  attributes : List Declaration
  uniforms : List Declaration
  locals : List Declaration
  functions : List Function
  calls : List Statement
  /-- The variable bound to an output. -/
  outputs : Output → Option String

namespace Program

open ProcedureBuilder (lines bodyLines)

/-- An output is its variable or its default. -/
def outputText (p : Program) (o : Output) : String :=
  (p.outputs o).getD (o.defaultExpression?.getD "")

/-- What the program puts into a slot of the template. -/
def text (p : Program) : Slot → String
  | .version => p.version
  | .attributes => lines (p.attributes.map (·.text))
  | .uniforms => lines (p.uniforms.map (·.text))
  | .functions => .join (p.functions.map (·.source ++ "\n"))
  | .locals => bodyLines (p.locals.map (·.text))
  | .calls => bodyLines (p.calls.map (·.text))
  | .position => p.outputText .position
  | .layer => p.outputText .layer
  | .color => p.outputText .color
  | .xAxis => p.outputText .xAxis
  | .yAxis => p.outputText .yAxis

def declarations (p : Program) : List Declaration := p.attributes ++ p.uniforms ++ p.locals

/-- Exactly one declaration has the name, and it is of the type. -/
def Declares (p : Program) (name : String) (type : ShaderType) : Prop :=
  (p.declarations.filter (·.name = name)).map (·.type) = [type]

theorem filter_name_eq {ds : List Declaration} (names : (ds.map (·.name)).Nodup)
    {d : Declaration} (hd : d ∈ ds) : ds.filter (·.name = d.name) = [d] := by
  induction ds with
  | nil => cases hd
  | cons e ds ih =>
      rw [List.map_cons, List.nodup_cons] at names
      rcases List.mem_cons.mp hd with rfl | hd
      · have others : ds.filter (·.name = d.name) = [] := by
          rw [List.filter_eq_nil_iff]
          intro x hx same
          exact names.1 (List.mem_map.mpr ⟨x, hx, by simpa using same⟩)
        simp [others]
      · have other : e.name ≠ d.name := by
          intro same
          rw [same] at names
          exact names.1 (List.mem_map_of_mem hd)
        simp [other, ih names.2 hd]

theorem declares_of_mem {p : Program} (names : (p.declarations.map (·.name)).Nodup)
    {d : Declaration} (hd : d ∈ p.declarations) : p.Declares d.name d.type := by
  rw [Declares, filter_name_eq names hd]
  rfl

end Program

/-! ## Composed programs -/

/-- The name of a channel tells its id. -/
theorem Channel.id_eq_of_name_eq {c d : Channel} (h : c.name = d.name) : c.id = d.id := by
  have digits : Nat.toDigits 10 c.id = Nat.toDigits 10 d.id :=
    String.ofList_injective ((String.append_right_inj "c").mp h)
  calc c.id
    _ = Nat.ofDigitChars 10 (Nat.toDigits 10 c.id) 0 := Nat.ofDigitChars_ten_toDigits.symm
    _ = Nat.ofDigitChars 10 (Nat.toDigits 10 d.id) 0 := by rw [digits]
    _ = d.id := Nat.ofDigitChars_ten_toDigits

namespace ProcedureBuilder

/-- The program that a builder composes. -/
def program (b : ProcedureBuilder) : Program where
  version := b.glslVersion
  attributes := b.attributeBindings.map fun a =>
    ⟨.attribute a.location, a.channel.type, a.channel.name⟩
  uniforms := b.uniforms.map fun c => ⟨.uniform, c.type, c.name⟩
  locals := b.locals.map fun (c, e) => ⟨.body e, c.type, c.name⟩
  functions := b.functions
  calls := b.calls.map fun c => ⟨c.function.name, c.arguments.map (·.name)⟩
  outputs o := (b.outputs.get? o).map (·.name)

/-- The channels that a builder has made, in the order of their sections. -/
def declared (b : ProcedureBuilder) : List Channel :=
  b.attributes ++ b.uniforms ++ b.locals.map (·.1)

/-- A program declares the channels of its builder, under their names and with their types. -/
theorem map_declarations {α : Type} (b : ProcedureBuilder) (f : String → ShaderType → α) :
    b.program.declarations.map (fun d => f d.name d.type) =
      b.declared.map fun c => f c.name c.type := by
  have attributes : b.attributeBindings.map (fun a => f a.channel.name a.channel.type) =
      b.attributes.map fun c => f c.name c.type := by
    conv_rhs => rw [← List.zipIdx_map_fst 0 b.attributes]
    simp only [attributeBindings, List.map_map]
    rfl
  simp only [Program.declarations, program, declared, List.map_append, List.map_map]
  rw [← attributes]
  rfl

theorem declares_of_mem {b : ProcedureBuilder}
    (names : (b.program.declarations.map (·.name)).Nodup) {c : Channel} (hc : c ∈ b.declared) :
    b.program.Declares c.name c.type := by
  have listed : (c.name, c.type) ∈ b.program.declarations.map fun d => (d.name, d.type) := by
    rw [b.map_declarations Prod.mk]
    exact List.mem_map_of_mem hc
  obtain ⟨d, hd, same⟩ := List.mem_map.mp listed
  obtain ⟨name, type⟩ := Prod.mk.inj same
  rw [← name, ← type]
  exact Program.declares_of_mem names hd

/-- As long as there are no more attributes than numbers, no two have the same location. -/
theorem nodup_locations {b : ProcedureBuilder} (few : b.attributes.length ≤ UInt32.size) :
    (b.program.attributes.filterMap (·.location?)).Nodup := by
  have locations : b.program.attributes.filterMap (·.location?) =
      (List.range' 0 b.attributes.length).map fun i => b.layoutStart + .ofNat i := by
    have pairs : b.program.attributes.filterMap (·.location?) =
        b.attributes.zipIdx.map fun x => b.layoutStart + .ofNat x.2 := by
      simp [program, attributeBindings, Function.comp_def, Declaration.location?]
    rw [pairs, ← List.zipIdx_map_snd 0 b.attributes, List.map_map]
    rfl
  rw [locations]
  refine List.Nodup.map_on (fun i hi j hj same => ?_) List.nodup_range'
  have hi : i < UInt32.size := by
    have := (List.mem_range'_1.mp hi).2
    omega
  have hj : j < UInt32.size := by
    have := (List.mem_range'_1.mp hj).2
    omega
  have words : UInt32.ofNat i = UInt32.ofNat j := (UInt32.add_right_inj b.layoutStart).mp same
  have naturals := congrArg UInt32.toNat words
  rwa [UInt32.toNat_ofNat_of_lt' hi, UInt32.toNat_ofNat_of_lt' hj] at naturals

end ProcedureBuilder

end SpriteRenderer
