import SpriteRenderer.Error

/-! # Shader templates

A template is shader source with named placeholders such as `<functions>`. It is cut
into text and slots once. Filling it is then one pass over these segments, so text
that fills a slot is never searched for placeholders. -/

namespace SpriteRenderer

inductive Segment where
  | text (chars : List Char)
  | slot (s : Slot)
deriving DecidableEq, Repr

namespace Segment

/-- Puts a character in front of a list of segments, into its first text if it begins with one. -/
def push (c : Char) : List Segment → List Segment
  | .text chars :: segments => .text (c :: chars) :: segments
  | segments => .text [c] :: segments

/-- The segments of a source. A bracket that begins no placeholder is text. -/
def split : List Char → List Segment
  | [] => []
  | c :: rest =>
    if c = '<' then
      match Slot.after? rest with
      | some s => .slot s :: split (rest.drop s.closing.length)
      | none => push c (split rest)
    else push c (split rest)
termination_by source => source.length
decreasing_by all_goals simp only [List.length_drop, List.length_cons]; omega

/-- The source text of a segment. -/
def source : Segment → List Char
  | text chars => chars
  | slot s => s.placeholder

def fill (f : Slot → List Char) : Segment → List Char
  | text chars => chars
  | slot s => f s

/-- What fills a slot is asked for. -/
def fillM {m : Type → Type} [Monad m] (ask : Slot → m String) : Segment → m (List Char)
  | text chars => return chars
  | slot s => do return (← ask s).toList

def slot? : Segment → Option Slot
  | text _ => none
  | slot s => some s

end Segment

structure Template where
  segments : List Segment
deriving DecidableEq, Repr

namespace Template

/-- The first slot that does not occur as often as it should. -/
def miscounted? (required : List Slot) (segments : List Segment) : Option (Slot × Nat × Nat) :=
  Slot.all.findSome? fun s =>
    let count := segments.count (.slot s)
    let expected := if s ∈ required then 1 else 0
    if count = expected then none else some (s, expected, count)

/-- Reads a source that has each required slot once and no other slot. -/
def parse (source : String) (required : List Slot) : Except RenderError Template :=
  let segments := Segment.split source.toList
  match miscounted? required segments with
  | some (s, expected, count) => .error (.templateError s expected count)
  | none => .ok ⟨segments⟩

/-- The slots in the order of their placeholders. -/
def slots (t : Template) : List Slot := t.segments.filterMap Segment.slot?

/-- The source with every slot filled. -/
def render (t : Template) (f : Slot → String) : String :=
  .ofList (t.segments.flatMap (Segment.fill fun s => (f s).toList))

/-- The source with every slot filled by what is answered when it is asked for. -/
def renderM {m : Type → Type} [Monad m] (t : Template) (ask : Slot → m String) : m String := do
  let pieces ← t.segments.mapM (Segment.fillM ask)
  return .ofList pieces.flatten

end Template

/-- The templates of both shader stages. -/
structure ShaderTemplates where
  vertex : Template
  fragment : Template
deriving DecidableEq, Repr

namespace ShaderTemplates

/-- The vertex stage has every slot, the fragment stage only the version. -/
def parse (vertex fragment : String) : Except RenderError ShaderTemplates := do
  let vertex ← Template.parse vertex Slot.all
  let fragment ← Template.parse fragment [.version]
  return ⟨vertex, fragment⟩

end ShaderTemplates

end SpriteRenderer
