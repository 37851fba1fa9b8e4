import SpriteRenderer.Bytes
import SpriteRenderer.Error
import SpriteRenderer.Journal
import SpriteRenderer.Sprite

/-! # The wire form of sprites

A vertex section is followed by an index section.

* A vertex record is a colour (opacity, red, green, blue), only in the first record
  and after a record that ends a run; then `x` and `y`; then a control byte.
* Control 0 stays in the run, control 1 ends it, control 2 ends the section.
* An index is one word. The section ends with the stream; one to three bytes at its
  end that make no word are ignored with a warning. -/

namespace SpriteRenderer

/-- What follows a vertex record. -/
inductive Control where
  | same | newRun | stop
deriving DecidableEq, Repr

namespace Control

def toByte : Control → UInt8
  | same => 0
  | newRun => 1
  | stop => 2

def ofByte? : UInt8 → Option Control
  | 0 => some same
  | 1 => some newRun
  | 2 => some stop
  | _ => none

@[simp] theorem ofByte?_toByte (c : Control) : ofByte? c.toByte = some c := by cases c <;> rfl

theorem ofByte?_eq_some_iff (b : UInt8) (c : Control) : ofByte? b = some c ↔ b = c.toByte := by
  constructor
  · intro h
    unfold ofByte? at h
    split at h <;> cases h <;> rfl
  · rintro rfl
    simp

end Control

namespace Wire

/-! ## Reading -/

/-- A vertex record: what it holds, less the layer, which is counted. -/
structure VertexRecord where
  color : Color
  x : Single
  y : Single
  control : UInt8
deriving DecidableEq, Repr

def takeColor (n : Nat) : List UInt8 → Except GeometryFault (Color × List UInt8)
  | a :: r :: g :: b :: rest => .ok (Color.ofArgb a r g b, rest)
  | _ => .error (.truncated .color n)

def takeSingle (field : WireField) (n : Nat) :
    List UInt8 → Except GeometryFault (Single × List UInt8)
  | a :: b :: c :: d :: rest => .ok (⟨Bytes.toWord a b c d⟩, rest)
  | _ => .error (.truncated field n)

def takeControl (n : Nat) : List UInt8 → Except GeometryFault (UInt8 × List UInt8)
  | c :: rest => .ok (c, rest)
  | [] => .error (.truncated .control n)

/-- The record of vertex `n`. Inside a run the colour is carried over, not read. -/
def takeRecord (n : Nat) (carried : Option Color) (bytes : List UInt8) :
    Except GeometryFault (VertexRecord × List UInt8) := do
  let (color, bytes) ← match carried with
    | some color => .ok (color, bytes)
    | none => takeColor n bytes
  let (x, bytes) ← takeSingle .x n bytes
  let (y, bytes) ← takeSingle .y n bytes
  let (control, bytes) ← takeControl n bytes
  return (⟨color, x, y, control⟩, bytes)

theorem takeColor_shortens {n : Nat} {bytes rest : List UInt8} {c : Color}
    (h : takeColor n bytes = .ok (c, rest)) : rest.length ≤ bytes.length := by
  unfold takeColor at h
  split at h <;> cases h
  simp only [List.length_cons]; omega

theorem takeSingle_shortens {f : WireField} {n : Nat} {bytes rest : List UInt8} {x : Single}
    (h : takeSingle f n bytes = .ok (x, rest)) : rest.length < bytes.length := by
  unfold takeSingle at h
  split at h <;> cases h
  simp only [List.length_cons]; omega

theorem takeControl_shortens {n : Nat} {bytes rest : List UInt8} {c : UInt8}
    (h : takeControl n bytes = .ok (c, rest)) : rest.length < bytes.length := by
  unfold takeControl at h
  split at h <;> cases h
  simp

theorem takeRecord_shortens {n : Nat} {carried : Option Color} {bytes rest : List UInt8}
    {r : VertexRecord} (h : takeRecord n carried bytes = .ok (r, rest)) :
    rest.length < bytes.length := by
  have tail : ∀ {bytes : List UInt8} {color : Color},
      (do let (x, bytes) ← takeSingle .x n bytes
          let (y, bytes) ← takeSingle .y n bytes
          let (control, bytes) ← takeControl n bytes
          return (⟨color, x, y, control⟩, bytes)) = Except.ok (r, rest) →
        rest.length < bytes.length := by
    intro bytes color h
    cases hx : takeSingle .x n bytes with
    | error e => simp [hx, bind, Except.bind] at h
    | ok px =>
      cases hy : takeSingle .y n px.2 with
      | error e => simp [hx, hy, bind, Except.bind] at h
      | ok py =>
        cases hc : takeControl n py.2 with
        | error e => simp [hx, hy, hc, bind, Except.bind] at h
        | ok pc =>
          simp only [hx, hy, hc, bind, Except.bind, pure, Except.pure, Except.ok.injEq,
            Prod.mk.injEq] at h
          have := takeSingle_shortens hx
          have := takeSingle_shortens hy
          have := takeControl_shortens hc
          rw [← h.2]
          omega
  cases carried with
  | some color => exact tail h
  | none =>
    cases hc : takeColor n bytes with
    | error e => simp [takeRecord, hc, bind, Except.bind] at h
    | ok p =>
      have := takeColor_shortens hc
      have := @tail p.2 p.1 (by simpa [takeRecord, hc, bind, Except.bind] using h)
      omega

/-- The vertex section from vertex `n` on, and the bytes after it. -/
def takeVertices (n : Nat) (layer : UInt8) (carried : Option Color) (bytes : List UInt8) :
    Except GeometryFault (List Vertex × List UInt8) :=
  match _h : takeRecord n carried bytes with
  | .error e => .error e
  | .ok (r, rest) =>
    let vertex : Vertex := ⟨r.x, r.y, r.color, layer⟩
    match Control.ofByte? r.control with
    | none => .error (.invalidControl r.control n)
    | some .stop => .ok ([vertex], rest)
    | some .same => do
      let (vertices, rest) ← takeVertices (n + 1) layer (some r.color) rest
      return (vertex :: vertices, rest)
    | some .newRun =>
      if layer = 255 then .error .tooManyRuns
      else do
        let (vertices, rest) ← takeVertices (n + 1) (layer + 1) none rest
        return (vertex :: vertices, rest)
termination_by bytes.length
decreasing_by all_goals exact takeRecord_shortens _h

/-- The words of an index section, each below the number of vertices. -/
def takeIndices (vertexCount : Nat) : List UInt8 → Except GeometryFault (List UInt32)
  | a :: b :: c :: d :: rest => do
    let index := Bytes.toWord a b c d
    if vertexCount ≤ index.toNat then .error (.indexOutOfRange index vertexCount)
    else return index :: (← takeIndices vertexCount rest)
  | _ => .ok []

/-- A vertex section, then an index section up to the end of the stream. -/
def takeSprite (bytes : List UInt8) : Except GeometryFault Sprite := do
  let (vertices, rest) ← takeVertices 0 0 none bytes
  let indices ← takeIndices vertices.length rest
  return ⟨vertices, indices⟩

/-! ## Writing -/

/-- The record of a vertex up to its control byte. -/
def vertexBytes (withColor : Bool) (v : Vertex) : List UInt8 :=
  (if withColor then v.color.toArgb else []) ++ Bytes.ofWord v.x.bits ++ Bytes.ofWord v.y.bits

/-- The control between vertex `n - 1` and its successor, vertex `n`. -/
def controlBetween (n : Nat) (v next : Vertex) : Except GeometryFault Control :=
  if next.layer = v.layer then
    if next.color = v.color then .ok .same else .error (.colorWithoutLayer n)
  else if next.layer.toNat = v.layer.toNat + 1 then .ok .newRun
  else .error (.layerJump n v.layer next.layer)

/-- The vertex section from vertex `n` on. -/
def vertexSection (n : Nat) (withColor : Bool) : List Vertex → Except GeometryFault (List UInt8)
  | [] => .ok []
  | [v] => .ok (vertexBytes withColor v ++ [Control.stop.toByte])
  | v :: next :: vertices => do
    let control ← controlBetween (n + 1) v next
    let bytes ← vertexSection (n + 1) (control = .newRun) (next :: vertices)
    return vertexBytes withColor v ++ control.toByte :: bytes

/-- Both sections of a sprite. The indices are checked before any vertex but the first. -/
def spriteBytes (s : Sprite) : Except GeometryFault (List UInt8) :=
  match s.vertices with
  | [] => .error .noVertex
  | first :: _ =>
    if first.layer ≠ 0 then .error .firstLayer
    else match s.strayIndex? with
      | some i => .error (.indexOutOfRange i s.vertices.length)
      | none => do
        let bytes ← vertexSection 0 true s.vertices
        return bytes ++ Bytes.ofWords s.indices

end Wire

namespace Sprite

open Wire

/-- The sprite that the bytes describe. -/
def decode (bytes : List UInt8) : Except RenderError Sprite :=
  (takeSprite bytes).mapError .malformedGeometry

/-- What reading the bytes leaves in the journal. The warning comes before any index is read. -/
def decodeJournal (bytes : List UInt8) : Journal :=
  match takeVertices 0 0 none bytes with
  | .error _ => []
  | .ok (_, rest) =>
    if rest.length % 4 = 0 then []
    else [.warning s!"ignoring {rest.length % 4} trailing bytes after the index section"]

/-- The bytes of a sprite whose vertices form runs. -/
def encode (s : Sprite) : Except RenderError (List UInt8) :=
  (spriteBytes s).mapError .malformedGeometry

end Sprite

/-- A stream that hands out at most `step` bytes at a time, and may fail at its end. -/
structure ByteSource where
  bytes : List UInt8
  step : Nat
  failure : Option String := none
deriving DecidableEq, Repr

namespace ByteSource

/-- Everything up to the end of the stream. A read that gives nothing is its end. -/
def contents (s : ByteSource) : Except RenderError (List UInt8) :=
  if s.step = 0 ∧ s.bytes ≠ [] then .ok []
  else match s.failure with
    | some text => .error (.other text)
    | none => .ok s.bytes

end ByteSource

end SpriteRenderer
