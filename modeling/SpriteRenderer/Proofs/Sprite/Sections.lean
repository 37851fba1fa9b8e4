import SpriteRenderer.Proofs.Action.Results
import SpriteRenderer.Proofs.Sprite.Words
import SpriteRenderer.Sprite.Wire

/-! # Sections and their bytes

A reader accepts exactly the bytes that the writer makes of what was read. -/

namespace SpriteRenderer.Wire

open Result

/-! ## Fields and records -/

theorem takeColor_eq_ok_iff {n : Nat} {bytes rest : List UInt8} {c : Color} :
    takeColor n bytes = .ok (c, rest) ↔ bytes = c.toArgb ++ rest := by
  constructor
  · intro h
    unfold takeColor at h
    split at h <;> cases h
    rfl
  · rintro rfl
    rfl

theorem takeSingle_eq_ok_iff {field : WireField} {n : Nat} {bytes rest : List UInt8}
    {x : Single} :
    takeSingle field n bytes = .ok (x, rest) ↔ bytes = Bytes.ofWord x.bits ++ rest := by
  constructor
  · intro h
    unfold takeSingle at h
    split at h <;> cases h
    rw [Bytes.ofWord_toWord]
    rfl
  · rintro rfl
    simp [Bytes.ofWord, takeSingle, Bytes.toWord_ofWord]

theorem takeControl_eq_ok_iff {n : Nat} {bytes rest : List UInt8} {c : UInt8} :
    takeControl n bytes = .ok (c, rest) ↔ bytes = c :: rest := by
  cases bytes with
  | nil => simp [takeControl]
  | cons b bytes => simp [takeControl]

/-- A record is read with the colour that is carried over, or else its own. -/
theorem takeRecord_eq_ok_iff {n : Nat} {carried : Option Color} {bytes rest : List UInt8}
    {v : Vertex} {control : UInt8} :
    takeRecord n carried bytes = .ok (⟨v.color, v.x, v.y, control⟩, rest) ↔
      (∀ c ∈ carried, v.color = c) ∧
        bytes = vertexBytes carried.isNone v ++ control :: rest := by
  obtain ⟨x, y, color, layer⟩ := v
  unfold takeRecord
  cases carried with
  | none =>
      simp only [bind_eq_ok_iff, Prod.exists, takeColor_eq_ok_iff, takeSingle_eq_ok_iff,
        takeControl_eq_ok_iff, pure, Except.pure, Except.ok.injEq, Prod.mk.injEq,
        VertexRecord.mk.injEq]
      constructor
      · intro h
        obtain ⟨_, _, rfl, _, _, rfl, _, _, rfl, _, _, rfl, ⟨rfl, rfl, rfl, rfl⟩, rfl⟩ := h
        exact ⟨by simp, by simp [vertexBytes]⟩
      · intro h
        obtain ⟨-, rfl⟩ := h
        simp only [vertexBytes, Option.isNone_none, if_true, List.append_assoc]
        exact ⟨color, _, rfl, x, _, rfl, y, _, rfl, control, _, rfl, ⟨rfl, rfl, rfl, rfl⟩, rfl⟩
  | some c =>
      simp only [bind_eq_ok_iff, Prod.exists, takeSingle_eq_ok_iff, takeControl_eq_ok_iff,
        pure, Except.pure, Except.ok.injEq, Prod.mk.injEq, VertexRecord.mk.injEq]
      constructor
      · intro h
        obtain ⟨_, _, ⟨rfl, rfl⟩, _, _, rfl, _, _, rfl, _, _, rfl, ⟨rfl, rfl, rfl, rfl⟩, rfl⟩ := h
        exact ⟨by simp, by simp [vertexBytes]⟩
      · intro h
        obtain ⟨known, rfl⟩ := h
        obtain rfl := known c rfl
        simp only [vertexBytes, Option.isNone_some, List.append_assoc]
        exact ⟨_, _, ⟨rfl, rfl⟩, x, _, rfl, y, _, rfl, control, _, rfl,
          ⟨rfl, rfl, rfl, rfl⟩, rfl⟩

/-! ## One vertex -/

/-- What is known of a vertex before its record is read. -/
structure Expected (layer : UInt8) (carried : Option Color) (v : Vertex) : Prop where
  onLayer : v.layer = layer
  hasColor : ∀ c ∈ carried, v.color = c

/-- The vertices that follow vertex `n` and its control. -/
def takeAfter (n : Nat) (layer : UInt8) (color : Color) (bytes : List UInt8) :
    Control → Except GeometryFault (List Vertex × List UInt8)
  | .stop => .ok ([], bytes)
  | .same => takeVertices (n + 1) layer (some color) bytes
  | .newRun =>
    if layer = 255 then .error .tooManyRuns else takeVertices (n + 1) (layer + 1) none bytes

theorem takeVertices_eq (n : Nat) (layer : UInt8) (carried : Option Color)
    (bytes : List UInt8) :
    takeVertices n layer carried bytes = do
      let (r, rest) ← takeRecord n carried bytes
      match Control.ofByte? r.control with
      | none => .error (.invalidControl r.control n)
      | some control => do
        let (vertices, rest) ← takeAfter n layer r.color rest control
        return (⟨r.x, r.y, r.color, layer⟩ :: vertices, rest) := by
  rw [takeVertices]
  split
  · next e record =>
      rw [record]
      rfl
  · next r rest record =>
      rw [record]
      simp only [bind, Except.bind]
      cases Control.ofByte? r.control with
      | none => rfl
      | some control =>
          cases control with
          | same => rfl
          | stop => rfl
          | newRun =>
              simp only [takeAfter]
              split <;> rfl

/-- One step of the reader: a record, its control, and what follows. -/
theorem takeVertices_eq_ok_iff {n : Nat} {layer : UInt8} {carried : Option Color}
    {bytes rest : List UInt8} {vertices : List Vertex} :
    takeVertices n layer carried bytes = .ok (vertices, rest) ↔
      ∃ v vs, vertices = v :: vs ∧ Expected layer carried v ∧ ∃ control tail,
        bytes = vertexBytes carried.isNone v ++ Control.toByte control :: tail ∧
        takeAfter n layer v.color tail control = .ok (vs, rest) := by
  rw [takeVertices_eq]
  constructor
  · intro h
    obtain ⟨⟨r, tail⟩, record, h⟩ := bind_eq_ok h
    cases hc : Control.ofByte? r.control with
    | none =>
        simp only [hc] at h
        cases h
    | some control =>
        simp only [hc] at h
        obtain ⟨⟨vs, rest'⟩, after, h⟩ := bind_eq_ok h
        cases h
        obtain ⟨known, rfl⟩ := (takeRecord_eq_ok_iff (v := ⟨r.x, r.y, r.color, layer⟩)).mp record
        rw [(Control.ofByte?_eq_some_iff _ _).mp hc]
        exact ⟨_, vs, rfl, ⟨rfl, known⟩, control, tail, rfl, after⟩
  · intro h
    obtain ⟨v, vs, rfl, ⟨rfl, known⟩, control, tail, rfl, after⟩ := h
    have record : takeRecord n carried
        (vertexBytes carried.isNone v ++ Control.toByte control :: tail) =
          .ok (⟨v.color, v.x, v.y, control.toByte⟩, tail) :=
      takeRecord_eq_ok_iff.mpr ⟨known, rfl⟩
    simp [record, after, bind, Except.bind, pure, Except.pure]

theorem takeVertices_cons_eq_ok_iff {n : Nat} {layer : UInt8} {carried : Option Color}
    {bytes rest : List UInt8} {v : Vertex} {vs : List Vertex} :
    takeVertices n layer carried bytes = .ok (v :: vs, rest) ↔
      Expected layer carried v ∧ ∃ control tail,
        bytes = vertexBytes carried.isNone v ++ Control.toByte control :: tail ∧
        takeAfter n layer v.color tail control = .ok (vs, rest) := by
  rw [takeVertices_eq_ok_iff]
  constructor
  · intro h
    obtain ⟨_, _, ⟨⟩, step⟩ := h
    exact step
  · intro step
    exact ⟨v, vs, rfl, step⟩

/-- Only the last control is followed by no vertex. -/
theorem takeAfter_eq_ok_nil {n : Nat} {layer : UInt8} {color : Color}
    {bytes rest : List UInt8} {control : Control}
    (h : takeAfter n layer color bytes control = .ok ([], rest)) :
    control = .stop ∧ bytes = rest := by
  have no_vertex {layer carried} : takeVertices (n + 1) layer carried bytes ≠ .ok ([], rest) := by
    intro read
    obtain ⟨_, _, ⟨⟩, _⟩ := takeVertices_eq_ok_iff.mp read
  cases control with
  | stop =>
      cases h
      exact ⟨rfl, rfl⟩
  | same => exact absurd h no_vertex
  | newRun =>
      by_cases last : layer = 255
      · simp [takeAfter, last] at h
      · simp only [takeAfter, if_neg last] at h
        exact absurd h no_vertex

/-! ## The vertex section -/

/-- The layer after a run, as the writer and as the reader compute it. -/
theorem layer_succ_iff {a b : UInt8} : b.toNat = a.toNat + 1 ↔ a ≠ 255 ∧ b = a + 1 := by
  have ha := a.toNat_lt
  have hb := b.toNat_lt
  constructor
  · intro h
    have next : a.toNat ≠ 255 := by omega
    refine ⟨fun last => next (by rw [last]; rfl), UInt8.toNat_inj.mp ?_⟩
    rw [UInt8.toNat_add]
    simp
    omega
  · intro h
    obtain ⟨last, rfl⟩ := h
    have next : a.toNat ≠ 255 := fun h => last (UInt8.toNat_inj.mp h)
    rw [UInt8.toNat_add]
    simp
    omega

/-- The writer chooses a control exactly if the reader then expects the next vertex. -/
theorem controlBetween_eq_ok_iff {n : Nat} {v next : Vertex} {control : Control} :
    controlBetween n v next = .ok control ↔
      match control with
      | .same => Expected v.layer (some v.color) next
      | .newRun => v.layer ≠ 255 ∧ Expected (v.layer + 1) none next
      | .stop => False := by
  have one_run : Expected v.layer (some v.color) next ↔
      next.layer = v.layer ∧ next.color = v.color :=
    ⟨fun h => ⟨h.onLayer, h.hasColor _ rfl⟩, fun h => ⟨h.1, by simpa using h.2⟩⟩
  have two_runs : v.layer ≠ 255 ∧ Expected (v.layer + 1) none next ↔
      next.layer.toNat = v.layer.toNat + 1 := by
    rw [layer_succ_iff]
    exact and_congr_right fun _ => ⟨fun h => h.onLayer, fun h => ⟨h, by simp⟩⟩
  unfold controlBetween
  by_cases layers : next.layer = v.layer
  · have apart : ¬ next.layer.toNat = v.layer.toNat + 1 := by
      rw [layers]
      omega
    by_cases colors : next.color = v.color
    · cases control <;> simp [layers, colors, one_run, two_runs]
    · cases control <;> simp [layers, colors, one_run, two_runs]
  · by_cases apart : next.layer.toNat = v.layer.toNat + 1
    · cases control <;> simp [layers, apart, one_run, two_runs]
    · cases control <;> simp [layers, apart, one_run, two_runs]

theorem vertexSection_cons_cons_eq_ok_iff {n : Nat} {withColor : Bool} {v next : Vertex}
    {vs : List Vertex} {bytes : List UInt8} :
    vertexSection n withColor (v :: next :: vs) = .ok bytes ↔
      ∃ control tail, controlBetween (n + 1) v next = .ok control ∧
        vertexSection (n + 1) (control = .newRun) (next :: vs) = .ok tail ∧
        bytes = vertexBytes withColor v ++ Control.toByte control :: tail := by
  rw [vertexSection]
  constructor
  · intro h
    obtain ⟨control, chosen, h⟩ := bind_eq_ok h
    obtain ⟨tail, written, h⟩ := bind_eq_ok h
    cases h
    exact ⟨control, tail, chosen, written, rfl⟩
  · intro h
    obtain ⟨control, tail, chosen, written, rfl⟩ := h
    exact bind_eq_ok_iff.mpr ⟨control, chosen, bind_eq_ok_iff.mpr ⟨tail, written, rfl⟩⟩

/-- The reader goes on after a control exactly if the writer chooses it. The section
that follows is read as it was written, which is what `ih` says. -/
theorem takeAfter_eq_ok_iff_section {n : Nat} {tail rest : List UInt8} {v next : Vertex}
    {vs : List Vertex} {control : Control}
    (ih : ∀ {layer carried}, takeVertices (n + 1) layer carried tail = .ok (next :: vs, rest) ↔
      Expected layer carried next ∧
        ∃ b, vertexSection (n + 1) carried.isNone (next :: vs) = .ok b ∧ tail = b ++ rest) :
    takeAfter n v.layer v.color tail control = .ok (next :: vs, rest) ↔
      controlBetween (n + 1) v next = .ok control ∧
        ∃ b, vertexSection (n + 1) (control = .newRun) (next :: vs) = .ok b ∧
          tail = b ++ rest := by
  rw [controlBetween_eq_ok_iff]
  cases control with
  | stop => simp [takeAfter]
  | same => simp [takeAfter, ih]
  | newRun =>
      by_cases last : v.layer = 255
      · simp [takeAfter, last]
      · simp [takeAfter, last, ih]

/-- Reading gives the vertices exactly if the bytes begin with their section. -/
theorem takeVertices_eq_ok_iff_section {n : Nat} {layer : UInt8} {carried : Option Color}
    {bytes rest : List UInt8} {v : Vertex} {vs : List Vertex} :
    takeVertices n layer carried bytes = .ok (v :: vs, rest) ↔
      Expected layer carried v ∧ ∃ b, vertexSection n carried.isNone (v :: vs) = .ok b ∧
        bytes = b ++ rest := by
  -- layer and colour go from vertex to vertex in the reader, and are looked up in the writer
  induction vs generalizing n layer carried bytes v with
  | nil =>
      rw [takeVertices_cons_eq_ok_iff]
      constructor
      · intro h
        obtain ⟨known, control, tail, rfl, after⟩ := h
        obtain ⟨rfl, rfl⟩ := takeAfter_eq_ok_nil after
        exact ⟨known, _, rfl, by simp⟩
      · intro h
        obtain ⟨known, b, written, rfl⟩ := h
        cases written
        exact ⟨known, .stop, rest, by simp, rfl⟩
  | cons next vs ih =>
      rw [takeVertices_cons_eq_ok_iff]
      constructor
      · intro h
        obtain ⟨known, control, tail, rfl, after⟩ := h
        obtain rfl := known.onLayer
        obtain ⟨chosen, b, written, rfl⟩ := (takeAfter_eq_ok_iff_section ih).mp after
        have whole : vertexSection n carried.isNone (v :: next :: vs) =
            .ok (vertexBytes carried.isNone v ++ Control.toByte control :: b) :=
          vertexSection_cons_cons_eq_ok_iff.mpr ⟨control, b, chosen, written, rfl⟩
        exact ⟨known, _, whole, by simp⟩
      · intro h
        obtain ⟨known, b, whole, rfl⟩ := h
        obtain rfl := known.onLayer
        obtain ⟨control, tail, chosen, written, rfl⟩ :=
          vertexSection_cons_cons_eq_ok_iff.mp whole
        refine ⟨known, control, tail ++ rest, by simp, ?_⟩
        exact (takeAfter_eq_ok_iff_section ih).mpr ⟨chosen, tail, written, rfl⟩

/-! ## The index section -/

theorem takeIndices_of_length_le {n : Nat} {bytes : List UInt8} (h : bytes.length ≤ 3) :
    takeIndices n bytes = .ok [] := by
  rcases bytes with _ | ⟨a, _ | ⟨b, _ | ⟨c, _ | ⟨d, rest⟩⟩⟩⟩
  · rfl
  · rfl
  · rfl
  · rfl
  · simp only [List.length_cons] at h
    omega

theorem takeIndices_ofWord_append (n : Nat) (i : UInt32) (rest : List UInt8) :
    takeIndices n (Bytes.ofWord i ++ rest) =
      if n ≤ i.toNat then .error (.indexOutOfRange i n)
      else do return i :: (← takeIndices n rest) := by
  simp only [Bytes.ofWord, List.cons_append, List.nil_append, takeIndices, Bytes.toWord_ofWord]

theorem takeIndices_ofWord_append_eq_ok_iff {n : Nat} {i : UInt32} {rest : List UInt8}
    {indices : List UInt32} :
    takeIndices n (Bytes.ofWord i ++ rest) = .ok indices ↔
      i.toNat < n ∧ ∃ is, takeIndices n rest = .ok is ∧ indices = i :: is := by
  rw [takeIndices_ofWord_append]
  constructor
  · intro h
    by_cases stray : n ≤ i.toNat
    · rw [if_pos stray] at h
      cases h
    · rw [if_neg stray] at h
      obtain ⟨is, read, h⟩ := bind_eq_ok h
      cases h
      exact ⟨by omega, is, read, rfl⟩
  · intro h
    obtain ⟨inside, is, read, rfl⟩ := h
    rw [if_neg (by omega), read]
    rfl

/-- Reading gives the indices exactly if they name vertices and the bytes are theirs,
less what makes no word. -/
theorem takeIndices_eq_ok_iff {n : Nat} {bytes : List UInt8} {indices : List UInt32} :
    takeIndices n bytes = .ok indices ↔
      (∀ i ∈ indices, i.toNat < n) ∧
        ∃ r, bytes = Bytes.ofWords indices ++ r ∧ r.length ≤ 3 := by
  constructor
  · intro h
    induction indices generalizing bytes with
    | nil =>
        rcases Bytes.short_or_word bytes with short | ⟨w, rest, rfl⟩
        · exact ⟨by simp, bytes, rfl, short⟩
        · obtain ⟨-, is, -, ⟨⟩⟩ := takeIndices_ofWord_append_eq_ok_iff.mp h
    | cons i is ih =>
        rcases Bytes.short_or_word bytes with short | ⟨w, rest, rfl⟩
        · rw [takeIndices_of_length_le short] at h
          cases h
        · obtain ⟨inside, _, read, ⟨⟩⟩ := takeIndices_ofWord_append_eq_ok_iff.mp h
          obtain ⟨insides, r, rfl, short⟩ := ih read
          exact ⟨by simpa using ⟨inside, insides⟩, r, by simp, short⟩
  · intro h
    obtain ⟨inside, r, rfl, short⟩ := h
    induction indices with
    | nil => exact takeIndices_of_length_le short
    | cons i is ih =>
        rw [Bytes.ofWords_cons, List.append_assoc, takeIndices_ofWord_append_eq_ok_iff]
        exact ⟨inside i (by simp), is, ih fun j hj => inside j (by simp [hj]), rfl⟩

/-! ## Sprites -/

theorem spriteBytes_eq_ok_iff {s : Sprite} {bytes : List UInt8} :
    spriteBytes s = .ok bytes ↔
      (∃ v vs, s.vertices = v :: vs ∧ v.layer = 0) ∧
        (∀ i ∈ s.indices, i.toNat < s.vertices.length) ∧
        ∃ b, vertexSection 0 true s.vertices = .ok b ∧ bytes = b ++ Bytes.ofWords s.indices := by
  obtain ⟨vertices, indices⟩ := s
  cases vertices with
  | nil => simp [spriteBytes]
  | cons v vs =>
      by_cases ground : v.layer = 0
      · rw [← Sprite.strayIndex?_eq_none_iff]
        cases stray : Sprite.strayIndex? ⟨v :: vs, indices⟩ with
        | some i => simp [spriteBytes, ground, stray]
        | none =>
            simp only [spriteBytes, ground, stray, ne_eq, not_true_eq_false, if_false,
              bind_eq_ok_iff, pure, Except.pure, Except.ok.injEq]
            simp [ground, eq_comm]
      · simp [spriteBytes, ground]

/-- Bytes are read as a sprite exactly if they are its bytes, with up to three more. -/
theorem takeSprite_eq_ok_iff {bytes : List UInt8} {s : Sprite} :
    takeSprite bytes = .ok s ↔
      ∃ b r, spriteBytes s = .ok b ∧ bytes = b ++ r ∧ r.length ≤ 3 := by
  constructor
  · intro h
    obtain ⟨⟨vertices, rest⟩, readVertices, h⟩ := bind_eq_ok h
    obtain ⟨indices, readIndices, h⟩ := bind_eq_ok h
    cases h
    obtain ⟨v, vs, rfl, -⟩ := takeVertices_eq_ok_iff.mp readVertices
    obtain ⟨known, b, written, rfl⟩ := takeVertices_eq_ok_iff_section.mp readVertices
    obtain ⟨inside, r, rfl, short⟩ := takeIndices_eq_ok_iff.mp readIndices
    have whole : spriteBytes ⟨v :: vs, indices⟩ = .ok (b ++ Bytes.ofWords indices) :=
      spriteBytes_eq_ok_iff.mpr ⟨⟨v, vs, rfl, known.onLayer⟩, inside, b, written, rfl⟩
    exact ⟨_, r, whole, by simp, short⟩
  · intro h
    obtain ⟨b, r, whole, rfl, short⟩ := h
    obtain ⟨vertices, indices⟩ := s
    obtain ⟨⟨v, vs, rfl, ground⟩, inside, b, written, rfl⟩ := spriteBytes_eq_ok_iff.mp whole
    have readVertices : takeVertices 0 0 none (b ++ Bytes.ofWords indices ++ r) =
        .ok (v :: vs, Bytes.ofWords indices ++ r) :=
      takeVertices_eq_ok_iff_section.mpr ⟨⟨ground, by simp⟩, b, written, by simp⟩
    have readIndices : takeIndices (v :: vs).length (Bytes.ofWords indices ++ r) = .ok indices :=
      takeIndices_eq_ok_iff.mpr ⟨inside, r, rfl, short⟩
    exact bind_eq_ok_iff.mpr ⟨_, readVertices, bind_eq_ok_iff.mpr ⟨_, readIndices, rfl⟩⟩

end SpriteRenderer.Wire
