import SpriteRenderer.Proofs.Buffer.Contents

/-! # What data buffers hold

A data buffer holds the bytes that it accepted last and has the layout that it was given last,
and only its own calls change what it holds. -/

namespace SpriteRenderer

/-- What a data buffer is given. -/
inductive DataChange where
  /-- The buffer is new. -/
  | start (usage : BufferUsage)
  | layout (l : List InputType)
  | bytes (bs : List UInt8)

namespace DataChange

def usage? : DataChange → Option BufferUsage
  | start usage => some usage
  | _ => none

/-- A new buffer has no layout. -/
def layout? : DataChange → Option (List InputType)
  | start _ => some []
  | layout l => some l
  | _ => none

/-- A new buffer has not accepted any bytes. -/
def bytes? : DataChange → Option (Option (List UInt8))
  | start _ => some none
  | bytes bs => some (some bs)
  | _ => none

end DataChange

namespace Headless

/-- What the data buffer of a name is given. What is refused gives nothing. -/
def Moment.dataChange? (name : String) (m : Moment) : Option DataChange :=
  match m.directive, m.answer with
  | .step (.newData usage as), .ok _ => if as = name then some (.start usage) else none
  | .step (.setLayout data codes), .ok _ =>
    if data = name then (codes.mapM InputTypeCode.type).toOption.map .layout else none
  | .step (.setData data bytes), .ok _ => if data = name then some (.bytes bytes) else none
  | _, _ => none

/-- The usage that the data buffer of a name was made for. -/
def dataUsage? (name : String) (ms : List Moment) : Option BufferUsage :=
  latest? (fun m => (m.dataChange? name).bind DataChange.usage?) ms

def lastLayout (name : String) (ms : List Moment) : List InputType :=
  (latest? (fun m => (m.dataChange? name).bind DataChange.layout?) ms).getD []

/-- The bytes that the data buffer of a name accepted last, if it has accepted any. -/
def lastBytes? (name : String) (ms : List Moment) : Option (List UInt8) :=
  (latest? (fun m => (m.dataChange? name).bind DataChange.bytes?) ms).join

/-- A data buffer is as it was given last, and so are its contents on the device. -/
structure Stores (ms : List Moment) (h : Host Headless) (name : String) (b : DataBuffer) :
    Prop where
  contents : h.device.buffers.get? b.handle = lastBytes? name ms
  usage : dataUsage? name ms = some b.usage
  layout : b.layout = lastLayout name ms
  byteLength : b.byteLength = ((lastBytes? name ms).getD []).length
  written : b.written = (lastBytes? name ms).isSome

namespace Stores

variable {ms : List Moment} {h h' : Host Headless} {name : String} {b : DataBuffer} {m : Moment}

theorem silent (stores : Stores ms h name b) (silent : m.dataChange? name = none)
    (same : h'.device.buffers.get? b.handle = h.device.buffers.get? b.handle) :
    Stores (ms ++ [m]) h' name b := by
  have bytes : lastBytes? name (ms ++ [m]) = lastBytes? name ms :=
    congrArg Option.join (latest?_append_of_silent silent _ ms)
  refine ⟨?_, ?_, ?_, ?_, ?_⟩
  · rw [same, bytes]
    exact stores.contents
  · rw [dataUsage?, latest?_append_of_silent silent]
    exact stores.usage
  · rw [lastLayout, latest?_append_of_silent silent]
    exact stores.layout
  · rw [bytes]
    exact stores.byteLength
  · rw [bytes]
    exact stores.written

theorem start {usage : BufferUsage} (told : m.dataChange? name = some (.start usage))
    {handle : Handle} (empty : h.device.buffers.get? handle = none) :
    Stores (ms ++ [m]) h name { handle, usage } := by
  have bytes : lastBytes? name (ms ++ [m]) = none :=
    congrArg Option.join (latest?_append_of_told told _ ms)
  refine ⟨?_, ?_, ?_, ?_, ?_⟩
  · rw [bytes]
    exact empty
  · rw [dataUsage?, latest?_append_of_told told]
    rfl
  · rw [lastLayout, latest?_append_of_told told]
    rfl
  · rw [bytes]
    rfl
  · rw [bytes]
    rfl

theorem setLayout (stores : Stores ms h name b) {l : List InputType}
    (told : m.dataChange? name = some (.layout l)) :
    Stores (ms ++ [m]) h name (b.setLayout l) := by
  have bytes : lastBytes? name (ms ++ [m]) = lastBytes? name ms :=
    congrArg Option.join (latest?_append_of_told told _ ms)
  refine ⟨?_, ?_, ?_, ?_, ?_⟩
  · rw [bytes]
    exact stores.contents
  · rw [dataUsage?, latest?_append_of_told told]
    exact stores.usage
  · rw [lastLayout, latest?_append_of_told told]
    rfl
  · rw [bytes]
    exact stores.byteLength
  · rw [bytes]
    exact stores.written

/-- Whatever was stored before, the new bytes take its place. -/
theorem setData (stores : Stores ms h name b) {bs : List UInt8}
    (told : m.dataChange? name = some (.bytes bs))
    (stored : h'.device.buffers.get? b.handle = some bs) :
    Stores (ms ++ [m]) h' name { b with byteLength := bs.length, written := true } := by
  have bytes : lastBytes? name (ms ++ [m]) = some bs :=
    congrArg Option.join (latest?_append_of_told told _ ms)
  refine ⟨?_, ?_, ?_, ?_, ?_⟩
  · rw [bytes]
    exact stored
  · rw [dataUsage?, latest?_append_of_told told]
    exact stores.usage
  · rw [lastLayout, latest?_append_of_told told]
    exact stores.layout
  · rw [bytes]
    rfl
  · rw [bytes]
    rfl

end Stores

theorem Moment.dataChange?_of_error (name : String) (s : Scene Headless String) (d : Directive)
    (e : StepError) : Moment.dataChange? name ⟨s, d, .error e⟩ = none := by
  unfold dataChange?
  split <;> first | rfl | contradiction

theorem Moment.dataChange?_of_not_step {m : Moment} (noStep : ∀ step, m.directive ≠ .step step)
    (name : String) : m.dataChange? name = none := by
  obtain ⟨s, d, r⟩ := m
  cases d with
  | step step => exact absurd rfl (noStep step)
  | _ => rfl

theorem stores_transition {ms : List Moment} {s : Scene Headless String} (stocked : s.Stocked)
    (h : s.dataBuffers.All (Stores ms s.host)) {step : Step}
    {out : Except StepError Answer × Scene Headless String} (t : Script.Transition s step out) :
    out.2.dataBuffers.All (Stores (ms ++ [⟨s, .step step, out.1⟩]) out.2.host) := by
  -- A buffer that the step is not about stays as it is.
  have kept {name b} (found : s.dataBuffers.get? name = some b)
      (other : step.stores? ≠ some (.dataBuffer, name))
      (silent : Moment.dataChange? name ⟨s, .step step, out.1⟩ = none) :
      Stores (ms ++ [⟨s, .step step, out.1⟩]) out.2.host name b :=
    (h name b found).silent silent (stocked.get?_of_transition t rfl
      (Scene.objects?_of_dataBuffer found) other (Multiset.mem_singleton_self _))
  have still (other : ∀ name, step.stores? ≠ some (.dataBuffer, name))
      (silent : ∀ name, Moment.dataChange? name ⟨s, .step step, out.1⟩ = none) :
      s.dataBuffers.All (Stores (ms ++ [⟨s, .step step, out.1⟩]) out.2.host) :=
    fun name _ found => kept found (other name) (silent name)
  have nowhere : ∀ e, s.dataBuffers.All (Stores (ms ++ [⟨s, .step step, .error e⟩]) s.host) :=
    fun e => h.mono fun name _ _ stores =>
      stores.silent (Moment.dataChange?_of_error name s _ e) rfl
  cases t with
  | refused e => exact nowhere e
  | addSpriteRefused e =>
      exact still (fun _ => nofun) fun name => Moment.dataChange?_of_error name s _ e
  | asked query r =>
      refine h.mono fun name _ _ stores => stores.silent ?_ rfl
      cases step <;> first | rfl | cases query
  | @newData usage as r host ran =>
      cases r with
      | error e =>
          exact fun name _ found => kept found nofun (Moment.dataChange?_of_error name s _ _)
      | ok b =>
          obtain ⟨handle, rfl, new, same⟩ := DataBuffer.create_new ran
          refine .of_insert (fun name c other found => kept found nofun (if_neg (Ne.symm other))) ?_
          apply Stores.start
          · exact if_pos rfl
          · exact (congrArg (·.get? handle) same).trans (stocked.fresh handle new)
  | @setLayout data codes layout b typed found =>
      refine .of_insert (fun name c other found => kept found nofun (if_neg (Ne.symm other)))
        ((h data b found).setLayout ?_)
      simp [Moment.dataChange?, typed, Except.toOption]
  | @setData data bytes b r host found ran =>
      rw [DataBuffer.run_setData] at ran
      split at ran <;> cases ran
      · exact nowhere _
      · refine .of_insert (fun name c other found => kept found ?_ (if_neg (Ne.symm other)))
          ((h data b found).setData (if_pos rfl) ?_)
        · simpa [Step.stores?] using other.symm
        · rw [Host.buffers_store, Table.get?_insert_self]
  | @freeData data b found =>
      refine .of_erase fun name c other found => kept found ?_ rfl
      simpa [Step.stores?] using other.symm
  | _ => exact still (fun _ => nofun) fun _ => rfl

/-! ## Sessions -/

variable {config : RendererConfig} {window : Size} {s₀ : Scene Headless String}

theorem stores_after (created : Scene.create ({} : Headless) config window = .ok s₀)
    (ds : List Directive) (library : ∀ d ∈ ds, d.isDirect = false) :
    (after s₀ ds).Stocked ∧
      (after s₀ ds).dataBuffers.All (Stores (history s₀ ds) (after s₀ ds).host) := by
  have start : s₀.dataBuffers.All (Stores [] s₀.host) := by
    obtain ⟨templates, rfl⟩ := Scene.eq_of_create created
    exact .empty
  exact stocked_induction created (I := fun ms s => s.dataBuffers.All (Stores ms s.host)) start
    (fun ms s step out stocked t before => stores_transition stocked before t)
    (fun ms s m compile link creations noStep before => before.mono fun name _ _ stores =>
      stores.silent (Moment.dataChange?_of_not_step noStep name) rfl) ds library

theorem answer_setData {s : Scene Headless String} {name : String} {b : DataBuffer}
    (found : s.dataBuffers.get? name = some b) (bytes : List UInt8) :
    ((Script.perform (.setData name bytes)).run s).1 =
      if b.usage = .static ∧ b.written then
        .error (.refused (.invalidOperation .staticDataWritten))
      else .ok .nothing := by
  rw [Script.perform, Attempt.run_bind_of_ok _ (SceneAction.run_find_of_some found),
    Attempt.run_bind, SceneAction.run_onHost, DataBuffer.run_setData]
  by_cases full : b.usage = .static ∧ b.written = true
  · rw [if_pos full, if_pos full]
    rfl
  · rw [if_neg full, if_neg full]
    rfl

/-- After every session a data buffer holds the bytes that it accepted last, counted in elements of
its last layout. A static buffer accepts bytes once. What no call of its own has stored into it
stays out of it. -/
theorem data_holds_last (created : Scene.create ({} : Headless) config window = .ok s₀)
    (ds : List Directive) (library : ∀ d ∈ ds, d.isDirect = false) {name : String}
    {b : DataBuffer} (found : (after s₀ ds).dataBuffers.get? name = some b) :
    let s := after s₀ ds
    let bytes := (lastBytes? name (history s₀ ds)).getD []
    let layout := lastLayout name (history s₀ ds)
    s.host.device.bufferContents b.handle = some bytes ∧ b.byteLength = bytes.length ∧
      b.elementCount = (if layout = [] then 0 else bytes.length / InputType.totalSize layout) ∧
      dataUsage? name (history s₀ ds) = some b.usage ∧
      (∀ more, ((Script.perform (.setData name more)).run s).1 =
        if b.usage = .static ∧ (lastBytes? name (history s₀ ds)).isSome then
          .error (.refused (.invalidOperation .staticDataWritten))
        else .ok .nothing) ∧
      ∀ d, d.isDirect = false → (∀ more, d ≠ .step (.setData name more)) →
        d ≠ .step (.freeData name) →
        (after s [d]).host.device.bufferContents b.handle =
          s.host.device.bufferContents b.handle := by
  intro s bytes layout
  obtain ⟨stocked, all⟩ := stores_after created ds library
  have stores := all name b found
  refine ⟨?_, stores.byteLength, ?_, stores.usage, fun more => ?_, fun d indirect unset kept => ?_⟩
  · rw [stocked.bufferContents rfl (Scene.objects?_of_dataBuffer found)
      (Multiset.mem_singleton_self _), stores.contents]
  · rw [DataBuffer.elementCount, DataBuffer.stride, stores.byteLength, stores.layout]
    by_cases none : lastLayout name (history s₀ ds) = []
    · rw [if_pos none, none, InputType.totalSize_nil, Nat.div_zero]
    · rw [if_neg none]
  · rw [answer_setData found, ← stores.written]
  · refine bufferContents_after stocked rfl (Scene.objects?_of_dataBuffer found)
      (Multiset.mem_singleton_self _) indirect fun step same stored => ?_
    cases step <;> cases stored
    · exact unset _ same
    · exact kept same

/-- A static buffer accepts no bytes at all and then refuses some. Other uploads, refusals and
frees come between those of a dynamic one, whose layout is set in their midst. -/
def interleavedUploads : List Directive :=
  [.step (.newData .static "still"), .step (.newData .dynamic "moving"),
    .step (.newSprites "list"), .step (.setData "still" []), .step (.setData "moving" [1, 2]),
    .step (.newBuffer "list" .dynamic "buffer"), .step (.setData "still" [9]),
    .step (.setLayout "moving" [⟨.uint8, 3⟩, ⟨.uint16, 1⟩]), .failCreation 1,
    .step (.newBuffer "list" .static "broken"), .step (.newData .dynamic "freed"),
    .step (.setData "freed" [7]), .step (.setData "moving" [1, 2, 3, 4, 5, 6, 7, 8, 9, 10, 11]),
    .step (.freeData "freed"), .step (.repack "list" "buffer")]

theorem isSome_interleavedUploads :
    ((after (.start {} ⟨4, 4⟩ .bare .bare) interleavedUploads).dataBuffers.get? "still").isSome ∧
      ((after (.start {} ⟨4, 4⟩ .bare .bare) interleavedUploads).dataBuffers.get?
        "moving").isSome := by
  decide +kernel

theorem data_holds_last_interleavedUploads :
    ∃ s₀ still moving, Scene.create ({} : Headless) .bare ⟨4, 4⟩ = .ok s₀ ∧
      (after s₀ interleavedUploads).dataBuffers.get? "still" = some still ∧
      (after s₀ interleavedUploads).dataBuffers.get? "moving" = some moving ∧
      (after s₀ interleavedUploads).host.device.bufferContents still.handle = some [] ∧
      ((Script.perform (.setData "still" [])).run (after s₀ interleavedUploads)).1 =
        .error (.refused (.invalidOperation .staticDataWritten)) ∧
      (after s₀ interleavedUploads).host.device.bufferContents moving.handle =
        some [1, 2, 3, 4, 5, 6, 7, 8, 9, 10, 11] ∧
      moving.elementCount = 2 := by
  have created : Scene.create ({} : Headless) .bare ⟨4, 4⟩ = .ok (.start {} ⟨4, 4⟩ .bare .bare) :=
    Scene.create_of_parse ShaderTemplates.parse_bare _ _
  have still := (Option.some_get isSome_interleavedUploads.1).symm
  have moving := (Option.some_get isSome_interleavedUploads.2).symm
  obtain ⟨contents, -, -, usage, answer, -⟩ :=
    data_holds_last created interleavedUploads (by decide) still
  obtain ⟨contents', -, count, -⟩ :=
    data_holds_last created interleavedUploads (by decide) moving
  have static : dataUsage? "still" (history (.start {} ⟨4, 4⟩ .bare .bare) interleavedUploads) =
      some .static := by
    decide +kernel
  have nothing : lastBytes? "still" (history (.start {} ⟨4, 4⟩ .bare .bare) interleavedUploads) =
      some [] := by
    decide +kernel
  have bytes : lastBytes? "moving" (history (.start {} ⟨4, 4⟩ .bare .bare) interleavedUploads) =
      some [1, 2, 3, 4, 5, 6, 7, 8, 9, 10, 11] := by
    decide +kernel
  have layout : lastLayout "moving" (history (.start {} ⟨4, 4⟩ .bare .bare) interleavedUploads) =
      [⟨.uint8, .three⟩, ⟨.uint16, .one⟩] := by
    decide +kernel
  rw [static, Option.some.injEq] at usage
  rw [nothing] at contents answer
  rw [bytes] at contents' count
  rw [layout] at count
  exact ⟨_, _, _, created, still, moving, contents, (answer []).trans (if_pos ⟨usage.symm, rfl⟩),
    contents', count⟩

end Headless

end SpriteRenderer
