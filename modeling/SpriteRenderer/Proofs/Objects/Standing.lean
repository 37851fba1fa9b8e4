import SpriteRenderer.Proofs.Objects.Lifetime

/-! # Standing objects

What a scene holds stays alive until it is given back, under handles of its own. Programs are set
aside: procedures may share one, and then it is freed more than once. -/

namespace SpriteRenderer

namespace Host

/-- These objects are alive, each under a handle of its own that is not set aside either. -/
structure Stands (aside : Multiset Handle) (alive : Multiset Object) (h : Host Headless) :
    Prop where
  live : ∀ o ∈ alive, o.handle ∈ h.device.live
  nodup : (alive.map (·.handle) + aside).Nodup
  le_lastHandle : ∀ x ∈ alive.map (·.handle) + aside, x ≤ h.device.lastHandle

namespace Stands

variable {aside : Multiset Handle} {alive : Multiset Object} {h h' : Host Headless}

theorem of_eq (stands : h.Stands aside alive) (live : h'.device.live = h.device.live)
    (lastHandle : h'.device.lastHandle = h.device.lastHandle) : h'.Stands aside alive := by
  refine ⟨?_, stands.nodup, ?_⟩
  · rw [live]
    exact stands.live
  · rw [lastHandle]
    exact stands.le_lastHandle

theorem mono (stands : h.Stands aside alive) {fewer : Multiset Object} (less : fewer ≤ alive) :
    h.Stands aside fewer := by
  have handles : fewer.map (·.handle) + aside ≤ alive.map (·.handle) + aside :=
    add_le_add_left (Multiset.map_le_map less) aside
  exact ⟨fun o ho => stands.live o (Multiset.mem_of_le less ho),
    Multiset.nodup_of_le handles stands.nodup,
    fun x hx => stands.le_lastHandle x (Multiset.mem_of_le handles hx)⟩

/-- Objects may be set aside, alive or not. -/
theorem setAside {objects : Multiset Object} (stands : h.Stands aside (objects + alive)) :
    h.Stands (objects.map (·.handle) + aside) alive := by
  have handles : alive.map (·.handle) + (objects.map (·.handle) + aside) =
      (objects + alive).map (·.handle) + aside := by
    rw [Multiset.map_add]
    abel
  refine ⟨fun o ho => stands.live o (Multiset.mem_add.mpr (.inr ho)), ?_, ?_⟩
  · rw [handles]
    exact stands.nodup
  · rw [handles]
    exact stands.le_lastHandle

theorem notMem_of_aside (stands : h.Stands aside alive) {x : Handle} (hx : x ∈ aside) :
    x ∉ alive.map (·.handle) :=
  fun own => Multiset.disjoint_left.mp (Multiset.nodup_add.mp stands.nodup).2.2 own hx

theorem created (stands : h.Stands aside alive) {o : NewObject} {new : Handle}
    (made : (h.device.create o).1 = .ok new) :
    Stands aside (⟨o.kind, new⟩ ::ₘ alive) { h with device := (h.device.create o).2 } := by
  rcases h.device.create_cases o with ⟨e, refused, -⟩ | ⟨next, -, lastHandle⟩
  · rw [made] at refused
    cases refused
  · have new_eq : new = h.device.lastHandle + 1 := by
      rw [made] at next
      exact Except.ok.inj next
    have live := Headless.live_create_of_ok made
    refine ⟨fun p hp => ?_, ?_, fun x hx => ?_⟩
    · rw [live]
      rcases Multiset.mem_cons.mp hp with rfl | hp
      · exact List.mem_cons_self
      · exact List.mem_cons_of_mem _ (stands.live p hp)
    · rw [Multiset.map_cons, Multiset.cons_add, Multiset.nodup_cons]
      refine ⟨fun known => ?_, stands.nodup⟩
      have le := stands.le_lastHandle _ known
      rw [new_eq] at le
      exact Nat.not_succ_le_self _ le
    · rw [lastHandle]
      rw [Multiset.map_cons, Multiset.cons_add, Multiset.mem_cons] at hx
      rcases hx with rfl | old
      · exact Nat.le_of_eq new_eq
      · exact Nat.le_succ_of_le (stands.le_lastHandle x old)

theorem refused (stands : h.Stands aside alive) {o : NewObject} {e : RenderError}
    (failed : (h.device.create o).1 = .error e) :
    Stands aside alive { h with device := (h.device.create o).2 } := by
  rcases h.device.create_cases o with ⟨-, -, -, lastHandle⟩ | ⟨next, -⟩
  · exact stands.of_eq (Headless.live_create_of_error failed) lastHandle
  · rw [failed] at next
    cases next

/-- Deleting what does not stand leaves what stands, whatever kind is named. -/
theorem perform_delete (stands : h.Stands aside alive) {handle : Handle}
    (other : handle ∉ alive.map (·.handle)) (kind : ObjectKind) :
    (h.perform (.delete kind handle)).Stands aside alive := by
  have lastHandle := (h.device.calls_lastHandle_effect (.delete kind handle)).2
  refine ⟨fun o ho => ?_, stands.nodup, fun x hx => ?_⟩
  · have apart : o.handle ≠ handle := fun same => other (Multiset.mem_map.mpr ⟨o, ho, same⟩)
    exact List.mem_filter.mpr ⟨stands.live o ho, by simpa using apart⟩
  · exact (stands.le_lastHandle x hx).trans_eq lastHandle.symm

theorem performAll {cs : List (Command String)} (stands : h.Stands aside (deleted cs + alive)) :
    (h.performAll cs).Stands aside alive := by
  induction cs generalizing h with
  | nil => simpa [deleted] using stands
  | cons c cs ih =>
      rw [performAll_cons]
      apply ih
      cases takes : c.deleted? with
      | none =>
          rw [deleted, List.filterMap_cons_none takes] at stands
          obtain ⟨-, lastHandle, live⟩ := Headless.effect_of_keeps (d := h.device) takes
          exact stands.of_eq live lastHandle
      | some o =>
          rw [deleted, List.filterMap_cons_some takes, ← Multiset.cons_coe, Multiset.cons_add]
            at stands
          have nodup := stands.nodup
          rw [Multiset.map_cons, Multiset.cons_add, Multiset.nodup_cons, Multiset.mem_add] at nodup
          cases c with
          | delete kind handle =>
              cases takes
              exact (stands.mono (Multiset.le_cons_self _ _)).perform_delete
                (fun same => nodup.1 (.inl same)) kind
          | _ => cases takes

theorem ledger (aside : Multiset Handle) : Ledger (Stands aside) where
  created stands made := stands.created made
  refused stands failed := stands.refused failed
  performAll stands := stands.performAll
  readPixels _ stands := stands.of_eq rfl rfl
  of_eq stands _ live lastHandle := stands.of_eq live lastHandle

end Stands

theorem lastHandle_ledger (n : Handle) : Ledger fun _ h => n ≤ h.device.lastHandle where
  created {_ h o _} le _ := by
    rcases h.device.create_cases o with ⟨-, -, -, lastHandle⟩ | ⟨-, -, lastHandle⟩
    · exact le.trans_eq lastHandle.symm
    · exact (Nat.le_succ_of_le le).trans_eq lastHandle.symm
  refused {_ h o _} le _ := by
    rcases h.device.create_cases o with ⟨-, -, -, lastHandle⟩ | ⟨-, -, lastHandle⟩
    · exact le.trans_eq lastHandle.symm
    · exact (Nat.le_succ_of_le le).trans_eq lastHandle.symm
  performAll {_ h cs} le := le.trans_eq (h.lastHandle_performAll cs).symm
  readPixels _ le := le
  of_eq le _ _ lastHandle := le.trans_eq lastHandle.symm

end Host

/-! ## Scenes -/

namespace Headless.Moment

variable {m : Moment} {s s' : Scene Headless String} {step : Step}
  {out : Except StepError Answer × Scene Headless String}

theorem Trades.ledger_held (trades : m.Trades s s')
    {R : Multiset Object → Host Headless → Prop} (rules : Host.Ledger R)
    (holds : R s.held s.host) :
    ∃ rest, R (m.returned + rest) s'.host ∧ s'.held ≤ m.returned + rest := by
  obtain ⟨rest, held⟩ := Multiset.le_iff_exists_add.mp trades.owned
  rw [held] at holds
  refine ⟨rest, trades.ledger rules rest holds, ?_⟩
  refine (add_le_add_iff_left m.freed).mp ?_
  calc m.freed + s'.held
    _ ≤ m.returned + s.held := trades.held
    _ = m.freed + (m.returned + rest) := by rw [held, add_left_comm]

/-- No handle is given out twice. -/
theorem lastHandle_le (t : Script.Transition s step out)
    (performed : (Script.perform step).run s = out) :
    s.host.device.lastHandle ≤ out.2.host.device.lastHandle := by
  rcases trades_or_frees t performed with trades | ⟨p, frees⟩
  · obtain ⟨-, le, -⟩ := trades.ledger_held (Host.lastHandle_ledger _) le_rfl
    exact le
  · rw [frees.host]
    exact Nat.le_of_eq (s.host.lastHandle_performAll _).symm

end Headless.Moment

/-- What owns buffers. -/
def Owner.isBuffer : Owner → Bool
  | dataBuffer | spriteBuffer => true
  | _ => false

namespace Scene

open Headless (Moment)

variable {s s' : Scene Headless String}

section

variable {i j : Owner × String} {a b : Multiset Object}

theorem le_held (isBuffer : i.1.isBuffer) (found : s.objects? i = some a) : a ≤ s.held := by
  obtain ⟨owner, name⟩ := i
  cases owner with
  | dataBuffer =>
      obtain ⟨d, hd, rfl⟩ := Option.map_eq_some_iff.mp found
      exact (Table.le_total hd).trans (Multiset.le_add_right _ _)
  | spriteBuffer =>
      obtain ⟨d, hd, rfl⟩ := Option.map_eq_some_iff.mp found
      exact ((Table.le_total hd).trans (Multiset.le_add_right _ _)).trans
        (Multiset.le_add_left _ _)
  | _ => cases isBuffer

/-- Buffers under different names are different buffers. -/
theorem add_le_held (isBuffer : i.1.isBuffer) (isBuffer' : j.1.isBuffer)
    (found : s.objects? i = some a) (found' : s.objects? j = some b) (other : j ≠ i) :
    a + b ≤ s.held := by
  have sprites : s.spriteBuffers.total SpriteBuffer.objects ≤
      s.spriteBuffers.total SpriteBuffer.objects + (s.targets.total RenderTarget.objects +
        s.operations.total Operation.objects) := Multiset.le_add_right _ _
  obtain ⟨owner, name⟩ := i
  obtain ⟨owner', name'⟩ := j
  cases owner <;> cases isBuffer <;> cases owner' <;> cases isBuffer' <;>
    obtain ⟨c, hc, rfl⟩ := Option.map_eq_some_iff.mp found <;>
    obtain ⟨d, hd, rfl⟩ := Option.map_eq_some_iff.mp found'
  · have names : name' ≠ name := fun same => other (by rw [same])
    exact (Table.add_le_total hc hd names).trans (Multiset.le_add_right _ _)
  · exact add_le_add (Table.le_total hc) ((Table.le_total hd).trans sprites)
  · rw [add_comm]
    exact add_le_add (Table.le_total hd) ((Table.le_total hc).trans sprites)
  · have names : name' ≠ name := fun same => other (by rw [same])
    exact ((Table.add_le_total hc hd names).trans sprites).trans (Multiset.le_add_left _ _)

end

/-- What a scene holds is alive, apart from the programs that it refers to. -/
def Standing (s : Scene Headless String) : Prop :=
  ∃ aside, (∀ p, s.Refers p → p ∈ aside) ∧ s.host.Stands aside s.held

namespace Standing

theorem of_trades {m : Moment} (h : s.Standing) (trades : m.Trades s s') : s'.Standing := by
  obtain ⟨aside, refers, stands⟩ := h
  obtain ⟨rest, stands', held⟩ := trades.ledger_held (Host.Stands.ledger aside) stands
  -- Programs that are new are set aside like the old ones.
  let programs := (m.returned + rest).filter (·.kind = .program)
  have split : programs + (m.returned + rest).filter (¬ ·.kind = .program) = m.returned + rest :=
    Multiset.filter_add_not _ _
  rw [← split] at stands'
  refine ⟨programs.map (·.handle) + aside, fun p hp => ?_, stands'.setAside.mono ?_⟩
  · rw [Multiset.mem_add]
    refine (trades.refers p hp).symm.imp (fun new => ?_) (refers p)
    exact Multiset.mem_map.mpr
      ⟨_, Multiset.mem_filter.mpr ⟨Multiset.mem_add.mpr (.inl new), rfl⟩, rfl⟩
  · exact Multiset.le_filter.mpr ⟨held, fun o ho => kind_ne_program_of_mem_held ho⟩

theorem of_frees {m : Moment} {p : Handle} (h : s.Standing) (frees : m.FreesProgram s s' p) :
    s'.Standing := by
  obtain ⟨aside, refers, stands⟩ := h
  refine ⟨aside, fun q hq => refers q (frees.refers q hq), ?_⟩
  rw [frees.host]
  exact (stands.perform_delete (stands.notMem_of_aside (refers p frees.used)) .program).mono
    frees.held

/-- What a scene holds has handles of its own. -/
theorem nodup (h : s.Standing) {objects : Multiset Object} (held : objects ≤ s.held) :
    (objects.map (·.handle)).Nodup := by
  obtain ⟨aside, -, stands⟩ := h
  exact (Multiset.nodup_add.mp (stands.mono held).nodup).1

theorem live (h : s.Standing) {o : Object} (held : o ∈ s.held) :
    o.handle ∈ s.host.device.live ∧ o.handle ≤ s.host.device.lastHandle := by
  obtain ⟨aside, -, stands⟩ := h
  exact ⟨stands.live o held, stands.le_lastHandle _
    (Multiset.mem_add.mpr (.inl (Multiset.mem_map_of_mem _ held)))⟩

theorem transition (h : s.Standing) {step : Step}
    {out : Except StepError Answer × Scene Headless String} (t : Script.Transition s step out)
    (performed : (Script.perform step).run s = out) : out.2.Standing := by
  rcases Moment.trades_or_frees t performed with trades | ⟨p, frees⟩
  · exact h.of_trades trades
  · exact h.of_frees frees

/-- What is not given back stays alive, even where its name is taken. -/
theorem live_of_transition (h : s.Standing) {step : Step}
    {out : Except StepError Answer × Scene Headless String} (t : Script.Transition s step out)
    (performed : (Script.perform step).run s = out) {o : Object} (held : o ∈ s.held)
    (kept : o ∉ Moment.freed ⟨s, .step step, out.1⟩) : o.handle ∈ out.2.host.device.live := by
  obtain ⟨aside, refers, stands⟩ := h
  rcases Moment.trades_or_frees t performed with trades | ⟨p, frees⟩
  · obtain ⟨rest, split⟩ := Multiset.le_iff_exists_add.mp trades.owned
    rw [split] at stands held
    have own : o ∈ rest := (Multiset.mem_add.mp held).resolve_left kept
    exact (trades.ledger (Host.Stands.ledger aside) rest stands).live o
      (Multiset.mem_add.mpr (.inr own))
  · rw [frees.host]
    exact (stands.perform_delete (stands.notMem_of_aside (refers p frees.used)) .program).live o held

theorem of_create {config : RendererConfig} {window : Size}
    (created : Scene.create ({} : Headless) config window = .ok s) : s.Standing := by
  obtain ⟨templates, rfl⟩ := Scene.eq_of_create created
  have held : (Scene.start ({} : Headless) window config templates).held = 0 := by
    simp [Scene.held, Table.total, Scene.start, Table.empty]
  refine ⟨0, fun p hp => ?_, ?_⟩
  · rcases hp with ⟨name, q, found, -⟩ | ⟨name, op, found, -⟩ <;> cases found
  · rw [held]
    exact ⟨fun o ho => absurd ho (Multiset.notMem_zero o), Multiset.nodup_zero,
      fun x hx => absurd hx (Multiset.notMem_zero x)⟩

end Standing

end Scene

end SpriteRenderer
