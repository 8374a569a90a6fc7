import Stencil.Session.Act

/-! Steps of a run by what they do to the disk. What they write out is left open. -/

namespace Stencil.Session.Act

variable {α β : Type}

/-- From one disk, a step goes on with a result and leaves another. -/
def Leads (act : Act α) (before : Disk) (result : α) (after : Disk) : Prop :=
  ∀ outputs, ∃ outputs', act.run ⟨before, outputs⟩ = (.ok result, ⟨after, outputs'⟩)

/-- From one disk, a step leaves another, whether it goes on or fails. -/
def Leaves (act : Act α) (before after : Disk) : Prop :=
  ∀ outputs, (act.run ⟨before, outputs⟩).2.disk = after

/-- From one disk, a step fails and leaves another. -/
def Fails (act : Act α) (before : Disk) (failure : Failure) (after : Disk) : Prop :=
  ∀ outputs, ∃ outputs', act.run ⟨before, outputs⟩ = (.error failure, ⟨after, outputs'⟩)

variable {before middle after : Disk}

/-- An act with a result leaves the disk that it leads to. -/
theorem Leads.leaves {act : Act α} {result : α} (hAct : Leads act before result after) :
    Leaves act before after := by
  intro outputs
  obtain ⟨outputs', hRun⟩ := hAct outputs
  rw [hRun]

theorem Fails.leaves {act : Act α} {failure : Failure} (hAct : Fails act before failure after) :
    Leaves act before after := by
  intro outputs
  obtain ⟨outputs', hRun⟩ := hAct outputs
  rw [hRun]

/-- Acts run one after the other until one fails, and the stand is handed on. -/
theorem run_bind (first : Act α) (next : α → Act β) (stand : Stand) :
    (first >>= next).run stand =
      match first.run stand with
      | (.ok a, stand) => (next a).run stand
      | (.error failure, stand) => (.error failure, stand) := by
  rw [ExceptT.run_bind]
  simp only [bind, StateT.bind]
  obtain ⟨result, stand⟩ := first.run stand
  cases result <;> rfl

/-- Acts that succeed compose, through the disk between them. -/
theorem Leads.bind {first : Act α} {next : α → Act β} {a : α} {b : β}
    (hFirst : Leads first before a middle) (hNext : Leads (next a) middle b after) :
    Leads (first >>= next) before b after := by
  intro outputs
  obtain ⟨outputs', hRun⟩ := hFirst outputs
  obtain ⟨outputs'', hRest⟩ := hNext outputs'
  refine ⟨outputs'', ?_⟩
  rw [run_bind, hRun]
  exact hRest

theorem Leads.leaves_bind {first : Act α} {next : α → Act β} {a : α}
    (hFirst : Leads first before a middle) (hNext : Leaves (next a) middle after) :
    Leaves (first >>= next) before after := by
  intro outputs
  obtain ⟨outputs', hRun⟩ := hFirst outputs
  rw [run_bind, hRun]
  exact hNext outputs'

/-- A failure behind an act that succeeded is the failure of both. -/
theorem Leads.fails_bind {first : Act α} {next : α → Act β} {a : α} {failure : Failure}
    (hFirst : Leads first before a middle) (hNext : Fails (next a) middle failure after) :
    Fails (first >>= next) before failure after := by
  intro outputs
  obtain ⟨outputs', hRun⟩ := hFirst outputs
  rw [run_bind, hRun]
  exact hNext outputs'

/-- Nothing follows a step that fails. -/
theorem Fails.bind {first : Act α} {failure : Failure} (hFirst : Fails first before failure after)
    (next : α → Act β) : Fails (first >>= next) before failure after := by
  intro outputs
  obtain ⟨outputs', hRun⟩ := hFirst outputs
  rw [run_bind, hRun]
  exact ⟨outputs', rfl⟩

/-- Whatever a step goes on with, what follows leaves the disk as the step did. -/
theorem Leaves.bind {first : Act α} {next : α → Act β} (hFirst : Leaves first before after)
    (hNext : ∀ a, Leaves (next a) after after) : Leaves (first >>= next) before after := by
  intro outputs
  have hRun := hFirst outputs
  rw [run_bind]
  cases hResult : first.run ⟨before, outputs⟩ with
  | mk result stand =>
      rw [hResult] at hRun
      cases result with
      | error failure => exact hRun
      | ok a =>
          obtain ⟨disk, outputs'⟩ := stand
          subst hRun
          exact hNext a outputs'

/-- To give a result changes nothing. -/
theorem leads_pure (result : α) : Leads (pure result) before result before :=
  fun outputs => ⟨outputs, rfl⟩

theorem fails_throw (failure : Failure) : Fails (throw failure : Act α) before failure before :=
  fun outputs => ⟨outputs, rfl⟩

theorem leads_disk : Leads disk before before before := fun outputs => ⟨outputs, rfl⟩

theorem leads_setDisk (disk : Disk) : Leads (setDisk disk) before () disk :=
  fun outputs => ⟨outputs, rfl⟩

/-- Writing out leaves the disk alone. -/
theorem leads_write (more : List Output) : Leads (write more) before () before :=
  fun outputs => ⟨outputs ++ more, rfl⟩

/-- A result goes through where it is no failure. -/
theorem leads_orFail {result : Except Failure α} {a : α} (hResult : result = .ok a) :
    Leads (orFail result) before a before := by
  subst hResult
  exact leads_pure a

theorem fails_orFail {result : Except Failure α} {failure : Failure}
    (hResult : result = .error failure) : Fails (orFail result) before failure before := by
  subst hResult
  exact fails_throw failure

theorem leads_orFault {result : Except Fault α} {a : α} (hResult : result = .ok a) :
    Leads (orFault result) before a before := by
  subst hResult
  exact leads_pure a

theorem fails_orFault {result : Except Fault α} {fault : Fault} (hResult : result = .error fault) :
    Fails (orFault result) before (.fault fault) before := by
  subst hResult
  exact fails_throw _

/-- A pass gives its result and leaves its disk. What it reports goes to the sink and decides
nothing. -/
theorem leads_perform (sink : Sink) (pass : Disk → Outcome α) {a : α}
    (hResult : (pass before).result = .ok a) :
    Leads (perform sink pass) before a (pass before).disk :=
  leads_disk.bind <| (leads_setDisk _).bind <| (leads_write _).bind <| leads_orFault hResult

/-- A pass that fails leaves the disk as it came to be. -/
theorem fails_perform (sink : Sink) (pass : Disk → Outcome α) {fault : Fault}
    (hResult : (pass before).result = .error fault) :
    Fails (perform sink pass) before (.fault fault) (pass before).disk :=
  leads_disk.fails_bind <| (leads_setDisk _).fails_bind <| (leads_write _).fails_bind <|
    fails_orFault hResult

/-- A pass leaves its disk, however it ends. -/
theorem leaves_perform (sink : Sink) (pass : Disk → Outcome α) :
    Leaves (perform sink pass) before (pass before).disk := by
  cases hResult : (pass before).result with
  | error fault => exact (fails_perform sink pass hResult).leaves
  | ok a => exact (leads_perform sink pass hResult).leaves

end Stencil.Session.Act
