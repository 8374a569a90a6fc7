import Stencil.Walk

/-! What holds of the disk throughout a walk. A walk may come across links and may be stopped, and
its visitor may change what the walk looks at later, so the rule speaks of the disk as it is at each
step, and of the folders that were entered on the way. -/

namespace Stencil.Walk

variable {α β σ : Type}

/-- How a walk, or a part of one, ends: with a result of one kind, or stopped in one way. -/
def Ends (Good : α → Prop) (Stopped : Fault × Progress β → Prop) : Run β α → Prop
  | .ok result => Good result
  | .error stopped => Stopped stopped

theorem Ends.mono {Good Good' : α → Prop} {Stopped Stopped' : Fault × Progress β → Prop}
    {result : Run β α} (hEnds : Ends Good Stopped result) (hGood : ∀ a, Good a → Good' a)
    (hStopped : ∀ stopped, Stopped stopped → Stopped' stopped) : Ends Good' Stopped' result := by
  cases result with
  | error stopped => exact hStopped stopped hEnds
  | ok a => exact hGood a hEnds

/-- Runs compose, and a run that stops keeps what it stopped with. -/
theorem Ends.bind {Good : α → Prop} {Good' : σ → Prop} {Stopped : Fault × Progress β → Prop}
    {first : Run β α} {next : α → Run β σ} (hFirst : Ends Good Stopped first)
    (hNext : ∀ result, Good result → Ends Good' Stopped (next result)) :
    Ends Good' Stopped (first >>= next) := by
  cases first with
  | error stopped => exact hFirst
  | ok result => exact hNext result hFirst

/-- What every step keeps is kept by all steps together. -/
theorem Ends.foldlM {Good : σ → Prop} {Stopped : Fault × Progress β → Prop} {items : List α}
    {step : σ → α → Run β σ} {start : σ}
    (hStep : ∀ state item, item ∈ items → Good state → Ends Good Stopped (step state item))
    (hStart : Good start) :
    Ends Good Stopped (items.foldlM (m := Run β) step start) := by
  induction items generalizing start with
  | nil => exact hStart
  | cons item items ih =>
      rw [List.foldlM_cons]
      refine (hStep start item List.mem_cons_self hStart).bind fun state hState => ?_
      exact ih (fun state item hMem => hStep state item (List.mem_cons_of_mem _ hMem)) hState

section Rule

/-- All parts of a walk leave the disk as it has to be. -/
def Keeps (Kept : Disk → Prop) : Result β → Prop :=
  Ends (fun progress => Kept progress.disk) fun stopped => Kept stopped.2.disk

variable {plan : Plan} {visit : Visited → Progress β → Result β} {links : Nat}
  {Kept : Disk → Prop} {Inside : Path → Location → Prop} {path relative : Path}
  {folder : Location}

/-- Only a visit touches the disk. -/
theorem keeps_settle {name : Name} {progress : Progress β} {verdict : Verdict}
    (hVisit : ∀ content, verdict = .visit content →
      Keeps Kept (visit ⟨⟨path, folder, [.enter name], links⟩, name, relative, content⟩
        { progress with visited := progress.visited + 1 }))
    (hStart : Kept progress.disk) :
    Keeps Kept (settle visit path relative folder links name progress verdict) := by
  cases verdict with
  | visit content => exact hVisit content rfl
  | _ => exact hStart

variable
  (hEnter : ∀ (disk : Disk) (path relative : Path) (folder : Location) (name : Name),
    Kept disk → Inside relative folder →
    plan.judge disk folder links name path (relative.join name.text) = .folder →
      Inside (relative.join name.text) (folder ++ [name]))
  (hVisit : ∀ (progress : Progress β) (path relative : Path) (folder : Location) (name : Name)
      (content : Bytes), Kept progress.disk → Inside relative folder →
    plan.judge progress.disk folder links name path (relative.join name.text) = .visit content →
      Keeps Kept (visit ⟨⟨path, folder, [.enter name], links⟩, name, relative.join name.text,
        content⟩ { progress with visited := progress.visited + 1 }))

include hEnter hVisit

/-- One entry keeps the disk and tells only of folders that lie inside. -/
theorem ends_entry {name : Name} {state : Progress β × List Name}
    (hInside : Inside relative folder) (hStart : Kept state.1.disk)
    (hFolders : ∀ name ∈ state.2, Inside (relative.join name.text) (folder ++ [name])) :
    Ends (fun state : Progress β × List Name => Kept state.1.disk ∧
        ∀ name ∈ state.2, Inside (relative.join name.text) (folder ++ [name]))
      (fun stopped => Kept stopped.2.disk)
      (entry plan visit path relative folder links state name) := by
  obtain ⟨progress, folders⟩ := state
  have hSettle := keeps_settle (hVisit progress (path.join name.text) relative folder name · hStart
    hInside) hStart
  rw [entry]
  cases hResult : settle visit (path.join name.text) (relative.join name.text) folder links name
      progress (plan.judge progress.disk folder links name (path.join name.text)
        (relative.join name.text)) with
  | error stopped =>
      rw [hResult] at hSettle
      exact hSettle
  | ok after =>
      rw [hResult] at hSettle
      refine ⟨hSettle, fun other hMem => ?_⟩
      dsimp only at hMem
      split at hMem
      · next hFolder =>
          rcases List.mem_append.mp hMem with hMem | hMem
          · exact hFolders other hMem
          · rw [List.mem_singleton.mp hMem]
            exact hEnter progress.disk _ relative folder name hStart hInside hFolder
      · exact hFolders other hMem

/-- The rule for walks of any disk: what each visit keeps is kept by the walk. -/
theorem keeps_level (height : Nat) (path : Path) {progress : Progress β}
    (hInside : Inside relative folder) (hStart : Kept progress.disk) :
    Keeps Kept (level plan visit links height path relative folder progress) := by
  induction height generalizing path relative folder progress with
  | zero => exact hStart
  | succ height ih =>
      have hEntries : Ends (fun state : Progress β × List Name => Kept state.1.disk ∧
          ∀ name ∈ state.2, Inside (relative.join name.text) (folder ++ [name]))
          (fun stopped => Kept stopped.2.disk)
          (((announce path progress).disk.listing folder).foldlM (m := Run β)
            (entry plan visit path relative folder links) (announce path progress, [])) := by
        refine Ends.foldlM ?_ ⟨hStart, fun _ hMem => absurd hMem List.not_mem_nil⟩
        rintro state name - ⟨hState, hFolders⟩
        exact ends_entry hEnter hVisit hInside hState hFolders
      rw [level]
      cases hRun : ((announce path progress).disk.listing folder).foldlM (m := Run β)
          (entry plan visit path relative folder links) (announce path progress, []) with
      | error stopped =>
          rw [hRun] at hEntries
          exact hEntries
      | ok state =>
          rw [hRun] at hEntries
          obtain ⟨hNow, hFolders⟩ := hEntries
          refine Ends.foldlM ?_ hNow
          intro progress name hMem hProgress
          exact ih _ (hFolders name hMem) hProgress

/-- A run keeps what every visit keeps that it can come to. -/
theorem keeps_run {root : Path} {base : Location} {progress : Progress β}
    (hRoot : progress.disk.enter root.address = .ok (base, links)) (hInside : Inside ⟨""⟩ base)
    (hStart : Kept progress.disk) : Keeps Kept (run plan root visit progress) := by
  have hLevel := keeps_level hEnter hVisit (progress.disk.depth + 1) root hInside hStart
  rw [run, hRoot]
  change Keeps Kept ((level plan visit links (progress.disk.depth + 1) root ⟨""⟩ base progress).map
    (completed root))
  cases hResult : level plan visit links (progress.disk.depth + 1) root ⟨""⟩ base progress with
  | error stopped =>
      rw [hResult] at hLevel
      exact hLevel
  | ok after =>
      rw [hResult] at hLevel
      exact hLevel

end Rule

/-- A walk whose visitor changes no disk changes none. -/
theorem keeps_run_of_still {plan : Plan} {visit : Visited → Progress β → Result β} (root : Path)
    (hVisit : ∀ file progress, Keeps (· = progress.disk) (visit file progress))
    (progress : Progress β) : Keeps (· = progress.disk) (run plan root visit progress) := by
  cases hRoot : progress.disk.enter root.address with
  | error cause =>
      rw [run, hRoot]
      rfl
  | ok entered =>
      obtain ⟨base, links⟩ := entered
      refine @keeps_run β plan visit links (· = progress.disk) (fun _ _ => True)
        (fun _ _ _ _ _ _ _ _ => trivial) ?_ root base progress hRoot trivial rfl
      intro now path relative folder name content hNow _ _
      exact hNow ▸ hVisit _ { now with visited := now.visited + 1 }

end Stencil.Walk
