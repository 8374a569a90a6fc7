import Mathlib.Algebra.GroupWithZero.Nat
import Stencil.Engine
import Stencil.Proofs.Substitution.Tokenized
import Stencil.Proofs.Walk.Visits

/-! What putting values in place does to one file: it is written to under its own address, or
nothing is done to the disk. -/

namespace Stencil.Engine

open Substitution
open Walk (Progress Visited Ends)

variable {engine : Engine} {values : Values}

/-- The disk that a walk leaves, whether it comes to the end or is stopped. -/
def diskLeft {α : Type} : Walk.Result α → Disk
  | .ok after => after.disk
  | .error (_, stopped) => stopped.disk

/-- A pass leaves the disk as its walk does. -/
theorem disk_pass_eq {α : Type} (plan : Walk.Plan) (disk : Disk) (root : Path) (opened : String)
    (start : α) (visit : Visited → Progress α → Walk.Result α) (finish : Progress α → α)
    (closed : α → String) :
    (pass plan disk root opened start visit finish closed).disk =
      diskLeft (Walk.run plan root visit ⟨disk, [.line .info opened], 0, 0, start⟩) := by
  rw [pass]
  split
  · next hRun => rw [hRun, diskLeft]
  · next hRun => rw [hRun, diskLeft]

theorem disk_pass {α : Type} {Kept : Disk → Prop} {plan : Walk.Plan} {disk : Disk} {root : Path}
    {opened : String} {start : α} {visit : Visited → Progress α → Walk.Result α}
    (finish : Progress α → α) (closed : α → String)
    (hWalk : Walk.Keeps Kept
      (Walk.run plan root visit ⟨disk, [.line .info opened], 0, 0, start⟩)) :
    Kept (pass plan disk root opened start visit finish closed).disk := by
  rw [disk_pass_eq]
  cases hRun : Walk.run plan root visit ⟨disk, [.line .info opened], 0, 0, start⟩ with
  | error stopped =>
      rw [hRun] at hWalk
      exact hWalk
  | ok after =>
      rw [hRun] at hWalk
      exact hWalk

theorem ends_replaceFile (engine : Engine) (values : Values) (file : Visited)
    (progress : Progress Summary) :
    Ends
      (fun after => after.disk = progress.disk ∨
        progress.disk.write file.place.address (engine.substitute values file.content).content =
          .ok after.disk)
      (fun stopped => stopped.2.disk = progress.disk)
      (engine.replaceFile values file progress) := by
  simp only [replaceFile]
  split
  · exact .inl rfl
  · split
    · exact .inl rfl
    · split
      · exact rfl
      · next disk hWrite => exact .inr hWrite

section Found

variable {file : Visited}

theorem write_found {disk : Disk} (content : Bytes) (hFound : file.Found) (hFree : disk.LinkFree)
    (hContent : disk.get? file.location = some (.file file.content)) :
    disk.write file.place.address content = .ok (disk.put file.location (.file content)) := by
  rw [Visited.address_eq hFound]
  apply Disk.write_enter hFree
  rw [← Visited.location, hContent]
  simp

/-- On a disk without links, a visit gives the file its new content at its own location. -/
theorem careful_replaceFile (engine : Engine) (values : Values) :
    Walk.Careful (engine.replaceFile values) := by
  intro file progress after hFound hFree hContent hVisit
  have hEnds := engine.ends_replaceFile values file progress
  rw [hVisit] at hEnds
  rcases hEnds with hSame | hWrite
  · rw [hSame]
    exact .refl hFree
  · rw [write_found _ hFound hFree hContent] at hWrite
    rw [← Except.ok.inj hWrite]
    exact (Walk.Nearby.refl hFree).put _ le_rfl

/-- A file that is where it was found is written to. -/
theorem replaceFile_ok (engine : Engine) (values : Values) (progress : Progress Summary)
    (hFound : file.Found) (hFree : progress.disk.LinkFree)
    (hContent : progress.disk.get? file.location = some (.file file.content)) :
    ∃ after, engine.replaceFile values file progress = .ok after ∧
      after.gathered.replacements =
        progress.gathered.replacements + (engine.substitute values file.content).count := by
  have hWrite := write_found (engine.substitute values file.content).content hFound hFree hContent
  cases hChanged : (engine.substitute values file.content).isChanged with
  | false =>
      have hCount : (engine.substitute values file.content).count = 0 := by
        simpa [Substitution.Substituted.isChanged] using hChanged
      simp only [replaceFile, hChanged, Bool.not_false, if_true]
      exact ⟨_, rfl, by rw [hCount]; rfl⟩
  | true =>
      cases hDry : engine.config.dryRun with
      | true =>
          simp only [replaceFile, hChanged, hDry, Bool.not_true, Bool.false_eq_true, if_false,
            if_true]
          exact ⟨_, rfl, rfl⟩
      | false =>
          simp only [replaceFile, hChanged, hDry, Bool.not_true, Bool.false_eq_true, if_false,
            Progress.say, hWrite]
          exact ⟨_, rfl, rfl⟩

end Found

theorem replaceFile_congr {values' : Values} {file : Visited}
    (hSame : engine.substitute values file.content = engine.substitute values' file.content) :
    engine.replaceFile values file = engine.replaceFile values' file := by
  funext progress
  unfold replaceFile
  rw [hSame]

section Pass

variable {disk : Disk} {root : Path}

/-- The files that a pass visits, as they are before it begins. -/
def files (engine : Engine) (values : Values) (disk : Disk) (root : Path) : List Visited :=
  Walk.visits ⟨engine.filterFor values, none⟩ disk root

theorem ends_replace (engine : Engine) (values : Values) (hFree : disk.LinkFree)
    (hRoot : disk.hasFolder root.address = true) (notices : List Notice) :
    Walk.Ends
      (fun after => after.gathered.replacements + 0 =
        ((engine.files values disk root).map fun file =>
          (engine.substitute values file.content).count).sum)
      (fun _ => False)
      (Walk.run ⟨engine.filterFor values, none⟩ root (engine.replaceFile values)
        ⟨disk, notices, 0, 0, .zero⟩) := by
  refine Walk.ends_run
    (fun todo _ _ gathered => gathered.replacements +
      (todo.map fun file => (engine.substitute values file.content).count).sum =
        ((engine.files values disk root).map fun file =>
          (engine.substitute values file.content).count).sum)
    _ (engine.careful_replaceFile values) ?_ ⟨disk, notices, 0, 0, .zero⟩ hFree hRoot ?_
  · intro file todo progress hFound hNow hContent hTotal
    obtain ⟨after, hAfter, hCount⟩ := engine.replaceFile_ok values
      { progress with visited := progress.visited + 1 } hFound hNow hContent
    rw [List.map_cons, List.sum_cons, ← Nat.add_assoc] at hTotal
    rw [hAfter]
    exact (congrArg (· + _) hCount).trans hTotal
  · exact Nat.zero_add _

/-- A pass on a disk without links comes to the end, and counts what is replaced in the files as
they were. -/
theorem result_replace (engine : Engine) (values : Values) (hFree : disk.LinkFree)
    (hRoot : disk.hasFolder root.address = true) :
    ∃ summary, (engine.replace disk root values).result = .ok summary ∧
      summary.replacements = ((engine.files values disk root).map fun file =>
        (engine.substitute values file.content).count).sum := by
  have hEnds := engine.ends_replace values hFree hRoot
    [.line .info ("Starting replacement: " ++ Text.quoted root.text)]
  rw [replace, pass]
  split
  · next hRun =>
      rw [hRun] at hEnds
      exact hEnds.elim
  · next after hRun =>
      rw [hRun] at hEnds
      exact ⟨_, rfl, hEnds⟩

/-- The same pass with other values, which ask for the same and give the same. -/
theorem replace_congr {values' : Values} (hFree : disk.LinkFree)
    (hPatterns : values.ignorePatterns = values'.ignorePatterns)
    (hSame : ∀ file ∈ engine.files values disk root,
      engine.substitute values file.content = engine.substitute values' file.content) :
    engine.replace disk root values = engine.replace disk root values' := by
  have hFilter : engine.filterFor values = engine.filterFor values' := by
    rw [filterFor, filterFor, hPatterns]
  have hRun (notices : List Notice) :
      Walk.run ⟨engine.filterFor values, none⟩ root (engine.replaceFile values)
          ⟨disk, notices, 0, 0, .zero⟩ =
        Walk.run ⟨engine.filterFor values', none⟩ root (engine.replaceFile values')
          ⟨disk, notices, 0, 0, .zero⟩ := by
    rw [← hFilter]
    exact Walk.run_congr (engine.careful_replaceFile values) (engine.careful_replaceFile values')
      hFree fun file hMem => replaceFile_congr (hSame file hMem)
  rw [replace, replace, pass, pass, hRun]

/-- The spans of a content that are looked at for values. -/
def spans (engine : Engine) (content : Bytes) : List Span :=
  Span.search (Text.Utf8.encode engine.config.opening) (Text.Utf8.encode engine.config.closing)
    content

theorem substitute_tokenized (values : Values) (content : Bytes)
    (hStrategy : engine.config.strategy = .tokenized) :
    engine.substitute values content =
      Tokenized.substitute engine.config.opening engine.config.closing values content := by
  rw [substitute, hStrategy]

/-- All that a pass replaces, counted over all spans of all files. -/
theorem sum_count_eq (values : Values) (hStrategy : engine.config.strategy = .tokenized)
    (files : List Visited) :
    (files.map fun file => (engine.substitute values file.content).count).sum =
      (files.flatMap fun file => engine.spans file.content).countP
        (Tokenized.isReplaced values.effective) := by
  rw [List.countP_flatMap]
  congr 1
  apply List.map_congr_left
  intro file _
  rw [substitute_tokenized values _ hStrategy, Tokenized.count_substitute]
  rfl

/-- Values that give less make the same pass exactly when they give all that is looked up. -/
theorem replace_eq_iff {values' : Values} (hStrategy : engine.config.strategy = .tokenized)
    (hFree : disk.LinkFree) (hRoot : disk.hasFolder root.address = true)
    (hPatterns : values.ignorePatterns = values'.ignorePatterns)
    (hLess : ∀ key value, values.effective.get? key = some value →
      values'.effective.get? key = some value) :
    engine.replace disk root values = engine.replace disk root values' ↔
      ∀ file ∈ engine.files values disk root, ∀ span ∈ engine.spans file.content, ∀ key,
        Tokenized.key? span.body = some key →
          values.effective.get? key = values'.effective.get? key := by
  have hFiles : engine.files values' disk root = engine.files values disk root := by
    rw [files, files, filterFor, filterFor, hPatterns]
  constructor
  · intro hPass file hFile span hSpan key hKey
    obtain ⟨summary, hResult, hCount⟩ := engine.result_replace values hFree hRoot
    obtain ⟨summary', hResult', hCount'⟩ := engine.result_replace values' hFree hRoot
    obtain rfl : summary = summary' := by
      rw [hPass] at hResult
      exact Except.ok.inj (hResult.symm.trans hResult')
    rw [hFiles, hCount, sum_count_eq values hStrategy, sum_count_eq values' hStrategy] at hCount'
    exact Tokenized.get?_eq_of_countP_eq hLess hCount'
      (List.mem_flatMap.mpr ⟨file, hFile, hSpan⟩) hKey
  · intro hLookup
    refine replace_congr hFree hPatterns fun file hMem => ?_
    rw [substitute_tokenized values _ hStrategy, substitute_tokenized values' _ hStrategy]
    exact Tokenized.substitute_congr (hLookup file hMem)

end Pass

end Stencil.Engine
