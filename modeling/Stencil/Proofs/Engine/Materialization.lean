import Mathlib.Algebra.GroupWithZero.Nat
import Stencil.Proofs.Engine.Replacement
import Stencil.Proofs.Template
import Stencil.Proofs.Walk.Calls
import Stencil.Proofs.Walk.Visits

/-! What turning templates into their outputs leaves on a disk without links. Names are visited
in ascending order and an output has a shorter name than its template, so no output is read as a
template, and none is overwritten or removed later. A pass that has to stop has dealt with the
templates in front of the one that stopped it, and with no other. -/

namespace Stencil

/-- The location that an address takes one named step to. -/
def Address.entry? (address : Address) : Option Location :=
  match address.steps with
  | [.enter name] => some (address.folder ++ [name])
  | _ => none

namespace Walk.Visited

/-- Where the output of a template goes. -/
def output? (suffix : String) (file : Visited) : Option Place :=
  Template.output? file.place file.name suffix

/-- The location of a template's output, if its name is one. -/
def outputLocation? (suffix : String) (file : Visited) : Option Location :=
  (file.output? suffix).bind fun output => output.address.entry?

/-- Whether a folder stands where the output of a template goes. -/
def isBlocked (suffix : String) (disk : Disk) (file : Visited) : Bool :=
  (file.output? suffix).any fun output => disk.hasFolder output.address

section Output

variable {suffix : String} {file other : Visited} {location : Location}

theorem outputLocation?_eq_some (hFound : file.Found)
    (hLocation : file.outputLocation? suffix = some location) :
    ∃ short : Name, short.text ++ suffix = file.name.text ∧
      location = file.place.address.folder ++ [short] := by
  obtain ⟨output, hOutput, hEntry⟩ := Option.bind_eq_some_iff.mp hLocation
  rcases Template.steps_of_output? hFound.fileName?_eq hOutput with
    ⟨short, hShort, hAddress⟩ | hAddress | hAddress
  · rw [hAddress] at hEntry
    exact ⟨short, hShort, (Option.some.inj hEntry).symm⟩
  · rw [hAddress] at hEntry
    cases hEntry
  · rw [hAddress] at hEntry
    cases hEntry

theorem isBlocked_iff {disk : Disk} (hFree : disk.LinkFree) (hFound : file.Found)
    (hLocation : file.outputLocation? suffix = some location) :
    file.isBlocked suffix disk = true ↔ disk.get? location = some .folder := by
  obtain ⟨output, hOutput, hEntry⟩ := Option.bind_eq_some_iff.mp hLocation
  rw [isBlocked, hOutput, Option.any_some]
  rcases Template.steps_of_output? hFound.fileName?_eq hOutput with
    ⟨short, -, hAddress⟩ | hAddress | hAddress
  · rw [hAddress] at hEntry ⊢
    rw [← Option.some.inj hEntry]
    exact Disk.hasFolder_enter_iff hFree
  · rw [hAddress] at hEntry
    cases hEntry
  · rw [hAddress] at hEntry
    cases hEntry

/-- An output without a name of its own is blocked wherever the template lies. -/
theorem isBlocked_of_nameless (disk disk' : Disk) (hFound : file.Found)
    (hLocation : file.outputLocation? suffix = none) :
    file.isBlocked suffix disk = file.isBlocked suffix disk' := by
  rw [isBlocked, isBlocked]
  cases hOutput : file.output? suffix with
  | none => rfl
  | some output =>
      rw [Option.any_some, Option.any_some]
      rcases Template.steps_of_output? hFound.fileName?_eq hOutput with
        ⟨short, -, hAddress⟩ | hAddress | hAddress
      · rw [outputLocation?, hOutput, Option.bind_some, hAddress] at hLocation
        cases hLocation
      · rw [hAddress, Disk.hasFolder_stay, Disk.hasFolder_stay]
      · rw [hAddress, Disk.hasFolder_up, Disk.hasFolder_up]

theorem location_inj (hSame : file.location = other.location) :
    file.place.address.folder = other.place.address.folder ∧ file.name = other.name := by
  obtain ⟨hFolder, hName⟩ := List.append_inj' hSame rfl
  exact ⟨hFolder, List.singleton_inj.mp hName⟩

theorem Precedes.location_ne (hOrder : file.Precedes other) :
    file.location ≠ other.location := by
  intro hSame
  obtain ⟨hFolder, hName⟩ := location_inj hSame
  exact absurd (hName ▸ hOrder hFolder.symm) (lt_irrefl _)

/-- An output is no template that is still to be visited. -/
theorem Precedes.output_ne_location (hOrder : file.Precedes other) (hSuffix : suffix ≠ "")
    (hFound : file.Found) (hLocation : file.outputLocation? suffix = some location) :
    location ≠ other.location := by
  obtain ⟨short, hShort, rfl⟩ := outputLocation?_eq_some hFound hLocation
  intro hSame
  obtain ⟨hFolder, hName⟩ := List.append_inj' hSame rfl
  have hLess := hOrder hFolder.symm
  rw [← List.singleton_inj.mp hName, ← hShort] at hLess
  exact absurd hLess (lt_asymm (Template.lt_append short.text hSuffix))

/-- No two templates have the same output. -/
theorem Precedes.output_ne_output (hOrder : file.Precedes other) (hFound : file.Found)
    (hFound' : other.Found) (hLocation : file.outputLocation? suffix = some location) :
    other.outputLocation? suffix ≠ some location := by
  intro hSame
  obtain ⟨short, hShort, rfl⟩ := outputLocation?_eq_some hFound hLocation
  obtain ⟨short', hShort', hEq⟩ := outputLocation?_eq_some hFound' hSame
  obtain ⟨hFolder, hName⟩ := List.append_inj' hEq rfl
  have hLess := hOrder hFolder.symm
  rw [← hShort, ← hShort', List.singleton_inj.mp hName] at hLess
  exact absurd hLess (lt_irrefl _)

theorem output_ne_location (hSuffix : suffix ≠ "") (hFound : file.Found)
    (hLocation : file.outputLocation? suffix = some location) : location ≠ file.location := by
  obtain ⟨short, hShort, rfl⟩ := outputLocation?_eq_some hFound hLocation
  intro hSame
  obtain ⟨-, hName⟩ := List.append_inj' hSame rfl
  have hLess := Template.lt_append short.text hSuffix
  rw [hShort, List.singleton_inj.mp hName] at hLess
  exact absurd hLess (lt_irrefl _)

end Output

end Walk.Visited

namespace Engine

open Walk (Progress Visited)

variable {engine : Engine} {values : Values}

/-- What a disk has become once some of its templates were turned into their outputs. -/
structure Materialized (engine : Engine) (values : Values) (disk : Disk) (done : List Visited)
    (after : Disk) : Prop where
  /-- Each output holds what the values make of the template as it was. -/
  output : ∀ file ∈ done, ∃ location, file.outputLocation? engine.config.suffix = some location ∧
    after.get? location = some (.file (engine.substitute values file.content).content)
  /-- Each template is gone, unless it is the output of another. -/
  removed : ∀ file ∈ done,
    (∀ other ∈ done, other.outputLocation? engine.config.suffix ≠ some file.location) →
      after.get? file.location = none
  /-- All else is as it was. -/
  kept : ∀ location,
    (∀ file ∈ done, file.location ≠ location ∧
      file.outputLocation? engine.config.suffix ≠ some location) →
      after.get? location = disk.get? location

/-- One more template. -/
theorem Materialized.snoc {disk before : Disk} {done : List Visited} {file : Visited}
    {location : Location} (hBefore : Materialized engine values disk done before)
    (hFound : ∀ other ∈ done ++ [file], other.Found)
    (hOrder : (done ++ [file]).Pairwise Visited.Precedes)
    (hLocation : file.outputLocation? engine.config.suffix = some location) :
    Materialized engine values disk (done ++ [file])
      ((before.put location
        (.file (engine.substitute values file.content).content)).erase file.location) := by
  have hLast : ∀ other ∈ done, other.Precedes file := fun other hMem =>
    (List.pairwise_append.mp hOrder).2.2 other hMem file (List.mem_singleton_self file)
  have hFile := hFound file (List.mem_append_right _ (List.mem_singleton_self file))
  have hDone : ∀ other ∈ done, other.Found := fun other hMem =>
    hFound other (List.mem_append_left _ hMem)
  have hOwn := Visited.output_ne_location engine.suffix_ne hFile hLocation
  have hElse : ∀ place, place ≠ file.location → place ≠ location →
      ((before.put location
        (.file (engine.substitute values file.content).content)).erase
          file.location).get? place = before.get? place := fun place hTemplate hOutput => by
    rw [Disk.get?_erase_of_ne _ hTemplate, Disk.get?_put_of_ne _ _ hOutput]
  refine ⟨?_, ?_, ?_⟩
  · intro other hMem
    rcases List.mem_append.mp hMem with hMem | hMem
    · obtain ⟨place, hPlace, hNode⟩ := hBefore.output other hMem
      have hOther := (hLast other hMem)
      refine ⟨place, hPlace, ?_⟩
      rw [hElse place (hOther.output_ne_location engine.suffix_ne (hDone other hMem) hPlace)]
      · exact hNode
      · rintro rfl
        exact hOther.output_ne_output (hDone other hMem) hFile hPlace hLocation
    · obtain rfl := List.mem_singleton.mp hMem
      refine ⟨location, hLocation, ?_⟩
      obtain ⟨short, -, rfl⟩ := Visited.outputLocation?_eq_some hFile hLocation
      rw [Disk.get?_erase_of_ne _ hOwn, Disk.get?_put_self _ _ (by simp)]
  · intro other hMem hNoOutput
    rcases List.mem_append.mp hMem with hMem | hMem
    · have hOutput : other.location ≠ location := fun hSame =>
        hNoOutput file (List.mem_append_right _ (List.mem_singleton_self file))
          (hSame ▸ hLocation)
      rw [hElse _ (hLast other hMem).location_ne hOutput]
      exact hBefore.removed other hMem fun another hAnother =>
        hNoOutput another (List.mem_append_left _ hAnother)
    · obtain rfl := List.mem_singleton.mp hMem
      exact Disk.get?_erase_self _ (by simp [Visited.location])
  · intro place hPlace
    obtain ⟨hTemplate, hOutput⟩ :=
      hPlace file (List.mem_append_right _ (List.mem_singleton_self file))
    rw [hElse place hTemplate.symm fun hSame => hOutput (hSame ▸ hLocation)]
    exact hBefore.kept place fun other hMem => hPlace other (List.mem_append_left _ hMem)

/-- What a visit makes of a template: it is stopped by a folder in place of the output, or else
puts the output there and removes the template. -/
theorem materializeFile_cases (values : Values) {file : Visited} {progress : Progress Summary}
    {output : Place}
    (hLive : engine.config.dryRun = false) (hFound : file.Found)
    (hFree : progress.disk.LinkFree)
    (hContent : progress.disk.get? file.location = some (.file file.content))
    (hOutput : file.output? engine.config.suffix = some output) :
    (file.isBlocked engine.config.suffix progress.disk = true ∧
      ∃ stopped, engine.materializeFile values file progress =
          .error (.disk output.path .isFolder, stopped) ∧ stopped.disk = progress.disk) ∨
    (file.isBlocked engine.config.suffix progress.disk = false ∧
      ∃ location after, file.outputLocation? engine.config.suffix = some location ∧
        engine.materializeFile values file progress = .ok after ∧
        after.disk = (progress.disk.put location
          (.file (engine.substitute values file.content).content)).erase file.location ∧
        after.visited = progress.visited ∧
        after.gathered =
          progress.gathered.add (engine.substitute values file.content).count) := by
  have hPlace : Template.output? file.place file.name engine.config.suffix = some output :=
    hOutput
  rw [Visited.isBlocked, hOutput, Option.any_some]
  cases hBlocked : progress.disk.hasFolder output.address with
  | true =>
      refine .inl ⟨rfl, ?_⟩
      simp only [materializeFile, hPlace, hLive, Bool.false_eq_true, if_false,
        Template.materialize_of_hasFolder _ _ hBlocked]
      exact ⟨_, rfl, rfl⟩
  | false =>
      refine .inr ⟨rfl, ?_⟩
      rcases Template.steps_of_output? hFound.fileName?_eq hPlace with
        ⟨short, hShort, hAddress⟩ | hAddress | hAddress
      · have hLocation : file.outputLocation? engine.config.suffix =
            some (file.place.address.folder ++ [short]) := by
          rw [Visited.outputLocation?, hOutput, Option.bind_some, hAddress, Address.entry?]
        have hNode : progress.disk.get? (file.place.address.folder ++ [short]) ≠
            some .folder := by
          intro hFolder
          rw [hAddress, (Disk.hasFolder_enter_iff hFree).mpr hFolder] at hBlocked
          cases hBlocked
        have hNames : short ≠ file.name := fun hSame =>
          Visited.output_ne_location engine.suffix_ne hFound hLocation (by rw [hSame]; rfl)
        simp only [materializeFile, hPlace, hLive, Bool.false_eq_true, if_false,
          Template.materialize_entry _ hFree (Visited.address_eq hFound) hAddress hContent hNode
            hNames]
        exact ⟨_, _, hLocation, rfl, rfl, rfl, rfl⟩
      · rw [hAddress, Disk.hasFolder_stay] at hBlocked
        cases hBlocked
      · rw [hAddress, Disk.hasFolder_up] at hBlocked
        cases hBlocked

/-- No visit touches another folder, or a later name. -/
theorem careful_materializeFile (engine : Engine) (values : Values) :
    Walk.Careful (engine.materializeFile values) := by
  intro file progress after hFound hFree hContent hVisit
  cases hOutput : file.output? engine.config.suffix with
  | none =>
      have hPlace : Template.output? file.place file.name engine.config.suffix = none := hOutput
      simp only [materializeFile, hPlace] at hVisit
      cases hVisit
      exact .refl hFree
  | some output =>
      cases hLive : engine.config.dryRun with
      | true =>
          have hPlace : Template.output? file.place file.name engine.config.suffix =
            some output := hOutput
          simp only [materializeFile, hPlace, hLive, if_true] at hVisit
          cases hVisit
          exact .refl hFree
      | false =>
          rcases materializeFile_cases values hLive hFound hFree hContent hOutput with
            ⟨-, stopped, hError, -⟩ | ⟨-, location, next, hLocation, hNext, hDisk, -, -⟩
          · rw [hError] at hVisit
            cases hVisit
          · obtain rfl : next = after := Except.ok.inj (hNext.symm.trans hVisit)
            obtain ⟨short, hShort, rfl⟩ := Visited.outputLocation?_eq_some hFound hLocation
            have hShorter : short.text ≤ file.name.text :=
              hShort ▸ (Template.lt_append short.text engine.suffix_ne).le
            rw [hDisk]
            exact ((Walk.Nearby.refl hFree).put _ hShorter).erase le_rfl

section Pass

variable (engine values)

/-- The templates that a pass visits, as they are before it begins. -/
def templates (disk : Disk) (root : Path) : List Visited :=
  Walk.visits ⟨engine.filterFor values, some engine.config.suffix⟩ disk root

/-- How far a pass has come when it has turned the first templates into their outputs. -/
structure Reached (disk : Disk) (root : Path) (done todo : List Visited) (after : Disk) :
    Prop where
  templates_eq : engine.templates values disk root = done ++ todo
  unblocked : ∀ file ∈ done, file.isBlocked engine.config.suffix disk = false
  materialized : Materialized engine values disk done after
  linkFree : after.LinkFree

variable {engine values}
variable {disk after : Disk} {root : Path} {file : Visited} {done todo : List Visited}

theorem isSome_output? (hFree : disk.LinkFree) (hMem : file ∈ engine.templates values disk root) :
    ∃ output, file.output? engine.config.suffix = some output := by
  obtain ⟨-, hSuffix⟩ := Walk.content_of_mem_visits hFree hMem
  have hFound := Walk.found_of_mem_visits hMem
  rw [← Option.isSome_iff_exists]
  refine (Template.isSome_output? hFound.fileName?_eq).trans ?_
  simpa using hSuffix

namespace Reached

theorem mem_templates (hReached : engine.Reached values disk root done todo after)
    (hMem : file ∈ todo) : file ∈ engine.templates values disk root := by
  rw [hReached.templates_eq]
  exact List.mem_append_right _ hMem

theorem mem_templates_of_done (hReached : engine.Reached values disk root done todo after)
    (hMem : file ∈ done) : file ∈ engine.templates values disk root := by
  rw [hReached.templates_eq]
  exact List.mem_append_left _ hMem

theorem found (hReached : engine.Reached values disk root done todo after)
    (hMem : file ∈ done) : file.Found :=
  Walk.found_of_mem_visits (hReached.mem_templates_of_done hMem)

theorem pairwise (hReached : engine.Reached values disk root done todo after) :
    (done ++ todo).Pairwise Visited.Precedes := by
  rw [← hReached.templates_eq]
  exact Walk.pairwise_visits

/-- A template that is still to be visited is as it was. -/
theorem content (hReached : engine.Reached values disk root done todo after)
    (hFree : disk.LinkFree) (hMem : file ∈ todo) :
    after.get? file.location = some (.file file.content) := by
  rw [hReached.materialized.kept file.location]
  · exact (Walk.content_of_mem_visits hFree (hReached.mem_templates hMem)).1
  · intro other hOther
    have hOrder := (List.pairwise_append.mp hReached.pairwise).2.2 other hOther file hMem
    exact ⟨hOrder.location_ne, fun hSame =>
      hOrder.output_ne_location engine.suffix_ne (hReached.found hOther) hSame rfl⟩

/-- No folder came or went. -/
theorem folder_iff (hReached : engine.Reached values disk root done todo after)
    (hFree : disk.LinkFree) (location : Location) :
    after.get? location = some .folder ↔ disk.get? location = some .folder := by
  by_cases hOutput :
      ∃ other ∈ done, other.outputLocation? engine.config.suffix = some location
  · obtain ⟨other, hMem, hLocation⟩ := hOutput
    obtain ⟨place, hPlace, hNode⟩ := hReached.materialized.output other hMem
    obtain rfl := Option.some.inj (hPlace.symm.trans hLocation)
    have hBefore := mt (Visited.isBlocked_iff hFree (hReached.found hMem) hLocation).mpr
      (Bool.eq_false_iff.mp (hReached.unblocked other hMem))
    simp [hNode, hBefore]
  · have hNone : ∀ other ∈ done,
        other.outputLocation? engine.config.suffix ≠ some location := fun other hMem hLocation =>
      hOutput ⟨other, hMem, hLocation⟩
    by_cases hTemplate : ∃ other ∈ done, other.location = location
    · obtain ⟨other, hMem, rfl⟩ := hTemplate
      rw [hReached.materialized.removed other hMem hNone,
        (Walk.content_of_mem_visits hFree (hReached.mem_templates_of_done hMem)).1]
      simp
    · rw [hReached.materialized.kept location fun other hMem =>
        ⟨fun hSame => hTemplate ⟨other, hMem, hSame⟩, hNone other hMem⟩]

theorem isBlocked_eq (hReached : engine.Reached values disk root done todo after)
    (hFree : disk.LinkFree) (hMem : file ∈ todo) :
    file.isBlocked engine.config.suffix after = file.isBlocked engine.config.suffix disk := by
  have hFound := Walk.found_of_mem_visits (hReached.mem_templates hMem)
  cases hLocation : file.outputLocation? engine.config.suffix with
  | none => exact Visited.isBlocked_of_nameless after disk hFound hLocation
  | some location =>
      rw [Bool.eq_iff_iff, Visited.isBlocked_iff hReached.linkFree hFound hLocation,
        Visited.isBlocked_iff hFree hFound hLocation]
      exact hReached.folder_iff hFree location

theorem zero (hFree : disk.LinkFree) :
    engine.Reached values disk root [] (engine.templates values disk root) disk :=
  ⟨rfl, fun _ hMem => absurd hMem List.not_mem_nil,
    ⟨fun _ hMem => absurd hMem List.not_mem_nil, fun _ hMem => absurd hMem List.not_mem_nil,
      fun _ _ => rfl⟩, hFree⟩

/-- A pass takes the next template, or is stopped by it. -/
theorem next (hLive : engine.config.dryRun = false) (hFree : disk.LinkFree)
    (progress : Progress Summary)
    (hReached : engine.Reached values disk root done (file :: todo) progress.disk) :
    (file.isBlocked engine.config.suffix disk = true ∧
      ∃ output stopped, file.output? engine.config.suffix = some output ∧
        engine.materializeFile values file progress =
          .error (.disk output.path .isFolder, stopped) ∧ stopped.disk = progress.disk) ∨
    (∃ after, engine.materializeFile values file progress = .ok after ∧
      engine.Reached values disk root (done ++ [file]) todo after.disk ∧
      after.visited = progress.visited ∧
      after.gathered =
        progress.gathered.add (engine.substitute values file.content).count) := by
  have hTemplate := hReached.mem_templates List.mem_cons_self
  have hFound := Walk.found_of_mem_visits hTemplate
  have hSame := hReached.isBlocked_eq hFree List.mem_cons_self
  obtain ⟨output, hOutput⟩ := isSome_output? hFree hTemplate
  rcases materializeFile_cases values hLive hFound hReached.linkFree
    (hReached.content hFree List.mem_cons_self) hOutput with
    ⟨hBlocked, stopped, hError, hDisk⟩ |
      ⟨hBlocked, location, after, hLocation, hAfter, hDisk, hRest⟩
  · rw [hSame] at hBlocked
    exact .inl ⟨hBlocked, output, stopped, hOutput, hError, hDisk⟩
  · rw [hSame] at hBlocked
    refine .inr ⟨after, hAfter, ⟨?_, ?_, ?_, ?_⟩, hRest⟩
    · rw [hReached.templates_eq, List.append_assoc]
      rfl
    · intro other hMem
      rcases List.mem_append.mp hMem with hMem | hMem
      · exact hReached.unblocked other hMem
      · rw [List.mem_singleton.mp hMem]
        exact hBlocked
    · rw [hDisk]
      refine hReached.materialized.snoc ?_ ?_ hLocation
      · intro other hMem
        rcases List.mem_append.mp hMem with hMem | hMem
        · exact hReached.found hMem
        · rw [List.mem_singleton.mp hMem]
          exact hFound
      · have hOrder := hReached.pairwise
        rw [List.append_cons] at hOrder
        exact (List.pairwise_append.mp hOrder).1
    · rw [hDisk]
      exact (hReached.linkFree.put _ _).erase _

theorem takeWhile_eq (hReached : engine.Reached values disk root done todo after) :
    (engine.templates values disk root).takeWhile
        (fun file => !file.isBlocked engine.config.suffix disk) =
      done ++ todo.takeWhile fun file => !file.isBlocked engine.config.suffix disk := by
  rw [hReached.templates_eq]
  exact List.takeWhile_append_of_pos fun other hMem => by simp [hReached.unblocked other hMem]

theorem find?_eq (hReached : engine.Reached values disk root done todo after) :
    (engine.templates values disk root).find? (Visited.isBlocked engine.config.suffix disk) =
      todo.find? (Visited.isBlocked engine.config.suffix disk) := by
  have hNone : done.find? (Visited.isBlocked engine.config.suffix disk) = none :=
    List.find?_eq_none.mpr fun other hMem => by simp [hReached.unblocked other hMem]
  rw [hReached.templates_eq, List.find?_append, hNone, Option.none_or]

end Reached

/-- How the walk of a pass ends: with all templates turned into their outputs, or stopped by the
first whose output is blocked. -/
theorem ends_materialize (values : Values) (hLive : engine.config.dryRun = false)
    (hFree : disk.LinkFree) (hRoot : disk.hasFolder root.address = true) (notices : List Notice) :
    Walk.Ends
      (fun after => ∃ done, engine.Reached values disk root done [] after.disk ∧
        after.visited = done.length ∧
        after.gathered = ⟨0, done.length,
          (done.map fun file => (engine.substitute values file.content).count).sum⟩)
      (fun stopped => ∃ done file todo output,
        engine.Reached values disk root done (file :: todo) stopped.2.disk ∧
        file.isBlocked engine.config.suffix disk = true ∧
        file.output? engine.config.suffix = some output ∧
        stopped.1 = .disk output.path .isFolder)
      (Walk.run ⟨engine.filterFor values, some engine.config.suffix⟩ root
        (engine.materializeFile values) ⟨disk, notices, 0, 0, .zero⟩) := by
  refine Walk.ends_run
    (fun todo after visited gathered => ∃ done,
      engine.Reached values disk root done todo after ∧ visited = done.length ∧
        gathered = ⟨0, done.length,
          (done.map fun file => (engine.substitute values file.content).count).sum⟩)
    _ (engine.careful_materializeFile values) ?_ ⟨disk, notices, 0, 0, .zero⟩ hFree hRoot ?_
  · rintro file todo progress - - - ⟨done, hReached, hVisited, hGathered⟩
    rcases hReached.next hLive hFree { progress with visited := progress.visited + 1 } with
      ⟨hBlocked, output, stopped, hOutput, hError, hDisk⟩ | ⟨after, hAfter, hNext, hCount, hSummary⟩
    · rw [hError]
      refine ⟨done, file, todo, output, ?_, hBlocked, hOutput, rfl⟩
      rw [hDisk]
      exact hReached
    · rw [hAfter]
      refine ⟨done ++ [file], hNext, ?_, ?_⟩
      · rw [hCount, List.length_append]
        exact congrArg (· + 1) hVisited
      · rw [hSummary]
        simp [hGathered, Summary.add]
  · exact ⟨[], Reached.zero hFree, rfl, rfl⟩

/-- A pass on a disk without links turns templates into outputs as they were before it began: its
walk calls for them one by one, with what they held then. It comes to the end unless a folder stands
where an output goes. The first such template ends it, with all in front of it done and nothing else
changed. -/
theorem materialize_as_before (values : Values) (hLive : engine.config.dryRun = false)
    (hFree : disk.LinkFree) (hRoot : disk.hasFolder root.address = true) :
    let templates := engine.templates values disk root
    let isBlocked := Visited.isBlocked engine.config.suffix disk
    let done := templates.takeWhile fun file => !isBlocked file
    let outcome := engine.materialize disk root values
    (∀ file ∈ templates, disk.get? file.location = some (.file file.content)) ∧
    (let start : Progress Summary := ⟨disk,
        [.line .info ("Starting template processing: " ++ Text.quoted root.text)], 0, 0, .zero⟩
      let walked := Walk.run ⟨engine.filterFor values, some engine.config.suffix⟩ root
        (engine.materializeFile values) start
      Walk.Dispatches (engine.materializeFile values) templates start walked ∧
        outcome.disk = diskLeft walked) ∧
    Materialized engine values disk done outcome.disk ∧
    (∀ file ∈ templates.drop done.length,
      outcome.disk.get? file.location = some (.file file.content)) ∧
    (∀ template output cause,
      outcome.result ≠ .error (.halfMaterialized template output cause)) ∧
    match templates.find? isBlocked with
    | none => outcome.result = .ok ⟨templates.length, templates.length,
        (templates.map fun file => (engine.substitute values file.content).count).sum⟩
    | some file => ∃ output, file.output? engine.config.suffix = some output ∧
        outcome.result = .error (.disk output.path .isFolder) := by
  intro templates isBlocked done outcome
  have hDispatches := Walk.dispatches_run_of_careful
    ⟨engine.filterFor values, some engine.config.suffix⟩
    ⟨disk, [.line .info ("Starting template processing: " ++ Text.quoted root.text)], 0, 0, .zero⟩
    (engine.careful_materializeFile values) hFree hRoot
  refine ⟨fun file hMem => (Walk.content_of_mem_visits hFree hMem).1,
    ⟨hDispatches, disk_pass_eq _ _ _ _ _ _ _ _⟩, ?_⟩
  have hEnds := ends_materialize values hLive hFree hRoot
    [.line .info ("Starting template processing: " ++ Text.quoted root.text)]
  simp only [outcome, materialize, pass]
  cases hRun : Walk.run ⟨engine.filterFor values, some engine.config.suffix⟩ root
      (engine.materializeFile values)
      ⟨disk, [.line .info ("Starting template processing: " ++ Text.quoted root.text)], 0, 0,
        .zero⟩ with
  | error stopped =>
      rw [hRun] at hEnds
      obtain ⟨front, file, todo, output, hReached, hBlocked, hOutput, hFault⟩ := hEnds
      have hDone : done = front := by
        rw [show done = _ from hReached.takeWhile_eq,
          List.takeWhile_cons_of_neg (by simp [hBlocked]), List.append_nil]
      have hRest : templates.drop done.length = file :: todo := by
        rw [hDone, show templates = _ from hReached.templates_eq, List.drop_left]
      have hFirst : templates.find? isBlocked = some file := by
        rw [show templates.find? isBlocked = _ from hReached.find?_eq,
          List.find?_cons_of_pos hBlocked]
      rw [hDone, hFirst]
      refine ⟨hReached.materialized, ?_, ?_, output, hOutput, congrArg Except.error hFault⟩
      · rw [← hDone, hRest]
        exact fun other hMem => hReached.content hFree hMem
      · intro template place cause hHalf
        have hStopped : stopped.1 = .halfMaterialized template place cause :=
          Except.error.inj hHalf
        rw [hFault] at hStopped
        cases hStopped
  | ok after =>
      rw [hRun] at hEnds
      obtain ⟨all, hReached, hVisited, hGathered⟩ := hEnds
      have hAll : templates = all := by
        rw [show templates = _ from hReached.templates_eq, List.append_nil]
      have hDone : done = all := hReached.takeWhile_eq.trans (by simp)
      have hNone : templates.find? isBlocked = none := hReached.find?_eq
      rw [hDone, hNone, hAll, List.drop_length]
      refine ⟨hReached.materialized, ?_, ?_, ?_⟩
      · exact fun other hMem => absurd hMem List.not_mem_nil
      · rintro template place cause ⟨⟩
      · show Except.ok (summarize after) = _
        rw [summarize, hGathered, hVisited]

/-- The output of the second template takes the place of the first, and a folder stands in the way
of the third. -/
theorem materialize_as_before_with_doubled_suffix :
    let name (text : String) (proper : Name.isProper text = true) : Name := ⟨text, proper⟩
    let folder := name "r" (by decide)
    let first : Location := [folder, name "a.tpl" (by decide)]
    let second : Location := [folder, name "a.tpl.tpl" (by decide)]
    let third : Location := [folder, name "b.tpl" (by decide)]
    let disk := ((((Disk.empty.put [folder] .folder).put first
      (.file (Text.Utf8.encode "1 [[A]]"))).put second (.file (Text.Utf8.encode "2 [[A]]"))).put
      third (.file (Text.Utf8.encode "3"))).put [folder, name "b" (by decide)] .folder
    let engine : Engine := ⟨{}, 3145728, rfl, by decide, by decide, by decide⟩
    let values : Values := { assignments := [⟨"A", "x"⟩] }
    let done := (engine.templates values disk ⟨"r"⟩).takeWhile fun file =>
      !file.isBlocked engine.config.suffix disk
    let outcome := engine.materialize disk ⟨"r"⟩ values
    engine.config.dryRun = false ∧ disk.LinkFree ∧ disk.hasFolder (Path.address ⟨"r"⟩) = true ∧
    done.map Visited.location = [first, second] ∧
    done.map Visited.content = [Text.Utf8.encode "1 [[A]]", Text.Utf8.encode "2 [[A]]"] ∧
    Materialized engine values disk done outcome.disk ∧
    outcome.disk.get? first = some (.file (Text.Utf8.encode "2 x")) ∧
    outcome.disk.get? third = some (.file (Text.Utf8.encode "3")) ∧
    outcome.result = .error (.disk ⟨"r/b"⟩ .isFolder) := by
  intro name folder first second third disk engine values done outcome
  have hFree : disk.LinkFree := by decide +kernel
  have hRoot : disk.hasFolder (Path.address ⟨"r"⟩) = true := by decide +kernel
  have hDone : done.map Visited.location = [first, second] := by decide +kernel
  have hFirst : ((engine.templates values disk ⟨"r"⟩).find?
      (Visited.isBlocked engine.config.suffix disk)).bind (fun file =>
        (file.output? engine.config.suffix).map Place.path) = some ⟨"r/b"⟩ := by decide +kernel
  obtain ⟨-, -, hMaterialized, -, -, hResult⟩ :=
    materialize_as_before values (rfl : engine.config.dryRun = false) hFree hRoot
  refine ⟨rfl, hFree, hRoot, hDone, by decide +kernel, hMaterialized, by decide +kernel,
    by decide +kernel, ?_⟩
  obtain ⟨file, hFind, hPath⟩ := Option.bind_eq_some_iff.mp hFirst
  obtain ⟨output, hOutput, hEq⟩ := Option.map_eq_some_iff.mp hPath
  rw [hFind] at hResult
  obtain ⟨output', hOutput', hError⟩ := hResult
  obtain rfl := Option.some.inj (hOutput.symm.trans hOutput')
  rw [hError, hEq]

end Pass

end Engine

end Stencil
