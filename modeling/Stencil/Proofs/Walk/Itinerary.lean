import Stencil.Walk

/-! The itinerary of a walk: all that a walk of an unchanging disk looks at, in order. A walk
whose visitor changes the disk still follows the itinerary of the disk it began with, as long as
no step changes what a later one looks at. Nothing is said here about which visitors are so
careful. -/

namespace Stencil.Walk

variable {β : Type}

/-- The verdict on an entry, its paths got from those of the folder. -/
def Plan.look (plan : Plan) (disk : Disk) (links : Nat) (path relative : Path)
    (folder : Location) (name : Name) : Verdict :=
  plan.judge disk folder links name (path.join name.text) (relative.join name.text)

/-- One look of a walk at the disk: at the names in a folder, or at one of them, with what was
seen there. The paths are those of the folder. -/
inductive Waypoint
  | names (path : Path) (location : Location) (listing : List Name)
  | entry (path relative : Path) (location : Location) (name : Name) (verdict : Verdict)

namespace Waypoint

/-- A disk shows at a waypoint what was seen there. -/
def Holds (plan : Plan) (links : Nat) (disk : Disk) : Waypoint → Prop
  | names _ location listing => disk.listing location = listing
  | entry path relative location name verdict =>
      plan.look disk links path relative location name = verdict

/-- What a walk does at a waypoint. -/
def step (visit : Visited → Progress β → Result β) (links : Nat) (progress : Progress β) :
    Waypoint → Result β
  | names path _ _ => .ok (announce path progress)
  | entry path relative location name verdict =>
      settle visit (path.join name.text) (relative.join name.text) location links name progress
        verdict

/-- The file that is visited at a waypoint, if any. -/
def visited? (links : Nat) : Waypoint → Option Visited
  | entry path relative location name (.visit content) =>
      some ⟨⟨path.join name.text, location, [.enter name], links⟩, name,
        relative.join name.text, content⟩
  | _ => none

end Waypoint

/-- All waypoints from the folder at `folder` on. Its entries come before what lies in the
folders among them. -/
def itinerary (plan : Plan) (disk : Disk) (links : Nat) :
    Nat → Path → Path → Location → List Waypoint
  | 0, _, _, _ => []
  | height + 1, path, relative, folder =>
      let names := disk.listing folder
      let seen := plan.look disk links path relative folder
      .names path folder names ::
        ((names.map fun name => .entry path relative folder name (seen name)) ++
          (names.filter fun name => seen name = .folder).flatMap fun name =>
            itinerary plan disk links height (path.join name.text) (relative.join name.text)
              (folder ++ [name]))

/-- The files that a walk of an unchanging disk visits, in order. -/
def visits (plan : Plan) (disk : Disk) (root : Path) : List Visited :=
  match disk.enter root.address with
  | .error _ => []
  | .ok (folder, links) =>
      (itinerary plan disk links (disk.depth + 1) root ⟨""⟩ folder).filterMap
        (Waypoint.visited? links)

theorem holds_of_mem_itinerary {plan : Plan} {disk : Disk} {links height : Nat}
    {path relative : Path} {folder : Location} {point : Waypoint}
    (hMem : point ∈ itinerary plan disk links height path relative folder) :
    point.Holds plan links disk := by
  induction height generalizing path relative folder with
  | zero => exact absurd hMem List.not_mem_nil
  | succ height ih =>
      rcases List.mem_cons.mp hMem with rfl | hMem
      · rfl
      · rcases List.mem_append.mp hMem with hEntry | hBelow
        · obtain ⟨name, _, rfl⟩ := List.mem_map.mp hEntry
          rfl
        · obtain ⟨name, _, hInner⟩ := List.mem_flatMap.mp hBelow
          exact ih hInner

section Following

variable (plan : Plan) (visit : Visited → Progress β → Result β) (links : Nat)
  (Sound : Disk → Prop)

/-- The disk is sound, and shows at each waypoint what was seen there. -/
def Ready (points : List Waypoint) (disk : Disk) : Prop :=
  Sound disk ∧ ∀ point ∈ points, point.Holds plan links disk

/-- No step along the way changes what a later one looks at. -/
def Undisturbed : List Waypoint → Prop
  | [] => True
  | point :: rest =>
      (∀ progress after, Ready plan links Sound (point :: rest) progress.disk →
        point.step visit links progress = .ok after → Ready plan links Sound rest after.disk) ∧
      Undisturbed rest

variable {plan visit links Sound}

theorem Undisturbed.of_append {front back : List Waypoint}
    (hPoints : Undisturbed plan visit links Sound (front ++ back)) :
    Undisturbed plan visit links Sound back := by
  induction front with
  | nil => exact hPoints
  | cons point front ih => exact ih hPoints.2

/-- What was taken in good order leaves the rest in good order. -/
theorem ready_of_foldlM {front back : List Waypoint} {progress after : Progress β}
    (hPoints : Undisturbed plan visit links Sound (front ++ back))
    (hReady : Ready plan links Sound (front ++ back) progress.disk)
    (hRun : front.foldlM (Waypoint.step visit links) progress = .ok after) :
    Ready plan links Sound back after.disk := by
  induction front generalizing progress with
  | nil =>
      cases hRun
      exact hReady
  | cons point front ih =>
      rw [List.foldlM_cons] at hRun
      cases hStep : point.step visit links progress with
      | error stopped =>
          rw [hStep] at hRun
          cases hRun
      | ok next =>
          rw [hStep] at hRun
          exact ih hPoints.2 (hPoints.1 progress next hReady hStep) hRun

/-- Dealing with the entries of a folder is following their waypoints. The folders among them
are gathered on the way. -/
theorem foldlM_entry {path relative : Path} {folder : Location} {names : List Name}
    {seen : Name → Verdict} {rest : List Waypoint} {progress : Progress β}
    {folders : List Name}
    (hPoints : Undisturbed plan visit links Sound
      ((names.map fun name => .entry path relative folder name (seen name)) ++ rest))
    (hReady : Ready plan links Sound
      ((names.map fun name => .entry path relative folder name (seen name)) ++ rest)
      progress.disk) :
    names.foldlM (entry plan visit path relative folder links) (progress, folders) =
      ((names.map fun name => Waypoint.entry path relative folder name (seen name)).foldlM
        (Waypoint.step visit links) progress).map
        fun progress => (progress, folders ++ names.filter fun name => seen name = .folder) := by
  induction names generalizing progress folders with
  | nil => simp [Except.map, pure, Except.pure]
  | cons name names ih =>
      have hSeen : plan.judge progress.disk folder links name (path.join name.text)
          (relative.join name.text) = seen name :=
        hReady.2 (.entry path relative folder name (seen name)) List.mem_cons_self
      rw [List.foldlM_cons, List.map_cons, List.foldlM_cons]
      simp only [entry, hSeen, Waypoint.step]
      cases hStep : settle visit (path.join name.text) (relative.join name.text) folder links name
          progress (seen name) with
      | error stopped => rfl
      | ok next =>
          have hNext := hPoints.1 progress next hReady hStep
          refine (ih hPoints.2 hNext).trans ?_
          by_cases hFolder : seen name = .folder <;> simp [hFolder, bind, Except.bind]

/-- Going over folders one after the other is following their waypoints one after the other, if
that is so for each of them. -/
theorem foldlM_flatMap {names : List Name} {points : Name → List Waypoint}
    {enter : Progress β → Name → Result β} {rest : List Waypoint} {progress : Progress β}
    (hEnter : ∀ name rest progress, Undisturbed plan visit links Sound (points name ++ rest) →
      Ready plan links Sound (points name ++ rest) progress.disk →
      enter progress name = (points name).foldlM (Waypoint.step visit links) progress)
    (hPoints : Undisturbed plan visit links Sound (names.flatMap points ++ rest))
    (hReady : Ready plan links Sound (names.flatMap points ++ rest) progress.disk) :
    names.foldlM enter progress =
      (names.flatMap points).foldlM (Waypoint.step visit links) progress := by
  induction names generalizing progress with
  | nil => rfl
  | cons name names ih =>
      rw [List.flatMap_cons, List.append_assoc] at hPoints hReady
      rw [List.foldlM_cons, List.flatMap_cons, List.foldlM_append,
        hEnter name _ progress hPoints hReady]
      cases hRun : (points name).foldlM (Waypoint.step visit links) progress with
      | error stopped => rfl
      | ok next => exact ih hPoints.of_append (ready_of_foldlM hPoints hReady hRun)

/-- A walk follows the itinerary as long as no step changes what a later one looks at. -/
theorem level_eq_foldlM {disk : Disk} {height : Nat} {path relative : Path} {folder : Location}
    {rest : List Waypoint} {progress : Progress β}
    (hPoints : Undisturbed plan visit links Sound
      (itinerary plan disk links height path relative folder ++ rest))
    (hReady : Ready plan links Sound
      (itinerary plan disk links height path relative folder ++ rest) progress.disk) :
    level plan visit links height path relative folder progress =
      (itinerary plan disk links height path relative folder).foldlM
        (Waypoint.step visit links) progress := by
  induction height generalizing path relative folder rest progress with
  | zero => rfl
  | succ height ih =>
      rw [itinerary, List.cons_append, List.append_assoc] at hPoints hReady
      have hListing : (announce path progress).disk.listing folder = disk.listing folder :=
        hReady.2 _ List.mem_cons_self
      have hEntries := hPoints.1 progress (announce path progress) hReady rfl
      rw [level, itinerary, List.foldlM_cons, hListing]
      simp only [foldlM_entry hPoints.2 hEntries, Waypoint.step, bind, Except.bind,
        List.foldlM_append]
      cases hRun : ((disk.listing folder).map fun name => Waypoint.entry path relative folder name
          (plan.look disk links path relative folder name)).foldlM (Waypoint.step visit links)
          (announce path progress) with
      | error stopped => rfl
      | ok next =>
          refine foldlM_flatMap ?_ hPoints.2.of_append (ready_of_foldlM hPoints.2 hEntries hRun)
          intro name rest progress hBelow hNext
          exact ih hBelow hNext

/-- A walk through the folder that a path leads to, as long as no step changes what a later one
looks at. -/
theorem run_eq {disk : Disk} {root : Path} {folder : Location} {progress : Progress β}
    (hDisk : progress.disk = disk) (hSound : Sound disk)
    (hRoot : disk.enter root.address = .ok (folder, links))
    (hPoints : Undisturbed plan visit links Sound
      (itinerary plan disk links (disk.depth + 1) root ⟨""⟩ folder)) :
    run plan root visit progress =
      ((itinerary plan disk links (disk.depth + 1) root ⟨""⟩ folder).foldlM
        (Waypoint.step visit links) progress).map (completed root) := by
  subst hDisk
  rw [← List.append_nil (itinerary _ _ _ _ _ _ _)] at hPoints
  have hReady : Ready plan links Sound
      (itinerary plan progress.disk links (progress.disk.depth + 1) root ⟨""⟩ folder ++ [])
      progress.disk := by
    refine ⟨hSound, fun point hMem => ?_⟩
    rw [List.append_nil] at hMem
    exact holds_of_mem_itinerary hMem
  rw [run, hRoot]
  simp only [level_eq_foldlM hPoints hReady]

end Following

end Stencil.Walk
