import Stencil.Proofs.Walk.Careful

/-! What a walk leaves on record, told by its itinerary. At each waypoint either the visitor says
what it has to say of a file, or the walk says itself what it comes across. So two walks with the
same itinerary differ on record in what their visitors say, and in nothing else. -/

namespace Stencil.Walk

variable {β : Type}

/-- What a walk says itself of an entry. -/
def Verdict.said (path : Path) : Verdict → List Notice
  | .dangling => [.line .debug ("Skipping dangling symlink: " ++ Text.quoted path.text)]
  | .linkedFolder | .ignoredFolder | .ignoredFile => [.report (.ignored path)]
  | .skippedFolder => [.line .debug ("Skipping directory: " ++ Text.quoted path.text)]
  | .folder | .unsuffixed | .visit _ => []
  | .tooLarge size limit => [.report (.sizeExceeded path size limit)]
  | .binary => [.report (.binarySkipped path)]

/-- Whether an entry is counted as passed over. -/
def Verdict.isSkip : Verdict → Bool
  | .ignoredFile | .tooLarge _ _ | .binary => true
  | _ => false

namespace Waypoint

/-- What a walk says itself at a waypoint. -/
def said : Waypoint → List Notice
  | names path _ _ => [.line .debug ("Processing directory: " ++ Text.quoted path.text)]
  | entry path _ _ name verdict => verdict.said (path.join name.text)

def isSkip : Waypoint → Bool
  | names _ _ _ => false
  | entry _ _ _ _ verdict => verdict.isSkip

/-- What is put on record at a waypoint by the walk or by its visitor. -/
def told (tell : Visited → List Notice) (links : Nat) (point : Waypoint) : List Notice :=
  match point.visited? links with
  | some file => tell file
  | none => point.said

end Waypoint

/-- A visitor that says of each file what `tell` says and gathers as `gather` does, unless it stops
the walk. -/
def Tells (visit : Visited → Progress β → Result β) (tell : Visited → List Notice)
    (gather : β → Visited → β) : Prop :=
  ∀ file progress after, visit file progress = .ok after →
    after =
      { progress with
        disk := after.disk
        notices := progress.notices ++ tell file
        gathered := gather progress.gathered file }

/-- How far a walk has come behind some waypoints, but for the disk. -/
structure Recorded (tell : Visited → List Notice) (gather : β → Visited → β) (links : Nat)
    (points : List Waypoint) (before after : Progress β) : Prop where
  notices_eq : after.notices = before.notices ++ points.flatMap (Waypoint.told tell links)
  visited_eq : after.visited =
    before.visited + (points.filterMap (Waypoint.visited? links)).length
  skipped_eq : after.skipped = before.skipped + points.countP Waypoint.isSkip
  gathered_eq : after.gathered =
    (points.filterMap (Waypoint.visited? links)).foldl gather before.gathered

/-- At a waypoint without a visit a walk only says what there is to say. -/
theorem step_eq_of_visited?_eq_none (visit : Visited → Progress β → Result β) (links : Nat)
    (progress : Progress β) {point : Waypoint} (hVisited : point.visited? links = none) :
    point.step visit links progress = .ok
      { progress with
        notices := progress.notices ++ point.said
        skipped := progress.skipped + if point.isSkip then 1 else 0 } := by
  have hNothing : progress = { progress with notices := progress.notices ++ [] } := by
    rw [List.append_nil]
  cases point with
  | names path location listing => rfl
  | entry path relative location name verdict =>
      cases verdict with
      | visit content => cases hVisited
      | folder | unsuffixed => exact congrArg Except.ok hNothing
      | _ => rfl

section Recording

variable {visit : Visited → Progress β → Result β} {tell : Visited → List Notice}
  {gather : β → Visited → β} {links : Nat}

theorem isSkip_of_visited? {point : Waypoint} {file : Visited}
    (hVisited : point.visited? links = some file) : point.isSkip = false := by
  obtain ⟨path, relative, rfl, -⟩ := Waypoint.eq_entry_of_visited? hVisited
  rfl

theorem recorded_step (hTells : Tells visit tell gather) {point : Waypoint}
    {progress after : Progress β} (hStep : point.step visit links progress = .ok after) :
    Recorded tell gather links [point] progress after := by
  cases hVisited : point.visited? links with
  | none =>
      rw [step_eq_of_visited?_eq_none visit links progress hVisited] at hStep
      cases hStep
      exact ⟨by simp [Waypoint.told, hVisited], by simp [hVisited], by simp [List.countP_cons],
        by simp [hVisited]⟩
  | some file =>
      rw [step_of_visited? hVisited] at hStep
      rw [hTells file _ after hStep]
      exact ⟨by simp [Waypoint.told, hVisited], by simp [hVisited],
        by simp [isSkip_of_visited? hVisited], by simp [hVisited]⟩

theorem Recorded.append {front back : List Waypoint} {before middle after : Progress β}
    (hFront : Recorded tell gather links front before middle)
    (hBack : Recorded tell gather links back middle after) :
    Recorded tell gather links (front ++ back) before after := by
  refine ⟨?_, ?_, ?_, ?_⟩
  · rw [hBack.notices_eq, hFront.notices_eq, List.flatMap_append, List.append_assoc]
  · rw [hBack.visited_eq, hFront.visited_eq, List.filterMap_append, List.length_append,
      Nat.add_assoc]
  · rw [hBack.skipped_eq, hFront.skipped_eq, List.countP_append, Nat.add_assoc]
  · rw [hBack.gathered_eq, hFront.gathered_eq, List.filterMap_append, List.foldl_append]

theorem recorded_foldlM (hTells : Tells visit tell gather) {points : List Waypoint}
    {progress after : Progress β}
    (hRun : points.foldlM (m := Run β) (Waypoint.step visit links) progress = .ok after) :
    Recorded tell gather links points progress after := by
  induction points generalizing progress with
  | nil =>
      cases hRun
      exact ⟨(List.append_nil _).symm, rfl, rfl, rfl⟩
  | cons point rest ih =>
      rw [List.foldlM_cons] at hRun
      cases hStep : point.step visit links progress with
      | error stopped =>
          rw [hStep] at hRun
          cases hRun
      | ok next =>
          rw [hStep] at hRun
          exact (recorded_step hTells hStep).append (ih hRun)

/-- A walk that no step disturbs leaves on record what there is to say at its waypoints. -/
theorem recorded_run {plan : Plan} {Sound : Disk → Prop} {root : Path} {folder : Location}
    {progress after : Progress β} (hTells : Tells visit tell gather)
    (hSound : Sound progress.disk)
    (hRoot : progress.disk.enter root.address = .ok (folder, links))
    (hPoints : Undisturbed plan visit links Sound
      (itinerary plan progress.disk links (progress.disk.depth + 1) root ⟨""⟩ folder))
    (hRun : run plan root visit progress = .ok after) :
    ∃ last,
      Recorded tell gather links
        (itinerary plan progress.disk links (progress.disk.depth + 1) root ⟨""⟩ folder) progress
        last ∧
      after = completed root last := by
  rw [run_eq rfl hSound hRoot hPoints] at hRun
  cases hWalk : (itinerary plan progress.disk links (progress.disk.depth + 1) root ⟨""⟩
      folder).foldlM (m := Run β) (Waypoint.step visit links) progress with
  | error stopped =>
      rw [hWalk] at hRun
      cases hRun
  | ok last =>
      rw [hWalk] at hRun
      exact ⟨last, recorded_foldlM hTells hWalk, (Except.ok.inj hRun).symm⟩

end Recording

end Stencil.Walk
