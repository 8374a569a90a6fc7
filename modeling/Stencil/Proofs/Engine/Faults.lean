import Stencil.Proofs.Engine.Counting
import Stencil.Proofs.Engine.DryRun

/-! What a pass with values reports of bodies that cannot be read: each fault of each file that it
visits, in the order in which the walk comes to the files and each file's faults are found. -/

namespace Stencil.Engine

open Substitution
open Walk (Progress Visited Waypoint Tells)

variable {engine : Engine} {values : Values}

/-- The reports on the faults of a file: its path, the body with replacement characters where it is
no text, and what is wrong with it. -/
def faultsIn (engine : Engine) (values : Values) (file : Visited) : List Event :=
  (engine.substitute values file.content).faults.map fun (body, fault) =>
    .tokenError file.place.path (Text.Utf8.decodeLossy body) fault.message

/-- Each fault is reported, in their order, and nothing else is. -/
theorem events_faultReports_eq (file : Visited) :
    Notice.events (faultReports file.place.path (engine.substitute values file.content)) =
      engine.faultsIn values file := by
  rw [Notice.events, faultReports, List.filterMap_map]
  exact congrFun List.filterMap_eq_map _

theorem filter_faultsIn (file : Visited) :
    (engine.faultsIn values file).filter Event.isTokenError = engine.faultsIn values file := by
  refine List.filter_eq_self.mpr fun event hEvent => ?_
  obtain ⟨⟨body, fault⟩, -, rfl⟩ := List.mem_map.mp hEvent
  rfl

/-- A file in place tells of its faults whether or not anything is written to it. -/
theorem tokenErrors_replaceTold (file : Visited) :
    (Notice.events (engine.replaceTold values file)).filter Event.isTokenError =
      engine.faultsIn values file := by
  rw [replaceTold, Notice.events_append, List.filter_append, events_faultReports_eq,
    filter_faultsIn]
  split
  · split <;> exact List.append_nil _
  · exact List.append_nil _

theorem tokenErrors_materializeTold {file : Visited} {output : Place}
    (hOutput : file.output? engine.config.suffix = some output) :
    (Notice.events (engine.materializeTold values file)).filter Event.isTokenError =
      engine.faultsIn values file := by
  rw [materializeTold, hOutput]
  simp only [Notice.events_append, List.filter_append, events_faultReports_eq, filter_faultsIn]
  split <;> simp [Notice.events, Notice.event?, Event.isTokenError, preview]

/-- A walk has no faults to tell of itself. -/
theorem tokenErrors_said (point : Waypoint) :
    (Notice.events point.said).filter Event.isTokenError = [] := by
  cases point with
  | names path location listing => rfl
  | entry path relative location name verdict => cases verdict <;> rfl

/-- Along a walk the faults are told file by file. By induction on the points of the walk, of which
only visits tell of faults. -/
theorem tokenErrors_flatMap {tell : Visited → List Notice} {errors : Visited → List Event}
    (links : Nat) {points : List Waypoint}
    (hErrors : ∀ file ∈ points.filterMap (Waypoint.visited? links),
      (Notice.events (tell file)).filter Event.isTokenError = errors file) :
    (Notice.events (points.flatMap (Waypoint.told tell links))).filter Event.isTokenError =
      (points.filterMap (Waypoint.visited? links)).flatMap errors := by
  induction points with
  | nil => rfl
  | cons point points ih =>
      rw [List.flatMap_cons, Notice.events_append, List.filter_append]
      cases hVisited : point.visited? links with
      | none =>
          rw [List.filterMap_cons_none hVisited] at hErrors ⊢
          rw [ih hErrors, Waypoint.told, hVisited]
          exact congrArg (· ++ _) (tokenErrors_said point)
      | some file =>
          rw [List.filterMap_cons_some hVisited] at hErrors ⊢
          obtain ⟨hHere, hLater⟩ := List.forall_mem_cons.mp hErrors
          rw [ih hLater, Waypoint.told, hVisited, List.flatMap_cons]
          exact congrArg (· ++ _) hHere

section Pass

variable {disk : Disk} {root : Path} {summary : Summary}

theorem tokenErrors_pass {plan : Walk.Plan} {opened : String} {closed : Summary → String}
    {visit : Visited → Progress Summary → Walk.Result Summary} {tell : Visited → List Notice}
    {gather : Summary → Visited → Summary} {errors : Visited → List Event}
    (hTells : Tells visit tell gather) (hCareful : Walk.Careful visit) (hFree : disk.LinkFree)
    (hErrors : ∀ file ∈ Walk.visits plan disk root,
      (Notice.events (tell file)).filter Event.isTokenError = errors file)
    (hResult : (pass plan disk root opened .zero visit summarize closed).result = .ok summary) :
    (Notice.events (pass plan disk root opened .zero visit summarize closed).notices).filter
        Event.isTokenError = (Walk.visits plan disk root).flatMap errors := by
  obtain ⟨folder, links, after, hRoot, hRun⟩ := exists_of_result hResult
  obtain ⟨hEvents, -⟩ := pass_of_run opened closed hTells hRoot
    (Walk.undisturbed_of_careful hCareful Walk.pairwise_itinerary) hFree hRun
  simp only [Walk.visits, hRoot] at hErrors ⊢
  rw [hEvents, tokenErrors_flatMap links hErrors]

/-- A pass in place that comes to the end has reported the faults of its files, and no others. -/
theorem tokenErrors_replace (values : Values) (hFree : disk.LinkFree)
    (hResult : (engine.replace disk root values).result = .ok summary) :
    (Notice.events (engine.replace disk root values).notices).filter Event.isTokenError =
      (engine.files values disk root).flatMap (engine.faultsIn values) :=
  tokenErrors_pass (engine.tells_replaceFile values) (engine.careful_replaceFile values) hFree
    (fun file _ => tokenErrors_replaceTold file) hResult

/-- A pass over templates that comes to the end has reported the faults of the templates, and no
others. -/
theorem tokenErrors_materialize (values : Values) (hFree : disk.LinkFree)
    (hResult : (engine.materialize disk root values).result = .ok summary) :
    (Notice.events (engine.materialize disk root values).notices).filter Event.isTokenError =
      (engine.templates values disk root).flatMap (engine.faultsIn values) := by
  refine tokenErrors_pass (engine.tells_materializeFile values)
    (engine.careful_materializeFile values) hFree (fun file hMem => ?_) hResult
  obtain ⟨output, hOutput⟩ := isSome_output? hFree hMem
  exact tokenErrors_materializeTold hOutput

end Pass

end Stencil.Engine
