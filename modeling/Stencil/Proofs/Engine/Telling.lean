import Stencil.Proofs.Engine.Materialization
import Stencil.Proofs.Walk.Record

/-! What a pass with values has to say of each file that it visits. Live passes and dry runs say the
same of faults and of what was done, and differ where something is written: in its place a dry run
has a line of its own and a preview. -/

namespace Stencil

/-- The report of a write that is left out. -/
def Event.isPreview : Event → Bool
  | .preview _ _ _ => true
  | _ => false

/-- The path that a live pass reports to have written to. -/
def Event.written? : Event → Option Path
  | .replaced path _ => some path
  | .materialized _ output _ => some output
  | _ => none

namespace Notice

theorem events_append (notices more : List Notice) :
    events (notices ++ more) = events notices ++ events more :=
  List.filterMap_append

theorem events_line (level : Level) (text : String) : events [.line level text] = [] := rfl

end Notice

namespace Engine

open Substitution
open Walk (Progress Visited Waypoint Tells)

/-- The same engine, for dry runs or for live ones. -/
def withDryRun (engine : Engine) (dryRun : Bool) : Engine :=
  ⟨{ engine.config with dryRun }, engine.sizeLimit, engine.sizeLimit_eq, engine.opening_ne,
    engine.closing_ne, engine.suffix_ne⟩

/-- What a pass writes for a file: where, and what. -/
structure Write where
  file : Visited
  output : Place
  content : Bytes

namespace Write

def preview (write : Write) : Event :=
  Engine.preview write.output.path write.file.content write.content

def location? (write : Write) : Option Location := write.output.address.entry?

end Write

variable {engine : Engine} {values : Values}

section Files

variable (engine values)

/-- A file in which something is replaced is written to where it is. -/
def replaceWrite? (file : Visited) : Option Write :=
  let result := engine.substitute values file.content
  if result.isChanged then some ⟨file, file.place, result.content⟩ else none

/-- A template is written to where its output goes. -/
def materializeWrite? (file : Visited) : Option Write :=
  (file.output? engine.config.suffix).map fun output =>
    ⟨file, output, (engine.substitute values file.content).content⟩

/-- What is said of a file in which values are put in place. -/
def replaceTold (file : Visited) : List Notice :=
  let path := file.place.path
  let result := engine.substitute values file.content
  let writing :=
    if engine.config.dryRun then
      [.line .debug ("Would update contents of: " ++ Text.quoted path.text),
        .report (preview path file.content result.content)]
    else [.line .debug ("Updating contents of: " ++ Text.quoted path.text)]
  faultReports path result ++
    if result.isChanged then writing ++ [.report (.replaced path result.count)] else []

def replaceGathered (summary : Summary) (file : Visited) : Summary :=
  let result := engine.substitute values file.content
  if result.isChanged then summary.add result.count else summary

/-- What is said of a template that is turned into its output. -/
def materializeTold (file : Visited) : List Notice :=
  match file.output? engine.config.suffix with
  | none => []
  | some output =>
      let path := file.place.path
      let result := engine.substitute values file.content
      let ends := Text.quoted path.text ++ " -> " ++ Text.quoted output.path.text
      let writing :=
        if engine.config.dryRun then
          [.line .debug ("Would process template: " ++ ends),
            .report (preview output.path file.content result.content)]
        else [.line .debug ("Materialized " ++ ends)]
      faultReports path result ++ writing ++
        [.report (.materialized path output.path result.count)]

def materializeGathered (summary : Summary) (file : Visited) : Summary :=
  match file.output? engine.config.suffix with
  | none => summary
  | some _ => summary.add (engine.substitute values file.content).count

end Files

theorem tells_replaceFile (engine : Engine) (values : Values) :
    Tells (engine.replaceFile values) (engine.replaceTold values)
      (engine.replaceGathered values) := by
  intro file progress after hVisit
  simp only [replaceFile] at hVisit
  simp only [replaceTold, replaceGathered]
  cases hChanged : (engine.substitute values file.content).isChanged with
  | false =>
      simp only [hChanged] at hVisit
      cases hVisit
      simp
  | true =>
      cases hDry : engine.config.dryRun with
      | true =>
          simp only [hChanged, hDry] at hVisit
          cases hVisit
          simp [Progress.report, Progress.say]
      | false =>
          simp only [hChanged, hDry, Progress.say] at hVisit
          cases hWrite : progress.disk.write file.place.address
              (engine.substitute values file.content).content with
          | error cause => simp [hWrite] at hVisit
          | ok disk =>
              simp only [hWrite] at hVisit
              cases hVisit
              simp [Progress.report]

theorem tells_materializeFile (engine : Engine) (values : Values) :
    Tells (engine.materializeFile values) (engine.materializeTold values)
      (engine.materializeGathered values) := by
  intro file progress after hVisit
  simp only [materializeFile] at hVisit
  simp only [materializeTold, materializeGathered, Visited.output?]
  cases hOutput : Template.output? file.place file.name engine.config.suffix with
  | none =>
      simp only [hOutput] at hVisit
      cases hVisit
      simp
  | some output =>
      cases hDry : engine.config.dryRun with
      | true =>
          simp only [hOutput, hDry] at hVisit
          cases hVisit
          simp [Progress.report, Progress.say]
      | false =>
          simp only [hOutput, hDry] at hVisit
          cases hWrite : Template.materialize progress.disk file.place output
              (engine.substitute values file.content).content with
          | error stopped => simp [hWrite] at hVisit
          | ok disk =>
              simp only [hWrite] at hVisit
              cases hVisit
              simp [Progress.report, Progress.say]

/-- In a dry run no visit fails, and none changes the disk. -/
theorem exists_replaceFile_dry (values : Values) (hDry : engine.config.dryRun = true)
    (file : Visited) (progress : Progress Summary) :
    ∃ after, engine.replaceFile values file progress = .ok after ∧ after.disk = progress.disk := by
  simp only [replaceFile, hDry, if_true]
  split
  · exact ⟨_, rfl, rfl⟩
  · exact ⟨_, rfl, rfl⟩

theorem exists_materializeFile_dry (values : Values) (hDry : engine.config.dryRun = true)
    (file : Visited) (progress : Progress Summary) :
    ∃ after, engine.materializeFile values file progress = .ok after ∧
      after.disk = progress.disk := by
  simp only [materializeFile, hDry, if_true]
  split
  · exact ⟨_, rfl, rfl⟩
  · exact ⟨_, rfl, rfl⟩

/-- What is said in a dry run beside what is said in a live one, about the same writes. -/
structure Foretells (write? : Visited → Option Write) (live dry : Visited → List Notice) :
    Prop where
  events : ∀ file, (Notice.events (dry file)).filter (fun event => !event.isPreview) =
    Notice.events (live file)
  previews : ∀ file, (Notice.events (dry file)).filter Event.isPreview =
    ((write? file).map Write.preview).toList
  written : ∀ file, (Notice.events (live file)).filterMap Event.written? =
    ((write? file).map fun write => write.output.path).toList

/-- Faults are neither previews nor writes. -/
theorem events_faultReports (path : Path) (result : Substituted) :
    (Notice.events (faultReports path result)).filter (fun event => !event.isPreview) =
        Notice.events (faultReports path result) ∧
      (Notice.events (faultReports path result)).filter Event.isPreview = [] ∧
      (Notice.events (faultReports path result)).filterMap Event.written? = [] := by
  have hFault : ∀ event ∈ Notice.events (faultReports path result),
      event.isPreview = false ∧ event.written? = none := by
    intro event hEvent
    obtain ⟨notice, hNotice, hReport⟩ := List.mem_filterMap.mp hEvent
    obtain ⟨⟨body, fault⟩, -, rfl⟩ := List.mem_map.mp hNotice
    cases hReport
    exact ⟨rfl, rfl⟩
  refine ⟨List.filter_eq_self.mpr fun event hEvent => ?_, List.filter_eq_nil_iff.mpr ?_,
    List.filterMap_eq_nil_iff.mpr fun event hEvent => (hFault event hEvent).2⟩
  · rw [(hFault event hEvent).1]
    rfl
  · intro event hEvent
    rw [(hFault event hEvent).1]
    exact Bool.false_ne_true

theorem foretells_replace (engine : Engine) (values : Values) :
    Foretells (engine.replaceWrite? values) ((engine.withDryRun false).replaceTold values)
      ((engine.withDryRun true).replaceTold values) := by
  have hSame (dryRun : Bool) (file : Visited) :
      (engine.withDryRun dryRun).substitute values file.content =
        engine.substitute values file.content := rfl
  have hDry (dryRun : Bool) : (engine.withDryRun dryRun).config.dryRun = dryRun := rfl
  refine ⟨fun file => ?_, fun file => ?_, fun file => ?_⟩
  all_goals
    obtain ⟨hEvents, hPreviews, hWritten⟩ :=
      events_faultReports file.place.path (engine.substitute values file.content)
    simp only [replaceTold, replaceWrite?, hSame, hDry, Notice.events_append, List.filter_append,
      List.filterMap_append, hEvents, hPreviews, hWritten]
    cases (engine.substitute values file.content).isChanged <;> rfl

theorem foretells_materialize (engine : Engine) (values : Values) :
    Foretells (engine.materializeWrite? values) ((engine.withDryRun false).materializeTold values)
      ((engine.withDryRun true).materializeTold values) := by
  have hSame (dryRun : Bool) (file : Visited) :
      (engine.withDryRun dryRun).substitute values file.content =
        engine.substitute values file.content := rfl
  have hDry (dryRun : Bool) : (engine.withDryRun dryRun).config.dryRun = dryRun := rfl
  have hSuffix (dryRun : Bool) :
      (engine.withDryRun dryRun).config.suffix = engine.config.suffix := rfl
  refine ⟨fun file => ?_, fun file => ?_, fun file => ?_⟩
  all_goals
    obtain ⟨hEvents, hPreviews, hWritten⟩ :=
      events_faultReports file.place.path (engine.substitute values file.content)
    simp only [materializeTold, materializeWrite?, hSame, hDry, hSuffix]
    cases file.output? engine.config.suffix with
    | none => rfl
    | some output =>
        simp only [Notice.events_append, List.filter_append, List.filterMap_append, hEvents,
          hPreviews, hWritten, List.append_assoc]
        rfl

/-- Neither is anything that a walk says itself. -/
theorem events_said (point : Waypoint) :
    (Notice.events point.said).filter (fun event => !event.isPreview) =
        Notice.events point.said ∧
      (Notice.events point.said).filter Event.isPreview = [] ∧
      (Notice.events point.said).filterMap Event.written? = [] := by
  cases point with
  | names path location listing => exact ⟨rfl, rfl, rfl⟩
  | entry path relative location name verdict => cases verdict <;> exact ⟨rfl, rfl, rfl⟩

theorem Foretells.flatMap {write? : Visited → Option Write} {live dry : Visited → List Notice}
    (hForetells : Foretells write? live dry) (links : Nat) (points : List Waypoint) :
    let writes := (points.filterMap (Waypoint.visited? links)).filterMap write?
    let liveEvents := Notice.events (points.flatMap (Waypoint.told live links))
    let dryEvents := Notice.events (points.flatMap (Waypoint.told dry links))
    dryEvents.filter (fun event => !event.isPreview) = liveEvents ∧
      dryEvents.filter Event.isPreview = writes.map Write.preview ∧
      liveEvents.filterMap Event.written? = writes.map fun write => write.output.path := by
  induction points with
  | nil => exact ⟨rfl, rfl, rfl⟩
  | cons point points ih =>
      obtain ⟨hEvents, hPreviews, hWritten⟩ := ih
      simp only [List.flatMap_cons, Notice.events_append, List.filter_append,
        List.filterMap_append, hEvents, hPreviews, hWritten]
      cases hVisited : point.visited? links with
      | none =>
          obtain ⟨hEvents, hPreviews, hWritten⟩ := events_said point
          rw [List.filterMap_cons_none hVisited]
          simp only [Waypoint.told, hVisited, hEvents, hPreviews, hWritten, List.nil_append,
            and_self]
      | some file =>
          rw [List.filterMap_cons_some hVisited]
          simp only [Waypoint.told, hVisited, hForetells.events, hForetells.previews,
            hForetells.written, List.filterMap_cons]
          cases write? file <;> simp

end Engine

end Stencil
