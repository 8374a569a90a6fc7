import Stencil.SizeLimit
import Stencil.Substitution.Literal
import Stencil.Substitution.Tokenized
import Stencil.Survey
import Stencil.Walk

/-!
Passes over a folder: counting placeholders, replacing them in place, and turning templates
into their outputs. An engine is a configuration that was checked. A dry run reports what
it would write and leaves the disk as it is.
-/

namespace Stencil

/-- How values are put in place: by parsed placeholders, or by literal keys. -/
inductive Strategy
  | tokenized
  | literal
  deriving DecidableEq, Repr

def Strategy.label : Strategy → String
  | tokenized => "Tokenized"
  | literal => "Literal"

/-- How passes are to be run. -/
structure Config where
  opening : String := "[["
  closing : String := "]]"
  sizeLimit : String := "3 mb"
  ignorePatterns : List String := []
  suffix : String := ".tpl"
  strategy : Strategy := .tokenized
  replacements : Table String String := .empty
  dryRun : Bool := false
  deriving DecidableEq

/-- A configuration that passes can be run with. -/
structure Engine where
  config : Config
  sizeLimit : Nat
  sizeLimit_eq : SizeLimit.parse config.sizeLimit = .ok sizeLimit
  opening_ne : config.opening ≠ ""
  closing_ne : config.closing ≠ ""
  suffix_ne : config.suffix ≠ ""

/-- What a pass leaves behind: the disk, the record of what happened, and its result. -/
structure Outcome (α : Type) where
  disk : Disk
  notices : List Notice
  result : Except Fault α

/-- How much a pass did. -/
structure Summary where
  visited : Nat
  changed : Nat
  replacements : Nat
  deriving DecidableEq, Repr

namespace Summary

/-- Nothing done yet. -/
def zero : Summary := ⟨0, 0, 0⟩

/-- One more file changed, with so many replacements. -/
def add (summary : Summary) (count : Nat) : Summary :=
  { summary with
    changed := summary.changed + 1
    replacements := summary.replacements + count }

end Summary

namespace Engine

open Substitution (Substituted)
open Walk (Progress Visited)

/-- Checks a configuration: first the size limit, then that nothing is empty. -/
def ofConfig (config : Config) : Except Fault Engine :=
  match limit : SizeLimit.parse config.sizeLimit with
  | .error fault => .error fault
  | .ok sizeLimit =>
      if opening : config.opening = "" then .error (.invalidDelimiters .delimiter)
      else if closing : config.closing = "" then .error (.invalidDelimiters .delimiter)
      else if suffix : config.suffix = "" then .error (.invalidDelimiters .suffix)
      else .ok ⟨config, sizeLimit, limit, opening, closing, suffix⟩

/-- The line of the log that tells that an engine was made. -/
def readyLine (engine : Engine) : Notice :=
  .line .debug
    ("Engine ready: delimiters " ++ Text.quoted engine.config.opening ++ " " ++
      Text.quoted engine.config.closing ++ ", size limit " ++ toString engine.sizeLimit ++
      " bytes, strategy " ++ engine.config.strategy.label)

/-- The filter of a pass with values, which may bring ignore patterns of their own. -/
def filterFor (engine : Engine) (values : Values) : Filter :=
  .ofPatterns engine.sizeLimit (engine.config.ignorePatterns ++ values.ignorePatterns)

def substitute (engine : Engine) (values : Values) (content : Bytes) : Substituted :=
  match engine.config.strategy with
  | .tokenized =>
      Substitution.Tokenized.substitute engine.config.opening engine.config.closing values content
  | .literal =>
      Substitution.Literal.substitute engine.config.opening engine.config.closing
        engine.config.replacements values content

/-- The report of a write that is left out. -/
def preview (target : Path) (before after : Bytes) : Event :=
  .preview target (Text.Utf8.decodeLossy before) (Text.Utf8.decodeLossy after)

/-- The reports on bodies that could not be read. -/
def faultReports (path : Path) (result : Substituted) : List Notice :=
  result.faults.map fun (body, fault) => .report (Survey.tokenError path body fault)

def surveyFile (engine : Engine) (file : Visited) (progress : Progress Census) :
    Walk.Result Census :=
  let found := Survey.keys engine.config.opening engine.config.closing file.content
  .ok
    { progress with
      notices := progress.notices ++ (Survey.reports file.place.path found).map .report
      gathered := progress.gathered.recordAll (Survey.usable found) }

def replaceFile (engine : Engine) (values : Values) (file : Visited)
    (progress : Progress Summary) : Walk.Result Summary :=
  let path := file.place.path
  let result := engine.substitute values file.content
  let progress :=
    { progress with notices := progress.notices ++ faultReports path result }
  let tally (progress : Progress Summary) : Progress Summary :=
    { progress.report (.replaced path result.count) with
      gathered := progress.gathered.add result.count }
  if !result.isChanged then .ok progress
  else if engine.config.dryRun then
    let progress := progress.say .debug ("Would update contents of: " ++ Text.quoted path.text)
    .ok (tally (progress.report (preview path file.content result.content)))
  else
    let progress := progress.say .debug ("Updating contents of: " ++ Text.quoted path.text)
    match progress.disk.write file.place.address result.content with
    | .error cause => .error (.disk path cause, progress)
    | .ok disk => .ok (tally { progress with disk := disk })

def materializeFile (engine : Engine) (values : Values) (file : Visited)
    (progress : Progress Summary) : Walk.Result Summary :=
  match Template.output? file.place file.name engine.config.suffix with
  | none => .ok progress
  | some output =>
      let path := file.place.path
      let result := engine.substitute values file.content
      let progress :=
        { progress with notices := progress.notices ++ faultReports path result }
      let tally (progress : Progress Summary) : Progress Summary :=
        { progress.report (.materialized path output.path result.count) with
          gathered := progress.gathered.add result.count }
      let ends := Text.quoted path.text ++ " -> " ++ Text.quoted output.path.text
      if engine.config.dryRun then
        let progress := progress.say .debug ("Would process template: " ++ ends)
        .ok (tally (progress.report (preview output.path file.content result.content)))
      else
        match Template.materialize progress.disk file.place output result.content with
        | .error (fault, disk) => .error (fault, { progress with disk := disk })
        | .ok disk => .ok (tally ({ progress with disk := disk }.say .debug
            ("Materialized " ++ ends)))

/-- Runs a walk as a pass: `opened` begins its record, and `closed` ends it if no
fault does. -/
def pass {α : Type} (plan : Walk.Plan) (disk : Disk) (root : Path) (opened : String)
    (start : α) (visit : Visited → Progress α → Walk.Result α)
    (finish : Progress α → α) (closed : α → String) : Outcome α :=
  match Walk.run plan root visit ⟨disk, [.line .info opened], 0, 0, start⟩ with
  | .error (fault, progress) => ⟨progress.disk, progress.notices, .error fault⟩
  | .ok progress =>
      let result := finish progress
      ⟨progress.disk, progress.notices ++ [.line .info (closed result)], .ok result⟩

/-- Counts the base keys of all placeholders in a folder, or of those in templates only. -/
def analyze (engine : Engine) (disk : Disk) (root : Path) (onlyTemplates : Bool) :
    Outcome Census :=
  pass
    ⟨.ofPatterns engine.sizeLimit engine.config.ignorePatterns,
      if onlyTemplates then some engine.config.suffix else none⟩
    disk root ("Starting analysis: " ++ Text.quoted root.text) .empty engine.surveyFile
    Progress.gathered
    fun census =>
      "Analysis complete: " ++ toString census.size ++ " distinct placeholders, " ++
        toString census.total ++ " occurrences"

/-- The summary of a pass, with the number of files that the walk visited. -/
def summarize (progress : Progress Summary) : Summary :=
  { progress.gathered with visited := progress.visited }

/-- Puts values in place in each file of a folder. -/
def replace (engine : Engine) (disk : Disk) (root : Path) (values : Values) :
    Outcome Summary :=
  pass ⟨engine.filterFor values, none⟩ disk root
    ("Starting replacement: " ++ Text.quoted root.text) .zero (engine.replaceFile values)
    summarize
    fun summary =>
      "Replacement complete: " ++ toString summary.visited ++ " files visited, " ++
        toString summary.changed ++ " files changed, " ++ toString summary.replacements ++
        " replacements"

/-- Turns each template of a folder into its output. -/
def materialize (engine : Engine) (disk : Disk) (root : Path) (values : Values) :
    Outcome Summary :=
  pass ⟨engine.filterFor values, some engine.config.suffix⟩ disk root
    ("Starting template processing: " ++ Text.quoted root.text) .zero
    (engine.materializeFile values) summarize
    fun summary =>
      "Template processing complete: " ++ toString summary.changed ++ " templates, " ++
        toString summary.replacements ++ " replacements"

end Engine

end Stencil
