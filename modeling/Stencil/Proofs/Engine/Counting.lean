import Stencil.Proofs.Engine.Analysis
import Stencil.Proofs.Span.Decomposition
import Stencil.Proofs.Survey.Keys

/-! What is counted in many files, one after the other. Each span of each file is counted under the
key that its body names, or it is reported as a fault, and in which order the files are looked
through is forgotten. -/

namespace Stencil

/-- Whether a report is about a body that cannot be read. -/
def Event.isTokenError : Event → Bool
  | .tokenError _ _ _ => true
  | _ => false

namespace Survey

variable (opening closing : String) (content : Bytes)

/-- A key is counted once for each span that names it. -/
theorem count_usable (key : String) :
    (usable (keys opening closing content)).count key =
      (Span.scan (Text.Utf8.encode opening) (Text.Utf8.encode closing) content).countP
        fun span => Names key span.body := by
  rw [usable_keys, List.count_filterMap]
  refine List.countP_congr fun span _ => ?_
  rw [beq_iff_eq, toOption_eq_some_iff, ← names_iff, decide_eq_true_iff]

/-- Each body has a key or is at fault. -/
theorem length_usable_add_countP_reports (path : Path) :
    (usable (keys opening closing content)).length +
        (reports path (keys opening closing content)).countP Event.isTokenError =
      (Span.scan (Text.Utf8.encode opening) (Text.Utf8.encode closing) content).length := by
  have hSpans : (keys opening closing content).length =
      (Span.scan (Text.Utf8.encode opening) (Text.Utf8.encode closing) content).length :=
    List.length_map _
  rw [← hSpans]
  generalize keys opening closing content = found
  induction found with
  | nil => rfl
  | cons entry found ih =>
      obtain ⟨body, key⟩ := entry
      cases key with
      | ok key =>
          rw [usable, List.filterMap_cons_some (by rfl), reports, List.filterMap_cons_none (by rfl),
            List.length_cons, List.length_cons, ← ih, Nat.add_right_comm]
          rfl
      | error fault =>
          rw [usable, List.filterMap_cons_none (by rfl), reports,
            List.filterMap_cons_some (by rfl), List.countP_cons_of_pos (by rfl), List.length_cons,
            ← ih, ← Nat.add_assoc]
          rfl

end Survey

namespace Engine

open Text
open Walk (Progress Visited)

/-- Many files are looked through, one after the other. -/
def surveyFiles (engine : Engine) (files : List Visited) (progress : Progress Census) :
    Walk.Result Census :=
  files.foldlM (m := Walk.Run Census) (fun progress file => engine.surveyFile file progress)
    progress

theorem surveyFiles_eq (engine : Engine) (files : List Visited) (progress : Progress Census) :
    engine.surveyFiles files progress = .ok
      { progress with
        notices := progress.notices ++ files.flatMap engine.surveyTold
        gathered := progress.gathered.recordAll
          (files.flatMap fun file => engine.keys file.content) } := by
  induction files generalizing progress with
  | nil =>
      rw [List.flatMap_nil, List.append_nil]
      rfl
  | cons file files ih =>
      have hNext : engine.surveyFiles (file :: files) progress =
          engine.surveyFiles files
            { progress with
              notices := progress.notices ++ engine.surveyTold file
              gathered := progress.gathered.recordAll (engine.keys file.content) } := rfl
      rw [hNext, ih, List.flatMap_cons, List.flatMap_cons, List.append_assoc, Census.recordAll,
        Census.recordAll, Census.recordAll, List.foldl_append]

theorem countP_events_surveyTold (engine : Engine) (files : List Visited) :
    (files.flatMap fun file => engine.keys file.content).length +
        (Notice.events (files.flatMap engine.surveyTold)).countP Event.isTokenError =
      (files.flatMap fun file => Span.scan (Utf8.encode engine.config.opening)
        (Utf8.encode engine.config.closing) file.content).length := by
  induction files with
  | nil => rfl
  | cons file files ih =>
      have hReports : Notice.events (engine.surveyTold file) =
          Survey.reports file.place.path
            (Survey.keys engine.config.opening engine.config.closing file.content) := by
        rw [surveyTold, Notice.events, List.filterMap_map]
        exact List.filterMap_some
      have hHere := Survey.length_usable_add_countP_reports engine.config.opening
        engine.config.closing file.content file.place.path
      simp only [List.flatMap_cons, List.length_append, Notice.events, List.filterMap_append,
        List.countP_append] at ih ⊢
      rw [← Notice.events, hReports, ← ih, ← hHere, keys]
      omega

/-- A scan comes to an end, reaches beyond no content, and takes each content apart in the only way
there is. In the end each key was counted once for each span whose body names it, all other spans
were reported, the keys ascend by their bytes, and the files may have come in any order. Any two
delimiters that are not empty are those of some engine. -/
theorem survey_counts_spans (engine : Engine) (disk : Disk) (files : List Visited) :
    let opening := Utf8.encode engine.config.opening
    let closing := Utf8.encode engine.config.closing
    let spans (content : Bytes) := Span.scan opening closing content
    let found := files.flatMap fun file => spans file.content
    let start : Progress Census := ⟨disk, [], 0, 0, .empty⟩
    (∀ content,
      (∀ other, Span.Decomposes opening closing 0 content other ↔ other = spans content) ∧
      ∀ span ∈ spans content, span.Within opening closing content) ∧
    ∃ after, engine.surveyFiles files start = .ok after ∧
      (∀ key, after.gathered.count key =
        found.countP fun span => Survey.Names key span.body) ∧
      after.gathered.total + (Notice.events after.notices).countP Event.isTokenError =
        found.length ∧
      (after.gathered.keys.Pairwise fun first second =>
        Utf8.encode first < Utf8.encode second) ∧
      ∀ files', files'.Perm files → ∃ after', engine.surveyFiles files' start = .ok after' ∧
        after'.gathered = after.gathered := by
  intro opening closing spans found start
  have hOpening : opening ≠ [] := Utf8.encode_ne_nil engine.opening_ne
  have hClosing : closing ≠ [] := Utf8.encode_ne_nil engine.closing_ne
  refine ⟨fun content => ⟨fun other => Span.decomposes_iff hOpening hClosing,
    fun span hSpan => Span.within_of_mem_scan hOpening hClosing hSpan⟩,
    _, engine.surveyFiles_eq files start, ?_, ?_, ?_, ?_⟩
  · intro key
    rw [Census.count_recordAll Census.ascends_empty, List.count_flatMap, List.countP_flatMap]
    refine (Nat.zero_add _).trans (congrArg List.sum (List.map_congr_left fun file _ => ?_))
    exact Survey.count_usable engine.config.opening engine.config.closing file.content key
  · rw [Census.total_recordAll, List.nil_append]
    refine Eq.trans ?_ (engine.countP_events_surveyTold files)
    exact congrArg (· + _) (Nat.zero_add _)
  · exact (Census.ascends_recordAll _ Census.ascends_empty).imp Utf8.encode_lt_encode_iff.mpr
  · intro files' hPerm
    exact ⟨_, engine.surveyFiles_eq files' start,
      Census.recordAll_perm Census.ascends_empty (hPerm.flatMap_right _)⟩

/-- Delimiters that overlap themselves, a body with a faulty specifier, one that runs over the end
of a line, a blank one, one without a key, and an opening without a closing. -/
theorem survey_counts_spans_in_either_order :
    let engine : Engine := ⟨{}, 3145728, rfl, by decide, by decide, by decide⟩
    let file (content : String) : Visited :=
      ⟨⟨⟨"a"⟩, Path.address ⟨"a"⟩⟩, ⟨"a", by decide⟩, ⟨"a"⟩, Utf8.encode content⟩
    let first := file "[[[A]]] [[B:no]] [[B]]"
    let second := file "[[A\n]] [[ ]] [[:B]] [[C"
    let start : Progress Census := ⟨.empty, [], 0, 0, .empty⟩
    [second, first].Perm [first, second] ∧
    ∃ after, engine.surveyFiles [first, second] start = .ok after ∧
      after.gathered.count "B" = 2 ∧ after.gathered.count "A\n" = 1 ∧
      after.gathered.keys = ["A\n", "B", "[A"] ∧
      after.gathered.total + (Notice.events after.notices).countP Event.isTokenError = 6 ∧
      ∃ after', engine.surveyFiles [second, first] start = .ok after' ∧
        after'.gathered = after.gathered := by
  intro engine file first second start
  have hPerm : [second, first].Perm [first, second] := .swap first second []
  obtain ⟨-, after, hAfter, hCount, hTotal, -, hOrder⟩ :=
    survey_counts_spans engine .empty [first, second]
  refine ⟨hPerm, after, hAfter, ?_, ?_, ?_, ?_, hOrder [second, first] hPerm⟩
  · rw [hCount]
    decide +kernel
  · rw [hCount]
    decide +kernel
  · rw [surveyFiles_eq] at hAfter
    rw [← Except.ok.inj hAfter]
    decide +kernel
  · rw [hTotal]
    decide +kernel

end Engine

end Stencil
