import Stencil.Proofs.Discovery
import Stencil.Proofs.Engine.Analysis
import Stencil.Proofs.Engine.Replacement
import Stencil.Proofs.Filter
import Stencil.Proofs.Survey.Conservation

/-! What is lost on the way from the values that were given to those that are put in place. A count
goes by a scan that runs over the ends of lines, and the replacement by a search that does not, so
a key may be looked up that was not counted. -/

namespace Stencil

namespace Discovery

/-- A key that was counted keeps its value, unless that is empty. Where nothing was counted, a key
keeps its value even so. -/
def KeepsValue (census : Census) (given : Values) (key : String) : Prop :=
  ∀ value, given.effective.get? key = some value →
    if value = "" then census.isEmpty = false else census.isEmpty = true ∨ key ∈ census.keys

theorem keepsValue_iff {census : Census} {given : Values} {key : String} :
    KeepsValue census given key ↔
      (valuesFor census given).effective.get? key = given.withoutBlanks.effective.get? key := by
  rw [get?_valuesFor, Values.get?_withoutBlanks, value?, KeepsValue]
  cases hValue : given.effective.get? key with
  | none => simp
  | some value =>
      by_cases hBlank : value = ""
      · cases census.isEmpty <;> simp [hBlank, Option.filter_some]
      · cases census.isEmpty <;> simp [hBlank, Option.filter_some]

end Discovery

namespace Engine

open Substitution

variable {engine : Engine} {disk : Disk} {root : Path}

theorem ofConfig_eq {config : Config} {sizeLimit : Nat}
    (hSize : SizeLimit.parse config.sizeLimit = .ok sizeLimit) (hOpening : config.opening ≠ "")
    (hClosing : config.closing ≠ "") (hSuffix : config.suffix ≠ "") :
    ofConfig config = .ok ⟨config, sizeLimit, hSize, hOpening, hClosing, hSuffix⟩ := by
  unfold ofConfig
  split
  · next hFault =>
      rw [hSize] at hFault
      cases hFault
  · next other hOther =>
      obtain rfl := Except.ok.inj (hSize.symm.trans hOther)
      rw [dif_neg hOpening, dif_neg hClosing, dif_neg hSuffix]

theorem config_of_ofConfig {config : Config} (hEngine : ofConfig config = .ok engine) :
    engine.config = config := by
  unfold ofConfig at hEngine
  split at hEngine
  · cases hEngine
  · split at hEngine
    · cases hEngine
    · split at hEngine
      · cases hEngine
      · split at hEngine
        · cases hEngine
        · obtain rfl := Except.ok.inj hEngine
          rfl

/-- A count visits the files that a replacement does, if it knows of the ignore patterns. -/
theorem files_eq_visits {given : Values}
    (hPatterns : given.ignorePatterns ⊆ engine.config.ignorePatterns) :
    engine.files given disk root =
      Walk.visits ⟨.ofPatterns engine.sizeLimit engine.config.ignorePatterns, none⟩ disk root := by
  rw [files, filterFor]
  apply Walk.visits_congr
  · exact Filter.check_append hPatterns
  · rfl

/-- A count takes no ignore patterns away, and so no files. -/
theorem files_valuesFor (census : Census) (given : Values) :
    engine.files (Discovery.valuesFor census given) disk root = engine.files given disk root := by
  rw [files, files, filterFor, filterFor, Discovery.ignorePatterns_valuesFor]

/-- Between a count and a replacement nothing is lost exactly if all keys that are looked up keep
their values. -/
theorem replace_valuesFor_iff (hStrategy : engine.config.strategy = .tokenized)
    (hFree : disk.LinkFree) (hRoot : disk.hasFolder root.address = true) (census : Census)
    (given : Values) :
    engine.replace disk root (Discovery.valuesFor census given) =
        engine.replace disk root given.withoutBlanks ↔
      ∀ file ∈ engine.files given disk root, ∀ span ∈ engine.spans file.content, ∀ key,
        Tokenized.key? span.body = some key → Discovery.KeepsValue census given key := by
  have hPatterns : (Discovery.valuesFor census given).ignorePatterns =
      given.withoutBlanks.ignorePatterns := Discovery.ignorePatterns_valuesFor census given
  have hKeeps : (∀ file ∈ engine.files given disk root, ∀ span ∈ engine.spans file.content, ∀ key,
        Tokenized.key? span.body = some key → Discovery.KeepsValue census given key) ↔
      ∀ file ∈ engine.files given disk root, ∀ span ∈ engine.spans file.content, ∀ key,
        Tokenized.key? span.body = some key →
          (Discovery.valuesFor census given).effective.get? key =
            given.withoutBlanks.effective.get? key := by
    simp only [Discovery.keepsValue_iff]
  rw [hKeeps]
  cases hEmpty : census.isEmpty with
  | true =>
      -- nothing was counted: all that was given is put in place, blanks included
      have hLess (key value : String)
          (hValue : given.withoutBlanks.effective.get? key = some value) :
          (Discovery.valuesFor census given).effective.get? key = some value := by
        rw [Values.get?_withoutBlanks, Discovery.value?, Option.filter_eq_some_iff] at hValue
        rw [Discovery.get?_valuesFor, hEmpty, if_pos rfl]
        exact hValue.1
      rw [eq_comm, replace_eq_iff hStrategy hFree hRoot hPatterns.symm hLess]
      simp only [eq_comm]
      rfl
  | false =>
      have hLess (key value : String)
          (hValue : (Discovery.valuesFor census given).effective.get? key = some value) :
          given.withoutBlanks.effective.get? key = some value := by
        rw [Discovery.get?_valuesFor, hEmpty, if_neg Bool.false_ne_true] at hValue
        rw [Values.get?_withoutBlanks]
        split at hValue
        · exact hValue
        · cases hValue
      rw [replace_eq_iff hStrategy hFree hRoot hPatterns hLess, files_valuesFor]

/-- Where no scanned body runs over the end of a line, all keys that are looked up are counted. -/
theorem keepsValue_of_on_lines {census : Census} {given : Values}
    (hCensus : ∀ key, key ∈ census.keys ↔
      ∃ file ∈ engine.files given disk root, key ∈ engine.keys file.content)
    (hLines : ∀ file ∈ engine.files given disk root,
      ∀ span ∈ Span.scan (Text.Utf8.encode engine.config.opening)
        (Text.Utf8.encode engine.config.closing) file.content, Span.newline ∉ span.body) :
    ∀ file ∈ engine.files given disk root, ∀ span ∈ engine.spans file.content, ∀ key,
      Tokenized.key? span.body = some key → Discovery.KeepsValue census given key := by
  intro file hFile span hSpan key hKey
  have hScanned := Span.search_eq_scan (Text.Utf8.encode_ne_nil engine.opening_ne)
    (Text.Utf8.encode_ne_nil engine.closing_ne) (hLines file hFile)
  have hCounted : key ∈ census.keys := by
    rw [spans, hScanned] at hSpan
    refine (hCensus key).mpr ⟨file, hFile, ?_⟩
    rw [keys, Survey.usable_keys]
    refine List.mem_filterMap.mpr ⟨span, hSpan, ?_⟩
    rw [Tokenized.keyOfBody_of_key? hKey]
    rfl
  have hEmpty : census.isEmpty = false := by
    refine Bool.eq_false_iff.mpr fun hEmpty => ?_
    rw [Census.isEmpty_iff_keys.mp hEmpty] at hCounted
    exact absurd hCounted List.not_mem_nil
  intro value _
  split
  · exact hEmpty
  · exact .inr hCounted

end Engine

end Stencil
