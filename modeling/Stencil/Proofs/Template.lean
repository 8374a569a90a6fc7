import Stencil.Proofs.Disk.LinkFree
import Stencil.Proofs.Disk.Steps
import Stencil.Template

/-! Templates and their outputs. The name of an output comes before that of its template, and no
two templates in one folder have the same output. A stem that is no name, `.` or `..`, asks for a
folder instead, and no folder is ever written to. -/

namespace Stencil.Template

theorem lt_append (text : String) {rest : String} (hRest : rest ≠ "") : text < text ++ rest := by
  have hList : ∀ front : List Char, front < front ++ rest.toList := by
    intro front
    induction front with
    | nil =>
        cases hChars : rest.toList with
        | nil => exact absurd (String.toList_eq_nil_iff.mp hChars) hRest
        | cons c chars => exact List.nil_lt_cons c chars
    | cons c front ih => exact List.cons_lt_cons_iff.mpr (.inr ⟨rfl, ih⟩)
  rw [String.lt_iff_toList_lt, String.toList_append]
  exact hList text.toList

/-- A name has a stem if it ends in the suffix and has something in front of it. The name that is
the suffix itself has none. -/
theorem stem?_eq_some_iff {suffix name stem : String} :
    stem? suffix name = some stem ↔ name = stem ++ suffix ∧ stem ≠ "" := by
  have hSize (front : String) :
      front ≠ "" ↔ suffix.utf8ByteSize < (front ++ suffix).utf8ByteSize := by
    rw [String.utf8ByteSize_append, ne_eq, ← String.utf8ByteSize_eq_zero_iff]
    omega
  rw [stem?]
  constructor
  · intro hStem
    split at hStem
    · next hSuffix =>
        rw [Bool.and_eq_true, decide_eq_true_eq, List.isSuffixOf_iff_suffix] at hSuffix
        obtain ⟨hLonger, front, hFront⟩ := hSuffix
        have hName : name = String.ofList front ++ suffix := by
          rw [← String.toList_inj, String.toList_append, String.toList_ofList, hFront]
        have hEq := Option.some.inj hStem
        rw [← hFront, List.length_append, Nat.add_sub_cancel, List.take_left] at hEq
        rw [hEq] at hName
        exact ⟨hName, (hSize stem).mpr (hName ▸ hLonger)⟩
    · cases hStem
  · rintro ⟨rfl, hStem⟩
    have hLonger := (hSize stem).mp hStem
    rw [if_pos (by simpa [String.toList_append] using hLonger)]
    simp [String.toList_append]

theorem slash_not_mem_stem {stem suffix : String} (hName : '/' ∉ (stem ++ suffix).toList) :
    '/' ∉ stem.toList := by
  rw [String.toList_append, List.mem_append, not_or] at hName
  exact hName.1

/-- The output of a template lies beside it, under the stem of its name. -/
theorem outputPath?_eq_some_iff {template output : Path} {suffix : String} :
    outputPath? template suffix = some output ↔
      ∃ stem, template.fileName? = some (stem ++ suffix) ∧ stem ≠ "" ∧
        output = template.parent.join stem := by
  have hOther {name : String} (hName : template.fileName? = some name) (stem : String) :
      template.withFileName stem = template.parent.join stem := by
    rw [Path.withFileName, hName]
    rfl
  rw [outputPath?]
  constructor
  · intro hOutput
    obtain ⟨stem, hStem, rfl⟩ := Option.map_eq_some_iff.mp hOutput
    obtain ⟨name, hName, hStem⟩ := Option.bind_eq_some_iff.mp hStem
    obtain ⟨rfl, hNe⟩ := stem?_eq_some_iff.mp hStem
    exact ⟨stem, hName, hNe, hOther hName stem⟩
  · rintro ⟨stem, hName, hNe, rfl⟩
    rw [hName, Option.bind_some, stem?_eq_some_iff.mpr ⟨rfl, hNe⟩, Option.map_some,
      hOther hName stem]

/-- The path of a template found under `name`, and what is looked for in it. -/
theorem output?_eq_some_iff {template output : Place} {name : Name} {suffix : String}
    (hPath : template.path.fileName? = some name.text) :
    output? template name suffix = some output ↔
      ∃ stem, name.text = stem ++ suffix ∧ stem ≠ "" ∧
        output = ⟨template.path.withFileName stem,
          { template.address with steps := [Step.ofPart stem.toList] }⟩ := by
  rw [output?, outputPath?, hPath, Option.bind_some]
  cases hStem : stem? suffix name.text with
  | none =>
      constructor
      · intro hOutput
        cases hOutput
      · rintro ⟨stem, hName, hNe, -⟩
        rw [stem?_eq_some_iff.mpr ⟨hName, hNe⟩] at hStem
        cases hStem
  | some stem =>
      obtain ⟨hName, hNe⟩ := stem?_eq_some_iff.mp hStem
      constructor
      · intro hOutput
        exact ⟨stem, hName, hNe, (Option.some.inj hOutput).symm⟩
      · rintro ⟨stem', hName', hNe', rfl⟩
        rw [stem?_eq_some_iff.mpr ⟨hName', hNe'⟩] at hStem
        rw [Option.some.inj hStem]
        rfl

theorem isSome_output? {template : Place} {name : Name} {suffix : String}
    (hPath : template.path.fileName? = some name.text) :
    (output? template name suffix).isSome = isTemplate template.path suffix := by
  rw [isTemplate, output?, outputPath?, hPath, Option.bind_some]
  cases stem? suffix name.text <;> rfl

/-- The stem of a template either is a name, or asks for a folder. -/
theorem steps_of_output? {template output : Place} {name : Name} {suffix : String}
    (hPath : template.path.fileName? = some name.text)
    (hOutput : output? template name suffix = some output) :
    (∃ short : Name, short.text ++ suffix = name.text ∧
        output.address = { template.address with steps := [.enter short] }) ∨
      output.address = { template.address with steps := [.stay] } ∨
      output.address = { template.address with steps := [.up] } := by
  obtain ⟨stem, hName, hNe, rfl⟩ := (output?_eq_some_iff hPath).mp hOutput
  have hSlash : '/' ∉ stem.toList := slash_not_mem_stem (hName ▸ name.slash_not_mem)
  by_cases hDot : stem = "."
  · exact .inr (.inl (by rw [hDot]; rfl))
  by_cases hDots : stem = ".."
  · exact .inr (.inr (by rw [hDots]; rfl))
  have hProper : Name.isProper stem = true := Name.isProper_iff.mpr ⟨hNe, hDot, hDots, hSlash⟩
  refine .inl ⟨⟨stem, hProper⟩, hName.symm, ?_⟩
  rw [Step.ofPart_name ⟨stem, hProper⟩]

/-- A folder in the place of the output stops a template before anything is changed. -/
theorem materialize_of_hasFolder {disk : Disk} {output : Place} (template : Place)
    (content : Bytes) (hFolder : disk.hasFolder output.address = true) :
    materialize disk template output content = .error (.disk output.path .isFolder, disk) := by
  rw [materialize, Disk.write_of_hasFolder content hFolder]

/-- An output is written before its template is removed. -/
theorem materialize_entry {disk : Disk} {template output : Place} {folder : Location}
    {name short : Name} {links : Nat} {old : Bytes} (content : Bytes) (hFree : disk.LinkFree)
    (hTemplate : template.address = ⟨folder, [.enter name], links⟩)
    (hOutput : output.address = ⟨folder, [.enter short], links⟩)
    (hFile : disk.get? (folder ++ [name]) = some (.file old))
    (hFolder : disk.get? (folder ++ [short]) ≠ some .folder) (hShort : short ≠ name) :
    materialize disk template output content =
      .ok ((disk.put (folder ++ [short]) (.file content)).erase (folder ++ [name])) := by
  have hKept : (disk.put (folder ++ [short]) (.file content)).get? (folder ++ [name]) =
      some (.file old) := by
    rw [Disk.get?_put_of_ne _ _ (by simpa using hShort.symm), hFile]
  rw [materialize, hOutput, hTemplate, Disk.write_enter hFree content hFolder]
  simp only [Disk.remove_enter (hFree.put _ content) hKept]

end Stencil.Template
