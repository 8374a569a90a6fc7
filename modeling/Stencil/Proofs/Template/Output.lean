import Stencil.Proofs.Path.Parent
import Stencil.Proofs.Template
import Stencil.Proofs.Text.Boundary

/-! Where the output of a template lies. What precedes the suffix of a name is cut off between two
characters and joined to the folder of the template. If it is a name, the output is an entry of that
folder, and no other template there has it. A period or two are no name, though a template may well
be called by them and its suffix: its output is the folder itself or the one that holds it. -/

namespace Stencil.Template

open Text

/-- A file is a template if its name goes on in front of the suffix, byte by byte. -/
theorem isSome_outputPath?_iff {template : Path} {suffix : String} :
    (outputPath? template suffix).isSome = true ↔
      ∃ name, template.fileName? = some name ∧
        (Utf8.encode suffix).length < (Utf8.encode name).length ∧
        Utf8.encode suffix <:+ Utf8.encode name := by
  have hLonger (stem : String) :
      (Utf8.encode suffix).length < (Utf8.encode (stem ++ suffix)).length ↔ stem ≠ "" := by
    rw [Utf8.encode_append, List.length_append]
    constructor
    · rintro hLess rfl
      exact absurd hLess (by simp [Utf8.encode, Utf8.encodeChars])
    · intro hNe
      have hPositive := List.length_pos_of_ne_nil (Utf8.encode_ne_nil hNe)
      omega
  constructor
  · intro hSome
    obtain ⟨output, hOutput⟩ := Option.isSome_iff_exists.mp hSome
    obtain ⟨stem, hName, hNe, -⟩ := outputPath?_eq_some_iff.mp hOutput
    exact ⟨_, hName, (hLonger stem).mpr hNe, Utf8.encode_suffix_iff.mpr ⟨stem, rfl⟩⟩
  · rintro ⟨name, hName, hLength, hSuffix⟩
    obtain ⟨stem, rfl⟩ := Utf8.encode_suffix_iff.mp hSuffix
    apply Option.isSome_iff_exists.mpr
    exact ⟨_, outputPath?_eq_some_iff.mpr ⟨stem, hName, (hLonger stem).mp hLength, rfl⟩⟩

/-- The bytes in front of the suffix are those of the stem. -/
theorem decode?_take_encode (stem suffix : String) :
    Utf8.decode? ((Utf8.encode (stem ++ suffix)).take
      ((Utf8.encode (stem ++ suffix)).length - (Utf8.encode suffix).length)) = some stem := by
  rw [Utf8.encode_append, List.length_append, Nat.add_sub_cancel, List.take_left,
    Utf8.decode?_encode]

section

variable {template : Path} {stem suffix : String}

/-- The output lies in the folder of the template, under the stem, exactly if that is a name. -/
theorem beside_iff (hName : template.fileName? = some (stem ++ suffix)) (hNe : stem ≠ "") :
    (template.parent.join stem).parent = template.parent ∧
        (template.parent.join stem).fileName?.map (· ++ suffix) = template.fileName? ↔
      stem ≠ "." ∧ stem ≠ ".." := by
  obtain ⟨-, -, -, hSlash⟩ := Name.isProper_iff.mp (Path.isProper_of_fileName? hName)
  constructor
  · rintro ⟨-, hFile⟩
    rw [hName] at hFile
    obtain ⟨short, hShort, hText⟩ := Option.map_eq_some_iff.mp hFile
    rw [String.append_left_inj] at hText
    obtain ⟨-, hDot, hDots, -⟩ := Name.isProper_iff.mp (Path.isProper_of_fileName? hShort)
    rw [← hText]
    exact ⟨hDot, hDots⟩
  · rintro ⟨hDot, hDots⟩
    have hProper : Name.isProper stem = true :=
      Name.isProper_iff.mpr ⟨hNe, hDot, hDots, slash_not_mem_stem hSlash⟩
    have hParent := Path.parent_join template.parent ⟨stem, hProper⟩
    have hFile := Path.fileName?_join template.parent ⟨stem, hProper⟩
    rw [Path.tidy_parent] at hParent
    rw [hFile, hName]
    exact ⟨hParent, rfl⟩

theorem names_output (hName : template.fileName? = some (stem ++ suffix)) (hNe : stem ≠ "") :
    (template.parent.join stem).names =
      template.parent.names ++ if stem = "." then [] else [stem.toList] := by
  obtain ⟨-, -, -, hSlash⟩ := Name.isProper_iff.mp (Path.isProper_of_fileName? hName)
  have hIdle : Path.isIdle stem.toList = true ↔ stem = "." := by
    rw [← String.toList_inj]
    simp [Path.isIdle, hNe]
  rw [Path.names_join _ (slash_not_mem_stem hSlash), if_congr hIdle rfl rfl]

theorem eq_of_names_output {stem' : String}
    (hSame : (if stem = "." then [] else [stem.toList]) =
      if stem' = "." then [] else [stem'.toList]) : stem = stem' := by
  split at hSame
  · next hDot =>
      split at hSame
      · next hDot' => rw [hDot, hDot']
      · cases hSame
  · split at hSame
    · cases hSame
    · exact String.toList_inj.mp (List.singleton_inj.mp hSame)

end

/-- A path has an output exactly if its name goes on in front of the suffix, byte by byte. What it
has there is cut off between two characters, and no other template of the folder has that output.
The output keeps the folder and has the name of the template less the suffix exactly if what was cut
off is neither a period nor two of them. With one the output is the folder, with two it is the folder
that holds it. -/
theorem output_lies_beside_template_iff (template : Path) (suffix : String) :
    ((outputPath? template suffix).isSome = true ↔
      ∃ name, template.fileName? = some name ∧
        (Utf8.encode suffix).length < (Utf8.encode name).length ∧
        Utf8.encode suffix <:+ Utf8.encode name) ∧
    ∀ output, outputPath? template suffix = some output →
      ∃ stem, template.fileName? = some (stem ++ suffix) ∧
        Utf8.decode? ((Utf8.encode (stem ++ suffix)).take
          ((Utf8.encode (stem ++ suffix)).length - (Utf8.encode suffix).length)) = some stem ∧
        output.names = template.parent.names ++ (if stem = "." then [] else [stem.toList]) ∧
        (output.parent = template.parent ∧
            output.fileName?.map (· ++ suffix) = template.fileName? ↔
          stem ≠ "." ∧ stem ≠ "..") ∧
        ∀ other output', outputPath? other suffix = some output' →
          other.parent.names = template.parent.names → output'.names = output.names →
          other.fileName? = template.fileName? := by
  refine ⟨isSome_outputPath?_iff, fun output hOutput => ?_⟩
  obtain ⟨stem, hName, hNe, rfl⟩ := outputPath?_eq_some_iff.mp hOutput
  refine ⟨stem, hName, decode?_take_encode stem suffix, names_output hName hNe,
    beside_iff hName hNe, ?_⟩
  intro other output' hOther hFolder hSame
  obtain ⟨stem', hName', hNe', rfl⟩ := outputPath?_eq_some_iff.mp hOther
  rw [names_output hName' hNe', names_output hName hNe, hFolder] at hSame
  rw [hName', hName, eq_of_names_output (List.append_cancel_left hSame)]

/-- A name that is longer in bytes than in characters, of a path with idle parts and of one without
them. -/
theorem output_lies_beside_template_iff_under_wide_name :
    let template : Path := ⟨".//d/./é.tpl/"⟩
    let output : Path := ⟨".//d/é"⟩
    let other : Path := ⟨"d/é.tpl"⟩
    let output' : Path := ⟨"d/é"⟩
    outputPath? template ".tpl" = some output ∧ output.parent = template.parent ∧
      output.fileName?.map (· ++ ".tpl") = template.fileName? ∧
      outputPath? other ".tpl" = some output' ∧ other.parent.names = template.parent.names ∧
      output'.names = output.names ∧ other.fileName? = template.fileName? := by
  intro template output other output'
  have hOutput : outputPath? template ".tpl" = some output := by decide +kernel
  have hOther : outputPath? other ".tpl" = some output' := by decide +kernel
  have hFolder : other.parent.names = template.parent.names := by decide +kernel
  have hSame : output'.names = output.names := by decide +kernel
  obtain ⟨-, hAll⟩ := output_lies_beside_template_iff template ".tpl"
  obtain ⟨stem, hName, -, -, hBeside, hOne⟩ := hAll output hOutput
  have hFile : template.fileName? = some ("é" ++ ".tpl") := by decide +kernel
  rw [hFile, Option.some_inj, String.append_left_inj] at hName
  have hDots : stem ≠ "." ∧ stem ≠ ".." := by
    rw [← hName]
    decide
  obtain ⟨hParent, hBack⟩ := hBeside.mpr hDots
  exact ⟨hOutput, hParent, hBack, hOther, hFolder, hSame, hOne other output' hOther hFolder hSame⟩

/-- The output of a template may be its folder or the folder that holds this one. -/
theorem output_of_periods_leaves_folder :
    let folder : Path := ⟨"a"⟩
    (⟨"a/..tpl"⟩ : Path).parent = folder ∧ (⟨"a/...tpl"⟩ : Path).parent = folder ∧
    outputPath? ⟨"a/..tpl"⟩ ".tpl" = some ⟨"a/."⟩ ∧ (⟨"a/."⟩ : Path).names = folder.names ∧
    (⟨"a/."⟩ : Path).parent ≠ folder ∧ (⟨"a/."⟩ : Path).fileName? = some "a" ∧
    outputPath? ⟨"a/...tpl"⟩ ".tpl" = some ⟨"a/.."⟩ ∧ (⟨"a/.."⟩ : Path).fileName? = none := by
  intro folder
  decide +kernel

end Stencil.Template
