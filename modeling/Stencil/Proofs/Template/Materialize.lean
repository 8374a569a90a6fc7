import Stencil.Proofs.Disk.Files
import Stencil.Proofs.Disk.Steps
import Stencil.Proofs.Template

/-! What becomes of a template and of its output, whatever links there are. The output is written
through links and the template is removed as it stands, so what is removed may be what leads to
the output. This takes a link at the end of one of the two paths. -/

namespace Stencil.Template

/-- What is found as a file under a path has the name that the path ends with. -/
theorem fileName?_of_reach {disk : Disk} {path : Path} {location : Location} {old : Bytes}
    {links : Nat} (hReach : disk.reach path.address = .ok (.taken location (.file old) links)) :
    ∃ front name, path.steps = front ++ [.enter name] ∧ location.getLast? = some name ∧
      path.fileName? = some name.text := by
  rcases List.eq_nil_or_concat path.steps with hNone | ⟨front, last, hSteps⟩
  · rw [Disk.reach, Path.address, hNone, Disk.find_here, Disk.find_nil] at hReach
    cases hReach
  · rw [List.concat_eq_append] at hSteps
    rw [Disk.reach, Path.address, Disk.find_here, hSteps] at hReach
    obtain ⟨name, rfl, hLast⟩ := Disk.enter_of_find hReach
    exact ⟨front, name, hSteps, hLast, Path.fileName?_of_steps hSteps⟩

/-- No file is both a template and its own output. -/
theorem reach_ne_of_outputPath? {disk : Disk} {template output : Path} {suffix : String}
    {here there : Location} {old old' : Bytes} {links links' : Nat} (hSuffix : suffix ≠ "")
    (hOutput : outputPath? template suffix = some output)
    (hTemplate : disk.reach template.address = .ok (.taken here (.file old) links))
    (hReach : disk.reach output.address = .ok (.taken there (.file old') links')) :
    here ≠ there := by
  obtain ⟨-, name, -, hHere, hName⟩ := fileName?_of_reach hTemplate
  obtain ⟨front', name', hSteps', hThere, -⟩ := fileName?_of_reach hReach
  obtain ⟨stem, hStem, -, rfl⟩ := outputPath?_eq_some_iff.mp hOutput
  have hText : name.text = stem ++ suffix := Option.some.inj (hName.symm.trans hStem)
  have hSlash : '/' ∉ stem.toList := slash_not_mem_stem (hText ▸ name.slash_not_mem)
  -- The output ends with the stem, which is not the whole name of the template.
  have hStemStep : Step.ofPart stem.toList = .enter name' := by
    rcases template.parent.steps_join hSlash with hNowhere | ⟨front, hSteps⟩
    · rw [hNowhere] at hSteps'
      cases front' <;> simp at hSteps'
    · rw [hSteps] at hSteps'
      exact List.singleton_inj.mp (List.append_inj' hSteps' rfl).2
  have hShort : stem = name'.text := String.toList_inj.mp (Step.ofPart_eq_enter_iff.mp hStemStep)
  rintro rfl
  obtain rfl : name = name' := Option.some.inj (hHere.symm.trans hThere)
  have hLess := lt_append stem hSuffix
  rw [← hText, hShort] at hLess
  exact lt_irrefl _ hLess

/-- A template that is there is either left alone with a fault, or written to a place that takes
its output. Then it is removed, unless it is a folder. -/
theorem materialize_cases {disk : Disk} (template output : Place) (content : Bytes)
    (hTemplate : disk.has template.address = true) :
    (∃ cause, materialize disk template output content = .error (.disk output.path cause, disk)) ∨
      ∃ here node links there,
        disk.reach template.address = .ok (.taken here node links) ∧
        disk.Accepts output.address there ∧
        materialize disk template output content =
          if node = .folder then
            .error (.halfMaterialized template.path output.path .isFolder,
              disk.put there (.file content))
          else .ok ((disk.put there (.file content)).erase here) := by
  rw [materialize]
  cases hWrite : disk.write output.address content with
  | error cause => exact .inl ⟨cause, rfl⟩
  | ok written =>
      right
      obtain ⟨here, node, links, hReach⟩ := Disk.exists_reach_of_has hTemplate
      obtain ⟨there, hAccepts, rfl⟩ := Disk.write_eq_ok_iff.mp hWrite
      obtain ⟨node', hReach', hShape⟩ := hAccepts.find_put content hReach
      have hFolder : node' = .folder ↔ node = .folder := by
        cases node <;> cases node' <;> simp [Node.shape] at hShape ⊢
      refine ⟨here, node, links, there, hReach, hAccepts, ?_⟩
      dsimp only
      rw [Disk.remove_of_reach hReach', if_congr hFolder rfl rfl]
      by_cases hNode : node = .folder
      · rw [if_pos hNode, if_pos hNode]
      · rw [if_neg hNode, if_neg hNode]

/-- What is removed as a template leads to its output only over a link that one of their two
paths ends with. -/
theorem hasLink_of_mem_way {disk : Disk} {template output : Path} {suffix : String}
    {here there : Location} {node : Node} {links : Nat} (hSuffix : suffix ≠ "")
    (hOutput : outputPath? template suffix = some output)
    (hReach : disk.reach template.address = .ok (.taken here node links))
    (hNode : node ≠ .folder) (hAccepts : disk.Accepts output.address there)
    (hWay : here ∈ disk.way output.address) :
    disk.hasLink template.address = true ∨ disk.hasLink output.address = true := by
  cases node with
  | folder => exact absurd rfl hNode
  | link target => exact .inl (by rw [Disk.hasLink, hReach])
  | file old =>
      right
      have hFile := Disk.get?_of_find hReach hNode
      obtain ⟨spot, hSpot⟩ : ∃ spot, disk.follow output.address = .ok spot := by
        rcases hAccepts with hFollow | ⟨_, _, hFollow⟩ <;> exact ⟨_, hFollow⟩
      obtain ⟨left, rfl⟩ := Disk.find_of_file_on_way hFile hWay hSpot
      rcases Disk.find_false_of_find hSpot with hOutputReach | ⟨_, _, _, hOutputReach⟩
      · exact absurd rfl (reach_ne_of_outputPath? hSuffix hOutput hReach hOutputReach)
      · rw [Disk.hasLink, Disk.reach, hOutputReach]

/-- A template that is there is turned into its output in one of three ways. The output cannot be
written, and nothing has changed. The template cannot be removed, and the output holds the
content. Or both are done: the content stands where the path of the output led and the template
is gone. Then the output is read with the content exactly if what was removed does not lie on the
way to the output, and it lies there only if one of the two paths ends in a link. -/
theorem materialize_moves_unless_linked {disk : Disk} {template output : Path} {suffix : String}
    (content : Bytes) (hSuffix : suffix ≠ "")
    (hOutput : outputPath? template suffix = some output)
    (hTemplate : disk.has template.address = true) :
    match materialize disk template.place output.place content with
    | .error (.disk path _, after) => path = output ∧ after = disk
    | .error (.halfMaterialized source path _, after) =>
        source = template ∧ path = output ∧ after.read output.address = .ok content
    | .error _ => False
    | .ok after =>
        after.has template.address = false ∧
        ∃ here node links there,
          disk.reach template.address = .ok (.taken here node links) ∧
          disk.write output.address content = .ok (disk.put there (.file content)) ∧
          after = (disk.put there (.file content)).erase here ∧
          after.read output.address =
            (if here ∈ disk.way output.address then .error .missing else .ok content) ∧
          (here ∈ disk.way output.address →
            disk.hasLink template.address = true ∨ disk.hasLink output.address = true) := by
  rcases materialize_cases template.place output.place content hTemplate with
    ⟨cause, hFault⟩ | ⟨here, node, links, there, hReach, hAccepts, hMoved⟩
  · rw [hFault]
    exact ⟨rfl, rfl⟩
  · have hWrite := hAccepts.write content
    have hRead : (disk.put there (.file content)).read output.address = .ok content :=
      Disk.read_write hWrite
    rw [hMoved]
    by_cases hFolder : node = .folder
    · rw [if_pos hFolder]
      exact ⟨rfl, rfl, hRead⟩
    · rw [if_neg hFolder]
      have hGone : here ∈ disk.way template.address :=
        Disk.mem_wayFrom_of_find hFolder hReach nofun
      refine ⟨?_, here, node, links, there, hReach, hWrite, rfl, ?_,
        hasLink_of_mem_way hSuffix hOutput hReach hFolder hAccepts⟩
      · rw [← hAccepts.way_put content] at hGone
        rw [Disk.has, Disk.node_erase_of_mem hGone]
        rfl
      · split
        · next hWay =>
            rw [← hAccepts.way_put content] at hWay
            rw [Disk.read, Disk.node_erase_of_mem hWay]
        · next hWay =>
            rw [← hAccepts.way_put content] at hWay
            obtain ⟨location, left, hFollow⟩ := Disk.read_eq_ok_iff.mp hRead
            rw [← Disk.follow_erase_of_not_mem hWay] at hFollow
            exact Disk.read_eq_ok_iff.mpr ⟨location, left, hFollow⟩

/-- The output is a link to a file at the top of the disk. Both paths start in the working folder
and enter another one over slashes and periods. -/
theorem materialize_moves_unless_linked_through_other_file :
    let folder : Location := [⟨"w", by decide⟩, ⟨"d", by decide⟩]
    let here : Location := folder ++ [⟨"a.tpl", by decide⟩]
    let other : Location := [⟨"b", by decide⟩]
    let content := Text.Utf8.encode "x"
    let disk := ((((Disk.workingIn ⟨"/w"⟩).put folder .folder).put here
      (.file (Text.Utf8.encode "[[A]]"))).put other (.file [])).put (folder ++ [⟨"a", by decide⟩])
      (.link ⟨"/b"⟩)
    let template : Path := ⟨".//d/./a.tpl"⟩
    let output : Path := ⟨".//d/a"⟩
    let after := (disk.put other (.file content)).erase here
    ".tpl" ≠ "" ∧ outputPath? template ".tpl" = some output ∧
    disk.has template.address = true ∧
    materialize disk template.place output.place content = .ok after ∧
    after.has template.address = false ∧ after.read output.address = .ok content := by
  intro folder here other content disk template output after
  have hOutput : outputPath? template ".tpl" = some output := by decide +kernel
  have hTemplate : disk.has template.address = true := by decide +kernel
  have hMaterialize : materialize disk template.place output.place content = .ok after := by
    decide +kernel
  have hReach : disk.reach template.address =
      .ok (.taken here (.file (Text.Utf8.encode "[[A]]")) Address.linkLimit) := by
    decide +kernel
  have hOff : here ∉ disk.way output.address := by decide +kernel
  have hMoved := materialize_moves_unless_linked content (by decide) hOutput hTemplate
  rw [hMaterialize] at hMoved
  obtain ⟨hGone, place, node, links, there, hHere, -, -, hRead, -⟩ := hMoved
  cases hReach.symm.trans hHere
  rw [if_neg hOff] at hRead
  exact ⟨by decide, hOutput, hTemplate, hMaterialize, hGone, hRead⟩

/-- A template whose output is a link to it is reported as materialized, and its content is
nowhere to be found. -/
theorem materialize_loses_content_over_link_to_template :
    let name : Name := ⟨"a.tpl", by decide⟩
    let disk := (Disk.empty.put [name] (.file (Text.Utf8.encode "[[A]]"))).put
      [⟨"a", by decide⟩] (.link ⟨"a.tpl"⟩)
    let template : Path := ⟨"a.tpl"⟩
    let output : Path := ⟨"a"⟩
    let content := Text.Utf8.encode "x"
    let after := (disk.put [name] (.file content)).erase [name]
    outputPath? template ".tpl" = some output ∧
    disk.has template.address = true ∧ disk.hasLink output.address = true ∧
    materialize disk template.place output.place content = .ok after ∧
    after.read output.address = .error .missing ∧
    after.nodes.entries.map Prod.snd = [.link ⟨"a.tpl"⟩] := by
  intro name disk template output content after
  exact ⟨by decide +kernel, by decide +kernel, by decide +kernel, by decide +kernel,
    by decide +kernel, by decide +kernel⟩

end Stencil.Template
