import Stencil.Proofs.Disk.Resolution
import Stencil.Proofs.Path

/-! The steps of a written path. They end with the name that the path ends with, so that what is
found at the end of them bears that name. The path of an entry leads to where the entry leads from
its folder. -/

namespace Stencil

theorem Name.ofText?_eq_some_iff {text : String} {name : Name} :
    ofText? text = some name ↔ text = name.text := by
  constructor
  · intro hName
    rw [ofText?] at hName
    split_ifs at hName
    rw [← Option.some.inj hName]
  · rintro rfl
    rw [ofText?, dif_pos name.proper]

theorem Step.ofPart_name (name : Name) : ofPart name.text.toList = enter name := by
  rw [ofPart, if_neg name.ne_nil, if_neg name.ne_dot, if_neg name.ne_dots, String.ofList_toList,
    Name.ofText?_eq_some_iff.mpr rfl]

/-- A part enters what it names, letter by letter. -/
theorem Step.ofPart_eq_enter_iff {part : List Char} {name : Name} :
    ofPart part = enter name ↔ part = name.text.toList := by
  constructor
  · intro hStep
    rw [ofPart] at hStep
    split_ifs at hStep
    split at hStep
    · next entry hEntry =>
        obtain rfl := enter.inj hStep
        rw [← Name.ofText?_eq_some_iff.mp hEntry, String.toList_ofList]
    · cases hStep
  · rintro rfl
    exact ofPart_name name

theorem Step.ofParts_append {parts : List (List Char)} (hParts : parts ≠ [])
    (more : List (List Char)) : ofParts (parts ++ more) = ofParts parts ++ more.map ofPart := by
  obtain ⟨part, parts, rfl⟩ := List.exists_cons_of_ne_nil hParts
  cases part <;> simp [ofParts]

namespace Path

theorem steps_of_ne {path : Path} (hText : path.text ≠ "") :
    path.steps = Step.ofParts (Occurrence.fields '/' path.text.toList) := by
  rw [steps, if_neg (mt String.isEmpty_iff.mp hText)]

/-- What stands in front of a slash is taken step by step before what follows it. -/
theorem steps_of_slash {path : Path} {init part : List Char}
    (hText : path.text.toList = init ++ '/' :: part) (hPart : '/' ∉ part) :
    path.steps = Step.ofParts (Occurrence.fields '/' init) ++ [Step.ofPart part] := by
  have hNe : path.text ≠ "" := mt String.toList_eq_nil_iff.mpr (by simp [hText])
  rw [steps_of_ne hNe, hText, Occurrence.fields_append_of_not_mem init hPart,
    Step.ofParts_append (Occurrence.fields_ne_nil '/' init)]
  rfl

/-- The last step of a path is that of its last part. -/
theorem steps_of_text {path : Path} {front part : List Char}
    (hText : path.text.toList = front ++ part)
    (hFront : front = [] ∨ ∃ init, front = init ++ ['/']) (hPart : '/' ∉ part) :
    path.steps = [.nowhere] ∨ ∃ before, path.steps = before ++ [Step.ofPart part] := by
  rcases hFront with rfl | ⟨init, rfl⟩
  · rw [List.nil_append] at hText
    cases part with
    | nil =>
        rw [steps, if_pos (String.isEmpty_iff.mpr (String.toList_eq_nil_iff.mp hText))]
        exact .inl rfl
    | cons c rest =>
        have hNe : path.text ≠ "" := mt String.toList_eq_nil_iff.mpr (by simp [hText])
        rw [steps_of_ne hNe, hText, Occurrence.fields_of_not_mem hPart]
        exact .inr ⟨[], rfl⟩
  · rw [List.append_assoc] at hText
    exact .inr ⟨_, steps_of_slash hText hPart⟩

/-- A path that ends with the step to an entry has the name of the entry. -/
theorem fileName?_of_steps {path : Path} {front : List Step} {name : Name}
    (hSteps : path.steps = front ++ [.enter name]) : path.fileName? = some name.text := by
  obtain ⟨before, part, hFields⟩ :=
    (List.eq_nil_or_concat _).resolve_left (Occurrence.fields_ne_nil '/' path.text.toList)
  rw [List.concat_eq_append] at hFields
  obtain ⟨start, hText, hStart⟩ := Occurrence.eq_append_of_fields hFields
  have hPart : '/' ∉ part := Occurrence.not_mem_of_mem_fields (hFields ▸ List.mem_concat_self)
  rcases steps_of_text hText hStart hPart with hNowhere | ⟨before, hLast⟩
  · rw [hNowhere] at hSteps
    cases front <;> simp at hSteps
  · obtain ⟨-, hSame⟩ := List.append_inj' (hLast.symm.trans hSteps) rfl
    obtain rfl := Step.ofPart_eq_enter_iff.mp (List.singleton_inj.mp hSame)
    exact fileName?_of_text hText hStart

/-- A path to which a part is joined ends with the step that the part stands for. -/
theorem steps_join (path : Path) {name : String} (hName : '/' ∉ name.toList) :
    (path.join name).steps = [.nowhere] ∨
      ∃ front, (path.join name).steps = front ++ [Step.ofPart name.toList] := by
  obtain ⟨front, hText, hFront⟩ := path.toList_join hName
  exact steps_of_text hText hFront hName

/-- The path of an entry takes the steps of its folder and then one more. A slash that ends the
path of the folder is no step of its own. -/
theorem steps_join_name {path : Path} (hSteps : path.steps ≠ [.nowhere]) (name : Name) :
    ∃ front tail, (path.join name.text).steps = front ++ [.enter name] ∧
      path.steps = front ++ tail ∧ (tail = [] ∨ tail = [.blank]) := by
  have hNe : path.text ≠ "" := by
    intro hEmpty
    exact hSteps (by rw [steps, hEmpty]; rfl)
  rcases text_join_of_ne hNe name.slash_not_mem with ⟨init, hInit, hJoin⟩ | hJoin
  · refine ⟨_, [.blank], ?_, steps_of_slash hInit List.not_mem_nil, .inr rfl⟩
    rw [steps_of_slash hJoin name.slash_not_mem, Step.ofPart_name]
  · refine ⟨path.steps, [], ?_, (List.append_nil _).symm, .inl rfl⟩
    rw [steps_of_slash hJoin name.slash_not_mem, Step.ofPart_name, steps_of_ne hNe]

end Path

namespace Step

theorem ofPart_ne_here (part : List Char) : ofPart part ≠ here := by
  rw [ofPart]
  split_ifs
  · exact nofun
  · exact nofun
  · exact nofun
  · split <;> exact nofun

theorem here_not_mem_ofParts (parts : List (List Char)) : here ∉ ofParts parts := by
  have hParts (parts : List (List Char)) : here ∉ parts.map ofPart := by
    intro hHere
    obtain ⟨part, -, hPart⟩ := List.mem_map.mp hHere
    exact ofPart_ne_here part hPart
  unfold ofParts
  split
  · exact fun hHere => (List.mem_cons.mp hHere).elim nofun (hParts _)
  · exact hParts parts

end Step

/-- No written path, and so no link, goes back to the working folder. -/
theorem Path.here_not_mem_steps (path : Path) : Step.here ∉ path.steps := by
  rw [steps]
  split
  · simp
  · exact Step.here_not_mem_ofParts _

namespace Disk

/-- Where steps lead from a folder does not depend on where the program works, whatever links they
lead through. -/
theorem find_workingFolder (disk : Disk) (workingFolder : Location) (through : Bool) (links : Nat)
    (folder : Location) {steps : List Step} (hSteps : Step.here ∉ steps) :
    { disk with workingFolder }.find through links folder steps =
      disk.find through links folder steps := by
  induction links, steps using steps_induction generalizing folder with
  | nil links => simp
  | cons links step steps ih behind =>
      have hLater : Step.here ∉ steps := fun hHere => hSteps (List.mem_cons_of_mem _ hHere)
      cases step with
      | here => exact absurd List.mem_cons_self hSteps
      | blank | stay | up | top => simpa using ih _ hLater
      | nowhere => simp
      | enter name =>
          have hSame : { disk with workingFolder }.get? (folder ++ [name]) =
              disk.get? (folder ++ [name]) := rfl
          rw [find_enter_cons, find_enter_cons, hSame]
          cases disk.get? (folder ++ [name]) with
          | none => rfl
          | some node =>
              cases node with
              | file content => rfl
              | folder => exact ih _ hLater
              | link target =>
                  dsimp only
                  split
                  · rfl
                  · cases links with
                    | zero => rfl
                    | succ fewer =>
                        refine behind fewer _ rfl _ fun hHere => ?_
                        exact (List.mem_append.mp hHere).elim target.here_not_mem_steps hLater

/-- A path that begins with a slash leads to the same from wherever the program works. -/
theorem follow_of_absolute (disk : Disk) (workingFolder : Location) {path : Path}
    {rest : List Char} (hPath : path.text.toList = '/' :: rest) :
    { disk with workingFolder }.follow path.address = disk.follow path.address := by
  have hText : path.text ≠ "" := mt String.toList_eq_nil_iff.mpr (by simp [hPath])
  have hSteps : path.steps = .top :: (Occurrence.fields '/' rest).map Step.ofPart := by
    rw [Path.steps_of_ne hText, hPath]
    rfl
  have hHere := path.here_not_mem_steps
  rw [hSteps] at hHere
  rw [follow, follow, Path.address, find_here, find_here, hSteps, find_top, find_top]
  exact disk.find_workingFolder workingFolder true _ [] fun hMem =>
    hHere (List.mem_cons_of_mem _ hMem)

/-- The same file at the top, over an absolute link in the working folder and by a relative path. -/
example :
    let disk := ((Disk.workingIn ⟨"/w"⟩).put [⟨"a", by decide⟩] (.file [])).put
      [⟨"w", by decide⟩, ⟨"l", by decide⟩] (.link ⟨"/a"⟩)
    disk.node (Path.address ⟨"l"⟩) = .ok (.file []) ∧
      disk.node (Path.address ⟨"../a"⟩) = .ok (.file []) := by
  decide +kernel

/-- Steps that lead to a folder are taken before others that go on from there. -/
theorem find_append {disk : Disk} {links left : Nat} {folder location : Location}
    {front tail : List Step} (rest : List Step) (hTail : tail = [] ∨ tail = [.blank])
    (hFind : disk.find true links folder (front ++ tail) = .ok (.taken location .folder left)) :
    disk.find true links folder (front ++ rest) = disk.find true left location rest := by
  induction links, front using steps_induction generalizing folder with
  | nil links =>
      have hHere : disk.find true links folder tail = .ok (.taken folder .folder links) := by
        rcases hTail with rfl | rfl <;> simp
      obtain ⟨rfl, -, rfl⟩ := Spot.taken.inj (Except.ok.inj (hHere.symm.trans hFind))
      rfl
  | cons links step front ih behind =>
      cases step with
      | blank | stay | up | top | here => simpa using ih (by simpa using hFind)
      | nowhere => simp at hFind
      | enter name =>
          rw [List.cons_append] at hFind ⊢
          generalize hSpot : Spot.taken location .folder left = spot at hFind
          cases enters_of_find hFind with
          | free => cases hSpot
          | ends _ _ hPlain =>
              obtain ⟨-, rfl, -⟩ := Spot.taken.inj hSpot
              exact absurd rfl hPlain
          | inside hNode hRest =>
              subst hSpot
              rw [find_inside hNode, ih hRest]
          | @behind target fewer _ hNode _ hLinks hRest =>
              subst hSpot hLinks
              rw [← List.append_assoc] at hRest
              rw [find_behind hNode fun _ => rfl, ← List.append_assoc, behind fewer _ rfl hRest]

variable {disk : Disk} {path : Path} {folder : Location} {links : Nat}

/-- The path of an entry leads to where the entry leads from its folder. -/
theorem follow_join (hFolder : disk.enter path.address = .ok (folder, links)) (name : Name) :
    disk.follow (path.join name.text).address = disk.follow ⟨folder, [.enter name], links⟩ := by
  have hFind : disk.find true Address.linkLimit disk.workingFolder path.steps =
      .ok (.taken folder .folder links) := by
    rw [enter] at hFolder
    split at hFolder
    · next hFollow =>
        cases hFolder
        rwa [follow, Path.address, find_here] at hFollow
    · cases hFolder
    · cases hFolder
    · cases hFolder
  have hSteps : path.steps ≠ [.nowhere] := by
    intro hNowhere
    rw [hNowhere, find_nowhere] at hFind
    cases hFind
  obtain ⟨front, tail, hJoin, hPath, hTail⟩ := Path.steps_join_name hSteps name
  rw [hPath] at hFind
  rw [follow, follow, Path.address, find_here, hJoin]
  exact find_append _ hTail hFind

theorem node_join (hFolder : disk.enter path.address = .ok (folder, links)) (name : Name) :
    disk.node (path.join name.text).address = disk.node ⟨folder, [.enter name], links⟩ := by
  rw [node, node, follow_join hFolder]

/-- The path of a folder that lies in another one leads there. -/
theorem enter_join (hFolder : disk.enter path.address = .ok (folder, links)) {name : Name}
    (hNode : disk.get? (folder ++ [name]) = some .folder) :
    disk.enter (path.join name.text).address = .ok (folder ++ [name], links) := by
  rw [enter, follow_join hFolder, follow, find_inside hNode, find_nil]

end Disk

end Stencil
