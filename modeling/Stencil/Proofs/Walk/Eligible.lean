import Stencil.Proofs.Filter
import Stencil.Proofs.Template
import Stencil.Proofs.Text.Utf8
import Stencil.Proofs.Walk.Calls
import Stencil.Proofs.Walk.Visits

/-! Which files a walk visits, and in which order, told without the walk: by the folders that lead
to a file, by what its name leads to, and by its path from the root. The order is one on locations
alone. On any disk, with links of all kinds, a walk that does not change the disk calls its visitor
for these files in this order. -/

namespace Stencil.Walk

/-- Going down through these names, each leads to a real folder, and to none that is always
skipped. -/
def Passage (disk : Disk) : Location → List Name → Prop
  | _, [] => True
  | folder, name :: names =>
      disk.get? (folder ++ [name]) = some .folder ∧ Filter.isSkippedFolder name.text = false ∧
        Passage disk (folder ++ [name]) names

/-- A file that is to be visited, below `folder` in the folders of these names. -/
structure Eligible (plan : Plan) (disk : Disk) (links : Nat) (path relative : Path)
    (folder : Location) (names : List Name) (file : Visited) : Prop where
  passage : Passage disk folder names
  address_eq : file.place.address = ⟨folder ++ names, [.enter file.name], links⟩
  path_eq : file.place.path = path.descend (names ++ [file.name])
  relative_eq : file.relative = relative.descend (names ++ [file.name])
  /-- The name leads to a regular file, through links if need be. -/
  node_eq : disk.node file.place.address = .ok (.file file.content)
  suffix : ∀ suffix ∈ plan.suffix?, ∃ stem, stem ≠ "" ∧ file.name.text = stem ++ suffix
  unignored : plan.filter.isIgnored file.relative = false
  size_le : file.content.length ≤ plan.filter.sizeLimit
  text : Binary.isFile file.place.path file.content = false

theorem any_isTemplate_eq_false_iff {suffix? : Option String} {path : Path} {name : Name} :
    (suffix?.any fun suffix => !Template.isTemplate (path.join name.text) suffix) = false ↔
      ∀ suffix ∈ suffix?, ∃ stem, stem ≠ "" ∧ name.text = stem ++ suffix := by
  cases suffix? with
  | none => simp
  | some suffix =>
      have hTemplate : Template.isTemplate (path.join name.text) suffix = true ↔
          ∃ stem, stem ≠ "" ∧ name.text = stem ++ suffix := by
        rw [Template.isTemplate, Path.fileName?_join, Option.bind_some, Option.isSome_iff_exists]
        exact exists_congr fun stem => Template.stem?_eq_some_iff.trans and_comm
      simp [hTemplate]

section Membership

variable {plan : Plan} {disk : Disk} {links : Nat} {path relative : Path} {folder : Location}
  {name : Name} {names : List Name} {file : Visited}

/-- A file right in the folder is visited at its own waypoint. -/
theorem visited?_entry_iff :
    (Waypoint.entry path relative folder name
        (plan.look disk links path relative folder name)).visited? links = some file ↔
      file.name = name ∧ Eligible plan disk links path relative folder [] file := by
  constructor
  · intro hVisited
    cases hLook : plan.look disk links path relative folder name with
    | visit content =>
        obtain ⟨hNode, hFile⟩ := Plan.judge_eq_visit_iff.mp hLook
        obtain ⟨-, hSuffix, hCheck, hText⟩ := Plan.judgeFile_eq_visit_iff.mp hFile
        obtain ⟨hIgnored, hSize⟩ := Filter.check_file_eq_eligible_iff.mp hCheck
        rw [hLook] at hVisited
        cases hVisited
        refine ⟨rfl, trivial, ?_, rfl, rfl, hNode, any_isTemplate_eq_false_iff.mp hSuffix,
          hIgnored, hSize, hText⟩
        rw [List.append_nil]
    | _ =>
        rw [hLook] at hVisited
        cases hVisited
  · rintro ⟨rfl, hFile⟩
    obtain ⟨⟨shown, address⟩, name, relative', content⟩ := file
    obtain ⟨-, hAddress, hPath, hRelative, hNode, hSuffix, hIgnored, hSize, hText⟩ := hFile
    simp only [List.append_nil] at hAddress
    dsimp only at hPath hRelative
    subst hAddress hPath hRelative
    have hLook : plan.look disk links path relative folder name = .visit content :=
      Plan.judge_eq_visit_iff.mpr ⟨hNode, Plan.judgeFile_eq_visit_iff.mpr ⟨rfl,
        any_isTemplate_eq_false_iff.mpr hSuffix,
        Filter.check_file_eq_eligible_iff.mpr ⟨hIgnored, hSize⟩, hText⟩⟩
    rw [hLook]
    rfl

/-- A file is below the folder if it is below one of the folders in it. -/
theorem eligible_cons_iff :
    Eligible plan disk links path relative folder (name :: names) file ↔
      (disk.get? (folder ++ [name]) = some .folder ∧
        Filter.isSkippedFolder name.text = false) ∧
        Eligible plan disk links (path.join name.text) (relative.join name.text)
          (folder ++ [name]) names file := by
  have hNames : folder ++ name :: names = folder ++ [name] ++ names := List.append_cons ..
  constructor
  · intro hFile
    obtain ⟨hFolder, hName, hPassage⟩ := hFile.passage
    exact ⟨⟨hFolder, hName⟩,
      { hFile with passage := hPassage, address_eq := hNames ▸ hFile.address_eq }⟩
  · rintro ⟨⟨hFolder, hName⟩, hFile⟩
    exact { hFile with
      passage := ⟨hFolder, hName, hFile.passage⟩
      address_eq := hNames ▸ hFile.address_eq }

/-- The folder that leads to a file to be visited is entered: if it were ignored, so would be
the file. -/
theorem look_eq_folder (hFolder : disk.get? (folder ++ [name]) = some .folder)
    (hName : Filter.isSkippedFolder name.text = false)
    (hFile : Eligible plan disk links (path.join name.text) (relative.join name.text)
      (folder ++ [name]) names file) :
    plan.look disk links path relative folder name = .folder := by
  refine Plan.judge_eq_folder_iff.mpr ⟨hFolder, Filter.check_folder_eq_eligible_iff.mpr ⟨?_, ?_⟩⟩
  · rw [Bool.eq_false_iff]
    intro hIgnored
    have hInside := Filter.isIgnored_descend (names ++ [file.name]) hIgnored
    rw [← hFile.relative_eq, hFile.unignored] at hInside
    cases hInside
  · rw [Path.fileName?_join]
    exact hName

theorem mem_listing_of_get? (hNode : disk.get? (folder ++ [name]) ≠ none) :
    name ∈ disk.listing folder :=
  Disk.mem_listing_iff.mpr (Disk.mem_keys_of_get? (by simp) hNode)

/-- An itinerary of some height has the files that lie less deep. -/
theorem mem_itinerary_iff {height : Nat} :
    file ∈ (itinerary plan disk links height path relative folder).filterMap
        (Waypoint.visited? links) ↔
      ∃ names : List Name, names.length < height ∧
        Eligible plan disk links path relative folder names file := by
  induction height generalizing path relative folder with
  | zero => simp [itinerary]
  | succ height ih =>
      rw [itinerary, List.filterMap_cons_none (by rfl), List.filterMap_append, List.mem_append]
      constructor
      · rintro (hHere | hBelow)
        · obtain ⟨point, hPoint, hVisited⟩ := List.mem_filterMap.mp hHere
          obtain ⟨name, -, rfl⟩ := List.mem_map.mp hPoint
          exact ⟨[], by simp, (visited?_entry_iff.mp hVisited).2⟩
        · rw [List.filterMap_flatMap] at hBelow
          obtain ⟨name, hName, hInner⟩ := List.mem_flatMap.mp hBelow
          obtain ⟨names, hLength, hFile⟩ := ih.mp hInner
          have hLook := of_decide_eq_true (List.mem_filter.mp hName).2
          obtain ⟨hFolder, hCheck⟩ := Plan.judge_eq_folder_iff.mp hLook
          have hSkipped := (Filter.check_folder_eq_eligible_iff.mp hCheck).2
          rw [Path.fileName?_join] at hSkipped
          exact ⟨name :: names, Nat.succ_lt_succ hLength,
            eligible_cons_iff.mpr ⟨⟨hFolder, hSkipped⟩, hFile⟩⟩
      · rintro ⟨names, hLength, hFile⟩
        cases names with
        | nil =>
            have hNode := hFile.node_eq
            rw [hFile.address_eq, List.append_nil] at hNode
            refine .inl (List.mem_filterMap.mpr ⟨_, List.mem_map_of_mem (mem_listing_of_get?
              (Disk.get?_ne_none_of_node hNode)), visited?_entry_iff.mpr ⟨rfl, hFile⟩⟩)
        | cons name names =>
            obtain ⟨⟨hFolder, hName⟩, hInner⟩ := eligible_cons_iff.mp hFile
            rw [List.filterMap_flatMap]
            refine .inr (List.mem_flatMap.mpr ⟨name, List.mem_filter.mpr ⟨?_, ?_⟩, ?_⟩)
            · exact mem_listing_of_get? (by simp [hFolder])
            · exact decide_eq_true (look_eq_folder hFolder hName hInner)
            · exact ih.mpr ⟨names, Nat.lt_of_succ_lt_succ hLength, hInner⟩

/-- No file lies deeper than the height of a walk allows. -/
theorem Eligible.length_lt (hFile : Eligible plan disk links path relative folder names file) :
    names.length < disk.depth + 1 := by
  have hNode := hFile.node_eq
  rw [hFile.address_eq] at hNode
  have hDepth := Disk.length_le_depth
    (Disk.mem_keys_of_get? (by simp) (Disk.get?_ne_none_of_node hNode))
  simp only [List.length_append] at hDepth
  omega

/-- A walk visits the files that are to be visited, and no others. -/
theorem mem_visits_iff {root : Path} {base : Location}
    (hRoot : disk.enter root.address = .ok (base, links)) :
    file ∈ visits plan disk root ↔
      ∃ names, Eligible plan disk links root ⟨""⟩ base names file := by
  rw [visits, hRoot]
  refine mem_itinerary_iff.trans (exists_congr fun names => ?_)
  exact ⟨And.right, fun hFile => ⟨hFile.length_lt, hFile⟩⟩

end Membership

/-- The order of a walk: the files in a folder by the bytes of their names, and then what lies in
its folders, by the bytes of theirs. -/
inductive Sooner : Location → Location → Prop
  | file {first second : Name}
      (hNames : Text.Utf8.encode first.text < Text.Utf8.encode second.text) :
      Sooner [first] [second]
  | inside (first folder next : Name) (rest : Location) : Sooner [first] (folder :: next :: rest)
  | folder {first second next next' : Name} {rest rest' : Location}
      (hNames : Text.Utf8.encode first.text < Text.Utf8.encode second.text) :
      Sooner (first :: next :: rest) (second :: next' :: rest')
  | within {folder : Name} {first second : Location} (hRest : Sooner first second) :
      Sooner (folder :: first) (folder :: second)

namespace Sooner

variable {first second : Location}

theorem append (folder : Location) (hSooner : Sooner first second) :
    Sooner (folder ++ first) (folder ++ second) := by
  induction folder with
  | nil => exact hSooner
  | cons name folder ih => exact .within ih

theorem ne_nil_left (hSooner : Sooner first second) : first ≠ [] := by
  cases hSooner <;> simp

theorem ne_nil_right (hSooner : Sooner first second) : second ≠ [] := by
  cases hSooner <;> simp

theorem encode_asymm {name other : Name}
    (hNames : Text.Utf8.encode name.text < Text.Utf8.encode other.text) :
    ¬ Text.Utf8.encode other.text < Text.Utf8.encode name.text := by
  rw [Text.Utf8.encode_lt_encode_iff] at hNames ⊢
  exact lt_asymm hNames

theorem asymm (hSooner : Sooner first second) : ¬ Sooner second first := by
  induction hSooner with
  | file hNames =>
      intro hBack
      cases hBack with
      | file hNames' => exact encode_asymm hNames hNames'
      | within hRest => exact hRest.ne_nil_left rfl
  | inside first folder next rest =>
      intro hBack
      cases hBack with
      | within hRest => exact hRest.ne_nil_right rfl
  | folder hNames =>
      intro hBack
      cases hBack with
      | folder hNames' => exact encode_asymm hNames hNames'
      | within hRest => exact encode_asymm hNames hNames
  | within hRest ih =>
      intro hBack
      cases hBack with
      | file hNames => exact encode_asymm hNames hNames
      | inside => exact hRest.ne_nil_right rfl
      | folder hNames => exact encode_asymm hNames hNames
      | within hRest' => exact ih hRest'

theorem irrefl (location : Location) : ¬ Sooner location location :=
  fun hSooner => hSooner.asymm hSooner

end Sooner

section Order

variable {plan : Plan} {disk : Disk} {links : Nat} {path relative : Path} {folder : Location}

theorem Eligible.location_eq {names : List Name} {file : Visited}
    (hFile : Eligible plan disk links path relative folder names file) :
    file.location = folder ++ (names ++ [file.name]) := by
  rw [Visited.location, hFile.address_eq, List.append_assoc]

/-- A location settles all about a file but its content. -/
theorem Eligible.eq_of_location {plan' : Plan} {disk' : Disk} {names names' : List Name}
    {first second : Visited}
    (hFirst : Eligible plan disk links path relative folder names first)
    (hSecond : Eligible plan' disk' links path relative folder names' second)
    (hSame : first.location = second.location) :
    names = names' ∧ { first with content := second.content } = second := by
  have hNames : names ++ [first.name] = names' ++ [second.name] := by
    rw [hFirst.location_eq, hSecond.location_eq] at hSame
    exact List.append_cancel_left hSame
  obtain ⟨rfl, hName⟩ := List.append_inj' hNames rfl
  have hName : first.name = second.name := List.singleton_inj.mp hName
  have hAddress : first.place.address = second.place.address := by
    rw [hFirst.address_eq, hSecond.address_eq, hName]
  have hPath : first.place.path = second.place.path := by
    rw [hFirst.path_eq, hSecond.path_eq, hName]
  have hRelative : first.relative = second.relative := by
    rw [hFirst.relative_eq, hSecond.relative_eq, hName]
  refine ⟨rfl, ?_⟩
  obtain ⟨⟨shown, address⟩, name, relative', content⟩ := first
  obtain ⟨⟨shown', address'⟩, name', relative'', content'⟩ := second
  dsimp only at hName hAddress hPath hRelative
  subst hName hAddress hPath hRelative
  rfl

/-- The same folders are gone through on a disk on which only contents differ. -/
theorem passage_of_sameShape {after : Disk} (hShape : disk.SameShape after) {names : List Name} :
    Passage after folder names ↔ Passage disk folder names := by
  induction names generalizing folder with
  | nil => exact Iff.rfl
  | cons name names ih => rw [Passage, Passage, Disk.get?_eq_folder_iff hShape, ih]

/-- A file stays eligible if its new content allows it. -/
theorem Eligible.update {after : Disk} {names : List Name} {file : Visited} {content : Bytes}
    (hFile : Eligible plan disk links path relative folder names file)
    (hShape : disk.SameShape after) (hFree : after.LinkFree)
    (hNode : after.get? file.location = some (.file content))
    (hSize : content.length ≤ plan.filter.sizeLimit)
    (hText : Binary.isFile file.place.path content = false) :
    Eligible plan after links path relative folder names { file with content := content } := by
  have hContent : after.node file.place.address = .ok (.file content) := by
    rw [Visited.location, hFile.address_eq] at hNode
    rw [hFile.address_eq]
    exact (Disk.node_enter_eq_ok_iff hFree).mpr hNode
  exact { hFile with
    passage := (passage_of_sameShape hShape).mpr hFile.passage
    node_eq := hContent
    size_le := hSize
    text := hText }

theorem Eligible.get?_location {names : List Name} {file : Visited} (hFree : disk.LinkFree)
    (hFile : Eligible plan disk links path relative folder names file) :
    disk.get? file.location = some (.file file.content) := by
  have hNode := hFile.node_eq
  rw [hFile.address_eq, Disk.node_enter_eq_ok_iff hFree] at hNode
  rw [Visited.location, hFile.address_eq]
  exact hNode

/-- What lies in a folder has a location of at least two names from where the folder lies. -/
theorem exists_location_below {height : Nat} {name : Name} {file : Visited}
    (hMem : file ∈ (itinerary plan disk links height path relative (folder ++ [name])).filterMap
      (Waypoint.visited? links)) :
    ∃ next rest, file.location = folder ++ name :: next :: rest := by
  obtain ⟨names, -, hFile⟩ := mem_itinerary_iff.mp hMem
  obtain ⟨next, rest, hNames⟩ := List.exists_cons_of_ne_nil
    (List.append_ne_nil_of_right_ne_nil names (List.cons_ne_nil file.name []))
  refine ⟨next, rest, ?_⟩
  rw [hFile.location_eq, hNames, List.append_assoc, List.singleton_append]

theorem pairwise_filterMap_itinerary {height : Nat} :
    ((itinerary plan disk links height path relative folder).filterMap
      (Waypoint.visited? links)).Pairwise fun first second =>
        Sooner first.location second.location := by
  induction height generalizing path relative folder with
  | zero => exact List.Pairwise.nil
  | succ height ih =>
      have hListing : (disk.listing folder).Pairwise fun first second =>
          Text.Utf8.encode first.text < Text.Utf8.encode second.text :=
        (disk.pairwise_listing folder).imp Text.Utf8.encode_lt_encode_iff.mpr
      rw [itinerary, List.filterMap_cons_none (by rfl), List.filterMap_append,
        List.filterMap_flatMap, List.filterMap_map, List.pairwise_append, List.pairwise_flatMap]
      have hHere {file : Visited} {name : Name} (hVisited : (Waypoint.entry path relative folder
          name (plan.look disk links path relative folder name)).visited? links = some file) :
          file.location = folder ++ [name] := by
        obtain ⟨rfl, hFile⟩ := visited?_entry_iff.mp hVisited
        exact hFile.location_eq
      refine ⟨?_, ⟨fun name _ => ih, ?_⟩, ?_⟩
      · refine List.pairwise_filterMap.mpr (hListing.imp ?_)
        intro name other hNames first hFirst second hSecond
        rw [hHere hFirst, hHere hSecond]
        exact (Sooner.file hNames).append folder
      · refine (hListing.filter _).imp ?_
        intro name other hNames first hFirst second hSecond
        obtain ⟨next, rest, hLocation⟩ := exists_location_below hFirst
        obtain ⟨next', rest', hLocation'⟩ := exists_location_below hSecond
        rw [hLocation, hLocation']
        exact (Sooner.folder hNames).append folder
      · intro first hFirst second hSecond
        obtain ⟨name, -, hVisited⟩ := List.mem_filterMap.mp hFirst
        obtain ⟨other, -, hInner⟩ := List.mem_flatMap.mp hSecond
        obtain ⟨next, rest, hLocation⟩ := exists_location_below hInner
        rw [hHere hVisited, hLocation]
        exact (Sooner.inside name other next rest).append folder

/-- Files are visited in the order of a walk. -/
theorem pairwise_sooner {root : Path} :
    (visits plan disk root).Pairwise fun first second =>
      Sooner first.location second.location := by
  unfold visits
  split
  · exact List.Pairwise.nil
  · exact pairwise_filterMap_itinerary

/-- No file is visited twice. -/
theorem nodup_location {root : Path} : ((visits plan disk root).map Visited.location).Nodup := by
  refine List.pairwise_map.mpr (pairwise_sooner.imp fun hSooner hSame => ?_)
  exact Sooner.irrefl _ (hSame ▸ hSooner)

/-- Files that are shown alike are the same file. -/
theorem location_eq_of_path_eq {root : Path} {first second : Visited}
    (hFirst : first ∈ visits plan disk root) (hSecond : second ∈ visits plan disk root)
    (hPath : first.place.path = second.place.path) : first.location = second.location := by
  cases hRoot : disk.enter root.address with
  | error cause =>
      rw [visits, hRoot] at hFirst
      exact absurd hFirst List.not_mem_nil
  | ok inside =>
      obtain ⟨base, links⟩ := inside
      obtain ⟨names, hFile⟩ := (mem_visits_iff hRoot).mp hFirst
      obtain ⟨names', hFile'⟩ := (mem_visits_iff hRoot).mp hSecond
      rw [hFile.path_eq, hFile'.path_eq] at hPath
      have hNames := Path.descend_injective (by simp) (by simp) hPath
      rw [hFile.location_eq, hFile'.location_eq, hNames]

theorem nodup_path {root : Path} :
    ((visits plan disk root).map fun file => file.place.path).Nodup := by
  refine List.pairwise_map.mpr (pairwise_sooner.imp_of_mem ?_)
  intro first second hFirst hSecond hSooner hPath
  rw [location_eq_of_path_eq hFirst hSecond hPath] at hSooner
  exact Sooner.irrefl _ hSooner

/-- What is visited, and in which order, is settled by which files there are. -/
theorem visits_eq {root : Path} {files : List Visited}
    (hMem : ∀ file, file ∈ files ↔ file ∈ visits plan disk root)
    (hOrder : files.Pairwise fun first second => Sooner first.location second.location) :
    files = visits plan disk root := by
  have hNodup {files : List Visited}
      (hOrder : files.Pairwise fun first second => Sooner first.location second.location) :
      files.Nodup := by
    refine hOrder.imp ?_
    rintro first second hSooner rfl
    exact Sooner.irrefl _ hSooner
  refine List.Perm.eq_of_pairwise ?_ hOrder pairwise_sooner
    ((List.perm_ext_iff_of_nodup (hNodup hOrder) (hNodup pairwise_sooner)).mpr hMem)
  intro first second _ _ hSooner hBack
  exact absurd hBack hSooner.asymm

end Order

/-- A walk ends on every disk, with whatever links. A visitor that changes no disk is called once
for each file that is to be visited, in the order of a walk, and for no other file. The first call
that fails ends the walk. That a folder is ignored is no matter here: only files are told apart by
the patterns. -/
theorem run_visits_what_is_eligible {β : Type} (plan : Plan)
    {visit : Visited → Progress β → Result β} (hKeeps : KeepsDisk visit) (root : Path)
    (progress : Progress β) {base : Location} {links : Nat}
    (hRoot : progress.disk.enter root.address = .ok (base, links)) :
    let files := visits plan progress.disk root
    (∀ file, file ∈ files ↔
      ∃ names, Eligible plan progress.disk links root ⟨""⟩ base names file) ∧
    (files.map Visited.location).Nodup ∧
    (files.Pairwise fun first second => Sooner first.location second.location) ∧
    Dispatches visit files progress (run plan root visit progress) ∧
    ((∀ file progress, ∃ after, visit file progress = .ok after) →
      ∃ after, run plan root visit progress = .ok after) := by
  intro files
  have hResult : Dispatches visit files progress (run plan root visit progress) :=
    dispatches_run_of_keepsDisk hKeeps hRoot
  exact ⟨fun file => mem_visits_iff hRoot, nodup_location, pairwise_sooner, hResult,
    hResult.ok_of_succeeds⟩

/-- Links to files are read through, inside the root and out of it. Links that lead round in a
circle or nowhere end nothing, and neither an ignored folder, nor one that is always skipped, nor a
file that is too large, is looked at. The visitor fails at the fourth file, in the folder. -/
theorem run_visits_what_is_eligible_until_failure :
    let inside (name : String) (proper : Name.isProper name = true) : Location :=
      [⟨"r", by decide⟩, ⟨name, proper⟩]
    let deeper (name : String) (proper : Name.isProper name = true) : Location :=
      inside name proper ++ [⟨"x", by decide⟩]
    let file (text : String) : Node := .file (Text.Utf8.encode text)
    let disk := [(inside "b" (by decide), file "1"),
      (inside "c" (by decide), .link ⟨"b"⟩), (inside "d" (by decide), .link ⟨"nowhere"⟩),
      (inside "e" (by decide), .link ⟨"e"⟩), (inside "f" (by decide), .link ⟨"."⟩),
      (inside "g" (by decide), file "too large"), (inside "Docs" (by decide), .folder),
      (deeper "Docs" (by decide), file "1"), (inside "dist" (by decide), .folder),
      (deeper "dist" (by decide), file "1"), (inside "A" (by decide), .folder),
      (deeper "A" (by decide), file "2"), ([⟨"o", by decide⟩], file "3"),
      (inside "h" (by decide), .link ⟨"/o"⟩)].foldl
        (fun disk (location, node) => disk.put location node)
        (Disk.empty.put [⟨"r", by decide⟩] .folder)
    let plan : Plan := ⟨.ofPatterns 5 [" docs"], none⟩
    let visit (file : Visited) (progress : Progress (List Path)) : Result (List Path) :=
      if file.content = Text.Utf8.encode "2" then .error (.malformedValues, progress)
      else .ok { progress with gathered := progress.gathered ++ [file.place.path] }
    let start : Progress (List Path) := ⟨disk, [], 0, 0, []⟩
    let files := visits plan start.disk ⟨"r"⟩
    KeepsDisk visit ∧ start.disk.enter (Path.address ⟨"r"⟩) = .ok ([⟨"r", by decide⟩], 40) ∧
    files.map (fun file => file.place.path.text) = ["r/b", "r/c", "r/h", "r/A/x"] ∧
    (files.Pairwise fun first second => Sooner first.location second.location) ∧
    Dispatches visit files start (run plan ⟨"r"⟩ visit start) ∧
    (match run plan ⟨"r"⟩ visit start with
      | .ok _ => none
      | .error (fault, stopped) => some (fault, stopped.gathered, stopped.visited)) =
        some (.malformedValues, [⟨"r/b"⟩, ⟨"r/c"⟩, ⟨"r/h"⟩], 4) := by
  intro inside deeper file disk plan visit start files
  have hKeeps : KeepsDisk visit := by
    intro file progress after hVisit
    simp only [visit] at hVisit
    split at hVisit
    · cases hVisit
    · cases hVisit
      rfl
  have hRoot : start.disk.enter (Path.address ⟨"r"⟩) = .ok ([⟨"r", by decide⟩], 40) := by
    decide +kernel
  obtain ⟨-, -, hOrder, hResult, -⟩ :=
    run_visits_what_is_eligible plan hKeeps ⟨"r"⟩ start hRoot
  refine ⟨hKeeps, hRoot, ?_, hOrder, hResult, ?_⟩
  · decide +kernel
  · decide +kernel

end Stencil.Walk
