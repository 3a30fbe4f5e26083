import ServiceCatalog.Proofs.FileTrees

/-!
# Making folders along a clear way

A way is clear if it leads inwards only and there is a folder or nothing wherever it goes through.
Then the folders on it can be made: each path that a path goes through leads one component beyond
the one before it, so a folder that cannot be made for want of the folder around it can be made
after that one. At the end of a clear way a file can be written, and what is read there depends only
on what stands there, not on which folders of the way are missing.

* `ClearWay.walk`: going a clear way;
* `nested_stages`: the paths that a path goes through lead one component further each;
* `makeNested_of_clear`: making nested folders on a clear way succeeds;
* `read_of_clear`, `writeWithFolders_of_clear`: reading and writing a file at the end of it.
-/

namespace ServiceCatalog

namespace FileTree

variable {t u : FileTree} {folder place : List String} {parts : List String}
  {path stage name : String} {content : Bytes}

/-! ## Clear ways -/

/-- Whether nothing stands in the way of making the folders that a path goes through: it leads
inwards only, its components are not too long, and where it goes through there is a folder or
nothing. -/
structure ClearWay (t : FileTree) (path : String) : Prop where
  wellFormed : t.WellFormed
  no_dots : ".." ∉ Path.nonEmptyParts path
  short : ∀ part ∈ Path.nonEmptyParts path, part.utf8ByteSize ≤ componentLimit
  clear : ∀ place, OnWay t.workingFolder path place →
    t.entryAt? place = some .folder ∨ t.entryAt? place = none

/-- The way to what a path goes through is clear. -/
theorem ClearWay.beginning (h : t.ClearWay path) (hstage : Path.Beginning stage path) :
    t.ClearWay stage where
  wellFormed := h.wellFormed
  no_dots := fun hmem => h.no_dots (hstage.parts.2.subset hmem)
  short := fun part hpart => h.short part (hstage.parts.2.subset hpart)
  clear := by
    rintro place ⟨parts, hprefix, rfl⟩
    apply h.clear
    exact ⟨parts, hprefix.trans hstage.parts.2, by rw [startOf_beginning hstage]⟩

/-- A way stays clear when folders are added. -/
theorem ClearWay.foldersAdded {places : List String → Prop} (h : t.ClearWay path)
    (hadded : t.FoldersAdded u places) (hu : u.WellFormed) : u.ClearWay path where
  wellFormed := hu
  no_dots := h.no_dots
  short := h.short
  clear := by
    intro place hplace
    rw [hadded.workingFolder] at hplace
    -- what stands on the way stood there before or is a folder that was added
    rcases hadded.entryAt? place with hsame | ⟨-, hmade, -⟩
    · rw [hsame]
      exact h.clear place hplace
    · exact .inl hmade

/-- Going a clear way: it is open if it ends at a folder, and else a folder is missing. -/
theorem walk_of_clear (ht : t.WellFormed) (hfolder : t.entryAt? folder = some .folder)
    (hdots : ".." ∉ parts) (hshort : ∀ part ∈ parts, part.utf8ByteSize ≤ componentLimit)
    (hclear : ∀ first, first <+: parts → t.entryAt? (along folder first) = some .folder ∨
      t.entryAt? (along folder first) = none) :
    t.walk folder parts =
      if t.entryAt? (along folder parts) = some .folder then .ok (along folder parts)
      else .error .notFound := by
  -- the induction is on the components, with the folder they start from varying
  induction parts generalizing folder with
  | nil =>
    rw [along, List.foldl_nil, if_pos hfolder]
    rfl
  | cons part parts ih =>
    rw [List.mem_cons, not_or] at hdots
    rcases List.forall_mem_cons.mp hshort with ⟨hpart, hshort⟩
    have hrest : ∀ first, first <+: parts → t.entryAt? (along (onward folder part) first) =
        some .folder ∨ t.entryAt? (along (onward folder part) first) = none := by
      intro first hfirst
      exact hclear (part :: first) (List.cons_prefix_cons.mpr ⟨rfl, hfirst⟩)
    rw [along_cons, walk]
    by_cases hdot : part = "."
    · rw [if_pos hdot]
      rw [onward, if_pos hdot] at hrest ⊢
      exact ih hfolder hdots.2 hshort hrest
    · rw [if_neg hdot, if_neg (Ne.symm hdots.1)]
      rw [onward_name hdot (Ne.symm hdots.1)] at hrest ⊢
      have hlook : t.look folder part = .ok (t.entryAt? (folder ++ [part])) :=
        look_eq_ok_iff.mpr ⟨hpart, rfl⟩
      rw [hlook]
      rcases hrest [] List.nil_prefix with hstands | hmissing
      · have hinner : t.entryAt? (folder ++ [part]) = some .folder := hstands
        simp only [hinner]
        exact ih hinner hdots.2 hshort hrest
      · -- below a missing folder there is nothing
        have hinner : t.entryAt? (folder ++ [part]) = none := hmissing
        have hend : t.entryAt? (along (folder ++ [part]) parts) = none := by
          rw [along_eq_append hdots.2]
          exact ht.entryAt?_append hinner _
        simp only [hinner, hend]
        rfl

theorem ClearWay.walk (h : t.ClearWay path) (hparts : parts <+: Path.nonEmptyParts path) :
    t.walk (startOf t.workingFolder path) parts =
      if t.entryAt? (along (startOf t.workingFolder path) parts) = some .folder then
        .ok (along (startOf t.workingFolder path) parts)
      else .error .notFound := by
  apply walk_of_clear h.wellFormed (h.wellFormed.entryAt?_startOf path)
  · intro hmem
    exact h.no_dots (hparts.subset hmem)
  · intro part hpart
    exact h.short part (hparts.subset hpart)
  · intro first hfirst
    exact h.clear _ ⟨first, hfirst.trans hparts, rfl⟩

/-! ## One folder -/

/-- A path that is not refused goes through paths that are not. -/
theorem refusal?_beginning (h : Path.Beginning stage path) (hpath : refusal? path = none) :
    refusal? stage = none := by
  have hincluded : (∀ c ∈ stage.toList, c ∈ path.toList) ∧
      stage.utf8ByteSize ≤ path.utf8ByteSize := by
    -- a beginning has no character that the path does not have, and it is not longer
    rcases h.2 with rfl | ⟨rest, rfl⟩
    · exact ⟨fun _ => id, Nat.le_refl _⟩
    · constructor
      · intro c hc
        rw [Path.toList_extend]
        exact List.mem_append_left _ hc
      · simp only [Path.extend, String.utf8ByteSize_append]
        omega
  unfold refusal? at hpath ⊢
  split at hpath
  · cases hpath
  next hnul =>
  split at hpath
  · cases hpath
  next hlong =>
  have hnul' : ¬ (stage.toList.any fun c => c.toNat = 0) = true := by
    rw [List.any_eq_true] at hnul ⊢
    rintro ⟨c, hc, hzero⟩
    exact hnul ⟨c, hincluded.1 c hc, hzero⟩
  have hlong' : ¬ pathLimit ≤ stage.utf8ByteSize := by omega
  rw [if_neg hnul', if_neg hlong']

/-- Finding what a clear way leads to: the last component in the folder around it, or nothing
because that folder is missing. -/
theorem find_of_clear (h : t.ClearWay path) (hrefusal : refusal? path = none)
    (hparts : Path.nonEmptyParts path = parts ++ [name]) :
    t.find path =
      let outer := along (startOf t.workingFolder path) parts
      if t.entryAt? outer = some .folder then
        .ok (if name = "." then .standing else .inside outer name)
      else .error .notFound := by
  have hdots : name ≠ ".." := by
    rintro rfl
    exact h.no_dots (by rw [hparts]; exact List.mem_append_right _ (List.mem_singleton_self _))
  have hprefix : parts <+: Path.nonEmptyParts path := by
    rw [hparts]
    exact List.prefix_append _ _
  -- whether the last component is found is whether the folder around it exists
  rw [find_concat hparts, hrefusal, h.walk hprefix]
  by_cases houter : t.entryAt? (along (startOf t.workingFolder path) parts) = some .folder
  · simp only [if_pos houter, hdots, or_false]
  · simp only [if_neg houter]

/-- Making a folder on a clear way: the folder around it is missing, or afterwards there is a
folder, made now or standing before. -/
theorem makeFolder_of_clear (h : t.ClearWay path) (hrefusal : refusal? path = none)
    (hparts : Path.nonEmptyParts path = parts ++ [name]) :
    t.entryAt? (along (startOf t.workingFolder path) parts) ≠ some .folder ∧
        t.makeFolder path = .error .notFound ∨
      (∃ t', t.makeFolder path = .ok t' ∧
        t'.entryAt? (placeOf t.workingFolder path) = some .folder) ∨
      t.makeFolder path = .error .alreadyExists ∧ t.isFolder path = true ∧
        t.entryAt? (placeOf t.workingFolder path) = some .folder := by
  have hlast : name ∈ Path.nonEmptyParts path := by
    rw [hparts]
    exact List.mem_append_right _ (List.mem_singleton_self _)
  have hdots : name ≠ ".." := fun heq => h.no_dots (heq ▸ hlast)
  have hplace : placeOf t.workingFolder path =
      onward (along (startOf t.workingFolder path) parts) name := by
    rw [placeOf, hparts, along_concat]
  have hend := h.clear _ ⟨Path.nonEmptyParts path, List.prefix_refl _, rfl⟩
  have hfind := find_of_clear h hrefusal hparts
  rw [← placeOf, hplace] at hend
  rw [hplace]
  generalize along (startOf t.workingFolder path) parts = outer at hfind hend ⊢
  by_cases houter : t.entryAt? outer = some .folder
  · right
    by_cases hdot : name = "."
    · -- a dot stands for the folder that it is in
      simp only [houter, hdot, if_true] at hfind
      right
      refine ⟨?_, ?_, ?_⟩
      · rw [makeFolder, hfind]
        rfl
      · rw [isFolder, hfind]
      · rw [onward, if_pos hdot, houter]
    · simp only [houter, hdot, if_true, if_false] at hfind
      rw [onward_name hdot hdots] at hend ⊢
      have hlook : t.look outer name = .ok (t.entryAt? (outer ++ [name])) :=
        look_eq_ok_iff.mpr ⟨h.short name hlast, rfl⟩
      -- at the end of a clear way stands a folder or nothing
      rcases hend with hstands | hmissing
      · rw [hstands] at hlook
        right
        refine ⟨?_, ?_, hstands⟩
        · rw [makeFolder, hfind]
          simp only [bind, Except.bind, hlook]
        · rw [isFolder, hfind]
          simp only [hlook]
      · rw [hmissing] at hlook
        left
        refine ⟨t.put (outer ++ [name]) .folder, ?_, ?_⟩
        · rw [makeFolder, hfind]
          simp only [bind, Except.bind, hlook]
        · rw [entryAt?_put_child, if_pos rfl]
  · left
    simp only [houter, if_false] at hfind
    refine ⟨houter, ?_⟩
    rw [makeFolder, hfind]
    rfl

/-! ## Nested folders -/

/-- The place that the first of some paths leads to, or a place to start from if there is none. -/
def topOf (working start : List String) : List String → List String
  | [] => start
  | path :: _ => placeOf working path

/-- Whether each of some paths leads one component beyond the next one, and the last of them one
component beyond a place to start from. -/
def Nested (working start : List String) : List String → Prop
  | [] => True
  | path :: outer =>
    (∃ parts name, Path.nonEmptyParts path = parts ++ [name] ∧
      along (startOf working path) parts = topOf working start outer) ∧ Nested working start outer

theorem along_of_isIdle {part : String} (h : Path.isIdle part.toList = true)
    (folder : List String) : along folder (Path.nonEmptyParts part) = folder := by
  rcases Bool.or_eq_true_iff.mp h with hempty | hdot
  · have hpart : part = "" := String.toList_eq_nil_iff.mp (List.isEmpty_iff.mp hempty)
    rw [hpart]
    rfl
  · have hpart : part = "." := String.toList_inj.mp (beq_iff_eq.mp hdot)
    rw [hpart]
    rfl

/-- What a path goes through is nested in this way, and leads where the path leads. -/
theorem nested_stages (working : List String) (path : String) :
    Nested working (startOf working path) (Path.stages path).reverse ∧
      topOf working (startOf working path) (Path.stages path).reverse = placeOf working path := by
  -- the induction adds one component at the end of the path
  induction path using Path.component_induction with
  | single part hpart =>
    have hparts := Path.nonEmptyParts_single hpart
    rw [Path.stages_single hpart]
    by_cases hempty : part = ""
    · rw [if_pos hempty] at hparts ⊢
      refine ⟨trivial, ?_⟩
      rw [placeOf, hparts]
      rfl
    · rw [if_neg hempty] at hparts ⊢
      exact ⟨⟨⟨[], part, hparts, rfl⟩, trivial⟩, rfl⟩
  | extend path part hpart ih =>
    -- a path that is empty before the separator starts at the root after it
    have hbefore :
        Nested working (startOf working (Path.extend path part)) (Path.stages path).reverse ∧
        topOf working (startOf working (Path.extend path part)) (Path.stages path).reverse =
          along (startOf working (Path.extend path part)) (Path.nonEmptyParts path) := by
      by_cases hempty : path = ""
      · rw [hempty]
        exact ⟨trivial, rfl⟩
      · rw [startOf_extend hempty]
        exact ih
    have hparts := Path.nonEmptyParts_extend path part
    rw [Path.stages_extend_part path hpart]
    -- an empty component or a dot is no stage of its own
    cases hidle : Path.isIdle part.toList with
    | true =>
      rw [if_pos rfl]
      refine ⟨hbefore.1, ?_⟩
      rw [hbefore.2, placeOf, hparts, along_append, along_of_isIdle hidle]
    | false =>
      have hne : part ≠ "" := by
        rintro rfl
        cases hidle
      rw [Path.nonEmptyParts_single hpart, if_neg hne] at hparts
      rw [if_neg Bool.false_ne_true, List.reverse_concat]
      exact ⟨⟨⟨Path.nonEmptyParts path, part, hparts, hbefore.2.symm⟩, hbefore.1⟩, rfl⟩

/-- Making nested folders on clear ways succeeds, and afterwards the first of them is a folder. -/
theorem makeNested_of_clear {start : List String} {paths : List String}
    (hstart : t.entryAt? start = some .folder) (hnested : Nested t.workingFolder start paths)
    (hclear : ∀ path ∈ paths, t.ClearWay path) (hrefusal : ∀ path ∈ paths, refusal? path = none) :
    ∃ u, fileSystem.makeNested paths t = (.ok (), u) ∧
      u.entryAt? (topOf t.workingFolder start paths) = some .folder := by
  -- the induction is on the paths, the innermost first
  induction paths with
  | nil => exact ⟨t, rfl, hstart⟩
  | cons path outer ih =>
    obtain ⟨⟨parts, name, hparts, htop⟩, hnested⟩ := hnested
    rcases List.forall_mem_cons.mp hclear with ⟨hpath, hclear⟩
    rcases List.forall_mem_cons.mp hrefusal with ⟨haccepted, hrefusal⟩
    rw [FileSystem.makeNested, bind_apply, fileSystem_makeFolder]
    rcases makeFolder_of_clear hpath haccepted hparts with
      ⟨-, hmissing⟩ | ⟨t', hmade, hstands⟩ | ⟨hthere, hisFolder, hstands⟩
    · -- the folder around it is made first, and then the folder itself
      obtain ⟨u, hrun, houter⟩ := ih hnested hclear hrefusal
      have hadding : Adding t.workingFolder (fun _ => True) (fileSystem.makeNested outer) :=
        adding_makeNested fun _ _ => trivial
      rcases hadding t rfl with ⟨hwell, hadded⟩
      rw [hrun] at hwell hadded
      have hagain := makeFolder_of_clear (hpath.foldersAdded hadded (hwell hpath.wellFormed))
        haccepted hparts
      rw [hadded.workingFolder, htop] at hagain
      rw [attempt_error hmissing]
      simp only [bind_apply, hrun, fileSystem_makeFolder]
      -- now the folder around it stands, so it is made or is found standing
      rcases hagain with ⟨hnone, -⟩ | ⟨u', hmade, hstands⟩ | ⟨hthere, hisFolder, hstands⟩
      · exact absurd houter hnone
      · rw [attempt_ok hmade]
        exact ⟨u', rfl, hstands⟩
      · rw [attempt_error hthere]
        simp only [FileSystem.unlessFolder, bind_apply, fileSystem_isFolder, hisFolder]
        exact ⟨u, rfl, hstands⟩
    · rw [attempt_ok hmade]
      exact ⟨t', rfl, hstands⟩
    · rw [attempt_error hthere]
      simp only [FileSystem.unlessFolder, bind_apply, fileSystem_isFolder, hisFolder]
      exact ⟨t, rfl, hstands⟩

/-- All folders on a clear way can be made. -/
theorem makeNested_stages (h : t.ClearWay path) (hrefusal : refusal? path = none) :
    ∃ u, fileSystem.makeNested (Path.stages path).reverse t = (.ok (), u) ∧
      u.entryAt? (placeOf t.workingFolder path) = some .folder := by
  have hbeginning : ∀ stage ∈ (Path.stages path).reverse, Path.Beginning stage path :=
    fun stage hstage => Path.beginning_of_mem_stages (List.mem_reverse.mp hstage)
  rcases nested_stages t.workingFolder path with ⟨hnested, htop⟩
  have hmade := makeNested_of_clear (h.wellFormed.entryAt?_startOf path) hnested
    (fun stage hstage => h.beginning (hbeginning stage hstage))
    (fun stage hstage => refusal?_beginning (hbeginning stage hstage) hrefusal)
  rwa [htop] at hmade

/-- Making a folder at the end of a clear way, with all that contain it. -/
theorem makeFolders_of_clear (h : t.ClearWay (Path.extend path name)) (hname : Path.IsName name)
    (hrefusal : refusal? (Path.extend path name) = none) :
    ∃ u, fileSystem.makeFolders (Path.extend path name) t = (.ok (), u) ∧
      u.entryAt? (placeOf t.workingFolder (Path.extend path name)) = some .folder := by
  have hstages : Path.extend path name :: Path.enclosing (Path.extend path name) =
      (Path.stages (Path.extend path name)).reverse := by
    rw [Path.enclosing_extend hname, Path.stages_extend hname, List.reverse_concat]
  rw [FileSystem.makeFolders, hstages]
  exact makeNested_stages h hrefusal

/-! ## Files at the end of a clear way -/

/-- What stands below the end of a way is not on it. -/
theorem ClearWay.not_onWay (h : t.ClearWay path) (name : String) :
    ¬ OnWay t.workingFolder path (placeOf t.workingFolder path ++ [name]) := by
  intro hway
  have hlength := hway.length_le h.no_dots
  rw [List.length_append, List.length_singleton] at hlength
  omega

/-- Reading a file at the end of a clear way: it depends only on what stands there. -/
theorem read_of_clear (h : t.ClearWay path) (hpath : path ≠ "") (hname : Path.IsName name)
    (hrefusal : refusal? (Path.extend path name) = none)
    (hshort : name.utf8ByteSize ≤ componentLimit) :
    t.read (Path.extend path name) =
      match t.entryAt? (placeOf t.workingFolder path ++ [name]) with
      | none => .error .notFound
      | some .folder => .error .isFolder
      | some (.file content) => .ok content := by
  have hlook : t.look (placeOf t.workingFolder path) name =
      .ok (t.entryAt? (placeOf t.workingFolder path ++ [name])) :=
    look_eq_ok_iff.mpr ⟨hshort, rfl⟩
  rw [read_extend hpath hname, hrefusal, h.walk (List.prefix_refl _), ← placeOf]
  by_cases hend : t.entryAt? (placeOf t.workingFolder path) = some .folder
  · simp only [if_pos hend, readIn, hlook]
    rcases t.entryAt? (placeOf t.workingFolder path ++ [name]) with _ | (_ | content) <;> rfl
  · -- nothing stands in a folder that is missing
    have hmissing := (h.clear _ ⟨_, List.prefix_refl _, rfl⟩).resolve_left hend
    have hbelow := h.wellFormed.entryAt?_append hmissing [name]
    rw [← placeOf] at hbelow
    simp only [if_neg hend, hbelow]

/-- Once its folders are made, writing a file along with them is writing the file. -/
theorem writeWithFolders_of_made {u : FileTree} (hname : Path.IsName name)
    (hrun : fileSystem.makeNested (Path.stages path).reverse t = (.ok (), u)) (content : Bytes) :
    fileSystem.writeWithFolders (Path.extend path name) content t =
      attempt (fun u => u.write (Path.extend path name) content) u := by
  rw [FileSystem.writeWithFolders, bind_apply, Path.enclosing_extend hname, hrun]
  simp only [fileSystem_write]

/-- Writing a file at the end of a clear way, where no folder stands, succeeds: folders are added on
the way, and the file is put there. -/
theorem writeWithFolders_of_clear (h : t.ClearWay path) (hpath : path ≠ "")
    (hname : Path.IsName name) (hrefusal : refusal? (Path.extend path name) = none)
    (hshort : name.utf8ByteSize ≤ componentLimit)
    (hfree : t.entryAt? (placeOf t.workingFolder path ++ [name]) ≠ some .folder)
    (content : Bytes) :
    ∃ u : FileTree, u.ClearWay path ∧ t.FoldersAdded u (OnWay t.workingFolder path) ∧
      u.entryAt? (placeOf t.workingFolder path) = some .folder ∧
      fileSystem.writeWithFolders (Path.extend path name) content t =
        (.ok (), u.put (placeOf t.workingFolder path ++ [name]) (.file content)) := by
  have haccepted : refusal? path = none :=
    refusal?_beginning ⟨hpath, .inr ⟨name, rfl⟩⟩ hrefusal
  obtain ⟨u, hrun, hend⟩ := makeNested_stages h haccepted
  rcases adding_enclosing hname path t rfl with ⟨hwell, hadded⟩
  rw [Path.enclosing_extend hname, hrun] at hwell hadded
  have hclear : u.ClearWay path := h.foldersAdded hadded (hwell h.wellFormed)
  refine ⟨u, hclear, hadded, hend, ?_⟩
  -- adding folders on the way leaves what stands at the name
  have hlook : u.look (placeOf t.workingFolder path) name =
      .ok (t.entryAt? (placeOf t.workingFolder path ++ [name])) :=
    look_eq_ok_iff.mpr ⟨hshort, hadded.elsewhere (h.not_onWay name)⟩
  have hfind : u.find (Path.extend path name) =
      .ok (.inside (placeOf t.workingFolder path) name) := by
    rw [find_extend hpath hname, hrefusal, hclear.walk (List.prefix_refl _), ← placeOf,
      hadded.workingFolder, if_pos hend]
  have hwrite : u.write (Path.extend path name) content =
      .ok (u.put (placeOf t.workingFolder path ++ [name]) (.file content)) := by
    simp only [write, hfind, Path.endsInSlash_extend hname, bind, Except.bind, hlook,
      Bool.false_eq_true, if_false]
  rw [writeWithFolders_of_made hname hrun]
  exact attempt_ok hwrite

/-- A path that is refused is neither read nor written, even if all its folders can be made. -/
theorem read_of_refused {fault : Fault} (hpath : path ≠ "") (hname : Path.IsName name)
    (hrefusal : refusal? (Path.extend path name) = some fault) (t : FileTree) :
    t.read (Path.extend path name) = .error fault := by
  rw [read_extend hpath hname, hrefusal]

theorem writeWithFolders_of_refused {fault : Fault} (h : t.ClearWay path) (hpath : path ≠ "")
    (hname : Path.IsName name) (haccepted : refusal? path = none)
    (hrefusal : refusal? (Path.extend path name) = some fault) (content : Bytes) :
    ∃ u, fileSystem.writeWithFolders (Path.extend path name) content t = (.error fault, u) := by
  -- the folders are made all the same, and only then the path of the file is refused
  obtain ⟨u, hrun, -⟩ := makeNested_stages h haccepted
  have hfind : u.find (Path.extend path name) = .error fault := by
    rw [find_extend hpath hname, hrefusal]
  have hwrite : u.write (Path.extend path name) content = .error fault := by
    rw [write, hfind]
    rfl
  rw [writeWithFolders_of_made hname hrun]
  exact ⟨u, attempt_error hwrite⟩

end FileTree

end ServiceCatalog
