import ServiceCatalog.Catalog
import ServiceCatalog.Proofs.FileTrees
import ServiceCatalog.Proofs.StoreMerge

/-!
# What a merge into a folder can change

Whatever the names in a catalog are and whatever stands below the root, a merge writes the files of
services with fit names only, makes folders on the way to the folder of these files only, and
removes nothing, whether it succeeds or not. For a name is looked at before anything is asked of the
file system, and a fit name is one component of a path that leads inwards.

* `ConfinedTo`: the differences that there may be between two trees;
* `mergeService_leaves`: the tree after merging one service;
* `confinedTo_mergeService`, `confinedTo_mergeServices`: what merging one service changes, and what
  merging services up to the first failure changes;
* `mergeInto_confined`: what merging a catalog changes, and where the files of services are.
-/

namespace ServiceCatalog

namespace FileTree

variable {t t' u : FileTree} {folders files files' : List String → Prop} {path name : String}
  {content : Bytes} {working : List String}

/-! ## Confined changes -/

/-- Whether a tree became another one by making folders at some places, where nothing stood, and by
writing files at others, where no folder stood. -/
structure ConfinedTo (folders files : List String → Prop) (t t' : FileTree) : Prop where
  workingFolder : t'.workingFolder = t.workingFolder
  entryAt? : ∀ p, t'.entryAt? p = t.entryAt? p ∨
    t.entryAt? p = none ∧ t'.entryAt? p = some .folder ∧ folders p ∨
    t.entryAt? p ≠ some .folder ∧ (∃ content, t'.entryAt? p = some (.file content)) ∧ files p

theorem ConfinedTo.refl (t : FileTree) : ConfinedTo folders files t t :=
  ⟨rfl, fun _ => .inl rfl⟩

theorem ConfinedTo.trans (h : ConfinedTo folders files t u) (h' : ConfinedTo folders files u t') :
    ConfinedTo folders files t t' := by
  refine ⟨h'.workingFolder.trans h.workingFolder, ?_⟩
  intro p
  -- what the second step did at a place: nothing, a folder made or a file written
  rcases h'.entryAt? p with hsame' | ⟨hnone', hmade', hfolder⟩ | ⟨hother', hwritten', hfile⟩
  · rw [hsame']
    exact h.entryAt? p
  -- nothing stood there in between, so nothing was put there before
  · rcases h.entryAt? p with hsame | ⟨-, hmade, -⟩ | ⟨-, ⟨content, hwritten⟩, -⟩
    · exact .inr (.inl ⟨hsame ▸ hnone', hmade', hfolder⟩)
    · rw [hmade] at hnone'
      cases hnone'
    · rw [hwritten] at hnone'
      cases hnone'
  -- no folder stood there in between, so none was made there before
  · rcases h.entryAt? p with hsame | ⟨-, hmade, -⟩ | ⟨hother, -, -⟩
    · exact .inr (.inr ⟨hsame ▸ hother', hwritten', hfile⟩)
    · exact absurd hmade hother'
    · exact .inr (.inr ⟨hother, hwritten', hfile⟩)

theorem ConfinedTo.mono (h : ConfinedTo folders files t t') (hfiles : ∀ p, files p → files' p) :
    ConfinedTo folders files' t t' := by
  refine ⟨h.workingFolder, ?_⟩
  intro p
  rcases h.entryAt? p with hsame | hmade | ⟨hother, hwritten, hfile⟩
  · exact .inl hsame
  · exact .inr (.inl hmade)
  · exact .inr (.inr ⟨hother, hwritten, hfiles p hfile⟩)

/-- A file that is new or has a new content is at one of the places for files. -/
theorem ConfinedTo.file (h : ConfinedTo folders files t t') {p : List String}
    (hwritten : t'.entryAt? p = some (.file content))
    (hdiffers : t.entryAt? p ≠ some (.file content)) : files p := by
  rcases h.entryAt? p with hsame | ⟨-, hmade, -⟩ | ⟨-, -, hfile⟩
  · rw [hsame] at hwritten
    exact absurd hwritten hdiffers
  · rw [hmade] at hwritten
    cases hwritten
  · exact hfile

/-- A folder that is new is at one of the places for folders. -/
theorem ConfinedTo.folder (h : ConfinedTo folders files t t') {p : List String}
    (hmade : t'.entryAt? p = some .folder) (hdiffers : t.entryAt? p ≠ some .folder) :
    folders p := by
  rcases h.entryAt? p with hsame | ⟨-, -, hfolder⟩ | ⟨-, ⟨content, hwritten⟩, -⟩
  · rw [hsame] at hmade
    exact absurd hmade hdiffers
  · exact hfolder
  · rw [hwritten] at hmade
    cases hmade

/-- Folders stay. -/
theorem ConfinedTo.folder_kept (h : ConfinedTo folders files t t') {p : List String}
    (hstands : t.entryAt? p = some .folder) : t'.entryAt? p = some .folder := by
  rcases h.entryAt? p with hsame | ⟨hnone, -, -⟩ | ⟨hother, -, -⟩
  · rw [hsame, hstands]
  · rw [hstands] at hnone
    cases hnone
  · exact absurd hstands hother

/-- Files stay, but their contents may change. -/
theorem ConfinedTo.file_kept (h : ConfinedTo folders files t t') {p : List String}
    (hstands : t.entryAt? p = some (.file content)) :
    ∃ content', t'.entryAt? p = some (.file content') := by
  rcases h.entryAt? p with hsame | ⟨hnone, -, -⟩ | ⟨-, hwritten, -⟩
  · exact ⟨content, by rw [hsame, hstands]⟩
  · rw [hstands] at hnone
    cases hnone
  · exact hwritten

theorem FoldersAdded.confinedTo (h : t.FoldersAdded t' folders) :
    ConfinedTo folders files t t' := by
  refine ⟨h.workingFolder, ?_⟩
  intro p
  rcases h.entryAt? p with hsame | hmade
  · exact .inl hsame
  · exact .inr (.inl hmade)

/-! ## Requests -/

/-- Writing a file changes what stands at its place. -/
theorem confinedTo_write (h : t.write path content = .ok t')
    (hfile : files (placeOf t.workingFolder path)) : ConfinedTo folders files t t' := by
  obtain ⟨folder, name, hfind, -, hother, rfl⟩ := of_write h
  refine ⟨rfl, ?_⟩
  intro p
  rw [entryAt?_put_child]
  split
  · next hplace =>
    refine .inr (.inr ⟨hplace ▸ hother, ⟨content, rfl⟩, ?_⟩)
    rw [hplace, placeOf_of_find hfind]
    exact hfile
  · exact .inl rfl

/-- Writing a file along with its folders makes folders on the way to its folder and changes what
stands at its place, whatever comes of it. -/
theorem confinedTo_writeWithFolders (hname : Path.IsName name)
    (hworking : t.workingFolder = working) (path : String) (content : Bytes)
    (hfile : files (placeOf working (Path.extend path name))) :
    ConfinedTo (OnWay working path) files t
      (fileSystem.writeWithFolders (Path.extend path name) content t).2 := by
  subst hworking
  obtain ⟨u, -, hadded, ⟨fault, hrun⟩ | ⟨t', hwrite, hrun⟩⟩ :=
    writeWithFolders_run hname path content t
  · -- with the file or without it, folders were added first
    rw [hrun]
    exact hadded.confinedTo
  · rw [hrun]
    rw [← hadded.workingFolder] at hfile
    exact hadded.confinedTo.trans (confinedTo_write hwrite hfile)

/-! ## Merges -/

/-- The places of the files of some services below a root. A service with an unfit name has no
file. -/
def FileOf (working : List String) (root : String) (services : String → Prop)
    (place : List String) : Prop :=
  ∃ i, services i ∧ Service.nameFault? i = none ∧ place = placeOf working (Service.path root i)

theorem FileOf.mono {root : String} {services services' : String → Prop}
    (h : ∀ i, services i → services' i) {place : List String}
    (hfile : FileOf working root services place) : FileOf working root services' place := by
  obtain ⟨i, hi, hfit⟩ := hfile
  exact ⟨i, h i hi, hfit⟩

/-- Merging a service, with whatever result, leaves the tree as it is or as it is left by writing
the file of the service along with its folders. Only a fit name comes so far. -/
theorem mergeService_leaves (debug : Bool) (root i : String) (ps : NameSet) (t : FileTree) :
    (Merge.mergeService debug (fileSystem.store root) i ps t).2 = t ∨
      Service.nameFault? i = none ∧ ∃ content,
        (Merge.mergeService debug (fileSystem.store root) i ps t).2 =
          (fileSystem.writeWithFolders (Service.path root i) content t).2 := by
  obtain ⟨journal, -, hrun⟩ := Merge.mergeService_run (store_read root i t) debug ps
  rw [hrun]
  -- an unfit name is refused before anything is written
  cases Service.nameFault? i with
  | some fault => exact .inl rfl
  | none =>
    simp only [store_write]
    split
    · exact .inl rfl
    generalize Service.named (t.read (Service.path root i)) ∪ ps = names
    cases Service.badEntry? names.toList with
    | some name => exact .inl rfl
    | none =>
      refine .inr ⟨trivial, Service.writeLines names.toList, ?_⟩
      -- the answer decides the result, but the tree is that after the request
      rcases fileSystem.writeWithFolders (Service.path root i) (Service.writeLines names.toList) t
        with ⟨fault | _, u⟩ <;> rfl

/-- Merging a service, with whatever result, changes its file and makes folders on the way to the
folder of all services. -/
theorem confinedTo_mergeService (hworking : t.workingFolder = working) (debug : Bool)
    (root i : String) (ps : NameSet) :
    ConfinedTo (OnWay working (Service.folderPath root)) (FileOf working root (· = i)) t
      (Merge.mergeService debug (fileSystem.store root) i ps t).2 := by
  rcases mergeService_leaves debug root i ps t with hsame | ⟨hname, content, hwritten⟩
  · rw [hsame]
    exact .refl t
  · rw [hwritten, Service.path_eq hname]
    refine confinedTo_writeWithFolders (Service.isName_of_nameFault? hname) hworking
      (Service.folderPath root) content ?_
    rw [← Service.path_eq hname]
    exact ⟨i, rfl, hname, rfl⟩

/-- Merging services up to the first that fails changes files of these services and makes folders on
the way to their folder. -/
theorem confinedTo_mergeServices (hworking : t.workingFolder = working) (debug : Bool)
    (root : String) (es : List (String × NameSet)) :
    ConfinedTo (OnWay working (Service.folderPath root))
      (FileOf working root (· ∈ es.map Prod.fst)) t
      (Merge.mergeServices debug (fileSystem.store root) es t).2 := by
  -- the induction is on the services, with the tree varying; each one changes its own file
  induction es generalizing t with
  | nil => exact .refl t
  | cons e es ih =>
    obtain ⟨i, ps⟩ := e
    let all := ConfinedTo (OnWay working (Service.folderPath root))
      (FileOf working root (· ∈ ((i, ps) :: es).map Prod.fst))
    have hfirst : all t (Merge.mergeService debug (fileSystem.store root) i ps t).2 := by
      refine (confinedTo_mergeService hworking debug root i ps).mono fun _ => FileOf.mono ?_
      rintro j rfl
      exact List.mem_cons_self
    rw [Merge.mergeServices, bind_apply]
    rcases hstep : Merge.mergeService debug (fileSystem.store root) i ps t with
      ⟨⟨first, failure | change⟩, u⟩
    · -- the first merge failed, so nothing comes after it
      rw [hstep] at hfirst
      exact hfirst
    · rw [hstep] at hfirst
      have hrest : all u (Merge.mergeServices debug (fileSystem.store root) es u).2 := by
        refine (ih (hfirst.workingFolder.trans hworking)).mono fun _ => FileOf.mono ?_
        intro j hj
        exact List.mem_cons_of_mem i hj
      exact hfirst.trans hrest

end FileTree

/-! ## Files of services -/

namespace Service

open FileTree

variable {i j root : String}

/-- The file of a service stands under its name in the folder of all services. -/
theorem placeOf_path (h : nameFault? i = none) (working : List String) (root : String) :
    placeOf working (path root i) = placeOf working (folderPath root) ++ [i] := by
  have hi := isName_of_nameFault? h
  have hstart : startOf working (path root i) = startOf working (folderPath root) := by
    rw [path_eq h, startOf_extend (folderPath_ne_empty root)]
  rw [placeOf, hstart, nonEmptyParts_path h, along_concat, onward_name hi.ne_dot hi.ne_dots]
  rfl

/-- Two services share no file, whether paths are compared by their components or by the places that
they lead to. -/
theorem eq_of_same_file (hi : nameFault? i = none) (hj : nameFault? j = none)
    (h : steps (Path.nonEmptyParts (path root i)) = steps (Path.nonEmptyParts (path root j)) ∨
      ∃ working, placeOf working (path root i) = placeOf working (path root j)) : i = j := by
  rcases h with hparts | ⟨working, hplace⟩
  · -- the components of a path of a service are those of the folder and its name
    have hsteps : ∀ {k}, nameFault? k = none → steps (Path.nonEmptyParts (path root k)) =
        steps (Path.nonEmptyParts (folderPath root)) ++ [k] := by
      intro k hk
      have hdot : steps [k] = [k] := steps_cons (isName_of_nameFault? hk).ne_dot []
      rw [nonEmptyParts_path hk, steps, List.filter_append, ← steps, ← steps, hdot]
    rw [hsteps hi, hsteps hj] at hparts
    exact List.singleton_inj.mp (List.append_cancel_left hparts)
  · rw [placeOf_path hi, placeOf_path hj] at hplace
    exact List.singleton_inj.mp (List.append_cancel_left hplace)

end Service

namespace Catalog

open FileTree

/-- Whatever the names in a catalog, whatever the root and whatever stands in the tree, merging the
catalog below the root, with success or not, writes no file but those of its services with fit
names, removes nothing and makes no folder but on the way to the folder of all services. The path of
the file of a service with a fit name is the path of this folder with the name as one component
more, which has no separator and leads inwards. So two services never share a file. -/
theorem mergeInto_confined (c : Catalog) (debug : Bool) (root : String) (t : FileTree) :
    let t' := (c.mergeInto debug (fileSystem.store root) t).2
    let folder := Path.ofResource root Service.folder
    (∀ place content, t'.entryAt? place = some (.file content) →
      t.entryAt? place ≠ some (.file content) →
      ∃ i ∈ c.serviceNames, Service.nameFault? i = none ∧
        place = placeOf t.workingFolder (Service.path root i)) ∧
    (∀ place, t.entryAt? place = some .folder → t'.entryAt? place = some .folder) ∧
    (∀ place content, t.entryAt? place = some (.file content) →
      ∃ content', t'.entryAt? place = some (.file content')) ∧
    (∀ place, t'.entryAt? place = some .folder → t.entryAt? place ≠ some .folder →
      OnWay t.workingFolder folder place) ∧
    t'.workingFolder = t.workingFolder ∧
    (∀ i, Service.nameFault? i = none →
      Service.path root i = Path.join folder i ∧
      Path.nonEmptyParts (Service.path root i) = Path.nonEmptyParts folder ++ [i] ∧
      (∀ ch ∈ i.toList, ch ≠ '/' ∧ ch ≠ '\\') ∧ i ≠ "." ∧ i ≠ ".." ∧
      placeOf t.workingFolder (Service.path root i) = placeOf t.workingFolder folder ++ [i]) ∧
    ∀ i j, Service.nameFault? i = none → Service.nameFault? j = none →
      (Service.path root i = Service.path root j ∨
        steps (Path.nonEmptyParts (Service.path root i)) =
          steps (Path.nonEmptyParts (Service.path root j)) ∨
        ∃ working, placeOf working (Service.path root i) = placeOf working (Service.path root j)) →
      i = j := by
  intro t' folder
  have hfolder : folder = Service.folderPath root := Service.ofResource_folder root
  have hconfined : ConfinedTo (OnWay t.workingFolder folder)
      (FileOf t.workingFolder root (· ∈ c.serviceNames)) t t' := by
    rw [hfolder]
    exact confinedTo_mergeServices rfl debug root c.services.entries
  refine ⟨?_, fun _ => hconfined.folder_kept, fun _ _ => hconfined.file_kept,
    fun _ => hconfined.folder, hconfined.workingFolder, ?_, ?_⟩
  · intro place content hwritten hdiffers
    obtain ⟨i, hi, hname, hplace⟩ := hconfined.file hwritten hdiffers
    exact ⟨i, hi, hname, hplace⟩
  · intro i hi
    have hname := Service.isName_of_nameFault? hi
    rw [hfolder]
    refine ⟨Service.path_eq_join hi root, Service.nonEmptyParts_path hi root, ?_, hname.ne_dot,
      hname.ne_dots, Service.placeOf_path hi _ root⟩
    intro ch hch
    have hgood := (Service.nameFault?_eq_none_iff.mp hi).2.1 ch hch
    refine ⟨?_, ?_⟩ <;> rintro rfl <;> exact absurd hgood (by decide)
  · rintro i j hi hj (hpath | hsame)
    · exact (Service.path_inj hi hj root).mp hpath
    · exact Service.eq_of_same_file hi hj hsame

/-- A working folder with one file in it. -/
def oneFile : FileTree where
  workingFolder := ["home"]
  entries := [(["home"], .folder), (["home", "keep"], .file (Utf8.encode "kept"))]

/-- The same with the file of a service below `out/../target`. -/
def oneFileAndService : FileTree where
  workingFolder := ["home"]
  entries :=
    [(["home"], .folder), (["home", "keep"], .file (Utf8.encode "kept")),
      (["home", "out"], .folder), (["home", "target"], .folder),
      (["home", "target", "META-INF"], .folder),
      (["home", "target", "META-INF", "services"], .folder),
      (["home", "target", "META-INF", "services", "a.B"], .file (Utf8.encode "p\n"))]

/-- Of two services, one has a name that would lead out of the folder. The merge fails at it, and
the only file written is that of the other one, although the root leads through a folder that did
not exist. -/
theorem mergeInto_confined_outwards :
    let c := ofPairs [("a.B", "p"), ("b/../../../keep", "q")]
    let out := c.mergeInto true (fileSystem.store "out/../target") oneFile
    out.1.2.toOption = none ∧
    (∀ place content, out.2.entryAt? place = some (.file content) →
      oneFile.entryAt? place ≠ some (.file content) →
      place = ["home", "target", "META-INF", "services", "a.B"]) ∧
    out.2.entryAt? ["home", "target", "META-INF", "services", "a.B"] =
      some (.file (Utf8.encode "p\n")) ∧
    (∃ content, out.2.entryAt? ["home", "keep"] = some (.file content)) ∧
    OnWay ["home"] (Path.ofResource "out/../target" Service.folder) ["home", "out"] ∧
    (Service.path "out/../target" "a.B" ≠ Service.path "out/../target" "a.C") := by
  intro c out
  have hnames : c.serviceNames = ["a.B", "b/../../../keep"] := by decide +kernel
  -- the run is evaluated once, and what follows is about the tree that it leaves
  have hrun : out.1.2.toOption = none ∧ out.2 = oneFileAndService := by decide +kernel
  obtain ⟨hwritten, -, hkept, hmade, -, -, hinjective⟩ :=
    mergeInto_confined c true "out/../target" oneFile
  refine ⟨hrun.1, ?_, ?_, ?_, ?_, ?_⟩
  · intro place content hfile hdiffers
    obtain ⟨i, hi, hname, hplace⟩ := hwritten place content hfile hdiffers
    rw [hnames] at hi
    rw [hplace]
    rcases List.mem_pair.mp hi with rfl | rfl
    · decide +kernel
    · exact absurd hname (by decide +kernel)
  · rw [hrun.2]
    decide
  · exact hkept ["home", "keep"] (Utf8.encode "kept") (by decide)
  · refine hmade ["home", "out"] ?_ (by decide)
    rw [show (c.mergeInto true (fileSystem.store "out/../target") oneFile).2 = out.2 from rfl,
      hrun.2]
    decide
  · intro hsame
    have hequal := hinjective "a.B" "a.C" (by decide) (by decide) (.inl hsame)
    exact absurd hequal (by decide)

end Catalog

end ServiceCatalog
