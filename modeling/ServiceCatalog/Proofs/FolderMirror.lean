import Mathlib.Data.List.Infix
import ServiceCatalog.Proofs.FolderMaking
import ServiceCatalog.Proofs.ServiceMerge
import ServiceCatalog.Proofs.StoreRefinement

/-!
# A folder that behaves like a store in memory

The files in the folder of all services below a root can be the resources of a store in memory: each
file is the resource of the service that it is named for, and there are no other resources of
services. Merges keep it so, whether they succeed or fail, and their results are the same on both
sides, as long as the file system takes every path that they ask for. Folders that are missing on
the way make no difference, because a file in a folder that is not there cannot be read, and writing
it makes the folder.

* `Mirrors`, `Usable`: what the files and the resources, and a name, have to satisfy;
* `corresponds_of_usable`: requests about the resource of a service are answered alike;
* `mapM_mergeInto_mirrored`: the same results, warnings and resources for catalogs merged one after
  another;
* `mergeService_of_refused`, `longPath_not_mirrored`: a path that is too long can be written in
  memory only.
-/

namespace ServiceCatalog

open FileTree

/-! ## Paths of files -/

namespace Path

theorem not_mem_join {c : Char} {path component : String} (hpath : c ∉ path.toList)
    (hcomponent : c ∉ component.toList) (hslash : c ≠ '/') : c ∉ (join path component).toList := by
  have hseparator : c ∉ "/".toList := by simpa using hslash
  unfold join
  split
  · -- with and without a separator that is added, no other character comes in
    rw [String.toList_append, List.mem_append, not_or]
    exact ⟨hpath, hcomponent⟩
  · rw [String.toList_append, String.toList_append, List.mem_append, List.mem_append]
    simp only [hpath, hseparator, hcomponent, or_self, not_false_eq_true]

/-- Joining a path with a component adds no more than a separator to the bytes of both. -/
theorem utf8ByteSize_join (path component : String) :
    path.utf8ByteSize + component.utf8ByteSize ≤ (join path component).utf8ByteSize ∧
      (join path component).utf8ByteSize ≤ path.utf8ByteSize + component.utf8ByteSize + 1 := by
  unfold join
  split
  · rw [String.utf8ByteSize_append]
    omega
  · have hseparator : "/".utf8ByteSize = 1 := rfl
    rw [String.utf8ByteSize_append, String.utf8ByteSize_append, hseparator]
    omega

end Path

/-- Of a path without the character U+0000 only the length can be refused. -/
theorem FileTree.refusal?_of_no_nul {path : String} (h : '\x00' ∉ path.toList) :
    refusal? path = if pathLimit ≤ path.utf8ByteSize then some .nameTooLong else none := by
  have hnul : ¬ (path.toList.any fun c => c.toNat = 0) = true := by
    -- the only character of the code zero is the one that the path does not have
    rw [List.any_eq_true]
    rintro ⟨c, hc, hzero⟩
    have hchar : c = '\x00' := by
      rw [← Char.ofNat_toNat c, of_decide_eq_true hzero]
    exact h (hchar ▸ hc)
  rw [refusal?, if_neg hnul]

namespace Service

variable {i root : String}

theorem no_nul_folderPath (h : '\x00' ∉ root.toList) : '\x00' ∉ (folderPath root).toList :=
  Path.not_mem_join (Path.not_mem_join h (by decide) (by decide)) (by decide) (by decide)

theorem utf8ByteSize_folderPath (root : String) :
    root.utf8ByteSize + 16 ≤ (folderPath root).utf8ByteSize ∧
      (folderPath root).utf8ByteSize ≤ root.utf8ByteSize + 18 := by
  -- two components are joined, each with a separator or without one
  have houter := Path.utf8ByteSize_join root "META-INF"
  have hinner := Path.utf8ByteSize_join (Path.join root "META-INF") "services"
  have hmetaInf : "META-INF".utf8ByteSize = 8 := rfl
  have hservices : "services".utf8ByteSize = 8 := rfl
  rw [← folderPath] at hinner
  omega

/-- Of the path of the file of a service, only the length can be refused if neither the root nor the
name has the character U+0000 in it. -/
theorem refusal?_path (hfit : nameFault? i = none) (hroot : '\x00' ∉ root.toList)
    (hi : '\x00' ∉ i.toList) :
    refusal? (path root i) =
      if pathLimit ≤ (path root i).utf8ByteSize then some .nameTooLong else none := by
  apply refusal?_of_no_nul
  rw [path_eq hfit, Path.toList_extend, List.mem_append, List.mem_cons]
  -- the character would stand in the folder, be the separator or stand in the name
  rintro (hmem | hmem | hmem)
  · exact no_nul_folderPath hroot hmem
  · exact absurd hmem (by decide)
  · exact hi hmem

end Service

/-! ## What corresponds -/

/-- What stands under a name in the folder of all services below a root. -/
def FileTree.inServices? (t : FileTree) (root i : String) : Option FileEntry :=
  t.entryAt? (placeOf t.workingFolder (Service.folderPath root) ++ [i])

/-- Whether the files in the folder of all services below a root are the resources of a store in
memory that refuses nothing. The root leads inwards only, and each folder on the way to the folder
of all services is there or can be made. -/
structure Mirrors (root : String) (t : FileTree) (s : MemoryStore) : Prop where
  wellFormed : t.WellFormed
  no_dots : ".." ∉ Path.nonEmptyParts root
  no_nul : '\x00' ∉ root.toList
  short : ∀ part ∈ Path.nonEmptyParts root, part.utf8ByteSize ≤ componentLimit
  clear : ∀ place, OnWay t.workingFolder (Service.folderPath root) place →
    t.entryAt? place = some .folder ∨ t.entryAt? place = none
  files : ∀ i content, t.inServices? root i = some (.file content) ↔
    s.resources.find? (Service.resourceName i) = some content
  refusedReads : s.refusedReads = ∅
  refusedWrites : s.refusedWrites = ∅

/-- Whether a fit name of a service can name a file in the folder of all services below a root: the
file system takes the name and the path, and no folder has the name. -/
structure Usable (root : String) (t : FileTree) (i : String) : Prop where
  no_nul : '\x00' ∉ i.toList
  short : i.utf8ByteSize ≤ componentLimit
  path_short : (Service.path root i).utf8ByteSize < pathLimit
  no_folder : t.inServices? root i ≠ some .folder

section Mirrors

variable {root i : String} {t u : FileTree} {s : MemoryStore}

theorem Usable.accepted (h : Usable root t i) (hfit : Service.nameFault? i = none)
    (hroot : '\x00' ∉ root.toList) : refusal? (Service.path root i) = none := by
  rw [Service.refusal?_path hfit hroot h.no_nul, if_neg (Nat.not_le.mpr h.path_short)]

theorem Mirrors.clearWay (h : Mirrors root t s) : t.ClearWay (Service.folderPath root) where
  wellFormed := h.wellFormed
  no_dots := by
    rw [Service.nonEmptyParts_folderPath, List.mem_append, not_or]
    exact ⟨h.no_dots, by decide⟩
  short := by
    intro part hpart
    rw [Service.nonEmptyParts_folderPath, List.mem_append] at hpart
    -- a part of the path is one of the root or one of the two fixed folders
    rcases hpart with hroot | hfolder
    · exact h.short part hroot
    · have hall : ∀ part ∈ ["META-INF", "services"], part.utf8ByteSize ≤ componentLimit := by
        decide
      exact hall part hfolder
  clear := h.clear

/-- Reading the file of a service and its resource in memory. -/
theorem Mirrors.sameRead (h : Mirrors root t s) (hi : Usable root t i)
    (hfit : Service.nameFault? i = none) :
    SameRead (t.read (Service.path root i)) (s.read (Service.resourceName i)) := by
  have hpath := Service.path_eq hfit root
  have hrefusal := hi.accepted hfit h.no_nul
  rw [hpath] at hrefusal
  have hread := read_of_clear h.clearWay (Service.folderPath_ne_empty root)
    (Service.isName_of_nameFault? hfit) hrefusal hi.short
  rw [← FileTree.inServices?] at hread
  rw [hpath, hread, MemoryStore.read, h.refusedReads, if_neg (NameSet.not_mem_empty _)]
  -- a folder under the name is ruled out; so there is a file, with the content of the resource, or
  -- nothing, and then there is no resource either
  cases hentry : t.inServices? root i with
  | none =>
    have hnone : s.resources.find? (Service.resourceName i) = none := by
      cases hfind : s.resources.find? (Service.resourceName i) with
      | none => rfl
      | some content =>
        rw [(h.files i content).mpr hfind] at hentry
        cases hentry
    rw [hnone]
    exact .inr ⟨_, _, rfl, rfl, rfl, rfl⟩
  | some entry =>
    cases entry with
    | folder => exact absurd hentry hi.no_folder
    | file content =>
      rw [(h.files i content).mp hentry]
      exact .inl rfl

/-- A file that was put into the folder of all services, after folders were added on the way to it,
is all that is new in that folder. -/
theorem inServices?_put {content : Bytes} (h : t.ClearWay (Service.folderPath root))
    (hadded : t.FoldersAdded u (OnWay t.workingFolder (Service.folderPath root))) (j : String) :
    (u.put (placeOf t.workingFolder (Service.folderPath root) ++ [i])
      (.file content)).inServices? root j =
        if j = i then some (.file content) else t.inServices? root j := by
  have hworking : (u.put (placeOf t.workingFolder (Service.folderPath root) ++ [i])
      (.file content)).workingFolder = t.workingFolder := hadded.workingFolder
  -- the folders that were added lie on the way, and no child of the last one does
  rw [FileTree.inServices?, hworking, entryAt?_put_child, hadded.elsewhere (h.not_onWay j)]
  simp only [List.append_cancel_left_eq, List.singleton_inj]
  rfl

/-- A tree goes on mirroring a store when the same content is written to the file of a service and
to its resource in memory. -/
theorem Mirrors.put {content : Bytes} (h : Mirrors root t s) (hi : Usable root t i)
    (hclear : u.ClearWay (Service.folderPath root))
    (hadded : t.FoldersAdded u (OnWay t.workingFolder (Service.folderPath root)))
    (hfolder : u.entryAt? (placeOf t.workingFolder (Service.folderPath root)) = some .folder)
    (count : Nat) :
    Mirrors root
      (u.put (placeOf t.workingFolder (Service.folderPath root) ++ [i]) (.file content))
      { s.put (Service.resourceName i) content with writeCount := count } where
  wellFormed := by
    refine hclear.wellFormed.put hfolder (.inr ?_)
    rw [hadded.elsewhere (h.clearWay.not_onWay i)]
    exact hi.no_folder
  no_dots := h.no_dots
  no_nul := h.no_nul
  short := h.short
  clear := by
    intro place hplace
    have hway : OnWay t.workingFolder (Service.folderPath root) place :=
      hadded.workingFolder ▸ hplace
    -- the new file is no place on the way
    rw [entryAt?_put_child, if_neg]
    · exact hclear.clear place hplace
    · rintro rfl
      exact h.clearWay.not_onWay i hway
  files := by
    intro j other
    -- the resources change at one name, as the files do
    have hfind : (s.resources.insert (Service.resourceName i) content).find?
        (Service.resourceName j) =
          if j = i then some content else s.resources.find? (Service.resourceName j) := by
      rw [NameMap.find?_insert]
      simp only [Service.resourceName_inj]
    rw [inServices?_put h.clearWay hadded]
    refine Iff.trans ?_ (by rw [MemoryStore.put, hfind])
    split
    · simp only [Option.some.injEq, FileEntry.file.injEq]
    · exact h.files j other
  refusedReads := h.refusedReads
  refusedWrites := h.refusedWrites

/-- Writing to files makes no name unusable. -/
theorem Usable.put {content : Bytes} {j : String} (hj : Usable root t j)
    (h : t.ClearWay (Service.folderPath root))
    (hadded : t.FoldersAdded u (OnWay t.workingFolder (Service.folderPath root))) :
    Usable root
      (u.put (placeOf t.workingFolder (Service.folderPath root) ++ [i]) (.file content)) j where
  no_nul := hj.no_nul
  short := hj.short
  path_short := hj.path_short
  no_folder := by
    rw [inServices?_put h hadded]
    split
    · exact fun heq => FileEntry.noConfusion (Option.some.inj heq)
    · exact hj.no_folder

/-- Whether a tree mirrors a store in memory and some names can be used in it. -/
def MirrorsFor (names : String → Prop) (root : String) (t : FileTree) (s : MemoryStore) : Prop :=
  Mirrors root t s ∧ ∀ j, names j → Usable root t j

/-- The files below a root and a store in memory answer requests about the resource of a service
alike, and go on doing so. -/
theorem corresponds_of_usable {names : String → Prop} (root : String) (hi : names i)
    (hfit : Service.nameFault? i = none) :
    Store.Corresponds (MirrorsFor names root) (fileSystem.store root) MemoryStore.store
      (Service.resourceName i) where
  read := by
    rintro t s ⟨h, husable⟩
    exact ⟨_, _, rfl, rfl, h.sameRead (husable i hi) hfit⟩
  write := by
    rintro t s ⟨h, husable⟩ content
    have hpath := Service.path_eq hfit root
    have hrefusal := (husable i hi).accepted hfit h.no_nul
    rw [hpath] at hrefusal
    -- on disk the folders on the way are made first; they are all that is new besides the file
    obtain ⟨u, hclear, hadded, hfolder, hrun⟩ := writeWithFolders_of_clear h.clearWay
      (Service.folderPath_ne_empty root) (Service.isName_of_nameFault? hfit) hrefusal
      (husable i hi).short (husable i hi).no_folder content
    have hdisk : (fileSystem.store root).write (Service.resourceName i) content t =
        (.ok (), u.put (placeOf t.workingFolder (Service.folderPath root) ++ [i])
          (.file content)) := by
      rw [store_write, hpath, hrun]
    have hmemory : MemoryStore.store.write (Service.resourceName i) content s =
        (.ok (),
          { s.put (Service.resourceName i) content with writeCount := s.writeCount + 1 }) := by
      simp only [MemoryStore.store, MemoryStore.write, h.refusedWrites,
        if_neg (NameSet.not_mem_empty _)]
    exact ⟨_, _, _, hdisk, hmemory, h.put (husable i hi) hclear hadded hfolder _,
      fun j hj => (husable j hj).put h.clearWay hadded⟩

end Mirrors

/-! ## Empty stores -/

/-- A folder of services that does not exist mirrors an empty store in memory. -/
theorem mirrors_empty {root : String} {t : FileTree} (ht : t.WellFormed)
    (hdots : ".." ∉ Path.nonEmptyParts root) (hnul : '\x00' ∉ root.toList)
    (hshort : ∀ part ∈ Path.nonEmptyParts root, part.utf8ByteSize ≤ componentLimit)
    (hclear : ∀ parts ∈ (Path.nonEmptyParts (Service.folderPath root)).inits,
      let place := along (startOf t.workingFolder (Service.folderPath root)) parts
      t.entryAt? place = some .folder ∨ t.entryAt? place = none)
    (hmissing : t.entryAt? (placeOf t.workingFolder (Service.folderPath root)) = none) :
    Mirrors root t ∅ where
  wellFormed := ht
  no_dots := hdots
  no_nul := hnul
  short := hshort
  clear := by
    rintro place ⟨parts, hprefix, rfl⟩
    exact hclear parts ((List.mem_inits _ _).mpr hprefix)
  files := by
    intro i content
    -- below a folder that is missing there is nothing
    have hfile : t.inServices? root i = none := ht.entryAt?_append hmissing [i]
    have hresource : (∅ : MemoryStore).resources.find? (Service.resourceName i) = none :=
      NameMap.find?_empty _
    rw [hfile, hresource]
    constructor
    · intro h
      cases h
    · intro h
      cases h
  refusedReads := rfl
  refusedWrites := rfl

/-! ## Paths that are refused -/

/-- Merging a service whose path is refused fails at writing it, although the folder can be made. -/
theorem mergeService_of_refused {root i : String} {t : FileTree} {fault : Fault}
    (h : t.ClearWay (Service.folderPath root)) (hfit : Service.nameFault? i = none)
    (haccepted : refusal? (Service.folderPath root) = none)
    (hrefusal : refusal? (Service.path root i) = some fault) (debug : Bool) {ps : NameSet}
    (hsome : ¬ ps ⊆ (∅ : NameSet)) (hentries : Service.badEntry? (∅ ∪ ps).toList = none) :
    (Merge.mergeService debug (fileSystem.store root) i ps t).1.2 =
      .error (.unwritable (Service.resourceName i) fault) := by
  have hname := Service.isName_of_nameFault? hfit
  have hne := Service.folderPath_ne_empty root
  have hpath := Service.path_eq hfit root
  rw [hpath] at hrefusal
  have hread : (fileSystem.store root).read (Service.resourceName i) t = (.error fault, t) := by
    rw [store_read, hpath, read_of_refused hne hname hrefusal t]
  obtain ⟨u, hrefused⟩ := writeWithFolders_of_refused h hne hname haccepted hrefusal
    (Service.writeLines (∅ ∪ ps).toList)
  have hwrite : (fileSystem.store root).write (Service.resourceName i)
      (Service.writeLines (∅ ∪ ps).toList) t = (.error fault, u) := by
    rw [store_write, hpath, hrefused]
  obtain ⟨journal, -, hrun⟩ := Merge.mergeService_run hread debug ps
  rw [hrun]
  simp only [hfit, Service.named, if_neg hsome, hentries, hwrite]

/-! ## Main statement -/

/-- Let the files in the folder of all services below a root be the resources of a store in memory,
and let the fit names in some catalogs be usable. Merging these catalogs one after another below the
root and into the store has the same results, be they reports or failures, along with the same
warnings in the same order, and the files are again the resources afterwards. -/
theorem mapM_mergeInto_mirrored {debug : Bool} {root : String} {t : FileTree} {s : MemoryStore}
    (h : Mirrors root t s) {cs : List Catalog}
    (hnames : ∀ c ∈ cs, ∀ i ∈ c.serviceNames, Service.nameFault? i = none → Usable root t i) :
    let disk := cs.mapM (fun c => c.mergeInto debug (fileSystem.store root)) t
    let memory := cs.mapM (fun c => c.mergeInto debug MemoryStore.store) s
    disk.1.map reported = memory.1.map reported ∧ Mirrors root disk.2 memory.2 := by
  intro disk memory
  let names (i : String) : Prop := (∃ c ∈ cs, i ∈ c.serviceNames) ∧ Service.nameFault? i = none
  have hstart : MirrorsFor names root t s := by
    refine ⟨h, ?_⟩
    rintro i ⟨⟨c, hc, hi⟩, hfit⟩
    exact hnames c hc i hi hfit
  have halike : ∀ c ∈ cs, ∀ i ∈ c.serviceNames, Service.nameFault? i = none →
      Store.Corresponds (MirrorsFor names root) (fileSystem.store root) MemoryStore.store
        (Service.resourceName i) :=
    fun c hc i hi hfit => corresponds_of_usable root ⟨⟨c, hc, hi⟩, hfit⟩ hfit
  rcases mapM_mergeInto_sameOutcome halike hstart with ⟨hsame, hmirrors, -⟩
  exact ⟨hsame, hmirrors⟩

/-- Three merges into a folder that is partly there: one makes the rest of it, one fails at an unfit
name after it has changed a file, and one finds that file again. -/
theorem mapM_mergeInto_mirrored_three :
    let t : FileTree := ⟨["home"], [(["home"], .folder), (["home", "out"], .folder)]⟩
    let cs := [Catalog.ofPairs [("a.B", "p")], Catalog.ofPairs [("a.B", "q"), ("b c", "q")],
      Catalog.ofPairs [("a.B", "p"), ("c.D", "r")]]
    let disk := cs.mapM (fun c => c.mergeInto true (fileSystem.store "./out/")) t
    let memory := cs.mapM (fun c => c.mergeInto true MemoryStore.store) ∅
    disk.1.map reported = memory.1.map reported ∧
      memory.1.map (fun out => out.2.toOption) =
        [some ⟨["a.B"], []⟩, none, some ⟨["c.D"], ["a.B"]⟩] ∧
      disk.2.inServices? "./out/" "a.B" = some (.file (Utf8.encode "p\nq\n")) := by
  intro t cs disk memory
  have hmirrors : Mirrors "./out/" t ∅ :=
    mirrors_empty (by decide) (by decide) (by decide) (by decide) (by decide +kernel)
      (by decide +kernel)
  have hnames : ∀ c ∈ cs, ∀ i ∈ c.serviceNames, Service.nameFault? i = none →
      Usable "./out/" t i := by
    have hall : cs.flatMap Catalog.serviceNames = ["a.B", "a.B", "b c", "a.B", "c.D"] := by
      decide +kernel
    intro c hc i hi hfit
    have hmem : i ∈ cs.flatMap Catalog.serviceNames := List.mem_flatMap.mpr ⟨c, hc, hi⟩
    simp only [hall, List.mem_cons, List.not_mem_nil, or_false, or_self_left] at hmem
    -- one of the names is unfit; the others are short, and nothing stands under them
    rcases hmem with rfl | rfl | rfl | rfl
    · exact ⟨by decide, by decide, by decide +kernel, by decide +kernel⟩
    · exact absurd hfit (by decide)
    · exact ⟨by decide, by decide, by decide +kernel, by decide +kernel⟩
    · exact ⟨by decide, by decide, by decide +kernel, by decide +kernel⟩
  rcases mapM_mergeInto_mirrored hmirrors hnames with ⟨hsame, hafter⟩
  have hresource : memory.2.resources.find? (Service.resourceName "a.B") =
      some (Utf8.encode "p\nq\n") := by decide +kernel
  exact ⟨hsame, by decide +kernel, (hafter.files "a.B" _).mpr hresource⟩

/-! ## A path that is too long -/

theorem utf8ByteSize_replicate (n : Nat) {c : Char} (h : c.utf8Size = 1) :
    (String.ofList (List.replicate n c)).utf8ByteSize = n := by
  induction n with
  | zero => rfl
  | succ n ih =>
    rw [List.replicate_succ, ← List.singleton_append, String.ofList_append,
      String.utf8ByteSize_append, ih, ← String.singleton_eq_ofList,
      String.utf8ByteSize_singleton, h, Nat.add_comm]

theorem not_mem_replicate {c other : Char} (h : other ≠ c) (n : Nat) :
    other ∉ (String.ofList (List.replicate n c)).toList := by
  rw [String.toList_ofList, List.mem_replicate]
  exact fun hmem => h hmem.2

/-- A name of one letter many times is fit if it would be once. -/
theorem nameFault?_replicate {n : Nat} {c : Char} (hn : n ≠ 0)
    (hgood : Service.isBadCharacter c = false) (hdot : '.' ≠ c) :
    Service.nameFault? (String.ofList (List.replicate n c)) = none := by
  have hne : List.replicate n c ≠ [] := fun hnil => hn (List.replicate_eq_nil_iff c |>.mp hnil)
  rw [Service.nameFault?_eq_none_iff]
  refine ⟨?_, ?_, ?_⟩
  · rw [Ne, ← String.toList_inj, String.toList_ofList]
    exact hne
  · intro d hd
    rw [String.toList_ofList] at hd
    rw [List.eq_of_mem_replicate hd, hgood]
  · -- without a dot the name is its only part, and it is not empty
    rw [Text.hasEmptyPart, Text.splitAt_of_not_mem (not_mem_replicate hdot n), String.toList_ofList]
    cases hpart : List.replicate n c with
    | nil => exact absurd hpart hne
    | cons d ds => rfl

/-- A folder, written with any number of slashes after it. -/
def slashed (folder : String) (n : Nat) : String :=
  folder ++ String.ofList (List.replicate n '/')

theorem slashed_succ (folder : String) (n : Nat) :
    slashed folder (n + 1) = Path.extend (slashed folder n) "" := by
  rw [← String.toList_inj, Path.toList_extend, slashed, slashed, String.toList_append,
    String.toList_append, String.toList_ofList, String.toList_ofList, List.replicate_succ',
    List.append_assoc]
  rfl

theorem nonEmptyParts_slashed (folder : String) (n : Nat) :
    Path.nonEmptyParts (slashed folder n) = Path.nonEmptyParts folder := by
  induction n with
  | zero => rw [slashed, List.replicate_zero, String.ofList_nil, String.append_empty]
  | succ n ih =>
    -- one slash more ends the path with an empty part, which does not count
    rw [slashed_succ, Path.nonEmptyParts_extend, ih]
    exact List.append_nil _

theorem no_nul_slashed {folder : String} (h : '\x00' ∉ folder.toList) (n : Nat) :
    '\x00' ∉ (slashed folder n).toList := by
  rw [slashed, String.toList_append, List.mem_append, not_or]
  exact ⟨h, not_mem_replicate (by decide) n⟩

theorem utf8ByteSize_slashed (folder : String) (n : Nat) :
    (slashed folder n).utf8ByteSize = folder.utf8ByteSize + n := by
  rw [slashed, String.utf8ByteSize_append, utf8ByteSize_replicate n rfl]

theorem inServices?_bare (root i : String) : (⟨[], []⟩ : FileTree).inServices? root i = none := by
  rw [FileTree.inServices?, entryAt?, if_neg (List.concat_ne_nil _ _), List.lookup_nil]

/-- The empty tree mirrors the empty store, also below a root that is written with many slashes. -/
theorem mirrors_slashed (n : Nat) : Mirrors (slashed "out" n) ⟨[], []⟩ ∅ := by
  have hparts : Path.nonEmptyParts (slashed "out" n) = ["out"] := nonEmptyParts_slashed "out" n
  have hfolders : Path.nonEmptyParts (Service.folderPath (slashed "out" n)) =
      ["out", "META-INF", "services"] := by
    rw [Service.nonEmptyParts_folderPath, hparts]
    rfl
  have hstart : startOf [] (Service.folderPath (slashed "out" n)) = [] := by
    rw [startOf, ite_self]
  refine mirrors_empty (by decide) ?_ (no_nul_slashed (by decide) n) ?_ ?_ ?_
  · rw [hparts]
    decide
  · rw [hparts]
    decide
  · rw [hfolders, hstart]
    decide
  · rw [placeOf, hfolders, hstart]
    rfl

/-- A file cannot be written where the path to it is too long, though its name is short enough and
the folder can be made. The resource of that name in memory is written. -/
theorem longPath_not_mirrored :
    let root := "out" ++ String.ofList (List.replicate 3900 '/')
    let i := String.ofList (List.replicate 200 's')
    let t : FileTree := ⟨[], []⟩
    let c := Catalog.ofPairs [(i, "p")]
    Mirrors root t ∅ ∧ (fileSystem.makeFolders (Service.folderPath root) t).1 = .ok () ∧
      Service.nameFault? i = none ∧ '\x00' ∉ i.toList ∧ i.utf8ByteSize ≤ componentLimit ∧
      t.inServices? root i = none ∧
      (c.mergeInto false (fileSystem.store root) t).1.2 =
        .error (.unwritable (Service.resourceName i) .nameTooLong) ∧
      (c.mergeInto false MemoryStore.store ∅).1.2 = .ok ⟨[i], []⟩ := by
  intro root i t c
  have hmirrors : Mirrors root t ∅ := mirrors_slashed 3900
  have hfit : Service.nameFault? i = none :=
    nameFault?_replicate (by decide) (by decide) (by decide)
  have hi : '\x00' ∉ i.toList := not_mem_replicate (by decide) 200
  have hmissing : t.inServices? root i = none := inServices?_bare root i
  -- the path of the folder stays below the limit, that of the file does not
  have hroot : root.utf8ByteSize = 3903 := utf8ByteSize_slashed "out" 3900
  have hname : i.utf8ByteSize = 200 := utf8ByteSize_replicate 200 rfl
  have hfolder := Service.utf8ByteSize_folderPath root
  have hfile := Path.utf8ByteSize_join (Service.folderPath root) i
  rw [← Service.path_eq_join hfit] at hfile
  have haccepted : refusal? (Service.folderPath root) = none := by
    rw [refusal?_of_no_nul (Service.no_nul_folderPath hmirrors.no_nul), if_neg]
    rw [pathLimit]
    omega
  have hrefusal : refusal? (Service.path root i) = some .nameTooLong := by
    rw [Service.refusal?_path hfit hmirrors.no_nul hi, if_pos]
    rw [pathLimit]
    omega
  have hmade : (fileSystem.makeFolders (Service.folderPath root) t).1 = .ok () := by
    have hclear := hmirrors.clearWay
    rw [Service.folderPath_eq] at hclear haccepted ⊢
    obtain ⟨u, hrun, -⟩ := makeFolders_of_clear hclear Service.isName_services haccepted
    rw [hrun]
  have hentries : c.services.entries = [(i, NameSet.ofList ["p"])] := rfl
  have hdisk : (c.mergeInto false (fileSystem.store root) t).1.2 =
      .error (.unwritable (Service.resourceName i) .nameTooLong) := by
    have hsome : ¬ NameSet.ofList ["p"] ⊆ (∅ : NameSet) := by decide
    have hfails := mergeService_of_refused hmirrors.clearWay hfit haccepted hrefusal false hsome
      (by decide)
    rw [Catalog.mergeInto, hentries, mergeServices_cons]
    simp only [hfails]
  have hmemory : (c.mergeInto false MemoryStore.store ∅).1.2 = .ok ⟨[i], []⟩ := by
    have hclear : (∅ : MemoryStore).obstacle? i (NameSet.ofList ["p"]) = none := by
      rw [MemoryStore.obstacle?, hfit]
      rfl
    obtain ⟨journal, -, hrun⟩ := Merge.mergeService_eq false ∅ i (NameSet.ofList ["p"])
    rw [Catalog.mergeInto, hentries, mergeServices_cons, hrun, hclear]
    rfl
  exact ⟨hmirrors, hmade, hfit, hi, by rw [hname]; decide, hmissing, hdisk, hmemory⟩

end ServiceCatalog
