import Mathlib.Data.List.Basic
import ServiceCatalog.Proofs.Paths
import ServiceCatalog.Proofs.Utf8
import ServiceCatalog.Storage.FileTree
import ServiceCatalog.Storage.Store

/-!
# Requests to a tree of files

In a well-formed tree everything stands in a folder. Making the folders that a path goes through
adds folders at places on its way and changes nothing else, whether it succeeds or not. So a file
that is written along with its folders can be read afterwards, and every other file in the same
folder reads as it did before.

* `walk_of_foldersAdded`: a way that is open after folders were added was open before, or it ended
  at a missing folder;
* `adding_makeNested`: making nested folders adds folders and changes nothing else;
* `writeWithFolders_run`: whatever comes of writing a file along with its folders, folders were
  added on the way to it, and after that at most the file was written;
* `read_of_writeWithFolders`: what is read in a folder after a file was written there;
* `read_back_of_writeWithFolders`: what is read under the path that was written, whatever the path.
-/

namespace ServiceCatalog.FileTree

/-- Two steps that succeed: the first one does, and so does the second one on what it gives. -/
theorem of_bind_ok {ε α β : Type} {x : Except ε α} {f : α → Except ε β} {b : β}
    (h : x >>= f = .ok b) : ∃ a, x = .ok a ∧ f a = .ok b := by
  cases x with
  | error fault => cases h
  | ok a => exact ⟨a, rfl, h⟩

variable {t t' u : FileTree} {folder place rest : List String} {parts : List String}
  {places : List String → Prop} {path name : String} {content : Bytes} {entry : FileEntry}

/-! ## Well-formed trees -/

/-- Whether everything in a tree stands in a folder, and the working folder is one. -/
structure WellFormed (t : FileTree) : Prop where
  parent : ∀ {place : List String} {name : String},
    t.entryAt? (place ++ [name]) ≠ none → t.entryAt? place = some .folder
  working : t.entryAt? t.workingFolder = some .folder

theorem entryAt?_ne_none_iff :
    t.entryAt? place ≠ none ↔ place = [] ∨ ∃ entry, (place, entry) ∈ t.entries := by
  unfold entryAt?
  split
  · next h => simp [h]
  · next h => simp [h, List.lookup_eq_none_iff]

/-- Whether a tree is well-formed can be checked entry by entry. -/
theorem wellFormed_iff :
    t.WellFormed ↔ (∀ e ∈ t.entries, t.entryAt? e.1.dropLast = some .folder) ∧
      t.entryAt? t.workingFolder = some .folder := by
  constructor
  · intro ht
    refine ⟨?_, ht.working⟩
    rintro ⟨place, entry⟩ hmem
    -- a place is the root or lies in the folder around it
    rcases List.eq_nil_or_concat place with rfl | ⟨outer, name, rfl⟩
    · rfl
    · rw [List.concat_eq_append] at hmem ⊢
      rw [List.dropLast_concat]
      exact ht.parent (entryAt?_ne_none_iff.mpr (.inr ⟨entry, hmem⟩))
  · rintro ⟨hentries, hworking⟩
    refine ⟨?_, hworking⟩
    intro place name hchild
    rcases entryAt?_ne_none_iff.mp hchild with hnil | ⟨entry, hmem⟩
    · exact absurd hnil (List.append_ne_nil_of_right_ne_nil _ (List.cons_ne_nil _ _))
    · have hparent := hentries _ hmem
      rwa [List.dropLast_concat] at hparent

instance (t : FileTree) : Decidable t.WellFormed := decidable_of_iff _ wellFormed_iff.symm

/-- Nothing stands below a place where nothing stands. -/
theorem WellFormed.entryAt?_append (ht : t.WellFormed) (h : t.entryAt? place = none)
    (rest : List String) : t.entryAt? (place ++ rest) = none := by
  induction rest generalizing place with
  | nil => rwa [List.append_nil]
  | cons name rest ih =>
    have hname : t.entryAt? (place ++ [name]) = none := by
      by_contra hne
      rw [ht.parent hne] at h
      cases h
    rw [List.append_cons]
    exact ih hname

/-- A folder stands in a folder. -/
theorem WellFormed.entryAt?_dropLast (ht : t.WellFormed) (h : t.entryAt? place = some .folder) :
    t.entryAt? place.dropLast = some .folder := by
  rcases List.eq_nil_or_concat place with rfl | ⟨outer, name, rfl⟩
  · exact h
  · rw [List.concat_eq_append] at h ⊢
    have hne : t.entryAt? (outer ++ [name]) ≠ none := by
      rw [h]
      exact Option.some_ne_none _
    rw [List.dropLast_concat]
    exact ht.parent hne

theorem entryAt?_put_child (t : FileTree) (folder : List String) (name : String)
    (entry : FileEntry) (place : List String) :
    (t.put (folder ++ [name]) entry).entryAt? place =
      if place = folder ++ [name] then some entry else t.entryAt? place :=
  entryAt?_put (List.append_ne_nil_of_right_ne_nil _ (List.cons_ne_nil _ _)) entry place

/-- No folder is lost when something is put into a folder, unless it takes the place of one. -/
theorem folder_kept_of_put (hentry : entry = .folder ∨ t.entryAt? (folder ++ [name]) ≠ some .folder)
    (h : t.entryAt? place = some .folder) :
    (t.put (folder ++ [name]) entry).entryAt? place = some .folder := by
  rw [entryAt?_put_child]
  -- the place itself holds a folder afterwards, since a file may not take the place of one
  split
  · next heq =>
    rcases hentry with rfl | hne
    · rfl
    · rw [heq] at h
      exact absurd h hne
  · exact h

/-- Something may be put into a folder, unless it is a file and takes the place of a folder. -/
theorem WellFormed.put (ht : t.WellFormed) (hfolder : t.entryAt? folder = some .folder)
    (hentry : entry = .folder ∨ t.entryAt? (folder ++ [name]) ≠ some .folder) :
    (t.put (folder ++ [name]) entry).WellFormed := by
  constructor
  · intro place other hother
    -- whatever had a folder around it still has one
    apply folder_kept_of_put hentry
    rw [entryAt?_put_child] at hother
    split at hother
    · next heq =>
      rw [(List.append_inj' heq rfl).1]
      exact hfolder
    · exact ht.parent hother
  · exact folder_kept_of_put hentry ht.working

/-! ## Ways through folders -/

/-- Where a way that starts at the root or in a folder begins. -/
def startOf (working : List String) (path : String) : List String :=
  if Path.isAbsolute path then [] else working

/-- The place that one component leads to from a folder: a dot leads nowhere, two dots lead
outwards, and a name leads inwards. -/
def onward (folder : List String) (part : String) : List String :=
  if part = "." then folder else if part = ".." then folder.dropLast else folder ++ [part]

/-- The place that components lead to from a folder one after another. -/
def along (folder : List String) (parts : List String) : List String := parts.foldl onward folder

/-- The place that a path leads to, given the working folder. -/
def placeOf (working : List String) (path : String) : List String :=
  along (startOf working path) (Path.nonEmptyParts path)

/-- Whether a path goes through a place: some first components of it lead there. -/
def OnWay (working : List String) (path : String) (place : List String) : Prop :=
  ∃ parts, parts <+: Path.nonEmptyParts path ∧ place = along (startOf working path) parts

/-- The components that lead inwards if none leads outwards. -/
def steps (parts : List String) : List String := parts.filter (· ≠ ".")

/-- A path and what it goes through start at the same place. -/
theorem startOf_beginning {working : List String} {stage : String} (h : Path.Beginning stage path) :
    startOf working stage = startOf working path := by
  rw [startOf, startOf, h.parts.1]

theorem startOf_extend (h : path ≠ "") (working : List String) (name : String) :
    startOf working (Path.extend path name) = startOf working path :=
  (startOf_beginning ⟨h, .inr ⟨name, rfl⟩⟩).symm

theorem onward_name {part : String} (hdot : part ≠ ".") (hdots : part ≠ "..")
    (folder : List String) : onward folder part = folder ++ [part] := by
  rw [onward, if_neg hdot, if_neg hdots]

theorem along_cons (folder : List String) (part : String) (parts : List String) :
    along folder (part :: parts) = along (onward folder part) parts := rfl

theorem along_concat (folder parts : List String) (part : String) :
    along folder (parts ++ [part]) = onward (along folder parts) part :=
  List.foldl_concat onward folder part parts

theorem along_append (folder parts parts' : List String) :
    along folder (parts ++ parts') = along (along folder parts) parts' :=
  List.foldl_append

theorem steps_cons_dot (parts : List String) : steps ("." :: parts) = steps parts := rfl

theorem steps_cons {part : String} (h : part ≠ ".") (parts : List String) :
    steps (part :: parts) = part :: steps parts := by
  simp [steps, h]

/-- Without `..` components lead to a place below the folder. -/
theorem along_eq_append (hdots : ".." ∉ parts) (folder : List String) :
    along folder parts = folder ++ steps parts := by
  induction parts generalizing folder with
  | nil => exact (List.append_nil folder).symm
  | cons part parts ih =>
    rw [List.mem_cons, not_or] at hdots
    rw [along_cons, ih hdots.2]
    by_cases hdot : part = "."
    · rw [hdot, steps_cons_dot]
      rfl
    · rw [onward_name hdot (Ne.symm hdots.1), steps_cons hdot, List.append_assoc]
      rfl

/-- Without `..` a path goes through beginnings of its place only. -/
theorem OnWay.length_le {working : List String} (h : OnWay working path place)
    (hdots : ".." ∉ Path.nonEmptyParts path) : place.length ≤ (placeOf working path).length := by
  rcases h with ⟨parts, hway, rfl⟩
  -- the beginning of the way has no two dots either, so it is a beginning of the place
  have hdots' : ".." ∉ parts := by
    intro hmem
    exact hdots (hway.subset hmem)
  have hsteps : (steps parts).length ≤ (steps (Path.nonEmptyParts path)).length :=
    (hway.filter _).length_le
  rw [placeOf, along_eq_append hdots, along_eq_append hdots', List.length_append,
    List.length_append]
  omega

theorem WellFormed.entryAt?_startOf (ht : t.WellFormed) (path : String) :
    t.entryAt? (startOf t.workingFolder path) = some .folder := by
  unfold startOf
  split
  · rfl
  · exact ht.working

theorem look_eq_ok_iff {found : Option FileEntry} :
    t.look folder name = .ok found ↔
      name.utf8ByteSize ≤ componentLimit ∧ t.entryAt? (folder ++ [name]) = found := by
  unfold look
  split
  · next hlong => simp [Nat.not_le.mpr hlong]
  · next hshort => simp [Nat.not_lt.mp hshort]

/-- What was put into a folder is seen there. -/
theorem look_put (hshort : name.utf8ByteSize ≤ componentLimit) :
    (t.put (folder ++ [name]) entry).look folder name = .ok (some entry) := by
  rw [look_eq_ok_iff, entryAt?_put_child, if_pos rfl]
  exact ⟨hshort, rfl⟩

/-- A way through one more component: a dot leads nowhere, two dots lead outwards, and a name leads
to a folder that must exist. -/
theorem walk_cons_eq_ok_iff {part : String} :
    t.walk folder (part :: parts) = .ok place ↔
      part = "." ∧ t.walk folder parts = .ok place ∨
      part = ".." ∧ t.walk folder.dropLast parts = .ok place ∨
      part ≠ "." ∧ part ≠ ".." ∧ t.look folder part = .ok (some .folder) ∧
        t.walk (folder ++ [part]) parts = .ok place := by
  rw [walk]
  by_cases hdot : part = "."
  · simp [hdot]
  · by_cases hdots : part = ".."
    · simp [hdots]
    · simp only [hdot, hdots, if_false, false_and, false_or, ne_eq, not_false_eq_true, true_and]
      rcases t.look folder part with fault | (_ | (_ | content)) <;> simp

/-- A way that is open ends at a folder. -/
theorem WellFormed.entryAt?_walk (ht : t.WellFormed) (hfolder : t.entryAt? folder = some .folder)
    (h : t.walk folder parts = .ok place) : t.entryAt? place = some .folder := by
  -- the induction is on the components: each one leads to a folder again
  induction parts generalizing folder with
  | nil =>
    cases h
    exact hfolder
  | cons part parts ih =>
    rcases walk_cons_eq_ok_iff.mp h with ⟨-, h⟩ | ⟨-, h⟩ | ⟨-, -, hlook, h⟩
    · exact ih hfolder h
    · exact ih (ht.entryAt?_dropLast hfolder) h
    · exact ih (look_eq_ok_iff.mp hlook).2 h

/-- A way that is open leads where its components lead. -/
theorem eq_of_walk (h : t.walk folder parts = .ok place) : place = along folder parts := by
  induction parts generalizing folder with
  | nil =>
    cases h
    rfl
  | cons part parts ih =>
    rw [along_cons]
    rcases walk_cons_eq_ok_iff.mp h with ⟨rfl, h⟩ | ⟨rfl, h⟩ | ⟨hdot, hdots, -, h⟩
    · exact ih h
    · exact ih h
    · rw [onward_name hdot hdots]
      exact ih h

/-- A way stays open when all folders stay. -/
theorem walk_of_folders_kept
    (hkeep : ∀ p, t.entryAt? p = some .folder → t'.entryAt? p = some .folder)
    (h : t.walk folder parts = .ok place) : t'.walk folder parts = .ok place := by
  induction parts generalizing folder with
  | nil => exact h
  | cons part parts ih =>
    rw [walk_cons_eq_ok_iff] at h ⊢
    rcases h with ⟨hdot, h⟩ | ⟨hdots, h⟩ | ⟨hdot, hdots, hlook, h⟩
    · exact .inl ⟨hdot, ih h⟩
    · exact .inr (.inl ⟨hdots, ih h⟩)
    · -- the folder that the name leads to has stayed
      rcases look_eq_ok_iff.mp hlook with ⟨hshort, hentry⟩
      exact .inr (.inr ⟨hdot, hdots, look_eq_ok_iff.mpr ⟨hshort, hkeep _ hentry⟩, ih h⟩)

/-! ## Folders that were added -/

/-- Whether one tree is another one with folders added at some of the given places. -/
structure FoldersAdded (t t' : FileTree) (places : List String → Prop) : Prop where
  workingFolder : t'.workingFolder = t.workingFolder
  entryAt? : ∀ p, t'.entryAt? p = t.entryAt? p ∨
    t.entryAt? p = none ∧ t'.entryAt? p = some .folder ∧ places p

theorem FoldersAdded.refl (t : FileTree) (places : List String → Prop) :
    t.FoldersAdded t places :=
  ⟨rfl, fun _ => .inl rfl⟩

theorem FoldersAdded.trans (h : t.FoldersAdded t' places) (h' : t'.FoldersAdded u places) :
    t.FoldersAdded u places := by
  refine ⟨h'.workingFolder.trans h.workingFolder, ?_⟩
  intro p
  -- what the second step added was missing after the first, so the first did not add it
  rcases h'.entryAt? p with hsame' | ⟨hnone', hadded', hway'⟩
  · rw [hsame']
    exact h.entryAt? p
  · rcases h.entryAt? p with hsame | ⟨hnone, hadded, -⟩
    · exact .inr ⟨hsame ▸ hnone', hadded', hway'⟩
    · rw [hadded] at hnone'
      cases hnone'

/-- What stands elsewhere is as it was. -/
theorem FoldersAdded.elsewhere (h : t.FoldersAdded t' places) {p : List String}
    (hp : ¬ places p) : t'.entryAt? p = t.entryAt? p := by
  rcases h.entryAt? p with hsame | ⟨-, -, hplace⟩
  · exact hsame
  · exact absurd hplace hp

/-- A way without `..` that is open after folders were added was open before, or it ended at a
missing folder, below which nothing stands. -/
theorem walk_of_foldersAdded (ht : t.WellFormed) (hadded : t.FoldersAdded t' places)
    (hdots : ".." ∉ parts) {inner : List String} (h : t'.walk folder parts = .ok inner) :
    t.walk folder parts = .ok inner ∨
      t.walk folder parts = .error .notFound ∧ ∀ rest, t.entryAt? (inner ++ rest) = none := by
  induction parts generalizing folder with
  | nil => exact .inl h
  | cons part parts ih =>
    have hinner := (eq_of_walk h).trans (along_eq_append hdots folder)
    rw [List.mem_cons, not_or] at hdots
    rcases walk_cons_eq_ok_iff.mp h with ⟨rfl, h⟩ | ⟨rfl, -⟩ | ⟨hdot, hdots', hlook, h⟩
    · rw [walk, if_pos rfl]
      exact ih hdots.2 h
    · exact absurd rfl hdots.1
    · rcases look_eq_ok_iff.mp hlook with ⟨hshort, hentry⟩
      have hhere : t.look folder part = .ok (t.entryAt? (folder ++ [part])) :=
        look_eq_ok_iff.mpr ⟨hshort, rfl⟩
      rw [walk, if_neg hdot, if_neg hdots', hhere]
      -- the folder stood there before, or it was added
      rcases hadded.entryAt? (folder ++ [part]) with hsame | ⟨hnone, -, -⟩
      · rw [hsame] at hentry
        simp only [hentry]
        exact ih hdots.2 h
      · -- the folder was missing, and so was all that is below it
        simp only [hnone]
        refine .inr ⟨trivial, ?_⟩
        intro rest
        rw [hinner, steps_cons hdot, List.append_cons, List.append_assoc]
        exact ht.entryAt?_append hnone _

/-! ## Finding names in folders -/

/-- A path that leads to a name in a folder ends in that name. -/
theorem of_find_inside (h : t.find path = .ok (.inside folder name)) :
    Path.nonEmptyParts path = (Path.nonEmptyParts path).dropLast ++ [name] ∧
      name ≠ "." ∧ name ≠ ".." ∧
      t.walk (startOf t.workingFolder path) (Path.nonEmptyParts path).dropLast = .ok folder := by
  -- a path with a null character, an empty path and one that is too long are refused
  unfold find at h
  split at h
  · cases h
  split at h
  · cases h
  split at h
  · cases h
  cases hlast : (Path.nonEmptyParts path).getLast? with
  | none => simp [hlast] at h
  | some part =>
    simp only [hlast] at h
    rcases of_bind_ok h with ⟨inner, hwalk, h⟩
    split at h
    · cases h
    · next hdots =>
      cases h
      rw [not_or] at hdots
      refine ⟨?_, hdots.1, hdots.2, hwalk⟩
      exact (List.dropLast_append_getLast? name hlast).symm

theorem WellFormed.entryAt?_find (ht : t.WellFormed)
    (h : t.find path = .ok (.inside folder name)) : t.entryAt? folder = some .folder :=
  ht.entryAt?_walk (ht.entryAt?_startOf path) (of_find_inside h).2.2.2

/-- A path that leads to a name in a folder leads to its place. -/
theorem placeOf_of_find (h : t.find path = .ok (.inside folder name)) :
    folder ++ [name] = placeOf t.workingFolder path := by
  rcases of_find_inside h with ⟨hparts, hdot, hdots, hwalk⟩
  rw [placeOf, hparts, along_concat, onward_name hdot hdots, ← eq_of_walk hwalk]

/-! ## Requests that change a tree -/

theorem of_makeFolder (h : t.makeFolder path = .ok t') :
    ∃ folder name, t.find path = .ok (.inside folder name) ∧
      t.entryAt? (folder ++ [name]) = none ∧ t' = t.put (folder ++ [name]) .folder := by
  rcases of_bind_ok h with ⟨_ | ⟨folder, name⟩, hfind, h⟩
  · cases h
  rcases of_bind_ok h with ⟨_ | entry, hlook, h⟩
  · cases h
    exact ⟨folder, name, hfind, (look_eq_ok_iff.mp hlook).2, rfl⟩
  · cases h

theorem of_write (h : t.write path content = .ok t') :
    ∃ folder name, t.find path = .ok (.inside folder name) ∧
      name.utf8ByteSize ≤ componentLimit ∧ t.entryAt? (folder ++ [name]) ≠ some .folder ∧
      t' = t.put (folder ++ [name]) (.file content) := by
  rcases of_bind_ok h with ⟨_ | ⟨folder, name⟩, hfind, h⟩
  · cases h
  simp only at h
  split at h
  · cases h
  rcases of_bind_ok h with ⟨found, hlook, h⟩
  rcases look_eq_ok_iff.mp hlook with ⟨hshort, rfl⟩
  split at h
  · cases h
  · next hne =>
    cases h
    exact ⟨folder, name, hfind, hshort, hne, rfl⟩

/-- The tree after a file was written is well-formed again. -/
theorem WellFormed.write (ht : t.WellFormed) (h : t.write path content = .ok t') :
    t'.WellFormed := by
  rcases of_write h with ⟨folder, name, hfind, -, hne, rfl⟩
  exact ht.put (ht.entryAt?_find hfind) (.inr hne)

/-! ## Making folders -/

/-- Whether requests, whatever they answer, only add folders at some of the given places to a tree
with a given working folder. -/
def Adding {α : Type} (working : List String) (places : List String → Prop)
    (requests : StateM FileTree α) : Prop :=
  ∀ t : FileTree, t.workingFolder = working →
    (t.WellFormed → (requests t).2.WellFormed) ∧ t.FoldersAdded (requests t).2 places

section Adding

variable {α β : Type} {working : List String}

theorem adding_pure (a : α) : Adding working places (pure a : StateM FileTree α) := by
  intro t _
  exact ⟨id, .refl t places⟩

theorem adding_bind {first : StateM FileTree α} {next : α → StateM FileTree β}
    (hfirst : Adding working places first) (hnext : ∀ a, Adding working places (next a)) :
    Adding working places (first >>= next) := by
  intro t hworking
  rcases hfirst t hworking with ⟨ht, hadded⟩
  rcases hnext (first t).1 (first t).2 (hadded.workingFolder.trans hworking) with ⟨ht', hadded'⟩
  exact ⟨fun hwell => ht' (ht hwell), hadded.trans hadded'⟩

theorem adding_isFolder (path : String) : Adding working places (fileSystem.isFolder path) := by
  intro t _
  exact ⟨id, .refl t places⟩

/-- Making a folder at one of the places adds it or changes nothing. -/
theorem adding_makeFolder (hplace : places (placeOf working path)) :
    Adding working places (fileSystem.makeFolder path) := by
  intro t hworking
  cases hmake : t.makeFolder path with
  | error fault =>
    rw [fileSystem_makeFolder, attempt_error hmake]
    exact ⟨id, .refl t places⟩
  | ok t' =>
    rw [fileSystem_makeFolder, attempt_ok hmake]
    rcases of_makeFolder hmake with ⟨folder, name, hfind, hnone, rfl⟩
    refine ⟨fun ht => ht.put (ht.entryAt?_find hfind) (.inl rfl), rfl, ?_⟩
    intro p
    rw [entryAt?_put_child]
    split
    · next heq =>
      -- nothing stood there, and the path leads there
      refine .inr ⟨heq ▸ hnone, rfl, ?_⟩
      rw [heq, placeOf_of_find hfind, hworking]
      exact hplace
    · exact .inl rfl

theorem adding_unlessFolder (path : String) (fault : Fault) :
    Adding working places (fileSystem.unlessFolder path fault) := by
  unfold FileSystem.unlessFolder
  refine adding_bind (adding_isFolder path) ?_
  intro isFolder
  split
  · exact adding_pure _
  · exact adding_pure _

/-- Making nested folders at the places adds folders and changes nothing else. -/
theorem adding_makeNested {paths : List String}
    (h : ∀ path ∈ paths, places (placeOf working path)) :
    Adding working places (fileSystem.makeNested paths) := by
  -- the induction is on the paths, the innermost first; every request in turn only adds
  induction paths with
  | nil => exact adding_pure _
  | cons path outer ih =>
    rcases List.forall_mem_cons.mp h with ⟨hplace, houter⟩
    have hmake : Adding working places (fileSystem.makeFolder path) := adding_makeFolder hplace
    unfold FileSystem.makeNested
    refine adding_bind hmake ?_
    intro made
    split
    · exact adding_pure _
    · -- the folder around it was missing
      refine adding_bind (ih houter) ?_
      intro nested
      split
      · exact adding_pure _
      · refine adding_bind hmake ?_
        intro again
        split
        · exact adding_pure _
        · exact adding_unlessFolder path _
    · exact adding_unlessFolder path _

/-- Making the folders around a name adds folders on the way to the folder of that name. -/
theorem adding_enclosing (hname : Path.IsName name) (path : String) :
    Adding working (OnWay working path)
      (fileSystem.makeNested (Path.enclosing (Path.extend path name))) := by
  apply adding_makeNested
  intro stage hstage
  rw [Path.enclosing_extend hname, List.mem_reverse] at hstage
  have hbeginning := Path.beginning_of_mem_stages hstage
  refine ⟨_, hbeginning.parts.2, ?_⟩
  rw [placeOf, startOf_beginning hbeginning]

end Adding

/-! ## Files in one folder -/

/-- Writing a file along with its folders: folders are added on the way to its folder, and after
that the file is written, unless there is a failure. -/
theorem writeWithFolders_run (hname : Path.IsName name) (path : String) (content : Bytes)
    (t : FileTree) :
    ∃ u : FileTree, (t.WellFormed → u.WellFormed) ∧
      t.FoldersAdded u (OnWay t.workingFolder path) ∧
      ((∃ fault,
          fileSystem.writeWithFolders (Path.extend path name) content t = (.error fault, u)) ∨
        ∃ t', u.write (Path.extend path name) content = .ok t' ∧
          fileSystem.writeWithFolders (Path.extend path name) content t = (.ok (), t')) := by
  rcases adding_enclosing hname path t rfl with ⟨hwell, hadded⟩
  refine ⟨_, hwell, hadded, ?_⟩
  rw [FileSystem.writeWithFolders, bind_apply]
  -- the folders are made whatever comes next, so the tree after them is the one to name
  rcases fileSystem.makeNested (Path.enclosing (Path.extend path name)) t with ⟨fault | _, u⟩
  · exact .inl ⟨fault, rfl⟩
  · simp only [fileSystem_write]
    cases hwrite : u.write (Path.extend path name) content with
    | error fault =>
      rw [attempt_error hwrite]
      exact .inl ⟨fault, rfl⟩
    | ok t' =>
      rw [attempt_ok hwrite]
      exact .inr ⟨t', rfl, rfl⟩

/-- The content of the file of a name in a folder. -/
def readIn (t : FileTree) (folder : List String) (name : String) : Except Fault Bytes :=
  match t.look folder name with
  | .error fault => .error fault
  | .ok none => .error .notFound
  | .ok (some .folder) => .error .isFolder
  | .ok (some (.file content)) => .ok content

/-- Why the text of a path is refused before anything is looked at. -/
def refusal? (path : String) : Option Fault :=
  if path.toList.any fun c => c.toNat = 0 then some .nulInPath
  else if pathLimit ≤ path.utf8ByteSize then some .nameTooLong
  else none

/-- Finding the last component of a path: the text of the path is looked at first, then the way to
that component. -/
theorem find_concat (hparts : Path.nonEmptyParts path = parts ++ [name]) (t : FileTree) :
    t.find path =
      match refusal? path with
      | some fault => .error fault
      | none =>
        match t.walk (startOf t.workingFolder path) parts with
        | .error fault => .error fault
        | .ok folder =>
          .ok (if name = "." ∨ name = ".." then .standing else .inside folder name) := by
  have hne : path ≠ "" := by
    rintro rfl
    exact absurd hparts (List.append_ne_nil_of_right_ne_nil _ (List.cons_ne_nil _ _)).symm
  simp only [find, refusal?, if_neg hne, hparts, List.getLast?_concat, List.dropLast_concat,
    startOf]
  split
  · rfl
  split
  · rfl
  simp only [bind, Except.bind]
  rcases t.walk (if Path.isAbsolute path then [] else t.workingFolder) parts with fault | folder
  · rfl
  · simp only
    split <;> rfl

/-- Finding a name in a folder. -/
theorem find_extend (hpath : path ≠ "") (hname : Path.IsName name) (t : FileTree) :
    t.find (Path.extend path name) =
      match refusal? (Path.extend path name) with
      | some fault => .error fault
      | none =>
        match t.walk (startOf t.workingFolder path) (Path.nonEmptyParts path) with
        | .error fault => .error fault
        | .ok folder => .ok (.inside folder name) := by
  have hparts : Path.nonEmptyParts (Path.extend path name) = Path.nonEmptyParts path ++ [name] := by
    rw [Path.nonEmptyParts_extend, Path.nonEmptyParts_of_isName hname]
  -- a name is neither of the two dots, so the path leads inside the folder
  have hnodots : ¬ (name = "." ∨ name = "..") := not_or.mpr ⟨hname.ne_dot, hname.ne_dots⟩
  rw [find_concat hparts, startOf_extend hpath]
  simp only [if_neg hnodots]

/-- Reading the file of a name in a folder. -/
theorem read_extend (hpath : path ≠ "") (hname : Path.IsName name) (t : FileTree) :
    t.read (Path.extend path name) =
      match refusal? (Path.extend path name) with
      | some fault => .error fault
      | none =>
        match t.walk (startOf t.workingFolder path) (Path.nonEmptyParts path) with
        | .error fault => .error fault
        | .ok folder => t.readIn folder name := by
  simp only [read, find_extend hpath hname, Path.endsInSlash_extend hname]
  cases refusal? (Path.extend path name) with
  | some fault => rfl
  | none =>
    rcases t.walk (startOf t.workingFolder path) (Path.nonEmptyParts path) with fault | folder
    · rfl
    simp only [bind, Except.bind, readIn]
    rcases t.look folder name with fault | (_ | (_ | content)) <;> rfl

/-- A name that is found in a folder is the last one of its path, and the way to the folder is
open. -/
theorem of_find_extend (hpath : path ≠ "") (hname : Path.IsName name) {found : String}
    (h : t.find (Path.extend path name) = .ok (.inside folder found)) :
    found = name ∧ refusal? (Path.extend path name) = none ∧
      t.walk (startOf t.workingFolder path) (Path.nonEmptyParts path) = .ok folder := by
  rw [find_extend hpath hname] at h
  cases hrefusal : refusal? (Path.extend path name) with
  | some fault =>
    rw [hrefusal] at h
    cases h
  | none =>
    rw [hrefusal] at h
    cases hwalk : t.walk (startOf t.workingFolder path) (Path.nonEmptyParts path) with
    | error fault =>
      rw [hwalk] at h
      cases h
    | ok folder =>
      rw [hwalk] at h
      cases h
      exact ⟨rfl, rfl, rfl⟩

/-- A file that can be read has no long name. -/
theorem short_of_read (hpath : path ≠ "") (hname : Path.IsName name)
    (h : t.read (Path.extend path name) = .ok content) : name.utf8ByteSize ≤ componentLimit := by
  rw [read_extend hpath hname] at h
  split at h
  · cases h
  split at h
  · cases h
  next folder _ =>
    unfold readIn at h
    cases hlook : t.look folder name with
    | error fault =>
      rw [hlook] at h
      cases h
    | ok found => exact (look_eq_ok_iff.mp hlook).1

theorem readIn_congr
    (h : t'.entryAt? (folder ++ [name]) = t.entryAt? (folder ++ [name])) :
    t'.readIn folder name = t.readIn folder name := by
  rw [readIn, readIn, look, look, h]

/-- Adding the folders that lead to a folder changes nothing for the files in it. A file that was
missing along with its folder is still missing. -/
theorem read_of_foldersAdded (ht : t.WellFormed) (hpath : path ≠ "")
    (hdots : ".." ∉ Path.nonEmptyParts path)
    (hadded : t.FoldersAdded t' (OnWay t.workingFolder path))
    (hwalk : t'.walk (startOf t.workingFolder path) (Path.nonEmptyParts path) = .ok folder)
    (hname : Path.IsName name) (hshort : name.utf8ByteSize ≤ componentLimit) :
    t'.read (Path.extend path name) = t.read (Path.extend path name) := by
  have hplace : folder = placeOf t.workingFolder path := eq_of_walk hwalk
  -- the file is below the place where the way ends, so it is not on the way itself
  have hsame : t'.entryAt? (folder ++ [name]) = t.entryAt? (folder ++ [name]) := by
    apply hadded.elsewhere
    intro hway
    have hlength := hway.length_le hdots
    rw [← hplace, List.length_append, List.length_singleton] at hlength
    omega
  rw [read_extend hpath hname, read_extend hpath hname, hadded.workingFolder, hwalk]
  cases refusal? (Path.extend path name) with
  | some fault => rfl
  | none =>
    -- the way was open before, or it ended at a missing folder with nothing below it
    rcases walk_of_foldersAdded ht hadded hdots hwalk with hopen | ⟨hmissing, hnone⟩
    · rw [hopen]
      exact readIn_congr hsame
    · rw [hmissing]
      have hlook : t'.look folder name = .ok none :=
        look_eq_ok_iff.mpr ⟨hshort, hsame.trans (hnone [name])⟩
      simp only [readIn, hlook]

/-- A file that was written is read as it was written, and the other files in its folder are read as
before. -/
theorem read_of_write (hpath : path ≠ "") (hname : Path.IsName name)
    (h : t.write (Path.extend path name) content = .ok t') :
    t'.read (Path.extend path name) = .ok content ∧
      ∀ other, Path.IsName other → other ≠ name →
        t'.read (Path.extend path other) = t.read (Path.extend path other) := by
  rcases of_write h with ⟨folder, found, hfind, hshort, hne, rfl⟩
  rcases of_find_extend hpath hname hfind with ⟨rfl, hrefusal, hwalk⟩
  have hworking : (t.put (folder ++ [found]) (.file content)).workingFolder = t.workingFolder := rfl
  -- the file takes no folder's place, so the way to it stays open
  have hwalk' : (t.put (folder ++ [found]) (.file content)).walk (startOf t.workingFolder path)
      (Path.nonEmptyParts path) = .ok folder :=
    walk_of_folders_kept (fun _ => folder_kept_of_put (.inr hne)) hwalk
  constructor
  · rw [read_extend hpath hname, hrefusal, hworking, hwalk']
    simp only [readIn, look_put hshort]
  · intro other hother hdiffer
    rw [read_extend hpath hother, read_extend hpath hother, hworking, hwalk, hwalk']
    have hsame : (t.put (folder ++ [found]) (.file content)).entryAt? (folder ++ [other]) =
        t.entryAt? (folder ++ [other]) := by
      rw [entryAt?_put_child, if_neg]
      intro heq
      exact hdiffer (List.cons.inj (List.append_cancel_left heq)).1
    cases refusal? (Path.extend path other) with
    | some fault => rfl
    | none => exact readIn_congr hsame

/-- After a file was written along with its folders, it is read as it was written, and every other
file in its folder whose name is not too long is read as before. -/
theorem read_of_writeWithFolders (ht : t.WellFormed) (hpath : path ≠ "")
    (hdots : ".." ∉ Path.nonEmptyParts path) (hname : Path.IsName name)
    (h : fileSystem.writeWithFolders (Path.extend path name) content t = (.ok (), t')) :
    t'.WellFormed ∧ t'.read (Path.extend path name) = .ok content ∧
      ∀ other, Path.IsName other → other.utf8ByteSize ≤ componentLimit → other ≠ name →
        t'.read (Path.extend path other) = t.read (Path.extend path other) := by
  rcases writeWithFolders_run hname path content t with
    ⟨u, hu, hadded, ⟨fault, hrun⟩ | ⟨v, hwrite, hrun⟩⟩
  · rw [hrun] at h
    cases h
  rw [hrun] at h
  cases h
  rcases read_of_write hpath hname hwrite with ⟨hread, hother⟩
  refine ⟨(hu ht).write hwrite, hread, ?_⟩
  intro other hisName hshort hdiffer
  -- the way to the folder is open in the tree in which the file was written
  rcases of_write hwrite with ⟨folder, found, hfind, -, -, -⟩
  have hwalk := (of_find_extend hpath hname hfind).2.2
  rw [hadded.workingFolder] at hwalk
  rw [hother other hisName hdiffer]
  exact read_of_foldersAdded ht hpath hdots hadded hwalk hisName hshort

/-! ## Any path -/

/-- A name that is found in a folder is found there as long as all folders stay. -/
theorem find_of_folders_kept (hworking : t'.workingFolder = t.workingFolder)
    (hkeep : ∀ p, t.entryAt? p = some .folder → t'.entryAt? p = some .folder)
    (h : t.find path = .ok (.inside folder name)) : t'.find path = .ok (.inside folder name) := by
  unfold find at h ⊢
  split at h
  · cases h
  next hnul =>
  split at h
  · cases h
  next hempty =>
  split at h
  · cases h
  next hlong =>
  -- the text of the path is refused in both trees or in neither
  rw [if_neg hnul, if_neg hempty, if_neg hlong, hworking]
  cases hlast : (Path.nonEmptyParts path).getLast? with
  | none => simp [hlast] at h
  | some part =>
    simp only [hlast] at h ⊢
    obtain ⟨inner, hwalk, h⟩ := of_bind_ok h
    rw [walk_of_folders_kept hkeep hwalk]
    exact h

/-- A path that asks for a folder is not written. -/
theorem endsInSlash_of_write (h : t.write path content = .ok t') :
    Path.endsInSlash path = false := by
  obtain ⟨_ | ⟨folder, name⟩, -, h⟩ := of_bind_ok h
  · cases h
  cases hslash : Path.endsInSlash path with
  | false => rfl
  | true =>
    simp only [hslash] at h
    cases h

/-- A file that was written is read back under the same path, whatever the path. -/
theorem read_back_of_write (h : t.write path content = .ok t') : t'.read path = .ok content := by
  have hslash := endsInSlash_of_write h
  obtain ⟨folder, name, hfind, hshort, hne, rfl⟩ := of_write h
  have hworking : (t.put (folder ++ [name]) (.file content)).workingFolder = t.workingFolder := rfl
  have hfind' : (t.put (folder ++ [name]) (.file content)).find path =
      .ok (.inside folder name) :=
    find_of_folders_kept hworking (fun _ => folder_kept_of_put (.inr hne)) hfind
  simp only [read, hfind', look_put hshort, hslash, bind, Except.bind, Bool.false_eq_true, if_false]

/-- The same for a request that was granted. -/
theorem read_back_of_write_run (h : fileSystem.write path content t = (.ok (), t')) :
    t'.read path = .ok content := by
  rw [fileSystem_write] at h
  cases hwrite : t.write path content with
  | error fault =>
    rw [attempt_error hwrite] at h
    cases h
  | ok u =>
    rw [attempt_ok hwrite] at h
    cases h
    exact read_back_of_write hwrite

/-- A file that was written along with its folders is read back under the same path. -/
theorem read_back_of_writeWithFolders
    (h : fileSystem.writeWithFolders path content t = (.ok (), t')) :
    t'.read path = .ok content := by
  rw [FileSystem.writeWithFolders, bind_apply] at h
  rcases hmade : fileSystem.makeNested (Path.enclosing path) t with ⟨fault | _, u⟩
  · rw [hmade] at h
    cases h
  · rw [hmade] at h
    exact read_back_of_write_run h

/-- A file with the encoding of a text is read as that text. -/
theorem readText_of_read {text : String} (h : t.read path = .ok (Utf8.encode text)) :
    fileSystem.readText path t = (.ok text, t) := by
  simp only [FileSystem.readText, bind_apply, fileSystem_read, h, Utf8.decode?_encode, pure_apply]

/-! ## Resources below a root -/

theorem store_read (root i : String) (t : FileTree) :
    (fileSystem.store root).read (Service.resourceName i) t =
      (t.read (Service.path root i), t) := rfl

theorem store_write (root i : String) (content : Bytes) (t : FileTree) :
    (fileSystem.store root).write (Service.resourceName i) content t =
      fileSystem.writeWithFolders (Service.path root i) content t := rfl

end ServiceCatalog.FileTree
