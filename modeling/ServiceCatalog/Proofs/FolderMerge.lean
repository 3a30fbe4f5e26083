import ServiceCatalog.Command
import ServiceCatalog.Proofs.CleanCompilation
import ServiceCatalog.Proofs.FileTrees

/-!
# Merging into a folder and showing what is there

Merging services into the files below a folder makes the file of each of them name what it named
before and the new providers. The files of all other services read as they did, although folders may
have been made on the way. Showing the providers of a service reads the same file.

* `of_mergeService_ok`: what merging one service into a folder does if it succeeds;
* `mergedBelow_of_mergeServices`: what merging one service after another leaves;
* `showProviders_eq`: what showing a service answers;
* `show_after_compileFile`: what is shown after a compilation whose merge succeeded.
-/

namespace ServiceCatalog

/-! ## What the file of a service names -/

/-- The providers that the file of a service below a root names. -/
def FileTree.listed (t : FileTree) (root service : String) : NameSet :=
  Service.named (t.read (Service.path root service))

/-- The answer to showing a service, given the result of reading the file at a path. -/
def shown (path : String) : Except Fault Bytes → Except CommandError NameSet
  | .error fault => if fault.isMissing then .ok ∅ else .error (.unreadable path fault)
  | .ok content =>
    match Service.readEntries? content with
    | none => .error (.unreadable path .notUtf8)
    | some names => .ok names

/-- Showing a service tells what its file names, and changes nothing. -/
theorem showProviders_eq {i : String} (h : Service.nameFault? i = none) (root : String)
    (t : FileTree) :
    showProviders FileTree.fileSystem root i t =
      (shown (Service.path root i) (t.read (Service.path root i)), t) := by
  simp only [showProviders, h]
  rw [bind_apply, FileTree.fileSystem_read]
  rcases t.read (Service.path root i) with fault | content
  · rfl
  · simp only [shown]
    cases Service.readEntries? content <;> rfl

/-- A file that cannot be shown names no providers. -/
theorem toOption_shown (path : String) (content : Except Fault Bytes) :
    (shown path content).toOption.getD ∅ = Service.named content := by
  rcases content with fault | content
  · rw [shown, Service.named]
    split <;> rfl
  · simp only [shown, Service.named]
    cases Service.readEntries? content <;> rfl

/-! ## The merge of a service -/

section Merging

open FileTree

variable {t t' u : FileTree} {root i j : String} {ps : NameSet} {es : List (String × NameSet)}

/-- A merge of a service that succeeds: its name is fit, and either its file names all providers
already, or it was written. -/
theorem of_mergeService_ok {debug : Bool} {journal : Journal} {change : Merge.Change}
    (h : Merge.mergeService debug (fileSystem.store root) i ps t = ((journal, .ok change), t')) :
    Service.nameFault? i = none ∧
      (ps ⊆ t.listed root i ∧ t' = t ∨
        (∀ n ∈ t.listed root i ∪ ps, Service.isEntry n = true) ∧
          fileSystem.writeWithFolders (Service.path root i)
            (Service.writeLines (t.listed root i ∪ ps).toList) t = (.ok (), t')) := by
  rcases Merge.mergeService_run (store_read root i t) debug ps with ⟨_, -, hrun⟩
  rw [← FileTree.listed, store_write] at hrun
  rw [hrun] at h
  -- the ways to fail are excluded one after the other, in the order of the merge
  cases hname : Service.nameFault? i with
  | some fault =>
    rw [hname] at h
    cases h
  | none =>
    refine ⟨rfl, ?_⟩
    rw [hname] at h
    by_cases hold : ps ⊆ t.listed root i
    · simp only [if_pos hold] at h
      cases h
      exact .inl ⟨hold, rfl⟩
    · simp only [if_neg hold] at h
      cases hbad : Service.badEntry? (t.listed root i ∪ ps).toList with
      | some name =>
        rw [hbad] at h
        cases h
      | none =>
        rw [hbad] at h
        rcases hwritten : fileSystem.writeWithFolders (Service.path root i)
          (Service.writeLines (t.listed root i ∪ ps).toList) t with ⟨fault | _, u⟩
        · rw [hwritten] at h
          cases h
        · rw [hwritten] at h
          cases h
          exact .inr ⟨Service.badEntry?_eq_none_iff.mp hbad, rfl⟩

/-! ## Runs of merges -/

/-- Whether merging services below a root leads from one tree to another: the file of each of them
names what it named before and the providers, and the files of all others whose names are not too
long are read as before. -/
structure MergedBelow (root : String) (es : List (String × NameSet)) (t t' : FileTree) : Prop where
  wellFormed : t'.WellFormed
  merged : ∀ {i : String} {ps : NameSet}, (i, ps) ∈ es → Service.nameFault? i = none ∧
    ∃ content, t'.read (Service.path root i) = .ok content ∧
      Service.readEntries? content = some (t.listed root i ∪ ps)
  others : ∀ {j : String}, Service.nameFault? j = none → j.utf8ByteSize ≤ componentLimit →
    j ∉ es.map Prod.fst → t'.read (Service.path root j) = t.read (Service.path root j)

/-- The file of a service that was merged can be read, so the name of the service is not long. -/
theorem MergedBelow.short (h : MergedBelow root es t t') (hmem : (i, ps) ∈ es) :
    i.utf8ByteSize ≤ componentLimit := by
  rcases h.merged hmem with ⟨hname, content, hread, -⟩
  rw [Service.path_eq hname] at hread
  exact short_of_read (Service.folderPath_ne_empty root) (Service.isName_of_nameFault? hname) hread

/-- One service, and then services other than it. -/
theorem MergedBelow.cons (hfirst : MergedBelow root [(i, ps)] t u)
    (hrest : MergedBelow root es u t') (hes : (((i, ps) :: es).map Prod.fst).Nodup) :
    MergedBelow root ((i, ps) :: es) t t' := by
  rw [List.map_cons, List.nodup_cons] at hes
  refine ⟨hrest.wellFormed, ?_, ?_⟩
  · intro j qs hj
    rcases List.mem_cons.mp hj with heq | hmem
    · cases heq
      -- the services after it do not touch its file
      rcases hfirst.merged List.mem_cons_self with ⟨hname, content, hread, hentries⟩
      have hshort := hfirst.short List.mem_cons_self
      refine ⟨hname, content, ?_, hentries⟩
      rw [hrest.others hname hshort hes.1, hread]
    · -- a later service names what it named at the start, since the first merge left its file alone
      rcases hrest.merged hmem with ⟨hname, content, hread, hentries⟩
      refine ⟨hname, content, hread, ?_⟩
      have hne : j ∉ [(i, ps)].map Prod.fst := by
        rw [List.map_singleton, List.mem_singleton]
        rintro rfl
        exact hes.1 (List.mem_map.mpr ⟨(j, qs), hmem, rfl⟩)
      rw [hentries, FileTree.listed, FileTree.listed,
        hfirst.others hname (hrest.short hmem) hne]
  · intro j hname hshort hj
    rw [List.map_cons, List.mem_cons, not_or] at hj
    have hne : j ∉ [(i, ps)].map Prod.fst := by
      rw [List.map_singleton, List.mem_singleton]
      exact hj.1
    rw [hrest.others hname hshort hj.2, hfirst.others hname hshort hne]

section Root

variable (ht : t.WellFormed) (hdots : ".." ∉ Path.nonEmptyParts root)
include ht hdots

/-- Merging one service with success. -/
theorem mergedBelow_of_mergeService (hps : ps ≠ ∅) {debug : Bool} {journal : Journal}
    {change : Merge.Change}
    (h : Merge.mergeService debug (fileSystem.store root) i ps t = ((journal, .ok change), t')) :
    MergedBelow root [(i, ps)] t t' := by
  rcases of_mergeService_ok h with ⟨hname, ⟨hold, rfl⟩ | ⟨hentries, hwrite⟩⟩
  · refine ⟨ht, ?_, fun _ _ _ => rfl⟩
    intro j qs hj
    cases List.mem_singleton.mp hj
    -- a provider that is named already was read from the file
    rcases (NameSet.nil_or_mem ps).resolve_left hps with ⟨n, hn⟩
    rcases Service.read_of_mem_named (hold n hn) with ⟨content, hread, hnames⟩
    refine ⟨hname, content, hread, ?_⟩
    rw [NameSet.union_eq_left hold]
    exact hnames
  · -- otherwise the union was written, and the file is read back
    have hfolder : ".." ∉ Path.nonEmptyParts (Service.folderPath root) := by
      rw [Service.nonEmptyParts_folderPath, List.mem_append, not_or]
      exact ⟨hdots, by decide⟩
    rw [Service.path_eq hname] at hwrite
    rcases read_of_writeWithFolders ht (Service.folderPath_ne_empty root) hfolder
      (Service.isName_of_nameFault? hname) hwrite with ⟨hwell, hread, hothers⟩
    refine ⟨hwell, ?_, ?_⟩
    · intro j qs hj
      cases List.mem_singleton.mp hj
      rw [Service.path_eq hname]
      exact ⟨hname, _, hread, Service.readEntries?_writeLines hentries⟩
    · intro j hj hshort hne
      rw [List.map_singleton, List.mem_singleton] at hne
      rw [Service.path_eq hj]
      exact hothers j (Service.isName_of_nameFault? hj) hshort hne

/-- Merging services one after another with success. -/
theorem mergedBelow_of_mergeServices (hes : (es.map Prod.fst).Nodup) (hps : ∀ e ∈ es, e.2 ≠ ∅)
    {debug : Bool} {journal : Journal} {report : MergeReport}
    (h : Merge.mergeServices debug (fileSystem.store root) es t = ((journal, .ok report), t')) :
    MergedBelow root es t t' := by
  induction es generalizing t journal report with
  | nil =>
    cases h
    exact ⟨ht, fun hmem => absurd hmem List.not_mem_nil, fun _ _ _ => rfl⟩
  | cons e es ih =>
    rcases e with ⟨i, ps⟩
    rcases List.forall_mem_cons.mp hps with ⟨hp, hps'⟩
    rw [Merge.mergeServices, bind_apply] at h
    rcases hstep : Merge.mergeService debug (fileSystem.store root) i ps t with
      ⟨⟨first, failure | change⟩, u⟩
    · rw [hstep] at h
      cases h
    · -- the first merge succeeded, and so did those after it
      have hfirst := mergedBelow_of_mergeService ht hdots hp hstep
      rw [hstep] at h
      simp only [bind_apply] at h
      rcases hrest : Merge.mergeServices debug (fileSystem.store root) es u with
        ⟨⟨later, failure | report'⟩, v⟩
      · rw [hrest] at h
        cases h
      · rw [hrest] at h
        cases h
        rw [List.map_cons, List.nodup_cons] at hes
        refine hfirst.cons (ih hfirst.wellFormed hes.2 hps' hrest) ?_
        exact List.nodup_cons.mpr hes

end Root

end Merging

/-! ## Compilations of files -/

/-- Loading a table from a file changes nothing. -/
theorem SymbolTable.load_eq (path : String) (t : FileTree) :
    ∃ loaded, SymbolTable.load FileTree.fileSystem path t = (loaded, t) := by
  unfold load FileSystem.readText
  rw [bind_apply, bind_apply, FileTree.fileSystem_read]
  rcases t.read path with fault | content
  · exact ⟨_, rfl⟩
  · simp only
    rcases Utf8.decode? content with _ | text
    · exact ⟨_, rfl⟩
    · simp only [pure_apply]
      rcases ofText? text with _ | table
      · exact ⟨_, rfl⟩
      · exact ⟨_, rfl⟩

/-- A file with the text of a table loads as that table. -/
theorem SymbolTable.load_of_read {path text : String} {table : SymbolTable} {t : FileTree}
    (hread : t.read path = .ok (Utf8.encode text)) (htext : ofText? text = some table) :
    SymbolTable.load FileTree.fileSystem path t = (.ok table, t) := by
  simp only [load, bind_apply, FileTree.readText_of_read hread, pure_apply, htext]

/-- A compilation of a file is one of the table in it, started on the tree as it is. -/
theorem of_compileFile {symbols output : String} {o : Options} {t t' : FileTree}
    {report : CompilationReport} {journal : Journal}
    (h : compileFile FileTree.fileSystem symbols output o t = (.ok (report, journal), t')) :
    ∃ table : SymbolTable,
      table.compile (FileTree.fileSystem.store output) table.roundCount o t =
        ((report, journal), t') := by
  -- a table that could not be loaded would have ended the command
  rcases SymbolTable.load_eq symbols t with ⟨cause | table, hload⟩
  · rw [compileFile, bind_apply, hload] at h
    cases h
  · rw [compileFile, bind_apply, hload] at h
    refine ⟨table, ?_⟩
    simp only [bind_apply, pure_apply] at h
    rcases hrun : table.compile (FileTree.fileSystem.store output) table.roundCount o t with
      ⟨out, u⟩
    rw [hrun] at h
    cases h
    rfl

/-- A compilation whose merge succeeded has merged all that it found. -/
theorem mergedBelow_of_compile {table : SymbolTable} {output : String} {rounds : Nat}
    {o : Options} {t t' : FileTree} {report : CompilationReport} {journal : Journal}
    {merged : MergeReport} (ht : t.WellFormed) (hdots : ".." ∉ Path.nonEmptyParts output)
    (h : table.compile (FileTree.fileSystem.store output) rounds o t = ((report, journal), t'))
    (hmerge : report.merge = some merged) :
    MergedBelow output report.catalog.services.entries t t' := by
  have houtcome := table.compile_outcome (FileTree.fileSystem.store output) rounds o t
  simp only [h] at houtcome
  rcases houtcome with ⟨hreport, hleft⟩
  subst hreport
  -- the compilation has a merge report only if the merge succeeded
  rcases hrun : Catalog.mergeInto _ o.debug (FileTree.fileSystem.store output) t with
    ⟨⟨merging, failure | report'⟩, u⟩
  · simp only [hrun] at hmerge
    cases hmerge
  · rw [hrun] at hleft
    cases hleft
    exact mergedBelow_of_mergeServices ht hdots (Catalog.names_nodup _) (Catalog.provided _) hrun

/-- After a compilation whose merge succeeded, each service of its catalog is shown with what was
shown before and what was registered, in increasing order. A service that could not be shown before
counts as empty. All other services whose names are fit and not too long are shown as before. -/
theorem show_after_compileFile {symbols output : String} {o : Options} {t t' : FileTree}
    {report : CompilationReport} {journal : Journal} {merged : MergeReport}
    (ht : t.WellFormed) (hdots : ".." ∉ Path.nonEmptyParts output)
    (h : compileFile FileTree.fileSystem symbols output o t = (.ok (report, journal), t'))
    (hmerge : report.merge = some merged) :
    (∀ i ps, report.catalog.providers? i = some ps →
      let before := (showProviders FileTree.fileSystem output i t).1.toOption.getD ∅
      (showProviders FileTree.fileSystem output i t').1 = .ok (before ∪ ps) ∧
        (before ∪ ps).toList.Pairwise (· < ·)) ∧
    ∀ j, Service.nameFault? j = none → j.utf8ByteSize ≤ 255 →
      report.catalog.providers? j = none →
      (showProviders FileTree.fileSystem output j t').1 =
        (showProviders FileTree.fileSystem output j t).1 := by
  rcases of_compileFile h with ⟨table, hrun⟩
  have hbelow := mergedBelow_of_compile ht hdots hrun hmerge
  constructor
  · intro i ps hi before
    rcases hbelow.merged (Catalog.mem_entries_iff.mpr hi) with ⟨hname, content, hread, hentries⟩
    have hbefore : before = t.listed output i := by
      simp only [before, showProviders_eq hname, toOption_shown, FileTree.listed]
    refine ⟨?_, (before ∪ ps).sorted⟩
    simp only [showProviders_eq hname, hread, shown, hentries, hbefore]
  · -- a service that is not in the catalog is none of those that were merged
    intro j hname hshort hj
    have hmem : j ∉ report.catalog.services.entries.map Prod.fst := by
      intro hmem
      rcases Catalog.mem_serviceNames_iff.mp hmem with ⟨ps, hps⟩
      rw [hj] at hps
      cases hps
    rw [showProviders_eq hname, showProviders_eq hname, hbelow.others hname hshort hmem]

/-- The text of a table with a service and one provider of it. -/
def oneProviderText : String :=
  "[[[\"S\",\"Greeter\",\"interface\",\x7b\"namespace\":\"svc\"\x7d],
    [\"P\",\"English\",\"class\",\x7b\"namespace\":\"impl\"\x7d,[\"S\"],[\"S\"]]]]"

/-- A working folder with the table, and below `out` the resources of two services. -/
def twoResources : FileTree where
  workingFolder := ["home"]
  entries :=
    [(["home"], .folder), (["home", "table.json"], .file (Utf8.encode oneProviderText)),
      (["home", "out"], .folder), (["home", "out", "META-INF"], .folder),
      (["home", "out", "META-INF", "services"], .folder),
      (["home", "out", "META-INF", "services", "svc.Greeter"],
        .file (Utf8.encode "impl.Old # comment\n")),
      (["home", "out", "META-INF", "services", "svc.Other"], .file (Utf8.encode "impl.Other\n"))]

/-- The provider of the table is shown along with the one that was there, and the other resource is
shown as before. -/
theorem show_after_compileFile_twoResources :
    let run := compileFile FileTree.fileSystem "table.json" "out" ⟨true, false⟩ twoResources
    let shownAs := fun service t => (showProviders FileTree.fileSystem "out" service t).1
    (shownAs "svc.Greeter" run.2).toOption.map NameSet.toList =
        some ["impl.English", "impl.Old"] ∧
      shownAs "svc.Other" run.2 = shownAs "svc.Other" twoResources := by
  intro run shownAs
  have hread : twoResources.read "table.json" = .ok (Utf8.encode oneProviderText) := rfl
  have hparse : SymbolTable.ofText? oneProviderText = some SymbolTable.oneProvider := by
    decide +kernel
  have hload := SymbolTable.load_of_read hread hparse
  let store := FileTree.fileSystem.store "out"
  let out := SymbolTable.oneProvider.compile store SymbolTable.oneProvider.roundCount ⟨true, false⟩
    twoResources
  have hrun : compileFile FileTree.fileSystem "table.json" "out" ⟨true, false⟩ twoResources =
      (.ok (out.1.1, out.1.2), out.2) := by
    rw [compileFile, bind_apply, hload]
    rfl
  -- one pair was found, and merging it succeeds
  have hmerge : out.1.1.catalog = (∅ : Catalog).add "svc.Greeter" "impl.English" ∧
      ∃ merged, out.1.1.merge = some merged := by
    rcases SymbolTable.oneProvider.compile_outcome store SymbolTable.oneProvider.roundCount
      ⟨true, false⟩ twoResources with ⟨hreport, -⟩
    have hrange : List.range (max SymbolTable.oneProvider.roundCount 1) = [0] := rfl
    simp only [out, hreport, hrange, Session.scanAll_eq, Session.start, List.foldl_cons,
      List.foldl_nil, SymbolTable.scan_oneProvider]
    refine ⟨rfl, Option.isSome_iff_exists.mp ?_⟩
    decide +kernel
  rcases hmerge with ⟨hcatalog, merged, hmerged⟩
  rcases show_after_compileFile (by decide +kernel) (by decide) hrun hmerged with
    ⟨hlisted, hothers⟩
  have hleft : run.2 = out.2 := by simp only [run, hrun]
  have hgreeter : out.1.1.catalog.providers? "svc.Greeter" =
      some (NameSet.ofList ["impl.English"]) := by
    rw [hcatalog]
    decide +kernel
  have hother : out.1.1.catalog.providers? "svc.Other" = none := by
    rw [hcatalog]
    decide +kernel
  simp only [shownAs, hleft]
  constructor
  · rw [(hlisted _ _ hgreeter).1]
    decide +kernel
  · exact hothers "svc.Other" (by decide +kernel) (by decide +kernel) hother

end ServiceCatalog
