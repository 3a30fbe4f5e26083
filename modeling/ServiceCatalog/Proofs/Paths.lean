import Mathlib.Data.List.Basic
import Mathlib.Data.List.Induction
import ServiceCatalog.Service.Name

/-!
# Paths and their components

A path that is extended by a name has one component more, and the folders around it are those that
the path before the name goes through. The path of the resource of a service is such an extension of
one path, the same for all services.

* `nonEmptyParts_extend`, `enclosing_extend`: the components of an extended path and the folders
  around it;
* `beginning_of_mem_stages`: what a path goes through are beginnings of it;
* `Service.path_eq`, `Service.path_inj`: where the resources of services are.
-/

namespace ServiceCatalog

namespace Path

/-- Whether a text can be the name of something in a folder. -/
structure IsName (name : String) : Prop where
  ne_empty : name ≠ ""
  no_slash : '/' ∉ name.toList
  ne_dot : name ≠ "."
  ne_dots : name ≠ ".."

/-- A path extended by a name. -/
def extend (path name : String) : String := path ++ "/" ++ name

theorem toList_extend (path name : String) :
    (extend path name).toList = path.toList ++ '/' :: name.toList := by
  simp [extend]

theorem extend_ne_empty (path name : String) : extend path name ≠ "" := by
  rw [Ne, ← String.toList_inj, toList_extend]
  exact List.append_ne_nil_of_right_ne_nil _ (List.cons_ne_nil _ _)

theorem extend_inj {path name other : String} :
    extend path name = extend path other ↔ name = other := by
  rw [← String.toList_inj, toList_extend, toList_extend, List.append_cancel_left_eq,
    List.cons_inj_right, String.toList_inj]

/-! ## Components -/

theorem nonEmptyParts_extend (path name : String) :
    nonEmptyParts (extend path name) = nonEmptyParts path ++ nonEmptyParts name := by
  simp only [nonEmptyParts, toList_extend, Text.splitAt_append, List.filter_append,
    List.map_append]

/-- A text without separators is its only component, unless it is empty. -/
theorem nonEmptyParts_single {part : String} (h : '/' ∉ part.toList) :
    nonEmptyParts part = if part = "" then [] else [part] := by
  rw [nonEmptyParts, Text.splitAt_of_not_mem h]
  by_cases hempty : part = ""
  · rw [if_pos hempty, hempty]
    rfl
  · -- the text is its only part, and it is not empty
    have hne : part.toList.isEmpty = false := by
      rw [List.isEmpty_eq_false_iff]
      intro hnil
      exact hempty (String.toList_eq_nil_iff.mp hnil)
    simp [hne, hempty]

/-- A name is its only component. -/
theorem nonEmptyParts_of_isName {name : String} (h : IsName name) :
    nonEmptyParts name = [name] := by
  rw [nonEmptyParts_single h.no_slash, if_neg h.ne_empty]

theorem isAbsolute_extend {path : String} (h : path ≠ "") (name : String) :
    isAbsolute (extend path name) = isAbsolute path := by
  have hne : path.toList ≠ [] := by
    intro hnil
    exact h (String.toList_eq_nil_iff.mp hnil)
  rw [isAbsolute, isAbsolute, toList_extend, List.head?_append_of_ne_nil _ hne]

theorem endsInSlash_extend {path name : String} (h : IsName name) :
    endsInSlash (extend path name) = false := by
  have hne : name.toList ≠ [] := by
    intro hnil
    exact h.ne_empty (String.toList_eq_nil_iff.mp hnil)
  -- the last character of the path is the last one of the name
  have hlast : (extend path name).toList.getLast? = name.toList.getLast? := by
    rw [toList_extend, List.getLast?_append_of_ne_nil _ (List.cons_ne_nil _ _),
      List.getLast?_cons_of_ne_nil hne]
  rw [endsInSlash, hlast, beq_eq_false_iff_ne]
  intro hslash
  exact h.no_slash (List.mem_of_getLast? hslash)

/-! ## Stages -/

/-- The text that begins as given and goes on with components. -/
def textFrom (before : String) (parts : List (List Char)) : String :=
  parts.foldl (fun path part => extend path (String.ofList part)) before

theorem textFrom_append (text before : String) (parts : List (List Char)) :
    textFrom (text ++ before) parts = text ++ textFrom before parts := by
  induction parts generalizing before with
  | nil => rfl
  | cons part parts ih =>
    have hextend : extend (text ++ before) (String.ofList part) =
        text ++ extend before (String.ofList part) := by
      simp only [extend, String.append_assoc]
    calc textFrom (extend (text ++ before) (String.ofList part)) parts
        = textFrom (text ++ extend before (String.ofList part)) parts := by rw [hextend]
      _ = text ++ textFrom (extend before (String.ofList part)) parts := ih _

/-- The parts of a text make it up again. -/
theorem textFrom_splitAt {cs first : List Char} {parts : List (List Char)}
    (h : Text.splitAt '/' cs = first :: parts) :
    textFrom (String.ofList first) parts = String.ofList cs := by
  -- the induction is on the characters: a slash starts a new part, any other one does not
  induction cs generalizing first parts with
  | nil =>
    cases h
    rfl
  | cons c cs ih =>
    rcases hsplit : Text.splitAt '/' cs with _ | ⟨part, rest⟩
    · exact absurd hsplit (Text.splitAt_ne_nil '/' cs)
    rw [Text.splitAt, hsplit] at h
    by_cases hc : c = '/'
    · rw [if_pos hc] at h
      cases h
      have hslash : extend (String.ofList []) (String.ofList part) =
          "/" ++ String.ofList part := rfl
      calc textFrom (extend (String.ofList []) (String.ofList part)) rest
          = "/" ++ textFrom (String.ofList part) rest := by rw [hslash, textFrom_append]
        _ = "/" ++ String.ofList cs := by rw [ih hsplit]
        _ = String.ofList (c :: cs) := by rw [hc, String.ofList_cons]; rfl
    · rw [if_neg hc] at h
      cases h
      rw [String.ofList_cons, textFrom_append, ih hsplit, ← String.ofList_cons]

/-- A path has a first part, and with the other parts it makes up the path. -/
theorem exists_parts (path : String) :
    ∃ first parts, Text.splitAt '/' path.toList = first :: parts ∧
      textFrom (String.ofList first) parts = path := by
  rcases hsplit : Text.splitAt '/' path.toList with _ | ⟨first, parts⟩
  · exact absurd hsplit (Text.splitAt_ne_nil '/' path.toList)
  · refine ⟨first, parts, rfl, ?_⟩
    rw [textFrom_splitAt hsplit, String.ofList_toList]

/-- A path is a text without separators, or such a text after another path and a separator. -/
theorem component_induction {motive : String → Prop}
    (single : ∀ part, '/' ∉ part.toList → motive part)
    (extend : ∀ path part, '/' ∉ part.toList → motive path → motive (extend path part))
    (path : String) : motive path := by
  -- the path is taken apart at its slashes, and its parts are added one by one
  have hall : ∀ (parts : List (List Char)) (first : List Char), '/' ∉ first →
      (∀ part ∈ parts, '/' ∉ part) → motive (textFrom (String.ofList first) parts) := by
    intro parts first hfirst
    induction parts using List.reverseRecOn with
    | nil =>
      intro _
      have hpart : '/' ∉ (String.ofList first).toList := by rwa [String.toList_ofList]
      exact single _ hpart
    | append_singleton parts part ih =>
      intro hparts
      rcases List.forall_mem_append.mp hparts with ⟨hbefore, hlast⟩
      have hpart : '/' ∉ (String.ofList part).toList := by
        rw [String.toList_ofList]
        exact hlast part (List.mem_singleton_self part)
      rw [textFrom, List.foldl_concat]
      exact extend _ _ hpart (ih hbefore)
  obtain ⟨first, parts, hsplit, hpath⟩ := exists_parts path
  have hseparator : ∀ part ∈ first :: parts, '/' ∉ part := by
    intro part hpart
    rw [← hsplit] at hpart
    exact Text.not_mem_of_mem_splitAt hpart
  rcases List.forall_mem_cons.mp hseparator with ⟨hfirst, hparts⟩
  rw [← hpath]
  exact hall parts first hfirst hparts

theorem stagesFrom_concat {before : String} {parts : List (List Char)} {part : List Char}
    (h : isIdle part = false) :
    stagesFrom before (parts ++ [part]) =
      stagesFrom before parts ++ [extend (textFrom before parts) (String.ofList part)] := by
  induction parts generalizing before with
  | nil => simp [stagesFrom, h, textFrom, extend]
  | cons first parts ih =>
    have hrest : textFrom before (first :: parts) =
        textFrom (extend before (String.ofList first)) parts := rfl
    rw [List.cons_append, stagesFrom, stagesFrom, hrest]
    by_cases hidle : isIdle first
    · simp only [if_pos hidle]
      exact ih
    · simp only [if_neg hidle, List.cons_append]
      rw [ih]
      rfl

theorem stagesFrom_concat_of_isIdle {before : String} {parts : List (List Char)} {part : List Char}
    (h : isIdle part = true) : stagesFrom before (parts ++ [part]) = stagesFrom before parts := by
  induction parts generalizing before with
  | nil => simp [stagesFrom, h]
  | cons first parts ih =>
    rw [List.cons_append, stagesFrom, stagesFrom]
    simp only [ih]

/-- A text without separators goes through itself only, unless it is empty. -/
theorem stages_single {part : String} (h : '/' ∉ part.toList) :
    stages part = if part = "" then [] else [part] := by
  simp only [stages, Text.splitAt_of_not_mem h, String.ofList_toList]
  split <;> rfl

/-- A component that leads nowhere adds nothing to what a path goes through, and any other one adds
the extended path. -/
theorem stages_extend_part (path : String) {part : String} (h : '/' ∉ part.toList) :
    stages (extend path part) =
      if isIdle part.toList then stages path else stages path ++ [extend path part] := by
  -- the stages of the longer path come from the parts of the shorter one and one part more
  obtain ⟨first, parts, hsplit, hpath⟩ := exists_parts path
  simp only [stages, toList_extend, Text.splitAt_append, hsplit, Text.splitAt_of_not_mem h,
    List.cons_append]
  cases hidle : isIdle part.toList with
  | true =>
    rw [if_pos rfl]
    simp only [stagesFrom_concat_of_isIdle hidle]
  | false =>
    rw [if_neg Bool.false_ne_true]
    simp only [stagesFrom_concat hidle, hpath, String.ofList_toList]
    split <;> rfl

/-- A path that is extended by a name goes through what the path before it goes through. -/
theorem stages_extend {path name : String} (h : IsName name) :
    stages (extend path name) = stages path ++ [extend path name] := by
  have hempty : name.toList ≠ [] := by
    intro hnil
    exact h.ne_empty (String.toList_eq_nil_iff.mp hnil)
  have hdot : name.toList ≠ ['.'] := by
    intro heq
    exact h.ne_dot (String.toList_inj.mp heq)
  have hidle : isIdle name.toList = false := by simp [isIdle, hempty, hdot]
  rw [stages_extend_part path h.no_slash, if_neg (by simp [hidle])]

/-- The folders around an extended path are those that the path before the name goes through. -/
theorem enclosing_extend {path name : String} (h : IsName name) :
    enclosing (extend path name) = (stages path).reverse := by
  rw [enclosing, stages_extend h, List.dropLast_concat]

/-- Whether a path is another one up to some component. -/
def Beginning (stage path : String) : Prop :=
  stage ≠ "" ∧ (stage = path ∨ ∃ rest, path = extend stage rest)

theorem textFrom_eq_or (before : String) (parts : List (List Char)) :
    textFrom before parts = before ∨ ∃ rest, textFrom before parts = extend before rest := by
  cases parts with
  | nil => exact .inl rfl
  | cons part parts =>
    refine .inr ⟨textFrom (String.ofList part) parts, ?_⟩
    calc textFrom (extend before (String.ofList part)) parts
        = (before ++ "/") ++ textFrom (String.ofList part) parts := textFrom_append _ _ _
      _ = extend before (textFrom (String.ofList part) parts) := rfl

theorem beginning_of_mem_stagesFrom {before stage : String} {parts : List (List Char)}
    (h : stage ∈ stagesFrom before parts) : Beginning stage (textFrom before parts) := by
  induction parts generalizing before with
  | nil => exact absurd h List.not_mem_nil
  | cons part parts ih =>
    have hrest : textFrom before (part :: parts) =
        textFrom (extend before (String.ofList part)) parts := rfl
    rw [stagesFrom] at h
    rw [hrest]
    -- an idle part is no stage; any other one is the path up to it
    split at h
    · exact ih h
    · rcases List.mem_cons.mp h with rfl | h
      · refine ⟨?_, (textFrom_eq_or _ _).imp_left Eq.symm⟩
        intro hempty
        have hlist := congrArg String.toList hempty
        simp at hlist
      · exact ih h

/-- A path goes through beginnings of it. -/
theorem beginning_of_mem_stages {path stage : String} (h : stage ∈ stages path) :
    Beginning stage path := by
  obtain ⟨first, parts, hsplit, hpath⟩ := exists_parts path
  simp only [stages, hsplit] at h
  rw [← hpath]
  -- the first part is a stage by itself only if it is not empty
  split at h
  · exact beginning_of_mem_stagesFrom h
  · next hstart =>
    rcases List.mem_cons.mp h with rfl | h
    · exact ⟨hstart, (textFrom_eq_or _ _).imp_left Eq.symm⟩
    · exact beginning_of_mem_stagesFrom h

/-- A beginning of a path starts where the path starts, and its components come first. -/
theorem Beginning.parts {stage path : String} (h : Beginning stage path) :
    isAbsolute stage = isAbsolute path ∧ nonEmptyParts stage <+: nonEmptyParts path := by
  rcases h with ⟨hne, rfl | ⟨rest, rfl⟩⟩
  · exact ⟨rfl, List.prefix_refl _⟩
  · rw [isAbsolute_extend hne, nonEmptyParts_extend]
    exact ⟨rfl, List.prefix_append _ _⟩

/-! ## Joining -/

theorem join_eq_append (path component : String) :
    ∃ before, join path component = before ++ component := by
  unfold join
  split
  · exact ⟨path, rfl⟩
  · exact ⟨path ++ "/", rfl⟩

/-- A path that was joined with a name does not end in a separator. -/
theorem join_join_eq_extend {name : String} (h : IsName name) (path component : String) :
    join (join path name) component = extend (join path name) component := by
  rcases join_eq_append path name with ⟨before, hbefore⟩
  have hname : name.toList ≠ [] := fun hnil => h.ne_empty (String.toList_eq_nil_iff.mp hnil)
  rw [hbefore]
  refine if_neg ?_
  rw [← String.toList_inj, String.toList_append, List.getLast?_append_of_ne_nil _ hname]
  rintro (hempty | hslash)
  · exact hname (List.append_eq_nil_iff.mp hempty).2
  · exact h.no_slash (List.mem_of_getLast? hslash)

/-- A path that is joined with a name has that component more. -/
theorem nonEmptyParts_join {path name : String} (h : IsName name) :
    nonEmptyParts (join path name) = nonEmptyParts path ++ [name] := by
  have hname := nonEmptyParts_of_isName h
  unfold join
  split
  · next hstart =>
    rcases hstart with rfl | hlast
    · rw [String.empty_append, hname]
      rfl
    · -- the slash at the end of the path is the one before the name
      rcases List.getLast?_eq_some_iff.mp hlast with ⟨cs, hcs⟩
      have hpath : path = extend (String.ofList cs) "" := by
        rw [← String.toList_inj, hcs, toList_extend, String.toList_ofList]
        rfl
      have hjoined : path ++ name = extend (String.ofList cs) name := by
        rw [← String.toList_inj, String.toList_append, hcs, toList_extend, String.toList_ofList,
          List.append_assoc]
        rfl
      rw [hjoined, hpath, nonEmptyParts_extend, nonEmptyParts_extend, hname]
      congr 1
      exact (List.append_nil _).symm
  · exact (nonEmptyParts_extend path name).trans (congrArg _ hname)

end Path

namespace Service

open ServiceCatalog.Path

/-! ## Resources of services -/

/-- The path of the folder of all resources of services below a root. -/
def folderPath (root : String) : String := join (join root "META-INF") "services"

/-- The resources of services are kept in the folder of that name. -/
theorem ofResource_folder (root : String) : ofResource root folder = folderPath root := rfl

/-- A fit name of a service can be the name of a file. -/
theorem isName_of_nameFault? {i : String} (h : nameFault? i = none) : IsName i := by
  obtain ⟨hne, hgood, hparts⟩ := nameFault?_eq_none_iff.mp h
  refine ⟨hne, ?_, ?_, ?_⟩
  · intro hslash
    exact absurd (hgood '/' hslash) (by decide)
  -- a dot by itself has an empty part on either side
  · rintro rfl
    exact absurd hparts (by decide)
  · rintro rfl
    exact absurd hparts (by decide)

theorem isName_metaInf : IsName "META-INF" := ⟨by decide, by decide, by decide, by decide⟩

theorem isName_services : IsName "services" := ⟨by decide, by decide, by decide, by decide⟩

theorem folderPath_eq (root : String) :
    folderPath root = extend (join root "META-INF") "services" :=
  join_join_eq_extend isName_metaInf root "services"

theorem folderPath_ne_empty (root : String) : folderPath root ≠ "" := by
  rw [folderPath_eq]
  exact extend_ne_empty _ _

/-- The folder of all resources is named by the root and two names. -/
theorem nonEmptyParts_folderPath (root : String) :
    nonEmptyParts (folderPath root) = nonEmptyParts root ++ ["META-INF", "services"] := by
  rw [folderPath, nonEmptyParts_join isName_services, nonEmptyParts_join isName_metaInf,
    List.append_assoc]
  rfl

/-- The path of the resource of a service is that of the folder with one component more. -/
theorem path_eq_join {i : String} (h : nameFault? i = none) (root : String) :
    path root i = join (folderPath root) i := by
  have hname : resourceName i = extend (extend "META-INF" "services") i := rfl
  have hparts : nonEmptyParts (resourceName i) = ["META-INF", "services", i] := by
    rw [hname, nonEmptyParts_extend, nonEmptyParts_of_isName (isName_of_nameFault? h)]
    rfl
  rw [path, ofResource, hparts]
  rfl

/-- The resource of a service is the file of its name in one folder. -/
theorem path_eq {i : String} (h : nameFault? i = none) (root : String) :
    path root i = extend (folderPath root) i := by
  rw [path_eq_join h]
  exact join_join_eq_extend isName_services _ i

/-- The components of the path of a resource are those of the folder and the name of the service. -/
theorem nonEmptyParts_path {i : String} (h : nameFault? i = none) (root : String) :
    nonEmptyParts (path root i) = nonEmptyParts (folderPath root) ++ [i] := by
  rw [path_eq_join h, nonEmptyParts_join (isName_of_nameFault? h)]

/-- Two services never share a file. -/
theorem path_inj {i j : String} (hi : nameFault? i = none) (hj : nameFault? j = none)
    (root : String) : path root i = path root j ↔ i = j := by
  rw [path_eq hi, path_eq hj, extend_inj]

end Service

end ServiceCatalog
