import ServiceCatalog.Proofs.Nesting
import ServiceCatalog.Proofs.Scanning
import ServiceCatalog.Proofs.ServiceMerge

/-!
# Binary names tell declarations apart

A binary name is a namespace, a dot, and the simple names joined by dollar signs. If simple names
hold neither of the two characters, then the last dot of a binary name ends its namespace, and the
dollar signs behind it separate the simple names, whatever the namespace holds. So the place of a
declaration can be read off its binary name; and if no two declarations have the same scope and
simple name, then going down the two chains of declarations from the namespace finds the same
declaration at each step.

* `text_inj`: a namespace and simple names can be read off what they are put together to;
* `StandsAt.eq_of_distinctSiblings`: at most one declaration stands at a place;
* `eq_of_same_binaryName`: declarations with the same binary name, or with the same resource.
-/

namespace ServiceCatalog.SymbolTable

variable {t : SymbolTable} {a b : DeclId} {name name' : String} {names names' : List String}

/-- Whether simple names hold neither the dot nor the dollar sign. -/
def PlainNames (t : SymbolTable) : Prop :=
  ∀ d ∈ t.declarations, '.' ∉ d.simpleName.toList ∧ '$' ∉ d.simpleName.toList

/-- Whether two declarations of the same simple name within the same scope have the same
identifier. -/
def DistinctSiblings (t : SymbolTable) : Prop :=
  ∀ d ∈ t.declarations, ∀ e ∈ t.declarations,
    d.enclosing = e.enclosing → d.simpleName = e.simpleName → d.id = e.id

/-! ## Reading a binary name -/

/-- The characters of a binary name. -/
theorem toList_text (name : String) (names : List String) :
    ((if name = "" then "" else name ++ ".") ++ "$".intercalate names).toList =
      (if name = "" then [] else name.toList ++ ['.']) ++
        ['$'].intercalate (names.map String.toList) := by
  have hdot : ".".toList = ['.'] := rfl
  have hdollar : "$".toList = ['$'] := rfl
  rw [String.toList_append, String.toList_intercalate, hdollar]
  split
  · rw [String.toList_empty]
  · rw [String.toList_append, hdot]

/-- Lists of simple names without dollar signs are the same if they join to the same text. -/
theorem names_inj (hne : names ≠ []) (hne' : names' ≠ [])
    (h : ∀ n ∈ names, '$' ∉ n.toList) (h' : ∀ n ∈ names', '$' ∉ n.toList)
    (heq : ['$'].intercalate (names.map String.toList) =
      ['$'].intercalate (names'.map String.toList)) : names = names' := by
  -- a text is split at its dollar signs, which gives the simple names back
  have hread : ∀ {ns : List String}, ns ≠ [] → (∀ n ∈ ns, '$' ∉ n.toList) →
      Text.splitAt '$' (['$'].intercalate (ns.map String.toList)) = ns.map String.toList := by
    intro ns hne hplain
    exact Text.splitAt_intercalate (by simpa using hne) (List.forall_mem_map.mpr hplain)
  have hparts := congrArg (Text.splitAt '$') heq
  rw [hread hne h, hread hne' h'] at hparts
  exact List.map_injective_iff.mpr (fun _ _ => String.toList_inj.mp) hparts

/-- A namespace and simple names that hold neither separator can be read off the text that they are
put together to, whatever the namespace holds. -/
theorem text_inj (hne : names ≠ []) (hne' : names' ≠ [])
    (h : ∀ n ∈ names, '.' ∉ n.toList ∧ '$' ∉ n.toList)
    (h' : ∀ n ∈ names', '.' ∉ n.toList ∧ '$' ∉ n.toList)
    (heq : (if name = "" then "" else name ++ ".") ++ "$".intercalate names =
      (if name' = "" then "" else name' ++ ".") ++ "$".intercalate names') :
    name = name' ∧ names = names' := by
  -- the joined simple names have no dot, so the last dot belongs to the namespace
  have hdot : ∀ {ns : List String}, (∀ n ∈ ns, '.' ∉ n.toList ∧ '$' ∉ n.toList) →
      '.' ∉ ['$'].intercalate (ns.map String.toList) := by
    intro ns hplain
    exact Text.not_mem_intercalate (by decide)
      (List.forall_mem_map.mpr fun n hn => (hplain n hn).1)
  have hnames := names_inj hne hne' (fun n hn => (h n hn).2) fun n hn => (h' n hn).2
  have hlist := congrArg String.toList heq
  rw [toList_text, toList_text] at hlist
  -- the text holds a dot outside of the simple names exactly if there is a namespace
  by_cases hname : name = "" <;> by_cases hname' : name' = ""
  · rw [if_pos hname, if_pos hname'] at hlist
    exact ⟨hname.trans hname'.symm, hnames hlist⟩
  · rw [if_pos hname, if_neg hname'] at hlist
    refine absurd ?_ (hdot h)
    rw [List.nil_append] at hlist
    rw [hlist]
    simp
  · rw [if_neg hname, if_pos hname'] at hlist
    refine absurd ?_ (hdot h')
    rw [List.nil_append] at hlist
    rw [← hlist]
    simp
  · -- with both namespaces there, the text is split at its last dot
    rw [if_neg hname, if_neg hname', List.append_assoc, List.append_assoc, List.singleton_append,
      List.singleton_append] at hlist
    obtain ⟨hspace, hjoined⟩ := Text.append_inj_of_not_mem (hdot h) (hdot h') hlist
    exact ⟨String.toList_inj.mp hspace, hnames hjoined⟩

/-! ## Declarations at one place -/

theorem StandsAt.plain (hplain : t.PlainNames) (h : t.StandsAt a name names) :
    ∀ n ∈ names, '.' ∉ n.toList ∧ '$' ∉ n.toList := by
  intro n hn
  obtain ⟨d, hd, rfl⟩ := h.exists_declared hn
  exact hplain d hd

/-- If declarations next to one another have different names, then at most one of them stands at a
place. The induction is on the way outwards, so that the declarations around the two are the same
before they are. -/
theorem StandsAt.eq_of_distinctSiblings (hdistinct : t.DistinctSiblings)
    (ha : t.StandsAt a name names) (hb : t.StandsAt b name names) : a = b := by
  have hsame : ∀ {a b : DeclId} {d e : Declaration}, t.find? a = some d → t.find? b = some e →
      d.enclosing = e.enclosing → d.simpleName = e.simpleName → a = b := by
    -- the scope and the simple name determine the declaration
    intro a b d e hd he henclosing hname
    rw [← id_of_find? hd, ← id_of_find? he]
    exact hdistinct d (List.mem_of_find?_eq_some hd) e (List.mem_of_find?_eq_some he) henclosing
      hname
  induction ha generalizing b with
  | @top a d name hd htop =>
    generalize hnames : [d.simpleName] = names at hb
    cases hb with
    | @top _ e _ he htop' =>
      exact hsame hd he (htop.trans htop'.symm) (List.singleton_inj.mp hnames)
    | @nested _ _ _ _ names' _ _ houter =>
      -- a nested declaration has more than one name around it
      rw [← List.nil_append [d.simpleName]] at hnames
      exact absurd (List.append_inj' hnames rfl).1.symm houter.names_ne_nil
  | @nested a outer d name names hd hnested houter ih =>
    generalize hnames : names ++ [d.simpleName] = all at hb
    cases hb with
    | @top _ e _ _ _ =>
      rw [← List.nil_append [e.simpleName]] at hnames
      exact absurd (List.append_inj' hnames rfl).1 houter.names_ne_nil
    | @nested _ outer' e _ names' he hnested' houter' =>
      -- the last names are the same, and so are those of the enclosing declarations
      obtain ⟨rfl, hlast⟩ := List.append_inj' hnames rfl
      obtain rfl : outer = outer' := ih houter'
      exact hsame hd he (hnested.trans hnested'.symm) (List.singleton_inj.mp hlast)

/-! ## Main statement -/

/-- Let simple names hold neither the dot nor the dollar sign. Then two identifiers with the same
binary name stand in the same namespace and have the same simple names around them. If moreover no
two declarations of different identifiers have the same simple name within the same scope, then two
identifiers have the same binary name only if they are the same, and neither do services of two
identifiers share a resource. -/
theorem eq_of_same_binaryName (hplain : t.PlainNames) (ha : t.binaryName a = .ok name)
    (hb : t.binaryName b = .ok name') :
    (name = name' → ∃ space names, t.StandsAt a space names ∧ t.StandsAt b space names) ∧
    (t.DistinctSiblings → (name = name' ↔ a = b) ∧
      (Service.resourceName name = Service.resourceName name' ↔ a = b)) := by
  obtain ⟨space, names, hstands, htext⟩ := map_placement_eq_ok_iff.mp ha
  obtain ⟨space', names', hstands', htext'⟩ := map_placement_eq_ok_iff.mp hb
  have hplace : name = name' →
      ∃ space names, t.StandsAt a space names ∧ t.StandsAt b space names := by
    intro heq
    rw [htext, htext'] at heq
    obtain ⟨rfl, rfl⟩ := text_inj hstands.names_ne_nil hstands'.names_ne_nil (hstands.plain hplain)
      (hstands'.plain hplain) heq
    exact ⟨space, names, hstands, hstands'⟩
  refine ⟨hplace, ?_⟩
  intro hdistinct
  have hid : name = name' ↔ a = b := by
    constructor
    · intro heq
      obtain ⟨space, names, hstands, hstands'⟩ := hplace heq
      exact hstands.eq_of_distinctSiblings hdistinct hstands'
    · rintro rfl
      exact Except.ok.inj (ha.symm.trans hb)
  exact ⟨hid, by rw [Service.resourceName_inj, hid]⟩

/-- A table in which namespaces hold both separators: there is a class `B` within `A` within `p`,
one in a namespace `p.A` and one in a namespace `p$A`, and another `A` in the unnamed namespace. -/
def lookalikes : SymbolTable where
  declarations :=
    [⟨⟨"1"⟩, "A", .classType, .topLevel "p", [], none⟩,
      ⟨⟨"2"⟩, "B", .classType, .nested ⟨"1"⟩, [], none⟩,
      ⟨⟨"3"⟩, "B", .classType, .topLevel "p.A", [], none⟩,
      ⟨⟨"4"⟩, "B", .classType, .topLevel "p$A", [], none⟩,
      ⟨⟨"5"⟩, "A", .classType, .topLevel "", [], none⟩]
  rounds := none

/-- No other identifier of the table has the binary name of the nested class, nor its resource. -/
theorem eq_of_same_binaryName_lookalikes :
    lookalikes.binaryName ⟨"2"⟩ = .ok "p.A$B" ∧ lookalikes.binaryName ⟨"3"⟩ = .ok "p.A.B" ∧
      lookalikes.binaryName ⟨"4"⟩ = .ok "p$A.B" ∧
      ∀ id name, lookalikes.binaryName id = .ok name →
        Service.resourceName name = Service.resourceName "p.A$B" → id = ⟨"2"⟩ := by
  have hplain : lookalikes.PlainNames := by
    unfold PlainNames
    decide
  have hdistinct : lookalikes.DistinctSiblings := by
    unfold DistinctSiblings
    decide
  have hnested : lookalikes.binaryName ⟨"2"⟩ = .ok "p.A$B" := by cbv
  refine ⟨hnested, by cbv, by cbv, ?_⟩
  intro id name hname hresource
  exact ((eq_of_same_binaryName hplain hname hnested).2 hdistinct).2.mp hresource

end ServiceCatalog.SymbolTable
