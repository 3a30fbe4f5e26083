import ServiceCatalog.Proofs.FolderMerge
import ServiceCatalog.Proofs.JsonText

/-!
# Tables that are written and read again

A table is written as an object that leaves out what is empty or missing, and read from an object or
an array in which the same may be left out. Reading takes only markers that are not nested too deep,
and whatever has such markers only is read back from what is written for it. Nothing else is lost:
the order and repetition of declarations, the nesting of markers, and whether there are rounds.

* `Marker.ofJson?_toJson`, `Declaration.ofJson?_toJson`, `SymbolTable.ofJson?_toJson`: each part of
  a table is read back;
* `exists_text_iff`: the tables that can be read at all;
* `ofText?_toText_of_read`: a table that was read is read back from its own text and from a file.
-/

namespace ServiceCatalog

/-! ## Lists of values -/

section Lists

variable {α β : Type} {as : List α} {bs : List β}

/-- What is read item by item from a list comes from one of its items. -/
theorem exists_of_mem_mapM {f : α → Option β} (h : as.mapM f = some bs) {b : β} (hb : b ∈ bs) :
    ∃ a ∈ as, f a = some b := by
  induction as generalizing bs with
  | nil =>
    cases h
    cases hb
  | cons a as ih =>
    rw [List.mapM_cons] at h
    obtain ⟨first, hfirst, h⟩ := Option.bind_eq_some_iff.mp h
    obtain ⟨rest, hrest, h⟩ := Option.bind_eq_some_iff.mp h
    cases h
    rcases List.mem_cons.mp hb with rfl | hmem
    · exact ⟨a, List.mem_cons_self, hfirst⟩
    · obtain ⟨a', ha', hread⟩ := ih hrest hmem
      exact ⟨a', List.mem_cons_of_mem a ha', hread⟩

/-- A list is read back item by item if each item is. -/
theorem mapM_map_eq_some {f : β → Option α} {g : α → β} (h : ∀ a ∈ as, f (g a) = some a) :
    (as.map g).mapM f = some as := by
  induction as with
  | nil => rfl
  | cons a as ih =>
    rcases List.forall_mem_cons.mp h with ⟨hfirst, hrest⟩
    rw [List.map_cons, List.mapM_cons, hfirst, ih hrest]
    rfl

end Lists

namespace Json

/-- A list of values is read back if each of them is. -/
theorem asListOf?_map {α : Type} {as : List α} {item? : Json → Option α} {toJson : α → Json}
    (h : ∀ a ∈ as, item? (toJson a) = some a) :
    asListOf? item? (.array (as.map toJson)) = some as :=
  mapM_map_eq_some h

@[simp] theorem asText?_ofString (s : String) : asText? (ofString s) = some s :=
  JsonUnit.text?_ofText s

/-- The fields of a record are found under their names. -/
theorem namedFields?_record (fields : List (String × Json)) :
    namedFields? (fields.map fun (name, value) => (JsonUnit.ofText name, value)) = some fields := by
  apply mapM_map_eq_some
  rintro ⟨name, value⟩ -
  simp only [JsonUnit.text?_ofText, Option.map_some]

theorem isPlain_ofString (s : String) : IsPlain (ofString s) := .text s

theorem isPlain_record {fields : List (String × Json)} (h : ∀ field ∈ fields, IsPlain field.2) :
    IsPlain (record fields) := by
  apply IsPlain.object
  · intro field hfield
    obtain ⟨⟨name, value⟩, -, rfl⟩ := List.mem_map.mp hfield
    exact ⟨name, rfl⟩
  · intro field hfield
    obtain ⟨field', hfield', rfl⟩ := List.mem_map.mp hfield
    exact h field' hfield'

theorem isPlain_array {α : Type} {as : List α} {toJson : α → Json}
    (h : ∀ a ∈ as, IsPlain (toJson a)) : IsPlain (.array (as.map toJson)) :=
  .array (List.forall_mem_map.mpr h)

/-- The value of a field that may be missing or null, read in one way if it is neither. -/
def nullable? {α : Type} (item? : Json → Option α) : Option Json → Option (Option α)
  | none => some none
  | some .null => some none
  | some value => (item? value).map some

theorem nullable?_of_ne_null {α : Type} {item? : Json → Option α} {value : Json}
    (h : value ≠ .null) : nullable? item? (some value) = (item? value).map some := by
  cases value with
  | null => exact absurd rfl h
  | _ => rfl

theorem of_nullable?_eq_some {α : Type} {item? : Json → Option α} {field : Option Json} {a : α}
    (h : nullable? item? field = some (some a)) : ∃ value, item? value = some a := by
  unfold nullable? at h
  split at h
  · cases h
  · cases h
  · obtain ⟨a', hread, heq⟩ := Option.map_eq_some_iff.mp h
    cases heq
    exact ⟨_, hread⟩

end Json

/-! ## Identifiers, kinds and scopes -/

@[simp] theorem DeclId.ofJson?_toJson (id : DeclId) : DeclId.ofJson? id.toJson = some id := by
  simp only [ofJson?, toJson, Json.asText?_ofString, Option.map_some]

theorem DeclId.isPlain_toJson (id : DeclId) : Json.IsPlain id.toJson :=
  Json.isPlain_ofString id.text

@[simp] theorem DeclKind.ofWord?_word (kind : DeclKind) : ofWord? kind.word = some kind := by
  cases kind <;> decide

@[simp] theorem DeclKind.ofJson?_word (kind : DeclKind) :
    DeclKind.ofJson? (.ofString kind.word) = some kind := by
  simp only [ofJson?, Json.ofString, JsonUnit.text?_ofText, Option.bind_some, ofWord?_word]

@[simp] theorem Scope.ofJson?_toJson (scope : Scope) : Scope.ofJson? scope.toJson = some scope := by
  cases scope <;>
    simp [toJson, Json.record, ofJson?]

theorem Scope.isPlain_toJson (scope : Scope) : Json.IsPlain scope.toJson := by
  cases scope with
  | topLevel name => exact Json.isPlain_record (by simp [Json.isPlain_ofString])
  | nested outer => exact Json.isPlain_record (by simp [DeclId.isPlain_toJson])

/-! ## Markers -/

namespace Marker

variable {depth : Nat} {value : Json} {m : Marker}

/-- Whether lists are nested no deeper than a number in a marker's argument. -/
def Within : Nat → Marker → Prop
  | _, .ref _ => True
  | depth + 1, .list items => ∀ item ∈ items, Within depth item
  | 0, .list _ => False

theorem listToJson_eq (items : List Marker) : listToJson items = items.map toJson := by
  induction items with
  | nil => rfl
  | cons item items ih => rw [listToJson, ih, List.map_cons]

/-- What is read is nested no deeper than the reader allows. -/
theorem within_of_ofJson? (h : ofJson? depth value = some m) : m.Within depth := by
  -- the induction is on the depth that is left: a list uses up one level, a reference none
  induction depth generalizing value m with
  | zero =>
    cases value with
    | string units =>
      obtain ⟨text, -, rfl⟩ := Option.map_eq_some_iff.mp h
      trivial
    | _ => cases h
  | succ depth ih =>
    cases value with
    | string units =>
      obtain ⟨text, -, rfl⟩ := Option.map_eq_some_iff.mp h
      trivial
    | array items =>
      obtain ⟨ms, hms, rfl⟩ := Option.map_eq_some_iff.mp h
      intro item hitem
      obtain ⟨value, -, hvalue⟩ := exists_of_mem_mapM hms hitem
      exact ih hvalue
    | _ => cases h

/-- What is nested no deeper than the reader allows is read back with its nesting. -/
theorem ofJson?_toJson (h : m.Within depth) : ofJson? depth m.toJson = some m := by
  induction depth generalizing m with
  | zero =>
    cases m with
    | ref target => simp [toJson, DeclId.toJson, Json.ofString, ofJson?]
    | list items => cases h
  | succ depth ih =>
    cases m with
    | ref target => simp [toJson, DeclId.toJson, Json.ofString, ofJson?]
    | list items =>
      have hitems : (items.map toJson).mapM (ofJson? depth) = some items :=
        mapM_map_eq_some fun item hitem => ih (h item hitem)
      rw [toJson, listToJson_eq, ofJson?, hitems]
      rfl

mutual

theorem isPlain_toJson : (m : Marker) → Json.IsPlain m.toJson
  | .ref target => target.isPlain_toJson
  | .list items => .array (isPlain_listToJson items)

theorem isPlain_listToJson :
    (items : List Marker) → ∀ value ∈ listToJson items, Json.IsPlain value
  | [] => List.forall_mem_nil _
  | item :: items =>
    List.forall_mem_cons.mpr ⟨item.isPlain_toJson, isPlain_listToJson items⟩

end

theorem toJson_ne_null (m : Marker) : m.toJson ≠ .null := by
  cases m <;> exact Json.noConfusion

end Marker

/-! ## Declarations and tables -/

namespace Declaration

variable {d : Declaration}

/-- The values of the fields are read one after another. -/
theorem ofFields?_eq (id simpleName : Json) (kind : Option Json) (enclosing : Json)
    (supertypes marker : Option Json) :
    ofFields? id simpleName kind enclosing supertypes marker =
      (DeclId.ofJson? id).bind fun id => simpleName.asText?.bind fun simpleName =>
      (kind.elim (some .classType) DeclKind.ofJson?).bind fun kind =>
      (Scope.ofJson? enclosing).bind fun enclosing =>
      (supertypes.elim (some []) (Json.asListOf? DeclId.ofJson?)).bind fun supertypes =>
      (Json.nullable? (Marker.ofJson? markerLimit) marker).bind fun marker =>
        some ⟨id, simpleName, kind, enclosing, supertypes, marker⟩ := by
  -- null says that there is no marker, as does leaving it out
  unfold ofFields?
  rcases kind with _ | kind <;> rcases supertypes with _ | supertypes <;>
    rcases marker with _ | (_ | _ | _ | _ | _ | _) <;> rfl

/-- A declaration is read from a record by the names of its fields. -/
theorem ofJson?_record {fields : List (String × Json)} {id simpleName enclosing : Json}
    {kind supertypes marker : Option Json}
    (hid : Json.requiredField? fields "id" = some id)
    (hsimpleName : Json.requiredField? fields "simple_name" = some simpleName)
    (hkind : Json.optionalField? fields "kind" = some kind)
    (henclosing : Json.requiredField? fields "enclosing" = some enclosing)
    (hsupertypes : Json.optionalField? fields "supertypes" = some supertypes)
    (hmarker : Json.optionalField? fields "marker" = some marker) :
    ofJson? (.record fields) = ofFields? id simpleName kind enclosing supertypes marker := by
  simp only [Json.record, ofJson?, Json.namedFields?_record, hid, hsimpleName, hkind, henclosing,
    hsupertypes, hmarker, Option.bind_eq_bind, Option.bind_some]

/-- The values of the fields of a declaration, as far as they are written, are read back. -/
theorem ofFields?_toJson (h : ∀ m, d.marker = some m → m.Within markerLimit) :
    ofFields? d.id.toJson (.ofString d.simpleName) (some (.ofString d.kind.word)) d.enclosing.toJson
      (if d.supertypes = [] then none else some (.array (d.supertypes.map DeclId.toJson)))
      (d.marker.map Marker.toJson) = some d := by
  have hsupertypes : (if d.supertypes = [] then none else
      some (Json.array (d.supertypes.map DeclId.toJson))).elim (some [])
        (Json.asListOf? DeclId.ofJson?) = some d.supertypes := by
    split
    · next hnone => exact congrArg some hnone.symm
    · exact Json.asListOf?_map fun ref _ => ref.ofJson?_toJson
  have hmarker : Json.nullable? (Marker.ofJson? markerLimit) (d.marker.map Marker.toJson) =
      some d.marker := by
    cases hm : d.marker with
    | none => rfl
    | some m =>
      -- the marker is nested no deeper than the reader allows, so it is read back
      rw [Option.map_some, Json.nullable?_of_ne_null m.toJson_ne_null,
        Marker.ofJson?_toJson (h m hm)]
      rfl
  rw [ofFields?_eq, DeclId.ofJson?_toJson, Json.asText?_ofString, Option.elim_some,
    DeclKind.ofJson?_word, Scope.ofJson?_toJson, hsupertypes, hmarker]
  rfl

/-- A declaration is read back if its marker is. -/
theorem ofJson?_toJson (h : ∀ m, d.marker = some m → m.Within markerLimit) :
    ofJson? d.toJson = some d := by
  have hfields := ofFields?_toJson h
  rw [toJson, ← hfields]
  -- which fields are written depends on whether there are supertypes and a marker
  by_cases hnone : d.supertypes = []
  · cases d.marker with
    | none =>
      rw [if_pos hnone, if_pos hnone]
      exact ofJson?_record rfl rfl rfl rfl rfl rfl
    | some m =>
      rw [if_pos hnone, if_pos hnone]
      exact ofJson?_record rfl rfl rfl rfl rfl rfl
  · cases d.marker with
    | none =>
      rw [if_neg hnone, if_neg hnone]
      exact ofJson?_record rfl rfl rfl rfl rfl rfl
    | some m =>
      rw [if_neg hnone, if_neg hnone]
      exact ofJson?_record rfl rfl rfl rfl rfl rfl

/-- The marker of a declaration that was read is nested no deeper than the reader allows. -/
theorem within_of_ofFields? {id simpleName enclosing : Json} {kind supertypes marker : Option Json}
    (h : ofFields? id simpleName kind enclosing supertypes marker = some d) :
    ∀ m, d.marker = some m → m.Within markerLimit := by
  intro m hm
  simp only [ofFields?_eq, Option.bind_eq_some_iff] at h
  obtain ⟨_, -, _, -, _, -, _, -, _, -, found, hfound, h⟩ := h
  cases h
  have hread : Json.nullable? (Marker.ofJson? markerLimit) marker = some (some m) := hm ▸ hfound
  obtain ⟨value, hvalue⟩ := Json.of_nullable?_eq_some hread
  exact Marker.within_of_ofJson? hvalue

/-- In whatever form a declaration was read, its marker is nested no deeper than the reader
allows. -/
theorem within_of_ofJson? {value : Json} (h : ofJson? value = some d) :
    ∀ m, d.marker = some m → m.Within markerLimit := by
  -- a declaration is read from a record or a list, and the marker from the same reader in both
  unfold ofJson? at h
  split at h
  · simp only [Option.bind_eq_bind, Option.bind_eq_some_iff] at h
    obtain ⟨_, -, _, -, _, -, _, -, _, -, _, -, _, -, h⟩ := h
    exact within_of_ofFields? h
  · exact within_of_ofFields? h
  · exact within_of_ofFields? h
  · exact within_of_ofFields? h
  · cases h

theorem isPlain_toJson (d : Declaration) : Json.IsPlain d.toJson := by
  have hid := d.id.isPlain_toJson
  have hsimpleName := Json.isPlain_ofString d.simpleName
  have hkind := Json.isPlain_ofString d.kind.word
  have henclosing := d.enclosing.isPlain_toJson
  have hsupertypes : Json.IsPlain (.array (d.supertypes.map DeclId.toJson)) :=
    Json.isPlain_array fun ref _ => ref.isPlain_toJson
  apply Json.isPlain_record
  intro field hfield
  -- a field is one of the four that are always written, or that of the supertypes or of the marker
  rcases List.mem_append.mp hfield with hfield | hfield
  · rcases List.mem_append.mp hfield with hfield | hfield
    · simp only [List.mem_cons, List.not_mem_nil, or_false] at hfield
      rcases hfield with rfl | rfl | rfl | rfl <;> assumption
    · split at hfield
      · cases hfield
      · cases List.mem_singleton.mp hfield
        exact hsupertypes
  · split at hfield
    · cases hfield
    · next m _ =>
      cases List.mem_singleton.mp hfield
      exact m.isPlain_toJson

end Declaration

namespace SymbolTable

variable {t : SymbolTable}

/-- Whether the lists in all markers of a table are nested no deeper than a reader allows. -/
def MarkersWithin (t : SymbolTable) : Prop :=
  ∀ d ∈ t.declarations, ∀ m, d.marker = some m → m.Within markerLimit

/-- The values of the fields are read one after another. -/
theorem ofFields?_eq (declarations : Json) (rounds : Option Json) :
    ofFields? declarations rounds =
      (declarations.asListOf? Declaration.ofJson?).bind fun declarations =>
      (Json.nullable? (Json.asListOf? (Json.asListOf? DeclId.ofJson?)) rounds).bind fun rounds =>
        some ⟨declarations, rounds⟩ := by
  unfold ofFields?
  rcases rounds with _ | (_ | _ | _ | _ | _ | _) <;> rfl

theorem markersWithin_of_ofFields? {declarations : Json} {rounds : Option Json}
    (h : ofFields? declarations rounds = some t) : t.MarkersWithin := by
  simp only [ofFields?_eq, Option.bind_eq_some_iff] at h
  obtain ⟨ds, hds, _, -, h⟩ := h
  cases h
  intro d hd
  cases declarations with
  | array items =>
    obtain ⟨value, -, hvalue⟩ := exists_of_mem_mapM hds hd
    exact Declaration.within_of_ofJson? hvalue
  | _ => cases hds

/-- A table that was read has no marker that is nested too deep. -/
theorem markersWithin_of_ofText? {text : String} (h : ofText? text = some t) :
    t.MarkersWithin := by
  obtain ⟨value, -, h⟩ := Option.bind_eq_some_iff.mp h
  unfold ofJson? at h
  split at h
  · simp only [Option.bind_eq_bind, Option.bind_eq_some_iff] at h
    obtain ⟨_, -, _, -, _, -, h⟩ := h
    exact markersWithin_of_ofFields? h
  · exact markersWithin_of_ofFields? h
  · exact markersWithin_of_ofFields? h
  · cases h

theorem ofJson?_record {fields : List (String × Json)} {declarations : Json} {rounds : Option Json}
    (hdeclarations : Json.requiredField? fields "declarations" = some declarations)
    (hrounds : Json.optionalField? fields "rounds" = some rounds) :
    ofJson? (.record fields) = ofFields? declarations rounds := by
  simp only [Json.record, ofJson?, Json.namedFields?_record, hdeclarations, hrounds,
    Option.bind_eq_bind, Option.bind_some]

theorem ofJson?_toJson (h : t.MarkersWithin) : ofJson? t.toJson = some t := by
  have hdeclarations : Json.asListOf? Declaration.ofJson?
      (.array (t.declarations.map Declaration.toJson)) = some t.declarations :=
    Json.asListOf?_map fun d hd => Declaration.ofJson?_toJson (h d hd)
  have hrounds : ∀ rounds : List (List DeclId), Json.asListOf? (Json.asListOf? DeclId.ofJson?)
      (.array (rounds.map fun ids => .array (ids.map DeclId.toJson))) = some rounds :=
    fun rounds => Json.asListOf?_map fun ids _ => Json.asListOf?_map fun id _ => id.ofJson?_toJson
  rcases t with ⟨ds, _ | rounds⟩
  · rw [toJson, ofJson?_record rfl rfl, ofFields?_eq, hdeclarations]
    rfl
  · rw [toJson, ofJson?_record rfl rfl, ofFields?_eq, hdeclarations,
      Json.nullable?_of_ne_null Json.noConfusion, hrounds]
    rfl

theorem isPlain_toJson (t : SymbolTable) : Json.IsPlain t.toJson := by
  have hdeclarations : Json.IsPlain (.array (t.declarations.map Declaration.toJson)) :=
    Json.isPlain_array fun d _ => d.isPlain_toJson
  have hrounds : ∀ rounds : List (List DeclId),
      Json.IsPlain (.array (rounds.map fun ids => .array (ids.map DeclId.toJson))) :=
    fun rounds => Json.isPlain_array fun ids _ => Json.isPlain_array fun id _ => id.isPlain_toJson
  apply Json.isPlain_record
  intro field hfield
  rcases List.mem_cons.mp hfield with rfl | hfield
  · exact hdeclarations
  · split at hfield
    · cases hfield
    · next rounds _ =>
      cases List.mem_singleton.mp hfield
      exact hrounds rounds

/-- A table whose markers are nested no deeper than a reader allows is read back from its text. -/
theorem ofText?_toText (h : t.MarkersWithin) : ofText? t.toText = some t := by
  have htext : t.toText.toList = Json.print 0 t.toJson ++ ['\n'] := by
    rw [toText, Json.toText, String.toList_append, String.toList_ofList]
    rfl
  rw [ofText?, Json.ofText?, htext, Json.ofChars?_print t.isPlain_toJson rfl, Option.bind_some,
    ofJson?_toJson h]

/-- The tables that can be read at all are those whose markers are not nested too deep. -/
theorem exists_text_iff : (∃ text, ofText? text = some t) ↔ t.MarkersWithin := by
  constructor
  · rintro ⟨text, h⟩
    exact markersWithin_of_ofText? h
  · intro h
    exact ⟨t.toText, ofText?_toText h⟩

/-! ## Main statement -/

/-- A table that was read from any text is read back, equal in all its parts, from the text that is
written for it; so a reloaded table is written as the same text again. Whenever the table is saved
to a file, whatever the path and whatever stands in the tree, that file has this text and loads as
the table. -/
theorem ofText?_toText_of_read {text : String} (h : ofText? text = some t) :
    ofText? t.toText = some t ∧
      (∀ u, ofText? t.toText = some u → u = t ∧ u.toText = t.toText) ∧
      ∀ path files files', save FileTree.fileSystem path t files = (.ok (), files') →
        files'.read path = .ok (Utf8.encode t.toText) ∧
          load FileTree.fileSystem path files' = (.ok t, files') := by
  -- being read from some text is being nested no deeper than the reader allows
  have hread : ofText? t.toText = some t := ofText?_toText (exists_text_iff.mp ⟨text, h⟩)
  constructor
  · exact hread
  constructor
  · intro u hu
    rw [hread] at hu
    cases hu
    exact ⟨rfl, rfl⟩
  · intro path files files' hsave
    have hfile : files'.read path = .ok (Utf8.encode t.toText) :=
      FileTree.read_back_of_writeWithFolders hsave
    exact ⟨hfile, load_of_read hfile hread⟩

/-- A table with a name that needs escapes, a repeated identifier, a marker that is nested in uneven
ways and empty rounds. -/
def unevenTable : SymbolTable where
  declarations :=
    [⟨⟨"S"⟩, "Gr\"\\\t\u0001é𝄞", .interfaceType, .topLevel "", [], none⟩,
      ⟨⟨"S"⟩, "Again", .enumType, .nested ⟨"S"⟩, [⟨"T"⟩, ⟨"T"⟩],
        some (.list [.list [.ref ⟨"S"⟩, .list []], .ref ⟨"S"⟩])⟩]
  rounds := some [[], [⟨"S"⟩, ⟨"ghost"⟩], []]

/-- The same table in another form is read, saved to a folder that does not exist and loaded
again. -/
theorem ofText?_toText_of_read_uneven :
    let text := "[[[\"S\",\"Gr\\\"\\\\\\t\\u0001\\u00e9\\ud834\\udd1e\",\"interface\",
        \x7b\"namespace\":\"\"\x7d],
      \x7b\"marker\":[[\"S\",[]],\"S\"],\"kind\":\x7b\"enum\":null\x7d,\"supertypes\":[\"T\",\"T\"],
        \"id\":\"S\",\"other\":[1e9],\"simple_name\":\"Again\",
        \"enclosing\":\x7b\"declaration\":\"S\"\x7d\x7d], [[],[\"S\",\"ghost\"],[]]]"
    let files : FileTree := ⟨["home"], [(["home"], .folder)]⟩
    let saved := save FileTree.fileSystem "a/./b.json" unevenTable files
    ofText? text = some unevenTable ∧ ofText? unevenTable.toText = some unevenTable ∧
      saved.1 = .ok () ∧
      load FileTree.fileSystem "a/./b.json" saved.2 = (.ok unevenTable, saved.2) := by
  intro text files saved
  -- that the text is read is computed; that it is saved and loaded again is the theorem
  have hread : ofText? text = some unevenTable := by decide +kernel
  have hok : saved.1 = .ok () := by decide +kernel
  obtain ⟨htext, -, hload⟩ := ofText?_toText_of_read hread
  have hsaved : saved = (.ok (), saved.2) := Prod.ext hok rfl
  exact ⟨hread, htext, hok, (hload "a/./b.json" files saved.2 hsaved).2⟩

end SymbolTable

end ServiceCatalog
