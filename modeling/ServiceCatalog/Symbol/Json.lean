import ServiceCatalog.Json.Reader
import ServiceCatalog.Json.Printer
import ServiceCatalog.Symbol.Basic

/-!
# Symbol tables as JSON

A table and a declaration are objects with fixed fields, or arrays of the values of these fields in
their order. Fields that are not known are ignored whatever they hold; a known field must not be
repeated. What may be left out has a default, and is left out when a table is written.
-/

namespace ServiceCatalog

/-! ## Reading -/

namespace Json

/-- The text of a string that denotes one. -/
def asText? : Json → Option String
  | .string units => JsonUnit.text? units
  | _ => none

/-- The items of an array, each read in one way. -/
def asListOf? {α : Type} (item? : Json → Option α) : Json → Option (List α)
  | .array items => items.mapM item?
  | _ => none

/-- The fields of an object whose names all denote texts. -/
def namedFields? (fields : List (List JsonUnit × Json)) : Option (List (String × Json)) :=
  fields.mapM fun (name, value) => (JsonUnit.text? name).map fun text => (text, value)

/-- The value of a field that may be missing but must not be repeated. -/
def optionalField? (fields : List (String × Json)) (name : String) : Option (Option Json) :=
  match fields.filter fun field => field.1 = name with
  | [] => some none
  | [(_, value)] => some (some value)
  | _ => none

/-- The value of a field that must be there once. -/
def requiredField? (fields : List (String × Json)) (name : String) : Option Json :=
  (optionalField? fields name).join

end Json

/-- An identifier is written as its text. -/
def DeclId.ofJson? (value : Json) : Option DeclId := value.asText?.map DeclId.mk

/-- The word that a kind of declaration is written as. -/
def DeclKind.word : DeclKind → String
  | .classType => "class"
  | .interfaceType => "interface"
  | .enumType => "enum"
  | .recordType => "record"
  | .annotationType => "annotation"

/-- The kind that a word denotes. -/
def DeclKind.ofWord? (word : String) : Option DeclKind :=
  [DeclKind.classType, .interfaceType, .enumType, .recordType, .annotationType].find?
    fun kind => kind.word = word

/-- A kind is written as its word, or as an object with the word as its only field and null as the
value of it. -/
def DeclKind.ofJson? : Json → Option DeclKind
  | .string units => (JsonUnit.text? units).bind ofWord?
  | .object [(name, .null)] => (JsonUnit.text? name).bind ofWord?
  | _ => none

/-- What encloses a declaration is written as an object with one field. -/
def Scope.ofJson? : Json → Option Scope
  | .object [(name, value)] =>
    match JsonUnit.text? name with
    | some "namespace" => value.asText?.map .topLevel
    | some "declaration" => (DeclId.ofJson? value).map .nested
    | _ => none
  | _ => none

/-- A marker's argument is written as a text, or as a list of arguments. Lists may be nested up to
a depth. -/
def Marker.ofJson? : (depth : Nat) → Json → Option Marker
  | _, .string units => (JsonUnit.text? units).map fun text => .ref ⟨text⟩
  | depth + 1, .array items => (items.mapM (ofJson? depth)).map .list
  | _, _ => none

/-- How deep arrays and objects may be nested in a table, apart from ignored ones. -/
def nestingLimit : Nat := 127

/-- How deep lists may be nested in a declaration's marker: the table, the list of declarations and
the declaration stand around it. -/
def markerLimit : Nat := nestingLimit - 3

/-- A declaration from the values of its fields. -/
def Declaration.ofFields? (id simpleName : Json) (kind : Option Json) (enclosing : Json)
    (supertypes marker : Option Json) : Option Declaration := do
  let id ← DeclId.ofJson? id
  let simpleName ← simpleName.asText?
  let kind ← match kind with
    | none => some .classType
    | some value => DeclKind.ofJson? value
  let enclosing ← Scope.ofJson? enclosing
  let supertypes ← match supertypes with
    | none => some []
    | some value => value.asListOf? DeclId.ofJson?
  let marker ← match marker with
    | none => some none
    | some .null => some none
    | some value => (Marker.ofJson? markerLimit value).map some
  return { id, simpleName, kind, enclosing, supertypes, marker }

/-- Reads a declaration. -/
def Declaration.ofJson? : Json → Option Declaration
  | .object fields => do
    let fields ← Json.namedFields? fields
    Declaration.ofFields? (← Json.requiredField? fields "id")
      (← Json.requiredField? fields "simple_name") (← Json.optionalField? fields "kind")
      (← Json.requiredField? fields "enclosing") (← Json.optionalField? fields "supertypes")
      (← Json.optionalField? fields "marker")
  -- without their names the fields come in order, and the last two may be left out
  | .array [id, simpleName, kind, enclosing] =>
    Declaration.ofFields? id simpleName (some kind) enclosing none none
  | .array [id, simpleName, kind, enclosing, supertypes] =>
    Declaration.ofFields? id simpleName (some kind) enclosing (some supertypes) none
  | .array [id, simpleName, kind, enclosing, supertypes, marker] =>
    Declaration.ofFields? id simpleName (some kind) enclosing (some supertypes) (some marker)
  | _ => none

namespace SymbolTable

/-- A table from the values of its fields. -/
def ofFields? (declarations : Json) (rounds : Option Json) : Option SymbolTable := do
  let declarations ← declarations.asListOf? Declaration.ofJson?
  let rounds ← match rounds with
    | none => some none
    | some .null => some none
    | some value => (value.asListOf? (Json.asListOf? DeclId.ofJson?)).map some
  return { declarations, rounds }

/-- Reads a table. -/
def ofJson? : Json → Option SymbolTable
  | .object fields => do
    let fields ← Json.namedFields? fields
    ofFields? (← Json.requiredField? fields "declarations") (← Json.optionalField? fields "rounds")
  | .array [declarations] => ofFields? declarations none
  | .array [declarations, rounds] => ofFields? declarations (some rounds)
  | _ => none

/-- The table that a text denotes. -/
def ofText? (text : String) : Option SymbolTable := (Json.ofText? text).bind ofJson?

end SymbolTable

/-! ## Writing -/

namespace Json

/-- A text as a JSON string. -/
def ofString (s : String) : Json := .string (JsonUnit.ofText s)

/-- An object from the names and values of its fields. -/
def record (fields : List (String × Json)) : Json :=
  .object (fields.map fun (name, value) => (JsonUnit.ofText name, value))

end Json

/-- An identifier as a JSON string. -/
def DeclId.toJson (id : DeclId) : Json := .ofString id.text

/-- What encloses a declaration, as an object with one field. -/
def Scope.toJson : Scope → Json
  | .topLevel name => .record [("namespace", .ofString name)]
  | .nested outer => .record [("declaration", outer.toJson)]

mutual

/-- A marker's argument as a string or as a nested array. -/
def Marker.toJson : Marker → Json
  | .ref target => target.toJson
  | .list items => .array (Marker.listToJson items)

/-- A list of marker arguments as JSON values. -/
def Marker.listToJson : List Marker → List Json
  | [] => []
  | item :: items => item.toJson :: Marker.listToJson items

end

/-- A declaration as an object. Supertypes are left out when there are none. -/
def Declaration.toJson (d : Declaration) : Json :=
  .record <|
    [("id", d.id.toJson), ("simple_name", .ofString d.simpleName), ("kind", .ofString d.kind.word),
      ("enclosing", d.enclosing.toJson)] ++
    (if d.supertypes = [] then [] else [("supertypes", .array (d.supertypes.map DeclId.toJson))]) ++
    (match d.marker with
      | none => []
      | some marker => [("marker", marker.toJson)])

namespace SymbolTable

/-- A table as an object. -/
def toJson (t : SymbolTable) : Json :=
  .record <|
    ("declarations", .array (t.declarations.map Declaration.toJson)) ::
    (match t.rounds with
      | none => []
      | some rounds => [("rounds", .array (rounds.map fun ids => .array (ids.map DeclId.toJson)))])

/-- The text of a table, which ends with a line break. -/
def toText (t : SymbolTable) : String := t.toJson.toText ++ "\n"

end SymbolTable

end ServiceCatalog
