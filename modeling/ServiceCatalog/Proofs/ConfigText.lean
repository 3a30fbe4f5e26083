import ServiceCatalog.Config
import ServiceCatalog.Proofs.FileTrees
import ServiceCatalog.Proofs.TomlText

/-!
# Reading back configurations

A configuration is written as a line for each section and each field. Every line reads back as the
statement that it stands for, the statements add up to one table, and the table holds the four
values that were written. What the environment would put in for a missing field plays no part,
since no field is missing.

* `Toml.Reads`: what it means for a value to be read back in front of a line break, with
  `reads_printText` and `reads_printBool`;
* `Toml.readStatements_header`, `readStatements_assign`, `readStatements_newline`: one line after
  another;
* `Config.ofText?_toText`: the text of a configuration denotes that configuration;
* `Config.ofFile_of_save`: what is saved to a file is loaded from it.
-/

namespace ServiceCatalog

namespace Toml

variable {build : List (List String × Value) → Option Entries} {fuel : Nat} {name : String}
  {cs rest written : List Char} {value : Value}

/-! ## Values -/

/-- Whether a value is read back from what is written for it, if a line break follows. -/
structure Reads (written : List Char) (value : Value) : Prop where
  start : ∀ c ∈ written.head?, isSpace c = false
  read : ∀ build fuel depth rest,
    readValue build (fuel + 1) depth (written ++ '\n' :: rest) = some (value, '\n' :: rest)

theorem reads_printText (text : String) : Reads (printText text.toList) (.string text) := by
  rcases printText_start text.toList with ⟨quote, tail, hstart, hquote⟩
  -- no text is written with a first character that another value could begin with
  constructor
  · intro c hc
    rw [hstart] at hc
    cases hc
    rcases hquote with rfl | rfl <;> rfl
  · intro build fuel depth rest
    have hread : readString? (printText text.toList ++ '\n' :: rest) =
        some (text.toList, '\n' :: rest) :=
      readString?_printText rfl rfl
    rw [hstart, List.cons_append] at hread ⊢
    rcases hquote with rfl | rfl <;>
      simp only [readValue, hread, Option.map_some, String.ofList_toList]

theorem reads_printBool (b : Bool) : Reads (printBool b).toList (.boolean b) := by
  constructor
  · intro c hc
    cases b <;> cases hc <;> rfl
  · intro build fuel depth rest
    cases b <;> rfl

/-! ## Keys -/

/-- Whether a name may be a key without quotes. -/
def IsBareKey (name : String) : Prop := name ≠ "" ∧ name.toList.all isBare = true

instance (name : String) : Decidable (IsBareKey name) :=
  inferInstanceAs (Decidable (name ≠ "" ∧ name.toList.all isBare = true))

theorem IsBareKey.isBare_of_mem (h : IsBareKey name) : ∀ c ∈ name.toList, isBare c = true :=
  List.all_eq_true.mp h.2

theorem skipSpace_of_start {c : Char} (h : isSpace c = false) (cs : List Char) :
    skipSpace (c :: cs) = c :: cs :=
  List.dropWhile_cons_of_neg (by rw [h]; exact Bool.false_ne_true)

theorem ne_of_isBare {c d : Char} (h : isBare c = true) (hd : isBare d = false) : c ≠ d := by
  rintro rfl
  rw [h] at hd
  cases hd

theorem isSpace_of_isBare {c : Char} (h : isBare c = true) : isSpace c = false := by
  rw [isSpace, Bool.or_eq_false_iff, beq_eq_false_iff_ne, beq_eq_false_iff_ne]
  exact ⟨ne_of_isBare h rfl, ne_of_isBare h rfl⟩

theorem IsBareKey.exists_start (h : IsBareKey name) :
    ∃ c tail, name.toList = c :: tail ∧ isBare c = true := by
  cases hname : name.toList with
  | nil => exact absurd (String.toList_eq_nil_iff.mp hname) h.1
  | cons c tail => exact ⟨c, tail, rfl, h.isBare_of_mem c (hname ▸ List.mem_cons_self)⟩

theorem IsBareKey.skipSpace_append (h : IsBareKey name) (rest : List Char) :
    skipSpace (name.toList ++ rest) = name.toList ++ rest := by
  rcases h.exists_start with ⟨c, tail, hname, hc⟩
  rw [hname]
  exact skipSpace_of_start (isSpace_of_isBare hc) (tail ++ rest)

theorem IsBareKey.skipGap_append (h : IsBareKey name) (rest : List Char) :
    skipGap false (name.toList ++ rest) = some (name.toList ++ rest) := by
  rcases h.exists_start with ⟨c, tail, hname, hc⟩
  -- the first character is neither a line end nor a blank nor a comment sign, so nothing is skipped
  have hfeed : c ≠ '\n' := ne_of_isBare hc rfl
  have hreturn : ¬ (c = '\r' ∧ feedFollows (tail ++ rest) = true) :=
    fun hboth => ne_of_isBare hc rfl hboth.1
  have hspace : ¬ isSpace c = true := by
    rw [isSpace_of_isBare hc]
    exact Bool.false_ne_true
  have hcomment : c ≠ '#' := ne_of_isBare hc rfl
  rw [hname, List.cons_append, skipGap, if_neg hfeed, if_neg hreturn, if_neg Bool.false_ne_true,
    if_neg hspace, if_neg hcomment]

/-- A key without quotes is read up to the first character that may not be part of one. -/
theorem readKeys_bare (h : IsBareKey name) {c d : Char} {after tail : List Char}
    (hstop : isBare d = false) (hafter : skipSpace (d :: after) = c :: tail) (hdot : c ≠ '.') :
    readKeys (name.toList ++ d :: after) = some ([name], c :: tail) := by
  have hstop' : ¬ isBare d = true := by
    rw [hstop]
    exact Bool.false_ne_true
  -- the name is taken as a whole, since the character after it may not be part of a key
  have htake : (name.toList ++ d :: after).takeWhile isBare = name.toList := by
    rw [List.takeWhile_append_of_pos h.isBare_of_mem, List.takeWhile_cons_of_neg hstop',
      List.append_nil]
  have hdrop : (name.toList ++ d :: after).dropWhile isBare = d :: after := by
    rw [List.dropWhile_append_of_pos h.isBare_of_mem, List.dropWhile_cons_of_neg hstop']
  have hpart : readKeyPart (name.toList ++ d :: after) = some (name, d :: after) := by
    rw [readKeyPart, htake, hdrop]
    split
    · next hnil => exact absurd (String.toList_eq_nil_iff.mp hnil) h.1
    · rw [String.ofList_toList]
  rw [readKeys, nestingLimit, readKeyParts, h.skipSpace_append, hpart]
  -- after the name and the blanks stands no dot, so the key has one part
  simp only [Option.bind_eq_bind, Option.bind_some, hafter]
  split
  · next heq =>
    cases heq
    exact absurd rfl hdot
  · rfl

/-! ## Lines -/

/-- The line of a header, and what follows it. -/
def headerLine (name : String) (rest : List Char) : List Char :=
  '[' :: (name.toList ++ ']' :: '\n' :: rest)

/-- The line of an assignment, and what follows it. -/
def assignLine (name : String) (written rest : List Char) : List Char :=
  name.toList ++ ' ' :: '=' :: ' ' :: (written ++ '\n' :: rest)

theorem readStatement_header (h : IsBareKey name) (rest : List Char) :
    readStatement build (headerLine name rest) = some (.header [name], '\n' :: rest) := by
  have hkeys : readKeys (name.toList ++ ']' :: '\n' :: rest) =
      some ([name], ']' :: '\n' :: rest) :=
    readKeys_bare h rfl (skipSpace_of_start rfl _) (by decide)
  rw [headerLine, readStatement]
  · rw [hkeys]
    rfl
  · -- a bare name does not begin with a bracket, so this is no header of an array
    intro rest' heq
    rcases h.exists_start with ⟨c, tail, hname, hc⟩
    rw [hname] at heq
    exact ne_of_isBare hc rfl (List.cons_eq_cons.mp heq).1

theorem readStatement_assign (h : IsBareKey name) (hvalue : Reads written value)
    (rest : List Char) :
    readStatement build (assignLine name written rest) =
      some (.assign [name] value, '\n' :: rest) := by
  have hkeys : readKeys (assignLine name written rest) =
      some ([name], '=' :: ' ' :: (written ++ '\n' :: rest)) :=
    readKeys_bare h rfl rfl (by decide)
  have hspace : skipSpace (' ' :: (written ++ '\n' :: rest)) = written ++ '\n' :: rest := by
    have hstart := hvalue.start
    cases written with
    | nil => rfl
    | cons c tail => exact skipSpace_of_start (hstart c rfl) (tail ++ '\n' :: rest)
  -- a key does not open a header
  have hbracket : ∀ rest', assignLine name written rest ≠ '[' :: rest' := by
    intro rest' heq
    rcases h.exists_start with ⟨c, tail, hname, hc⟩
    rw [assignLine, hname] at heq
    exact ne_of_isBare hc rfl (List.cons_eq_cons.mp heq).1
  rw [readStatement]
  · rw [hkeys]
    simp only [Option.bind_eq_bind, Option.bind_some, afterEquals, hspace, hvalue.read]
  · exact fun rest' => hbracket ('[' :: rest')
  · exact hbracket

/-- What a line says comes before what the other lines say. -/
theorem readStatements_line {statement : Statement} (hgap : skipGap false cs = some cs)
    (hread : readStatement build cs = some (statement, '\n' :: rest)) :
    readStatements build (fuel + 1) cs = (readStatements build fuel rest).map (statement :: ·) := by
  have hend : readLineEnd ('\n' :: rest) = some rest := rfl
  cases cs with
  | nil => cases hread
  | cons c cs =>
    rw [readStatements, hgap]
    simp only [Option.bind_eq_bind, Option.bind_some, hread, hend]
    cases readStatements build fuel rest <;> rfl

theorem readStatements_header (h : IsBareKey name) (rest : List Char) :
    readStatements build (fuel + 1) (headerLine name rest) =
      (readStatements build fuel rest).map (.header [name] :: ·) :=
  readStatements_line rfl (readStatement_header h rest)

theorem readStatements_assign (h : IsBareKey name) (hvalue : Reads written value)
    (rest : List Char) :
    readStatements build (fuel + 1) (assignLine name written rest) =
      (readStatements build fuel rest).map (.assign [name] value :: ·) :=
  readStatements_line (h.skipGap_append _) (readStatement_assign h hvalue rest)

/-- An empty line says nothing. -/
theorem readStatements_newline (build : List (List String × Value) → Option Entries) (fuel : Nat)
    (cs : List Char) : readStatements build fuel ('\n' :: cs) = readStatements build fuel cs := by
  cases fuel with
  | zero => rfl
  | succ fuel => rw [readStatements, readStatements, skipGap, if_pos rfl]

end Toml

namespace Config

open Toml in
/-- The characters of a configuration, line by line. -/
theorem toList_toText (c : Config) :
    c.toText.toList =
      headerLine "processor" (
        assignLine "verify" (printBool c.options.verify).toList (
        assignLine "debug" (printBool c.options.debug).toList (
        '\n' :: headerLine "output" (
        assignLine "class_output" (printText c.classOutput.toList) (
        '\n' :: headerLine "logging" (
        assignLine "level" (printText c.logLevel.toList) [])))))) := by
  -- an equation for the text would evaluate its literals
  delta toText
  simp only [printString, String.toList_append, String.toList_ofList, List.append_assoc]
  rfl

/-! ## What the lines say -/

/-- What the lines of a configuration say. -/
def statements (c : Config) : List Toml.Statement :=
  [.header ["processor"], .assign ["verify"] (.boolean c.options.verify),
    .assign ["debug"] (.boolean c.options.debug),
    .header ["output"], .assign ["class_output"] (.string c.classOutput),
    .header ["logging"], .assign ["level"] (.string c.logLevel)]

/-- What they add up to. -/
def table (c : Config) : Toml.Entries :=
  [("processor", .table .header
      [("verify", .boolean c.options.verify), ("debug", .boolean c.options.debug)]),
    ("output", .table .header [("class_output", .string c.classOutput)]),
    ("logging", .table .header [("level", .string c.logLevel)])]

open Toml in
theorem readStatements_toText (build : List (List String × Value) → Option Entries) (fuel : Nat)
    (c : Config) : readStatements build (fuel + 8) c.toText.toList = some c.statements := by
  rw [toList_toText, readStatements_header (by decide),
    readStatements_assign (by decide) (reads_printBool _),
    readStatements_assign (by decide) (reads_printBool _), readStatements_newline,
    readStatements_header (by decide), readStatements_assign (by decide) (reads_printText _),
    readStatements_newline, readStatements_header (by decide),
    readStatements_assign (by decide) (reads_printText _)]
  rfl

theorem buildDocument_statements (c : Config) :
    Toml.buildDocument c.statements [] [] = some c.table := rfl

theorem ofToml?_table (env : Environment) (c : Config) : ofToml? env c.table = some c := rfl

theorem toml_ofText?_toText (c : Config) : Toml.ofText? c.toText = some c.table := by
  -- the first line begins with a bracket, not with a mark for the encoding
  have hmark : Toml.dropMark c.toText.toList = c.toText.toList := by
    rw [toList_toText]
    rfl
  -- there are more characters than lines
  have hlong : 8 ≤ c.toText.toList.length + 1 := by
    have hname : "processor".toList.length = 9 := rfl
    rw [toList_toText, Toml.headerLine, List.length_cons, List.length_append, hname]
    omega
  obtain ⟨fuel, hfuel⟩ : ∃ fuel, c.toText.toList.length + 1 = fuel + 8 :=
    ⟨_, (Nat.sub_add_cancel hlong).symm⟩
  rw [Toml.ofText?]
  simp only [hmark, hfuel, readStatements_toText, Option.bind_eq_bind, Option.bind_some]
  exact buildDocument_statements c

/-- The text of a configuration denotes it in every environment. -/
theorem ofText?_toText (env : Environment) (c : Config) : ofText? env c.toText = some c := by
  rw [ofText?, toml_ofText?_toText, Option.bind_some, ofToml?_table]

/-! ## Files -/

theorem ofFile_of_read {path text : String} {files : FileTree} {env : Environment} {c : Config}
    (hread : files.read path = .ok (Utf8.encode text)) (htext : ofText? env text = some c) :
    ofFile FileTree.fileSystem env path files = (.ok c, files) := by
  simp only [ofFile, bind_apply, FileTree.readText_of_read hread, pure_apply, htext]

theorem read_of_save {path : String} {files files' : FileTree} {c : Config}
    (h : save FileTree.fileSystem path c files = (.ok (), files')) :
    files'.read path = .ok (Utf8.encode c.toText) := by
  -- writing is one step, and what was written is read back
  apply FileTree.read_back_of_write_run (t := files)
  rw [save, bind_apply] at h
  rcases hrun : FileTree.fileSystem.write path (Utf8.encode c.toText) files with ⟨fault | _, saved⟩
  · rw [hrun] at h
    cases h
  · rw [hrun] at h
    cases h
    rfl

/-- A configuration, whatever its two texts are made of, is read back from the text that is written
for it, with the same four values in every environment. Whenever it is saved to a file, whatever the
path and whatever stands in the tree, that file has this text, and the configuration is loaded from
it. -/
theorem ofFile_of_save (env : Environment) (c : Config) :
    ofText? env c.toText = some c ∧
      ∀ path files files', save FileTree.fileSystem path c files = (.ok (), files') →
        files'.read path = .ok (Utf8.encode c.toText) ∧
          ofFile FileTree.fileSystem env path files' = (.ok c, files') := by
  refine ⟨ofText?_toText env c, ?_⟩
  intro path files files' hsave
  exact ⟨read_of_save hsave, ofFile_of_read (read_of_save hsave) (ofText?_toText env c)⟩

/-- A text with control characters and runs of both quotes needs escapes over several lines. One
with a backslash, which ends with a quote, is written without escapes between three quotes. -/
theorem ofFile_of_save_awkward :
    let c : Config := ⟨⟨false, true⟩, "\n\"\"\"'''\\\r\t\x01é", "'\"\"\\'"⟩
    let env : Environment := ⟨none, none, none, "home"⟩
    let files : FileTree := ⟨["home"], [(["home"], .folder)]⟩
    let saved := save FileTree.fileSystem "a.toml" c files
    c.toText = "[processor]\nverify = false\ndebug = true\n\n[output]\nclass_output = \"\"\"\n\n" ++
        "\"\"\\\"'''\\\\\\r\\t\\u0001é\"\"\"\n\n[logging]\nlevel = ''''\"\"\\''''\n" ∧
      saved.1 = .ok () ∧ ofFile FileTree.fileSystem env "a.toml" saved.2 = (.ok c, saved.2) := by
  intro c env files saved
  -- the file is written by running the model; loading it is the theorem
  have hok : saved.1 = .ok () := by decide +kernel
  have hsaved : saved = (.ok (), saved.2) := Prod.ext hok rfl
  obtain ⟨-, hload⟩ := ofFile_of_save env c
  exact ⟨by decide +kernel, hok, (hload "a.toml" files saved.2 hsaved).2⟩

end Config

end ServiceCatalog
