import ServiceCatalog.Proofs.ServiceFile
import ServiceCatalog.Text.Split

/-!
# Contents of resources, line by line

A content is decoded line by line, but it can be read exactly if it is well-formed as a whole: the
byte that ends a line stands in a well-formed text only for the character that it is, so no line
ends within the bytes of another character. The names are therefore those of the decoded text, split
at its line feeds. The carriage return that is dropped from a line that has ended, and kept in the
last one, is a blank at the end of a line and names nothing.

* `entriesOfText`: the names in a text, without any mention of bytes;
* `entriesOfLines?_linesFrom`, `readEntries?_eq`: what is read from bytes is what their text names;
* `readEntries?_append`: reading what stands before a line feed and what stands after it;
* `readEntries?_intercalate_iff`: what is read depends on the set of lines only;
* `readEntries?_exact`: what a content names, and what makes no difference to it.
-/

namespace ServiceCatalog.Service

/-! ## The names in a text -/

/-- What a line adds to the names. -/
def namesOfLine (cs : List Char) : List String :=
  if entryOfLine cs = [] then [] else [String.ofList (entryOfLine cs)]

/-- The names in a text: those of its parts between line feeds. -/
def entriesOfText (cs : List Char) : List String := (Text.splitAt '\n' cs).flatMap namesOfLine

theorem entriesOfText_of_not_mem {cs : List Char} (h : '\n' ∉ cs) :
    entriesOfText cs = namesOfLine cs := by
  rw [entriesOfText, Text.splitAt_of_not_mem h, List.flatMap_singleton]

theorem entriesOfText_append (cs ds : List Char) :
    entriesOfText (cs ++ '\n' :: ds) = entriesOfText cs ++ entriesOfText ds := by
  rw [entriesOfText, Text.splitAt_append, List.flatMap_append, entriesOfText, entriesOfText]

/-- A carriage return at the end of a line is a blank, or part of a comment. -/
theorem entryOfLine_append_return (cs : List Char) :
    entryOfLine (cs ++ ['\r']) = entryOfLine cs := by
  rw [entryOfLine, entryOfLine, List.takeWhile_append]
  split
  · next hall =>
    -- no comment begins before the carriage return, so it is trimmed off as a blank
    have hself : cs.takeWhile (· ≠ '#') = cs :=
      (List.takeWhile_prefix _).eq_of_length hall
    rw [hself, List.takeWhile_cons_of_pos (by decide), List.takeWhile_nil]
    exact Text.trimBlanks_append_blank cs (by decide)
  · -- a comment begins earlier, and the carriage return is dropped with it
    rfl

theorem namesOfLine_append_return (cs : List Char) :
    namesOfLine (cs ++ ['\r']) = namesOfLine cs := by
  rw [namesOfLine, entryOfLine_append_return, namesOfLine]

/-- A carriage return at the end of a text names nothing. -/
theorem entriesOfText_append_return (cs : List Char) :
    entriesOfText (cs ++ ['\r']) = entriesOfText cs := by
  have hlast : ∀ {ds : List Char}, '\n' ∉ ds → entriesOfText (ds ++ ['\r']) = entriesOfText ds := by
    intro ds hds
    have hlonger : '\n' ∉ ds ++ ['\r'] := by
      rw [List.mem_append, not_or]
      exact ⟨hds, by decide⟩
    rw [entriesOfText_of_not_mem hlonger, entriesOfText_of_not_mem hds, namesOfLine_append_return]
  by_cases hfeed : '\n' ∈ cs
  · -- only the part behind the last line feed is longer
    rcases List.eq_append_cons_of_mem (List.mem_reverse.mpr hfeed) with
      ⟨after, before, hsplit, hafter⟩
    rw [List.reverse_eq_iff, List.reverse_append, List.reverse_cons, List.append_assoc,
      List.singleton_append] at hsplit
    rw [hsplit, List.append_assoc, List.cons_append, entriesOfText_append, entriesOfText_append,
      hlast (by rwa [List.mem_reverse])]
  · exact hlast hfeed

/-! ## Lines of bytes -/

theorem entriesOfLines?_cons (line : Bytes) (rest : List Bytes) :
    entriesOfLines? (line :: rest) =
      (Utf8.decodeChars? line).bind fun cs =>
        (entriesOfLines? rest).map fun entries => namesOfLine cs ++ entries := by
  rw [entriesOfLines?]
  -- a line that is not well-formed fails first, then the rest may; only then is the entry looked at
  cases Utf8.decodeChars? line with
  | none => rfl
  | some cs =>
    cases entriesOfLines? rest with
    | none => rfl
    | some entries =>
      by_cases hempty : entryOfLine cs = []
      · simp only [if_pos hempty, namesOfLine, Option.bind_some, Option.map_some, List.nil_append]
      · simp only [if_neg hempty, namesOfLine, Option.bind_some, Option.map_some,
          List.singleton_append]

/-- The carriage return that is dropped from a line named nothing, and it did not hide an ill-formed
sequence. -/
theorem map_decodeChars?_dropReturn (line : Bytes) :
    (Utf8.decodeChars? (dropReturn line).reverse).map namesOfLine =
      (Utf8.decodeChars? line.reverse).map namesOfLine := by
  cases line with
  | nil => rfl
  | cons b line =>
    rw [dropReturn]
    split
    · next hb =>
      -- a carriage return takes one byte, so what stands before it is well-formed if the whole is
      rw [hb, List.reverse_cons, Utf8.decodeChars?_append_cons (by decide)]
      cases Utf8.decodeChars? line.reverse with
      | none => rfl
      | some cs => exact congrArg some (namesOfLine_append_return cs).symm
    · rfl

/-- What is read line by line from bytes is what their text names, if the bytes are well-formed as a
whole, and it is nothing if they are not. -/
theorem entriesOfLines?_linesFrom {line : Bytes} (h : lineFeed ∉ line) (bs : Bytes) :
    entriesOfLines? (linesFrom line bs) =
      (Utf8.decodeChars? (line.reverse ++ bs)).map entriesOfText := by
  have hreverse : lineFeed ∉ line.reverse := by rwa [List.mem_reverse]
  -- the induction is on the bytes left, with the part of the line that was read varying; it is kept
  -- in reverse and never has a line feed
  induction bs generalizing line with
  | nil =>
    rw [linesFrom, List.append_nil]
    split
    · next hnil =>
      rw [hnil]
      rfl
    · rw [entriesOfLines?_cons, entriesOfLines?]
      cases hcs : Utf8.decodeChars? line.reverse with
      | none => rfl
      | some cs =>
        rw [Option.bind_some, Option.map_some, Option.map_some, List.append_nil,
          entriesOfText_of_not_mem (lineFeed_not_mem_of_decodeChars? hreverse hcs)]
  | cons b bs ih =>
    rw [linesFrom]
    split
    · next hb =>
      -- a line feed closes the line, and the bytes after it begin with an empty one
      have hrest : entriesOfLines? (linesFrom [] bs) =
          (Utf8.decodeChars? bs).map entriesOfText :=
        ih List.not_mem_nil List.not_mem_nil
      rw [hb, entriesOfLines?_cons, hrest, Utf8.decodeChars?_append_cons (by decide)]
      have hdrop := map_decodeChars?_dropReturn line
      cases hcs : Utf8.decodeChars? line.reverse with
      | none =>
        rw [hcs, Option.map_none, Option.map_eq_none_iff] at hdrop
        rw [hdrop]
        rfl
      | some cs =>
        rw [hcs, Option.map_some, Option.map_eq_some_iff] at hdrop
        rcases hdrop with ⟨dropped, hdropped, hnames⟩
        rw [hdropped, Option.bind_some, Option.bind_some, Option.map_map, Option.map_map, hnames,
          ← entriesOfText_of_not_mem (lineFeed_not_mem_of_decodeChars? hreverse hcs)]
        congr 1
        funext ds
        exact (entriesOfText_append cs ds).symm
    · next hb =>
      -- any other byte is part of the line, which still has no line feed
      have hlonger : lineFeed ∉ b :: line := by
        rw [List.mem_cons, not_or]
        exact ⟨fun heq => hb heq.symm, h⟩
      rw [ih hlonger (by rwa [List.mem_reverse]), List.reverse_cons, List.append_assoc,
        List.singleton_append]

/-! ## Whole contents -/

/-- A content names what its text names. -/
theorem readEntries?_eq (content : Bytes) :
    readEntries? content =
      (Utf8.decodeChars? content).map fun cs => NameSet.ofList (entriesOfText cs) := by
  rw [readEntries?, lines, entriesOfLines?_linesFrom List.not_mem_nil, List.reverse_nil,
    List.nil_append, Option.map_map]
  rfl

theorem readEntries?_eq_none_iff {content : Bytes} :
    readEntries? content = none ↔ ¬ content.toByteArray.IsValidUTF8 := by
  rw [readEntries?_eq, Option.map_eq_none_iff, Utf8.isValidUTF8_iff, ← Option.isSome_iff_exists,
    Option.not_isSome_iff_eq_none]

/-- What stands before a line feed and what stands after it are read apart from each other. -/
theorem readEntries?_append (before after : Bytes) :
    readEntries? (before ++ lineFeed :: after) =
      (readEntries? before).bind fun names =>
        (readEntries? after).map fun more => names ∪ more := by
  rw [readEntries?_eq, readEntries?_eq, readEntries?_eq, Utf8.decodeChars?_append_cons (by decide)]
  -- the whole is well-formed if both parts are: one of them may fail
  cases Utf8.decodeChars? before with
  | none => rfl
  | some cs =>
    cases Utf8.decodeChars? after with
    | none => rfl
    | some ds =>
      simp only [Option.bind_some, Option.map_some, Option.some.injEq]
      rw [← NameSet.ofList_append, ← entriesOfText_append]
      rfl

theorem readEntries?_append_eq_some_iff {before after : Bytes} {names : NameSet} :
    readEntries? (before ++ lineFeed :: after) = some names ↔
      ∃ x y, readEntries? before = some x ∧ readEntries? after = some y ∧ names = x ∪ y := by
  rw [readEntries?_append]
  simp only [Option.bind_eq_some_iff, Option.map_eq_some_iff]
  constructor
  · rintro ⟨x, hx, y, hy, rfl⟩
    exact ⟨x, y, hx, hy, rfl⟩
  · rintro ⟨x, y, hx, hy, rfl⟩
    exact ⟨x, hx, y, hy, rfl⟩

theorem readEntries?_append_return (content : Bytes) :
    readEntries? (content ++ [carriageReturn]) = readEntries? content := by
  rw [readEntries?_eq, readEntries?_eq, Utf8.decodeChars?_append_cons (by decide)]
  cases Utf8.decodeChars? content with
  | none => rfl
  | some cs => exact congrArg (some <| NameSet.ofList ·) (entriesOfText_append_return cs)

/-! ## Contents as lists of lines -/

/-- Whether a line names nothing: it has blanks only, or blanks and a comment. -/
def Idle (line : Bytes) : Prop :=
  ∃ blanks comment, line = Utf8.encodeChars (blanks ++ comment) ∧ '\n' ∉ blanks ++ comment ∧
    (∀ c ∈ blanks, Text.isBlank c = true) ∧ ∀ c ∈ comment.head?, c = '#'

theorem Idle.readEntries? {line : Bytes} (h : Idle line) : Service.readEntries? line = some ∅ := by
  rcases h with ⟨blanks, comment, rfl, hfeed, hblanks, hcomment⟩
  -- the comment sign ends the entry, and it is no blank itself
  have hbefore : (blanks ++ comment).takeWhile (· ≠ '#') = blanks := by
    rw [List.takeWhile_append_of_pos]
    · cases comment with
      | nil => rw [List.takeWhile_nil, List.append_nil]
      | cons c text =>
        rw [hcomment c rfl, List.takeWhile_cons_of_neg (by decide), List.append_nil]
    · intro c hc
      rw [decide_eq_true_eq]
      rintro rfl
      exact absurd (hblanks '#' hc) (by decide)
  have hentry : entryOfLine (blanks ++ comment) = [] := by
    rw [entryOfLine, hbefore, Text.trimBlanks_eq_nil hblanks]
  rw [readEntries?_eq, Utf8.decodeChars?_encodeChars, Option.map_some,
    entriesOfText_of_not_mem hfeed, namesOfLine, if_pos hentry]
  rfl

theorem readEntries?_intercalate_cons (line : Bytes) (parts : List Bytes) :
    readEntries? ([lineFeed].intercalate (line :: parts)) =
      (readEntries? line).bind fun names =>
        (readEntries? ([lineFeed].intercalate parts)).map fun more => names ∪ more := by
  cases parts with
  | nil =>
    have hnone : readEntries? [] = some ∅ := rfl
    rw [List.intercalate_singleton, List.intercalate_nil, hnone]
    simp only [Option.map_some, NameSet.union_empty, Option.bind_fun_some]
  | cons next rest =>
    rw [List.intercalate_cons_cons, List.append_assoc, List.singleton_append, readEntries?_append]

theorem readEntries?_intercalate_eq_none_iff {parts : List Bytes} :
    readEntries? ([lineFeed].intercalate parts) = none ↔
      ∃ line ∈ parts, readEntries? line = none := by
  induction parts with
  | nil =>
    have hnone : readEntries? [] = some ∅ := rfl
    simp only [List.intercalate_nil, hnone, reduceCtorEq, List.not_mem_nil, false_and, exists_false]
  | cons line parts ih =>
    simp only [readEntries?_intercalate_cons, List.mem_cons, exists_eq_or_imp, ← ih]
    cases readEntries? line <;> simp

theorem mem_of_readEntries?_intercalate {parts : List Bytes} {names : NameSet} {n : String}
    (h : readEntries? ([lineFeed].intercalate parts) = some names) :
    n ∈ names ↔ ∃ line ∈ parts, ∃ x, readEntries? line = some x ∧ n ∈ x := by
  induction parts generalizing names with
  | nil =>
    cases h
    simp
  | cons line parts ih =>
    rw [readEntries?_intercalate_cons] at h
    rcases Option.bind_eq_some_iff.mp h with ⟨x, hx, hmap⟩
    rcases Option.map_eq_some_iff.mp hmap with ⟨y, hy, rfl⟩
    simp only [NameSet.mem_union, ih hy, List.mem_cons, exists_eq_or_imp, hx, Option.some.injEq,
      exists_eq_left']

/-- What is read depends on the set of lines that are not idle: neither on their order nor on how
often they stand there. -/
theorem readEntries?_intercalate_congr {parts parts' : List Bytes}
    (h : ∀ line, ¬ Idle line → (line ∈ parts ↔ line ∈ parts')) :
    readEntries? ([lineFeed].intercalate parts) = readEntries? ([lineFeed].intercalate parts') := by
  -- what a line that is not idle has, one of the other lines has as well
  have hsame : ∀ {P : Bytes → Prop}, (∀ line, P line → ¬ Idle line) →
      ((∃ line ∈ parts, P line) ↔ ∃ line ∈ parts', P line) := by
    intro P hP
    constructor
    · rintro ⟨line, hmem, hline⟩
      exact ⟨line, (h line (hP line hline)).mp hmem, hline⟩
    · rintro ⟨line, hmem, hline⟩
      exact ⟨line, (h line (hP line hline)).mpr hmem, hline⟩
  have hnone : readEntries? ([lineFeed].intercalate parts) = none ↔
      readEntries? ([lineFeed].intercalate parts') = none := by
    rw [readEntries?_intercalate_eq_none_iff, readEntries?_intercalate_eq_none_iff]
    apply hsame
    -- an idle line can be read, so it is not the one that fails
    intro line hline hidle
    rw [hidle.readEntries?] at hline
    cases hline
  cases hleft : readEntries? ([lineFeed].intercalate parts) with
  | none => exact (hnone.mp hleft).symm
  | some x =>
    cases hright : readEntries? ([lineFeed].intercalate parts') with
    | none =>
      rw [hnone.mpr hright] at hleft
      cases hleft
    | some y =>
      congr 1
      apply NameSet.eq_of_same_members
      intro n
      rw [mem_of_readEntries?_intercalate hleft, mem_of_readEntries?_intercalate hright]
      apply hsame
      -- an idle line names nothing, so the name is from a line of both
      rintro line ⟨x, hx, hn⟩ hidle
      rw [hidle.readEntries?] at hx
      cases hx
      exact NameSet.not_mem_empty n hn

/-! ## What a content names -/

/-- A content cannot be read exactly if it is not valid UTF-8 as a whole. The names around a line
feed are those before it and those after it. Hence neither the order of the lines, nor lines that
are repeated or idle, nor a line feed at the end, nor carriage returns at the ends of lines make a
difference. Every name that is read is not empty, is trimmed, and holds neither a line feed nor the
sign that begins a comment. -/
theorem readEntries?_exact :
    (∀ content, readEntries? content = none ↔ ¬ content.toByteArray.IsValidUTF8) ∧
    (∀ before after names, readEntries? (before ++ lineFeed :: after) = some names ↔
      ∃ x y, readEntries? before = some x ∧ readEntries? after = some y ∧ names = x ∪ y) ∧
    (∀ parts parts' : List Bytes, (∀ line, ¬ Idle line → (line ∈ parts ↔ line ∈ parts')) →
      readEntries? ([lineFeed].intercalate parts) = readEntries? ([lineFeed].intercalate parts')) ∧
    (∀ content, readEntries? (content ++ [lineFeed]) = readEntries? content) ∧
    (∀ before after, readEntries? (before ++ carriageReturn :: lineFeed :: after) =
      readEntries? (before ++ lineFeed :: after)) ∧
    (∀ content, readEntries? (content ++ [carriageReturn]) = readEntries? content) ∧
    ∀ content names, readEntries? content = some names → ∀ n ∈ names,
      n ≠ "" ∧ Text.trimBlanks n.toList = n.toList ∧ '\n' ∉ n.toList ∧ '#' ∉ n.toList := by
  refine ⟨fun content => readEntries?_eq_none_iff,
    fun before after names => readEntries?_append_eq_some_iff,
    fun parts parts' => readEntries?_intercalate_congr, ?_, ?_, readEntries?_append_return,
    fun content names h n => of_readEntries? h⟩
  · intro content
    -- what stands after the last line feed is empty
    have hnone : readEntries? [] = some ∅ := rfl
    rw [readEntries?_append, hnone]
    simp only [Option.map_some, NameSet.union_empty, Option.bind_fun_some]
  · intro before after
    have hreturn : before ++ carriageReturn :: lineFeed :: after =
        (before ++ [carriageReturn]) ++ lineFeed :: after := by
      rw [List.append_assoc, List.singleton_append]
    rw [hreturn, readEntries?_append, readEntries?_append_return, readEntries?_append]

/-- A repeated line and a comment make no difference, and neither does a carriage return at the end
of a line. A line feed between the two bytes of an accented letter leaves bytes that are not valid
UTF-8. -/
theorem readEntries?_exact_repeated :
    readEntries? ([lineFeed].intercalate
        [Utf8.encode "b", Utf8.encode " #c", Utf8.encode "a", Utf8.encode "b"]) =
      readEntries? ([lineFeed].intercalate [Utf8.encode "a", Utf8.encode "b"]) ∧
    readEntries? (Utf8.encode "b\r\na") = some (NameSet.ofList ["a", "b"]) ∧
    ¬ ([0xC3, lineFeed, 0xA9] : Bytes).toByteArray.IsValidUTF8 := by
  rcases readEntries?_exact with ⟨hvalid, -, hlines, -, hreturn, -, -⟩
  refine ⟨hlines _ _ ?_, ?_, (hvalid _).mp (by decide)⟩
  · intro line hline
    have hcomment : Idle (Utf8.encode " #c") :=
      ⟨[' '], ['#', 'c'], rfl, by decide, List.forall_mem_singleton.mpr rfl,
        fun c hc => (Option.some.inj hc).symm⟩
    -- the two lists of lines differ in the comment, in order and in repetition
    have hne : line ≠ Utf8.encode " #c" := by
      rintro rfl
      exact hline hcomment
    simp only [List.mem_cons, List.not_mem_nil, or_false, hne, false_or]
    rw [or_left_comm, or_self]
  · exact (hreturn (Utf8.encode "b") (Utf8.encode "a")).trans (by decide)

end ServiceCatalog.Service
