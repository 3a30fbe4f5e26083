import Mathlib.Data.List.TakeWhile
import ServiceCatalog.Proofs.Utf8
import ServiceCatalog.Service.File

/-!
# Reading and writing the names in a resource

The content that is written for a list of names has one line for each of them, and each line reads
back as its name. Any content that can be read, written by whomever, names what would be fit to
write but for carriage returns: one at the end of a line is dropped, any other stays in its name.

* `lines_writeLines`: the lines of a written content are the encoded names;
* `readEntries?_writeLines_eq`: written names read back as their set;
* `of_readEntries?`: what is known of a name that was read from any content;
* `isEntry_iff_of_read`: a name that was read is fit to be written unless it has a carriage return;
* `writeTo_roundTrip`: writing succeeds exactly for names that read back, and it puts nothing on the
  output if it fails.
-/

namespace ServiceCatalog.Service

/-! ## Names fit for a line -/

theorem isEntry_iff {name : String} :
    isEntry name = true ↔ name ≠ "" ∧ Text.trimBlanks name.toList = name.toList ∧
      ∀ c ∈ name.toList, c ≠ '\n' ∧ c ≠ '\r' ∧ c ≠ '#' := by
  have htrim : Text.trim name = name ↔ Text.trimBlanks name.toList = name.toList := by
    rw [← Text.toList_trim, String.toList_inj]
  simp only [isEntry, Bool.and_eq_true, bne_iff_ne, ne_eq, beq_iff_eq, List.all_eq_true, htrim,
    and_assoc]

theorem badEntry?_eq_none_iff {names : List String} :
    badEntry? names = none ↔ ∀ n ∈ names, isEntry n = true := by
  unfold badEntry?
  simp only [List.find?_eq_none, Bool.not_eq_true', Bool.not_eq_false]

/-- The line of a fit name names it. -/
theorem entryOfLine_toList {name : String} (h : isEntry name = true) :
    entryOfLine name.toList = name.toList := by
  rcases isEntry_iff.mp h with ⟨-, htrim, hchars⟩
  have htake : name.toList.takeWhile (· ≠ '#') = name.toList := by
    rw [List.takeWhile_eq_self_iff]
    intro c hc
    exact decide_eq_true (hchars c hc).2.2
  rw [entryOfLine, htake, htrim]

theorem lineFeed_not_mem_encode {name : String} (h : isEntry name = true) :
    lineFeed ∉ Utf8.encode name := by
  intro hmem
  have hchar : '\n' ∈ name.toList := Utf8.mem_of_mem_encodeChars hmem (by decide) rfl
  exact ((isEntry_iff.mp h).2.2 '\n' hchar).1 rfl

theorem carriageReturn_not_mem_encode {name : String} (h : isEntry name = true) :
    carriageReturn ∉ Utf8.encode name := by
  intro hmem
  have hchar : '\r' ∈ name.toList := Utf8.mem_of_mem_encodeChars hmem (by decide) rfl
  exact ((isEntry_iff.mp h).2.2 '\r' hchar).2.1 rfl

/-! ## Lines -/

theorem dropReturn_of_not_mem {line : Bytes} (h : carriageReturn ∉ line) :
    dropReturn line = line := by
  cases line with
  | nil => rfl
  | cons b bs =>
    rw [dropReturn, if_neg]
    rintro rfl
    exact h List.mem_cons_self

theorem mem_of_mem_dropReturn {b : UInt8} {line : Bytes} (h : b ∈ dropReturn line) : b ∈ line := by
  cases line with
  | nil => exact h
  | cons c line =>
    rw [dropReturn] at h
    split at h
    · exact List.mem_cons_of_mem c h
    · exact h

/-- No line holds a line feed, if the line that is continued holds none. -/
theorem lineFeed_not_mem_of_mem_linesFrom {line bs l : Bytes} (hline : lineFeed ∉ line)
    (h : l ∈ linesFrom line bs) : lineFeed ∉ l := by
  -- the induction is on the bytes, with the part of the line that was read varying
  induction bs generalizing line with
  | nil =>
    rw [linesFrom] at h
    split at h
    · cases h
    · rwa [List.mem_singleton.mp h, List.mem_reverse]
  | cons b bs ih =>
    rw [linesFrom] at h
    split at h
    · rcases List.mem_cons.mp h with rfl | h
      · rw [List.mem_reverse]
        exact fun hmem => hline (mem_of_mem_dropReturn hmem)
      · exact ih List.not_mem_nil h
    · next hb =>
      have hlonger : lineFeed ∉ b :: line := by
        rw [List.mem_cons, not_or]
        exact ⟨fun heq => hb heq.symm, hline⟩
      exact ih hlonger h

/-- Bytes before a line feed belong to the line that it ends. -/
theorem linesFrom_append {bs : Bytes} (h : lineFeed ∉ bs) (line rest : Bytes) :
    linesFrom line (bs ++ lineFeed :: rest) =
      (dropReturn (bs.reverse ++ line)).reverse :: linesFrom [] rest := by
  induction bs generalizing line with
  | nil => rw [List.nil_append, linesFrom, if_pos rfl, List.reverse_nil, List.nil_append]
  | cons b bs ih =>
    have hb : b ≠ lineFeed := by
      rintro rfl
      exact h List.mem_cons_self
    have hbs : lineFeed ∉ bs := by
      intro hmem
      exact h (List.mem_cons_of_mem _ hmem)
    rw [List.cons_append, linesFrom, if_neg hb, ih hbs, List.reverse_cons, List.append_assoc,
      List.singleton_append]

/-- The lines of a written content are the encoded names. -/
theorem lines_writeLines {names : List String} (h : ∀ n ∈ names, isEntry n = true) :
    lines (writeLines names) = names.map Utf8.encode := by
  unfold lines
  induction names with
  | nil => rfl
  | cons n ns ih =>
    rcases List.forall_mem_cons.mp h with ⟨hn, hns⟩
    have hreturn : carriageReturn ∉ (Utf8.encode n).reverse := by
      rw [List.mem_reverse]
      exact carriageReturn_not_mem_encode hn
    have hcons : writeLines (n :: ns) = Utf8.encode n ++ lineFeed :: writeLines ns := by
      simp only [writeLines, List.flatMap_cons, List.append_assoc, List.singleton_append]
    rw [hcons, linesFrom_append (lineFeed_not_mem_encode hn), List.append_nil,
      dropReturn_of_not_mem hreturn, List.reverse_reverse, ih hns, List.map_cons]

/-! ## Reading -/

/-- Encoded names read back one after another. -/
theorem entriesOfLines?_map_encode {names : List String} (h : ∀ n ∈ names, isEntry n = true) :
    entriesOfLines? (names.map Utf8.encode) = some names := by
  induction names with
  | nil => rfl
  | cons n ns ih =>
    rcases List.forall_mem_cons.mp h with ⟨hn, hns⟩
    have hdecode : Utf8.decodeChars? (Utf8.encode n) = some n.toList :=
      Utf8.decodeChars?_encodeChars n.toList
    -- a fit name is not empty, so its line is not passed over
    have hne : n.toList ≠ [] := by
      intro hnil
      exact (isEntry_iff.mp hn).1 (String.toList_eq_nil_iff.mp hnil)
    simp only [List.map_cons, entriesOfLines?, hdecode, ih hns, entryOfLine_toList hn, if_neg hne,
      String.ofList_toList]

/-- Written names read back as their set. -/
theorem readEntries?_writeLines_eq {names : List String} (h : ∀ n ∈ names, isEntry n = true) :
    readEntries? (writeLines names) = some (NameSet.ofList names) := by
  rw [readEntries?, lines_writeLines h, entriesOfLines?_map_encode h, Option.map_some]

/-- A written set of names reads back as that set. -/
theorem readEntries?_writeLines {names : NameSet} (h : ∀ n ∈ names, isEntry n = true) :
    readEntries? (writeLines names.toList) = some names := by
  rw [readEntries?_writeLines_eq h]
  congr 1
  apply NameSet.eq_of_same_members
  intro n
  exact NameSet.mem_ofList

/-! ## Names that were read -/

/-- Every name that was read comes from a line that decodes. -/
theorem of_mem_entriesOfLines? {ls : List Bytes} {names : List String} {n : String}
    (h : entriesOfLines? ls = some names) (hn : n ∈ names) :
    ∃ line ∈ ls, ∃ cs, Utf8.decodeChars? line = some cs ∧ entryOfLine cs ≠ [] ∧
      n = String.ofList (entryOfLine cs) := by
  -- the induction is on the lines; a line that names something comes first or is one of the rest
  induction ls generalizing names with
  | nil =>
    cases h
    cases hn
  | cons line rest ih =>
    have hlater : ∀ {entries}, entriesOfLines? rest = some entries → n ∈ entries →
        ∃ line' ∈ line :: rest, ∃ cs, Utf8.decodeChars? line' = some cs ∧ entryOfLine cs ≠ [] ∧
          n = String.ofList (entryOfLine cs) := by
      intro entries hrest hmem
      rcases ih hrest hmem with ⟨line', hline', hcs⟩
      exact ⟨line', List.mem_cons_of_mem line hline', hcs⟩
    simp only [entriesOfLines?] at h
    split at h
    · cases h
    next cs hcs =>
    split at h
    · cases h
    next entries hrest =>
    split at h
    · cases h
      exact hlater hrest hn
    · next hnonempty =>
      cases h
      rcases List.mem_cons.mp hn with rfl | hn
      · exact ⟨line, List.mem_cons_self, cs, hcs, hnonempty, rfl⟩
      · exact hlater hrest hn

/-- The text of a line without a line feed has none either, since the line is its encoding. -/
theorem lineFeed_not_mem_of_decodeChars? {line : Bytes} {cs : List Char} (h : lineFeed ∉ line)
    (hcs : Utf8.decodeChars? line = some cs) : '\n' ∉ cs := by
  intro hmem
  rw [Utf8.decodeChars?_eq_some_iff.mp hcs] at h
  exact h (List.mem_flatMap.mpr ⟨'\n', hmem, by decide⟩)

/-- A name that was read is not empty, is trimmed and holds neither a line feed nor the sign that
begins a comment. -/
theorem of_readEntries? {content : Bytes} {names : NameSet} {n : String}
    (h : readEntries? content = some names) (hn : n ∈ names) :
    n ≠ "" ∧ Text.trimBlanks n.toList = n.toList ∧ '\n' ∉ n.toList ∧ '#' ∉ n.toList := by
  rcases Option.map_eq_some_iff.mp h with ⟨entries, hentries, rfl⟩
  rcases of_mem_entriesOfLines? hentries (NameSet.mem_ofList.mp hn) with
    ⟨line, hline, cs, hcs, hnonempty, rfl⟩
  rw [String.toList_ofList]
  refine ⟨?_, Text.trimBlanks_trimBlanks _, ?_, ?_⟩
  · rwa [Ne, ← String.toList_eq_nil_iff, String.toList_ofList]
  · -- a line feed in the name would be a byte of its line
    intro hmem
    have hchar : '\n' ∈ cs :=
      (List.takeWhile_prefix _).subset (Text.mem_of_mem_trimBlanks hmem)
    have hfeed : lineFeed ∉ line := lineFeed_not_mem_of_mem_linesFrom List.not_mem_nil hline
    exact lineFeed_not_mem_of_decodeChars? hfeed hcs hchar
  · intro hmem
    have hbefore := List.mem_takeWhile_imp (Text.mem_of_mem_trimBlanks hmem)
    exact absurd hbefore (by decide)

/-- A name that was read is fit to be written unless it has a carriage return. -/
theorem isEntry_iff_of_read {content : Bytes} {names : NameSet} {n : String}
    (h : readEntries? content = some names) (hn : n ∈ names) :
    isEntry n = true ↔ '\r' ∉ n.toList := by
  rcases of_readEntries? h hn with ⟨hne, htrim, hfeed, hcomment⟩
  rw [isEntry_iff]
  constructor
  · rintro ⟨-, -, hchars⟩ hmem
    exact (hchars '\r' hmem).2.1 rfl
  · -- a name that was read lacks all that makes a name unfit, but for a carriage return
    intro hreturn
    refine ⟨hne, htrim, ?_⟩
    intro c hc
    refine ⟨?_, ?_, ?_⟩ <;> rintro rfl
    · exact hfeed hc
    · exact hreturn hc
    · exact hcomment hc

/-! ## Writing to an output -/

/-- Line by line, the names are put after what the output held. -/
theorem appendLines_eq (out : Bytes) (names : List String) :
    appendLines out names = out ++ writeLines names := by
  induction names generalizing out with
  | nil => rw [appendLines, writeLines, List.flatMap_nil, List.append_nil]
  | cons n ns ih =>
    rw [appendLines, ih]
    simp only [writeLines, List.flatMap_cons, List.append_assoc]

/-- Writing puts the content with the names on the output, or nothing. -/
theorem writeTo_eq (names : List String) (out : Bytes) :
    writeTo names out =
      match writeEntries names with
      | .error bad => (.error bad, out)
      | .ok content => (.ok (), out ++ content) := by
  unfold writeTo writeEntries
  cases badEntry? names with
  | some bad => rfl
  | none => simp only [appendLines_eq]

/-- A name without a carriage return reads back from its line exactly if it passes the check. -/
theorem readEntries?_singleton_iff {name : String} (hreturn : '\r' ∉ name.toList) :
    readEntries? (Utf8.encode name ++ [lineFeed]) = some (NameSet.ofList [name]) ↔
      badEntry? [name] = none := by
  have hline : Utf8.encode name ++ [lineFeed] = writeLines [name] := by
    simp only [writeLines, List.flatMap_cons, List.flatMap_nil, List.append_nil]
  constructor
  · intro hread
    have hmem : name ∈ NameSet.ofList [name] := NameSet.mem_ofList.mpr List.mem_cons_self
    rw [badEntry?_eq_none_iff]
    intro n hn
    rw [List.mem_singleton.mp hn]
    -- whatever reads back from some content is fit but for carriage returns
    exact (isEntry_iff_of_read hread hmem).mpr hreturn
  · intro hcheck
    rw [hline]
    exact readEntries?_writeLines_eq (badEntry?_eq_none_iff.mp hcheck)

/-- Names are written exactly if all of them pass the check. What is written for them follows what
the output held and reads back as their set; if one does not pass, the output stays as it was and
the first such name is reported. The check rejects no name without a carriage return that would read
back. -/
theorem writeTo_roundTrip (names : List String) (out : Bytes) :
    ((writeTo names out).1 = .ok () ↔ badEntry? names = none) ∧
    ((writeTo names out).1 = .ok () →
      ∃ content, (writeTo names out).2 = out ++ content ∧ writeEntries names = .ok content ∧
        readEntries? content = some (NameSet.ofList names)) ∧
    (∀ bad, (writeTo names out).1 = .error bad →
      (writeTo names out).2 = out ∧ badEntry? names = some bad) ∧
    ∀ name : String, '\r' ∉ name.toList →
      (readEntries? (Utf8.encode name ++ [lineFeed]) = some (NameSet.ofList [name]) ↔
        badEntry? [name] = none) := by
  -- the check decides: all is written, or nothing
  cases hbad : badEntry? names with
  | some first =>
    have hrun : writeTo names out = (.error first, out) := by
      rw [writeTo_eq, writeEntries, hbad]
    rw [hrun]
    refine ⟨by simp, ?_, ?_, fun name => readEntries?_singleton_iff⟩
    · intro hok
      cases hok
    · intro bad herror
      cases herror
      exact ⟨rfl, rfl⟩
  | none =>
    have hcontent : writeEntries names = .ok (writeLines names) := by rw [writeEntries, hbad]
    have hrun : writeTo names out = (.ok (), out ++ writeLines names) := by
      rw [writeTo_eq, hcontent]
    have hfit := badEntry?_eq_none_iff.mp hbad
    rw [hrun]
    refine ⟨by simp, ?_, ?_, fun name => readEntries?_singleton_iff⟩
    · intro _
      exact ⟨writeLines names, rfl, hcontent, readEntries?_writeLines_eq hfit⟩
    · intro bad herror
      cases herror

/-- Two names in any order, one of them twice, follow what the output held and read back as their
set. A name with a comment does not read back, and nothing is written if it is among the names. -/
theorem writeTo_roundTrip_comment :
    (∃ content, (writeTo ["q", "p", "q"] (Utf8.encode "o\n")).2 = Utf8.encode "o\n" ++ content ∧
      readEntries? content = some (NameSet.ofList ["p", "q"])) ∧
    (writeTo ["q", "p # old"] (Utf8.encode "o\n")).2 = Utf8.encode "o\n" ∧
    readEntries? (Utf8.encode "p # old" ++ [lineFeed]) ≠ some (NameSet.ofList ["p # old"]) := by
  rcases writeTo_roundTrip ["q", "p", "q"] (Utf8.encode "o\n") with ⟨-, hok, -⟩
  rcases writeTo_roundTrip ["q", "p # old"] (Utf8.encode "o\n") with ⟨-, -, herror, hexact⟩
  obtain ⟨content, hout, -, hread⟩ := hok rfl
  refine ⟨⟨content, hout, hread⟩, (herror "p # old" rfl).1, ?_⟩
  intro hreads
  exact absurd ((hexact "p # old" (by decide)).mp hreads) (by decide)

end ServiceCatalog.Service
