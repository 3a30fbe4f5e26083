import ServiceCatalog.Json.Printer
import ServiceCatalog.Json.Reader

/-!
# Reading what was printed

A value that holds no numbers, and no strings but those that denote texts, is read back from what is
printed of it, at whatever depth it stands and whatever comes after it. The blanks that are printed
between its parts make no difference to the reader.

* `readString_printUnits`: strings are read back, character by character;
* `Reads`: what it means for a value to be read back, with `reads_text`, `reads_array` and
  `reads_object` for each kind of value;
* `ofChars?_print`: the text of a plain value denotes that value.
-/

namespace ServiceCatalog.Json

variable {depth outer fuel : Nat} {cs rest : List Char}

/-! ## Blanks -/

theorem skipSpace_of_start {c : Char} (h : isSpace c = false) :
    skipSpace (c :: cs) = c :: cs := by
  rw [skipSpace, List.dropWhile_cons_of_neg]
  rw [h]
  exact Bool.false_ne_true

/-- A line break and the blanks after it are skipped. -/
theorem skipSpace_newline (depth : Nat) (cs : List Char) :
    skipSpace (newline depth ++ cs) = skipSpace cs := by
  have hspace : ∀ c ∈ newline depth, isSpace c = true := by
    intro c hc
    rcases List.mem_cons.mp hc with rfl | hblank
    · rfl
    · rw [List.eq_of_mem_replicate hblank]
      rfl
  exact List.dropWhile_append_of_pos hspace

theorem skipSpace_newline_of_start {c : Char} (h : isSpace c = false) :
    skipSpace (newline depth ++ c :: cs) = c :: cs := by
  rw [skipSpace_newline, skipSpace_of_start h]

/-- A reader takes no notice of the blanks in front of a value. -/
theorem readValue_of_skipSpace {cs' : List Char} (h : skipSpace cs = skipSpace cs') (fuel : Nat) :
    readValue fuel cs = readValue fuel cs' := by
  cases fuel with
  | zero => rfl
  | succ fuel => rw [readValue, readValue, h]

theorem readItems_newline (fuel depth : Nat) (cs : List Char) :
    readItems fuel (newline depth ++ cs) = readItems fuel cs := by
  cases fuel with
  | zero => rfl
  | succ fuel => rw [readItems, readItems, readValue_of_skipSpace (skipSpace_newline depth cs)]

theorem readFields_newline (fuel depth : Nat) (cs : List Char) :
    readFields fuel (newline depth ++ cs) = readFields fuel cs := by
  cases fuel with
  | zero => rfl
  | succ fuel => rw [readFields, readFields, skipSpace_newline]

/-! ## Strings -/

/-- A string that starts with a one-letter escape. -/
theorem readString_simpleEscape {e c : Char} (h : simpleEscape? e = some c) (rest : List Char) :
    readString ('\\' :: e :: rest) =
      (readString rest).map fun (units, rest) => (.char c :: units, rest) := by
  -- the letter of the escape is not that of a code
  have he : e ≠ 'u' := by
    rintro rfl
    cases h
  rw [readString]
  · rw [h]
    cases readString rest <;> rfl
  · intro _ _ _ _ _ hu _
    exact he hu

/-- A string that starts with the escape of a control character. -/
theorem readString_hexEscape {n : Nat} (h : n < 0x20) (rest : List Char) :
    readString ('\\' :: 'u' :: Text.hexPadded 4 n ++ rest) =
      (readString rest).map fun (units, rest) => (.char (Char.ofNat n) :: units, rest) := by
  have hnumber : Text.hexNumber? (Text.hexPadded 4 n) = some n :=
    Text.hexNumber?_hexPadded (Nat.lt_trans h (by decide))
  -- the code of a control character is no half of a pair
  have hunit : unitOfCode n = .char (Char.ofNat n) := if_neg (by omega)
  simp only [Text.hexPadded, List.nil_append, List.cons_append] at hnumber ⊢
  rw [readString, hnumber]
  cases readString rest with
  | none => rfl
  | some read =>
    simp only [hunit]
    rfl

/-- A string that starts with a character that stands for itself. -/
theorem readString_plain {c : Char} (hquote : c ≠ '"') (hslash : c ≠ '\\')
    (hcontrol : ¬ c.toNat < 0x20) (rest : List Char) :
    readString (c :: rest) =
      (readString rest).map fun (units, rest) => (.char c :: units, rest) := by
  have hgood : ¬ (c = '\\' ∨ c.toNat < 0x20) := not_or.mpr ⟨hslash, hcontrol⟩
  rw [readString]
  · rw [if_neg hgood]
    cases readString rest <;> rfl
  · exact hquote
  · intro _ _ _ _ _ h _
    exact hslash h
  · intro _ _ h _
    exact hslash h

/-- A character is read back from its written form, whether it is escaped or not. -/
theorem readString_printUnit (c : Char) (rest : List Char) :
    readString (printUnit (.char c) ++ rest) =
      (readString rest).map fun (units, rest) => (.char c :: units, rest) := by
  -- one case for each escape, in the order in which they are tried
  rw [printUnit]
  split
  · next h =>
    rw [h]
    exact readString_simpleEscape rfl rest
  next hquote =>
  split
  · next h =>
    rw [h]
    exact readString_simpleEscape rfl rest
  next hslash =>
  split
  · next h =>
    rw [h]
    exact readString_simpleEscape rfl rest
  split
  · next h =>
    rw [h]
    exact readString_simpleEscape rfl rest
  split
  · next h =>
    rw [h]
    exact readString_simpleEscape rfl rest
  split
  · next h =>
    rw [h]
    exact readString_simpleEscape rfl rest
  split
  · next h =>
    rw [h]
    exact readString_simpleEscape rfl rest
  split
  · next h =>
    have hescape := readString_hexEscape h rest
    rwa [Char.ofNat_toNat] at hescape
  · next hcontrol => exact readString_plain hquote hslash hcontrol rest

/-- A string is read back up to its closing quote. -/
theorem readString_printUnits (text : List Char) (rest : List Char) :
    readString ((text.map JsonUnit.char).flatMap printUnit ++ '"' :: rest) =
      some (text.map .char, rest) := by
  induction text with
  | nil => rfl
  | cons c text ih =>
    rw [List.map_cons, List.flatMap_cons, List.append_assoc, readString_printUnit, ih]
    rfl

/-! ## Values -/

/-- Whether a value is null or a truth value, or a string that denotes a text, or put together from
such values. -/
inductive IsPlain : Json → Prop where
  | null : IsPlain .null
  | boolean (b : Bool) : IsPlain (.boolean b)
  | text (s : String) : IsPlain (.string (JsonUnit.ofText s))
  | array {items : List Json} : (∀ item ∈ items, IsPlain item) → IsPlain (.array items)
  | object {fields : List (List JsonUnit × Json)} :
    (∀ field ∈ fields, ∃ s, field.1 = JsonUnit.ofText s) →
      (∀ field ∈ fields, IsPlain field.2) → IsPlain (.object fields)

/-- A plain value starts with a character that is no blank and closes nothing. -/
theorem IsPlain.exists_start {value : Json} (h : IsPlain value) (depth : Nat) :
    ∃ c cs, print depth value = c :: cs ∧ isSpace c = false ∧ c ≠ ']' := by
  cases h with
  | null => exact ⟨_, _, rfl, rfl, by decide⟩
  | boolean b => cases b <;> exact ⟨_, _, rfl, rfl, by decide⟩
  | text s => exact ⟨_, _, rfl, rfl, by decide⟩
  | @array items _ => cases items <;> exact ⟨_, _, rfl, rfl, by decide⟩
  | @object fields _ _ => cases fields <;> exact ⟨_, _, rfl, rfl, by decide⟩

/-- Whether a value is read back from what is printed of it, with as many calls as characters. -/
def Reads (value : Json) : Prop :=
  ∀ depth fuel rest, (print depth value).length ≤ fuel →
    readValue fuel (print depth value ++ rest) = some (value, rest)

/-- The items of an array are read back one after another if each of them is. -/
theorem readItems_print {item : Json} {items : List Json} (hitem : Reads item)
    (hitems : ∀ item ∈ items, Reads item)
    (hfuel : (print depth item).length + (printItems depth items).length < fuel) :
    readItems fuel
      (print depth item ++ (printItems depth items ++ (newline outer ++ ']' :: rest))) =
      some (item :: items, rest) := by
  -- the induction is on the items that follow; the fuel is enough for the text that is left
  induction items generalizing item fuel with
  | nil =>
    obtain _ | fuel := fuel
    · exact absurd hfuel (Nat.not_lt_zero _)
    have hread := hitem depth fuel (newline outer ++ ']' :: rest) (by omega)
    rw [readItems, printItems, List.nil_append, hread]
    simp only [Option.bind_eq_bind, Option.bind_some,
      skipSpace_newline_of_start (c := ']') rfl]
  | cons next items ih =>
    obtain _ | fuel := fuel
    · exact absurd hfuel (Nat.not_lt_zero _)
    rcases List.forall_mem_cons.mp hitems with ⟨hnext, hitems⟩
    -- between two items stand a comma and the start of a new line
    have hmore : printItems depth (next :: items) ++ (newline outer ++ ']' :: rest) =
        ',' :: (newline depth ++ (print depth next ++ (printItems depth items ++
          (newline outer ++ ']' :: rest)))) := by
      simp only [printItems, List.cons_append, List.append_assoc]
    have hlength : (printItems depth (next :: items)).length =
        1 + (newline depth).length + (print depth next).length +
          (printItems depth items).length := by
      simp only [printItems, List.cons_append, List.length_cons, List.length_append]
      omega
    have hread := hitem depth fuel
      (printItems depth (next :: items) ++ (newline outer ++ ']' :: rest)) (by omega)
    rw [readItems, hread, hmore]
    simp only [Option.bind_eq_bind, Option.bind_some,
      skipSpace_of_start (c := ',') rfl, readItems_newline]
    rw [ih hnext hitems (by omega)]
    rfl

/-- A name that is read up to its closing quote. -/
theorem readString_printString (text : String) (rest : List Char) :
    ∃ cs, printString (JsonUnit.ofText text) ++ rest = '"' :: cs ∧
      readString cs = some (JsonUnit.ofText text, rest) := by
  refine ⟨(JsonUnit.ofText text).flatMap printUnit ++ '"' :: rest, ?_, ?_⟩
  · simp only [printString, List.cons_append, List.append_assoc, List.nil_append]
  · exact readString_printUnits text.toList rest

/-- A field is read back if its value is, and what comes after it is read next. -/
theorem readFields_field {name : List JsonUnit} {value : Json}
    (hname : ∃ s, name = JsonUnit.ofText s) (hvalue : Reads value)
    (hfuel : (print depth value).length ≤ fuel) (rest : List Char) :
    readFields (fuel + 1) (printString name ++ ':' :: ' ' :: (print depth value ++ rest)) =
      match skipSpace rest with
      | ',' :: rest => do
        let (fields, rest) ← readFields fuel rest
        some ((name, value) :: fields, rest)
      | '\x7d' :: rest => some ([(name, value)], rest)
      | _ => none := by
  obtain ⟨s, rfl⟩ := hname
  obtain ⟨cs, hprint, hstring⟩ :=
    readString_printString s (':' :: ' ' :: (print depth value ++ rest))
  have hblank : skipSpace (' ' :: (print depth value ++ rest)) =
      skipSpace (print depth value ++ rest) := rfl
  have hread : readValue fuel (' ' :: (print depth value ++ rest)) = some (value, rest) := by
    rw [readValue_of_skipSpace hblank, hvalue depth fuel rest hfuel]
  rw [readFields, hprint, skipSpace_of_start rfl]
  simp only [hstring, Option.bind_eq_bind, Option.bind_some, skipSpace_of_start (c := ':') rfl]
  rw [hread]
  rfl

/-- The fields of an object are read back one after another if their values are. -/
theorem readFields_print {name : List JsonUnit} {value : Json}
    {fields : List (List JsonUnit × Json)} (hname : ∃ s, name = JsonUnit.ofText s)
    (hvalue : Reads value) (hnames : ∀ field ∈ fields, ∃ s, field.1 = JsonUnit.ofText s)
    (hvalues : ∀ field ∈ fields, Reads field.2)
    (hfuel : (print depth value).length + (printFields depth fields).length < fuel) :
    readFields fuel (printString name ++ ':' :: ' ' ::
      (print depth value ++ (printFields depth fields ++ (newline outer ++ '\x7d' :: rest)))) =
        some ((name, value) :: fields, rest) := by
  -- the induction is on the fields that follow, as for the items of an array
  induction fields generalizing name value fuel with
  | nil =>
    obtain _ | fuel := fuel
    · exact absurd hfuel (Nat.not_lt_zero _)
    rw [readFields_field hname hvalue (by omega), printFields, List.nil_append,
      skipSpace_newline_of_start (c := '\x7d') rfl]
    rfl
  | cons next fields ih =>
    obtain _ | fuel := fuel
    · exact absurd hfuel (Nat.not_lt_zero _)
    obtain ⟨nextName, nextValue⟩ := next
    rcases List.forall_mem_cons.mp hnames with ⟨hnext, hnames⟩
    rcases List.forall_mem_cons.mp hvalues with ⟨hnextValue, hvalues⟩
    have hread : Reads nextValue := hnextValue
    have hmore : printFields depth ((nextName, nextValue) :: fields) ++
        (newline outer ++ '\x7d' :: rest) =
          ',' :: (newline depth ++ (printString nextName ++ ':' :: ' ' ::
            (print depth nextValue ++ (printFields depth fields ++
              (newline outer ++ '\x7d' :: rest))))) := by
      simp only [printFields, List.cons_append, List.nil_append, List.append_assoc]
    have hlength : (printFields depth ((nextName, nextValue) :: fields)).length =
        3 + (newline depth).length + (printString nextName).length +
          (print depth nextValue).length + (printFields depth fields).length := by
      simp only [printFields, List.cons_append, List.length_cons, List.length_append,
        List.length_nil]
      omega
    rw [readFields_field hname hvalue (by omega), hmore, skipSpace_of_start rfl]
    simp only [readFields_newline]
    rw [ih hnext hread hnames hvalues (by omega)]
    rfl

/-! ## Values put together -/

theorem reads_text (s : String) : Reads (.string (JsonUnit.ofText s)) := by
  intro depth fuel rest hfuel
  obtain _ | fuel := fuel
  · cases hfuel
  obtain ⟨cs, hprint, hstring⟩ := readString_printString s rest
  rw [print, hprint, readValue, skipSpace_of_start rfl]
  simp only [hstring, Option.map_some]

/-- An array is read back if its items are. The first of them does not look like its end. -/
theorem reads_array {items : List Json} (hplain : ∀ item ∈ items, IsPlain item)
    (hitems : ∀ item ∈ items, Reads item) : Reads (.array items) := by
  intro depth fuel rest hfuel
  cases items with
  | nil =>
    obtain _ | fuel := fuel
    · cases hfuel
    · rfl
  | cons item items =>
    let after := printItems (depth + 1) items ++ (newline depth ++ ']' :: rest)
    have hprint : print depth (.array (item :: items)) ++ rest =
        '[' :: (newline (depth + 1) ++ (print (depth + 1) item ++ after)) := by
      simp only [print, after, List.cons_append, List.nil_append, List.append_assoc]
    have hlength : (print depth (.array (item :: items))).length =
        2 + (newline (depth + 1)).length + (print (depth + 1) item).length +
          (printItems (depth + 1) items).length + (newline depth).length := by
      simp only [print, List.length_append, List.length_cons, List.length_nil]
      omega
    obtain _ | fuel := fuel
    · omega
    obtain ⟨c, cs, hstart, hspace, hclose⟩ :=
      (hplain item List.mem_cons_self).exists_start (depth + 1)
    have hskip : skipSpace (newline (depth + 1) ++ (print (depth + 1) item ++ after)) =
        print (depth + 1) item ++ after := by
      rw [hstart, List.cons_append, skipSpace_newline_of_start hspace]
    rcases List.forall_mem_cons.mp hitems with ⟨hitem, hitems⟩
    rw [hprint, readValue, skipSpace_of_start rfl]
    simp only [hskip]
    -- an array ends at once only if it has no items
    split
    · next hend =>
      rw [hstart] at hend
      exact absurd (List.cons.inj hend).1 hclose
    · rw [readItems_print hitem hitems (by omega)]
      rfl

/-- An object is read back if the values of its fields are. -/
theorem reads_object {fields : List (List JsonUnit × Json)}
    (hnames : ∀ field ∈ fields, ∃ s, field.1 = JsonUnit.ofText s)
    (hvalues : ∀ field ∈ fields, Reads field.2) : Reads (.object fields) := by
  intro depth fuel rest hfuel
  cases fields with
  | nil =>
    obtain _ | fuel := fuel
    · cases hfuel
    · rfl
  | cons field fields =>
    obtain ⟨name, value⟩ := field
    let after := ':' :: ' ' :: (print (depth + 1) value ++
      (printFields (depth + 1) fields ++ (newline depth ++ '\x7d' :: rest)))
    have hprint : print depth (.object ((name, value) :: fields)) ++ rest =
        '\x7b' :: (newline (depth + 1) ++ (printString name ++ after)) := by
      simp only [print, after, List.cons_append, List.nil_append, List.append_assoc]
    have hlength : (print depth (.object ((name, value) :: fields))).length =
        4 + (newline (depth + 1)).length + (printString name).length +
          (print (depth + 1) value).length + (printFields (depth + 1) fields).length +
            (newline depth).length := by
      simp only [print, List.length_append, List.length_cons, List.length_nil]
      omega
    obtain _ | fuel := fuel
    · omega
    have hskip : skipSpace (newline (depth + 1) ++ (printString name ++ after)) =
        printString name ++ after := skipSpace_newline_of_start (c := '"') rfl
    rcases List.forall_mem_cons.mp hnames with ⟨hname, hnames⟩
    rcases List.forall_mem_cons.mp hvalues with ⟨hvalue, hvalues⟩
    have hread : Reads value := hvalue
    rw [hprint, readValue, skipSpace_of_start rfl]
    simp only [hskip]
    split
    · next hend =>
      -- a name starts with a quote
      cases hend
    · rw [readFields_print hname hread hnames hvalues (by omega)]
      rfl

/-- A plain value is read back from what is printed of it. -/
theorem IsPlain.reads {value : Json} (h : IsPlain value) : Reads value := by
  -- the induction follows the shape of the value, which is printed with a character at least
  induction h with
  | null =>
    intro depth fuel rest hfuel
    obtain _ | fuel := fuel
    · cases hfuel
    · rfl
  | boolean b =>
    intro depth fuel rest hfuel
    obtain _ | fuel := fuel
    · cases b <;> cases hfuel
    · cases b <;> rfl
  | text s => exact reads_text s
  | array hplain ih => exact reads_array hplain ih
  | object hnames hplain ih => exact reads_object hnames ih

/-! ## Texts -/

/-- The text of a plain value denotes that value, with any blanks after it. -/
theorem ofChars?_print {value : Json} (h : IsPlain value) {blanks : List Char}
    (hblanks : skipSpace blanks = []) : ofChars? (print 0 value ++ blanks) = some value := by
  have hfuel : (print 0 value).length ≤ 2 * (print 0 value ++ blanks).length + 2 := by
    rw [List.length_append]
    omega
  rw [ofChars?, h.reads 0 _ blanks hfuel]
  simp only [hblanks, if_true]

end ServiceCatalog.Json
