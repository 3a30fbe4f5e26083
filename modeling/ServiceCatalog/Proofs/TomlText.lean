import Mathlib.Data.List.TakeWhile
import ServiceCatalog.Toml.Printer
import ServiceCatalog.Toml.Strings

/-!
# Reading back strings in TOML

A text is written in one of five forms, and each of them is read back as the text. Between single
delimiters no quote stands without an escape. Between three of them up to two quotes in a row may,
and the reader must not take them for the end of the string: a run of quotes that is followed by
anything else is too short to end it, and a run at the end of the text gives back those that stand
before the last three.

* `close?_delimiter`, `close?_eq_none`: where a string ends and where it does not;
* `escapeText_run`, `literal_run`: the quotes at the start of a written text either are the whole of
  it or are too few to end it;
* `readBasic_escapeText`, `readLiteral_append`: the two kinds of strings are read up to their
  delimiters;
* `readString?_printText`: whichever form is chosen for a text, it is read back as that text.
-/

namespace ServiceCatalog.Toml

variable {block : Bool} {quote c d : Char} {cs rest : List Char} {bare : Nat}

/-! ## Runs of a character -/

/-- The length of the run of a character at the start of a text. -/
def leadingRun (c : Char) (cs : List Char) : Nat := (cs.takeWhile (· = c)).length

theorem leadingRun_cons (c d : Char) (cs : List Char) :
    leadingRun c (d :: cs) = if d = c then leadingRun c cs + 1 else 0 := by
  rw [leadingRun, List.takeWhile_cons]
  by_cases h : d = c
  · rw [if_pos (decide_eq_true h), if_pos h, List.length_cons, leadingRun]
  · rw [if_neg (by simpa using h), if_neg h, List.length_nil]

@[simp] theorem leadingRun_cons_self (c : Char) (cs : List Char) :
    leadingRun c (c :: cs) = leadingRun c cs + 1 := by
  rw [leadingRun_cons, if_pos rfl]

theorem leadingRun_cons_of_ne (h : d ≠ c) (cs : List Char) : leadingRun c (d :: cs) = 0 := by
  rw [leadingRun_cons, if_neg h]

theorem leadingRun_replicate_append (c : Char) (k : Nat) (cs : List Char) :
    leadingRun c (List.replicate k c ++ cs) = k + leadingRun c cs := by
  induction k with
  | zero => rw [List.replicate_zero, List.nil_append, Nat.zero_add]
  | succ k ih =>
    rw [List.replicate_succ, List.cons_append, leadingRun_cons_self, ih]
    omega

theorem leadingRun_replicate (c : Char) (k : Nat) : leadingRun c (List.replicate k c) = k := by
  have h := leadingRun_replicate_append c k []
  rwa [List.append_nil] at h

theorem longestRunFrom_mono {run run' : Nat} (h : run ≤ run') :
    longestRunFrom c run cs ≤ longestRunFrom c run' cs := by
  induction cs generalizing run run' with
  | nil => exact h
  | cons d cs ih =>
    rw [longestRunFrom, longestRunFrom]
    split
    · exact ih (Nat.add_le_add_right h 1)
    · omega

/-- A run in the rest of a text is a run in the text. -/
theorem longestRun_le_cons (c d : Char) (cs : List Char) :
    longestRun c cs ≤ longestRun c (d :: cs) := by
  rw [longestRun, longestRun, longestRunFrom]
  split
  · exact longestRunFrom_mono (Nat.zero_le 1)
  · exact Nat.le_max_right 0 _

theorem add_leadingRun_le_longestRunFrom (c : Char) (run : Nat) (cs : List Char) :
    run + leadingRun c cs ≤ longestRunFrom c run cs := by
  induction cs generalizing run with
  | nil => exact Nat.le_refl run
  | cons d cs ih =>
    rw [longestRunFrom, leadingRun_cons]
    split
    · have hmore := ih (run + 1)
      omega
    · omega

/-- The run at the start of a text is no longer than the longest one. -/
theorem leadingRun_le_longestRun (c : Char) (cs : List Char) :
    leadingRun c cs ≤ longestRun c cs := by
  have h := add_leadingRun_le_longestRunFrom c 0 cs
  rwa [Nat.zero_add] at h

/-! ## The end of a string -/

/-- The quotes that stand before and after a text. -/
def delimiter (block : Bool) (quote : Char) : List Char :=
  List.replicate (if block then 3 else 1) quote

/-- How many quotes in a row are part of a text without an escape. -/
def bareLimit (block : Bool) : Nat := if block then 2 else 0

/-- Quotes that are too few are not taken for the end of a string. -/
theorem close?_eq_none (h : leadingRun quote cs ≤ bareLimit block) :
    close? block quote cs = none := by
  -- a block needs three quotes to end, a line needs one
  cases block with
  | true =>
    have hfew : min (leadingRun quote cs) 5 < 3 := by
      have hlimit : bareLimit true = 2 := rfl
      omega
    exact if_pos hfew
  | false =>
    cases cs with
    | nil => rfl
    | cons c cs =>
      have hc : c ≠ quote := by
        rintro rfl
        rw [leadingRun_cons_self] at h
        exact absurd h (Nat.not_succ_le_zero _)
      exact if_neg hc

theorem close?_of_ne (h : c ≠ quote) : close? block quote (c :: rest) = none := by
  apply close?_eq_none
  rw [leadingRun_cons_of_ne h]
  exact Nat.zero_le _

/-- Quotes before the delimiter belong to the text. -/
theorem close?_delimiter {k : Nat} (hk : k ≤ bareLimit block) (hrest : leadingRun quote rest = 0) :
    close? block quote (List.replicate k quote ++ (delimiter block quote ++ rest)) =
      some (List.replicate k quote, rest) := by
  cases block with
  | false =>
    obtain rfl : k = 0 := Nat.le_zero.mp hk
    exact if_pos rfl
  | true =>
    -- the quotes of the text and those of the delimiter make up one run
    have hquotes : List.replicate k quote ++ (delimiter true quote ++ rest) =
        List.replicate (k + 3) quote ++ rest := by
      rw [← List.replicate_append_replicate, List.append_assoc]
      rfl
    have hrun : min (leadingRun quote (List.replicate (k + 3) quote ++ rest)) 5 = k + 3 := by
      have hlimit : bareLimit true = 2 := rfl
      rw [leadingRun_replicate_append, hrest]
      omega
    have hclose : close? true quote (List.replicate (k + 3) quote ++ rest) =
        closeBlock? quote (List.replicate (k + 3) quote ++ rest) := rfl
    rw [hquotes, hclose, closeBlock?]
    rw [leadingRun] at hrun
    simp only [hrun]
    rw [if_neg (by omega), Nat.add_sub_cancel, List.drop_left' List.length_replicate]

/-! ## Characters of basic strings -/

theorem readBasic_text (block : Bool) (c : Char) (rest : List Char) :
    readBasic block .text (c :: rest) =
      match close? block '"' (c :: rest) with
      | some ending => some ending
      | none =>
        if c = '\\' then readBasic block .escape rest
        else if standsForItself block c rest then
          (readBasic block .text rest).map fun (text, rest) => (c :: text, rest)
        else none := by
  rw [readBasic]
  · rfl
  · intro h
    cases h
  · intro _ _ h
    cases h
  · intro h
    cases h

theorem readBasic_of_close {ending : List Char × List Char}
    (h : close? block '"' cs = some ending) : readBasic block .text cs = some ending := by
  cases cs with
  | nil => cases block <;> cases h
  | cons c cs => rw [readBasic_text, h]

theorem readBasic_backslash (block : Bool) (rest : List Char) :
    readBasic block .text ('\\' :: rest) = readBasic block .escape rest := by
  rw [readBasic_text, close?_of_ne (by decide)]
  exact if_pos rfl

/-- A character that stands for itself and does not end the string. -/
theorem readBasic_plain (hopen : close? block '"' (c :: rest) = none) (hc : c ≠ '\\')
    (h : standsForItself block c rest = true) :
    readBasic block .text (c :: rest) =
      (readBasic block .text rest).map fun (text, rest) => (c :: text, rest) := by
  rw [readBasic_text, hopen]
  exact (if_neg hc).trans (if_pos h)

theorem readBasic_simpleEscape (h : simpleEscape? d = some c) (rest : List Char) :
    readBasic block .text ('\\' :: d :: rest) =
      (readBasic block .text rest).map fun (text, rest) => (c :: text, rest) := by
  have hletter : d ≠ 'x' ∧ d ≠ 'u' ∧ d ≠ 'U' := by
    refine ⟨?_, ?_, ?_⟩ <;> rintro rfl <;> cases h
  rw [readBasic_backslash, readBasic, if_neg hletter.1, if_neg hletter.2.1, if_neg hletter.2.2, h]

/-- A digit of an escape that is not its last one. -/
theorem readBasic_digit {n missing value : Nat} (h : Text.hexValue? d = some n)
    (hmissing : 1 < missing) (rest : List Char) :
    readBasic block (.code missing value) (d :: rest) =
      readBasic block (.code (missing - 1) (value * 16 + n)) rest := by
  rw [readBasic, h]
  exact if_pos hmissing

theorem readBasic_lastDigit {n value : Nat} (h : Text.hexValue? d = some n)
    (hvalid : (value * 16 + n).isValidChar) (rest : List Char) :
    readBasic block (.code 1 value) (d :: rest) =
      (readBasic block .text rest).map fun (text, rest) =>
        (Char.ofNat (value * 16 + n) :: text, rest) := by
  rw [readBasic, h]
  exact (if_neg (Nat.lt_irrefl 1)).trans (if_pos hvalid)

/-- Digits of escapes are written in upper case. -/
theorem hexValue?_toUpper_hexDigit {n : Nat} (h : n < 16) :
    Text.hexValue? (Text.hexDigit n).toUpper = some n := by
  have hall : ∀ n < 16, Text.hexValue? (Text.hexDigit n).toUpper = some n := by decide
  exact hall n h

theorem readBasic_hexEscape (h : c.toNat < 0x10000) (rest : List Char) :
    readBasic block .text ('\\' :: 'u' :: (Text.hexPadded 4 c.toNat).map Char.toUpper ++ rest) =
      (readBasic block .text rest).map fun (text, rest) => (c :: text, rest) := by
  generalize hn : c.toNat = n at h
  have hcode : (((0 * 16 + n / 16 / 16 / 16 % 16) * 16 + n / 16 / 16 % 16) * 16 +
      n / 16 % 16) * 16 + n % 16 = n := by omega
  have hvalid : n.isValidChar := hn ▸ c.valid
  have hchar : Char.ofNat n = c := by rw [← hn, Char.ofNat_toNat]
  have hdigit : ∀ m, Text.hexValue? (Text.hexDigit (m % 16)).toUpper = some (m % 16) :=
    fun m => hexValue?_toUpper_hexDigit (Nat.mod_lt m (by decide))
  have hescape : ∀ cs, readBasic block .escape ('u' :: cs) = readBasic block (.code 4 0) cs :=
    fun cs => by rw [readBasic, if_neg (by decide), if_pos rfl]
  simp only [Text.hexPadded, List.nil_append, List.cons_append, List.map_cons, List.map_nil]
  rw [readBasic_backslash, hescape, readBasic_digit (hdigit _) (by decide),
    readBasic_digit (hdigit _) (by decide), readBasic_digit (hdigit _) (by decide),
    readBasic_lastDigit (hdigit _) (hcode.symm ▸ hvalid), hcode, hchar]

/-! ## Texts in basic strings -/

/-- What needs no escape may stand for itself. -/
theorem standsForItself_of_not_isControl (h : isControl c = false)
    (hbreak : c = '\n' → block = true) (rest : List Char) :
    standsForItself block c rest = true := by
  -- a line feed stands for itself in a block; any other character is text if it is no control
  by_cases hfeed : c = '\n'
  · rw [hfeed, hbreak hfeed]
    rfl
  have htext : isText c = true := by
    by_cases htab : c = '\t'
    · rw [htab]
      rfl
    · have hrange : ¬ c.toNat < 0x20 ∧ c.toNat ≠ 0x7F := by
        simpa [isControl, htab, hfeed] using h
      simp only [isText, Bool.or_eq_true, Bool.and_eq_true, decide_eq_true_eq, bne_iff_ne, ne_eq]
      exact .inr ⟨by omega, hrange.2⟩
  rw [standsForItself, htext, Bool.true_or]

/-- A character is written as an escape of one letter or of four digits, or it stands for itself. -/
theorem escapeChar_cases (block : Bool) (c : Char) :
    (∃ d, simpleEscape? d = some c ∧ escapeChar block c = ['\\', d]) ∨
      (c.toNat < 0x10000 ∧
        escapeChar block c = '\\' :: 'u' :: (Text.hexPadded 4 c.toNat).map Char.toUpper) ∨
      escapeChar block c = [c] ∧ c ≠ '\\' ∧ isControl c = false ∧ (c = '\n' → block = true) := by
  -- one case for each escape, in the order in which they are tried
  unfold escapeChar
  split
  · next h => exact .inl ⟨'b', congrArg some h.symm, rfl⟩
  split
  · next h => exact .inl ⟨'t', congrArg some h.symm, rfl⟩
  split
  · next h =>
    subst h
    cases block with
    | false => exact .inl ⟨'n', rfl, rfl⟩
    | true => exact .inr (.inr ⟨rfl, by decide, rfl, fun _ => rfl⟩)
  next hbreak =>
  split
  · next h => exact .inl ⟨'f', congrArg some h.symm, rfl⟩
  split
  · next h => exact .inl ⟨'r', congrArg some h.symm, rfl⟩
  split
  · next h => exact .inl ⟨'\\', congrArg some h.symm, rfl⟩
  next hslash =>
  split
  · next hcontrol =>
    have hlow : c.toNat < 0x20 ∨ c.toNat = 0x7F := by
      simp only [isControl, Bool.and_eq_true, Bool.or_eq_true, decide_eq_true_eq, beq_iff_eq]
        at hcontrol
      exact hcontrol.2
    exact .inr (.inl ⟨by omega, rfl⟩)
  · next hcontrol =>
    exact .inr (.inr ⟨rfl, hslash, Bool.eq_false_iff.mpr hcontrol, fun h => absurd h hbreak⟩)

/-- What is written for a character starts with a backslash, or with the character itself if that is
no control character. -/
theorem escapeChar_start (block : Bool) (c : Char) :
    ∃ d tail, escapeChar block c = d :: tail ∧ (d = '\\' ∨ d = c ∧ isControl c = false) := by
  rcases escapeChar_cases block c with ⟨d, -, h⟩ | ⟨-, h⟩ | ⟨h, -, hcontrol, -⟩
  · exact ⟨_, _, h, .inl rfl⟩
  · exact ⟨_, _, h, .inl rfl⟩
  · exact ⟨_, _, h, .inr ⟨rfl, hcontrol⟩⟩

/-- A character other than the quote is read back from its written form. -/
theorem readBasic_escapeChar (hquote : c ≠ '"') (rest : List Char) :
    readBasic block .text (escapeChar block c ++ rest) =
      (readBasic block .text rest).map fun (text, rest) => (c :: text, rest) := by
  -- an escape of one letter, one of four digits, or the character itself
  rcases escapeChar_cases block c with ⟨d, hd, h⟩ | ⟨hlow, h⟩ | ⟨h, hslash, hcontrol, hbreak⟩
  · rw [h]
    exact readBasic_simpleEscape hd rest
  · rw [h]
    exact readBasic_hexEscape hlow rest
  · rw [h]
    exact readBasic_plain (close?_of_ne hquote) hslash
      (standsForItself_of_not_isControl hcontrol hbreak rest)

theorem escapeText_bare (block : Bool) (bare : Nat) (cs : List Char) :
    escapeText block (bare + 1) ('"' :: cs) = '"' :: escapeText block bare cs := rfl

theorem escapeText_quote (block : Bool) (cs : List Char) :
    escapeText block 0 ('"' :: cs) = '\\' :: '"' :: escapeText block (bareLimit block) cs := rfl

theorem escapeText_of_ne (hquote : c ≠ '"') (block : Bool) (bare : Nat) (cs : List Char) :
    escapeText block bare (c :: cs) =
      escapeChar block c ++ escapeText block (bareLimit block) cs := by
  rw [escapeText, if_neg hquote]
  rfl

theorem escapeText_replicate {k : Nat} (h : k ≤ bare) :
    escapeText block bare (List.replicate k '"') = List.replicate k '"' := by
  induction k generalizing bare with
  | zero => rfl
  | succ k ih =>
    obtain _ | bare := bare
    · exact absurd h (Nat.not_succ_le_zero k)
    rw [List.replicate_succ, escapeText_bare, ih (Nat.le_of_succ_le_succ h)]

/-- The quotes at the start of a written text are the whole text, or they are too few to end it. -/
theorem escapeText_run (block : Bool) (bare : Nat) (cs : List Char) :
    (∃ k ≤ bare, cs = List.replicate k '"') ∨
      ∀ rest, leadingRun '"' (escapeText block bare cs ++ rest) ≤ bare := by
  -- the induction is on the characters, with the number of quotes that may still stand bare varying
  induction cs generalizing bare with
  | nil => exact .inl ⟨0, Nat.zero_le bare, rfl⟩
  | cons c cs ih =>
    by_cases hquote : c = '"'
    · subst hquote
      cases bare with
      | zero =>
        right
        intro rest
        rw [escapeText_quote, List.cons_append, leadingRun_cons_of_ne (by decide)]
      | succ bare =>
        rcases ih bare with ⟨k, hk, rfl⟩ | hrun
        · exact .inl ⟨k + 1, Nat.succ_le_succ hk, rfl⟩
        · right
          intro rest
          rw [escapeText_bare, List.cons_append, leadingRun_cons_self]
          exact Nat.succ_le_succ (hrun rest)
    · right
      intro rest
      rcases escapeChar_start block c with ⟨d, tail, hstart, hd⟩
      have hother : d ≠ '"' := by
        rcases hd with rfl | ⟨rfl, -⟩
        · decide
        · exact hquote
      rw [escapeText_of_ne hquote, hstart, List.cons_append, List.cons_append,
        leadingRun_cons_of_ne hother]
      exact Nat.zero_le bare

/-- A text is read back up to the delimiter. -/
theorem readBasic_escapeText (hbare : bare ≤ bareLimit block) (hrest : leadingRun '"' rest = 0) :
    readBasic block .text (escapeText block bare cs ++ (delimiter block '"' ++ rest)) =
      some (cs, rest) := by
  -- the induction is on the characters; in front of each the string must not look ended
  induction cs generalizing bare with
  | nil => exact readBasic_of_close (close?_delimiter (Nat.zero_le _) hrest)
  | cons c cs ih =>
    -- bare quotes up to the end run into the delimiter and are told apart by their number
    rcases escapeText_run block bare (c :: cs) with ⟨k, hk, hquotes⟩ | hrun
    · rw [hquotes, escapeText_replicate hk]
      exact readBasic_of_close (close?_delimiter (Nat.le_trans hk hbare) hrest)
    have hopen := close?_eq_none (Nat.le_trans (hrun (delimiter block '"' ++ rest)) hbare)
    by_cases hquote : c = '"'
    · subst hquote
      cases bare with
      | zero =>
        rw [escapeText_quote, List.cons_append, List.cons_append, readBasic_simpleEscape rfl,
          ih (Nat.le_refl _)]
        rfl
      | succ bare =>
        rw [escapeText_bare, List.cons_append] at hopen ⊢
        rw [readBasic_plain hopen (by decide) rfl, ih (by omega)]
        rfl
    · rw [escapeText_of_ne hquote, List.append_assoc, readBasic_escapeChar hquote,
        ih (Nat.le_refl _)]
      rfl

/-! ## Literal strings -/

theorem readLiteral_of_close {ending : List Char × List Char}
    (h : close? block '\'' cs = some ending) : readLiteral block cs = some ending := by
  cases cs with
  | nil => cases block <;> cases h
  | cons c cs => rw [readLiteral, h]

theorem leadingRun_append (c : Char) (cs : List Char) :
    (∃ k, cs = List.replicate k c) ∨ ∀ rest, leadingRun c (cs ++ rest) = leadingRun c cs := by
  induction cs with
  | nil => exact .inl ⟨0, rfl⟩
  | cons d cs ih =>
    by_cases hd : d = c
    · subst hd
      rcases ih with ⟨k, rfl⟩ | hrun
      · exact .inl ⟨k + 1, rfl⟩
      · right
        intro rest
        rw [List.cons_append, leadingRun_cons_self, leadingRun_cons_self, hrun]
    · right
      intro rest
      rw [List.cons_append, leadingRun_cons_of_ne hd, leadingRun_cons_of_ne hd]

/-- The quotes at the start of a text are the whole text, or they are no more than in its longest
run. -/
theorem literal_run (quote : Char) (cs : List Char) :
    (∃ k ≤ longestRun quote cs, cs = List.replicate k quote) ∨
      ∀ rest, leadingRun quote (cs ++ rest) ≤ longestRun quote cs := by
  have hfirst := leadingRun_le_longestRun quote cs
  rcases leadingRun_append quote cs with ⟨k, rfl⟩ | hrun
  · rw [leadingRun_replicate] at hfirst
    exact .inl ⟨k, hfirst, rfl⟩
  · right
    intro rest
    rw [hrun]
    exact hfirst

/-- A text without control characters, and without more quotes in a row than may stand there, is
read up to the delimiter. -/
theorem readLiteral_append (hcontrol : ∀ c ∈ cs, isControl c = false)
    (hbreak : '\n' ∈ cs → block = true) (hrun : longestRun '\'' cs ≤ bareLimit block)
    (hrest : leadingRun '\'' rest = 0) :
    readLiteral block (cs ++ (delimiter block '\'' ++ rest)) = some (cs, rest) := by
  induction cs with
  | nil => exact readLiteral_of_close (close?_delimiter (Nat.zero_le _) hrest)
  | cons c cs ih =>
    rcases literal_run '\'' (c :: cs) with ⟨k, hk, hquotes⟩ | hfew
    · rw [hquotes]
      exact readLiteral_of_close (close?_delimiter (Nat.le_trans hk hrun) hrest)
    have hopen := close?_eq_none (Nat.le_trans (hfew (delimiter block '\'' ++ rest)) hrun)
    rcases List.forall_mem_cons.mp hcontrol with ⟨hc, hcs⟩
    have hself := standsForItself_of_not_isControl hc fun h => hbreak (h ▸ List.mem_cons_self)
    have hmore := ih hcs (fun hmem => hbreak (List.mem_cons_of_mem c hmem))
      (Nat.le_trans (longestRun_le_cons _ _ _) hrun)
    rw [List.cons_append] at hopen ⊢
    rw [readLiteral, hopen]
    simp only [hself, if_true, hmore, Option.map_some]

/-! ## The forms of a string -/

/-- A single quote that is not followed by two more opens a string in a line. -/
theorem readString?_of_line (h : leadingRun quote cs ≤ 1) (hquote : quote = '"' ∨ quote = '\'') :
    readString? (quote :: cs) = readLineString? (quote :: cs) := by
  -- with two more quotes a block would begin
  have hfew : ∀ cs', cs ≠ quote :: quote :: cs' := by
    rintro cs' rfl
    rw [leadingRun_cons_self, leadingRun_cons_self] at h
    omega
  rw [readString?]
  · rintro cs' heq
    cases heq
    exact hfew cs' rfl
  · rintro cs' heq
    cases heq
    exact hfew cs' rfl

/-- The line break that is dropped is the one that was written for it, if a text that has none of
its own does not start with one. -/
theorem dropBreak_leadingBreak {written : List Char}
    (h : '\n' ∉ cs → ∀ c ∈ written.head?, c ≠ '\n' ∧ c ≠ '\r') :
    dropBreak (leadingBreak cs ++ written) = written := by
  rw [leadingBreak]
  split
  · rfl
  · next hbreak =>
    rw [List.nil_append]
    cases written with
    | nil => rfl
    | cons c written =>
      rcases h hbreak c rfl with ⟨hfeed, hreturn⟩
      rw [dropBreak]
      · rintro _ heq
        cases heq
        exact hfeed rfl
      · rintro _ heq
        cases heq
        exact hreturn rfl

theorem readString?_basicLine (hrest : leadingRun '"' rest = 0) :
    readString? (basicLine cs ++ rest) = some (cs, rest) := by
  have hform : basicLine cs ++ rest =
      '"' :: (escapeText false 0 cs ++ (delimiter false '"' ++ rest)) := by
    rw [basicLine, List.cons_append, List.cons_append, List.append_assoc]
    rfl
  have hrun : leadingRun '"' (escapeText false 0 cs ++ (delimiter false '"' ++ rest)) ≤ 1 := by
    rcases escapeText_run false 0 cs with ⟨k, hk, rfl⟩ | hnone
    · obtain rfl : k = 0 := Nat.le_zero.mp hk
      exact Nat.le_of_eq ((leadingRun_cons_self _ _).trans (congrArg (· + 1) hrest))
    · exact Nat.le_succ_of_le (hnone _)
  rw [hform, readString?_of_line hrun (.inl rfl)]
  exact readBasic_escapeText (Nat.zero_le _) hrest

theorem readString?_basicBlock (hrest : leadingRun '"' rest = 0) :
    readString? (basicBlock cs ++ rest) = some (cs, rest) := by
  have hform : basicBlock cs ++ rest = '"' :: '"' :: '"' ::
      (leadingBreak cs ++ (escapeText true 2 cs ++ (delimiter true '"' ++ rest))) := by
    simp only [basicBlock, List.append_assoc, List.cons_append, List.nil_append]
    rfl
  rw [hform, readString?, dropBreak_leadingBreak]
  · exact readBasic_escapeText (Nat.le_refl 2) hrest
  · -- the text of the block does not begin with a line break of its own
    intro hbreak c hc
    cases cs with
    | nil =>
      cases hc
      decide
    | cons d cs =>
      by_cases hquote : d = '"'
      · subst hquote
        cases hc
        decide
      rcases escapeChar_start true d with ⟨e, tail, hstart, he⟩
      rw [escapeText_of_ne hquote, hstart] at hc
      cases hc
      rcases he with rfl | ⟨rfl, hcontrol⟩
      · decide
      · refine ⟨?_, ?_⟩ <;> rintro rfl
        · exact hbreak List.mem_cons_self
        · exact absurd hcontrol (by decide)

theorem readString?_literalLine (hcontrol : ∀ c ∈ cs, isControl c = false) (hbreak : '\n' ∉ cs)
    (hquote : longestRun '\'' cs = 0) (hrest : leadingRun '\'' rest = 0) :
    readString? (literalLine cs ++ rest) = some (cs, rest) := by
  have hform : literalLine cs ++ rest = '\'' :: (cs ++ (delimiter false '\'' ++ rest)) := by
    rw [literalLine, List.cons_append, List.cons_append, List.append_assoc]
    rfl
  have hrun : leadingRun '\'' (cs ++ (delimiter false '\'' ++ rest)) ≤ 1 := by
    rcases literal_run '\'' cs with ⟨k, hk, rfl⟩ | hnone
    · obtain rfl : k = 0 := Nat.le_zero.mp (hquote ▸ hk)
      exact Nat.le_of_eq ((leadingRun_cons_self _ _).trans (congrArg (· + 1) hrest))
    · exact Nat.le_trans (hnone _) (by omega)
  rw [hform, readString?_of_line hrun (.inr rfl)]
  exact readLiteral_append hcontrol (fun hmem => absurd hmem hbreak) (Nat.le_of_eq hquote) hrest

theorem readString?_literalBlock (hcontrol : ∀ c ∈ cs, isControl c = false)
    (hquotes : longestRun '\'' cs ≤ 2) (hrest : leadingRun '\'' rest = 0) :
    readString? (literalBlock cs ++ rest) = some (cs, rest) := by
  have hform : literalBlock cs ++ rest = '\'' :: '\'' :: '\'' ::
      (leadingBreak cs ++ (cs ++ (delimiter true '\'' ++ rest))) := by
    simp only [literalBlock, List.append_assoc, List.cons_append, List.nil_append]
    rfl
  rw [hform, readString?, dropBreak_leadingBreak]
  · exact readLiteral_append hcontrol (fun _ => rfl) hquotes hrest
  · -- neither a line feed nor a carriage return stands at the start, since neither is in the text
    intro hbreak c hc
    cases cs with
    | nil =>
      cases hc
      decide
    | cons d cs =>
      cases hc
      refine ⟨?_, ?_⟩ <;> rintro rfl
      · exact hbreak List.mem_cons_self
      · exact absurd (hcontrol _ List.mem_cons_self) (by decide)

/-- A text is read back from the form that is chosen for it, if no quote follows. -/
theorem readString?_printText (hbasic : leadingRun '"' rest = 0)
    (hliteral : leadingRun '\'' rest = 0) :
    readString? (printText cs ++ rest) = some (cs, rest) := by
  -- only the literal forms depend on what is in the text
  unfold printText
  simp only []
  split
  · exact readString?_basicLine hbasic
  split
  · next h =>
    simp only [Bool.and_eq_true, Bool.not_eq_true', beq_iff_eq, decide_eq_false_iff_not,
      List.any_eq_false, Bool.not_eq_true] at h
    exact readString?_literalLine h.1.1 h.2 h.1.2 hliteral
  split
  · exact readString?_basicBlock hbasic
  split
  · next h =>
    simp only [Bool.and_eq_true, Bool.not_eq_true', decide_eq_true_eq, List.any_eq_false,
      Bool.not_eq_true] at h
    exact readString?_literalBlock h.1 h.2 hliteral
  split
  · exact readString?_basicBlock hbasic
  · exact readString?_basicLine hbasic

/-- Every form starts with a quote. -/
theorem printText_start (cs : List Char) :
    ∃ quote tail, printText cs = quote :: tail ∧ (quote = '"' ∨ quote = '\'') := by
  unfold printText
  simp only []
  split
  · exact ⟨_, _, rfl, .inl rfl⟩
  split
  · exact ⟨_, _, rfl, .inr rfl⟩
  split
  · exact ⟨_, _, rfl, .inl rfl⟩
  split
  · exact ⟨_, _, rfl, .inr rfl⟩
  split
  · exact ⟨_, _, rfl, .inl rfl⟩
  · exact ⟨_, _, rfl, .inl rfl⟩

end ServiceCatalog.Toml
