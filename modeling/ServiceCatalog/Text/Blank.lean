/-!
# Blank characters

The characters with the Unicode property `White_Space`, and the trimming of a text at both ends.
-/

namespace ServiceCatalog.Text

/-- The characters with the Unicode property `White_Space`. Control characters such as U+001C and
format characters such as U+200B or U+FEFF do not have it. -/
def isBlank (c : Char) : Bool :=
  let n := c.toNat
  (9 ≤ n && n ≤ 13) || n == 0x20 || n == 0x85 || n == 0xA0 || n == 0x1680 ||
    (0x2000 ≤ n && n ≤ 0x200A) || n == 0x2028 || n == 0x2029 || n == 0x202F || n == 0x205F ||
    n == 0x3000

/-- The text without the blanks at its two ends. -/
def trimBlanks (cs : List Char) : List Char :=
  ((cs.dropWhile isBlank).reverse.dropWhile isBlank).reverse

/-- The string without the blanks at its two ends. -/
def trim (s : String) : String := String.ofList (trimBlanks s.toList)

/-! ## Trimmed texts -/

@[simp] theorem toList_trim (s : String) : (trim s).toList = trimBlanks s.toList := by
  simp [trim]

theorem mem_of_mem_trimBlanks {c : Char} {cs : List Char} (h : c ∈ trimBlanks cs) : c ∈ cs := by
  rw [trimBlanks, List.mem_reverse] at h
  have hkept := (List.dropWhile_suffix isBlank).subset h
  rw [List.mem_reverse] at hkept
  exact (List.dropWhile_suffix isBlank).subset hkept

theorem trimBlanks_eq_nil {cs : List Char} (h : ∀ c ∈ cs, isBlank c = true) :
    trimBlanks cs = [] := by
  induction cs with
  | nil => rfl
  | cons c cs ih =>
    rcases List.forall_mem_cons.mp h with ⟨hc, hcs⟩
    rw [trimBlanks, List.dropWhile_cons_of_pos hc]
    exact ih hcs

/-- A blank at the end is trimmed off. -/
theorem trimBlanks_append_blank (cs : List Char) {c : Char} (hc : isBlank c = true) :
    trimBlanks (cs ++ [c]) = trimBlanks cs := by
  rw [trimBlanks, trimBlanks, List.dropWhile_append]
  split
  · next hempty =>
    rw [List.isEmpty_iff.mp hempty, List.dropWhile_cons_of_pos hc, List.dropWhile_nil]
  · rw [List.reverse_append, List.reverse_singleton, List.singleton_append,
      List.dropWhile_cons_of_pos hc]

theorem dropWhile_isBlank_eq_self_iff {cs : List Char} :
    cs.dropWhile isBlank = cs ↔ ∀ c ∈ cs.head?, isBlank c = false := by
  cases cs with
  | nil => simp
  | cons c cs =>
    by_cases hc : isBlank c
    · have hlength := (List.dropWhile_suffix (l := cs) isBlank).length_le
      have hne : cs.dropWhile isBlank ≠ c :: cs := by
        intro heq
        rw [heq, List.length_cons] at hlength
        omega
      simp [hc, hne]
    · simp [hc]

/-- What is trimmed begins and ends without a blank. -/
theorem trimBlanks_eq_self_iff {cs : List Char} :
    trimBlanks cs = cs ↔
      (∀ c ∈ cs.head?, isBlank c = false) ∧ ∀ c ∈ cs.getLast?, isBlank c = false := by
  rw [← List.head?_reverse, ← dropWhile_isBlank_eq_self_iff, ← dropWhile_isBlank_eq_self_iff,
    trimBlanks]
  constructor
  · intro h
    -- neither of the two steps makes the text shorter
    have hfront := (List.dropWhile_suffix (l := cs) isBlank).length_le
    have hback := (List.dropWhile_suffix (l := (cs.dropWhile isBlank).reverse) isBlank).length_le
    have hlength := congrArg List.length h
    rw [List.length_reverse] at hlength hback
    have hall : cs.dropWhile isBlank = cs :=
      (List.dropWhile_suffix isBlank).eq_of_length (by omega)
    rw [hall] at h
    exact ⟨hall, List.reverse_eq_iff.mp h⟩
  · rintro ⟨hfront, hback⟩
    rw [hfront, hback, List.reverse_reverse]

theorem head?_dropWhile_isBlank {c : Char} {cs : List Char}
    (h : (cs.dropWhile isBlank).head? = some c) : isBlank c = false := by
  have hnot := List.head?_dropWhile_not isBlank cs
  rwa [h] at hnot

theorem trimBlanks_trimBlanks (cs : List Char) : trimBlanks (trimBlanks cs) = trimBlanks cs := by
  rw [trimBlanks_eq_self_iff]
  constructor
  · intro c hc
    -- the second step only drops characters at the end
    have hbegin : trimBlanks cs <+: cs.dropWhile isBlank := by
      rw [← List.reverse_suffix, trimBlanks, List.reverse_reverse]
      exact List.dropWhile_suffix isBlank
    rcases hbegin with ⟨dropped, hsplit⟩
    have hhead : (cs.dropWhile isBlank).head? = some c := by
      rw [← hsplit, List.head?_append, Option.mem_def.mp hc, Option.some_or]
    exact head?_dropWhile_isBlank hhead
  · intro c hc
    rw [trimBlanks, List.getLast?_reverse] at hc
    exact head?_dropWhile_isBlank hc

end ServiceCatalog.Text
