/-!
# Splitting a text at a separator
-/

namespace ServiceCatalog.Text

/-- The parts of a text between the occurrences of a separator. There is always at least one part,
and two neighbouring separators have the empty part between them. -/
def splitAt (sep : Char) : List Char → List (List Char)
  | [] => [[]]
  | c :: cs =>
    if c = sep then [] :: splitAt sep cs
    else
      match splitAt sep cs with
      | [] => [[c]]
      | part :: parts => (c :: part) :: parts

/-- The text before the first separator and the text after it, if there is one. -/
def splitFirst (sep : Char) : List Char → Option (List Char × List Char)
  | [] => none
  | c :: cs =>
    if c = sep then some ([], cs)
    else (splitFirst sep cs).map fun (before, after) => (c :: before, after)

/-- Whether a part between two neighbouring separators, or at an end, is empty. -/
def hasEmptyPart (sep : Char) (cs : List Char) : Bool := (splitAt sep cs).any List.isEmpty

theorem splitAt_ne_nil (sep : Char) (cs : List Char) : splitAt sep cs ≠ [] := by
  cases cs with
  | nil => simp [splitAt]
  | cons c cs =>
    simp only [splitAt]
    split
    · simp
    · split <;> simp

/-- A text without the separator is its only part. -/
theorem splitAt_of_not_mem {sep : Char} {cs : List Char} (h : sep ∉ cs) :
    splitAt sep cs = [cs] := by
  induction cs with
  | nil => rfl
  | cons c cs ih =>
    rw [List.mem_cons, not_or] at h
    rw [splitAt, if_neg (Ne.symm h.1), ih h.2]

/-- The parts before a separator and those after it are the parts of the whole. -/
theorem splitAt_append (sep : Char) (cs ds : List Char) :
    splitAt sep (cs ++ sep :: ds) = splitAt sep cs ++ splitAt sep ds := by
  induction cs with
  | nil => simp [splitAt]
  | cons c cs ih =>
    by_cases hc : c = sep
    · rw [List.cons_append, splitAt, if_pos hc, ih, splitAt, if_pos hc, List.cons_append]
    · rw [List.cons_append, splitAt, if_neg hc, ih, splitAt, if_neg hc]
      cases hparts : splitAt sep cs with
      | nil => exact absurd hparts (splitAt_ne_nil sep cs)
      | cons part parts => rfl

/-- The parts of a text do not hold the separator. -/
theorem not_mem_of_mem_splitAt {sep : Char} {cs part : List Char} (h : part ∈ splitAt sep cs) :
    sep ∉ part := by
  induction cs generalizing part with
  | nil =>
    cases List.mem_singleton.mp h
    exact List.not_mem_nil
  | cons c cs ih =>
    rw [splitAt] at h
    split at h
    · rcases List.mem_cons.mp h with rfl | h
      · exact List.not_mem_nil
      · exact ih h
    · next hc =>
      cases hparts : splitAt sep cs with
      | nil => exact absurd hparts (splitAt_ne_nil sep cs)
      | cons first parts =>
        rw [hparts] at h ih
        rcases List.mem_cons.mp h with rfl | h
        · rw [List.mem_cons, not_or]
          exact ⟨Ne.symm hc, ih List.mem_cons_self⟩
        · exact ih (List.mem_cons_of_mem first h)

/-- Parts that do not hold the separator can be read off the text that they are joined to. -/
theorem splitAt_intercalate {sep : Char} {parts : List (List Char)} (hne : parts ≠ [])
    (h : ∀ part ∈ parts, sep ∉ part) : splitAt sep ([sep].intercalate parts) = parts := by
  induction parts with
  | nil => exact absurd rfl hne
  | cons part parts ih =>
    rcases List.forall_mem_cons.mp h with ⟨hpart, hparts⟩
    cases parts with
    | nil => rw [List.intercalate_singleton, splitAt_of_not_mem hpart]
    | cons next rest =>
      rw [List.intercalate_cons_cons, List.append_assoc, List.singleton_append, splitAt_append,
        splitAt_of_not_mem hpart, ih (List.cons_ne_nil next rest) hparts, List.singleton_append]

/-- Joining parts by a separator brings no other character. -/
theorem not_mem_intercalate {sep c : Char} {parts : List (List Char)} (hc : c ≠ sep)
    (h : ∀ part ∈ parts, c ∉ part) : c ∉ [sep].intercalate parts := by
  induction parts with
  | nil => exact List.not_mem_nil
  | cons part parts ih =>
    rcases List.forall_mem_cons.mp h with ⟨hpart, hparts⟩
    cases parts with
    | nil => rwa [List.intercalate_singleton]
    | cons next rest =>
      rw [List.intercalate_cons_cons, List.mem_append, List.mem_append, List.mem_singleton]
      simp only [hpart, hc, ih hparts, or_self, not_false_eq_true]

/-- The last separator tells what comes before it from what comes after it. -/
theorem append_inj_of_not_mem {sep : Char} {as bs cs ds : List Char} (hbs : sep ∉ bs)
    (hds : sep ∉ ds) (h : as ++ sep :: bs = cs ++ sep :: ds) : as = cs ∧ bs = ds := by
  have hparts := congrArg (splitAt sep) h
  rw [splitAt_append, splitAt_append, splitAt_of_not_mem hbs, splitAt_of_not_mem hds] at hparts
  obtain rfl : bs = ds := List.singleton_inj.mp (List.append_inj' hparts rfl).2
  exact ⟨List.append_cancel_right h, rfl⟩

theorem hasEmptyPart_cons (sep c : Char) (cs : List Char) :
    hasEmptyPart sep (c :: cs) =
      if c = sep then true else (splitAt sep cs).tail.any List.isEmpty := by
  unfold hasEmptyPart
  rw [splitAt]
  split
  · rfl
  · cases splitAt sep cs <;> rfl

theorem any_tail_splitAt_cons (sep c : Char) (cs : List Char) :
    (splitAt sep (c :: cs)).tail.any List.isEmpty =
      if c = sep then hasEmptyPart sep cs else (splitAt sep cs).tail.any List.isEmpty := by
  rw [splitAt]
  split
  · rfl
  · cases splitAt sep cs <;> rfl

theorem any_tail_of_hasEmptyPart {sep : Char} {cs : List Char} (h : hasEmptyPart sep cs = false) :
    (splitAt sep cs).tail.any List.isEmpty = false := by
  rw [hasEmptyPart, List.any_eq_false] at h
  rw [List.any_eq_false]
  intro part hpart
  exact h part (List.mem_of_mem_tail hpart)

/-- Two texts without an empty part may be put together with any character between them. -/
theorem hasEmptyPart_append {sep : Char} {cs ds : List Char} (hcs : hasEmptyPart sep cs = false)
    (hds : hasEmptyPart sep ds = false) (c : Char) :
    hasEmptyPart sep (cs ++ c :: ds) = false := by
  have hboth : (hasEmptyPart sep cs = false → hasEmptyPart sep (cs ++ c :: ds) = false) ∧
      ((splitAt sep cs).tail.any List.isEmpty = false →
        (splitAt sep (cs ++ c :: ds)).tail.any List.isEmpty = false) := by
    clear hcs
    induction cs with
    | nil =>
      refine ⟨fun h => Bool.noConfusion h, fun _ => ?_⟩
      rw [List.nil_append, any_tail_splitAt_cons, any_tail_of_hasEmptyPart hds, hds, ite_self]
    | cons d cs ih =>
      rw [List.cons_append, hasEmptyPart_cons, hasEmptyPart_cons, any_tail_splitAt_cons,
        any_tail_splitAt_cons]
      split
      · exact ⟨fun h => absurd h (by decide), ih.1⟩
      · exact ⟨ih.2, ih.2⟩
  exact hboth.1 hcs

end ServiceCatalog.Text
