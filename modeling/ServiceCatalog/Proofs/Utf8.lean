import ServiceCatalog.Text.Utf8

/-!
# Decoding what was encoded

The machine that decodes UTF-8 reads the bytes of a character back as that character, whatever
follows them, and what it reads without a gap begins with the bytes of a character. Hence

* `decodeChars?_encodeChars`: the encoding of a text is well-formed and decodes to the text;
* `decodeChars?_eq_some_iff`: nothing else decodes to the text;
* `isValidUTF8_iff`: what can be decoded is what the library calls valid UTF-8;
* `toNat_eq_of_mem_encodeChar`: a byte below 0x80 stands in an encoding only for the character that
  it is, so an encoding has no line breaks but those of its text;
* `decodeChars?_append_cons`: hence a byte string may be decoded in two parts around such a byte.
-/

namespace ServiceCatalog.Utf8

theorem toNat_toUInt8 {n : Nat} (h : n < 256) : n.toUInt8.toNat = n := by
  simp [Nat.mod_eq_of_lt h]

/-- A character is no half of a surrogate pair, and it is at most U+10FFFF. -/
theorem toNat_valid (c : Char) :
    c.toNat < 0xD800 ∨ 0xDFFF < c.toNat ∧ c.toNat < 0x110000 :=
  c.valid

/-! ## Steps of the machine -/

variable {a : Nat} {p : Partial} {bs : Bytes}

theorem unitsFrom_cons (q : Option Partial) (b : UInt8) (bs : Bytes) :
    unitsFrom q (b :: bs) = (step q b).1 ++ unitsFrom (step q b).2 bs := by
  cases q <;> rfl

theorem unitsFrom_begin_one (ha : a < 0x80) :
    unitsFrom none (a.toUInt8 :: bs) = some (Char.ofNat a) :: unitsFrom none bs := by
  have hb : a.toUInt8.toNat = a := toNat_toUInt8 (by omega)
  have hstep : step none a.toUInt8 = ([some (Char.ofNat a)], none) := by
    simp only [step, begin, hb, if_pos ha]
  rw [unitsFrom_cons, hstep]
  rfl

theorem unitsFrom_begin_two (hlow : 2 ≤ a) (hhigh : a < 0x20) :
    unitsFrom none ((0xC0 + a).toUInt8 :: bs) = unitsFrom (some ⟨a, 1, 0x80, 0xBF⟩) bs := by
  have hb : (0xC0 + a).toUInt8.toNat = 0xC0 + a := toNat_toUInt8 (by omega)
  have hstep : step none (0xC0 + a).toUInt8 = ([], some ⟨a, 1, 0x80, 0xBF⟩) := by
    simp only [step, begin, hb]
    rw [if_neg (by omega), if_neg (by omega), if_pos (by omega), Nat.add_sub_cancel_left]
  rw [unitsFrom_cons, hstep]
  rfl

theorem unitsFrom_begin_three (ha : a < 0x10) :
    unitsFrom none ((0xE0 + a).toUInt8 :: bs) =
      unitsFrom (some ⟨a, 2, if a = 0 then 0xA0 else 0x80, if a = 13 then 0x9F else 0xBF⟩) bs := by
  have hb : (0xE0 + a).toUInt8.toNat = 0xE0 + a := toNat_toUInt8 (by omega)
  have hstep : step none (0xE0 + a).toUInt8 =
      ([], some ⟨a, 2, if a = 0 then 0xA0 else 0x80, if a = 13 then 0x9F else 0xBF⟩) := by
    simp only [step, begin, hb]
    rw [if_neg (by omega), if_neg (by omega), if_neg (by omega), if_pos (by omega),
      Nat.add_sub_cancel_left]
    simp only [show (0xE0 + a = 0xE0) = (a = 0) by simp, show (0xE0 + a = 0xED) = (a = 13) by
      simp only [eq_iff_iff]; omega]
  rw [unitsFrom_cons, hstep]
  rfl

theorem unitsFrom_begin_four (ha : a < 5) :
    unitsFrom none ((0xF0 + a).toUInt8 :: bs) =
      unitsFrom (some ⟨a, 3, if a = 0 then 0x90 else 0x80, if a = 4 then 0x8F else 0xBF⟩) bs := by
  have hb : (0xF0 + a).toUInt8.toNat = 0xF0 + a := toNat_toUInt8 (by omega)
  have hstep : step none (0xF0 + a).toUInt8 =
      ([], some ⟨a, 3, if a = 0 then 0x90 else 0x80, if a = 4 then 0x8F else 0xBF⟩) := by
    simp only [step, begin, hb]
    rw [if_neg (by omega), if_neg (by omega), if_neg (by omega), if_neg (by omega),
      if_pos (by omega), Nat.add_sub_cancel_left]
    simp only [show (0xF0 + a = 0xF0) = (a = 0) by simp, show (0xF0 + a = 0xF4) = (a = 4) by
      simp only [eq_iff_iff]; omega]
  rw [unitsFrom_cons, hstep]
  rfl

/-- A byte in the range of a sequence that misses more than one byte continues it. -/
theorem unitsFrom_continue (ha : a < 0x40) (hlow : p.low ≤ 0x80 + a) (hhigh : 0x80 + a ≤ p.high)
    (hm : 1 < p.missing) :
    unitsFrom (some p) ((0x80 + a).toUInt8 :: bs) =
      unitsFrom (some ⟨p.bits * 64 + a, p.missing - 1, 0x80, 0xBF⟩) bs := by
  have hb : (0x80 + a).toUInt8.toNat = 0x80 + a := toNat_toUInt8 (by omega)
  have hstep : step (some p) (0x80 + a).toUInt8 =
      ([], some ⟨p.bits * 64 + a, p.missing - 1, 0x80, 0xBF⟩) := by
    simp only [step, hb]
    rw [if_pos ⟨hlow, hhigh⟩, if_neg (by omega), Nat.add_sub_cancel_left]
  rw [unitsFrom_cons, hstep]
  rfl

/-- A byte in the range of a sequence that misses one byte completes it. -/
theorem unitsFrom_complete (ha : a < 0x40) (hlow : p.low ≤ 0x80 + a) (hhigh : 0x80 + a ≤ p.high)
    (hm : p.missing ≤ 1) :
    unitsFrom (some p) ((0x80 + a).toUInt8 :: bs) =
      some (Char.ofNat (p.bits * 64 + a)) :: unitsFrom none bs := by
  have hb : (0x80 + a).toUInt8.toNat = 0x80 + a := toNat_toUInt8 (by omega)
  have hstep : step (some p) (0x80 + a).toUInt8 =
      ([some (Char.ofNat (p.bits * 64 + a))], none) := by
    simp only [step, hb]
    rw [if_pos ⟨hlow, hhigh⟩, if_pos hm, Nat.add_sub_cancel_left]
  rw [unitsFrom_cons, hstep]
  rfl

/-! ## Reading a text -/

/-- Reading the bytes of a character emits the character and leaves the machine between
characters. -/
theorem unitsFrom_encodeChar_append (c : Char) (bs : Bytes) :
    unitsFrom none (encodeChar c ++ bs) = some c :: unitsFrom none bs := by
  have hvalid := toNat_valid c
  have hchar : Char.ofNat c.toNat = c := Char.ofNat_toNat c
  generalize hn : c.toNat = n at hvalid hchar
  simp only [encodeChar, hn]
  split
  · rename_i h1
    rw [List.singleton_append, unitsFrom_begin_one h1, hchar]
  split
  · simp only [List.cons_append, List.nil_append]
    rw [unitsFrom_begin_two (by omega) (by omega),
      unitsFrom_complete (by omega) (Nat.le_add_right _ _) (by simp only []; omega) (Nat.le_refl 1),
      show n / 64 * 64 + n % 64 = n by omega, hchar]
  split
  · simp only [List.cons_append, List.nil_append]
    -- the lead bytes E0 and ED narrow the range of the next byte
    have hlow : (if n / 4096 = 0 then 0xA0 else 0x80) ≤ 0x80 + n / 64 % 64 := by
      split <;> omega
    have hhigh : 0x80 + n / 64 % 64 ≤ if n / 4096 = 13 then 0x9F else 0xBF := by
      split <;> omega
    rw [unitsFrom_begin_three (by omega),
      unitsFrom_continue (by omega) hlow hhigh (Nat.lt_succ_self 1),
      unitsFrom_complete (by omega) (Nat.le_add_right _ _) (by simp only []; omega) (Nat.le_refl 1),
      show (n / 4096 * 64 + n / 64 % 64) * 64 + n % 64 = n by omega, hchar]
  · simp only [List.cons_append, List.nil_append]
    -- the lead bytes F0 and F4 narrow the range of the next byte
    have hlow : (if n / 262144 = 0 then 0x90 else 0x80) ≤ 0x80 + n / 4096 % 64 := by
      split <;> omega
    have hhigh : 0x80 + n / 4096 % 64 ≤ if n / 262144 = 4 then 0x8F else 0xBF := by
      split <;> omega
    rw [unitsFrom_begin_four (by omega),
      unitsFrom_continue (by omega) hlow hhigh (by simp only []; omega),
      unitsFrom_continue (by omega) (Nat.le_add_right _ _) (by simp only []; omega)
        (Nat.lt_succ_self 1),
      unitsFrom_complete (by omega) (Nat.le_add_right _ _) (by simp only []; omega) (Nat.le_refl 1),
      show ((n / 262144 * 64 + n / 4096 % 64) * 64 + n / 64 % 64) * 64 + n % 64 = n by omega,
      hchar]

/-- The machine reads an encoded text as its characters, without a gap. -/
theorem units_encodeChars (cs : List Char) : units (encodeChars cs) = cs.map some := by
  unfold units
  induction cs with
  | nil => rfl
  | cons c cs ih =>
    have hcons : encodeChars (c :: cs) = encodeChar c ++ encodeChars cs := List.flatMap_cons
    rw [hcons, unitsFrom_encodeChar_append, ih, List.map_cons]

/-- Decoding the encoding of a text gives the text back. -/
theorem decodeChars?_encodeChars (cs : List Char) : decodeChars? (encodeChars cs) = some cs := by
  have hall : (cs.map some).all Option.isSome = true := by
    simp only [List.all_map, List.all_eq_true, Function.comp_apply, Option.isSome_some,
      implies_true]
  rw [decodeChars?, units_encodeChars, if_pos hall, List.filterMap_map]
  exact congrArg some (List.filterMap_some)

/-- A text is what its encoding decodes to. -/
theorem decode?_encode (s : String) : decode? (encode s) = some s := by
  rw [decode?, encode, decodeChars?_encodeChars, Option.map_some, String.ofList_toList]

/-! ## Reading without a gap -/

/-- A sequence that has begun goes on with a byte in its range, if there is no gap. -/
theorem of_unitsFrom_some {p : Partial} (hlow : 0x80 ≤ p.low) (hhigh : p.high ≤ 0xBF)
    (h : none ∉ unitsFrom (some p) bs) :
    ∃ a rest, bs = (0x80 + a).toUInt8 :: rest ∧ a < 0x40 ∧
      p.low ≤ 0x80 + a ∧ 0x80 + a ≤ p.high := by
  cases bs with
  | nil => exact absurd (List.mem_singleton.mpr rfl) h
  | cons b rest =>
    -- a byte out of range would leave a gap
    by_cases hrange : p.low ≤ b.toNat ∧ b.toNat ≤ p.high
    · have hsum : 0x80 + (b.toNat - 0x80) = b.toNat := by omega
      refine ⟨b.toNat - 0x80, rest, ?_, by omega, by omega, by omega⟩
      rw [hsum, Nat.toUInt8_eq, UInt8.ofNat_toNat]
    · rw [unitsFrom_cons, step, if_neg hrange] at h
      exact absurd List.mem_cons_self h

/-- What a sequence begins with, if there is no gap: an ASCII character, or one of three lead bytes
with the bits that it carries. -/
theorem of_unitsFrom_none {b : UInt8} (h : none ∉ unitsFrom none (b :: bs)) :
    ∃ a, a < 0x80 ∧ b = a.toUInt8 ∨
      2 ≤ a ∧ a < 0x20 ∧ b = (0xC0 + a).toUInt8 ∨
      a < 0x10 ∧ b = (0xE0 + a).toUInt8 ∨
      a < 5 ∧ b = (0xF0 + a).toUInt8 := by
  have hof : ∀ {offset : Nat}, offset ≤ b.toNat → b = (offset + (b.toNat - offset)).toUInt8 := by
    intro offset hle
    rw [Nat.add_sub_cancel' hle, Nat.toUInt8_eq, UInt8.ofNat_toNat]
  have hgap : begin b ≠ ([none], none) := by
    intro hbegin
    rw [unitsFrom_cons, step, hbegin] at h
    exact absurd List.mem_cons_self h
  -- the ranges of the first byte, in the order in which they are tried
  by_cases h1 : b.toNat < 0x80
  · exact ⟨b.toNat, .inl ⟨h1, by simp⟩⟩
  by_cases h2 : b.toNat < 0xC2
  · exact absurd (by simp only [begin, if_neg h1, if_pos h2]) hgap
  by_cases h3 : b.toNat < 0xE0
  · exact ⟨b.toNat - 0xC0, .inr (.inl ⟨by omega, by omega, hof (by omega)⟩)⟩
  by_cases h4 : b.toNat < 0xF0
  · exact ⟨b.toNat - 0xE0, .inr (.inr (.inl ⟨by omega, hof (by omega)⟩))⟩
  by_cases h5 : b.toNat < 0xF5
  · exact ⟨b.toNat - 0xF0, .inr (.inr (.inr ⟨by omega, hof (by omega)⟩))⟩
  · exact absurd (by simp only [begin, if_neg h1, if_neg h2, if_neg h3, if_neg h4, if_neg h5]) hgap

theorem toNat_ofNat {n : Nat} (h : n.isValidChar) : (Char.ofNat n).toNat = n := by
  rw [Char.ofNat, dif_pos h]
  rfl

theorem length_encodeChar_pos (c : Char) : 0 < (encodeChar c).length := by
  unfold encodeChar
  simp only []
  split
  · exact Nat.one_pos
  split
  · exact Nat.two_pos
  split <;> exact Nat.succ_pos _

theorem encodeChar_ofNat_one (ha : a < 0x80) : encodeChar (Char.ofNat a) = [a.toUInt8] := by
  rw [encodeChar, toNat_ofNat (.inl (by omega)), if_pos ha]

theorem encodeChar_ofNat_two {b : Nat} (hlow : 2 ≤ a) (ha : a < 0x20) (hb : b < 0x40) :
    encodeChar (Char.ofNat (a * 64 + b)) = [(0xC0 + a).toUInt8, (0x80 + b).toUInt8] := by
  rw [encodeChar, toNat_ofNat (.inl (by omega)), if_neg (by omega), if_pos (by omega),
    show (a * 64 + b) / 64 = a by omega, show (a * 64 + b) % 64 = b by omega]

theorem encodeChar_ofNat_three {b c : Nat} (hlow : 0x20 ≤ a * 64 + b) (ha : a < 0x10)
    (hb : b < 0x40) (hc : c < 0x40) (hvalid : ((a * 64 + b) * 64 + c).isValidChar) :
    encodeChar (Char.ofNat ((a * 64 + b) * 64 + c)) =
      [(0xE0 + a).toUInt8, (0x80 + b).toUInt8, (0x80 + c).toUInt8] := by
  rw [encodeChar, toNat_ofNat hvalid, if_neg (by omega), if_neg (by omega), if_pos (by omega),
    show ((a * 64 + b) * 64 + c) / 4096 = a by omega,
    show ((a * 64 + b) * 64 + c) / 64 % 64 = b by omega,
    show ((a * 64 + b) * 64 + c) % 64 = c by omega]

theorem encodeChar_ofNat_four {b c d : Nat} (hlow : 0x10 ≤ a * 64 + b) (hb : b < 0x40)
    (hc : c < 0x40) (hd : d < 0x40) (hvalid : (((a * 64 + b) * 64 + c) * 64 + d).isValidChar) :
    encodeChar (Char.ofNat (((a * 64 + b) * 64 + c) * 64 + d)) =
      [(0xF0 + a).toUInt8, (0x80 + b).toUInt8, (0x80 + c).toUInt8, (0x80 + d).toUInt8] := by
  rw [encodeChar, toNat_ofNat hvalid, if_neg (by omega), if_neg (by omega), if_neg (by omega),
    show (((a * 64 + b) * 64 + c) * 64 + d) / 262144 = a by omega,
    show (((a * 64 + b) * 64 + c) * 64 + d) / 4096 % 64 = b by omega,
    show (((a * 64 + b) * 64 + c) * 64 + d) / 64 % 64 = c by omega,
    show (((a * 64 + b) * 64 + c) * 64 + d) % 64 = d by omega]

/-- What has no gap begins with an encoded character. -/
theorem exists_encodeChar_append {b : UInt8} (h : none ∉ unitsFrom none (b :: bs)) :
    ∃ c rest, b :: bs = encodeChar c ++ rest := by
  rcases of_unitsFrom_none h with ⟨a, ⟨ha, rfl⟩ | ⟨hlow, ha, rfl⟩ | ⟨ha, rfl⟩ | ⟨ha, rfl⟩⟩
  · exact ⟨Char.ofNat a, bs, by rw [encodeChar_ofNat_one ha]; rfl⟩
  · rw [unitsFrom_begin_two hlow ha] at h
    rcases of_unitsFrom_some (Nat.le_refl _) (Nat.le_refl _) h with ⟨a₁, rest, rfl, ha₁, -, -⟩
    refine ⟨Char.ofNat (a * 64 + a₁), rest, ?_⟩
    rw [encodeChar_ofNat_two hlow ha ha₁]
    rfl
  · -- the range of the second byte leaves out what is shorter, and halves of surrogate pairs
    rw [unitsFrom_begin_three ha] at h
    rcases of_unitsFrom_some (by simp only []; split <;> omega) (by simp only []; split <;> omega) h
      with ⟨a₁, rest, rfl, ha₁, hlow, hhigh⟩
    simp only [] at hlow hhigh
    rw [unitsFrom_continue ha₁ hlow hhigh (Nat.lt_succ_self 1)] at h
    rcases of_unitsFrom_some (Nat.le_refl _) (Nat.le_refl _) h with ⟨a₂, rest, rfl, ha₂, -, -⟩
    have hlong : 0x20 ≤ a * 64 + a₁ := by
      split at hlow <;> omega
    have hvalid : ((a * 64 + a₁) * 64 + a₂).isValidChar := by
      unfold Nat.isValidChar
      split at hhigh <;> omega
    refine ⟨Char.ofNat ((a * 64 + a₁) * 64 + a₂), rest, ?_⟩
    rw [encodeChar_ofNat_three hlong ha ha₁ ha₂ hvalid]
    rfl
  · -- the range of the second byte leaves out what is shorter, and what is above U+10FFFF
    rw [unitsFrom_begin_four ha] at h
    rcases of_unitsFrom_some (by simp only []; split <;> omega) (by simp only []; split <;> omega) h
      with ⟨a₁, rest, rfl, ha₁, hlow, hhigh⟩
    simp only [] at hlow hhigh
    rw [unitsFrom_continue ha₁ hlow hhigh (by simp only []; omega)] at h
    rcases of_unitsFrom_some (Nat.le_refl _) (Nat.le_refl _) h
      with ⟨a₂, rest, rfl, ha₂, hlow₂, hhigh₂⟩
    rw [unitsFrom_continue ha₂ hlow₂ hhigh₂ (Nat.lt_succ_self 1)] at h
    rcases of_unitsFrom_some (Nat.le_refl _) (Nat.le_refl _) h with ⟨a₃, rest, rfl, ha₃, -, -⟩
    have hlong : 0x10 ≤ a * 64 + a₁ := by
      split at hlow <;> omega
    have hvalid : (((a * 64 + a₁) * 64 + a₂) * 64 + a₃).isValidChar := by
      unfold Nat.isValidChar
      split at hhigh <;> omega
    refine ⟨Char.ofNat (((a * 64 + a₁) * 64 + a₂) * 64 + a₃), rest, ?_⟩
    rw [encodeChar_ofNat_four hlong ha₁ ha₂ ha₃ hvalid]
    rfl

/-- What has no gap is the encoding of a text. -/
theorem exists_eq_encodeChars {bs : Bytes} (h : none ∉ units bs) : ∃ cs, bs = encodeChars cs := by
  -- the induction is on the length, since a character takes up to four bytes
  induction hlength : bs.length using Nat.strongRecOn generalizing bs with
  | ind n ih =>
    cases bs with
    | nil => exact ⟨[], rfl⟩
    | cons b bs =>
      rcases exists_encodeChar_append h with ⟨c, rest, hsplit⟩
      have hrest : none ∉ units rest := by
        rw [hsplit, units, unitsFrom_encodeChar_append] at h
        exact fun hmem => h (List.mem_cons_of_mem _ hmem)
      have hpos := length_encodeChar_pos c
      have hshort : rest.length < n := by
        rw [← hlength, hsplit, List.length_append]
        omega
      rcases ih rest.length hshort hrest rfl with ⟨cs, rfl⟩
      exact ⟨c :: cs, hsplit.trans List.flatMap_cons.symm⟩

/-- A byte string decodes to a text exactly if it is the encoding of the text. -/
theorem decodeChars?_eq_some_iff {bs : Bytes} {cs : List Char} :
    decodeChars? bs = some cs ↔ bs = encodeChars cs := by
  constructor
  · intro h
    -- the machine has left no gap, so the bytes are those of some text
    have hgap : none ∉ units bs := by
      unfold decodeChars? at h
      split at h
      · next hall =>
        intro hmem
        exact absurd (List.all_eq_true.mp hall none hmem) (by decide)
      · cases h
    rcases exists_eq_encodeChars hgap with ⟨ds, rfl⟩
    rw [decodeChars?_encodeChars, Option.some.injEq] at h
    rw [h]
  · rintro rfl
    exact decodeChars?_encodeChars cs

/-! ## Bytes of an encoded text -/

/-- A byte below 0x80 stands in the encoding of a character only if it is the character. -/
theorem toNat_eq_of_mem_encodeChar {c : Char} {b : UInt8} (hb : b ∈ encodeChar c)
    (hlow : b.toNat < 0x80) : c.toNat = b.toNat := by
  have hvalid := toNat_valid c
  simp only [encodeChar] at hb
  split at hb
  · rw [List.mem_singleton.mp hb, toNat_toUInt8 (by omega)]
  -- every other byte is a lead byte or a continuation byte, and not below 0x80
  all_goals exfalso
  split at hb
  · simp only [List.mem_cons, List.not_mem_nil, or_false] at hb
    rcases hb with rfl | rfl <;> rw [toNat_toUInt8 (by omega)] at hlow <;> omega
  split at hb
  · simp only [List.mem_cons, List.not_mem_nil, or_false] at hb
    rcases hb with rfl | rfl | rfl <;> rw [toNat_toUInt8 (by omega)] at hlow <;> omega
  · simp only [List.mem_cons, List.not_mem_nil, or_false] at hb
    rcases hb with rfl | rfl | rfl | rfl <;> rw [toNat_toUInt8 (by omega)] at hlow <;> omega

/-- An encoded text holds an ASCII byte only if the text holds its character. -/
theorem mem_of_mem_encodeChars {cs : List Char} {c : Char} {b : UInt8} (hb : b ∈ encodeChars cs)
    (hlow : b.toNat < 0x80) (hc : c.toNat = b.toNat) : c ∈ cs := by
  rcases List.mem_flatMap.mp hb with ⟨d, hd, hbd⟩
  have hcd : c.toNat = d.toNat := by rw [hc, toNat_eq_of_mem_encodeChar hbd hlow]
  rwa [Char.toNat_inj.mp hcd]

theorem encodeChars_append (cs ds : List Char) :
    encodeChars (cs ++ ds) = encodeChars cs ++ encodeChars ds :=
  List.flatMap_append

theorem encodeChars_cons (c : Char) (cs : List Char) :
    encodeChars (c :: cs) = encodeChar c ++ encodeChars cs :=
  List.flatMap_cons

/-- A character whose encoding holds an ASCII byte has no other byte. -/
theorem encodeChar_of_mem {c : Char} {b : UInt8} (hb : b ∈ encodeChar c) (hlow : b.toNat < 0x80) :
    encodeChar c = [b] ∧ c = Char.ofNat b.toNat := by
  have hchar : c = Char.ofNat b.toNat := by
    rw [← toNat_eq_of_mem_encodeChar hb hlow, Char.ofNat_toNat]
  refine ⟨?_, hchar⟩
  rw [hchar, encodeChar_ofNat_one hlow, Nat.toUInt8_eq, UInt8.ofNat_toNat]

/-- An ASCII byte never lies within the bytes of another character, so the text before it and the
text after it are encoded on their own. -/
theorem of_encodeChars_eq_append {cs : List Char} {before after : Bytes} {b : UInt8}
    (hlow : b.toNat < 0x80) (h : encodeChars cs = before ++ b :: after) :
    ∃ as bs, cs = as ++ Char.ofNat b.toNat :: bs ∧ before = encodeChars as ∧
      after = encodeChars bs := by
  -- the induction is on the characters before the byte
  induction cs generalizing before with
  | nil => exact absurd h.symm (List.append_ne_nil_of_right_ne_nil _ (List.cons_ne_nil b after))
  | cons c cs ih =>
    have hlater : ∀ {rest}, before = encodeChar c ++ rest → encodeChars cs = rest ++ b :: after →
        ∃ as bs, c :: cs = as ++ Char.ofNat b.toNat :: bs ∧ before = encodeChars as ∧
          after = encodeChars bs := by
      intro rest hbefore hrest
      rcases ih hrest with ⟨as, bs, rfl, rfl, hafter⟩
      exact ⟨c :: as, bs, rfl, by rw [hbefore, encodeChars_cons], hafter⟩
    rw [encodeChars_cons] at h
    -- the byte lies after the first character or within it
    rcases List.append_eq_append_iff.mp h with ⟨rest, hbefore, hrest⟩ | ⟨tail, hchar, hrest⟩
    · exact hlater hbefore hrest
    cases tail with
    | nil =>
      have hbefore : before = encodeChar c ++ [] := by rw [hchar, List.append_nil, List.append_nil]
      exact hlater hbefore hrest.symm
    | cons b' tail =>
      rw [List.cons_append] at hrest
      obtain ⟨rfl, hafter⟩ := List.cons_eq_cons.mp hrest
      -- the byte is one of the character, and so the whole of it
      have hmem : b ∈ encodeChar c := by
        rw [hchar]
        exact List.mem_append_right before List.mem_cons_self
      rcases encodeChar_of_mem hmem hlow with ⟨halone, rfl⟩
      rw [halone, List.singleton_eq_append_iff] at hchar
      rcases hchar with ⟨rfl, htail⟩ | ⟨-, htail⟩
      · obtain rfl : tail = [] := (List.cons_eq_cons.mp htail).2
        exact ⟨[], cs, rfl, rfl, hafter⟩
      · cases htail

/-- A byte string is well-formed exactly if the parts before and after an ASCII byte are, and it
then decodes to their texts around the character that the byte is. -/
theorem decodeChars?_append_cons {b : UInt8} (hlow : b.toNat < 0x80) (before after : Bytes) :
    decodeChars? (before ++ b :: after) =
      (decodeChars? before).bind fun as =>
        (decodeChars? after).map fun bs => as ++ Char.ofNat b.toNat :: bs := by
  apply Option.ext
  intro cs
  simp only [Option.bind_eq_some_iff, Option.map_eq_some_iff, decodeChars?_eq_some_iff]
  constructor
  · intro h
    rcases of_encodeChars_eq_append hlow h.symm with ⟨as, bs, rfl, rfl, rfl⟩
    exact ⟨as, rfl, bs, rfl, rfl⟩
  · rintro ⟨as, rfl, bs, rfl, rfl⟩
    rw [encodeChars_append, encodeChars_cons, encodeChar_ofNat_one hlow, Nat.toUInt8_eq,
      UInt8.ofNat_toNat, List.singleton_append]

/-! ## Validity in the library's words -/

theorem encodeChar_eq_utf8EncodeChar (c : Char) : encodeChar c = String.utf8EncodeChar c := by
  have hvalid := toNat_valid c
  have hn : c.val.toNat = c.toNat := rfl
  simp only [encodeChar, String.utf8EncodeChar, hn, Nat.toUInt8_eq]
  -- the leading bits are added in front of the bits of the number there
  split
  · rw [if_pos (by omega)]
  split
  · rw [if_neg (by omega), if_pos (by omega), Nat.mod_eq_of_lt (by omega : c.toNat / 64 < 32),
      Nat.add_comm _ 192, Nat.add_comm _ 128]
  split
  · rw [if_neg (by omega), if_neg (by omega), if_pos (by omega),
      Nat.mod_eq_of_lt (by omega : c.toNat / 4096 < 16), Nat.add_comm _ 224, Nat.add_comm _ 128,
      Nat.add_comm _ 128]
  · rw [if_neg (by omega), if_neg (by omega), if_neg (by omega),
      Nat.mod_eq_of_lt (by omega : c.toNat / 262144 < 8), Nat.add_comm _ 240, Nat.add_comm _ 128,
      Nat.add_comm _ 128, Nat.add_comm _ 128]

theorem utf8Encode_eq (cs : List Char) : cs.utf8Encode = (encodeChars cs).toByteArray := by
  rw [List.utf8Encode, encodeChars, funext encodeChar_eq_utf8EncodeChar]

/-- A byte string can be decoded exactly if it is valid UTF-8. -/
theorem isValidUTF8_iff {bs : Bytes} :
    bs.toByteArray.IsValidUTF8 ↔ ∃ cs, decodeChars? bs = some cs := by
  simp only [decodeChars?_eq_some_iff]
  constructor
  · rintro ⟨cs, hencode⟩
    rw [utf8Encode_eq, List.toByteArray_inj] at hencode
    exact ⟨cs, hencode⟩
  · rintro ⟨cs, rfl⟩
    rw [← utf8Encode_eq]
    exact ByteArray.isValidUTF8_utf8Encode

end ServiceCatalog.Utf8
