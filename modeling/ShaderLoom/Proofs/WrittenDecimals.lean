import ShaderLoom.Proofs.CharacterClasses
import ShaderLoom.Proofs.ShortestDecimals
import ShaderLoom.Decimal.Layout

/-!
# Written doubles read back

A double is written as digits, a point, digits and perhaps an exponent part.  Whichever way the
digits of its shortest decimal are laid out, the text has the value of this decimal, so it is read
as the double that was written.
-/

namespace ShaderLoom.Decimal

open Text

/-! ### Characters of written numbers -/

/-- A character of a written number. -/
def IsPlain (c : Char) : Prop := c.isDigit = true ∨ c = '.' ∨ c = 'e' ∨ c = '+' ∨ c = '-'

/-- Digits are told by their codes. -/
lemma isDigit_iff {c : Char} : c.isDigit = true ↔ 0x30 ≤ c.toNat ∧ c.toNat ≤ 0x39 := by
  delta Char.isDigit
  simp only [Bool.and_eq_true, decide_eq_true_eq, ge_iff_le, UInt32.le_iff_toNat_le]
  rfl

/-- The characters of written numbers are visible and belong to the first 128. -/
lemma IsPlain.codes {c : Char} (h : IsPlain c) : 0x20 < c.toNat ∧ c.toNat < 0x80 := by
  rcases h with h | rfl | rfl | rfl | rfl
  · have hcodes := isDigit_iff.mp h
    omega
  all_goals decide

/-- A character of a written number is not trimmed. -/
lemma IsPlain.isOuterBlank_eq_false {c : Char} (h : IsPlain c) : isOuterBlank c = false := by
  have hcodes := h.codes
  have hblank : isBlank c = false := by
    rw [← Bool.not_eq_true]
    intro hblank
    have hle := isBlank_ascii_le hcodes.2 hblank
    omega
  unfold isOuterBlank
  rw [hblank, Bool.false_and]

/-- A character of a written number is read as it is. -/
lemma IsPlain.plainDigit_eq {c : Char} (h : IsPlain c) : plainDigit c = c := by
  unfold plainDigit digitValue?
  rw [if_pos h.codes.2]
  by_cases hdigit : c.isDigit = true
  · have hcodes := isDigit_iff.mp hdigit
    rw [if_pos hdigit]
    dsimp only
    rw [Nat.add_sub_cancel' hcodes.1, Char.ofNat_toNat]
  · rw [if_neg hdigit]

lemma IsPlain.ne_underscore {c : Char} (h : IsPlain c) : c ≠ '_' := by
  rintro rfl
  revert h
  unfold IsPlain
  decide

/-- A text without characters to trim stays as it is. -/
lemma trimBoth_of_forall {p : Char → Bool} {text : List Char} (h : ∀ c ∈ text, p c = false) :
    trimBoth p text = text := by
  have hdrop : ∀ chars : List Char, (∀ c ∈ chars, p c = false) → chars.dropWhile p = chars := by
    intro chars hchars
    cases chars with
    | nil => rfl
    | cons c rest => rw [List.dropWhile_cons_of_neg (by simp [hchars c List.mem_cons_self])]
  unfold trimBoth
  rw [hdrop text h, hdrop text.reverse fun c hc => h c (List.mem_reverse.mp hc),
    List.reverse_reverse]

/-- A text without underscores stays as it is. -/
lemma dropUnderscores_of_forall {before : Char} {text : List Char} (hbefore : before ≠ '_')
    (h : ∀ c ∈ text, c ≠ '_') : dropUnderscores before text = some text := by
  induction text generalizing before with
  | nil => rw [dropUnderscores, if_neg hbefore]
  | cons c rest ih =>
    have hc := h c List.mem_cons_self
    rw [dropUnderscores, if_neg hc, if_neg (fun hboth => hbefore hboth.1),
      ih hc fun d hd => h d (List.mem_cons_of_mem c hd)]
    rfl

/-- The sign in front of digits is read back. -/
lemma takeSign_signText {negative : Bool} {digit : Char} {rest : List Char}
    (h : digit.isDigit = true) :
    takeSign (signText negative ++ digit :: rest) = (negative, digit :: rest) := by
  cases negative with
  | true => rfl
  | false =>
    have hminus : digit ≠ '-' := by
      rintro rfl
      cases h
    have hplus : digit ≠ '+' := by
      rintro rfl
      cases h
    show takeSign (digit :: rest) = (false, digit :: rest)
    unfold takeSign
    split
    · next heq =>
      cases heq
      exact absurd rfl hminus
    · next heq =>
      cases heq
      exact absurd rfl hplus
    · rfl

/-- A text that begins with a digit is none of the words that are numbers. -/
lemma readUnsigned?_of_digit {negative : Bool} {digit : Char} {rest : List Char}
    (h : digit.isDigit = true) :
    readUnsigned? negative (digit :: rest) = readDigits? negative (digit :: rest) := by
  have hlower : digit.toLower = digit := by
    have hcodes := isDigit_iff.mp h
    have hupper : ¬(digit.val ≥ 'A'.val ∧ digit.val ≤ 'Z'.val) := by
      rintro ⟨hlow, -⟩
      have hle : 0x41 ≤ digit.toNat := UInt32.le_iff_toNat_le.mp hlow
      omega
    exact dif_neg hupper
  have hword : ∀ first : Char, first.isDigit = false → ∀ others : List Char,
      String.ofList ((digit :: rest).map Char.toLower) ≠ String.ofList (first :: others) := by
    intro first hfirst others heq
    have hchars := congrArg String.toList heq
    rw [String.toList_ofList, String.toList_ofList, List.map_cons, hlower] at hchars
    rw [(List.cons.inj hchars).1, hfirst] at h
    cases h
  have hinf : String.ofList ((digit :: rest).map Char.toLower) ≠ "inf" := hword 'i' rfl ['n', 'f']
  have hinfinity : String.ofList ((digit :: rest).map Char.toLower) ≠ "infinity" :=
    hword 'i' rfl ['n', 'f', 'i', 'n', 'i', 't', 'y']
  have hnan : String.ofList ((digit :: rest).map Char.toLower) ≠ "nan" := hword 'n' rfl ['a', 'n']
  unfold readUnsigned?
  dsimp only
  rw [if_neg (not_or.mpr ⟨hinf, hinfinity⟩), if_neg hnan]

/-- A sign belongs to the characters of written numbers. -/
lemma isPlain_of_mem_signText {negative : Bool} {c : Char} (h : c ∈ signText negative) :
    IsPlain c := by
  unfold signText at h
  split at h
  · rw [List.mem_singleton.mp h]
    exact Or.inr (Or.inr (Or.inr (Or.inr rfl)))
  · cases h

/-- A written number is read without its sign. -/
lemma read?_signText {negative : Bool} {digit : Char} {rest : List Char}
    (hdigit : digit.isDigit = true) (h : ∀ c ∈ digit :: rest, IsPlain c) :
    read? (signText negative ++ digit :: rest) = readDigits? negative (digit :: rest) := by
  have hplain : ∀ c ∈ signText negative ++ digit :: rest, IsPlain c := by
    intro c hc
    rcases List.mem_append.mp hc with hc | hc
    · exact isPlain_of_mem_signText hc
    · exact h c hc
  have hmap : (signText negative ++ digit :: rest).map plainDigit =
      signText negative ++ digit :: rest := by
    conv_rhs => rw [← List.map_id (signText negative ++ digit :: rest)]
    exact List.map_congr_left fun c hc => (hplain c hc).plainDigit_eq
  unfold read?
  rw [trimBoth_of_forall fun c hc => (hplain c hc).isOuterBlank_eq_false, hmap,
    dropUnderscores_of_forall (by decide) fun c hc => (hplain c hc).ne_underscore]
  dsimp only
  rw [takeSign_signText hdigit]
  exact readUnsigned?_of_digit hdigit

/-! ### Digits -/

/-- A text of digits only. -/
def AllDigit (text : List Char) : Prop := ∀ c ∈ text, c.isDigit = true

lemma allDigit_append {a b : List Char} : AllDigit (a ++ b) ↔ AllDigit a ∧ AllDigit b := by
  simp [AllDigit, or_imp, forall_and]

lemma allDigit_zeros (n : ℕ) : AllDigit (List.replicate n '0') := by
  intro c hc
  rw [List.eq_of_mem_replicate hc]
  rfl

lemma allDigit_toDigits (n : ℕ) : AllDigit (Nat.toDigits 10 n) :=
  fun _ hc => Nat.isDigit_of_mem_toDigits (by decide) (by decide) hc

/-- The value of digits is that of the numeral in base ten. -/
lemma digitsValue_eq (digits : List Char) : digitsValue digits = Nat.ofDigitChars 10 digits 0 :=
  Nat.ofDigitChars_eq_foldl.symm

/-- Digits that follow others stand for the lower places. -/
lemma digitsValue_append (a b : List Char) :
    digitsValue (a ++ b) = digitsValue a * 10 ^ b.length + digitsValue b := by
  rw [digitsValue_eq, digitsValue_eq, digitsValue_eq, Nat.ofDigitChars_append,
    Nat.ofDigitChars_eq_ofDigitChars_zero, Nat.mul_comm]

lemma digitsValue_zeros (n : ℕ) : digitsValue (List.replicate n '0') = 0 := by
  rw [digitsValue_eq, Nat.ofDigitChars_replicate_zero, Nat.mul_zero]

/-- A number is the value of its digits. -/
lemma digitsValue_toDigits (n : ℕ) : digitsValue (Nat.toDigits 10 n) = n := by
  rw [digitsValue_eq, Nat.ofDigitChars_ten_toDigits]

/-- The digits of a number are its significant digits and zeros. -/
lemma exists_toDigits_eq (coefficient : ℕ) :
    ∃ zeros, Nat.toDigits 10 coefficient =
      significant coefficient ++ List.replicate zeros '0' ∧ significant coefficient ≠ [] := by
  generalize hkept : ((Nat.toDigits 10 coefficient).reverse.dropWhile (· == '0')).reverse = kept
  generalize hcut : ((Nat.toDigits 10 coefficient).reverse.takeWhile (· == '0')).reverse = cut
  have hdigits : Nat.toDigits 10 coefficient = kept ++ cut := by
    rw [← hkept, ← hcut, ← List.reverse_append, List.takeWhile_append_dropWhile,
      List.reverse_reverse]
  have hzeros : cut = List.replicate cut.length '0' := by
    refine List.eq_replicate_of_mem fun c hc => ?_
    rw [← hcut, List.mem_reverse] at hc
    exact beq_iff_eq.mp (List.all_eq_true.mp List.all_takeWhile c hc)
  have hsignificant : significant coefficient = if kept = [] then ['0'] else kept := by
    unfold significant
    rw [hkept]
    cases kept with
    | nil => rfl
    | cons c rest => rfl
  by_cases hnil : kept = []
  · -- only zero has no other digits
    rw [hnil, List.nil_append, hzeros] at hdigits
    have hvalue := digitsValue_toDigits coefficient
    rw [hdigits, digitsValue_zeros] at hvalue
    rw [hsignificant, if_pos hnil, ← hvalue]
    exact ⟨0, rfl, by decide⟩
  · rw [hsignificant, if_neg hnil]
    exact ⟨cut.length, by rw [hdigits, ← hzeros], hnil⟩

/-! ### Numbers with a point -/

/-- A number that is written with a point and perhaps an exponent part. -/
structure Pointed where
  whole : List Char
  fraction : List Char
  tail : List Char
  exponent : ℤ
  whole_ne_nil : whole ≠ []
  fraction_ne_nil : fraction ≠ []
  whole_digit : AllDigit whole
  fraction_digit : AllDigit fraction
  tail_plain : ∀ c ∈ tail, IsPlain c
  tail_start : NotStarting Char.isDigit tail
  tail_exponent : readExponent? tail = some exponent

namespace Pointed

/-- The text of the number. -/
def text (number : Pointed) : List Char := number.whole ++ '.' :: (number.fraction ++ number.tail)

/-- The value of the number. -/
def value (number : Pointed) : ℚ :=
  digitsValue (number.whole ++ number.fraction) * 10 ^ (number.exponent - number.fraction.length)

/-- A text with a point is read as the double that is closest to its digits. -/
lemma readDigits?_text (number : Pointed) (negative : Bool) :
    readDigits? negative number.text = some (toDouble negative
      (digitsValue (number.whole ++ number.fraction))
      (number.exponent - number.fraction.length)) := by
  have hpoint : NotStarting Char.isDigit ('.' :: (number.fraction ++ number.tail)) :=
    notStarting_cons.mpr rfl
  have hempty : number.whole.isEmpty = false := by
    rw [List.isEmpty_eq_false_iff]
    exact number.whole_ne_nil
  unfold readDigits? text
  rw [takeWhile_run number.whole_digit hpoint, dropWhile_run number.whole_digit hpoint]
  show (if (number.whole.isEmpty &&
      ((number.fraction ++ number.tail).takeWhile Char.isDigit).isEmpty) = true then none
    else (readExponent? ((number.fraction ++ number.tail).dropWhile Char.isDigit)).map
      fun exponent => toDouble negative
        (digitsValue (number.whole ++ (number.fraction ++ number.tail).takeWhile Char.isDigit))
        (exponent - ((number.fraction ++ number.tail).takeWhile Char.isDigit).length)) = _
  rw [takeWhile_run number.fraction_digit number.tail_start,
    dropWhile_run number.fraction_digit number.tail_start, hempty, Bool.false_and,
    if_neg Bool.false_ne_true, number.tail_exponent]
  rfl

/-- A text with a point has characters of written numbers only. -/
lemma isPlain_of_mem_text (number : Pointed) {c : Char} (h : c ∈ number.text) : IsPlain c := by
  rcases List.mem_append.mp h with h | h
  · exact Or.inl (number.whole_digit c h)
  rcases List.mem_cons.mp h with rfl | h
  · exact Or.inr (Or.inl rfl)
  rcases List.mem_append.mp h with h | h
  · exact Or.inl (number.fraction_digit c h)
  · exact number.tail_plain c h

/-- With a sign in front, the number is read as the double nearest to it. -/
lemma read?_signText_text (number : Pointed) (negative : Bool) :
    read? (signText negative ++ number.text) = some (toDouble negative
      (digitsValue (number.whole ++ number.fraction))
      (number.exponent - number.fraction.length)) := by
  rw [← number.readDigits?_text]
  have hplain := fun c => number.isPlain_of_mem_text (c := c)
  obtain ⟨digit, rest, hwhole⟩ := List.exists_cons_of_ne_nil number.whole_ne_nil
  have hdigit : digit.isDigit = true := number.whole_digit digit (by rw [hwhole]; simp)
  have htext : number.text = digit :: (rest ++ '.' :: (number.fraction ++ number.tail)) := by
    unfold text
    rw [hwhole, List.cons_append]
  rw [htext] at hplain ⊢
  exact read?_signText hdigit hplain

end Pointed

/-! ### The layouts -/

/-- An exponent part is read back. -/
lemma readExponent?_exponentPart (exponent : ℤ) :
    readExponent? (exponentPart exponent) = some exponent := by
  have hdigits : AllDigit (List.replicate (2 - (Nat.toDigits 10 exponent.natAbs).length) '0' ++
      Nat.toDigits 10 exponent.natAbs) :=
    allDigit_append.mpr ⟨allDigit_zeros _, allDigit_toDigits _⟩
  have hvalue : digitsValue (List.replicate (2 - (Nat.toDigits 10 exponent.natAbs).length) '0' ++
      Nat.toDigits 10 exponent.natAbs) = exponent.natAbs := by
    rw [digitsValue_append, digitsValue_zeros, digitsValue_toDigits, Nat.zero_mul, Nat.zero_add]
  have hne : List.replicate (2 - (Nat.toDigits 10 exponent.natAbs).length) '0' ++
      Nat.toDigits 10 exponent.natAbs ≠ [] :=
    List.append_ne_nil_of_right_ne_nil _ Nat.toDigits_ne_nil
  have hsign : ∀ rest : List Char, takeSign ((if exponent < 0 then '-' else '+') :: rest) =
      (decide (exponent < 0), rest) := by
    intro rest
    split
    · next h => rw [decide_eq_true h]; rfl
    · next h => rw [decide_eq_false h]; rfl
  unfold exponentPart readExponent?
  dsimp only [List.cons_append]
  rw [hsign]
  dsimp only
  rw [if_pos ⟨Or.inl rfl, hne, List.all_eq_true.mpr hdigits⟩, hvalue]
  unfold Double.signed
  by_cases h : exponent < 0
  · rw [decide_eq_true h, if_pos rfl]
    exact congrArg some (by omega)
  · rw [decide_eq_false h, if_neg Bool.false_ne_true]
    exact congrArg some (by omega)

/-- An exponent part has characters of written numbers only. -/
lemma isPlain_of_mem_exponentPart {exponent : ℤ} {c : Char} (h : c ∈ exponentPart exponent) :
    IsPlain c := by
  unfold exponentPart at h
  dsimp only [List.cons_append] at h
  rcases List.mem_cons.mp h with rfl | h
  · exact Or.inr (Or.inr (Or.inl rfl))
  rcases List.mem_cons.mp h with rfl | h
  · split
    · exact Or.inr (Or.inr (Or.inr (Or.inr rfl)))
    · exact Or.inr (Or.inr (Or.inr (Or.inl rfl)))
  · rcases List.mem_append.mp h with h | h
    · exact Or.inl (allDigit_zeros _ c h)
    · exact Or.inl (allDigit_toDigits _ c h)

/-- The digits of a fraction, of which there is always one. -/
lemma allDigit_fraction {fraction : List Char} (h : AllDigit fraction) :
    (if fraction.isEmpty then ['0'] else fraction) ≠ [] ∧
      AllDigit (if fraction.isEmpty then ['0'] else fraction) := by
  split
  · exact ⟨List.cons_ne_nil _ _, allDigit_zeros 1⟩
  · next hempty =>
    rw [List.isEmpty_iff] at hempty
    exact ⟨hempty, h⟩

/-- Digits that are cut by a point, with a zero behind the point if there is no other digit. -/
lemma value_cut {whole fraction : List Char} {exponent : ℤ} :
    (digitsValue (whole ++ if fraction.isEmpty then ['0'] else fraction) *
      10 ^ (exponent - (if fraction.isEmpty then ['0'] else fraction).length) : ℚ) =
        digitsValue (whole ++ fraction) * 10 ^ (exponent - fraction.length) := by
  cases fraction with
  | nil =>
    have hzero : digitsValue ['0'] = 0 := rfl
    show (digitsValue (whole ++ ['0']) * 10 ^ (exponent - (1 : ℕ)) : ℚ) =
      digitsValue (whole ++ []) * 10 ^ (exponent - (0 : ℕ))
    rw [digitsValue_append, hzero, List.append_nil, zpow_sub₀ (by norm_num)]
    push_cast
    field_simp
    simp
  | cons digit rest => rfl

/-- Digits of which some stand before the point, filled up with zeros if there are too few. -/
lemma value_padded (digits : List Char) (whole : ℕ) :
    (digitsValue (digits.take whole ++ List.replicate (whole - digits.length) '0' ++
      digits.drop whole) * 10 ^ ((0 : ℤ) - (digits.drop whole).length) : ℚ) =
        digitsValue digits * 10 ^ ((whole : ℤ) - digits.length) := by
  rcases Nat.le_total digits.length whole with hle | hle
  · rw [List.take_of_length_le hle, List.drop_of_length_le hle, List.append_nil,
      digitsValue_append, digitsValue_zeros, List.length_replicate, Nat.add_zero, Nat.cast_mul,
      Nat.cast_pow, mul_assoc, Nat.cast_ofNat, ← zpow_natCast, ← zpow_add₀ (by norm_num),
      List.length_nil]
    congr 2
    omega
  · rw [Nat.sub_eq_zero_of_le hle, List.replicate_zero, List.append_nil, List.take_append_drop,
      List.length_drop]
    congr 2
    omega

/-- Digits in positional notation are a text with a point and their value. -/
lemma exists_pointed_positional {digits : List Char} (hne : digits ≠ []) (hdigits : AllDigit digits)
    (lead : ℤ) : ∃ number : Pointed, positional digits lead = number.text ∧
      number.value = digitsValue digits * 10 ^ (lead + 1 - digits.length) ∧ number.tail = [] := by
  unfold positional
  split
  · next hlead =>
    have hfraction : AllDigit (List.replicate (-lead - 1).toNat '0' ++ digits) :=
      allDigit_append.mpr ⟨allDigit_zeros _, hdigits⟩
    let number : Pointed :=
      ⟨['0'], List.replicate (-lead - 1).toNat '0' ++ digits, [], 0, List.cons_ne_nil _ _,
        List.append_ne_nil_of_right_ne_nil _ hne, allDigit_zeros 1, hfraction,
        fun _ h => absurd h List.not_mem_nil, notStarting_nil, rfl⟩
    refine ⟨number, ?_, ?_, rfl⟩
    · simp [number, Pointed.text]
    · have hvalue : digitsValue (['0'] ++ (List.replicate (-lead - 1).toNat '0' ++ digits)) =
          digitsValue digits := by
        rw [← List.append_assoc, digitsValue_append]
        have hzeros : digitsValue (['0'] ++ List.replicate (-lead - 1).toNat '0') = 0 :=
          digitsValue_zeros ((-lead - 1).toNat + 1)
        rw [hzeros, Nat.zero_mul, Nat.zero_add]
      show (digitsValue (['0'] ++ (List.replicate (-lead - 1).toNat '0' ++ digits)) *
        10 ^ ((0 : ℤ) - (List.replicate (-lead - 1).toNat '0' ++ digits).length) : ℚ) = _
      rw [hvalue, List.length_append, List.length_replicate]
      congr 2
      omega
  · next hlead =>
    dsimp only
    generalize hwhole : lead.toNat + 1 = whole
    have hkept : AllDigit (digits.take whole ++ List.replicate (whole - digits.length) '0') :=
      allDigit_append.mpr ⟨fun c hc => hdigits c (List.mem_of_mem_take hc), allDigit_zeros _⟩
    have hfraction := allDigit_fraction fun c hc => hdigits c (List.mem_of_mem_drop (i := whole) hc)
    have hkept_ne : digits.take whole ++ List.replicate (whole - digits.length) '0' ≠ [] := by
      refine List.append_ne_nil_of_left_ne_nil (fun hnil => hne ?_) _
      exact (List.take_eq_nil_iff.mp hnil).resolve_left (by omega)
    let number : Pointed :=
      ⟨digits.take whole ++ List.replicate (whole - digits.length) '0',
        if (digits.drop whole).isEmpty then ['0'] else digits.drop whole, [], 0, hkept_ne,
        hfraction.1, hkept, hfraction.2, fun _ h => absurd h List.not_mem_nil, notStarting_nil,
        rfl⟩
    refine ⟨number, by simp [number, Pointed.text],
      (value_cut.trans (value_padded digits whole)).trans ?_, rfl⟩
    congr 2
    omega

/-- Digits in scientific notation are a text with a point and their value. -/
lemma exists_pointed_scientific {layout : Layout} (hlayout : layout.pointBeforeExponent = true)
    {digits : List Char} (hne : digits ≠ []) (hdigits : AllDigit digits) (lead : ℤ) :
    ∃ number : Pointed, scientific layout digits lead = number.text ∧
      number.value = digitsValue digits * 10 ^ (lead + 1 - digits.length) ∧
      number.tail = exponentPart lead := by
  have hkept : AllDigit (digits.take 1) := fun c hc => hdigits c (List.mem_of_mem_take hc)
  have hfraction := allDigit_fraction fun c hc => hdigits c (List.mem_of_mem_drop (i := 1) hc)
  have hkept_ne : digits.take 1 ≠ [] := fun hnil =>
    hne ((List.take_eq_nil_iff.mp hnil).resolve_left (by decide))
  let number : Pointed :=
    ⟨digits.take 1, if (digits.drop 1).isEmpty then ['0'] else digits.drop 1, exponentPart lead,
      lead, hkept_ne, hfraction.1, hkept, hfraction.2, fun _ => isPlain_of_mem_exponentPart,
      notStarting_cons.mpr rfl, readExponent?_exponentPart lead⟩
  refine ⟨number, ?_, value_cut.trans ?_, rfl⟩
  · unfold scientific
    dsimp only
    rw [hlayout]
    show _ = digits.take 1 ++ '.' :: ((if (digits.drop 1).isEmpty then ['0'] else digits.drop 1) ++
      exponentPart lead)
    split
    · simp
    · simp
  · have hlength : 0 < digits.length := List.length_pos_iff.mpr hne
    show (digitsValue (digits.take 1 ++ digits.drop 1) *
      10 ^ (lead - (digits.drop 1).length) : ℚ) = _
    rw [List.take_append_drop, List.length_drop]
    congr 2
    omega

/-- A decimal is written as a number of its value, with or without an exponent part. -/
theorem exists_pointed_write {layout : Layout} (hlayout : layout.pointBeforeExponent = true)
    (decimal : Scaled) :
    ∃ number : Pointed, decimal.write layout = number.text ∧
      number.value = decimal.coefficient * 10 ^ decimal.power ∧
      (number.tail = [] ∨ ∃ exponent, number.tail = exponentPart exponent) := by
  obtain ⟨zeros, htoDigits, hne⟩ := exists_toDigits_eq decimal.coefficient
  have hdigits : AllDigit (significant decimal.coefficient) := by
    have hall := allDigit_toDigits decimal.coefficient
    rw [htoDigits] at hall
    exact (allDigit_append.mp hall).1
  have hvalue : digitsValue (significant decimal.coefficient) * 10 ^ zeros =
      decimal.coefficient := by
    have h := digitsValue_toDigits decimal.coefficient
    rw [htoDigits, digitsValue_append, digitsValue_zeros, List.length_replicate] at h
    exact h
  have hcount : digitCount decimal.coefficient =
      (significant decimal.coefficient).length + zeros := by
    unfold digitCount
    rw [htoDigits, List.length_append, List.length_replicate]
  -- the zeros that are left out count as powers of ten
  have hscaled : (digitsValue (significant decimal.coefficient) * 10 ^ (decimal.power +
      digitCount decimal.coefficient - 1 + 1 - (significant decimal.coefficient).length) : ℚ) =
        decimal.coefficient * 10 ^ decimal.power := by
    have hexponent : decimal.power + digitCount decimal.coefficient - 1 + 1 -
        (significant decimal.coefficient).length = (zeros : ℤ) + decimal.power := by
      rw [hcount]
      push_cast
      ring
    have hcast : (decimal.coefficient : ℚ) =
        digitsValue (significant decimal.coefficient) * 10 ^ zeros := by
      exact_mod_cast hvalue.symm
    rw [hexponent, zpow_add₀ (by norm_num), zpow_natCast, ← mul_assoc, hcast]
  unfold Scaled.write
  dsimp only
  rw [← hscaled]
  split
  · obtain ⟨number, htext, hvalue, htail⟩ := exists_pointed_positional hne hdigits _
    exact ⟨number, htext, hvalue, Or.inl htail⟩
  · obtain ⟨number, htext, hvalue, htail⟩ := exists_pointed_scientific hlayout hne hdigits _
    exact ⟨number, htext, hvalue, Or.inr ⟨_, htail⟩⟩

/-- A double that is written with a point is read back. -/
theorem read?_write {layout : Layout} (hlayout : layout.pointBeforeExponent = true)
    {negative : Bool} {mantissa : ℕ} {exponent : ℤ}
    (hcanonical : Double.IsCanonical (.finite negative mantissa exponent)) :
    read? (write layout (.finite negative mantissa exponent)) =
      some (.finite negative mantissa exponent) := by
  unfold write
  dsimp only
  split
  · next hzero =>
    obtain ⟨number, htext, hvalue, -⟩ := exists_pointed_write hlayout ⟨0, 0⟩
    have hdigits : digitsValue (number.whole ++ number.fraction) = 0 := by
      unfold Pointed.value at hvalue
      rw [Nat.cast_zero, zero_mul] at hvalue
      exact_mod_cast (mul_eq_zero.mp hvalue).resolve_right (zpow_ne_zero _ (by norm_num))
    have hexponent : exponent = Double.leastExponent := by
      refine hcanonical.2.2.2.resolve_left fun hle => ?_
      rw [hzero] at hle
      exact absurd hle (by decide)
    rw [htext, number.read?_signText_text, hdigits, hzero, hexponent]
    unfold toDouble
    dsimp only
    rw [if_pos (Or.inl rfl)]
    rfl
  · next hzero =>
    obtain ⟨number, htext, hvalue, -⟩ := exists_pointed_write hlayout (shortest mantissa exponent)
    rw [htext, number.read?_signText_text]
    exact congrArg some (toDouble_shortest negative (Nat.pos_of_ne_zero hzero) hcanonical hvalue)

/-- A finite double is written with characters of written numbers only. -/
lemma isPlain_of_mem_write {layout : Layout} (hlayout : layout.pointBeforeExponent = true)
    {negative : Bool} {mantissa : ℕ} {exponent : ℤ} {c : Char}
    (h : c ∈ write layout (.finite negative mantissa exponent)) : IsPlain c := by
  rcases List.mem_append.mp h with h | h
  · exact isPlain_of_mem_signText h
  · obtain ⟨number, htext, -⟩ := exists_pointed_write hlayout
      (if mantissa = 0 then ⟨0, 0⟩ else shortest mantissa exponent)
    rw [htext] at h
    exact number.isPlain_of_mem_text h

end ShaderLoom.Decimal
