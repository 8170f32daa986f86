import ShaderLoom.Proofs.Outcomes
import ShaderLoom.Proofs.WrittenDecimals
import ShaderLoom.Value.Grid

/-!
# Reading numbers

Whatever a text or an integer is read as is a double-precision number, so a value whose numbers are
double-precision numbers is read as such.  A list of numbers is a grid of one level.  A text is read
character by character only if it consists of digits, and then the whole text is a number, too.
-/

namespace ShaderLoom

open Decimal

/-! ### Numbers in values -/

namespace Decimal

/-- The double of a decimal is canonical. -/
lemma isCanonical_toDouble (negative : Bool) (coefficient : ℕ) (power : ℤ) :
    (toDouble negative coefficient power).IsCanonical := by
  unfold toDouble
  dsimp only
  split
  · exact Double.isCanonical_ofRatio negative 0 Nat.one_pos
  split
  · trivial
  · exact Double.isCanonical_ofRatio negative _ (Number.tenTo_pos _)

/-- A double that is read from digits is canonical. -/
lemma isCanonical_of_readDigits? {negative : Bool} {text : List Char} {x : Double}
    (h : readDigits? negative text = some x) : x.IsCanonical := by
  unfold readDigits? at h
  dsimp only at h
  generalize (List.takeWhile Char.isDigit text) = whole at h
  split at h
  all_goals
    split at h
    · cases h
    · obtain ⟨exponent, -, rfl⟩ := Option.map_eq_some_iff.mp h
      exact isCanonical_toDouble _ _ _

/-- A text is read as a double-precision number. -/
theorem isCanonical_read? {text : List Char} {x : Double} (h : read? text = some x) :
    x.IsCanonical := by
  unfold read? at h
  split at h
  · cases h
  unfold readUnsigned? at h
  dsimp only at h
  split at h
  · cases h
    trivial
  split at h
  · cases h
    trivial
  exact isCanonical_of_readDigits? h

end Decimal

namespace Value

/-- The numbers in a value are double-precision numbers. -/
def IsProper (value : Value) : Prop := ∀ x, .number x ∈ value.leaves → x.IsCanonical

/-- The number of a value is canonical, if the value itself is no other double. -/
lemma isCanonical_of_toDouble {value : Value} (hproper : ∀ x, value = .number x → x.IsCanonical)
    {x : Double} (h : value.toDouble = .ok x) : x.IsCanonical := by
  cases value with
  | bool b =>
    cases h
    cases b with
    | true => decide
    | false => decide
  | int i =>
    cases hof : Double.ofInt? i with
    | none =>
      rw [toDouble, hof] at h
      cases h
    | some found =>
      rw [toDouble, hof] at h
      cases h
      have hcanonical := Double.isCanonical_ofRatio (decide (i < 0)) i.natAbs Nat.one_pos
      unfold Double.ofInt? at hof
      split at hof
      · next heq =>
        cases hof
        rwa [heq] at hcanonical
      · cases hof
  | number y =>
    cases h
    exact hproper x rfl
  | text s =>
    rw [toDouble, numberOfText] at h
    split at h
    · next hread =>
      cases h
      exact isCanonical_read? hread
    · cases h
  | null | list | record => cases h

/-- The entries of the grid of a proper value are canonical. -/
lemma isCanonical_of_toGrid {value : Value} (hproper : value.IsProper) {grid : Grid}
    (h : value.toGrid = .ok grid) : ∀ x ∈ grid.entries, x.IsCanonical := by
  unfold toGrid at h
  split at h
  · cases h
  split at h
  · cases h
  obtain ⟨entries, hentries, h⟩ := bind_eq_ok_iff.mp h
  cases h
  intro x hx
  obtain ⟨leaf, hleaf, hentry⟩ := (mem_iff_of_mapM_eq_ok hentries).mp hx
  unfold gridEntry at hentry
  split at hentry
  · cases hentry
    trivial
  · exact isCanonical_of_toDouble (fun y hy => hproper y (hy ▸ hleaf)) hentry

/-! ### Lists of numbers -/

/-- A value that is a number is its only leaf. -/
lemma leaves_of_toDouble {value : Value} {x : Double} (h : value.toDouble = .ok x) :
    value.leaves = [value] ∧ value.shape? = some [] ∧ value.gridEntry = .ok x := by
  cases value with
  | null | list | record => cases h
  | bool | int | number | text => exact ⟨rfl, rfl, h⟩

lemma commonShape?_of_forall {items : List Value} (h : ∀ item ∈ items, item.shape? = some []) :
    commonShape? items = some [] := by
  induction items with
  | nil => rfl
  | cons first rest ih =>
    have hrest := ih fun item hitem => h item (List.mem_cons_of_mem first hitem)
    cases rest with
    | nil => exact h first List.mem_cons_self
    | cons second rest =>
      rw [commonShape?, h first List.mem_cons_self, hrest]
      · rfl
      · exact nofun

/-- A list of numbers is a grid of one level. -/
lemma toGrid_of_mapM {items : List Value} {lanes : List Double}
    (h : items.mapM toDouble = .ok lanes) :
    (Value.list items).toGrid = .ok ⟨[items.length], lanes⟩ := by
  have hshape : (Value.list items).shape? = some [items.length] := by
    rw [shape?, commonShape?_of_forall fun item hitem => ?_]
    · rfl
    · obtain ⟨x, -, hx⟩ := exists_ok_of_mapM_eq_ok h hitem
      exact (leaves_of_toDouble hx).2.1
  have hleaves : (Value.list items).leaves = items ∧ items.mapM gridEntry = .ok lanes := by
    rw [leaves]
    clear hshape
    induction items generalizing lanes with
    | nil =>
      cases h
      exact ⟨rfl, rfl⟩
    | cons first rest ih =>
      rw [List.mapM_cons] at h
      obtain ⟨x, hx, h⟩ := bind_eq_ok_iff.mp h
      obtain ⟨others, hothers, h⟩ := bind_eq_ok_iff.mp h
      cases h
      obtain ⟨hleaves, hentries⟩ := ih hothers
      obtain ⟨hfirst, -, hentry⟩ := leaves_of_toDouble hx
      rw [leavesOf, hfirst, hleaves, List.mapM_cons, hentry, hentries]
      exact ⟨rfl, rfl⟩
  unfold toGrid
  rw [hshape]
  dsimp only
  rw [if_neg (by rw [List.length_singleton]; decide), hleaves.1, hleaves.2]
  rfl

end Value

/-! ### Texts of digits -/

namespace Decimal

/-- A digit of some script that counts when a text is read. -/
def IsAnyDigit (c : Char) : Prop := Text.isOuterBlank c = false ∧ (plainDigit c).isDigit = true

/-- A text of digits is read as the number that they spell. -/
lemma read?_of_digits {text : List Char} (hne : text ≠ []) (h : ∀ c ∈ text, IsAnyDigit c) :
    read? text = some (toDouble false (digitsValue (text.map plainDigit)) 0) := by
  have hdigits : AllDigit (text.map plainDigit) := by
    intro d hd
    obtain ⟨c, hc, rfl⟩ := List.mem_map.mp hd
    exact (h c hc).2
  have hunderscore : ∀ d ∈ text.map plainDigit, d ≠ '_' := by
    rintro d hd rfl
    exact absurd (hdigits '_' hd) (by decide)
  have hmap_ne : text.map plainDigit ≠ [] := fun hnil => hne (List.map_eq_nil_iff.mp hnil)
  obtain ⟨digit, rest, hcons⟩ := List.exists_cons_of_ne_nil hmap_ne
  have hdigit : digit.isDigit = true := hdigits digit (by rw [hcons]; exact List.mem_cons_self)
  have hsign : takeSign (signText false ++ text.map plainDigit) =
      (false, text.map plainDigit) := by
    rw [hcons]
    exact takeSign_signText hdigit
  have hunsigned : readUnsigned? false (text.map plainDigit) =
      readDigits? false (text.map plainDigit) := by
    rw [hcons]
    exact readUnsigned?_of_digit hdigit
  have hwhole : (text.map plainDigit).takeWhile Char.isDigit = text.map plainDigit := by
    have hrun := Text.takeWhile_run hdigits Text.notStarting_nil
    rwa [List.append_nil] at hrun
  have hrest : (text.map plainDigit).dropWhile Char.isDigit = [] := by
    have hrun := Text.dropWhile_run hdigits Text.notStarting_nil
    rwa [List.append_nil] at hrun
  have hempty : (text.map plainDigit).isEmpty = false := List.isEmpty_eq_false_iff.mpr hmap_ne
  unfold read?
  rw [trimBoth_of_forall fun c hc => (h c hc).1, dropUnderscores_of_forall (by decide) hunderscore]
  show readUnsigned? (takeSign (signText false ++ text.map plainDigit)).1
    (takeSign (signText false ++ text.map plainDigit)).2 = _
  rw [hsign, hunsigned]
  unfold readDigits?
  rw [hwhole, hrest]
  show (if ((text.map plainDigit).isEmpty && ([] : List Char).isEmpty) = true then none
    else (readExponent? []).map fun exponent => toDouble false
      (digitsValue (text.map plainDigit ++ [])) (exponent - ([] : List Char).length)) = _
  rw [hempty, Bool.false_and, if_neg Bool.false_ne_true, List.append_nil]
  rfl

/-- A character that is no digit is no number. -/
lemma readUnsigned?_singleton {negative : Bool} {c : Char} (h : c.isDigit = false) :
    readUnsigned? negative [c] = none := by
  have hword : ∀ word : List Char, word.length ≠ 1 →
      String.ofList ([c].map Char.toLower) ≠ String.ofList word := by
    intro word hlength heq
    have hchars := congrArg String.toList heq
    rw [String.toList_ofList, String.toList_ofList] at hchars
    rw [← hchars] at hlength
    exact hlength rfl
  have hinf : String.ofList ([c].map Char.toLower) ≠ "inf" := hword ['i', 'n', 'f'] (by decide)
  have hinfinity : String.ofList ([c].map Char.toLower) ≠ "infinity" :=
    hword ['i', 'n', 'f', 'i', 'n', 'i', 't', 'y'] (by decide)
  have hnan : String.ofList ([c].map Char.toLower) ≠ "nan" := hword ['n', 'a', 'n'] (by decide)
  have hwhole : [c].takeWhile Char.isDigit = [] := by
    rw [List.takeWhile_cons_of_neg (by rw [h]; exact Bool.false_ne_true)]
  have hrest : [c].dropWhile Char.isDigit = [c] := by
    rw [List.dropWhile_cons_of_neg (by rw [h]; exact Bool.false_ne_true)]
  unfold readUnsigned?
  dsimp only
  rw [if_neg (not_or.mpr ⟨hinf, hinfinity⟩), if_neg hnan]
  unfold readDigits?
  rw [hwhole, hrest]
  dsimp only
  split
  · next heq =>
    cases heq
    rfl
  · rfl

/-- A single character is a sign, or there is no sign. -/
lemma takeSign_singleton (c : Char) :
    (takeSign [c]).2 = [] ∨ takeSign [c] = (false, [c]) := by
  unfold takeSign
  split
  · next heq =>
    cases heq
    exact Or.inl rfl
  · next heq =>
    cases heq
    exact Or.inl rfl
  · exact Or.inr rfl

/-- A single character is read as a number only if it is a digit. -/
lemma isAnyDigit_of_read? {c : Char} {x : Double} (h : read? [c] = some x) : IsAnyDigit c := by
  have hnil : ∀ negative, readUnsigned? negative [] = none := by decide
  have hblank : Text.isOuterBlank c = false := by
    rw [← Bool.not_eq_true]
    intro hblank
    have hread : read? [c] = read? [] := by
      have htrim : Text.trimBoth Text.isOuterBlank [c] = [] := by
        unfold Text.trimBoth
        rw [List.dropWhile_cons_of_pos hblank]
        rfl
      unfold read?
      rw [htrim]
      rfl
    have hnone : read? [] = none := by decide
    rw [hread, hnone] at h
    cases h
  refine ⟨hblank, ?_⟩
  by_contra hdigit
  rw [Bool.not_eq_true] at hdigit
  have htrim : Text.trimBoth Text.isOuterBlank [c] = [c] :=
    trimBoth_of_forall fun d hd => by rw [List.mem_singleton.mp hd, hblank]
  unfold read? at h
  rw [htrim, List.map_singleton] at h
  split at h
  · cases h
  next text htext =>
  -- the text is the character, unless the character is an underscore
  have heq : text = [plainDigit c] := by
    by_cases hmark : plainDigit c = '_'
    · rw [dropUnderscores, if_pos hmark] at htext
      cases htext
    · rw [dropUnderscores_of_forall (by decide)
        fun d hd => by rw [List.mem_singleton.mp hd]; exact hmark] at htext
      exact (Option.some.inj htext).symm
  subst heq
  have hunsigned : readUnsigned? (takeSign [plainDigit c]).1 (takeSign [plainDigit c]).2 =
      some x := h
  rcases takeSign_singleton (plainDigit c) with hsign | hsign
  · rw [hsign, hnil] at hunsigned
    cases hunsigned
  · rw [hsign, readUnsigned?_singleton hdigit] at hunsigned
    cases hunsigned

end Decimal

end ShaderLoom
