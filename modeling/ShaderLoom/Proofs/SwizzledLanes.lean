import Mathlib.Data.List.Forall2
import ShaderLoom.Emission
import ShaderLoom.Palette.Inputs
import ShaderLoom.Palette.Vectors
import ShaderLoom.Proofs.Compilability
import ShaderLoom.Proofs.ConvertedLanes
import ShaderLoom.Proofs.Notices
import ShaderLoom.Proofs.RenamedHelpers

/-!
# What swizzles mean

A pattern is a text of one to four letters between blanks, each of which names a lane by a letter of
`xyzw` or `rgba` in either case.  Letters outside ASCII do not count, since none of them has such a
letter for its small form.  The code of a swizzle is one assignment; its value takes the lanes of
the input that the letters name and fills up the rest, whatever expression the input is.  Any other
pattern passes the input through and leaves one warning, which shows the pattern.  Where it cannot
be shown, as it holds too long an integer or is nested too deep, there is neither code nor warning.
-/

namespace ShaderLoom

open Text Expression

/-! ### Letters in lower case -/

namespace Text

/-- The letters that name lanes. -/
def laneLetters : List Char := ['x', 'y', 'z', 'w', 'r', 'g', 'b', 'a']

/-- The letters that name lanes are ASCII. -/
lemma laneLetters_ascii {letter : Char} (h : letter ∈ laneLetters) :
    0 < letter.toNat ∧ letter.toNat < 0x80 := by
  have hall : laneLetters.all (fun letter => 0 < letter.toNat && letter.toNat < 0x80) = true := by
    decide
  simpa using List.all_eq_true.mp hall letter h

/-- No run of capital letters outside ASCII has one of these letters as a small form. -/
lemma caseRuns_apart_laneLetters : caseRuns.all (fun run => laneLetters.all fun letter =>
    letter.toNat < run.first + run.shift || run.last + run.shift < letter.toNat) = true := by
  decide +kernel

lemma lowerChar_ne_nil (c : Char) : lowerChar c ≠ [] := by
  unfold lowerChar
  split
  · exact List.cons_ne_nil _ _
  split
  · exact List.cons_ne_nil _ _
  split
  · exact List.cons_ne_nil _ _
  · exact List.cons_ne_nil _ _

/-- Only ASCII letters have a letter of a lane as their small form. -/
lemma of_lowerChar_eq_cons {c letter : Char} {more : List Char} (hletter : letter ∈ laneLetters)
    (h : lowerChar c = letter :: more) : c.toLower = letter ∧ more = [] := by
  have hascii := laneLetters_ascii hletter
  unfold lowerChar at h
  split at h
  · cases h
    exact ⟨rfl, rfl⟩
  · next hc =>
    split at h
    · have hdot : 'i' ∉ laneLetters := by decide
      cases h
      exact absurd hletter hdot
    split at h
    · next run hrun =>
      -- the run would have to reach down to the letter
      have hcovers := List.find?_some hrun
      have hapart := List.all_eq_true.mp (List.all_eq_true.mp caseRuns_apart_laneLetters run
        (List.mem_of_find?_eq_some hrun)) letter hletter
      have hcode : (Char.ofNat (c.toNat + run.shift).toNat).toNat = letter.toNat := by
        rw [(List.cons.inj h).1]
      simp only [CaseRun.covers, Bool.and_eq_true, Bool.or_eq_true, decide_eq_true_eq]
        at hcovers hapart
      by_cases hvalid : (c.toNat + run.shift).toNat.isValidChar
      · rw [Char.ofNat, dif_pos hvalid] at hcode
        have hsmall : (c.toNat + run.shift).toNat = letter.toNat := hcode
        omega
      · rw [Char.ofNat, dif_neg hvalid] at hcode
        have hzero : 0 = letter.toNat := hcode
        omega
    · cases h
      omega

/-- A character whose ASCII form in lower case is a letter of a lane is itself in ASCII. -/
lemma ascii_of_toLower_mem {c : Char} (h : c.toLower ∈ laneLetters) : c.toNat < 0x80 := by
  by_contra hc
  have hsame : c.toLower = c := by
    unfold Char.toLower
    rw [dif_neg]
    rintro ⟨-, hle⟩
    have hcode : c.toNat ≤ 90 := hle
    omega
  rw [hsame] at h
  exact hc (laneLetters_ascii h).2

/-- A letter of a lane comes from one character, and does not depend on those before it. -/
lemma lowerAfter_cons_eq_iff {before rest letters : List Char} {c letter : Char}
    (hletter : letter ∈ laneLetters) : lowerAfter before (c :: rest) = letter :: letters ↔
      c.toLower = letter ∧ lowerAfter (c :: before) rest = letters := by
  rw [lowerAfter]
  constructor
  · intro h
    split at h
    · -- a final sigma is no letter of a lane
      have hsigma : Char.ofNat 0x3c2 ∉ laneLetters := by decide
      rw [List.singleton_append] at h
      exact absurd ((List.cons.inj h).1 ▸ hletter) hsigma
    · obtain ⟨first, more, hsmall⟩ := List.exists_cons_of_ne_nil (lowerChar_ne_nil c)
      rw [hsmall, List.cons_append] at h
      obtain ⟨rfl, htail⟩ := List.cons.inj h
      obtain ⟨hlower, rfl⟩ := of_lowerChar_eq_cons hletter hsmall
      exact ⟨hlower, htail⟩
  · rintro ⟨rfl, rfl⟩
    have hascii := ascii_of_toLower_mem hletter
    have hsigma : (c.toNat == 0x3a3) = false := by
      rw [beq_eq_false_iff_ne]
      omega
    rw [hsigma, Bool.false_and, Bool.false_and, if_neg Bool.false_ne_true, lowerChar, if_pos hascii]
    rfl

/-- Where the lower case of a text has letters of lanes only, it is that of ASCII. -/
lemma lowerAfter_eq_iff {letters : List Char} (hletters : ∀ letter ∈ letters, letter ∈ laneLetters)
    (before text : List Char) :
    lowerAfter before text = letters ↔ text.map Char.toLower = letters := by
  induction text generalizing before letters with
  | nil => exact Iff.rfl
  | cons c rest ih =>
    cases letters with
    | nil =>
      have hsome : lowerAfter before (c :: rest) ≠ [] := by
        rw [lowerAfter]
        split
        · exact List.cons_ne_nil _ _
        · exact List.append_ne_nil_of_left_ne_nil (lowerChar_ne_nil c) _
      exact iff_of_false hsome (List.cons_ne_nil _ _)
    | cons letter letters =>
      obtain ⟨hletter, hrest⟩ := List.forall_mem_cons.mp hletters
      rw [lowerAfter_cons_eq_iff hletter, ih hrest, List.map_cons, List.cons.injEq]

/-- A letter of a lane, in either case, is no blank. -/
lemma isBlank_of_toLower_mem {c : Char} (h : c.toLower ∈ laneLetters) : isBlank c = false := by
  have hall : (List.range 0x80).all (fun n => !laneLetters.contains (Char.ofNat n).toLower ||
      !isBlank (Char.ofNat n)) = true := by decide +kernel
  have hc := List.all_eq_true.mp hall c.toNat (List.mem_range.mpr (ascii_of_toLower_mem h))
  rw [Char.ofNat_toNat, List.contains_iff_mem.mpr h] at hc
  simpa using hc

end Text

/-! ### Patterns -/

namespace Swizzle

/-- The character is one of the two letters of the lane. -/
def NamesLane (c : Char) (lane : Fin 4) : Prop :=
  c = LetterSet.position.letter lane ∨ c = LetterSet.color.letter lane

/-- The value is a text that, without blanks around it and in lower case, names the lanes. -/
def Names (value : Value) (lanes : List (Fin 4)) : Prop :=
  ∃ s : String, value = .text s ∧ 1 ≤ lanes.length ∧ lanes.length ≤ 4 ∧
    List.Forall₂ NamesLane (lower (trim s.toList)) lanes

/-- The value is a text of the letters of the lanes, each in either case, between blanks. -/
def Spelled (value : Value) (lanes : List (Fin 4)) : Prop :=
  ∃ lead letters trail, value = .text (String.ofList (lead ++ (letters ++ trail))) ∧
    AllBlank lead ∧ AllBlank trail ∧ 1 ≤ lanes.length ∧ lanes.length ≤ 4 ∧
    List.Forall₂ NamesLane (letters.map Char.toLower) lanes

/-- One to four lanes are named. -/
lemma Names.length_bounds {value : Value} {lanes : List (Fin 4)} (h : Names value lanes) :
    1 ≤ lanes.length ∧ lanes.length ≤ 4 := by
  obtain ⟨-, -, hmin, hmax, -⟩ := h
  exact ⟨hmin, hmax⟩

/-- Only the letters of lanes name one. -/
lemma NamesLane.mem_laneLetters {c : Char} {lane : Fin 4} (h : NamesLane c lane) :
    c ∈ laneLetters := by
  obtain rfl | rfl := h
  · revert lane
    decide
  · revert lane
    decide

/-- A letter names the lane that its letter of a position does. -/
lemma namesLane_iff {c : Char} {lane : Fin 4} :
    NamesLane c lane ↔ laneOfColor c = LetterSet.position.letter lane := by
  constructor
  · rintro (rfl | rfl)
    · revert lane
      decide
    · revert lane
      decide
  · intro h
    unfold NamesLane
    unfold laneOfColor at h
    split at h
    case h_5 => exact Or.inl h
    all_goals
      revert lane
      decide

/-- The letters of positions are those of the lanes. -/
lemma isLane_iff {c : Char} : isLane c = true ↔ ∃ lane, c = LetterSet.position.letter lane := by
  have hlane : ∀ lane, isLane (LetterSet.position.letter lane) = true := by decide
  constructor
  · intro h
    simp only [isLane, Bool.or_eq_true, beq_iff_eq] at h
    obtain ((rfl | rfl) | rfl) | rfl := h
    · exact ⟨0, rfl⟩
    · exact ⟨1, rfl⟩
    · exact ⟨2, rfl⟩
    · exact ⟨3, rfl⟩
  · rintro ⟨lane, rfl⟩
    exact hlane lane

/-- Characters that all name lanes are the letters of a list of lanes. -/
lemma all_isLane_iff {letters : List Char} :
    letters.all isLane = true ↔
      ∃ lanes : List (Fin 4), letters = lanes.map LetterSet.position.letter := by
  induction letters with
  | nil => exact iff_of_true rfl ⟨[], rfl⟩
  | cons c letters ih =>
    rw [List.all_cons, Bool.and_eq_true, isLane_iff, ih]
    constructor
    · rintro ⟨⟨lane, rfl⟩, lanes, rfl⟩
      exact ⟨lane :: lanes, rfl⟩
    · rintro ⟨lanes, h⟩
      obtain ⟨lane, lanes, rfl, hlane, hlanes⟩ := List.map_eq_cons_iff.mp h.symm
      exact ⟨⟨lane, hlane.symm⟩, lanes, hlanes.symm⟩

/-- Letters name lanes one by one as their letters of positions do. -/
lemma forall₂_namesLane_iff {letters : List Char} {lanes : List (Fin 4)} :
    List.Forall₂ NamesLane letters lanes ↔
      letters.map laneOfColor = lanes.map LetterSet.position.letter := by
  have hnames : NamesLane = fun c lane => laneOfColor c = LetterSet.position.letter lane := by
    funext c lane
    exact propext namesLane_iff
  rw [← List.forall₂_eq_eq_eq, List.forall₂_map_left_iff, List.forall₂_map_right_iff, hnames]

/-- A pattern is found exactly in the values that name lanes, and has the letters of these lanes. -/
lemma pattern?_eq_some_iff {value : Value} {letters : List Char} :
    pattern? value = some letters ↔
      ∃ lanes, Names value lanes ∧ letters = lanes.map LetterSet.position.letter := by
  constructor
  · intro h
    unfold pattern? at h
    split at h
    · next s =>
      dsimp only at h
      split at h
      · next hlanes =>
        obtain ⟨hmin, hmax, hall⟩ := hlanes
        obtain ⟨lanes, hlanes⟩ := all_isLane_iff.mp hall
        rw [hlanes, List.length_map] at hmin hmax
        refine ⟨lanes, ⟨s, rfl, hmin, hmax, forall₂_namesLane_iff.mpr hlanes⟩, ?_⟩
        rw [← hlanes]
        exact (Option.some.inj h).symm
      · cases h
    · cases h
  · rintro ⟨lanes, ⟨s, rfl, hmin, hmax, hnames⟩, rfl⟩
    unfold pattern?
    dsimp only
    rw [forall₂_namesLane_iff.mp hnames]
    exact if_pos ⟨by simpa using hmin, by simpa using hmax, all_isLane_iff.mpr ⟨lanes, rfl⟩⟩

/-- No pattern is found exactly in the values that name no lanes. -/
lemma pattern?_eq_none_iff {value : Value} :
    pattern? value = none ↔ ∀ lanes, ¬Names value lanes := by
  rw [Option.eq_none_iff_forall_ne_some]
  constructor
  · intro h lanes hnames
    exact h _ (pattern?_eq_some_iff.mpr ⟨lanes, hnames, rfl⟩)
  · intro h letters hletters
    obtain ⟨lanes, hnames, -⟩ := pattern?_eq_some_iff.mp hletters
    exact h lanes hnames

lemma mem_laneLetters_of_forall₂ {letters : List Char} {lanes : List (Fin 4)}
    (h : List.Forall₂ NamesLane letters lanes) : ∀ letter ∈ letters, letter ∈ laneLetters := by
  induction h with
  | nil => exact fun _ h => absurd h List.not_mem_nil
  | cons hlane _ ih => exact List.forall_mem_cons.mpr ⟨hlane.mem_laneLetters, ih⟩

/-- The letters of lanes in the lower case of a text are letters in either case in the text. -/
lemma forall₂_lower_iff {text : List Char} {lanes : List (Fin 4)} :
    List.Forall₂ NamesLane (lower text) lanes ↔
      List.Forall₂ NamesLane (text.map Char.toLower) lanes := by
  constructor
  · intro h
    rwa [(lowerAfter_eq_iff (mem_laneLetters_of_forall₂ h) [] text).mp rfl]
  · intro h
    rwa [lower, (lowerAfter_eq_iff (mem_laneLetters_of_forall₂ h) [] text).mpr rfl]

/-- A value names lanes exactly if it is a text of their letters between blanks. -/
lemma names_iff_spelled {value : Value} {lanes : List (Fin 4)} :
    Names value lanes ↔ Spelled value lanes := by
  constructor
  · rintro ⟨s, rfl, hmin, hmax, hnames⟩
    obtain ⟨lead, trail, hlead, htrail, htext, -, -⟩ := Helper.exists_trim_eq s.toList
    refine ⟨lead, trim s.toList, trail, ?_, hlead, htrail, hmin, hmax, forall₂_lower_iff.mp hnames⟩
    rw [← htext, String.ofList_toList]
  · rintro ⟨lead, letters, trail, rfl, hlead, htrail, hmin, hmax, hletters⟩
    refine ⟨_, rfl, hmin, hmax, ?_⟩
    have hblank : ∀ c ∈ letters, isBlank c = false := fun c hc =>
      isBlank_of_toLower_mem (mem_laneLetters_of_forall₂ hletters _ (List.mem_map_of_mem hc))
    have hne : letters ≠ [] := by
      rintro rfl
      cases hletters
      exact absurd hmin (by decide)
    have htrim : trim (lead ++ (letters ++ trail)) = letters := by
      refine Helper.trim_append hlead htrail ?_ ?_
      · obtain ⟨first, others, rfl⟩ := List.exists_cons_of_ne_nil hne
        exact notStarting_cons.mpr (hblank first List.mem_cons_self)
      · intro c hc
        exact hblank c (List.mem_reverse.mp (List.mem_of_mem_head? hc))
    rw [String.toList_ofList, htrim]
    exact forall₂_lower_iff.mpr hletters

/-- One to four lanes are spelled by their letters. -/
lemma spelled_letters {lanes : List (Fin 4)} (hmin : 1 ≤ lanes.length) (hmax : lanes.length ≤ 4) :
    Spelled (.text (String.ofList (lanes.map LetterSet.position.letter))) lanes := by
  have hlower : ∀ lane,
      (LetterSet.position.letter lane).toLower = LetterSet.position.letter lane := by
    decide
  have hnone : AllBlank [] := fun _ h => absurd h List.not_mem_nil
  refine ⟨[], lanes.map LetterSet.position.letter, [], ?_, hnone, hnone, hmin, hmax, ?_⟩
  · rw [List.append_nil, List.nil_append]
  · rw [List.map_map, List.forall₂_map_left_iff, List.forall₂_same]
    exact fun lane _ => Or.inl (hlower lane)

/-- A pattern names its own lanes. -/
lemma pattern?_pattern {value : Value} {letters : List Char} (h : pattern? value = some letters) :
    pattern? (.text (String.ofList letters)) = some letters := by
  obtain ⟨lanes, hnames, rfl⟩ := pattern?_eq_some_iff.mp h
  obtain ⟨hmin, hmax⟩ := hnames.length_bounds
  exact pattern?_eq_some_iff.mpr ⟨lanes, names_iff_spelled.mpr (spelled_letters hmin hmax), rfl⟩

end Swizzle

/-! ### Lanes -/

section Lanes

variable {W S : Type} {A : Arithmetic W S} {types : VariableName → Option PortType}
  {env : VariableName → List (Lane W S)} {lanes : List (Lane W S)}

/-- The value has the lanes that the pattern takes from the given ones. -/
structure TakesLanes (A : Arithmetic W S) (pattern : List (Fin 4)) (lanes value : List (Lane W S)) :
    Prop where
  length : value.length = 4
  /-- Every letter names the lane at its place. -/
  given : ∀ (i : ℕ) (lane : Fin 4), pattern[i]? = some lane → value[i]? = lanes[lane.val]?
  /-- A single letter fills the color. -/
  fills : ∀ lane : Fin 4, pattern = [lane] → ∀ i < 3, value[i]? = lanes[lane.val]?
  color : pattern.length ≠ 1 → ∀ i < 3, pattern.length ≤ i →
    value[i]? = some (.scalar (A.float .zero))
  alpha : pattern.length ≤ 3 → value[3]? = some (.scalar (A.float .one))

/-- The lanes that fill up a pattern of several letters. -/
def Arithmetic.black (A : Arithmetic W S) : List (Lane W S) :=
  [.scalar (A.float .zero), .scalar (A.float .zero), .scalar (A.float .zero),
    .scalar (A.float .one)]

/-- A single letter, three times. -/
lemma takesLanes_single {x : Lane W S} {lane : Fin 4} (hx : lanes[lane.val]? = some x) :
    TakesLanes A [lane] lanes [x, x, x, .scalar (A.float .one)] := by
  have hcolor : ∀ i < 3, [x, x, x, .scalar (A.float .one)][i]? = lanes[lane.val]? := by
    intro i hi
    rw [hx]
    obtain rfl | rfl | rfl : i = 0 ∨ i = 1 ∨ i = 2 := by omega
    · rfl
    · rfl
    · rfl
  constructor
  case length => rfl
  case given =>
    intro i other h
    obtain ⟨hi, rfl⟩ := List.getElem?_eq_some_iff.mp h
    obtain rfl : i = 0 := by simpa using hi
    exact hcolor 0 (by omega)
  case fills =>
    intro other h
    cases h
    exact hcolor
  case color => exact fun h => absurd rfl h
  case alpha => exact fun _ => rfl

/-- Several letters, filled up. -/
lemma takesLanes_several {f : Fin 4 → Lane W S}
    (hf : ∀ lane : Fin 4, lanes[lane.val]? = some (f lane)) {pattern : List (Fin 4)}
    (hseveral : pattern.length ≠ 1) (hmax : pattern.length ≤ 4) :
    TakesLanes A pattern lanes (pattern.map f ++ A.black.drop pattern.length) := by
  have hblack : A.black.length = 4 := rfl
  -- behind the letters, the lane at a place is that of black at the same place
  have hfilled : ∀ i, pattern.length ≤ i →
      (pattern.map f ++ A.black.drop pattern.length)[i]? = A.black[i]? := by
    intro i hi
    have hi' : (pattern.map f).length ≤ i := by rwa [List.length_map]
    rw [List.getElem?_append_right hi', List.getElem?_drop, List.length_map,
      Nat.add_sub_cancel' hi]
  constructor
  case length =>
    rw [List.length_append, List.length_map, List.length_drop, hblack]
    omega
  case given =>
    intro i lane h
    have hi : i < (pattern.map f).length := by
      rw [List.length_map]
      exact (List.getElem?_eq_some_iff.mp h).1
    rw [List.getElem?_append_left hi, List.getElem?_map, h, hf]
    rfl
  case fills =>
    rintro lane rfl
    exact absurd rfl hseveral
  case color =>
    intro _ i hi hfill
    rw [hfilled i hfill]
    obtain rfl | rfl | rfl : i = 0 ∨ i = 1 ∨ i = 2 := by omega
    · rfl
    · rfl
    · rfl
  case alpha =>
    intro hfill
    rw [hfilled 3 hfill]
    rfl

/-- The lanes of the letters, as an expression. -/
lemma Spells.taken {text : String} (h : Spells A types env text .vec4 lanes)
    {f : Fin 4 → Lane W S} (hf : ∀ lane : Fin 4, lanes[lane.val]? = some (f lane))
    (pattern : List (Fin 4)) {target : PortType}
    (htarget : PortType.ofLaneCount? pattern.length = some target) :
    Spells A types env ((if Conversion.isBareName isWord text then text else "(" ++ text ++ ")") ++
      "." ++ String.ofList (pattern.map LetterSet.position.letter)) target (pattern.map f) := by
  have hoffers : PortType.vec4.offers ⟨.position, pattern⟩ = true := by
    simp [PortType.offers, PortType.isVector, PortType.laneCount]
  have hsuffix : ("." ++ String.ofList (pattern.map LetterSet.position.letter)).toList =
      '.' :: (Selection.mk .position pattern).text := by
    simp [Selection.text]
  have hselect :=
    h.selectFrom (p := isWord) (by decide) ⟨.position, pattern⟩ hoffers htarget hsuffix
  have hlanes : pattern.filterMap (fun lane => lanes[lane.val]?) = pattern.map f := by
    simp only [hf]
    exact congrFun (List.filterMap_eq_map (f := f)) pattern
  rwa [hlanes, ← String.append_assoc] at hselect

/-- Two lanes filled up. -/
lemma Spells.fillTwo {text : String} {x y : S}
    (h : Spells A types env text .vec2 [.scalar x, .scalar y]) :
    Spells A types env ("vec4(" ++ text ++ ", 0.0, 1.0)") .vec4
      ([.scalar x, .scalar y] ++ A.black.drop 2) := by
  have htext : "vec4(" ++ text ++ ", 0.0, 1.0)" =
      "vec4(" ++ (text ++ ", " ++ ("0.0" ++ ", " ++ "1.0")) ++ ")" := by
    simp [String.append_assoc]
  rw [htext]
  exact (h.followed (spells_zero.followed spells_one.single)).construct rfl rfl

/-- Three lanes filled up. -/
lemma Spells.fillThree {text : String} {x y z : S}
    (h : Spells A types env text .vec3 [.scalar x, .scalar y, .scalar z]) :
    Spells A types env ("vec4(" ++ text ++ ", 1.0)") .vec4
      ([.scalar x, .scalar y, .scalar z] ++ A.black.drop 3) := by
  have htext : "vec4(" ++ text ++ ", 1.0)" = "vec4(" ++ (text ++ ", " ++ "1.0") ++ ")" := by
    simp [String.append_assoc]
  rw [htext]
  exact (h.followed spells_one.single).construct rfl rfl

/-- Whatever expression the input is, the lanes are taken from its value. -/
lemma Spells.swizzle (henv : Respects types env) {text : String}
    (h : Spells A types env text .vec4 lanes) {pattern : List (Fin 4)} (hmin : 1 ≤ pattern.length)
    (hmax : pattern.length ≤ 4) : ∃ value, Spells A types env (Swizzle.expression
      (if Conversion.isBareName isWord text then text else "(" ++ text ++ ")")
      (pattern.map LetterSet.position.letter)) .vec4 value ∧ TakesLanes A pattern lanes value := by
  obtain ⟨xs, rfl, hcount⟩ := exists_scalars A (h.fits henv) rfl
  -- each lane of the input is a scalar
  obtain ⟨f, hf⟩ : ∃ f : Fin 4 → S, ∀ lane : Fin 4, (xs.map Lane.scalar)[lane.val]? =
      some (.scalar (f lane) : Lane W S) := by
    refine ⟨fun lane => xs.get (lane.cast hcount.symm), fun lane => ?_⟩
    have hlane : lane.val < xs.length := lane.isLt.trans_eq hcount.symm
    rw [List.getElem?_map, List.getElem?_eq_getElem hlane]
    rfl
  obtain hone | htwo | hthree | hfour : pattern.length = 1 ∨ pattern.length = 2 ∨
      pattern.length = 3 ∨ pattern.length = 4 := by omega
  · obtain ⟨a, rfl⟩ := List.length_eq_one_iff.mp hone
    have hfilled : Spells A types env (Conversion.replicate _ .vec4) .vec4 _ :=
      (h.taken hf [a] rfl).replicate rfl
    exact ⟨_, hfilled, takesLanes_single (hf a)⟩
  · obtain ⟨a, b, rfl⟩ := List.length_eq_two.mp htwo
    exact ⟨_, (h.taken hf [a, b] rfl).fillTwo,
      takesLanes_several hf (htwo.trans_ne (by decide)) hmax⟩
  · obtain ⟨a, b, c, rfl⟩ := List.length_eq_three.mp hthree
    exact ⟨_, (h.taken hf [a, b, c] rfl).fillThree,
      takesLanes_several hf (hthree.trans_ne (by decide)) hmax⟩
  · obtain ⟨a, b, c, d, rfl⟩ := List.length_eq_four.mp hfour
    exact ⟨_, h.taken hf [a, b, c, d] rfl,
      takesLanes_several hf (hfour.trans_ne (by decide)) hmax⟩

end Lanes

/-! ### Warnings about patterns -/

namespace Diagnostics

/-- Whether an entry warns of a pattern. -/
def isPatternWarning (entry : String) : Bool :=
  "[WARNING] Invalid swizzle pattern ".toList.isPrefixOf entry.toList

/-- A warning is about a pattern when its message begins so. -/
lemma isPatternWarning_warningEntry_iff {message : String} :
    isPatternWarning (warningEntry message) = true ↔
      "Invalid swizzle pattern ".toList <+: message.toList := by
  have hstart : "[WARNING] Invalid swizzle pattern ".toList =
      "[WARNING] ".toList ++ "Invalid swizzle pattern ".toList := by decide
  unfold isPatternWarning warningEntry
  rw [List.isPrefixOf_iff_prefix, hstart, String.toList_append, List.prefix_append_right_inj]

/-- Remarks on other things do not change what is warned of patterns. -/
lemma filter_warnings_ofRemarks {before : List Remark}
    (hbefore : ∀ remark ∈ before, isPatternWarning (warningEntry remark.message) = false)
    (after : List Remark) : (ofRemarks (before ++ after)).warnings.filter isPatternWarning =
      (ofRemarks after).warnings.filter isPatternWarning := by
  have hnone : ((before.filter fun remark => remark.stage == .generation).map fun remark =>
      warningEntry remark.message).filter isPatternWarning = [] := by
    rw [List.filter_eq_nil_iff]
    intro entry hentry
    obtain ⟨remark, hremark, rfl⟩ := List.mem_map.mp hentry
    rw [hbefore remark (List.mem_filter.mp hremark).1]
    exact Bool.false_ne_true
  rw [warnings_ofRemarks, warnings_ofRemarks, ← eraseDups_filter, ← eraseDups_filter,
    List.filter_append, List.map_append, List.filter_append, hnone, List.nil_append]

/-- A single remark on a pattern makes a single warning about one. -/
lemma filter_warnings_singleton {message : String}
    (h : "Invalid swizzle pattern ".toList <+: message.toList) :
    (ofRemarks [⟨.generation, message⟩]).warnings.filter isPatternWarning =
      [warningEntry message] :=
  List.filter_cons_of_pos (isPatternWarning_warningEntry_iff.mpr h)

end Diagnostics

/-! ### The code of a swizzle -/

namespace Scope

variable {scope : Scope} {input : String}

/-- What is said about inputs and outputs is not about patterns. -/
lemma isPatternWarning_of_mem_remarks {remark : Remark}
    (h : remark ∈ (scope.input "in").remarks ++ (scope.output "out").remarks) :
    Diagnostics.isPatternWarning (Diagnostics.warningEntry remark.message) = false := by
  have hopens : OpensWith portOpenings remark.message := by
    rcases List.mem_append.mp h with h | h
    · exact scope.opensWith_input "in" remark h
    · exact scope.opensWith_output "out" remark h
  rw [← Bool.not_eq_true, Diagnostics.isPatternWarning_warningEntry_iff]
  exact hopens.not_prefix (by decide)

/-- The pattern of a node: the author's value, or all lanes if that is missing or empty. -/
def writtenPattern (scope : Scope) : Value :=
  let authored := (scope.node.values.find? patternParameter).getD .null
  if authored.isEmpty then .text "xyzw" else authored

/-- The pattern of a node of the type is what its author wrote, or the default. -/
lemma swizzleValue_eq (h : scope.type = Palette.swizzle) :
    scope.swizzleValue = scope.writtenPattern := by
  have hdefault : ((scope.type.parameter? patternParameter).map Parameter.default).filter
      (!·.isEmpty) = some (.text "xyzw") := by
    rw [h]
    rfl
  have hgiven : ∀ value : Value, value.given?.filter (!·.isEmpty) =
      if value.isEmpty then none else some value := by
    intro value
    cases hempty : value.isEmpty with
    | true => cases value <;> simp_all [Value.given?]
    | false => cases value <;> simp_all [Value.given?, Value.isEmpty]
  unfold swizzleValue writtenPattern Node.value?
  rw [hdefault]
  dsimp only
  cases scope.node.values.find? patternParameter with
  | none => rfl
  | some value =>
    rw [Option.bind_some, hgiven, Option.getD_some]
    split
    · rfl
    · rfl

/-- When the pattern can be shown, the code is one assignment. -/
lemma outcome_swizzleCode_of_ok (hinput : (scope.input "in").outcome = .ok input)
    (hshown : scope.swizzleShown = .ok ()) : scope.swizzleCode.outcome =
      .ok (scope.writtenVariable "out" ++ " = " ++ scope.swizzled input ++ ";") := by
  rw [outcome_swizzleCode, hinput, ok_bind, hshown]
  rfl

/-- A pattern that is found needs no warning. -/
lemma swizzleShown_of_some {letters : List Char}
    (h : Swizzle.pattern? scope.swizzleValue = some letters) : scope.swizzleShown = .ok () := by
  unfold swizzleShown
  rw [h]

/-- A pattern that is not known has to be shown, which succeeds or fails as writing it does. -/
lemma swizzleShown_of_none (h : Swizzle.pattern? scope.swizzleValue = none) :
    scope.swizzleShown = ((scope.swizzleValue.written scope.scene.settings.messageDepth).mapError
      Fault.unwritable).map fun _ => () := by
  unfold swizzleShown
  rw [h]
  cases scope.swizzleValue.written scope.scene.settings.messageDepth <;> rfl

/-- What is said about the pattern: nothing if it is known, or if it cannot be shown. -/
def patternRemarks (scope : Scope) : List Remark :=
  match Swizzle.pattern? scope.swizzleValue,
    scope.swizzleValue.written scope.scene.settings.messageDepth with
  | none, .ok shown => [⟨.generation, "Invalid swizzle pattern " ++ shown ++ " on " ++
      scope.node.id ++ "; passing input through"⟩]
  | _, _ => []

/-- A swizzle speaks about its ports, and then about its pattern. -/
lemma remarks_swizzleCode (hinput : (scope.input "in").outcome = .ok input) :
    scope.swizzleCode.remarks =
      (scope.input "in").remarks ++ (scope.output "out").remarks ++ scope.patternRemarks := by
  unfold swizzleCode patternRemarks
  rw [Traced.remarks_bind_of_ok hinput, Traced.remarks_bind_of_ok (scope.outcome_output "out"),
    List.append_assoc]
  cases Swizzle.pattern? scope.swizzleValue with
  | none => cases scope.swizzleValue.written scope.scene.settings.messageDepth <;> rfl
  | some letters => rfl

/-- The warnings about the pattern are what is said about it. -/
lemma filter_warnings_swizzleCode (hinput : (scope.input "in").outcome = .ok input) :
    (Diagnostics.ofRemarks scope.swizzleCode.remarks).warnings.filter
        Diagnostics.isPatternWarning =
      (Diagnostics.ofRemarks scope.patternRemarks).warnings.filter
        Diagnostics.isPatternWarning := by
  rw [remarks_swizzleCode hinput,
    Diagnostics.filter_warnings_ofRemarks fun _ => isPatternWarning_of_mem_remarks]

lemma swizzled_of_some {letters : List Char}
    (h : Swizzle.pattern? scope.swizzleValue = some letters) : scope.swizzled input =
      Swizzle.expression
        (if Conversion.isBareName isWord input then input else "(" ++ input ++ ")") letters := by
  unfold swizzled
  rw [h]

lemma swizzled_of_none (h : Swizzle.pattern? scope.swizzleValue = none) :
    scope.swizzled input = input := by
  unfold swizzled
  rw [h]

variable {W S : Type}

/-- What the code of a swizzle means whose pattern is `value` and whose input is an expression with
the given lanes. -/
structure Swizzles (A : Arithmetic W S) (types : VariableName → Option PortType)
    (env : VariableName → List (Lane W S)) (scope : Scope) (value : Value) (input : String)
    (lanes : List (Lane W S)) : Prop where
  /-- A pattern that names lanes takes them, without a word about the pattern. -/
  named : ∀ pattern, Swizzle.Names value pattern → ∃ result swizzled,
    scope.swizzleCode.outcome = .ok (scope.writtenVariable "out" ++ " = " ++ result ++ ";") ∧
    Spells A types env result .vec4 swizzled ∧ TakesLanes A pattern lanes swizzled ∧
    (Diagnostics.ofRemarks scope.swizzleCode.remarks).warnings.filter
      Diagnostics.isPatternWarning = []
  /-- Any other pattern that can be shown passes the input through, with one warning. -/
  unnamed : (∀ pattern, ¬Swizzle.Names value pattern) →
    value.IsWritable scope.scene.settings.messageDepth →
    scope.swizzleCode.outcome = .ok (scope.writtenVariable "out" ++ " = " ++ input ++ ";") ∧
    Spells A types env input .vec4 lanes ∧
    ∃ shown, value.written scope.scene.settings.messageDepth = .ok shown ∧
      (Diagnostics.ofRemarks scope.swizzleCode.remarks).warnings.filter
        Diagnostics.isPatternWarning = [Diagnostics.warningEntry ("Invalid swizzle pattern " ++
          shown ++ " on " ++ scope.node.id ++ "; passing input through")]
  /-- A pattern that names no lanes and cannot be shown stops the node, for a cause that the value
  gives and without a warning about it. -/
  unshown : (∀ pattern, ¬Swizzle.Names value pattern) →
    ¬value.IsWritable scope.scene.settings.messageDepth →
    (∃ cause : WritingFault, cause.Arises scope.scene.settings.messageDepth value ∧
      scope.swizzleCode.outcome = .error (.unwritable cause)) ∧
    (Diagnostics.ofRemarks scope.swizzleCode.remarks).warnings.filter
      Diagnostics.isPatternWarning = []
  emit : scope.type.emitter scope.scene.settings = .swizzle →
    scope.emit = some <$> scope.swizzleCode

/-- The code of a swizzle means what its pattern says, for every pattern and every input that is a
vector of four lanes.  Only a pattern that names no lanes and cannot be shown has no code. -/
theorem swizzles_of_spells {A : Arithmetic W S} {types : VariableName → Option PortType}
    {env : VariableName → List (Lane W S)} {lanes : List (Lane W S)}
    (htype : scope.type = Palette.swizzle) (henv : Respects types env)
    (hinput : (scope.input "in").outcome = .ok input)
    (hspells : Spells A types env input .vec4 lanes) :
    Swizzles A types env scope scope.writtenPattern input lanes ∧
    (∀ value pattern, Swizzle.Names value pattern ↔ Swizzle.Spelled value pattern) ∧
    ∀ value letters, Swizzle.pattern? value = some letters →
      Swizzle.pattern? (.text (String.ofList letters)) = some letters := by
  rw [← swizzleValue_eq htype]
  refine ⟨?_, fun value pattern => Swizzle.names_iff_spelled,
    fun value letters => Swizzle.pattern?_pattern⟩
  constructor
  case named =>
    intro pattern hnames
    obtain ⟨hmin, hmax⟩ := hnames.length_bounds
    have hpattern := Swizzle.pattern?_eq_some_iff.mpr ⟨pattern, hnames, rfl⟩
    obtain ⟨swizzled, hswizzled, htakes⟩ := hspells.swizzle henv hmin hmax
    rw [← swizzled_of_some hpattern] at hswizzled
    refine ⟨_, swizzled, outcome_swizzleCode_of_ok hinput (swizzleShown_of_some hpattern),
      hswizzled, htakes, ?_⟩
    rw [filter_warnings_swizzleCode hinput, patternRemarks, hpattern]
    rfl
  case unnamed =>
    intro hnone hwritable
    have hpattern := Swizzle.pattern?_eq_none_iff.mpr hnone
    obtain ⟨shown, hshown⟩ := (Value.exists_written_iff _ _).mpr hwritable
    have hcode : scope.swizzleCode.outcome =
        .ok (scope.writtenVariable "out" ++ " = " ++ scope.swizzled input ++ ";") := by
      refine outcome_swizzleCode_of_ok hinput ?_
      rw [swizzleShown_of_none hpattern, hshown]
      rfl
    rw [swizzled_of_none hpattern] at hcode
    refine ⟨hcode, hspells, shown, hshown, ?_⟩
    rw [filter_warnings_swizzleCode hinput, patternRemarks, hpattern, hshown]
    refine Diagnostics.filter_warnings_singleton ?_
    simp only [String.append_assoc, String.toList_append]
    exact List.prefix_append _ _
  case unshown =>
    intro hnone hunwritable
    have hpattern := Swizzle.pattern?_eq_none_iff.mpr hnone
    rcases Value.written_cases scope.scene.settings.messageDepth scope.swizzleValue with
      ⟨hwritable, -⟩ | ⟨cause, harises, hcause⟩
    · exact absurd hwritable hunwritable
    refine ⟨⟨cause, harises, ?_⟩, ?_⟩
    · rw [outcome_swizzleCode, hinput, ok_bind, swizzleShown_of_none hpattern, hcause]
      rfl
    · rw [filter_warnings_swizzleCode hinput, patternRemarks, hpattern, hcause]
      rfl
  case emit =>
    intro hemitter
    unfold emit
    rw [hemitter]
    rfl

/-- A swizzle of a color without alpha, which is held in the variable `b`. -/
def ofColor (pattern : Value) : Scope :=
  let color : Node := ⟨"c", "constant-vec3", Table.empty, Table.empty⟩
  let node : Node := ⟨"s", "swizzle", Table.ofList [("swizzle", pattern)], Table.empty⟩
  { scene :=
      { graph := ⟨[color, node], [⟨"c", "out", "s", .port "in"⟩]⟩
        catalog := ⟨Table.ofList [("constant-vec3", Palette.constantVec3),
          ("swizzle", Palette.swizzle)]⟩
        variableNames := Table.ofList [("c", Table.ofList [("out", "b")]),
          ("s", Table.ofList [("out", "node_s_out")])]
        order := ["c", "s"], uniforms := Table.empty, renames := Table.empty, settings := {} }
    node, type := Palette.swizzle }

/-- The lanes in reverse order, a pattern with a letter that names no lane, and a number with so
many digits that it cannot be shown. -/
theorem swizzles_of_spells_ofColor :
    Respects colorTypes colorLanes ∧
    (∀ pattern, ((ofColor pattern).input "in").outcome = .ok "vec4(b.x, b.y, b.z, 1.0)") ∧
    Spells Arithmetic.exact colorTypes colorLanes "vec4(b.x, b.y, b.z, 1.0)" .vec4
      [.scalar (1 / 2), .scalar 1, .scalar (5 / 2), .scalar 1] ∧
    (∃ result, (ofColor (.text " Bgr\n")).swizzleCode.outcome =
        .ok ("node_s_out" ++ " = " ++ result ++ ";") ∧
      Spells Arithmetic.exact colorTypes colorLanes result .vec4
        [.scalar (5 / 2), .scalar 1, .scalar (1 / 2), .scalar 1]) ∧
    (ofColor (.text "xyzq")).swizzleCode.outcome =
      .ok ("node_s_out" ++ " = " ++ "vec4(b.x, b.y, b.z, 1.0)" ++ ";") ∧
    (Diagnostics.ofRemarks (ofColor (.text "xyzq")).swizzleCode.remarks).warnings.filter
      Diagnostics.isPatternWarning = [Diagnostics.warningEntry ("Invalid swizzle pattern " ++
        "'xyzq'" ++ " on " ++ "s" ++ "; passing input through")] ∧
    (ofColor (.int (10 ^ 5000))).swizzleCode.outcome = .error (.unwritable .tooManyDigits) ∧
    (Diagnostics.ofRemarks (ofColor (.int (10 ^ 5000))).swizzleCode.remarks).warnings.filter
      Diagnostics.isPatternWarning = [] := by
  have hcolor : Spells Arithmetic.exact colorTypes colorLanes "b" .vec3
      [.scalar (1 / 2), .scalar 1, .scalar (5 / 2)] :=
    spells_of_type? (e := .name ⟨['b'], by decide⟩) rfl rfl
  have hlanes : Arithmetic.exact.converted .vec3 .vec4
      [.scalar (1 / 2), .scalar 1, .scalar (5 / 2)] =
        [.scalar (1 / 2), .scalar 1, .scalar (5 / 2), .scalar 1] := by decide +kernel
  have hconvert : Conversion.convert none "b" .vec3 .vec4 = .ok "vec4(b.x, b.y, b.z, 1.0)" := rfl
  have hspells := hcolor.convert respects_colorTypes hconvert
  rw [hlanes] at hspells
  have hinput : ∀ pattern, ((ofColor pattern).input "in").outcome =
      .ok "vec4(b.x, b.y, b.z, 1.0)" := fun _ => rfl
  have hswizzles : ∀ pattern, Swizzles Arithmetic.exact colorTypes colorLanes (ofColor pattern)
      (ofColor pattern).writtenPattern "vec4(b.x, b.y, b.z, 1.0)"
      [.scalar (1 / 2), .scalar 1, .scalar (5 / 2), .scalar 1] := fun pattern =>
    (swizzles_of_spells rfl respects_colorTypes (hinput pattern) hspells).1
  refine ⟨respects_colorTypes, hinput, hspells, ?_, and_assoc.mp ⟨?_, ?_⟩⟩
  · have hnames : Swizzle.Names (.text " Bgr\n") [2, 1, 0] :=
      ⟨" Bgr\n", rfl, by decide, by decide, Swizzle.forall₂_namesLane_iff.mpr (by decide +kernel)⟩
    obtain ⟨result, swizzled, hcode, hswizzled, htakes, -⟩ :=
      (hswizzles (.text " Bgr\n")).named _ hnames
    obtain ⟨a, b, c, d, rfl⟩ := List.length_eq_four.mp htakes.length
    have hone : Arithmetic.exact.float .one = 1 := by decide +kernel
    cases htakes.given 0 2 rfl
    cases htakes.given 1 1 rfl
    cases htakes.given 2 0 rfl
    cases htakes.alpha (by decide)
    exact ⟨result, hcode, hone ▸ hswizzled⟩
  · have hnone : ∀ pattern, ¬Swizzle.Names (.text "xyzq") pattern :=
      Swizzle.pattern?_eq_none_iff.mp (by decide +kernel)
    have hwritten : (Value.text "xyzq").written 1000 = .ok "'xyzq'" := by decide +kernel
    obtain ⟨hcode, -, shown, hshown, hwarned⟩ := (hswizzles (.text "xyzq")).unnamed hnone
      ((Value.exists_written_iff 1000 _).mp ⟨_, hwritten⟩)
    cases hwritten.symm.trans hshown
    exact ⟨hcode, hwarned⟩
  · have hlong : maxDigits < Decimal.digitCount (10 ^ 5000 : Int).natAbs := by decide +kernel
    -- From here on only the number of digits counts.
    generalize (10 : Int) ^ 5000 = i at hlong ⊢
    have hvalue : (ofColor (.int i)).writtenPattern = .int i := by
      have hzero : ¬((i == 0) = true) := by
        rw [beq_iff_eq]
        rintro rfl
        exact absurd hlong (by decide)
      exact if_neg hzero
    have h := (hswizzles (.int i)).unshown
    rw [hvalue] at h
    obtain ⟨⟨cause, harises, hcode⟩, hwarned⟩ := h (fun pattern ⟨text, htext, _⟩ => by cases htext)
      fun hwritable => hwritable .tooManyDigits ⟨0, (by decide : 0 < 1000), i, .self _, hlong⟩
    cases cause with
    | tooManyDigits => exact ⟨hcode, hwarned⟩
    | tooDeep =>
      obtain ⟨held, hheld⟩ := harises
      cases hheld

end Scope

end ShaderLoom
