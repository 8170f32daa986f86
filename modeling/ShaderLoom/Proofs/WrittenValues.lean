import Mathlib.Data.List.Basic
import Mathlib.Data.Nat.Digits.Defs
import ShaderLoom.Proofs.DoubleRounding
import ShaderLoom.Proofs.Outcomes
import ShaderLoom.Value.Numeric
import ShaderLoom.Value.Written

/-!
# Which values can be written

A value is written if none of the values in it stands too deep, and none of the integers in it has
too many digits.  If it is not written, the fault names the cause.  An integer that a value is
rounded to comes from a double, so it is always short enough.
-/

namespace ShaderLoom

namespace Value

/-- One value stands in another, so many levels below it. -/
inductive HeldAt : Nat → Value → Value → Prop where
  | self (value : Value) : HeldAt 0 value value
  | item {level : Nat} {items : List Value} {item held : Value} (mem : item ∈ items)
      (inside : HeldAt level item held) : HeldAt (level + 1) (.list items) held
  | entry {level : Nat} {entries : List (String × Value)} {entry : String × Value} {held : Value}
      (mem : entry ∈ entries) (inside : HeldAt level entry.2 held) :
      HeldAt (level + 1) (.record entries) held

end Value

/-- The value gives cause for the fault when values are written in no more than `depth` levels: an
integer that would be written has too many digits, or some value stands below all levels. -/
def WritingFault.Arises : WritingFault → Nat → Value → Prop
  | .tooManyDigits, depth, value =>
    ∃ level < depth, ∃ i, Value.HeldAt level value (.int i) ∧
      maxDigits < Decimal.digitCount i.natAbs
  | .tooDeep, depth, value => ∃ held, Value.HeldAt depth value held

/-- The value gives no cause for a fault. -/
def Value.IsWritable (depth : Nat) (value : Value) : Prop :=
  ∀ cause : WritingFault, ¬cause.Arises depth value

/-! ### Integers -/

/-- An integer is written exactly if it has few enough digits. -/
lemma writtenInt_cases (i : Int) :
    (Decimal.digitCount i.natAbs ≤ maxDigits ∧ writtenInt i = .ok (decimalText i)) ∨
      (maxDigits < Decimal.digitCount i.natAbs ∧ writtenInt i = .error .tooManyDigits) := by
  unfold writtenInt
  by_cases h : Decimal.digitCount i.natAbs ≤ maxDigits
  · exact Or.inl ⟨h, if_pos h⟩
  · exact Or.inr ⟨Nat.lt_of_not_le h, if_neg h⟩

lemma Number.twoTo_le_twoTo {a b : Int} (h : a ≤ b) : twoTo a ≤ twoTo b :=
  Nat.pow_le_pow_right (by decide) (Int.toNat_le_toNat h)

/-- The integer part of a double has few enough digits. -/
lemma Double.digitCount_floor_le {negative : Bool} {mantissa : ℕ} {exponent : ℤ}
    (h : IsCanonical (.finite negative mantissa exponent)) :
    Decimal.digitCount (floor negative mantissa exponent).natAbs ≤ maxDigits := by
  obtain ⟨-, hgreatest, hbound, -⟩ := h
  have hsigned : (signed negative mantissa).natAbs = mantissa := by
    cases negative
    · exact Int.natAbs_natCast mantissa
    · exact (Int.natAbs_neg _).trans (Int.natAbs_natCast mantissa)
  have hpower : Number.twoTo exponent ≤ Number.twoTo greatestExponent :=
    Number.twoTo_le_twoTo hgreatest
  refine Nat.toDigits_length 10 _ _ (by decide) ?_
  calc (floor negative mantissa exponent).natAbs
      ≤ (signed negative mantissa * Number.twoTo exponent).natAbs := Int.natAbs_ediv_le_natAbs _ _
    _ = mantissa * Number.twoTo exponent := by rw [Int.natAbs_mul, hsigned, Int.natAbs_natCast]
    _ < mantissaBound * Number.twoTo greatestExponent :=
      Nat.mul_lt_mul_of_lt_of_le hbound hpower (Number.twoTo_pos _)
    _ ≤ 10 ^ maxDigits := by decide +kernel

/-- The integer that a value is rounded to can be written. -/
lemma Value.writtenInt_of_toInteger {value : Value} {i : Int} (h : value.toInteger = .ok i) :
    writtenInt i = .ok (decimalText i) := by
  refine if_pos ?_
  obtain ⟨x, -, h⟩ := bind_eq_ok_iff.mp h
  unfold Double.roundHalfUp at h
  split at h
  · cases h
  · cases h
  · next negative mantissa exponent =>
    have hcanonical : (Double.plusHalf negative mantissa exponent).IsCanonical :=
      Double.isCanonical_ofRatio _ _ (Nat.mul_pos (by decide) (Number.twoTo_pos _))
    split at h
    · cases h
    · cases h
    · next hhalf =>
      cases h
      rw [hhalf] at hcanonical
      exact Double.digitCount_floor_le hcanonical

/-! ### Values in values -/

namespace Value

variable {depth : Nat} {value : Value}

/-- A value that is no integer can be written if the values one level below it can. -/
lemma isWritable_of_children (children : List Value) (hint : ∀ i, value ≠ .int i)
    (hheld : ∀ level held, HeldAt (level + 1) value held →
      ∃ child ∈ children, HeldAt level child held)
    (h : ∀ child ∈ children, IsWritable depth child) : IsWritable (depth + 1) value := by
  intro cause harises
  cases cause with
  | tooManyDigits =>
    obtain ⟨level, hlevel, i, hi, hdigits⟩ := harises
    cases level with
    | zero =>
      cases hi
      exact hint i rfl
    | succ level =>
      obtain ⟨child, hchild, hi⟩ := hheld level _ hi
      exact h child hchild .tooManyDigits ⟨level, Nat.lt_of_succ_lt_succ hlevel, i, hi, hdigits⟩
  | tooDeep =>
    obtain ⟨held, hdeep⟩ := harises
    obtain ⟨child, hchild, hdeep⟩ := hheld depth held hdeep
    exact h child hchild .tooDeep ⟨held, hdeep⟩

/-- A cause that a value gives for a fault is one that every value around it gives. -/
lemma arises_of_child {child : Value} {cause : WritingFault}
    (hheld : ∀ level held, HeldAt level child held → HeldAt (level + 1) value held)
    (h : cause.Arises depth child) : cause.Arises (depth + 1) value := by
  cases cause with
  | tooManyDigits =>
    obtain ⟨level, hlevel, i, hi, hdigits⟩ := h
    exact ⟨level + 1, Nat.succ_lt_succ hlevel, i, hheld level _ hi, hdigits⟩
  | tooDeep =>
    obtain ⟨held, hdeep⟩ := h
    exact ⟨held, hheld depth held hdeep⟩

/-- A value without values in it that is no integer can be written. -/
lemma isWritable_of_forall_not_heldAt (hint : ∀ i, value ≠ .int i)
    (hheld : ∀ level held, ¬HeldAt (level + 1) value held) : IsWritable (depth + 1) value :=
  isWritable_of_children [] hint (fun level held h => absurd h (hheld level held))
    (fun _ h => absurd h List.not_mem_nil)

/-- A value is written if it can be, and otherwise the fault names its cause. -/
theorem written_cases (depth : Nat) (value : Value) :
    (IsWritable depth value ∧ ∃ text, value.written depth = .ok text) ∨
      ∃ cause : WritingFault, cause.Arises depth value ∧ value.written depth = .error cause := by
  -- The levels that are left carry the induction: each step into a list or a record uses one.
  induction depth generalizing value with
  | zero => exact Or.inr ⟨.tooDeep, ⟨value, .self value⟩, rfl⟩
  | succ depth ih =>
    cases value with
    | null | number x | text s =>
      exact Or.inl ⟨isWritable_of_forall_not_heldAt nofun nofun, _, rfl⟩
    | bool b =>
      refine Or.inl ⟨isWritable_of_forall_not_heldAt nofun nofun, ?_⟩
      cases b <;> exact ⟨_, rfl⟩
    | int i =>
      rcases writtenInt_cases i with ⟨hdigits, hwritten⟩ | ⟨hdigits, hwritten⟩
      · refine Or.inl ⟨?_, _, hwritten⟩
        rintro (_ | _) harises
        · obtain ⟨level, -, j, hj, hlong⟩ := harises
          cases hj
          exact absurd hdigits (Nat.not_le.mpr hlong)
        · obtain ⟨held, hheld⟩ := harises
          cases hheld
      · exact Or.inr ⟨.tooManyDigits, ⟨0, Nat.succ_pos depth, i, .self _, hdigits⟩, hwritten⟩
    | list items =>
      rcases mapM_cases fun item (_ : item ∈ items) => ih item with
        ⟨hitems, texts, hok⟩ | ⟨cause, ⟨item, hitem, harises⟩, herror⟩
      · refine Or.inl ⟨isWritable_of_children items nofun ?_ hitems, _,
          bind_eq_ok_iff.mpr ⟨texts, hok, rfl⟩⟩
        rintro level held (_ | ⟨hmem, hinside⟩)
        exact ⟨_, hmem, hinside⟩
      · exact Or.inr ⟨cause, arises_of_child (fun _ _ => .item hitem) harises,
          bind_eq_error_iff.mpr (Or.inl herror)⟩
    | record entries =>
      have hentry : ∀ entry ∈ entries, (IsWritable depth entry.2 ∧ ∃ text, (do
          return quote entry.1 ++ ": " ++ (← written depth entry.2)) = Except.ok text) ∨
          ∃ cause : WritingFault, cause.Arises depth entry.2 ∧ (do
            return quote entry.1 ++ ": " ++ (← written depth entry.2)) = Except.error cause := by
        intro entry _
        rcases ih entry.2 with ⟨hwritable, text, htext⟩ | ⟨cause, harises, hcause⟩
        · exact Or.inl ⟨hwritable, _, bind_eq_ok_iff.mpr ⟨text, htext, rfl⟩⟩
        · exact Or.inr ⟨cause, harises, bind_eq_error_iff.mpr (Or.inl hcause)⟩
      rcases mapM_cases hentry with
        ⟨hentries, texts, hok⟩ | ⟨cause, ⟨entry, hentry, harises⟩, herror⟩
      · refine Or.inl ⟨isWritable_of_children (entries.map Prod.snd) nofun ?_ ?_, _,
          bind_eq_ok_iff.mpr ⟨texts, hok, rfl⟩⟩
        · rintro level held (_ | _ | ⟨hmem, hinside⟩)
          exact ⟨_, List.mem_map_of_mem hmem, hinside⟩
        · intro child hchild
          obtain ⟨entry, hentry, rfl⟩ := List.mem_map.mp hchild
          exact hentries entry hentry
      · exact Or.inr ⟨cause, arises_of_child (fun _ _ => .entry hentry) harises,
          bind_eq_error_iff.mpr (Or.inl herror)⟩

/-- A value is written exactly if it can be. -/
theorem exists_written_iff (depth : Nat) (value : Value) :
    (∃ text, value.written depth = .ok text) ↔ IsWritable depth value := by
  rcases written_cases depth value with ⟨hwritable, hok⟩ | ⟨cause, harises, herror⟩
  · exact iff_of_true hok hwritable
  · refine iff_of_false ?_ fun hwritable => hwritable cause harises
    rintro ⟨text, htext⟩
    rw [herror] at htext
    cases htext

instance (depth : Nat) (value : Value) : Decidable (IsWritable depth value) :=
  match h : value.written depth with
  | .ok written => isTrue ((exists_written_iff depth value).mp ⟨written, h⟩)
  | .error _ => isFalse fun hwritable => by
    obtain ⟨text, htext⟩ := (exists_written_iff depth value).mpr hwritable
    rw [h] at htext
    cases htext

end Value

end ShaderLoom
