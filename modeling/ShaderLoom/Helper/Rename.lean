import ShaderLoom.Fault
import ShaderLoom.Text.Blank
import ShaderLoom.Text.Digit
import ShaderLoom.Text.Name
import ShaderLoom.Text.Word

/-!
# Renaming helpers

A helper is renamed wherever its name is followed by an opening parenthesis: where it is defined
and where it is called.  The new name is a replacement text, in which a backslash introduces a
control character, an octal code or a reference to the text that is replaced.
-/

namespace ShaderLoom.Helper

/-! ### Replacement texts -/

/-- A part of a replacement text: text, or the whole of what is replaced. -/
inductive Part where
  | text (chars : List Char)
  | whole
deriving DecidableEq, Inhabited

/-- The character that a letter after a backslash stands for. -/
def controlChar? : Char → Option Char
  | 'a' => some (Char.ofNat 7)
  | 'b' => some (Char.ofNat 8)
  | 't' => some '\t'
  | 'n' => some '\n'
  | 'v' => some (Char.ofNat 11)
  | 'f' => some (Char.ofNat 12)
  | 'r' => some '\r'
  | '\\' => some '\\'
  | _ => none

/-- An octal digit. -/
def isOctal (c : Char) : Bool := '0' ≤ c && c ≤ '7'

/-- The number that octal digits spell. -/
def octalValue (digits : List Char) : Nat :=
  digits.foldl (fun value c => 8 * value + (c.toNat - 0x30)) 0

/-- Whether a text spells the number zero: digits, perhaps with a sign, single underscores between
them and blanks around.  Zeros in front count as digits. -/
def spellsZero (name : List Char) : Bool :=
  let digits := match Text.trimBoth Text.isOuterBlank name with
    | '-' :: rest => rest
    | '+' :: rest => rest
    | rest => rest
  zeros digits && (digits.filter (· != '_')).length ≤ maxDigits
where
  /-- Zeros with single underscores between them. -/
  zeros : List Char → Bool
    | [] => false
    | [c] => Text.digitValue? c == some 0
    | c :: '_' :: rest => Text.digitValue? c == some 0 && zeros rest
    | c :: rest => Text.digitValue? c == some 0 && zeros rest

/-- Cuts a text at its first closing angle bracket; a backslash and what follows it stay
together. -/
def cutAtAngle : List Char → Option (List Char × List Char)
  | [] => none
  | '>' :: rest => some ([], rest)
  | '\\' :: c :: rest => (cutAtAngle rest).map fun (name, after) => ('\\' :: c :: name, after)
  | c :: rest => (cutAtAngle rest).map fun (name, after) => (c :: name, after)

/-- The part that a named reference stands for. -/
def reference (name : List Char) : Except ReplacementFault Part :=
  if Text.isName name then .error (.unknownName (String.ofList name))
  else if spellsZero name then .ok .whole
  else .error .badEscape

/-- The part that a backslash begins, and the text behind it. -/
def escape : List Char → Except ReplacementFault (Part × List Char)
  | [] => .error .badEscape
  | 'g' :: '<' :: rest =>
    match cutAtAngle rest with
    | none => .error .badEscape
    | some (name, after) => do return (← reference name, after)
  | 'g' :: _ => .error .badEscape
  | '0' :: rest =>
    let digits := (rest.take 2).takeWhile isOctal
    .ok (.text [Char.ofNat (octalValue digits % 256)], rest.drop digits.length)
  | c :: rest =>
    if c.isDigit then
      let digits := c :: rest.take 2
      if digits.length = 3 ∧ digits.all isOctal then
        if octalValue digits ≤ 0xff then .ok (.text [Char.ofNat (octalValue digits)], rest.drop 2)
        else .error .badEscape
      else .error .badGroup
    else match controlChar? c with
      | some control => .ok (.text [control], rest)
      | none => if c.isAlpha then .error .badEscape else .ok (.text ['\\', c], rest)

theorem length_of_cutAtAngle {text name after : List Char}
    (h : cutAtAngle text = some (name, after)) : after.length ≤ text.length := by
  fun_induction cutAtAngle text generalizing name with
  | case1 => cases h
  | case2 rest =>
    cases h
    simp
  | case3 c rest ih =>
    obtain ⟨⟨inner, tail⟩, hcut, heq⟩ := Option.map_eq_some_iff.mp h
    cases heq
    have := ih hcut
    simp only [List.length_cons]
    omega
  | case4 c rest _ _ ih =>
    obtain ⟨⟨inner, tail⟩, hcut, heq⟩ := Option.map_eq_some_iff.mp h
    cases heq
    have := ih hcut
    simp only [List.length_cons]
    omega

/-- What stands behind an escape is no longer than the text with the escape. -/
theorem length_of_escape {text after : List Char} {part : Part}
    (h : escape text = .ok (part, after)) : after.length ≤ text.length := by
  unfold escape at h
  split at h
  · cases h
  · next rest =>
    split at h
    · cases h
    · next name tail hcut =>
      have := length_of_cutAtAngle hcut
      cases hname : reference name with
      | error cause => simp [hname, bind, Except.bind] at h
      | ok found =>
        simp only [hname, bind, Except.bind, pure, Except.pure, Except.ok.injEq,
          Prod.mk.injEq] at h
        simp only [List.length_cons, ← h.2]
        omega
  · cases h
  · cases h
    simp only [List.length_drop, List.length_cons]
    omega
  · dsimp only at h
    repeat' split at h
    all_goals cases h
    all_goals simp only [List.length_drop, List.length_cons]
    all_goals omega

/-- The parts of a replacement text. -/
def replacementParts (text : List Char) : Except ReplacementFault (List Part) :=
  match text with
  | [] => .ok []
  | '\\' :: rest =>
    match _h : escape rest with
    | .error cause => .error cause
    | .ok (part, after) => do return part :: (← replacementParts after)
  | c :: rest => do return .text [c] :: (← replacementParts rest)
termination_by text.length
decreasing_by
  · have := length_of_escape ‹_›
    simp only [List.length_cons]
    omega
  · simp

/-- The replacement of the text `matched`. -/
def expand (parts : List Part) (matched : List Char) : List Char :=
  parts.flatMap fun
    | .text chars => chars
    | .whole => matched

/-! ### Renaming -/

/-- The text of the call or definition of `name` at the front of a text, up to the opening
parenthesis. -/
def callAt? (name : List Char) (before : Option Char) (text : List Char) : Option (List Char) :=
  if Text.atBoundary before text && name.isPrefixOf text then
    let rest := text.drop name.length
    match rest.dropWhile Text.isBlank with
    | '(' :: _ => some (name ++ rest.takeWhile Text.isBlank ++ ['('])
    | _ => none
  else none

/-- The text with every call and definition of `name` replaced. -/
def replaceCalls (name : List Char) (parts : List Part) (before : Option Char) (text : List Char) :
    List Char :=
  match text with
  | [] => []
  | c :: rest =>
    match callAt? name before (c :: rest) with
    | some call =>
      expand parts call ++ replaceCalls name parts (Text.lastOf before call)
        (rest.drop (call.length - 1))
    | none => c :: replaceCalls name parts (some c) rest
termination_by text.length
decreasing_by
  · simp only [List.length_drop, List.length_cons]
    omega
  · simp

/-- The code with the helper `old` renamed to `new`. -/
def renameOne (old new : String) (code : List Char) : Except Fault (List Char) :=
  match replacementParts (new.toList ++ ['(']) with
  | .ok parts => .ok (replaceCalls old.toList parts none code)
  | .error cause => .error (.replacement cause)

/-- The code with all renamings made, one after the other. -/
def renameAll (renames : List (String × String)) (code : List Char) : Except Fault (List Char) :=
  renames.foldlM (fun code rename => renameOne rename.1 rename.2 code) code

end ShaderLoom.Helper
