import Mathlib.Data.List.Basic
import ShaderLoom.Bands
import ShaderLoom.Proofs.Outcomes
import ShaderLoom.Proofs.WrittenValues
import ShaderLoom.Scope

/-!
# What cannot be written

A compilation mends almost everything that it finds amiss.  What it does not mend is an integer that
is too large for a double, in a place where a number is needed, and a value that a message or a text
cannot show.  This module says when a value is refused for such a reason, and how conditions of
success are put together.
-/

namespace ShaderLoom

/-! ### Conditions of success -/

/-- Faults other than a conversion that is not possible: an integer is too large, a value cannot be
written, or the sink has no known type. -/
def Fault.isRefusal : Fault → Bool
  | .number .tooLarge | .arrayEntry .tooLarge | .unwritable _ | .untypedSink => true
  | _ => false

/-- The fault of a number that a computation ends with. -/
def numberFault? {α : Type} : Except Fault α → Option NumberFault
  | .error (.number cause) => some cause
  | _ => none

/-- The cause is found exactly where a number has stopped the computation. -/
lemma numberFault?_eq_some_iff {α : Type} {outcome : Except Fault α} {cause : NumberFault} :
    numberFault? outcome = some cause ↔ outcome = .error (.number cause) := by
  constructor
  · intro h
    unfold numberFault? at h
    split at h
    · cases h
      rfl
    · cases h
  · rintro rfl
    rfl

/-- The computation succeeds exactly under the condition, and otherwise ends with a refusal. -/
structure SucceedsIff {α : Type} (outcome : Except Fault α) (condition : Prop) : Prop where
  ok_iff : (∃ a, outcome = .ok a) ↔ condition
  refusal : ∀ fault, outcome = .error fault → fault.isRefusal = true

namespace SucceedsIff

variable {α β : Type} {P Q : Prop}

lemma of_ok {outcome : Except Fault α} {a : α} (h : outcome = .ok a) (hP : P) :
    SucceedsIff outcome P := by
  refine ⟨⟨fun _ => hP, fun _ => ⟨a, h⟩⟩, fun fault hfault => ?_⟩
  rw [h] at hfault
  cases hfault

lemma of_error {outcome : Except Fault α} {fault : Fault} (h : outcome = .error fault)
    (hfault : fault.isRefusal = true) (hP : ¬P) : SucceedsIff outcome P := by
  refine ⟨⟨fun ⟨a, ha⟩ => ?_, fun hholds => absurd hholds hP⟩, fun fault' hfault' => ?_⟩
  · rw [h] at ha
    cases ha
  · rw [h] at hfault'
    cases hfault'
    exact hfault

lemma congr {outcome : Except Fault α} (h : SucceedsIff outcome P) (hPQ : P ↔ Q) :
    SucceedsIff outcome Q :=
  ⟨h.ok_iff.trans hPQ, h.refusal⟩

/-- A condition on what was looked up is a condition on what was found. -/
lemma found {γ : Type} {outcome : Except Fault α} {value : γ} {R : γ → Prop}
    (h : SucceedsIff outcome (R value)) :
    SucceedsIff outcome (∀ other, some value = some other → R other) := by
  refine h.congr ⟨?_, fun hall => hall value rfl⟩
  rintro hvalue _ ⟨⟩
  exact hvalue

/-- One computation after the other, where the condition of the second may depend on the result of
the first. -/
lemma bind {first : Except Fault α} {next : α → Except Fault β} {R : α → Prop}
    (h : SucceedsIff first P) (hnext : ∀ a, first = .ok a → SucceedsIff (next a) (R a)) :
    SucceedsIff (first >>= next) (P ∧ ∀ a, first = .ok a → R a) := by
  constructor
  · constructor
    · rintro ⟨b, hb⟩
      obtain ⟨a, ha, hb⟩ := bind_eq_ok_iff.mp hb
      refine ⟨h.ok_iff.mp ⟨a, ha⟩, fun a' ha' => ?_⟩
      rw [ha] at ha'
      cases ha'
      exact (hnext a ha).ok_iff.mp ⟨b, hb⟩
    · rintro ⟨hP, hR⟩
      obtain ⟨a, ha⟩ := h.ok_iff.mpr hP
      obtain ⟨b, hb⟩ := (hnext a ha).ok_iff.mpr (hR a ha)
      exact ⟨b, bind_eq_ok_iff.mpr ⟨a, ha, hb⟩⟩
  · intro fault hfault
    rcases bind_eq_error_iff.mp hfault with hfirst | ⟨a, ha, hb⟩
    · exact h.refusal fault hfirst
    · exact (hnext a ha).refusal fault hb

/-- One computation after the other, with independent conditions. -/
lemma andThen {first : Except Fault α} {next : α → Except Fault β} (h : SucceedsIff first P)
    (hnext : ∀ a, first = .ok a → SucceedsIff (next a) Q) :
    SucceedsIff (first >>= next) (P ∧ Q) := by
  refine (h.bind hnext).congr (and_congr_right fun hP => ?_)
  obtain ⟨a, ha⟩ := h.ok_iff.mpr hP
  exact ⟨fun hQ => hQ a ha, fun hQ _ _ => hQ⟩

/-- Something that cannot fail may follow a computation. -/
lemma followed {first : Except Fault α} {next : α → Except Fault β} (h : SucceedsIff first P)
    (hnext : ∀ a, first = .ok a → ∃ b, next a = .ok b) : SucceedsIff (first >>= next) P := by
  refine (h.andThen fun a ha => ?_).congr (by rw [and_true])
  obtain ⟨b, hb⟩ := hnext a ha
  exact of_ok hb trivial

/-- Something that does not fail may come before a computation. -/
lemma preceded {first : Except Fault α} {next : α → Except Fault β} {a : α} (h : first = .ok a)
    (hnext : SucceedsIff (next a) P) : SucceedsIff (first >>= next) P := by
  rw [h]
  exact hnext

/-- A list of computations succeeds when each of them does. -/
lemma mapM {f : α → Except Fault β} {R : α → Prop} {items : List α}
    (h : ∀ item ∈ items, SucceedsIff (f item) (R item)) :
    SucceedsIff (items.mapM f) (∀ item ∈ items, R item) := by
  constructor
  · constructor
    · rintro ⟨results, hresults⟩ item hitem
      obtain ⟨b, -, hb⟩ := exists_ok_of_mapM_eq_ok hresults hitem
      exact (h item hitem).ok_iff.mp ⟨b, hb⟩
    · intro hR
      exact exists_mapM_eq_ok fun item hitem => (h item hitem).ok_iff.mpr (hR item hitem)
  · intro fault hfault
    obtain ⟨item, hitem, hfault⟩ := exists_error_of_mapM_eq_error hfault
    exact (h item hitem).refusal fault hfault

/-- A fold succeeds when each of its steps does. -/
lemma foldlM {f : β → α → Except Fault β} {R : α → Prop} {items : List α}
    (h : ∀ b, ∀ item ∈ items, SucceedsIff (f b item) (R item)) (start : β) :
    SucceedsIff (items.foldlM f start) (∀ item ∈ items, R item) := by
  constructor
  · constructor
    · rintro ⟨result, hresult⟩ item hitem
      obtain ⟨b, b', hb⟩ := exists_ok_of_foldlM_eq_ok hresult hitem
      exact (h b item hitem).ok_iff.mp ⟨b', hb⟩
    · intro hR
      exact exists_foldlM_eq_ok (fun b item hitem => (h b item hitem).ok_iff.mpr (hR item hitem))
        start
  · intro fault hfault
    obtain ⟨item, hitem, b, hfault⟩ := exists_error_of_foldlM_eq_error hfault
    exact (h b item hitem).refusal fault hfault

end SucceedsIff

/-! ### Values -/

namespace Value

/-- Whether the value is an integer that no double is near to. -/
def isOversized : Value → Bool
  | .int i => (Double.ofInt? i).isNone
  | _ => false

/-- Whether reading the value as a grid of numbers comes upon an integer that is too large. -/
def holdsOversized (value : Value) : Bool :=
  match value.toGrid with
  | .error .tooLarge => true
  | _ => false

/-- A number is too large exactly if it is an oversized integer. -/
lemma toDouble_eq_tooLarge_iff {value : Value} :
    value.toDouble = .error .tooLarge ↔ value.isOversized = true := by
  cases value with
  | int i => cases h : Double.ofInt? i <;> simp [toDouble, isOversized, h]
  | text s => cases h : Decimal.read? s.toList <;> simp [toDouble, isOversized, numberOfText, h]
  | _ => simp [toDouble, isOversized]

/-- A grid has a number that is too large exactly if it holds an oversized integer. -/
lemma toGrid_eq_tooLarge_iff {value : Value} :
    value.toGrid = .error .tooLarge ↔ value.holdsOversized = true := by
  unfold holdsOversized
  split
  · next h => simp [h]
  · next h => simpa using h

/-- A value whose grid has no such number holds no oversized integer. -/
lemma holdsOversized_eq_false {value : Value} (h : value.toGrid ≠ .error .tooLarge) :
    value.holdsOversized = false :=
  Bool.eq_false_iff.mpr fun hlarge => h (toGrid_eq_tooLarge_iff.mpr hlarge)

end Value

namespace Literal

/-- Only an integer that is too large is refused. -/
lemma orElse_cases (fallback : String) (literal : Except NumberFault String) :
    (literal = .error .tooLarge ∧ orElse fallback literal = .error .tooLarge) ∨
      (literal ≠ .error .tooLarge ∧ ∃ text, orElse fallback literal = .ok text) := by
  unfold orElse
  split
  · exact Or.inr ⟨nofun, _, rfl⟩
  · exact Or.inl ⟨rfl, rfl⟩
  · next hne => exact Or.inr ⟨fun h => hne (Except.error.inj h), _, rfl⟩

end Literal

/-- Whether a parameter of the type has no literal for the value. -/
def ParameterType.refuses : ParameterType → Value → Bool
  | .int, _ => false
  | .vec4, value => value.holdsOversized
  | _, value => value.isOversized

namespace Literal

/-- The literal of a number is refused exactly if the number is oversized. -/
lemma ofValue_eq_tooLarge_iff {value : Value} :
    ofValue value = .error .tooLarge ↔ value.isOversized = true := by
  rw [← Value.toDouble_eq_tooLarge_iff]
  unfold ofValue
  cases value.toDouble with
  | ok x => exact ⟨nofun, nofun⟩
  | error cause => exact ⟨fun h => congrArg _ (Except.error.inj h), fun h => by rw [h]; rfl⟩

/-- The literal of a vector is refused exactly if it holds an oversized integer. -/
lemma vectorOfValue_eq_tooLarge_iff {value : Value} :
    vectorOfValue value = .error .tooLarge ↔ value.holdsOversized = true := by
  rw [← Value.toGrid_eq_tooLarge_iff]
  unfold vectorOfValue
  split
  · exact ⟨nofun, nofun⟩
  · cases value.toGrid with
    | ok grid => exact ⟨nofun, nofun⟩
    | error cause => exact ⟨fun h => congrArg _ (Except.error.inj h), fun h => by rw [h]; rfl⟩

/-- A value has a literal of a type unless the type refuses it. -/
lemma ofParameter_cases (value : Value) (type : ParameterType) :
    (type.refuses value = true ∧ ofParameter value type = .error .tooLarge) ∨
      (type.refuses value = false ∧ ∃ text, ofParameter value type = .ok text) := by
  cases type with
  | int => exact Or.inr ⟨rfl, _, rfl⟩
  | vec4 =>
    have h := orElse_cases "vec4(0.0)" (vectorOfValue value)
    rw [Ne, vectorOfValue_eq_tooLarge_iff, Bool.not_eq_true] at h
    exact h
  | float | string | array =>
    have h := orElse_cases "0.0" (ofValue value)
    rw [Ne, ofValue_eq_tooLarge_iff, Bool.not_eq_true] at h
    exact h

/-- The entries of an array parameter can be read unless one of them is too large. -/
lemma arrayEntries_cases (value : Value) :
    (value.holdsOversized = true ∧ arrayEntries value = .error .tooLarge) ∨
      (value.holdsOversized = false ∧ ∃ entries, arrayEntries value = .ok entries) := by
  by_cases hgrid : value.toGrid = .error .tooLarge
  · refine Or.inl ⟨Value.toGrid_eq_tooLarge_iff.mp hgrid, ?_⟩
    unfold arrayEntries
    split
    · cases hgrid
    · rw [hgrid]
  · refine Or.inr ⟨Value.holdsOversized_eq_false hgrid, ?_⟩
    unfold arrayEntries
    split
    · exact ⟨_, rfl⟩
    · split
      · exact ⟨_, rfl⟩
      · next h => exact absurd h hgrid
      · exact ⟨_, rfl⟩

/-- With a usable number of places, every array constant can be declared. -/
lemma exists_arrayDeclaration {places : Int} {count : Nat} (h : usablePlaces places = .ok count)
    (name : String) (entries : List Double) :
    ∃ text, arrayDeclaration name entries places = .ok text := by
  have hentry : ∀ entry ∈ entries,
      ofEntry places entry = .ok (String.ofList (Decimal.fixed count entry)) := by
    intro entry _
    unfold ofEntry
    rw [h]
  unfold arrayDeclaration
  rw [mapM_eq_ok_map hentry]
  exact ⟨_, rfl⟩

end Literal

/-! ### Arrays -/

/-- Whether a parameter of the node is an array with an entry that is too large. -/
def Node.refusesArray (node : Node) (entry : String × Parameter) : Bool :=
  entry.2.type == .array && (node.valueOr entry.1 entry.2).holdsOversized

/-- Whether an array parameter of the node has an entry that is too large. -/
def Scope.refusesArrays (scope : Scope) : Bool :=
  scope.type.parameters.entries.any scope.node.refusesArray

namespace Scope

/-- The search for arrays ends early exactly when one of them is refused. -/
lemma fault_findArrays (node : Node) (entries : List (String × Parameter)) :
    (findArrays node entries).fault =
      if entries.any node.refusesArray then some .tooLarge else none := by
  induction entries with
  | nil => rfl
  | cons entry rest ih =>
    obtain ⟨name, parameter⟩ := entry
    rw [List.any_cons]
    unfold findArrays
    by_cases harray : parameter.type = .array
    · rw [if_pos harray]
      have hrefuses : node.refusesArray (name, parameter) =
          (node.valueOr name parameter).holdsOversized := by
        unfold Node.refusesArray
        rw [harray]
        rfl
      rw [hrefuses]
      rcases Literal.arrayEntries_cases (node.valueOr name parameter) with
        ⟨hlarge, hentries⟩ | ⟨hlarge, result, hentries⟩
      · simp only [hentries, hlarge, Bool.true_or, if_true]
      · simp only [hentries, hlarge, Bool.false_or, ← ih]
        match result with
        | none => dsimp only; split <;> rfl
        | some [] => rfl
        | some (first :: others) => rfl
    · rw [if_neg harray, ih]
      have hrefuses : node.refusesArray (name, parameter) = false := by
        unfold Node.refusesArray
        rw [beq_false_of_ne harray]
        rfl
      rw [hrefuses, Bool.false_or]

variable {scope : Scope}

/-- The arrays of a node are cut short exactly if one is refused. -/
lemma fault_foundArrays (scope : Scope) :
    scope.foundArrays.fault = if scope.refusesArrays then some .tooLarge else none :=
  fault_findArrays scope.node scope.type.parameters.entries

/-- If no array is refused, all of them are found. -/
lemma arrays_eq_ok (h : scope.refusesArrays = false) : scope.arrays = .ok scope.foundArrays := by
  unfold arrays
  rw [fault_foundArrays, h]
  rfl

/-- The arrays of a node are found unless one is refused. -/
lemma succeedsIff_arrays : SucceedsIff scope.arrays (scope.refusesArrays = false) := by
  cases hrefuses : scope.refusesArrays with
  | true =>
    unfold arrays
    rw [fault_foundArrays, hrefuses]
    exact SucceedsIff.of_error rfl rfl nofun
  | false => exact SucceedsIff.of_ok (arrays_eq_ok hrefuses) rfl

/-- The arrays of a node are declared unless one is refused. -/
lemma succeedsIff_arrayDeclarations {count : Nat}
    (hplaces : Literal.usablePlaces scope.scene.settings.arrayPlaces = .ok count) :
    SucceedsIff scope.arrayDeclarations (scope.refusesArrays = false) := by
  refine succeedsIff_arrays.followed fun found _ => exists_mapM_eq_ok fun constant _ => ?_
  exact Literal.exists_arrayDeclaration hplaces constant.name constant.entries

/-- A literal is written unless its value is refused. -/
lemma succeedsIff_literal (name : String) (parameter : Parameter) :
    SucceedsIff (scope.literal name parameter)
      (parameter.type.refuses (scope.node.settledValue name parameter) = false) := by
  unfold literal
  rcases Literal.ofParameter_cases (scope.node.settledValue name parameter) parameter.type with
    ⟨hrefuses, htext⟩ | ⟨hrefuses, text, htext⟩
  · rw [htext, hrefuses]
    exact SucceedsIff.of_error rfl rfl nofun
  · rw [htext, hrefuses]
    exact SucceedsIff.of_ok rfl (by simp)

end Scope

/-! ### Frequency bands -/

/-- Whether the bands that the author of a node set hold an integer that is too large. -/
def Node.refusesBands (node : Node) : Bool :=
  (node.value? bandsParameter).any Value.holdsOversized

/-- The bands of a value can be read unless one of them is too large. -/
lemma bandsOfValue?_cases (value : Value) :
    (value.holdsOversized = true ∧ bandsOfValue? value = .error (.number .tooLarge)) ∨
      (value.holdsOversized = false ∧ ∃ bands, bandsOfValue? value = .ok bands) := by
  by_cases hgrid : value.toGrid = .error .tooLarge
  · refine Or.inl ⟨Value.toGrid_eq_tooLarge_iff.mp hgrid, ?_⟩
    unfold bandsOfValue?
    rw [hgrid]
  · refine Or.inr ⟨Value.holdsOversized_eq_false hgrid, ?_⟩
    unfold bandsOfValue?
    split
    · split
      · exact ⟨_, rfl⟩
      · exact ⟨_, rfl⟩
    · next h => exact absurd h hgrid
    · exact ⟨_, rfl⟩

/-- Candidates that are not too large leave the search with some bands. -/
lemma Node.exists_firstBands {fallback : Value} {grid : Grid} (h : fallback.toGrid = .ok grid)
    {candidates : List Value} (hcandidates : ∀ value ∈ candidates, value.holdsOversized = false) :
    ∃ bands, firstBands fallback candidates = .ok bands := by
  induction candidates with
  | nil =>
    unfold firstBands
    rw [h]
    exact ⟨_, rfl⟩
  | cons value rest ih =>
    unfold firstBands
    rcases bandsOfValue?_cases value with ⟨hlarge, -⟩ | ⟨-, found, hfound⟩
    · rw [hcandidates value List.mem_cons_self] at hlarge
      cases hlarge
    · rw [hfound]
      cases found with
      | some bands => exact ⟨bands, rfl⟩
      | none => exact ih fun other hother => hcandidates other (List.mem_cons_of_mem value hother)

/-- Whether the bands of a node type hold an integer that is too large. -/
def NodeType.refusesBands (type : NodeType) : Bool :=
  ((type.parameter? bandsParameter).bind fun parameter => parameter.default.given?).any
    Value.holdsOversized

/-- The bands of a node are read unless its author's are refused. -/
lemma Node.succeedsIff_bands {type : NodeType} {settings : Settings} {grid : Grid}
    (htype : type.refusesBands = false) (hsettings : settings.defaultBands.toGrid = .ok grid)
    (node : Node) : SucceedsIff (node.bands type settings) (node.refusesBands = false) := by
  have hdefault : ∀ value ∈ ((type.parameter? bandsParameter).bind
      fun parameter => parameter.default.given?).toList, value.holdsOversized = false := by
    intro value hvalue
    unfold NodeType.refusesBands at htype
    rw [Option.mem_toList] at hvalue
    rw [hvalue] at htype
    exact htype
  unfold Node.bands Node.bandsCandidates Node.refusesBands
  cases node.value? bandsParameter with
  | none =>
    obtain ⟨bands, hbands⟩ := Node.exists_firstBands hsettings hdefault
    exact SucceedsIff.of_ok hbands (by simp)
  | some value =>
    rcases bandsOfValue?_cases value with ⟨hlarge, hfault⟩ | ⟨hlarge, -⟩
    · have hfirst : ∀ rest, Node.firstBands settings.defaultBands (value :: rest) =
          .error (.number .tooLarge) := by
        intro rest
        unfold Node.firstBands
        rw [hfault]
        rfl
      exact SucceedsIff.of_error (hfirst _) rfl (by simp [hlarge])
    · have hcandidates : ∀ candidate ∈ (some value).toList ++ ((type.parameter? bandsParameter).bind
          fun parameter => parameter.default.given?).toList, candidate.holdsOversized = false := by
        intro candidate hcandidate
        rcases List.mem_append.mp hcandidate with hmem | hmem
        · rw [Option.mem_toList] at hmem
          cases hmem
          exact hlarge
        · exact hdefault candidate hmem
      obtain ⟨bands, hbands⟩ := Node.exists_firstBands hsettings hcandidates
      exact SucceedsIff.of_ok hbands (by simp [hlarge])

end ShaderLoom
