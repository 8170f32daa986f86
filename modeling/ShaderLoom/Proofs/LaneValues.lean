import ShaderLoom.Proofs.ShaderExpressions

/-!
# Values of expressions

The value of an expression is a list of lanes: one for a scalar, and two to four for a vector.
Constructors put the lanes of their arguments one behind the other, a single lane fills all lanes of
a vector, and operators work lane by lane.  A typed expression has as many lanes as its type says,
and all of the kind that its type says.

A value of one type is converted to another by its lanes alone: a scalar fills the color, missing
lanes are zero, a missing alpha is one, and lanes that are too many are dropped.  What was converted
up the types comes back down unchanged, and it does not matter in how many steps a value goes down.
-/

namespace ShaderLoom

/-! ### Lanes -/

/-- A lane of a value. -/
inductive Lane (W S : Type) where
  | truth (b : Bool)
  | whole (w : W)
  | scalar (x : S)
deriving DecidableEq

/-- The type of a value that has a single lane of this kind. -/
def Lane.kind {W S : Type} : Lane W S → PortType
  | .truth _ => .bool
  | .whole _ => .int
  | .scalar _ => .float

/-- The kind of the lanes of a value. -/
def PortType.laneKind : PortType → PortType
  | .bool => .bool
  | .int => .int
  | _ => .float

/-- Whole numbers and scalars to compute with.  A whole number comes back from the scalars. -/
structure Arithmetic (W S : Type) where
  float : FloatLiteral → S
  integer : IntegerLiteral → W
  toScalar : W → S
  toWhole : S → W
  toWhole_toScalar : ∀ w, toWhole (toScalar w) = w
  scalarOfTruth : Bool → S
  wholeOfTruth : Bool → W
  truthOfScalar : S → Bool
  truthOfWhole : W → Bool
  onScalars : Operator → S → S → S
  onWholes : Operator → W → W → W

/-- The literal `0.0`. -/
def FloatLiteral.zero : FloatLiteral := ⟨false, ⟨['0'], by decide⟩, ⟨['0'], by decide⟩, none⟩

/-- The literal `1.0`. -/
def FloatLiteral.one : FloatLiteral := ⟨false, ⟨['1'], by decide⟩, ⟨['0'], by decide⟩, none⟩

namespace Arithmetic

variable {W S : Type} (A : Arithmetic W S)

/-- A lane as a scalar. -/
def scalarOf : Lane W S → S
  | .truth b => A.scalarOfTruth b
  | .whole w => A.toScalar w
  | .scalar x => x

/-- A lane as a whole number. -/
def wholeOf : Lane W S → W
  | .truth b => A.wholeOfTruth b
  | .whole w => w
  | .scalar x => A.toWhole x

/-- A lane as a truth. -/
def truthOf : Lane W S → Bool
  | .truth b => b
  | .whole w => A.truthOfWhole w
  | .scalar x => A.truthOfScalar x

/-- A lane as a lane of a value of the type. -/
def toLane (type : PortType) (lane : Lane W S) : Lane W S :=
  match type.laneKind with
  | .bool => .truth (A.truthOf lane)
  | .int => .whole (A.wholeOf lane)
  | _ => .scalar (A.scalarOf lane)

/-- The value that a constructor makes from the lanes of its arguments. -/
def construct (type : PortType) (lanes : List (Lane W S)) : List (Lane W S) :=
  match lanes with
  | [lane] => List.replicate type.laneCount (A.toLane type lane)
  | lanes => (lanes.take type.laneCount).map (A.toLane type)

/-- Two lanes of one kind under an operator. -/
def combineLanes (op : Operator) : Lane W S → Lane W S → Lane W S
  | .scalar x, .scalar y => .scalar (A.onScalars op x y)
  | .whole v, .whole w => .whole (A.onWholes op v w)
  | lane, _ => lane

end Arithmetic

namespace Expression

variable {W S : Type} (A : Arithmetic W S) (env : VariableName → List (Lane W S))

mutual

/-- The value of an expression. -/
def eval : Expression → List (Lane W S)
  | .name x => env x
  | .float literal => [.scalar (A.float literal)]
  | .integer literal => [.whole (A.integer literal)]
  | .truth b => [.truth b]
  | .construct type args => A.construct type (evalAll args)
  | .group inner => eval inner
  | .select base selection => selection.lanes.filterMap fun lane => (eval base)[lane.val]?
  | .combine left op right => List.zipWith (A.combineLanes op) (eval left) (eval right)

/-- The lanes of several expressions. -/
def evalAll : List Expression → List (Lane W S)
  | [] => []
  | arg :: rest => eval arg ++ evalAll rest

end

end Expression

/-! ### Typed values -/

/-- The lanes of a value of the type. -/
def PortType.Fits {W S : Type} (type : PortType) (lanes : List (Lane W S)) : Prop :=
  lanes.length = type.laneCount ∧ ∀ lane ∈ lanes, lane.kind = type.laneKind

namespace Arithmetic

variable {W S : Type} (A : Arithmetic W S)

/-- A converted lane has the kind of its type. -/
lemma kind_toLane (type : PortType) (lane : Lane W S) :
    (A.toLane type lane).kind = type.laneKind := by
  cases type <;> rfl

/-- A constructor with one lane, or with enough of them, makes a value of its type. -/
lemma fits_construct {type : PortType} {lanes : List (Lane W S)}
    (h : lanes.length = 1 ∨ type.laneCount ≤ lanes.length) :
    type.Fits (A.construct type lanes) := by
  unfold construct
  split
  · refine ⟨List.length_replicate, fun lane hlane => ?_⟩
    rw [List.eq_of_mem_replicate hlane]
    exact A.kind_toLane type _
  · next hne =>
    refine ⟨?_, fun lane hlane => ?_⟩
    · have hcount : type.laneCount ≤ lanes.length := by
        refine h.resolve_left fun hone => ?_
        obtain ⟨lane, rfl⟩ := List.length_eq_one_iff.mp hone
        exact hne lane rfl
      rw [List.length_map, List.length_take, Nat.min_eq_left hcount]
    · obtain ⟨other, -, rfl⟩ := List.mem_map.mp hlane
      exact A.kind_toLane type other

lemma kind_combineLanes (op : Operator) (lane other : Lane W S) :
    (A.combineLanes op lane other).kind = lane.kind := by
  cases lane <;> cases other <;> rfl

end Arithmetic

/-- The type for a number of lanes has as many floats. -/
lemma PortType.of_ofLaneCount? {count : ℕ} {type : PortType} (h : ofLaneCount? count = some type) :
    type.laneCount = count ∧ type.laneKind = .float := by
  unfold ofLaneCount? at h
  split at h <;> cases h <;> exact ⟨rfl, rfl⟩

lemma PortType.laneKind_of_isVector {type : PortType} (h : type.isVector = true) :
    type.laneKind = .float := by
  revert h
  cases type <;> decide

/-- A vector that has the selected lanes gives one for each. -/
lemma length_filterMap_getElem? {α : Type} {values : List α} {places : List (Fin 4)}
    (h : ∀ place ∈ places, place.val < values.length) :
    (places.filterMap fun place => values[place.val]?).length = places.length := by
  induction places with
  | nil => rfl
  | cons place rest ih =>
    obtain ⟨hplace, hrest⟩ := List.forall_mem_cons.mp h
    simp only [List.filterMap_cons, List.getElem?_eq_getElem hplace, List.length_cons, ih hrest]

namespace Expression

variable {W S : Type} (A : Arithmetic W S) {env : VariableName → List (Lane W S)}
  {types : VariableName → Option PortType}

/-- The variables have values of their types. -/
def Respects (types : VariableName → Option PortType) (env : VariableName → List (Lane W S)) :
    Prop :=
  ∀ x type, types x = some type → type.Fits (env x)

/-- Arguments have as many lanes as their types together. -/
lemma length_evalAll {args : List Expression} {given : List PortType}
    (h : typesOf? types args = some given)
    (hfits : ∀ arg ∈ args, ∀ type, arg.type? types = some type → type.Fits (arg.eval A env)) :
    (evalAll A env args).length = PortType.laneTotal given := by
  induction args generalizing given with
  | nil =>
    cases h
    rfl
  | cons arg rest ih =>
    obtain ⟨type, others, rfl, htype, hrest⟩ := of_typesOf?_cons h
    have hlanes := ih hrest fun other hother => hfits other (List.mem_cons_of_mem arg hother)
    rw [evalAll, List.length_append, (hfits arg List.mem_cons_self type htype).1, hlanes]
    rfl

/-- A typed expression has a value of its type. -/
theorem fits_eval (henv : Respects types env) {e : Expression} {type : PortType}
    (h : e.type? types = some type) : type.Fits (e.eval A env) := by
  induction e generalizing type with
  | name x => exact henv x type h
  | float literal =>
    cases h
    exact ⟨rfl, by simp [eval, Lane.kind, PortType.laneKind]⟩
  | integer literal =>
    cases h
    exact ⟨rfl, by simp [eval, Lane.kind, PortType.laneKind]⟩
  | truth b =>
    cases h
    exact ⟨rfl, by simp [eval, Lane.kind, PortType.laneKind]⟩
  | construct constructed args ih =>
    obtain ⟨rfl, given, hgiven, haccepts⟩ := of_type?_construct h
    have hlength := length_evalAll A hgiven fun arg harg found hfound => ih arg harg hfound
    rw [eval]
    refine A.fits_construct ?_
    rw [hlength]
    simp only [PortType.accepts, Bool.and_eq_true, Bool.or_eq_true, beq_iff_eq,
      decide_eq_true_eq] at haccepts
    exact haccepts.1
  | group inner ih => exact ih h
  | select base selection ih =>
    obtain ⟨found, hbase, -, hoffers, hlanes⟩ := of_type?_select h
    obtain ⟨hcount, hkinds⟩ := ih hbase
    obtain ⟨hselected, hkind⟩ := PortType.of_ofLaneCount? hlanes
    simp only [PortType.offers, Bool.and_eq_true, List.all_eq_true, decide_eq_true_eq] at hoffers
    rw [eval]
    refine ⟨?_, fun lane hlane => ?_⟩
    · rw [length_filterMap_getElem? (by rw [hcount]; exact hoffers.2), hselected]
    · obtain ⟨place, -, hplace⟩ := List.mem_filterMap.mp hlane
      rw [hkind, hkinds lane (List.mem_of_getElem? hplace),
        PortType.laneKind_of_isVector hoffers.1]
  | combine left op right ihleft ihright =>
    obtain ⟨hleft, hright, -, -, -⟩ := of_type?_combine h
    have hfits := ihleft hleft
    have hfits' := ihright hright
    refine ⟨?_, fun lane hlane => ?_⟩
    · rw [eval, List.length_zipWith, hfits.1, hfits'.1, Nat.min_self]
    · rw [eval, ← List.map_uncurry_zip_eq_zipWith] at hlane
      obtain ⟨pair, hpair, rfl⟩ := List.mem_map.mp hlane
      exact (A.kind_combineLanes op pair.1 pair.2).trans (hfits.2 _ (List.of_mem_zip hpair).1)

end Expression

/-! ### Converted values -/

namespace PortType

/-- The place of a type on the way from integers to colors with alpha; truths have none. -/
def rank? : PortType → Option ℕ
  | .bool => none
  | .int => some 0
  | .float => some 1
  | .vec2 => some 2
  | .vec3 => some 3
  | .vec4 => some 4

/-- Whether a value goes up from the first type to the second, or stays. -/
def goesUp (source target : PortType) : Bool :=
  match source.rank?, target.rank? with
  | some low, some high => low ≤ high
  | _, _ => false

lemma laneCount_pos (type : PortType) : 0 < type.laneCount := by
  cases type <;> decide

/-- All types but vectors have one lane. -/
lemma laneCount_of_not_isVector {type : PortType} (h : type.isVector = false) :
    type.laneCount = 1 := by
  revert h
  cases type <;> decide

/-- What goes up twice goes up. -/
lemma goesUp_trans {source middle target : PortType} (h : source.goesUp middle = true)
    (h' : middle.goesUp target = true) : source.goesUp target = true := by
  unfold goesUp at h h' ⊢
  cases hsource : source.rank? <;> cases hmiddle : middle.rank? <;> cases htarget : target.rank? <;>
    simp_all
  omega

/-- On the way up, integers become scalars, and nothing else changes its kind. -/
lemma laneKind_of_goesUp {source target : PortType} (h : source.goesUp target = true) :
    source.laneKind = target.laneKind ∨ source.laneKind = .int ∧ target.laneKind = .float := by
  revert h
  cases source <;> cases target <;> decide

/-- Going up loses no lane. -/
lemma laneCount_le_of_goesUp {source target : PortType} (h : source.goesUp target = true) :
    source.laneCount ≤ target.laneCount := by
  revert h
  cases source <;> cases target <;> decide

/-- A vector goes up to vectors only. -/
lemma isVector_of_goesUp {source target : PortType} (h : source.goesUp target = true)
    (hsource : source.isVector = true) : target.isVector = true := by
  revert h hsource
  cases source <;> cases target <;> decide

end PortType

namespace Arithmetic

variable {W S : Type} (A : Arithmetic W S)

/-- The lanes of a vector that has none: black, and opaque. -/
def emptyLanes : List (Lane W S) :=
  [.scalar (A.float .zero), .scalar (A.float .zero), .scalar (A.float .zero),
    .scalar (A.float .one)]

/-- A value of one type as a value of another: a scalar fills the color of a vector, a vector is
filled up or cut, and a scalar is made from the first lane. -/
def converted (source target : PortType) (lanes : List (Lane W S)) : List (Lane W S) :=
  if source = target then lanes
  else if target.isVector = false then (lanes.take 1).map (A.toLane target)
  else if source.isVector then (lanes ++ A.emptyLanes.drop lanes.length).take target.laneCount
  else ((lanes ++ lanes ++ lanes).map (A.toLane target) ++ A.emptyLanes.drop 3).take
    target.laneCount

/-- A lane of the right kind is not converted. -/
lemma toLane_of_kind {type : PortType} {lane : Lane W S} (h : lane.kind = type.laneKind) :
    A.toLane type lane = lane := by
  unfold toLane
  rw [← h]
  cases lane <;> rfl

lemma map_toLane_of_fits {type : PortType} {lanes : List (Lane W S)} (h : type.Fits lanes) :
    lanes.map (A.toLane type) = lanes := by
  rw [List.map_congr_left fun lane hlane => A.toLane_of_kind (h.2 lane hlane), List.map_id']

/-- On the way down, the first lanes are kept. -/
lemma converted_down {source target : PortType} (h : target.goesUp source = true)
    {lanes : List (Lane W S)} (hfits : source.Fits lanes) :
    A.converted source target lanes = (lanes.take target.laneCount).map (A.toLane target) := by
  unfold converted
  split
  · next heq =>
    subst heq
    rw [List.take_of_length_le hfits.1.le, A.map_toLane_of_fits hfits]
  · split
    · next hscalar => rw [PortType.laneCount_of_not_isVector hscalar]
    · next hvector =>
      rw [Bool.not_eq_false] at hvector
      have hsource := PortType.isVector_of_goesUp h hvector
      have hcount : target.laneCount ≤ lanes.length :=
        hfits.1.symm ▸ PortType.laneCount_le_of_goesUp h
      rw [if_pos hsource, List.take_append_of_le_length hcount, List.map_take,
        List.map_congr_left fun lane hlane => A.toLane_of_kind ?_, List.map_id']
      rw [hfits.2 lane hlane, PortType.laneKind_of_isVector hsource,
        PortType.laneKind_of_isVector hvector]

/-- On the way up, the lanes of the value come first. -/
lemma take_converted_up {source target : PortType} (h : source.goesUp target = true)
    {lanes : List (Lane W S)} (hfits : source.Fits lanes) :
    (A.converted source target lanes).take source.laneCount = lanes.map (A.toLane target) := by
  unfold converted
  split
  · next heq =>
    subst heq
    rw [List.take_of_length_le hfits.1.le, A.map_toLane_of_fits hfits]
  · have hcount := PortType.laneCount_le_of_goesUp h
    split
    · next hscalar =>
      have hsource : source.laneCount = 1 := by
        have hone := PortType.laneCount_of_not_isVector hscalar
        have hpos := PortType.laneCount_pos source
        omega
      have hlength : lanes.length ≤ 1 := (hfits.1.trans hsource).le
      rw [hsource, List.take_of_length_le hlength, List.take_of_length_le (by simpa using hlength)]
    · next hvector =>
      rw [Bool.not_eq_false] at hvector
      split
      · next hsource =>
        rw [List.take_take, Nat.min_eq_left hcount, List.take_left' hfits.1,
          List.map_congr_left fun lane hlane => A.toLane_of_kind ?_, List.map_id']
        rw [hfits.2 lane hlane, PortType.laneKind_of_isVector hsource,
          PortType.laneKind_of_isVector hvector]
      · rw [List.take_take, Nat.min_eq_left hcount, List.append_assoc, List.map_append,
          List.append_assoc, List.take_left' (by rw [List.length_map, hfits.1])]

/-- A lane that goes up comes back unchanged. -/
lemma toLane_toLane_up {source target : PortType} (h : source.goesUp target = true)
    {lane : Lane W S} (hkind : lane.kind = source.laneKind) :
    A.toLane source (A.toLane target lane) = lane := by
  rcases PortType.laneKind_of_goesUp h with heq | ⟨hsource, htarget⟩
  · rw [A.toLane_of_kind (hkind.trans heq), A.toLane_of_kind hkind]
  · rw [hsource] at hkind
    cases lane with
    | whole w => simp [toLane, hsource, htarget, wholeOf, scalarOf, A.toWhole_toScalar]
    | truth b => cases hkind
    | scalar x => cases hkind

/-- A lane that goes down may do so in two steps. -/
lemma toLane_toLane_down {source middle target : PortType} (h : middle.goesUp source = true)
    (h' : target.goesUp middle = true) {lane : Lane W S} (hkind : lane.kind = source.laneKind) :
    A.toLane target (A.toLane middle lane) = A.toLane target lane := by
  rcases PortType.laneKind_of_goesUp h with heq | ⟨hmiddle, -⟩
  · rw [A.toLane_of_kind (hkind.trans heq.symm)]
  · -- below the integers there are only integers
    have htarget : target.laneKind = middle.laneKind := by
      refine (PortType.laneKind_of_goesUp h').resolve_right fun hother => ?_
      rw [hmiddle] at hother
      cases hother.2
    have hsame : A.toLane middle lane = A.toLane target lane := by
      unfold toLane
      rw [htarget]
    rw [hsame]
    exact A.toLane_of_kind (A.kind_toLane target lane)

/-- What goes up comes back unchanged. -/
lemma converted_up_down {source target : PortType} (h : source.goesUp target = true)
    {lanes : List (Lane W S)} (hfits : source.Fits lanes)
    (hup : target.Fits (A.converted source target lanes)) :
    A.converted target source (A.converted source target lanes) = lanes := by
  rw [A.converted_down h hup, A.take_converted_up h hfits, List.map_map]
  conv_rhs => rw [← List.map_id' lanes]
  exact List.map_congr_left fun lane hlane => A.toLane_toLane_up h (hfits.2 lane hlane)

/-- It does not matter in how many steps a value goes down. -/
lemma converted_down_down {source middle target : PortType} (h : middle.goesUp source = true)
    (h' : target.goesUp middle = true) {lanes : List (Lane W S)} (hfits : source.Fits lanes)
    (hhalf : middle.Fits (A.converted source middle lanes)) :
    A.converted middle target (A.converted source middle lanes) =
      A.converted source target lanes := by
  rw [A.converted_down h' hhalf, A.converted_down h hfits,
    A.converted_down (PortType.goesUp_trans h' h) hfits, ← List.map_take, List.take_take,
    Nat.min_eq_left (PortType.laneCount_le_of_goesUp h'), List.map_map]
  exact List.map_congr_left fun lane hlane =>
    A.toLane_toLane_down h h' (hfits.2 lane (List.mem_of_mem_take hlane))

end Arithmetic

end ShaderLoom
