import Mathlib.Data.List.Basic
import ShaderLoom.Catalog
import ShaderLoom.Proofs.Outcomes
import ShaderLoom.Proofs.Tables
import ShaderLoom.Proofs.TemplateSegments

/-!
# Histories of registrations

A catalog is built by registrations, some of which are refused.  Whatever the history, the catalog
holds its node types under their own ids, in the order in which the ids came first, and a
registration that is refused leaves no trace.

A node type is accepted exactly when filling its templates asks for declared ports only.  What is
asked is made visible by a resolver that refuses everything but a given set of placeholders, on top
of any other resolver.
-/

namespace ShaderLoom

/-! ### Guarded resolvers -/

namespace Template

section Guards

variable {m : Type → Type} [Monad m]

/-- The answer to a placeholder, if it is allowed to ask for it. -/
def permit (allowed : Placeholder → Bool) (placeholder : Placeholder) (answer : m String) :
    ExceptT Placeholder m String :=
  if allowed placeholder then liftM answer else throw placeholder

/-- The resolver that answers like `resolver` where it is allowed to ask, and refuses all else. -/
def Resolver.guarded (allowed : Placeholder → Bool) (resolver : Resolver m) :
    Resolver (ExceptT Placeholder m) where
  input port := permit allowed (.input port) (resolver.input port)
  output port := permit allowed (.output port) (resolver.output port)
  param name index := permit allowed (.param name) (resolver.param name index)
  global value := permit allowed (.global value) (resolver.global value)
  result := permit allowed .result resolver.result

variable {allowed : Placeholder → Bool} {resolver : Resolver m}

/-- An allowed placeholder is answered. -/
lemma permit_of_allowed {placeholder : Placeholder} (h : allowed placeholder = true)
    (answer : m String) : permit allowed placeholder answer = liftM answer := if_pos h

/-- A guarded resolver answers what is allowed as the resolver does. -/
lemma fill_guarded (placeholder : Placeholder) : (resolver.guarded allowed).fill placeholder =
    permit allowed placeholder (resolver.fill placeholder) := by
  cases placeholder <;> rfl

lemma mem_holes {α : Type} {found : List (Segment α)} {hole : α} :
    hole ∈ holes found ↔ .hole hole ∈ found := by
  unfold holes
  rw [List.mem_filterMap]
  constructor
  · rintro ⟨segment, hmem, hsegment⟩
    cases segment with
    | literal text => cases hsegment
    | hole other =>
      cases hsegment
      exact hmem
  · intro hmem
    exact ⟨.hole hole, hmem, rfl⟩

/-- A text is put together without refusals when every hole is filled without. -/
lemma concat_liftM [LawfulMonad m] {α : Type} {fill : α → m String}
    {guardedFill : α → ExceptT Placeholder m String} {found : List (Segment α)}
    (h : ∀ hole ∈ holes found, guardedFill hole = liftM (fill hole)) :
    concat guardedFill found = liftM (concat fill found) := by
  induction found with
  | nil =>
    unfold concat
    rw [liftM_pure]
  | cons segment found ih =>
    have hfound := ih fun hole hmem =>
      h hole (mem_holes.mpr (List.mem_cons_of_mem _ (mem_holes.mp hmem)))
    cases segment with
    | literal text =>
      unfold concat
      rw [hfound, liftM_bind]
      simp only [liftM_pure]
    | hole hole =>
      have hhole := h hole (mem_holes.mpr List.mem_cons_self)
      unfold concat
      rw [hhole, hfound, liftM_bind]
      simp only [liftM_bind, liftM_pure]

/-- A template is filled without refusals when every answer that it asks for is given without. -/
theorem render_liftM [LawfulMonad m] {resolver : Resolver m}
    {other : Resolver (ExceptT Placeholder m)} {template : String}
    (hfill : ∀ placeholder ∈ placeholders template,
      other.fill placeholder = liftM (resolver.fill placeholder))
    (hparam : ∀ name, .param name ∈ placeholders template → ∀ index,
      other.param name index = liftM (resolver.param name index)) :
    (render other template).run = Except.ok <$> render resolver template := by
  have hhole : ∀ hole ∈ holes (segments template),
      other.fillHole hole = liftM (resolver.fillHole hole) := by
    intro hole hmem
    have hasked : ∀ placeholder ∈ hole.placeholders, placeholder ∈ placeholders template :=
      fun placeholder hplaceholder => List.mem_flatMap.mpr ⟨hole, hmem, hplaceholder⟩
    cases hole with
    | plain placeholder => exact hfill placeholder (hasked placeholder List.mem_cons_self)
    | element name index =>
      -- the placeholders of the index come first, and then the element itself
      have hindex : concat other.fill (indexSegments index) =
          liftM (concat resolver.fill (indexSegments index)) :=
        concat_liftM fun placeholder hplaceholder =>
          hfill placeholder (hasked placeholder (List.mem_cons_of_mem _ hplaceholder))
      unfold Resolver.fillHole
      dsimp only
      rw [hindex, liftM_bind]
      exact bind_congr fun text => hparam name (hasked _ List.mem_cons_self) _
  unfold render
  rw [concat_liftM hhole]
  exact ExceptT.run_lift _

/-- A template is filled without refusals when all its placeholders are allowed. -/
theorem render_guarded [LawfulMonad m] (resolver : Resolver m) {template : String}
    (h : ∀ placeholder ∈ placeholders template, allowed placeholder = true) :
    (render (resolver.guarded allowed) template).run = Except.ok <$> render resolver template := by
  refine render_liftM (fun placeholder hplaceholder => ?_) fun name hname index => ?_
  · rw [fill_guarded, permit_of_allowed (h placeholder hplaceholder)]
  · exact permit_of_allowed (h _ hname) _

/-- One computation after the other succeeds when both do. -/
lemma run_bind_eq_ok {ε α β : Type} {first : ExceptT ε Id α} {next : α → ExceptT ε Id β} {b : β}
    (h : (first >>= next).run.run = .ok b) :
    ∃ a, first.run.run = .ok a ∧ (next a).run.run = .ok b := by
  cases hfirst : first.run.run with
  | ok a =>
    refine ⟨a, rfl, ?_⟩
    rw [← h]
    show _ = (ExceptT.bindCont next first.run.run : Id _).run
    rw [hfirst]
    rfl
  | error e =>
    have herror : (first >>= next).run.run = .error e := by
      show (ExceptT.bindCont next first.run.run : Id _).run = _
      rw [hfirst]
      rfl
    rw [herror] at h
    cases h

/-- Where all segments are filled, every hole is answered. -/
lemma exists_ok_of_concat {α : Type} {fill : α → ExceptT Placeholder Id String}
    {found : List (Segment α)} {text : String} (h : (concat fill found).run.run = .ok text) :
    ∀ hole ∈ holes found, ∃ answer, (fill hole).run.run = .ok answer := by
  induction found generalizing text with
  | nil => exact nofun
  | cons segment found ih =>
    intro hole hmem
    cases segment with
    | literal literal =>
      obtain ⟨rest, hrest, -⟩ := run_bind_eq_ok h
      exact ih hrest hole hmem
    | hole first =>
      obtain ⟨answer, hfirst, hnext⟩ := run_bind_eq_ok h
      obtain ⟨rest, hrest, -⟩ := run_bind_eq_ok hnext
      rcases List.mem_cons.mp hmem with rfl | hmem
      · exact ⟨answer, hfirst⟩
      · exact ih hrest hole hmem

/-- A placeholder that is answered is allowed. -/
lemma allowed_of_permit {placeholder : Placeholder} {answer : Id String} {text : String}
    (h : (permit allowed placeholder answer).run.run = .ok text) : allowed placeholder = true := by
  by_contra hrefused
  unfold permit at h
  rw [if_neg hrefused] at h
  cases h

/-- A template that is filled without refusals has allowed placeholders only. -/
theorem allowed_of_render_guarded {resolver : Resolver Id} {template text : String}
    (h : (render (resolver.guarded allowed) template).run.run = .ok text) :
    ∀ placeholder ∈ placeholders template, allowed placeholder = true := by
  intro placeholder hmem
  obtain ⟨hole, hhole, hmem⟩ := List.mem_flatMap.mp hmem
  obtain ⟨answer, hanswer⟩ := exists_ok_of_concat h hole hhole
  cases hole with
  | plain other =>
    rw [List.mem_singleton.mp hmem]
    unfold Resolver.fillHole at hanswer
    dsimp only at hanswer
    rw [fill_guarded] at hanswer
    exact allowed_of_permit hanswer
  | element name index =>
    obtain ⟨rendered, hindex, hparam⟩ := run_bind_eq_ok hanswer
    rcases List.mem_cons.mp hmem with rfl | hmem
    · exact allowed_of_permit hparam
    · obtain ⟨answer, hanswer⟩ := exists_ok_of_concat hindex placeholder hmem
      rw [fill_guarded] at hanswer
      exact allowed_of_permit hanswer

end Guards

/-! ### Names in templates -/

/-- The names that a template mentions in placeholders of one kind. -/
lemma mem_mentioned_iff {pick : Placeholder → Option String} {make : String → Placeholder}
    (hpick : ∀ placeholder name, pick placeholder = some name ↔ placeholder = make name)
    {template name : String} :
    name ∈ Text.sortedSet ((placeholders template).filterMap pick) ↔
      make name ∈ placeholders template := by
  rw [Text.mem_sortedSet, List.mem_filterMap]
  constructor
  · rintro ⟨placeholder, hplaceholder, hname⟩
    rwa [← (hpick placeholder name).mp hname]
  · intro h
    exact ⟨make name, h, (hpick _ name).mpr rfl⟩

/-- The inputs of a template are those that its placeholders ask for. -/
lemma mem_inputs_iff {template name : String} :
    name ∈ Template.inputs template ↔ .input name ∈ placeholders template := by
  refine mem_mentioned_iff fun placeholder name => ?_
  cases placeholder <;> simp

lemma mem_outputs_iff {template name : String} :
    name ∈ Template.outputs template ↔ .output name ∈ placeholders template := by
  refine mem_mentioned_iff fun placeholder name => ?_
  cases placeholder <;> simp

lemma mem_params_iff {template name : String} :
    name ∈ Template.params template ↔ .param name ∈ placeholders template := by
  refine mem_mentioned_iff fun placeholder name => ?_
  cases placeholder <;> simp

end Template

/-! ### Checked node types -/

namespace NodeType

open Template

/-- The templates of a node type. -/
def templates (type : NodeType) : List String := [type.mainCode, type.functions.getD ""]

/-- Whether a placeholder asks for a declared port, or for no port at all. -/
def declares (type : NodeType) : Placeholder → Bool
  | .input port => type.inputs.any fun declared => declared.name == port
  | .output port => type.outputs.any fun declared => declared.name == port
  | _ => true

/-- Whatever resolver fills the templates of a node type, it is asked for declared ports only. -/
def AsksDeclared (type : NodeType) : Prop :=
  ∀ template ∈ type.templates, ∀ (m : Type → Type) [Monad m] [LawfulMonad m]
    (resolver : Resolver m),
    (render (resolver.guarded type.declares) template).run = Except.ok <$> render resolver template

variable {type : NodeType}

/-- No name is missing among ports exactly when all are declared there. -/
lemma find?_undeclared_eq_none_iff (ports : List Port) (names : List String) :
    (names.find? fun name => !(ports.any fun port => port.name == name)) = none ↔
      ∀ name ∈ names, (ports.any fun port => port.name == name) = true := by
  rw [List.find?_eq_none]
  simp only [Bool.not_eq_true', Bool.not_eq_false]

/-- The check of a template looks at all its placeholders, those of indices included. -/
lemma checkTemplate_eq_ok_iff {template : String} : type.checkTemplate template = .ok () ↔
    ∀ placeholder ∈ placeholders template, type.declares placeholder = true := by
  have hinputs := find?_undeclared_eq_none_iff type.inputs (Template.inputs template)
  have houtputs := find?_undeclared_eq_none_iff type.outputs (Template.outputs template)
  have hports : type.checkTemplate template = .ok () ↔
      (∀ name ∈ Template.inputs template, type.declares (.input name) = true) ∧
        ∀ name ∈ Template.outputs template, type.declares (.output name) = true := by
    unfold checkTemplate
    dsimp only
    split
    · next port hport =>
      refine ⟨nofun, fun h => ?_⟩
      rw [hinputs.mpr h.1] at hport
      cases hport
    · next hnone =>
      split
      · next port hport =>
        refine ⟨nofun, fun h => ?_⟩
        rw [houtputs.mpr h.2] at hport
        cases hport
      · next hnone' => exact ⟨fun _ => ⟨hinputs.mp hnone, houtputs.mp hnone'⟩, fun _ => rfl⟩
  rw [hports]
  constructor
  · rintro ⟨hin, hout⟩ placeholder hplaceholder
    cases placeholder with
    | input port => exact hin port (mem_inputs_iff.mpr hplaceholder)
    | output port => exact hout port (mem_outputs_iff.mpr hplaceholder)
    | _ => rfl
  · intro h
    exact ⟨fun name hname => h _ (mem_inputs_iff.mp hname),
      fun name hname => h _ (mem_outputs_iff.mp hname)⟩

/-- One resolver is enough to see what is asked. -/
lemma AsksDeclared.declares_of_mem (h : type.AsksDeclared) {template : String}
    (htemplate : template ∈ type.templates) :
    ∀ placeholder ∈ placeholders template, type.declares placeholder = true :=
  allowed_of_render_guarded (congrArg Id.run (h template htemplate Id echo))

/-- A node type passes its check exactly when its templates ask for declared ports only. -/
theorem check_eq_ok_iff : type.check = .ok () ↔ type.AsksDeclared := by
  have hcheck : type.check = .ok () ↔
      ∀ template ∈ type.templates, type.checkTemplate template = .ok () := by
    unfold check templates
    rw [bind_eq_ok_iff, List.forall_mem_cons, List.forall_mem_singleton]
    constructor
    · rintro ⟨⟨⟩, hmain, hfunctions⟩
      exact ⟨hmain, hfunctions⟩
    · rintro ⟨hmain, hfunctions⟩
      exact ⟨(), hmain, hfunctions⟩
  rw [hcheck]
  constructor
  · intro h template htemplate m _ _ resolver
    exact render_guarded resolver (checkTemplate_eq_ok_iff.mp (h template htemplate))
  · intro h template htemplate
    exact checkTemplate_eq_ok_iff.mpr (h.declares_of_mem htemplate)

end NodeType

/-! ### Registrations -/

/-- The wish to add a node type to the catalog, or to put it in the place of another. -/
structure Registration where
  type : NodeType
  replacing : Bool

namespace Registration

/-- A registration as an action on the catalog in use: what may refuse it comes first, and the
catalog is written last. -/
def action (call : Registration) : EStateM Fault Catalog Unit := do
  let catalog ← get
  if catalog.types.contains call.type.id && !call.replacing then
    throw (.duplicateNodeType call.type.id)
  MonadExcept.ofExcept call.type.check
  set (⟨catalog.types.insert call.type.id call.type⟩ : Catalog)

variable {call : Registration} {catalog next : Catalog} {fault : Fault}

/-- The action writes the catalog that `Catalog.register` gives, and nothing when it fails. -/
lemma run_action_cases (call : Registration) (catalog : Catalog) :
    (∃ next, catalog.register call.type call.replacing = .ok next ∧
      call.action.run catalog = .ok () next) ∨
    ∃ fault, catalog.register call.type call.replacing = .error fault ∧
      call.action.run catalog = .error fault catalog := by
  unfold Catalog.register action
  by_cases htaken : (catalog.types.contains call.type.id && !call.replacing) = true
  · refine Or.inr ⟨_, if_pos htaken, ?_⟩
    rw [EStateM.run_bind, EStateM.run_get]
    dsimp only
    rw [if_pos htaken]
    rfl
  · rw [if_neg htaken, EStateM.run_bind, EStateM.run_get]
    dsimp only
    rw [if_neg htaken]
    cases call.type.check with
    | error fault => exact Or.inr ⟨fault, rfl, rfl⟩
    | ok done => exact Or.inl ⟨_, rfl, rfl⟩

/-- A registration changes the catalog exactly when it succeeds. -/
lemma run_action_eq_ok_iff : call.action.run catalog = .ok () next ↔
    catalog.register call.type call.replacing = .ok next := by
  rcases run_action_cases call catalog with ⟨result, hregister, hrun⟩ | ⟨fault, hregister, hrun⟩
  · rw [hregister, hrun]
    simp
  · rw [hregister, hrun]
    simp

/-- A registration that fails leaves the catalog as it is. -/
lemma run_action_eq_error_iff : call.action.run catalog = .error fault next ↔
    catalog.register call.type call.replacing = .error fault ∧ next = catalog := by
  rcases run_action_cases call catalog with ⟨result, hregister, hrun⟩ | ⟨fault, hregister, hrun⟩
  · rw [hregister, hrun]
    simp
  · rw [hregister, hrun]
    simp [eq_comm]

end Registration

namespace Catalog

variable {catalog next : Catalog}

/-- A catalog contains the ids under which it has types. -/
lemma contains_eq_true_iff {id : String} :
    catalog.types.contains id = true ↔ id ∈ catalog.types.keys := by
  have hnone : catalog.types.find? id = none ↔ id ∉ catalog.types.keys := Table.lookup_eq_none_iff
  unfold Table.contains
  rw [← not_iff_not, ← hnone, Bool.not_eq_true, Option.isSome_eq_false_iff,
    Option.isNone_iff_eq_none]

/-- When a node type is registered, and what the catalog is then. -/
lemma register_eq_ok_iff {type : NodeType} {replacing : Bool} :
    catalog.register type replacing = .ok next ↔
      (replacing = true ∨ type.id ∉ catalog.types.keys) ∧ type.AsksDeclared ∧
        next = ⟨catalog.types.insert type.id type⟩ := by
  have hfree : (catalog.types.contains type.id && !replacing) = false ↔
      replacing = true ∨ type.id ∉ catalog.types.keys := by
    rw [← contains_eq_true_iff]
    cases replacing <;> simp
  unfold register
  cases htaken : catalog.types.contains type.id && !replacing with
  | true =>
    refine ⟨nofun, fun h => ?_⟩
    rw [hfree.mpr h.1] at htaken
    cases htaken
  | false =>
    rw [if_neg Bool.false_ne_true, bind_eq_ok_iff, ← NodeType.check_eq_ok_iff]
    constructor
    · rintro ⟨⟨⟩, hcheck, hnext⟩
      cases hnext
      exact ⟨hfree.mp htaken, hcheck, rfl⟩
    · rintro ⟨-, hcheck, rfl⟩
      exact ⟨(), hcheck, rfl⟩

/-! ### Histories -/

/-- The catalog after a call, whether it succeeds or fails. -/
def after (catalog : Catalog) (call : Registration) : Catalog :=
  match call.action.run catalog with
  | .ok _ next => next
  | .error _ next => next

/-- The calls that succeed when they are made one after the other. -/
def accepted (catalog : Catalog) : List Registration → List Registration
  | [] => []
  | call :: calls =>
    match call.action.run catalog with
    | .ok _ next => call :: accepted next calls
    | .error _ next => accepted next calls

/-- What holds of a catalog after the registrations `done` have succeeded. -/
structure Kept (done : List Registration) (catalog : Catalog) : Prop where
  /-- Node types stand under their own ids. -/
  own : ∀ id type, (id, type) ∈ catalog.types.entries → type.id = id
  unique : catalog.types.keys.Nodup
  /-- An id has the place of its first registration. -/
  order : catalog.types.keys = (done.map fun call => call.type.id).eraseDups
  /-- An id has the node type of its last registration. -/
  latest : ∀ id, catalog.find? id =
    (done.reverse.find? fun call => call.type.id == id).map Registration.type
  /-- A call that fails leaves the catalog as it is. -/
  atomic : ∀ (call : Registration) fault next,
    call.action.run catalog = .error fault next → next = catalog
  /-- The calls that succeed. -/
  succeeds : ∀ call : Registration, (∃ next, call.action.run catalog = .ok () next) ↔
    (call.replacing = true ∨ call.type.id ∉ catalog.types.keys) ∧ call.type.AsksDeclared
  /-- Only declared ports are asked for. -/
  asks : ∀ id type, (id, type) ∈ catalog.types.entries → type.AsksDeclared

/-- The part of `Kept` that one registration hands on to the next. -/
structure Invariant (done : List Registration) (catalog : Catalog) : Prop where
  order : catalog.types.keys = (done.map fun call => call.type.id).eraseDups
  latest : ∀ id, catalog.find? id =
    (done.reverse.find? fun call => call.type.id == id).map Registration.type
  asks : ∀ call ∈ done, call.type.AsksDeclared

variable {done : List Registration}

/-- The invariant holds of the empty catalog. -/
lemma invariant_empty : Invariant [] empty where
  order := rfl
  latest _ := rfl
  asks := nofun

/-- A registration that succeeds keeps the invariant. -/
lemma Invariant.register (h : Invariant done catalog) {call : Registration}
    (hcall : catalog.register call.type call.replacing = .ok next) :
    Invariant (done ++ [call]) next := by
  obtain ⟨-, hasks, rfl⟩ := register_eq_ok_iff.mp hcall
  constructor
  · rw [Table.keys_insert, h.order, List.map_append, List.map_singleton, eraseDups_concat]
    simp only [List.mem_eraseDups]
  · intro id
    have hlatest := h.latest id
    unfold find? at hlatest ⊢
    rw [Table.find?_insert, hlatest, List.reverse_append, List.reverse_singleton,
      List.singleton_append, List.find?_cons]
    by_cases hid : call.type.id = id
    · rw [if_pos hid, beq_iff_eq.mpr hid]
      rfl
    · rw [if_neg hid, beq_eq_false_iff_ne.mpr hid]
  · intro other hmem
    rcases List.mem_append.mp hmem with hmem | hmem
    · exact h.asks other hmem
    · rw [List.mem_singleton.mp hmem]
      exact hasks

/-- All that is kept follows from the invariant. -/
lemma Invariant.kept (h : Invariant done catalog) : Kept done catalog := by
  have hkeys : catalog.types.keys.Nodup := by
    rw [h.order]
    exact nodup_eraseDups _
  have hdone : ∀ id type, (id, type) ∈ catalog.types.entries →
      ∃ call ∈ done, call.type = type ∧ type.id = id := by
    intro id type hmem
    have hfind : catalog.find? id = some type := (Table.mem_entries_iff hkeys).mp hmem
    rw [h.latest, Option.map_eq_some_iff] at hfind
    obtain ⟨call, hcall, rfl⟩ := hfind
    have hid := List.find?_some hcall
    exact ⟨call, List.mem_reverse.mp (List.mem_of_find?_eq_some hcall), rfl, beq_iff_eq.mp hid⟩
  refine ⟨fun id type hmem => ?_, hkeys, h.order, h.latest, ?_, ?_, ?_⟩
  · obtain ⟨-, -, -, hid⟩ := hdone id type hmem
    exact hid
  · intro call fault next hrun
    exact (Registration.run_action_eq_error_iff.mp hrun).2
  · intro call
    simp only [Registration.run_action_eq_ok_iff, register_eq_ok_iff]
    constructor
    · rintro ⟨next, hfree, hasks, -⟩
      exact ⟨hfree, hasks⟩
    · rintro ⟨hfree, hasks⟩
      exact ⟨_, hfree, hasks, rfl⟩
  · intro id type hmem
    obtain ⟨call, hcall, rfl, -⟩ := hdone id type hmem
    exact h.asks call hcall

/-- Every catalog that is reached keeps the invariant. -/
lemma Invariant.run (h : Invariant done catalog) (calls : List Registration) :
    Invariant (done ++ catalog.accepted calls) (calls.foldl after catalog) := by
  induction calls generalizing catalog done with
  | nil =>
    rw [accepted, List.append_nil]
    exact h
  | cons call calls ih =>
    unfold accepted
    rcases Registration.run_action_cases call catalog with
      ⟨next, hregister, hrun⟩ | ⟨fault, hregister, hrun⟩
    · have hafter : catalog.after call = next := by
        unfold after
        rw [hrun]
      rw [hrun, List.foldl_cons, hafter]
      dsimp only
      rw [List.append_cons]
      exact ih (h.register hregister)
    · have hafter : catalog.after call = catalog := by
        unfold after
        rw [hrun]
      rw [hrun, List.foldl_cons, hafter]
      exact ih h

/-- What every history of registrations, with failed ones among them, leaves behind. -/
theorem history_kept (calls : List Registration) :
    Kept (empty.accepted calls) (calls.foldl after empty) :=
  (invariant_empty.run calls).kept

end Catalog

end ShaderLoom
