import FederationConfig.Proofs.Field.Path
import Mathlib.Data.List.Induction

namespace FederationConfig

namespace FieldPath

/-- A path that is built step by step, from names of one kind. -/
inductive Built (kind : String → Prop) : FieldPath → Prop where
  | ofRoot {name : String} (named : kind name) : Built kind (ofRoot name)
  | child {path : FieldPath} {name : String} (built : Built kind path) (named : kind name) :
      Built kind (path.child name)
  | item {path : FieldPath} (built : Built kind path) (position : Nat) :
      Built kind (path.item position)

variable {kind : String → Prop} {path other : FieldPath}

theorem Built.kind_of_mem (built : path.Built kind) :
    ∀ name, .field name ∈ path.segments → kind name := by
  induction built with
  | ofRoot named =>
      intro name member
      cases List.mem_singleton.mp member
      exact named
  | child built named ih =>
      intro name member
      rcases (mem_segments_extend _).mp member with front | last
      · exact ih name front
      · cases last
        exact named
  | item built position ih =>
      intro name member
      rcases (mem_segments_extend _).mp member with front | last
      · exact ih name front
      · cases last

theorem built_of_kind (root : String) (below : List PathSegment)
    (names : ∀ name, .field name ∈ segments ⟨root, below⟩ → kind name) :
    Built kind ⟨root, below⟩ := by
  -- The step that was taken last stands at the end, so the steps are taken off from there.
  induction below using List.reverseRecOn with
  | nil => exact .ofRoot (names root List.mem_cons_self)
  | append_singleton below segment ih =>
      have front : Built kind ⟨root, below⟩ := ih fun name member =>
        names name ((mem_segments_extend ⟨root, below⟩).mpr (.inl member))
      cases segment with
      | field name =>
          exact front.child (names name ((mem_segments_extend ⟨root, below⟩).mpr (.inr rfl)))
      | index position => exact front.item position

theorem built_iff : path.Built kind ↔ ∀ name, .field name ∈ path.segments → kind name :=
  ⟨Built.kind_of_mem, built_of_kind path.root path.below⟩

theorem Built.isClear (built : path.Built IsStepFree) :
    ∀ segment ∈ path.segments, segment.IsClear :=
  isClear_of_names (built_iff.mp built)

/-- Paths that are built from names without `.` and `[` have the same text only if they have the
same steps, to fields or to items, in the same order. -/
theorem render_inj_of_built (built : path.Built IsStepFree) (builtToo : other.Built IsStepFree) :
    path.render = other.render ↔ path = other := by
  constructor
  · intro same
    exact render_inj_of_clear built.isClear builtToo.isClear same
  · intro same
    rw [same]

theorem render_inj_of_lookalikes :
    let front := (ofRoot "").child "0"
    (front.item 1).Built IsStepFree ∧ (front.child "1]").Built IsStepFree ∧
      ((front.item 1).render = (front.child "1]").render ↔ front.item 1 = front.child "1]") := by
  intro front
  have built : front.Built IsStepFree := .child (.ofRoot (by decide)) (by decide)
  have item := built.item 1
  have child : (front.child "1]").Built IsStepFree := built.child (by decide)
  exact ⟨item, child, render_inj_of_built item child⟩

/-- Names that hold steps are not told from the steps: below its root, a path has the same text as
the root that has this text for its name. -/
theorem exists_ne_render_eq (below : path.below ≠ []) :
    ∃ other : FieldPath, other ≠ path ∧ other.render = path.render := by
  refine ⟨ofRoot path.render, ?_, ?_⟩
  · intro same
    apply below
    rw [← same]
    rfl
  · show path.render ++ "" = path.render
    rw [String.append_empty]

example : (ofRoot "gates[0]").render = ((ofRoot "gates").item 0).render := by decide

end FieldPath

end FederationConfig
