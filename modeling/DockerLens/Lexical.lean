import Mathlib.Logic.Relation
import Mathlib.Data.List.Induction

namespace DockerLens.Lexical

open Relation

variable {α : Type}

/-- A component of a path: it stays, goes to the parent, or enters a name. -/
inductive Component (α : Type)
  | stay
  | parent
  | name (name : α)

/-- The parent of the root is the root. -/
def walk (place : List α) : Component α → List α
  | .stay => place
  | .parent => place.dropLast
  | .name name => place ++ [name]

/-- Where a path leads from the root, when no name on it is a link. -/
def resolve (path : List (Component α)) : List α := path.foldl walk []

/-- One cleaning of a path. -/
inductive Shortens : List (Component α) → List (Component α) → Prop
  | stay (before after : List (Component α)) : Shortens (before ++ .stay :: after) (before ++ after)
  | parent (before : List (Component α)) (name : α) (after : List (Component α)) :
      Shortens (before ++ .name name :: .parent :: after) (before ++ after)
  | root (after : List (Component α)) : Shortens (.parent :: after) after

theorem resolve_append (before after : List (Component α)) :
    resolve (before ++ after) = after.foldl walk (resolve before) := List.foldl_append

theorem resolve_names (names : List α) : resolve (names.map Component.name) = names := by
  induction names using List.reverseRecOn with
  | nil => rfl
  | append_singleton names name ih =>
      rw [List.map_append, resolve_append, ih]
      rfl

theorem mem_resolve {name : α} {path : List (Component α)} (h : name ∈ resolve path) :
    .name name ∈ path := by
  induction path using List.reverseRecOn with
  | nil => cases h
  | append_singleton path component ih =>
      rw [resolve_append, List.foldl_cons, List.foldl_nil] at h
      rw [List.mem_append, List.mem_singleton]
      cases component with
      | stay => exact .inl (ih h)
      | parent => exact .inl (ih ((List.dropLast_sublist _).mem h))
      | name other =>
          rcases List.mem_append.mp h with h | h
          · exact .inl (ih h)
          · exact .inr (congrArg Component.name (List.mem_singleton.mp h))

theorem Shortens.resolve_eq {path path' : List (Component α)} (h : Shortens path path') :
    resolve path = resolve path' := by
  cases h with
  | stay before after => rw [resolve_append, resolve_append, List.foldl_cons, walk]
  | parent before name after =>
      rw [resolve_append, resolve_append, List.foldl_cons, List.foldl_cons, walk, walk,
        List.dropLast_concat]
  | root => rfl

theorem Shortens.append_right {path path' : List (Component α)} (h : Shortens path path')
    (rest : List (Component α)) : Shortens (path ++ rest) (path' ++ rest) := by
  cases h with
  | stay before after => simpa using Shortens.stay before (after ++ rest)
  | parent before name after => simpa using Shortens.parent before name (after ++ rest)
  | root => exact .root _

theorem shortens_resolve (path : List (Component α)) :
    ReflTransGen Shortens path ((resolve path).map .name) := by
  induction path using List.reverseRecOn with
  | nil => exact .refl
  | append_singleton path component ih =>
      have hcleaned : ReflTransGen Shortens (path ++ [component])
          ((resolve path).map .name ++ [component]) :=
        ih.lift (· ++ [component]) fun _ _ h => h.append_right _
      apply hcleaned.trans
      rw [resolve_append, List.foldl_cons, List.foldl_nil]
      cases component with
      | stay => simpa [walk] using ReflTransGen.single (Shortens.stay ((resolve path).map .name) [])
      | name name => simpa [walk] using ReflTransGen.refl
      | parent =>
          rcases List.eq_nil_or_concat (resolve path) with hroot | ⟨names, name, hnames⟩
          · rw [hroot]
            exact .single (.root [])
          · rw [hnames]
            simpa [walk] using
              ReflTransGen.single (Shortens.parent (names.map Component.name) name [])

theorem resolve_eq_of_shortens {path path' : List (Component α)}
    (h : ReflTransGen Shortens path path') : resolve path = resolve path' := by
  induction h with
  | refl => rfl
  | tail _ hstep ih => exact ih.trans hstep.resolve_eq

theorem resolve_eq_iff {path : List (Component α)} {names : List α} :
    resolve path = names ↔ ReflTransGen Shortens path (names.map .name) := by
  constructor
  · rintro rfl
    exact shortens_resolve path
  · intro h
    rw [resolve_eq_of_shortens h, resolve_names]

end DockerLens.Lexical
