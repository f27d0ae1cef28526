namespace FederationConfig

inductive PathSegment where
  | field (name : String)
  | index (position : Nat)
  deriving DecidableEq, Repr

structure FieldPath where
  root : String
  below : List PathSegment
  deriving DecidableEq, Repr

namespace FieldPath

def ofRoot (name : String) : FieldPath := ⟨name, []⟩

def child (path : FieldPath) (name : String) : FieldPath :=
  { path with below := path.below ++ [.field name] }

def item (path : FieldPath) (position : Nat) : FieldPath :=
  { path with below := path.below ++ [.index position] }

def segments (path : FieldPath) : List PathSegment := .field path.root :: path.below

def renderBelow : List PathSegment → String
  | [] => ""
  | .field name :: rest => "." ++ name ++ renderBelow rest
  | .index position :: rest => "[" ++ position.repr ++ "]" ++ renderBelow rest

def render (path : FieldPath) : String := path.root ++ renderBelow path.below

end FieldPath

end FederationConfig
