import FederationConfig.Tree.Equality
import FederationConfig.Yaml.Node
import FederationConfig.Yaml.Scalar

/-!
The documents of a YAML text as trees. Aliases are followed while a tree is built, which limits
the depth of the tree and not that of the text, and their number is limited too.
-/

namespace FederationConfig.Yaml

mutual

/-- How many steps a node takes to walk through, added to those in front of it. A collection
starts and ends. -/
def Node.stepsAfter (steps : Nat) : Node → Nat
  | .alias _ => steps + 1
  | .scalar .. => steps + 1
  | .list _ items => itemStepsAfter (steps + 2) items
  | .map _ entries => entryStepsAfter (steps + 2) entries

def itemStepsAfter (steps : Nat) : List Node → Nat
  | [] => steps
  | item :: rest => itemStepsAfter (item.stepsAfter steps) rest

def entryStepsAfter (steps : Nat) : List (Node × Node) → Nat
  | [] => steps
  | (key, value) :: rest => entryStepsAfter (value.stepsAfter (key.stepsAfter steps)) rest

end

/-- Aliases may be followed a hundred times for each step of the document. -/
def followsPerStep : Nat := 100

/-- The node that an alias stands for, which is no alias, and the follows that are left. -/
def Node.follow? (anchors : Anchors) (follows : Nat) : Node → Option (Node × Nat)
  | .alias number => match follows, anchors.node? number with
    | left + 1, some node => some (node, left)
    | _, _ => none
  | node => some (node, follows)

abbrev Partial (α : Type) := α × Nat

def addItem? (toTree : Nat → Node → Option (Partial Tree)) (progress : Partial (List Tree))
    (node : Node) : Option (Partial (List Tree)) :=
  (toTree progress.2 node).map fun (tree, follows) => (tree :: progress.1, follows)

def addPair? (toTree : Nat → Node → Option (Partial Tree))
    (progress : Partial (List (Tree × Tree))) (entry : Node × Node) :
    Option (Partial (List (Tree × Tree))) :=
  match toTree progress.2 entry.1 with
  | none => none
  | some (key, follows) =>
    if Tree.hasKey key progress.1 then none
    else (toTree follows entry.2).map fun (value, follows) =>
      ((key, value) :: progress.1, follows)

def toTree? (anchors : Anchors) : Nat → Nat → Node → Option (Partial Tree)
  | depth, follows, node =>
    match node.follow? anchors follows with
    | none => none
    | some (.alias _, _) => none
    | some (.scalar tag text plain, follows) =>
      (scalar? tag text plain).map fun tree => (tree, follows)
    | some (.list tag items, follows) => match depth with
      | 0 => none
      | depth + 1 =>
        match items.foldlM (addItem? (toTree? anchors depth)) ([], follows) with
        | none => none
        | some (items, follows) =>
          (withTag? tag (.list items.reverse)).map fun tree => (tree, follows)
    | some (.map tag entries, follows) => match depth with
      | 0 => none
      | depth + 1 =>
        match entries.foldlM (addPair? (toTree? anchors depth)) ([], follows) with
        | none => none
        | some (entries, follows) =>
          (withTag? tag (.map entries.reverse)).map fun tree => (tree, follows)

def Node.document? (anchors : Anchors) (node : Node) : Option Tree :=
  (toTree? anchors greatestDepth (followsPerStep * node.stepsAfter 0) node).map Prod.fst

/-- The directives in front of a document: a version at most once, and each handle once. -/
def directives? : Bool → Handles → List Token → Option (Handles × List Token)
  | versioned, handles, .version major minor :: rest =>
    if versioned ∨ major ≠ 1 ∨ (minor ≠ 1 ∧ minor ≠ 2) then none
    else directives? true handles rest
  | versioned, handles, .tagHandle handle expansion :: rest =>
    if (handles.lookup handle).isSome then none
    else directives? versioned (handles ++ [(handle, expansion)]) rest
  | _, handles, tokens => some (handles ++ defaultHandles, tokens)

def isDirective : Token → Bool
  | .version .. => true
  | .tagHandle .. => true
  | _ => false

def isEmptyContent (token : Token) : Bool :=
  isDirective token || token == .documentStart || token == .documentEnd || token == .streamEnd

def dropDocumentEnds (tokens : List Token) : List Token :=
  tokens.dropWhile fun token => token == .documentEnd

/-- Drops the mark that may end a document. The token behind a document must be readable. -/
def endDocument? : List Token → Option (List Token)
  | [] => none
  | .documentEnd :: rest => some rest
  | tokens => some tokens

structure Document where
  tree : Option Tree
  rest : Option (List Token)

def readNode (fuel : Nat) (handles : Handles) (tokens : List Token) : Document :=
  match Reader.node handles greatestDepth true false fuel ⟨tokens, .none⟩ with
  | none => ⟨none, none⟩
  | some (node, reader) => match endDocument? reader.tokens with
    | none => ⟨none, none⟩
    | some rest => ⟨node.document? reader.anchors, some rest⟩

def readContent (fuel : Nat) (handles : Handles) : List Token → Document
  | [] => ⟨none, none⟩
  | token :: rest =>
    if isEmptyContent token then
      ⟨some .null, endDocument? (token :: rest)⟩
    else readNode fuel handles (token :: rest)

def readMarked (fuel : Nat) (tokens : List Token) : Document :=
  match directives? false [] tokens with
  | some (handles, .documentStart :: rest) => readContent fuel handles rest
  | _ => ⟨none, none⟩

def readDocument (fuel : Nat) (first : Bool) (tokens : List Token) : Document :=
  match tokens with
  | [] => ⟨none, none⟩
  | token :: _ =>
    if !first || isDirective token || token == .documentStart then readMarked fuel tokens
    else readNode fuel defaultHandles tokens

def readDocuments : Nat → Bool → List (Option Tree) → List Token → List (Option Tree)
  | 0, _, acc, _ => acc.reverse
  | fuel + 1, first, acc, tokens =>
    match if first then tokens else dropDocumentEnds tokens with
    | .streamEnd :: _ => if first then [some .null] else acc.reverse
    | tokens => match readDocument fuel first tokens with
      | ⟨tree, some rest⟩ => readDocuments fuel false (tree :: acc) rest
      | ⟨_, none⟩ => (none :: acc).reverse

/-- All documents of a text, empty ones included; none stands for one that is malformed. Reading
takes at most three steps for each token. -/
def documents (text : String) : List (Option Tree) :=
  let cs := text.toList
  if cs.all isAllowed then
    let tokens := tokens (unifyBreaks [] cs)
    readDocuments (3 * tokens.length + 4) true [] tokens
  else [none]

end FederationConfig.Yaml
