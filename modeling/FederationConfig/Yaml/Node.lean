import FederationConfig.Yaml.Scanner

/-!
The documents of a YAML text, as nodes with their tags and with aliases that are not followed
yet. Anchors are numbered while they are met.
-/

namespace FederationConfig.Yaml

inductive Node where
  | alias (number : Nat)
  | scalar (tag : Option String) (text : String) (plain : Bool)
  | list (tag : Option String) (items : List Node)
  | map (tag : Option String) (entries : List (Node × Node))
  deriving Inhabited

def Node.absent : Node := .scalar none "" true

/-- A node that an alias may stand for: the number of its anchor, and how many anchors were met
before it. -/
structure Anchored where
  number : Nat
  order : Nat
  node : Node

/-- The anchors of a document. The number of a new one counts the names that are known then, so
that two may share a number after a name has been given again; the one met last counts. -/
structure Anchors where
  numbers : List (String × Nat)
  met : Nat
  nodes : List Anchored

namespace Anchors

def none : Anchors := ⟨[], 0, []⟩

def number? (anchors : Anchors) (name : String) : Option Nat := anchors.numbers.lookup name

structure Slot where
  number : Nat
  order : Nat

def add (anchors : Anchors) (name : String) : Slot × Anchors :=
  let number := anchors.numbers.length
  (⟨number, anchors.met⟩,
    { anchors with
      numbers := (name, number) :: anchors.numbers.filter fun (known, _) => known ≠ name
      met := anchors.met + 1 })

def bind (anchors : Anchors) (slot : Slot) (node : Node) : Anchors :=
  { anchors with nodes := ⟨slot.number, slot.order, node⟩ :: anchors.nodes }

def later (number : Nat) (best : Option Anchored) (anchored : Anchored) : Option Anchored :=
  if anchored.number = number ∧ best.all fun other => other.order < anchored.order then
    some anchored
  else best

def node? (anchors : Anchors) (number : Nat) : Option Node :=
  (anchors.nodes.foldl (later number) .none).map Anchored.node

end Anchors

abbrev Handles := List (String × String)

def defaultHandles : Handles := [("!", "!"), ("!!", "tag:yaml.org,2002:")]

def resolveTag? (handles : Handles) (handle suffix : String) : Option String :=
  if handle = "" then some suffix
  else (handles.lookup handle).map fun expansion => expansion ++ suffix

structure Reader where
  tokens : List Token
  anchors : Anchors

namespace Reader

def withTokens (reader : Reader) (tokens : List Token) : Reader := { reader with tokens }

structure Properties where
  slot : Option Anchors.Slot
  tag : Option String

def Properties.isEmpty (properties : Properties) : Bool :=
  properties.slot.isNone && properties.tag.isNone

def anchor (reader : Reader) : Option Anchors.Slot × Reader :=
  match reader.tokens with
  | .anchor name :: rest =>
    let (slot, anchors) := reader.anchors.add name
    (some slot, ⟨rest, anchors⟩)
  | _ => (none, reader)

def tag? (handles : Handles) (reader : Reader) : Option (Option String × Reader) :=
  match reader.tokens with
  | .tag handle suffix :: rest =>
    (resolveTag? handles handle suffix).map fun tag => (some tag, reader.withTokens rest)
  | _ => some (none, reader)

def properties? (handles : Handles) (reader : Reader) : Option (Properties × Reader) :=
  let (slot, behind) := reader.anchor
  match behind.tag? handles with
  | none => none
  | some (tag, rest) =>
    if slot.isSome then some (⟨slot, tag⟩, rest)
    else
      let (slot, rest) := if tag.isSome then rest.anchor else (none, rest)
      some (⟨slot, tag⟩, rest)

def complete (properties : Properties) (node : Node) (reader : Reader) : Node × Reader :=
  match properties.slot with
  | none => (node, reader)
  | some slot => (node, { reader with anchors := reader.anchors.bind slot node })

/-- The tag `!` on a scalar says no more than that it is one. -/
def scalarTag (tag : Option String) : Option String := tag.filter fun tag => tag ≠ "!"

/-- Whether a block collection goes on without the node that could stand here. -/
def endsEntry : Token → Bool
  | .key => true
  | .value => true
  | .blockEnd => true
  | _ => false

def endsItem : Token → Bool
  | .blockEntry => true
  | .blockEnd => true
  | _ => false

/-- A list at the indentation of the mapping around it also ends where that goes on. -/
def endsPlainItem (token : Token) : Bool := endsItem token || endsEntry token

def endsFlowItem : Token → Bool
  | .flowEntry => true
  | .flowSequenceEnd => true
  | _ => false

def endsFlowKey : Token → Bool
  | .value => true
  | .flowEntry => true
  | .flowSequenceEnd => true
  | _ => false

def endsFlowValue : Token → Bool
  | .flowEntry => true
  | .flowMappingEnd => true
  | _ => false

def endsFlowMapKey : Token → Bool
  | .value => true
  | .flowEntry => true
  | .flowMappingEnd => true
  | _ => false

def cutComma? (first : Bool) (reader : Reader) : Option Reader :=
  if first then some reader
  else match reader.tokens with
    | .flowEntry :: rest => some (reader.withTokens rest)
    | _ => none

variable (handles : Handles)

mutual

/-- A node, if none of the tokens that mean its absence comes first. -/
def nodeUnless (depth : Nat) (ends : Token → Bool) (inBlock inMapping : Bool) :
    Nat → Reader → Option (Node × Reader)
  | 0, _ => none
  | fuel + 1, reader =>
    match reader.tokens with
    | [] => none
    | token :: _ =>
      if ends token then some (.absent, reader) else node depth inBlock inMapping fuel reader
termination_by structural fuel => fuel

def node (depth : Nat) (inBlock inMapping : Bool) : Nat → Reader → Option (Node × Reader)
  | 0, _ => none
  | fuel + 1, reader =>
    match reader.tokens with
    | .alias name :: rest =>
      (reader.anchors.number? name).map fun number => (.alias number, reader.withTokens rest)
    | _ => match reader.properties? handles with
      | none => none
      | some (properties, reader) =>
        (content depth inBlock inMapping properties fuel reader).map fun (node, reader) =>
          complete properties node reader
termination_by structural fuel => fuel

/-- What stands behind the properties of a node; `depth` counts the collections that may still
be opened. -/
def content (depth : Nat) (inBlock inMapping : Bool) (properties : Properties) :
    Nat → Reader → Option (Node × Reader)
  | 0, _ => none
  | fuel + 1, reader =>
    let inner := depth - 1
    match reader.tokens with
    | .scalar text plain :: rest =>
      some (.scalar (scalarTag properties.tag) text plain, reader.withTokens rest)
    | .flowSequence :: rest =>
      if depth = 0 then none
      else (flowItems inner true [] fuel (reader.withTokens rest)).map fun (items, reader) =>
        (.list properties.tag items, reader)
    | .flowMapping :: rest =>
      if depth = 0 then none
      else (flowEntries inner true [] fuel (reader.withTokens rest)).map fun (entries, reader) =>
        (.map properties.tag entries, reader)
    | token :: rest =>
      if token = .blockEntry ∧ inMapping then
        if depth = 0 then none
        else (plainItems inner [] fuel reader).map fun (items, reader) =>
          (.list properties.tag items, reader)
      else if token = .blockSequence ∧ inBlock then
        if depth = 0 then none
        else (blockItems inner [] fuel (reader.withTokens rest)).map fun (items, reader) =>
          (.list properties.tag items, reader)
      else if token = .blockMapping ∧ inBlock then
        if depth = 0 then none
        else (blockEntries inner [] fuel (reader.withTokens rest)).map fun (entries, reader) =>
          (.map properties.tag entries, reader)
      else if properties.isEmpty then none
      else some (.scalar properties.tag "" true, reader)
    | [] => none
termination_by structural fuel => fuel

def blockItems (depth : Nat) (acc : List Node) : Nat → Reader → Option (List Node × Reader)
  | 0, _ => none
  | fuel + 1, reader =>
    match reader.tokens with
    | .blockEntry :: rest =>
      match nodeUnless depth endsItem true false fuel (reader.withTokens rest) with
      | none => none
      | some (item, reader) => blockItems depth (item :: acc) fuel reader
    | .blockEnd :: rest => some (acc.reverse, reader.withTokens rest)
    | _ => none
termination_by structural fuel => fuel

def plainItems (depth : Nat) (acc : List Node) : Nat → Reader → Option (List Node × Reader)
  | 0, _ => none
  | fuel + 1, reader =>
    match reader.tokens with
    | [] => none
    | .blockEntry :: rest =>
      match nodeUnless depth endsPlainItem true false fuel (reader.withTokens rest) with
      | none => none
      | some (item, reader) => plainItems depth (item :: acc) fuel reader
    | _ => some (acc.reverse, reader)
termination_by structural fuel => fuel

def blockEntries (depth : Nat) (acc : List (Node × Node)) :
    Nat → Reader → Option (List (Node × Node) × Reader)
  | 0, _ => none
  | fuel + 1, reader =>
    match reader.tokens with
    | .key :: rest =>
      match nodeUnless depth endsEntry true true fuel (reader.withTokens rest) with
      | none => none
      | some (key, reader) => match blockValue depth fuel reader with
        | none => none
        | some (value, reader) => blockEntries depth ((key, value) :: acc) fuel reader
    | .blockEnd :: rest => some (acc.reverse, reader.withTokens rest)
    | _ => none
termination_by structural fuel => fuel

def blockValue (depth : Nat) : Nat → Reader → Option (Node × Reader)
  | 0, _ => none
  | fuel + 1, reader =>
    match reader.tokens with
    | [] => none
    | .value :: rest => nodeUnless depth endsEntry true true fuel (reader.withTokens rest)
    | _ => some (.absent, reader)
termination_by structural fuel => fuel

def flowItems (depth : Nat) (first : Bool) (acc : List Node) :
    Nat → Reader → Option (List Node × Reader)
  | 0, _ => none
  | fuel + 1, reader =>
    match reader.tokens with
    | .flowSequenceEnd :: rest => some (acc.reverse, reader.withTokens rest)
    | _ => match cutComma? first reader with
      | none => none
      | some reader => match reader.tokens with
        | .flowSequenceEnd :: rest => some (acc.reverse, reader.withTokens rest)
        | .key :: rest => match flowPair depth fuel (reader.withTokens rest) with
          | none => none
          | some (item, reader) => flowItems depth false (item :: acc) fuel reader
        | _ => match node depth false false fuel reader with
          | none => none
          | some (item, reader) => flowItems depth false (item :: acc) fuel reader
termination_by structural fuel => fuel

/-- A mapping of one entry in a list. Where its key is absent, the token in its place is passed
over. -/
def flowPair (depth : Nat) : Nat → Reader → Option (Node × Reader)
  | 0, _ => none
  | fuel + 1, reader =>
    if depth = 0 then none
    else match reader.tokens with
      | [] => none
      | token :: rest =>
        let key := if endsFlowKey token then some (.absent, reader.withTokens rest)
          else node (depth - 1) false false fuel reader
        match key with
        | none => none
        | some (key, reader) =>
          (flowValue (depth - 1) endsFlowItem fuel reader).map fun (value, reader) =>
            (.map none [(key, value)], reader)
termination_by structural fuel => fuel

def flowValue (depth : Nat) (ends : Token → Bool) : Nat → Reader → Option (Node × Reader)
  | 0, _ => none
  | fuel + 1, reader =>
    match reader.tokens with
    | [] => none
    | .value :: rest => nodeUnless depth ends false false fuel (reader.withTokens rest)
    | _ => some (.absent, reader)
termination_by structural fuel => fuel

def flowEntries (depth : Nat) (first : Bool) (acc : List (Node × Node)) :
    Nat → Reader → Option (List (Node × Node) × Reader)
  | 0, _ => none
  | fuel + 1, reader =>
    match reader.tokens with
    | .flowMappingEnd :: rest => some (acc.reverse, reader.withTokens rest)
    | _ => match cutComma? first reader with
      | none => none
      | some reader => match reader.tokens with
        | .flowMappingEnd :: rest => some (acc.reverse, reader.withTokens rest)
        | .key :: rest =>
          match nodeUnless depth endsFlowMapKey false false fuel (reader.withTokens rest) with
          | none => none
          | some (key, reader) => match flowValue depth endsFlowValue fuel reader with
            | none => none
            | some (value, reader) => flowEntries depth false ((key, value) :: acc) fuel reader
        | _ => match node depth false false fuel reader with
          | none => none
          | some (key, reader) => flowEntries depth false ((key, .absent) :: acc) fuel reader
termination_by structural fuel => fuel

end

end Reader

end FederationConfig.Yaml
