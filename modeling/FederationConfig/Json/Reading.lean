import FederationConfig.Json.Token

namespace FederationConfig.Json

inductive Frame where
  | list (items : List Json)
  | object (entries : List (String × Json)) (key : String)

inductive Demand where
  | value
  | firstItem
  | firstKey
  | key
  | colon
  | separator
  | nothing (result : Json)

structure Machine where
  demand : Demand
  frames : List Frame

namespace Machine

def greatestDepth : Nat := 127

def start : Machine := ⟨.value, []⟩

def complete (frames : List Frame) (value : Json) : Machine :=
  match frames with
  | [] => ⟨.nothing value, []⟩
  | .list items :: outer => ⟨.separator, .list (value :: items) :: outer⟩
  | .object entries key :: outer => ⟨.separator, .object ((key, value) :: entries) "" :: outer⟩

def openFrame? (frame : Frame) (demand : Demand) (frames : List Frame) : Option Machine :=
  if frames.length < greatestDepth then some ⟨demand, frame :: frames⟩ else none

def value? (frames : List Frame) : Token → Option Machine
  | .value value => some (complete frames value)
  | .openList => openFrame? (.list []) .firstItem frames
  | .openObject => openFrame? (.object [] "") .firstKey frames
  | _ => none

def close? : List Frame → Token → Option Machine
  | .list items :: outer, .closeList => some (complete outer (.list items.reverse))
  | .object entries _ :: outer, .closeObject => some (complete outer (.object entries.reverse))
  | _, _ => none

def key? : List Frame → Token → Option Machine
  | .object entries _ :: outer, .value (.text key) => some ⟨.colon, .object entries key :: outer⟩
  | _, _ => none

def separator? (frames : List Frame) (token : Token) : Option Machine :=
  match frames, token with
  | .list _ :: _, .comma => some ⟨.value, frames⟩
  | .object .. :: _, .comma => some ⟨.key, frames⟩
  | _, _ => close? frames token

def step? (machine : Machine) (token : Token) : Option Machine :=
  match machine.demand, token with
  | .value, token => value? machine.frames token
  | .firstItem, .closeList => close? machine.frames .closeList
  | .firstItem, token => value? machine.frames token
  | .firstKey, .closeObject => close? machine.frames .closeObject
  | .firstKey, token => key? machine.frames token
  | .key, token => key? machine.frames token
  | .colon, .colon => some { machine with demand := .value }
  | .separator, token => separator? machine.frames token
  | _, _ => none

def run? : Machine → List Token → Option Json
  | ⟨.nothing result, _⟩, [] => some result
  | _, [] => none
  | machine, token :: rest =>
    match machine.step? token with
    | none => none
    | some machine => machine.run? rest

end Machine

def read? (text : String) : Option Json :=
  (placedTokens? text).bind fun tokens => Machine.start.run? (tokens.map PlacedToken.token)

end FederationConfig.Json
