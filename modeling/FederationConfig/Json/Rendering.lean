import FederationConfig.Json.Basic
import FederationConfig.Number.Layout

namespace FederationConfig.Json

def controlEscape (c : Char) : List Char :=
  match c with
  | '\x08' => ['\\', 'b']
  | '\t' => ['\\', 't']
  | '\n' => ['\\', 'n']
  | '\x0c' => ['\\', 'f']
  | '\r' => ['\\', 'r']
  | _ => ['\\', 'u', '0', '0', Nat.digitChar (c.toNat / 16), Nat.digitChar (c.toNat % 16)]

def escapeChar (c : Char) : List Char :=
  if c = '"' ∨ c = '\\' then ['\\', c] else if c < ' ' then controlEscape c else [c]

def quote (s : String) : String := "\"" ++ String.ofList (s.toList.flatMap escapeChar) ++ "\""

def renderFloat (x : Binary64) : String :=
  if x.isFinite then x.render .scientific else "null"

def bracket (opening closing : Char) (body : String) : String :=
  String.singleton opening ++ body ++ String.singleton closing

def newline (depth : Nat) : String := "\n" ++ String.ofList (List.replicate (2 * depth) ' ')

def block (opening closing : Char) (depth : Nat) (parts : List String) : String :=
  if parts = [] then bracket opening closing ""
  else
    bracket opening closing
      (newline (depth + 1) ++ ("," ++ newline (depth + 1)).intercalate parts ++ newline depth)

mutual

def renderIndented (depth : Nat) : Json → String
  | .null => "null"
  | .bool value => if value then "true" else "false"
  | .integer value => value.repr
  | .float value => renderFloat value
  | .text value => quote value
  | .list items => block '[' ']' depth (renderIndentedItems (depth + 1) items)
  | .object entries => block '\x7b' '\x7d' depth (renderIndentedEntries (depth + 1) entries)

def renderIndentedItems (depth : Nat) : List Json → List String
  | [] => []
  | item :: rest => item.renderIndented depth :: renderIndentedItems depth rest

def renderIndentedEntries (depth : Nat) : List (String × Json) → List String
  | [] => []
  | (key, value) :: rest =>
    (quote key ++ ": " ++ value.renderIndented depth) :: renderIndentedEntries depth rest

end

end FederationConfig.Json
