import FederationConfig.Json.Place
import FederationConfig.Manifest.Reading
import FederationConfig.Toml.Excerpt

/-!
Messages that say where a text is at fault. Only the kind of a document is looked up in the text;
its object is read apart from it.
-/

namespace FederationConfig

namespace ManifestFault

def jsonPlace (tokens : List Json.PlacedToken) (fault : DecodeFault) : Nat :=
  let stop := (tokens.getLast?.map Json.PlacedToken.stop).getD 0
  match fault, tokens, Json.entryPlaces "kind" 0 [] tokens with
  | .missingField _, _, _ => stop
  | .duplicateField _, _, _ :: second :: _ => second.colon.start
  | _, _, first :: _ => first.value.scalarStop
  | _, ⟨.openList, _, _⟩ :: first :: _, _ => first.scalarStop
  | _, _, _ => stop

def jsonPlaceText (text : String) (fault : DecodeFault) : String :=
  match Json.placedTokens? text with
  | none => ""
  | some tokens => Json.placeText text.toList (jsonPlace tokens fault)

def tomlExcerpt? (text : List Char) : DecodeFault → Option Toml.Excerpt
  | .missingField _ => some (.whole text)
  | _ => Toml.Excerpt.ofValue? "kind" text

def tomlExcerptText (text : String) (fault : DecodeFault) : String :=
  ((tomlExcerpt? text.toList fault).map Toml.Excerpt.render).getD ""

/-- A message with the place in the text that it is about. In TOML every message ends its line. -/
def messageIn (format : ManifestFormat) (text : String) (fault : ManifestFault) : String :=
  let message := fault.message format.wording
  match format, fault with
  | .json, unidentified fault => message ++ jsonPlaceText text fault
  | .toml, unidentified fault => tomlExcerptText text fault ++ message ++ "\n"
  | .toml, undecodable _ => message ++ "\n"
  | _, _ => message

end ManifestFault

end FederationConfig
