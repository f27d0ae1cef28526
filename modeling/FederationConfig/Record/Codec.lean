import FederationConfig.Choice
import FederationConfig.Duration.Rendering
import FederationConfig.Record.Buffered
import FederationConfig.Text.Basic

namespace FederationConfig

structure Codec (α : Type) where
  read : Tree → Except DecodeFault α
  replay : Buffered → Except DecodeFault α
  write : α → Json

namespace Codec

def text : Codec String where
  read
    | .text value => .ok value
    | tree => .error (.wrongType tree "a string")
  replay
    | .text value => .ok value
    | held => .error (.wrongType held.toTree "a string")
  write := .text

def int64 : Codec Int64 where
  read
    | .integer value =>
      if -2 ^ 63 ≤ value ∧ value < 2 ^ 63 then .ok (Int64.ofInt value)
      else .error (.outOfRange value "i64")
    | tree => .error (.wrongType tree "i64")
  replay
    | .unsigned value =>
      if value < 2 ^ 63 then .ok (Int64.ofNat value) else .error (.outOfRange value "i64")
    | .negative distance =>
      if distance < 2 ^ 63 then .ok (Int64.ofInt (.negSucc distance))
      else .error (.outOfRange (.negSucc distance) "i64")
    | held => .error (.wrongType held.toTree "i64")
  write value := .integer value.toInt

/-- Blanks around a duration do not matter. -/
def durationOfText (value : String) : Except DecodeFault Duration :=
  (Duration.read (String.ofList (Text.trim value.toList))).mapError .malformedDuration

def duration : Codec Duration where
  read tree :=
    match text.read tree with
    | .error fault => .error fault
    | .ok value => durationOfText value
  replay held :=
    match text.replay held with
    | .error fault => .error fault
    | .ok value => durationOfText value
  write value := .text value.render

/-- Any text is kept, and null stands for a missing setting. -/
def setting {α : Type} [Choice α] : Codec (Setting α) where
  read
    | .null => .ok .missing
    | tree => (text.read tree).map Setting.ofText
  replay
    | .null => .ok .missing
    | held => (text.replay held).map Setting.ofText
  write value := .text value.text

def list {α : Type} (codec : Codec α) : Codec (List α) where
  read
    | .list items => items.mapM codec.read
    | tree => .error (.wrongType tree "a sequence")
  replay
    | .list items => items.mapM codec.replay
    | held => .error (.wrongType held.toTree "a sequence")
  write values := .list (values.map codec.write)

end Codec

end FederationConfig
