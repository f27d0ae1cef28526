import FederationConfig.Duration.Basic
import FederationConfig.Number.Layout

namespace FederationConfig

def Binary64.isPositiveFinite : Binary64 → Bool
  | .finite negative significand _ => !negative && significand != 0
  | _ => false

structure JitterFactor where
  value : Binary64
  positive : value.isPositiveFinite = true

namespace JitterFactor

/-- The binary64 number next to 1.2. -/
def default : JitterFactor := ⟨.finite false 5404319552844595 (-52), rfl⟩

instance : Inhabited JitterFactor := ⟨default⟩

def ofNumber? (value : Binary64) : Option JitterFactor :=
  if positive : value.isPositiveFinite = true then some ⟨value, positive⟩ else none

def rejection (value : Binary64) : String :=
  "invalid validator option: jitter factor must be a finite number greater than 0, got " ++
    value.render .plain

def stretch (factor : JitterFactor) (period : Duration) : Binary64 :=
  ((Binary64.ofInt period.nanoseconds).multiply factor.value).truncate

def isOutlasted (factor : JitterFactor) (deadline period : Duration) : Bool :=
  (factor.stretch period).less (Binary64.ofInt deadline.nanoseconds)

end JitterFactor

end FederationConfig
