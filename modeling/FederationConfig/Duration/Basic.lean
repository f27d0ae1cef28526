import FederationConfig.Number.Binary64

namespace FederationConfig

structure Duration where
  nanoseconds : Int
  deriving DecidableEq, Repr, Inhabited

namespace Duration

def zero : Duration := ⟨0⟩

instance : LT Duration := ⟨fun a b => a.nanoseconds < b.nanoseconds⟩

instance : LE Duration := ⟨fun a b => a.nanoseconds ≤ b.nanoseconds⟩

instance (a b : Duration) : Decidable (a < b) :=
  inferInstanceAs (Decidable (a.nanoseconds < b.nanoseconds))

instance (a b : Duration) : Decidable (a ≤ b) :=
  inferInstanceAs (Decidable (a.nanoseconds ≤ b.nanoseconds))

end Duration

inductive TimeUnit where
  | nanosecond
  | microsecond
  | millisecond
  | second
  | minute
  | hour
  deriving DecidableEq, Repr

namespace TimeUnit

def nanoseconds : TimeUnit → Nat
  | nanosecond => 1
  | microsecond => 1000
  | millisecond => 1000 * 1000
  | second => 1000 * 1000 * 1000
  | minute => 60 * (1000 * 1000 * 1000)
  | hour => 60 * (60 * (1000 * 1000 * 1000))

def ofName? (name : List Char) : Option TimeUnit :=
  if name = ['n', 's'] then some nanosecond
  else if name = ['u', 's'] ∨ name = ['\u00b5', 's'] ∨ name = ['\u03bc', 's'] then some microsecond
  else if name = ['m', 's'] then some millisecond
  else if name = ['s'] then some second
  else if name = ['m'] then some minute
  else if name = ['h'] then some hour
  else none

theorem nanoseconds_pos (unit : TimeUnit) : 0 < unit.nanoseconds := by cases unit <;> decide

end TimeUnit

end FederationConfig
