namespace FederationConfig.Text

/-- A text that does not go on with a character of the kind. -/
def Stops (kind : Char → Bool) (cs : List Char) : Prop := ∀ c ∈ cs.head?, kind c = false

theorem stops_nil (kind : Char → Bool) : Stops kind [] := fun _ found => nomatch found

theorem stops_cons {kind : Char → Bool} {c : Char} (other : kind c = false) (rest : List Char) :
    Stops kind (c :: rest) := by
  intro head found
  cases found
  exact other

theorem stops_dropWhile (kind : Char → Bool) (cs : List Char) : Stops kind (cs.dropWhile kind) := by
  intro c found
  have first := List.head?_dropWhile_not kind cs
  rw [found] at first
  exact first

variable {kind : Char → Bool} {cs front other back rest : List Char}

theorem takeWhile_eq_nil_iff : cs.takeWhile kind = [] ↔ Stops kind cs := by
  constructor
  · intro none
    have whole := List.takeWhile_append_dropWhile (p := kind) (l := cs)
    rw [none, List.nil_append] at whole
    exact whole ▸ stops_dropWhile kind cs
  · intro stops
    cases cs with
    | nil => rfl
    | cons c rest => rw [List.takeWhile_cons, stops c rfl, if_neg Bool.false_ne_true]

theorem takeWhile_append_stops (all : ∀ c ∈ front, kind c) (stops : Stops kind rest) :
    (front ++ rest).takeWhile kind = front := by
  rw [List.takeWhile_append_of_pos all]
  cases rest with
  | nil => exact List.append_nil front
  | cons c rest =>
      have no := stops c rfl
      rw [List.takeWhile_cons_of_neg (by simp [no]), List.append_nil]

theorem dropWhile_append_stops (all : ∀ c ∈ front, kind c) (stops : Stops kind rest) :
    (front ++ rest).dropWhile kind = rest := by
  rw [List.dropWhile_append_of_pos all]
  cases rest with
  | nil => rfl
  | cons c rest =>
      have no := stops c rfl
      rw [List.dropWhile_cons_of_neg (by simp [no])]

theorem append_stops_inj (all : ∀ c ∈ front, kind c) (allToo : ∀ c ∈ other, kind c)
    (stops : Stops kind back) (stopsToo : Stops kind rest) (same : front ++ back = other ++ rest) :
    front = other ∧ back = rest := by
  have fronts := takeWhile_append_stops all stops
  have backs := dropWhile_append_stops all stops
  rw [same, takeWhile_append_stops allToo stopsToo] at fronts
  rw [same, dropWhile_append_stops allToo stopsToo] at backs
  exact ⟨fronts.symm, backs.symm⟩

theorem append_delimiter_inj {stop : Char} (free : stop ∉ front) (freeToo : stop ∉ other)
    (same : front ++ stop :: back = other ++ stop :: rest) : front = other ∧ back = rest := by
  have avoids {text : List Char} (absent : stop ∉ text) : ∀ c ∈ text, decide (c ≠ stop) := by
    intro c member
    apply decide_eq_true
    rintro rfl
    exact absent member
  have stops (text : List Char) : Stops (fun c => decide (c ≠ stop)) (stop :: text) :=
    stops_cons (decide_eq_false fun differs => differs rfl) text
  have parts := append_stops_inj (avoids free) (avoids freeToo) (stops back) (stops rest) same
  exact ⟨parts.1, (List.cons.inj parts.2).2⟩

def Begins (c : Char) (text : String) : Prop := text.toList.head? = some c

namespace Begins

variable {c d : Char} {text : String}

theorem ofList (c : Char) (later : List Char) : Begins c (String.ofList (c :: later)) := by
  rw [Begins, String.toList_ofList]
  rfl

theorem append (begins : Begins c text) (later : String) : Begins c (text ++ later) := by
  rw [Begins, String.toList_append, List.head?_append, begins]
  rfl

theorem intercalate (begins : Begins c text) (separator : String) (later : List String) :
    Begins c (separator.intercalate (text :: later)) := by
  cases later with
  | nil =>
      rw [String.intercalate_singleton]
      exact begins
  | cons other later =>
      rw [String.intercalate_cons_cons]
      exact (begins.append separator).append _

theorem ne_empty (begins : Begins c text) : text ≠ "" := by
  rintro rfl
  cases begins

theorem unique (begins : Begins c text) (beginsToo : Begins d text) : c = d :=
  Option.some.inj (begins.symm.trans beginsToo)

end Begins

theorem Begins.eq_of_append_eq {c d : Char} {first second : String} (begins : Begins c first)
    (beginsToo : Begins d second) (same : first.toList ++ back = second.toList ++ rest) :
    c = d := by
  have heads := congrArg List.head? same
  rw [List.head?_append, List.head?_append, begins, beginsToo] at heads
  exact Option.some.inj heads

end FederationConfig.Text
