import FederationConfig.Json.Basic
import FederationConfig.Tree.Basic
import Mathlib.Data.List.Basic

namespace FederationConfig.Json

section Entries

variable {name other : String} {value old : Json} {entries : List (String × Json)}

theorem lookup_putEntry (name other : String) (value : Json) (entries : List (String × Json)) :
    lookup other (putEntry name value entries) =
      if name = other then some value else lookup other entries := by
  induction entries with
  | nil => rfl
  | cons entry entries ih =>
      obtain ⟨key, first⟩ := entry
      rw [putEntry]
      by_cases found : key = name
      · subst found
        rw [if_pos rfl, lookup, lookup]
        split <;> rfl
      · rw [if_neg found, lookup, lookup, ih]
        by_cases here : key = other
        · have differ : name ≠ other := fun same => found (here.trans same.symm)
          rw [if_pos here, if_pos here, if_neg differ]
        · rw [if_neg here, if_neg here]

theorem keys_putEntry (found : lookup name entries = some old) :
    (putEntry name value entries).map Prod.fst = entries.map Prod.fst := by
  induction entries with
  | nil => cases found
  | cons entry entries ih =>
      obtain ⟨key, first⟩ := entry
      rw [lookup] at found
      rw [putEntry]
      split
      case isTrue here => rw [List.map_cons, List.map_cons, here]
      case isFalse differ =>
        rw [if_neg differ] at found
        rw [List.map_cons, List.map_cons, ih found]

theorem lookup_eraseEntry (name other : String) (entries : List (String × Json)) :
    lookup other (entries.filter fun (key, _) => key ≠ name) =
      if name = other then none else lookup other entries := by
  induction entries with
  | nil => rw [List.filter_nil, lookup, ite_self]
  | cons entry entries ih =>
      obtain ⟨key, first⟩ := entry
      by_cases erased : key = name
      · subst erased
        rw [List.filter_cons_of_neg (by simp), ih, lookup]
        by_cases here : key = other
        · rw [if_pos here, if_pos here]
        · rw [if_neg here, if_neg here, if_neg here]
      · rw [List.filter_cons_of_pos (by simpa using erased), lookup, lookup, ih]
        by_cases here : key = other
        · have differ : name ≠ other := fun same => erased (here.trans same.symm)
          rw [if_pos here, if_pos here, if_neg differ]
        · rw [if_neg here, if_neg here]

theorem count_keys_eraseEntry_le (name other : String) (entries : List (String × Json)) :
    ((entries.filter fun (key, _) => key ≠ name).map Prod.fst).count other ≤
      (entries.map Prod.fst).count other :=
  (List.filter_sublist.map Prod.fst).count_le other

theorem lookup_eq_none_iff :
    lookup name entries = none ↔ (entries.map Prod.fst).count name = 0 := by
  induction entries with
  | nil => exact iff_of_true rfl rfl
  | cons entry entries ih =>
      obtain ⟨key, first⟩ := entry
      rw [lookup, List.map_cons, List.count_cons]
      by_cases here : key = name
      · rw [if_pos here, if_pos (beq_iff_eq.mpr here)]
        exact iff_of_false (Option.some_ne_none _) (Nat.succ_ne_zero _)
      · rw [if_neg here, if_neg (by simpa using here), Nat.add_zero]
        exact ih

theorem lookup_append (name : String) (front back : List (String × Json)) :
    lookup name (front ++ back) = (lookup name front).or (lookup name back) := by
  induction front with
  | nil => rfl
  | cons entry front ih =>
      obtain ⟨key, first⟩ := entry
      rw [List.cons_append, lookup, lookup, ih]
      split <;> rfl

theorem lookup_perm {others : List (String × Json)} (perm : entries.Perm others)
    (single : (entries.map Prod.fst).count name ≤ 1) :
    lookup name entries = lookup name others := by
  induction perm with
  | nil => rfl
  | cons entry _ ih =>
      obtain ⟨key, first⟩ := entry
      rw [List.map_cons, List.count_cons] at single
      rw [lookup, lookup, ih (Nat.le_of_add_right_le single)]
  | swap entry next rest =>
      obtain ⟨key, first⟩ := entry
      obtain ⟨other, second⟩ := next
      simp only [lookup]
      by_cases here : key = name
      · have differ : other ≠ name := by
          intro same
          subst here same
          simp at single
        rw [if_neg differ, if_neg differ]
      · rw [if_neg here, if_neg here]
  | trans front _ ih ihToo =>
      have singleToo := (front.map Prod.fst).count_eq name ▸ single
      rw [ih single, ihToo singleToo]

end Entries

theorem toTrees_eq_map (items : List Json) : toTrees items = items.map toTree := by
  induction items with
  | nil => rfl
  | cons item items ih => rw [toTrees, List.map_cons, ih]

theorem toEntries_eq_map (entries : List (String × Json)) :
    toEntries entries = entries.map fun (key, value) => (.text key, value.toTree) := by
  induction entries with
  | nil => rfl
  | cons entry entries ih => rw [toEntries, List.map_cons, ih]

theorem toTree_eq_null {json : Json} : json.toTree = .null ↔ json = .null := by
  cases json <;> simp [toTree]

section Paths

variable {json child : Json} {step : Step} {path : List Step}

theorem at?_cons (json : Json) (step : Step) (path : List Step) :
    json.at? (step :: path) = (json.child? step).bind (at? · path) :=
  rfl

theorem erase_cons (found : json.child? step = some child) (further : path ≠ []) :
    json.erase (step :: path) = json.putChild step (child.erase path) := by
  cases path with
  | nil => exact absurd rfl further
  | cons next path => simp only [erase, found]

theorem put_cons (found : json.child? step = some child) (path : List Step) (value : Json) :
    json.put (step :: path) value = json.putChild step (child.put path value) := by
  rw [put, found, Option.getD_some]

theorem putChild_ne_null (json : Json) (step : Step) (value : Json) :
    json.putChild step value ≠ .null := by
  cases json <;> cases step <;> exact fun same => nomatch same

theorem put_ne_null (json value : Json) (further : path ≠ []) : json.put path value ≠ .null := by
  cases path with
  | nil => exact absurd rfl further
  | cons step path => exact putChild_ne_null json step _

theorem eraseChild_ne_null (present : json ≠ .null) : json.eraseChild step ≠ .null := by
  cases json <;> cases step <;> first | exact present | exact fun same => nomatch same

theorem erase_ne_null (present : json ≠ .null) (path : List Step) : json.erase path ≠ .null := by
  match path with
  | [] => exact present
  | [step] => exact eraseChild_ne_null present
  | step :: next :: path =>
      simp only [erase]
      split
      · exact present
      · exact putChild_ne_null json step _

end Paths

end FederationConfig.Json
