import FederationConfig.Proofs.Outcome
import FederationConfig.Proofs.Record.RoundTrip

/-!
What is held of a tree is read as the tree itself is, with the same value or the same fault: each
scalar on its own, then lists and records from what they are made of.
-/

namespace FederationConfig

namespace Buffered

theorem toTrees_eq_map (items : List Buffered) : toTrees items = items.map toTree := by
  induction items with
  | nil => rfl
  | cons item items ih => rw [toTrees, ih, List.map_cons]

theorem toEntries_eq_map (entries : List (Buffered × Buffered)) :
    toEntries entries = entries.map fun entry => (entry.1.toTree, entry.2.toTree) := by
  induction entries with
  | nil => rfl
  | cons entry entries ih => rw [toEntries, ih, List.map_cons]

mutual

/-- Nothing of a tree is lost when it is held. -/
theorem toTree_ofTree {tree : Tree} {held : Buffered} (given : ofTree tree = .ok held) :
    held.toTree = tree := by
  cases tree with
  | integer value =>
      cases value with
      | ofNat value => cases given; rfl
      | negSucc distance => cases given; rfl
  | list items =>
      obtain ⟨heldItems, ofItems, rfl⟩ := map_eq_ok.mp given
      exact congrArg Tree.list (toTrees_ofTrees ofItems)
  | map entries =>
      obtain ⟨heldEntries, ofEntries, rfl⟩ := map_eq_ok.mp given
      exact congrArg Tree.map (toEntries_ofEntries ofEntries)
  | tagged tag value => cases given
  | _ => cases given; rfl

theorem toTrees_ofTrees {items : List Tree} {held : List Buffered}
    (given : ofTrees items = .ok held) : toTrees held = items := by
  cases items with
  | nil => cases given; rfl
  | cons item items =>
      obtain ⟨first, here, given⟩ := bind_eq_ok.mp given
      obtain ⟨rest, later, given⟩ := bind_eq_ok.mp given
      cases given
      rw [toTrees, toTree_ofTree here, toTrees_ofTrees later]

theorem toEntries_ofEntries {entries : List (Tree × Tree)} {held : List (Buffered × Buffered)}
    (given : ofEntries entries = .ok held) : toEntries held = entries := by
  cases entries with
  | nil => cases given; rfl
  | cons entry entries =>
      obtain ⟨key, value⟩ := entry
      obtain ⟨heldKey, ofKey, given⟩ := bind_eq_ok.mp given
      obtain ⟨heldValue, ofValue, given⟩ := bind_eq_ok.mp given
      obtain ⟨rest, later, given⟩ := bind_eq_ok.mp given
      cases given
      rw [toEntries, toTree_ofTree ofKey, toTree_ofTree ofValue, toEntries_ofEntries later]

end

end Buffered

variable {α β : Type}

namespace Codec

/-- What is held of a tree gives the value, or the fault, that the tree itself gives. -/
def Replays (codec : Codec α) : Prop := ∀ held, codec.replay held = codec.read held.toTree

theorem text_replays : text.Replays := by
  intro held
  cases held <;> rfl

theorem int64_replays : int64.Replays := by
  intro held
  cases held with
  | unsigned value =>
      have range : -2 ^ 63 ≤ (value : Int) ∧ (value : Int) < 2 ^ 63 ↔ value < 2 ^ 63 := by omega
      simp only [int64, Buffered.toTree, Int.ofNat_eq_natCast, range, Int64.ofInt_eq_ofNat]
  | negative distance =>
      have range : -2 ^ 63 ≤ Int.negSucc distance ∧ Int.negSucc distance < 2 ^ 63 ↔
          distance < 2 ^ 63 := by
        omega
      simp only [int64, Buffered.toTree, range]
  | _ => rfl

theorem duration_replays : duration.Replays := by
  intro held
  simp only [duration, text_replays held]

theorem setting_replays [Choice α] : (setting (α := α)).Replays := by
  intro held
  cases held <;> rfl

theorem list_replays {codec : Codec α} (replays : codec.Replays) : codec.list.Replays := by
  intro held
  cases held with
  | list items =>
      show items.mapM codec.replay = (Buffered.toTrees items).mapM codec.read
      rw [Buffered.toTrees_eq_map, List.mapM_map]
      congr 1
      funext item
      exact replays item
  | _ => rfl

end Codec

namespace Field

def Replays (field : Field α) : Prop :=
  ∀ held value, field.replay held value = field.read held.toTree value

variable {name : String} {codec : Codec β}

theorem ofCodec_replays (replays : codec.Replays) (get : α → β) (set : α → β → α) :
    (ofCodec name codec get set).Replays := by
  intro held value
  show (codec.replay held).map (set value) = (codec.read held.toTree).map (set value)
  rw [replays]

theorem optional_replays (replays : codec.Replays) (get : α → Option β)
    (set : α → Option β → α) : (optional name codec get set).Replays := by
  intro held value
  cases held with
  | null => rfl
  | _ => exact congrArg (Except.map _) (replays _)

end Field

namespace Record

variable {record : Record α}

theorem fieldOfHeld?_eq (record : Record α) (key : Buffered) :
    record.fieldOfHeld? key = record.fieldOf? key.toTree := by
  cases key <;> rfl

theorem takeEntry_congr {found : Option (Field α)}
    {take takeToo : Field α → α → Except DecodeFault α}
    (same : ∀ field ∈ found, take field = takeToo field) (progress : Partial α) :
    takeEntry found take progress = takeEntry found takeToo progress := by
  cases found with
  | none => rfl
  | some field => rw [takeEntry, takeEntry, same field rfl]

theorem replayEntry_eq (replays : ∀ field ∈ record.fields, field.Replays) (progress : Partial α)
    (key value : Buffered) :
    record.replayEntry progress (key, value) =
      record.readEntry progress (key.toTree, value.toTree) := by
  rw [replayEntry, readEntry, fieldOfHeld?_eq]
  cases located : record.fieldOf? key.toTree with
  | error fault => rfl
  | ok found =>
      refine takeEntry_congr (fun field there => ?_) progress
      cases there
      funext before
      exact replays field (fieldOf?_mem located) value before

theorem takeItems_replay {fields : List (Field α)} (replays : ∀ field ∈ fields, field.Replays)
    (items : List Buffered) (before : α) :
    takeItems Field.replay fields items before =
      takeItems Field.read fields (Buffered.toTrees items) before := by
  induction fields generalizing items before with
  | nil => cases items <;> rfl
  | cons field fields ih =>
      obtain ⟨first, later⟩ := List.forall_mem_cons.mp replays
      cases items with
      | nil => rfl
      | cons item items =>
          rw [Buffered.toTrees, takeItems, takeItems, first]
          congr 1
          funext between
          exact ih later items between

theorem replayMap_eq (replays : ∀ field ∈ record.fields, field.Replays)
    (entries : List (Buffered × Buffered)) :
    record.replayMap entries = record.readMap (Buffered.toEntries entries) := by
  rw [replayMap, readMap, Buffered.toEntries_eq_map, List.foldlM_map]
  congr 2
  funext progress entry
  exact replayEntry_eq replays progress entry.1 entry.2

theorem replayList_eq (replays : ∀ field ∈ record.fields, field.Replays)
    (items : List Buffered) :
    record.replayList items = record.readList (Buffered.toTrees items) := by
  have lengths : (Buffered.toTrees items).length = items.length := by
    rw [Buffered.toTrees_eq_map, List.length_map]
  rw [replayList, readList, takeItems_replay replays, lengths]
  congr 1
  funext value
  -- What is left behind the fields is counted apart here, and with them where a tree is read.
  cases left : items.drop record.fields.length with
  | nil =>
      have few := List.drop_eq_nil_iff.mp left
      rw [if_neg (Nat.not_lt.mpr few)]
  | cons item more =>
      have count := congrArg List.length left
      rw [List.length_drop, List.length_cons] at count
      have whole : record.fields.length + (more.length + 1) = items.length := by omega
      show throw (DecodeFault.surplus (_ + (more.length + 1)) _) = _
      rw [if_pos (by omega), whole]

/-- A record is read from what is held of a tree as it is from the tree, if its fields are. -/
theorem replay_eq (replays : ∀ field ∈ record.fields, field.Replays) : record.codec.Replays := by
  intro held
  cases held with
  | map entries => exact replayMap_eq replays entries
  | list items => exact replayList_eq replays items
  | _ => rfl

end Record

end FederationConfig
