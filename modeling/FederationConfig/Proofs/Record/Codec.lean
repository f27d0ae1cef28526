import FederationConfig.Record.Codec
import FederationConfig.Proofs.Choice
import FederationConfig.Proofs.Duration.RoundTrip

namespace FederationConfig

namespace Codec

variable {α : Type}

/-- A codec that reads what it writes of a readable value, and reads readable values only. What it
writes is never null, which would stand for an absent value. -/
structure Lossless (codec : Codec α) (Readable : α → Prop) : Prop where
  read_write : ∀ value, Readable value → codec.read (codec.write value).toTree = .ok value
  readable_of_read : ∀ tree value, codec.read tree = .ok value → Readable value
  write_ne_null : ∀ value, (codec.write value).toTree ≠ .null

theorem text_lossless : text.Lossless fun _ => True where
  read_write _ _ := rfl
  readable_of_read _ _ _ := trivial
  write_ne_null _ same := nomatch same

theorem int64_lossless : int64.Lossless fun _ => True where
  read_write value _ := by
    have bounds : -2 ^ 63 ≤ value.toInt ∧ value.toInt < 2 ^ 63 :=
      ⟨value.le_toInt, value.toInt_lt⟩
    simp only [int64, Json.toTree]
    rw [if_pos bounds, Int64.ofInt_toInt]
  readable_of_read _ _ _ := trivial
  write_ne_null _ same := nomatch same

theorem duration_lossless : duration.Lossless Duration.Fits where
  read_write value fits := by
    simp only [duration, durationOfText, text, Json.toTree]
    rw [Duration.trim_render, String.ofList_toList, Duration.read_render, if_pos fits]
    rfl
  readable_of_read tree value read := by
    simp only [duration] at read
    split at read
    · cases read
    · exact Duration.fits_of_read (mapError_eq_ok.mp read)
  write_ne_null _ same := nomatch same

theorem setting_lossless [Choice α] [LawfulChoice α] :
    (setting (α := α)).Lossless Setting.IsReadable where
  read_write value readable := by
    simp only [setting, text, Json.toTree]
    exact congrArg Except.ok (Setting.ofText_text readable)
  readable_of_read tree value read := by
    simp only [setting] at read
    split at read
    · cases read
      exact Setting.isReadable_missing
    · obtain ⟨text, _, rfl⟩ := map_eq_ok.mp read
      exact Setting.isReadable_ofText text
  write_ne_null _ same := nomatch same

theorem mapM_read_toTrees {codec : Codec α} {Readable : α → Prop}
    (lossless : codec.Lossless Readable) (values : List α)
    (readable : ∀ value ∈ values, Readable value) :
    (Json.toTrees (values.map codec.write)).mapM codec.read = .ok values := by
  induction values with
  | nil => rfl
  | cons value values ih =>
      obtain ⟨first, later⟩ := List.forall_mem_cons.mp readable
      rw [List.map_cons, Json.toTrees, List.mapM_cons, lossless.read_write value first, ih later]
      rfl

theorem list_lossless {codec : Codec α} {Readable : α → Prop}
    (lossless : codec.Lossless Readable) :
    codec.list.Lossless fun values => ∀ value ∈ values, Readable value where
  read_write := mapM_read_toTrees lossless
  readable_of_read tree values read := by
    simp only [list] at read
    split at read
    · exact forall_mem_of_mapM lossless.readable_of_read read
    · cases read
  write_ne_null _ same := nomatch same

end Codec

end FederationConfig
