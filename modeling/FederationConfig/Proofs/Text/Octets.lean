namespace FederationConfig.Text

def octets (text : String) : List UInt8 := text.toUTF8.data.toList

/-- How many octets of a class a text begins with. -/
def run (octet : UInt8 → Bool) (text : String) : Nat := ((octets text).takeWhile octet).length

/-- Both parts of a text, if the offset lies between two characters or at an end. -/
def cutAt? (text : String) (offset : Nat) : Option (String × String) :=
  if boundary : String.Pos.Raw.IsValid text ⟨offset⟩ then
    let position := text.pos ⟨offset⟩ boundary
    some ((text.sliceTo position).copy, (text.sliceFrom position).copy)
  else none

theorem octets_ofList (cs : List Char) :
    octets (String.ofList cs) = cs.flatMap String.utf8EncodeChar := by
  rw [octets, String.toUTF8_eq_toByteArray, ← String.utf8Encode_toList, List.utf8Encode,
    List.data_toByteArray, String.toList_ofList]

theorem length_octets (text : String) : (octets text).length = text.utf8ByteSize := by
  rw [octets, Array.length_toList, ByteArray.size_data, String.toUTF8_eq_toByteArray,
    String.size_toByteArray]

theorem isValid_of_append (front back : String) :
    String.Pos.Raw.IsValid (front ++ back) ⟨front.utf8ByteSize⟩ :=
  String.Pos.Raw.isValid_iff_exists_append.mpr ⟨front, back, rfl, rfl⟩

theorem cutAt?_append (front back : String) :
    cutAt? (front ++ back) front.utf8ByteSize = some (front, back) := by
  have boundary := isValid_of_append front back
  have parts : ((front ++ back).pos ⟨front.utf8ByteSize⟩ boundary).Splits front back :=
    ⟨rfl, String.offset_pos⟩
  obtain ⟨left, right⟩ := String.Pos.Splits.eq (String.Pos.splits _) parts
  rw [cutAt?, dif_pos boundary]
  dsimp only
  rw [left, right]

theorem utf8EncodeChar_of_ascii {c : Char} (ascii : c.toNat < 0x80) :
    String.utf8EncodeChar c = [UInt8.ofNat c.toNat] :=
  if_pos (Nat.le_of_lt_succ ascii)

theorem octets_of_ascii {cs : List Char} (ascii : ∀ c ∈ cs, c.toNat < 0x80) :
    octets (String.ofList cs) = cs.map fun c => UInt8.ofNat c.toNat := by
  rw [octets_ofList]
  induction cs with
  | nil => rfl
  | cons c rest ih =>
      obtain ⟨first, later⟩ := List.forall_mem_cons.mp ascii
      rw [List.flatMap_cons, utf8EncodeChar_of_ascii first, ih later, List.map_cons,
        List.singleton_append]

theorem le_of_mem_utf8EncodeChar {c : Char} (other : 0x80 ≤ c.toNat) :
    ∀ octet ∈ String.utf8EncodeChar c, 0x80 ≤ octet := by
  have beyond : ¬ c.val.toNat ≤ 0x7f := Nat.not_le.mpr other
  have high (n : Nat) (low : 0x80 ≤ n) (most : n < 0x100) : (0x80 : UInt8) ≤ UInt8.ofNat n := by
    rw [UInt8.le_iff_toNat_le, UInt8.toNat_ofNat', Nat.mod_eq_of_lt most]
    exact low
  intro octet member
  simp only [String.utf8EncodeChar, if_neg beyond] at member
  split at member
  · simp only [List.mem_cons, List.not_mem_nil, or_false] at member
    rcases member with rfl | rfl <;> exact high _ (by omega) (by omega)
  · split at member
    · simp only [List.mem_cons, List.not_mem_nil, or_false] at member
      rcases member with rfl | rfl | rfl <;> exact high _ (by omega) (by omega)
    · simp only [List.mem_cons, List.not_mem_nil, or_false] at member
      rcases member with rfl | rfl | rfl | rfl <;> exact high _ (by omega) (by omega)

theorem head?_octets_iff {d : Char} (ascii : d.toNat < 0x80) (cs : List Char) :
    (octets (String.ofList cs)).head? = some (UInt8.ofNat d.toNat) ↔ cs.head? = some d := by
  rw [octets_ofList]
  cases cs with
  | nil => simp
  | cons c rest =>
      have octet : (UInt8.ofNat d.toNat).toNat = d.toNat := by
        rw [UInt8.toNat_ofNat', Nat.mod_eq_of_lt (by omega)]
      obtain ⟨first, others, parts⟩ :=
        List.exists_cons_of_ne_nil (String.utf8EncodeChar_ne_nil (c := c))
      rw [List.flatMap_cons, parts, List.cons_append, List.head?_cons, List.head?_cons,
        Option.some_inj, Option.some_inj]
      rcases Nat.lt_or_ge c.toNat 0x80 with small | large
      · rw [utf8EncodeChar_of_ascii small] at parts
        cases parts
        rw [← UInt8.toNat_inj, octet, UInt8.toNat_ofNat', Nat.mod_eq_of_lt (by omega),
          Char.toNat_inj]
      · have high := le_of_mem_utf8EncodeChar large first (parts ▸ List.mem_cons_self)
        rw [UInt8.le_iff_toNat_le] at high
        constructor
        · rintro rfl
          exact absurd (octet ▸ high) (Nat.not_le.mpr ascii)
        · rintro rfl
          exact absurd large (Nat.not_le.mpr ascii)

theorem cutAt?_one {c : Char} (ascii : c.toNat < 0x80) (rest : List Char) :
    cutAt? (String.ofList (c :: rest)) 1 = some (String.ofList [c], String.ofList rest) := by
  have size : (String.ofList [c]).utf8ByteSize = 1 := by
    rw [← length_octets, octets_ofList, List.flatMap_singleton, utf8EncodeChar_of_ascii ascii,
      List.length_singleton]
  have cut := cutAt?_append (String.ofList [c]) (String.ofList rest)
  rwa [size, ← String.ofList_append, List.singleton_append] at cut

/-- A class of octets that tells the characters of a class from all others. -/
structure Tells (octet : UInt8 → Bool) (char : Char → Bool) : Prop where
  inside : ∀ c, char c → ∀ part ∈ String.utf8EncodeChar c, octet part
  outside : ∀ c, ¬ char c → ∀ part ∈ (String.utf8EncodeChar c).head?, ¬ octet part

theorem tells_of_ascii {octet : UInt8 → Bool} {char : Char → Bool} (others : Bool)
    (ascii : ∀ c : Char, c.toNat < 0x80 → octet (UInt8.ofNat c.toNat) = char c)
    (high : ∀ part, 0x80 ≤ part → octet part = others)
    (beyond : ∀ c : Char, 0x80 ≤ c.toNat → char c = others) : Tells octet char where
  inside c member part inside := by
    rcases Nat.lt_or_ge c.toNat 0x80 with small | large
    · rw [utf8EncodeChar_of_ascii small, List.mem_singleton] at inside
      rw [inside, ascii c small, member]
    · rw [high part (le_of_mem_utf8EncodeChar large part inside), ← beyond c large, member]
  outside c foreign part first := by
    rcases Nat.lt_or_ge c.toNat 0x80 with small | large
    · rw [utf8EncodeChar_of_ascii small] at first
      cases first
      rwa [ascii c small]
    · have inside := List.mem_of_mem_head? first
      rwa [high part (le_of_mem_utf8EncodeChar large part inside), ← beyond c large]

namespace Tells

variable {octet : UInt8 → Bool} {char : Char → Bool}

theorem takeWhile_octets (tells : Tells octet char) (cs : List Char) :
    (octets (String.ofList cs)).takeWhile octet =
      octets (String.ofList (cs.takeWhile char)) := by
  rw [octets_ofList, octets_ofList]
  induction cs with
  | nil => rfl
  | cons c rest ih =>
      rw [List.flatMap_cons]
      by_cases member : char c
      · rw [List.takeWhile_append_of_pos (tells.inside c member), ih,
          List.takeWhile_cons_of_pos member, List.flatMap_cons]
      · rw [List.takeWhile_cons_of_neg member, List.flatMap_nil]
        obtain ⟨part, others, parts⟩ :=
          List.exists_cons_of_ne_nil (String.utf8EncodeChar_ne_nil (c := c))
        have foreign := tells.outside c member part (by rw [parts]; rfl)
        rw [parts, List.cons_append, List.takeWhile_cons_of_neg foreign]

theorem run_ofList (tells : Tells octet char) (cs : List Char) :
    run octet (String.ofList cs) = (String.ofList (cs.takeWhile char)).utf8ByteSize := by
  rw [run, tells.takeWhile_octets, length_octets]

theorem isValid_run (tells : Tells octet char) (text : String) :
    String.Pos.Raw.IsValid text ⟨run octet text⟩ := by
  obtain ⟨cs, rfl⟩ : ∃ cs, text = String.ofList cs := ⟨text.toList, String.ofList_toList.symm⟩
  have boundary := isValid_of_append (String.ofList (cs.takeWhile char))
    (String.ofList (cs.dropWhile char))
  rwa [← String.ofList_append, List.takeWhile_append_dropWhile, ← tells.run_ofList] at boundary

/-- A run of octets ends where the run of characters ends. -/
theorem cutAt?_run (tells : Tells octet char) (cs : List Char) :
    cutAt? (String.ofList cs) (run octet (String.ofList cs)) =
      some (String.ofList (cs.takeWhile char), String.ofList (cs.dropWhile char)) := by
  have parts : String.ofList cs =
      String.ofList (cs.takeWhile char) ++ String.ofList (cs.dropWhile char) := by
    rw [← String.ofList_append, List.takeWhile_append_dropWhile]
  rw [tells.run_ofList]
  conv => lhs; rw [parts]
  exact cutAt?_append _ _

end Tells

end FederationConfig.Text
