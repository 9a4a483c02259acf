import Mathlib.Data.List.TakeWhile

/-! Text in a field of fixed width: UTF-8, cut at the width and filled up with NULs,
and read back up to the first NUL. -/

namespace Vynkor.Lib.TextField

def nul : Char := Char.ofNat 0

def encoded (text : String) : List UInt8 := text.toList.flatMap String.utf8EncodeChar

def fill (width : Nat) (text : String) : List UInt8 := ((encoded text).take width).rightpad width 0

/-- The text before the first NUL, if it is UTF-8. -/
def untilNul (bytes : List UInt8) : Option String := String.fromUTF8? (bytes.takeWhile (· != 0)).toByteArray

theorem toByteArray_eq (text : String) : text.toByteArray = (encoded text).toByteArray := by
  rw [← String.utf8Encode_toList]
  rfl

theorem length_encoded (text : String) : (encoded text).length = text.utf8ByteSize := by
  rw [← List.size_toByteArray, ← toByteArray_eq]
  rfl

theorem fromUTF8?_eq_some {bytes : ByteArray} {text : String} :
    String.fromUTF8? bytes = some text ↔ text.toByteArray = bytes := by
  unfold String.fromUTF8?
  constructor
  · intro read
    split at read
    · cases read
      rfl
    · cases read
  · rintro rfl
    rw [dif_pos text.isValidUTF8]
    rfl

theorem ofNat_inj {first second : Nat} (small : first < 256) (smaller : second < 256) :
    UInt8.ofNat first = UInt8.ofNat second ↔ first = second := by
  rw [← UInt8.toNat_inj, UInt8.toNat_ofNat_of_lt' small, UInt8.toNat_ofNat_of_lt' smaller]

/-- Only the character itself is written with its byte, if the byte is ASCII. -/
theorem ofNat_mem_utf8EncodeChar {code : Nat} (ascii : code < 128) {char : Char} :
    UInt8.ofNat code ∈ String.utf8EncodeChar char ↔ char = Char.ofNat code := by
  have same : char = Char.ofNat code ↔ char.val.toNat = code := by
    rw [Char.ext_iff, ← UInt32.toNat_inj]
    have valid : (Char.ofNat code).toNat = code := by
      rw [Char.ofNat, dif_pos (Or.inl (by omega))]
      rfl
    change _ = (Char.ofNat code).toNat ↔ _
    rw [valid]
  rw [same, String.utf8EncodeChar]
  -- every byte of a longer encoding has its top bit set
  split
  next short => rw [List.mem_singleton, ofNat_inj (by omega) (by omega), eq_comm]
  next =>
    have long : ∀ value, 128 ≤ value → value < 256 → UInt8.ofNat code ≠ UInt8.ofNat value := fun value large small equal => by
      rw [ofNat_inj (by omega) small] at equal
      omega
    constructor
    · intro member
      split at member
      · simp only [List.mem_cons, List.not_mem_nil, or_false] at member
        rcases member with equal | equal <;> exact absurd equal (long _ (by omega) (by omega))
      · split at member
        · simp only [List.mem_cons, List.not_mem_nil, or_false] at member
          rcases member with equal | equal | equal <;> exact absurd equal (long _ (by omega) (by omega))
        · simp only [List.mem_cons, List.not_mem_nil, or_false] at member
          rcases member with equal | equal | equal | equal <;> exact absurd equal (long _ (by omega) (by omega))
    · intro equal
      omega

theorem ofNat_mem_encoded {code : Nat} (ascii : code < 128) {text : String} :
    UInt8.ofNat code ∈ encoded text ↔ Char.ofNat code ∈ text.toList := by
  unfold encoded
  rw [List.mem_flatMap]
  constructor
  · rintro ⟨char, member, byte⟩
    rw [← (ofNat_mem_utf8EncodeChar ascii).mp byte]
    exact member
  · intro member
    exact ⟨Char.ofNat code, member, (ofNat_mem_utf8EncodeChar ascii).mpr rfl⟩

theorem takeWhile_rightpad {width : Nat} {bytes : List UInt8} :
    ((bytes.take width).rightpad width 0).takeWhile (· != 0) = bytes ↔ bytes.length ≤ width ∧ 0 ∉ bytes := by
  constructor
  · intro same
    constructor
    · have shorter := (List.takeWhile_prefix (p := (· != 0)) (l := (bytes.take width).rightpad width 0)).length_le
      rw [same] at shorter
      simp at shorter
      omega
    · intro member
      rw [← same] at member
      have passes := List.mem_takeWhile_imp member
      simp at passes
  · rintro ⟨fits, nonzero⟩
    rw [List.take_of_length_le fits, List.rightpad, List.takeWhile_append_of_pos]
    · simp
    · intro byte member
      exact bne_iff_ne.mpr fun zero => nonzero (zero ▸ member)

/-- A text comes back from its field exactly when it fits and has no NUL. -/
theorem untilNul_fill {width : Nat} {text : String} :
    untilNul (fill width text) = some text ↔ text.utf8ByteSize ≤ width ∧ nul ∉ text.toList := by
  unfold untilNul fill
  have zero : (0 : UInt8) ∈ encoded text ↔ nul ∈ text.toList := @ofNat_mem_encoded 0 (by decide) text
  rw [fromUTF8?_eq_some, toByteArray_eq, List.toByteArray_inj, ← length_encoded, ← zero, ← takeWhile_rightpad]
  exact eq_comm

end Vynkor.Lib.TextField
