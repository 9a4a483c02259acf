import Vynkor.Lib.TextField

/-! Reading bytes as UTF-8, with the replacement character for what is not. Bytes that are
UTF-8 are read as the text they encode. Unix paths are such bytes, joined with slashes and
shown as text. -/

namespace Vynkor.Lib.Utf8
open TextField

def replacement : Char := Char.ofNat 65533

/-- A character of which some bytes have been read: its value so far, how many bytes are missing,
and what the next one may be. -/
structure Pending where
  value : Nat
  missing : Nat
  low : Nat := 128
  high : Nat := 191

/-- What a first byte gives. Bounds keep out overlong forms, surrogates and what is beyond the last
character. -/
def lead (byte : Nat) : Char ⊕ Pending :=
  if byte < 128 then .inl (Char.ofNat byte)
  else if byte < 194 then .inl replacement
  else if byte < 224 then .inr { value := byte - 192, missing := 1 }
  else if byte < 240 then
    .inr { value := byte - 224, missing := 2, low := if byte = 224 then 160 else 128, high := if byte = 237 then 159 else 191 }
  else if byte < 245 then
    .inr { value := byte - 240, missing := 3, low := if byte = 240 then 144 else 128, high := if byte = 244 then 143 else 191 }
  else .inl replacement

/-- A character that breaks off is replaced, and reading goes on at the byte that does not belong
to it. -/
def decode : Option Pending → List UInt8 → List Char
  | none, [] => []
  | some _, [] => [replacement]
  | none, byte :: rest =>
    match lead byte.toNat with
    | .inl char => char :: decode none rest
    | .inr pending => decode (some pending) rest
  | some pending, byte :: rest =>
    if pending.low ≤ byte.toNat ∧ byte.toNat ≤ pending.high then
      let value := pending.value * 64 + byte.toNat % 64
      if pending.missing = 1 then Char.ofNat value :: decode none rest
      else decode (some { value, missing := pending.missing - 1 }) rest
    else
      replacement ::
        match lead byte.toNat with
        | .inl char => char :: decode none rest
        | .inr pending => decode (some pending) rest

def lossy (bytes : List UInt8) : List Char := decode none bytes

section Steps
variable {byte value missing low high : Nat} {rest : List UInt8}

theorem decode_char {char : Char} (small : byte < 256) (leads : lead byte = .inl char) :
    decode none (UInt8.ofNat byte :: rest) = char :: decode none rest := by
  rw [decode, UInt8.toNat_ofNat_of_lt' small, leads]

theorem decode_lead {pending : Pending} (small : byte < 256) (leads : lead byte = .inr pending) :
    decode none (UInt8.ofNat byte :: rest) = decode (some pending) rest := by
  rw [decode, UInt8.toNat_ofNat_of_lt' small, leads]

theorem decode_continue (inside : low ≤ byte ∧ byte ≤ high) (small : byte < 256) (more : missing ≠ 1) :
    decode (some ⟨value, missing, low, high⟩) (UInt8.ofNat byte :: rest) =
      decode (some ⟨value * 64 + byte % 64, missing - 1, 128, 191⟩) rest := by
  rw [decode, UInt8.toNat_ofNat_of_lt' small, if_pos inside, if_neg more]

theorem decode_last (inside : low ≤ byte ∧ byte ≤ high) (small : byte < 256) :
    decode (some ⟨value, 1, low, high⟩) (UInt8.ofNat byte :: rest) =
      Char.ofNat (value * 64 + byte % 64) :: decode none rest := by
  rw [decode, UInt8.toNat_ofNat_of_lt' small, if_pos inside, if_pos rfl]

theorem lead_one (ascii : byte < 128) : lead byte = .inl (Char.ofNat byte) := by
  rw [lead, if_pos ascii]

theorem lead_two (low : 194 ≤ byte) (high : byte < 224) : lead byte = .inr ⟨byte - 192, 1, 128, 191⟩ := by
  rw [lead, if_neg (by omega), if_neg (by omega), if_pos high]

theorem lead_three (low : 224 ≤ byte) (high : byte < 240) : lead byte =
    .inr ⟨byte - 224, 2, if byte = 224 then 160 else 128, if byte = 237 then 159 else 191⟩ := by
  rw [lead, if_neg (by omega), if_neg (by omega), if_neg (by omega), if_pos high]

theorem lead_four (low : 240 ≤ byte) (high : byte < 245) : lead byte =
    .inr ⟨byte - 240, 3, if byte = 240 then 144 else 128, if byte = 244 then 143 else 191⟩ := by
  rw [lead, if_neg (by omega), if_neg (by omega), if_neg (by omega), if_neg (by omega), if_pos high]

end Steps

theorem decode_encodeChar (char : Char) (rest : List UInt8) :
    decode none (String.utf8EncodeChar char ++ rest) = char :: decode none rest := by
  have same : ∀ value, value = char.val.toNat → Char.ofNat value = char := by
    rintro _ rfl
    exact Char.ofNat_toNat char
  have valid : char.val.toNat < 55296 ∨ 57343 < char.val.toNat ∧ char.val.toNat < 1114112 := char.valid
  unfold String.utf8EncodeChar
  generalize char.val.toNat = value at *
  dsimp only
  split
  · rw [List.singleton_append, decode_char (by omega) (lead_one (by omega)), same _ rfl]
  split
  · rw [List.cons_append, List.singleton_append, decode_lead (by omega) (lead_two (by omega) (by omega)),
      decode_last (by omega) (by omega), same _ (by omega)]
  split
  · rw [List.cons_append, List.cons_append, List.singleton_append,
      decode_lead (by omega) (lead_three (by omega) (by omega)),
      decode_continue (by split <;> split <;> omega) (by omega) (by decide),
      decode_last (by omega) (by omega), same _ (by omega)]
  · rw [List.cons_append, List.cons_append, List.cons_append, List.singleton_append,
      decode_lead (by omega) (lead_four (by omega) (by omega)),
      decode_continue (by split <;> split <;> omega) (by omega) (by decide),
      decode_continue (by omega) (by omega) (by decide),
      decode_last (by omega) (by omega), same _ (by omega)]

/-- A text is read back from its bytes. -/
theorem lossy_encoded (text : String) : lossy (encoded text) = text.toList := by
  unfold lossy encoded
  induction text.toList with
  | nil => rfl
  | cons char chars ih => rw [List.flatMap_cons, decode_encodeChar, ih]

end Vynkor.Lib.Utf8

namespace Vynkor.Lib.Paths

def slash : UInt8 := 47

def dot : UInt8 := 46

/-- An absolute path stays as it is. -/
def join (base name : List UInt8) : List UInt8 :=
  if name.head? = some slash then name
  else if base.isEmpty || base.getLast? == some slash then base ++ name
  else base ++ slash :: name

/-- What follows the last dot of a file name, unless the name begins with it. -/
def extension (name : List UInt8) : Option (List UInt8) :=
  if name = [dot, dot] then none
  else
    match name.reverse.dropWhile (· != dot) with
    | [] | [_] => none
    | _ :: _ :: _ => some (name.reverse.takeWhile (· != dot)).reverse

/-- Bytes that are not UTF-8 are shown as replacement characters. -/
def display (path : List UInt8) : String := String.ofList (Utf8.lossy path)

theorem display_encoded (text : String) : display (TextField.encoded text) = text := by
  unfold display
  rw [Utf8.lossy_encoded, String.ofList_toList]

end Vynkor.Lib.Paths
