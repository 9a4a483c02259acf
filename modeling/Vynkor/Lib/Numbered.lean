import Mathlib.Data.List.Basic

/-! Names that end in a dash and a decimal number. The number has no dash in it, so the last
dash tells where the name ends, whatever the name is. -/

namespace Vynkor.Lib

def numbered (name : String) (number : Nat) : String := name ++ "-" ++ toString number

/-- The last separator of a list is in one place. -/
theorem last_separator_unique {α : Type*} {separator : α} {early late first second : List α}
    (same : early ++ separator :: first = late ++ separator :: second) (inFirst : separator ∉ first)
    (inSecond : separator ∉ second) : early = late ∧ first = second := by
  induction early generalizing late with
  | nil =>
    cases late with
    | nil => exact ⟨rfl, (List.cons.inj same).2⟩
    | cons head rest =>
      have tail : first = rest ++ separator :: second := (List.cons.inj same).2
      exact absurd (tail ▸ List.mem_append_right rest List.mem_cons_self) inFirst
  | cons head rest ih =>
    cases late with
    | nil =>
      have tail : rest ++ separator :: first = second := (List.cons.inj same).2
      exact absurd (tail ▸ List.mem_append_right rest List.mem_cons_self) inSecond
    | cons other more =>
      obtain ⟨here, there⟩ := List.cons.inj same
      obtain ⟨names, numbers⟩ := ih there
      exact ⟨congrArg₂ List.cons here names, numbers⟩

theorem dash_not_mem_toString (number : Nat) : '-' ∉ (toString number).toList := by
  intro member
  rw [Nat.toString_eq_repr, Nat.toList_repr] at member
  have digit := Nat.isDigit_of_mem_toDigits (by decide) (by decide) member
  cases digit

theorem toString_inj {number count : Nat} (same : (toString number).toList = (toString count).toList) : number = count := by
  rw [Nat.toString_eq_repr, Nat.toString_eq_repr, Nat.toList_repr, Nat.toList_repr] at same
  have values := congrArg (fun digits => Nat.ofDigitChars 10 digits 0) same
  simpa using values

theorem toList_numbered (name : String) (number : Nat) :
    (numbered name number).toList = name.toList ++ '-' :: (toString number).toList := by
  unfold numbered
  rw [String.toList_append, String.toList_append, List.append_assoc]
  rfl

theorem numbered_inj {name other : String} {number count : Nat} :
    numbered name number = numbered other count ↔ name = other ∧ number = count := by
  constructor
  · intro same
    have chars := congrArg String.toList same
    rw [toList_numbered, toList_numbered] at chars
    obtain ⟨names, numbers⟩ :=
      last_separator_unique chars (dash_not_mem_toString number) (dash_not_mem_toString count)
    exact ⟨String.toList_inj.mp names, toString_inj numbers⟩
  · rintro ⟨rfl, rfl⟩
    rfl

theorem append_numbered_inj {lead name other : String} {number count : Nat} :
    lead ++ numbered name number = lead ++ numbered other count ↔ name = other ∧ number = count := by
  rw [String.append_right_inj, numbered_inj]

end Vynkor.Lib
