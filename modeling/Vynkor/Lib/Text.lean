import Mathlib.Data.List.TakeWhile

/-! Splitting strings at a separator and comparing ASCII spellings, on the
characters of the string, and what a check that may fail has seen if it passes. -/

namespace Vynkor.Lib.Text

def contains (text : String) (char : Char) : Bool := text.toList.contains char

/-- The two sides of the first `separator`, if there is one. -/
def splitOnce (text : String) (separator : Char) : Option (String × String) :=
  match text.toList.dropWhile (· != separator) with
  | [] => none
  | _ :: rest => some (String.ofList (text.toList.takeWhile (· != separator)), String.ofList rest)

/-- The two sides of the first occurrence of a longer separator. -/
def splitOnText (separator : List Char) (text : List Char) : Option (List Char × List Char) :=
  if separator.isPrefixOf text then some ([], text.drop separator.length)
  else
    match text with
    | [] => none
    | char :: rest => (splitOnText separator rest).map fun parts => (char :: parts.1, parts.2)

def splitOnceText (text separator : String) : Option (String × String) :=
  (splitOnText separator.toList text.toList).map fun parts => (String.ofList parts.1, String.ofList parts.2)

def startsWith (text lead : String) : Bool := lead.toList.isPrefixOf text.toList

def stripPrefix (text lead : String) : Option String :=
  if startsWith text lead then some (String.ofList (text.toList.drop lead.toList.length)) else none

/-- Unicode's white space. -/
def isWhitespace (char : Char) : Bool :=
  let code := char.toNat
  (9 ≤ code && code ≤ 13) || code == 32 || code == 133 || code == 160 || code == 5760 ||
    (8192 ≤ code && code ≤ 8202) || code == 8232 || code == 8233 || code == 8239 || code == 8287 || code == 12288

def trim (text : String) : String :=
  String.ofList ((text.toList.dropWhile isWhitespace).reverse.dropWhile isWhitespace).reverse

def containsText (text part : String) : Bool := (splitOnText part.toList text.toList).isSome

def toAsciiLowercase (text : String) : String := String.ofList (text.toList.map Char.toLower)

def toAsciiUppercase (text : String) : String := String.ofList (text.toList.map Char.toUpper)

section Split
variable {text head tail : String} {separator : Char}

/-- The parts make up the text, and the separator is not in the first. -/
theorem splitOnce_some (split : splitOnce text separator = some (head, tail)) :
    text.toList = head.toList ++ separator :: tail.toList ∧ separator ∉ head.toList := by
  unfold splitOnce at split
  have whole := List.takeWhile_append_dropWhile (p := (· != separator)) (l := text.toList)
  cases rest : text.toList.dropWhile (· != separator) with
  | nil =>
    rw [rest] at split
    cases split
  | cons first after =>
    rw [rest] at split whole
    cases split
    have first_eq : first = separator := by
      have fails := List.head?_dropWhile_not (· != separator) text.toList
      rw [rest] at fails
      simpa using fails
    subst first_eq
    rw [String.toList_ofList, String.toList_ofList]
    refine ⟨whole.symm, fun member => ?_⟩
    have passes := List.mem_takeWhile_imp member
    simp at passes

/-- The part without the sign ends where the sign comes first. -/
theorem span_append {sign : Char} {lead rest : List Char} (absent : sign ∉ lead) (starts : ∀ char ∈ rest.head?, char = sign) :
    (lead ++ rest).takeWhile (· != sign) = lead ∧ (lead ++ rest).dropWhile (· != sign) = rest := by
  have inside : ∀ char ∈ lead, (char != sign) = true := by
    intro char member
    exact bne_iff_ne.mpr fun same => absent (same ▸ member)
  rw [List.takeWhile_append_of_pos inside, List.dropWhile_append_of_pos inside]
  cases rest with
  | nil => exact ⟨List.append_nil lead, rfl⟩
  | cons first rest =>
    cases starts first rfl
    rw [List.takeWhile_cons, List.dropWhile_cons, bne_self_eq_false]
    exact ⟨List.append_nil lead, rfl⟩

theorem splitOnText_append {first : Char} {separator lead rest : List Char} (absent : first ∉ lead) :
    splitOnText (first :: separator) (lead ++ (first :: separator) ++ rest) = some (lead, rest) := by
  induction lead with
  | nil =>
    unfold splitOnText
    rw [List.nil_append, if_pos (List.isPrefixOf_iff_prefix.mpr (List.prefix_append ..)), List.drop_left]
  | cons char lead ih =>
    have other : first ≠ char := fun same => absent (same ▸ List.mem_cons_self)
    have later : ¬(first :: separator).isPrefixOf (char :: (lead ++ (first :: separator) ++ rest)) = true := by
      intro front
      apply other
      exact (List.cons_prefix_cons.mp (List.isPrefixOf_iff_prefix.mp front)).1
    have found := ih fun member => absent (List.mem_cons_of_mem _ member)
    rw [List.cons_append, List.cons_append, splitOnText, if_neg later, found]
    rfl

/-- A lead without the first character of the separator comes out whole. -/
theorem splitOnceText_append {first : Char} {separator lead rest : String} {after : List Char}
    (starts : separator.toList = first :: after) (absent : first ∉ lead.toList) :
    splitOnceText (lead ++ separator ++ rest) separator = some (lead, rest) := by
  unfold splitOnceText
  rw [String.toList_append, String.toList_append, starts, splitOnText_append absent, Option.map_some,
    String.ofList_toList, String.ofList_toList]

theorem containsText_append {first : Char} {part lead rest : String} {after : List Char}
    (starts : part.toList = first :: after) (absent : first ∉ lead.toList) : containsText (lead ++ part ++ rest) part = true := by
  unfold containsText
  rw [String.toList_append, String.toList_append, starts, splitOnText_append absent]
  rfl

theorem splitOnText_some {separator text lead rest : List Char} (split : splitOnText separator text = some (lead, rest)) :
    text = lead ++ separator ++ rest := by
  induction text generalizing lead with
  | nil =>
    unfold splitOnText at split
    split at split
    next front =>
      cases split
      rw [List.prefix_nil.mp (List.isPrefixOf_iff_prefix.mp front)]
      rfl
    · cases split
  | cons char text ih =>
    unfold splitOnText at split
    split at split
    next front =>
      cases split
      obtain ⟨after, whole⟩ := List.isPrefixOf_iff_prefix.mp front
      rw [← whole, List.drop_left]
      rfl
    · obtain ⟨parts, found, same⟩ := Option.map_eq_some_iff.mp split
      cases same
      rw [@ih parts.1 found]
      rfl

theorem containsText_eq_false {text part : String} {char : Char} (needed : char ∈ part.toList)
    (absent : char ∉ text.toList) : containsText text part = false := by
  unfold containsText
  cases split : splitOnText part.toList text.toList with
  | none => rfl
  | some parts =>
    rw [splitOnText_some split] at absent
    exact absurd (List.mem_append_left _ (List.mem_append_right _ needed)) absent

end Split

section Pieces
variable {α : Type*} [BEq α] [LawfulBEq α] {separator : α} {text piece : List α} {pieces : List (List α)}

theorem not_mem_of_mem_splitOn (member : piece ∈ text.splitOn separator) : separator ∉ piece := by
  unfold List.splitOn at member
  induction text generalizing piece with
  | nil =>
    rw [List.splitOnP_nil, List.mem_singleton] at member
    subst member
    exact List.not_mem_nil
  | cons first rest ih =>
    rw [List.splitOnP_cons_eq_if_modifyHead] at member
    cases same : first == separator with
    | true =>
      rw [same, if_pos rfl] at member
      rcases List.mem_cons.mp member with rfl | later
      · exact List.not_mem_nil
      · exact ih later
    | false =>
      rw [same, if_neg Bool.false_ne_true] at member
      cases split : List.splitOnP (· == separator) rest with
      | nil =>
        rw [split] at member
        cases member
      | cons head tail =>
        rw [split] at member ih
        rcases List.mem_cons.mp member with rfl | later
        · have other : separator ≠ first := fun equal => (beq_eq_false_iff_ne.mp same) equal.symm
          exact List.not_mem_cons_of_ne_of_not_mem other (ih List.mem_cons_self)
        · exact ih (List.mem_cons_of_mem head later)

/-- A text falls into the pieces it is joined from, and no others. -/
theorem splitOn_eq_iff (nonempty : pieces ≠ []) :
    text.splitOn separator = pieces ↔ text = [separator].intercalate pieces ∧ ∀ piece ∈ pieces, separator ∉ piece := by
  constructor
  · rintro rfl
    exact ⟨(List.intercalate_splitOn separator).symm, fun piece => not_mem_of_mem_splitOn⟩
  · rintro ⟨rfl, absent⟩
    exact List.splitOn_intercalate separator absent nonempty

theorem splitOn_eq_pair {first second : List α} :
    text.splitOn separator = [first, second] ↔
      text = first ++ separator :: second ∧ separator ∉ first ∧ separator ∉ second := by
  rw [splitOn_eq_iff (List.cons_ne_nil _ _)]
  simp [List.intercalate]

theorem splitOn_eq_triple {first second third : List α} :
    text.splitOn separator = [first, second, third] ↔
      text = first ++ separator :: (second ++ separator :: third) ∧
        separator ∉ first ∧ separator ∉ second ∧ separator ∉ third := by
  rw [splitOn_eq_iff (List.cons_ne_nil _ _)]
  simp [List.intercalate]

end Pieces

theorem startsWith_append (lead rest : String) : startsWith (lead ++ rest) lead = true := by
  unfold startsWith
  rw [String.toList_append]
  exact List.isPrefixOf_iff_prefix.mpr (List.prefix_append ..)

theorem startsWith_iff {text lead : String} : startsWith text lead = true ↔ ∃ rest, text = lead ++ rest := by
  constructor
  · intro starts
    obtain ⟨rest, whole⟩ := List.isPrefixOf_iff_prefix.mp starts
    refine ⟨String.ofList rest, String.toList_injective ?_⟩
    rw [String.toList_append, String.toList_ofList, whole]
  · rintro ⟨rest, rfl⟩
    exact startsWith_append lead rest

theorem stripPrefix_append (lead rest : String) : stripPrefix (lead ++ rest) lead = some rest := by
  unfold stripPrefix
  rw [if_pos (startsWith_append lead rest), String.toList_append, List.drop_left, String.ofList_toList]

theorem solid_of_all {text : String} (all : text.toList.all (!isWhitespace ·) = true) :
    ∀ char ∈ text.toList, isWhitespace char = false := by
  intro char member
  exact (Bool.not_eq_true' _).mp (List.all_eq_true.mp all char member)

theorem trim_eq_self {text : String} (solid : ∀ char ∈ text.toList, isWhitespace char = false) : trim text = text := by
  have front : text.toList.dropWhile isWhitespace = text.toList := by
    apply List.dropWhile_eq_self_iff.mpr
    intro inside
    rw [solid _ (List.getElem_mem _)]
    exact Bool.false_ne_true
  have back : text.toList.reverse.dropWhile isWhitespace = text.toList.reverse := by
    apply List.dropWhile_eq_self_iff.mpr
    intro inside
    rw [solid _ (List.mem_reverse.mp (List.getElem_mem _))]
    exact Bool.false_ne_true
  unfold trim
  rw [front, back, List.reverse_reverse, String.ofList_toList]

theorem uppercase_append (first second : String) :
    toAsciiUppercase (first ++ second) = toAsciiUppercase first ++ toAsciiUppercase second := by
  simp [toAsciiUppercase]

end Vynkor.Lib.Text

namespace Vynkor.Lib

variable {ε α β : Type}

theorem bind_eq_ok {first : Except ε α} {next : α → Except ε β} {value : β} :
    (first >>= next) = .ok value ↔ ∃ middle, first = .ok middle ∧ next middle = .ok value := by
  cases first with
  | error reason =>
    constructor
    · intro failed
      cases failed
    · rintro ⟨middle, failed, _⟩
      cases failed
  | ok middle =>
    constructor
    · intro passed
      exact ⟨middle, rfl, passed⟩
    · rintro ⟨other, same, passed⟩
      cases same
      exact passed

theorem then_eq_ok {first : Except ε Unit} {rest : Except ε β} {value : β} :
    (do first; rest) = .ok value ↔ first = .ok () ∧ rest = .ok value := by
  constructor
  · intro passed
    obtain ⟨_, done, later⟩ := bind_eq_ok.mp passed
    exact ⟨done, later⟩
  · rintro ⟨done, later⟩
    exact bind_eq_ok.mpr ⟨(), done, later⟩

theorem guard_eq_ok {failed : Bool} {reason : ε} {rest : Except ε β} {value : β} :
    (if failed then .error reason else rest) = .ok value ↔ failed = false ∧ rest = .ok value := by
  cases failed with
  | true => exact ⟨fun passed => (by cases passed), fun passed => (by cases passed.1)⟩
  | false => exact ⟨fun passed => ⟨rfl, passed⟩, fun passed => passed.2⟩

theorem mapError_eq_ok {δ : Type} {result : Except ε α} {describe : ε → δ} {value : α} :
    result.mapError describe = .ok value ↔ result = .ok value := by
  cases result with
  | error reason => exact ⟨fun passed => (by cases passed), fun passed => (by cases passed)⟩
  | ok other => exact ⟨fun passed => congrArg _ (Except.ok.inj passed), fun passed => congrArg _ (Except.ok.inj passed)⟩

end Vynkor.Lib
