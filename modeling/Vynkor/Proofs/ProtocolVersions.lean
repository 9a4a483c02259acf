import Mathlib.Data.Prod.Lex
import Vynkor.Router.State

/-! The versions of the protocol that a plugin may declare: which texts are versions, and
which of these the kernel accepts. -/

namespace Vynkor
open Lib

/-- A run of decimal digits that names a number of 32 bits. -/
structure VersionNumber (digits : List Char) (value : Nat) : Prop where
  nonempty : digits ≠ []
  digit : ∀ char ∈ digits, '0' ≤ char ∧ char ≤ '9'
  value_eq : value = Nat.ofDigitChars 10 digits 0
  small : value < UInt32.size

/-- The text of a version: two numbers, and perhaps a third that does not matter. -/
inductive VersionText : String → Nat × Nat → Prop
  | short {first second : List Char} {major minor : Nat} (majorNumber : VersionNumber first major)
      (minorNumber : VersionNumber second minor) : VersionText (String.ofList (first ++ '.' :: second)) (major, minor)
  | patched {first second third : List Char} {major minor patch : Nat} (majorNumber : VersionNumber first major)
      (minorNumber : VersionNumber second minor) (patchNumber : VersionNumber third patch) :
      VersionText (String.ofList (first ++ '.' :: (second ++ '.' :: third))) (major, minor)

private theorem VersionNumber.dot_not_mem {digits : List Char} {value : Nat} (number : VersionNumber digits value) :
    '.' ∉ digits := by
  intro member
  exact absurd (number.digit _ member).1 (by decide)

private theorem versionComponent_eq_some {digits : List Char} {value : Nat} :
    versionComponent digits = some value ↔ VersionNumber digits value := by
  have sums : digits.foldl (fun value digit => value * 10 + (digit.toNat - '0'.toNat)) 0 = Nat.ofDigitChars 10 digits 0 := by
    unfold Nat.ofDigitChars
    simp only [Nat.mul_comm]
  have digit : digits.all Char.isDigit = true ↔ ∀ char ∈ digits, '0' ≤ char ∧ char ≤ '9' := by
    simp only [List.all_eq_true, Char.isDigit, Bool.and_eq_true, decide_eq_true_eq]
    rfl
  unfold versionComponent
  dsimp only
  rw [sums]
  constructor
  · intro parsed
    split at parsed
    · cases parsed
    next passes =>
      simp only [Bool.or_eq_true, Bool.not_eq_true', not_or, Bool.not_eq_false] at passes
      split at parsed
      next small =>
        cases parsed
        exact ⟨fun empty => passes.1 (List.isEmpty_iff.mpr empty), digit.mp passes.2, rfl, small⟩
      · cases parsed
  · rintro ⟨nonempty, every, rfl, small⟩
    rw [if_neg, if_pos small]
    rw [digit.mpr every, Bool.not_true, Bool.or_false, List.isEmpty_iff]
    exact nonempty

private theorem versionText_of_parse {text : String} {version : Nat × Nat} (parsed : parseProtocolVersion text = some version) :
    VersionText text version := by
  unfold parseProtocolVersion at parsed
  split at parsed
  next major minor pieces =>
    split at parsed
    next first second isFirst isSecond =>
      cases parsed
      rw [← String.ofList_toList (s := text), (Text.splitOn_eq_pair.mp pieces).1]
      exact .short (versionComponent_eq_some.mp isFirst) (versionComponent_eq_some.mp isSecond)
    · cases parsed
  next major minor patch pieces =>
    split at parsed
    next first second third isFirst isSecond isThird =>
      cases parsed
      rw [← String.ofList_toList (s := text), (Text.splitOn_eq_triple.mp pieces).1]
      exact .patched (versionComponent_eq_some.mp isFirst) (versionComponent_eq_some.mp isSecond)
        (versionComponent_eq_some.mp isThird)
    · cases parsed
  · cases parsed

private theorem parseProtocolVersion_eq_some {text : String} {version : Nat × Nat} :
    parseProtocolVersion text = some version ↔ VersionText text version := by
  refine ⟨versionText_of_parse, ?_⟩
  intro version
  unfold parseProtocolVersion
  cases version with
  | @short first second major minor majorNumber minorNumber =>
    have pieces := Text.splitOn_eq_pair.mpr ⟨rfl, majorNumber.dot_not_mem, minorNumber.dot_not_mem⟩
    rw [String.toList_ofList, pieces]
    dsimp only
    rw [versionComponent_eq_some.mpr majorNumber, versionComponent_eq_some.mpr minorNumber]
  | @patched first second third major minor patch majorNumber minorNumber patchNumber =>
    have pieces := Text.splitOn_eq_triple.mpr
      ⟨rfl, majorNumber.dot_not_mem, minorNumber.dot_not_mem, patchNumber.dot_not_mem⟩
    rw [String.toList_ofList, pieces]
    dsimp only
    rw [versionComponent_eq_some.mpr majorNumber, versionComponent_eq_some.mpr minorNumber,
      versionComponent_eq_some.mpr patchNumber]

private theorem VersionText.exists_iff {version : String} {got : Nat × Nat} (text : VersionText version got)
    {property : Nat × Nat → Prop} : (∃ other, VersionText version other ∧ property other) ↔ property got := by
  constructor
  · rintro ⟨other, otherText, holds⟩
    have same := (parseProtocolVersion_eq_some.mpr otherText).symm.trans (parseProtocolVersion_eq_some.mpr text)
    cases same
    exact holds
  · intro holds
    exact ⟨got, text, holds⟩

private theorem versionBefore_iff {first second : Nat × Nat} : versionBefore first second = true ↔ toLex first < toLex second := by
  rw [Prod.Lex.toLex_lt_toLex]
  simp [versionBefore]

section Range
variable {config : Config} {least latest got : Nat × Nat} {version : String}

section
variable (leastText : VersionText minSupportedProtocolVersion least)
  (latestText : VersionText config.protocolVersion latest) (text : VersionText version got)
include leastText latestText text

private theorem checkProtocolVersion_of_text : (checkProtocolVersion config version = .newerMinor ↔
        got.1 = latest.1 ∧ toLex least ≤ toLex got ∧ toLex latest < toLex got) ∧
      (checkProtocolVersion config version = .supported ↔
        got.1 = latest.1 ∧ toLex least ≤ toLex got ∧ toLex got ≤ toLex latest) := by
  unfold checkProtocolVersion
  dsimp only
  rw [parseProtocolVersion_eq_some.mpr leastText, parseProtocolVersion_eq_some.mpr latestText,
    parseProtocolVersion_eq_some.mpr text]
  dsimp only
  rw [← not_lt, ← not_lt, ← versionBefore_iff, ← versionBefore_iff]
  split
  next outside =>
    simp only [Bool.or_eq_true, bne_iff_ne] at outside
    simp only [reduceCtorEq, false_iff]
    tauto
  next inside =>
    simp only [Bool.or_eq_true, bne_iff_ne, not_or, not_not] at inside
    split
    next newer => simp [inside, newer]
    next known => simp [inside, known]

private theorem not_rejected_of_text :
    (∀ reason, checkProtocolVersion config version ≠ .rejected reason) ↔ got.1 = latest.1 ∧ toLex least ≤ toLex got := by
  obtain ⟨newer, supported⟩ := checkProtocolVersion_of_text leastText latestText text
  constructor
  · intro accepted
    cases outcome : checkProtocolVersion config version with
    | supported => exact ⟨(supported.mp outcome).1, (supported.mp outcome).2.1⟩
    | newerMinor => exact ⟨(newer.mp outcome).1, (newer.mp outcome).2.1⟩
    | rejected reason => exact absurd outcome (accepted reason)
  · rintro ⟨sameMajor, enough⟩ reason rejected
    rcases lt_or_ge (toLex latest) (toLex got) with above | within
    · cases rejected.symm.trans (newer.mpr ⟨sameMajor, enough, above⟩)
    · cases rejected.symm.trans (supported.mpr ⟨sameMajor, enough, within⟩)

end

private theorem rejected_of_no_text (malformed : ∀ got, ¬VersionText version got) :
    ∃ reason, checkProtocolVersion config version = .rejected reason := by
  have unparsed : parseProtocolVersion version = none := by
    cases parsed : parseProtocolVersion version with
    | none => rfl
    | some got => exact absurd (parseProtocolVersion_eq_some.mp parsed) (malformed got)
  unfold checkProtocolVersion
  dsimp only
  rw [unparsed]
  split <;> exact ⟨_, rfl⟩

end Range

/-- A version is not rejected if it is well-formed, has the kernel's major number and is not older
than the oldest that is supported; it counts as newer if it is above the kernel's own. -/
theorem protocol_version_accepted (config : Config) (least latest : Nat × Nat)
    (leastText : VersionText minSupportedProtocolVersion least) (latestText : VersionText config.protocolVersion latest)
    (ordered : toLex least ≤ toLex latest) (version : String) :
    ((∀ reason, checkProtocolVersion config version ≠ .rejected reason) ↔
      ∃ got, VersionText version got ∧ got.1 = latest.1 ∧ toLex least ≤ toLex got) ∧
    (checkProtocolVersion config version = .newerMinor ↔
      ∃ got, VersionText version got ∧ got.1 = latest.1 ∧ toLex latest < toLex got) := by
  by_cases wellFormed : ∃ got, VersionText version got
  · obtain ⟨got, text⟩ := wellFormed
    rw [text.exists_iff, text.exists_iff]
    refine ⟨not_rejected_of_text leastText latestText text, ?_⟩
    rw [(checkProtocolVersion_of_text leastText latestText text).1]
    constructor
    · rintro ⟨sameMajor, _, above⟩
      exact ⟨sameMajor, above⟩
    · rintro ⟨sameMajor, above⟩
      exact ⟨sameMajor, ordered.trans above.le, above⟩
  · obtain ⟨reason, rejected⟩ := @rejected_of_no_text config version fun got text => wellFormed ⟨got, text⟩
    have malformed : ∀ property : Nat × Nat → Prop, ¬∃ got, VersionText version got ∧ property got := by
      rintro property ⟨got, text, _⟩
      exact wellFormed ⟨got, text⟩
    rw [rejected]
    constructor
    · exact iff_of_false (fun accepted => accepted reason rfl) (malformed _)
    · exact iff_of_false (fun newer => by cases newer) (malformed _)

/-- The kernel of the source, which speaks 1.7: a later minor version with a patch number is
accepted as newer, and versions are numbers, not texts. -/
theorem protocol_version_accepted_current :
    (∀ reason, checkProtocolVersion {} "1.10.2" ≠ .rejected reason) ∧ checkProtocolVersion {} "1.10.2" = .newerMinor := by
  have text : ∀ {version : String} {pair : Nat × Nat}, parseProtocolVersion version = some pair → VersionText version pair :=
    parseProtocolVersion_eq_some.mp
  have accepted := protocol_version_accepted {} (1, 5) (1, 7) (text (by decide +kernel)) (text (by decide +kernel))
    (by decide) "1.10.2"
  exact ⟨accepted.1.mpr ⟨(1, 10), text (by decide +kernel), rfl, by decide⟩,
    accepted.2.mpr ⟨(1, 10), text (by decide +kernel), rfl, by decide⟩⟩

end Vynkor
