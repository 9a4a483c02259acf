import Mathlib.Data.List.Basic

/-! Words in which every letter that needs something comes after one that gives it. -/

namespace Vynkor.Lib

universe u v
variable {α : Type u} {β : Type v}

/-- Whatever a letter needs has been given before: earlier in the word, or in `seen`. -/
def Preceded (needs : α → Option β) (gives : α → β → Prop) (seen : β → Prop) : List α → Prop
  | [] => True
  | letter :: rest =>
    (∀ needed, needs letter = some needed → seen needed) ∧
      Preceded needs gives (fun thing => seen thing ∨ gives letter thing) rest

namespace Preceded
variable {needs : α → Option β} {gives : α → β → Prop} {seen more : β → Prop} {first last : List α} {letter : α}

theorem mono (word : Preceded needs gives seen first) (wider : ∀ thing, seen thing → more thing) :
    Preceded needs gives more first := by
  induction first generalizing seen more with
  | nil => trivial
  | cons letter rest ih =>
    obtain ⟨now, later⟩ := word
    refine ⟨fun needed asks => wider needed (now needed asks), ih later ?_⟩
    rintro thing (known | given)
    · exact .inl (wider thing known)
    · exact .inr given

theorem append_iff : Preceded needs gives seen (first ++ last) ↔
    Preceded needs gives seen first ∧
      Preceded needs gives (fun thing => seen thing ∨ ∃ letter ∈ first, gives letter thing) last := by
  induction first generalizing seen with
  | nil => simp [Preceded]
  | cons letter rest ih => simp only [List.cons_append, Preceded, ih, and_assoc, List.mem_cons, exists_eq_or_imp, or_assoc]

/-- Letters that need nothing may be added at the end. -/
theorem extend (word : Preceded needs gives seen first) (idle : ∀ letter ∈ last, needs letter = none) :
    Preceded needs gives seen (first ++ last) := by
  refine append_iff.mpr ⟨word, ?_⟩
  clear word
  generalize (fun thing => seen thing ∨ ∃ letter ∈ first, gives letter thing) = known
  induction last generalizing known with
  | nil => trivial
  | cons letter rest ih =>
    refine ⟨fun needed asks => ?_, ih (fun other member => idle other (List.mem_cons_of_mem _ member)) _⟩
    rw [idle letter List.mem_cons_self] at asks
    cases asks

theorem insert (word : Preceded needs gives seen (first ++ last)) (idle : needs letter = none) :
    Preceded needs gives seen (first ++ letter :: last) := by
  obtain ⟨early, late⟩ := append_iff.mp word
  refine append_iff.mpr ⟨early, fun needed asks => ?_, late.mono fun _ => .inl⟩
  rw [idle] at asks
  cases asks

/-- A letter that gives nothing may be taken out. -/
theorem remove (word : Preceded needs gives seen (first ++ letter :: last)) (barren : ∀ thing, ¬gives letter thing) :
    Preceded needs gives seen (first ++ last) := by
  obtain ⟨early, -, late⟩ := append_iff.mp word
  refine append_iff.mpr ⟨early, late.mono ?_⟩
  rintro thing (known | given)
  · exact known
  · exact absurd given (barren thing)

theorem given {needed : β} (word : Preceded needs gives (fun _ => False) (first ++ letter :: last))
    (asks : needs letter = some needed) : ∃ earlier ∈ first, gives earlier needed :=
  ((append_iff.mp word).2.1 needed asks).resolve_left id

end Preceded
end Vynkor.Lib
