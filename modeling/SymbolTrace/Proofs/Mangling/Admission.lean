import SymbolTrace.Proofs.Mangling.Answer
import SymbolTrace.Proofs.Mangling.Grammar

/-!
# What the decoder refuses although the grammar has it

Two things are limited: how many function and tuple types may be open at one place, and how long
a pointer prefix may be. `TypeExpr.Admitted` says that a tree keeps both limits when it is read
inside `depth` open types. It is taken apart here along the constructors of types.
-/

namespace SymbolTrace.Mangling

/-- May one more type be opened inside `depth` open ones? -/
def HasRoom (limit : Option Nat) (depth : Nat) : Prop := ∀ bound ∈ limit, depth < bound

/-- Opening a type takes nothing from the text; it only asks for room. -/
theorem openNested_eq_ok_iff {limit : Option Nat} {depth : Nat} {text next : List Char} :
    openNested limit depth text = .ok ((), next) ↔ text = next ∧ HasRoom limit depth := by
  unfold openNested checkNesting HasRoom
  cases limit with
  | none => simp [Except.map]
  | some bound =>
      by_cases h : depth < bound <;> simp [h, Except.map]

/-- Several types nest as deeply as the deepest of them. -/
theorem nestingAll_fits_iff {types : List TypeExpr} {depth bound : Nat} :
    (∀ type ∈ types, type.nesting = 0 ∨ depth + type.nesting ≤ bound) ↔
      TypeExpr.nestingAll types = 0 ∨ depth + TypeExpr.nestingAll types ≤ bound := by
  induction types with
  | nil => simp [TypeExpr.nestingAll]
  | cons type types ih =>
      rw [List.forall_mem_cons, ih, TypeExpr.nestingAll]
      omega

/-- The counts of a list are those of its members. -/
theorem mem_pointerCountsAll {types : List TypeExpr} {count : Nat} :
    count ∈ TypeExpr.pointerCountsAll types ↔ ∃ type ∈ types, count ∈ type.pointerCounts := by
  induction types with
  | nil => simp [TypeExpr.pointerCountsAll]
  | cons type types ih => simp [TypeExpr.pointerCountsAll, ih]

variable [Allocator]

/-- A tree that fits inside `depth` open types under the nesting limit, and whose pointer
prefixes can be held. -/
structure TypeExpr.Admitted (limit : Option Nat) (depth : Nat) (type : TypeExpr) : Prop where
  nesting : ∀ bound ∈ limit, type.nesting = 0 ∨ depth + type.nesting ≤ bound
  pointers : ∀ count ∈ type.pointerCounts, Allocator.holdsRun count

/-- Can the markers of a pointer prefix be held? -/
def PointersHeld (pointers : Option Nat) : Prop := ∀ count ∈ pointers, Allocator.holdsRun count

/-- A missing prefix always fits. -/
theorem pointersHeld_none : PointersHeld none := fun _ h => nomatch h

/-- Several types are admitted if the deepest of them is and all counts can be held. -/
theorem all_admitted_iff {limit : Option Nat} {depth : Nat} {types : List TypeExpr} :
    (∀ type ∈ types, type.Admitted limit depth) ↔
      (∀ bound ∈ limit,
        TypeExpr.nestingAll types = 0 ∨ depth + TypeExpr.nestingAll types ≤ bound) ∧
      ∀ count ∈ TypeExpr.pointerCountsAll types, Allocator.holdsRun count := by
  constructor
  · intro h
    refine ⟨fun bound hbound => nestingAll_fits_iff.1 fun type htype =>
      (h type htype).nesting bound hbound, ?_⟩
    intro count hcount
    obtain ⟨type, htype, hcount⟩ := mem_pointerCountsAll.1 hcount
    exact (h type htype).pointers count hcount
  · rintro ⟨hnesting, hpointers⟩ type htype
    exact ⟨fun bound hbound => nestingAll_fits_iff.2 (hnesting bound hbound) type htype,
      fun count hcount => hpointers count (mem_pointerCountsAll.2 ⟨type, htype, hcount⟩)⟩

/-- A type that opens nothing is admitted if its pointer prefix can be held. -/
theorem admitted_iff_pointersHeld {limit : Option Nat} {depth : Nat} {pointers : Option Nat}
    {type : TypeExpr} (hnesting : type.nesting = 0)
    (hcounts : type.pointerCounts = pointers.toList) :
    type.Admitted limit depth ↔ PointersHeld pointers := by
  constructor
  · intro h count hcount
    exact h.pointers count (hcounts ▸ Option.mem_toList.2 hcount)
  · intro h
    refine ⟨fun _ _ => .inl hnesting, fun count hcount => h count ?_⟩
    rwa [hcounts, Option.mem_toList] at hcount

/-- A tuple is admitted with its prefix, its place and its fields, which lie one deeper. -/
theorem admitted_tuple_iff {limit : Option Nat} {depth : Nat} {pointers : Option Nat}
    {fields : List TypeExpr} :
    (TypeExpr.tuple pointers fields).Admitted limit depth ↔
      PointersHeld pointers ∧ HasRoom limit depth ∧
        ∀ field ∈ fields, field.Admitted limit (depth + 1) := by
  rw [all_admitted_iff]
  constructor
  · rintro ⟨hnesting, hpointers⟩
    simp only [TypeExpr.nesting, TypeExpr.pointerCounts, List.mem_append, Option.mem_toList]
      at hnesting hpointers
    refine ⟨fun count hcount => hpointers count (.inl hcount), fun bound hbound => ?_,
      fun bound hbound => ?_, fun count hcount => hpointers count (.inr hcount)⟩
    · have := hnesting bound hbound
      omega
    · have := hnesting bound hbound
      omega
  · rintro ⟨hheld, hroom, hnesting, hpointers⟩
    refine ⟨fun bound hbound => ?_, fun count hcount => ?_⟩
    · have := hroom bound hbound
      have := hnesting bound hbound
      rw [TypeExpr.nesting]
      omega
    · rw [TypeExpr.pointerCounts, List.mem_append, Option.mem_toList] at hcount
      exact hcount.elim (hheld count) (hpointers count)

/-- A function type is admitted with its prefix, its place, its parameters and its result. -/
theorem admitted_function_iff {limit : Option Nat} {depth : Nat} {pointers : Option Nat}
    {parameters : List TypeExpr} {result : TypeExpr} :
    (TypeExpr.function pointers parameters result).Admitted limit depth ↔
      PointersHeld pointers ∧ HasRoom limit depth ∧
        (∀ parameter ∈ parameters, parameter.Admitted limit (depth + 1)) ∧
        result.Admitted limit (depth + 1) := by
  rw [all_admitted_iff]
  constructor
  · rintro ⟨hnesting, hpointers⟩
    simp only [TypeExpr.nesting, TypeExpr.pointerCounts, List.mem_append, Option.mem_toList]
      at hnesting hpointers
    refine ⟨fun count hcount => hpointers count (.inl hcount), fun bound hbound => ?_,
      ⟨fun bound hbound => ?_, fun count hcount => hpointers count (.inr (.inl hcount))⟩,
      ⟨fun bound hbound => ?_, fun count hcount => hpointers count (.inr (.inr hcount))⟩⟩
    all_goals
      have := hnesting bound hbound
      omega
  · rintro ⟨hheld, hroom, ⟨hnesting, hpointers⟩, hresult⟩
    refine ⟨fun bound hbound => ?_, fun count hcount => ?_⟩
    · have := hroom bound hbound
      have := hnesting bound hbound
      have := hresult.nesting bound hbound
      rw [TypeExpr.nesting]
      omega
    · rw [TypeExpr.pointerCounts, List.mem_append, List.mem_append, Option.mem_toList] at hcount
      rcases hcount with hcount | hcount | hcount
      · exact hheld count hcount
      · exact hpointers count hcount
      · exact hresult.pointers count hcount

end SymbolTrace.Mangling
