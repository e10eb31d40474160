import Mathlib.Data.List.Nodup
import Mathlib.Logic.Function.Basic

/-! Names that are given out from a supply: each is kept by the one that it was given to until it is
stored, and no name is ever kept or stored twice. -/

namespace Harvest.Lease

/-- Of the first `count` names of a supply some are stored, others are kept by their holders, and no name
occurs twice. -/
structure Supply (name : Nat → String) (count : Nat) (stored : List String) (kept : Nat → List String) :
    Prop where
  unique : stored.Nodup
  uniqueKept : ∀ holder, (kept holder).Nodup
  unstored : ∀ holder, ∀ id ∈ kept holder, id ∉ stored
  apart : ∀ holder other, holder ≠ other → ∀ id ∈ kept holder, id ∉ kept other
  givenStored : ∀ id ∈ stored, ∃ number < count, name number = id
  givenKept : ∀ holder, ∀ id ∈ kept holder, ∃ number < count, name number = id

namespace Supply

variable {name : Nat → String} {count : Nat} {stored : List String} {kept : Nat → List String}

/-- At the start no name is given out. -/
theorem start : Supply name 0 [] fun _ => [] := by
  constructor <;> simp

/-- A holder may lose what it keeps. -/
theorem forget (supply : Supply name count stored kept) (holder : Nat) :
    Supply name count stored (Function.update kept holder []) := by
  -- Whoever keeps a name afterwards is another holder, and kept it before.
  have before : ∀ other, ∀ id ∈ Function.update kept holder [] other, id ∈ kept other := by
    intro other id member
    by_cases itself : other = holder
    · subst itself
      simp at member
    · simpa [itself] using member
  exact {
    unique := supply.unique
    uniqueKept := fun other => by
      by_cases itself : other = holder
      · subst itself
        simp
      · simpa [itself] using supply.uniqueKept other
    unstored := fun other id member => supply.unstored other id (before other id member)
    apart := fun one other differ id member member' =>
      supply.apart one other differ id (before one id member) (before other id member')
    givenStored := supply.givenStored
    givenKept := fun other id member => supply.givenKept other id (before other id member) }

/-- The names that are given out when the count rises. -/
def fresh (name : Nat → String) (count count' : Nat) : List String :=
  (List.range' count (count' - count)).map name

/-- Every name that is given out has a number below the new count and not below the old one. -/
theorem mem_fresh {count' : Nat} {id : String} (grows : count ≤ count') :
    id ∈ fresh name count count' ↔ ∃ number, count ≤ number ∧ number < count' ∧ name number = id := by
  -- The numbers are counted from the old count on.
  simp only [fresh, List.mem_map, List.mem_range'_1]
  constructor
  · rintro ⟨number, ⟨old, new⟩, same⟩
    exact ⟨number, old, by omega, same⟩
  · rintro ⟨number, old, new, same⟩
    exact ⟨number, ⟨old, by omega⟩, same⟩

/-- A holder is given fresh names, and stores the first of those that it then has. -/
theorem give (injective : Function.Injective name) (supply : Supply name count stored kept)
    {count' : Nat} (grows : count ≤ count') {holder : Nat} {added left : List String}
    (named : added ++ left = kept holder ++ fresh name count count') :
    Supply name count' (stored ++ added) (Function.update kept holder left) := by
  -- A name that was given out before has a smaller number than every fresh one.
  have new : ∀ id, (∃ number < count, name number = id) → id ∉ fresh name count count' := by
    rintro id ⟨number, smaller, rfl⟩ member
    obtain ⟨number', larger, -, same⟩ := (mem_fresh grows).mp member
    have := injective same
    omega
  -- What was given out stays given out.
  have later : ∀ id, (∃ number < count, name number = id) → ∃ number < count', name number = id :=
    fun id ⟨number, smaller, same⟩ => ⟨number, by omega, same⟩
  -- What is added and what is left are together what the holder kept before and the fresh names.
  have own : (added ++ left).Nodup := by
    rw [named]
    exact (supply.uniqueKept holder).append (List.Nodup.map injective List.nodup_range')
      fun id member => new id (supply.givenKept holder id member)
  have unstored : ∀ id ∈ added ++ left, id ∉ stored := by
    rw [named]
    intro id member old
    rcases List.mem_append.mp member with held | given
    · exact supply.unstored holder id held old
    · exact new id (supply.givenStored id old) given
  have elsewhere : ∀ other ≠ holder, ∀ id ∈ added ++ left, id ∉ kept other := by
    rw [named]
    intro other differ id member old
    rcases List.mem_append.mp member with held | given
    · exact supply.apart holder other (Ne.symm differ) id held old
    · exact new id (supply.givenKept other id old) given
  have given : ∀ id ∈ added ++ left, ∃ number < count', name number = id := by
    rw [named]
    intro id member
    rcases List.mem_append.mp member with held | given
    · exact later id (supply.givenKept holder id held)
    · obtain ⟨number, -, smaller, same⟩ := (mem_fresh grows).mp given
      exact ⟨number, smaller, same⟩
  -- From here on only the holder itself is told apart from all others.
  obtain ⟨uniqueAdded, uniqueLeft, apart⟩ := List.nodup_append.mp own
  exact {
    unique := List.nodup_append.mpr ⟨supply.unique, uniqueAdded, fun id old id' new same =>
      unstored id' (List.mem_append_left _ new) (same ▸ old)⟩
    -- Each of the parts is shown for the holder itself and for the others, who keep what they had.
    uniqueKept := fun other => by
      by_cases itself : other = holder
      · subst itself
        simpa using uniqueLeft
      · simpa [itself] using supply.uniqueKept other
    unstored := fun other id member stored => by
      by_cases itself : other = holder
      · subst itself
        rw [Function.update_self] at member
        rcases List.mem_append.mp stored with old | new
        · exact unstored id (List.mem_append_right _ member) old
        · exact apart id new id member rfl
      · rw [Function.update_of_ne itself] at member
        rcases List.mem_append.mp stored with old | new
        · exact supply.unstored other id member old
        · exact elsewhere other itself id (List.mem_append_left _ new) member
    apart := fun one other differ id member member' => by
      by_cases itself : one = holder
      · subst itself
        rw [Function.update_self] at member
        rw [Function.update_of_ne (Ne.symm differ)] at member'
        exact elsewhere other (Ne.symm differ) id (List.mem_append_right _ member) member'
      rw [Function.update_of_ne itself] at member
      by_cases itself' : other = holder
      · subst itself'
        rw [Function.update_self] at member'
        exact elsewhere one differ id (List.mem_append_right _ member') member
      · rw [Function.update_of_ne itself'] at member'
        exact supply.apart one other differ id member member'
    givenStored := fun id member => by
      rcases List.mem_append.mp member with old | new
      · exact later id (supply.givenStored id old)
      · exact given id (List.mem_append_left _ new)
    givenKept := fun other id member => by
      by_cases itself : other = holder
      · subst itself
        rw [Function.update_self] at member
        exact given id (List.mem_append_right _ member)
      · rw [Function.update_of_ne itself] at member
        exact later id (supply.givenKept other id member) }

/-- The supply that names every number by as many strokes. -/
def strokes (number : Nat) : String :=
  String.ofList (List.replicate number '|')

/-- Strokes tell numbers apart. -/
theorem strokes_injective : Function.Injective strokes := by
  -- The number is read off from the length of its name.
  intro number other same
  have alike : List.replicate number '|' = List.replicate other '|' := String.ofList_injective same
  simpa using congrArg List.length alike

end Supply

end Harvest.Lease
