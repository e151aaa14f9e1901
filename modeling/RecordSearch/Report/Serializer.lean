import RecordSearch.Report.DisplayFault

/-!
# Serializers

Before a value is written as JSON, a serializer makes a value of it that JSON can hold, or fails. A
run takes whatever serializer is given to it. What is relied on is `Serializer.Lawful`: values of
few levels are dumped, and what is dumped is the value, with null for numbers that are not finite.

The standard serializer takes a value of more than `Serializer.maxLevels` levels for one that holds
itself.
-/

namespace RecordSearch

namespace Json

mutual

/-- Whether every floating-point number in a value is finite. -/
def allFinite : Json → Bool
  | .float x => x.isFinite
  | .list elements => allFiniteElements elements
  | .object members => allFiniteMembers members
  | _ => true

/-- `allFinite` for the elements of a list. -/
def allFiniteElements : List Json → Bool
  | [] => true
  | v :: rest => v.allFinite && allFiniteElements rest

/-- `allFinite` for the members of an object. -/
def allFiniteMembers : List (String × Json) → Bool
  | [] => true
  | (_, v) :: rest => v.allFinite && allFiniteMembers rest

end

mutual

/-- The value with every floating-point number that is not finite replaced by null. -/
def finiteOnly : Json → Json
  | .float x => if x.isFinite then .float x else .null
  | .list elements => .list (finiteElements elements)
  | .object members => .object (finiteMembers members)
  | v => v

/-- `finiteOnly` for the elements of a list. -/
def finiteElements : List Json → List Json
  | [] => []
  | v :: rest => v.finiteOnly :: finiteElements rest

/-- `finiteOnly` for the members of an object. -/
def finiteMembers : List (String × Json) → List (String × Json)
  | [] => []
  | (name, v) :: rest => (name, v.finiteOnly) :: finiteMembers rest

end

theorem allFiniteElements_eq (elements : List Json) :
    allFiniteElements elements = elements.all allFinite := by
  induction elements with
  | nil => rfl
  | cons v rest ih => rw [allFiniteElements, ih, List.all_cons]

mutual

theorem finiteOnly_eq_self : ∀ {v : Json}, v.allFinite = true → v.finiteOnly = v
  | .null, _ => rfl
  | .bool _, _ => rfl
  | .integer _, _ => rfl
  | .float _, h => if_pos h
  | .text _, _ => rfl
  | .list _, h => congrArg Json.list (finiteElements_eq_self h)
  | .object _, h => congrArg Json.object (finiteMembers_eq_self h)

theorem finiteElements_eq_self : ∀ {elements : List Json}, allFiniteElements elements = true →
    finiteElements elements = elements
  | [], _ => rfl
  | v :: rest, h => by
    rw [allFiniteElements, Bool.and_eq_true] at h
    rw [finiteElements, finiteOnly_eq_self h.1, finiteElements_eq_self h.2]

theorem finiteMembers_eq_self : ∀ {members : List (String × Json)},
    allFiniteMembers members = true → finiteMembers members = members
  | [], _ => rfl
  | (name, v) :: rest, h => by
    rw [allFiniteMembers, Bool.and_eq_true] at h
    rw [finiteMembers, finiteOnly_eq_self h.1, finiteMembers_eq_self h.2]

end

mutual

/-- The number of levels of a value: one for the value itself, and those of its deepest part. -/
def levels : Json → Nat
  | .list elements => elementLevels elements + 1
  | .object members => memberLevels members + 1
  | _ => 1

/-- The number of levels of the deepest element of a list. -/
def elementLevels : List Json → Nat
  | [] => 0
  | v :: rest => max v.levels (elementLevels rest)

/-- The number of levels of the deepest member of an object. -/
def memberLevels : List (String × Json) → Nat
  | [] => 0
  | (_, v) :: rest => max v.levels (memberLevels rest)

end

end Json

/-- What makes of a value one that JSON can hold. -/
structure Serializer where
  dump : Json → Except ToolFault Json

namespace Serializer

/-- What is relied on of a serializer: it dumps every value of at most `depth` levels, and what it
dumps is the value, with null in place of each number that is not finite. -/
structure Lawful (z : Serializer) (depth : Nat) : Prop where
  dumps : ∀ v : Json, v.levels ≤ depth → ∃ w, z.dump v = .ok w
  dump_eq : ∀ {v w : Json}, z.dump v = .ok w → w = v.finiteOnly

/-- The greatest number of levels that the standard serializer takes. -/
def maxLevels : Nat := 256

/-- A serializer that takes values of too many levels for such that hold themselves. -/
def standard : Serializer where
  dump v :=
    if maxLevels < v.levels then
      .error { kind := "ValueError", message := "Circular reference detected (depth exceeded)" }
    else .ok v.finiteOnly

theorem standard_lawful : standard.Lawful maxLevels where
  dumps _ h := ⟨_, if_neg (Nat.not_lt.2 h)⟩
  dump_eq h := by
    simp only [standard] at h
    split at h
    · exact absurd h (by simp)
    · exact (Except.ok.inj h).symm

theorem standard_refuses {v : Json} (h : maxLevels < v.levels) :
    ∃ fault, standard.dump v = .error fault := ⟨_, if_pos h⟩

end Serializer

end RecordSearch
