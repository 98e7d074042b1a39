import PixelMachine.Location

/-!
# Call stacks

The calls in progress are remembered by the places where they were made, so that each return finds its
way back. Their number is kept with them and known without counting; it says nothing else, so two stacks
with the same places are the same stack (`CallStack.ext`).
-/

set_option autoImplicit false

namespace PixelMachine

/-- Where the calls in progress were made. -/
structure CallStack where
  /-- The places, the latest first. -/
  calls : List Location
  /-- The number of calls. -/
  depth : Nat
  depth_eq : depth = calls.length
  deriving DecidableEq

namespace CallStack

/-- The stack with these places, the latest first. -/
def ofList (calls : List Location) : CallStack := ⟨calls, calls.length, rfl⟩

/-- No calls. -/
def empty : CallStack := ofList []

/-- The stack after one more call. -/
def push (s : CallStack) (caller : Location) : CallStack :=
  ⟨caller :: s.calls, s.depth + 1, by rw [s.depth_eq, List.length_cons]⟩

/-- The place of the latest call, with the stack of the others. -/
def pop? : CallStack → Option (Location × CallStack)
  | ⟨[], _, _⟩ => none
  | ⟨caller :: rest, depth, h⟩ =>
    some (caller, ⟨rest, depth - 1, by rw [h, List.length_cons, Nat.add_sub_cancel]⟩)

/-- Stacks with the same places are equal. -/
@[ext] theorem ext {s t : CallStack} (h : s.calls = t.calls) : s = t := by
  obtain ⟨calls, depth, hs⟩ := s
  obtain ⟨_, _, ht⟩ := t
  subst h hs ht
  rfl

/-- An empty stack has no calls. -/
@[simp] theorem calls_empty : empty.calls = [] := rfl

/-- An empty stack has no depth. -/
@[simp] theorem depth_empty : empty.depth = 0 := rfl

/-- A call is pushed in front of the others. -/
@[simp] theorem calls_push (s : CallStack) (caller : Location) :
    (s.push caller).calls = caller :: s.calls := rfl

/-- A call adds one to the depth. -/
@[simp] theorem depth_push (s : CallStack) (caller : Location) :
    (s.push caller).depth = s.depth + 1 := rfl

/-- The latest call is the one that was pushed last. -/
@[simp] theorem pop?_push (s : CallStack) (caller : Location) :
    (s.push caller).pop? = some (caller, s) := rfl

/-- Only the empty stack has no latest call. -/
theorem pop?_eq_none_iff {s : CallStack} : s.pop? = none ↔ s = empty := by
  obtain ⟨calls, depth, h⟩ := s
  cases calls with
  | nil => subst h; simp [pop?, empty, ofList]
  | cons caller rest => simp [pop?, empty, ofList]

/-- Taking the latest call off undoes a push, and nothing else. -/
theorem pop?_eq_some_iff {s rest : CallStack} {caller : Location} :
    s.pop? = some (caller, rest) ↔ s = rest.push caller := by
  obtain ⟨calls, depth, h⟩ := s
  cases calls with
  | nil =>
    refine ⟨fun hs => by simp [pop?] at hs, fun hs => ?_⟩
    have := congrArg CallStack.calls hs
    simp at this
  | cons first others =>
    constructor
    · intro hs
      simp only [pop?, Option.some.injEq, Prod.mk.injEq] at hs
      obtain ⟨rfl, rfl⟩ := hs
      exact ext rfl
    · intro hs
      rw [hs, pop?_push]

end CallStack

end PixelMachine
